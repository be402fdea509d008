import Atpd.Control.Table

/-!
# The callbacks of the control socket

Each callback is a sequence of actions on the table, or its script is not one: it does not come to a
client that was freed, and its loops end. What the actions keep is so kept by every run.
-/

namespace Atpd.Control.Clients

open Atpd.Lib
open Atpd.Reactor (reactorMaxFd)
open Relation (ReflTransGen)

variable {g g' g1 : Globals} {c d fd n : Nat} {ns l before : List Nat} {x x' : UdsClient}
  {cause : Cause} {now : UInt64} {bytes cmd : List UInt8} {env : Env} {E : Env → Prop} {C : Prop}

/-- A callback that ends like this has done nothing but actions on the table. -/
def Proper (E : Env → Prop) (C : Prop) (g : Globals) : Except Fault Globals → Prop :=
  Ends (· = .script) fun g' => ReflTransGen (Act E C) g g'

/-- What was done before counts as well. -/
lemma Proper.after {r : Except Fault Globals} (pr : Proper E C g1 r)
    (first : ReflTransGen (Act E C) g g1) : Proper E C g r :=
  Ends.mono pr fun _ later => first.trans later

/-- A return behind actions is proper. -/
lemma Proper.ok (acts : ReflTransGen (Act E C) g g') : Proper E C g (.ok g') := acts

/-- A script that ends too early is not a run. -/
lemma Proper.script : Proper E C g (.error .script) := rfl

/-! ## Closing -/

/-- A client is closed that was not answered. -/
lemma Table.proper_udsClientClose (tb : Table g ns) (here : g.heap c = some x)
    (meets : cause.Meets x) (ends : cause = .cleanup → C) :
    Proper E C g (udsClientClose g true c cause) := by
  obtain ⟨g', closes, -⟩ := tb.close here cause
  rw [meets.requestStop] at closes
  rw [closes]
  exact .ok (.single (.close c x cause g' here meets ends closes))

/-- A client can be closed as failed at any time. -/
lemma Table.proper_failed (tb : Table g ns) (here : g.heap c = some x) :
    Proper E C g (udsClientClose g true c .failed) :=
  tb.proper_udsClientClose here trivial (by simp)

/-! ## Writing -/

/-- `send` in one change. -/
lemma send_eq (here : g.heap c = some x) : g.send c n now = .ok (g.write c
    { x with outputOff := x.outputOff + n, lastActivityMs := now }
    { g.conn c with sent := (g.conn c).sent ++ (x.output.drop x.outputOff).take n }) := by
  rw [Globals.send, deref_eq here]
  exact log_modify here _ _

/-- A flush ends well. -/
def ProperFlush (E : Env → Prop) (C : Prop) (g : Globals) : Except Fault (Globals × Int) → Prop :=
  Ends (· = .script) fun p => ReflTransGen (Act E C) g p.1

/-- A flush that gives up closes the client. -/
lemma Table.proper_flushFailed (tb : Table g ns) (here : g.heap c = some x) :
    ProperFlush E C g (flushFailed g c) :=
  tb.proper_failed here |>.bind fun _ acts => acts

/-- The rest of the reply is sent, and the client is closed. -/
lemma Table.proper_flushDone {conn : Conn} (tb : Table g ns) (here : g.heap c = some x)
    (writing : x.state = .writing) (rest : SendsRest x (g.conn c) x' conn) :
    ProperFlush E C g (flushDone (g.write c x' conn) c) := by
  obtain ⟨g', closes, -⟩ := (tb.sendsRest here writing rest).close write_heap .answered
  have ac : Act E C g g' := .finish c x x' conn g' here writing rest closes
  have same : (if x'.stopAfterWrite then
      { g.write c x' conn with stopRequested := true, shutdownRequested := true }
      else g.write c x' conn) = (g.write c x' conn).requestStop .answered x' := by
    simp [Globals.requestStop]
  rw [flushDone, deref_eq write_heap]
  simp only [bind, Except.bind]
  rw [same, closes]
  exact ReflTransGen.single ac

/-- Writing back what was there changes nothing. -/
lemma write_self (here : g.heap c = some x) : g.write c x (g.conn c) = g := by
  have same : Function.update g.heap c (some x) = g.heap := here ▸ Function.update_eq_self c g.heap
  rw [Globals.write, same, Function.update_eq_self]

/-- A client with nothing left to send is answered and closed. -/
lemma Table.proper_written (tb : Table g ns) (here : g.heap c = some x) (writing : x.state = .writing)
    (written : ¬x.outputOff < x.output.length) : ProperFlush E C g (flushDone g c) := by
  have ends := tb.proper_flushDone (E := E) (C := C) here writing (.nothing (Nat.le_of_not_lt written))
  rw [write_self here] at ends
  exact ends

/-- There is nothing more to send. -/
lemma udsClientFlush_written (here : g.heap c = some x) (written : ¬x.outputOff < x.output.length)
    (sends : List Sent) : udsClientFlush c sends g = flushDone g c := by
  cases sends with
  | nil =>
    rw [udsClientFlush, deref_eq here]
    exact if_neg written
  | cons s sends =>
    rw [udsClientFlush, deref_eq here]
    exact if_neg written

/-- `uds_client_flush`, by induction on the results of `send`. -/
theorem Table.proper_flush (tb : Table g ns) (here : g.heap c = some x) (writing : x.state = .writing)
    (sends : List Sent) : ProperFlush E C g (udsClientFlush c sends g) := by
  -- nothing may be left to send at the entry, when a reply is empty
  by_cases written : ¬x.outputOff < x.output.length
  · rw [udsClientFlush_written here written]
    exact tb.proper_written here writing written
  · have pending : x.outputOff < x.output.length := Decidable.not_not.mp written
    induction sends generalizing g x with
    | nil =>
      rw [udsClientFlush, deref_eq here]
      simp only [bind, Except.bind, if_pos pending]
      exact rfl
    | cons s sends ih =>
      rw [udsClientFlush, deref_eq here]
      simp only [bind, Except.bind, if_pos pending]
      cases s with
      | sent n now =>
        dsimp only
        split
        · rename_i fits
          rw [send_eq here]
          dsimp only
          -- a piece goes on with the loop, the last one ends it
          by_cases more : x.outputOff + n < x.output.length
          · have talks : Talks E x (g.conn c) _ _ := .send n now writing more
            have first := ReflTransGen.single (Act.talk (C := C) c x _ _ here talks)
            have later := ih (tb.talk here talks) write_heap writing (not_not.mpr more) more
            exact Ends.mono later fun p acts => first.trans acts
          · have whole : x.outputOff + n = x.output.length := by omega
            rw [udsClientFlush_written write_heap more]
            exact tb.proper_flushDone here writing (.last n now whole)
        · exact rfl
      | eintr => exact ih tb here writing written pending
      -- it waits for EPOLLOUT, or is closed if that is refused
      | eagain modifyOk =>
        dsimp only
        split
        · exact ReflTransGen.refl
        · exact tb.proper_flushFailed here
      | zero => exact tb.proper_flushFailed here
      | failed => exact tb.proper_flushFailed here

/-! ## Reading -/

/-- `read` in one change. -/
lemma receive_eq (here : g.heap c = some x) : g.receive c bytes now = .ok (g.write c
    { x with input := x.input ++ bytes, lastActivityMs := now }
    { g.conn c with received := (g.conn c).received ++ bytes }) :=
  log_modify here _ _

/-- Answering a line in one change. -/
lemma answer_eq (here : g.heap c = some x) : g.answer c env cmd = .ok (g.write c
    { processCommand env x cmd with state := .writing }
    { g.conn c with
      handled := (g.conn c).handled ++ (parseCommand cmd).toList.map fun r => (r, env) }) :=
  log_modify here _ _

/-- Refusing a command that is too long in one change. -/
lemma refuse_eq (here : g.heap c = some x) : g.refuse c env = .ok (g.write c
    { clientQueueString x "ERROR: command too long\n" env.alloc with state := .writing }
    { g.conn c with handled := (g.conn c).handled ++ [(.tooLong, env)] }) :=
  log_modify here _ _

/-- The result of a flush is not looked at. -/
lemma ProperFlush.proper {r : Except Fault (Globals × Int)} (pr : ProperFlush E C g r) :
    Proper E C g (do let (g, _) ← r; .ok g) :=
  Ends.bind pr fun _ ac => ac

/-- The end of `uds_client_cb`, for a client that is to be answered. -/
lemma Table.proper_answered (tb : Table g ns) (here : g.heap c = some x) (writing : x.state = .writing)
    (ok : Bool) (sends : List Sent) :
    Proper E C g (if ok then do let (g, _) ← udsClientFlush c sends g; .ok g
      else udsClientClose g true c .failed) := by
  split
  · exact (tb.proper_flush here writing sends).proper
  · exact tb.proper_failed here

/-- The loop of `uds_client_cb`, by induction on the results of `read`. -/
theorem Table.proper_readLoop (tb : Table g ns) (here : g.heap c = some x) (reading : x.state = .reading)
    (fd : Nat) (script : Script) (meets : E script.env) (reads : List Read) :
    Proper E C g (readLoop c fd script reads g) := by
  induction reads generalizing g x with
  | nil => exact .script
  | cons r reads ih =>
    obtain ⟨noLine, room⟩ := tb.clean c x here reading
    cases r with
    | got bytes now =>
      rw [readLoop, deref_eq here]
      simp only [bind, Except.bind]
      split
      · rename_i fits
        -- `read` is asked for the room that is left
        have size : (x.input ++ bytes).length ≤ udsBufferSize - 1 := by
          rw [List.length_append]
          omega
        rw [receive_eq here]
        dsimp only
        rw [deref_eq write_heap]
        dsimp only
        -- a line ends the loop, and so does a full buffer
        split
        · rename_i line
          have talks : Talks E x (g.conn c) _ _ := .line bytes now script.env meets reading line size
          have first := ReflTransGen.single (Act.talk (C := C) c x _ _ here talks)
          have later := (tb.talk here talks).proper_answered (E := E) (C := C) write_heap rfl
          rw [afterLoop, deref_eq write_heap]
          dsimp only [bind, Except.bind]
          rw [if_pos line, answer_eq write_heap]
          simp only [write_write, write_conn]
          exact (later _ script.sends).after first
        · rename_i none
          split
          · rename_i full
            have talks : Talks E x (g.conn c) _ _ := .refuse bytes now script.env meets reading none full
            have first := ReflTransGen.single (Act.talk (C := C) c x _ _ here talks)
            have tb' := tb.talk here talks
            rw [refuse_eq write_heap]
            simp only [write_write, write_conn]
            split
            · exact .ok first
            · exact (tb'.proper_failed write_heap).after first
          · rename_i short
            have talks : Talks E x (g.conn c) _ _ :=
              .more bytes now reading none (Nat.lt_of_le_of_ne size short)
            have first := ReflTransGen.single (Act.talk (C := C) c x _ _ here talks)
            exact (ih (tb.talk here talks) write_heap reading).after first
      · exact .script
    | eof =>
      rw [readLoop, deref_eq here]
      simp only [bind, Except.bind, if_neg noLine]
      exact tb.proper_udsClientClose here (show Cause.Meets x .eof from reading) (by simp)
    | eintr => exact ih tb here reading
    -- nothing more for now: without a line the client stays as it is
    | eagain =>
      rw [readLoop, afterLoop, deref_eq here]
      simp only [bind, Except.bind, if_neg noLine]
      exact .ok .refl
    | failed => exact tb.proper_failed here

/-- `uds_client_cb` for a client in memory, by its branches. -/
lemma Table.proper_udsClientCb (tb : Table g ns) (here : g.heap c = some x) (fd : Nat) (events : Events)
    (script : Script) (meets : E script.env) : Proper E C g (udsClientCb g fd events c script) := by
  have close : Proper E C g (udsClientClose g true c .failed) := tb.proper_failed here
  rw [udsClientCb, deref_eq here]
  simp only [bind, Except.bind]
  split
  · exact .ok .refl
  · split
    · exact close
    · split
      · rename_i writing
        split
        · exact (tb.proper_flush here writing script.sends).proper
        · split
          · exact close
          · exact .ok .refl
      · rename_i notWriting
        have reading : x.state = .reading := by
          cases state : x.state with
          | reading => rfl
          | writing => exact absurd state notWriting
        split
        · exact .ok .refl
        · exact tb.proper_readLoop here reading fd script meets script.reads

/-! ## The other callbacks -/

/-- One connection is accepted or turned away, and the socket goes on listening. -/
lemma Table.ends_acceptOne (tb : Table g ns) (opens : g.isOpen fd = false)
    (listening : g.listening = true) (uidOk alloc addOk : Bool) (now : UInt64) :
    Ends (· = .script) (fun g' => ReflTransGen (Act E C) g g' ∧ g'.listening = true)
      (acceptOne g fd uidOk alloc addOk now) := by
  rw [acceptOne]
  split
  · exact ⟨.refl, listening⟩
  · rename_i admitted
    split
    · exact ⟨.refl, listening⟩
    · have room : g.activeClients < udsMaxClients := by
        rw [not_or] at admitted
        exact Nat.lt_of_not_le admitted.2
      have none : (g.push fd now).handlers fd = none := tb.handlers_eq_none opens
      dsimp only
      rw [reactorAddFdEx]
      split
      · rename_i adds
        rw [none]
        exact ⟨.single (.accept fd now room opens listening adds.1), listening⟩
      · obtain ⟨g', frees, -, same, -⟩ :=
          tb.turnAway opens now fun conn => { conn with closedBy := some .failed }
        have ac : Act E C g g' := .turnAway fd now g' opens frees
        simp only [bind, Except.bind, Bool.false_eq_true, ↓reduceIte]
        rw [frees]
        exact ⟨.single ac, same.trans listening⟩

/-- `uds_accept_cb`, by induction on the results of `accept4`. -/
theorem Table.proper_udsAcceptCb (tb : Table g ns) (listening : g.listening = true)
    (results : List Accepted) : Proper E C g (udsAcceptCb results g) := by
  induction results generalizing g ns with
  | nil => exact .script
  | cons r results ih =>
    cases r with
    | failed => exact .ok .refl
    | conn fd uidOk alloc addOk now =>
      rw [udsAcceptCb]
      split
      · exact .script
      · rename_i opens
        have opens : g.isOpen fd = false := by simpa using opens
        have one := tb.ends_acceptOne (E := E) (C := C) opens listening uidOk alloc addOk now
        refine one.bind fun g1 done => ?_
        obtain ⟨ns1, tb1⟩ := tb.acts done.1
        exact (ih tb1 done.2).after done.1

/-- `uds_idle_timer_cb` from the client on that is the first of `l`. By induction on `l`: the next client
is read before this one is closed, and is still in the list after that. -/
lemma Table.idleScan_spec {fuel : Nat} (tb : Table g (before ++ l)) (enough : l.length ≤ fuel)
    (now : UInt64) : ∃ g', idleScan now fuel l.head? g = .ok g' ∧ ReflTransGen (Act E C) g g' := by
  induction l generalizing g before fuel with
  | nil => exact ⟨g, by rw [List.head?_nil, idleScan], .refl⟩
  | cons c l ih =>
    obtain ⟨x, here⟩ := (tb.listed.live c).mp (by simp)
    obtain ⟨-, next, points, rest⟩ := tb.listed.chain.suffix
    have points : x.next = l.head? := by
      rw [← rest.ptr_eq]
      simpa [Globals.nexts, here] using points
    obtain ⟨fuel, rfl⟩ : ∃ k, fuel = k + 1 :=
      ⟨fuel - 1, by simp only [List.length_cons] at enough; omega⟩
    have enough : l.length ≤ fuel := by simpa using enough
    rw [List.head?_cons, idleScan, deref_eq here]
    simp only [bind, Except.bind]
    split
    · obtain ⟨g1, closes, tb1, -⟩ := tb.close here .idle
      rw [Cause.Meets.requestStop (show Cause.Meets x .idle from trivial)] at closes
      have ac : Act E C g g1 := .close c x .idle g1 here trivial (by simp) closes
      have first : c ∉ before := by
        have nodup := tb.listed.nodup
        rw [List.nodup_middle, List.nodup_cons] at nodup
        exact fun mem => nodup.1 (List.mem_append_left l mem)
      rw [List.erase_append_right _ first, List.erase_cons_head] at tb1
      rw [closes, points]
      obtain ⟨g', scans, acts⟩ := ih tb1 enough
      exact ⟨g', scans, .head ac acts⟩
    · rw [points]
      rw [List.append_cons] at tb
      exact ih tb enough

/-- `uds_idle_timer_cb` ends, and comes to no client that was freed. -/
lemma Table.udsIdleTimerCb_spec (tb : Table g ns) (now : UInt64) :
    ∃ g', udsIdleTimerCb g now = .ok g' ∧ ReflTransGen (Act E C) g g' := by
  have whole : Table g ([] ++ ns) := tb
  rw [udsIdleTimerCb, tb.listed.chain.ptr_eq]
  exact whole.idleScan_spec tb.listed.length_le now

/-- The loop of `uds_cleanup`, by induction on the clients that are left. -/
lemma Table.closeAll_spec {fuel : Nat} (tb : Table g ns) (ends : C) (enough : ns.length ≤ fuel) :
    ∃ g', closeAll fuel g = .ok g' ∧ ReflTransGen (Act E C) g g' ∧ g'.clients = none := by
  induction ns generalizing g fuel with
  | nil =>
    have empty : g.clients = none := tb.listed.chain
    exact ⟨g, by rw [closeAll.eq_def, empty], .refl, empty⟩
  | cons c l ih =>
    obtain ⟨x, here⟩ := (tb.listed.live c).mp List.mem_cons_self
    have head : g.clients = some c := tb.listed.chain.1
    have reactor : g.reactor = true := tb.reactor (.inl nofun)
    obtain ⟨fuel, rfl⟩ : ∃ k, fuel = k + 1 :=
      ⟨fuel - 1, by simp only [List.length_cons] at enough; omega⟩
    obtain ⟨g1, closes, tb1, -⟩ := tb.close here .cleanup
    rw [Cause.Meets.requestStop (show Cause.Meets x .cleanup from trivial)] at closes
    have ac : Act E C g g1 := .close c x .cleanup g1 here trivial (fun _ => ends) closes
    rw [List.erase_cons_head] at tb1
    obtain ⟨g', rest, acts, empty⟩ := ih tb1 (by simpa using enough)
    refine ⟨g', ?_, .head ac acts, empty⟩
    rw [closeAll.eq_def, head]
    simp only [bind, Except.bind, reactor]
    rw [closes]
    exact rest

/-- `uds_cleanup` ends with the list empty. -/
lemma Table.udsCleanup_spec (tb : Table g ns) (ends : C) :
    ∃ g', udsCleanup g = .ok g' ∧ ReflTransGen (Act E C) g g' ∧ g'.clients = none := by
  obtain ⟨g1, closes, acts, empty⟩ := tb.closeAll_spec ends tb.listed.length_le
  refine ⟨{ g1 with listening := false, reactor := false, stopRequested := false }, ?_,
    acts.tail (.shutDown empty), empty⟩
  rw [udsCleanup, closes]
  rfl

/-! ## Runs -/

/-- What the handlers of a call get from elsewhere meets `E`. -/
def Label.Meets (E : Env → Prop) : Label → Prop
  | .client _ _ script => E script.env
  | .accept _ _ | .idle _ | .cleanup => True

/-- Every call is a sequence of actions on the table; only `uds_cleanup` ends the daemon. -/
theorem Table.proper_exec {l : Label} (tb : Table g ns) (meets : l.Meets E) :
    Proper E (l = .cleanup) g (exec g l) := by
  cases l with
  | accept readable results =>
    rw [exec]
    split
    · rename_i listening
      split
      · exact tb.proper_udsAcceptCb listening results
      · exact .ok .refl
    · exact .script
  | client fd events script =>
    rw [exec]
    split
    · rename_i c handler
      obtain ⟨x, here, -⟩ := tb.carried fd c handler
      exact tb.proper_udsClientCb here fd events script meets
    · exact .script
  | idle now =>
    obtain ⟨g', done, acts⟩ := tb.udsIdleTimerCb_spec now
    rw [exec, done]
    exact .ok acts
  | cleanup =>
    obtain ⟨g', done, acts, -⟩ := tb.udsCleanup_spec (C := Label.cleanup = .cleanup) rfl
    rw [exec, done]
    exact .ok acts

/-- A step is a call that returns. -/
lemma exec_of_step {l : Label} (st : step g l = some g') : exec g l = .ok g' := by
  rw [step] at st
  cases done : exec g l with
  | ok g1 =>
    rw [done] at st
    cases st
    rfl
  | error e =>
    rw [done] at st
    cases st

/-- A step is a sequence of actions, and keeps the table. -/
lemma Table.step {l : Label} (tb : Table g ns) (meets : l.Meets E) (st : step g l = some g') :
    ReflTransGen (Act E (l = .cleanup)) g g' ∧ ∃ ns', Table g' ns' := by
  have acts : ReflTransGen (Act E (l = .cleanup)) g g' := (tb.proper_exec meets).of_ok (exec_of_step st)
  exact ⟨acts, tb.acts acts⟩

/-- Anything may come from elsewhere. -/
lemma Label.meets_true (l : Label) : l.Meets fun _ => True := by
  cases l <;> trivial

/-- The table agrees in every run. -/
lemma table_of_run {ls : List Label} (reach : run step .start ls = some g) : ∃ ns, Table g ns := by
  refine run_preserves (I := fun g => ∃ ns, Table g ns) ?_ ⟨[], table_start⟩ reach
  intro g l g' good st
  obtain ⟨ns, tb⟩ := good
  exact (tb.step l.meets_true st).2

/-- In every run the list, its counter and the handlers of the reactor agree; a client that is no more in
the list was closed and freed once, and no callback comes to it again; and `uds_cleanup` ends with the
list empty. -/
theorem client_table (ls : List Label) (g : Globals) (reach : run step .start ls = some g) :
    ∃ ns, Chain g.nexts g.clients ns ∧ ns.Nodup ∧ g.activeClients = ns.length ∧
      g.activeClients ≤ udsMaxClients ∧
      (∀ c ∈ ns, ∃! fd, g.handlers fd = some c) ∧ (∀ fd c, g.handlers fd = some c → c ∈ ns) ∧
      (∀ c < g.made, c ∈ ns ∧ g.closed.count c = 0 ∧ g.freed.count c = 0 ∨
        c ∉ ns ∧ g.closed.count c = 1 ∧ g.freed.count c = 1) ∧
      (∀ l, exec g l ≠ .error .freed ∧ exec g l ≠ .error .endless) ∧
      ∃ g', exec g .cleanup = .ok g' ∧ g'.clients = none ∧ g'.activeClients = 0 := by
  obtain ⟨ns, tb⟩ := table_of_run reach
  refine ⟨ns, tb.listed.chain, tb.listed.nodup, tb.listed.active, ?_, fun c mem => ?_,
    fun fd c handler => ?_, fun c born => ?_, fun l => ?_, ?_⟩
  · rw [tb.listed.active]
    exact tb.most
  · obtain ⟨x, here⟩ := (tb.listed.live c).mp mem
    refine ⟨x.fd, (tb.registered c x here).1, fun fd handler => ?_⟩
    obtain ⟨y, hy, eq⟩ := tb.carried fd c handler
    cases hy.symm.trans here
    exact eq.symm
  · obtain ⟨x, here, -⟩ := tb.carried fd c handler
    exact tb.live here
  · by_cases mem : c ∈ ns
    · exact .inl ⟨mem, tb.fresh c (.inl mem)⟩
    · exact .inr ⟨mem, tb.ended c born mem⟩
  · have proper := tb.proper_exec l.meets_true
    constructor
    · intro bad
      cases proper.of_error bad
    · intro bad
      cases proper.of_error bad
  · obtain ⟨g', done, acts, empty⟩ := tb.udsCleanup_spec (E := fun _ => True) trivial
    obtain ⟨ns', tb'⟩ := tb.acts acts
    obtain rfl : ns' = [] := (empty ▸ tb'.listed.chain).eq_nil
    exact ⟨g', done, empty, tb'.listed.active⟩

/-- Nothing to report, and no allocation fails. -/
def Env.quiet : Env := ⟨true, true, true, fun _ => [], [], 0, [], [], none, 0⟩

/-- Three clients come, of which the last cannot be registered. The first asks for a sign of life in two
pieces, is answered in two pieces, and is closed. -/
def pingRun : List Label :=
  [.accept true [.conn 5 true true true 0, .conn 6 true true true 0, .conn 7 true true false 0, .failed],
    .client 5 ⟨true, false, false, false⟩ ⟨[.got (ascii "pi") 1, .eintr, .eagain], .quiet, true, []⟩,
    .client 5 ⟨true, false, false, false⟩ ⟨[.got (ascii "ng\n") 2], .quiet, true, [.sent 3 3, .eagain true]⟩,
    .client 5 ⟨false, true, false, false⟩ ⟨[], .quiet, true, [.eintr, .sent 2 4]⟩]

/-- There one client is left, and a cleanup closes it. -/
theorem client_table_ping : ∃ g, run step .start pingRun = some g ∧
    g.clients = some 1 ∧ g.activeClients = 1 ∧ g.handlers 6 = some 1 ∧ g.freed = [0, 2] ∧
    ∃ g', exec g .cleanup = .ok g' ∧ g'.clients = none ∧ g'.activeClients = 0 := by
  have seen : (run step .start pingRun).map (fun g =>
      (g.clients, g.activeClients, g.handlers 6, g.freed)) =
        some (some 1, 1, some 1, [0, 2]) := by decide +kernel
  obtain ⟨g, reach, here⟩ := Option.map_eq_some_iff.mp seen
  simp only [Prod.mk.injEq] at here
  obtain ⟨clients, active, handler, freed⟩ := here
  obtain ⟨ns, -, -, -, -, -, -, -, -, cleanup⟩ := client_table pingRun g reach
  exact ⟨g, reach, clients, active, handler, freed, cleanup⟩

end Atpd.Control.Clients
