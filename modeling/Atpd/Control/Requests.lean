import Atpd.Control.Callbacks

/-!
# Requests and their replies

What a client of the control socket gets does not depend on how its bytes arrive, or on how the reply
leaves. `requested` says what is asked for by the bytes that were received: it looks at the first line
only, or at their number if there is none. `Talked` holds of every connection, open or closed; `Serves`
ties it to a client in memory. The actions on the table keep both.
-/

namespace Atpd.Control.Clients

open Atpd.Lib
open Relation (ReflTransGen)

variable {g g' : Globals} {c d : Nat} {ns : List Nat} {x x' y : UdsClient} {conn conn' : Conn}
  {cause : Cause} {bytes received stream : List UInt8} {env : Env} {E : Env → Prop} {C : Prop}

/-- No allocation fails. -/
def Env.Allocates (env : Env) : Prop :=
  env.memstream = true ∧ env.alloc = true ∧ env.allocAgain = true

/-- What stands before the first newline. -/
def firstLine (stream : List UInt8) : List UInt8 := stream.takeWhile (· ≠ newline)

/-- What is answered once these bytes were received. -/
def requested (received : List UInt8) : List Request :=
  if newline ∈ received then (parseCommand (firstLine received)).toList
  else if received.length = udsBufferSize - 1 then [.tooLong]
  else []

/-- The reply of a connection. -/
def Conn.reply (conn : Conn) : List UInt8 := conn.handled.flatMap fun p => Clients.reply p.2 p.1

/-- The first line is there for good. -/
lemma firstLine_append (line : newline ∈ received) (rest : List UInt8) :
    firstLine (received ++ rest) = firstLine received := by
  rw [firstLine, List.takeWhile_append, if_neg]
  · rfl
  · intro whole
    have all := List.takeWhile_eq_self_iff.mp ((List.takeWhile_prefix _).eq_of_length whole)
    exact absurd rfl (of_decide_eq_true (all newline line))

/-- A stream asks for one thing at most. -/
lemma length_requested : (requested received).length ≤ 1 := by
  rw [requested]
  split
  · cases parseCommand (firstLine received) <;> simp
  · split <;> simp

/-- The reply to a stop is not empty. -/
lemma reply_stop (alloc : env.alloc = true) : reply env .stop = ascii "Stopping ATPd...\n" := by
  rw [reply, handle, handleStop, clientQueueString, clientQueueResponse, alloc]
  decide

/-- The reply to a command that is too long. -/
lemma reply_tooLong (alloc : env.alloc = true) :
    reply env .tooLong = ascii "ERROR: command too long\n" := by
  rw [reply, handle, clientQueueString, clientQueueResponse, alloc]
  decide

/-! ## Connections -/

/-- What is true of every connection. -/
structure Talked (conn : Conn) : Prop where
  short : conn.received.length ≤ udsBufferSize - 1
  handled : conn.handled.map Prod.fst = requested conn.received
  meets : ∀ p ∈ conn.handled, p.2.Allocates
  sent : conn.sent <+: conn.reply
  ended : conn.closedBy = some .answered ∨ conn.closedBy = some .eof → conn.sent = conn.reply

/-- What is true of a client and its connection. -/
structure Serves (x : UdsClient) (conn : Conn) : Prop where
  received : conn.received = x.input
  opens : conn.closedBy = none
  output : x.output = conn.reply
  sent : conn.sent = x.output.take x.outputOff
  off : x.outputOff ≤ x.output.length
  stop : x.stopAfterWrite = conn.handled.any fun p => decide (p.1 = .stop)
  pending : x.stopAfterWrite = true → x.outputOff < x.output.length

/-- Nothing was said, whatever the connection was closed for. -/
lemma talked_silent (cause : Option Cause) : Talked { Conn.new with closedBy := cause } where
  short := Nat.zero_le _
  handled := rfl
  meets _ mem := absurd mem List.not_mem_nil
  sent := List.prefix_refl _
  ended _ := rfl

/-- A stop was asked for, and its whole reply was sent. -/
def Conn.Stopped (conn : Conn) : Prop :=
  ∃ env, conn.handled = [(.stop, env)] ∧ conn.sent = conn.reply

/-- At most one request is handled. -/
lemma Talked.handled_length (ta : Talked conn) : conn.handled.length ≤ 1 := by
  rw [← List.length_map Prod.fst, ta.handled]
  exact length_requested

/-- A connection whose reply is sent. -/
lemma Talked.stopped_iff (ta : Talked conn) (sent : conn.sent = conn.reply) :
    conn.Stopped ↔ conn.handled.any (fun p => decide (p.1 = .stop)) = true := by
  constructor
  · rintro ⟨env, handled, -⟩
    rw [handled]
    rfl
  · intro stop
    have length := ta.handled_length
    obtain ⟨p, mem, asks⟩ := List.any_eq_true.mp stop
    obtain ⟨q, single⟩ : ∃ q, conn.handled = [q] := by
      apply List.length_eq_one_iff.mp
      exact Nat.le_antisymm length (List.length_pos_of_mem mem)
    rw [single, List.mem_singleton] at mem
    subst mem
    have asks : p.1 = .stop := of_decide_eq_true asks
    exact ⟨p.2, by rw [single, ← asks], sent⟩

namespace Serves

/-- A client from which no line has come has nothing to be sent. -/
lemma reading (se : Serves x conn) (ta : Talked conn)
    (clean : newline ∉ x.input ∧ x.input.length < udsBufferSize - 1) :
    conn.handled = [] ∧ x.output = [] ∧ x.outputOff = 0 ∧ x.stopAfterWrite = false ∧ conn.sent = [] := by
  have none : requested conn.received = [] := by
    rw [se.received, requested, if_neg clean.1, if_neg (Nat.ne_of_lt clean.2)]
  have handled : conn.handled = [] := List.map_eq_nil_iff.mp (ta.handled.trans none)
  have output : x.output = [] := by rw [se.output, Conn.reply, handled, List.flatMap_nil]
  refine ⟨handled, output, ?_, ?_, ?_⟩
  · have off := se.off
    rw [output] at off
    exact Nat.eq_zero_of_le_zero off
  · rw [se.stop, handled, List.any_nil]
  · rw [se.sent, output, List.take_nil]

/-- As long as the client is there, a stop is not answered. -/
lemma not_stopped (se : Serves x conn) : ¬conn.Stopped := by
  rintro ⟨env, handled, whole⟩
  have stop : x.stopAfterWrite = true := by rw [se.stop, handled]; rfl
  have pending := se.pending stop
  have length := congrArg List.length whole
  rw [← se.output, se.sent, List.length_take] at length
  omega

end Serves

/-- What `process_command` does to a client with nothing queued. -/
lemma processCommand_eq (cmd : List UInt8) (empty : x.output = []) : processCommand env x cmd =
    { x with
      output := (parseCommand cmd).toList.flatMap (reply env)
      stopAfterWrite := x.stopAfterWrite || (parseCommand cmd).any fun r => decide (r = .stop) } := by
  rw [processCommand]
  cases parseCommand cmd with
  | none => simp [← empty]
  | some r => simp [handle_eq env x r empty]

/-- A client is to be answered. -/
lemma Serves.answer {rs : List Request} (se : Serves x conn) (ta : Talked conn)
    (clean : newline ∉ x.input ∧ x.input.length < udsBufferSize - 1) (allocates : env.Allocates)
    (short : (x.input ++ bytes).length ≤ udsBufferSize - 1) (asks : rs = requested (x.input ++ bytes))
    (shape : x' = { x with
      state := .writing, input := x.input ++ bytes, lastActivityMs := x'.lastActivityMs
      output := rs.flatMap (reply env), stopAfterWrite := rs.any fun r => decide (r = .stop) })
    (shape' : conn' = { conn with
      received := conn.received ++ bytes, handled := conn.handled ++ rs.map fun r => (r, env) }) :
    Talked conn' ∧ Serves x' conn' := by
  -- nothing was handled or sent while it was reading
  obtain ⟨handled, output, off, stop, sent⟩ := se.reading ta clean
  have received : conn'.received = x.input ++ bytes := by rw [shape', ← se.received]
  have handled' : conn'.handled = rs.map fun r => (r, env) := by rw [shape', handled, List.nil_append]
  have reply' : conn'.reply = rs.flatMap (reply env) := by
    rw [Conn.reply, handled', List.flatMap_map]
  have sent' : conn'.sent = [] := by rw [shape', ← sent]
  have opens' : conn'.closedBy = none := by rw [shape']; exact se.opens
  refine ⟨⟨?_, ?_, fun p mem => ?_, ?_, fun closed => ?_⟩, ⟨?_, opens', ?_, ?_, ?_, ?_, fun stops => ?_⟩⟩
  · rw [received]
    exact short
  · rw [received, handled', List.map_map, ← asks]
    exact List.map_id rs
  · rw [handled'] at mem
    obtain ⟨r, -, rfl⟩ := List.mem_map.mp mem
    exact allocates
  · rw [sent']
    exact List.nil_prefix
  · rw [opens'] at closed
    rcases closed with closed | closed <;> cases closed
  · rw [received, shape]
  · rw [shape, reply']
  · rw [sent', shape]
    simp [off]
  · rw [shape]
    simp [off]
  · rw [shape, handled', List.any_map]
    rfl
  · -- a stop has a reply, so there is something left to send
    rw [shape] at stops ⊢
    obtain ⟨r, mem, rfl⟩ : ∃ r ∈ rs, r = .stop := by simpa using stops
    have length : 0 < (reply env .stop).length := by
      rw [reply_stop allocates.2.1]
      decide
    have whole : 0 < (rs.flatMap (reply env)).length := by
      obtain ⟨b, hb⟩ := List.exists_mem_of_length_pos length
      exact List.length_pos_of_mem (List.mem_flatMap.mpr ⟨_, mem, hb⟩)
    simpa [off] using whole

/-- More of the reply is sent. -/
lemma Serves.sends {n : Nat} {now : UInt64} (se : Serves x conn) (rest : x.outputOff + n < x.output.length)
    (ta : Talked conn) :
    Talked { conn with sent := conn.sent ++ (x.output.drop x.outputOff).take n } ∧
      Serves { x with outputOff := x.outputOff + n, lastActivityMs := now }
        { conn with sent := conn.sent ++ (x.output.drop x.outputOff).take n } := by
  have sent : conn.sent ++ (x.output.drop x.outputOff).take n = x.output.take (x.outputOff + n) := by
    rw [se.sent, List.take_add]
  refine ⟨⟨ta.short, ta.handled, ta.meets, ?_, fun closed => ?_⟩,
    ⟨se.received, se.opens, se.output, sent, Nat.le_of_lt rest, se.stop, fun _ => rest⟩⟩
  · show conn.sent ++ _ <+: conn.reply
    rw [sent, ← se.output]
    exact List.take_prefix _ _
  · rw [show conn.closedBy = none from se.opens] at closed
    rcases closed with closed | closed <;> cases closed

/-- What is read or written keeps what is known of the connection. -/
theorem Serves.talks (se : Serves x conn) (ta : Talked conn)
    (clean : x.state = .reading → newline ∉ x.input ∧ x.input.length < udsBufferSize - 1)
    (talks : Talks Env.Allocates x conn x' conn') : Talked conn' ∧ Serves x' conn' := by
  cases talks with
  | more bytes now reading noLine room =>
    have before := se.reading ta (clean reading)
    have received : conn.received ++ bytes = x.input ++ bytes := by rw [se.received]
    have none : requested (conn.received ++ bytes) = [] := by
      rw [received, requested, if_neg noLine, if_neg (Nat.ne_of_lt room)]
    refine ⟨⟨?_, ?_, ta.meets, ta.sent, ta.ended⟩,
      ⟨received, se.opens, se.output, se.sent, se.off, se.stop, se.pending⟩⟩
    · exact received ▸ Nat.le_of_lt room
    · rw [none, before.1]
      rfl
  | line bytes now env meets reading line room =>
    obtain ⟨-, output, -, stop, -⟩ := se.reading ta (clean reading)
    refine se.answer ta (clean reading) meets room ?_ ?_ rfl
    · rw [requested, if_pos line]
      rfl
    · rw [processCommand_eq (x := { x with input := x.input ++ bytes, lastActivityMs := now }) _ output]
      simp only [stop, Bool.false_or]
      cases parseCommand ((x.input ++ bytes).takeWhile (· ≠ newline)) <;> simp
  | refuse bytes now env meets reading noLine full =>
    obtain ⟨-, output, -, stop, -⟩ := se.reading ta (clean reading)
    have queued := handle_eq env { x with input := x.input ++ bytes, lastActivityMs := now } .tooLong output
    rw [handle] at queued
    refine se.answer ta (clean reading) meets (Nat.le_of_eq full)
      (show [.tooLong] = requested (x.input ++ bytes) from ?_) ?_ rfl
    · rw [requested, if_neg noLine, if_pos full]
    · rw [queued]
      simp [stop]
  | send n now writing rest => exact se.sends rest ta

/-- The connection of a client that was answered. -/
lemma Serves.finish (se : Serves x conn) (ta : Talked conn) (rest : SendsRest x conn x' conn') :
    Talked { conn' with closedBy := some .answered } ∧
      x'.stopAfterWrite = conn'.handled.any (fun p => decide (p.1 = .stop)) ∧
      conn'.sent = conn'.reply := by
  have whole : conn'.sent = conn'.reply ∧ conn'.received = conn.received ∧
      conn'.handled = conn.handled ∧ x'.stopAfterWrite = x.stopAfterWrite := by
    cases rest with
    | nothing written =>
      refine ⟨?_, rfl, rfl, rfl⟩
      rw [se.sent, List.take_of_length_le written, se.output]
    | last n now whole =>
      refine ⟨?_, rfl, rfl, rfl⟩
      show conn.sent ++ _ = conn.reply
      rw [se.sent, ← List.take_add, whole, List.take_length, se.output]
  obtain ⟨sent, received, handled, stop⟩ := whole
  refine ⟨⟨?_, ?_, ?_, ?_, fun _ => sent⟩, ?_, sent⟩
  · exact received ▸ ta.short
  · show conn'.handled.map Prod.fst = requested conn'.received
    rw [handled, received]
    exact ta.handled
  · show ∀ p ∈ conn'.handled, p.2.Allocates
    rw [handled]
    exact ta.meets
  · show conn'.sent <+: conn'.reply
    rw [sent]
  · rw [stop, handled]
    exact se.stop

/-- The connection of a client that was closed for another reason. -/
lemma Serves.close (se : Serves x conn) (ta : Talked conn)
    (clean : x.state = .reading → newline ∉ x.input ∧ x.input.length < udsBufferSize - 1)
    (meets : cause.Meets x) : Talked { conn with closedBy := some cause } := by
  refine ⟨ta.short, ta.handled, ta.meets, ta.sent, fun closed => ?_⟩
  cases cause with
  | answered => exact meets.elim
  | eof =>
    obtain ⟨handled, -, -, -, sent⟩ := se.reading ta (clean meets)
    show conn.sent = conn.reply
    rw [sent, Conn.reply, handled]
    rfl
  | failed | idle | cleanup => rcases closed with closed | closed <;> cases closed

/-! ## The table -/

/-- What is known of all connections. -/
structure Served (g : Globals) : Prop where
  talked : ∀ c, Talked (g.conn c)
  serves : ∀ c x, g.heap c = some x → Serves x (g.conn c)
  unborn : ∀ c, g.made ≤ c → g.conn c = .new
  ended : ∀ c < g.made, g.heap c = none → (g.conn c).closedBy ≠ none
  shutdown : g.shutdownRequested = true ↔ ∃ c, (g.conn c).Stopped

/-- Before the first callback nothing was said. -/
lemma served_start : Served .start where
  talked _ := talked_silent none
  serves := nofun
  unborn _ _ := rfl
  ended _ born := absurd born (Nat.not_lt_zero _)
  shutdown := by
    refine iff_of_false nofun ?_
    rintro ⟨c, env, handled, -⟩
    cases handled

/-- What is known of a client does not depend on its place in the list. -/
lemma Serves.of_content (se : Serves x conn) (same : x.content = y.content) : Serves y conn := by
  obtain ⟨-, input⟩ := UdsClient.input_of_content same
  have output : x.output = y.output := by
    have output := congrArg UdsClient.output same
    exact output
  have off : x.outputOff = y.outputOff := by
    have off := congrArg UdsClient.outputOff same
    exact off
  have stop : x.stopAfterWrite = y.stopAfterWrite := by
    have stop := congrArg UdsClient.stopAfterWrite same
    exact stop
  refine ⟨input ▸ se.received, se.opens, output ▸ se.output, ?_, ?_, stop ▸ se.stop, ?_⟩
  · rw [← output, ← off]
    exact se.sent
  · rw [← output, ← off]
    exact se.off
  · rw [← output, ← off, ← stop]
    exact se.pending

/-- Whether a stop was answered is known of the connections but one from before. -/
lemma exists_stopped_congr (same : ∀ d, d ≠ c → g'.conn d = g.conn d) (before : ¬(g.conn c).Stopped) :
    (∃ d, (g'.conn d).Stopped) ↔ (g'.conn c).Stopped ∨ ∃ d, (g.conn d).Stopped := by
  constructor
  · rintro ⟨d, stopped⟩
    by_cases eq : d = c
    · exact .inl (eq ▸ stopped)
    · exact .inr ⟨d, same d eq ▸ stopped⟩
  · rintro (stopped | ⟨d, stopped⟩)
    · exact ⟨c, stopped⟩
    · refine ⟨d, ?_⟩
      rw [same d fun eq => before (eq ▸ stopped)]
      exact stopped

namespace Served

/-- A client and its connection are written. -/
lemma write (sv : Served g) (tb : Table g ns) (here : g.heap c = some x) (ta : Talked conn)
    (se : Serves x' conn) : Served (g.write c x' conn) := by
  have born : c < g.made := tb.listed.born c (tb.live here)
  have same : ∀ d, d ≠ c → (g.write c x' conn).conn d = g.conn d := fun d ne => Function.update_of_ne ne ..
  refine ⟨fun d => ?_, fun d y hy => ?_, fun d late => ?_, fun d old gone => ?_, ?_⟩
  · by_cases eq : d = c
    · rw [eq, write_conn]
      exact ta
    · rw [same d eq]
      exact sv.talked d
  · by_cases eq : d = c
    · subst eq
      cases write_heap.symm.trans hy
      rw [write_conn]
      exact se
    · rw [same d eq]
      simp only [Globals.write, Function.update_of_ne eq] at hy
      exact sv.serves d y hy
  · rw [same d (Nat.ne_of_gt (Nat.lt_of_lt_of_le born late))]
    exact sv.unborn d late
  · have ne : d ≠ c := by
      rintro rfl
      rw [write_heap] at gone
      cases gone
    rw [same d ne]
    simp only [Globals.write, Function.update_of_ne ne] at gone
    exact sv.ended d old gone
  · rw [exists_stopped_congr same (sv.serves c x here).not_stopped, write_conn,
      or_iff_right se.not_stopped]
    exact sv.shutdown

/-- One client is no longer there, and its connection has ended. -/
lemma leaves (sv : Served g) (gone : g'.heap c = none)
    (same : ∀ d, d ≠ c → (g'.heap d).map UdsClient.content = (g.heap d).map UdsClient.content)
    (born : c < g'.made) (made : ∀ d, d ≠ c → (d < g'.made ↔ d < g.made))
    (conns : g'.conn = Function.update g.conn c conn) (ta : Talked conn) (closed : conn.closedBy ≠ none)
    (before : ¬(g.conn c).Stopped)
    (shutdown : g'.shutdownRequested = true ↔ conn.Stopped ∨ g.shutdownRequested = true) :
    Served g' := by
  have new : g'.conn c = conn := by rw [conns, Function.update_self]
  -- the connections of the other clients stay
  have others : ∀ d, d ≠ c → g'.conn d = g.conn d := by
    intro d ne
    rw [conns, Function.update_of_ne ne]
  refine ⟨fun d => ?_, fun d y hy => ?_, fun d late => ?_, fun d old none => ?_, ?_⟩
  · by_cases eq : d = c
    · rw [eq, new]
      exact ta
    · rw [others d eq]
      exact sv.talked d
  · have ne : d ≠ c := by
      rintro rfl
      rw [gone] at hy
      cases hy
    obtain ⟨z, hz, content⟩ := heap_of_same (same d ne) hy
    rw [others d ne]
    exact (sv.serves d z hz).of_content content
  · have ne : d ≠ c := Nat.ne_of_gt (Nat.lt_of_lt_of_le born late)
    rw [others d ne]
    exact sv.unborn d (Nat.le_of_not_lt fun old => Nat.not_lt_of_le late ((made d ne).mpr old))
  · by_cases eq : d = c
    · rw [eq, new]
      exact closed
    · rw [others d eq]
      refine sv.ended d ((made d eq).mp old) ?_
      -- one that has left before is not there now
      have none' := same d eq
      rw [none] at none'
      exact Option.map_eq_none_iff.mp none'.symm
  · rw [exists_stopped_congr others before, new, shutdown, sv.shutdown]

/-- A client is closed. -/
lemma gone (sv : Served g) (tb : Table g ns) (here : g.heap c = some x) (gone : g'.heap c = none)
    (same : ∀ d, d ≠ c → (g'.heap d).map UdsClient.content = (g.heap d).map UdsClient.content)
    (made : g'.made = g.made) (conns : g'.conn = Function.update g.conn c conn) (ta : Talked conn)
    (closed : conn.closedBy ≠ none)
    (shutdown : g'.shutdownRequested = true ↔ conn.Stopped ∨ g.shutdownRequested = true) :
    Served g' := by
  have born : c < g'.made := made ▸ tb.listed.born c (tb.live here)
  exact sv.leaves gone same born (fun d _ => by rw [made]) conns ta closed
    (sv.serves c x here).not_stopped shutdown

/-- A new client. -/
lemma accept (sv : Served g) (fd : Nat) (now : UInt64) (handlers : Nat → Option Nat) :
    Served { g.push fd now with handlers := handlers } := by
  refine ⟨sv.talked, fun d y hy => ?_, fun d late => sv.unborn d (Nat.le_of_succ_le late),
    fun d old gone => ?_, sv.shutdown⟩
  · dsimp only [Globals.push] at hy ⊢
    by_cases eq : d = g.made
    · subst eq
      rw [Function.update_self] at hy
      cases hy
      rw [sv.unborn _ (Nat.le_refl _)]
      exact ⟨rfl, rfl, rfl, rfl, Nat.le_refl _, rfl, nofun⟩
    · rw [Function.update_of_ne eq] at hy
      exact sv.serves d y hy
  · dsimp only [Globals.push] at gone old ⊢
    by_cases eq : d = g.made
    · rw [eq, Function.update_self] at gone
      cases gone
    · rw [Function.update_of_ne eq] at gone
      exact sv.ended d (Nat.lt_of_le_of_ne (Nat.lt_succ_iff.mp old) eq) gone

/-- A new client that is turned away. -/
lemma turnAway (sv : Served g) (made : g'.made = g.made + 1)
    (gone : g'.heap g.made = none)
    (same : ∀ d, d ≠ g.made → (g'.heap d).map UdsClient.content = (g.heap d).map UdsClient.content)
    (conns : g'.conn = Function.update g.conn g.made { g.conn g.made with closedBy := some .failed })
    (shutdown : g'.shutdownRequested = g.shutdownRequested) : Served g' := by
  have unborn := sv.unborn g.made (Nat.le_refl _)
  have silent : ∀ cause, ¬({ Conn.new with closedBy := cause } : Conn).Stopped := by
    rintro cause ⟨env, handled, -⟩
    cases handled
  have before : ¬(g.conn g.made).Stopped := unborn ▸ silent none
  rw [unborn] at conns
  refine sv.leaves gone same (made ▸ Nat.lt_succ_self _) (fun d ne => ?_) conns (talked_silent _)
    (Option.some_ne_none _) before ?_
  · rw [made]
    omega
  · rw [shutdown]
    exact (or_iff_right (silent _)).symm

/-- Every action keeps what is known of the connections. -/
theorem act (sv : Served g) (tb : Table g ns) (ac : Act Env.Allocates C g g') : Served g' := by
  cases ac with
  | talk c x x' conn here talks =>
    obtain ⟨ta, se⟩ := (sv.serves c x here).talks (sv.talked c) (tb.clean c x here) talks
    exact sv.write tb here ta se
  -- the last piece is sent, and the client is closed as answered
  | finish c x x' conn _ here writing rest closes =>
    obtain ⟨g1, closes', -, closed⟩ := (tb.sendsRest here writing rest).close write_heap .answered
    cases closes.symm.trans closes'
    obtain ⟨ta, stop, sent⟩ := (sv.serves c x here).finish (sv.talked c) rest
    have same : ∀ d, d ≠ c → (g'.heap d).map UdsClient.content = (g.heap d).map UdsClient.content := by
      intro d ne
      rw [closed.same d ne]
      simp only [Globals.write, Function.update_of_ne ne]
    have conns : g'.conn = Function.update g.conn c { conn with closedBy := some .answered } := by
      rw [closed.conn, write_conn]
      exact Function.update_idem ..
    refine sv.gone tb here closed.gone same closed.made conns ta (by simp) ?_
    have stopped := ta.stopped_iff sent
    rw [closed.shutdown, stop, stopped]
    simp [Globals.write, or_comm]
  -- the client is closed for another reason, so no stop was answered
  | close c x cause _ here meets _ closes =>
    obtain ⟨g1, closes', -, closed⟩ := tb.close here cause
    rw [meets.requestStop] at closes'
    cases closes.symm.trans closes'
    have se := sv.serves c x here
    refine sv.gone tb here closed.gone closed.same closed.made closed.conn
      (se.close (sv.talked c) (tb.clean c x here) meets) (by simp) ?_
    have other : decide (cause = .answered) = false := by
      cases cause with
      | answered => exact meets.elim
      | eof | failed | idle | cleanup => rfl
    rw [closed.shutdown, other, Bool.false_and, Bool.or_false]
    exact (or_iff_right se.not_stopped).symm
  | accept fd now room opens listening small => exact sv.accept fd now _
  -- there is no room, and the new client is freed at once
  | turnAway fd now _ opens frees =>
    obtain ⟨g1, frees', -, -, made, gone, same, conns, shutdown⟩ :=
      tb.turnAway opens now fun conn => { conn with closedBy := some .failed }
    cases frees.symm.trans frees'
    exact sv.turnAway made gone same conns shutdown
  | shutDown empty => exact ⟨sv.talked, sv.serves, sv.unborn, sv.ended, sv.shutdown⟩

end Served

/-! ## The end of the daemon -/

/-- No connection was closed by `uds_cleanup`. -/
def Uncleaned (g : Globals) : Prop := ∀ d, (g.conn d).closedBy ≠ some .cleanup

/-- Before the first callback nothing was closed. -/
lemma uncleaned_start : Uncleaned .start := by
  intro d closed
  cases closed

/-- One connection has changed, and not to this end. -/
lemma Uncleaned.update (un : Uncleaned g) (conns : g'.conn = Function.update g.conn c conn)
    (other : conn.closedBy ≠ some .cleanup) : Uncleaned g' := by
  intro d
  rw [conns]
  by_cases eq : d = c
  · rw [eq, Function.update_self]
    exact other
  · rw [Function.update_of_ne eq]
    exact un d

/-- No talk closes the connection. -/
lemma Talks.closedBy (ta : Talks E x conn x' conn') : conn'.closedBy = conn.closedBy := by
  cases ta <;> rfl

/-- As long as the daemon goes on, no action closes a connection for its end. -/
lemma Uncleaned.act (un : Uncleaned g) (tb : Table g ns) (on : ¬C) (ac : Act E C g g') :
    Uncleaned g' := by
  cases ac with
  | talk c x x' conn here talks =>
    refine un.update rfl ?_
    rw [talks.closedBy]
    exact un c
  | finish c x x' conn _ here writing rest closes =>
    obtain ⟨g1, closes', -, closed⟩ := (tb.sendsRest here writing rest).close write_heap .answered
    cases closes.symm.trans closes'
    have conns : g'.conn = Function.update g.conn c { conn with closedBy := some .answered } := by
      rw [closed.conn, write_conn]
      exact Function.update_idem ..
    exact un.update conns (by simp)
  | close c x cause _ here meets ends closes =>
    obtain ⟨g1, closes', -, closed⟩ := tb.close here cause
    rw [meets.requestStop] at closes'
    cases closes.symm.trans closes'
    exact un.update closed.conn fun eq => on (ends (Option.some.inj eq))
  | accept fd now room opens listening small => exact un
  | turnAway fd now _ opens frees =>
    obtain ⟨g1, frees', -, -, -, -, -, conns, -⟩ :=
      tb.turnAway opens now fun conn => { conn with closedBy := some .failed }
    cases frees.symm.trans frees'
    exact un.update conns (by simp)
  | shutDown empty => exact un

/-! ## Runs -/

/-- In every run without a failed allocation the connections are served. -/
lemma served_of_run {ls : List Label} (meets : ∀ l ∈ ls, l.Meets Env.Allocates)
    (reach : run step .start ls = some g) : Served g ∧ ∃ ns, Table g ns := by
  refine run_preserves_along (P := fun _ l => l.Meets Env.Allocates)
    (I := fun g => Served g ∧ ∃ ns, Table g ns) ?_ ⟨served_start, [], table_start⟩
    (Along.of_forall fun _ l mem => meets l mem) reach
  intro g l g' good meets st
  obtain ⟨sv, ns, tb⟩ := good
  obtain ⟨acts, tb'⟩ := tb.step meets st
  exact ⟨tb.acts_preserve (fun sv tb ac => sv.act tb ac) sv acts, tb'⟩

/-- In a run without `uds_cleanup` no connection is closed by it. -/
lemma uncleaned_of_run {ls : List Label} (on : ∀ l ∈ ls, l ≠ .cleanup)
    (reach : run step .start ls = some g) : Uncleaned g := by
  refine (run_preserves_along (P := fun _ l => l ≠ .cleanup)
    (I := fun g => Uncleaned g ∧ ∃ ns, Table g ns) ?_ ⟨uncleaned_start, [], table_start⟩
    (Along.of_forall fun _ l mem => on l mem) reach).1
  intro g l g' good on st
  obtain ⟨un, ns, tb⟩ := good
  obtain ⟨acts, tb'⟩ := tb.step l.meets_true st
  exact ⟨tb.acts_preserve (fun un tb ac => un.act tb on ac) un acts, tb'⟩

/-- In every run without a failed allocation, and for every stream of which a connection has received
some: at most one request is handled. It is the one of the first line, if a newline is among the first
`UDS_BUFFER_SIZE - 1` bytes; if not, the only reply is that the command is too long, once so many bytes
were received. What was sent is a prefix of the reply, and all of it unless the connection has failed,
or was closed as idle or, in a run in which the daemon ends, by `uds_cleanup`. A shutdown is requested
exactly if a stop was handled and its whole reply was sent. -/
theorem request_handling (ls : List Label) (g : Globals) (reach : run step .start ls = some g)
    (allocates : ∀ l ∈ ls, l.Meets Env.Allocates) (c : Nat) (stream : List UInt8)
    (pre : (g.conn c).received <+: stream) :
    (g.conn c).handled.length ≤ 1 ∧
      (newline ∈ stream.take (udsBufferSize - 1) →
        (g.conn c).handled.map Prod.fst =
          if newline ∈ (g.conn c).received then (parseCommand (firstLine stream)).toList else []) ∧
      (newline ∉ stream.take (udsBufferSize - 1) →
        (g.conn c).reply =
            (if (g.conn c).received.length = udsBufferSize - 1 then ascii "ERROR: command too long\n"
              else []) ∧
          ∀ p ∈ (g.conn c).handled, p.1 = .tooLong) ∧
      (g.conn c).sent <+: (g.conn c).reply ∧
      (∀ cause, (g.conn c).closedBy = some cause →
        (g.conn c).sent = (g.conn c).reply ∨ cause = .failed ∨ cause = .idle ∨
          cause = .cleanup ∧ .cleanup ∈ ls) ∧
      (g.shutdownRequested = true ↔ ∃ d env, (g.conn d).handled = [(.stop, env)] ∧
        (g.conn d).sent = (g.conn d).reply) := by
  obtain ⟨sv, -⟩ := served_of_run allocates reach
  have ta := sv.talked c
  obtain ⟨rest, rfl⟩ := pre
  refine ⟨ta.handled_length, fun line => ?_, fun noLine => ?_, ta.sent, fun cause closed => ?_, sv.shutdown⟩
  · rw [ta.handled, requested]
    split
    · rename_i here
      -- the first line is complete, and what comes later does not change it
      rw [firstLine_append here]
    · rename_i none
      rw [if_neg]
      intro full
      -- the buffer is full, so the newline would be in what was received
      refine none ?_
      rw [List.take_append_of_le_length (Nat.le_of_eq full.symm),
        List.take_of_length_le (Nat.le_of_eq full)] at line
      exact line
  · have none : newline ∉ (g.conn c).received := by
      intro mem
      refine noLine ?_
      rw [List.take_append, List.take_of_length_le ta.short]
      exact List.mem_append_left _ mem
    have handled := ta.handled
    rw [requested, if_neg none] at handled
    constructor
    · split
      · rename_i full
        rw [if_pos full] at handled
        obtain ⟨p, single, asks⟩ := List.map_eq_singleton_iff.mp handled
        have alloc := (ta.meets p (by rw [single]; exact List.mem_singleton_self p)).2.1
        rw [Conn.reply, single, List.flatMap_singleton, asks]
        exact reply_tooLong alloc
      · rename_i short
        rw [if_neg short] at handled
        rw [Conn.reply, List.map_eq_nil_iff.mp handled]
        rfl
    · intro p mem
      have asks : p.1 ∈ (g.conn c).handled.map Prod.fst := List.mem_map_of_mem mem
      rw [handled] at asks
      split at asks
      · exact List.mem_singleton.mp asks
      · cases asks
  · cases cause with
    | answered => exact .inl (ta.ended (.inl closed))
    | eof => exact .inl (ta.ended (.inr closed))
    | failed => exact .inr (.inl rfl)
    | idle => exact .inr (.inr (.inl rfl))
    | cleanup =>
      refine .inr (.inr (.inr ⟨rfl, ?_⟩))
      by_contra none
      exact uncleaned_of_run (fun l mem eq => none (eq ▸ mem)) reach c closed

/-- A stop comes in two pieces, with more behind it, and is answered in two pieces. -/
def stopRun : List Label :=
  [.accept true [.conn 5 true true true 0, .failed],
    .client 5 ⟨true, false, false, false⟩ ⟨[.eintr, .got (ascii "st") 1, .eagain], .quiet, true, []⟩,
    .client 5 ⟨true, false, false, false⟩
      ⟨[.got (ascii "op\nping\n") 2], .quiet, true, [.sent 9 3, .eagain true]⟩,
    .client 5 ⟨false, true, false, false⟩ ⟨[], .quiet, true, [.eintr, .sent 8 4]⟩]

/-- The command is handled once, its reply is sent whole, and the shutdown is requested. -/
theorem request_handling_stop : ∃ g, run step .start stopRun = some g ∧
    g.shutdownRequested = true ∧ (g.conn 0).handled.map Prod.fst = [.stop] ∧
    (g.conn 0).sent = (g.conn 0).reply := by
  have seen : (run step .start stopRun).map (fun g =>
      (g.shutdownRequested, (g.conn 0).received, (g.conn 0).closedBy)) =
        some (true, ascii "stop\nping\n", some .answered) := by decide +kernel
  obtain ⟨g, reach, here⟩ := Option.map_eq_some_iff.mp seen
  simp only [Prod.mk.injEq] at here
  obtain ⟨shutdown, received, closed⟩ := here
  have allocates : ∀ l ∈ stopRun, l.Meets Env.Allocates := by
    simp [stopRun, Label.Meets, Env.Allocates, Env.quiet]
  obtain ⟨-, handled, -, -, ended, -⟩ := request_handling stopRun g reach allocates 0
    (ascii "stop\nping\n") (by rw [received])
  refine ⟨g, reach, shutdown, ?_, ?_⟩
  · rw [handled (by decide), received]
    decide
  · rcases ended .answered closed with whole | bad | bad | bad
    · exact whole
    · cases bad
    · cases bad
    · cases bad.1

end Atpd.Control.Clients
