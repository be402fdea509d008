import Mathlib.Logic.Relation
import Atpd.Lib.Outcome
import Atpd.Lib.Run
import Atpd.Control.Clients

/-!
# The client table

What a callback does to the table of clients is a sequence of actions, `Act`: something is read from a
client or written to it, a client is closed, or a new one comes. `Table` holds between the actions, and
says that the list, its counter and the handlers of the reactor agree. From it follows that no callback
comes to a client that was freed, and that every loop over the list ends.
-/

namespace Atpd.Control.Clients

open Atpd.Lib
open Atpd.Reactor (reactorMaxFd)
open Relation (ReflTransGen)

variable {g g' g1 : Globals} {c d fd n : Nat} {ns l before : List Nat} {x x' y : UdsClient}
  {conn : Conn} {cause : Cause} {E : Env → Prop} {C : Prop}

/-! ## Memory -/

/-- Everything of a client but its place in the list. -/
def UdsClient.content (x : UdsClient) : UdsClient := { x with next := none }

/-- The descriptor is part of the content. -/
lemma UdsClient.fd_of_content (same : x.content = y.content) : x.fd = y.fd := by
  have fd := congrArg UdsClient.fd same
  exact fd

/-- So are the state and the input. -/
lemma UdsClient.input_of_content (same : x.content = y.content) :
    x.state = y.state ∧ x.input = y.input := by
  have state := congrArg UdsClient.state same
  have input := congrArg UdsClient.input same
  exact ⟨state, input⟩

/-- A client and its connection are written. -/
def Globals.write (g : Globals) (c : Nat) (x : UdsClient) (conn : Conn) : Globals :=
  { g with heap := Function.update g.heap c (some x), conn := Function.update g.conn c conn }

/-- A client in memory can be read. -/
lemma deref_eq (here : g.heap c = some x) : g.deref c = .ok x := by
  rw [Globals.deref, here]

/-- Changing a client in memory leaves its connection as it is. -/
lemma modify_eq (here : g.heap c = some x) (f : UdsClient → UdsClient) :
    g.modify c f = .ok (g.write c (f x) (g.conn c)) := by
  rw [Globals.modify, deref_eq here]
  simp only [Globals.write, Function.update_eq_self]
  rfl

/-- What is noted of a connection and what is written to its client make one change. -/
lemma log_modify (here : g.heap c = some x) (k : Conn → Conn) (f : UdsClient → UdsClient) :
    (g.log c k).modify c f = .ok (g.write c (f x) (k (g.conn c))) := by
  rw [modify_eq (show (g.log c k).heap c = some x from here)]
  simp [Globals.write, Globals.log]

/-- What was written is read back. -/
@[simp] lemma write_heap : (g.write c x conn).heap c = some x := Function.update_self ..

@[simp] lemma write_conn : (g.write c x conn).conn c = conn := Function.update_self ..

@[simp] lemma write_write {conn' : Conn} : (g.write c x conn).write c x' conn' = g.write c x' conn' := by
  simp [Globals.write]

/-! ## The list -/

/-- The pointers hold the list of the clients that are not freed. -/
structure Listed (g : Globals) (ns : List Nat) : Prop where
  chain : Chain g.nexts g.clients ns
  nodup : ns.Nodup
  active : g.activeClients = ns.length
  live : ∀ c, c ∈ ns ↔ ∃ x, g.heap c = some x
  born : ∀ c ∈ ns, c < g.made

namespace Listed

/-- The list is no longer than the number of clients that were ever made. -/
lemma length_le (li : Listed g ns) : ns.length ≤ g.made := by
  have sub : ns ⊆ List.range g.made := fun c mem => List.mem_range.mpr (li.born c mem)
  simpa using (li.nodup.subperm sub).length_le

end Listed

/-- `uds_client_free` has freed a client. -/
structure Freed (g : Globals) (c : Nat) (x : UdsClient) (g' : Globals) : Prop where
  gone : g'.heap c = none
  same : ∀ d, d ≠ c → (g'.heap d).map UdsClient.content = (g.heap d).map UdsClient.content
  made : g'.made = g.made
  handlers : g'.handlers = g.handlers
  isOpen : g'.isOpen = Function.update g.isOpen x.fd false
  closed : g'.closed = c :: g.closed
  freed : g'.freed = c :: g.freed
  reactor : g'.reactor = g.reactor
  listening : g'.listening = g.listening
  conn : g'.conn = g.conn
  shutdown : g'.shutdownRequested = g.shutdownRequested

/-- The end of `uds_client_free`. -/
def Globals.drop (g : Globals) (c : Nat) (x : UdsClient) : Globals :=
  { g with
    isOpen := Function.update g.isOpen x.fd false
    closed := c :: g.closed
    heap := Function.update g.heap c none
    freed := c :: g.freed }

/-- If the links lead past a client and the others are unchanged, it can be freed. -/
lemma Listed.drop (li : Listed g ns) (mem : c ∈ ns) (chain : Chain g1.nexts g1.clients (ns.erase c))
    (active : g1.activeClients = g.activeClients - 1) (made : g1.made = g.made)
    (same : ∀ d, (g1.heap d).map UdsClient.content = (g.heap d).map UdsClient.content) :
    Listed (g1.drop c x) (ns.erase c) where
  chain := by
    refine chain.congr fun d mem' => ?_
    have ne : d ≠ c := fun eq => li.nodup.not_mem_erase (eq ▸ mem')
    simp only [Globals.nexts, Globals.drop, Function.update_of_ne ne]
  nodup := li.nodup.erase c
  active := by
    rw [List.length_erase_of_mem mem, ← li.active]
    exact active
  live d := by
    rw [li.nodup.mem_erase_iff, li.live d]
    by_cases eq : d = c
    · subst eq
      simp [Globals.drop]
    · have same := same d
      simp only [Globals.drop, Function.update_of_ne eq]
      cases h1 : g1.heap d <;> cases h : g.heap d <;> simp_all
  born d mem' := by
    show d < g1.made
    rw [made]
    exact li.born d (List.mem_of_mem_erase mem')

/-- If the search ends at the client, `uds_client_free` takes it out and frees it. -/
lemma udsClientFree_eq {slot : Slot Nat}
    (found : seek g.nexts c (g.made + 1) .head g.clients = .found slot (some c))
    (out : g.unlink slot c = .ok g1) (here : g1.heap c = some x) :
    udsClientFree g c = .ok (g1.drop c x) := by
  simp only [udsClientFree, found, ↓reduceIte, out]
  simp only [bind, Except.bind, deref_eq here]
  rfl

/-- The first client is taken out through `g_uds_clients`. -/
lemma unlink_head (here : g.heap c = some x) : g.unlink .head c =
    .ok { g with clients := x.next, activeClients := g.activeClients - 1 } := by
  rw [Globals.unlink, deref_eq here]
  rfl

/-- Another client is taken out through the one in front of it. -/
lemma unlink_next (here : g.heap c = some x) (hy : g.heap d = some y) : g.unlink (.next d) c =
    .ok { g.write d { y with next := x.next } (g.conn d) with
      activeClients := g.activeClients - 1 } := by
  rw [Globals.unlink, deref_eq here]
  simp only [bind, Except.bind, modify_eq hy]
  rfl

/-- `uds_client_free` finds every client that is in memory, takes it out of the list and frees it. -/
lemma udsClientFree_spec (li : Listed g ns) (here : g.heap c = some x) :
    ∃ g', udsClientFree g c = .ok g' ∧ Listed g' (ns.erase c) ∧ Freed g c x g' := by
  have mem : c ∈ ns := (li.live c).mpr ⟨x, here⟩
  have enough : ns.length ≤ g.made + 1 := Nat.le_succ_of_le li.length_le
  -- the walk finds the pointer to the client, in the head or in a node
  obtain ⟨next, there, out⟩ := li.chain.seek li.nodup mem enough .head
  obtain rfl : x.next = next := by simpa [Globals.nexts, here] using there
  rcases out with ⟨first, found, chain⟩ | ⟨p, pmem, pne, found, chain⟩
  · -- the client is the first of the list
    let g1 : Globals := { g with clients := x.next, activeClients := g.activeClients - 1 }
    have free : udsClientFree g c = .ok (g1.drop c x) :=
      udsClientFree_eq found (unlink_head here) here
    refine ⟨g1.drop c x, free, li.drop mem chain rfl rfl fun d => rfl, ?_⟩
    refine ⟨Function.update_self .., fun d ne => ?_, rfl, rfl, rfl, rfl, rfl, rfl, rfl, rfl, rfl⟩
    simp [Globals.drop, g1, Function.update_of_ne ne]
  · -- another one points to it
    obtain ⟨y, hy⟩ := (li.live p).mp pmem
    let g1 : Globals :=
      { g.write p { y with next := x.next } (g.conn p) with activeClients := g.activeClients - 1 }
    have here1 : g1.heap c = some x := by
      simp [g1, Globals.write, Function.update_of_ne (Ne.symm pne), here]
    have same : ∀ d, (g1.heap d).map UdsClient.content = (g.heap d).map UdsClient.content := by
      intro d
      by_cases eq : d = p
      · subst eq
        simp [g1, hy, UdsClient.content]
      · simp [g1, Globals.write, Function.update_of_ne eq]
    have nexts : g1.nexts = Function.update g.nexts p (some x.next) := by
      funext d
      by_cases eq : d = p
      · subst eq
        simp [Globals.nexts, g1]
      · simp [Globals.nexts, g1, Globals.write, Function.update_of_ne eq]
    have free : udsClientFree g c = .ok (g1.drop c x) :=
      udsClientFree_eq found (unlink_next here hy) here1
    refine ⟨g1.drop c x, free, li.drop mem (nexts ▸ chain) rfl rfl same, ?_⟩
    refine ⟨Function.update_self .., fun d ne => ?_, rfl, rfl, rfl, rfl, rfl, rfl, rfl, ?_, rfl⟩
    · rw [← same d]
      simp [Globals.drop, Function.update_of_ne ne]
    · simp [Globals.drop, g1, Globals.write]

/-! ## Actions -/

/-- Something is read from a client, or written to it; what its handler gets from elsewhere meets `E`. -/
inductive Talks (E : Env → Prop) (x : UdsClient) (conn : Conn) : UdsClient → Conn → Prop where
  /-- There is no line yet, and room for more. -/
  | more (bytes : List UInt8) (now : UInt64) (reading : x.state = .reading)
      (noLine : newline ∉ x.input ++ bytes) (room : (x.input ++ bytes).length < udsBufferSize - 1) :
      Talks E x conn { x with input := x.input ++ bytes, lastActivityMs := now }
        { conn with received := conn.received ++ bytes }
  /-- A line is there, and is handled. -/
  | line (bytes : List UInt8) (now : UInt64) (env : Env) (meets : E env) (reading : x.state = .reading)
      (line : newline ∈ x.input ++ bytes) (room : (x.input ++ bytes).length ≤ udsBufferSize - 1) :
      Talks E x conn
        { processCommand env { x with input := x.input ++ bytes, lastActivityMs := now }
            ((x.input ++ bytes).takeWhile (· ≠ newline)) with state := .writing }
        { conn with
          received := conn.received ++ bytes
          handled := conn.handled ++
            (parseCommand ((x.input ++ bytes).takeWhile (· ≠ newline))).toList.map fun r => (r, env) }
  /-- The buffer is full, and there is no line. -/
  | refuse (bytes : List UInt8) (now : UInt64) (env : Env) (meets : E env) (reading : x.state = .reading)
      (noLine : newline ∉ x.input ++ bytes) (full : (x.input ++ bytes).length = udsBufferSize - 1) :
      Talks E x conn
        { clientQueueString { x with input := x.input ++ bytes, lastActivityMs := now }
            "ERROR: command too long\n" env.alloc with state := .writing }
        { conn with
          received := conn.received ++ bytes
          handled := conn.handled ++ [(.tooLong, env)] }
  /-- Some of the reply is sent, and not all of it. -/
  | send (n : Nat) (now : UInt64) (writing : x.state = .writing)
      (rest : x.outputOff + n < x.output.length) :
      Talks E x conn { x with outputOff := x.outputOff + n, lastActivityMs := now }
        { conn with sent := conn.sent ++ (x.output.drop x.outputOff).take n }

/-- The rest of the reply is sent. -/
inductive SendsRest (x : UdsClient) (conn : Conn) : UdsClient → Conn → Prop where
  | nothing (written : x.output.length ≤ x.outputOff) : SendsRest x conn x conn
  | last (n : Nat) (now : UInt64) (whole : x.outputOff + n = x.output.length) :
      SendsRest x conn { x with outputOff := x.outputOff + n, lastActivityMs := now }
        { conn with sent := conn.sent ++ (x.output.drop x.outputOff).take n }

/-- When a client is closed that was not answered. -/
def Cause.Meets (x : UdsClient) : Cause → Prop
  | .answered => False
  | .eof => x.state = .reading
  | .failed | .idle | .cleanup => True

/-- A stop is requested, if the client has asked for one and has its answer. -/
def Globals.requestStop (g : Globals) (cause : Cause) (x : UdsClient) : Globals :=
  if cause = .answered ∧ x.stopAfterWrite then
    { g with stopRequested := true, shutdownRequested := true }
  else g

/-- One thing that a callback does to the table; where `C` is false, the daemon goes on. -/
inductive Act (E : Env → Prop) (C : Prop) (g : Globals) : Globals → Prop where
  | talk (c : Nat) (x x' : UdsClient) (conn : Conn) (here : g.heap c = some x)
      (talks : Talks E x (g.conn c) x' conn) : Act E C g (g.write c x' conn)
  | finish (c : Nat) (x x' : UdsClient) (conn : Conn) (g' : Globals) (here : g.heap c = some x)
      (writing : x.state = .writing) (rest : SendsRest x (g.conn c) x' conn)
      (closes : udsClientClose ((g.write c x' conn).requestStop .answered x') true c .answered = .ok g') :
      Act E C g g'
  | close (c : Nat) (x : UdsClient) (cause : Cause) (g' : Globals) (here : g.heap c = some x)
      (meets : cause.Meets x) (ends : cause = .cleanup → C)
      (closes : udsClientClose g true c cause = .ok g') : Act E C g g'
  | accept (fd : Nat) (now : UInt64) (room : g.activeClients < udsMaxClients)
      (opens : g.isOpen fd = false) (listening : g.listening = true) (small : fd < reactorMaxFd) :
      Act E C g { g.push fd now with handlers := Function.update g.handlers fd (some g.made) }
  /-- The new client could not be registered. -/
  | turnAway (fd : Nat) (now : UInt64) (g' : Globals) (opens : g.isOpen fd = false)
      (frees : udsClientFree ((g.push fd now).log g.made fun conn =>
        { conn with closedBy := some .failed }) g.made = .ok g') : Act E C g g'
  | shutDown (empty : g.clients = none) :
      Act E C g { g with listening := false, reactor := false, stopRequested := false }

/-! ## The table -/

/-- The list, the counter and the handlers agree. -/
structure Table (g : Globals) (ns : List Nat) : Prop where
  listed : Listed g ns
  most : ns.length ≤ udsMaxClients
  registered : ∀ c x, g.heap c = some x → g.handlers x.fd = some c ∧ x.fd < reactorMaxFd
  carried : ∀ fd c, g.handlers fd = some c → ∃ x, g.heap c = some x ∧ x.fd = fd
  opened : ∀ c x, g.heap c = some x → g.isOpen x.fd = true
  ended : ∀ c < g.made, c ∉ ns → g.closed.count c = 1 ∧ g.freed.count c = 1
  fresh : ∀ c, c ∈ ns ∨ g.made ≤ c → g.closed.count c = 0 ∧ g.freed.count c = 0
  reactor : ns ≠ [] ∨ g.listening = true → g.reactor = true
  clean : ∀ c x, g.heap c = some x → x.state = .reading →
    newline ∉ x.input ∧ x.input.length < udsBufferSize - 1

/-- Before the first callback the table is empty. -/
lemma table_start : Table .start [] where
  listed := ⟨rfl, .nil, rfl, by simp [Globals.start], nofun⟩
  most := Nat.zero_le _
  registered := nofun
  carried := nofun
  opened := nofun
  ended _ born := absurd born (Nat.not_lt_zero _)
  fresh _ _ := ⟨rfl, rfl⟩
  reactor _ := rfl
  clean := nofun

/-- What a talk leaves alone. -/
lemma Talks.frame {conn' : Conn} (ta : Talks E x conn x' conn') :
    x'.fd = x.fd ∧ x'.next = x.next ∧
      (x'.state = .reading → newline ∉ x'.input ∧ x'.input.length < udsBufferSize - 1) := by
  cases ta with
  | more bytes now reading noLine room => exact ⟨rfl, rfl, fun _ => ⟨noLine, room⟩⟩
  | line bytes now env meets reading line room =>
    obtain ⟨out, stop, eq⟩ := processCommand_frame env
      { x with input := x.input ++ bytes, lastActivityMs := now }
      ((x.input ++ bytes).takeWhile (· ≠ newline))
    rw [eq]
    exact ⟨rfl, rfl, nofun⟩
  | refuse bytes now env meets reading noLine full =>
    obtain ⟨out, queued⟩ := clientQueueString_uniform x.output "ERROR: command too long\n" env.alloc
    rw [queued { x with input := x.input ++ bytes, lastActivityMs := now } rfl]
    exact ⟨rfl, rfl, nofun⟩
  | send n now writing rest =>
    refine ⟨rfl, rfl, fun reading => ?_⟩
    rw [show x.state = .reading from reading] at writing
    cases writing

/-- Where the contents agree, a client that is there now was there before. -/
lemma heap_of_same (same : (g'.heap d).map UdsClient.content = (g.heap d).map UdsClient.content)
    (here : g'.heap d = some x) : ∃ y, g.heap d = some y ∧ y.content = x.content := by
  rw [here] at same
  exact Option.map_eq_some_iff.mp same.symm

namespace Table

/-- A client in memory is in the list. -/
lemma live (tb : Table g ns) (here : g.heap c = some x) : c ∈ ns := (tb.listed.live c).mpr ⟨x, here⟩

/-- Writing to a client keeps the table, if its descriptor and its link stay, and it is not left with a
line. -/
lemma write (tb : Table g ns) (here : g.heap c = some x) (fd : x'.fd = x.fd) (next : x'.next = x.next)
    (clean : x'.state = .reading → newline ∉ x'.input ∧ x'.input.length < udsBufferSize - 1) :
    Table (g.write c x' conn) ns where
  listed := by
    -- the links stay, so the list stays
    refine ⟨tb.listed.chain.congr fun d _ => ?_, tb.listed.nodup, tb.listed.active, fun d => ?_,
      tb.listed.born⟩
    · by_cases eq : d = c
      · subst eq
        simp [Globals.nexts, here, next]
      · simp [Globals.nexts, Globals.write, Function.update_of_ne eq]
    · rw [tb.listed.live d]
      by_cases eq : d = c
      · subst eq
        simp [here]
      · simp [Globals.write, Function.update_of_ne eq]
  most := tb.most
  registered d y hy := by
    by_cases eq : d = c
    · subst eq
      cases write_heap.symm.trans hy
      rw [fd]
      exact tb.registered d x here
    · simp only [Globals.write, Function.update_of_ne eq] at hy
      exact tb.registered d y hy
  carried fd' d hd := by
    obtain ⟨y, hy, eqfd⟩ := tb.carried fd' d hd
    by_cases eq : d = c
    · subst eq
      cases hy.symm.trans here
      exact ⟨x', write_heap, fd.trans eqfd⟩
    · exact ⟨y, (Function.update_of_ne eq ..).trans hy, eqfd⟩
  opened d y hy := by
    by_cases eq : d = c
    · subst eq
      cases write_heap.symm.trans hy
      rw [fd]
      exact tb.opened d x here
    · simp only [Globals.write, Function.update_of_ne eq] at hy
      exact tb.opened d y hy
  ended := tb.ended
  fresh := tb.fresh
  reactor := tb.reactor
  clean d y hy reading := by
    by_cases eq : d = c
    · subst eq
      cases write_heap.symm.trans hy
      exact clean reading
    · simp only [Globals.write, Function.update_of_ne eq] at hy
      exact tb.clean d y hy reading

end Table

/-- A client was closed. -/
structure Closed (g : Globals) (c : Nat) (x : UdsClient) (cause : Cause) (g' : Globals) : Prop where
  gone : g'.heap c = none
  same : ∀ d, d ≠ c → (g'.heap d).map UdsClient.content = (g.heap d).map UdsClient.content
  made : g'.made = g.made
  conn : g'.conn = Function.update g.conn c { g.conn c with closedBy := some cause }
  shutdown : g'.shutdownRequested =
    (g.shutdownRequested || decide (cause = .answered) && x.stopAfterWrite)
  reactor : g'.reactor = g.reactor

/-- A stop is requested by what is answered, in both flags. -/
lemma requestStop_eq : g.requestStop cause x =
    { g with
      stopRequested := g.stopRequested || (decide (cause = .answered) && x.stopAfterWrite)
      shutdownRequested := g.shutdownRequested || (decide (cause = .answered) && x.stopAfterWrite) } := by
  rw [Globals.requestStop]
  by_cases stop : cause = .answered ∧ x.stopAfterWrite = true
  · simp [stop]
  · rw [if_neg stop]
    have no : (decide (cause = .answered) && x.stopAfterWrite) = false := by simpa using stop
    simp [no]

/-- Whoever is closed without an answer requests no stop. -/
lemma Cause.Meets.requestStop (meets : cause.Meets x) : g.requestStop cause y = g := by
  refine if_neg fun stop => ?_
  rw [stop.1] at meets
  exact meets

/-- `uds_client_close` frees the client, and takes its handler out. -/
lemma Table.udsClientClose_eq (tb : Table g ns) (here : g.heap c = some x) (cause : Cause) :
    ∃ g1, Listed g1 (ns.erase c) ∧
      Freed ((g.requestStop cause x).log c fun conn => { conn with closedBy := some cause }) c x g1 ∧
      udsClientClose (g.requestStop cause x) true c cause =
        .ok { g1 with handlers := Function.update g1.handlers x.fd none } := by
  obtain ⟨handler, small⟩ := tb.registered c x here
  rw [requestStop_eq]
  set g0 : Globals := Globals.log _ c fun conn => { conn with closedBy := some cause } with eq0
  have listed : Listed g0 ns :=
    ⟨tb.listed.chain, tb.listed.nodup, tb.listed.active, tb.listed.live, tb.listed.born⟩
  obtain ⟨g1, frees, listed1, freed⟩ := udsClientFree_spec listed (show g0.heap c = some x from here)
  refine ⟨g1, listed1, freed, ?_⟩
  have handler0 : g0.handlers x.fd = some c := handler
  simp only [udsClientClose, Globals.deref, here, bind, Except.bind, ↓reduceIte, ← eq0]
  simp only [reactorRemoveFd, if_neg (Nat.not_le_of_lt small), handler0, frees, bind, Except.bind]

/-- Closing a client of the table. -/
lemma Table.close (tb : Table g ns) (here : g.heap c = some x) (cause : Cause) :
    ∃ g', udsClientClose (g.requestStop cause x) true c cause = .ok g' ∧ Table g' (ns.erase c) ∧
      Closed g c x cause g' := by
  obtain ⟨g1, listed, freed, closes⟩ := tb.udsClientClose_eq here cause
  rw [requestStop_eq] at freed
  have mem := tb.live here
  have handlers : g1.handlers = g.handlers := freed.handlers
  have isOpen : g1.isOpen = Function.update g.isOpen x.fd false := freed.isOpen
  have made : g1.made = g.made := freed.made
  have closed : g1.closed = c :: g.closed := freed.closed
  have freed' : g1.freed = c :: g.freed := freed.freed
  have reactor : g1.reactor = g.reactor := freed.reactor
  have listening : g1.listening = g.listening := freed.listening
  -- a client that is left is what it was, and has another descriptor
  have left : ∀ d y, g1.heap d = some y →
      d ≠ c ∧ y.fd ≠ x.fd ∧ ∃ z, g.heap d = some z ∧ z.content = y.content := by
    intro d y hy
    have ne : d ≠ c := by
      rintro rfl
      rw [freed.gone] at hy
      cases hy
    obtain ⟨z, hz, same⟩ := heap_of_same (freed.same d ne) hy
    refine ⟨ne, fun eq => ne ?_, z, hz, same⟩
    have fd : z.fd = x.fd := (UdsClient.fd_of_content same).trans eq
    have reg := (tb.registered d z hz).1
    rw [fd, (tb.registered c x here).1] at reg
    exact (Option.some.inj reg).symm
  refine ⟨_, closes, ?_, ?_⟩
  · refine ⟨⟨listed.chain, listed.nodup, listed.active, listed.live, listed.born⟩, ?_, fun d y hy => ?_,
      fun fd d hd => ?_, fun d y hy => ?_, fun d born out => ?_, fun d fresh => ?_, fun up => ?_,
      fun d y hy reading => ?_⟩
    · exact Nat.le_trans (List.length_erase_le ..) tb.most
    · obtain ⟨-, other, z, hz, same⟩ := left d y hy
      have fd : z.fd = y.fd := UdsClient.fd_of_content same
      have reg := tb.registered d z hz
      rw [fd] at reg
      exact ⟨(Function.update_of_ne other ..).trans (handlers ▸ reg.1), reg.2⟩
    · dsimp only at hd
      by_cases eq : fd = x.fd
      · subst eq
        rw [Function.update_self] at hd
        cases hd
      · rw [Function.update_of_ne eq, handlers] at hd
        obtain ⟨z, hz, eqfd⟩ := tb.carried fd d hd
        have ne : d ≠ c := by
          rintro rfl
          cases hz.symm.trans here
          exact eq eqfd.symm
        obtain ⟨y, hy, same⟩ := heap_of_same (freed.same d ne).symm hz
        exact ⟨y, hy, (UdsClient.fd_of_content same).trans eqfd⟩
    · obtain ⟨-, other, z, hz, same⟩ := left d y hy
      have fd : z.fd = y.fd := UdsClient.fd_of_content same
      show g1.isOpen y.fd = true
      rw [isOpen, Function.update_of_ne other, ← fd]
      exact tb.opened d z hz
    · show g1.closed.count d = 1 ∧ g1.freed.count d = 1
      rw [closed, freed']
      by_cases eq : d = c
      · subst eq
        obtain ⟨c0, f0⟩ := tb.fresh d (.inl mem)
        simp [c0, f0]
      · have out : d ∉ ns := fun mem' => out ((List.mem_erase_of_ne eq).mpr mem')
        obtain ⟨c1, f1⟩ := tb.ended d (made ▸ born) out
        simp [List.count_cons_of_ne (Ne.symm eq), c1, f1]
    · show g1.closed.count d = 0 ∧ g1.freed.count d = 0
      have ne : d ≠ c := by
        rintro rfl
        rcases fresh with mem' | late
        · exact tb.listed.nodup.not_mem_erase mem'
        · exact absurd (tb.listed.born d mem) (Nat.not_lt_of_le (made ▸ late))
      have fresh : d ∈ ns ∨ g.made ≤ d := fresh.imp List.mem_of_mem_erase fun late => made ▸ late
      obtain ⟨c0, f0⟩ := tb.fresh d fresh
      simp [closed, freed', List.count_cons_of_ne (Ne.symm ne), c0, f0]
    · show g1.reactor = true
      rw [reactor]
      exact tb.reactor (up.imp (fun some' nil => some' (by rw [nil]; rfl)) fun up => listening ▸ up)
    · obtain ⟨-, -, z, hz, same⟩ := left d y hy
      obtain ⟨state, input⟩ := UdsClient.input_of_content same
      rw [← input]
      exact tb.clean d z hz (state.trans reading)
  · exact ⟨freed.gone, freed.same, made, freed.conn, freed.shutdown, reactor⟩

/-- A new client is in front of the list. -/
lemma Listed.push (li : Listed g ns) (fd : Nat) (now : UInt64) : Listed (g.push fd now) (g.made :: ns) where
  chain := by
    refine ⟨rfl, g.clients, by simp [Globals.nexts, Globals.push], li.chain.congr fun d mem => ?_⟩
    have ne : d ≠ g.made := Nat.ne_of_lt (li.born d mem)
    simp [Globals.nexts, Globals.push, Function.update_of_ne ne]
  nodup := List.nodup_cons.mpr ⟨fun mem => Nat.lt_irrefl _ (li.born _ mem), li.nodup⟩
  active := congrArg Nat.succ li.active
  live d := by
    by_cases eq : d = g.made
    · subst eq
      simp [Globals.push]
    · rw [List.mem_cons, or_iff_right eq, li.live d]
      simp [Globals.push, Function.update_of_ne eq]
  born d mem := by
    rcases List.mem_cons.mp mem with rfl | mem
    · exact Nat.lt_succ_self _
    · exact Nat.lt_succ_of_lt (li.born d mem)

namespace Table

/-- A descriptor that is not open has no handler. -/
lemma handlers_eq_none (tb : Table g ns) (opens : g.isOpen fd = false) : g.handlers fd = none := by
  cases handler : g.handlers fd with
  | none => rfl
  | some c =>
    obtain ⟨x, here, rfl⟩ := tb.carried fd c handler
    rw [tb.opened c x here] at opens
    cases opens

/-- An accepted client is put in front, and gets the handler of its descriptor. -/
lemma accept (tb : Table g ns) (room : g.activeClients < udsMaxClients) (opens : g.isOpen fd = false)
    (listening : g.listening = true) (small : fd < reactorMaxFd) (now : UInt64) :
    Table { g.push fd now with handlers := Function.update g.handlers fd (some g.made) }
      (g.made :: ns) := by
  have listed := tb.listed.push fd now
  have other : ∀ d y, g.heap d = some y → d ≠ g.made ∧ y.fd ≠ fd := by
    intro d y hy
    refine ⟨Nat.ne_of_lt (tb.listed.born d (tb.live hy)), ?_⟩
    rintro rfl
    rw [tb.opened d y hy] at opens
    cases opens
  -- a client is the new one, or it was there
  have split : ∀ d y, (g.push fd now).heap d = some y →
      d = g.made ∧ y.fd = fd ∧ y.input = [] ∨ g.heap d = some y := by
    intro d y hy
    by_cases eq : d = g.made
    · subst eq
      simp only [Globals.push, Function.update_self, Option.some.injEq] at hy
      subst hy
      exact .inl ⟨rfl, rfl, rfl⟩
    · simp only [Globals.push, Function.update_of_ne eq] at hy
      exact .inr hy
  refine ⟨⟨listed.chain, listed.nodup, listed.active, listed.live, listed.born⟩, ?_, fun d y hy => ?_,
    fun fd' d hd => ?_, fun d y hy => ?_, fun d born out => ?_, fun d fresh => ?_, fun _ => ?_,
    fun d y hy reading => ?_⟩
  · rw [tb.listed.active] at room
    exact room
  · rcases split d y hy with ⟨rfl, rfl, -⟩ | old
    · exact ⟨Function.update_self .., small⟩
    · obtain ⟨handler, small⟩ := tb.registered d y old
      exact ⟨(Function.update_of_ne (other d y old).2 ..).trans handler, small⟩
  · dsimp only at hd
    by_cases eq : fd' = fd
    · subst eq
      rw [Function.update_self] at hd
      cases hd
      exact ⟨_, Function.update_self .., rfl⟩
    · rw [Function.update_of_ne eq] at hd
      obtain ⟨y, hy, eqfd⟩ := tb.carried fd' d hd
      exact ⟨y, (Function.update_of_ne (other d y hy).1 ..).trans hy, eqfd⟩
  · show Function.update g.isOpen fd true y.fd = true
    rcases split d y hy with ⟨-, rfl, -⟩ | old
    · exact Function.update_self ..
    · rw [Function.update_of_ne (other d y old).2]
      exact tb.opened d y old
  · have out : d ≠ g.made ∧ d ∉ ns := by simpa using out
    have born : d < g.made := Nat.lt_of_le_of_ne (Nat.lt_succ_iff.mp born) out.1
    exact tb.ended d born out.2
  · refine tb.fresh d ?_
    rcases fresh with mem | late
    · rcases List.mem_cons.mp mem with rfl | mem
      · exact .inr (Nat.le_refl _)
      · exact .inl mem
    · exact .inr (Nat.le_of_succ_le late)
  · exact tb.reactor (.inr listening)
  · rcases split d y hy with ⟨-, -, empty⟩ | old
    · rw [empty]
      exact ⟨List.not_mem_nil, by decide⟩
    · exact tb.clean d y old reading

/-- A new client that could not be registered is freed again. -/
lemma turnAway (tb : Table g ns) (opens : g.isOpen fd = false) (now : UInt64) (f : Conn → Conn) :
    ∃ g', udsClientFree ((g.push fd now).log g.made f) g.made = .ok g' ∧ Table g' ns ∧
      g'.listening = g.listening ∧ g'.made = g.made + 1 ∧ g'.heap g.made = none ∧
      (∀ d, d ≠ g.made → (g'.heap d).map UdsClient.content = (g.heap d).map UdsClient.content) ∧
      g'.conn = Function.update g.conn g.made (f (g.conn g.made)) ∧
      g'.shutdownRequested = g.shutdownRequested := by
  have pushed := tb.listed.push fd now
  have here : ((g.push fd now).log g.made f).heap g.made = some
      ⟨fd, .reading, [], [], 0, now, false, g.clients⟩ := Function.update_self ..
  obtain ⟨g', frees, listed, freed⟩ := udsClientFree_spec
    (g := (g.push fd now).log g.made f)
    ⟨pushed.chain, pushed.nodup, pushed.active, pushed.live, pushed.born⟩ here
  rw [List.erase_cons_head] at listed
  have made : g'.made = g.made + 1 := freed.made
  have closed : g'.closed = g.made :: g.closed := freed.closed
  have freed' : g'.freed = g.made :: g.freed := freed.freed
  have isOpen : g'.isOpen = Function.update (Function.update g.isOpen fd true) fd false := freed.isOpen
  have same : ∀ d, d ≠ g.made →
      (g'.heap d).map UdsClient.content = (g.heap d).map UdsClient.content := by
    intro d ne
    rw [freed.same d ne]
    simp [Globals.log, Globals.push, Function.update_of_ne ne]
  -- the clients are those that were there
  have left : ∀ d y, g'.heap d = some y → ∃ z, g.heap d = some z ∧ z.content = y.content := by
    intro d y hy
    have ne : d ≠ g.made := by
      rintro rfl
      rw [freed.gone] at hy
      cases hy
    exact heap_of_same (same d ne) hy
  refine ⟨g', frees, ?_, freed.listening, made, freed.gone, same, freed.conn, freed.shutdown⟩
  refine ⟨listed, tb.most, fun d y hy => ?_, fun fd' d hd => ?_, fun d y hy => ?_,
    fun d born out => ?_, fun d fresh => ?_, fun up => ?_, fun d y hy reading => ?_⟩
  · obtain ⟨z, hz, same⟩ := left d y hy
    rw [freed.handlers, ← UdsClient.fd_of_content same]
    exact tb.registered d z hz
  · rw [freed.handlers] at hd
    obtain ⟨z, hz, eqfd⟩ := tb.carried fd' d hd
    have ne : d ≠ g.made := Nat.ne_of_lt (tb.listed.born d (tb.live hz))
    obtain ⟨y, hy, same⟩ := heap_of_same (same d ne).symm hz
    exact ⟨y, hy, (UdsClient.fd_of_content same).trans eqfd⟩
  · obtain ⟨z, hz, same⟩ := left d y hy
    have up := tb.opened d z hz
    have other : y.fd ≠ fd := by
      rintro rfl
      rw [UdsClient.fd_of_content same, opens] at up
      cases up
    rw [isOpen, Function.update_of_ne other, Function.update_of_ne other,
      ← UdsClient.fd_of_content same]
    exact up
  · rw [closed, freed']
    by_cases eq : d = g.made
    · subst eq
      obtain ⟨c0, f0⟩ := tb.fresh g.made (.inr (Nat.le_refl _))
      simp [c0, f0]
    · have born : d < g.made := by omega
      obtain ⟨c1, f1⟩ := tb.ended d born out
      simp [List.count_cons_of_ne (Ne.symm eq), c1, f1]
  · have ne : d ≠ g.made := by
      rcases fresh with mem | late
      · exact Nat.ne_of_lt (tb.listed.born d mem)
      · omega
    obtain ⟨c0, f0⟩ := tb.fresh d (fresh.imp id fun late => by omega)
    simp [closed, freed', List.count_cons_of_ne (Ne.symm ne), c0, f0]
  · rw [freed.reactor]
    exact tb.reactor (up.imp id fun up => freed.listening ▸ up)
  · obtain ⟨z, hz, same⟩ := left d y hy
    obtain ⟨state, input⟩ := UdsClient.input_of_content same
    rw [← input]
    exact tb.clean d z hz (state.trans reading)

/-- With the list empty the socket can be given up. -/
lemma shutDown (tb : Table g ns) (empty : g.clients = none) :
    Table { g with listening := false, reactor := false, stopRequested := false } [] := by
  obtain rfl : ns = [] := (empty ▸ tb.listed.chain).eq_nil
  exact ⟨⟨tb.listed.chain, .nil, tb.listed.active, tb.listed.live, nofun⟩, tb.most, tb.registered,
    tb.carried, tb.opened, tb.ended, tb.fresh, fun up => absurd up (by simp), tb.clean⟩

/-- A talk keeps the table. -/
lemma talk (tb : Table g ns) (here : g.heap c = some x) (talks : Talks E x (g.conn c) x' conn) :
    Table (g.write c x' conn) ns := by
  obtain ⟨fd, next, clean⟩ := talks.frame
  exact tb.write here fd next clean

/-- The end of a reply keeps the table. -/
lemma sendsRest (tb : Table g ns) (here : g.heap c = some x) (writing : x.state = .writing)
    (rest : SendsRest x (g.conn c) x' conn) : Table (g.write c x' conn) ns := by
  cases rest with
  | nothing written =>
    refine tb.write here rfl rfl fun reading => ?_
    rw [writing] at reading
    cases reading
  | last n now whole =>
    refine tb.write here rfl rfl fun reading => ?_
    rw [show x.state = .reading from reading] at writing
    cases writing

/-- Every action keeps the table. -/
theorem act (tb : Table g ns) (ac : Act E C g g') : ∃ ns', Table g' ns' := by
  cases ac with
  | talk c x x' conn here talks => exact ⟨ns, tb.talk here talks⟩
  | finish c x x' conn _ here writing rest closes =>
    obtain ⟨g1, closes', tb', -⟩ := (tb.sendsRest here writing rest).close write_heap .answered
    cases closes.symm.trans closes'
    exact ⟨_, tb'⟩
  | close c x cause _ here meets _ closes =>
    obtain ⟨g1, closes', tb', -⟩ := tb.close here cause
    rw [meets.requestStop] at closes'
    cases closes.symm.trans closes'
    exact ⟨_, tb'⟩
  | accept fd now room opens listening small => exact ⟨_, tb.accept room opens listening small now⟩
  | turnAway fd now _ opens frees =>
    obtain ⟨g1, frees', tb', -⟩ := tb.turnAway opens now fun conn => { conn with closedBy := some .failed }
    cases frees.symm.trans frees'
    exact ⟨_, tb'⟩
  | shutDown empty => exact ⟨_, tb.shutDown empty⟩

/-- So do all actions of a call. -/
lemma acts (tb : Table g ns) (ac : ReflTransGen (Act E C) g g') : ∃ ns', Table g' ns' := by
  induction ac with
  | refl => exact ⟨ns, tb⟩
  | tail _ last ih =>
    obtain ⟨ns1, tb1⟩ := ih
    exact tb1.act last

/-- What each action keeps is kept by all of a call. -/
lemma acts_preserve {I : Globals → Prop} (tb : Table g ns)
    (keep : ∀ {g g' ns}, I g → Table g ns → Act E C g g' → I g') (good : I g)
    (ac : ReflTransGen (Act E C) g g') : I g' := by
  induction ac with
  | refl => exact good
  | tail before last ih =>
    obtain ⟨ns1, tb1⟩ := tb.acts before
    exact keep ih tb1 last

end Table

end Atpd.Control.Clients
