import Atpd.Config.Basic

/-!
# The control socket and its path

`uds_init` of `src/uds.c` binds the control socket, after `uds_prepare_socket_path` has made sure that
nothing of value stands at its path; `uds_cleanup` unlinks the path when the event loop is left, as
`run_event_loop` of `src/main.c` does on every exit. What is unlinked should be the socket of this
process, or a stale one that nobody listens on.

The path that `uds_cleanup` unlinks is recorded before the preparation that may refuse it, so a
refusal does not protect what was refused: `removes_own_iff` says when the code keeps its hands off.
-/

namespace Atpd.Control

open Atpd.Config

/-- What can stand at the path when the daemon comes to it. -/
inductive Found where
  /-- A socket that another process listens on. -/
  | liveSocket
  /-- A socket that refuses connections. -/
  | staleSocket
  | nonSocket
deriving DecidableEq, Repr

/-- What stands at the path. -/
inductive Entry where
  | found (f : Found)
  /-- The socket that this process has bound. -/
  | own
deriving DecidableEq, Repr

/-- The outcomes of the steps of `uds_init` and `uds_cleanup`: whether each of them works. -/
structure Steps where
  lstat : Bool
  probeSocket : Bool
  /-- `connect` has an answer from the peer: it accepts, or it refuses. -/
  connect : Bool
  prepareUnlink : Bool
  socket : Bool
  bind : Bool
  chmod : Bool
  listen : Bool
  addFd : Bool
  addTimer : Bool
  initUnlink : Bool
  cleanupUnlink : Bool
deriving DecidableEq, Repr

/-- The globals of `uds.c` that deal with the socket, the entry at the path, and the entries that
were unlinked, which is history. -/
structure Uds where
  fd : Bool
  path : Str
  timer : Bool
  reactor : Bool
  entry : Option Entry
  removed : List Entry
deriving DecidableEq, Repr

/-- A process that has not touched its control socket. -/
def Uds.start (entry : Option Found) : Uds where
  fd := false
  path := []
  timer := false
  reactor := false
  entry := entry.map .found
  removed := []

/-- `sizeof(addr.sun_path)` and `UDS_PATH_MAX`. -/
def udsPathMax : Nat := 108

/-- `unlink(path)`: whether it has worked. There must be an entry. -/
def Uds.unlink (u : Uds) (works : Bool) : Uds × Bool :=
  match u.entry with
  | some e => if works then ({ u with entry := none, removed := e :: u.removed }, true) else (u, false)
  | none => (u, false)

/-- What `connect` says about a socket. -/
inductive Probe where
  | connected
  | refused
  | error
deriving DecidableEq, Repr

/-- `connect(probe, ..)` to the entry at the path; an entry that is gone counts as refused. -/
def Uds.probe (u : Uds) (works : Bool) : Probe :=
  if works then
    match u.entry with
    | some (.found .liveSocket) | some .own => .connected
    | _ => .refused
  else .error

/-- `uds_prepare_socket_path` once the entry is known to be a socket: a probe that cannot be made is
no reason to stop. -/
def prepareSocket (u : Uds) (steps : Steps) : Uds × Bool :=
  if steps.probeSocket ∧ u.probe steps.connect ≠ .refused then (u, false)
  else
    match u.unlink steps.prepareUnlink with
    | (u, true) => (u, true)
    -- `ENOENT` is fine, too
    | (u, false) => (u, u.entry.isNone)

/-- `uds_prepare_socket_path`. -/
def udsPrepareSocketPath (u : Uds) (steps : Steps) : Uds × Bool :=
  if !steps.lstat then (u, false)
  else
    match u.entry with
    | none => (u, true)
    | some (.found .nonSocket) => (u, false)
    | some _ => prepareSocket u steps

/-- The exits of `uds_init` behind the bind: the socket is closed and its path unlinked. -/
def Uds.giveUp (u : Uds) (steps : Steps) : Uds × Bool :=
  ({ (u.unlink steps.initUnlink).1 with fd := false }, false)

/-- `uds_init` behind the bind. -/
def initBound (u : Uds) (steps : Steps) : Uds × Bool :=
  if !steps.chmod then u.giveUp steps
  else if !steps.listen then u.giveUp steps
  else if !steps.addFd then u.giveUp steps
  else if !steps.addTimer then u.giveUp steps
  else ({ u with timer := true }, true)

/-- `uds_init` behind the preparation. -/
def initSocket (u : Uds) (steps : Steps) : Uds × Bool :=
  if !steps.socket then (u, false)
  -- a path that is taken cannot be bound
  else if !steps.bind ∨ u.entry.isSome then (u, false)
  else initBound { u with fd := true, entry := some .own } steps

/-- `uds_init`, with a reactor, a path and its dependencies. -/
def udsInit (u : Uds) (path : Str) (steps : Steps) : Uds × Bool :=
  if udsPathMax ≤ path.length then (u, false)
  else
    -- the path is recorded here, and stays so on every exit
    let u := { u with reactor := true, path := path }
    match udsPrepareSocketPath u steps with
    | (u, false) => (u, false)
    | (u, true) => initSocket u steps

/-- `uds_cleanup`, less the clients, which have no path. -/
def udsCleanup (u : Uds) (steps : Steps) : Uds :=
  let u := { u with timer := u.timer && !u.reactor, fd := false }
  let u := if u.path ≠ [] then { (u.unlink steps.cleanupUnlink).1 with path := [] } else u
  { u with reactor := false }

/-- What `run_event_loop` does to the path. -/
def udsInitAndCleanup (entry : Option Found) (path : Str) (steps : Steps) : Uds :=
  udsCleanup (udsInit (.start entry) path steps).1 steps

/-- Only the own socket, or a stale one, was unlinked. -/
def RemovesOwn (u : Uds) : Prop := ∀ e ∈ u.removed, e = .own ∨ e = .found .staleSocket

/-- The preparation unlinks a live socket, since it could not make a probe. -/
def unlinksUnprobed (entry : Option Found) (steps : Steps) : Bool :=
  decide (entry = some .liveSocket) && steps.lstat && !steps.probeSocket && steps.prepareUnlink

/-- Nothing of another owner stands at the path, or no `unlink` comes to it: the path is too long to
be recorded, or every call of `unlink` that is made on what was refused fails. -/
def Spared (entry : Option Found) (path : Str) (steps : Steps) : Prop :=
  entry = none ∨ entry = some .staleSocket ∨ udsPathMax ≤ path.length ∨
    (path = [] ∨ steps.cleanupUnlink = false) ∧ unlinksUnprobed entry steps = false

variable {u : Uds} {path : Str} {steps : Steps} {f : Found}

/-! ## Nothing of another owner -/

/-- At the path stands nothing that another process needs, and nothing like that was unlinked. -/
structure Tidy (u : Uds) : Prop where
  removed : RemovesOwn u
  entry : ∀ e ∈ u.entry, e = .own ∨ e = .found .staleSocket

/-- Unlinking keeps this. -/
lemma Tidy.unlink (ti : Tidy u) (works : Bool) : Tidy (u.unlink works).1 := by
  rw [Uds.unlink]
  split
  · rename_i e here
    split
    · refine ⟨fun e' he' => ?_, nofun⟩
      rcases List.mem_cons.mp he' with rfl | he'
      · exact ti.entry _ here
      · exact ti.removed e' he'
    · exact ti
  · exact ti

/-- So does `uds_prepare_socket_path`. -/
lemma Tidy.prepare (ti : Tidy u) : Tidy (udsPrepareSocketPath u steps).1 := by
  have unlinked := ti.unlink steps.prepareUnlink
  rw [udsPrepareSocketPath]
  split
  · exact ti
  · split
    · exact ti
    · exact ti
    · rw [prepareSocket]
      split
      · exact ti
      · split
        · rename_i heq
          rw [heq] at unlinked
          exact unlinked
        · rename_i heq
          rw [heq] at unlinked
          exact unlinked

/-- So does binding the socket, whichever step fails. -/
lemma Tidy.initSocket (ti : Tidy u) : Tidy (initSocket u steps).1 := by
  have bound : Tidy { u with fd := true, entry := some .own } :=
    ⟨ti.removed, fun e he => .inl (Option.mem_some.mp he).symm⟩
  have gaveUp : Tidy (Uds.giveUp { u with fd := true, entry := some .own } steps).1 :=
    have unlinked := bound.unlink steps.initUnlink
    ⟨unlinked.removed, unlinked.entry⟩
  rw [Control.initSocket]
  split
  · exact ti
  · split
    · exact ti
    · rw [initBound]
      split
      · exact gaveUp
      · split
        · exact gaveUp
        · split
          · exact gaveUp
          · split
            · exact gaveUp
            · exact ⟨bound.removed, bound.entry⟩

/-- `uds_init` ends tidy. -/
lemma Tidy.init (ti : Tidy u) : Tidy (udsInit u path steps).1 := by
  rw [udsInit]
  split
  · exact ti
  · have recorded : Tidy { u with reactor := true, path := path } := ⟨ti.removed, ti.entry⟩
    have prepared : Tidy (udsPrepareSocketPath _ steps).1 := recorded.prepare
    dsimp only
    split
    · rename_i heq
      rw [heq] at prepared
      exact prepared
    · rename_i heq
      rw [heq] at prepared
      exact prepared.initSocket

/-- `uds_cleanup` removes its own socket only. -/
lemma Tidy.cleanup (ti : Tidy u) : RemovesOwn (udsCleanup u steps) := by
  have closed : Tidy { u with timer := u.timer && !u.reactor, fd := false } := ⟨ti.removed, ti.entry⟩
  have unlinked := closed.unlink steps.cleanupUnlink
  simp only [udsCleanup]
  split
  · exact unlinked.removed
  · exact closed.removed

/-! ## An entry of another owner -/

/-- What another process needs is refused, unless it is a live socket that cannot be probed. -/
lemma prepare_foreign (here : u.entry = some (.found f)) (foreign : f ≠ .staleSocket)
    (kept : unlinksUnprobed (some f) steps = false) : udsPrepareSocketPath u steps = (u, false) := by
  cases hl : steps.lstat with
  | false => simp [udsPrepareSocketPath, hl]
  | true =>
    cases f with
    | staleSocket => exact absurd rfl foreign
    | nonSocket => simp [udsPrepareSocketPath, hl, here]
    | liveSocket =>
      cases hp : steps.probeSocket with
      | true =>
        have answer : u.probe steps.connect ≠ .refused := by
          cases hc : steps.connect <;> simp [Uds.probe, here]
        simp [udsPrepareSocketPath, hl, here, prepareSocket, hp, answer]
      | false =>
        -- without a probe the socket is unlinked right away, if that works
        have fails : steps.prepareUnlink = false := by
          simpa [unlinksUnprobed, hl, hp] using kept
        simp [udsPrepareSocketPath, hl, here, prepareSocket, hp, Uds.unlink, fails]

/-- Without a probe the socket of another process is unlinked. -/
lemma prepare_unprobed (here : u.entry = some (.found .liveSocket))
    (unprobed : unlinksUnprobed (some .liveSocket) steps = true) :
    udsPrepareSocketPath u steps =
      ({ u with entry := none, removed := .found .liveSocket :: u.removed }, true) := by
  simp only [unlinksUnprobed, Bool.and_eq_true, Bool.not_eq_true'] at unprobed
  simp [udsPrepareSocketPath, prepareSocket, Uds.unlink, here, unprobed]

/-- What was removed stays removed. -/
lemma Uds.removed_unlink (u : Uds) (works : Bool) : u.removed ⊆ (u.unlink works).1.removed := by
  rw [Uds.unlink]
  split
  · split
    · exact List.subset_cons_self _ _
    · exact fun _ h => h
  · exact fun _ h => h

/-- What was unlinked in the preparation stays on record. -/
lemma removed_initSocket (u : Uds) (steps : Steps) : u.removed ⊆ (initSocket u steps).1.removed := by
  have gaveUp := Uds.removed_unlink { u with fd := true, entry := some .own } steps.initUnlink
  rw [initSocket]
  split
  · exact fun _ h => h
  · split
    · exact fun _ h => h
    · simp only [initBound, Uds.giveUp]
      split
      · exact gaveUp
      · split
        · exact gaveUp
        · split
          · exact gaveUp
          · split
            · exact gaveUp
            · exact fun _ h => h

/-- Nor does `uds_cleanup` bring anything back. -/
lemma removed_cleanup (u : Uds) (steps : Steps) : u.removed ⊆ (udsCleanup u steps).removed := by
  have unlinked := Uds.removed_unlink { u with timer := u.timer && !u.reactor, fd := false }
    steps.cleanupUnlink
  simp only [udsCleanup]
  split
  · exact unlinked
  · exact fun _ h => h

/-- `uds_init` refuses the entry, and has recorded its path. -/
lemma init_foreign (foreign : f ≠ .staleSocket) (fits : path.length < udsPathMax)
    (kept : unlinksUnprobed (some f) steps = false) :
    udsInit (.start (some f)) path steps =
      ({ Uds.start (some f) with reactor := true, path := path }, false) := by
  have refused := prepare_foreign (u := { Uds.start (some f) with reactor := true, path := path })
    rfl foreign kept
  rw [udsInit, if_neg (Nat.not_le_of_lt fits)]
  dsimp only
  rw [refused]

/-- The cleanup unlinks what was refused. -/
lemma cleanup_foreign (named : path ≠ []) (works : steps.cleanupUnlink = true) :
    (udsCleanup { Uds.start (some f) with reactor := true, path := path } steps).removed =
      [.found f] := by
  simp [udsCleanup, named, Uds.unlink, Uds.start, works]

/-! ## The path -/

/-- Whoever removes the file of another process has not removed only its own. -/
lemma not_removesOwn (foreign : f ≠ .staleSocket) (gone : .found f ∈ u.removed) : ¬RemovesOwn u := by
  intro own
  rcases own _ gone with h | h
  · cases h
  · cases h
    exact foreign rfl

/-- An entry of another owner is left alone exactly when no `unlink` comes to it. -/
lemma removesOwn_foreign (foreign : f ≠ .staleSocket) (fits : path.length < udsPathMax) :
    RemovesOwn (udsInitAndCleanup (some f) path steps) ↔
      (path = [] ∨ steps.cleanupUnlink = false) ∧ unlinksUnprobed (some f) steps = false := by
  cases unprobed : unlinksUnprobed (some f) steps with
  | true =>
    obtain rfl : f = .liveSocket := by
      simp only [unlinksUnprobed, Bool.and_eq_true, decide_eq_true_eq, Option.some.injEq] at unprobed
      exact unprobed.1.1.1
    simp only [Bool.true_eq_false, and_false, iff_false]
    apply not_removesOwn foreign
    apply removed_cleanup
    rw [udsInit, if_neg (Nat.not_le_of_lt fits)]
    dsimp only
    rw [prepare_unprobed rfl unprobed]
    apply removed_initSocket
    simp
  | false =>
    simp only [and_true]
    rw [udsInitAndCleanup, init_foreign foreign fits unprobed]
    by_cases named : path = []
    · simp [named, udsCleanup, RemovesOwn, Uds.start]
    · cases works : steps.cleanupUnlink with
      | true =>
        simp only [named, Bool.true_eq_false, or_self, iff_false]
        apply not_removesOwn foreign
        rw [cleanup_foreign named works]
        simp
      | false => simp [udsCleanup, Uds.unlink, works, RemovesOwn, Uds.start, named]

/-- The control socket code removes only what it owns, or a stale socket, exactly when nothing else
stands at the path or no `unlink` comes to it. -/
theorem removes_own_iff (entry : Option Found) (path : Str) (steps : Steps) :
    RemovesOwn (udsInitAndCleanup entry path steps) ↔ Spared entry path steps := by
  have tidy : ∀ entry : Option Found, entry = none ∨ entry = some .staleSocket →
      RemovesOwn (udsInitAndCleanup entry path steps) := by
    intro entry free
    have start : Tidy (.start entry) := by
      refine ⟨nofun, ?_⟩
      rcases free with rfl | rfl
      · nofun
      · rintro e ⟨⟩
        exact .inr rfl
    exact start.init.cleanup
  by_cases free : entry = none ∨ entry = some .staleSocket
  · rw [Spared, ← or_assoc]
    exact ⟨fun _ => .inl free, fun _ => tidy entry free⟩
  · obtain ⟨f, rfl⟩ : ∃ f, entry = some f := Option.ne_none_iff_exists'.mp fun h => free (.inl h)
    have foreign : f ≠ .staleSocket := by
      rintro rfl
      exact free (.inr rfl)
    rw [Spared, ← or_assoc, or_iff_right free]
    by_cases long : udsPathMax ≤ path.length
    · simp [long, udsInitAndCleanup, udsInit, udsCleanup, Uds.start, RemovesOwn]
    · rw [or_iff_right long]
      exact removesOwn_foreign foreign (Nat.lt_of_not_le long)

/-- Every step works. -/
def Steps.working : Steps where
  lstat := true
  probeSocket := true
  connect := true
  prepareUnlink := true
  socket := true
  bind := true
  chmod := true
  listen := true
  addFd := true
  addTimer := true
  initUnlink := true
  cleanupUnlink := true

/-- A file that is no socket, and the socket of another daemon, are refused and then unlinked. -/
theorem refused_and_removed :
    (udsInitAndCleanup (some .nonSocket) "/data/adb/atp/run/atpd.sock".toList .working).removed =
        [.found .nonSocket] ∧
      (udsInitAndCleanup (some .liveSocket) "/data/adb/atp/run/atpd.sock".toList .working).removed =
        [.found .liveSocket] ∧
      ¬RemovesOwn (udsInitAndCleanup (some .nonSocket) "/data/adb/atp/run/atpd.sock".toList .working) := by
  have removed : (udsInitAndCleanup (some .nonSocket) "/data/adb/atp/run/atpd.sock".toList
      .working).removed = [.found .nonSocket] := by decide
  refine ⟨removed, by decide, not_removesOwn (f := .nonSocket) (by decide) ?_⟩
  rw [removed]
  simp

end Atpd.Control
