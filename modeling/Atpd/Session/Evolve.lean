import Atpd.Session.Ledger

/-!
# What a step may do to a session

A session that has no reference any more does not change. One that has keeps its descriptors and its
reactor until it is freed, and goes one way: the state does not come back from closing, the flag of the
GC queue stays set, and nobody is registered again.
-/

namespace Atpd.Session.Refs

variable {p q : Pool} {s r : Nat} {op : Op} {ok : Bool}

/-! ## A session -/

/-- The session is freed, and all its descriptors are closed. -/
structure Freed (x : AtpdSession) : Prop where
  count : x.refCount = 0
  runs : x.destroyRuns = 1
  state : x.state = .destroyed
  fdIn : x.fdIn < 0
  fdOut : x.fdOut < 0
  pipeRead : x.pipeRead < 0
  pipeWrite : x.pipeWrite < 0

/-- The session has a reference, and its destruction has not begun. -/
structure Live (x : AtpdSession) : Prop where
  pos : 0 < x.refCount
  started : x.destroyStarted = false
  runs : x.destroyRuns = 0

/-- Where the handlers of the session are. -/
def AtpdSession.ends (x : AtpdSession) : Option Nat × Int × Int := (x.reactor, x.fdIn, x.fdOut)

/-- What a step may do to a session. -/
structure Evolves (x x' : AtpdSession) : Prop where
  dead : x.refCount = 0 → x' = x
  live : Live x → Live x' ∨ Freed x'
  closing : x.state.isClosing = true → x'.state.isClosing = true
  enqueued : x.gcEnqueued = true → x'.gcEnqueued = true
  registered : x'.registryRegistered = true → x.registryRegistered = true
  ends : 0 < x'.refCount → x'.ends = x.ends

lemma Evolves.rfl {x : AtpdSession} : Evolves x x :=
  ⟨fun _ => .refl x, .inl, id, id, id, fun _ => .refl _⟩

/-- One change behind another. -/
lemma Evolves.trans {x y z : AtpdSession} (xy : Evolves x y) (yz : Evolves y z) : Evolves x z where
  dead none := by
    have same := xy.dead none
    rw [← same]
    exact yz.dead (same ▸ none)
  live alive := by
    rcases xy.live alive with alive | freed
    · exact yz.live alive
    · rw [yz.dead freed.count]
      exact .inr freed
  closing begun := yz.closing (xy.closing begun)
  enqueued flag := yz.enqueued (xy.enqueued flag)
  registered reg := xy.registered (yz.registered reg)
  ends pos := by
    have still : 0 < y.refCount := by
      by_contra none
      rw [yz.dead (by omega)] at pos
      omega
    rw [yz.ends pos, xy.ends still]

/-- The flag of the queue is never taken back. -/
lemma Evolves.flag_le {x x' : AtpdSession} (ev : Evolves x x') :
    x.gcEnqueued.toNat ≤ x'.gcEnqueued.toNat := by
  cases set : x.gcEnqueued with
  | false => exact Nat.zero_le _
  | true => exact Nat.le_of_eq (congrArg Bool.toNat (ev.enqueued set).symm)

/-- A descriptor is negative once it is closed. -/
lemma safeClose_neg (fd : Int) : safeClose fd < 0 := by
  rw [safeClose]
  split <;> omega

/-- The one that drops the last reference destroys the session. -/
lemma freed_destroyInternal {x : AtpdSession} (alive : Live x) :
    Freed (destroyInternal { x with refCount := 0 }) := by
  simp only [destroyInternal, alive.started, Bool.false_eq_true, ↓reduceIte]
  exact ⟨rfl, by simp [alive.runs], rfl, safeClose_neg _, safeClose_neg _, safeClose_neg _,
    safeClose_neg _⟩

/-- A reference more. -/
lemma evolves_get (x : AtpdSession) : Evolves x (atpdSessionGet x) := by
  rw [atpdSessionGet]
  split
  · exact .rfl
  · rename_i some
    exact ⟨fun none => absurd none some, fun alive => .inl ⟨by simp, alive.started, alive.runs⟩, id, id,
      id, fun _ => rfl⟩

/-- A reference less, with the end of the session at none. -/
lemma evolves_put (x : AtpdSession) : Evolves x (atpdSessionPut x) := by
  rw [atpdSessionPut]
  split
  · exact .rfl
  · rename_i some
    split
    · refine ⟨fun none => absurd none some, fun alive => .inr (freed_destroyInternal alive), ?_, ?_,
        ?_, ?_⟩
      · intro begun
        rw [destroyInternal]
        split
        · exact begun
        · rfl
      · intro flag
        rw [destroyInternal]
        split <;> exact flag
      · intro reg
        rw [destroyInternal] at reg
        split at reg <;> exact reg
      · intro pos
        rw [refCount_destroyInternal] at pos
        exact absurd pos (Nat.lt_irrefl 0)
    · rename_i more
      exact ⟨fun none => absurd none some,
        fun alive => .inl ⟨by simp only; omega, alive.started, alive.runs⟩, id, id, id, fun _ => rfl⟩

/-- A session that is alive changes in its flags and descriptors. -/
lemma Evolves.of_live {x x' : AtpdSession} (pos : 0 < x.refCount) (count : x'.refCount = x.refCount)
    (started : x'.destroyStarted = x.destroyStarted) (runs : x'.destroyRuns = x.destroyRuns)
    (closing : x.state.isClosing = true → x'.state.isClosing = true)
    (enqueued : x.gcEnqueued = true → x'.gcEnqueued = true)
    (registered : x'.registryRegistered = true → x.registryRegistered = true)
    (ends : x'.ends = x.ends) : Evolves x x' :=
  ⟨fun none => by omega,
    fun alive => .inl ⟨count ▸ pos, started ▸ alive.started, runs ▸ alive.runs⟩, closing, enqueued,
    registered, fun _ => ends⟩

/-- A transition of a session that is alive. -/
lemma evolves_setState {x : AtpdSession} (pos : 0 < x.refCount) (desired : SessionState) :
    Evolves x (sessionSetState x desired).1 := by
  rw [sessionSetState]
  split
  · exact .rfl
  · rename_i allowed
    refine .of_live pos (.refl _) (.refl _) (.refl _) ?_ id id (.refl _)
    intro begun
    simpa [begun] using allowed

/-! ## The pool -/

/-- Every session of the pool evolves. -/
def Pool.Evolves (p q : Pool) : Prop := ∀ s, Refs.Evolves (p.sess s) (q.sess s)

lemma Pool.Evolves.rfl : p.Evolves p := fun _ => .rfl

/-- One step behind another. -/
lemma Pool.Evolves.trans {p' : Pool} (pq : p.Evolves q) (qp : q.Evolves p') : p.Evolves p' :=
  fun s => (pq s).trans (qp s)

/-- One session changes. -/
lemma Pool.evolves_modify {f : AtpdSession → AtpdSession}
    (ev : Refs.Evolves (p.sess s) (f (p.sess s))) : p.Evolves (p.modify s f) := by
  intro t
  rw [Pool.modify]
  show Refs.Evolves _ (if t = s then f (p.sess t) else p.sess t)
  split
  · rename_i same
    subst same
    exact ev
  · exact .rfl

/-- A reference to one session more. -/
lemma Pool.evolves_get (p : Pool) (s : Nat) : p.Evolves (p.get s) :=
  Pool.evolves_modify (Refs.evolves_get _)

/-- Or less. -/
lemma Pool.evolves_put (p : Pool) (s : Nat) : p.Evolves (p.put s) :=
  Pool.evolves_modify (Refs.evolves_put _)

/-- By induction on the list. -/
lemma Pool.evolves_getAll (p : Pool) (ss : List Nat) : p.Evolves (ss.foldl Pool.get p) := by
  induction ss generalizing p with
  | nil => exact .rfl
  | cons s ss ih => exact (p.evolves_get s).trans (ih (p.get s))

/-- A handler is removed. -/
lemma evolves_removeFd (p : Pool) (r : Nat) (fd : Int) : p.Evolves (reactorRemoveFd p r fd) := by
  rw [reactorRemoveFd]
  split
  · exact .rfl
  · exact p.evolves_put _

/-- A handler is added. -/
lemma evolves_addFd {fd : Int} (added : reactorAddFdEx p r fd s ok = some q) : p.Evolves q := by
  rw [reactorAddFdEx] at added
  split at added
  · cases added
  · split at added
    · cases added
      exact fun _ => .rfl
    · cases added
      exact p.evolves_put _

/-- One step of a call lets every session evolve, if it has references of what it touches. -/
lemma evolves_exec (live : ∀ s ∈ op.needs, 0 < (p.sess s).refCount)
    (own : ∀ s ∈ op.held, 0 < (p.sess s).refCount) : p.Evolves (exec p ok op).1 := by
  cases op with
  | creatorPut s => exact p.evolves_put s
  | put s => exact p.evolves_put s
  | markClosing s => exact p.evolves_get s
  | closing s =>
    simp only [exec]
    split
    · exact .rfl
    · have closing : Evolves (p.sess s) (toClosing (p.sess s)) :=
        .of_live (live s rfl) rfl rfl rfl (fun _ => rfl) id id rfl
      exact Pool.evolves_modify closing
  | registryRemove s =>
    simp only [exec]
    split
    · rename_i reg
      have unlinked : Evolves (p.sess s) (unlink (p.sess s)) :=
        .of_live (live s rfl) rfl rfl rfl id id (fun _ => reg) rfl
      exact Pool.evolves_modify unlinked
    · exact .rfl
  | detach s =>
    simp only [exec]
    split <;> exact .rfl
  | removeFd s r fd => exact evolves_removeFd p r fd
  | gcEnqueue s =>
    simp only [exec]
    split
    · exact .rfl
    · have flagged : Evolves (p.sess s) (flagEnqueued (p.sess s)) :=
        .of_live (live s rfl) rfl rfl rfl id (fun _ => rfl) id rfl
      exact (Pool.evolves_modify flagged).trans (Pool.evolves_get _ s)
  | gcLink s =>
    have pending : p.Evolves (p.modify s fun x => (sessionSetState x .destroyPending).1) :=
      Pool.evolves_modify (evolves_setState (own s rfl) _)
    exact pending
  | register s r => exact p.evolves_get s
  | addIn s r =>
    simp only [exec]
    split
    · rename_i added
      exact evolves_addFd added
    · exact .rfl
  | getOut s r => exact p.evolves_get s
  | addOut s r =>
    simp only [exec]
    split
    · rename_i added
      exact evolves_addFd added
    · exact .rfl
  | activate s =>
    simp only [exec]
    split
    · have pos : 0 < (sessionSetState (p.sess s) .active).1.refCount := by
        rw [refCount_setState]
        exact live s rfl
      have up : Evolves (p.sess s) (toActive (p.sess s)) :=
        (evolves_setState (live s rfl) .active).trans (.of_live pos rfl rfl rfl id id id rfl)
      exact Pool.evolves_modify up
    · exact .rfl
  | callback s => exact .rfl
  | emergencyDrain s =>
    simp only [exec]
    split
    · exact .rfl
    · have drained : Evolves (p.sess s) (drainPipes (p.sess s)) :=
        .of_live (live s rfl) rfl rfl rfl id id id rfl
      exact Pool.evolves_modify drained
  | snapshot count => exact p.evolves_getAll _
  | drainOne s => exact .rfl

end Atpd.Session.Refs
