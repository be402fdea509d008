import Mathlib.Data.List.Perm.Basic
import Atpd.Session.Refs

/-!
# The ledger of the references

`Ledger` says that the `ref_count` of every session is the number of its holders: the registry, the
handlers that carry it, the GC queue, and the calls. The references of the calls are a list, so that
every primitive moves one reference between that list and another holder, and a step is a chain of such
moves.

A `get` is only good for a session that is alive. `Guarded` says why it is: a call that is going to
touch a session has a `put` of it left to do.
-/

namespace Atpd.Session.Refs

variable {p q : Pool} {s t i r : Nat} {ops rest : List Op} {op : Op} {hand : List Nat} {ok : Bool}

/-! ## Holders -/

/-- The reference of a call in progress. -/
def Op.held : Op → Option Nat
  | .put s | .gcLink s | .addIn s _ | .addOut s _ => some s
  | _ => none

/-- The handlers that carry the session. -/
def Pool.carriers (p : Pool) (s : Nat) : Nat := p.handlers.countP (·.session == s)

/-- The reference that is behind what a call has to do: its own, or that of the creator. -/
def Op.ref : Op → Option Nat
  | .creatorPut s => some s
  | op => op.held

/-- The references behind what a call has to do. -/
def refsOf (ops : List Op) : List Nat := ops.filterMap Op.ref

@[simp] lemma refsOf_append : refsOf (ops ++ rest) = refsOf ops ++ refsOf rest := by
  simp [refsOf]

/-- The references of an operation and of those behind it. -/
lemma refsOf_cons : refsOf (op :: rest) = op.ref.toList ++ refsOf rest := by
  cases op <;> rfl

/-- The holders of a session, less the calls. -/
def Pool.base (p : Pool) (s : Nat) : Nat :=
  (if (p.sess s).registryRegistered then 1 else 0) + p.carriers s + p.gc.count s

/-- Every reference has a holder; `hand` are those of the calls. -/
def Ledger (p : Pool) (hand : List Nat) : Prop :=
  ∀ s, (p.sess s).refCount = p.base s + hand.count s

/-- The order of the references does not matter. -/
lemma Ledger.perm {hand' : List Nat} (le : Ledger p hand) (same : hand.Perm hand') :
    Ledger p hand' := by
  intro s
  rw [le s, same.count_eq]

/-- A session with a holder is alive. -/
lemma Ledger.pos (le : Ledger p hand) (mem : s ∈ hand) : 0 < (p.sess s).refCount := by
  have some := List.count_pos_iff.mpr mem
  rw [le s]
  omega

/-- A session with a handler is alive. -/
lemma Ledger.pos_of_carrier {h : Handler} (le : Ledger p hand) (mem : h ∈ p.handlers) :
    0 < (p.sess h.session).refCount := by
  have some : 0 < p.carriers h.session := List.countP_pos_iff.mpr ⟨h, mem, BEq.rfl⟩
  rw [le h.session, Pool.base]
  omega

/-- Nobody is in the registry without a reference. -/
lemma Ledger.unregistered (le : Ledger p hand) (none : (p.sess s).refCount = 0) :
    (p.sess s).registryRegistered = false := by
  have holders := le s
  rw [none, Pool.base] at holders
  by_contra reg
  rw [if_pos (by simpa using reg)] at holders
  omega

/-! ## One session -/

/-- One session changes, with what is in hand of it. -/
lemma Ledger.change {f : AtpdSession → AtpdSession} {hand' : List Nat} (le : Ledger p hand)
    (here : (f (p.sess s)).refCount + (if (p.sess s).registryRegistered then 1 else 0) +
        hand.count s =
      (p.sess s).refCount + (if (f (p.sess s)).registryRegistered then 1 else 0) + hand'.count s)
    (others : ∀ t, s ≠ t → hand'.count t = hand.count t) : Ledger (p.modify s f) hand' := by
  intro t
  have before := le t
  simp only [Pool.modify, Pool.base, Pool.carriers] at before ⊢
  split
  · rename_i same
    subst same
    omega
  · rename_i other
    rw [others t fun same => other same.symm]
    exact before

/-- A session changes in what the ledger does not read. -/
lemma Ledger.modify {f : AtpdSession → AtpdSession} (le : Ledger p hand)
    (count : (f (p.sess s)).refCount = (p.sess s).refCount)
    (reg : (f (p.sess s)).registryRegistered = (p.sess s).registryRegistered) :
    Ledger (p.modify s f) hand := by
  apply le.change
  · rw [count, reg]
  · intro t _
    rfl

@[simp] lemma registered_get (x : AtpdSession) :
    (atpdSessionGet x).registryRegistered = x.registryRegistered := by
  rw [atpdSessionGet]
  split <;> rfl

/-- A `get` changes no other holder. -/
lemma base_get (p : Pool) (s t : Nat) : (p.get s).base t = p.base t := by
  simp only [Pool.get, Pool.modify, Pool.base, Pool.carriers]
  split
  · rw [registered_get]
  · rfl

/-- What `atpd_session_get` does to the count of a session that is alive. -/
lemma refCount_get {x : AtpdSession} (live : 0 < x.refCount) :
    (atpdSessionGet x).refCount = x.refCount + 1 := by
  rw [atpdSessionGet, if_neg (by omega)]

/-- A reference that is taken is in hand. -/
lemma Ledger.get (le : Ledger p hand) (live : 0 < (p.sess s).refCount) :
    Ledger (p.get s) (s :: hand) := by
  apply le.change
  · rw [refCount_get live, registered_get, List.count_cons_self]
    omega
  · intro t other
    exact List.count_cons_of_ne other

@[simp] lemma refCount_destroyInternal (x : AtpdSession) :
    (destroyInternal x).refCount = x.refCount := by
  rw [destroyInternal]
  split <;> rfl

/-- What `atpd_session_put` does to the count. -/
lemma refCount_put (x : AtpdSession) : (atpdSessionPut x).refCount = x.refCount - 1 := by
  rw [atpdSessionPut]
  split
  · omega
  · split
    · rename_i one
      rw [refCount_destroyInternal, one]
    · rfl

@[simp] lemma registered_put (x : AtpdSession) :
    (atpdSessionPut x).registryRegistered = x.registryRegistered := by
  rw [atpdSessionPut]
  split
  · rfl
  · split
    · rw [destroyInternal]
      split <;> rfl
    · rfl

/-- One that is put was in hand. -/
lemma Ledger.put (le : Ledger p (s :: hand)) : Ledger (p.put s) hand := by
  have live := le.pos List.mem_cons_self
  apply le.change
  · rw [refCount_put, registered_put, List.count_cons_self]
    omega
  · intro t other
    exact (List.count_cons_of_ne other).symm

/-- The registry gives up its reference. -/
lemma Ledger.unregister (le : Ledger p hand) (reg : (p.sess s).registryRegistered = true) :
    Ledger (p.modify s unlink) (s :: hand) := by
  apply le.change
  · rw [reg, List.count_cons_self]
    show _ = (p.sess s).refCount + 0 + _
    simp only [unlink, ↓reduceIte]
    omega
  · intro t other
    exact List.count_cons_of_ne other

/-- A session that nobody holds is in no queue. -/
lemma Ledger.count_gc (le : Ledger p hand) (none : (p.sess s).refCount = 0) : p.gc.count s = 0 := by
  have holders := le s
  rw [none, Pool.base] at holders
  omega

/-- A session that nobody holds gets its first references: one in hand, and one of the registry. -/
lemma Ledger.create {x : AtpdSession} (le : Ledger p hand) (none : (p.sess s).refCount = 0)
    (count : x.refCount = 2) (reg : x.registryRegistered = true) :
    Ledger (p.modify s fun _ => x) (s :: hand) := by
  have unregistered := le.unregistered none
  apply le.change
  · rw [count, reg, unregistered, none, List.count_cons_self]
    simp only [↓reduceIte, Bool.false_eq_true]
    omega
  · intro t other
    exact List.count_cons_of_ne other

@[simp] lemma refCount_setState (x : AtpdSession) (desired : SessionState) :
    (sessionSetState x desired).1.refCount = x.refCount := by
  rw [sessionSetState]
  split <;> rfl

@[simp] lemma registered_setState (x : AtpdSession) (desired : SessionState) :
    (sessionSetState x desired).1.registryRegistered = x.registryRegistered := by
  rw [sessionSetState]
  split <;> rfl

/-! ## Handlers and the queue -/

/-- A handler goes. -/
lemma Ledger.erase {h : Handler} (le : Ledger p hand) (mem : h ∈ p.handlers) :
    Ledger { p with handlers := p.handlers.erase h } (h.session :: hand) := by
  intro t
  have here := le t
  have split := (List.perm_cons_erase mem).countP_eq (·.session == t)
  simp only [Pool.base, Pool.carriers, List.countP_cons, List.count_cons] at here split ⊢
  omega

/-- A handler comes. -/
lemma Ledger.add {h : Handler} (le : Ledger p (h.session :: hand)) :
    Ledger { p with handlers := h :: p.handlers } hand := by
  intro t
  have here := le t
  simp only [Pool.base, Pool.carriers, List.countP_cons, List.count_cons] at here ⊢
  omega

/-- A session is queued. -/
lemma Ledger.enqueue (le : Ledger p (s :: hand)) : Ledger { p with gc := p.gc ++ [s] } hand := by
  intro t
  have here := le t
  simp only [Pool.base, Pool.carriers, List.count_cons, List.count_append, List.count_nil] at here ⊢
  omega

/-- The queue is taken. -/
lemma Ledger.dequeue (le : Ledger p hand) : Ledger { p with gc := [] } (p.gc ++ hand) := by
  intro t
  have here := le t
  simp only [Pool.base, Pool.carriers, List.count_append, List.count_nil] at here ⊢
  omega

/-! ## Calls -/

/-- What the calls have to do, by one of them and the others. -/
lemma flatten_perm {calls : List (List Op)} (here : calls[i]? = some ops) :
    calls.flatten.Perm (ops ++ (calls.eraseIdx i).flatten) := by
  obtain ⟨lt, rfl⟩ := List.getElem?_eq_some_iff.mp here
  exact (List.getElem_cons_eraseIdx_perm lt).symm.flatten

/-- What the calls have to do, when one of them goes on. -/
lemma flatten_set_perm {calls : List (List Op)} (here : calls[i]? = some ops) (rest : List Op) :
    (calls.set i rest).flatten.Perm (rest ++ (calls.eraseIdx i).flatten) := by
  obtain ⟨lt, -⟩ := List.getElem?_eq_some_iff.mp here
  exact (List.set_perm_cons_eraseIdx lt rest).flatten

/-! ## Guards -/

/-- The session that a call touches without a reference of its own. -/
def Op.needs : Op → Option Nat
  | .markClosing s | .closing s | .registryRemove s | .detach s | .gcEnqueue s | .register s _
  | .addIn s _ | .getOut s _ | .addOut s _ | .activate s | .callback s | .emergencyDrain s
  | .drainOne s => some s
  | _ => none

/-- The session that is being closed, or taken from a reactor. -/
def Op.closes : Op → Option Nat
  | .closing s | .registryRemove s | .detach s | .removeFd s _ _ | .gcEnqueue s => some s
  | _ => none

/-- Whatever a call touches it has a reference of left to put; what it closes it has itself got. -/
def Guarded : List Op → Prop
  | [] => True
  | op :: rest =>
    ((∀ s ∈ op.needs, s ∈ refsOf rest) ∧ ∀ s ∈ op.closes, .put s ∈ rest) ∧ Guarded rest

/-- A call that has references of all it needs may do more. -/
lemma Guarded.append (gu : Guarded rest) (need : ∀ op ∈ ops, ∀ s ∈ op.needs, s ∈ refsOf rest)
    (close : ∀ op ∈ ops, ∀ s ∈ op.closes, .put s ∈ rest) : Guarded (ops ++ rest) := by
  induction ops with
  | nil => exact gu
  | cons op ops ih =>
    have later : Guarded (ops ++ rest) :=
      ih (fun o mem => need o (List.mem_cons_of_mem op mem))
        fun o mem => close o (List.mem_cons_of_mem op mem)
    refine ⟨⟨fun s mem => ?_, fun s mem => ?_⟩, later⟩
    · show s ∈ refsOf (ops ++ rest)
      rw [refsOf_append]
      exact List.mem_append_right _ (need op List.mem_cons_self s mem)
    · exact List.mem_append_right _ (close op List.mem_cons_self s mem)

/-- What touches nothing needs no reference. -/
lemma Guarded.idle (gu : Guarded rest) (need : op.needs = none) (close : op.closes = none) :
    Guarded (op :: rest) := by
  refine ⟨⟨fun s mem => ?_, fun s mem => ?_⟩, gu⟩
  · rw [need] at mem
    cases mem
  · rw [close] at mem
    cases mem

/-- A call that touches one session and then puts it. -/
lemma Guarded.put (gu : Guarded rest) (need : ∀ t ∈ op.needs, t = s) (close : ∀ t ∈ op.closes, t = s) :
    Guarded (op :: .put s :: rest) := by
  refine ⟨⟨fun t mem => ?_, fun t mem => ?_⟩, gu.idle rfl rfl⟩
  · rw [need t mem]
    exact List.mem_cons_self
  · rw [close t mem]
    exact List.mem_cons_self

/-- What a call needs is held by the calls. -/
lemma Guarded.needs (gu : Guarded (op :: rest)) (others : List Op) :
    ∀ s ∈ op.needs, s ∈ refsOf (rest ++ others) := by
  intro s mem
  rw [refsOf_append]
  exact List.mem_append_left _ (gu.1.1 s mem)

/-- What is being closed has its own reference in the call. -/
lemma Guarded.put_mem (gu : Guarded ops) (mem : op ∈ ops) (close : s ∈ op.closes) : .put s ∈ ops := by
  induction ops with
  | nil => cases mem
  | cons o ops ih =>
    cases mem with
    | head => exact List.mem_cons_of_mem _ (gu.1.2 s close)
    | tail _ later => exact List.mem_cons_of_mem _ (ih gu.2 later)

/-- The call of a holder has a reference to put. -/
lemma mem_refsOf_of_holder (hold : holder ops = some s) : s ∈ refsOf ops := by
  rw [holder.eq_def] at hold
  split at hold
  · cases hold
    exact List.mem_cons_self
  · cases hold
    exact List.mem_cons_self
  · cases hold

/-! ## Steps of a call -/

/-- A handler is removed, and the session that it carries put. -/
lemma Ledger.removeFd (le : Ledger p hand) (r : Nat) (fd : Int) :
    Ledger (reactorRemoveFd p r fd) hand := by
  rw [reactorRemoveFd]
  split
  · exact le
  · rename_i h found
    exact (le.erase (List.mem_of_find?_eq_some found)).put

/-- A handler is added, and the session of the one it replaces put. -/
lemma Ledger.addFd {fd : Int} (le : Ledger p (s :: hand))
    (added : reactorAddFdEx p r fd s ok = some q) : Ledger q hand := by
  rw [reactorAddFdEx] at added
  split at added
  · cases added
  · split at added
    · cases added
      exact le.add (h := ⟨r, fd, s⟩)
    · rename_i old found
      cases added
      have erased := le.erase (List.mem_of_find?_eq_some found)
      exact ((erased.perm (List.Perm.swap _ _ _)).add (h := ⟨r, fd, s⟩)).put

/-- The snapshot takes a reference of each session. -/
lemma Ledger.getAll {ss : List Nat} (le : Ledger p hand) (live : ∀ s ∈ ss, 0 < (p.sess s).refCount) :
    Ledger (ss.foldl Pool.get p) (ss ++ hand) := by
  induction ss generalizing p hand with
  | nil => exact le
  | cons s ss ih =>
    have first := le.get (live s (by simp))
    have later : ∀ t ∈ ss, 0 < ((p.get s).sess t).refCount := by
      intro t mem
      have before := live t (List.mem_cons_of_mem s mem)
      have same : (p.get s).base t = p.base t := base_get p s t
      rw [le t] at before
      rw [first t, same, List.count_cons]
      omega
    exact (ih first later).perm List.perm_middle

/-- The snapshot has a reference of each of its sessions to put. -/
lemma refsOf_snapshot (ss : List Nat) : refsOf (ss.flatMap fun s => [.drainOne s, .put s]) = ss := by
  induction ss with
  | nil => rfl
  | cons s ss ih =>
    rw [List.flatMap_cons, refsOf_append, ih]
    rfl

/-- One step of a call moves references between the calls and the other holders. -/
lemma Ledger.exec (le : Ledger p (op.ref.toList ++ hand)) (live : ∀ s ∈ op.needs, s ∈ hand) :
    Ledger (exec p ok op).1 (refsOf (exec p ok op).2 ++ hand) := by
  cases op with
  | creatorPut s => exact le.put
  | put s => exact le.put
  | markClosing s => exact le.get (le.pos (live s rfl))
  | closing s =>
    simp only [Refs.exec]
    split
    · exact le
    · exact le.modify (f := toClosing) rfl rfl
  | registryRemove s =>
    simp only [Refs.exec]
    split
    · rename_i reg
      exact le.unregister reg
    · exact le
  | detach s =>
    simp only [Refs.exec]
    split <;> exact le
  | removeFd s r fd => exact le.removeFd r fd
  | gcEnqueue s =>
    simp only [Refs.exec]
    split
    · exact le
    · have flagged : Ledger (p.modify s flagEnqueued) hand := le.modify rfl rfl
      exact flagged.get (flagged.pos (live s rfl))
  | gcLink s =>
    have pending : Ledger (p.modify s fun x => (sessionSetState x .destroyPending).1) (s :: hand) :=
      le.modify (refCount_setState _ _) (registered_setState _ _)
    exact pending.enqueue
  | register s r => exact le.get (le.pos (live s rfl))
  | addIn s r =>
    simp only [Refs.exec]
    split
    · rename_i added
      exact Ledger.addFd le added
    · exact le
  | getOut s r => exact le.get (le.pos (live s rfl))
  | addOut s r =>
    simp only [Refs.exec]
    split
    · rename_i added
      exact Ledger.addFd le added
    · exact le
  | activate s =>
    simp only [Refs.exec]
    split
    · exact le.modify (f := toActive) (refCount_setState _ _) (registered_setState _ _)
    · exact le
  | callback s => exact le
  | emergencyDrain s =>
    simp only [Refs.exec]
    split
    · exact le
    · have drained : Ledger (p.modify s drainPipes) hand := le.modify rfl rfl
      split <;> exact drained
  | snapshot count =>
    -- the registry has a reference to each of them
    have live : ∀ s ∈ p.registry.take count, 0 < (p.sess s).refCount := by
      intro s mem
      have reg : (p.sess s).registryRegistered = true :=
        (List.mem_filter.mp (List.mem_of_mem_take mem)).2
      have holders := le s
      simp only [Pool.base, reg, ↓reduceIte] at holders
      omega
    show Ledger _ (refsOf ((p.registry.take count).flatMap fun s => [.drainOne s, .put s]) ++ hand)
    rw [refsOf_snapshot]
    exact le.getAll live
  | drainOne s =>
    simp only [Refs.exec]
    split <;> exact le

end Atpd.Session.Refs
