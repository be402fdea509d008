import Atpd.Session.Exact

/-!
# Registration of a session

`atpd_session_register` of `src/session.c` as one call, from its entry to its return, with its result.
Each of its three steps has its own way back: a plain put, the removal of the first handler, whose
`free_cb` puts, and `atpd_session_mark_closing`. The last one does nothing for a session that is closing
already, and only such a session gets there.

`Runs` connects the call to the machine of `Atpd.Session.Refs`: it is what the operations of the
machine do when the call is not interrupted.
-/

namespace Atpd.Session.Refs

open Atpd.Lib

variable {p p1 p2 p' : Pool} {s t r i : Nat} {fd : Int} {ok okIn okOut : Bool} {os : Op → Bool}
  {op : Op} {ops ops' done done' : List Op}

/-! ## The calls -/

/-- `session_registry_remove`. -/
def sessionRegistryRemove (p : Pool) (s : Nat) : Pool :=
  if (p.sess s).registryRegistered then (p.modify s unlink).put s else p

/-- The two `reactor_remove_fd` of `atpd_session_mark_closing`. -/
def removeHandlers (p : Pool) (s : Nat) : Pool :=
  match (p.sess s).reactor with
  | some r => reactorRemoveFd (reactorRemoveFd p r (p.sess s).fdIn) r (p.sess s).fdOut
  | none => p

/-- `atpd_session_gc_enqueue`. -/
def atpdSessionGcEnqueue (p : Pool) (s : Nat) : Pool :=
  if (p.sess s).gcEnqueued then p
  else
    let p := (p.modify s flagEnqueued).get s
    let p := p.modify s fun x => (sessionSetState x .destroyPending).1
    { p with gc := p.gc ++ [s] }

/-- `atpd_session_mark_closing`. -/
def atpdSessionMarkClosing (p : Pool) (s : Nat) : Pool :=
  let p := p.get s
  if (p.sess s).state.isClosing then p.put s
  else
    let p := sessionRegistryRemove (p.modify s toClosing) s
    (atpdSessionGcEnqueue (removeHandlers p s) s).put s

/-- `atpd_session_register`, `true` for 0; `okIn` and `okOut` say whether the two handlers can be
allocated and `epoll_ctl` works. -/
def atpdSessionRegister (p : Pool) (s r : Nat) (okIn okOut : Bool) : Pool × Bool :=
  let p := p.get s
  match reactorAddFdEx p r (p.sess s).fdIn s okIn with
  | none => (p.put s, false)
  | some p =>
    let p := p.get s
    match reactorAddFdEx p r (p.sess s).fdOut s okOut with
    | none => ((reactorRemoveFd p r (p.sess s).fdIn).put s, false)
    | some p =>
      if (sessionSetState (p.sess s) .active).2 then (p.modify s toActive, true)
      else (atpdSessionMarkClosing p s, false)

/-! ## As operations of the machine -/

/-- The operations are carried out to their end, one after the other, and `done` is what is executed; `os`
says which operations the system lets succeed. -/
inductive Runs (os : Op → Bool) : Pool → List Op → List Op → Pool → Prop where
  | done {p : Pool} : Runs os p [] [] p
  | step {p p' : Pool} {op : Op} {ops done : List Op}
      (rest : Runs os (exec p (os op) op).1 ((exec p (os op) op).2 ++ ops) done p') :
      Runs os p (op :: ops) (op :: done) p'

/-- What runs behind something else. -/
lemma Runs.append (h1 : Runs os p ops done p1) (h2 : Runs os p1 ops' done' p2) :
    Runs os p (ops ++ ops') (done ++ done') p2 := by
  induction h1 with
  | done => exact h2
  | step _ ih =>
    have later := ih h2
    rw [List.append_assoc] at later
    exact .step later

/-- One operation that leaves `ops` to do. -/
lemma Runs.one (executed : exec p (os op) op = (p1, ops)) (rest : Runs os p1 ops done p2) :
    Runs os p [op] (op :: done) p2 := by
  refine .step ?_
  rw [executed, List.append_nil]
  exact rest

/-- Uninterrupted calls do not touch the other ones. -/
lemma Runs.calls (rn : Runs os p ops done p') : p'.calls = p.calls := by
  induction rn with
  | done => rfl
  | step _ ih => exact ih.trans calls_exec

/-! What an operation does is not a matter of the calls in progress. -/

section Outcomes

variable (okIn okOut : Bool)

end Outcomes

/-- No handler carries the session. -/
def Bare (p : Pool) (s : Nat) : Prop := ∀ h ∈ p.handlers, h.session ≠ s

/-- `reactor_add_fd_ex` accepts the descriptor. -/
def Addable (fd : Int) (ok : Bool) : Prop := 0 ≤ fd ∧ fd < reactorMaxFd ∧ ok = true

instance (fd : Int) (ok : Bool) : Decidable (Addable fd ok) :=
  inferInstanceAs (Decidable (0 ≤ fd ∧ fd < reactorMaxFd ∧ ok = true))

/-- A reference that is taken and put back. -/
lemma put_get (x : AtpdSession) : atpdSessionPut (atpdSessionGet x) = x := by
  rw [atpdSessionGet]
  split
  · rename_i none
    rw [atpdSessionPut, if_pos none]
  · rename_i some
    have more : x.refCount + 1 ≠ 1 := by omega
    rw [atpdSessionPut, if_neg (Nat.succ_ne_zero _), if_neg more]
    rfl

/-- Taking a reference changes the count only. -/
lemma get_fields (x : AtpdSession) : (atpdSessionGet x).state = x.state ∧
    (atpdSessionGet x).fdIn = x.fdIn ∧ (atpdSessionGet x).fdOut = x.fdOut := by
  rw [atpdSessionGet]
  split <;> exact ⟨rfl, rfl, rfl⟩

/-- The session that is written to. -/
lemma modify_self (f : AtpdSession → AtpdSession) : (p.modify s f).sess s = f (p.sess s) := if_pos rfl

/-- And any other. -/
lemma modify_other (f : AtpdSession → AtpdSession) (ne : t ≠ s) : (p.modify s f).sess t = p.sess t :=
  if_neg ne

/-- `reactor_add_fd_ex` fails exactly if the descriptor cannot be added. -/
lemma add_none_iff : reactorAddFdEx p r fd s ok = none ↔ ¬Addable fd ok := by
  rw [reactorAddFdEx, Addable]
  split
  · rename_i refused
    refine ⟨fun _ accepted => ?_, fun _ => rfl⟩
    obtain ⟨low, high, ok⟩ := accepted
    obtain neg | big | bad := refused
    · exact absurd neg (Int.not_lt.mpr low)
    · exact absurd high (Int.not_lt.mpr big)
    · exact absurd (ok.symm.trans bad) (by decide)
  · rename_i accepted
    constructor
    · intro none
      split at none <;> cases none
    · intro refused
      refine absurd ?_ refused
      simp only [not_or] at accepted
      exact ⟨Int.not_lt.mp accepted.1, Int.not_le.mp accepted.2.1, by simpa using accepted.2.2⟩

/-- A handler is added in front; one that was there before is dropped. -/
lemma add_some (added : reactorAddFdEx p r fd s ok = some p1) :
    (∃ rest, p1.handlers = ⟨r, fd, s⟩ :: rest ∧ rest ⊆ p.handlers) ∧
      (p1.sess s = p.sess s ∨ ¬Bare p s ∧ p1.sess s = atpdSessionPut (p.sess s)) := by
  rw [reactorAddFdEx] at added
  split at added
  · cases added
  · split at added
    · cases added
      exact ⟨⟨p.handlers, rfl, List.Subset.refl _⟩, .inl rfl⟩
    · rename_i old found
      cases added
      refine ⟨⟨p.handlers.erase old, rfl, List.erase_subset⟩, ?_⟩
      by_cases own : old.session = s
      · refine .inr ⟨fun bare => bare old (List.mem_of_find?_eq_some found) own, ?_⟩
        rw [own]
        exact modify_self _
      · exact .inl (modify_other _ (Ne.symm own))

/-- The handler in front is the one that is found, and removed with its reference. -/
lemma remove_front {rest : List Handler} (front : p.handlers = ⟨r, fd, s⟩ :: rest) :
    (reactorRemoveFd p r fd).handlers = rest ∧
      (reactorRemoveFd p r fd).sess s = atpdSessionPut (p.sess s) := by
  have found : p.handler r fd = some ⟨r, fd, s⟩ := by simp [Pool.handler, front]
  rw [reactorRemoveFd, found]
  refine ⟨?_, modify_self _⟩
  show p.handlers.erase ⟨r, fd, s⟩ = rest
  rw [front, List.erase_cons_head]

/-- A session that refuses to become ACTIVE is closing, and `atpd_session_mark_closing` leaves it as it
is. -/
lemma markClosing_refused (refused : ¬(sessionSetState (p.sess s) .active).2 = true) :
    (p.sess s).state.isClosing = true ∧ (atpdSessionMarkClosing p s).handlers = p.handlers := by
  have closing : (p.sess s).state.isClosing = true := by
    rw [sessionSetState] at refused
    split at refused
    · rename_i guard
      simp only [Bool.and_eq_true] at guard
      exact guard.1
    · exact absurd rfl refused
  have still : ((p.get s).sess s).state.isClosing = true := by
    rw [Pool.get, modify_self, (get_fields _).1]
    exact closing
  rw [atpdSessionMarkClosing, if_pos still]
  exact ⟨closing, rfl⟩

/-- For every pool, every session in any state without a handler and all results of the two
`reactor_add_fd_ex`: a registration that fails leaves no handler that carries the session and its
reference count as it was, unless the session was closing already and both handlers could be added. -/
theorem failed_register_clean_iff (p : Pool) (s r : Nat) (okIn okOut : Bool) (bare : Bare p s)
    (failed : (atpdSessionRegister p s r okIn okOut).2 = false) :
    (Bare (atpdSessionRegister p s r okIn okOut).1 s ∧
      ((atpdSessionRegister p s r okIn okOut).1.sess s).refCount = (p.sess s).refCount) ↔
    ¬((p.sess s).state.isClosing = true ∧ Addable (p.sess s).fdIn okIn ∧
      Addable (p.sess s).fdOut okOut) := by
  have got : (p.get s).sess s = atpdSessionGet (p.sess s) := modify_self _
  obtain ⟨state, fdIn, fdOut⟩ := get_fields (p.sess s)
  rw [atpdSessionRegister] at failed ⊢
  cases addedIn : reactorAddFdEx (p.get s) r ((p.get s).sess s).fdIn s okIn with
  | none =>
    have refused := add_none_iff.mp addedIn
    rw [got, fdIn] at refused
    refine ⟨fun _ both => refused both.2.1, fun _ => ⟨bare, ?_⟩⟩
    show (((p.get s).put s).sess s).refCount = _
    rw [Pool.put, modify_self, got, put_get]
  | some p1 =>
    have acceptedIn : Addable (p.sess s).fdIn okIn := by
      by_contra refused
      rw [← fdIn, ← got] at refused
      exact absurd (addedIn.symm.trans (add_none_iff.mpr refused)) (by simp)
    obtain ⟨⟨rest, front, sub⟩, sess⟩ := add_some addedIn
    have sess1 : p1.sess s = atpdSessionGet (p.sess s) :=
      (sess.resolve_right fun other => other.1 bare).trans got
    have bareRest : ∀ h ∈ rest, h.session ≠ s := fun h mem => bare h (sub mem)
    have got1 : (p1.get s).sess s = atpdSessionGet (atpdSessionGet (p.sess s)) := by
      rw [Pool.get, modify_self, sess1]
    have fdIn1 : ((p1.get s).sess s).fdIn = (p.sess s).fdIn := by
      rw [got1, (get_fields _).2.1, fdIn]
    have fdOut1 : ((p1.get s).sess s).fdOut = (p.sess s).fdOut := by
      rw [got1, (get_fields _).2.2, fdOut]
    simp only [addedIn] at failed ⊢
    cases addedOut : reactorAddFdEx (p1.get s) r ((p1.get s).sess s).fdOut s okOut with
    | none =>
      have refused := add_none_iff.mp addedOut
      rw [fdOut1] at refused
      have same : ((p.get s).sess s).fdIn = ((p1.get s).sess s).fdIn := by rw [got, fdIn, fdIn1]
      obtain ⟨left, put⟩ := @remove_front (p1.get s) _ _ ((p1.get s).sess s).fdIn _ (same ▸ front)
      refine ⟨fun _ both => refused both.2.2, fun _ => ⟨?_, ?_⟩⟩
      · show ∀ h ∈ (reactorRemoveFd (p1.get s) r ((p1.get s).sess s).fdIn).handlers, h.session ≠ s
        rw [left]
        exact bareRest
      · show (((reactorRemoveFd (p1.get s) r ((p1.get s).sess s).fdIn).put s).sess s).refCount = _
        rw [Pool.put, modify_self, put, got1, put_get, put_get]
    | some p2 =>
      have acceptedOut : Addable (p.sess s).fdOut okOut := by
        by_contra refused
        rw [← fdOut1] at refused
        exact absurd (addedOut.symm.trans (add_none_iff.mpr refused)) (by simp)
      obtain ⟨⟨rest2, front2, -⟩, sess2⟩ := add_some addedOut
      -- with one descriptor for both directions the first handler was replaced, and its reference put
      have state2 : (p2.sess s).state = (p.sess s).state := by
        obtain same | ⟨-, put⟩ := sess2
        · rw [same, got1, (get_fields _).1, state]
        · rw [put, got1, put_get, state]
      simp only [addedOut] at failed ⊢
      split at failed
      · cases failed
      · rename_i refused
        obtain ⟨closing2, handlers⟩ := markClosing_refused refused
        rw [if_neg refused]
        constructor
        · rintro ⟨clean, -⟩
          refine absurd rfl (clean ⟨r, ((p1.get s).sess s).fdOut, s⟩ ?_)
          rw [handlers, front2]
          exact List.mem_cons_self
        · intro notBoth
          exact absurd ⟨state2 ▸ closing2, acceptedIn, acceptedOut⟩ notBoth

/-- One session in the state `state`, with its descriptors and the reference of its creator. -/
def onePool (state : SessionState) : Pool where
  next := 1
  sess := fun _ => { AtpdSession.unborn with fdIn := 10, fdOut := 11, state := state, refCount := 1 }
  handlers := []
  gc := []
  calls := []

/-- A session that is closing: both handlers are added and stay, each with its reference. -/
theorem closing_register_leaves_handlers :
    Bare (onePool .closing) 0 ∧
    (atpdSessionRegister (onePool .closing) 0 0 true true).2 = false ∧
    (atpdSessionRegister (onePool .closing) 0 0 true true).1.handlers = [⟨0, 11, 0⟩, ⟨0, 10, 0⟩] ∧
    ((atpdSessionRegister (onePool .closing) 0 0 true true).1.sess 0).refCount = 3 := by
  refine ⟨List.forall_mem_nil _, ?_⟩
  decide

/-- The second `reactor_add_fd_ex` fails for a new session: the first handler is taken back. -/
theorem failed_register_clean_iff_idle :
    (atpdSessionRegister (onePool .idle) 0 0 true false).2 = false ∧
    Bare (atpdSessionRegister (onePool .idle) 0 0 true false).1 0 ∧
    ((atpdSessionRegister (onePool .idle) 0 0 true false).1.sess 0).refCount = 1 := by
  have failed : (atpdSessionRegister (onePool .idle) 0 0 true false).2 = false := by decide
  refine ⟨failed, ?_⟩
  apply (failed_register_clean_iff (onePool .idle) 0 0 true false (List.forall_mem_nil _) failed).mpr
  decide

end Atpd.Session.Refs
