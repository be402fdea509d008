import Atpd.Session.Exact

/-!
# Is a closed session freed?

A session that is closed is taken from the registry and from its reactor, and waits in the GC queue for
`atpd_session_gc_process` to put the last reference. What it does not wait for is its creator: the
reference of `atpd_session_create` is nobody's to put but the creator's own. And it is taken only from
the reactor that it was created with, and only once.

So a session is freed exactly if its creator has put it and no handler carries it; and none does if it
is registered with its own reactor only, and not when closing has begun.
-/

namespace Atpd.Session.Refs

open Atpd.Lib

variable {p q : Pool} {s t i r : Nat} {ops rest todo todo' : List Op} {op : Op} {hand : List Nat}
  {ok : Bool} {fd : Int} {h : Handler} {e : Event} {es : List Event}

/-! ## How closing begins -/

/-- No session begins to close, but one that is freed. -/
def Pool.Calm (p q : Pool) : Prop :=
  ∀ s, (q.sess s).state.isClosing = true →
    (p.sess s).state.isClosing = true ∨ (q.sess s).refCount = 0

lemma Pool.Calm.rfl : p.Calm p := fun _ => .inl

/-- A session may be written to, if it does not begin to close unless it is gone. -/
lemma Pool.calm_modify {f : AtpdSession → AtpdSession}
    (calm : (f (p.sess s)).state.isClosing = true →
      (p.sess s).state.isClosing = true ∨ (f (p.sess s)).refCount = 0) :
    p.Calm (p.modify s f) := by
  intro t begun
  simp only [Pool.modify] at begun ⊢
  split at begun
  · rename_i same
    subst same
    rw [if_pos (.refl t)]
    exact calm begun
  · exact .inl begun

/-- A reference more does not change the state. -/
lemma state_get (x : AtpdSession) : (atpdSessionGet x).state = x.state := by
  rw [atpdSessionGet]
  split <;> rfl

/-- A reference more closes nothing. -/
lemma Pool.calm_get (p : Pool) (s : Nat) : p.Calm (p.get s) :=
  Pool.calm_modify fun begun => .inl (state_get _ ▸ begun)

/-- A reference less may end a session, and does not close it otherwise. -/
lemma Pool.calm_put (p : Pool) (s : Nat) : p.Calm (p.put s) := by
  apply Pool.calm_modify
  intro begun
  rw [refCount_put]
  rw [atpdSessionPut] at begun
  split at begun
  · exact .inl begun
  · split at begun
    · right
      omega
    · exact .inl begun

/-- A transition to an open state closes nothing. -/
lemma begun_setState {x : AtpdSession} {desired : SessionState} (opens : desired.isClosing = false)
    (begun : (sessionSetState x desired).1.state.isClosing = true) : x.state.isClosing = true := by
  rw [sessionSetState] at begun
  split at begun
  · exact begun
  · rw [opens] at begun
    cases begun

/-- Nor do the references of a whole list. -/
lemma state_getAll (p : Pool) (ss : List Nat) (s : Nat) :
    ((ss.foldl Pool.get p).sess s).state = (p.sess s).state := by
  induction ss generalizing p with
  | nil => rfl
  | cons t ss ih =>
    rw [List.foldl_cons, ih, Pool.get, Pool.modify]
    show (if s = t then atpdSessionGet (p.sess s) else p.sess s).state = (p.sess s).state
    split
    · exact state_get _
    · rfl

/-- A handler that is removed gives its reference back. -/
lemma calm_removeFd (p : Pool) (r : Nat) (fd : Int) : p.Calm (reactorRemoveFd p r fd) := by
  rw [reactorRemoveFd]
  split
  · exact .rfl
  · exact p.calm_put _

/-- A handler that is added takes one. -/
lemma calm_addFd (added : reactorAddFdEx p r fd s ok = some q) : p.Calm q := by
  rw [reactorAddFdEx] at added
  split at added
  · cases added
  · split at added
    · cases added
      exact fun _ => .inl
    · cases added
      exact p.calm_put _

/-- Only `atpd_session_mark_closing` closes a session; the GC queue takes it further. -/
lemma calm_exec (close : ∀ s, op ≠ .closing s) (link : ∀ s, op ≠ .gcLink s) :
    p.Calm (exec p ok op).1 := by
  cases op with
  | closing s => exact absurd rfl (close s)
  | gcLink s => exact absurd rfl (link s)
  | creatorPut s | put s => exact p.calm_put s
  | markClosing s | register s r | getOut s r => exact p.calm_get s
  | registryRemove s =>
    simp only [exec]
    split
    · exact Pool.calm_modify .inl
    · exact .rfl
  | detach s =>
    simp only [exec]
    split <;> exact .rfl
  | removeFd s r fd => exact calm_removeFd p r fd
  | gcEnqueue s =>
    simp only [exec]
    split
    · exact .rfl
    · intro t begun
      rcases Pool.calm_get _ s t begun with flagged | none
      · left
        simp only [Pool.modify] at flagged
        split at flagged <;> exact flagged
      · exact .inr none
  | addIn s r | addOut s r =>
    simp only [exec]
    split
    · rename_i added
      exact calm_addFd added
    · exact .rfl
  | activate s =>
    simp only [exec]
    split
    · exact Pool.calm_modify fun begun => .inl (begun_setState rfl begun)
    · exact .rfl
  | callback s => exact .rfl
  | emergencyDrain s =>
    simp only [exec]
    split
    · exact .rfl
    · exact Pool.calm_modify .inl
  | snapshot count => exact fun s begun => .inl (state_getAll p _ s ▸ begun)
  | drainOne s => exact .rfl

/-! ## Handlers -/

/-- Where the handler is. -/
def Handler.key (h : Handler) : Nat × Int := (h.reactor, h.fd)

/-- There is one handler in a place. -/
def Pool.Distinct (p : Pool) : Prop := (p.handlers.map Handler.key).Nodup

/-- A handler that is found has the key that was looked for. -/
lemma Pool.key_of_handler (found : p.handler r fd = some h) : h ∈ p.handlers ∧ h.key = (r, fd) := by
  refine ⟨List.mem_of_find?_eq_some found, ?_⟩
  have here := List.find?_some found
  simp only [Bool.and_eq_true, beq_iff_eq] at here
  rw [Handler.key, here.1, here.2]

/-- If none is found, none has it. -/
lemma Pool.key_ne_of_handler (none : p.handler r fd = none) (mem : h ∈ p.handlers) :
    h.key ≠ (r, fd) := by
  have away := List.find?_eq_none.mp none h mem
  intro same
  obtain ⟨rfl, rfl⟩ := Prod.mk.inj same
  simp at away

/-- When a handler is erased nothing is left in its place. -/
lemma Pool.Distinct.key_erase {old : Handler} (di : p.Distinct) (mem : old ∈ p.handlers)
    (left : h ∈ p.handlers.erase old) : h ∈ p.handlers ∧ h.key ≠ old.key := by
  refine ⟨List.mem_of_mem_erase left, fun same => ?_⟩
  have all : (old.key :: (p.handlers.erase old).map Handler.key).Nodup :=
    ((List.perm_cons_erase mem).map Handler.key).nodup_iff.mp di
  exact (List.nodup_cons.mp all).1 (same ▸ List.mem_map_of_mem left)

/-- Without one handler the keys are still distinct. -/
lemma Pool.Distinct.erase (di : p.Distinct) (old : Handler) :
    ((p.handlers.erase old).map Handler.key).Nodup :=
  (List.erase_sublist.map Handler.key).nodup di

/-- Removing keeps the keys distinct. -/
lemma Pool.Distinct.removeFd (di : p.Distinct) : (reactorRemoveFd p r fd).Distinct := by
  rw [reactorRemoveFd]
  split
  · exact di
  · exact di.erase _

/-- Adding takes the place of the handler with the same key. -/
lemma Pool.Distinct.addFd (di : p.Distinct) (added : reactorAddFdEx p r fd s ok = some q) :
    q.Distinct := by
  rw [reactorAddFdEx] at added
  split at added
  · cases added
  · split at added
    · rename_i none
      cases added
      refine List.nodup_cons.mpr ⟨fun mem => ?_, di⟩
      obtain ⟨h, here, same⟩ := List.mem_map.mp mem
      exact Pool.key_ne_of_handler none here same
    · rename_i old found
      cases added
      obtain ⟨here, key⟩ := Pool.key_of_handler found
      refine List.nodup_cons.mpr ⟨fun mem => ?_, di.erase old⟩
      obtain ⟨h, left, same⟩ := List.mem_map.mp mem
      exact (di.key_erase here left).2 (same.trans key.symm)

/-- A handler that is left has another key. -/
lemma mem_removeFd (di : p.Distinct) (mem : h ∈ (reactorRemoveFd p r fd).handlers) :
    h ∈ p.handlers ∧ h.key ≠ (r, fd) := by
  rw [reactorRemoveFd] at mem
  split at mem
  · rename_i none
    exact ⟨mem, Pool.key_ne_of_handler none mem⟩
  · rename_i old found
    obtain ⟨here, key⟩ := Pool.key_of_handler found
    exact key ▸ di.key_erase here mem

/-- A handler is the new one, or was there. -/
lemma mem_addFd (added : reactorAddFdEx p r fd s ok = some q) (mem : h ∈ q.handlers) :
    h = ⟨r, fd, s⟩ ∨ h ∈ p.handlers := by
  rw [reactorAddFdEx] at added
  split at added
  · cases added
  · split at added
    · cases added
      exact List.mem_cons.mp mem
    · cases added
      rcases List.mem_cons.mp mem with new | left
      · exact .inl new
      · exact .inr (List.mem_of_mem_erase left)

/-- References do not change the handlers. -/
lemma handlers_getAll (p : Pool) (ss : List Nat) : (ss.foldl Pool.get p).handlers = p.handlers := by
  induction ss generalizing p with
  | nil => rfl
  | cons s ss ih => exact ih (p.get s)

/-- What takes no handler away and adds none. -/
lemma handlers_exec (remove : ∀ s r fd, op ≠ .removeFd s r fd) (addIn : ∀ s r, op ≠ .addIn s r)
    (addOut : ∀ s r, op ≠ .addOut s r) : (exec p ok op).1.handlers = p.handlers := by
  cases op with
  | removeFd s r fd => exact absurd rfl (remove s r fd)
  | addIn s r => exact absurd rfl (addIn s r)
  | addOut s r => exact absurd rfl (addOut s r)
  | snapshot count => exact handlers_getAll p _
  | _ =>
    simp only [exec]
    try split
    all_goals rfl

/-- No operation makes two handlers of one key. -/
lemma Pool.Distinct.exec (di : p.Distinct) : (exec p ok op).1.Distinct := by
  cases op with
  | removeFd s r fd => exact di.removeFd
  | addIn s r | addOut s r =>
    simp only [Refs.exec]
    split
    · rename_i added
      exact di.addFd added
    · exact di
  | _ =>
    rw [Pool.Distinct, handlers_exec (by simp) (by simp) (by simp)]
    exact di

/-- Where the handlers after a step come from. -/
lemma mem_handlers_exec (mem : h ∈ (exec p ok op).1.handlers) : h ∈ p.handlers ∨
    (op = .addIn h.session h.reactor ∧ h.fd = (p.sess h.session).fdIn) ∨
    (op = .addOut h.session h.reactor ∧ h.fd = (p.sess h.session).fdOut) := by
  cases op with
  | removeFd s r fd =>
    left
    simp only [exec, reactorRemoveFd] at mem
    split at mem
    · exact mem
    · exact List.mem_of_mem_erase mem
  | addIn s r =>
    simp only [exec] at mem
    split at mem
    · rename_i added
      rcases mem_addFd added mem with rfl | old
      · exact .inr (.inl ⟨rfl, rfl⟩)
      · exact .inl old
    · exact .inl mem
  | addOut s r =>
    simp only [exec] at mem
    split at mem
    · rename_i added
      rcases mem_addFd added mem with rfl | old
      · exact .inr (.inr ⟨rfl, rfl⟩)
      · exact .inl old
    · exact .inl mem
  | _ =>
    rw [handlers_exec (by simp) (by simp) (by simp)] at mem
    exact .inl mem

/-! ## A session that is closing -/

/-- The session that is going to be queued. -/
def Op.links : Op → Option Nat
  | .gcEnqueue s | .gcLink s => some s
  | _ => none

/-- What is true of a session that is closing, where `todo` is all that the calls have still to do. -/
structure Closing (p : Pool) (todo : List Op) (s : Nat) : Prop where
  registered : (p.sess s).state.isClosing = true → (p.sess s).registryRegistered = true →
    .registryRemove s ∈ todo
  linked : ∀ op ∈ todo, s ∈ op.links → (p.sess s).state.isClosing = true

/-- The handler is one that the session would be registered with. -/
def Handler.At (h : Handler) (x : AtpdSession) : Prop :=
  x.reactor = some h.reactor ∧ (h.fd = x.fdIn ∨ h.fd = x.fdOut)

/-- Where a handler belongs depends on the ends of the session. -/
lemma Handler.At.of_ends {x x' : AtpdSession} (place : h.At x) (same : x'.ends = x.ends) : h.At x' := by
  obtain ⟨reactor, fdIn, fdOut⟩ : x'.reactor = x.reactor ∧ x'.fdIn = x.fdIn ∧ x'.fdOut = x.fdOut := by
    simpa [AtpdSession.ends] using same
  rw [Handler.At, reactor, fdIn, fdOut]
  exact place

/-- The handlers of a session are where the session says, and taken away when it is closing. -/
structure Tied (p : Pool) (todo : List Op) (s : Nat) : Prop where
  own : ∀ h ∈ p.handlers, h.session = s → h.At (p.sess s)
  leaves : (p.sess s).state.isClosing = true → ∀ h ∈ p.handlers, h.session = s →
    .detach s ∈ todo ∨ .removeFd s h.reactor h.fd ∈ todo

/-- Nothing begins to close, and the handlers stay. -/
structure Quiet (p q : Pool) : Prop where
  calm : p.Calm q
  closing : ∀ s, (p.sess s).state.isClosing = true → (q.sess s).state.isClosing = true
  registered : ∀ s, (q.sess s).registryRegistered = true →
    (p.sess s).registryRegistered = true ∨ (q.sess s).state.isClosing = false
  ends : ∀ s, 0 < (p.sess s).refCount → 0 < (q.sess s).refCount → (q.sess s).ends = (p.sess s).ends
  handlers : q.handlers = p.handlers

/-- What happens in a step that is not the step of a call: calls have more to do. -/
structure CalmStep (p q : Pool) : Prop extends Quiet p q where
  todo : ∃ new, q.calls.flatten.Perm (new ++ p.calls.flatten) ∧ ∀ op ∈ new, op.links = none

/-- A step that closes nothing keeps what is known of the closing. -/
lemma Closing.calm (cl : Closing p p.calls.flatten s) (le : Ledger q hand) (st : CalmStep p q) :
    Closing q q.calls.flatten s := by
  obtain ⟨new, same, free⟩ := st.todo
  constructor
  · intro begun reg
    rcases st.calm s begun with begun' | none
    · rcases st.registered s reg with reg' | opens
      · exact same.mem_iff.mpr (List.mem_append_right _ (cl.registered begun' reg'))
      · rw [opens] at begun
        cases begun
    · rw [le.unregistered none] at reg
      cases reg
  · intro op mem link
    rcases List.mem_append.mp (same.mem_iff.mp mem) with fresh | old
    · rw [free op fresh] at link
      cases link
    · exact st.closing s (cl.linked op old link)

/-- And what is known of the handlers. -/
lemma Tied.calm {hand' : List Nat} (ti : Tied p p.calls.flatten s) (le : Ledger p hand)
    (le' : Ledger q hand') (st : CalmStep p q) : Tied q q.calls.flatten s := by
  obtain ⟨new, same, -⟩ := st.todo
  constructor
  · intro h mem carries
    subst carries
    have before : h ∈ p.handlers := st.handlers ▸ mem
    have ends := st.ends h.session (le.pos_of_carrier before) (le'.pos_of_carrier mem)
    exact (ti.own h before rfl).of_ends ends
  · intro begun h mem carries
    subst carries
    rcases st.calm h.session begun with begun' | none
    · rcases ti.leaves begun' h (st.handlers ▸ mem) rfl with detach | remove
      · exact .inl (same.mem_iff.mpr (List.mem_append_right _ detach))
      · exact .inr (same.mem_iff.mpr (List.mem_append_right _ remove))
    · have pos := le'.pos_of_carrier mem
      omega

/-! ## A step of a call -/

/-- A session that is closing after a step was closing, is freed, or begins to close with it. -/
lemma begun_exec (begun : ((exec p ok op).1.sess s).state.isClosing = true) :
    (p.sess s).state.isClosing = true ∨ ((exec p ok op).1.sess s).refCount = 0 ∨ op = .closing s ∨
      op = .gcLink s := by
  by_cases close : ∃ t, op = .closing t
  · obtain ⟨t, rfl⟩ := close
    by_cases same : s = t
    · exact .inr (.inr (.inl (by rw [same])))
    · left
      simp only [exec] at begun
      split at begun
      · exact begun
      · simpa [Pool.modify, same] using begun
  · by_cases link : ∃ t, op = .gcLink t
    · obtain ⟨t, rfl⟩ := link
      by_cases same : s = t
      · exact .inr (.inr (.inr (by rw [same])))
      · left
        simpa [exec, Pool.modify, same] using begun
    · rcases calm_exec (fun t eq => close ⟨t, eq⟩) (fun t eq => link ⟨t, eq⟩) s begun with old | none
      · exact .inl old
      · exact .inr (.inl none)

/-- Only what closes a session goes on to queue it. -/
lemma links_exec {o : Op} (mem : o ∈ (exec p ok op).2) (link : s ∈ o.links) :
    op = .gcEnqueue s ∨ op = .closing s := by
  cases op <;> grind [exec, Op.links]

/-- The parts of the closing. -/
lemma exec_closing (opens : (p.sess s).state.isClosing = false) : exec p ok (.closing s) =
    (p.modify s toClosing, [.registryRemove s, .detach s, .gcEnqueue s]) := by
  simp [exec, opens]

/-- The operation that closes has closed. -/
lemma begun_closing : ((exec p ok (.closing s)).1.sess s).state.isClosing = true := by
  simp only [exec]
  split
  · rename_i begun
    exact begun
  · simp [Pool.modify, toClosing, SessionState.isClosing]

/-- An operation keeps what is known of the closing, by cases on it. -/
lemma Closing.exec (cl : Closing p (op :: todo) s) (ev : p.Evolves (exec p ok op).1)
    (le : Ledger (exec p ok op).1 hand) :
    Closing (exec p ok op).1 ((exec p ok op).2 ++ todo) s := by
  constructor
  · intro begun reg
    cases was : (p.sess s).state.isClosing with
    | true =>
      have reg' := (ev s).registered reg
      cases cl.registered was reg' with
      | head =>
        -- it is taken from the registry now
        simp [Refs.exec, reg', Pool.modify, unlink] at reg
      | tail _ later => exact List.mem_append_right _ later
    | false =>
      rcases begun_exec begun with begun' | none | rfl | rfl
      · rw [was] at begun'
        cases begun'
      · rw [le.unregistered none] at reg
        cases reg
      · rw [exec_closing was]
        exact List.mem_cons_self
      · rw [cl.linked _ List.mem_cons_self rfl] at was
        cases was
  · intro o mem link
    rcases List.mem_append.mp mem with new | old
    · rcases links_exec new link with rfl | rfl
      · exact (ev s).closing (cl.linked _ List.mem_cons_self rfl)
      · exact begun_closing
    · exact (ev s).closing (cl.linked o (List.mem_cons_of_mem _ old) link)

/-- The session and the reactor that a handler is added for. -/
def Op.adds : Op → Option (Nat × Nat)
  | .addIn s r | .addOut s r => some (s, r)
  | _ => none

/-- A handler of the session is added where the session says, and not when it is closing. -/
def Op.Orderly (s : Nat) (p : Pool) (op : Op) : Prop :=
  ∀ a ∈ op.adds, a.1 = s → (p.sess s).reactor = some a.2 ∧ (p.sess s).state.isClosing = false

instance Op.decidableOrderly : Decidable (Op.Orderly s p op) :=
  inferInstanceAs (Decidable (∀ a ∈ op.adds, _))

/-- An orderly operation keeps the handlers of the session tied. -/
lemma Tied.exec (ti : Tied p (op :: todo) s) (cl : Closing p (op :: todo) s) (di : p.Distinct)
    (orderly : op.Orderly s p) (ev : p.Evolves (exec p ok op).1) (le : Ledger (exec p ok op).1 hand) :
    Tied (exec p ok op).1 ((exec p ok op).2 ++ todo) s := by
  constructor
  · intro h mem carries
    subst carries
    have ends := (ev h.session).ends (le.pos_of_carrier mem)
    refine Handler.At.of_ends ?_ ends
    rcases mem_handlers_exec mem with old | ⟨rfl, fd⟩ | ⟨rfl, fd⟩
    · exact ti.own h old rfl
    · exact ⟨(orderly _ rfl rfl).1, .inl fd⟩
    · exact ⟨(orderly _ rfl rfl).1, .inr fd⟩
  · intro begun h mem carries
    subst carries
    have pos := le.pos_of_carrier mem
    cases was : (p.sess h.session).state.isClosing with
    | false =>
      rcases begun_exec begun with begun' | none | rfl | rfl
      · rw [was] at begun'
        cases begun'
      · omega
      · rw [exec_closing was]
        exact .inl (List.mem_cons_of_mem _ List.mem_cons_self)
      · rw [cl.linked _ List.mem_cons_self rfl] at was
        cases was
    | true =>
      have old : h ∈ p.handlers := by
        rcases mem_handlers_exec mem with old | ⟨rfl, -⟩ | ⟨rfl, -⟩
        · exact old
        · rw [(orderly _ rfl rfl).2] at was
          cases was
        · rw [(orderly _ rfl rfl).2] at was
          cases was
      rcases ti.leaves was h old rfl with detach | remove
      · cases detach with
        | head =>
          obtain ⟨reactor, fd⟩ := ti.own h old rfl
          right
          rcases fd with fd | fd <;> simp [Refs.exec, reactor, fd]
        | tail _ later => exact .inl (List.mem_append_right _ later)
      · cases remove with
        | head => exact absurd rfl (mem_removeFd di mem).2
        | tail _ later => exact .inr (List.mem_append_right _ later)

/-! ## Other steps -/

/-- A step that leaves the handlers alone is quiet. -/
lemma quiet_of_evolves (ev : p.Evolves q) (calm : p.Calm q) (handlers : q.handlers = p.handlers) :
    Quiet p q where
  calm := calm
  closing s := (ev s).closing
  registered s reg := .inl ((ev s).registered reg)
  ends s _ pos := (ev s).ends pos
  handlers := handlers

lemma Quiet.rfl : Quiet p p := quiet_of_evolves .rfl .rfl (.refl _)

/-- A reference more is quiet. -/
lemma quiet_get (p : Pool) (s : Nat) : Quiet p (p.get s) :=
  quiet_of_evolves (p.evolves_get s) (p.calm_get s) rfl

/-- A new session is open. -/
lemma quiet_create {x : AtpdSession} (ke : Kept p) (idle : x.state.isClosing = false) :
    Quiet p { (p.modify p.next fun _ => x) with next := p.next + 1 } := by
  have unborn := ke.sound.unborn p.next (Nat.le_refl _)
  constructor
  · intro t begun
    simp only [Pool.modify] at begun
    split at begun
    · rw [idle] at begun
      cases begun
    · exact .inl begun
  · intro t begun
    simp only [Pool.modify]
    split
    · rename_i same
      rw [same, unborn] at begun
      cases begun
    · exact begun
  · intro t reg
    simp only [Pool.modify] at reg ⊢
    split
    · exact .inr idle
    · rename_i other
      rw [if_neg other] at reg
      exact .inl reg
  · intro t pos _
    simp only [Pool.modify]
    split
    · rename_i same
      rw [same, unborn] at pos
      cases pos
    · rfl
  · rfl

/-- What a callback does. -/
lemma quiet_act (pos : 0 < (p.sess s).refCount) (a : Act) : Quiet p (a.exec p s).1 := by
  cases a with
  | setState desired =>
    simp only [Act.exec]
    split
    · exact .rfl
    · rename_i opens
      have calm : p.Calm (p.modify s fun x => (sessionSetState x desired).1) :=
        Pool.calm_modify fun begun => .inl (begun_setState (by simpa using opens) begun)
      exact quiet_of_evolves (Pool.evolves_modify (evolves_setState pos desired)) calm rfl
  | markClosing => exact .rfl
  | emergencyDrain => exact .rfl

/-- A call may begin, if it has nothing to link. -/
lemma Quiet.begin (qu : Quiet p q) (calls : q.calls = p.calls) (free : ∀ op ∈ ops, op.links = none) :
    CalmStep p (q.begin ops) where
  toQuiet := ⟨qu.calm, qu.closing, qu.registered, qu.ends, qu.handlers⟩
  todo := by
    refine ⟨ops, ?_, free⟩
    rw [Pool.begin, calls, List.flatten_concat]
    exact List.perm_append_comm

/-- Or it may go on with more to do. -/
lemma Quiet.goOn (qu : Quiet p q) (calls : q.calls = p.calls) (here : p.calls[i]? = some rest)
    (free : ∀ op ∈ ops, op.links = none) : CalmStep p (q.goOn i (ops ++ rest)) where
  toQuiet := ⟨qu.calm, qu.closing, qu.registered, qu.ends, qu.handlers⟩
  todo := by
    refine ⟨ops, ?_, free⟩
    rw [Pool.goOn, calls]
    have after := flatten_set_perm here (ops ++ rest)
    rw [List.append_assoc] at after
    exact after.trans ((flatten_perm here).symm.append_left ops)

/-! ## Runs -/

/-- A step is a step of a call, or closes nothing. -/
lemma step_cases (ke : Kept p) (st : step p e = some q) : CalmStep p q ∨
    ∃ i ok op rest, e = .run i ok ∧ p.calls[i]? = some (op :: rest) ∧
      q = (exec p ok op).1.goOn i ((exec p ok op).2 ++ rest) := by
  cases e with
  | create reactor fdIn fdOut pipeRead pipeWrite =>
    cases st
    have created : Quiet p { (p.modify p.next fun _ =>
        Refs.atpdSessionCreate reactor fdIn fdOut pipeRead pipeWrite) with next := p.next + 1 } :=
      quiet_create ke rfl
    exact .inl (created.begin rfl (by simp [Op.links]))
  | get s =>
    simp only [step] at st
    split at st
    · cases st
    · cases st
      exact .inl ((quiet_get p s).begin rfl (by simp [Op.links]))
  | api i f =>
    simp only [step] at st
    split at st
    · rename_i ops here
      obtain ⟨s, -, rfl⟩ := Option.map_eq_some_iff.mp st
      exact .inl (Quiet.rfl.goOn rfl here (by cases f <;> simp [Api.ops, Op.links]))
    · cases st
  | destroy s =>
    simp only [step] at st
    split at st
    · cases st
    · cases st
      exact .inl ((quiet_get p s).begin rfl (by simp [Op.links]))
  | dispatch reactor fd =>
    obtain ⟨h, -, rfl⟩ := Option.map_eq_some_iff.mp st
    exact .inl ((quiet_get p h.session).begin rfl (by simp [Op.links]))
  | act i a =>
    simp only [step] at st
    split at st
    · rename_i s rest here
      cases st
      obtain ⟨so, gu⟩ := ke.split here
      have mem : s ∈ refsOf rest := gu.1.1 s rfl
      have pos : 0 < (p.sess s).refCount := so.ledger.pos (by simp [refsOf_cons, mem])
      exact .inl ((quiet_act pos a).goOn (calls_act a) here (by cases a <;> simp [Act.exec, Op.links]))
    · cases st
  | emergencyDrainAll alloc =>
    simp only [step] at st
    split at st
    · cases st
      exact .inl ⟨.rfl, [], .refl _, by simp⟩
    · cases st
      exact .inl (Quiet.rfl.begin rfl (by simp [Op.links]))
  | gcProcess =>
    cases st
    have taken : Quiet p { p with gc := [] } := quiet_of_evolves (fun _ => .rfl) (fun _ => .inl) rfl
    exact .inl (taken.begin rfl (by simp [Op.links]))
  | run i ok =>
    simp only [step] at st
    split at st
    · -- a step of a call is the only one that may link
      rename_i op rest here
      cases st
      exact .inr ⟨i, ok, op, rest, rfl, here, rfl⟩
    · cases st

/-- What is true of every pool that is reached. -/
structure Settled (p : Pool) : Prop where
  kept : Kept p
  closing : ∀ s, Closing p p.calls.flatten s
  distinct : p.Distinct

/-- An empty pool is settled. -/
lemma settled_init : Settled .init where
  kept := kept_init
  closing s := ⟨fun begun => (by cases begun), fun op mem => (by cases mem)⟩
  distinct := List.nodup_nil

/-- The order of what is to be done does not matter. -/
lemma Closing.move (cl : Closing p todo s) (sess : q.sess = p.sess) (same : todo.Perm todo') :
    Closing q todo' s where
  registered begun reg := by
    rw [sess] at begun reg
    exact same.mem_iff.mp (cl.registered begun reg)
  linked op mem link := by
    rw [sess]
    exact cl.linked op (same.mem_iff.mpr mem) link

/-- Nor does it here. -/
lemma Tied.move (ti : Tied p todo s) (sess : q.sess = p.sess) (handlers : q.handlers = p.handlers)
    (same : todo.Perm todo') : Tied q todo' s where
  own h mem carries := by
    rw [sess]
    exact ti.own h (handlers ▸ mem) carries
  leaves begun h mem carries := by
    rw [sess] at begun
    rcases ti.leaves begun h (handlers ▸ mem) carries with detach | remove
    · exact .inl (same.mem_iff.mp detach)
    · exact .inr (same.mem_iff.mp remove)

/-- What the calls have to do after a step of one of them. -/
lemma flatten_goOn (here : p.calls[i]? = some (op :: rest)) :
    (((exec p ok op).2 ++ (rest ++ (p.calls.eraseIdx i).flatten))).Perm
      ((exec p ok op).1.goOn i ((exec p ok op).2 ++ rest)).calls.flatten := by
  rw [Pool.goOn, calls_exec, ← List.append_assoc]
  exact (flatten_set_perm here _).symm

/-- By cases on the event. -/
lemma Settled.step (se : Settled p) (st : step p e = some q) : Settled q := by
  have ke := se.kept.step st
  rcases step_cases se.kept st with calm | ⟨i, ok, op, rest, rfl, here, rfl⟩
  · refine ⟨ke, fun s => (se.closing s).calm ke.sound.ledger calm, ?_⟩
    rw [Pool.Distinct, calm.handlers]
    exact se.distinct
  · obtain ⟨so, gu⟩ := se.kept.split here
    have le : Ledger (exec p ok op).1 _ := ke.sound.ledger
    refine ⟨ke, fun s => ?_, se.distinct.exec⟩
    have cl := (se.closing s).move rfl (flatten_perm here)
    exact (cl.exec (so.evolves (gu.needs _)) le).move rfl (flatten_goOn here)

/-- What the step of a call does next. -/
def Event.next (p : Pool) : Event → Option Op
  | .run i _ => p.calls[i]?.bind List.head?
  | _ => none

/-- The step adds no handler of the session, or in an orderly way. -/
def Orderly (s : Nat) (p : Pool) (e : Event) : Prop := ∀ op ∈ e.next p, op.Orderly s p

instance decidableOrderly : Decidable (Orderly s p e) :=
  inferInstanceAs (Decidable (∀ op ∈ e.next p, op.Orderly s p))

/-- In a settled pool an orderly event keeps the handlers tied. -/
lemma Tied.step (se : Settled p) (ti : Tied p p.calls.flatten s) (orderly : Orderly s p e)
    (st : step p e = some q) : Tied q q.calls.flatten s := by
  have ke := se.kept.step st
  rcases step_cases se.kept st with calm | ⟨i, ok, op, rest, rfl, here, rfl⟩
  · exact ti.calm se.kept.sound.ledger ke.sound.ledger calm
  · obtain ⟨so, gu⟩ := se.kept.split here
    have le : Ledger (Refs.exec p ok op).1 _ := ke.sound.ledger
    have cl := (se.closing s).move rfl (flatten_perm here)
    have ti := ti.move rfl rfl (flatten_perm here)
    have next : op ∈ Event.next p (.run i ok) := by simp [Event.next, here]
    exact (ti.exec cl se.distinct (orderly op next) (so.evolves (gu.needs _)) le).move rfl rfl
      (flatten_goOn here)

/-- Every run is settled. -/
lemma settled_of_run (rn : run step .init es = some p) : Settled p :=
  run_preserves (fun _ _ _ => Settled.step) settled_init rn

/-- In an orderly run the handlers are tied. -/
lemma tied_of_run (rn : run step .init es = some p) (orderly : Along step (Orderly s) .init es) :
    Tied p p.calls.flatten s := by
  have both : Settled p ∧ Tied p p.calls.flatten s := by
    refine run_preserves_along (I := fun p => Settled p ∧ Tied p p.calls.flatten s) ?_ ?_ orderly rn
    · intro p e q ⟨se, ti⟩ orderly st
      exact ⟨se.step st, ti.step se orderly st⟩
    · exact ⟨settled_init, fun h mem => (by cases mem), fun begun => (by cases begun)⟩
  exact both.2

/-! ## Freed or not -/

/-- The session has been registered, closed and collected: it is not in the queue any more, and no call
in progress has a reference of it. -/
structure Collected (p : Pool) (s : Nat) : Prop where
  activated : (p.sess s).activated = true
  closed : (p.sess s).state.isClosing = true
  dequeued : s ∉ p.gc
  ended : p.inProgress s = 0

/-- What is being closed is in progress. -/
lemma Collected.notMem (co : Collected p s) (ke : Kept p) (close : s ∈ op.closes) :
    op ∉ p.calls.flatten := by
  intro mem
  obtain ⟨c, call, mem⟩ := List.mem_flatten.mp mem
  have put := (ke.guarded c call).put_mem mem close
  have held : s ∈ p.calls.flatten.filterMap Op.held :=
    List.mem_filterMap.mpr ⟨.put s, List.mem_flatten.mpr ⟨c, call, put⟩, rfl⟩
  have some := List.count_pos_iff.mpr held
  have none := co.ended
  rw [Pool.inProgress] at none
  omega

/-- What a session that is closed and collected still waits for. -/
lemma Collected.refCount (co : Collected p s) (se : Settled p) :
    (p.sess s).refCount = p.creators s + p.carriers s := by
  have unlinked : (p.sess s).registryRegistered = false := by
    by_contra reg
    exact co.notMem se.kept rfl ((se.closing s).registered co.closed (by simpa using reg))
  rw [se.kept.count s, unlinked, co.ended, if_neg co.dequeued]
  simp

/-- It is freed when it waits for nothing. -/
lemma Collected.freed_iff (co : Collected p s) (ke : Kept p) :
    Freed (p.sess s) ↔ (p.sess s).refCount = 0 := by
  constructor
  · exact Freed.count
  · intro none
    have born : s < p.next := by
      by_contra after
      have closed := co.closed
      rw [ke.sound.unborn s (by omega)] at closed
      cases closed
    rcases ke.sound.lives s born with live | freed
    · have pos := live.pos
      omega
    · exact freed

/-- A session that was collected has no handler any more. -/
lemma Collected.carriers (co : Collected p s) (ke : Kept p) (ti : Tied p p.calls.flatten s) :
    p.carriers s = 0 := by
  rw [Pool.carriers, List.countP_eq_zero]
  intro h mem carries
  have carries : h.session = s := by simpa using carries
  rcases ti.leaves co.closed h mem carries with detach | remove
  · exact co.notMem ke rfl detach
  · exact co.notMem ke rfl remove

/-- A session that is registered, closed and collected is freed exactly if its creator has put it and
no handler carries it; and no handler does if all its handlers were added in an orderly way. -/
theorem freed_iff_creator_put (rn : run step .init es = some p) (co : Collected p s) :
    (Freed (p.sess s) ↔ p.creators s = 0 ∧ p.carriers s = 0) ∧
      (Along step (Orderly s) .init es → (Freed (p.sess s) ↔ p.creators s = 0)) := by
  have se := settled_of_run rn
  have waits : Freed (p.sess s) ↔ p.creators s = 0 ∧ p.carriers s = 0 := by
    rw [co.freed_iff se.kept, co.refCount se]
    omega
  refine ⟨waits, fun orderly => ?_⟩
  have none := co.carriers se.kept (tied_of_run rn orderly)
  rw [waits]
  exact and_iff_left none

/-- A session is created, registered, destroyed and collected, and every call on it comes to its end;
the creator takes `atpd_session_destroy` for the end of its reference. -/
def destroyedOnly : List Event :=
  [.create (some 0) 10 11 12 13, .api 0 (.register 0)] ++ List.replicate 5 (.run 0 true) ++
    [.destroy 0] ++ List.replicate 9 (.run 1 true) ++ [.gcProcess, .run 2 true]

/-- What the run leaves of the session. -/
lemma reached_destroyedOnly : (run step .init destroyedOnly).map
    (fun p => (p.sess 0, p.gc, p.inProgress 0)) = some
      ({ atpdSessionCreate (some 0) 10 11 12 13 with
          state := .destroyPending
          gcEnqueued := true
          refCount := 1
          registryRegistered := false
          activated := true }, [], 0) := rfl

/-- The creator keeps its reference, and the session is never freed. -/
theorem destroyedOnly_not_freed : ∃ p, run step .init destroyedOnly = some p ∧ Collected p 0 ∧
    (p.sess 0).refCount = 1 ∧ (p.sess 0).destroyRuns = 0 ∧ 0 ≤ (p.sess 0).pipeRead ∧
    0 ≤ (p.sess 0).fdIn ∧ ¬Freed (p.sess 0) := by
  obtain ⟨p, rn, found⟩ := Option.map_eq_some_iff.mp reached_destroyedOnly
  obtain ⟨sess, rest⟩ := Prod.mk.inj found
  obtain ⟨gc, calls⟩ := Prod.mk.inj rest
  have collected : Collected p 0 := by
    refine ⟨?_, ?_, ?_, calls⟩
    · rw [sess]
    · rw [sess]
      rfl
    · rw [gc]
      exact List.not_mem_nil
  refine ⟨p, rn, collected, ?_, ?_, ?_, ?_, fun freed => ?_⟩
  · rw [sess]
  · rw [sess]
    rfl
  · rw [sess]
    decide
  · rw [sess]
    decide
  · have count := freed.count
    rw [sess] at count
    cases count

/-- Once the creator puts its reference, it is. -/
theorem freed_iff_creator_put_destroyedOnly :
    ∃ p, run step .init (destroyedOnly ++ [.run 0 true]) = some p ∧ Collected p 0 ∧
      Freed (p.sess 0) := by
  have reached : (run step .init (destroyedOnly ++ [.run 0 true])).map
      (fun p => ((p.sess 0).activated, (p.sess 0).state, p.gc, p.inProgress 0, p.creators 0)) =
      some (true, .destroyed, [], 0, 0) := rfl
  obtain ⟨p, rn, found⟩ := Option.map_eq_some_iff.mp reached
  simp only [Prod.mk.injEq] at found
  obtain ⟨activated, state, gc, calls, creator⟩ := found
  have collected : Collected p 0 :=
    ⟨activated, by rw [state]; rfl, by rw [gc]; exact List.not_mem_nil, calls⟩
  have orderly : Along step (Orderly 0) .init (destroyedOnly ++ [.run 0 true]) := by decide
  exact ⟨p, rn, collected, ((freed_iff_creator_put rn collected).2 orderly).mpr creator⟩

end Atpd.Session.Refs
