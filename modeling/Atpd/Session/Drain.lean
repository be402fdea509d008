import Mathlib.Algebra.GroupWithZero.Nat
import Atpd.Session.Listed

/-!
# The registry and the emergency drain

The registry holds the sessions that are not closing. A session leaves it when its closer gets to
`session_registry_remove`, which is not before the state is CLOSING; in between, the removal is under
way. `atpd_session_emergency_drain_all` goes over a snapshot of the registry, and closes the sessions
from which it was read. `Draining` says, for each session of the snapshot, what the call has still to
do for it, and so what is true of it when nothing is left to do.
-/

namespace Atpd.Session.Refs

open Atpd.Lib

variable {p q : Pool} {m m' : Memory} {s t i : Nat} {op : Op} {ops rest todo todo' : List Op} {ok : Bool}
  {e : Event}

/-! ## Marks of a session that is closing -/

/-- The marks of a session, where `todo` is all that the calls have still to do. -/
structure Marked (p : Pool) (todo : List Op) (s : Nat) : Prop where
  listed : s < p.next → (p.sess s).state.isClosing = false → (p.sess s).registryRegistered = true
  removing : .registryRemove s ∈ todo → (p.sess s).state.isClosing = true
  flagged : (p.sess s).gcEnqueued = true → (p.sess s).state.isClosing = true
  drained : (p.sess s).emergencyDrained = true →
    (p.sess s).state.isClosing = true ∨ .markClosing s ∈ todo ∨ .closing s ∈ todo

/-- The order of what is to be done does not matter. -/
lemma Marked.move (ma : Marked p todo s) (sess : q.sess = p.sess) (next : q.next = p.next)
    (same : todo.Perm todo') : Marked q todo' s where
  listed := by
    rw [sess, next]
    exact ma.listed
  removing mem := by
    rw [sess]
    exact ma.removing (same.mem_iff.mpr mem)
  flagged := by
    rw [sess]
    exact ma.flagged
  drained := by
    rw [sess, ← same.mem_iff, ← same.mem_iff]
    exact ma.drained

/-- A removal is part of a closing. -/
lemma registryRemove_mem_exec (mem : .registryRemove s ∈ (exec p ok op).2) : op = .closing s := by
  cases op <;> grind [exec]

/-- Who has more to do than it was told. -/
lemma gcEnqueued_exec (flag : ((exec p ok op).1.sess s).gcEnqueued = true) :
    (p.sess s).gcEnqueued = true ∨ op = .gcEnqueue s := by
  by_cases enqueue : op = .gcEnqueue s
  · exact .inr enqueue
  · left
    by_cases remove : op = .registryRemove s
    · subst remove
      simp only [exec] at flag
      split at flag
      · simpa [Pool.modify, unlink] using flag
      · exact flag
    · by_cases drain : op = .emergencyDrain s
      · subst drain
        simp only [exec] at flag
        split at flag
        · exact flag
        · simpa [Pool.modify, drainPipes] using flag
      · rw [← (keeps_exec remove enqueue drain).enqueued]
        exact flag

/-- Only the drain sets its flag. -/
lemma emergencyDrained_exec (flag : ((exec p ok op).1.sess s).emergencyDrained = true) :
    (p.sess s).emergencyDrained = true ∨ op = .emergencyDrain s := by
  by_cases drain : op = .emergencyDrain s
  · exact .inr drain
  · left
    by_cases remove : op = .registryRemove s
    · subst remove
      simp only [exec] at flag
      split at flag
      · simpa [Pool.modify, unlink] using flag
      · exact flag
    · by_cases enqueue : op = .gcEnqueue s
      · subst enqueue
        simp only [exec] at flag
        split at flag
        · exact flag
        · have kept := keeps_get (flagEnqueued (p.sess s))
          simp only [Pool.get, Pool.modify, ↓reduceIte] at flag
          rw [kept.drained] at flag
          exact flag
      · rw [← (keeps_exec remove enqueue drain).drained]
        exact flag

/-- What is drained for the first time is marked closing next. -/
lemma exec_emergencyDrain (fresh : (p.sess s).emergencyDrained = false)
    (opens : (p.sess s).state.isClosing = false) :
    (exec p ok (.emergencyDrain s)).2 = [.markClosing s] := by
  simp [exec, fresh, opens]

/-- Each operation keeps the marks, by cases on it. -/
lemma Marked.exec (ma : Marked p (op :: todo) s) (cl : Closing p (op :: todo) s)
    (ev : p.Evolves (exec p ok op).1) : Marked (exec p ok op).1 ((exec p ok op).2 ++ todo) s := by
  have opened : ((Refs.exec p ok op).1.sess s).state.isClosing = false →
      (p.sess s).state.isClosing = false := by
    intro opens
    cases was : (p.sess s).state.isClosing with
    | false => rfl
    | true => rw [(ev s).closing was] at opens; cases opens
  refine ⟨fun born opens => ?_, fun mem => ?_, fun flag => ?_, fun flag => ?_⟩
  · have was := opened opens
    have remove : op ≠ .registryRemove s := by
      rintro rfl
      rw [ma.removing List.mem_cons_self] at was
      cases was
    rw [registered_exec remove]
    exact ma.listed (next_exec ▸ born) was
  · rcases List.mem_append.mp mem with new | old
    · obtain rfl := registryRemove_mem_exec new
      exact begun_closing
    · exact (ev s).closing (ma.removing (List.mem_cons_of_mem op old))
  · rcases gcEnqueued_exec flag with old | rfl
    · exact (ev s).closing (ma.flagged old)
    · exact (ev s).closing (cl.linked _ List.mem_cons_self rfl)
  · rcases emergencyDrained_exec flag with old | rfl
    · rcases ma.drained old with begun | mem | mem
      · exact .inl ((ev s).closing begun)
      · cases mem with
        | head => exact .inr (.inr List.mem_cons_self)
        | tail _ later => exact .inr (.inl (List.mem_append_right _ later))
      · cases mem with
        | head => exact .inl begun_closing
        | tail _ later => exact .inr (.inr (List.mem_append_right _ later))
    · cases fresh : (p.sess s).emergencyDrained with
      | true =>
        rcases ma.drained fresh with begun | mem | mem
        · exact .inl ((ev s).closing begun)
        · cases mem with
          | tail _ later => exact .inr (.inl (List.mem_append_right _ later))
        · cases mem with
          | tail _ later => exact .inr (.inr (List.mem_append_right _ later))
      | false =>
        cases opens : (p.sess s).state.isClosing with
        | true => exact .inl ((ev s).closing opens)
        | false =>
          right
          left
          rw [exec_emergencyDrain fresh opens]
          exact List.mem_cons_self

/-- Only a closing begins a removal. -/
lemma removing_step (st : step p e = some q) (run : ∀ i ok, e ≠ .run i ok)
    (mem : .registryRemove s ∈ q.calls.flatten) : .registryRemove s ∈ p.calls.flatten := by
  have begun : ∀ {p' : Pool} {ops : List Op}, p'.calls = p.calls → .registryRemove s ∉ ops →
      .registryRemove s ∈ (p'.begin ops).calls.flatten → .registryRemove s ∈ p.calls.flatten := by
    intro p' ops calls other mem
    rw [Pool.begin, calls, List.flatten_append] at mem
    exact (List.mem_append.mp mem).resolve_right (by simpa using other)
  have gone : ∀ {p' : Pool} {ops new : List Op} {i : Nat}, p'.calls = p.calls →
      p.calls[i]? = some ops → .registryRemove s ∉ new →
      .registryRemove s ∈ (p'.goOn i (new ++ ops)).calls.flatten →
      .registryRemove s ∈ p.calls.flatten := by
    intro p' ops new i calls here other mem
    rw [Pool.goOn, calls, (flatten_set_perm here _).mem_iff, List.append_assoc] at mem
    rw [(flatten_perm here).mem_iff]
    exact (List.mem_append.mp mem).resolve_left other
  -- no other event puts the removal into a call
  cases e with
  | create reactor fdIn fdOut pipeRead pipeWrite =>
    cases st
    exact begun rfl (by simp) mem
  | run i ok => exact absurd rfl (run i ok)
  | get s' | destroy s' =>
    simp only [step] at st
    split at st
    · cases st
    · cases st
      exact begun rfl (by simp) mem
  | api i f =>
    simp only [step] at st
    split at st
    · rename_i ops here
      obtain ⟨s', -, rfl⟩ := Option.map_eq_some_iff.mp st
      exact gone rfl here (by cases f <;> simp [Api.ops]) mem
    · cases st
  | dispatch reactor fd =>
    obtain ⟨h, -, rfl⟩ := Option.map_eq_some_iff.mp st
    exact begun rfl (by simp) mem
  | act i a =>
    simp only [step] at st
    split at st
    · rename_i s' rest here
      cases st
      exact gone (calls_act a) here (by cases a <;> simp [Act.exec]) mem
    · cases st
  | emergencyDrainAll alloc =>
    simp only [step] at st
    split at st
    · cases st
      exact mem
    · cases st
      exact begun rfl (by simp) mem
  | gcProcess =>
    cases st
    exact begun rfl (by simp) mem

/-- Beside the steps of the calls nothing begins that the marks speak of. -/
lemma Marked.calm (ma : Marked p p.calls.flatten s) (st : step p e = some q) (calm : CalmStep p q)
    (run : ∀ i ok, e ≠ .run i ok) : Marked q q.calls.flatten s := by
  obtain ⟨new, same, -⟩ := calm.todo
  have still : ∀ op ∈ p.calls.flatten, op ∈ q.calls.flatten :=
    fun op mem => same.mem_iff.mpr (List.mem_append_right new mem)
  have removing : .registryRemove s ∈ q.calls.flatten → (q.sess s).state.isClosing = true :=
    fun mem => calm.closing s (ma.removing (removing_step st run mem))
  have opened : (q.sess s).state.isClosing = false → (p.sess s).state.isClosing = false := by
    intro opens
    cases was : (p.sess s).state.isClosing with
    | false => rfl
    | true => rw [calm.closing s was] at opens; cases opens
  have kept : Keeps (p.sess s) (q.sess s) → (s < q.next → s < p.next) →
      Marked q q.calls.flatten s := by
    intro keeps born
    refine ⟨fun lt opens => ?_, removing, fun flag => ?_, fun flag => ?_⟩
    · rw [keeps.registered]
      exact ma.listed (born lt) (opened opens)
    · exact calm.closing s (ma.flagged (keeps.enqueued ▸ flag))
    · rcases ma.drained (keeps.drained ▸ flag) with begun | mem | mem
      · exact .inl (calm.closing s begun)
      · exact .inr (.inl (still _ mem))
      · exact .inr (.inr (still _ mem))
  by_cases create : ∃ reactor fdIn fdOut pipeRead pipeWrite,
      e = .create reactor fdIn fdOut pipeRead pipeWrite
  · obtain ⟨reactor, fdIn, fdOut, pipeRead, pipeWrite, rfl⟩ := create
    cases st
    by_cases here : s = p.next
    · subst here
      refine ⟨fun _ _ => ?_, removing, fun flag => ?_, fun flag => ?_⟩
      · simp [Pool.begin, Pool.modify, Refs.atpdSessionCreate]
      · simp [Pool.begin, Pool.modify, Refs.atpdSessionCreate, AtpdSession.unborn] at flag
      · simp [Pool.begin, Pool.modify, Refs.atpdSessionCreate, AtpdSession.unborn] at flag
    · have keeps : Keeps (p.sess s) ((p.modify p.next fun _ =>
          Refs.atpdSessionCreate reactor fdIn fdOut pipeRead pipeWrite).sess s) :=
        keeps_modify fun eq => absurd eq here
      refine kept keeps fun lt => ?_
      have lt : s < p.next + 1 := lt
      omega
  · have other : ∀ reactor fdIn fdOut pipeRead pipeWrite,
        e ≠ .create reactor fdIn fdOut pipeRead pipeWrite :=
      fun a b c d f eq => create ⟨a, b, c, d, f, eq⟩
    exact kept (keeps_step st run other s) (by rw [next_step st run other]; exact id)

/-- In an empty pool there is nothing to mark. -/
lemma Marked.init : Marked .init [] s where
  listed born := absurd born (Nat.not_lt_zero s)
  removing := nofun
  flagged := nofun
  drained := nofun

/-- Every event keeps them. -/
lemma Marked.step (ma : ∀ s, Marked p p.calls.flatten s) (se : Settled p) (st : step p e = some q)
    (s : Nat) : Marked q q.calls.flatten s := by
  by_cases run : ∃ i ok, e = .run i ok
  · obtain ⟨i, ok, rfl⟩ := run
    simp only [Refs.step] at st
    split at st
    · rename_i op rest here
      cases st
      obtain ⟨so, gu⟩ := se.kept.split here
      have marked := (ma s).move rfl rfl (flatten_perm here)
      have cl := (se.closing s).move rfl (flatten_perm here)
      exact (marked.exec cl (so.evolves (gu.needs _))).move rfl rfl (flatten_goOn here)
    · cases st
  · have other : ∀ i ok, e ≠ .run i ok := fun i ok eq => run ⟨i, ok, eq⟩
    rcases step_cases se.kept st with calm | ⟨i, ok, op, rest, eq, -⟩
    · exact (ma s).calm st calm other
    · exact absurd eq (other i ok)

/-! ## The registry -/

/-- What is true of every memory that is reached. -/
structure Good (m : Memory) : Prop where
  tidy : Tidy m
  settled : Settled m.pool
  marked : ∀ s, Marked m.pool m.pool.calls.flatten s

namespace Good

/-- At the start the memory is good. -/
lemma init : Good .init := ⟨.init, settled_init, fun _ => .init⟩

/-- Every step keeps it good. -/
lemma step {l : Label} (go : Good m) (st : m.step l = some m') : Good m' := by
  cases l with
  | event e =>
    obtain ⟨same, tidy⟩ := go.tidy.step go.settled.kept st
    exact ⟨tidy, go.settled.step same, Marked.step go.marked go.settled same⟩
  | pending i n =>
    simp only [Memory.step] at st
    split at st
    · cases st
      exact ⟨go.tidy.congr rfl rfl rfl rfl, go.settled, go.marked⟩
    · cases st

/-- When no removal is under way, the registry holds the sessions that are not closing. -/
lemma mem_registry_iff (go : Good m) (still : ∀ s, .registryRemove s ∉ m.pool.calls.flatten)
    (s : Nat) :
    s ∈ m.pool.registry ↔ s < m.pool.next ∧ (m.pool.sess s).state.isClosing = false := by
  rw [mem_registry]
  refine and_congr_right fun born => ⟨fun registered => ?_, (go.marked s).listed born⟩
  cases was : (m.pool.sess s).state.isClosing with
  | false => rfl
  | true => exact absurd ((go.settled.closing s).registered was registered) (still s)

end Good

/-! ## The drain -/

/-- The reference of somebody who is not at work on the session, or a callback, which may make a call. -/
def Op.waits : Op → Bool
  | .creatorPut _ | .put _ | .callback _ => true
  | _ => false

/-- No call is under way, but those from which another one can be made. -/
def AtRest (m : Memory) : Prop := ∀ op ∈ m.pool.calls.flatten, op.waits = true

instance : Decidable (AtRest m) := inferInstanceAs (Decidable (∀ op ∈ _, _))

/-- The pipe of the session is closed, and nothing of it counts as pending. -/
structure Emptied (m : Memory) (s : Nat) : Prop where
  pipeRead : (m.pool.sess s).pipeRead < 0
  pipeWrite : (m.pool.sess s).pipeWrite < 0
  pending : m.pipePending s = 0

/-- What `atpd_session_emergency_drain_all` has to do after its snapshot. -/
def Op.drains : Op → Bool
  | .put _ | .markClosing _ | .closing _ | .registryRemove _ | .detach _ | .removeFd _ _ _
  | .gcEnqueue _ | .gcLink _ | .emergencyDrain _ | .drainOne _ => true
  | _ => false

/-- The call has still to do `ops`, after a snapshot of the registry of `m0`. -/
structure Draining (m0 m : Memory) (ops : List Op) : Prop where
  good : Good m
  calls : m.pool.calls = m0.pool.calls ++ [ops]
  kinds : ∀ op ∈ ops, op.drains = true
  registry : ∀ s ∈ m.pool.registry, s ∈ m0.pool.registry
  opened : ∀ s ∈ m0.pool.registry, (m.pool.sess s).state.isClosing = false →
    .drainOne s ∈ ops ∨ .emergencyDrain s ∈ ops ∨ .markClosing s ∈ ops ∨ .closing s ∈ ops
  full : ∀ s ∈ m0.pool.registry, ¬Emptied m s → (m.pool.sess s).state.isClosing = false ∧
    (m.pool.sess s).emergencyDrained = false ∧ (.drainOne s ∈ ops ∨ .emergencyDrain s ∈ ops)
  ready : ∀ s, .markClosing s ∈ ops ∨ .closing s ∈ ops → Emptied m s
  queued : ∀ s ∈ m0.pool.registry, (m.pool.sess s).state.isClosing = true →
    (m.pool.sess s).gcEnqueued = true ∨ .gcEnqueue s ∈ ops
  linked : ∀ s ∈ m0.pool.registry, (m.pool.sess s).gcEnqueued = true →
    s ∈ m.pool.gc ∨ .gcLink s ∈ ops

/-! ### One step of the drain -/

/-- A drain leaves only parts of a drain to do. -/
lemma drains_exec (kind : op.drains = true) : ∀ o ∈ (exec p ok op).2, o.drains = true := by
  cases op <;> grind [exec, Op.drains]

/-- Only `emergency_drain` marks a session here. -/
lemma markClosing_mem_exec (kind : op.drains = true) (mem : .markClosing s ∈ (exec p ok op).2) :
    op = .emergencyDrain s ∧ (p.sess s).emergencyDrained = false := by
  cases op <;> grind [exec, Op.drains]

/-- A session is closed by `atpd_session_mark_closing` alone. -/
lemma closing_mem_exec (mem : .closing s ∈ (exec p ok op).2) : op = .markClosing s := by
  cases op <;> grind [exec]

/-- A pipe that is closed stays closed. -/
lemma pipes_exec : ((p.sess s).pipeRead < 0 → ((exec p ok op).1.sess s).pipeRead < 0) ∧
    ((p.sess s).pipeWrite < 0 → ((exec p ok op).1.sess s).pipeWrite < 0) := by
  by_cases remove : op = .registryRemove s
  · subst remove
    simp only [exec]
    split
    · simp [Pool.modify, unlink]
    · exact ⟨id, id⟩
  · by_cases enqueue : op = .gcEnqueue s
    · subst enqueue
      simp only [exec]
      split
      · exact ⟨id, id⟩
      · have kept := keeps_get (flagEnqueued (p.sess s))
        simp only [Pool.get, Pool.modify, ↓reduceIte]
        exact ⟨kept.pipeRead, kept.pipeWrite⟩
    · by_cases drain : op = .emergencyDrain s
      · subst drain
        simp only [exec]
        split
        · exact ⟨id, id⟩
        · simp only [Pool.modify, ↓reduceIte, drainPipes]
          exact ⟨fun _ => safeClose_neg _, fun _ => safeClose_neg _⟩
      · have kept : Keeps (p.sess s) ((exec p ok op).1.sess s) := keeps_exec remove enqueue drain
        exact ⟨kept.pipeRead, kept.pipeWrite⟩

/-- A pipe that is empty is not filled by a drain. -/
lemma pipePending_exec (zero : m.pipePending s = 0) : (m.exec ok op).1.pipePending s = 0 := by
  cases op with
  | emergencyDrain t =>
    simp only [Memory.exec]
    split
    · exact zero
    · simp only [Function.update_apply]
      split
      · rfl
      · exact zero
  | registryRemove t =>
    simp only [Memory.exec]
    split <;> exact zero
  | _ => exact zero

/-- `emergency_drain` empties a session that was not drained before. -/
lemma emptied_emergencyDrain (fresh : (m.pool.sess s).emergencyDrained = false) :
    Emptied (m.exec ok (.emergencyDrain s)).1 s := by
  have undrained : ¬((m.pool.sess s).emergencyDrained = true) := by
    rw [fresh]
    exact nofun
  simp only [Memory.exec, if_neg undrained]
  refine ⟨?_, ?_, Function.update_self _ _ _⟩
  · simp only [Pool.modify, ↓reduceIte, drainPipes]
    exact safeClose_neg _
  · simp only [Pool.modify, ↓reduceIte, drainPipes]
    exact safeClose_neg _

/-- What is queued stays queued. -/
lemma gc_exec (mem : s ∈ p.gc) : s ∈ (exec p ok op).1.gc := by
  by_cases link : ∃ t, op = .gcLink t
  · obtain ⟨t, rfl⟩ := link
    exact List.mem_append_left _ mem
  · rw [(frame_exec fun t eq => link ⟨t, eq⟩).gc]
    exact mem

namespace Draining

variable {m0 : Memory}

/-- What the call waits to do with a session it has a reference of. -/
lemma guarded (dr : Draining m0 m ops) : Guarded ops := by
  refine dr.good.settled.kept.guarded ops ?_
  rw [dr.calls]
  exact List.mem_append_right _ (List.mem_singleton.mpr rfl)

/-- A session that the call has a reference of is alive. -/
lemma pos (dr : Draining m0 m ops) (mem : s ∈ refsOf ops) : 0 < (m.pool.sess s).refCount := by
  refine dr.good.settled.kept.sound.ledger.pos ?_
  rw [dr.calls, List.flatten_append, refsOf_append]
  refine List.mem_append_right _ ?_
  simpa using mem

/-- What the call does next with a session has a reference of it behind. -/
lemma mem_refsOf (gu : Guarded (op :: rest)) {o : Op} (mem : o ∈ op :: rest) (need : s ∈ o.needs) :
    s ∈ refsOf rest := by
  induction rest generalizing op with
  | nil =>
    cases mem with
    | head => exact gu.1.1 s need
    | tail _ later => cases later
  | cons op' rest ih =>
    cases mem with
    | head => exact gu.1.1 s need
    | tail _ later =>
      rw [refsOf_cons]
      exact List.mem_append_right _ (ih gu.2 later)

/-- The call has taken the step `op`. -/
structure Took (m m' : Memory) (op : Op) (rest : List Op) (ok : Bool) : Prop where
  good : Good m'
  sess : m'.pool.sess = (exec m.pool ok op).1.sess
  next : m'.pool.next = m.pool.next
  gc : m'.pool.gc = (exec m.pool ok op).1.gc
  pending : m'.pipePending = (m.exec ok op).1.pipePending
  same : (m.exec ok op).1.pool = (exec m.pool ok op).1
  evolves : m.pool.Evolves (exec m.pool ok op).1
  alive : ∀ s ∈ refsOf rest, 0 < (m'.pool.sess s).refCount

/-- The last call takes its next operation. -/
lemma took (dr : Draining m0 m (op :: rest))
    (st : m.step (.event (.run m0.pool.calls.length ok)) = some m') :
    Took m m' op rest ok ∧ m'.pool.calls = m0.pool.calls ++ [(exec m.pool ok op).2 ++ rest] := by
  have good := dr.good.step st
  have here : m.pool.calls[m0.pool.calls.length]? = some (op :: rest) := by
    rw [dr.calls, List.getElem?_append_right (Nat.le_refl _), Nat.sub_self]
    rfl
  simp only [Memory.step, here] at st
  cases st
  obtain ⟨-, pool, ops⟩ := dr.good.tidy.exec dr.good.settled.kept.sound.unborn ok op
  obtain ⟨so, -⟩ := dr.good.settled.kept.split here
  have calls : ((m.exec ok op).1.pool.goOn m0.pool.calls.length ((m.exec ok op).2 ++ rest)).calls =
      m0.pool.calls ++ [(exec m.pool ok op).2 ++ rest] := by
    rw [Pool.goOn, pool, ops, calls_exec, dr.calls, List.set_append_right _ _ (Nat.le_refl _),
      Nat.sub_self]
    rfl
  refine ⟨⟨good, ?_, ?_, ?_, rfl, pool, so.evolves (dr.guarded.needs _), fun s mem => ?_⟩, calls⟩
  · show (m.exec ok op).1.pool.sess = _
    rw [pool]
  · show (m.exec ok op).1.pool.next = _
    rw [pool, next_exec]
  · show (m.exec ok op).1.pool.gc = _
    rw [pool]
  · refine good.settled.kept.sound.ledger.pos ?_
    dsimp only
    rw [calls, List.flatten_append, refsOf_append, List.flatten_singleton, refsOf_append]
    exact List.mem_append_right _ (List.mem_append_right _ mem)

namespace Took

variable (tk : Took m m' op rest ok)
include tk

/-- What was emptied stays so. -/
lemma emptied (em : Emptied m s) : Emptied m' s where
  pipeRead := by
    rw [tk.sess]
    exact pipes_exec.1 em.pipeRead
  pipeWrite := by
    rw [tk.sess]
    exact pipes_exec.2 em.pipeWrite
  pending := by
    rw [tk.pending]
    exact pipePending_exec em.pending

/-- A session that is open now was open before. -/
lemma was_open (opens : (m'.pool.sess s).state.isClosing = false) :
    (m.pool.sess s).state.isClosing = false := by
  cases was : (m.pool.sess s).state.isClosing with
  | false => rfl
  | true =>
    rw [tk.sess, (tk.evolves s).closing was] at opens
    cases opens

/-- A session that the call has still a reference of begins to close with the exchange only. -/
lemma begun (dr : Draining m0 m (op :: rest)) (mem : s ∈ refsOf rest)
    (was : (m.pool.sess s).state.isClosing = false)
    (begun : (m'.pool.sess s).state.isClosing = true) : op = .closing s := by
  have pos := tk.alive s mem
  rw [tk.sess] at begun pos
  rcases begun_exec begun with old | none | close | rfl
  · rw [was] at old
    cases old
  · rw [none] at pos
    cases pos
  · exact close
  · have linked := dr.good.settled.closing s
    have todo : Op.gcLink s ∈ m.pool.calls.flatten := by
      rw [dr.calls, List.flatten_append]
      exact List.mem_append_right _ (by simp)
    rw [linked.linked _ todo rfl] at was
    cases was

end Took

/-- The drain empties the pipe of a session that it was not yet at. -/
lemma Took.drained (tk : Took m m' (.emergencyDrain s) rest ok)
    (fresh : (m.pool.sess s).emergencyDrained = false) : Emptied m' s := by
  have em : Emptied (m.exec ok (.emergencyDrain s)).1 s := emptied_emergencyDrain fresh
  refine ⟨?_, ?_, ?_⟩
  · rw [tk.sess, ← tk.same]
    exact em.pipeRead
  · rw [tk.sess, ← tk.same]
    exact em.pipeWrite
  · rw [tk.pending]
    exact em.pending

/-- A session that is still open is still to be drained. -/
lemma opened_step (dr : Draining m0 m (op :: rest)) (rested : AtRest m0)
    (tk : Took m m' op rest ok) (mem : s ∈ m0.pool.registry)
    (opens : (m'.pool.sess s).state.isClosing = false) :
    .drainOne s ∈ (exec m.pool ok op).2 ++ rest ∨ .emergencyDrain s ∈ (exec m.pool ok op).2 ++ rest ∨
      .markClosing s ∈ (exec m.pool ok op).2 ++ rest ∨ .closing s ∈ (exec m.pool ok op).2 ++ rest := by
  have was := tk.was_open opens
  have later : ∀ {o}, o ∈ rest → o ∈ (exec m.pool ok op).2 ++ rest :=
    fun mem => List.mem_append_right _ mem
  rcases dr.opened s mem was with todo | todo | todo | todo
  · cases todo with
    | head =>
      right
      left
      simp [exec, was]
    | tail _ todo => exact .inl (later todo)
  · cases todo with
    | head =>
      cases fresh : (m.pool.sess s).emergencyDrained with
      | false =>
        rw [exec_emergencyDrain fresh was]
        exact .inr (.inr (.inl List.mem_cons_self))
      | true =>
        -- somebody is about to mark it, and nobody else is at work
        have marking := ((dr.good.marked s).drained fresh).resolve_left (by simp [was])
        rw [dr.calls, List.flatten_append, List.flatten_singleton] at marking
        rcases marking with todo | todo
        · rcases List.mem_append.mp todo with other | todo
          · exact absurd (rested _ other) (by simp [Op.waits])
          · cases todo with
            | tail _ todo => exact .inr (.inr (.inl (later todo)))
        · rcases List.mem_append.mp todo with other | todo
          · exact absurd (rested _ other) (by simp [Op.waits])
          · cases todo with
            | tail _ todo => exact .inr (.inr (.inr (later todo)))
    | tail _ todo => exact .inr (.inl (later todo))
  · cases todo with
    | head => exact .inr (.inr (.inr (List.mem_append_left _ List.mem_cons_self)))
    | tail _ todo => exact .inr (.inr (.inl (later todo)))
  · cases todo with
    | head =>
      rw [tk.sess, begun_closing] at opens
      cases opens
    | tail _ todo => exact .inr (.inr (.inr (later todo)))

/-- And so is one whose pipe is not empty. -/
lemma full_step (dr : Draining m0 m (op :: rest)) (tk : Took m m' op rest ok)
    (mem : s ∈ m0.pool.registry) (full : ¬Emptied m' s) :
    (m'.pool.sess s).state.isClosing = false ∧ (m'.pool.sess s).emergencyDrained = false ∧
      (.drainOne s ∈ (exec m.pool ok op).2 ++ rest ∨
        .emergencyDrain s ∈ (exec m.pool ok op).2 ++ rest) := by
  obtain ⟨was, fresh, todo⟩ := dr.full s mem fun em => full (tk.emptied em)
  have held : s ∈ refsOf rest := by
    rcases todo with todo | todo
    · exact mem_refsOf dr.guarded todo rfl
    · exact mem_refsOf dr.guarded todo rfl
  -- were it drained now, it would be empty
  have other : op ≠ .emergencyDrain s := by
    rintro rfl
    exact full (tk.drained fresh)
  refine ⟨?_, ?_, ?_⟩
  · cases begun : (m'.pool.sess s).state.isClosing with
    | false => rfl
    | true =>
      obtain rfl := tk.begun dr held was begun
      exact absurd (tk.emptied (dr.ready s (.inr List.mem_cons_self))) full
  · cases flag : (m'.pool.sess s).emergencyDrained with
    | false => rfl
    | true =>
      rw [tk.sess] at flag
      rcases emergencyDrained_exec flag with old | drain
      · rw [fresh] at old
        cases old
      · exact absurd drain other
  · rcases todo with todo | todo
    · cases todo with
      | head =>
        right
        simp [exec, was]
      | tail _ todo => exact .inl (List.mem_append_right _ todo)
    · cases todo with
      | head => exact absurd rfl other
      | tail _ todo => exact .inr (List.mem_append_right _ todo)

/-- A session that is about to be closed was emptied before. -/
lemma ready_step (dr : Draining m0 m (op :: rest)) (tk : Took m m' op rest ok)
    (todo : .markClosing s ∈ (exec m.pool ok op).2 ++ rest ∨
      .closing s ∈ (exec m.pool ok op).2 ++ rest) : Emptied m' s := by
  rcases todo with todo | todo
  · rcases List.mem_append.mp todo with new | old
    · obtain ⟨rfl, fresh⟩ := markClosing_mem_exec (dr.kinds op List.mem_cons_self) new
      exact tk.drained fresh
    · exact tk.emptied (dr.ready s (.inl (List.mem_cons_of_mem op old)))
  · rcases List.mem_append.mp todo with new | old
    · obtain rfl := closing_mem_exec new
      exact tk.emptied (dr.ready s (.inl List.mem_cons_self))
    · exact tk.emptied (dr.ready s (.inr (List.mem_cons_of_mem op old)))

/-- A session that is closing is queued, or about to be. -/
lemma queued_step (dr : Draining m0 m (op :: rest)) (tk : Took m m' op rest ok)
    (mem : s ∈ m0.pool.registry) (begun : (m'.pool.sess s).state.isClosing = true) :
    (m'.pool.sess s).gcEnqueued = true ∨ .gcEnqueue s ∈ (exec m.pool ok op).2 ++ rest := by
  cases was : (m.pool.sess s).state.isClosing with
  | true =>
    rcases dr.queued s mem was with flag | todo
    · left
      rw [tk.sess]
      exact (tk.evolves s).enqueued flag
    · cases todo with
      | head =>
        left
        rw [tk.sess]
        simp only [exec]
        split
        · rename_i flag
          exact flag
        · simp only [Pool.get, Pool.modify, ↓reduceIte]
          rw [(keeps_get _).enqueued]
          rfl
      | tail _ todo => exact .inr (List.mem_append_right _ todo)
  | false =>
    have held : s ∈ refsOf rest := by
      rcases dr.opened s mem was with todo | todo | todo | todo
      all_goals exact mem_refsOf dr.guarded todo rfl
    obtain rfl := tk.begun dr held was begun
    right
    rw [exec_closing was]
    simp

/-- One whose flag is set is linked, or about to be. -/
lemma linked_step (dr : Draining m0 m (op :: rest)) (tk : Took m m' op rest ok)
    (mem : s ∈ m0.pool.registry) (flag : (m'.pool.sess s).gcEnqueued = true) :
    s ∈ m'.pool.gc ∨ .gcLink s ∈ (exec m.pool ok op).2 ++ rest := by
  cases was : (m.pool.sess s).gcEnqueued with
  | true =>
    rcases dr.linked s mem was with queue | todo
    · left
      rw [tk.gc]
      exact gc_exec queue
    · cases todo with
      | head =>
        left
        rw [tk.gc]
        exact List.mem_append_right _ (List.mem_singleton.mpr rfl)
      | tail _ todo => exact .inr (List.mem_append_right _ todo)
  | false =>
    rw [tk.sess] at flag
    rcases gcEnqueued_exec flag with old | rfl
    · rw [was] at old
      cases old
    · right
      simp [exec, was]

/-- The call takes a step. -/
theorem step (dr : Draining m0 m (op :: rest)) (rested : AtRest m0)
    (st : m.step (.event (.run m0.pool.calls.length ok)) = some m') :
    Draining m0 m' ((exec m.pool ok op).2 ++ rest) := by
  obtain ⟨tk, calls⟩ := dr.took st
  refine ⟨tk.good, calls, fun o mem => ?_, fun s mem => ?_, fun s => dr.opened_step rested tk,
    fun s => dr.full_step tk, fun s => dr.ready_step tk, fun s => dr.queued_step tk,
    fun s => dr.linked_step tk⟩
  · rcases List.mem_append.mp mem with new | old
    · exact drains_exec (dr.kinds op List.mem_cons_self) o new
    · exact dr.kinds o (List.mem_cons_of_mem op old)
  · obtain ⟨born, registered⟩ := mem_registry.mp mem
    rw [tk.next] at born
    rw [tk.sess] at registered
    exact dr.registry s (mem_registry.mpr ⟨born, (tk.evolves s).registered registered⟩)

/-! ### The whole drain -/

/-- The snapshot is taken. -/
lemma begun (go : Good m0) (rested : AtRest m0) (some' : m0.count ≠ 0)
    (st : m0.step (.event (.emergencyDrainAll true)) = some m)
    (snap : m.step (.event (.run m0.pool.calls.length ok)) = some m') :
    Draining m0 m' (m0.pool.registry.flatMap fun s => [.drainOne s, .put s]) := by
  have good := (go.step st).step snap
  -- with no call in progress every registered session is open
  have opened : ∀ s ∈ m0.pool.registry, (m0.pool.sess s).state.isClosing = false := by
    intro s mem
    refine ((go.mem_registry_iff (fun t todo => ?_) s).mp mem).2
    exact absurd (rested _ todo) (by simp [Op.waits])
  have all : walk m0.link m0.head m0.count = m0.pool.registry := by
    rw [go.tidy.walk, go.tidy.count, List.take_length]
  simp only [Memory.step, some', Bool.true_eq_false, or_self, ↓reduceIte] at st
  cases st
  have here : (m0.pool.begin [.snapshot m0.count]).calls[m0.pool.calls.length]? =
      some [.snapshot m0.count] := by
    rw [Pool.begin, List.getElem?_append_right (Nat.le_refl _), Nat.sub_self]
    rfl
  simp only [Memory.step, here, Memory.exec, all] at snap
  cases snap
  -- the snapshot only takes references
  have kept : ∀ s, Keeps (m0.pool.sess s) (((m0.pool.registry.foldl Pool.get
      (m0.pool.begin [.snapshot m0.count])).sess s)) := keeps_getAll (m0.pool.begin _) _
  have state : ∀ s, ((m0.pool.registry.foldl Pool.get
      (m0.pool.begin [.snapshot m0.count])).sess s).state = (m0.pool.sess s).state :=
    state_getAll (m0.pool.begin _) _
  have frame := frame_getAll (m0.pool.begin [.snapshot m0.count]) m0.pool.registry
  refine ⟨good, ?_, fun op mem => ?_, fun s mem => ?_, fun s mem _ => ?_, fun s mem _ => ?_,
    fun s mem => ?_, fun s mem begun => ?_, fun s mem flag => ?_⟩
  · show (m0.pool.registry.foldl Pool.get (m0.pool.begin [.snapshot m0.count])).calls.set _ _ = _
    rw [frame.calls, Pool.begin, List.set_append_right _ _ (Nat.le_refl _), Nat.sub_self,
      List.append_nil]
    rfl
  · obtain ⟨s, -, mem⟩ := List.mem_flatMap.mp mem
    rcases List.mem_cons.mp mem with rfl | mem
    · rfl
    · rw [List.mem_singleton.mp mem]
      rfl
  · obtain ⟨born, registered⟩ := mem_registry.mp mem
    refine mem_registry.mpr ⟨frame.next ▸ born, ?_⟩
    rw [← (kept s).registered]
    exact registered
  · exact .inl (List.mem_flatMap.mpr ⟨s, mem, List.mem_cons_self⟩)
  · refine ⟨(congrArg SessionState.isClosing (state s)).trans (opened s mem), ?_, .inl ?_⟩
    · refine (kept s).drained.trans ?_
      -- an open session that was drained before would have to be drained still
      cases flag : (m0.pool.sess s).emergencyDrained with
      | false => rfl
      | true =>
        rcases (go.marked s).drained flag with begun | todo | todo
        · rw [opened s mem] at begun
          cases begun
        · exact absurd (rested _ todo) (by simp [Op.waits])
        · exact absurd (rested _ todo) (by simp [Op.waits])
    · exact List.mem_flatMap.mpr ⟨s, mem, List.mem_cons_self⟩
  · simp at mem
  · have begun := (congrArg SessionState.isClosing (state s)).symm.trans begun
    rw [opened s mem] at begun
    cases begun
  · have flag := (kept s).enqueued.symm.trans flag
    have begun := (go.marked s).flagged flag
    rw [opened s mem] at begun
    cases begun

/-- The call goes on by itself. -/
lemma run {es : List Label} (dr : Draining m0 m ops) (rested : AtRest m0)
    (alone : ∀ l ∈ es, ∃ ok, l = .event (.run m0.pool.calls.length ok))
    (rn : run Memory.step m es = some m') : ∃ ops', Draining m0 m' ops' := by
  induction es generalizing m ops with
  | nil =>
    cases rn
    exact ⟨ops, dr⟩
  | cons l es ih =>
    obtain ⟨m1, st, later⟩ := run_cons.mp rn
    obtain ⟨ok, rfl⟩ := alone l List.mem_cons_self
    cases ops with
    | nil =>
      have here : m.pool.calls[m0.pool.calls.length]? = some [] := by
        rw [dr.calls, List.getElem?_append_right (Nat.le_refl _), Nat.sub_self]
        rfl
      simp [Memory.step, here] at st
    | cons op rest =>
      exact ih (dr.step rested st) (fun l mem => alone l (List.mem_cons_of_mem _ mem)) later

/-- How many steps an operation comes to, at most. -/
def cost : Op → Nat
  | .registryRemove _ | .gcEnqueue _ => 2
  | .detach _ => 3
  | .closing _ => 8
  | .markClosing _ => 10
  | .emergencyDrain _ => 11
  | .drainOne _ => 12
  | _ => 1

/-- Each operation costs more than what it leaves to do. -/
lemma cost_exec (kind : op.drains = true) : ((exec p ok op).2.map cost).sum < cost op := by
  cases op with
  | put s | removeFd s r fd | gcLink s | markClosing s => simp [exec, cost]
  | closing s | registryRemove s | gcEnqueue s | drainOne s =>
    simp only [exec]
    split <;> simp [cost]
  | detach s =>
    simp only [exec]
    split <;> simp [cost]
  | emergencyDrain s =>
    simp only [exec]
    split
    · simp [cost]
    · dsimp only
      split <;> simp [cost]
  | _ => cases kind

/-- The call comes to its end. -/
lemma finish (dr : Draining m0 m ops) (rested : AtRest m0) : ∃ es m',
    (∀ l ∈ es, ∃ ok, l = .event (.run m0.pool.calls.length ok)) ∧
      Lib.run Memory.step m es = some m' ∧ Draining m0 m' [] := by
  induction h : (ops.map cost).sum using Nat.strongRecOn generalizing m ops with
  | ind n ih =>
    cases ops with
    | nil => exact ⟨[], m, nofun, rfl, dr⟩
    | cons op rest =>
      have here : m.pool.calls[m0.pool.calls.length]? = some (op :: rest) := by
        rw [dr.calls, List.getElem?_append_right (Nat.le_refl _), Nat.sub_self]
        rfl
      obtain ⟨m1, st⟩ : ∃ m1, m.step (.event (.run m0.pool.calls.length true)) = some m1 := by
        simp [Memory.step, here]
      have less : (((exec m.pool true op).2 ++ rest).map cost).sum < n := by
        have first : ((exec m.pool true op).2.map cost).sum < cost op :=
          cost_exec (dr.kinds op List.mem_cons_self)
        rw [← h, List.map_append, List.sum_append, List.map_cons, List.sum_cons]
        exact Nat.add_lt_add_right first _
      obtain ⟨es, m', alone, rn, done⟩ := ih _ less (dr.step rested st) rfl
      refine ⟨_ :: es, m', fun l mem => ?_, run_cons.mpr ⟨m1, st, rn⟩, done⟩
      rcases List.mem_cons.mp mem with rfl | mem
      · exact ⟨true, rfl⟩
      · exact alone l mem

end Draining

/-- What `atpd_session_emergency_drain_all` leaves behind. -/
structure Drained (m0 m : Memory) : Prop where
  registry : m.pool.registry = []
  head : m.head = none
  count : m.count = 0
  closed : ∀ s ∈ m0.pool.registry, (m.pool.sess s).state.isClosing = true
  emptied : ∀ s ∈ m0.pool.registry, Emptied m s
  queued : ∀ s ∈ m0.pool.registry, m.pool.gc.count s = 1

/-- `atpd_session_emergency_drain_all` is called in `m`, and `m'` is reached by its steps. -/
structure Drains (m m' : Memory) (es : List Label) : Prop where
  alone : ∀ l ∈ es, ∃ ok, l = .event (.run m.pool.calls.length ok)
  reach : run Memory.step m (.event (.emergencyDrainAll true) :: es) = some m'

/-- What the call has still to do. -/
def left (m m' : Memory) : List Op := m'.pool.calls[m.pool.calls.length]?.getD []

/-- Whatever the call has still to do, the sessions that it will touch or put are not freed. -/
def InUse (m m' : Memory) : Prop :=
  ∀ op ∈ left m m', ∀ s, s ∈ op.needs ∨ s ∈ op.ref → Live (m'.pool.sess s)

namespace Draining

variable {m0 : Memory}

/-- What is left of the call. -/
lemma left_eq (dr : Draining m0 m ops) : left m0 m = ops := by
  rw [left, dr.calls, List.getElem?_append_right (Nat.le_refl _), Nat.sub_self]
  rfl

/-- Its place is in use. -/
lemma inUse (dr : Draining m0 m ops) : InUse m0 m := by
  intro op mem s use
  rw [dr.left_eq] at mem
  have held : s ∈ refsOf ops := by
    rcases use with need | ref
    · cases ops with
      | nil => cases mem
      | cons o rest =>
        rw [refsOf_cons]
        exact List.mem_append_right _ (mem_refsOf dr.guarded mem need)
    · exact List.mem_filterMap.mpr ⟨op, mem, ref⟩
  have pos := dr.pos held
  have so := dr.good.settled.kept.sound
  by_cases born : s < m.pool.next
  · rcases so.lives s born with live | freed
    · exact live
    · rw [freed.count] at pos
      cases pos
  · rw [so.unborn s (Nat.le_of_not_lt born)] at pos
    cases pos

/-- Nothing is left to do. -/
lemma drained (dr : Draining m0 m []) (rested : AtRest m0) : Drained m0 m := by
  have closed : ∀ s ∈ m0.pool.registry, (m.pool.sess s).state.isClosing = true := by
    intro s mem
    cases was : (m.pool.sess s).state.isClosing with
    | true => rfl
    | false => rcases dr.opened s mem was with todo | todo | todo | todo <;> cases todo
  have registry : m.pool.registry = [] := by
    refine List.eq_nil_iff_forall_not_mem.mpr fun s mem => ?_
    have begun := closed s (dr.registry s mem)
    have todo := (dr.good.settled.closing s).registered begun (mem_registry.mp mem).2
    rw [dr.calls, List.flatten_append] at todo
    rcases List.mem_append.mp todo with other | none
    · exact absurd (rested _ other) (by simp [Op.waits])
    · simp at none
  have linked := dr.good.tidy.linked
  rw [registry] at linked
  refine ⟨registry, linked, by rw [dr.good.tidy.count, registry]; rfl, closed, fun s mem => ?_,
    fun s mem => ?_⟩
  · by_contra full
    rcases (dr.full s mem full).2.2 with todo | todo <;> cases todo
  · rw [dr.good.settled.kept.sound.count_gc, if_pos]
    rcases dr.queued s mem (closed s mem) with flag | todo
    · rcases dr.linked s mem flag with queue | todo
      · exact queue
      · cases todo
    · cases todo

end Draining

namespace Good

/-- There is no session, and the function returns at once. -/
lemma drains_none {es : List Label} (none : m.count = 0) (dr : Drains m m' es) :
    m' = m := by
  obtain ⟨m1, st, rn⟩ := run_cons.mp dr.reach
  simp only [Memory.step, none, true_or, ↓reduceIte] at st
  cases st
  cases es with
  | nil =>
    cases rn
    rfl
  | cons l es =>
    obtain ⟨m2, st, -⟩ := run_cons.mp rn
    obtain ⟨ok, rfl⟩ := dr.alone l List.mem_cons_self
    simp [Memory.step] at st

/-- At its end nothing is left. -/
lemma left_self (m : Memory) : left m m = [] := by
  rw [left, List.getElem?_eq_none (Nat.le_refl _)]
  rfl

/-- While the call runs its sessions live, and when it has returned they are drained. -/
lemma drains {es : List Label} (go : Good m) (rested : AtRest m) (dr : Drains m m' es) :
    InUse m m' ∧ (left m m' = [] → Drained m m') := by
  by_cases none : m.count = 0
  · obtain rfl := drains_none none dr
    have registry : m'.pool.registry = [] := by
      rw [← List.length_eq_zero_iff, ← go.tidy.count, none]
    have linked := go.tidy.linked
    rw [registry] at linked
    refine ⟨fun op mem => ?_, fun _ => ⟨registry, linked, none, ?_, ?_, ?_⟩⟩
    · rw [left_self] at mem
      cases mem
    all_goals
      rw [registry]
      exact nofun
  · obtain ⟨m1, st, rn⟩ := run_cons.mp dr.reach
    cases es with
    | nil =>
      cases rn
      simp only [Memory.step, none, Bool.true_eq_false, or_self, ↓reduceIte] at st
      cases st
      have here : left m { m with pool := m.pool.begin [.snapshot m.count] } =
          [.snapshot m.count] := by
        rw [left, Pool.begin, List.getElem?_append_right (Nat.le_refl _), Nat.sub_self]
        rfl
      refine ⟨fun op mem s use => ?_, fun done => ?_⟩
      · rw [here] at mem
        rw [List.mem_singleton.mp mem] at use
        rcases use with use | use <;> cases use
      · rw [here] at done
        cases done
    | cons l es =>
      obtain ⟨m2, snap, later⟩ := run_cons.mp rn
      obtain ⟨ok, rfl⟩ := dr.alone l List.mem_cons_self
      have first := Draining.begun go rested none st snap
      obtain ⟨ops, last⟩ :=
        first.run rested (fun l mem => dr.alone l (List.mem_cons_of_mem _ mem)) later
      refine ⟨last.inUse, fun done => ?_⟩
      rw [last.left_eq] at done
      subst done
      exact last.drained rested

/-- The function returns. -/
lemma drains_ends (go : Good m) (rested : AtRest m) : ∃ es m', Drains m m' es ∧ left m m' = [] := by
  by_cases none : m.count = 0
  · refine ⟨[], m, ⟨nofun, ?_⟩, left_self m⟩
    simp [run, Memory.step, none]
  · obtain ⟨m1, st⟩ : ∃ m1, m.step (.event (.emergencyDrainAll true)) = some m1 := by
      simp [Memory.step, none]
    obtain ⟨m2, snap⟩ : ∃ m2, m1.step (.event (.run m.pool.calls.length true)) = some m2 := by
      simp only [Memory.step, none, Bool.true_eq_false, or_self, ↓reduceIte] at st
      cases st
      have here : (m.pool.begin [.snapshot m.count]).calls[m.pool.calls.length]? =
          some [.snapshot m.count] := by
        rw [Pool.begin, List.getElem?_append_right (Nat.le_refl _), Nat.sub_self]
        rfl
      simp [Memory.step, here]
    obtain ⟨es, m', alone, rn, last⟩ := (Draining.begun go rested none st snap).finish rested
    refine ⟨.event (.run m.pool.calls.length true) :: es, m', ⟨fun l mem => ?_, ?_⟩, last.left_eq⟩
    · rcases List.mem_cons.mp mem with rfl | mem
      · exact ⟨true, rfl⟩
      · exact alone l mem
    · exact run_cons.mpr ⟨m1, st, run_cons.mpr ⟨m2, snap, rn⟩⟩

end Good

/-- In every run the pointers hold the list of the registered sessions, each once, and the counter is its
length; when no removal is under way, these are the sessions that are not closing. When it is called where
a call can be made, `atpd_session_emergency_drain_all` returns; then the registry is empty, and the sessions
that were in it are closing, emptied and queued once; and it never has a freed session in use. -/
theorem registry_drained (ls : List Label) (m : Memory) (reach : run Memory.step .init ls = some m) :
    Linked m.link none m.head m.pool.registry ∧ m.pool.registry.Nodup ∧
      m.count = m.pool.registry.length ∧
      ((∀ s, .registryRemove s ∉ m.pool.calls.flatten) → ∀ s, s ∈ m.pool.registry ↔
        s < m.pool.next ∧ (m.pool.sess s).state.isClosing = false) ∧
      (AtRest m → (∃ es m', Drains m m' es ∧ left m m' = []) ∧
        ∀ es m', Drains m m' es → InUse m m' ∧ (left m m' = [] → Drained m m')) := by
  have good : Good m := run_preserves (fun _ _ _ go st => go.step st) .init reach
  refine ⟨good.tidy.linked, nodup_registry _, good.tidy.count, good.mem_registry_iff, fun rested => ?_⟩
  exact ⟨good.drains_ends rested, fun es m' dr => good.drains rested dr⟩

/-- Three sessions are made. The second is registered with a reactor, the first is closed, and then a
callback of the second runs, and leaves nine bytes in its pipe. -/
def drainRun : List Label :=
  [.event (.create (some 0) 3 4 5 6), .event (.create (some 0) 7 8 9 10),
    .event (.create none 11 12 13 14), .event (.api 1 (.register 0))] ++
  List.replicate 5 (.event (.run 1 true)) ++ [.event (.destroy 0)] ++
  List.replicate 9 (.event (.run 3 true)) ++ [.event (.dispatch 0 7), .pending 4 9]

/-- There the registry has the two that are left, and a drain from the callback empties it. -/
theorem registry_drained_callback : ∃ m, run Memory.step .init drainRun = some m ∧
    m.pool.registry = [2, 1] ∧ m.count = 2 ∧ m.pipePending 1 = 9 ∧ AtRest m ∧
    ∃ es m', Drains m m' es ∧ left m m' = [] ∧ InUse m m' ∧ Drained m m' := by
  have seen : (run Memory.step .init drainRun).map (fun m =>
      (m.pool.registry, m.count, m.pipePending 1, m.pool.calls.flatten.all Op.waits)) =
        some ([2, 1], 2, 9, true) := by decide +kernel
  obtain ⟨m, reach, here⟩ := Option.map_eq_some_iff.mp seen
  simp only [Prod.mk.injEq, List.all_eq_true] at here
  obtain ⟨registry, count, pending, rested⟩ := here
  refine ⟨m, reach, registry, count, pending, rested, ?_⟩
  obtain ⟨es, m', dr, done⟩ := ((registry_drained drainRun m reach).2.2.2.2 rested).1
  obtain ⟨use, drained⟩ := ((registry_drained drainRun m reach).2.2.2.2 rested).2 es m' dr
  exact ⟨es, m', dr, done, use, drained done⟩

end Atpd.Session.Refs
