import Mathlib.Data.List.Nodup
import Atpd.Lib.Linked
import Atpd.Session.Destroy

/-!
# The registry of sessions

The list of `g_session_head` in `src/session.c` as it is in memory, with the pointers `prev` and `next`
of the sessions and the counter `g_session_count`; and `pipe_pending`. The rest of a session is that of
`Session/Refs.lean`, where the registry is a list of the sessions that are registered. Here
`session_registry_add` and `session_registry_remove` write the pointers, and
`atpd_session_emergency_drain_all` follows them.

`Tidy` says that the pointers hold that list. Every step keeps it, and is a step of the other model.
-/

namespace Atpd.Session.Refs

open Atpd.Lib

/-- The sessions with the pointers between them. -/
structure Memory where
  pool : Pool
  link : Nat → Link Nat
  head : Option Nat
  count : Nat
  pipePending : Nat → Nat

/-- No session, and an empty list. -/
def Memory.init : Memory := ⟨.init, fun _ => ⟨none, none⟩, none, 0, fun _ => 0⟩

/-- `session_registry_add`. -/
def Memory.registryAdd (m : Memory) (s : Nat) : Memory :=
  { m with link := pushFront m.link m.head s, head := some s, count := m.count + 1 }

/-- `session_registry_remove`, for a session that is registered. -/
def Memory.registryRemove (m : Memory) (s : Nat) : Memory :=
  { m with
    pool := m.pool.modify s unlink
    link := unlinkNode m.link s
    head := unlinkHead m.link m.head s
    count := m.count - 1 }

/-- One step of a call. -/
def Memory.exec (m : Memory) (ok : Bool) : Op → Memory × List Op
  | .registryRemove s =>
    if (m.pool.sess s).registryRegistered then (m.registryRemove s, [.put s]) else (m, [])
  | .emergencyDrain s =>
    if (m.pool.sess s).emergencyDrained then (m, [])
    else
      ({ m with
          pool := m.pool.modify s drainPipes
          pipePending := Function.update m.pipePending s 0 },
        if (m.pool.sess s).state.isClosing then [] else [.markClosing s])
  | .snapshot count =>
    let sessions := walk m.link m.head count
    ({ m with pool := sessions.foldl Pool.get m.pool },
      sessions.flatMap fun s => [.drainOne s, .put s])
  | op => ({ m with pool := (Refs.exec m.pool ok op).1 }, (Refs.exec m.pool ok op).2)

/-- What can happen. -/
inductive Label where
  | event (e : Event)
  /-- The call `i` is a callback, and stores `pipe_pending`. -/
  | pending (i n : Nat)
deriving DecidableEq, Repr

/-- A step with the list and its counter. -/
def Memory.step (m : Memory) : Label → Option Memory
  | .event (.create reactor fdIn fdOut pipeRead pipeWrite) =>
    (Refs.step m.pool (.create reactor fdIn fdOut pipeRead pipeWrite)).map fun p =>
      { m.registryAdd m.pool.next with
        pool := p
        pipePending := Function.update m.pipePending m.pool.next 0 }
  | .event (.emergencyDrainAll alloc) =>
    if m.count = 0 ∨ alloc = false then some m
    else some { m with pool := m.pool.begin [.snapshot m.count] }
  | .event (.run i ok) =>
    match m.pool.calls[i]? with
    | some (op :: rest) =>
      let (m, ops) := m.exec ok op
      some { m with pool := m.pool.goOn i (ops ++ rest) }
    | _ => none
  | .event e => (Refs.step m.pool e).map fun p => { m with pool := p }
  | .pending i n =>
    match m.pool.calls[i]? with
    | some (.callback s :: _) => some { m with pipePending := Function.update m.pipePending s n }
    | _ => none

variable {p q : Pool} {m m' : Memory} {s t i r : Nat} {op : Op} {ops rest todo : List Op} {ok : Bool}
  {e : Event} {fd : Int}

/-! ## What a step of a call leaves alone -/

/-- What a step leaves alone of a session, unless it is one that is made for it. -/
structure Keeps (x x' : AtpdSession) : Prop where
  registered : x'.registryRegistered = x.registryRegistered
  enqueued : x'.gcEnqueued = x.gcEnqueued
  drained : x'.emergencyDrained = x.emergencyDrained
  pipeRead : x.pipeRead < 0 → x'.pipeRead < 0
  pipeWrite : x.pipeWrite < 0 → x'.pipeWrite < 0

lemma Keeps.rfl {x : AtpdSession} : Keeps x x := ⟨.refl _, .refl _, .refl _, id, id⟩

/-- One change behind another. -/
lemma Keeps.trans {x y z : AtpdSession} (xy : Keeps x y) (yz : Keeps y z) : Keeps x z where
  registered := yz.registered.trans xy.registered
  enqueued := yz.enqueued.trans xy.enqueued
  drained := yz.drained.trans xy.drained
  pipeRead neg := yz.pipeRead (xy.pipeRead neg)
  pipeWrite neg := yz.pipeWrite (xy.pipeWrite neg)

/-- A reference more keeps the flags. -/
lemma keeps_get (x : AtpdSession) : Keeps x (atpdSessionGet x) := by
  rw [atpdSessionGet]
  split
  · exact .rfl
  · exact ⟨rfl, rfl, rfl, id, id⟩

/-- Destroying keeps them. -/
lemma keeps_destroyInternal (x : AtpdSession) : Keeps x (destroyInternal x) := by
  rw [destroyInternal]
  split
  · exact ⟨rfl, rfl, rfl, id, id⟩
  · exact ⟨rfl, rfl, rfl, fun _ => safeClose_neg _, fun _ => safeClose_neg _⟩

/-- So does a reference less. -/
lemma keeps_put (x : AtpdSession) : Keeps x (atpdSessionPut x) := by
  rw [atpdSessionPut]
  split
  · exact .rfl
  · split
    · have dropped : Keeps x { x with refCount := 0 } := ⟨rfl, rfl, rfl, id, id⟩
      exact dropped.trans (keeps_destroyInternal _)
    · exact ⟨rfl, rfl, rfl, id, id⟩

/-- So does a transition. -/
lemma keeps_setState (x : AtpdSession) (desired : SessionState) :
    Keeps x (sessionSetState x desired).1 := by
  rw [sessionSetState]
  split
  · exact .rfl
  · exact ⟨rfl, rfl, rfl, id, id⟩

/-- Only the session that is written to matters. -/
lemma keeps_modify {f : AtpdSession → AtpdSession} (here : t = s → Keeps (p.sess s) (f (p.sess s))) :
    Keeps (p.sess t) ((p.modify s f).sess t) := by
  simp only [Pool.modify]
  split
  · rename_i same
    subst same
    exact here (.refl t)
  · exact .rfl

/-- By induction on the list. -/
lemma keeps_getAll (p : Pool) (ss : List Nat) (t : Nat) :
    Keeps (p.sess t) ((ss.foldl Pool.get p).sess t) := by
  induction ss generalizing p with
  | nil => exact .rfl
  | cons s ss ih => exact (keeps_modify fun _ => keeps_get _).trans (ih (p.get s))

/-- A handler that is removed keeps them. -/
lemma keeps_removeFd (p : Pool) (r : Nat) (fd : Int) (t : Nat) :
    Keeps (p.sess t) ((reactorRemoveFd p r fd).sess t) := by
  rw [reactorRemoveFd]
  split
  · exact .rfl
  · exact keeps_modify fun _ => keeps_put _

/-- So does one that is added. -/
lemma keeps_addFd (added : reactorAddFdEx p r fd s ok = some q) (t : Nat) :
    Keeps (p.sess t) (q.sess t) := by
  rw [reactorAddFdEx] at added
  split at added
  · cases added
  · split at added
    · cases added
      exact .rfl
    · rename_i old _
      cases added
      exact keeps_modify fun _ => keeps_put _

/-- Three operations change the flags of a session, and no other. -/
lemma keeps_exec (remove : op ≠ .registryRemove t) (enqueue : op ≠ .gcEnqueue t)
    (drain : op ≠ .emergencyDrain t) : Keeps (p.sess t) ((exec p ok op).1.sess t) := by
  cases op with
  | creatorPut s | put s => exact keeps_modify fun _ => keeps_put _
  | markClosing s | register s r | getOut s r => exact keeps_modify fun _ => keeps_get _
  | closing s =>
    simp only [exec]
    split
    · exact .rfl
    · exact keeps_modify fun _ => ⟨rfl, rfl, rfl, id, id⟩
  | registryRemove s =>
    simp only [exec]
    split
    · exact keeps_modify fun same => absurd (by rw [same]) remove
    · exact .rfl
  | detach s =>
    simp only [exec]
    split <;> exact .rfl
  | removeFd s r fd => exact keeps_removeFd p r fd t
  -- the session itself is excluded, and the reference that the queue takes is no flag
  | gcEnqueue s =>
    simp only [exec]
    split
    · exact .rfl
    · have flagged : Keeps (p.sess t) ((p.modify s flagEnqueued).sess t) :=
        keeps_modify fun same => absurd (by rw [same]) enqueue
      exact flagged.trans (keeps_modify fun _ => keeps_get _)
  | gcLink s =>
    have linked : Keeps (p.sess t)
        ((p.modify s fun x => (sessionSetState x .destroyPending).1).sess t) :=
      keeps_modify fun _ => keeps_setState (p.sess s) _
    exact linked
  | addIn s r | addOut s r =>
    simp only [exec]
    split
    · rename_i added
      exact keeps_addFd added t
    · exact .rfl
  -- the state is no flag
  | activate s =>
    simp only [exec]
    split
    · refine keeps_modify fun _ => ?_
      have set := keeps_setState (p.sess s) .active
      exact ⟨set.registered, set.enqueued, set.drained, set.pipeRead, set.pipeWrite⟩
    · exact .rfl
  | callback s => exact .rfl
  | emergencyDrain s =>
    simp only [exec]
    split
    · exact .rfl
    · exact keeps_modify fun same => absurd (by rw [same]) drain
  | snapshot count => exact keeps_getAll p _ t
  | drainOne s => exact .rfl

/-- Only `session_registry_remove` takes a session out of the registry. -/
lemma registered_exec (remove : op ≠ .registryRemove t) :
    ((exec p ok op).1.sess t).registryRegistered = (p.sess t).registryRegistered := by
  by_cases enqueue : op = .gcEnqueue t
  · subst enqueue
    simp only [exec]
    split
    · rfl
    · simp [Pool.get, Pool.modify, flagEnqueued]
  · by_cases drain : op = .emergencyDrain t
    · subst drain
      simp only [exec]
      split
      · rfl
      · simp [Pool.modify, drainPipes]
    · exact (keeps_exec remove enqueue drain).registered

/-- No operation makes a session. -/
lemma next_exec : (exec p ok op).1.next = p.next := by
  by_cases link : ∃ s, op = .gcLink s
  · obtain ⟨s, rfl⟩ := link
    rfl
  · exact (frame_exec fun s eq => link ⟨s, eq⟩).next

/-- What happens beside the steps of the calls, and the creation of a session. -/
lemma keeps_step (st : step p e = some q) (run : ∀ i ok, e ≠ .run i ok)
    (create : ∀ reactor fdIn fdOut pipeRead pipeWrite,
      e ≠ .create reactor fdIn fdOut pipeRead pipeWrite) (t : Nat) :
    Keeps (p.sess t) (q.sess t) := by
  cases e with
  | create reactor fdIn fdOut pipeRead pipeWrite => exact absurd rfl (create _ _ _ _ _)
  | run i ok => exact absurd rfl (run i ok)
  | get s | destroy s =>
    simp only [step] at st
    split at st
    · cases st
    · cases st
      exact keeps_modify fun _ => keeps_get _
  | api i f =>
    simp only [step] at st
    split at st
    · obtain ⟨s, -, rfl⟩ := Option.map_eq_some_iff.mp st
      exact .rfl
    · cases st
  | dispatch reactor fd =>
    obtain ⟨h, -, rfl⟩ := Option.map_eq_some_iff.mp st
    exact keeps_modify fun _ => keeps_get _
  | act i a =>
    simp only [step] at st
    split at st
    · rename_i s rest here
      cases st
      cases a with
      | setState desired =>
        simp only [Act.exec, Pool.goOn]
        split
        · exact .rfl
        · exact keeps_modify fun _ => keeps_setState (p.sess s) desired
      | markClosing => exact .rfl
      | emergencyDrain => exact .rfl
    · cases st
  | emergencyDrainAll alloc =>
    simp only [step] at st
    split at st
    · cases st
      exact .rfl
    · cases st
      exact .rfl
  | gcProcess =>
    cases st
    exact .rfl

/-- Only `atpd_session_create` does. -/
lemma next_step (st : step p e = some q) (run : ∀ i ok, e ≠ .run i ok)
    (create : ∀ reactor fdIn fdOut pipeRead pipeWrite,
      e ≠ .create reactor fdIn fdOut pipeRead pipeWrite) : q.next = p.next := by
  cases e with
  | create reactor fdIn fdOut pipeRead pipeWrite => exact absurd rfl (create _ _ _ _ _)
  | run i ok => exact absurd rfl (run i ok)
  | get s | destroy s | emergencyDrainAll alloc =>
    simp only [step] at st
    split at st <;> cases st <;> rfl
  | api i f =>
    simp only [step] at st
    split at st
    · obtain ⟨s, -, rfl⟩ := Option.map_eq_some_iff.mp st
      rfl
    · cases st
  | dispatch reactor fd =>
    obtain ⟨h, -, rfl⟩ := Option.map_eq_some_iff.mp st
    rfl
  | act i a =>
    simp only [step] at st
    split at st
    · cases st
      cases a with
      | setState desired =>
        simp only [Act.exec, Pool.goOn]
        split <;> rfl
      | markClosing => rfl
      | emergencyDrain => rfl
    · cases st
  | gcProcess =>
    cases st
    rfl

/-! ## The list -/

/-- What is in the registry. -/
lemma mem_registry : s ∈ p.registry ↔ s < p.next ∧ (p.sess s).registryRegistered = true := by
  simp [Pool.registry]

/-- No session is in it twice. -/
lemma nodup_registry (p : Pool) : p.registry.Nodup :=
  (List.nodup_reverse.mpr List.nodup_range).filter _

/-- The list depends on the flags of the sessions alone. -/
lemma registry_congr (next : q.next = p.next)
    (flags : ∀ s < p.next, (q.sess s).registryRegistered = (p.sess s).registryRegistered) :
    q.registry = p.registry := by
  rw [Pool.registry, Pool.registry, next]
  refine List.filter_congr fun s mem => flags s ?_
  simpa using mem

/-- A new session comes in front. -/
lemma registry_create {x : AtpdSession} (next : q.next = p.next + 1)
    (sess : q.sess = (p.modify p.next fun _ => x).sess) (registered : x.registryRegistered = true) :
    q.registry = p.next :: p.registry := by
  have here : (q.sess p.next).registryRegistered = true := by
    rw [sess, Pool.modify]
    simpa using registered
  have there : ∀ s ∈ (List.range p.next).reverse,
      (q.sess s).registryRegistered = (p.sess s).registryRegistered := by
    intro s mem
    have ne : s ≠ p.next := by
      have lt : s < p.next := by simpa using mem
      omega
    rw [sess, Pool.modify]
    simp [ne]
  rw [Pool.registry, next, List.range_succ, List.reverse_append, List.reverse_singleton,
    List.singleton_append, List.filter_cons, if_pos here, List.filter_congr there]
  rfl

/-- Unlinking takes out one session. -/
lemma registry_unlink (p : Pool) (s : Nat) : (p.modify s unlink).registry = p.registry.erase s := by
  rw [(nodup_registry p).erase_eq_filter, Pool.registry, Pool.registry, List.filter_filter]
  refine List.filter_congr fun t _ => ?_
  simp only [Pool.modify]
  split
  · rename_i same
    simp [same, unlink]
  · rename_i ne
    simp [ne]

/-- The pointers hold the list of the sessions that are registered, and the counter is its length. -/
structure Tidy (m : Memory) : Prop where
  linked : Linked m.link none m.head m.pool.registry
  count : m.count = m.pool.registry.length

namespace Tidy

/-- An empty list is tidy. -/
lemma init : Tidy .init := ⟨rfl, rfl⟩

/-- The list and the pointers to it are left alone. -/
lemma congr (ti : Tidy m) (registry : m'.pool.registry = m.pool.registry) (link : m'.link = m.link)
    (head : m'.head = m.head) (count : m'.count = m.count) : Tidy m' where
  linked := by
    rw [registry, link, head]
    exact ti.linked
  count := by
    rw [registry, count]
    exact ti.count

/-- The snapshot that is read off the pointers. -/
lemma walk (ti : Tidy m) (n : Nat) : walk m.link m.head n = m.pool.registry.take n :=
  ti.linked.walk_eq n

/-- A step of a call is one of the other model. -/
lemma exec (ti : Tidy m) (unborn : ∀ s, m.pool.next ≤ s → m.pool.sess s = .unborn) (ok : Bool)
    (op : Op) : Tidy (m.exec ok op).1 ∧
    (m.exec ok op).1.pool = (Refs.exec m.pool ok op).1 ∧
      (m.exec ok op).2 = (Refs.exec m.pool ok op).2 := by
  have flags : (∀ s, op ≠ .registryRemove s) →
      (Refs.exec m.pool ok op).1.registry = m.pool.registry :=
    fun remove => registry_congr next_exec fun s _ => registered_exec (remove s)
  cases op with
  | registryRemove s =>
    simp only [Memory.exec, Refs.exec]
    split
    · rename_i registered
      refine ⟨?_, rfl, rfl⟩
      have born : s < m.pool.next := by
        by_contra le
        rw [unborn s (Nat.le_of_not_lt le)] at registered
        cases registered
      have mem := mem_registry.mpr ⟨born, registered⟩
      have gone : (m.registryRemove s).pool.registry = m.pool.registry.erase s :=
        registry_unlink m.pool s
      constructor
      · rw [gone]
        exact ti.linked.unlink (nodup_registry _) mem
      · rw [gone, List.length_erase_of_mem mem, ← ti.count]
        rfl
    · exact ⟨ti, rfl, rfl⟩
  | emergencyDrain s =>
    have same := flags (by simp)
    simp only [Memory.exec, Refs.exec] at same ⊢
    split
    · exact ⟨ti, rfl, rfl⟩
    · rename_i fresh
      simp only [fresh] at same
      exact ⟨ti.congr same rfl rfl rfl, rfl, rfl⟩
  | snapshot count =>
    have same := flags (by simp)
    simp only [Memory.exec, ti.walk]
    exact ⟨ti.congr same rfl rfl rfl, rfl, rfl⟩
  | _ => exact ⟨ti.congr (flags (by simp)) rfl rfl rfl, rfl, rfl⟩

/-- Every step is one of the other model. -/
theorem step (ti : Tidy m) (ke : Kept m.pool) (st : m.step (.event e) = some m') :
    Refs.step m.pool e = some m'.pool ∧ Tidy m' := by
  cases e with
  | create reactor fdIn fdOut pipeRead pipeWrite =>
    cases st
    refine ⟨rfl, ?_⟩
    -- the node of a new session is not in the list yet
    have new : m.pool.next ∉ m.pool.registry := fun mem => Nat.lt_irrefl _ (mem_registry.mp mem).1
    have added : ({ (m.pool.modify m.pool.next fun _ =>
        Refs.atpdSessionCreate reactor fdIn fdOut pipeRead pipeWrite).begin [.creatorPut m.pool.next]
        with next := m.pool.next + 1 } : Pool).registry = m.pool.next :: m.pool.registry :=
      registry_create rfl rfl rfl
    constructor
    · show Linked (pushFront m.link m.head m.pool.next) none (some m.pool.next) _
      rw [added]
      exact ti.linked.push (nodup_registry _) new
    · show m.count + 1 = _
      rw [added, List.length_cons, ← ti.count]
  | emergencyDrainAll alloc =>
    have none : m.count = 0 ↔ m.pool.registry = [] := by rw [ti.count, List.length_eq_zero_iff]
    simp only [Memory.step, none] at st
    simp only [Refs.step]
    split at st
    · rename_i nothing
      cases st
      rw [if_pos nothing]
      exact ⟨rfl, ti⟩
    · rename_i something
      cases st
      rw [if_neg something]
      exact ⟨by rw [ti.count], ti.congr rfl rfl rfl rfl⟩
  | run i ok =>
    simp only [Memory.step] at st
    simp only [Refs.step]
    -- both machines take the same operation of the same call
    rcases here : m.pool.calls[i]? with _ | _ | ⟨op, rest⟩
    · rw [here] at st
      cases st
    · rw [here] at st
      cases st
    · rw [here] at st
      cases st
      obtain ⟨tidy, pool, ops⟩ := ti.exec ke.sound.unborn ok op
      refine ⟨by rw [pool, ops], ?_⟩
      exact tidy.congr rfl rfl rfl rfl
  | get s | api i f | destroy s | dispatch reactor fd | act i a =>
    obtain ⟨p, made, rfl⟩ := Option.map_eq_some_iff.mp st
    refine ⟨made, ti.congr ?_ rfl rfl rfl⟩
    exact registry_congr (next_step made (by simp) (by simp))
      fun t _ => (keeps_step made (by simp) (by simp) t).registered
  | gcProcess =>
    cases st
    exact ⟨rfl, ti.congr rfl rfl rfl rfl⟩

end Tidy

end Atpd.Session.Refs
