import Atpd.Lib.Run
import Atpd.Session.Evolve

/-!
# Reference counting is exact

The `ref_count` of a session is the number of its holders: the creator, the registry, the handlers
that carry it, the GC queue, and the calls in progress. So the last of them to let go destroys it.

The ledger is one part of the invariant. The others are what a step may do to a session (`Evolves`),
that a session is linked into the queue once, and that its creator puts it once.
-/

namespace Atpd.Session.Refs

open Atpd.Lib

variable {p q : Pool} {s t i r : Nat} {ops rest : List Op} {op : Op} {ok : Bool}

/-! ## The property -/

/-- The reference of the creator that is not yet put. -/
def Pool.creators (p : Pool) (s : Nat) : Nat := p.calls.flatten.count (.creatorPut s)

/-- The references that calls in progress hold. -/
def Pool.inProgress (p : Pool) (s : Nat) : Nat := (p.calls.flatten.filterMap Op.held).count s

/-- The reference count of the session is the number of its holders, and it is destroyed once at most,
and then it has none. -/
structure Exact (p : Pool) (s : Nat) : Prop where
  count : (p.sess s).refCount = p.creators s + (if (p.sess s).registryRegistered then 1 else 0) +
    p.carriers s + (if s ∈ p.gc then 1 else 0) + p.inProgress s
  creator : p.creators s ≤ 1
  once : (p.sess s).destroyRuns ≤ 1
  alone : (p.sess s).destroyRuns = 1 → p.creators s = 0 ∧
    (p.sess s).registryRegistered = false ∧ p.carriers s = 0 ∧ s ∉ p.gc ∧ p.inProgress s = 0

/-! ## The invariant -/

/-- What is true of the pool, where `todo` is all that the calls have still to do. -/
structure Sound (p : Pool) (todo : List Op) : Prop where
  ledger : Ledger p (refsOf todo)
  /-- A session is queued once. -/
  queue : ∀ s, p.gc.count s + todo.count (.gcLink s) ≤ (p.sess s).gcEnqueued.toNat
  creator : ∀ s, todo.count (.creatorPut s) ≤ 1
  lives : ∀ s < p.next, Live (p.sess s) ∨ Freed (p.sess s)
  unborn : ∀ s, p.next ≤ s → p.sess s = .unborn

variable {todo : List Op}

/-- The order of what is to be done does not matter. -/
lemma Sound.perm {todo' : List Op} (so : Sound p todo) (same : todo.Perm todo') : Sound p todo' where
  ledger := so.ledger.perm (same.filterMap Op.ref)
  queue s := same.count_eq (.gcLink s) ▸ so.queue s
  creator s := same.count_eq (.creatorPut s) ▸ so.creator s
  lives := so.lives
  unborn := so.unborn

/-- The calls themselves are not read. -/
lemma Sound.withCalls (so : Sound p todo) (calls : List (List Op)) :
    Sound { p with calls := calls } todo :=
  ⟨so.ledger, so.queue, so.creator, so.lives, so.unborn⟩

/-- What has no reference behind it is neither a link nor the creator's put. -/
lemma count_eq_zero_of_refs (noRefs : refsOf ops = []) (op : Op) (ref : op.ref ≠ none) :
    ops.count op = 0 := by
  rw [List.count_eq_zero]
  intro mem
  exact ref (List.filterMap_eq_nil_iff.mp noRefs op mem)

/-- A call may have more to do, if it needs no references for it. -/
lemma Sound.more (so : Sound p todo) (noRefs : refsOf ops = []) : Sound p (ops ++ todo) where
  ledger := by
    rw [refsOf_append, noRefs]
    exact so.ledger
  queue s := by
    rw [List.count_append, count_eq_zero_of_refs noRefs (.gcLink s) (by simp [Op.ref, Op.held])]
    have := so.queue s
    omega
  creator s := by
    rw [List.count_append, count_eq_zero_of_refs noRefs (.creatorPut s) (by simp [Op.ref])]
    have := so.creator s
    omega
  lives := so.lives
  unborn := so.unborn

/-- An operation without a reference may be still to come. -/
lemma Sound.also (so : Sound p todo) (noRef : op.ref = none) : Sound p (op :: todo) := by
  have noRefs : refsOf [op] = [] := by
    rw [refsOf_cons, noRef]
    rfl
  exact so.more noRefs

/-- The parts of the invariant that follow from how the sessions evolve. -/
lemma Sound.evolve {todo' : List Op} (so : Sound p todo) (ev : p.Evolves q) (next : q.next = p.next)
    (ledger : Ledger q (refsOf todo'))
    (queue : ∀ s, q.gc.count s + todo'.count (.gcLink s) ≤ (q.sess s).gcEnqueued.toNat)
    (creator : ∀ s, todo'.count (.creatorPut s) ≤ todo.count (.creatorPut s)) : Sound q todo' where
  ledger := ledger
  queue := queue
  creator s := Nat.le_trans (creator s) (so.creator s)
  lives s lt := by
    rcases so.lives s (next ▸ lt) with live | freed
    · exact (ev s).live live
    · rw [(ev s).dead freed.count]
      exact .inr freed
  unborn s le := by
    have before := so.unborn s (next ▸ le)
    rw [(ev s).dead (by rw [before]; rfl)]
    exact before

/-! ### Steps of a call -/

/-- What a step leaves alone, unless it links a session into the queue. -/
structure Pool.Frame (p q : Pool) : Prop where
  next : q.next = p.next
  calls : q.calls = p.calls
  gc : q.gc = p.gc

/-- Removing a handler leaves the queue alone. -/
lemma frame_removeFd (p : Pool) (r : Nat) (fd : Int) : p.Frame (reactorRemoveFd p r fd) := by
  rw [reactorRemoveFd]
  split <;> exact ⟨rfl, rfl, rfl⟩

/-- So does adding one. -/
lemma frame_addFd {fd : Int} (added : reactorAddFdEx p r fd s ok = some q) : p.Frame q := by
  rw [reactorAddFdEx] at added
  split at added
  · cases added
  · split at added <;> cases added <;> exact ⟨rfl, rfl, rfl⟩

/-- So do references. -/
lemma frame_getAll (p : Pool) (ss : List Nat) : p.Frame (ss.foldl Pool.get p) := by
  induction ss generalizing p with
  | nil => exact ⟨rfl, rfl, rfl⟩
  | cons s ss ih =>
    have later := ih (p.get s)
    exact ⟨later.next, later.calls, later.gc⟩

/-- Only linking changes the queue. -/
lemma frame_exec (link : ∀ s, op ≠ .gcLink s) : p.Frame (exec p ok op).1 := by
  cases op with
  | gcLink s => exact absurd rfl (link s)
  | removeFd s r fd => exact frame_removeFd p r fd
  | snapshot count => exact frame_getAll p _
  | addIn s r | addOut s r =>
    simp only [exec]
    split
    · rename_i added
      exact frame_addFd added
    · exact ⟨rfl, rfl, rfl⟩
  | _ =>
    simp only [exec]
    try split
    all_goals exact ⟨rfl, rfl, rfl⟩

/-- Only the creator comes by its put. -/
lemma creatorPut_notMem_exec : .creatorPut s ∉ (exec p ok op).2 := by
  cases op <;> grind [exec]

/-- Only `atpd_session_gc_enqueue` comes by a link, and only once. -/
lemma gcLink_mem_exec (mem : .gcLink s ∈ (exec p ok op).2) :
    op = .gcEnqueue s ∧ (p.sess s).gcEnqueued = false := by
  cases op <;> grind [exec]

/-- A step of a call keeps a session from being queued twice. -/
lemma queue_exec (so : Sound p (op :: todo)) (ev : p.Evolves (exec p ok op).1) (s : Nat) :
    (exec p ok op).1.gc.count s + ((exec p ok op).2 ++ todo).count (.gcLink s) ≤
      ((exec p ok op).1.sess s).gcEnqueued.toNat := by
  have before := so.queue s
  have flag := (ev s).flag_le
  rw [List.count_append]
  by_cases link : ∃ t, op = .gcLink t
  · -- the link moves into the queue
    obtain ⟨t, rfl⟩ := link
    have queued : (exec p ok (.gcLink t)).1.gc = p.gc ++ [t] := rfl
    have done : (exec p ok (.gcLink t)).2 = [] := rfl
    have moved : [t].count s = [Op.gcLink t].count (.gcLink s) := by
      simp [List.count_singleton]
    rw [queued, done, List.count_append, moved]
    rw [← List.singleton_append, List.count_append] at before
    simp only [List.count_nil]
    omega
  · have frame : p.Frame (exec p ok op).1 := frame_exec fun t eq => link ⟨t, eq⟩
    rw [frame.gc]
    by_cases mem : Op.gcLink s ∈ (exec p ok op).2
    · -- the flag is set, and was not
      obtain ⟨rfl, unset⟩ := gcLink_mem_exec mem
      have set : ((exec p ok (.gcEnqueue s)).1.sess s).gcEnqueued = true := by
        simp only [exec, unset, Bool.false_eq_true, ↓reduceIte, Pool.get, Pool.modify]
        exact (evolves_get _).enqueued rfl
      have one : (exec p ok (.gcEnqueue s)).2 = [.gcLink s] := by
        simp [exec, unset]
      rw [one, set]
      rw [unset, List.count_cons] at before
      simp only [Bool.toNat_false, Bool.toNat_true, List.count_singleton_self] at before ⊢
      omega
    · rw [List.count_eq_zero.mpr mem]
      have fewer : todo.count (.gcLink s) ≤ (op :: todo).count (.gcLink s) := List.count_le_count_cons
      omega

/-- Under the invariant a step of a call lets the sessions evolve. -/
lemma Sound.evolves (so : Sound p (op :: todo)) (need : ∀ s ∈ op.needs, s ∈ refsOf todo) :
    p.Evolves (Refs.exec p ok op).1 := by
  have le : Ledger p (op.ref.toList ++ refsOf todo) := refsOf_cons ▸ so.ledger
  have live : ∀ s ∈ op.needs, 0 < (p.sess s).refCount :=
    fun s mem => le.pos (List.mem_append_right _ (need s mem))
  have own : ∀ s ∈ op.held, 0 < (p.sess s).refCount := by
    intro s mem
    refine le.pos (List.mem_append_left _ ?_)
    cases op <;> simp_all [Op.held, Op.ref]
  exact evolves_exec live own

/-- A step of a call keeps the invariant. -/
lemma Sound.exec (so : Sound p (op :: todo)) (need : ∀ s ∈ op.needs, s ∈ refsOf todo) :
    Sound (exec p ok op).1 ((exec p ok op).2 ++ todo) := by
  have le : Ledger p (op.ref.toList ++ refsOf todo) := refsOf_cons ▸ so.ledger
  have ev : p.Evolves (Refs.exec p ok op).1 := so.evolves need
  refine so.evolve ev ?_ ?_ (queue_exec so ev) ?_
  · by_cases link : ∃ t, op = .gcLink t
    · obtain ⟨t, rfl⟩ := link
      rfl
    · exact (frame_exec fun t eq => link ⟨t, eq⟩).next
  · rw [refsOf_append]
    exact le.exec need
  · intro s
    rw [List.count_append, List.count_eq_zero.mpr creatorPut_notMem_exec, Nat.zero_add]
    exact List.count_le_count_cons

/-- An operation does not change the calls. -/
lemma calls_exec : (exec p ok op).1.calls = p.calls := by
  by_cases link : ∃ t, op = .gcLink t
  · obtain ⟨t, rfl⟩ := link
    rfl
  · exact (frame_exec fun t eq => link ⟨t, eq⟩).calls

/-- A call keeps references of what it will touch. -/
lemma Guarded.exec (gu : Guarded (op :: rest)) : Guarded ((exec p ok op).2 ++ rest) := by
  obtain ⟨⟨need, close⟩, gu⟩ := gu
  cases op with
  | creatorPut s | put s | removeFd s r fd | gcLink s | callback s => exact gu
  | markClosing s => exact gu.put (by simp [Op.needs]) (by simp [Op.closes])
  | snapshot count =>
    show Guarded (((p.registry.take count).flatMap fun s => [.drainOne s, .put s]) ++ rest)
    induction p.registry.take count with
    | nil => exact gu
    | cons s ss ih => exact ih.put (by simp [Op.needs]) (by simp [Op.closes])
  | addOut s r =>
    simp only [Refs.exec]
    split
    · exact gu.append (by simpa [Op.needs] using need) (by simp [Op.closes])
    · exact gu.put (by simp [Op.needs]) (by simp [Op.closes])
  | closing s =>
    -- the parts of the closing have its reference behind them
    simp only [Refs.exec]
    split
    · exact gu
    · exact gu.append (by simpa [Op.needs] using need) (by simpa [Op.closes] using close)
  | detach s =>
    simp only [Refs.exec]
    split
    · exact gu.append (by simp [Op.needs]) (by simpa [Op.closes] using close)
    · exact gu
  | registryRemove s =>
    simp only [Refs.exec]
    split
    · exact gu.idle rfl rfl
    · exact gu
  | gcEnqueue s =>
    simp only [Refs.exec]
    split
    · exact gu
    · exact gu.idle rfl rfl
  | addIn s r =>
    simp only [Refs.exec]
    split
    · exact gu.append (by simpa [Op.needs] using need) (by simp [Op.closes])
    · exact gu.idle rfl rfl
  | activate s =>
    simp only [Refs.exec]
    split
    · exact gu
    · exact gu.append (by simpa [Op.needs] using need) (by simp [Op.closes])
  | emergencyDrain s =>
    simp only [Refs.exec]
    split
    · exact gu
    · split
      · exact gu
      · exact gu.append (by simpa [Op.needs] using need) (by simp [Op.closes])
  | drainOne s =>
    simp only [Refs.exec]
    split
    · exact gu
    · exact gu.append (by simpa [Op.needs] using need) (by simp [Op.closes])
  | register s r | getOut s r =>
    exact gu.append (by simpa [Refs.exec, Op.needs] using need) (by simp [Refs.exec, Op.closes])

/-! ### What can happen -/

/-- A new reference, which somebody will put. -/
lemma Sound.get (so : Sound p todo) (pos : 0 < (p.sess s).refCount) :
    Sound (p.get s) (.put s :: todo) := by
  refine so.evolve (p.evolves_get s) rfl (so.ledger.get pos) ?_ ?_
  · intro t
    rw [List.count_cons_of_ne (by simp)]
    exact Nat.le_trans (so.queue t) (p.evolves_get s t).flag_le
  · intro t
    exact Nat.le_of_eq (List.count_cons_of_ne (by simp))

/-- Who has a link or a put to do has a reference. -/
lemma notMem_of_refCount (so : Sound p todo) (none : (p.sess s).refCount = 0) (ref : op.ref = some s) :
    op ∉ todo := by
  intro mem
  have held := so.ledger.pos (List.mem_filterMap.mpr ⟨op, mem, ref⟩)
  omega

/-- A new session has the references of its creator and of the registry. -/
lemma Sound.create {x : AtpdSession} (so : Sound p todo) (count : x.refCount = 2)
    (reg : x.registryRegistered = true) (started : x.destroyStarted = false)
    (runs : x.destroyRuns = 0) :
    Sound { (p.modify p.next fun _ => x) with next := p.next + 1 } (.creatorPut p.next :: todo) := by
  have unborn := so.unborn p.next (Nat.le_refl _)
  have none : (p.sess p.next).refCount = 0 := by rw [unborn]; rfl
  have noLink : todo.count (.gcLink p.next) = 0 :=
    List.count_eq_zero.mpr (notMem_of_refCount so none rfl)
  have noPut : todo.count (.creatorPut p.next) = 0 :=
    List.count_eq_zero.mpr (notMem_of_refCount so none rfl)
  constructor
  · exact so.ledger.create none count reg
  · intro t
    have here := so.queue t
    have queue := so.ledger.count_gc none
    rw [List.count_cons_of_ne (by simp)]
    simp only [Pool.modify]
    split
    · rename_i same
      subst same
      omega
    · exact here
  · intro t
    have here := so.creator t
    rw [List.count_cons]
    split
    · rename_i same
      obtain rfl : p.next = t := by simpa using same
      omega
    · exact here
  · intro t lt
    simp only [Pool.modify]
    split
    · exact .inl ⟨by omega, started, runs⟩
    · rename_i ne
      have lt : t < p.next + 1 := lt
      exact so.lives t (by omega)
  · intro t le
    have le : p.next + 1 ≤ t := le
    simp only [Pool.modify]
    rw [if_neg (by omega)]
    exact so.unborn t (by omega)

/-- `atpd_session_gc_process` takes the queue, and has the references of it to put. -/
lemma Sound.dequeue (so : Sound p todo) : Sound { p with gc := [] } (p.gc.map .put ++ todo) := by
  have puts : refsOf (p.gc.map .put) = p.gc := by
    rw [refsOf, List.filterMap_map]
    exact List.filterMap_some
  have noLink (t : Nat) : (p.gc.map Op.put).count (.gcLink t) = 0 := by
    rw [List.count_eq_zero]
    simp
  have noPut (t : Nat) : (p.gc.map Op.put).count (.creatorPut t) = 0 := by
    rw [List.count_eq_zero]
    simp
  refine so.evolve (fun _ => .rfl) rfl ?_ ?_ ?_
  · rw [refsOf_append, puts]
    exact so.ledger.dequeue
  · intro t
    have here := so.queue t
    rw [List.count_append, noLink, List.count_nil]
    show 0 + (0 + _) ≤ (p.sess t).gcEnqueued.toNat
    omega
  · intro t
    have same : (p.gc.map Op.put ++ todo).count (.creatorPut t) = todo.count (.creatorPut t) := by
      rw [List.count_append, noPut, Nat.zero_add]
    exact Nat.le_of_eq same

/-- What a callback does keeps the invariant. -/
lemma Sound.act (so : Sound p todo) (pos : 0 < (p.sess s).refCount) (a : Act) :
    Sound (a.exec p s).1 ((a.exec p s).2 ++ todo) := by
  cases a with
  | setState desired =>
    simp only [Act.exec]
    split
    · exact so
    · have ev : p.Evolves (p.modify s fun x => (sessionSetState x desired).1) :=
        Pool.evolves_modify (evolves_setState pos desired)
      refine so.evolve ev rfl ?_ ?_ (fun _ => Nat.le_refl _)
      · exact so.ledger.modify (refCount_setState _ _) (registered_setState _ _)
      · exact fun t => Nat.le_trans (so.queue t) (ev t).flag_le
  | markClosing => exact so.more rfl
  | emergencyDrain => exact so.more rfl

/-- Nor does what a callback does. -/
lemma calls_act (a : Act) : (a.exec p s).1.calls = p.calls := by
  cases a with
  | setState desired =>
    simp only [Act.exec]
    split <;> rfl
  | markClosing => rfl
  | emergencyDrain => rfl

/-! ## Runs -/

/-- The invariant of the pool. -/
structure Kept (p : Pool) : Prop where
  sound : Sound p p.calls.flatten
  guarded : ∀ c ∈ p.calls, Guarded c

/-- An empty pool keeps everything. -/
lemma kept_init : Kept .init where
  sound := ⟨fun _ => rfl, fun _ => Nat.le_refl _, fun _ => Nat.zero_le _,
    fun s lt => absurd lt (Nat.not_lt_zero s), fun _ _ => rfl⟩
  guarded := by simp [Pool.init]

/-- A call begins. -/
lemma Kept.begin (so : Sound q (ops ++ q.calls.flatten)) (gu : ∀ c ∈ q.calls, Guarded c)
    (more : Guarded ops) : Kept (q.begin ops) where
  sound := by
    have same : (ops ++ q.calls.flatten).Perm (q.begin ops).calls.flatten := by
      simpa [Pool.begin] using List.perm_append_comm
    exact (so.perm same).withCalls _
  guarded c mem := by
    rcases List.mem_append.mp mem with old | new
    · exact gu c old
    · obtain rfl := List.mem_singleton.mp new
      exact more

/-- What a call has to do, and what the others have. -/
lemma Kept.split (ke : Kept p) (here : p.calls[i]? = some ops) :
    Sound p (ops ++ (p.calls.eraseIdx i).flatten) ∧ Guarded ops :=
  ⟨ke.sound.perm (flatten_perm here), ke.guarded ops (List.mem_of_getElem? here)⟩

/-- A call goes on. -/
lemma Kept.goOn (ke : Kept p) (here : p.calls[i]? = some ops) (calls : q.calls = p.calls)
    (so : Sound q (rest ++ (p.calls.eraseIdx i).flatten)) (more : Guarded rest) :
    Kept (q.goOn i rest) where
  sound := by
    have same : (q.goOn i rest).calls.flatten.Perm (rest ++ (p.calls.eraseIdx i).flatten) := by
      rw [Pool.goOn, calls]
      exact flatten_set_perm here rest
    exact (so.perm same.symm).withCalls _
  guarded c mem := by
    have mem : c ∈ p.calls.set i rest := calls ▸ mem
    rcases List.mem_or_eq_of_mem_set mem with old | rfl
    · exact ke.guarded c old
    · exact more

/-- Whatever happens keeps the invariant. -/
lemma Kept.step {e : Event} (ke : Kept p) (st : step p e = some q) : Kept q := by
  cases e with
  | create reactor fdIn fdOut pipeRead pipeWrite =>
    -- what begins a call brings its own references
    cases st
    have so : Sound _ ([.creatorPut p.next] ++ p.calls.flatten) :=
      ke.sound.create (x := atpdSessionCreate reactor fdIn fdOut pipeRead pipeWrite) rfl rfl rfl rfl
    exact Kept.begin so ke.guarded (Guarded.idle trivial rfl rfl)
  | get s =>
    simp only [Refs.step] at st
    split at st
    · cases st
    · rename_i some
      cases st
      exact Kept.begin (ke.sound.get (by omega)) ke.guarded (Guarded.idle trivial rfl rfl)
  | api i f =>
    simp only [Refs.step] at st
    split at st
    · rename_i ops here
      -- a call of a holder: the session is alive, since its last put is still to come
      obtain ⟨s, hold, rfl⟩ := Option.map_eq_some_iff.mp st
      obtain ⟨so, gu⟩ := ke.split here
      have mem : s ∈ refsOf ops := mem_refsOf_of_holder hold
      refine ke.goOn here rfl ?_ ?_
      · rw [List.append_assoc]
        exact so.more (by cases f <;> rfl)
      · refine gu.append (fun op mem' t need => ?_) fun op mem' => ?_
        · cases f <;> simp_all [Api.ops, Op.needs]
        · cases f <;> simp_all [Api.ops, Op.closes]
    · cases st
  | destroy s =>
    simp only [Refs.step] at st
    split at st
    · cases st
    · rename_i some
      cases st
      have so : Sound (p.get s) ([.closing s, .put s] ++ p.calls.flatten) :=
        (ke.sound.get (by omega)).also rfl
      exact Kept.begin so ke.guarded
        (Guarded.put trivial (by simp [Op.needs]) (by simp [Op.closes]))
  | dispatch reactor fd =>
    obtain ⟨h, found, rfl⟩ := Option.map_eq_some_iff.mp st
    -- the handler has a reference
    have pos := ke.sound.ledger.pos_of_carrier (List.mem_of_find?_eq_some found)
    have so : Sound (p.get h.session) ([.callback h.session, .put h.session] ++ p.calls.flatten) :=
      (ke.sound.get pos).also rfl
    exact Kept.begin so ke.guarded (Guarded.put trivial (by simp [Op.needs]) (by simp [Op.closes]))
  | act i a =>
    simp only [Refs.step] at st
    split at st
    · rename_i s rest here
      cases st
      obtain ⟨so, gu⟩ := ke.split here
      have mem : s ∈ refsOf rest := gu.1.1 s rfl
      have pos : 0 < (p.sess s).refCount := so.ledger.pos (by simp [refsOf_cons, mem])
      refine ke.goOn here ?_ ?_ ?_
      · exact calls_act a
      · rw [List.append_assoc]
        exact so.act pos a
      · refine gu.append (fun op mem' t need => ?_) fun op mem' => ?_
        · cases a <;> simp_all [Act.exec, Op.needs, refsOf_cons]
        · cases a <;> simp_all [Act.exec, Op.closes]
    · cases st
  | emergencyDrainAll alloc =>
    simp only [Refs.step] at st
    split at st
    · cases st
      exact ke
    · cases st
      exact Kept.begin (ke.sound.more rfl) ke.guarded (Guarded.idle trivial rfl rfl)
  | gcProcess =>
    cases st
    refine Kept.begin ke.sound.dequeue ke.guarded ?_
    generalize p.gc = queue
    induction queue with
    | nil => trivial
    | cons s queue ih => exact ih.idle rfl rfl
  | run i ok =>
    simp only [Refs.step] at st
    split at st
    · rename_i op rest here
      cases st
      obtain ⟨so, gu⟩ := ke.split here
      refine ke.goOn here calls_exec ?_ gu.exec
      rw [List.append_assoc]
      exact so.exec (gu.needs _)
    · cases st

/-- Every run keeps the invariant. -/
lemma kept_of_run {es : List Event} (rn : run step .init es = some p) : Kept p :=
  run_preserves (fun _ _ _ => Kept.step) kept_init rn

/-! ## The counts -/

/-- The references behind what the calls have to do are the creator's and their own. -/
lemma count_refsOf (ops : List Op) (s : Nat) :
    (refsOf ops).count s = ops.count (.creatorPut s) + (ops.filterMap Op.held).count s := by
  induction ops with
  | nil => rfl
  | cons op ops ih =>
    rw [refsOf_cons, List.count_append, ih]
    cases op <;> simp [Op.ref, Op.held, List.count_cons, List.filterMap_cons] <;> omega

/-- A session is at most once in the queue. -/
lemma Sound.count_gc (so : Sound p todo) (s : Nat) : p.gc.count s = if s ∈ p.gc then 1 else 0 := by
  have once := so.queue s
  have flag := Bool.toNat_le (p.sess s).gcEnqueued
  split
  · rename_i mem
    have := List.count_pos_iff.mpr mem
    omega
  · rename_i out
    exact List.count_eq_zero.mpr out

/-- The count is the number of holders, one by one. -/
lemma Kept.count (ke : Kept p) (s : Nat) :
    (p.sess s).refCount = p.creators s + (if (p.sess s).registryRegistered then 1 else 0) +
      p.carriers s + (if s ∈ p.gc then 1 else 0) + p.inProgress s := by
  have holders := ke.sound.ledger s
  have refs := count_refsOf p.calls.flatten s
  have queued := ke.sound.count_gc s
  rw [holders, refs, Pool.base, queued, Pool.creators, Pool.inProgress]
  omega

/-- The reference count of every session is at all times the number of its holders, and no session is
destroyed twice, or while it has a holder. -/
theorem refCount_exact {es : List Event} (rn : run step .init es = some p) (s : Nat) : Exact p s := by
  have ke := kept_of_run rn
  have count := ke.count s
  have runs : (p.sess s).destroyRuns = 0 ∨ (p.sess s).destroyRuns = 1 ∧ (p.sess s).refCount = 0 := by
    by_cases lt : s < p.next
    · rcases ke.sound.lives s lt with live | freed
      · exact .inl live.runs
      · exact .inr ⟨freed.runs, freed.count⟩
    · rw [ke.sound.unborn s (by omega)]
      exact .inl rfl
  refine ⟨count, ke.sound.creator s, by omega, fun one => ?_⟩
  have none : (p.sess s).refCount = 0 := by omega
  rw [none] at count
  refine ⟨by omega, ?_, by omega, ?_, by omega⟩
  · by_contra reg
    rw [if_pos (by simpa using reg)] at count
    omega
  · intro mem
    rw [if_pos mem] at count
    omega

/-- A session is created and registered, and closed from its own callback; the call that closes it has
just taken it from the registry. -/
def closedInCallback : List Event :=
  [.create (some 0) 10 11 12 13, .api 0 (.register 0), .run 0 true, .run 0 true, .run 0 true,
    .run 0 true, .run 0 true, .dispatch 0 10, .act 1 .markClosing, .run 1 true, .run 1 true,
    .run 1 true]

/-- A session is closed within its callback, and six references are known. -/
theorem refCount_exact_closedInCallback :
    ∃ p, run step .init closedInCallback = some p ∧ (p.sess 0).refCount = 6 ∧ p.inProgress 0 = 3 ∧
      Exact p 0 := by
  have reached : (run step .init closedInCallback).map
      (fun p => ((p.sess 0).refCount, p.inProgress 0)) = some (6, 3) := rfl
  obtain ⟨p, rn, counts⟩ := Option.map_eq_some_iff.mp reached
  obtain ⟨refs, calls⟩ := Prod.mk.inj counts
  exact ⟨p, rn, refs, calls, refCount_exact rn 0⟩

end Atpd.Session.Refs
