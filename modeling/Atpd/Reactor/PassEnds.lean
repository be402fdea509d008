import Atpd.Reactor.Pass
import Atpd.Reactor.TimerRuns

/-!
# A pass ends

`process_expired_timers` as it is called, with whatever its callbacks call. Its loop takes the first timer
of the list as long as that is due. The number of due timers may grow meanwhile, since a timer that is
cancelled in a callback becomes due. But it is due as a cancelled one then: the number of due timers that
are not cancelled never grows, as long as a new timer waits for a millisecond, and a round either takes one
of these or frees a cancelled one.
-/

namespace Atpd.Reactor.Pointers

open Atpd.Lib Heap

variable {κ : Type}

/-! ## The loop -/

/-- The calls of a callback. -/
def Heap.callAll (m : Heap κ) : List (Call κ) → Except Fault (Heap κ)
  | [] => .ok m
  | c :: cs => do
    let m ← m.call c
    m.callAll cs

/-- A round up to its end behind the callback. -/
def Heap.runCallback (m : Heap κ) (calls : Bool) (cs : List (Call κ)) : Except Fault (Heap κ) :=
  if calls then m.callAll cs else .ok m

/-- A round about the timer `a`, whose callback calls `cs`. -/
def Heap.round (m : Heap κ) (now : UInt64) (a : Nat) (cs : List (Call κ)) : Except Fault (Heap κ) := do
  let (m, calls) ← m.beginRound a
  match calls with
  | none => .ok m
  | some calls =>
    let m ← m.runCallback calls cs
    m.endRound now a

/-- The loop of `process_expired_timers` from the round `k` on. The callback of round `k` calls
`script k`. -/
def processFrom (now : UInt64) (script : Nat → List (Call κ)) :
    Nat → Nat → Heap κ → Except Fault (Heap κ)
  | 0, _, _ => .error .endless
  | fuel + 1, k, m =>
    match m.head with
    | none => .ok m
    | some a => do
      let t ← m.load a
      if t.expiresMs ≤ now then
        let m ← m.round now a (script k)
        processFrom now script fuel (k + 1) m
      else .ok m

/-- `process_expired_timers`. -/
def processExpiredTimers (now : UInt64) (script : Nat → List (Call κ)) (fuel : Nat) (m : Heap κ) :
    Except Fault (Heap κ) :=
  processFrom now script fuel 0 { m with currentTimeMs := now }

/-! ## The callbacks -/

/-- A call that is made in a pass: the clock is not behind the time that the pass has read, a new timer
waits for a millisecond or more and has its deadline below `2 ^ 64`, and a handle is not freed. -/
def Call.Allowed (now : UInt64) (m : Heap κ) : Call κ → Prop
  | .add _ _ nowMs timeoutMs _ _ =>
    now ≤ nowMs ∧ 1 ≤ timeoutMs.toNat ∧ nowMs.toNat + timeoutMs.toNat < deadlineBound
  | .cancel p => (m.pub p).isSome
  | .updateTime nowMs => now ≤ nowMs

/-- Each of the calls is allowed where it is made. -/
def AllAllowed (now : UInt64) : Heap κ → List (Call κ) → Prop
  | _, [] => True
  | m, c :: cs => c.Allowed now m ∧ ∀ m', m.call c = .ok m' → AllAllowed now m' cs

/-- A timer that is put back gets a deadline below `2 ^ 64`. -/
def Bounded (now : UInt64) (m : Heap κ) (a : Nat) : Prop :=
  ∀ t, m.node a = some t → t.rearms = true →
    rearm now.toNat t.intervalMs.toNat t.expiresMs.toNat < deadlineBound

/-- What is asked of a round. -/
def RoundAllowed (now : UInt64) (m : Heap κ) (a : Nat) (cs : List (Call κ)) : Prop :=
  ∀ m1 calls, m.beginRound a = .ok (m1, some calls) →
    (calls = true → AllAllowed now m1 cs) ∧
    ∀ m2, m1.runCallback calls cs = .ok m2 → Bounded now m2 a

/-- The first timer of the list is due. -/
def DueFirst (now : UInt64) (m : Heap κ) (a : Nat) : Prop :=
  m.head = some a ∧ ∃ t, m.node a = some t ∧ t.expiresMs ≤ now

/-- The timers in memory when the round `k` of a pass begins. -/
inductive RoundOf (now : UInt64) (script : Nat → List (Call κ)) (m : Heap κ) : Nat → Heap κ → Prop where
  | first : RoundOf now script m 0 { m with currentTimeMs := now }
  | next {k m1 m2 a} (before : RoundOf now script m k m1) (due : DueFirst now m1 a)
      (round : m1.round now a (script k) = .ok m2) : RoundOf now script m (k + 1) m2

/-! ## The inner loop -/

/-- How long the loop of the other model is given does not matter, if it is enough. -/
lemma advance_fuel {now interval fuel fuel' expires : Nat} (pos : 0 < interval)
    (enough : now < expires + fuel) (enough' : now < expires + fuel') :
    advance now interval fuel expires = advance now interval fuel' expires := by
  obtain ⟨k, value, late, least⟩ := advance_spec now interval fuel expires pos enough
  obtain ⟨k', value', late', least'⟩ := advance_spec now interval fuel' expires pos enough'
  have le := least k' (value' ▸ late')
  have ge := least' k (value ▸ late)
  rw [value, value', Nat.le_antisymm le ge]

/-- The sum does not wrap, and the loop is the one of the other model. -/
lemma catchUp_eq {now intervalMs expiresMs : UInt64} {fuel : Nat} (pos : 0 < intervalMs.toNat)
    (enough : now.toNat < expiresMs.toNat + fuel)
    (bounded : advance now.toNat intervalMs.toNat fuel expiresMs.toNat < deadlineBound) :
    ∃ e, catchUp now intervalMs (fuel + 1) expiresMs = .ok e ∧
      e.toNat = advance now.toNat intervalMs.toNat fuel expiresMs.toNat := by
  induction fuel generalizing expiresMs with
  | zero =>
    have late : ¬expiresMs ≤ now := by
      rw [UInt64.le_iff_toNat_le]
      omega
    exact ⟨expiresMs, by rw [catchUp, if_neg late], rfl⟩
  | succ fuel ih =>
    rw [catchUp]
    rw [advance] at bounded ⊢
    by_cases due : expiresMs ≤ now
    · have due' := UInt64.le_iff_toNat_le.mp due
      rw [if_pos due'] at bounded ⊢
      obtain ⟨k, value, -, -⟩ := advance_spec now.toNat intervalMs.toNat fuel
        (expiresMs.toNat + intervalMs.toNat) pos (by omega)
      have sum : (expiresMs + intervalMs).toNat = expiresMs.toNat + intervalMs.toNat := by
        rw [UInt64.toNat_add, Nat.mod_eq_of_lt]
        rw [value, deadlineBound] at bounded
        omega
      rw [if_pos due, ← sum]
      rw [← sum] at bounded
      exact ih (by omega) bounded
    · rw [if_neg due, if_neg (mt UInt64.le_iff_toNat_le.mpr due)]
      exact ⟨expiresMs, rfl, rfl⟩

variable {m m' m1 m2 : Heap κ} {ns ns' out : List Nat} {a b k : Nat} {t : Node κ} {c : Call κ}
  {cs : List (Call κ)} {now : UInt64} {script : Nat → List (Call κ)} {pending : Bool}

/-- The loop behind a callback ends, with the deadline of the other model. -/
lemma catchUp_rearm (rearms : t.rearms = true)
    (bounded : rearm now.toNat t.intervalMs.toNat t.expiresMs.toNat < deadlineBound) :
    ∃ e, catchUp now t.intervalMs (2 ^ 64) (t.expiresMs + t.intervalMs) = .ok e ∧
      e.toNat = rearm now.toNat t.intervalMs.toNat t.expiresMs.toNat := by
  have pos : 0 < t.intervalMs.toNat := by
    rw [Node.rearms, Bool.and_eq_true, decide_eq_true_eq] at rearms
    exact UInt64.lt_iff_toNat_lt.mp rearms.2
  have top : now.toNat < 2 ^ 64 := now.toNat_lt
  obtain ⟨k, one, value, -, -⟩ := rearm_spec now.toNat t.intervalMs.toNat t.expiresMs.toNat pos
  have first : t.intervalMs.toNat ≤ k * t.intervalMs.toNat := Nat.le_mul_of_pos_left _ one
  have sum : (t.expiresMs + t.intervalMs).toNat = t.expiresMs.toNat + t.intervalMs.toNat := by
    rw [UInt64.toNat_add, Nat.mod_eq_of_lt]
    rw [value, deadlineBound] at bounded
    omega
  have same : rearm now.toNat t.intervalMs.toNat t.expiresMs.toNat =
      advance now.toNat t.intervalMs.toNat (2 ^ 64 - 1) (t.expiresMs + t.intervalMs).toNat := by
    rw [rearm, sum]
    exact advance_fuel pos (by omega) (by omega)
  rw [same] at bounded ⊢
  exact catchUp_eq pos (by omega) bounded

/-! ## The measure -/

/-- A timer is due, and is cancelled or not. -/
def due (now : UInt64) (pending : Bool) (node : Nat → Option (Node κ)) (a : Nat) : Bool :=
  match node a with
  | some t => t.pendingDelete == pending && decide (t.expiresMs ≤ now)
  | none => false

/-- Whether a timer is due depends on its node. -/
lemma due_eq {node : Nat → Option (Node κ)} (here : node a = some t) :
    due now pending node a = (t.pendingDelete == pending && decide (t.expiresMs ≤ now)) := by
  rw [due, here]

/-- How many of the list are due, and are cancelled or not. -/
def dueCount (now : UInt64) (pending : Bool) (m : Heap κ) (ns : List Nat) : Nat :=
  (ns.filter (due now pending m.node)).length

/-- No timer has become due that is not cancelled. -/
def NoneNew (now : UInt64) (m : Heap κ) (ns : List Nat) (m' : Heap κ) (ns' : List Nat) : Prop :=
  ∀ b ∈ ns', due now false m'.node b = true → b ∈ ns ∧ due now false m.node b = true

/-- One part of a pass behind another. -/
lemma NoneNew.trans {m3 : Heap κ} {ns3 : List Nat} (h1 : NoneNew now m1 ns m2 ns')
    (h2 : NoneNew now m2 ns' m3 ns3) : NoneNew now m1 ns m3 ns3 := by
  intro b mem late
  obtain ⟨mem, late⟩ := h2 b mem late
  exact h1 b mem late

/-- With none that is newly due there are no more than before. -/
lemma dueCount_le (nodup : ns'.Nodup)
    (old : ∀ b ∈ ns', due now pending m'.node b = true → b ∈ ns ∧ due now pending m.node b = true) :
    dueCount now pending m' ns' ≤ dueCount now pending m ns := by
  refine (List.subperm_of_subset (nodup.filter _) fun b mem => ?_).length_le
  obtain ⟨mem, late⟩ := List.mem_filter.mp mem
  exact List.mem_filter.mpr (old b mem late)

/-- There are fewer of them if one is missing. -/
lemma dueCount_lt (nodup : ns'.Nodup)
    (old : ∀ b ∈ ns', due now pending m'.node b = true → b ∈ ns ∧ due now pending m.node b = true)
    (mem : a ∈ ns) (late : due now pending m.node a = true) (gone : a ∉ ns') :
    dueCount now pending m' ns' < dueCount now pending m ns := by
  have without : a ∉ ns'.filter (due now pending m'.node) := fun mem => gone (List.mem_filter.mp mem).1
  have more := List.nodup_cons.mpr ⟨without, nodup.filter (due now pending m'.node)⟩
  refine (List.subperm_of_subset more fun b mem' => ?_).length_le
  rcases List.mem_cons.mp mem' with rfl | mem'
  · exact List.mem_filter.mpr ⟨mem, late⟩
  · obtain ⟨mem', late'⟩ := List.mem_filter.mp mem'
    exact List.mem_filter.mpr (old b mem' late')

/-- One timer is written, and what is due otherwise stays so. -/
lemma noneNew_written {x : Option (Node κ)} (written : m'.node = Function.update m.node a x)
    (others : ∀ b ∈ ns', b ≠ a → b ∈ ns)
    (own : ∀ u, x = some u → u.pendingDelete = true ∨ now < u.expiresMs) : NoneNew now m ns m' ns' := by
  intro b mem late
  by_cases same : b = a
  · subst same
    cases x with
    | none =>
      rw [written, due, Function.update_self] at late
      cases late
    | some u =>
      have here : m'.node b = some u := by rw [written, Function.update_self]
      rw [due_eq here, Bool.and_eq_true, beq_iff_eq, decide_eq_true_eq] at late
      rcases own u rfl with pending | later
      · cases pending.symm.trans late.1
      · exact absurd late.2 (UInt64.not_le.mpr later)
  · rw [due, written, Function.update_of_ne same] at late
    exact ⟨others b mem same, late⟩

/-! ## A round -/

/-- A call lets no timer become due that is not cancelled. -/
lemma Owned.call_allowed (ow : Owned m out ns) (allowed : c.Allowed now m) :
    ∃ m' ns', m.call c = .ok m' ∧ Owned m' out ns' ∧ NoneNew now m ns m' ns' := by
  cases c with
  | add allocPub allocNode nowMs timeoutMs intervalMs cb =>
    by_cases both : (allocPub && allocNode) = true
    · rw [Bool.and_eq_true] at both
      obtain ⟨rfl, rfl⟩ := both
      obtain ⟨m', added, ow', node, -⟩ := ow.add nowMs timeoutMs intervalMs cb
      obtain ⟨clock, pos, bounded⟩ := allowed
      have later : now < nowMs + timeoutMs := by
        rw [deadlineBound] at bounded
        rw [UInt64.lt_iff_toNat_lt, UInt64.toNat_add, Nat.mod_eq_of_lt bounded]
        have clock := UInt64.le_iff_toNat_le.mp clock
        omega
      refine ⟨m', _, by rw [Heap.call, added]; rfl, ow', noneNew_written node ?_ ?_⟩
      · exact fun b mem ne => (mem_place.mp mem).resolve_left ne
      · rintro u ⟨⟩
        exact .inr later
    · have failed := ow.add_failed (Bool.not_eq_true _ ▸ both) nowMs timeoutMs intervalMs cb
      exact ⟨m, ns, by rw [Heap.call, failed]; rfl, ow, fun b mem late => ⟨mem, late⟩⟩
  | cancel p =>
    obtain ⟨x, found⟩ := Option.isSome_iff_exists.mp allowed
    obtain ⟨a, t, m', -, -, cancelled, ow', node, -⟩ := ow.cancel found
    refine ⟨m', _, cancelled, ow', noneNew_written node ?_ ?_⟩
    · intro b mem ne
      split at mem
      · exact List.mem_of_mem_erase ((mem_place.mp mem).resolve_left ne)
      · exact mem
    · rintro u ⟨⟩
      exact .inl rfl
  | updateTime nowMs => exact ⟨_, ns, rfl, { ow with }, fun b mem late => ⟨mem, late⟩⟩

/-- Calls that are allowed make no timer due. -/
lemma Owned.callAll_allowed (ow : Owned m out ns) (allowed : AllAllowed now m cs) :
    ∃ m' ns', m.callAll cs = .ok m' ∧ Owned m' out ns' ∧ NoneNew now m ns m' ns' := by
  induction cs generalizing m ns with
  | nil => exact ⟨m, ns, rfl, ow, fun b mem late => ⟨mem, late⟩⟩
  | cons c cs ih =>
    obtain ⟨m1, ns1, called, ow1, new1⟩ := ow.call_allowed allowed.1
    obtain ⟨m2, ns2, rest, ow2, new2⟩ := ih ow1 (allowed.2 m1 called)
    refine ⟨m2, ns2, ?_, ow2, new1.trans new2⟩
    rw [Heap.callAll, called]
    exact rest

/-- The end of a round lets none become due either: a timer that is put back has its deadline behind the
pass. -/
lemma Owned.endRound_bounded (ow : Owned m [a] ns) (bounded : Bounded now m a) :
    ∃ m' ns', m.endRound now a = .ok m' ∧ Owned m' [] ns' ∧ NoneNew now m ns m' ns' := by
  obtain ⟨-, t, node⟩ := ow.apart a List.mem_cons_self
  cases rearms : t.rearms with
  | false =>
    obtain ⟨m', ends, ow', node', -⟩ := ow.endRound_frees List.not_mem_nil node rearms now
    refine ⟨m', ns, ends, ow', noneNew_written node' (fun b mem _ => mem) ?_⟩
    rintro u ⟨⟩
  | true =>
    obtain ⟨e, late, value⟩ := catchUp_rearm rearms (bounded t node rearms)
    obtain ⟨m', ends, ow', node', -⟩ := ow.endRound_rearms List.not_mem_nil node rearms late
    refine ⟨m', _, ends, ow', noneNew_written node' ?_ ?_⟩
    · exact fun b mem ne => (mem_place.mp mem).resolve_left ne
    · rintro u ⟨⟩
      right
      have pos : 0 < t.intervalMs.toNat := by
        rw [Node.rearms, Bool.and_eq_true, decide_eq_true_eq] at rearms
        exact UInt64.lt_iff_toNat_lt.mp rearms.2
      obtain ⟨k, -, -, behind, -⟩ := rearm_spec now.toNat t.intervalMs.toNat t.expiresMs.toNat pos
      rw [UInt64.lt_iff_toNat_lt, value]
      exact behind

/-- Nor does a callback that makes only such calls. -/
lemma Owned.runCallback_allowed {calls : Bool} (ow : Owned m out ns)
    (allowed : calls = true → AllAllowed now m cs) :
    ∃ m' ns', m.runCallback calls cs = .ok m' ∧ Owned m' out ns' ∧ NoneNew now m ns m' ns' := by
  cases calls with
  | false => exact ⟨m, ns, rfl, ow, fun b mem late => ⟨mem, late⟩⟩
  | true => exact ow.callAll_allowed (allowed rfl)

/-- A round about a timer that is cancelled takes one of these away. -/
lemma Owned.round_cancelled (ow : Owned m [] ns) (mem : a ∈ ns) (node : m.node a = some t)
    (late : t.expiresMs ≤ now) (cancelled : t.pendingDelete = true) :
    ∃ m', m.round now a cs = .ok m' ∧ Owned m' [] (ns.erase a) ∧
      dueCount now false m' (ns.erase a) ≤ dueCount now false m ns ∧
      dueCount now true m' (ns.erase a) < dueCount now true m ns := by
  obtain ⟨m', begins, ow', node', -⟩ := ow.beginRound_cancelled mem node cancelled
  have gone : a ∉ ns.erase a := ow.nodup.not_mem_erase
  have inside : ∀ b ∈ ns.erase a, b ≠ a → b ∈ ns := fun b mem _ => List.mem_of_mem_erase mem
  refine ⟨m', ?_, ow', dueCount_le ow'.nodup (noneNew_written node' inside ?_),
    dueCount_lt ow'.nodup ?_ mem ?_ gone⟩
  · rw [Heap.round, begins]
    rfl
  · rintro u ⟨⟩
  · intro b mem' late'
    have ne : b ≠ a := fun same => gone (same ▸ mem')
    rw [due, node', Function.update_of_ne ne] at late'
    exact ⟨inside b mem' ne, late'⟩
  · rw [due_eq node, cancelled, decide_eq_true late]
    rfl

/-- A round about any other timer takes one of the others away. -/
lemma Owned.round_live (ow : Owned m [] ns) (mem : a ∈ ns) (node : m.node a = some t)
    (late : t.expiresMs ≤ now) (live : t.pendingDelete = false) (allowed : RoundAllowed now m a cs) :
    ∃ m' ns', m.round now a cs = .ok m' ∧ Owned m' [] ns' ∧
      dueCount now false m' ns' < dueCount now false m ns := by
  obtain ⟨m1, begins, ow1, node1, -⟩ := ow.beginRound_live mem node live
  obtain ⟨calls, bounded⟩ := allowed m1 t.calls begins
  obtain ⟨m2, ns2, called, ow2, new2⟩ := ow1.runCallback_allowed calls
  obtain ⟨m3, ns3, ends, ow3, new3⟩ := ow2.endRound_bounded (bounded m2 called)
  have gone : a ∉ ns.erase a := ow.nodup.not_mem_erase
  have new1 : NoneNew now m ns m1 (ns.erase a) := by
    intro b mem' late'
    have ne : b ≠ a := fun same => gone (same ▸ mem')
    rw [due, node1, Function.update_of_ne ne] at late'
    exact ⟨List.mem_of_mem_erase mem', late'⟩
  have here : due now false m.node a = true := by
    rw [due_eq node, live, decide_eq_true late]
    rfl
  refine ⟨m3, ns3, ?_, ow3, ?_⟩
  · rw [Heap.round, begins]
    simp only [bind, Except.bind]
    rw [called]
    exact ends
  · exact Nat.lt_of_le_of_lt (dueCount_le ow3.nodup (new2.trans new3))
      (dueCount_lt ow1.nodup new1 mem here gone)

/-! ## The pass -/

/-- The loop ends, by the number of the due timers that are not cancelled, and then by the number of those
that are. -/
lemma processFrom_ends {start m : Heap κ} {ns : List Nat} {k : Nat} (ow : Owned m [] ns)
    (reached : RoundOf now script start k m)
    (allowed : ∀ k m1 a, RoundOf now script start k m1 → DueFirst now m1 a →
      RoundAllowed now m1 a (script k)) :
    ∃ fuel m', processFrom now script fuel k m = .ok m' := by
  cases head : m.head with
  | none => exact ⟨1, m, by rw [processFrom, head]⟩
  | some a =>
    have mem := ow.head_mem head
    obtain ⟨t, node, -⟩ := ow.node_of_mem mem
    by_cases late : t.expiresMs ≤ now
    · have first : DueFirst now m a := ⟨head, t, node, late⟩
      obtain ⟨m1, ns1, round, ow1, less⟩ : ∃ m1 ns1, m.round now a (script k) = .ok m1 ∧ Owned m1 [] ns1 ∧
          (dueCount now false m1 ns1 < dueCount now false m ns ∨
            dueCount now false m1 ns1 ≤ dueCount now false m ns ∧
              dueCount now true m1 ns1 < dueCount now true m ns) := by
        cases pending : t.pendingDelete with
        | true =>
          obtain ⟨m1, round, ow1, live, cancelled⟩ := ow.round_cancelled mem node late pending
          exact ⟨m1, _, round, ow1, .inr ⟨live, cancelled⟩⟩
        | false =>
          obtain ⟨m1, ns1, round, ow1, live⟩ :=
            ow.round_live mem node late pending (allowed k m a reached first)
          exact ⟨m1, ns1, round, ow1, .inl live⟩
      obtain ⟨fuel, m', ends⟩ := processFrom_ends ow1 (reached.next first round) allowed
      refine ⟨fuel + 1, m', ?_⟩
      rw [processFrom, head]
      simp only [load_eq node, bind, Except.bind, if_pos late]
      rw [round]
      exact ends
    · refine ⟨1, m, ?_⟩
      rw [processFrom, head]
      simp only [load_eq node, bind, Except.bind, if_neg late]
termination_by (dueCount now false m ns, dueCount now true m ns)
decreasing_by
  rcases less with live | ⟨same, cancelled⟩
  · exact .left _ _ live
  · rcases Nat.lt_or_eq_of_le same with live | same
    · exact .left _ _ live
    · rw [same]
      exact .right _ cancelled

/-- For all timers and every time: if the callbacks call what is allowed, each finitely often, and no
deadline that is given wraps, then `process_expired_timers` returns. -/
theorem processExpiredTimers_ends (m : Heap κ) (ns : List Nat) (ow : Owned m [] ns) (now : UInt64)
    (script : Nat → List (Call κ))
    (allowed : ∀ k m1 a, RoundOf now script m k m1 → DueFirst now m1 a →
      RoundAllowed now m1 a (script k)) :
    ∃ fuel m', processExpiredTimers now script fuel m = .ok m' :=
  processFrom_ends { ow with } .first allowed

/-- One timer, which is due. -/
def soloHeap : Heap Unit where
  node a := if a = 0 then some ⟨30, 0, some (), some 0, true, false, true⟩ else none
  pub p := if p = 0 then some ⟨some 0⟩ else none
  link _ := ⟨none, none⟩
  head := some 0
  timerCount := 1
  currentTimeMs := 30
  timersFired := 0
  nextId := 1

/-- Its callback cancels it, and adds another. -/
def soloScript (_ : Nat) : List (Call Unit) := [.cancel 0, .add true true 31 1 0 none]

/-- One timer, which is owned. -/
lemma soloHeap_owned : Owned soloHeap [] [0] where
  linked := ⟨rfl, rfl, rfl⟩
  nodup := List.nodup_cons.mpr ⟨List.not_mem_nil, List.nodup_nil⟩
  nodes b mem := by
    rw [List.mem_singleton.mp mem]
    exact ⟨_, rfl⟩
  count := rfl
  sorted := List.pairwise_singleton _ 0
  fits a t node := by
    simp only [soloHeap] at node
    split at node
    · rename_i first
      cases node
      subst first
      refine ⟨by decide, by decide, ?_, rfl, rfl⟩
      rintro p ⟨⟩
      rfl
    · cases node
  apart _ mem := by cases mem
  owner p x pub := by
    simp only [soloHeap] at pub
    split at pub
    · rename_i first
      cases pub
      subst first
      exact ⟨0, _, rfl, rfl, rfl⟩
    · cases pub
  fresh a le := by
    have ne : a ≠ 0 := Nat.ne_of_gt le
    simp only [soloHeap, if_neg ne, and_self]

/-- The next timer is not due in this pass. -/
lemma soloHeap_rounds {k : Nat} {m : Heap Unit} (reached : RoundOf 30 soloScript soloHeap k m) :
    m = soloHeap ∨ ∀ a, ¬DueFirst 30 m a := by
  induction reached with
  | first => exact .inl rfl
  | @next k m1 m2 a before first round ih =>
    right
    rcases ih with rfl | none
    · have here : a = 0 := Option.some.inj first.1.symm
      subst here
      have after : (soloHeap.round 30 0 (soloScript k)).toOption.map
          (fun m => (m.head, (m.node 1).map Node.expiresMs)) = some (some 1, some 32) := by
        have same : soloScript k = soloScript 0 := rfl
        rw [same]
        decide +kernel
      rw [round] at after
      simp only [Except.toOption, Option.map_some, Option.some.injEq, Prod.mk.injEq] at after
      rintro b ⟨head, t, node, late⟩
      cases after.1.symm.trans head
      rw [node] at after
      rw [Option.some.inj after.2] at late
      exact absurd late (by decide)
    · exact absurd first (none a)

/-- What its callback calls is allowed. -/
lemma soloHeap_allowed (k : Nat) : RoundAllowed 30 soloHeap 0 (soloScript k) := by
  intro m1 calls begins
  have handle : (soloHeap.beginRound 0).toOption.map (fun r => ((r.1.pub 0).isSome, r.2)) =
      some (true, some true) := by
    decide +kernel
  have called : (soloHeap.beginRound 0).toOption.bind (fun r =>
      (r.1.runCallback true [.cancel 0, .add true true 31 1 0 none]).toOption.map
        fun m => (m.node 0).map Node.rearms) = some (some false) := by
    decide +kernel
  rw [begins] at handle called
  simp only [Except.toOption, Option.map_some, Option.some.injEq, Prod.mk.injEq] at handle
  cases handle.2
  constructor
  · rintro -
    refine ⟨handle.1, fun m2 _ => ⟨⟨by decide, by decide, by decide⟩, fun _ _ => trivial⟩⟩
  · intro m2 ran t node rearms
    rw [Except.toOption, Option.bind_some] at called
    have ran : m1.runCallback true [.cancel 0, .add true true 31 1 0 none] = .ok m2 := ran
    rw [ran] at called
    simp only [Except.toOption, Option.map_some, Option.some.injEq, node, rearms] at called
    cases called

/-- A pass over one periodic timer ends. -/
theorem processExpiredTimers_ends_solo :
    ∃ fuel m', processExpiredTimers 30 soloScript fuel soloHeap = .ok m' := by
  refine processExpiredTimers_ends soloHeap [0] soloHeap_owned 30 soloScript fun k m1 a reached first => ?_
  rcases soloHeap_rounds reached with rfl | none
  · have here : a = 0 := Option.some.inj first.1.symm
    subst here
    exact soloHeap_allowed k
  · exact absurd first (none a)

end Atpd.Reactor.Pointers
