import Atpd.Reactor.Pass

/-!
# What a timer run guarantees

The invariant of the machine of `Atpd.Reactor.Pass` and the four guarantees it gives for every run:
a cancelled timer does not run, a one-shot timer runs once and a periodic one once per pass, a pass
runs what is due in deadline order and leaves nothing due behind, and a periodic timer that is still
live is re-armed to its first deadline behind the time of the pass.

Each label has a lemma `Inv.*` that the invariant survives it; `Inv.step` puts them together. The
two facts that carry the ordering are `sorted` (equal deadlines stand in insertion order, since
insertion goes behind them) and `RunInv.later` (what is still linked and not cancelled stands
behind everything that ran in this pass: a timer added during the pass has a deadline of at least
the current clock).
-/

namespace Atpd.Reactor

open Atpd.Lib

variable {κ : Type*} {s s' : State κ}

/-- A node that is allocated: linked, or the one whose callback is running. -/
def Priv.Node (r : Priv κ) (t : Timer κ) : Prop := r.running = some t ∨ t ∈ r.timers

/-- No callback is entered after a cancel of its timer. -/
def CancelFinal (log : List (Obs κ)) : Prop :=
  log.Pairwise fun later earlier => ∀ t p, later = .ran t p → earlier ≠ .cancelled t.id

/-- A timer that runs again is periodic and runs in a later pass, and the callbacks of one pass are
entered in the order of their deadlines, equal deadlines in insertion order. -/
def RunOrder (log : List (Obs κ)) : Prop :=
  log.Pairwise fun later earlier => ∀ t p u q, later = .ran u q → earlier = .ran t p →
    (t.id = u.id → 0 < t.intervalMs ∧ p < q) ∧ (p = q → t.Before u)

/-- What is known of a callback that was entered in pass `p`. -/
structure RunInv (r : Priv κ) (pass : Option Nat) (passes : Nat) (t : Timer κ) (p : Nat) : Prop where
  fresh : t.id < r.nextId
  pass_le : p ≤ passes
  stamped : t.stamp < r.stamps
  interval : ∀ u, r.Node u → u.id = t.id → u.intervalMs = t.intervalMs
  periodic : ∀ u ∈ r.timers, u.id = t.id → 0 < u.intervalMs
  due : ∀ now, pass = some now → p = passes → t.expiresMs ≤ now
  later : ∀ now, pass = some now → p = passes → ∀ u ∈ r.timers,
    u.pendingDelete = false → t.Before u ∧ (u.id = t.id → now < u.expiresMs)

/-- What is known of a handle that was cancelled. -/
structure CancelInv (r : Priv κ) (id : Nat) : Prop where
  fresh : id < r.nextId
  marked : ∀ u, r.Node u → u.id = id → u.pendingDelete = true

/-- The invariant of a timer run. -/
structure Inv (s : State κ) : Prop where
  wf : s.priv.Wf
  idle : s.pass = none → s.priv.running = none
  sorted : s.priv.timers.Pairwise Timer.Before
  stamped : ∀ t ∈ s.priv.timers, t.stamp < s.priv.stamps
  active : ∀ t, s.priv.Node t → t.active = !t.pendingDelete
  now_le : ∀ now, s.pass = some now → now ≤ s.clock
  runs : ∀ t p, .ran t p ∈ s.log → RunInv s.priv s.pass s.passes t p
  cancels : ∀ id, .cancelled id ∈ s.log → CancelInv s.priv id
  final : CancelFinal s.log
  order : RunOrder s.log

/-- A new reactor has nothing to run. -/
lemma State.init_inv {now : Nat} : Inv (State.init now : State κ) where
  wf := reactorCreate_wf
  idle := by simp [State.init, reactorCreate]
  sorted := by simp [State.init, reactorCreate]
  stamped := by simp [State.init, reactorCreate]
  active := by simp [State.init, reactorCreate, Priv.Node]
  now_le := by simp [State.init]
  runs := by simp [State.init]
  cancels := by simp [State.init]
  final := by simp [State.init, CancelFinal]
  order := by simp [State.init, RunOrder]

/-! ## What a step can do to a node -/

/-- Where a linked node comes from: it was linked before, it was cancelled, it is new, or it was
running and is re-armed. -/
inductive Origin (r : Priv κ) (pass : Option Nat) (u : Timer κ) : Prop where
  | kept (mem : u ∈ r.timers)
  | cancelled (v : Timer κ) (mem : v ∈ r.timers) (id : u.id = v.id)
    (interval : u.intervalMs = v.intervalMs) (active : u.active = false)
    (mark : u.pendingDelete = true)
  | added (id : u.id = r.nextId) (stamp : u.stamp = r.stamps) (active : u.active = true)
    (mark : u.pendingDelete = false) (le : ∀ now, pass = some now → now ≤ u.expiresMs)
  | rearmed (v : Timer κ) (run : r.running = some v) (id : u.id = v.id)
    (interval : u.intervalMs = v.intervalMs) (periodic : 0 < u.intervalMs)
    (active : u.active = v.active) (mark : u.pendingDelete = v.pendingDelete)
    (lt : ∀ now, pass = some now → now < u.expiresMs)

/-- Every step moves nodes in these ways only. -/
structure Moves (r r' : Priv κ) (pass : Option Nat) : Prop where
  nextId : r.nextId ≤ r'.nextId
  stamps : r.stamps ≤ r'.stamps
  linked : ∀ u ∈ r'.timers, Origin r pass u
  running : ∀ u, r'.running = some u → ∃ v, r.Node v ∧ (u = v ∨ u = v.cancelled)

/-- A node of the next state has a new id, or is a node of this one with the same interval, and
stays cancelled once it is. -/
lemma Moves.node {r r' : Priv κ} {pass : Option Nat} {u : Timer κ} (mv : Moves r r' pass)
    (hu : r'.Node u) : r.nextId ≤ u.id ∨
      ∃ v, r.Node v ∧ u.id = v.id ∧ u.intervalMs = v.intervalMs ∧
        (v.pendingDelete = true → u.pendingDelete = true) := by
  rcases hu with hu | hu
  · obtain ⟨v, hv, rfl | rfl⟩ := mv.running u hu
    · exact .inr ⟨u, hv, rfl, rfl, fun h => h⟩
    · exact .inr ⟨v, hv, rfl, rfl, fun _ => rfl⟩
  · cases mv.linked u hu with
    | kept mem => exact .inr ⟨u, .inr mem, rfl, rfl, fun h => h⟩
    | cancelled v mem id interval _ mark => exact .inr ⟨v, .inr mem, id, interval, fun _ => mark⟩
    | added id => exact .inl (Nat.le_of_eq id.symm)
    | rearmed v run id interval _ _ mark _ =>
      exact .inr ⟨v, .inl run, id, interval, fun h => mark.trans h⟩

/-- What is known of a callback stays known. -/
lemma RunInv.moves {r r' : Priv κ} {pass : Option Nat} {passes : Nat} {t : Timer κ} {p : Nat}
    (ri : RunInv r pass passes t p) (mv : Moves r r' pass) : RunInv r' pass passes t p where
  fresh := Nat.lt_of_lt_of_le ri.fresh mv.nextId
  pass_le := ri.pass_le
  stamped := Nat.lt_of_lt_of_le ri.stamped mv.stamps
  interval u hu hid := by
    have hf := ri.fresh
    rcases mv.node hu with h | ⟨v, hv, hid', hint, -⟩
    · omega
    · rw [hint]
      exact ri.interval v hv (hid'.symm.trans hid)
  periodic u hu hid := by
    have hf := ri.fresh
    cases mv.linked u hu with
    | kept mem => exact ri.periodic u mem hid
    | cancelled v mem id interval => exact interval ▸ ri.periodic v mem (id.symm.trans hid)
    | added id => omega
    | rearmed _ _ _ _ periodic => exact periodic
  due := ri.due
  later now hn hp u hu mark := by
    have hf := ri.fresh
    have hd := ri.due now hn hp
    cases mv.linked u hu with
    | kept mem => exact ri.later now hn hp u mem mark
    | cancelled _ _ _ _ _ mark' => exact absurd (mark.symm.trans mark') (by simp)
    | added id stamp _ _ le =>
      -- added while the pass runs: its deadline is not before `now`, and on a tie its stamp is newer
      -- added while the pass runs: not due before `now`, and on a tie its stamp is newer than any that ran
      have hle := le now hn
      have hst := ri.stamped
      refine ⟨?_, fun hid => absurd hid (by omega)⟩
      rcases Nat.lt_or_eq_of_le (Nat.le_trans hd hle) with h | h
      · exact .inl h
      · exact .inr ⟨h, by omega⟩
    | rearmed _ _ _ _ _ _ _ lt =>
      have hlt := lt now hn
      exact ⟨.inl (by omega), fun _ => hlt⟩

/-- What is known of a cancelled handle stays known. -/
lemma CancelInv.moves {r r' : Priv κ} {pass : Option Nat} {id : Nat} (ci : CancelInv r id)
    (mv : Moves r r' pass) : CancelInv r' id where
  fresh := Nat.lt_of_lt_of_le ci.fresh mv.nextId
  marked u hu hid := by
    have hf := ci.fresh
    rcases mv.node hu with h | ⟨v, hv, hid', -, mark⟩
    · omega
    · exact mark (ci.marked v hv (hid'.symm.trans hid))

/-- `active` stays the opposite of `pending_delete`. -/
lemma Moves.active {r r' : Priv κ} {pass : Option Nat} (mv : Moves r r' pass)
    (act : ∀ t, r.Node t → t.active = !t.pendingDelete) {u : Timer κ} (hu : r'.Node u) :
    u.active = !u.pendingDelete := by
  rcases hu with hu | hu
  · obtain ⟨v, hv, rfl | rfl⟩ := mv.running u hu
    · exact act u hv
    · rfl
  · cases mv.linked u hu with
    | kept mem => exact act u (.inr mem)
    | cancelled _ _ _ _ active mark => rw [active, mark]; rfl
    | added _ _ active mark => rw [active, mark]; rfl
    | rearmed v run _ _ _ active mark => rw [active, mark]; exact act v (.inl run)

/-- A step that only moves nodes keeps the invariant. -/
lemma Inv.moves {r' : Priv κ} (clock : Nat) (inv : Inv s) (mv : Moves s.priv r' s.pass)
    (le : s.clock ≤ clock) (wf : r'.Wf) (idle : s.pass = none → r'.running = none)
    (sorted : r'.timers.Pairwise Timer.Before) (stamped : ∀ t ∈ r'.timers, t.stamp < r'.stamps) :
    Inv { s with priv := r', clock := clock } where
  wf := wf
  idle := idle
  sorted := sorted
  stamped := stamped
  active _ hu := mv.active inv.active hu
  now_le now hn := Nat.le_trans (inv.now_le now hn) le
  runs t p h := (inv.runs t p h).moves mv
  cancels id h := (inv.cancels id h).moves mv
  final := inv.final
  order := inv.order

/-! ## The labels -/

/-- The list is sorted and its stamps are old. -/
def Priv.Sorted (r : Priv κ) : Prop :=
  r.timers.Pairwise Timer.Before ∧ ∀ t ∈ r.timers, t.stamp < r.stamps

/-- A timer is linked at its place. -/
lemma Priv.Sorted.link {r : Priv κ} {t : Timer κ} (so : r.Sorted) : (r.link t).Sorted := by
  refine ⟨timerListInsert_sorted so.1 so.2, fun u hu => ?_⟩
  rcases mem_timerListInsert.mp hu with rfl | hu
  · exact Nat.lt_succ_self _
  · exact Nat.lt_succ_of_lt (so.2 u hu)

/-- Without one timer the list is sorted as well. -/
lemma Priv.Sorted.remove {r : Priv κ} {id : Nat} (so : r.Sorted) :
    { r with timers := timerListRemove r.timers id : Priv κ }.Sorted :=
  ⟨so.1.filter _, fun t ht => so.2 t (mem_timerListRemove.mp ht).1⟩

lemma Moves.refl {r : Priv κ} {pass : Option Nat} : Moves r r pass where
  nextId := Nat.le_refl _
  stamps := Nat.le_refl _
  linked _ hu := .kept hu
  running u hu := ⟨u, .inl hu, .inl rfl⟩

/-- A timer is added, not before the pass. -/
lemma Moves.add {r : Priv κ} {pass : Option Nat} {now timeout interval : Nat} {cb : Option κ}
    (le : ∀ n, pass = some n → n ≤ now) :
    Moves r (reactorAddTimer r true now timeout interval cb).1 pass where
  nextId := Nat.le_succ _
  stamps := Nat.le_succ _
  linked u hu := by
    rcases mem_timerListInsert.mp hu with rfl | hu
    · exact .added rfl rfl rfl rfl fun n hn => Nat.le_trans (le n hn) (Nat.le_add_right _ _)
    · exact .kept hu
  running u hu := ⟨u, .inl hu, .inl rfl⟩

/-- A timer is cancelled. -/
lemma Moves.cancel {r : Priv κ} {pass : Option Nat} {id : Nat} :
    Moves r (reactorCancelTimer r id) pass := by
  rw [reactorCancelTimer]
  cases hrun : findLive r.running.toList id with
  | some t =>
    obtain ⟨ht, -, -⟩ := findLive_some hrun
    have ht : r.running = some t := by simpa using ht
    refine ⟨Nat.le_refl _, Nat.le_refl _, fun u hu => .kept hu, fun u hu => ?_⟩
    cases hu
    exact ⟨t, .inl ht, .inr rfl⟩
  | none =>
    cases hl : findLive r.timers id with
    | none =>
      exact ⟨Nat.le_refl _, Nat.le_refl _, fun u hu => .kept hu, fun u hu => ⟨u, .inl hu, .inl rfl⟩⟩
    | some t =>
      obtain ⟨ht, -, -⟩ := findLive_some hl
      refine ⟨Nat.le_refl _, Nat.le_succ _, fun u hu => ?_, fun u hu => ⟨u, .inl hu, .inl rfl⟩⟩
      rcases mem_timerListInsert.mp hu with rfl | hu
      · exact .cancelled t ht rfl rfl rfl rfl
      · exact .kept (mem_timerListRemove.mp hu).1

/-- A timer begins to run. -/
lemma Moves.begin {r : Priv κ} {pass : Option Nat} {t : Timer κ} (ht : t ∈ r.timers) :
    Moves r (r.beginTimer t) pass where
  nextId := Nat.le_refl _
  stamps := Nat.le_refl _
  linked _ hu := .kept (mem_timerListRemove.mp hu).1
  running u hu := by
    cases hu
    exact ⟨t, .inr ht, .inl rfl⟩

/-- A timer is freed. -/
lemma Moves.free {r : Priv κ} {pass : Option Nat} {t : Timer κ} :
    Moves r (r.freeTimer t) pass where
  nextId := Nat.le_refl _
  stamps := Nat.le_refl _
  linked _ hu := .kept (mem_timerListRemove.mp hu).1
  running u hu := ⟨u, .inl hu, .inl rfl⟩

/-- Leaving a callback re-arms its node or frees it. -/
lemma Moves.endTimer {r : Priv κ} {now : Nat} : Moves r (r.endTimer now) (some now) := by
  rw [Priv.endTimer]
  cases hrun : r.running with
  | none => exact .refl
  | some t =>
    dsimp only
    split
    · rename_i hre
      simp only [Timer.rearms, Bool.and_eq_true, decide_eq_true_eq] at hre
      refine ⟨Nat.le_refl _, Nat.le_succ _, fun u hu => ?_, by simp [Priv.link]⟩
      rcases mem_timerListInsert.mp hu with rfl | hu
      · refine .rearmed t hrun rfl rfl hre.2 rfl rfl fun n hn => ?_
        cases hn
        exact (rearm_spec now t.intervalMs t.expiresMs hre.2).choose_spec.2.2.1
      · exact .kept hu
    · exact ⟨Nat.le_refl _, Nat.le_refl _, fun u hu => .kept hu, by simp⟩

/-- Cancelling keeps the order. -/
lemma Priv.Sorted.cancel {r : Priv κ} {id : Nat} (so : r.Sorted) :
    (reactorCancelTimer r id).Sorted := by
  rw [reactorCancelTimer]
  cases findLive r.running.toList id with
  | some t => exact so
  | none =>
    cases findLive r.timers id with
    | some t => exact so.remove.link
    | none => exact so

/-- A periodic timer is put back at its place. -/
lemma Priv.Sorted.endTimer {r : Priv κ} {now : Nat} (so : r.Sorted) : (r.endTimer now).Sorted := by
  rw [Priv.endTimer]
  cases r.running with
  | none => exact so
  | some t =>
    dsimp only
    split
    · exact Priv.Sorted.link so
    · exact so

/-- A cancel only marks the running node: nothing is running after it that was not. -/
lemma reactorCancelTimer_idle {r : Priv κ} {id : Nat} (idle : r.running = none) :
    (reactorCancelTimer r id).running = none := by
  rw [reactorCancelTimer, idle]
  cases findLive r.timers id with
  | some t => rfl
  | none => rfl

/-- A timer is cancelled that was live. -/
lemma CancelInv.new {r : Priv κ} {id : Nat} (wf : r.Wf) (lv : ∃ x ∈ r.live, x.id = id) :
    CancelInv (reactorCancelTimer r id) id where
  fresh := by
    obtain ⟨x, hx, rfl⟩ := lv
    obtain ⟨t, ht, -, rfl⟩ := mem_live.mp hx
    have mv : Moves r (reactorCancelTimer r t.toPublic.id) none := .cancel
    refine Nat.lt_of_lt_of_le ?_ mv.nextId
    rcases ht with ht | ht
    · exact wf.runningFresh t ht
    · exact wf.fresh t ht
  marked u hu hid := by
    -- a node that is not marked would make the cancelled handle live
    by_contra hp
    have hm : u.toPublic ∈ (reactorCancelTimer r id).live :=
      mem_live.mpr ⟨u, hu, by simpa using hp, rfl⟩
    exact ((mem_live_reactorCancelTimer wf).mp hm).2 hid

/-- Cancelling a live timer, from outside or from a callback. -/
lemma Inv.cancel {id : Nat} (inv : Inv s) (lv : s.Live id) :
    Inv { s with priv := reactorCancelTimer s.priv id, log := .cancelled id :: s.log } := by
  have so : s.priv.Sorted := ⟨inv.sorted, inv.stamped⟩
  have mv : Moves s.priv (reactorCancelTimer s.priv id) s.pass := .cancel
  have mvd := inv.moves s.clock mv (Nat.le_refl _) inv.wf.cancel
    (fun h => reactorCancelTimer_idle (inv.idle h)) so.cancel.1 so.cancel.2
  refine { mvd with runs := fun t p h => ?_, cancels := fun i h => ?_, final := ?_, order := ?_ }
  · rcases List.mem_cons.mp h with h | h
    · cases h
    · exact mvd.runs t p h
  · rcases List.mem_cons.mp h with h | h
    · cases h
      exact .new inv.wf lv
    · exact mvd.cancels i h
  · refine List.pairwise_cons.mpr ⟨fun o _ t p h => ?_, inv.final⟩
    cases h
  · refine List.pairwise_cons.mpr ⟨fun o _ t p u q h => ?_, inv.order⟩
    cases h

/-- What is known of a callback that is just being entered: by `sorted`, everything that stays
linked stands behind it. -/
lemma RunInv.new {r : Priv κ} {now passes : Nat} {t : Timer κ} {rest : List (Timer κ)} (wf : r.Wf)
    (so : r.Sorted) (ht : r.timers = t :: rest) (due : t.expiresMs ≤ now) :
    RunInv (r.beginTimer t) (some now) passes t passes where
  fresh := wf.fresh t (by simp [ht])
  pass_le := Nat.le_refl _
  stamped := so.2 t (by simp [ht])
  interval u hu hid := by
    rcases hu with hu | hu
    · cases hu
      rfl
    · exact absurd hid (mem_timerListRemove.mp hu).2
  periodic u hu hid := absurd hid (mem_timerListRemove.mp hu).2
  due n hn _ := by
    cases hn
    exact due
  later n _ _ u hu _ := by
    obtain ⟨hu, hne⟩ := mem_timerListRemove.mp hu
    have hr : u ∈ rest := by
      rw [ht] at hu
      exact (List.mem_cons.mp hu).resolve_left fun h => hne (h ▸ rfl)
    exact ⟨(List.pairwise_cons.mp (ht ▸ so.1)).1 u hr, fun hid => absurd hid hne⟩

/-- The first timer is due, and begins to run. -/
lemma Inv.passStep {now : Nat} {t : Timer κ} {rest : List (Timer κ)} (inv : Inv s)
    (hn : s.pass = some now) (ht : s.priv.timers = t :: rest) (due : t.expiresMs ≤ now) :
    Inv (s.passStep t) := by
  have so : s.priv.Sorted := ⟨inv.sorted, inv.stamped⟩
  have mem : t ∈ s.priv.timers := by simp [ht]
  have busy : s.pass = none → (s.priv.beginTimer t).running = none := by simp [hn]
  rw [State.passStep]
  split
  · exact inv.moves s.clock .free (Nat.le_refl _) inv.wf.remove inv.idle so.remove.1
      so.remove.2
  · rename_i mark
    have mvd := inv.moves s.clock (Moves.begin mem) (Nat.le_refl _) (inv.wf.begin mem)
      busy so.remove.1 so.remove.2
    split
    · refine { mvd with runs := fun u p h => ?_, cancels := fun i h => ?_, final := ?_, order := ?_ }
      · rcases List.mem_cons.mp h with h | h
        · cases h
          rw [hn]
          exact .new inv.wf so ht due
        · exact mvd.runs u p h
      · rcases List.mem_cons.mp h with h | h
        · cases h
        · exact mvd.cancels i h
      · refine List.pairwise_cons.mpr ⟨fun o ho u p h hc => ?_, inv.final⟩
        cases h
        subst hc
        -- had it been cancelled, its node would be marked, and the pass would free it
        exact mark ((inv.cancels t.id ho).marked t (.inr mem) rfl)
      · refine List.pairwise_cons.mpr ⟨fun o ho u p v q h hr => ?_, inv.order⟩
        cases h
        subst hr
        -- `u` ran before `t`: if they are one timer, it was re-armed past `now` since
        have ri := inv.runs u p ho
        have mark : t.pendingDelete = false := by simpa using mark
        refine ⟨fun hid => ⟨?_, ?_⟩, fun hp => (ri.later now hn hp t mem mark).1⟩
        · rw [← ri.interval t (.inr mem) hid.symm]
          exact ri.periodic t mem hid.symm
        · refine Nat.lt_of_le_of_ne ri.pass_le fun hp => ?_
          have := (ri.later now hn hp t mem mark).2 hid.symm
          omega
    · exact mvd

/-- The invariant survives the beginning of a pass: nothing has run in it yet. -/
lemma Inv.passBegin {now : Nat} (inv : Inv s) :
    Inv { s with
      priv := { s.priv with currentTimeMs := now }
      pass := some now
      clock := now
      passes := s.passes + 1 } where
  wf := ⟨inv.wf.nodup, inv.wf.fresh, inv.wf.runningFresh, inv.wf.unlinked⟩
  idle := by simp
  sorted := inv.sorted
  stamped := inv.stamped
  active := inv.active
  now_le n hn := by
    cases hn
    exact Nat.le_refl _
  runs t p h := by
    have ri := inv.runs t p h
    have hp : p ≠ s.passes + 1 := Nat.ne_of_lt (Nat.lt_succ_of_le ri.pass_le)
    exact ⟨ri.fresh, Nat.le_succ_of_le ri.pass_le, ri.stamped, ri.interval, ri.periodic,
      fun _ _ h => absurd h hp, fun _ _ h => absurd h hp⟩
  cancels id h := ⟨(inv.cancels id h).fresh, (inv.cancels id h).marked⟩
  final := inv.final
  order := inv.order

/-- The pass ends with nothing running. -/
lemma Inv.passEnd (inv : Inv s) (hrun : s.priv.running = none) : Inv { s with pass := none } :=
  { inv with
    idle := fun _ => hrun
    now_le := by simp
    runs := fun t p h =>
      have ri := inv.runs t p h
      ⟨ri.fresh, ri.pass_le, ri.stamped, ri.interval, ri.periodic, by simp, by simp⟩ }

/-- By cases on the label. -/
lemma Inv.step {l : Label κ} (inv : Inv s) (st : step s l = some s') : Inv s' := by
  have so : s.priv.Sorted := ⟨inv.sorted, inv.stamped⟩
  cases l with
  | add alloc now timeout interval cb =>
    simp only [Reactor.step, Option.ite_none_right_eq_some, Option.some.injEq] at st
    obtain ⟨⟨_, le, _⟩, rfl⟩ := st
    cases alloc with
    | false =>
      rw [reactorAddTimer_false]
      exact inv.moves now .refl le inv.wf inv.idle so.1 so.2
    | true =>
      exact inv.moves now (.add fun n hn => Nat.le_trans (inv.now_le n hn) le) le inv.wf.add
        (fun h => inv.idle h) so.link.1 so.link.2
  | cancel id =>
    simp only [Reactor.step, Option.ite_none_right_eq_some, Option.some.injEq] at st
    obtain ⟨⟨_, lv⟩, rfl⟩ := st
    exact inv.cancel lv
  -- only the clock moves
  | updateTime now =>
    simp only [Reactor.step, Option.ite_none_right_eq_some, Option.some.injEq] at st
    obtain ⟨⟨_, le⟩, rfl⟩ := st
    exact inv.moves now ⟨Nat.le_refl _, Nat.le_refl _, fun u hu => .kept hu,
        fun u hu => ⟨u, .inl hu, .inl rfl⟩⟩ le
      ⟨inv.wf.nodup, inv.wf.fresh, inv.wf.runningFresh, inv.wf.unlinked⟩ inv.idle so.1 so.2
  | passBegin now =>
    simp only [Reactor.step, Option.ite_none_right_eq_some, Option.some.injEq] at st
    obtain ⟨-, rfl⟩ := st
    exact inv.passBegin
  | passStep =>
    simp only [Reactor.step] at st
    split at st
    · rename_i now t rest hn _ ht
      simp only [Option.ite_none_right_eq_some, Option.some.injEq] at st
      obtain ⟨due, rfl⟩ := st
      exact inv.passStep hn ht due
    · cases st
  -- the timer that has run is linked again, or it is gone
  | callbackEnd =>
    simp only [Reactor.step] at st
    split at st
    · rename_i now t hn hrun
      simp only [Option.ite_none_right_eq_some, Option.some.injEq] at st
      obtain ⟨_, rfl⟩ := st
      exact inv.moves s.clock (hn ▸ .endTimer) (Nat.le_refl _) inv.wf.endTimer
        (by simp [hn]) so.endTimer.1 so.endTimer.2
    · cases st
  | passEnd =>
    simp only [Reactor.step] at st
    split at st
    · rename_i now hn hrun
      simp only [Option.ite_none_right_eq_some, Option.some.injEq] at st
      obtain ⟨_, rfl⟩ := st
      exact inv.passEnd hrun
    · cases st

/-! ## The guarantees -/

/-- A pass that ends leaves no timer behind that is due and not cancelled: the list is sorted, so
its head decides for all. -/
lemma Inv.nothing_due {now : Nat} (inv : Inv s) (hn : s.pass = some now)
    (st : Reactor.step s .passEnd = some s') {t : Timer κ} (ht : s'.priv.Node t)
    (_mark : t.pendingDelete = false) : now < t.expiresMs := by
  simp only [Reactor.step, hn] at st
  split at st
  · rename_i n hn' hrun
    cases hn'
    simp only [Option.ite_none_right_eq_some, Option.some.injEq] at st
    obtain ⟨hd, rfl⟩ := st
    rcases ht with ht | ht
    · exact absurd (hrun.symm.trans ht) (by simp)
    · have so := inv.sorted
      cases hl : s.priv.timers with
      | nil => simp [hl] at ht
      | cons u rest =>
        have hu : now < u.expiresMs := hd u (by simp [hl])
        rw [hl] at ht so
        rcases List.mem_cons.mp ht with rfl | ht
        · exact hu
        · rcases (List.pairwise_cons.mp so).1 t ht with h | h
          · omega
          · omega
  · cases st

/-- A periodic timer that is still live after its callback is put back at its first deadline
behind the time of the pass. -/
lemma Inv.rearmed {now : Nat} {t : Timer κ} (inv : Inv s) (hn : s.pass = some now)
    (hrun : s.priv.running = some t) (mark : t.pendingDelete = false) (pos : 0 < t.intervalMs)
    (st : Reactor.step s .callbackEnd = some s') :
    ∃ k, 1 ≤ k ∧ now < t.expiresMs + k * t.intervalMs ∧
      (∀ j, 1 ≤ j → now < t.expiresMs + j * t.intervalMs → k ≤ j) ∧
      ∃ u ∈ s'.priv.timers, u.id = t.id ∧ u.pendingDelete = false ∧
        u.expiresMs = t.expiresMs + k * t.intervalMs := by
  have act : t.active = true := by simp [inv.active t (.inl hrun), mark]
  have re : t.rearms = true := by simp [Timer.rearms, act, mark, pos]
  obtain ⟨k, hk, heq, hlt, hmin⟩ := rearm_spec now t.intervalMs t.expiresMs pos
  simp only [Reactor.step, hn, hrun, Option.ite_none_right_eq_some, Option.some.injEq] at st
  obtain ⟨-, rfl⟩ := st
  refine ⟨k, hk, heq ▸ hlt, hmin, ?_⟩
  -- the bound on the deadline does not matter here: `rearm` is the source loop in any case
  simp only [Priv.endTimer, hrun, re, ↓reduceIte]
  exact ⟨_, mem_timerListInsert.mpr (.inl rfl), rfl, mark, heq⟩

/-- In every run of adds, cancels of live handles and passes, with callbacks that add and cancel as
they like: no callback is entered after its timer was cancelled; a timer whose callback is entered
again is periodic and it is a later pass, and within a pass callbacks are entered by deadline and
then by insertion; a pass that ends leaves nothing due behind; and a live periodic timer is re-armed
to the first of its deadlines behind the time of the pass. -/
theorem timer_semantics (start : Nat) (ls : List (Label κ))
    (rn : run Reactor.step (State.init start) ls = some s) :
    CancelFinal s.log ∧ RunOrder s.log ∧
    (∀ now s', s.pass = some now → Reactor.step s .passEnd = some s' →
      ∀ t, s'.priv.Node t → t.pendingDelete = false → now < t.expiresMs) ∧
    (∀ now t s', s.pass = some now → s.priv.running = some t → t.pendingDelete = false →
      0 < t.intervalMs → Reactor.step s .callbackEnd = some s' →
      ∃ k, 1 ≤ k ∧ now < t.expiresMs + k * t.intervalMs ∧
        (∀ j, 1 ≤ j → now < t.expiresMs + j * t.intervalMs → k ≤ j) ∧
        ∃ u ∈ s'.priv.timers, u.id = t.id ∧ u.pendingDelete = false ∧
          u.expiresMs = t.expiresMs + k * t.intervalMs) := by
  have inv : Inv s := run_preserves (fun _ _ _ hI st => hI.step st) State.init_inv rn
  exact ⟨inv.final, inv.order, fun now s' hn st t ht mark => inv.nothing_due hn st ht mark,
    fun now t s' hn hrun mark pos st => inv.rearmed hn hrun mark pos st⟩

/-- A run with a periodic timer whose callback cancels a one-shot timer that is due in the same
pass. -/
def cancelDueRun : List (Label Unit) :=
  [.add true 0 5 10 (some ()), .add true 0 5 0 (some ()), .passBegin 27, .passStep, .cancel 1,
    .callbackEnd, .passStep]

/-- A timer that is due is cancelled, and does not run. -/
theorem timer_semantics_cancelDueRun : ∃ s, run Reactor.step (State.init 0) cancelDueRun = some s ∧
    CancelFinal s.log ∧ RunOrder s.log ∧ s.log.length = 2 := by
  obtain ⟨final, order, -⟩ := timer_semantics 0 cancelDueRun rfl
  exact ⟨_, rfl, final, order, rfl⟩

end Atpd.Reactor
