import Atpd.Reactor.Semantics

/-!
# Timers with one handle

A component that keeps one handle for a callback relies on the handle: cancelling it must leave no
other live timer that still runs the callback. `Priv.Only r cb h` says that every live timer with
the callback `cb` is the one that `h` names. A component with several handles also relies on each of
them to name none of its other timers, which is `Priv.Names r cb h`. Each operation of the reactor
has a rule for both, so a component proves that it keeps track of its timers by following its own
calls.
-/

namespace Atpd.Reactor

variable {κ : Type*} {r r' : Priv κ} {c cb : κ} {h : Option Nat}

/-- Every live timer with the callback `cb` is the one that `h` names. -/
def Priv.Only (r : Priv κ) (cb : κ) (h : Option Nat) : Prop :=
  ∀ x ∈ r.live, x.callback = some cb → h = some x.id

/-- With fewer timers it is still the only one. -/
lemma Priv.Only.mono (on : r.Only cb h) (sub : ∀ x ∈ r'.live, x ∈ r.live) : r'.Only cb h :=
  fun x hx hcb => on x (sub x hx) hcb

/-- Without any, every handle will do. -/
lemma Priv.Only.of_none (on : r.Only cb none) : r.Only cb h :=
  fun x hx hcb => absurd (on x hx hcb) (by simp)

/-- A new reactor has no timers. -/
lemma reactorCreate_only {now : Nat} : (reactorCreate now).Only cb h := by
  intro x hx
  simp [reactorCreate, Priv.live] at hx

/-- A cancel, of whatever handle, keeps what `h` tells. -/
lemma Priv.Only.cancel {id : Nat} (wf : r.Wf) (on : r.Only cb h) :
    (reactorCancelTimer r id).Only cb h :=
  on.mono fun _ hx => ((mem_live_reactorCancelTimer wf).mp hx).1

/-- After the timer that the handle names is cancelled, none with its callback is live. -/
lemma Priv.Only.cancel_self {id : Nat} (wf : r.Wf) (on : r.Only cb (some id)) :
    (reactorCancelTimer r id).Only cb none := by
  intro x hx hcb
  obtain ⟨hx, hne⟩ := (mem_live_reactorCancelTimer wf).mp hx
  exact absurd (Option.some.inj (on x hx hcb)).symm hne

/-- A timer with another callback does not matter. -/
lemma Priv.Only.add_other {alloc : Bool} {now timeout interval : Nat} (on : r.Only cb h)
    (ne : c ≠ cb) : (reactorAddTimer r alloc now timeout interval (some c)).1.Only cb h := by
  cases alloc with
  | false => simpa using on
  | true =>
    intro x hx hcb
    rcases mem_live_reactorAddTimer.mp hx with rfl | hx
    · exact absurd (Option.some.inj hcb) ne
    · exact on x hx hcb

/-- A timer that is added when none with its callback is live is the only one. -/
lemma Priv.Only.add_self {alloc : Bool} {now timeout interval : Nat} (on : r.Only cb none) :
    (reactorAddTimer r alloc now timeout interval (some cb)).1.Only cb
      (reactorAddTimer r alloc now timeout interval (some cb)).2 := by
  cases alloc with
  | false => simpa using on
  | true =>
    intro x hx hcb
    rcases mem_live_reactorAddTimer.mp hx with rfl | hx
    · exact reactorAddTimer_handle
    · exact absurd (on x hx hcb) (by simp)

/-- Leaving a callback makes no handle live. -/
lemma live_of_endTimer {now : Nat} {x : PublicTimer κ} (hx : x ∈ (r.endTimer now).live) :
    x ∈ r.live := by
  cases hrun : r.running with
  | none => simpa [Priv.endTimer, hrun] using hx
  | some t =>
    rcases (mem_live_endTimer hrun).mp hx with ⟨hre, rfl⟩ | ⟨u, hu, hp, rfl⟩
    · simp only [Timer.rearms, Bool.and_eq_true, Bool.not_eq_true'] at hre
      exact mem_live.mpr ⟨t, .inl hrun, hre.1.2, rfl⟩
    · exact mem_live.mpr ⟨u, .inr hu, hp, rfl⟩

/-- A timer that is live while another one runs was live before. -/
lemma live_of_beginTimer {t : Timer κ} {x : PublicTimer κ} (ht : t ∈ r.timers)
    (hx : x ∈ (r.beginTimer t).live) : x ∈ r.live := by
  obtain ⟨u, hu | hu, hp, rfl⟩ := mem_live.mp hx
  · cases hu
    exact mem_live.mpr ⟨t, .inr ht, hp, rfl⟩
  · exact mem_live.mpr ⟨u, .inr (mem_timerListRemove.mp hu).1, hp, rfl⟩

/-- So was one that is live behind the other one's end. -/
lemma live_of_freeTimer {t : Timer κ} {x : PublicTimer κ} (hx : x ∈ (r.freeTimer t).live) :
    x ∈ r.live := by
  obtain ⟨u, hu | hu, hp, rfl⟩ := mem_live.mp hx
  · exact mem_live.mpr ⟨u, .inl hu, hp, rfl⟩
  · exact mem_live.mpr ⟨u, .inr (mem_timerListRemove.mp hu).1, hp, rfl⟩

/-- Cancelling a live handle is no stale cancel. -/
lemma staleCancels_cancel {id : Nat} (live : ∃ x ∈ r.live, x.id = id) :
    (reactorCancelTimer r id).staleCancels = r.staleCancels := by
  obtain ⟨x, hx, hid⟩ := live
  obtain ⟨u, hu, hp, rfl⟩ := mem_live.mp hx
  have hid : u.id = id := hid
  rw [reactorCancelTimer]
  cases hrun : findLive r.running.toList id with
  | some t => rfl
  | none =>
    cases hl : findLive r.timers id with
    | some t => rfl
    | none =>
      rcases hu with hu | hu
      · exact absurd (findLive_none hrun (by simpa using hu) hid) (by simp [hp])
      · exact absurd (findLive_none hl hu hid) (by simp [hp])

/-! ## Handles that name their own callback -/

/-- The handle `h` was handed out, and if it is live, its timer has the callback `cb`. -/
def Priv.Names (r : Priv κ) (cb : κ) (h : Option Nat) : Prop :=
  ∀ id, h = some id → id < r.nextId ∧ ∀ x ∈ r.live, x.id = id → x.callback = some cb

/-- No handle names nothing. -/
lemma Priv.Names.null : r.Names cb none := nofun

/-- A handle names the timer as long as its number is not given again. -/
lemma Priv.Names.mono (na : r.Names cb h) (le : r.nextId ≤ r'.nextId)
    (sub : ∀ x ∈ r'.live, x ∈ r.live) : r'.Names cb h :=
  fun id hid => ⟨Nat.lt_of_lt_of_le (na id hid).1 le, fun x hx => (na id hid).2 x (sub x hx)⟩

/-- Cancelling gives no number. -/
lemma reactorCancelTimer_nextId {id : Nat} : (reactorCancelTimer r id).nextId = r.nextId := by
  rw [reactorCancelTimer]
  split
  · rfl
  · split <;> rfl

/-- Cancelling another timer leaves the name. -/
lemma Priv.Names.cancel {id : Nat} (wf : r.Wf) (na : r.Names cb h) :
    (reactorCancelTimer r id).Names cb h :=
  na.mono (Nat.le_of_eq reactorCancelTimer_nextId.symm)
    fun _ hx => ((mem_live_reactorCancelTimer wf).mp hx).1

/-- A new timer, whatever its callback, is named by no old handle. -/
lemma Priv.Names.add {alloc : Bool} {now timeout interval : Nat} (na : r.Names cb h) :
    (reactorAddTimer r alloc now timeout interval (some c)).1.Names cb h := by
  cases alloc with
  | false => simpa using na
  | true =>
    intro id hid
    obtain ⟨lt, own⟩ := na id hid
    refine ⟨Nat.lt_succ_of_lt lt, fun x hx hxid => ?_⟩
    rcases mem_live_reactorAddTimer.mp hx with rfl | hx
    · exact absurd hxid (Nat.ne_of_gt lt)
    · exact own x hx hxid

/-- The handle of a new timer names its callback. -/
lemma Priv.Names.add_self {alloc : Bool} {now timeout interval : Nat} (wf : r.Wf) :
    (reactorAddTimer r alloc now timeout interval (some cb)).1.Names cb
      (reactorAddTimer r alloc now timeout interval (some cb)).2 := by
  cases alloc with
  | false => exact nofun
  | true =>
    rintro id ⟨⟩
    refine ⟨Nat.lt_succ_self _, fun x hx hid => ?_⟩
    rcases mem_live_reactorAddTimer.mp hx with rfl | hx
    · rfl
    · -- an old timer cannot have the new id
      obtain ⟨t, ht | ht, -, rfl⟩ := mem_live.mp hx
      · exact absurd hid (Nat.ne_of_lt (wf.runningFresh t ht))
      · exact absurd hid (Nat.ne_of_lt (wf.fresh t ht))

/-- A cancel through a handle that names another callback leaves a timer live. -/
lemma Priv.Names.live_cancel {id : Nat} {x : PublicTimer κ} (wf : r.Wf) (na : r.Names cb (some id))
    (hx : x ∈ r.live) (ne : x.callback ≠ some cb) : x ∈ (reactorCancelTimer r id).live :=
  (mem_live_reactorCancelTimer wf).mpr ⟨hx, fun hid => ne ((na id rfl).2 x hx hid)⟩

/-- The end of a callback gives no number. -/
lemma endTimer_nextId {now : Nat} : (r.endTimer now).nextId = r.nextId := by
  rw [Priv.endTimer]
  split
  · rfl
  · split <;> rfl

/-! ## Sound timer states -/

/-- What the calls of a program keep: no two timers share an id, a timer is active until it is
cancelled, and outside a callback no timer is running. -/
structure Priv.Sound (r : Priv κ) (out : Bool) : Prop where
  wf : r.Wf
  active : ∀ t, r.Node t → t.active = !t.pendingDelete
  idle : out = true → r.running = none

namespace Priv.Sound

variable {out : Bool}

/-- A new reactor is sound. -/
lemma create {now : Nat} : (reactorCreate now : Priv κ).Sound out where
  wf := reactorCreate_wf
  active t ht := by simp [Priv.Node, reactorCreate] at ht
  idle _ := rfl

/-- With one timer more it is sound. -/
lemma add {alloc : Bool} {now timeout interval : Nat} (so : r.Sound out) :
    (reactorAddTimer r alloc now timeout interval (some c)).1.Sound out := by
  cases alloc with
  | false => simpa using so
  | true =>
    have mv : Moves r (reactorAddTimer r true now timeout interval (some c)).1 none := .add nofun
    exact ⟨so.wf.add, fun t ht => mv.active so.active ht, so.idle⟩

/-- And with one less. -/
lemma cancel {id : Nat} (so : r.Sound out) : (reactorCancelTimer r id).Sound out where
  wf := so.wf.cancel
  active t ht := by
    have mv : Moves r (reactorCancelTimer r id) none := .cancel
    exact mv.active so.active ht
  idle h := reactorCancelTimer_idle (so.idle h)

/-- Time goes by. -/
lemma tick (so : r.Sound out) (nowMs : Nat) : { r with currentTimeMs := nowMs : Priv κ }.Sound out :=
  ⟨⟨so.wf.nodup, so.wf.fresh, so.wf.runningFresh, so.wf.unlinked⟩, so.active, so.idle⟩

/-- A timer that was run once is freed. -/
lemma free {t : Timer κ} (so : r.Sound out) : (r.freeTimer t).Sound out where
  wf := so.wf.remove
  active u hu := by
    have mv : Moves r (r.freeTimer t) none := .free
    exact mv.active so.active hu
  idle := so.idle

/-- A timer is taken off the list to be run. -/
lemma begin {t : Timer κ} (so : r.Sound out) (ht : t ∈ r.timers) : (r.beginTimer t).Sound false where
  wf := so.wf.begin ht
  active u hu := by
    have mv : Moves r (r.beginTimer t) none := .begin ht
    exact mv.active so.active hu
  idle := nofun

/-- It is put back, or freed. -/
lemma endTimer {now : Nat} {out' : Bool} (so : r.Sound out) : (r.endTimer now).Sound out' where
  wf := so.wf.endTimer
  active _ hu := Moves.endTimer.active so.active hu
  idle _ := by
    rw [Priv.endTimer]
    cases hrun : r.running with
    | none => exact hrun
    | some t =>
      dsimp only
      split <;> rfl

end Priv.Sound

/-- A periodic timer that is live stays so when a callback is left, also its own. -/
lemma Priv.Sound.live_endTimer {out : Bool} {now : Nat} {x : PublicTimer κ} (so : r.Sound out)
    (hx : x ∈ r.live) (periodic : 0 < x.intervalMs) : x ∈ (r.endTimer now).live := by
  obtain ⟨t, ht | ht, mark, rfl⟩ := mem_live.mp hx
  · -- it is the running timer itself: periodic and not cancelled, so it is put back
    have active := so.active t (.inl ht)
    have periodic : 0 < t.intervalMs := periodic
    exact (mem_live_endTimer ht).mpr (.inl ⟨by simp [Timer.rearms, active, mark, periodic], rfl⟩)
  · cases hrun : r.running with
    | none => simpa [Priv.endTimer, hrun] using hx
    | some u => exact (mem_live_endTimer hrun).mpr (.inr ⟨t, ht, mark, rfl⟩)

/-- Freeing a cancelled node leaves the live timers. -/
lemma Priv.Sound.live_freeTimer {out : Bool} {t : Timer κ} {x : PublicTimer κ} (so : r.Sound out)
    (ht : t ∈ r.timers) (mark : t.pendingDelete = true) (hx : x ∈ r.live) :
    x ∈ (r.freeTimer t).live := by
  obtain ⟨u, hu | hu, live, rfl⟩ := mem_live.mp hx
  · exact mem_live.mpr ⟨u, .inl hu, live, rfl⟩
  · refine mem_live.mpr ⟨u, .inr (mem_timerListRemove.mpr ⟨hu, fun hid => ?_⟩), live, rfl⟩
    cases so.wf.eq_of_id hu ht hid
    exact absurd (live.symm.trans mark) (by decide)

/-- No timer is live twice. -/
lemma Priv.Wf.live_nodup (wf : r.Wf) : r.live.Nodup := by
  have ids : (r.running.toList ++ r.timers).Pairwise (fun a b => a.id ≠ b.id) := by
    refine List.pairwise_append.mpr ⟨?_, wf.nodup, fun t ht u hu => ?_⟩
    · cases r.running <;> simp
    · exact (wf.unlinked t (by simpa using ht) u hu).symm
  refine List.pairwise_map.mpr ((ids.filter _).imp fun ne heq => ne ?_)
  exact congrArg PublicTimer.id heq

/-- Live timers with one id are one timer. -/
lemma Priv.Wf.live_ext {x y : PublicTimer κ} (wf : r.Wf) (hx : x ∈ r.live) (hy : y ∈ r.live)
    (hid : x.id = y.id) : x = y := by
  obtain ⟨t, ht, -, rfl⟩ := mem_live.mp hx
  obtain ⟨u, hu, -, rfl⟩ := mem_live.mp hy
  rcases ht with ht | ht <;> rcases hu with hu | hu
  · cases ht.symm.trans hu
    rfl
  · exact absurd hid.symm (wf.unlinked t ht u hu)
  · exact absurd hid (wf.unlinked u hu t ht)
  · cases wf.eq_of_id ht hu hid
    rfl

/-- If one handle tells of every live timer with a callback, there is one such timer. -/
lemma Priv.Only.filter_live {id : Nat} {interval : Nat} [DecidableEq κ] (wf : r.Wf)
    (on : r.Only cb (some id)) (hx : ⟨id, interval, some cb⟩ ∈ r.live) :
    r.live.filter (fun x => x.callback = some cb) = [⟨id, interval, some cb⟩] := by
  -- both sides have no duplicates, so it is enough that they have the same members
  apply List.perm_singleton.mp
  refine (List.perm_ext_iff_of_nodup (wf.live_nodup.filter _) (by simp)).mpr fun x => ?_
  simp only [List.mem_filter, decide_eq_true_eq, List.mem_singleton]
  constructor
  · rintro ⟨mem, hcb⟩
    have same : x.id = id := (Option.some.inj (on x mem hcb)).symm
    exact wf.live_ext mem hx same
  · rintro rfl
    exact ⟨hx, rfl⟩

end Atpd.Reactor
