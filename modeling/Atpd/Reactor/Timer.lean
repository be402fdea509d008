import Mathlib.Tactic.Common
import Mathlib.Data.List.Pairwise
import Mathlib.Algebra.Group.Nat.Defs

/-!
# Reactor timers

The timer half of `src/reactor.c`. The doubly linked list that hangs from `timer_head` is the list
of its nodes in order, so `linked` is membership. A node is named by `id`, which stands for the
pair of heap objects `reactor_timer_internal_t` / `reactor_timer_t` that `reactor_add_timer`
allocates; ids are never reused, so a freed handle names no node.

The node whose callback is running is unlinked (`process_expired_timers` removes it before the
call), and is held in `running` until the callback returns.

`stamp` and `staleCancels` are history: `stamp` counts the insertions before the last insertion of
the node, and `staleCancels` counts the calls of `reactor_cancel_timer` with a freed handle.

Deadlines are natural numbers. The C code adds `uint64_t`s, so the model is exact as long as every
deadline is below `2 ^ 64`; the machine of `Atpd.Reactor.Pass` has that bound as a guard.
-/

namespace Atpd.Reactor

variable {κ : Type*}

/-- A `reactor_timer_internal_t`; `callback` is the callback with its userdata, `none` for NULL. -/
structure Timer (κ : Type*) where
  id : Nat
  expiresMs : Nat
  intervalMs : Nat
  callback : Option κ
  active : Bool
  pendingDelete : Bool
  stamp : Nat
deriving DecidableEq, Repr

/-- What the holder of a handle can name of a timer: the constant part of `reactor_timer_t`. -/
structure PublicTimer (κ : Type*) where
  id : Nat
  intervalMs : Nat
  callback : Option κ
deriving DecidableEq, Repr

/-- The timer state of `reactor_private_t`. -/
structure Priv (κ : Type*) where
  timers : List (Timer κ)
  running : Option (Timer κ)
  currentTimeMs : Nat
  timersFired : Nat
  nextId : Nat
  stamps : Nat
  staleCancels : Nat
deriving DecidableEq, Repr

/-- `reactor_create`: no timers. -/
def reactorCreate (nowMs : Nat) : Priv κ where
  timers := []
  running := none
  currentTimeMs := nowMs
  timersFired := 0
  nextId := 0
  stamps := 0
  staleCancels := 0

/-- The public part of a timer. -/
def Timer.toPublic (t : Timer κ) : PublicTimer κ := ⟨t.id, t.intervalMs, t.callback⟩

/-- `timer_list_insert`: behind every node whose deadline is not later. -/
def timerListInsert : List (Timer κ) → Timer κ → List (Timer κ)
  | [], timer => [timer]
  | cur :: rest, timer =>
    -- equal deadlines: the new node goes behind
    if cur.expiresMs ≤ timer.expiresMs then cur :: timerListInsert rest timer
    else timer :: cur :: rest

/-- `timer_list_remove`. -/
def timerListRemove (l : List (Timer κ)) (id : Nat) : List (Timer κ) :=
  l.filter (fun t => t.id != id)

/-- Links a node into the reactor's list, recording when it was inserted. -/
def Priv.link (r : Priv κ) (t : Timer κ) : Priv κ :=
  { r with
    timers := timerListInsert r.timers { t with stamp := r.stamps }
    stamps := r.stamps + 1 }

/-- `reactor_add_timer`; `alloc` says whether both allocations succeed, `nowMs` is the clock. -/
def reactorAddTimer (r : Priv κ) (alloc : Bool) (nowMs timeoutMs intervalMs : Nat)
    (cb : Option κ) : Priv κ × Option Nat :=
  if alloc then
    ({ r with nextId := r.nextId + 1 }.link
      { id := r.nextId
        expiresMs := nowMs + timeoutMs
        intervalMs := intervalMs
        callback := cb
        active := true
        pendingDelete := false
        stamp := 0 }, some r.nextId)
  else (r, none)

/-- Marks a node cancelled: `active = 0`, `pending_delete = 1`. -/
def Timer.cancelled (t : Timer κ) : Timer κ := { t with active := false, pendingDelete := true }

/-- The node that the handle `id` names in a list, if the handle has not been freed. -/
def findLive (l : List (Timer κ)) (id : Nat) : Option (Timer κ) :=
  l.find? (fun t => t.id == id && !t.pendingDelete)

/-- `reactor_cancel_timer` on a nonnull handle. A linked node is moved to `current_time_ms` and
freed by a later pass; the running node is only marked. -/
def reactorCancelTimer (r : Priv κ) (id : Nat) : Priv κ :=
  match findLive r.running.toList id with
  | some t => { r with running := some t.cancelled }
  | none =>
    match findLive r.timers id with
    -- `active` and `pending_delete` are read by the pass that finds it at its new deadline
    | some t =>
      { r with timers := timerListRemove r.timers id }.link
        { t.cancelled with expiresMs := r.currentTimeMs }
    | none => { r with staleCancels := r.staleCancels + 1 }

/-- The inner loop of the re-arm in `process_expired_timers`:
`while (expires_ms <= now) expires_ms += interval_ms`, with fuel for its iterations. -/
def advance (now interval : Nat) : Nat → Nat → Nat
  | 0, expires => expires
  | fuel + 1, expires =>
    if expires ≤ now then advance now interval fuel (expires + interval) else expires

/-- The deadline a periodic timer is re-armed to. -/
def rearm (now interval expires : Nat) : Nat :=
  -- each iteration adds at least one, so this many pass `now`
  advance now interval (now + 1) (expires + interval)

/-- `process_expired_timers` frees a node that was cancelled. -/
def Priv.freeTimer (r : Priv κ) (t : Timer κ) : Priv κ :=
  { r with timers := timerListRemove r.timers t.id }

/-- Whether `process_expired_timers` calls the node's callback. -/
def Timer.calls (t : Timer κ) : Bool := t.active && t.callback.isSome

/-- `process_expired_timers` unlinks a node and enters its callback. -/
def Priv.beginTimer (r : Priv κ) (t : Timer κ) : Priv κ :=
  { r with
    timers := timerListRemove r.timers t.id
    running := some t
    timersFired := if t.calls then r.timersFired + 1 else r.timersFired }

/-- Whether the node is put back after its callback. -/
def Timer.rearms (t : Timer κ) : Bool := t.active && !t.pendingDelete && decide (0 < t.intervalMs)

/-- `process_expired_timers` after the callback: re-arm a live periodic timer, free any other. -/
def Priv.endTimer (r : Priv κ) (now : Nat) : Priv κ :=
  match r.running with
  | none => r
  | some t =>
    if t.rearms then
      { r with running := none }.link { t with expiresMs := rearm now t.intervalMs t.expiresMs }
    else { r with running := none }

/-- The timers whose handle is live, as their holders see them. -/
def Priv.live (r : Priv κ) : List (PublicTimer κ) :=
  ((r.running.toList ++ r.timers).filter (fun t => !t.pendingDelete)).map Timer.toPublic

/-- A `uint64_t` deadline does not overflow below this bound. -/
def deadlineBound : Nat := 2 ^ 64

/-! ## The list -/

@[simp] lemma mem_timerListInsert {l : List (Timer κ)} {t x : Timer κ} :
    x ∈ timerListInsert l t ↔ x = t ∨ x ∈ l := by
  induction l with
  | nil => simp [timerListInsert]
  | cons cur rest ih =>
    rw [timerListInsert]
    split
    · simp only [List.mem_cons, ih]
      tauto
    · simp only [List.mem_cons]

@[simp] lemma mem_timerListRemove {l : List (Timer κ)} {id : Nat} {x : Timer κ} :
    x ∈ timerListRemove l id ↔ x ∈ l ∧ x.id ≠ id := by
  simp [timerListRemove]

/-- A live handle names a node that is there and was not cancelled. -/
lemma findLive_some {l : List (Timer κ)} {id : Nat} {t : Timer κ} (h : findLive l id = some t) :
    t ∈ l ∧ t.id = id ∧ t.pendingDelete = false := by
  have hp := List.find?_some h
  simp only [Bool.and_eq_true, beq_iff_eq, Bool.not_eq_true'] at hp
  exact ⟨List.mem_of_find?_eq_some h, hp.1, hp.2⟩

/-- A freed handle names no node that was not cancelled. -/
lemma findLive_none {l : List (Timer κ)} {id : Nat} (h : findLive l id = none) {t : Timer κ}
    (ht : t ∈ l) (hid : t.id = id) : t.pendingDelete = true := by
  have hp := List.find?_eq_none.mp h t ht
  simpa [hid] using hp

/-! ## Live handles -/

/-- A timer is live, if it is linked or runs, and is not pending deletion. -/
lemma mem_live {r : Priv κ} {x : PublicTimer κ} :
    x ∈ r.live ↔ ∃ t, (r.running = some t ∨ t ∈ r.timers) ∧ t.pendingDelete = false ∧
      t.toPublic = x := by
  simp only [Priv.live, List.mem_map, List.mem_filter, List.mem_append, Option.mem_toList,
    Bool.not_eq_true', and_assoc]

/-- Linking a node that is not cancelled makes its handle live. -/
lemma mem_live_link {r : Priv κ} {t : Timer κ} {x : PublicTimer κ}
    (ht : t.pendingDelete = false) : x ∈ (r.link t).live ↔ x = t.toPublic ∨ x ∈ r.live := by
  rw [mem_live, mem_live]
  constructor
  · rintro ⟨u, hu | hu, hp, rfl⟩
    · exact .inr ⟨u, .inl hu, hp, rfl⟩
    · rcases mem_timerListInsert.mp hu with rfl | hu
      · exact .inl rfl
      · exact .inr ⟨u, .inr hu, hp, rfl⟩
  · rintro (rfl | ⟨u, hu | hu, hp, rfl⟩)
    · exact ⟨{ t with stamp := r.stamps }, .inr (mem_timerListInsert.mpr (.inl rfl)), ht, rfl⟩
    · exact ⟨u, .inl hu, hp, rfl⟩
    · exact ⟨u, .inr (mem_timerListInsert.mpr (.inr hu)), hp, rfl⟩

/-- Linking a cancelled node makes no handle live. -/
lemma mem_live_link_cancelled {r : Priv κ} {t : Timer κ} {x : PublicTimer κ}
    (ht : t.pendingDelete = true) : x ∈ (r.link t).live ↔ x ∈ r.live := by
  rw [mem_live, mem_live]
  constructor
  · rintro ⟨u, hu | hu, hp, rfl⟩
    · exact ⟨u, .inl hu, hp, rfl⟩
    · rcases mem_timerListInsert.mp hu with rfl | hu
      · exact absurd (ht.symm.trans hp) (by decide)
      · exact ⟨u, .inr hu, hp, rfl⟩
  · rintro ⟨u, hu | hu, hp, rfl⟩
    · exact ⟨u, .inl hu, hp, rfl⟩
    · exact ⟨u, .inr (mem_timerListInsert.mpr (.inr hu)), hp, rfl⟩

/-- A new timer is live, and the others stay as they are. -/
lemma mem_live_reactorAddTimer {r : Priv κ} {now timeout interval : Nat} {cb : Option κ}
    {x : PublicTimer κ} : x ∈ (reactorAddTimer r true now timeout interval cb).1.live ↔
      x = ⟨r.nextId, interval, cb⟩ ∨ x ∈ r.live := by
  simp only [reactorAddTimer, ↓reduceIte]
  exact mem_live_link rfl

@[simp] lemma reactorAddTimer_false {r : Priv κ} {now timeout interval : Nat} {cb : Option κ} :
    reactorAddTimer r false now timeout interval cb = (r, none) := by
  simp [reactorAddTimer]

@[simp] lemma reactorAddTimer_handle {r : Priv κ} {now timeout interval : Nat} {cb : Option κ} :
    (reactorAddTimer r true now timeout interval cb).2 = some r.nextId := by
  simp [reactorAddTimer]

/-! ## Well-formed timer state -/

/-- Every node has an id of its own, below the next one to be handed out. -/
structure Priv.Wf (r : Priv κ) : Prop where
  nodup : r.timers.Pairwise (fun a b => a.id ≠ b.id)
  fresh : ∀ t ∈ r.timers, t.id < r.nextId
  runningFresh : ∀ t, r.running = some t → t.id < r.nextId
  unlinked : ∀ t, r.running = some t → ∀ u ∈ r.timers, u.id ≠ t.id

/-- Linked nodes with one id are one node. -/
lemma Priv.Wf.eq_of_id {r : Priv κ} {t u : Timer κ} (wf : r.Wf) (ht : t ∈ r.timers)
    (hu : u ∈ r.timers) (hid : t.id = u.id) : t = u := by
  have : Std.Symm (fun a b : Timer κ => a.id ≠ b.id) := ⟨fun _ _ h => h.symm⟩
  by_contra hne
  exact wf.nodup.forall ht hu hne hid

/-- A new timer is in the list once. -/
lemma timerListInsert_nodup {l : List (Timer κ)} {t : Timer κ}
    (nd : l.Pairwise (fun a b => a.id ≠ b.id)) (new : ∀ u ∈ l, u.id ≠ t.id) :
    (timerListInsert l t).Pairwise (fun a b => a.id ≠ b.id) := by
  induction l with
  | nil => simp [timerListInsert]
  | cons cur rest ih =>
    obtain ⟨hc, hr⟩ := List.pairwise_cons.mp nd
    rw [timerListInsert]
    split
    · refine List.pairwise_cons.mpr ⟨fun u hu => ?_, ih hr fun u hu => new u (by simp [hu])⟩
      rcases mem_timerListInsert.mp hu with rfl | hu
      · exact new cur (by simp)
      · exact hc u hu
    · exact List.pairwise_cons.mpr ⟨fun u hu => (new u hu).symm, nd⟩

/-- A new reactor is well formed. -/
lemma reactorCreate_wf {now : Nat} : (reactorCreate now : Priv κ).Wf := by
  constructor <;> simp [reactorCreate]

/-- Linking a node whose id is in no list and not running keeps the state well formed. -/
lemma Priv.Wf.link {r : Priv κ} {t : Timer κ} (wf : r.Wf) (lt : t.id < r.nextId)
    (new : ∀ u ∈ r.timers, u.id ≠ t.id) (run : ∀ u, r.running = some u → t.id ≠ u.id) :
    (r.link t).Wf where
  nodup := timerListInsert_nodup wf.nodup new
  fresh u hu := by
    rcases mem_timerListInsert.mp hu with rfl | hu
    · exact lt
    · exact wf.fresh u hu
  runningFresh := wf.runningFresh
  unlinked u hr v hv := by
    rcases mem_timerListInsert.mp hv with rfl | hv
    · exact run u hr
    · exact wf.unlinked u hr v hv

/-- With one timer more it is well formed. -/
lemma Priv.Wf.add {r : Priv κ} {alloc : Bool} {now timeout interval : Nat} {cb : Option κ}
    (wf : r.Wf) : (reactorAddTimer r alloc now timeout interval cb).1.Wf := by
  cases alloc with
  | false => simpa using wf
  | true =>
    simp only [reactorAddTimer, ↓reduceIte]
    apply Priv.Wf.link
    · exact ⟨wf.nodup, fun t ht => Nat.lt_succ_of_lt (wf.fresh t ht),
        fun t ht => Nat.lt_succ_of_lt (wf.runningFresh t ht), wf.unlinked⟩
    · exact Nat.lt_succ_self _
    · exact fun u hu => Nat.ne_of_lt (wf.fresh u hu)
    · exact fun u hu => (Nat.ne_of_lt (wf.runningFresh u hu)).symm

/-- And with one less. -/
lemma Priv.Wf.remove {r : Priv κ} {id : Nat} (wf : r.Wf) :
    { r with timers := timerListRemove r.timers id : Priv κ }.Wf where
  nodup := wf.nodup.filter _
  fresh t ht := wf.fresh t (mem_timerListRemove.mp ht).1
  runningFresh := wf.runningFresh
  unlinked t hr u hu := wf.unlinked t hr u (mem_timerListRemove.mp hu).1

/-- Cancelling keeps it so. -/
lemma Priv.Wf.cancel {r : Priv κ} {id : Nat} (wf : r.Wf) : (reactorCancelTimer r id).Wf := by
  rw [reactorCancelTimer]
  cases hrun : findLive r.running.toList id with
  | some t =>
    obtain ⟨ht, -, -⟩ := findLive_some hrun
    have ht : r.running = some t := by simpa using ht
    exact ⟨wf.nodup, wf.fresh, fun u hu => by cases hu; exact wf.runningFresh t ht,
      fun u hu => by cases hu; exact wf.unlinked t ht⟩
  | none =>
    cases hl : findLive r.timers id with
    | some t =>
      obtain ⟨ht, hid, -⟩ := findLive_some hl
      -- the node leaves the list and comes back with the id it had
      apply wf.remove.link
      · exact wf.fresh t ht
      · exact fun u hu => hid ▸ (mem_timerListRemove.mp hu).2
      · exact fun u hu => wf.unlinked u hu t ht
    | none => exact ⟨wf.nodup, wf.fresh, wf.runningFresh, wf.unlinked⟩

/-- A timer that runs is off the list. -/
lemma Priv.Wf.begin {r : Priv κ} {t : Timer κ} (wf : r.Wf) (ht : t ∈ r.timers) :
    (r.beginTimer t).Wf where
  nodup := wf.nodup.filter _
  fresh u hu := wf.fresh u (mem_timerListRemove.mp hu).1
  runningFresh u hu := by
    cases hu
    exact wf.fresh t ht
  unlinked u hu v hv := by
    cases hu
    exact (mem_timerListRemove.mp hv).2

/-- And is put back, or freed. -/
lemma Priv.Wf.endTimer {r : Priv κ} {now : Nat} (wf : r.Wf) : (r.endTimer now).Wf := by
  rw [Priv.endTimer]
  cases hrun : r.running with
  | none => exact wf
  | some t =>
    have idle : { r with running := none : Priv κ }.Wf :=
      ⟨wf.nodup, wf.fresh, by simp, by simp⟩
    dsimp only
    split
    · exact idle.link (wf.runningFresh t hrun) (wf.unlinked t hrun) (by simp)
    · exact idle

/-! ## Live handles under the operations -/

/-- A cancelled handle is not live any more, and no other handle changes. -/
lemma mem_live_reactorCancelTimer {r : Priv κ} {id : Nat} {x : PublicTimer κ} (wf : r.Wf) :
    x ∈ (reactorCancelTimer r id).live ↔ x ∈ r.live ∧ x.id ≠ id := by
  rw [reactorCancelTimer]
  cases hrun : findLive r.running.toList id with
  | some t =>
    obtain ⟨ht, hid, -⟩ := findLive_some hrun
    have ht : r.running = some t := by simpa using ht
    rw [mem_live, mem_live]
    constructor
    · rintro ⟨u, hu | hu, hp, rfl⟩
      · cases hu
        exact absurd hp (by simp [Timer.cancelled])
      · exact ⟨⟨u, .inr hu, hp, rfl⟩, hid ▸ wf.unlinked t ht u hu⟩
    · rintro ⟨⟨u, hu | hu, hp, rfl⟩, hne⟩
      · cases ht.symm.trans hu
        exact absurd hid hne
      · exact ⟨u, .inr hu, hp, rfl⟩
  | none =>
    cases hl : findLive r.timers id with
    | some t =>
      dsimp only
      rw [mem_live_link_cancelled (by rfl), mem_live, mem_live]
      constructor
      · rintro ⟨u, hu | hu, hp, rfl⟩
        · refine ⟨⟨u, .inl hu, hp, rfl⟩, fun hid => ?_⟩
          exact absurd (findLive_none hrun (by simpa using hu) hid) (by simp [hp])
        · obtain ⟨hu, hne⟩ := mem_timerListRemove.mp hu
          exact ⟨⟨u, .inr hu, hp, rfl⟩, hne⟩
      · rintro ⟨⟨u, hu | hu, hp, rfl⟩, hne⟩
        · exact ⟨u, .inl hu, hp, rfl⟩
        · exact ⟨u, .inr (mem_timerListRemove.mpr ⟨hu, hne⟩), hp, rfl⟩
    | none =>
      rw [mem_live, mem_live]
      constructor
      · -- the handle is stale: a live node with this id would have been found
        rintro ⟨u, hu, hp, rfl⟩
        refine ⟨⟨u, hu, hp, rfl⟩, fun hid => ?_⟩
        rcases hu with hu | hu
        · exact absurd (findLive_none hrun (by simpa using hu) hid) (by simp [hp])
        · exact absurd (findLive_none hl hu hid) (by simp [hp])
      · rintro ⟨h, -⟩
        exact h

/-- Entering the callback of a live timer leaves the live handles as they are. -/
lemma mem_live_beginTimer {r : Priv κ} {t : Timer κ} {x : PublicTimer κ} (wf : r.Wf)
    (ht : t ∈ r.timers) (idle : r.running = none) :
    x ∈ (r.beginTimer t).live ↔ x ∈ r.live := by
  rw [mem_live, mem_live]
  constructor
  · rintro ⟨u, hu | hu, hp, rfl⟩
    · cases hu
      exact ⟨t, .inr ht, hp, rfl⟩
    · exact ⟨u, .inr (mem_timerListRemove.mp hu).1, hp, rfl⟩
  · rintro ⟨u, hu | hu, hp, rfl⟩
    · exact absurd (idle.symm.trans hu) (by simp)
    · -- only the node itself leaves the list, and it is running then
      by_cases hid : u.id = t.id
      · cases wf.eq_of_id hu ht hid
        exact ⟨t, .inl rfl, hp, rfl⟩
      · exact ⟨u, .inr (mem_timerListRemove.mpr ⟨hu, hid⟩), hp, rfl⟩

/-- After a callback the handle of its timer stays live exactly when the timer is put back. -/
lemma mem_live_endTimer {r : Priv κ} {t : Timer κ} {now : Nat} {x : PublicTimer κ}
    (hrun : r.running = some t) : x ∈ (r.endTimer now).live ↔
      (t.rearms = true ∧ x = t.toPublic) ∨
      ∃ u ∈ r.timers, u.pendingDelete = false ∧ u.toPublic = x := by
  have hidle : x ∈ ({ r with running := none } : Priv κ).live ↔
      ∃ u ∈ r.timers, u.pendingDelete = false ∧ u.toPublic = x := by
    simp [mem_live]
  rw [Priv.endTimer, hrun]
  dsimp only
  split
  · rename_i hre
    have hp : t.pendingDelete = false := by
      simp only [Timer.rearms, Bool.and_eq_true, Bool.not_eq_true'] at hre
      exact hre.1.2
    rw [mem_live_link (by exact hp), hidle]
    simp [hre, Timer.toPublic]
  · rename_i hre
    rw [hidle]
    simp [hre]

end Atpd.Reactor
