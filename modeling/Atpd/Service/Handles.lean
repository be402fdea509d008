import Atpd.Service.Timers

/-!
# Handles and teardown

Two results on the timers of the supervisor, both over every run.

The handles: `Listed` says of every run that a live timer is one that no handle is kept for, or
is the one that the handle of its slot names. `Holding` adds that every handle names a live timer, so
that no freed handle is ever cancelled. The reactor frees a timer that fires once right after its
callback; the retry callback clears its handle first, except when the service is STOPPED.
`RetryUp` is the condition that this is not the case, and it is exact.

The teardown: `service_stop_sync` cancels the three handles. What was live besides them stays live
after the context is gone, and by `Listed` these are exactly the timers that are not kept.
-/

namespace Atpd.Service

open Atpd.Config Atpd.Reactor Atpd.Lib

variable {w w' : World} {os : Os} {out : Bool}

/-- A timer that the supervisor keeps no handle for. -/
def PublicTimer.unkept (x : PublicTimer Callback) : Bool :=
  x.intervalMs == 0 && x.callback.any Callback.unkept

/-- Every live timer is not kept, or named by the handle of its slot. -/
structure Listed (out : Bool) (w : World) : Prop where
  sound : w.priv.Sound out
  named : ∀ s id, w.ctx.handle s = some id → id < w.priv.nextId ∧
    ∀ x ∈ w.priv.live, x.id = id → x.callback = some s.callback ∧ s.Shape x.intervalMs
  kept : ∀ x ∈ w.priv.live, PublicTimer.unkept x = true ∨
    w.ctx.reactor = true ∧ ∃ s, w.ctx.handle s = some x.id

/-- Every handle names a live timer, and none is kept without a reactor. -/
structure Holding (out : Bool) (w : World) : Prop extends Listed out w where
  live : ∀ s id, w.ctx.handle s = some id → ∃ x ∈ w.priv.live, x.id = id
  attached : w.ctx.reactor = false → ∀ s, w.ctx.handle s = none
  fresh : w.priv.staleCancels = 0

/-- The timer whose callback is running is not a retry that could still be cancelled. -/
def Over (w : World) : Prop :=
  ∀ u, w.priv.running = some u → u.pendingDelete = false → u.callback ≠ some .delayedSpawn

/-! ## The reactor -/

variable {κ : Type*} {r : Priv κ}

/-- The callback tells the slot. -/
lemma Slot.callback_inj {s t : Slot} (h : s.callback = t.callback) : s = t := by
  cases s <;> cases t <;> first | rfl | simp [Slot.callback] at h

/-- The timer that is running is cancelled, or stays what it is. -/
lemma running_cancel {id : Nat} {u : Timer κ} (hu : (reactorCancelTimer r id).running = some u) :
    u.pendingDelete = true ∨ r.running = some u := by
  rw [reactorCancelTimer] at hu
  cases hrun : findLive r.running.toList id with
  | some t =>
    rw [hrun] at hu
    cases hu
    exact .inl rfl
  | none =>
    rw [hrun] at hu
    cases hl : findLive r.timers id with
    | some t => rw [hl] at hu; exact .inr hu
    | none => rw [hl] at hu; exact .inr hu

/-- Cancelling the running timer marks it. -/
lemma running_cancel_self {t u : Timer κ} (hrun : r.running = some t) (mark : t.pendingDelete = false)
    (hu : (reactorCancelTimer r t.id).running = some u) : u.pendingDelete = true := by
  have found : findLive r.running.toList t.id = some t := by
    simp [hrun, findLive, mark]
  rw [reactorCancelTimer, found] at hu
  cases hu
  rfl

/-- From `r` to `r'` the timer `x` was added. -/
structure Added (r r' : Priv κ) (x : PublicTimer κ) : Prop where
  live : ∀ y, y ∈ r'.live ↔ y = x ∨ y ∈ r.live
  id : x.id = r.nextId
  nextId : r'.nextId = r.nextId + 1
  running : r'.running = r.running
  stale : r'.staleCancels = r.staleCancels
  sound : ∀ out, r.Sound out → r'.Sound out

/-- `reactor_add_timer` fails and changes nothing, or adds a timer with a new handle. -/
lemma addTimer_cases (w : World) (os : Os) (timeout interval : Nat) (cb : Callback) :
    w.addTimer os timeout interval cb = (w, none) ∨
      ∃ priv, w.addTimer os timeout interval cb = ({ w with priv := priv }, some w.priv.nextId) ∧
        Added w.priv priv ⟨w.priv.nextId, interval, some cb⟩ := by
  cases alloc : os.timerAlloc with
  | false => exact .inl (by simp [World.addTimer, alloc])
  | true =>
    refine .inr ⟨(reactorAddTimer w.priv true os.timerMs timeout interval (some cb)).1, ?_, ?_⟩
    · simp [World.addTimer, alloc]
    · exact ⟨fun y => mem_live_reactorAddTimer, rfl, rfl, rfl, rfl, fun out so => so.add⟩

/-! ## Moves -/

/-- Cancelling takes out the timer of the handle, and no other. -/
lemma mem_live_cancelCtxTimer {h : Option Nat} {x : PublicTimer Callback} (wf : w.priv.Wf) :
    x ∈ (w.cancelCtxTimer h).priv.live ↔
      x ∈ w.priv.live ∧ (w.ctx.reactor = true → h ≠ some x.id) := by
  cases h with
  | none => simp [World.cancelCtxTimer]
  | some id =>
    simp only [World.cancelCtxTimer]
    split
    · rename_i attached
      rw [mem_live_reactorCancelTimer wf]
      simp [attached, eq_comm]
    · rename_i detached
      simp [detached]

/-- No timer is made. -/
lemma cancelCtxTimer_nextId {h : Option Nat} :
    (w.cancelCtxTimer h).priv.nextId = w.priv.nextId := by
  cases h with
  | none => rfl
  | some id =>
    simp only [World.cancelCtxTimer]
    split
    · exact reactorCancelTimer_nextId
    · rfl

/-- The reactor stays sound. -/
lemma cancelCtxTimer_sound {h : Option Nat} (so : w.priv.Sound out) :
    (w.cancelCtxTimer h).priv.Sound out := by
  cases h with
  | none => exact so
  | some id =>
    simp only [World.cancelCtxTimer]
    split
    · exact so.cancel
    · exact so

namespace Listed

/-- Only timers, handles and the reactor matter. -/
lemma same (ac : Listed out w) (priv : w'.priv = w.priv) (reactor : w'.ctx.reactor = w.ctx.reactor)
    (handles : ∀ s, w'.ctx.handle s = w.ctx.handle s) : Listed out w' := by
  refine ⟨priv ▸ ac.sound, fun s id hid => ?_, fun x hx => ?_⟩
  · rw [priv]
    exact ac.named s id (handles s ▸ hid)
  · simp only [handles, reactor]
    exact ac.kept x (priv ▸ hx)

/-- A slot that is cancelled has neither handle nor timer. -/
lemma cancel (ac : Listed out w) (s : Slot) : Listed out (w.cancelSlot s) := by
  have live : ∀ x, x ∈ (w.cancelSlot s).priv.live ↔
      x ∈ w.priv.live ∧ (w.ctx.reactor = true → w.ctx.handle s ≠ some x.id) := by
    intro x
    rw [World.cancelSlot, setHandle_priv]
    exact mem_live_cancelCtxTimer ac.sound.wf
  refine ⟨?_, fun t id hid => ?_, fun x hx => ?_⟩
  · rw [World.cancelSlot, setHandle_priv]
    exact cancelCtxTimer_sound ac.sound
  · rw [handle_cancelSlot] at hid
    split at hid
    · cases hid
    · obtain ⟨lt, own⟩ := ac.named t id hid
      refine ⟨?_, fun x hx => own x ((live x).mp hx).1⟩
      rw [World.cancelSlot, setHandle_priv, cancelCtxTimer_nextId]
      exact lt
  · obtain ⟨hx, ne⟩ := (live x).mp hx
    refine (ac.kept x hx).imp_right ?_
    rintro ⟨attached, t, ht⟩
    -- the handle that names `x` is not the one that was cancelled
    have other : t ≠ s := by
      rintro rfl
      exact ne attached ht
    refine ⟨?_, t, ?_⟩
    · simpa [World.cancelSlot] using attached
    · rw [handle_cancelSlot, if_neg other]
      exact ht

/-- A timer is added, and its handle kept in an empty slot. -/
lemma fill {priv : Priv Callback} {interval : Nat} {s : Slot} (ac : Listed out w)
    (added : Added w.priv priv ⟨w.priv.nextId, interval, some s.callback⟩) (shape : s.Shape interval)
    (attached : w.ctx.reactor = true) (unset : w.ctx.handle s = none) :
    Listed out ({ w with priv := priv }.setHandle s (some w.priv.nextId)) := by
  refine ⟨?_, fun t id hid => ?_, fun x hx => ?_⟩
  · rw [setHandle_priv]
    exact added.sound out ac.sound
  · rw [setHandle_priv]
    rw [handle_setHandle] at hid
    split at hid
    · rename_i same
      cases hid
      subst same
      refine ⟨added.nextId ▸ Nat.lt_succ_self _, fun x hx hxid => ?_⟩
      rcases (added.live x).mp hx with rfl | hx
      · exact ⟨rfl, shape⟩
      · obtain ⟨u, hu, -, rfl⟩ := mem_live.mp hx
        -- an old timer cannot have the new id
        rcases hu with hu | hu
        · exact absurd hxid (Nat.ne_of_lt (ac.sound.wf.runningFresh u hu))
        · exact absurd hxid (Nat.ne_of_lt (ac.sound.wf.fresh u hu))
    · obtain ⟨lt, own⟩ := ac.named t id hid
      refine ⟨added.nextId ▸ Nat.lt_succ_of_lt lt, fun x hx hxid => ?_⟩
      rcases (added.live x).mp hx with rfl | hx
      · exact absurd hxid (Nat.ne_of_gt lt)
      · exact own x hx hxid
  · rw [setHandle_priv] at hx
    simp only [setHandle_reactor, handle_setHandle]
    rcases (added.live x).mp hx with rfl | hx
    · exact .inr ⟨attached, s, if_pos rfl⟩
    · refine (ac.kept x hx).imp_right fun ⟨attached, t, ht⟩ => ⟨attached, t, ?_⟩
      rw [if_neg (by rintro rfl; simp [unset] at ht)]
      exact ht

/-- A free slot can be filled. -/
lemma schedule {interval : Nat} {s : Slot} (ac : Listed out w) (os : Os) (timeout : Nat)
    (shape : s.Shape interval) (unset : w.ctx.handle s = none) :
    Listed out ((w.addCtxTimer os timeout interval s.callback).1.setHandle s
      (w.addCtxTimer os timeout interval s.callback).2) := by
  have kept : Listed out (w.setHandle s none) :=
    ac.same setHandle_priv setHandle_reactor fun t => by
      rw [handle_setHandle]
      split
      · rename_i same
        rw [same, unset]
      · rfl
  rw [World.addCtxTimer]
  split
  · rename_i attached
    rcases addTimer_cases w os timeout interval s.callback with h | ⟨priv, h, added⟩
    · rw [h]
      exact kept
    · rw [h]
      exact ac.fill added shape attached unset
  · exact kept

/-- A timer that no handle is kept for is added. -/
lemma unkept {cb : Callback} (ac : Listed out w) (os : Os) (timeout : Nat)
    (kind : cb.unkept = true) : Listed out (w.addTimer os timeout 0 cb).1 := by
  rcases addTimer_cases w os timeout 0 cb with h | ⟨priv, h, added⟩
  · rw [h]
    exact ac
  · rw [h]
    refine ⟨added.sound out ac.sound, fun s id hid => ?_, fun x hx => ?_⟩
    · obtain ⟨lt, own⟩ := ac.named s id hid
      refine ⟨added.nextId ▸ Nat.lt_succ_of_lt lt, fun x hx hxid => ?_⟩
      rcases (added.live x).mp hx with rfl | hx
      · exact absurd hxid (Nat.ne_of_gt lt)
      · exact own x hx hxid
    · rcases (added.live x).mp hx with rfl | hx
      · exact .inl (by simpa [PublicTimer.unkept] using kind)
      · exact ac.kept x hx

/-- The health timer is replaced: the new one is added before the old one is cancelled. -/
lemma replace {interval : Nat} {priv : Priv Callback} (ac : Listed out w) (pos : 0 < interval)
    (attached : w.ctx.reactor = true)
    (added : Added w.priv priv ⟨w.priv.nextId, interval, some .healthCheck⟩) :
    Listed out (({ w with priv := priv }.cancelCtxTimer w.ctx.healthTimer).setHandle .health
      (some w.priv.nextId)) := by
  have shape : Slot.Shape .health interval := by simp [Slot.Shape, Nat.ne_of_gt pos]
  have wf : priv.Wf := (added.sound out ac.sound).wf
  refine ⟨?_, fun t id hid => ?_, fun x hx => ?_⟩
  · rw [setHandle_priv]
    exact cancelCtxTimer_sound (added.sound out ac.sound)
  · rw [setHandle_priv, cancelCtxTimer_nextId]
    rw [handle_setHandle, cancelCtxTimer_ctx] at hid
    have old : ∀ x ∈ w.priv.live, x.id ≠ w.priv.nextId := by
      intro x hx
      obtain ⟨u, hu, -, rfl⟩ := mem_live.mp hx
      rcases hu with hu | hu
      · exact Nat.ne_of_lt (ac.sound.wf.runningFresh u hu)
      · exact Nat.ne_of_lt (ac.sound.wf.fresh u hu)
    split at hid
    · rename_i same
      cases hid
      subst same
      refine ⟨added.nextId ▸ Nat.lt_succ_self _, fun x hx hxid => ?_⟩
      obtain ⟨hx, -⟩ := (mem_live_cancelCtxTimer wf).mp hx
      rcases (added.live x).mp hx with rfl | hx
      · exact ⟨rfl, shape⟩
      · exact absurd hxid (old x hx)
    · obtain ⟨lt, own⟩ := ac.named t id hid
      refine ⟨added.nextId ▸ Nat.lt_succ_of_lt lt, fun x hx hxid => ?_⟩
      obtain ⟨hx, -⟩ := (mem_live_cancelCtxTimer wf).mp hx
      rcases (added.live x).mp hx with rfl | hx
      · exact absurd hxid (Nat.ne_of_gt lt)
      · exact own x hx hxid
  · rw [setHandle_priv] at hx
    obtain ⟨hx, ne⟩ := (mem_live_cancelCtxTimer wf).mp hx
    simp only [setHandle_reactor, handle_setHandle, cancelCtxTimer_ctx]
    rcases (added.live x).mp hx with rfl | hx
    · exact .inr ⟨attached, .health, if_pos rfl⟩
    · refine (ac.kept x hx).imp_right ?_
      rintro ⟨attached, t, ht⟩
      refine ⟨attached, t, ?_⟩
      rw [if_neg]
      · exact ht
      · rintro rfl
        exact ne attached ht

/-- The timers stay listed, whatever the supervisor does. -/
lemma moved (ac : Listed out w) (mv : Moved w w') : Listed out w' := by
  induction mv with
  | same priv reactor handles => exact ac.same priv reactor handles
  | cancel s => exact ac.cancel s
  | schedule s os timeout interval shape unset => exact ac.schedule os timeout shape unset
  | @replace w os interval pos attached alloc =>
    rcases addTimer_cases w os interval interval .healthCheck with h | ⟨priv, h, added⟩
    · simp [World.addTimer, alloc] at h
    · rw [h]
      exact ac.replace pos attached added
  | unkept os timeout kind => exact ac.unkept os timeout kind
  | attach =>
    refine ⟨ac.sound, fun s id hid => ac.named s id (handle_setReactor ▸ hid), fun x hx => ?_⟩
    refine (ac.kept x hx).imp_right ?_
    rintro ⟨-, s, hs⟩
    exact ⟨rfl, s, handle_setReactor ▸ hs⟩
  | release unset =>
    refine ⟨ac.sound, fun s id hid => ac.named s id (handle_setReactor ▸ hid), fun x hx => ?_⟩
    refine (ac.kept x hx).imp_right ?_
    rintro ⟨-, s, hs⟩
    rw [unset s] at hs
    cases hs
  | trans _ _ ih1 ih2 => exact ih2 (ih1 ac)

/-- Fewer live timers, and no new handle. -/
lemma mono {r : Priv Callback} {out' : Bool} (ac : Listed out w) (so : r.Sound out')
    (nextId : r.nextId = w.priv.nextId) (sub : ∀ x ∈ r.live, x ∈ w.priv.live) :
    Listed out' { w with priv := r } := by
  refine ⟨so, fun s id hid => ?_, fun x hx => ac.kept x (sub x hx)⟩
  obtain ⟨lt, own⟩ := ac.named s id hid
  exact ⟨nextId ▸ lt, fun x hx => own x (sub x hx)⟩

end Listed

/-! ## Events -/

/-- A callback is a chain of moves. -/
lemma Moved.dispatch (w : World) (os : Os) (cb : Callback) : Moved w (dispatch w os cb) := by
  cases cb with
  | monitor => exact .monitor w os
  | delayedSpawn =>
    by_cases up : w.ctx.state = .stopped
    · rw [Service.dispatch, serviceDelayedSpawnCb, if_pos up]
      exact .refl
    · exact Moved.cancelRetry.trans (.delayedSpawn os up)
  | healthCheck => exact .aside (.health w os)
  | stopWait s => exact .stopWait w s os

/-- A callback is a sequence of moves. -/
lemma Moved.runTimer (w : World) (t : Timer Callback) (os : Os) : Moved w (w.runTimer t os) := by
  rw [World.runTimer]
  split
  · split
    · exact .dispatch w os _
    · exact .refl
  · exact .refl

/-- An event other than a timer is a chain of moves. -/
lemma Moved.step {e : Event} (other : ∀ id nowMs os, e ≠ .timer id nowMs os)
    (st : Service.step w e = some w') : Moved w w' := by
  cases e with
  | setReactor os => cases st; exact .setReactor w os
  | start os => cases st; exact .start w os
  | monitor os => cases st; exact .monitor w os
  | timer id nowMs os => exact absurd rfl (other id nowMs os)
  | sigchld os => cases st; exact .sigchld w os
  | health os => cases st; exact .aside (.health w os)
  | exit pid => cases st; exact .aside .exit
  | stopAsync d os => cases st; exact .stopAsync w d os
  | stopSync os => cases st; exact .stopSync w os
  | applyConfig cfg os => cases st; exact .applyConfig w cfg os

/-- The timer that begins to run is off the list. -/
lemma Listed.beginTimer {t : Timer Callback} (ac : Listed true w) (ht : t ∈ w.priv.timers)
    (nowMs : Nat) : Listed false (w.beginTimer t nowMs) :=
  ac.mono ((ac.sound.tick nowMs).begin ht) rfl fun _ hx => live_of_beginTimer ht hx

/-- Behind its callback it is back, or freed. -/
lemma Listed.fire {t : Timer Callback} (ac : Listed true w) (ht : t ∈ w.priv.timers)
    (nowMs : Nat) (os : Os) : Listed true (w.fire t nowMs os) := by
  rw [World.fire]
  split
  · exact ac.mono (ac.sound.tick nowMs).free rfl fun _ hx => live_of_freeTimer hx
  · have ran := (ac.beginTimer ht nowMs).moved (.runTimer _ t os)
    exact ran.mono ran.sound.endTimer endTimer_nextId fun _ hx => live_of_endTimer hx

/-- By cases on the event. -/
lemma Listed.step {e : Event} (ac : Listed true w) (st : Service.step w e = some w') :
    Listed true w' := by
  by_cases timer : ∃ id nowMs os, e = .timer id nowMs os
  · obtain ⟨id, nowMs, os, rfl⟩ := timer
    obtain ⟨t, due, rfl⟩ := Option.map_eq_some_iff.mp st
    exact ac.fire (World.due_mem due) nowMs os
  · exact ac.moved (.step (fun id nowMs os h => timer ⟨id, nowMs, os, h⟩) st)

/-- Before the first event there are no timers. -/
lemma World.init_listed {cfg : AtpConfig} {alloc : Bool} {ctx : ServiceCtx}
    (init : serviceInit cfg alloc = some ctx) (pidFile : Option Int) (nowMs : Nat) :
    Listed true (World.init ctx pidFile nowMs) := by
  obtain ⟨baseDir, binPath, confPath, logPath, pidPath, rfl⟩ := serviceInit_eq init
  refine ⟨.create, fun s id hid => ?_, fun x hx => ?_⟩
  · cases s <;> cases hid
  · simp [World.init, reactorCreate, Priv.live] at hx

/-! ## Teardown -/

/-- No handle names a timer that is not kept. -/
lemma Listed.not_named {x : PublicTimer Callback} (ac : Listed out w) (hx : x ∈ w.priv.live)
    (unkept : PublicTimer.unkept x = true) (s : Slot) : w.ctx.handle s ≠ some x.id := by
  intro hs
  obtain ⟨callback, shape⟩ := (ac.named s x.id hs).2 x hx rfl
  simp only [PublicTimer.unkept, callback, Option.any_some, Bool.and_eq_true, beq_iff_eq] at unkept
  -- a timer that fires once and has a handle is the retry
  rw [shape.mp unkept.1] at unkept
  exact absurd unkept.2 (by decide)

/-- Detaching the context leaves live what no handle was kept for. -/
lemma Listed.mem_live_detach {x : PublicTimer Callback} (ac : Listed out w) :
    x ∈ w.detach.priv.live ↔ x ∈ w.priv.live ∧ PublicTimer.unkept x = true := by
  have live : ∀ {w : World} (s : Slot), Listed out w → (x ∈ (w.cancelSlot s).priv.live ↔
      x ∈ w.priv.live ∧ (w.ctx.reactor = true → w.ctx.handle s ≠ some x.id)) := by
    intro w s ac
    rw [World.cancelSlot, setHandle_priv]
    exact mem_live_cancelCtxTimer ac.sound.wf
  rw [World.detach]
  split
  · rename_i attached
    show x ∈ (((w.cancelSlot .monitor).cancelSlot .retry).cancelSlot .health).priv.live ↔ _
    rw [live _ ((ac.cancel _).cancel _), live _ (ac.cancel _), live _ ac]
    simp only [handle_cancelSlot]
    constructor
    · rintro ⟨⟨⟨hx, monitor⟩, retry⟩, health⟩
      refine ⟨hx, (ac.kept x hx).resolve_right ?_⟩
      rintro ⟨-, s, hs⟩
      cases s with
      | monitor => exact monitor attached hs
      | retry => exact retry (by simpa [World.cancelSlot] using attached) hs
      | health => exact health (by simpa [World.cancelSlot] using attached) hs
    · rintro ⟨hx, unkept⟩
      have free := ac.not_named hx unkept
      exact ⟨⟨⟨hx, fun _ => free .monitor⟩, fun _ => free .retry⟩, fun _ => free .health⟩
  · rename_i detached
    refine ⟨fun hx => ⟨hx, (ac.kept x hx).resolve_right ?_⟩, fun h => h.1⟩
    exact fun kept => detached kept.1

/-- `service_stop_sync` leaves live what no handle was kept for. -/
lemma Listed.mem_live_stopSync {x : PublicTimer Callback} (ac : Listed out w) (os : Os) :
    x ∈ (serviceStopSync w os).1.priv.live ↔ x ∈ w.priv.live ∧ PublicTimer.unkept x = true := by
  have stopping : Listed out (w.setState .stopping) := ac.moved (.setState _)
  rw [stopSync_priv, stopping.mem_live_detach]
  rfl

/-! ## Live handles -/

/-- No move brings back a retry that is over. -/
lemma Over.moved (ov : Over w) (mv : Moved w w') : Over w' := by
  have cancelled : ∀ {w : World} (h : Option Nat), Over w → Over (w.cancelCtxTimer h) := by
    intro w h ov u hu mark
    cases h with
    | none => exact ov u hu mark
    | some id =>
      simp only [World.cancelCtxTimer] at hu
      split at hu
      · rcases running_cancel hu with marked | hu
        · simp [marked] at mark
        · exact ov u hu mark
      · exact ov u hu mark
  have added : ∀ {w : World} (os : Os) (timeout interval : Nat) (cb : Callback), Over w →
      Over (w.addTimer os timeout interval cb).1 := by
    intro w os timeout interval cb ov
    rcases addTimer_cases w os timeout interval cb with h | ⟨priv, h, added⟩
    · rw [h]
      exact ov
    · rw [h]
      intro u hu
      exact ov u (added.running ▸ hu)
  induction mv with
  | same priv => rw [Over, priv]; exact ov
  | cancel s =>
    rw [Over, World.cancelSlot, setHandle_priv]
    exact cancelled _ ov
  | schedule s os timeout interval =>
    rw [Over, setHandle_priv, World.addCtxTimer]
    split
    · exact added os timeout interval _ ov
    · exact ov
  | replace os interval => exact cancelled _ (added os interval interval _ ov)
  | unkept os timeout => exact added os timeout 0 _ ov
  | attach => exact ov
  | release => exact ov
  | trans _ _ ih1 ih2 => exact ih2 (ih1 ov)

namespace Holding

lemma same (ho : Holding out w) (priv : w'.priv = w.priv) (reactor : w'.ctx.reactor = w.ctx.reactor)
    (handles : ∀ s, w'.ctx.handle s = w.ctx.handle s) : Holding out w' where
  toListed := ho.toListed.same priv reactor handles
  live s id hid := priv ▸ ho.live s id (handles s ▸ hid)
  attached h s := (handles s).trans (ho.attached (reactor ▸ h) s)
  fresh := priv ▸ ho.fresh

/-- The handles of two slots differ. -/
lemma handle_ne {s t : Slot} {id : Nat} (ho : Holding out w) (ne : t ≠ s)
    (ht : w.ctx.handle t = some id) : w.ctx.handle s ≠ some id := by
  intro hs
  obtain ⟨x, hx, hxid⟩ := ho.live t id ht
  have one := ((ho.named t id ht).2 x hx hxid).1
  have two := ((ho.named s id hs).2 x hx hxid).1
  exact ne (Slot.callback_inj (Option.some.inj (one.symm.trans two)))

/-- A handle that is cancelled is live, so it is no stale cancel. -/
lemma stale_cancel {h : Option Nat} (fresh : w.priv.staleCancels = 0)
    (live : ∀ id, h = some id → ∃ x ∈ w.priv.live, x.id = id) :
    (w.cancelCtxTimer h).priv.staleCancels = 0 := by
  cases h with
  | none => exact fresh
  | some id =>
    simp only [World.cancelCtxTimer]
    split
    · exact (staleCancels_cancel (live id rfl)).trans fresh
    · exact fresh

lemma cancel (ho : Holding out w) (s : Slot) : Holding out (w.cancelSlot s) where
  toListed := ho.toListed.cancel s
  live t id hid := by
    rw [handle_cancelSlot] at hid
    split at hid
    · cases hid
    · rename_i other
      obtain ⟨x, hx, hxid⟩ := ho.live t id hid
      refine ⟨x, ?_, hxid⟩
      rw [World.cancelSlot, setHandle_priv, mem_live_cancelCtxTimer ho.sound.wf, hxid]
      exact ⟨hx, fun _ => ho.handle_ne other hid⟩
  attached h t := by
    rw [handle_cancelSlot]
    split
    · rfl
    · exact ho.attached (by simpa [World.cancelSlot] using h) t
  fresh := by
    rw [World.cancelSlot, setHandle_priv]
    exact stale_cancel ho.fresh (ho.live s)

lemma schedule {interval : Nat} {s : Slot} (ho : Holding out w) (os : Os) (timeout : Nat)
    (shape : s.Shape interval) (unset : w.ctx.handle s = none) :
    Holding out ((w.addCtxTimer os timeout interval s.callback).1.setHandle s
      (w.addCtxTimer os timeout interval s.callback).2) := by
  have listed := ho.toListed.schedule os timeout shape unset
  have kept : Holding out (w.setHandle s none) :=
    ho.same setHandle_priv setHandle_reactor fun t => by
      rw [handle_setHandle]
      split
      · rename_i same
        rw [same, unset]
      · rfl
  by_cases attached : w.ctx.reactor = true
  · rw [World.addCtxTimer, if_pos attached] at listed ⊢
    rcases addTimer_cases w os timeout interval s.callback with h | ⟨priv, h, added⟩
    · rw [h]
      exact kept
    · rw [h] at listed ⊢
      refine ⟨listed, fun t id hid => ?_, fun h => ?_, ?_⟩
      · rw [setHandle_priv]
        rw [handle_setHandle] at hid
        split at hid
        · cases hid
          exact ⟨_, (added.live _).mpr (.inl rfl), rfl⟩
        · obtain ⟨x, hx, hxid⟩ := ho.live t id hid
          exact ⟨x, (added.live x).mpr (.inr hx), hxid⟩
      · rw [setHandle_reactor] at h
        exact absurd (attached.symm.trans h) (by simp)
      · rw [setHandle_priv]
        exact added.stale.trans ho.fresh
  · rw [World.addCtxTimer, if_neg attached]
    exact kept

/-- A timer that no handle names needs none. -/
lemma unkept {cb : Callback} (ho : Holding out w) (os : Os) (timeout : Nat)
    (kind : cb.unkept = true) : Holding out (w.addTimer os timeout 0 cb).1 := by
  have listed := ho.toListed.unkept os timeout kind
  rcases addTimer_cases w os timeout 0 cb with h | ⟨priv, h, added⟩
  · rw [h]
    exact ho
  · rw [h] at listed ⊢
    refine ⟨listed, fun s id hid => ?_, ho.attached, added.stale.trans ho.fresh⟩
    obtain ⟨x, hx, hxid⟩ := ho.live s id hid
    exact ⟨x, (added.live x).mpr (.inr hx), hxid⟩

/-- A health timer is added in the place of the old one. -/
lemma replace {interval : Nat} {priv : Priv Callback} (ho : Holding out w) (pos : 0 < interval)
    (attached : w.ctx.reactor = true)
    (added : Added w.priv priv ⟨w.priv.nextId, interval, some .healthCheck⟩) :
    Holding out (({ w with priv := priv }.cancelCtxTimer w.ctx.healthTimer).setHandle .health
      (some w.priv.nextId)) := by
  have wf : priv.Wf := (added.sound out ho.sound).wf
  refine ⟨ho.toListed.replace pos attached added, fun t id hid => ?_, fun h => ?_, ?_⟩
  · rw [setHandle_priv]
    rw [handle_setHandle, cancelCtxTimer_ctx] at hid
    split at hid
    · cases hid
      refine ⟨_, (mem_live_cancelCtxTimer wf).mpr ⟨(added.live _).mpr (.inl rfl), fun _ => ?_⟩, rfl⟩
      exact fun old => absurd (ho.named .health _ old).1 (Nat.lt_irrefl _)
    · rename_i other
      obtain ⟨x, hx, hxid⟩ := ho.live t id hid
      refine ⟨x, (mem_live_cancelCtxTimer wf).mpr ⟨(added.live x).mpr (.inr hx), fun _ => ?_⟩, hxid⟩
      rw [hxid]
      exact ho.handle_ne (s := .health) other hid
  · rw [setHandle_reactor, cancelCtxTimer_ctx] at h
    exact absurd (attached.symm.trans h) (by simp)
  · rw [setHandle_priv]
    refine stale_cancel (added.stale.trans ho.fresh) fun id hid => ?_
    obtain ⟨x, hx, hxid⟩ := ho.live .health id hid
    exact ⟨x, (added.live x).mpr (.inr hx), hxid⟩

/-- By induction on the moves. -/
lemma moved (ho : Holding out w) (mv : Moved w w') : Holding out w' := by
  induction mv with
  | same priv reactor handles => exact ho.same priv reactor handles
  | cancel s => exact ho.cancel s
  | schedule s os timeout interval shape unset => exact ho.schedule os timeout shape unset
  | @replace w os interval pos attached alloc =>
    rcases addTimer_cases w os interval interval .healthCheck with h | ⟨priv, h, added⟩
    · simp [World.addTimer, alloc] at h
    · rw [h]
      exact ho.replace pos attached added
  | unkept os timeout kind => exact ho.unkept os timeout kind
  | attach =>
    exact ⟨ho.toListed.moved .attach, fun s id hid => ho.live s id (handle_setReactor ▸ hid),
      fun h => absurd h (by simp [World.setReactor]), ho.fresh⟩
  | release unset =>
    exact ⟨ho.toListed.moved (.release unset),
      fun s id hid => ho.live s id (handle_setReactor ▸ hid),
      fun _ s => handle_setReactor.trans (unset s), ho.fresh⟩
  | trans _ _ ih1 ih2 => exact ih2 (ih1 ho)

end Holding

/-! ## The retry callback -/

/-- The timer of the retry callback is the one that the retry handle names. -/
lemma Listed.retry_handle {x : PublicTimer Callback} (ac : Listed out w) (hx : x ∈ w.priv.live)
    (callback : x.callback = some .delayedSpawn) : w.ctx.retryTimer = some x.id := by
  rcases ac.kept x hx with unkept | ⟨-, s, hs⟩
  · simp [PublicTimer.unkept, callback, Callback.unkept] at unkept
  · have own := ((ac.named s x.id hs).2 x hx rfl).1
    have slot : s = .retry := Slot.callback_inj (Option.some.inj (own.symm.trans callback))
    rw [slot] at hs
    exact hs

/-- The timer that runs keeps its handle until its callback clears it. -/
lemma Holding.beginTimer {t : Timer Callback} (ho : Holding true w) (ht : t ∈ w.priv.timers)
    (nowMs : Nat) : Holding false (w.beginTimer t nowMs) where
  toListed := ho.toListed.beginTimer ht nowMs
  live s id hid := by
    obtain ⟨x, hx, hxid⟩ := ho.live s id hid
    have sound := ho.sound.tick nowMs
    exact ⟨x, (mem_live_beginTimer sound.wf ht (sound.idle rfl)).mpr hx, hxid⟩
  attached := ho.attached
  fresh := ho.fresh

/-- After the callback every handle is still live: a periodic timer is put back, and the timer that is
freed is not the retry. -/
lemma Holding.endTimer (ho : Holding out w) (ov : Over w) (nowMs : Nat) :
    Holding true (w.endTimer nowMs) where
  toListed := ho.toListed.mono ho.sound.endTimer endTimer_nextId fun _ hx => live_of_endTimer hx
  live s id hid := by
    obtain ⟨x, hx, hxid⟩ := ho.live s id hid
    refine ⟨x, ?_, hxid⟩
    obtain ⟨own, shape⟩ := (ho.named s id hid).2 x hx hxid
    by_cases periodic : 0 < x.intervalMs
    · exact ho.sound.live_endTimer hx periodic
    · rw [shape.mp (Nat.eq_zero_of_not_pos periodic)] at own
      obtain ⟨u, hu | hu, mark, rfl⟩ := mem_live.mp hx
      · exact absurd own (ov u hu mark)
      · show _ ∈ (w.priv.endTimer nowMs).live
        cases hrun : w.priv.running with
        | none => simpa [Priv.endTimer, hrun] using hx
        | some v => exact (mem_live_endTimer hrun).mpr (.inr ⟨u, hu, mark, rfl⟩)
  attached := ho.attached
  fresh := by
    show (w.priv.endTimer nowMs).staleCancels = 0
    rw [Priv.endTimer]
    split
    · exact ho.fresh
    · split <;> exact ho.fresh

/-- The callback of `t` is left with every handle live; a retry must not fire on a STOPPED
service. -/
lemma Holding.runTimer {t : Timer Callback} (ho : Holding out w) (hrun : w.priv.running = some t)
    (mark : t.pendingDelete = false)
    (up : t.callback = some .delayedSpawn → w.ctx.state ≠ .stopped) (os : Os) :
    Holding out (w.runTimer t os) ∧ Over (w.runTimer t os) := by
  by_cases retry : t.callback = some .delayedSpawn
  · have active : t.active = true := by simpa [mark] using ho.sound.active t (.inl hrun)
    have hx : t.toPublic ∈ w.priv.live := mem_live.mpr ⟨t, .inl hrun, mark, rfl⟩
    have handle : w.ctx.retryTimer = some t.id := ho.toListed.retry_handle hx retry
    have attached : w.ctx.reactor = true := by
      by_contra detached
      have none := ho.attached (by simpa using detached) .retry
      exact absurd (handle.symm.trans none) (by simp)
    -- the handle is cleared first, which marks the running timer
    have past : Over w.cancelRetry := by
      intro u hu live
      have hu : (reactorCancelTimer w.priv t.id).running = some u := by
        simpa [World.cancelRetry, World.setRetry, World.cancelCtxTimer, handle, attached] using hu
      rw [running_cancel_self hrun mark hu] at live
      cases live
    have ran : w.runTimer t os = serviceDelayedSpawnCb w os := by
      simp [World.runTimer, retry, active, dispatch]
    rw [ran]
    exact ⟨(ho.cancel .retry).moved (.delayedSpawn os (up retry)), past.moved (.delayedSpawn os (up retry))⟩
  · have past : Over w := by
      intro u hu _
      cases hrun.symm.trans hu
      exact retry
    exact ⟨ho.moved (.runTimer w t os), past.moved (.runTimer w t os)⟩

/-! ## Runs -/

/-- The property: every handle names a live timer of the reactor, and no freed handle was ever
cancelled. -/
structure HandlesLive (w : World) : Prop where
  live : ∀ s id, w.ctx.handle s = some id → w.ctx.reactor = true ∧ ∃ x ∈ w.priv.live, x.id = id
  fresh : w.priv.staleCancels = 0

/-- No retry timer fires while the service is STOPPED. -/
def RetryUp (w : World) : Event → Prop
  | .timer id nowMs _ => ∀ t ∈ w.due id nowMs, t.pendingDelete = false →
      t.callback = some .delayedSpawn → w.ctx.state ≠ .stopped
  | _ => True

instance (w : World) (e : Event) : Decidable (RetryUp w e) :=
  match e with
  | .timer id nowMs _ => inferInstanceAs (Decidable (∀ t ∈ w.due id nowMs, t.pendingDelete = false →
      t.callback = some .delayedSpawn → w.ctx.state ≠ .stopped))
  | .setReactor _ | .start _ | .monitor _ | .sigchld _ | .health _ | .exit _ | .stopAsync _ _
  | .stopSync _ | .applyConfig _ _ => inferInstanceAs (Decidable True)

/-- Every handle that is held names a live timer. -/
lemma Holding.handlesLive (ho : Holding out w) : HandlesLive w where
  live s id hid := by
    refine ⟨?_, ho.live s id hid⟩
    by_contra detached
    rw [ho.attached (by simpa using detached) s] at hid
    cases hid
  fresh := ho.fresh

/-- A retry of a service that is up clears its own handle. -/
lemma Holding.fire {t : Timer Callback} (ho : Holding true w) (ht : t ∈ w.priv.timers) (nowMs : Nat)
    (up : t.pendingDelete = false → t.callback = some .delayedSpawn → w.ctx.state ≠ .stopped)
    (os : Os) : Holding true (w.fire t nowMs os) := by
  rw [World.fire]
  split
  · rename_i mark
    refine ⟨ho.toListed.mono (ho.sound.tick nowMs).free rfl fun _ hx => live_of_freeTimer hx,
      fun s id hid => ?_, ho.attached, ho.fresh⟩
    obtain ⟨x, hx, hxid⟩ := ho.live s id hid
    exact ⟨x, (ho.sound.tick nowMs).live_freeTimer ht mark hx, hxid⟩
  · rename_i mark
    have mark : t.pendingDelete = false := by simpa using mark
    obtain ⟨ran, past⟩ := (ho.beginTimer ht nowMs).runTimer rfl mark (up mark) os
    exact ran.endTimer past nowMs

/-- By cases on the event. -/
lemma Holding.step {e : Event} (ho : Holding true w) (up : RetryUp w e)
    (st : Service.step w e = some w') : Holding true w' := by
  by_cases timer : ∃ id nowMs os, e = .timer id nowMs os
  · obtain ⟨id, nowMs, os, rfl⟩ := timer
    obtain ⟨t, due, rfl⟩ := Option.map_eq_some_iff.mp st
    exact ho.fire (World.due_mem due) nowMs (up t due) os
  · exact ho.moved (.step (fun id nowMs os h => timer ⟨id, nowMs, os, h⟩) st)

/-- A retry that fires on a STOPPED service leaves its handle behind. -/
lemma Holding.dangles {t : Timer Callback} (ho : Holding true w) (ht : t ∈ w.priv.timers)
    (mark : t.pendingDelete = false) (retry : t.callback = some .delayedSpawn)
    (stopped : w.ctx.state = .stopped) (nowMs : Nat) (os : Os) :
    ¬HandlesLive (w.fire t nowMs os) := by
  intro hl
  have hx : t.toPublic ∈ w.priv.live := mem_live.mpr ⟨t, .inr ht, mark, rfl⟩
  have handle := ho.toListed.retry_handle hx retry
  have once : t.intervalMs = 0 := ((ho.named .retry _ handle).2 _ hx rfl).2.mpr rfl
  have fired : w.fire t nowMs os = (w.beginTimer t nowMs).endTimer nowMs := by
    have stopped : (w.beginTimer t nowMs).ctx.state = .stopped := stopped
    simp [World.fire, mark, World.runTimer, retry, dispatch, serviceDelayedSpawnCb, stopped]
  rw [fired] at hl
  obtain ⟨-, x, hx, hxid⟩ := hl.live .retry t.id handle
  have begun := (ho.sound.tick nowMs).begin ht
  rcases (mem_live_endTimer (r := (w.beginTimer t nowMs).priv) rfl).mp hx with ⟨rearms, -⟩ | ⟨u, hu, -, rfl⟩
  · simp [Timer.rearms, once] at rearms
  · exact begun.wf.unlinked t rfl u hu hxid

/-- Before the first event no handle is set. -/
lemma World.init_holding {cfg : AtpConfig} {alloc : Bool} {ctx : ServiceCtx}
    (init : serviceInit cfg alloc = some ctx) (pidFile : Option Int) (nowMs : Nat) :
    Holding true (World.init ctx pidFile nowMs) := by
  refine ⟨World.init_listed init pidFile nowMs, fun s id hid => ?_, fun _ s => ?_, rfl⟩
  · obtain ⟨baseDir, binPath, confPath, logPath, pidPath, rfl⟩ := serviceInit_eq init
    cases s <;> cases hid
  · obtain ⟨baseDir, binPath, confPath, logPath, pidPath, rfl⟩ := serviceInit_eq init
    cases s <;> rfl

/-- A run of the supervisor keeps every handle live, in every state it reaches, exactly if no retry
timer fires while the service is STOPPED. -/
theorem handlesLive_iff_retryUp (cfg : AtpConfig) (alloc : Bool) (ctx : ServiceCtx)
    (pidFile : Option Int) (nowMs : Nat) (es : List Event) (init : serviceInit cfg alloc = some ctx) :
    Along Service.step RetryUp (World.init ctx pidFile nowMs) es ↔
      Along Service.step (fun w e => ∀ w', Service.step w e = some w' → HandlesLive w')
        (World.init ctx pidFile nowMs) es := by
  refine along_congr (fun w e w' ho up st => Holding.step ho up st) (fun w e ho => ?_)
    (World.init_holding init pidFile nowMs)
  constructor
  · exact fun up w' st => (ho.step up st).handlesLive
  · intro hl
    cases e with
    | timer id nowMs os =>
      intro t due mark retry stopped
      exact ho.dangles (World.due_mem due) mark retry stopped nowMs os
        (hl _ (by simp [Service.step, Option.mem_def.mp due]))
    | _ => trivial

/-- A stop is under way when the service is started again; its last tick stops the service while a
retry is pending, and the retry fires. -/
def retryAfterStop : List Event :=
  [.setReactor (.calm 1000 100), .start (.calm 1000 100), .stopAsync false (.calm 2000 100),
    .start (.calm 2010 100), .exit 100, .sigchld (.calm 2020 100), .timer 1 2100 (.calm 2100 100),
    .timer 2 3100 (.calm 3100 101)]

/-- The retry handle is left dangling, and the next stop cancels it. -/
theorem retryAfterStop_dangles :
    (∃ w, run Service.step (World.init defaultCtx none 1000) retryAfterStop = some w ∧
      w.ctx.retryTimer = some 2 ∧ (∀ x ∈ w.priv.live, x.id ≠ 2) ∧ ¬HandlesLive w) ∧
    ∃ w, run Service.step (World.init defaultCtx none 1000)
        (retryAfterStop ++ [.stopSync (.calm 3200 101)]) = some w ∧ w.priv.staleCancels = 1 := by
  refine ⟨⟨_, rfl, rfl, by decide, fun hl => ?_⟩, _, rfl, rfl⟩
  obtain ⟨-, x, hx, hid⟩ := hl.live .retry 2 rfl
  revert x
  decide

/-- A retry that respawns the child, and a stop. -/
def respawnAndStop : List Event :=
  [.setReactor (.calm 1000 100), .start (.calm 1000 100), .exit 100, .sigchld (.calm 2000 100),
    .timer 1 3000 (.calm 3000 101), .stopSync (.calm 3200 101)]

/-- A retry is followed by a stop, and every handle stays good. -/
theorem handlesLive_iff_retryUp_respawnAndStop :
    Along Service.step (fun w e => ∀ w', Service.step w e = some w' → HandlesLive w')
      (World.init defaultCtx none 1000) respawnAndStop :=
  (handlesLive_iff_retryUp (configSetDefaults "/data/adb/atp".toList false) true defaultCtx none 1000
    respawnAndStop (by decide)).mp (by decide)

end Atpd.Service
