import Atpd.Reactor.Handle
import Atpd.Service.Frame
import Atpd.Service.Step

/-!
# What the supervisor does with its timers

The context keeps three handles, one `Slot` each: the monitor, the retry and the health timer. Other
timers are not kept: the readiness check after a respawn, and the ticks of an asynchronous stop.
`Moved w w'` says that the timers and the handles went from `w` to `w'` by the few moves the
supervisor knows: cancel a slot, fill an empty one, replace the health timer, add a timer that is not
kept, attach to the reactor, let go of it. Every function of the supervisor is a chain of such moves,
so an invariant of the timers has to be checked for the moves only.
-/

namespace Atpd.Service

open Atpd.Config Atpd.Reactor

variable {w w' : World} {os : Os}

/-- The handles of the context. -/
inductive Slot where
  | monitor
  | retry
  | health
deriving DecidableEq

/-- The callback of the timer that a handle is for. -/
def Slot.callback : Slot → Callback
  | .monitor => .monitor
  | .retry => .delayedSpawn
  | .health => .healthCheck

/-- The retry timer is the one that fires once. -/
def Slot.Shape (s : Slot) (interval : Nat) : Prop := interval = 0 ↔ s = .retry

/-- The handle of a slot. -/
def ServiceCtx.handle (ctx : ServiceCtx) : Slot → Option Nat
  | .monitor => ctx.monitorTimer
  | .retry => ctx.retryTimer
  | .health => ctx.healthTimer

/-- Writing it. -/
def World.setHandle (w : World) : Slot → Option Nat → World
  | .monitor, h => w.setMonitor h
  | .retry, h => w.setRetry h
  | .health, h => w.setHealth h

/-- `if (handle) { reactor_cancel_timer(ctx->reactor, handle); handle = NULL; }`. -/
def World.cancelSlot (w : World) (s : Slot) : World := (w.cancelCtxTimer (w.ctx.handle s)).setHandle s none

/-- The callbacks of the timers that no handle is kept for. -/
def Callback.unkept : Callback → Bool
  | .monitor | .stopWait _ => true
  | .delayedSpawn | .healthCheck => false

/-- From `w` to `w'` by moves of the timers. -/
inductive Moved : World → World → Prop where
  | same {w w' : World} (priv : w'.priv = w.priv) (reactor : w'.ctx.reactor = w.ctx.reactor)
      (handles : ∀ s, w'.ctx.handle s = w.ctx.handle s) : Moved w w'
  | cancel {w : World} (s : Slot) : Moved w (w.cancelSlot s)
  | schedule {w : World} (s : Slot) (os : Os) (timeout interval : Nat) (shape : s.Shape interval)
      (unset : w.ctx.handle s = none) :
      Moved w ((w.addCtxTimer os timeout interval s.callback).1.setHandle s
        (w.addCtxTimer os timeout interval s.callback).2)
  | replace {w : World} (os : Os) (interval : Nat) (pos : 0 < interval)
      (attached : w.ctx.reactor = true) (alloc : os.timerAlloc = true) :
      Moved w (((w.addTimer os interval interval .healthCheck).1.cancelCtxTimer
        w.ctx.healthTimer).setHealth (w.addTimer os interval interval .healthCheck).2)
  | unkept {w : World} (os : Os) (timeout : Nat) {cb : Callback} (kind : cb.unkept = true) :
      Moved w (w.addTimer os timeout 0 cb).1
  | attach {w : World} : Moved w (w.setReactor true)
  | release {w : World} (unset : ∀ s, w.ctx.handle s = none) : Moved w (w.setReactor false)
  | trans {w w1 w2 : World} : Moved w w1 → Moved w1 w2 → Moved w w2

/-- A handle is read back, and the others stay. -/
lemma handle_setHandle {s t : Slot} {h : Option Nat} :
    (w.setHandle s h).ctx.handle t = if t = s then h else w.ctx.handle t := by
  cases s <;> cases t <;> rfl

@[simp] lemma setHandle_priv {s : Slot} {h : Option Nat} : (w.setHandle s h).priv = w.priv := by
  cases s <;> rfl

@[simp] lemma setHandle_reactor {s : Slot} {h : Option Nat} :
    (w.setHandle s h).ctx.reactor = w.ctx.reactor := by
  cases s <;> rfl

@[simp] lemma handle_setReactor {s : Slot} {b : Bool} :
    (w.setReactor b).ctx.handle s = w.ctx.handle s := by
  cases s <;> rfl

/-- Cancelling clears one handle. -/
lemma handle_cancelSlot {s t : Slot} :
    (w.cancelSlot s).ctx.handle t = if t = s then none else w.ctx.handle t := by
  rw [World.cancelSlot, handle_setHandle, cancelCtxTimer_ctx]

namespace Moved

/-- No move. -/
lemma refl : Moved w w := same rfl rfl fun _ => rfl

/-- What goes aside leaves the timers. -/
lemma aside (as : Aside w w') : Moved w w' :=
  same as.priv as.reactor fun s => by
    cases s with
    | monitor => exact as.monitorTimer
    | retry => exact as.retryTimer
    | health => exact as.healthTimer

lemma setState (s : ServiceState) : Moved w (w.setState s) := same rfl rfl fun t => by cases t <;> rfl

lemma note (o : Obs) : Moved w (w.note o) := same rfl rfl fun _ => rfl

lemma applyFields (cfg : AtpConfig) : Moved w (w.applyFields cfg) :=
  same rfl rfl fun t => by cases t <;> rfl

lemma done {d : Bool} : Moved w (w.done d) := by
  rw [World.done]
  split
  · exact note _
  · exact refl

lemma cancelRetry : Moved w w.cancelRetry := cancel .retry

lemma cancelHealth : Moved w w.cancelHealth := cancel .health

lemma cancelMonitor : Moved w w.cancelMonitor := cancel .monitor

/-- A timer that no handle names is a move of its own. -/
lemma addUnkept {cb : Callback} (os : Os) (timeout : Nat) (kind : cb.unkept = true) :
    Moved w (w.addCtxTimer os timeout 0 cb).1 := by
  rw [World.addCtxTimer]
  split
  · exact unkept os timeout kind
  · exact refl

/-! ## Retry and spawn -/

/-- `service_schedule_retry` cancels the old timer before it adds one. -/
lemma scheduleRetry (w : World) (os : Os) : Moved w (serviceScheduleRetry w os) := by
  have cancelled : Moved w w.nextBackoff.cancelRetry := trans (aside .nextBackoff) cancelRetry
  have scheduled := cancelled.trans
    (schedule .retry os w.ctx.backoff.currentDelayMs 0 (by simp [Slot.Shape]) rfl)
  simp only [serviceScheduleRetry]
  split
  · exact scheduled.trans (setState _)
  · exact scheduled

lemma chargeAndRetry (w : World) (os : Os) : Moved w (w.chargeAndRetry os) := by
  have charged := (aside (.charge (w := w))).trans (aside (.recordFailure os.failTime))
  simp only [World.chargeAndRetry]
  split
  · exact charged.trans (note _) |>.trans (setState _)
  · exact charged.trans (scheduleRetry _ os)

/-- `service_spawn` has nothing to do with timers. -/
lemma spawn (w : World) (os : Os) : Moved w (serviceSpawn w os).1 :=
  (note .spawn).trans (aside (.spawn w os))

lemma delayedSpawnAttempt (w : World) (os : Os) : Moved w (delayedSpawnAttempt w os) := by
  have spawned := spawn w os
  rw [Service.delayedSpawnAttempt]
  split
  · rename_i heq
    rw [heq] at spawned
    exact spawned.trans (setState _) |>.trans (addUnkept os 100 rfl)
  · rename_i heq
    rw [heq] at spawned
    exact spawned.trans (chargeAndRetry _ os)

/-- The retry callback clears its own handle first, unless the service is STOPPED. -/
lemma delayedSpawn (os : Os) (up : w.ctx.state ≠ .stopped) :
    Moved w.cancelRetry (serviceDelayedSpawnCb w os) := by
  rw [serviceDelayedSpawnCb, if_neg up]
  dsimp only
  split
  · exact trans (aside .afterAllow) (delayedSpawnAttempt _ os)
  · exact scheduleRetry _ os

/-- `service_start_async` leaves the timers alone. -/
lemma start (w : World) (os : Os) : Moved w (serviceStartAsync w os).1 := by
  have called : Moved w (w.note .startCalled) := note _
  have allowed : Moved w ((w.note .startCalled).afterAllow os.allowTime) :=
    called.trans (aside .afterAllow)
  simp only [serviceStartAsync]
  split
  · exact called
  · split
    · split
      · exact allowed.trans (setState _)
      · have spawned := allowed.trans (spawn _ os)
        rw [startSpawn]
        split
        · split
          · rename_i heq
            rw [heq] at spawned
            exact spawned.trans (setState _) |>.trans
              (aside (.trans (.setStart _ _) (.trans .resetCharges .resetBackoff)))
          · rename_i heq
            rw [heq] at spawned
            exact spawned.trans (setState _) |>.trans (aside (.recordFailure _))
        · exact allowed.trans (setState _)
    · exact called

/-! ## SIGCHLD, monitor -/

lemma sigchldFailed (w : World) (os : Os) : Moved w (sigchldFailed w os) := by
  have failed := (setState (w := w) .failed).trans (aside (.recordFailure os.failTime))
  simp only [Service.sigchldFailed]
  split
  · split
    · exact failed.trans (aside .charge) |>.trans (scheduleRetry _ os)
    · exact failed
  · exact refl

/-- `service_sigchld_cb` moves no timer but the one of its retry. -/
lemma sigchld (w : World) (os : Os) : Moved w (serviceSigchldCb w os) := by
  rw [serviceSigchldCb]
  split
  · split
    · exact note _
    · have waited := Aside.waitpidNohang w w.ctx.childPid os.alive1.dies
      split
      · rename_i heq
        rw [heq] at waited
        have cleared := waited.trans .clearChild |>.trans (.setHealthy false) |>.trans .unlinkPid
        exact (aside cleared).trans (sigchldFailed _ os)
      · rename_i heq
        rw [heq] at waited
        exact aside waited
  · exact refl

lemma monitorStartHealth (w : World) (os : Os) : Moved w (monitorStartHealth w os) := by
  rw [Service.monitorStartHealth]
  split
  · rename_i guard
    have pos : w.ctx.healthCheckIntervalMs.toNat ≠ 0 := by omega
    have scheduled := (cancelHealth (w := w)).trans
      (schedule .health os w.ctx.healthCheckIntervalMs.toNat w.ctx.healthCheckIntervalMs.toNat
        (by simpa [Slot.Shape] using pos) rfl)
    dsimp only
    split
    · exact scheduled.trans (setState _)
    · exact scheduled
  · exact refl

/-- A service that is ready gets its health timer. -/
lemma monitorReady (w : World) (os : Os) : Moved w (monitorReady w os) := by
  have ready := Aside.note (w := w.setState .running) (o := .enteredRunning) rfl
    |>.trans .resetCharges |>.trans (.setHealthy true) |>.trans (.setLastHealthCheck os.wallTime)
    |>.trans .resetBackoff |>.trans .recordSuccess
  exact (setState .running).trans (aside ready) |>.trans (monitorStartHealth _ os)

lemma monitorProbe (w : World) (os : Os) : Moved w (monitorProbe w os) := by
  have probed := aside (.probeNativeApi w os)
  rw [Service.monitorProbe]
  split
  · rename_i heq
    rw [heq] at probed
    exact probed.trans (monitorReady _ os)
  · rename_i heq
    rw [heq] at probed
    exact probed

lemma monitorAlive (w : World) (os : Os) : Moved w (monitorAlive w os) := by
  have validated := aside (.validate w os)
  simp only [Service.monitorAlive]
  split
  · exact validated.trans (monitorProbe _ os)
  · exact validated

lemma monitorTimeout (w : World) (os : Os) : Moved w (monitorTimeout w os) := by
  have failed := (aside (.killTimedOut (w := w))).trans (setState .failed)
    |>.trans (aside (.trans .charge (.recordFailure os.failTime)))
  simp only [Service.monitorTimeout]
  split
  · exact failed.trans (scheduleRetry _ os)
  · exact failed

lemma monitorStarting (w : World) (os : Os) : Moved w (monitorStarting w os) := by
  have asked := aside (.startingChildAlive w os.alive1)
  rw [Service.monitorStarting]
  split
  · exact monitorTimeout w os
  · split
    · rename_i heq
      rw [heq] at asked
      exact asked.trans (monitorAlive _ os)
    · rename_i heq
      rw [heq] at asked
      exact asked.trans (chargeAndRetry _ os)

/-- `service_monitor_cb`, by its branches. -/
lemma monitor (w : World) (os : Os) : Moved w (serviceMonitorCb w os) := by
  rw [serviceMonitorCb]
  split
  · exact refl
  · exact monitorStarting w os
  · rw [monitorRunning]
    split
    · exact refl
    · exact (setState _).trans (chargeAndRetry _ os)
  · rw [monitorFailed]
    split
    · exact scheduleRetry w os
    · exact refl
  · exact refl

/-! ## Control -/

/-- `service_stop_sync` clears every handle before it lets go of the reactor. -/
lemma detach : Moved w w.detach := by
  rw [World.detach]
  split
  · have cleared : ∀ s, w.cancelMonitor.cancelRetry.cancelHealth.ctx.handle s = none := by
      intro s
      show (((w.cancelSlot .monitor).cancelSlot .retry).cancelSlot .health).ctx.handle s = none
      simp only [handle_cancelSlot]
      cases s <;> rfl
    exact cancelMonitor.trans cancelRetry |>.trans cancelHealth |>.trans (release cleared)
  · exact refl

/-- `service_stop_sync` cancels all three. -/
lemma stopSync (w : World) (os : Os) : Moved w (serviceStopSync w os).1 := by
  have stopped := Aside.stopChild (w.setState .stopping).detach os |>.trans .clearChild
    |>.trans (.setHealthy false)
  exact (setState .stopping).trans detach |>.trans (aside stopped) |>.trans (setState .stopped)
    |>.trans (aside .unlinkPid) |>.trans (note .stopReturned)

lemma stopAsyncWait (w : World) (d : Bool) (os : Os) : Moved w (stopAsyncWait w d os).1 := by
  have cancelled : Moved w w.cancelMonitor.cancelRetry := cancelMonitor.trans cancelRetry
  simp only [Service.stopAsyncWait]
  split
  · split
    · exact cancelled.trans (addUnkept os 100 rfl)
    · exact cancelled.trans (addUnkept os 100 rfl) |>.trans (note _)
  · exact cancelled.trans (setState _)
      |>.trans (aside (.trans .resetCharges (.trans (.setHealthy false) .unlinkPid))) |>.trans done

/-- So does `service_stop_async`, and adds its wait. -/
lemma stopAsync (w : World) (d : Bool) (os : Os) : Moved w (serviceStopAsync w d os).1 := by
  have begun : Moved w w.beginStop := by
    simp only [World.beginStop]
    split
    · exact (setState _).trans cancelHealth
    · exact setState _
  have killed := begun.trans (aside .terminate)
  simp only [serviceStopAsync]
  split
  · exact killed
  · split
    · exact killed.trans (stopAsyncWait _ d os)
    · exact killed.trans (stopSync _ os) |>.trans done

lemma stopWaitDone (w : World) (s : StopState) : Moved w (stopWaitDone w s) :=
  (aside .clearChild).trans (setState .stopped)
    |>.trans (aside (.trans (.setHealthy false) .unlinkPid)) |>.trans done

/-- A tick of the wait adds the next one, or falls back on `service_stop_sync`. -/
lemma stopWait (w : World) (s : StopState) (os : Os) : Moved w (serviceStopWaitCb w s os) := by
  rw [serviceStopWaitCb]
  split
  · dsimp only
    split
    · exact (aside (.trans .kill .waitpid)).trans (stopWaitDone _ _)
    · have added : Moved w
          (w.addTimer os 100 0 (.stopWait { s with attempts := s.attempts + 1 })).1 :=
        unkept os 100 rfl
      split
      · exact added.trans (stopSync _ os)
      · exact added
  · exact stopWaitDone w s

lemma setReactor (w : World) (os : Os) : Moved w (serviceSetReactor w os).1 :=
  attach.trans cancelMonitor |>.trans (schedule .monitor os 100 1000 (by simp [Slot.Shape]) rfl)

lemma applyConfig (w : World) (cfg : AtpConfig) (os : Os) :
    Moved w (serviceApplyConfig w cfg os).1 := by
  simp only [serviceApplyConfig]
  split
  · rename_i guard
    have attached : w.ctx.reactor = true := guard.2.1
    have pos : 0 < (positiveOr cfg.service.healthCheckIntervalMs 5000).toNat := by
      have le : 1 ≤ positiveOr cfg.service.healthCheckIntervalMs 5000 := positiveOr_pos (by decide)
      omega
    simp only [World.addCtxTimer, attached, ↓reduceIte]
    cases alloc : os.timerAlloc with
    | false =>
      have kept : ∀ interval, w.addTimer os interval interval .healthCheck = (w, none) := by
        intro interval
        simp [World.addTimer, alloc]
      simp only [kept, ↓reduceIte]
      exact refl
    | true =>
      have handle : ∀ interval, (w.addTimer os interval interval .healthCheck).2 ≠ none := by
        intro interval
        simp [World.addTimer, alloc]
      simp only [handle, ↓reduceIte]
      exact (replace os _ pos attached alloc).trans (applyFields cfg)
  · exact applyFields cfg

end Moved

end Atpd.Service
