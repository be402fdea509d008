import Atpd.Reactor.Handle
import Atpd.Service.Frame
import Atpd.Service.Step

/-!
# The health timer

While the service is RUNNING, one health timer is live, with the interval of the configuration. The
state is set to RUNNING before the timer is added, and a service that has failed keeps its old health
timer until it runs again, so what holds in every state is weaker: the context has a handle for every
live health timer (`Handled`), and the timer is there while the service is RUNNING (`Ticking`).

A service that was stopped synchronously is detached from the reactor. It has no child then, and does
nothing until it is attached again (`Detached`).
-/

namespace Atpd.Service

open Atpd.Config Atpd.Reactor

variable {w w' : World} {os : Os} {cfg cfg' : AtpConfig} {out : Bool}

/-- The settings of the supervisor that a reload can change. -/
structure Settings where
  maxFailures : Int
  startTimeoutSec : Int
  stopTimeoutSec : Int
  healthCheckIntervalMs : Int
deriving DecidableEq

/-- The settings that the context works with. -/
def ServiceCtx.settings (ctx : ServiceCtx) : Settings :=
  ⟨ctx.maxFailures, ctx.startTimeoutSec, ctx.stopTimeoutSec, ctx.healthCheckIntervalMs⟩

/-- The settings in the configuration. -/
def Settings.ofConfig (cfg : AtpConfig) : Settings :=
  ⟨cfg.service.maxFailures, cfg.service.startTimeoutSec, cfg.service.stopTimeoutSec,
    cfg.service.healthCheckIntervalMs⟩

/-- The health timer that the context names is live and has the interval of the context. -/
def World.HealthLive (w : World) : Prop :=
  ∃ id, w.ctx.healthTimer = some id ∧
    ⟨id, w.ctx.healthCheckIntervalMs.toNat, some .healthCheck⟩ ∈ w.priv.live

/-- Every live health timer is the one that the context names, and no other handle of the context
names it; `out` says that no callback is running. -/
structure Handled (cfg : AtpConfig) (out : Bool) (w : World) : Prop where
  sound : w.priv.Sound out
  only : w.priv.Only .healthCheck w.ctx.healthTimer
  retry : w.priv.Names .delayedSpawn w.ctx.retryTimer
  monitor : w.priv.Names .monitor w.ctx.monitorTimer
  settings : w.ctx.settings = .ofConfig cfg
  positive : 0 < cfg.service.healthCheckIntervalMs

/-- The context is attached to its reactor. -/
structure Linked (cfg : AtpConfig) (out : Bool) (w : World) : Prop extends Handled cfg out w where
  attached : w.ctx.reactor = true

/-- The context is attached, and a RUNNING service has its health timer. -/
structure Ticking (cfg : AtpConfig) (out : Bool) (w : World) : Prop extends Linked cfg out w where
  ticking : w.ctx.state = .running → w.HealthLive

/-- The context is not attached, and the service is down. -/
structure Detached (cfg : AtpConfig) (out : Bool) (w : World) : Prop extends Handled cfg out w where
  detached : w.ctx.reactor = false
  stopped : w.ctx.state = .stopped
  childless : w.ctx.childPid ≤ 0

/-- The invariant. -/
def Supervised (cfg : AtpConfig) (out : Bool) (w : World) : Prop :=
  Ticking cfg out w ∨ Detached cfg out w

/-! ## Everything but timers -/

/-- What happens aside does not change the settings. -/
lemma Aside.settings (as : Aside w w') : w'.ctx.settings = w.ctx.settings := by
  simp only [ServiceCtx.settings, as.maxFailures, as.startTimeoutSec, as.stopTimeoutSec, as.interval]

/-- The health timers stay what they are. -/
lemma Handled.aside (ha : Handled cfg out w) (as : Aside w w') : Handled cfg out w' where
  sound := as.priv ▸ ha.sound
  only := by rw [as.priv, as.healthTimer]; exact ha.only
  retry := by rw [as.priv, as.retryTimer]; exact ha.retry
  monitor := by rw [as.priv, as.monitorTimer]; exact ha.monitor
  settings := as.settings.trans ha.settings
  positive := ha.positive

/-- So does the reactor of the context. -/
lemma Linked.aside (li : Linked cfg out w) (as : Aside w w') : Linked cfg out w' :=
  ⟨li.toHandled.aside as, as.reactor.trans li.attached⟩

/-- And the live health timer. -/
lemma World.HealthLive.aside (hl : w.HealthLive) (as : Aside w w') : w'.HealthLive := by
  rw [World.HealthLive, as.healthTimer, as.interval, as.priv]
  exact hl

/-- So nothing happens to a service that is RUNNING. -/
lemma Ticking.aside (ti : Ticking cfg out w) (as : Aside w w') : Ticking cfg out w' :=
  ⟨ti.toLinked.aside as, fun hs => (ti.ticking (as.state ▸ hs)).aside as⟩

lemma Linked.setState {s : ServiceState} (li : Linked cfg out w) : Linked cfg out (w.setState s) :=
  ⟨⟨li.sound, li.only, li.retry, li.monitor, li.settings, li.positive⟩, li.attached⟩

/-- A service that is not RUNNING needs no health timer. -/
lemma Linked.ticking (li : Linked cfg out w) (ne : w.ctx.state ≠ .running) : Ticking cfg out w :=
  ⟨li, fun hs => absurd hs ne⟩

/-- A service that leaves RUNNING needs no health timer. -/
lemma Ticking.setState {s : ServiceState} (ti : Ticking cfg out w) (ne : s ≠ .running) :
    Ticking cfg out (w.setState s) :=
  ti.toLinked.setState.ticking ne

/-! ## Timers -/

/-- An attached context cancels in its reactor. -/
lemma Linked.cancelCtxTimer_priv (li : Linked cfg out w) (id : Nat) :
    w.cancelCtxTimer (some id) = { w with priv := reactorCancelTimer w.priv id } := by
  simp only [World.cancelCtxTimer, li.attached, ↓reduceIte]

/-- And adds to it. -/
lemma Linked.addCtxTimer_eq (li : Linked cfg out w) (timeout interval : Nat) (cb : Callback) :
    w.addCtxTimer os timeout interval cb = w.addTimer os timeout interval cb := by
  simp only [World.addCtxTimer, li.attached, ↓reduceIte]

/-- A timer that is cancelled was the one of its handle. -/
lemma Handled.cancelCtxTimer (ha : Handled cfg out w) (h : Option Nat) :
    Handled cfg out (w.cancelCtxTimer h) := by
  cases h with
  | none => exact ha
  | some id =>
    simp only [World.cancelCtxTimer]
    split
    · exact ⟨ha.sound.cancel, ha.only.cancel ha.sound.wf, ha.retry.cancel ha.sound.wf,
        ha.monitor.cancel ha.sound.wf, ha.settings, ha.positive⟩
    · exact ha

lemma Linked.cancelCtxTimer (li : Linked cfg out w) (h : Option Nat) :
    Linked cfg out (w.cancelCtxTimer h) :=
  ⟨li.toHandled.cancelCtxTimer h, by rw [cancelCtxTimer_ctx]; exact li.attached⟩

/-- A cancel through a handle that names another callback leaves the health timer. -/
lemma World.HealthLive.cancelCtxTimer {cb : Callback} {h : Option Nat} (hl : w.HealthLive)
    (wf : w.priv.Wf) (na : w.priv.Names cb h) (ne : cb ≠ .healthCheck) :
    (w.cancelCtxTimer h).HealthLive := by
  obtain ⟨id, hid, live⟩ := hl
  refine ⟨id, by rw [cancelCtxTimer_ctx]; exact hid, ?_⟩
  rw [cancelCtxTimer_ctx]
  cases h with
  | none => exact live
  | some i =>
    simp only [World.cancelCtxTimer]
    split
    · exact na.live_cancel wf live (by simpa using ne.symm)
    · exact live

/-- The timers are the only thing a new timer changes. -/
lemma Handled.addTimer {timeout interval : Nat} {cb : Callback} (ha : Handled cfg out w)
    (ne : cb ≠ .healthCheck) : Handled cfg out (w.addTimer os timeout interval cb).1 :=
  ⟨ha.sound.add, ha.only.add_other ne, ha.retry.add, ha.monitor.add, ha.settings, ha.positive⟩

/-- Another timer leaves the live ones as they are. -/
lemma World.HealthLive.addTimer {timeout interval : Nat} {cb : Callback} (hl : w.HealthLive) :
    (w.addTimer os timeout interval cb).1.HealthLive := by
  obtain ⟨id, hid, live⟩ := hl
  refine ⟨id, hid, ?_⟩
  simp only [World.addTimer]
  cases os.timerAlloc with
  | false => simpa using live
  | true => exact mem_live_reactorAddTimer.mpr (.inr live)

lemma Ticking.addTimer {timeout interval : Nat} {cb : Callback} (ti : Ticking cfg out w)
    (ne : cb ≠ .healthCheck) : Ticking cfg out (w.addTimer os timeout interval cb).1 :=
  ⟨⟨ti.toHandled.addTimer ne, ti.attached⟩, fun hs => (ti.ticking hs).addTimer⟩

lemma Ticking.addCtxTimer {timeout interval : Nat} {cb : Callback} (ti : Ticking cfg out w)
    (ne : cb ≠ .healthCheck) : Ticking cfg out (w.addCtxTimer os timeout interval cb).1 := by
  rw [ti.toLinked.addCtxTimer_eq]
  exact ti.addTimer ne

lemma Ticking.cancelRetry (ti : Ticking cfg out w) : Ticking cfg out w.cancelRetry := by
  have li := ti.toLinked.cancelCtxTimer w.ctx.retryTimer
  refine ⟨⟨⟨li.sound, li.only, .null, li.monitor, li.settings, li.positive⟩, li.attached⟩, fun hs => ?_⟩
  have hs : w.ctx.state = .running := by
    simpa [World.cancelRetry, World.setRetry] using hs
  exact (ti.ticking hs).cancelCtxTimer ti.sound.wf ti.retry (by simp)

lemma Ticking.cancelMonitor (ti : Ticking cfg out w) : Ticking cfg out w.cancelMonitor := by
  have li := ti.toLinked.cancelCtxTimer w.ctx.monitorTimer
  refine ⟨⟨⟨li.sound, li.only, li.retry, .null, li.settings, li.positive⟩, li.attached⟩, fun hs => ?_⟩
  have hs : w.ctx.state = .running := by
    simpa [World.cancelMonitor, World.setMonitor] using hs
  exact (ti.ticking hs).cancelCtxTimer ti.sound.wf ti.monitor (by simp)

/-- A retry timer is no health timer. -/
lemma Ticking.addRetry {timeout : Nat} (ti : Ticking cfg out w) :
    Ticking cfg out ((w.addTimer os timeout 0 .delayedSpawn).1.setRetry
      (w.addTimer os timeout 0 .delayedSpawn).2) := by
  have added : Ticking cfg out (w.addTimer os timeout 0 .delayedSpawn).1 := ti.addTimer (by simp)
  exact ⟨⟨⟨added.sound, added.only, .add_self ti.sound.wf, added.monitor, added.settings,
    added.positive⟩, added.attached⟩, added.ticking⟩

/-- Nor is the monitor timer. -/
lemma Ticking.addMonitor {timeout interval : Nat} (ti : Ticking cfg out w) :
    Ticking cfg out ((w.addTimer os timeout interval .monitor).1.setMonitor
      (w.addTimer os timeout interval .monitor).2) := by
  have added : Ticking cfg out (w.addTimer os timeout interval .monitor).1 := ti.addTimer (by simp)
  exact ⟨⟨⟨added.sound, added.only, added.retry, .add_self ti.sound.wf, added.settings,
    added.positive⟩, added.attached⟩, added.ticking⟩

/-- After the health timer is cancelled, none is live. -/
lemma Linked.cancelHealth (li : Linked cfg out w) :
    Linked cfg out w.cancelHealth ∧ w.cancelHealth.priv.Only .healthCheck none := by
  have cancelled := li.cancelCtxTimer w.ctx.healthTimer
  have only : w.cancelHealth.priv.Only .healthCheck none := by
    change (w.cancelCtxTimer w.ctx.healthTimer).priv.Only .healthCheck none
    have on := li.only
    cases hh : w.ctx.healthTimer with
    | none =>
      rw [hh] at on
      exact on
    | some id =>
      rw [hh] at on
      rw [li.cancelCtxTimer_priv]
      exact on.cancel_self li.sound.wf
  exact ⟨⟨⟨cancelled.sound, only, cancelled.retry, cancelled.monitor, cancelled.settings,
    cancelled.positive⟩, cancelled.attached⟩, only⟩

/-- A health timer that is added while none is live is the one of the context. -/
lemma Linked.addHealth (li : Linked cfg out w) (only : w.priv.Only .healthCheck none)
    (interval : Nat) (os : Os) :
    Linked cfg out ((w.addTimer os interval interval .healthCheck).1.setHealth
      (w.addTimer os interval interval .healthCheck).2) :=
  ⟨⟨li.sound.add, only.add_self, li.retry.add, li.monitor.add, li.settings, li.positive⟩, li.attached⟩

/-! ## The service does something -/

lemma Ticking.scheduleRetry (ti : Ticking cfg out w) (os : Os) :
    Ticking cfg out (serviceScheduleRetry w os) := by
  have cancelled := (ti.aside .nextBackoff).cancelRetry
  simp only [serviceScheduleRetry, cancelled.toLinked.addCtxTimer_eq]
  split
  · exact cancelled.addRetry.setState (by simp)
  · exact cancelled.addRetry

lemma Ticking.chargeAndRetry (ti : Ticking cfg out w) (os : Os) :
    Ticking cfg out (w.chargeAndRetry os) := by
  have charged := (ti.aside .charge).aside (.recordFailure os.failTime)
  simp only [World.chargeAndRetry]
  split
  · exact (charged.aside (.note rfl)).setState (by simp)
  · exact charged.scheduleRetry os

/-- `service_spawn` leaves the timers alone. -/
lemma Ticking.spawn (ti : Ticking cfg out w) (os : Os) : Ticking cfg out (serviceSpawn w os).1 := by
  have called : Ticking cfg out (w.note .spawn) :=
    ⟨⟨⟨ti.sound, ti.only, ti.retry, ti.monitor, ti.settings, ti.positive⟩, ti.attached⟩, ti.ticking⟩
  exact called.aside (.spawn w os)

lemma Ticking.delayedSpawnAttempt (ti : Ticking cfg out w) (os : Os) :
    Ticking cfg out (delayedSpawnAttempt w os) := by
  have spawned := ti.spawn os
  rw [Service.delayedSpawnAttempt]
  split
  · rename_i heq
    rw [heq] at spawned
    exact (spawned.setState (by simp)).addCtxTimer (by simp)
  · rename_i heq
    rw [heq] at spawned
    exact spawned.chargeAndRetry os

/-- A retry makes the service STARTING, not RUNNING. -/
lemma Ticking.delayedSpawn (ti : Ticking cfg out w) (os : Os) :
    Ticking cfg out (serviceDelayedSpawnCb w os) := by
  rw [serviceDelayedSpawnCb]
  split
  · exact ti
  · dsimp only
    split
    · exact (ti.cancelRetry.aside .afterAllow).delayedSpawnAttempt os
    · exact ti.cancelRetry.scheduleRetry os

lemma Ticking.sigchldFailed (ti : Ticking cfg out w) (os : Os) :
    Ticking cfg out (sigchldFailed w os) := by
  have failed := (ti.setState (s := .failed) (by simp)).aside (.recordFailure os.failTime)
  rw [Service.sigchldFailed]
  split
  · dsimp only
    split
    · exact (failed.aside .charge).scheduleRetry os
    · exact failed
  · exact ti

/-- Behind the end of its child the service is not RUNNING any more. -/
lemma Ticking.sigchld (ti : Ticking cfg out w) (os : Os) :
    Ticking cfg out (serviceSigchldCb w os) := by
  rw [serviceSigchldCb]
  split
  · split
    · exact ti.aside (.note rfl)
    · have waited := ti.aside (.waitpidNohang w w.ctx.childPid os.alive1.dies)
      split
      · rename_i heq
        rw [heq] at waited
        have cleared := waited.aside (.trans .clearChild (.trans (.setHealthy false) .unlinkPid))
        exact cleared.sigchldFailed os
      · rename_i heq
        rw [heq] at waited
        exact waited
  · exact ti

/-- A service that becomes RUNNING gets a new health timer in place of the old one, or fails. -/
lemma Linked.monitorStartHealth (li : Linked cfg out w) (os : Os) :
    Ticking cfg out (monitorStartHealth w os) := by
  have same : w.ctx.healthCheckIntervalMs = cfg.service.healthCheckIntervalMs :=
    congrArg Settings.healthCheckIntervalMs li.settings
  have positive : 0 < w.ctx.healthCheckIntervalMs := same ▸ li.positive
  obtain ⟨cancelled, only⟩ := li.cancelHealth
  have added := cancelled.addHealth only w.ctx.healthCheckIntervalMs.toNat os
  rw [Service.monitorStartHealth, if_pos ⟨li.attached, positive⟩]
  simp only [cancelled.addCtxTimer_eq]
  split
  · exact added.setState.ticking (by simp)
  · rename_i ok
    refine ⟨added, fun _ => ?_⟩
    have alloc : os.timerAlloc = true := by
      by_contra fails
      simp [World.addTimer, Bool.eq_false_iff.mpr fails] at ok
    refine ⟨w.cancelHealth.priv.nextId, ?_, ?_⟩
    · simp [World.setHealth, World.addTimer, alloc]
    · simp only [World.setHealth, World.addTimer, alloc]
      refine mem_live_reactorAddTimer.mpr (.inl ?_)
      simp [World.cancelHealth, World.setHealth]

/-- A service becomes RUNNING with its health timer. -/
lemma Linked.monitorReady (li : Linked cfg out w) (os : Os) :
    Ticking cfg out (monitorReady w os) := by
  have ready := li.setState (s := .running) |>.aside (.note (o := .enteredRunning) rfl)
    |>.aside .resetCharges |>.aside (.setHealthy true)
    |>.aside (.setLastHealthCheck os.wallTime) |>.aside .resetBackoff |>.aside .recordSuccess
  exact ready.monitorStartHealth os

lemma Ticking.monitorProbe (ti : Ticking cfg out w) (os : Os) :
    Ticking cfg out (monitorProbe w os) := by
  have probed := ti.aside (.probeNativeApi w os)
  rw [Service.monitorProbe]
  split
  · rename_i heq
    rw [heq] at probed
    exact probed.toLinked.monitorReady os
  · rename_i heq
    rw [heq] at probed
    exact probed

lemma Ticking.monitorAlive (ti : Ticking cfg out w) (os : Os) :
    Ticking cfg out (monitorAlive w os) := by
  have validated := ti.aside (.validate w os)
  simp only [Service.monitorAlive]
  split
  · exact validated.monitorProbe os
  · exact validated

/-- A start that took too long is no RUNNING service. -/
lemma Ticking.monitorTimeout (ti : Ticking cfg out w) (os : Os) :
    Ticking cfg out (monitorTimeout w os) := by
  have failed := ((ti.aside .killTimedOut).setState (s := .failed) (by simp)).aside .charge
    |>.aside (.recordFailure os.failTime)
  simp only [Service.monitorTimeout]
  split
  · exact failed.scheduleRetry os
  · exact failed

lemma Ticking.monitorStarting (ti : Ticking cfg out w) (os : Os) :
    Ticking cfg out (monitorStarting w os) := by
  have asked := ti.aside (.startingChildAlive w os.alive1)
  rw [Service.monitorStarting]
  split
  · exact ti.monitorTimeout os
  · split
    · rename_i heq
      rw [heq] at asked
      exact asked.monitorAlive os
    · rename_i heq
      rw [heq] at asked
      exact asked.chargeAndRetry os

/-- `service_monitor_cb`, by its branches. -/
lemma Ticking.monitorCb (ti : Ticking cfg out w) (os : Os) :
    Ticking cfg out (serviceMonitorCb w os) := by
  rw [serviceMonitorCb]
  split
  · exact ti
  · exact ti.monitorStarting os
  · rw [monitorRunning]
    split
    · exact ti
    · exact (ti.setState (by simp)).chargeAndRetry os
  · rw [monitorFailed]
    split
    · exact ti.scheduleRetry os
    · exact ti
  · exact ti

/-- A service that was started is STARTING. -/
lemma Ticking.start (ti : Ticking cfg out w) (os : Os) : Ticking cfg out (serviceStartAsync w os).1 := by
  have called : Ticking cfg out (w.note .startCalled) :=
    ⟨⟨⟨ti.sound, ti.only, ti.retry, ti.monitor, ti.settings, ti.positive⟩, ti.attached⟩, ti.ticking⟩
  have allowed : Ticking cfg out ((w.note .startCalled).afterAllow os.allowTime) :=
    called.aside .afterAllow
  have spawned := allowed.spawn os
  simp only [serviceStartAsync]
  split
  · exact called
  · split
    · split
      · exact allowed.setState (by simp)
      · rw [startSpawn]
        split
        · split
          · rename_i heq
            rw [heq] at spawned
            exact (spawned.setState (by simp)).aside
              (.trans (.setStart _ _) (.trans .resetCharges .resetBackoff))
          · rename_i heq
            rw [heq] at spawned
            exact (spawned.setState (by simp)).aside (.recordFailure _)
        · exact allowed.setState (by simp)
    · exact called

/-! ## The service is attached and stopped -/

/-- Attaching adds the monitor timer; the health timer of a RUNNING service must be there. -/
lemma Handled.attach (ha : Handled cfg out w) (ticking : w.ctx.state = .running → w.HealthLive)
    (os : Os) : Ticking cfg out (serviceSetReactor w os).1 := by
  have attached : Ticking cfg out (w.setReactor true) :=
    ⟨⟨⟨ha.sound, ha.only, ha.retry, ha.monitor, ha.settings, ha.positive⟩, rfl⟩, ticking⟩
  have cancelled := attached.cancelMonitor
  simp only [serviceSetReactor, cancelled.toLinked.addCtxTimer_eq]
  exact cancelled.addMonitor

/-- `service_stop_sync` detaches the context, which leaves no health timer. -/
lemma Linked.detach (li : Linked cfg out w) (ne : w.ctx.state ≠ .running) :
    Handled cfg out w.detach ∧ w.detach.ctx.reactor = false := by
  have stopped := ((li.ticking ne).cancelMonitor.cancelRetry).toLinked.cancelHealth.1
  rw [World.detach, if_pos li.attached]
  exact ⟨⟨stopped.sound, stopped.only, stopped.retry, stopped.monitor, stopped.settings,
    stopped.positive⟩, rfl⟩

/-- A stop without a reactor leaves the context detached. -/
lemma Handled.stopSync (ha : Handled cfg out (w.setState .stopping).detach)
    (detached : (w.setState .stopping).detach.ctx.reactor = false) (os : Os) :
    Detached cfg out (serviceStopSync w os).1 := by
  have ended : Aside _ (stopChild (w.setState .stopping).detach os).1 := .stopChild _ os
  have cleared := ha.aside (ended.trans (.trans .clearChild (.setHealthy false)))
  have attached := ended.reactor.trans detached
  simp only [serviceStopSync]
  generalize (stopChild (w.setState .stopping).detach os).1 = w1 at cleared attached ⊢
  have childless : w1.clearChild.ctx.childPid ≤ 0 := by simp [World.clearChild]
  exact ⟨⟨cleared.sound, cleared.only, cleared.retry, cleared.monitor, cleared.settings,
    cleared.positive⟩, attached, rfl, childless⟩

/-- `service_stop_sync` cancels its timers before it detaches. -/
lemma Linked.stopSync (li : Linked cfg out w) (os : Os) : Detached cfg out (serviceStopSync w os).1 := by
  obtain ⟨ha, detached⟩ := (li.setState (s := .stopping)).detach (by simp)
  exact ha.stopSync detached os

/-- Without a reactor `service_stop_sync` has no timer to cancel. -/
lemma Handled.stopSync_detached (ha : Handled cfg out w) (detached : w.ctx.reactor = false) (os : Os) :
    Detached cfg out (serviceStopSync w os).1 := by
  have same : (w.setState .stopping).detach = w.setState .stopping := by
    simp [World.detach, World.setState, detached]
  have stopping : Handled cfg out (w.setState .stopping) :=
    ⟨ha.sound, ha.only, ha.retry, ha.monitor, ha.settings, ha.positive⟩
  exact Handled.stopSync (by rw [same]; exact stopping) (by rw [same]; exact detached) os

lemma Ticking.done {d : Bool} (ti : Ticking cfg out w) : Ticking cfg out (w.done d) := by
  rw [World.done]
  split
  · exact ti.aside (.note rfl)
  · exact ti

lemma Detached.done {d : Bool} (de : Detached cfg out w) : Detached cfg out (w.done d) := by
  rw [World.done]
  split
  · exact ⟨de.toHandled.aside (.note rfl), de.detached, de.stopped, de.childless⟩
  · exact de

lemma Ticking.noteStop (ti : Ticking cfg out w) : Ticking cfg out (w.note .stopReturned) :=
  ⟨⟨⟨ti.sound, ti.only, ti.retry, ti.monitor, ti.settings, ti.positive⟩, ti.attached⟩, ti.ticking⟩

lemma Ticking.stopAsyncWait (ti : Ticking cfg out w) (d : Bool) (os : Os) :
    Ticking cfg out (stopAsyncWait w d os).1 := by
  have cancelled := ti.cancelMonitor.cancelRetry
  simp only [Service.stopAsyncWait]
  split
  · split
    · exact cancelled.addCtxTimer (by simp)
    · exact (cancelled.addCtxTimer (by simp)).noteStop
  · exact ((cancelled.setState (by simp)).aside .resetCharges |>.aside (.setHealthy false)
      |>.aside .unlinkPid).done

/-- `service_stop_async` cancels them, too, and stays attached. -/
lemma Linked.stopAsync (li : Linked cfg out w) (d : Bool) (os : Os) :
    Ticking cfg out (serviceStopAsync w d os).1 := by
  have begun : Ticking cfg out w.beginStop.terminate := by
    have stopping := (li.setState (s := .stopping)).cancelHealth.1
    have down : w.beginStop = (w.setState .stopping).cancelHealth := if_pos li.attached
    rw [down]
    refine Ticking.aside (stopping.ticking ?_) .terminate
    simp [World.cancelHealth, World.setHealth, World.setState]
  simp only [serviceStopAsync]
  split
  · exact begun
  · rw [if_pos begun.attached]
    exact begun.stopAsyncWait d os

/-- A detached context has no wait: it is done at once. -/
lemma Detached.stopAsync (de : Detached cfg out w) (d : Bool) (os : Os) :
    Detached cfg out (serviceStopAsync w d os).1 := by
  have begun : w.beginStop.terminate = w.setState .stopping := by
    simp [World.beginStop, World.terminate, World.setState, de.detached, Int.not_lt.mpr de.childless]
  have ha : Handled cfg out (w.setState .stopping) :=
    ⟨de.sound, de.only, de.retry, de.monitor, de.settings, de.positive⟩
  have detached : (w.setState .stopping).ctx.reactor = false := de.detached
  have childless : ¬0 < (w.setState .stopping).ctx.childPid := Int.not_lt.mpr de.childless
  simp only [serviceStopAsync, begun, detached, childless, false_and, ↓reduceIte,
    Bool.false_eq_true]
  exact (ha.stopSync_detached detached os).done

lemma Ticking.stopWaitDone (ti : Ticking cfg out w) (s : StopState) :
    Ticking cfg out (stopWaitDone w s) :=
  (((ti.aside .clearChild).setState (by simp)).aside (.trans (.setHealthy false) .unlinkPid)).done

lemma Detached.stopWaitDone (de : Detached cfg out w) (s : StopState) :
    Detached cfg out (stopWaitDone w s) := by
  have cleared := de.toHandled.aside (.trans .clearChild (.trans (.setHealthy false) .unlinkPid))
  have stopped : Detached cfg out
      (serviceUnlinkPid ((w.clearChild.setState .stopped).setHealthy false)) :=
    ⟨⟨cleared.sound, cleared.only, cleared.retry, cleared.monitor, cleared.settings,
      cleared.positive⟩, de.detached, rfl, by simp [World.clearChild, World.setState, World.setHealthy]⟩
  exact stopped.done

/-- A tick of the wait, whether or not the context is attached. -/
lemma Supervised.stopWait (su : Supervised cfg out w) (s : StopState) (os : Os) :
    Supervised cfg out (serviceStopWaitCb w s os) := by
  rcases su with ti | de
  · rw [serviceStopWaitCb]
    split
    · dsimp only
      split
      · exact .inl ((ti.aside (.trans .kill .waitpid)).stopWaitDone _)
      · have added : Ticking cfg out
            (w.addTimer os 100 0 (.stopWait { s with attempts := s.attempts + 1 })).1 :=
          ti.addTimer (by simp)
        split
        · exact .inr (added.toLinked.stopSync os)
        · exact .inl added
    · exact .inl (ti.stopWaitDone s)
  · have dead : serviceIsAlive w os.alive1.stat = false := by
      simp [serviceIsAlive, Int.not_lt.mpr de.childless]
    rw [serviceStopWaitCb, dead]
    exact .inr (de.stopWaitDone s)

/-! ## The service is configured -/

/-- `service_apply_config` takes the settings of a validated configuration as they are. -/
lemma applyFields_settings (valid : configValidateValues cfg' = true) :
    (w.applyFields cfg').ctx.settings = .ofConfig cfg' := by
  obtain ⟨start, stop, failures, interval⟩ := configValidateValues_service valid
  simp [World.applyFields, ServiceCtx.settings, Settings.ofConfig, positiveOr, start, stop, failures,
    interval]

/-- A new configuration has a valid interval. -/
lemma Handled.applyFields (ha : Handled cfg out w) (valid : configValidateValues cfg' = true) :
    Handled cfg' out (w.applyFields cfg') :=
  ⟨ha.sound, ha.only, ha.retry, ha.monitor, applyFields_settings valid,
    (configValidateValues_service valid).2.2.2⟩

/-- A replacement of the health timer: the new timer is added before the old one is cancelled. -/
lemma Ticking.replaceHealth (ti : Ticking cfg out w) (running : w.ctx.state = .running)
    (valid : configValidateValues cfg' = true) (alloc : os.timerAlloc = true) :
    let interval := (positiveOr cfg'.service.healthCheckIntervalMs 5000).toNat
    let added := w.addTimer os interval interval .healthCheck
    Ticking cfg' out (((added.1.cancelCtxTimer w.ctx.healthTimer).applyFields cfg').setHealth added.2) := by
  intro interval added
  obtain ⟨old, named, live⟩ := ti.ticking running
  have sound : added.1.priv.Sound out := ti.sound.add
  have swapped : added.1.cancelCtxTimer w.ctx.healthTimer =
      { added.1 with priv := reactorCancelTimer added.1.priv old } := by
    rw [named]
    exact if_pos ti.attached
  have handle : added.2 = some w.priv.nextId := by
    simp [added, World.addTimer, alloc]
  have mem : ∀ x, x ∈ added.1.priv.live ↔
      x = ⟨w.priv.nextId, interval, some .healthCheck⟩ ∨ x ∈ w.priv.live := by
    intro x
    simp only [added, World.addTimer, alloc]
    exact mem_live_reactorAddTimer
  -- the new timer is not the one that is cancelled
  have fresh : w.priv.nextId ≠ old := by
    obtain ⟨t, ht | ht, -, heq⟩ := mem_live.mp live
    · have lt := ti.sound.wf.runningFresh t ht
      have same : t.id = old := congrArg PublicTimer.id heq
      omega
    · have lt := ti.sound.wf.fresh t ht
      have same : t.id = old := congrArg PublicTimer.id heq
      omega
  rw [swapped, handle]
  have base : Handled cfg' out (({ added.1 with priv := reactorCancelTimer added.1.priv old :
      World }.applyFields cfg').setHealth (some w.priv.nextId)) := by
    refine ⟨sound.cancel, fun x hx hcb => ?_, ti.retry.add.cancel sound.wf,
      ti.monitor.add.cancel sound.wf, applyFields_settings (w := w) valid,
      (configValidateValues_service valid).2.2.2⟩
    obtain ⟨hx, other⟩ := (mem_live_reactorCancelTimer sound.wf).mp hx
    rcases (mem x).mp hx with rfl | hx
    · rfl
    · exact absurd (Option.some.inj (named.symm.trans (ti.only x hx hcb))).symm other
  refine ⟨⟨base, ti.attached⟩, fun _ => ⟨w.priv.nextId, rfl, ?_⟩⟩
  exact (mem_live_reactorCancelTimer sound.wf).mpr ⟨(mem _).mpr (.inl rfl), fresh⟩

/-- `service_apply_config` is transactional: it brings the context in step with a validated
configuration, or it changes nothing. -/
lemma Supervised.applyConfig (su : Supervised cfg out w) (valid : configValidateValues cfg' = true)
    (os : Os) :
    ((serviceApplyConfig w cfg' os).2 = false → (serviceApplyConfig w cfg' os).1 = w) ∧
    ((serviceApplyConfig w cfg' os).2 = true → Supervised cfg' out (serviceApplyConfig w cfg' os).1) := by
  simp only [serviceApplyConfig]
  split
  · rename_i changed
    obtain ⟨-, attached, running⟩ := changed
    rcases su with ti | de
    · rw [ti.toLinked.addCtxTimer_eq]
      cases alloc : os.timerAlloc with
      | false =>
        have fails : w.addTimer os (positiveOr cfg'.service.healthCheckIntervalMs 5000).toNat
            (positiveOr cfg'.service.healthCheckIntervalMs 5000).toNat .healthCheck = (w, none) := by
          simp [World.addTimer, alloc]
        simp [fails]
      | true =>
        have handle : (w.addTimer os (positiveOr cfg'.service.healthCheckIntervalMs 5000).toNat
            (positiveOr cfg'.service.healthCheckIntervalMs 5000).toNat .healthCheck).2 ≠ none := by
          simp [World.addTimer, alloc]
        rw [if_neg handle]
        exact ⟨by simp, fun _ => .inl (ti.replaceHealth running valid alloc)⟩
    · exact absurd (attached.symm.trans de.detached) (by decide)
  · rename_i same
    refine ⟨by simp, fun _ => ?_⟩
    rcases su with ti | de
    · refine .inl ⟨⟨ti.toHandled.applyFields valid, ti.attached⟩, fun running => ?_⟩
      have kept : positiveOr cfg'.service.healthCheckIntervalMs 5000 =
          w.ctx.healthCheckIntervalMs := by
        -- with another interval the timer would have been replaced
        by_contra ne
        exact same ⟨ne, ti.attached, running⟩
      obtain ⟨id, named, live⟩ := ti.ticking running
      refine ⟨id, named, ?_⟩
      simp only [World.applyFields, kept]
      exact live
    · exact .inr ⟨de.toHandled.applyFields valid, de.detached, de.stopped, de.childless⟩

/-! ## Timers fire -/

/-- Attached or not, the health timers are known. -/
lemma Supervised.handled (su : Supervised cfg out w) : Handled cfg out w :=
  su.elim (·.toHandled) (·.toHandled)

/-- Nothing happens to a service that is detached. -/
lemma Detached.aside (de : Detached cfg out w) (as : Aside w w') (same : w'.ctx = w.ctx) :
    Detached cfg out w' :=
  ⟨de.toHandled.aside as, same ▸ de.detached, same ▸ de.stopped, same ▸ de.childless⟩

/-- By cases on the callback. -/
lemma Supervised.dispatch (su : Supervised cfg out w) (os : Os) (cb : Callback) :
    Supervised cfg out (dispatch w os cb) := by
  rcases su with ti | de
  · cases cb with
    | monitor => exact .inl (ti.monitorCb os)
    | delayedSpawn => exact .inl (ti.delayedSpawn os)
    | healthCheck => exact .inl (ti.aside (.health w os))
    | stopWait s => exact Supervised.stopWait (.inl ti) s os
  · cases cb with
    | monitor => exact .inr (by simpa [Service.dispatch, serviceMonitorCb, de.stopped] using de)
    | delayedSpawn =>
      exact .inr (by simpa [Service.dispatch, serviceDelayedSpawnCb, de.stopped] using de)
    | healthCheck =>
      exact .inr (by simpa [Service.dispatch, serviceHealthCheckCb, de.stopped] using de)
    | stopWait s => exact Supervised.stopWait (.inr de) s os

/-- The timers change, but no handle becomes live and the health timer stays. -/
lemma Supervised.retime {r : Priv Callback} {out' : Bool} (su : Supervised cfg out w)
    (sound : r.Sound out') (le : w.priv.nextId ≤ r.nextId) (sub : ∀ x ∈ r.live, x ∈ w.priv.live)
    (stays : ∀ x ∈ w.priv.live, 0 < x.intervalMs → x ∈ r.live) :
    Supervised cfg out' { w with priv := r } := by
  have ha := su.handled
  have base : Handled cfg out' { w with priv := r } :=
    ⟨sound, ha.only.mono sub, ha.retry.mono le sub, ha.monitor.mono le sub, ha.settings, ha.positive⟩
  refine su.imp (fun ti => ⟨⟨base, ti.attached⟩, fun running => ?_⟩)
    (fun de => ⟨base, de.detached, de.stopped, de.childless⟩)
  obtain ⟨id, named, live⟩ := ti.ticking running
  have same : w.ctx.healthCheckIntervalMs = cfg.service.healthCheckIntervalMs :=
    congrArg Settings.healthCheckIntervalMs ha.settings
  have positive := ha.positive
  exact ⟨id, named, stays _ live (by dsimp only; omega)⟩

/-- The timer runs on, or is freed, behind its callback. -/
lemma Supervised.fire {t : Timer Callback} (su : Supervised cfg true w) (ht : t ∈ w.priv.timers)
    (nowMs : Nat) (os : Os) : Supervised cfg true (w.fire t nowMs os) := by
  have sound := su.handled.sound.tick nowMs
  rw [World.fire]
  split
  · rename_i mark
    exact su.retime sound.free (Nat.le_refl _) (fun x hx => live_of_freeTimer hx)
      fun x hx _ => sound.live_freeTimer ht mark hx
  · -- the health timer is periodic: it is live before, during and after its own callback
    have begun : Supervised cfg false (w.beginTimer t nowMs) :=
      su.retime (sound.begin ht) (Nat.le_refl _) (fun x hx => live_of_beginTimer ht hx)
        fun x hx _ => (mem_live_beginTimer sound.wf ht (sound.idle rfl)).mpr hx
    have ran : Supervised cfg false ((w.beginTimer t nowMs).runTimer t os) := by
      rw [World.runTimer]
      split
      · split
        · exact begun.dispatch os _
        · exact begun
      · exact begun
    have inside := ran.handled.sound
    exact ran.retime inside.endTimer (Nat.le_of_eq endTimer_nextId.symm)
      (fun x hx => live_of_endTimer hx) fun x hx periodic => inside.live_endTimer hx periodic

/-- Every event keeps the invariant, if the service is started only while it is attached; the
configuration is applied by a reload. -/
lemma Supervised.step {e : Event} (su : Supervised cfg true w) (st : step w e = some w')
    (start : ∀ os, e = .start os → w.ctx.reactor = true)
    (apply : ∀ cfg' os, e ≠ .applyConfig cfg' os) : Supervised cfg true w' := by
  cases e with
  | setReactor os =>
    cases st
    rcases su with ti | de
    · exact .inl (ti.attach ti.ticking os)
    · exact .inl (de.attach (fun running => by simp [de.stopped] at running) os)
  | start os =>
    cases st
    rcases su with ti | de
    · exact .inl (ti.start os)
    · -- a detached context is not started
      exact absurd ((start os rfl).symm.trans de.detached) (by decide)
  | monitor os =>
    cases st
    exact su.dispatch os .monitor
  | timer id nowMs os =>
    obtain ⟨t, due, rfl⟩ := Option.map_eq_some_iff.mp st
    exact su.fire (World.due_mem due) nowMs os
  | sigchld os =>
    cases st
    rcases su with ti | de
    · exact .inl (ti.sigchld os)
    · exact .inr (by simpa [serviceSigchldCb, Int.not_lt.mpr de.childless] using de)
  | health os =>
    cases st
    exact su.dispatch os .healthCheck
  | exit pid =>
    cases st
    exact su.imp (·.aside .exit) (·.aside .exit exit_ctx)
  | stopAsync d os =>
    cases st
    exact su.imp (·.toLinked.stopAsync d os) (·.stopAsync d os)
  | stopSync os =>
    cases st
    rcases su with ti | de
    · exact .inr (ti.toLinked.stopSync os)
    · exact .inr (de.stopSync_detached de.detached os)
  | applyConfig cfg' os => exact absurd rfl (apply cfg' os)

/-- A context that `service_init` builds from a validated configuration. -/
lemma World.init_supervised {alloc : Bool} {ctx : ServiceCtx} (init : serviceInit cfg alloc = some ctx)
    (valid : configValidateValues cfg = true) (pidFile : Option Int) (nowMs : Nat) :
    Supervised cfg true (World.init ctx pidFile nowMs) := by
  obtain ⟨_, _, _, _, _, rfl⟩ := serviceInit_eq init
  obtain ⟨start, stop, failures, interval⟩ := configValidateValues_service valid
  refine .inr ⟨⟨.create, reactorCreate_only, .null, .null, ?_, interval⟩, rfl, rfl, ?_⟩
  · simp [World.init, initCtx, ServiceCtx.settings, Settings.ofConfig, positiveOr, start, stop,
      failures, interval]
  · simp [World.init, initCtx]

/-- While the service is RUNNING, one health timer is live, with the interval of the
configuration. -/
lemma Supervised.one_health (su : Supervised cfg out w) (running : w.ctx.state = .running) :
    ∃ id, w.ctx.healthTimer = some id ∧
      w.priv.live.filter (fun x => x.callback = some .healthCheck) =
        [⟨id, cfg.service.healthCheckIntervalMs.toNat, some .healthCheck⟩] := by
  rcases su with ti | de
  · obtain ⟨id, named, live⟩ := ti.ticking running
    have same : w.ctx.healthCheckIntervalMs = cfg.service.healthCheckIntervalMs :=
      congrArg Settings.healthCheckIntervalMs ti.settings
    refine ⟨id, named, ?_⟩
    rw [← same]
    exact (named ▸ ti.only).filter_live ti.sound.wf live
  · exact absurd (running.symm.trans de.stopped) (by decide)

end Atpd.Service
