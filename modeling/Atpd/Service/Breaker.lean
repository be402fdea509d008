import Atpd.Service.Frame
import Atpd.Service.Step

/-!
# The circuit breaker over whole runs

Failures are recorded at seven places of the supervisor, successes at two, and `service_spawn` is
called at two. `Governed` says what all of them keep between the breaker and the history of the run:
`consecutive_failures` is the number of failures since the last success or cooldown reset, and the
circuit is open exactly when that number has reached the threshold. A spawn is always behind
`circuit_breaker_should_allow`, so it finds the circuit closed.
-/

namespace Atpd.Service

open Atpd.Config Atpd.Reactor Atpd.Lib

variable {w w' : World} {os : Os} {pid : Int} {threshold cooldown : Int}

/-! ## The property -/

/-- The failures recorded since the latest of the start, the last success and the last cooldown
reset. -/
def failuresSince : List Obs → Nat
  | [] => 0
  | .breakerSuccess :: _ => 0
  | .breakerCooldown _ :: _ => 0
  | .breakerFailure _ :: log => failuresSince log + 1
  | _ :: log => failuresSince log

/-- The time of the last failure recorded. -/
def lastFailure : List Obs → Option Int
  | [] => none
  | .breakerFailure time :: _ => some time
  | _ :: log => lastFailure log

/-- Whenever `service_spawn` began, fewer than `threshold` failures had been recorded. -/
def SpawnsAllowed (threshold : Int) : List Obs → Prop
  | [] => True
  | .spawn :: log => failuresSince log < threshold ∧ SpawnsAllowed threshold log
  | _ :: log => SpawnsAllowed threshold log

/-- Each cooldown reset came more than `cooldown` seconds after the last failure before it. -/
def CooldownsWaited (cooldown : Int) : List Obs → Prop
  | [] => True
  | .breakerCooldown time :: log =>
    (∃ last, lastFailure log = some last ∧ cooldown < time - last) ∧ CooldownsWaited cooldown log
  | _ :: log => CooldownsWaited cooldown log

/-- The circuit is open exactly at the threshold, and it has guarded every spawn of the run. -/
structure BreakerSound (threshold cooldown : Int) (w : World) : Prop where
  open_iff : w.ctx.breaker.circuitOpen = true ↔ threshold ≤ w.ctx.breaker.consecutiveFailures
  spawns : SpawnsAllowed threshold w.log
  cooldowns : CooldownsWaited cooldown w.log

/-! ## The breaker and its history -/

/-- The breaker agrees with the history. -/
structure Governed (threshold cooldown : Int) (cb : CircuitBreaker) (log : List Obs) : Prop where
  positive : 1 ≤ threshold
  threshold_eq : cb.threshold = threshold
  cooldown_eq : cb.cooldownSeconds = cooldown
  count : cb.consecutiveFailures = failuresSince log
  open_iff : cb.circuitOpen = true ↔ threshold ≤ failuresSince log
  last : ∀ time, lastFailure log = some time → cb.lastFailureTime = time
  spawns : SpawnsAllowed threshold log
  cooldowns : CooldownsWaited cooldown log

/-- Observations that the breaker has to do with. -/
def Obs.isRated : Obs → Bool
  | .spawn | .breakerFailure _ | .breakerSuccess | .breakerCooldown _ => true
  | _ => false

/-- Failures that are counted have a last one. -/
lemma exists_lastFailure {log : List Obs} (pos : 0 < failuresSince log) :
    ∃ time, lastFailure log = some time := by
  induction log with
  | nil => cases pos
  | cons o log ih => cases o <;> first | exact ih pos | exact ⟨_, rfl⟩ | cases pos

namespace Governed

variable {cb : CircuitBreaker} {log l : List Obs}

/-- What is not rated leaves the breaker as it is. -/
lemma cons {o : Obs} (go : Governed threshold cooldown cb log) (ho : o.isRated = false) :
    Governed threshold cooldown cb (o :: log) := by
  obtain ⟨positive, thr, cool, count, iff, last, spawns, cooldowns⟩ := go
  cases o <;> first
    | exact ⟨positive, thr, cool, count, iff, last, spawns, cooldowns⟩
    | simp [Obs.isRated] at ho

/-- By induction on what was noted. -/
lemma append (go : Governed threshold cooldown cb log) (hl : ∀ o ∈ l, o.isRated = false) :
    Governed threshold cooldown cb (l ++ log) := by
  induction l with
  | nil => exact go
  | cons o l ih =>
    have rest := ih fun o' ho => hl o' (by simp [ho])
    exact rest.cons (hl o (by simp))

/-- `circuit_breaker_record_failure`. -/
lemma failure (go : Governed threshold cooldown cb log) (time : Int) :
    Governed threshold cooldown (circuitBreakerRecordFailure cb time)
      (.breakerFailure time :: log) := by
  refine ⟨go.positive, go.threshold_eq, go.cooldown_eq, ?_, ?_, ?_, go.spawns, go.cooldowns⟩
  · simp only [circuitBreakerRecordFailure, failuresSince, go.count]
    rfl
  · have iff := go.open_iff
    simp only [circuitBreakerRecordFailure, failuresSince, Bool.or_eq_true, decide_eq_true_eq,
      go.count, go.threshold_eq, iff]
    omega
  · rintro last ⟨⟩
    rfl

/-- `circuit_breaker_record_success`. -/
lemma success (go : Governed threshold cooldown cb log) :
    Governed threshold cooldown (circuitBreakerRecordSuccess cb) (.breakerSuccess :: log) := by
  refine ⟨go.positive, go.threshold_eq, go.cooldown_eq, ?_, ?_, go.last, go.spawns, go.cooldowns⟩
  · have count := go.count
    simp only [circuitBreakerRecordSuccess, failuresSince]
    split <;> omega
  · have positive := go.positive
    simp only [circuitBreakerRecordSuccess, failuresSince, Bool.false_eq_true, false_iff]
    omega

/-- The reset of `circuit_breaker_should_allow`: an open circuit has a last failure. -/
lemma cooled {time : Int} (go : Governed threshold cooldown cb log)
    (expired : cb.cooledDown time = true) :
    Governed threshold cooldown (circuitBreakerAfterAllow cb time)
      (.breakerCooldown time :: log) := by
  have positive := go.positive
  have waited : ∃ last, lastFailure log = some last ∧ cooldown < time - last := by
    simp only [CircuitBreaker.cooledDown, Bool.and_eq_true, decide_eq_true_eq] at expired
    have recorded : 0 < failuresSince log := by
      have full := go.open_iff.mp expired.1
      omega
    obtain ⟨last, hlast⟩ := exists_lastFailure recorded
    refine ⟨last, hlast, ?_⟩
    rw [← go.last last hlast, ← go.cooldown_eq]
    exact expired.2
  rw [circuitBreakerAfterAllow, if_pos expired]
  refine ⟨positive, go.threshold_eq, go.cooldown_eq, rfl, ?_, go.last, go.spawns, waited, go.cooldowns⟩
  simp only [failuresSince, Bool.false_eq_true, false_iff]
  omega

/-- `service_spawn` begins while the circuit is closed. -/
lemma spawn (go : Governed threshold cooldown cb log) (closed : cb.circuitOpen = false) :
    Governed threshold cooldown cb (.spawn :: log) := by
  refine ⟨go.positive, go.threshold_eq, go.cooldown_eq, go.count, go.open_iff, go.last, ⟨?_, go.spawns⟩,
    go.cooldowns⟩
  have few : ¬threshold ≤ failuresSince log := by
    intro full
    have opened := go.open_iff.mpr full
    rw [closed] at opened
    cases opened
  omega

end Governed

/-! ## The supervisor -/

/-- The breaker of the context agrees with the history of the run. -/
def World.Ruled (threshold cooldown : Int) (w : World) : Prop :=
  Governed threshold cooldown w.ctx.breaker w.log

namespace World.Ruled

/-- What becomes of the child alone does not touch the breaker. -/
lemma childOnly (ru : w.Ruled threshold cooldown) (co : ChildOnly w w') :
    w'.Ruled threshold cooldown := by
  obtain ⟨l, hl, child⟩ := co.log
  rw [Ruled, co.breaker, hl]
  apply Governed.append ru
  intro o ho
  have hc := child o ho
  cases o <;> first | rfl | simp [Obs.isChild] at hc

lemma note {o : Obs} (ru : w.Ruled threshold cooldown) (ho : o.isRated = false) :
    (w.note o).Ruled threshold cooldown :=
  Governed.cons ru ho

lemma setState {s : ServiceState} (ru : w.Ruled threshold cooldown) :
    (w.setState s).Ruled threshold cooldown := ru

lemma setRetry {h : Option Nat} (ru : w.Ruled threshold cooldown) :
    (w.setRetry h).Ruled threshold cooldown := ru

lemma setHealth {h : Option Nat} (ru : w.Ruled threshold cooldown) :
    (w.setHealth h).Ruled threshold cooldown := ru

lemma setMonitor {h : Option Nat} (ru : w.Ruled threshold cooldown) :
    (w.setMonitor h).Ruled threshold cooldown := ru

lemma applyFields {cfg : AtpConfig} (ru : w.Ruled threshold cooldown) :
    (w.applyFields cfg).Ruled threshold cooldown := ru

lemma charge (ru : w.Ruled threshold cooldown) : w.charge.Ruled threshold cooldown :=
  Governed.cons ru rfl

lemma resetCharges (ru : w.Ruled threshold cooldown) : w.resetCharges.Ruled threshold cooldown :=
  Governed.cons ru rfl

/-- The backoff is not part of the breaker. -/
lemma resetBackoff (ru : w.Ruled threshold cooldown) : w.resetBackoff.Ruled threshold cooldown :=
  Governed.cons ru rfl

/-- A failure is rated, by the breaker and on record. -/
lemma recordFailure (ru : w.Ruled threshold cooldown) (time : Int) :
    (w.recordFailure time).Ruled threshold cooldown :=
  Governed.failure ru time

/-- A success closes the breaker. -/
lemma recordSuccess (ru : w.Ruled threshold cooldown) : w.recordSuccess.Ruled threshold cooldown :=
  Governed.success ru

/-- Asking the breaker may half-open it, once its cooldown is over. -/
lemma afterAllow (ru : w.Ruled threshold cooldown) (time : Int) :
    (w.afterAllow time).Ruled threshold cooldown := by
  rw [World.afterAllow]
  split
  · rename_i expired
    exact Governed.cooled ru expired
  · exact ru

/-! ### Timers -/

lemma cancelCtxTimer {h : Option Nat} (ru : w.Ruled threshold cooldown) :
    (w.cancelCtxTimer h).Ruled threshold cooldown := by
  rw [cancelCtxTimer_eq]
  exact ru

lemma addCtxTimer (ru : w.Ruled threshold cooldown) (os : Os) (timeout interval : Nat)
    (cb : Callback) : (w.addCtxTimer os timeout interval cb).1.Ruled threshold cooldown := by
  rw [addCtxTimer_eq]
  exact ru

lemma cancelRetry (ru : w.Ruled threshold cooldown) : w.cancelRetry.Ruled threshold cooldown :=
  ru.cancelCtxTimer

lemma cancelHealth (ru : w.Ruled threshold cooldown) : w.cancelHealth.Ruled threshold cooldown :=
  ru.cancelCtxTimer

lemma cancelMonitor (ru : w.Ruled threshold cooldown) : w.cancelMonitor.Ruled threshold cooldown :=
  ru.cancelCtxTimer

/-- `service_schedule_retry` does not ask the breaker. -/
lemma scheduleRetry (ru : w.Ruled threshold cooldown) (os : Os) :
    (serviceScheduleRetry w os).Ruled threshold cooldown := by
  have next : w.nextBackoff.Ruled threshold cooldown := Governed.cons ru rfl
  have added := next.cancelRetry.addCtxTimer os w.ctx.backoff.currentDelayMs 0 .delayedSpawn
  simp only [serviceScheduleRetry]
  split
  · exact added.setRetry.setState
  · exact added.setRetry

/-- A charge is another count than the breaker's. -/
lemma chargeAndRetry (ru : w.Ruled threshold cooldown) (os : Os) :
    (w.chargeAndRetry os).Ruled threshold cooldown := by
  have charged := ru.charge.recordFailure os.failTime
  simp only [World.chargeAndRetry]
  split
  · exact charged.note rfl
  · exact charged.scheduleRetry os

/-! ### Spawning -/

/-- After `circuit_breaker_should_allow` has said yes the circuit is closed. -/
lemma closed_of_allow {time : Int} (allow : circuitBreakerShouldAllow w.ctx.breaker time = true) :
    (w.afterAllow time).ctx.breaker.circuitOpen = false := by
  rw [circuitBreakerShouldAllow, Bool.or_eq_true, Bool.not_eq_true'] at allow
  rw [World.afterAllow]
  split
  · rename_i expired
    simp [circuitBreakerAfterAllow, expired]
  · rename_i waiting
    rcases allow with closed | expired
    · exact closed
    · exact absurd expired waiting

/-- `service_spawn` with the breaker closed is allowed by the rule. -/
lemma spawn (ru : w.Ruled threshold cooldown) (closed : w.ctx.breaker.circuitOpen = false) (os : Os) :
    (serviceSpawn w os).1.Ruled threshold cooldown := by
  have called : (w.note .spawn).Ruled threshold cooldown := Governed.spawn ru closed
  exact called.childOnly (.spawn w os)

/-- A retry is only attempted with the breaker closed. -/
lemma delayedSpawnAttempt (ru : w.Ruled threshold cooldown)
    (closed : w.ctx.breaker.circuitOpen = false) (os : Os) :
    (delayedSpawnAttempt w os).Ruled threshold cooldown := by
  have spawned := ru.spawn closed os
  rw [Service.delayedSpawnAttempt]
  split
  · rename_i heq
    rw [heq] at spawned
    exact spawned.setState.addCtxTimer os 100 0 .monitor
  · rename_i heq
    rw [heq] at spawned
    exact spawned.chargeAndRetry os

/-- `service_delayed_spawn_cb` asks the breaker first. -/
lemma delayedSpawn (ru : w.Ruled threshold cooldown) (os : Os) :
    (serviceDelayedSpawnCb w os).Ruled threshold cooldown := by
  rw [serviceDelayedSpawnCb]
  split
  · exact ru
  · dsimp only
    split
    · rename_i allow
      exact (ru.cancelRetry.afterAllow os.allowTime).delayedSpawnAttempt (closed_of_allow allow) os
    · exact ru.cancelRetry.scheduleRetry os

/-- A start is only attempted with the breaker closed. -/
lemma startSpawn (ru : w.Ruled threshold cooldown) (closed : w.ctx.breaker.circuitOpen = false)
    (os : Os) : (startSpawn w os).1.Ruled threshold cooldown := by
  have spawned := ru.spawn closed os
  rw [Service.startSpawn]
  split
  · split
    · rename_i heq
      rw [heq] at spawned
      exact (spawned.setState.childOnly (.setStart os.wallTime os.startMs)).resetCharges.resetBackoff
    · rename_i heq
      rw [heq] at spawned
      exact spawned.setState.recordFailure os.failTime
  · exact ru.setState

/-- `service_start_async` asks the breaker first. -/
lemma start (ru : w.Ruled threshold cooldown) (os : Os) :
    (serviceStartAsync w os).1.Ruled threshold cooldown := by
  have called := ru.note (o := .startCalled) rfl
  simp only [serviceStartAsync]
  split
  · exact called
  · split
    · rename_i allow
      have allowed := called.afterAllow os.allowTime
      split
      · exact allowed.setState
      · exact allowed.startSpawn (closed_of_allow allow) os
    · exact called

/-! ### SIGCHLD, health and monitor -/

/-- The end of a child that was up is a failure. -/
lemma sigchldFailed (ru : w.Ruled threshold cooldown) (os : Os) :
    (sigchldFailed w os).Ruled threshold cooldown := by
  have failed := (ru.setState (s := .failed)).recordFailure os.failTime
  rw [Service.sigchldFailed]
  split
  · dsimp only
    split
    · exact failed.charge.scheduleRetry os
    · exact failed
  · exact ru

/-- `service_sigchld_cb` records it only for a child that it has reaped. -/
lemma sigchld (ru : w.Ruled threshold cooldown) (os : Os) :
    (serviceSigchldCb w os).Ruled threshold cooldown := by
  have waited := ru.childOnly (.waitpidNohang w w.ctx.childPid os.alive1.dies)
  rw [serviceSigchldCb]
  split
  · split
    · exact ru.note rfl
    · split
      · rename_i heq
        rw [heq] at waited
        have cleared := waited.childOnly (.trans .clearChild (.trans (.setHealthy false) .unlinkPid))
        exact cleared.sigchldFailed os
      · rename_i heq
        rw [heq] at waited
        exact waited
  · exact ru

/-- The health check records what it finds. -/
lemma health (ru : w.Ruled threshold cooldown) (os : Os) :
    (serviceHealthCheckCb w os).Ruled threshold cooldown := by
  have checked : ∀ healthy : Bool,
      ((w.setHealthy healthy).setLastHealthCheck os.wallTime).Ruled threshold cooldown :=
    fun healthy => ru.childOnly (.trans (.setHealthy healthy) (.setLastHealthCheck os.wallTime))
  simp only [serviceHealthCheckCb]
  split
  · split
    · split
      · exact (checked _).recordSuccess
      · exact (checked _).recordFailure os.failTime
    · exact ru.childOnly (.setHealthy false)
  · exact ru

lemma monitorStartHealth (ru : w.Ruled threshold cooldown) (os : Os) :
    (monitorStartHealth w os).Ruled threshold cooldown := by
  rw [Service.monitorStartHealth]
  split
  · have added := ru.cancelHealth.addCtxTimer os w.ctx.healthCheckIntervalMs.toNat
      w.ctx.healthCheckIntervalMs.toNat .healthCheck
    dsimp only
    split
    · exact added.setHealth.setState
    · exact added.setHealth
  · exact ru

/-- A service that is ready is a success. -/
lemma monitorReady (ru : w.Ruled threshold cooldown) (os : Os) :
    (monitorReady w os).Ruled threshold cooldown := by
  have entered := (ru.setState (s := .running)).note (o := .enteredRunning) rfl
  have checked := entered.resetCharges.childOnly
    (.trans (.setHealthy true) (.setLastHealthCheck os.wallTime))
  exact checked.resetBackoff.recordSuccess.monitorStartHealth os

lemma monitorAlive (ru : w.Ruled threshold cooldown) (os : Os) :
    (monitorAlive w os).Ruled threshold cooldown := by
  have validated := ru.childOnly (.validate w os)
  have probed := validated.childOnly (.probeNativeApi (monitorValidate w os) os)
  simp only [Service.monitorAlive]
  split
  · rw [monitorProbe]
    split
    · rename_i heq
      rw [heq] at probed
      exact probed.monitorReady os
    · rename_i heq
      rw [heq] at probed
      exact probed
  · exact validated

/-- A start that takes too long is a failure. -/
lemma monitorTimeout (ru : w.Ruled threshold cooldown) (os : Os) :
    (monitorTimeout w os).Ruled threshold cooldown := by
  have failed := ((ru.childOnly .killTimedOut).setState (s := .failed)).charge
    |>.recordFailure os.failTime
  simp only [Service.monitorTimeout]
  split
  · exact failed.scheduleRetry os
  · exact failed

lemma monitorStarting (ru : w.Ruled threshold cooldown) (os : Os) :
    (monitorStarting w os).Ruled threshold cooldown := by
  have asked := ru.childOnly (.startingChildAlive w os.alive1)
  rw [Service.monitorStarting]
  split
  · exact ru.monitorTimeout os
  · split
    · rename_i heq
      rw [heq] at asked
      exact asked.monitorAlive os
    · rename_i heq
      rw [heq] at asked
      exact asked.chargeAndRetry os

/-- `service_monitor_cb`, by its branches. -/
lemma monitor (ru : w.Ruled threshold cooldown) (os : Os) :
    (serviceMonitorCb w os).Ruled threshold cooldown := by
  rw [serviceMonitorCb]
  split
  · exact ru
  · exact ru.monitorStarting os
  · rw [monitorRunning]
    split
    · exact ru
    · exact ru.setState.chargeAndRetry os
  · rw [monitorFailed]
    split
    · exact ru.scheduleRetry os
    · exact ru
  · exact ru

/-! ### Control -/

lemma setReactor (ru : w.Ruled threshold cooldown) (os : Os) :
    (serviceSetReactor w os).1.Ruled threshold cooldown := by
  have attached : (w.setReactor true).Ruled threshold cooldown := ru
  exact (attached.cancelMonitor.addCtxTimer os 100 1000 .monitor).setMonitor

/-- A new configuration leaves threshold and cooldown as they are. -/
lemma applyConfig {cfg : AtpConfig} (ru : w.Ruled threshold cooldown) (os : Os) :
    (serviceApplyConfig w cfg os).1.Ruled threshold cooldown := by
  have added := ru.addCtxTimer os (positiveOr cfg.service.healthCheckIntervalMs 5000).toNat
    (positiveOr cfg.service.healthCheckIntervalMs 5000).toNat .healthCheck
  simp only [serviceApplyConfig]
  split
  · split
    · exact added
    · exact added.cancelCtxTimer.applyFields.setHealth
  · exact ru.applyFields

lemma done {d : Bool} (ru : w.Ruled threshold cooldown) : (w.done d).Ruled threshold cooldown := by
  rw [World.done]
  split
  · exact ru.note rfl
  · exact ru

lemma detach (ru : w.Ruled threshold cooldown) : w.detach.Ruled threshold cooldown := by
  rw [World.detach]
  split
  · exact ru.cancelMonitor.cancelRetry.cancelHealth
  · exact ru

/-- A stop records neither success nor failure. -/
lemma stopSync (ru : w.Ruled threshold cooldown) (os : Os) :
    (serviceStopSync w os).1.Ruled threshold cooldown := by
  have stopped := (ru.setState (s := .stopping)).detach.childOnly (.stopChild _ os)
  have cleared := stopped.childOnly (.trans .clearChild (.setHealthy false))
  exact ((cleared.setState (s := .stopped)).childOnly .unlinkPid).note rfl

lemma stopAsyncWait {d : Bool} (ru : w.Ruled threshold cooldown) (os : Os) :
    (stopAsyncWait w d os).1.Ruled threshold cooldown := by
  have cancelled := ru.cancelMonitor.cancelRetry
  simp only [Service.stopAsyncWait]
  split
  · have added := cancelled.addCtxTimer os 100 0
      (.stopWait ⟨0, w.cancelMonitor.cancelRetry.ctx.stopTimeoutSec * 10, d⟩)
    split
    · exact added
    · exact added.note rfl
  · have reset := (cancelled.setState (s := .stopped)).resetCharges
    exact (reset.childOnly (.trans (.setHealthy false) .unlinkPid)).done

/-- Nor does an asynchronous one. -/
lemma stopAsync {d : Bool} (ru : w.Ruled threshold cooldown) (os : Os) :
    (serviceStopAsync w d os).1.Ruled threshold cooldown := by
  have begun : w.beginStop.Ruled threshold cooldown := by
    simp only [World.beginStop]
    split
    · exact (ru.setState (s := .stopping)).cancelHealth
    · exact ru
  have terminated := begun.childOnly .terminate
  simp only [serviceStopAsync]
  split
  · exact terminated
  · split
    · exact terminated.stopAsyncWait os
    · exact (terminated.stopSync os).done

lemma stopWait {s : StopState} (ru : w.Ruled threshold cooldown) (os : Os) :
    (serviceStopWaitCb w s os).Ruled threshold cooldown := by
  have finish : ∀ {w : World} {s : StopState}, w.Ruled threshold cooldown →
      (stopWaitDone w s).Ruled threshold cooldown := by
    intro w s ru
    have cleared := (ru.childOnly .clearChild).setState (s := .stopped)
    exact (cleared.childOnly (.trans (.setHealthy false) .unlinkPid)).done
  rw [serviceStopWaitCb]
  split
  · dsimp only
    split
    · exact finish (ru.childOnly (.trans .kill .waitpid))
    · split
      · exact stopSync (w := (w.addTimer os 100 0 _).1) ru os
      · exact ru
  · exact finish ru

/-! ### Events -/

/-- By cases on the callback. -/
lemma dispatch {cb : Callback} (ru : w.Ruled threshold cooldown) (os : Os) :
    (dispatch w os cb).Ruled threshold cooldown := by
  cases cb with
  | monitor => exact ru.monitor os
  | delayedSpawn => exact ru.delayedSpawn os
  | healthCheck => exact ru.health os
  | stopWait s => exact ru.stopWait os

/-- By cases on the event. -/
lemma step {e : Event} (ru : w.Ruled threshold cooldown) (st : Service.step w e = some w') :
    w'.Ruled threshold cooldown := by
  cases e with
  | setReactor os => cases st; exact ru.setReactor os
  | start os => cases st; exact ru.start os
  | monitor os => cases st; exact ru.monitor os
  | timer id nowMs os =>
    obtain ⟨t, -, rfl⟩ := Option.map_eq_some_iff.mp st
    apply World.fire_keeps (I := World.Ruled threshold cooldown) (fun ru => ru) ru
    intro cb _ _
    exact dispatch (w := w.beginTimer t nowMs) ru os
  | sigchld os => cases st; exact ru.sigchld os
  | health os => cases st; exact ru.health os
  | exit pid => cases st; exact ru.childOnly .exit
  | stopAsync d os => cases st; exact ru.stopAsync os
  | stopSync os => cases st; exact ru.stopSync os
  | applyConfig cfg os => cases st; exact ru.applyConfig os

end World.Ruled

/-! ## Runs -/

/-- Before the first event the breaker is closed. -/
lemma World.init_ruled {cfg : AtpConfig} {alloc : Bool} {ctx : ServiceCtx}
    (init : serviceInit cfg alloc = some ctx) (pidFile : Option Int) (nowMs : Nat) :
    (World.init ctx pidFile nowMs).Ruled ctx.breaker.threshold ctx.breaker.cooldownSeconds := by
  obtain ⟨_, _, _, _, _, rfl⟩ := serviceInit_eq init
  have positive : 1 ≤ positiveOr cfg.service.circuitThreshold 5 := positiveOr_pos (by decide)
  refine ⟨positive, rfl, rfl, rfl, ?_, nofun, trivial, trivial⟩
  simp only [World.init, initCtx, circuitBreakerReset, failuresSince, Bool.false_eq_true, false_iff]
  omega

/-- In every run of the supervisor the circuit is open exactly when `consecutive_failures` has
reached the threshold of the context, no spawn began with that many failures on record, and the
circuit was closed again only after its cooldown. -/
theorem breaker_sound_of_run (cfg : AtpConfig) (alloc : Bool) (ctx : ServiceCtx)
    (pidFile : Option Int) (nowMs : Nat) (es : List Event) (init : serviceInit cfg alloc = some ctx)
    (rn : run Service.step (World.init ctx pidFile nowMs) es = some w) :
    BreakerSound ctx.breaker.threshold ctx.breaker.cooldownSeconds w := by
  have ru : w.Ruled ctx.breaker.threshold ctx.breaker.cooldownSeconds :=
    run_preserves (fun _ _ _ ru st => ru.step st) (World.init_ruled init pidFile nowMs) rn
  refine ⟨?_, ru.spawns, ru.cooldowns⟩
  rw [ru.count]
  exact ru.open_iff

/-- The API stops answering, five health checks open the circuit, and the child dies: the first
retry is refused, the one after the cooldown spawns. -/
def openedAndCooled : List Event :=
  [.setReactor (.calm 1000 100), .start (.calm 1000 100),
    .monitor { Os.calm 1100 100 with apiStatus := true },
    .health (.calm 2000 100), .health (.calm 3000 100), .health (.calm 4000 100),
    .health (.calm 5000 100), .health (.calm 6000 100), .exit 100, .sigchld (.calm 7000 100),
    .timer 2 8000 (.calm 8000 101), .timer 3 70000 (.calm 70000 101)]

/-- The breaker opens, cools down, and lets one spawn through. -/
theorem breaker_sound_of_run_openedAndCooled :
    ∃ w, run Service.step (World.init defaultCtx none 1000) openedAndCooled = some w ∧
      w.ctx.childPid = 101 ∧ .breakerCooldown 70 ∈ w.log ∧ BreakerSound 5 60 w :=
  ⟨_, rfl, rfl, by decide, breaker_sound_of_run (configSetDefaults "/data/adb/atp".toList false)
    true defaultCtx none 1000 openedAndCooled (by decide) rfl⟩

end Atpd.Service
