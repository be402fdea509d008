import Atpd.Service.Types

/-!
# Supervisor operations

The functions of `src/service.c`, on the world of `Atpd.Service.Types`. A function that returns a
status returns it next to the new world, `true` for success. The long callbacks are cut into parts,
named after their callback, where the source has a nested block.

Calls that only log, and `netlink_refresh_state`, which does not touch the supervisor, are left out.
-/

namespace Atpd.Service

open Atpd.Config Atpd.Reactor

/-! ## The operating system -/

/-- The unreaped child with this pid. -/
def World.proc (w : World) (pid : Int) : Option Proc := w.procs.find? (fun p => p.pid == pid)

/-- A child that has not exited exits and becomes a zombie. -/
def World.exit (w : World) (pid : Int) : World :=
  match w.proc pid with
  | some p =>
    if p.exited then w
    else
      { w with
        procs := w.procs.map (fun q => if q.pid = pid then { q with exited := true } else q)
        log := .exited pid :: w.log }
  | none => w

/-- A child is reaped. -/
def World.reap (w : World) (pid : Int) : World :=
  match w.proc pid with
  | some _ =>
    { w with
      procs := w.procs.filter (fun q => q.pid ≠ pid)
      log := .reaped pid :: w.log }
  | none => w

/-- A child exits here, or does not. -/
def World.mayExit (w : World) (pid : Int) (dies : Bool) : World := if dies then w.exit pid else w

/-- What `waitpid(pid, WNOHANG)` tells: the child runs, it was just reaped, there is no such
child. -/
inductive Waited where
  | running
  | reaped
  | echild
deriving DecidableEq, Repr

/-- `waitpid(pid, &status, WNOHANG)`; the child may exit just before the call. -/
def waitpidNohang (w : World) (pid : Int) (dies : Bool) : World × Waited :=
  let w := (w.note (.waited pid)).mayExit pid dies
  match w.proc pid with
  | some p => if p.exited then (w.reap pid, .reaped) else (w, .running)
  | none => (w, .echild)

/-- `kill(pid, sig)`: what follows from it is left to the child. -/
def World.kill (w : World) (pid : Int) : World := w.note (.signalled pid)

/-- `waitpid(pid, NULL, 0)` that is retried until the child has exited. -/
def World.waitpid (w : World) (pid : Int) : World := ((w.note (.waited pid)).exit pid).reap pid

/-- `service_unlink_pid`. -/
def serviceUnlinkPid (w : World) : World := { w with pidFile := none }

/-! ## Fields of the context -/

def World.setState (w : World) (s : ServiceState) : World := { w with ctx := { w.ctx with state := s } }

/-- `child_pid = -1; child_starttime_ticks = 0; validated_pid = 0`. -/
def World.clearChild (w : World) : World :=
  { w with ctx := { w.ctx with childPid := -1, childStarttimeTicks := 0, validatedPid := false } }

def World.setChildPid (w : World) (pid : Int) : World :=
  { w with ctx := { w.ctx with childPid := pid } }

def World.setTicks (w : World) (ticks : Nat) : World :=
  { w with ctx := { w.ctx with childStarttimeTicks := ticks } }

/-- `validated_pid = 1`. -/
def World.setValidated (w : World) : World := { w with ctx := { w.ctx with validatedPid := true } }

def World.setStart (w : World) (time : Int) (timeMs : Nat) : World :=
  { w with ctx := { w.ctx with startTime := time, startTimeMs := timeMs } }

/-- `fail_count++`. -/
def World.charge (w : World) : World :=
  { w with ctx := { w.ctx with failCount := w.ctx.failCount + 1 }, log := .charged :: w.log }

/-- `fail_count = 0`. -/
def World.resetCharges (w : World) : World :=
  { w with ctx := { w.ctx with failCount := 0 }, log := .chargesReset :: w.log }

/-- `running_healthy = healthy`. -/
def World.setHealthy (w : World) (healthy : Bool) : World :=
  { w with ctx := { w.ctx with runningHealthy := healthy } }

def World.setLastHealthCheck (w : World) (time : Int) : World :=
  { w with ctx := { w.ctx with lastHealthCheck := time } }

/-- `circuit_breaker_record_failure(&ctx->breaker)`. -/
def World.recordFailure (w : World) (time : Int) : World :=
  { w with
    ctx := { w.ctx with breaker := circuitBreakerRecordFailure w.ctx.breaker time }
    log := .breakerFailure time :: w.log }

/-- `circuit_breaker_record_success(&ctx->breaker)`. -/
def World.recordSuccess (w : World) : World :=
  { w with
    ctx := { w.ctx with breaker := circuitBreakerRecordSuccess w.ctx.breaker }
    log := .breakerSuccess :: w.log }

/-- `circuit_breaker_should_allow(&ctx->breaker)`: the world after it. -/
def World.afterAllow (w : World) (time : Int) : World :=
  if w.ctx.breaker.cooledDown time then
    { w with
      ctx := { w.ctx with breaker := circuitBreakerAfterAllow w.ctx.breaker time }
      log := .breakerCooldown time :: w.log }
  else w

/-- `backoff_reset(&ctx->backoff)`. -/
def World.resetBackoff (w : World) : World :=
  { w with ctx := { w.ctx with backoff := backoffReset w.ctx.backoff }, log := .backoffReset :: w.log }

/-- `backoff_next(&ctx->backoff)`, for a retry after the delay it returns. -/
def World.nextBackoff (w : World) : World :=
  { w with
    ctx := { w.ctx with backoff := backoffNext w.ctx.backoff }
    log := .retryScheduled w.ctx.backoff.currentDelayMs :: w.log }

/-! ## Timers -/

def World.setRetry (w : World) (h : Option Nat) : World :=
  { w with ctx := { w.ctx with retryTimer := h } }

def World.setHealth (w : World) (h : Option Nat) : World :=
  { w with ctx := { w.ctx with healthTimer := h } }

def World.setMonitor (w : World) (h : Option Nat) : World :=
  { w with ctx := { w.ctx with monitorTimer := h } }

def World.setReactor (w : World) (reactor : Bool) : World :=
  { w with ctx := { w.ctx with reactor := reactor } }

/-- `reactor_add_timer(r, ..)`. -/
def World.addTimer (w : World) (os : Os) (timeoutMs intervalMs : Nat) (cb : Callback) :
    World × Option Nat :=
  let (priv, handle) := reactorAddTimer w.priv os.timerAlloc os.timerMs timeoutMs intervalMs (some cb)
  ({ w with priv := priv }, handle)

/-- `reactor_add_timer(ctx->reactor, ..)`, which fails without a reactor. -/
def World.addCtxTimer (w : World) (os : Os) (timeoutMs intervalMs : Nat) (cb : Callback) :
    World × Option Nat :=
  if w.ctx.reactor then w.addTimer os timeoutMs intervalMs cb else (w, none)

/-- `if (handle) reactor_cancel_timer(ctx->reactor, handle)`, which does nothing without a
reactor. -/
def World.cancelCtxTimer (w : World) (handle : Option Nat) : World :=
  match handle with
  | some id => if w.ctx.reactor then { w with priv := reactorCancelTimer w.priv id } else w
  | none => w

def World.cancelRetry (w : World) : World := (w.cancelCtxTimer w.ctx.retryTimer).setRetry none

def World.cancelHealth (w : World) : World := (w.cancelCtxTimer w.ctx.healthTimer).setHealth none

def World.cancelMonitor (w : World) : World := (w.cancelCtxTimer w.ctx.monitorTimer).setMonitor none

/-! ## Liveness -/

/-- `service_is_alive`; `stat` says whether `/proc/<pid>/stat` can be read. -/
def serviceIsAlive (w : World) (stat : Bool) : Bool :=
  decide (0 < w.ctx.childPid) &&
    -- a zombie has its `/proc/<pid>/stat` too
    match w.proc w.ctx.childPid with
    | some p => decide (w.ctx.childStarttimeTicks ≠ 0) && stat &&
        decide (p.starttime = w.ctx.childStarttimeTicks)
    | none => false

/-- `service_starting_child_alive`. -/
def serviceStartingChildAlive (w : World) (a : Alive) : World × Bool :=
  if serviceIsAlive w a.stat then
    match waitpidNohang w w.ctx.childPid a.dies with
    | (w, .running) => (w, true)
    | (w, _) => (serviceUnlinkPid w.clearChild, false)
  else (w, false)

/-- `service_probe_native_api`. -/
def serviceProbeNativeApi (w : World) (os : Os) : World × Bool :=
  match serviceStartingChildAlive w os.alive2 with
  | (w, false) => (w, false)
  | (w, true) => if os.apiStatus then serviceStartingChildAlive w os.alive3 else (w, false)

/-! ## Spawning -/

/-- Whether `service_spawn` gets past its checks and its `fork` succeeds. -/
def World.forks (w : World) (os : Os) : Bool :=
  os.spawnBinary && (w.ctx.workDir.isEmpty || os.workDirOk) &&
    (!w.ctx.pidPath.contains '/' || os.runDirOk) &&
    (decide (0 < os.forkPid) && decide (0 < os.forkStart) && (w.proc os.forkPid).isNone)

/-- `fork` in the parent: there is a new child, and `ctx->child_pid` is its pid. -/
def World.fork (w : World) (os : Os) : World :=
  { w with
    procs := ⟨os.forkPid, os.forkStart, false⟩ :: w.procs
    ctx := { w.ctx with childPid := os.forkPid }
    log := .forked os.forkPid :: w.log }

/-- `kill(pid, SIGKILL); waitpid(pid, NULL, 0)`, where the wait is not retried. -/
def World.killNew (w : World) (os : Os) : World :=
  let w := w.kill os.forkPid
  if os.waitEintr then w.note (.waited os.forkPid) else w.waitpid os.forkPid

/-- `service_spawn` after the fork. -/
def serviceSpawnParent (w : World) (os : Os) : World × Bool :=
  if os.forkStat then
    let w := ((w.setTicks os.forkStart).setValidated).setStart os.wallTime os.spawnMs
    if os.pidFileOk then ({ w with pidFile := some os.forkPid }, true)
    else ((serviceUnlinkPid (w.killNew os)).clearChild, false)
  -- `validated_pid` and the start time keep the values of the child before
  else ((w.killNew os).setChildPid (-1), false)

/-- `service_spawn`. -/
def serviceSpawn (w : World) (os : Os) : World × Bool :=
  let w := w.note .spawn
  if w.forks os then
    match serviceSpawnParent (w.fork os) os with
    | (w, true) => (w, true)
    | (w, false) => (w.note .spawnFailed, false)
  else (w.note .spawnFailed, false)

/-! ## Retry -/

/-- `service_schedule_retry`. -/
def serviceScheduleRetry (w : World) (os : Os) : World :=
  let delay := w.ctx.backoff.currentDelayMs
  let (w, handle) := w.nextBackoff.cancelRetry.addCtxTimer os delay 0 .delayedSpawn
  let w := w.setRetry handle
  if handle = none then w.setState .failed else w

/-- `fail_count >= max_failures`. -/
def ServiceCtx.exhausted (ctx : ServiceCtx) : Bool := decide (ctx.maxFailures ≤ ctx.failCount)

/-- `fail_count++`, and then either the end of the retries or the next one. -/
def World.chargeAndRetry (w : World) (os : Os) : World :=
  let w := w.charge.recordFailure os.failTime
  if w.ctx.exhausted then (w.note (.gaveUp w.ctx.maxFailures)).setState .failed
  else serviceScheduleRetry w os

/-- `service_delayed_spawn_cb` behind the circuit breaker. -/
def delayedSpawnAttempt (w : World) (os : Os) : World :=
  match serviceSpawn w os with
  | (w, true) => ((w.setState .starting).addCtxTimer os 100 0 .monitor).1
  | (w, false) => w.chargeAndRetry os

/-- `service_delayed_spawn_cb`. -/
def serviceDelayedSpawnCb (w : World) (os : Os) : World :=
  -- the only guard: neither STOPPING nor a `child_pid` that is still set is looked at
  if w.ctx.state = .stopped then w
  else
    let w := w.cancelRetry
    if circuitBreakerShouldAllow w.ctx.breaker os.allowTime then
      delayedSpawnAttempt (w.afterAllow os.allowTime) os
    else serviceScheduleRetry w os

/-! ## SIGCHLD and health -/

/-- The state change of `service_sigchld_cb` once the child is reaped. -/
def sigchldFailed (w : World) (os : Os) : World :=
  if w.ctx.state = .running ∨ w.ctx.state = .starting then
    let w := (w.setState .failed).recordFailure os.failTime
    -- here `fail_count` is compared before it is raised
    if w.ctx.reactor ∧ ¬w.ctx.exhausted then serviceScheduleRetry w.charge os else w
  else w

/-- `service_sigchld_cb`; its one `waitpid` is not retried. -/
def serviceSigchldCb (w : World) (os : Os) : World :=
  if 0 < w.ctx.childPid then
    if os.waitEintr then w.note (.waited w.ctx.childPid)
    else
      match waitpidNohang w w.ctx.childPid os.alive1.dies with
      | (w, .reaped) => sigchldFailed (serviceUnlinkPid (w.clearChild.setHealthy false)) os
      | (w, _) => w
  else w

/-- `service_health_check_cb`. -/
def serviceHealthCheckCb (w : World) (os : Os) : World :=
  if w.ctx.state = .running then
    if serviceIsAlive w os.alive1.stat then
      let healthy := os.snapshotValid && decide (w.ctx.startTimeMs ≤ os.snapshotMs)
      let w := (w.setHealthy healthy).setLastHealthCheck os.wallTime
      if healthy then w.recordSuccess else w.recordFailure os.failTime
    else w.setHealthy false
  else w

/-! ## Monitor -/

/-- `get_monotonic_ms() - start_time_ms` on `uint64_t`. -/
def elapsedMs (nowMs startMs : Nat) : Nat := (nowMs + 2 ^ 64 - startMs) % 2 ^ 64

/-- The startup of the child has timed out. -/
def ServiceCtx.startTimedOut (ctx : ServiceCtx) (nowMs : Nat) : Bool :=
  decide (0 < ctx.startTimeMs) &&
    decide ((positiveOr ctx.startTimeoutSec 30).toNat * 1000 ≤ elapsedMs nowMs ctx.startTimeMs)

/-- `if (ctx->child_pid > 0) kill(ctx->child_pid, SIGKILL)` at the startup timeout. -/
def World.killTimedOut (w : World) : World :=
  if 0 < w.ctx.childPid then (w.kill w.ctx.childPid).note (.startTimeout w.ctx.childPid) else w

/-- `service_monitor_cb`, STARTING: the timeout. -/
def monitorTimeout (w : World) (os : Os) : World :=
  -- the child is signalled and not waited for, so `child_pid` stays set
  let w := ((w.killTimedOut.setState .failed).charge).recordFailure os.failTime
  if w.ctx.reactor ∧ ¬w.ctx.exhausted then serviceScheduleRetry w os else w

/-- `service_monitor_cb`, STARTING: the child that fails its validation is killed. -/
def monitorValidate (w : World) (os : Os) : World :=
  if w.ctx.validatedPid then w
  else if os.validates then w.setValidated
  -- `child_starttime_ticks` stays set
  else ((w.kill w.ctx.childPid).waitpid w.ctx.childPid).setChildPid (-1)

/-- `service_monitor_cb`, STARTING: the health timer of a service that is now RUNNING. -/
def monitorStartHealth (w : World) (os : Os) : World :=
  if w.ctx.reactor ∧ 0 < w.ctx.healthCheckIntervalMs then
    let interval := w.ctx.healthCheckIntervalMs.toNat
    let (w, handle) := w.cancelHealth.addCtxTimer os interval interval .healthCheck
    let w := w.setHealth handle
    if handle = none then w.setState .failed else w
  else w

/-- `service_monitor_cb`, STARTING: the native API answers. -/
def monitorReady (w : World) (os : Os) : World :=
  let w := ((w.setState .running).note .enteredRunning).resetCharges.setHealthy true
  monitorStartHealth (w.setLastHealthCheck os.wallTime).resetBackoff.recordSuccess os

/-- `service_monitor_cb`, STARTING: the native API is probed. -/
def monitorProbe (w : World) (os : Os) : World :=
  match serviceProbeNativeApi w os with
  | (w, true) => monitorReady w os
  | (w, false) => w

/-- `service_monitor_cb`, STARTING: the child is alive. -/
def monitorAlive (w : World) (os : Os) : World :=
  let w := monitorValidate w os
  if w.ctx.validatedPid then monitorProbe w os else w

/-- `service_monitor_cb`, STARTING. -/
def monitorStarting (w : World) (os : Os) : World :=
  if w.ctx.startTimedOut os.monitorMs then monitorTimeout w os
  else
    match serviceStartingChildAlive w os.alive1 with
    | (w, true) => monitorAlive w os
    -- the state stays STARTING, where `service_sigchld_cb` goes to FAILED
    | (w, false) => w.chargeAndRetry os

/-- `service_monitor_cb`, RUNNING. -/
def monitorRunning (w : World) (os : Os) : World :=
  if serviceIsAlive w os.alive1.stat then w else (w.setState .failed).chargeAndRetry os

/-- `service_monitor_cb`, FAILED. -/
def monitorFailed (w : World) (os : Os) : World :=
  if w.ctx.reactor ∧ w.ctx.childPid ≤ 0 ∧ ¬w.ctx.exhausted ∧ w.ctx.retryTimer = none then
    serviceScheduleRetry w os
  else w

/-- `service_monitor_cb`. -/
def serviceMonitorCb (w : World) (os : Os) : World :=
  match w.ctx.state with
  | .stopped => w
  | .starting => monitorStarting w os
  | .running => monitorRunning w os
  | .failed => monitorFailed w os
  | .stopping => w

/-! ## Control -/

/-- `service_apply_config`: the fields it takes from the configuration. -/
def World.applyFields (w : World) (cfg : AtpConfig) : World :=
  { w with
    ctx :=
      { w.ctx with
        maxFailures := positiveOr cfg.service.maxFailures 5
        startTimeoutSec := positiveOr cfg.service.startTimeoutSec 30
        stopTimeoutSec := positiveOr cfg.service.stopTimeoutSec 10
        healthCheckIntervalMs := positiveOr cfg.service.healthCheckIntervalMs 5000 } }

/-- `service_apply_config`. `reactor_cancel_timer` fails on null arguments only, so its error path
is not taken. -/
def serviceApplyConfig (w : World) (cfg : AtpConfig) (os : Os) : World × Bool :=
  let interval := positiveOr cfg.service.healthCheckIntervalMs 5000
  if interval ≠ w.ctx.healthCheckIntervalMs ∧ w.ctx.reactor ∧ w.ctx.state = .running then
    let (w, replacement) := w.addCtxTimer os interval.toNat interval.toNat .healthCheck
    if replacement = none then (w, false)
    else (((w.cancelCtxTimer w.ctx.healthTimer).applyFields cfg).setHealth replacement, true)
  else (w.applyFields cfg, true)

/-- `service_set_reactor` with a reactor. -/
def serviceSetReactor (w : World) (os : Os) : World × Bool :=
  let (w, handle) := (w.setReactor true).cancelMonitor.addCtxTimer os 100 1000 .monitor
  (w.setMonitor handle, handle.isSome)

/-- `service_start_async` when no child is alive. -/
def startSpawn (w : World) (os : Os) : World × Bool :=
  if os.binaryExists then
    match serviceSpawn w os with
    | (w, true) =>
      let w := (w.setState .starting).setStart os.wallTime os.startMs
      (w.resetCharges.resetBackoff, true)
    | (w, false) => ((w.setState .failed).recordFailure os.failTime, false)
  else (w.setState .failed, false)

/-- `service_start_async`. -/
def serviceStartAsync (w : World) (os : Os) : World × Bool :=
  let w := w.note .startCalled
  if w.ctx.state = .running ∨ w.ctx.state = .starting then (w, true)
  else if circuitBreakerShouldAllow w.ctx.breaker os.allowTime then
    let w := w.afterAllow os.allowTime
    if serviceIsAlive w os.alive1.stat then (w.setState .starting, true) else startSpawn w os
  else (w, false)

/-- The outcome of the wait of `service_stop_sync`. -/
inductive Polled where
  | reaped
  | timedOut
  | failed
deriving DecidableEq, Repr

/-- The loop of `service_stop_sync` that waits for the child; it asks at most `attempts` times. -/
def stopPoll (pid : Int) : Nat → List Wait → World → World × Polled
  | 0, _, w => (w, .timedOut)
  | attempts + 1, waits, w =>
    match waits.headD .quiet with
    | .error => (w.note (.waited pid), .failed)
    | .eintr => stopPoll pid attempts waits.tail (w.note (.waited pid))
    | wait =>
      match waitpidNohang w pid (wait = .dies) with
      | (w, .running) => stopPoll pid attempts waits.tail w
      | (w, _) => (w, .reaped)

/-- `service_stop_sync`: ends the child, if there is one. -/
def stopChild (w : World) (os : Os) : World × Bool :=
  let pid := w.ctx.childPid
  let attempts := if 0 < w.ctx.stopTimeoutSec then (w.ctx.stopTimeoutSec * 10).toNat else 10
  if 0 < pid then
    match stopPoll pid attempts os.waits (w.kill pid) with
    | (w, .reaped) => (w, os.termOk)
    | (w, polled) =>
      ((w.kill pid).waitpid pid, os.termOk && decide (polled = .timedOut) && os.killOk)
  else (w, true)

/-- `service_stop_sync`: detaches the context from its reactor. -/
def World.detach (w : World) : World :=
  if w.ctx.reactor then w.cancelMonitor.cancelRetry.cancelHealth.setReactor false else w

/-- `service_stop_sync`. -/
def serviceStopSync (w : World) (os : Os) : World × Bool :=
  let (w, result) := stopChild (w.setState .stopping).detach os
  let w := serviceUnlinkPid ((w.clearChild.setHealthy false).setState .stopped)
  (w.note .stopReturned, result)

/-- `if (done_cb) done_cb(ctx, userdata)`. -/
def World.done (w : World) (doneCb : Bool) : World := if doneCb then w.note .doneCb else w

/-- `service_stop_async` with a reactor: cancels the timers and starts to wait. -/
def stopAsyncWait (w : World) (doneCb : Bool) (os : Os) : World × Bool :=
  let w := w.cancelMonitor.cancelRetry
  if os.stopAlloc then
    let state : StopState := ⟨0, w.ctx.stopTimeoutSec * 10, doneCb⟩
    let (w, handle) := w.addCtxTimer os 100 0 (.stopWait state)
    if handle = none then (w, false) else (w.note .stopReturned, true)
  else
    -- the child was sent SIGTERM; it is neither waited for nor forgotten
    let w := (w.setState .stopped).resetCharges.setHealthy false
    ((serviceUnlinkPid w).done doneCb, false)

/-- `service_stop_async`: the service is STOPPING and its health timer cancelled. -/
def World.beginStop (w : World) : World :=
  let w := w.setState .stopping
  if w.ctx.reactor then w.cancelHealth else w

/-- `if (ctx->child_pid > 0) kill(ctx->child_pid, SIGTERM)`. -/
def World.terminate (w : World) : World :=
  if 0 < w.ctx.childPid then w.kill w.ctx.childPid else w

/-- `service_stop_async`. -/
def serviceStopAsync (w : World) (doneCb : Bool) (os : Os) : World × Bool :=
  let w := w.beginStop.terminate
  -- this return leaves the monitor and the retry timer as they are
  if 0 < w.ctx.childPid ∧ ¬os.termOk then (w, false)
  else if w.ctx.reactor then stopAsyncWait w doneCb os
  else
    let (w, result) := serviceStopSync w os
    (w.done doneCb, result)

/-- The end of `service_stop_wait_cb`: the service is STOPPED. -/
def stopWaitDone (w : World) (s : StopState) : World :=
  (serviceUnlinkPid ((w.clearChild.setState .stopped).setHealthy false)).done s.doneCb

/-- `service_stop_wait_cb`. -/
def serviceStopWaitCb (w : World) (s : StopState) (os : Os) : World :=
  if serviceIsAlive w os.alive1.stat then
    let s := { s with attempts := s.attempts + 1 }
    if s.maxAttempts ≤ s.attempts then
      stopWaitDone ((w.kill w.ctx.childPid).waitpid w.ctx.childPid) s
    else
      -- the reactor of the pass, which is there also when the context was detached
      let (w, handle) := w.addTimer os 100 0 (.stopWait s)
      if handle = none then (serviceStopSync w os).1 else w
  else stopWaitDone w s

end Atpd.Service
