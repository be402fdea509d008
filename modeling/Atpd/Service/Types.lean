import Atpd.Config.Basic
import Atpd.Reactor.Timer

/-!
# Supervisor state

The data of `include/service.h` and `src/service.c`, and what the supervisor sees of the operating
system: the children it has forked and not yet reaped, its PID file, and the outcomes `Os` of the
calls that one callback makes. Every outcome is free, so a statement about all runs is a statement
about every behaviour of the system.

A child that has exited is a zombie until it is reaped: `kill(pid, 0)` and `/proc/<pid>/stat` still
answer for it. A pid that no unreaped child has is never asked for, so pid reuse is invisible here.

`log` is the history of the run, newest first. It is read by statements, never by the model.
-/

namespace Atpd.Service

open Atpd.Config

/-- `service_state_t`. -/
inductive ServiceState where
  | stopped
  | starting
  | running
  | failed
  | stopping
deriving DecidableEq, Repr

/-- `backoff_t`. -/
structure Backoff where
  baseDelayMs : Nat
  maxDelayMs : Nat
  currentDelayMs : Nat
  multiplier : Nat
deriving DecidableEq, Repr

/-- `circuit_breaker_t`. -/
structure CircuitBreaker where
  consecutiveFailures : Int
  threshold : Int
  cooldownSeconds : Int
  lastFailureTime : Int
  circuitOpen : Bool
deriving DecidableEq, Repr

/-- `service_stop_state_t`, less its context and its own timer, which nothing reads. -/
structure StopState where
  attempts : Int
  maxAttempts : Int
  doneCb : Bool
deriving DecidableEq, Repr

/-- The timer callbacks of the supervisor, each with its userdata. -/
inductive Callback where
  | monitor
  | delayedSpawn
  | healthCheck
  | stopWait (state : StopState)
deriving DecidableEq, Repr

/-- `service_ctx_t`. There is one reactor, so `reactor` says whether the pointer is set; timer
handles are the ids of `Atpd.Reactor.Timer`. -/
structure ServiceCtx where
  binPath : Str
  workDir : Str
  confPath : Str
  logPath : Str
  pidPath : Str
  user : Str
  group : Str
  serviceArgs : Str
  serviceEnv : Str
  apiPort : Int
  childPid : Int
  childStarttimeTicks : Nat
  validatedPid : Bool
  state : ServiceState
  failCount : Nat
  maxFailures : Int
  startTimeoutSec : Int
  stopTimeoutSec : Int
  gracePeriodSec : Int
  reactor : Bool
  monitorTimer : Option Nat
  retryTimer : Option Nat
  healthTimer : Option Nat
  backoff : Backoff
  breaker : CircuitBreaker
  lastHealthCheck : Int
  healthCheckIntervalMs : Int
  runningHealthy : Bool
  startTime : Int
  startTimeMs : Nat
deriving DecidableEq, Repr

/-- A forked child that has not been reaped. -/
structure Proc where
  pid : Int
  starttime : Nat
  exited : Bool
deriving DecidableEq, Repr

/-- What happened in a run. -/
inductive Obs where
  | spawn
  | forked (pid : Int)
  | spawnFailed
  | exited (pid : Int)
  | reaped (pid : Int)
  | startTimeout (pid : Int)
  | charged
  | chargesReset
  | gaveUp (maxFailures : Int)
  | retryScheduled (delayMs : Nat)
  | backoffReset
  | breakerFailure (time : Int)
  | breakerSuccess
  | breakerCooldown (time : Int)
  | enteredRunning
  | signalled (pid : Int)
  | waited (pid : Int)
  | startCalled
  | stopReturned
  | doneCb
deriving DecidableEq, Repr

/-- The supervisor with its surroundings. -/
structure World where
  ctx : ServiceCtx
  priv : Reactor.Priv Callback
  procs : List Proc
  pidFile : Option Int
  log : List Obs
deriving DecidableEq, Repr

/-- The outcome of one liveness check: whether `/proc/<pid>/stat` could be read, and whether the
child exits just before the `waitpid` that follows. -/
structure Alive where
  stat : Bool
  dies : Bool
deriving DecidableEq, Repr

/-- The outcome of one `waitpid(pid, WNOHANG)` in `service_stop_sync`. -/
inductive Wait where
  | quiet
  | dies
  | eintr
  | error
deriving DecidableEq, Repr

/-- The outcomes of the system calls that one callback makes. -/
structure Os where
  /-- `get_monotonic_ms()` in `service_monitor_cb`, `service_spawn`, `service_start_async` and
  `reactor_add_timer`. -/
  monitorMs : Nat
  spawnMs : Nat
  startMs : Nat
  timerMs : Nat
  /-- `time(NULL)` in the circuit breaker and elsewhere. -/
  allowTime : Int
  failTime : Int
  wallTime : Int
  /-- Allocation of a timer, and of a `service_stop_state_t`. -/
  timerAlloc : Bool
  stopAlloc : Bool
  /-- `service_binary_exists` in `service_start_async` and in `service_spawn`. -/
  binaryExists : Bool
  spawnBinary : Bool
  /-- The two `mkdir_recursive` of `service_spawn`. -/
  workDirOk : Bool
  runDirOk : Bool
  /-- The pid and start time of the forked child; a pid that is not new stands for a failed fork. -/
  forkPid : Int
  forkStart : Nat
  /-- Whether the start time of the new child can be read, and its PID file written. -/
  forkStat : Bool
  pidFileOk : Bool
  /-- A signal interrupts a `waitpid` that is not retried. -/
  waitEintr : Bool
  /-- The liveness checks, in order. -/
  alive1 : Alive
  alive2 : Alive
  alive3 : Alive
  /-- `validate_process`, `singbox_api_get_status`. -/
  validates : Bool
  apiStatus : Bool
  /-- The API snapshot of the health check. -/
  snapshotValid : Bool
  snapshotMs : Nat
  /-- `kill(pid, SIGTERM)` and `kill(pid, SIGKILL)` work, or the process is gone. -/
  termOk : Bool
  killOk : Bool
  waits : List Wait
deriving DecidableEq, Repr

/-- Adds an observation to the history. -/
def World.note (w : World) (o : Obs) : World := { w with log := o :: w.log }

/-! ## Backoff and circuit breaker -/

/-- `backoff_init`. -/
def backoffInit : Backoff := ⟨1000, 60000, 1000, 2⟩

/-- `backoff_reset`. -/
def backoffReset (b : Backoff) : Backoff := { b with currentDelayMs := b.baseDelayMs }

/-- `backoff_next`: the state after it; it returns the old `current_delay_ms`. -/
def backoffNext (b : Backoff) : Backoff :=
  { b with
    currentDelayMs :=
      if b.maxDelayMs < b.currentDelayMs * b.multiplier then b.maxDelayMs
      else b.currentDelayMs * b.multiplier }

/-- `circuit_breaker_reset`. -/
def circuitBreakerReset (cb : CircuitBreaker) : CircuitBreaker :=
  { cb with consecutiveFailures := 0, circuitOpen := false, lastFailureTime := 0 }

/-- The cooldown of an open breaker has expired at `time`. -/
def CircuitBreaker.cooledDown (cb : CircuitBreaker) (time : Int) : Bool :=
  cb.circuitOpen && decide (cb.cooldownSeconds < time - cb.lastFailureTime)

/-- `circuit_breaker_should_allow`: its answer. -/
def circuitBreakerShouldAllow (cb : CircuitBreaker) (time : Int) : Bool :=
  !cb.circuitOpen || cb.cooledDown time

/-- `circuit_breaker_should_allow`: the breaker after it. -/
def circuitBreakerAfterAllow (cb : CircuitBreaker) (time : Int) : CircuitBreaker :=
  if cb.cooledDown time then { cb with circuitOpen := false, consecutiveFailures := 0 } else cb

/-- `circuit_breaker_record_failure`. -/
def circuitBreakerRecordFailure (cb : CircuitBreaker) (time : Int) : CircuitBreaker :=
  { cb with
    consecutiveFailures := cb.consecutiveFailures + 1
    lastFailureTime := time
    circuitOpen := cb.circuitOpen || decide (cb.threshold ≤ cb.consecutiveFailures + 1) }

/-- `circuit_breaker_record_success`. -/
def circuitBreakerRecordSuccess (cb : CircuitBreaker) : CircuitBreaker :=
  { cb with
    consecutiveFailures := if 0 < cb.consecutiveFailures then 0 else cb.consecutiveFailures
    circuitOpen := false }

/-! ## Initialisation -/

/-- `value > 0 ? value : default`. -/
def positiveOr (value default : Int) : Int := if 0 < value then value else default

/-- What is not positive is replaced. -/
lemma positiveOr_pos {value default : Int} (pos : 0 < default) : 1 ≤ positiveOr value default := by
  rw [positiveOr]
  split <;> omega

/-- `snprintf(dst, size, "%s", src)`. -/
def truncate (size : Nat) (src : Str) : Str := src.take (size - 1)

/-- `format_path`: the text, if it fits into `PATH_MAX` bytes with its NUL. -/
def formatPath (text : Str) : Option Str := if text.length < pathMax then some text else none

/-- `service_init`: the path of the PID file. -/
def initPidPath (baseDir runDir : Str) : Option Str :=
  if runDir.head? = some '/' then formatPath (runDir ++ "/sing-box.pid".toList)
  else formatPath (baseDir ++ "/".toList ++ runDir ++ "/sing-box.pid".toList)

/-- `service_init`: the context with its paths. -/
def initCtx (cfg : AtpConfig) (baseDir binPath confPath logPath pidPath : Str) : ServiceCtx where
  binPath := binPath
  workDir := truncate pathMax baseDir
  confPath := confPath
  logPath := logPath
  pidPath := pidPath
  user := truncate 64 cfg.core.coreUser
  group := truncate 64 cfg.core.coreGroup
  serviceArgs := truncate 512 cfg.service.args
  serviceEnv := truncate 512 cfg.service.env
  apiPort := cfg.api.port
  childPid := -1
  childStarttimeTicks := 0
  validatedPid := false
  state := .stopped
  failCount := 0
  maxFailures := positiveOr cfg.service.maxFailures 5
  startTimeoutSec := positiveOr cfg.service.startTimeoutSec 30
  stopTimeoutSec := positiveOr cfg.service.stopTimeoutSec 10
  gracePeriodSec := positiveOr cfg.service.gracePeriodSec 3
  reactor := false
  monitorTimer := none
  retryTimer := none
  healthTimer := none
  backoff := backoffInit
  breaker := circuitBreakerReset
    { consecutiveFailures := 0
      threshold := positiveOr cfg.service.circuitThreshold 5
      cooldownSeconds := positiveOr cfg.service.circuitCooldownSec 60
      lastFailureTime := 0
      circuitOpen := false }
  lastHealthCheck := 0
  healthCheckIntervalMs := positiveOr cfg.service.healthCheckIntervalMs 5000
  runningHealthy := false
  startTime := 0
  startTimeMs := 0

/-- `service_init`; `alloc` says whether the probe configuration can be allocated. -/
def serviceInit (cfg : AtpConfig) (alloc : Bool) : Option ServiceCtx := do
  let baseDir := if cfg.core.dataDir ≠ [] then cfg.core.dataDir else ".".toList
  let binPath ← formatPath (baseDir ++ "/bin/sing-box".toList)
  let confPath ← formatPath (baseDir ++ "/config.json".toList)
  let logPath ← formatPath (baseDir ++ "/sing-box.log".toList)
  let pidPath ← initPidPath baseDir (if cfg.core.runDir ≠ [] then cfg.core.runDir else "run".toList)
  if alloc then some (initCtx cfg baseDir binPath confPath logPath pidPath) else none

/-- A context that `service_init` builds. -/
lemma serviceInit_eq {cfg : AtpConfig} {alloc : Bool} {ctx : ServiceCtx}
    (init : serviceInit cfg alloc = some ctx) :
    ∃ baseDir binPath confPath logPath pidPath,
      ctx = initCtx cfg baseDir binPath confPath logPath pidPath := by
  simp only [serviceInit, Option.bind_eq_bind, Option.bind_eq_some_iff,
    Option.ite_none_right_eq_some, Option.some.injEq] at init
  obtain ⟨binPath, -, confPath, -, logPath, -, pidPath, -, -, rfl⟩ := init
  exact ⟨_, binPath, confPath, logPath, pidPath, rfl⟩

/-- The surroundings of a context that `service_init` has just built: no children, no timers. -/
def World.init (ctx : ServiceCtx) (pidFile : Option Int) (nowMs : Nat) : World where
  ctx := ctx
  priv := Reactor.reactorCreate nowMs
  procs := []
  pidFile := pidFile
  log := []

end Atpd.Service
