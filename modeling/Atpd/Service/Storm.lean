import Atpd.Service.Stop

/-!
# No restart storm

After a start the supervisor may try again only so often before the service is up. Retries are
scheduled at six places that treat `fail_count` differently, and giving up leaves a pending retry
alone, so the bound is not read off any of them. `Storm` is the account that all of them keep: the
spawns since the service was last up, and one more if a retry is pending or the monitor may still
schedule one, are covered by `fail_count + 1`. A pending retry never finds `fail_count` above
`max_failures`, so neither does a spawn.

`Paced` is what the calls of `backoff_next` keep.
-/

namespace Atpd.Service

open Atpd.Config Atpd.Reactor Atpd.Lib

variable {w w' w1 : World} {os : Os} {limit : Int} {k : Nat}

/-! ## The property -/

/-- The calls of `service_spawn` since the service last entered RUNNING, or since the start. -/
def spawnsSince : List Obs → Nat
  | [] => 0
  | .enteredRunning :: _ => 0
  | .spawn :: log => spawnsSince log + 1
  | _ :: log => spawnsSince log

/-- At no time were there more than `bound` spawns since the service was last up. -/
def SpawnsBounded (bound : Int) : List Obs → Prop
  | [] => True
  | .spawn :: log => spawnsSince log + 1 ≤ bound ∧ SpawnsBounded bound log
  | _ :: log => SpawnsBounded bound log

/-- The calls of `service_schedule_retry` since the last reset of the backoff. -/
def retriesSince : List Obs → Nat
  | [] => 0
  | .backoffReset :: _ => 0
  | .retryScheduled _ :: log => retriesSince log + 1
  | _ :: log => retriesSince log

/-- The delay of the retry number `k`, counted from zero. -/
def retryDelay (k : Nat) : Nat := min (1000 * 2 ^ k) 60000

/-- Every retry was scheduled with the delay that its number asks for. -/
def DelaysDoubled : List Obs → Prop
  | [] => True
  | .retryScheduled delayMs :: log => delayMs = retryDelay (retriesSince log) ∧ DelaysDoubled log
  | _ :: log => DelaysDoubled log

/-- What the supervisor does on its own while the service is started: monitor ticks, timers, SIGCHLD
and health checks, and the children that exit. -/
def Event.isSupervision : Event → Bool
  | .monitor _ | .timer _ _ _ | .sigchld _ | .health _ | .exit _ => true
  | .setReactor _ | .start _ | .stopAsync _ _ | .stopSync _ | .applyConfig _ _ => false

/-! ## Backoff -/

/-- The backoff agrees with the history. -/
structure Paced (b : Backoff) (log : List Obs) : Prop where
  base : b.baseDelayMs = 1000
  maximum : b.maxDelayMs = 60000
  multiplier : b.multiplier = 2
  current : b.currentDelayMs = retryDelay (retriesSince log)
  delays : DelaysDoubled log

/-- A retry moves on to the next delay. -/
lemma Paced.next {b : Backoff} {log : List Obs} (pa : Paced b log) :
    Paced (backoffNext b) (.retryScheduled b.currentDelayMs :: log) := by
  refine ⟨pa.base, pa.maximum, pa.multiplier, ?_, pa.current, pa.delays⟩
  simp only [backoffNext, pa.maximum, pa.multiplier, pa.current, retriesSince, retryDelay, Nat.pow_succ]
  split <;> omega

/-- A reset brings it back to the first one. -/
lemma Paced.reset {b : Backoff} {log : List Obs} (pa : Paced b log) :
    Paced (backoffReset b) (.backoffReset :: log) :=
  ⟨pa.base, pa.maximum, pa.multiplier, pa.base, pa.delays⟩

/-! ## The account -/

/-- `k` spawns more than those on record are covered by `fail_count + 1`. -/
structure Covered (limit : Int) (k : Nat) (w : World) : Prop where
  positive : 1 ≤ limit
  limit_eq : w.ctx.maxFailures = limit
  spawns : spawnsSince w.log + k ≤ w.ctx.failCount + 1
  bounded : SpawnsBounded (limit + 1) w.log
  paced : Paced w.ctx.backoff w.log

/-- The service is starting or running. -/
def ServiceState.isUp : ServiceState → Bool
  | .starting | .running => true
  | _ => false

/-- The next spawn needs no further charge: a retry is pending, or the monitor may schedule one. -/
def World.owes (w : World) : Bool :=
  w.ctx.retryTimer.isSome ||
    w.ctx.reactor && decide (w.ctx.state = .failed) && !w.ctx.exhausted

/-- The invariant of a started service. -/
structure Storm (limit : Int) (w : World) : Prop extends Covered limit 0 w where
  owed : w.owes = true → Covered limit 1 w
  pending : w.ctx.retryTimer.isSome = true → w.ctx.failCount ≤ limit
  early : w.ctx.retryTimer.isSome = true → w.ctx.state.isUp = true → w.ctx.failCount < limit
  within : w.ctx.state.isUp = true → w.ctx.failCount ≤ limit

/-! ## What is not counted -/

/-- Observations that the account does not count. -/
def Obs.isIdle : Obs → Bool
  | .spawn | .enteredRunning | .retryScheduled _ | .backoffReset => false
  | _ => true

/-- From `w` to `w'` nothing changes that the account reads. -/
structure Idle (w w' : World) : Prop where
  state : w'.ctx.state = w.ctx.state
  reactor : w'.ctx.reactor = w.ctx.reactor
  retryTimer : w'.ctx.retryTimer = w.ctx.retryTimer
  maxFailures : w'.ctx.maxFailures = w.ctx.maxFailures
  failCount : w'.ctx.failCount = w.ctx.failCount
  backoff : w'.ctx.backoff = w.ctx.backoff
  log : ∃ l, w'.log = l ++ w.log ∧ ∀ o ∈ l, o.isIdle = true

namespace Idle

/-- Nothing happens. -/
lemma refl : Idle w w := ⟨rfl, rfl, rfl, rfl, rfl, rfl, [], rfl, by simp⟩

/-- One part of a call behind another. -/
lemma trans (h1 : Idle w w1) (h2 : Idle w1 w') : Idle w w' where
  state := h2.state.trans h1.state
  reactor := h2.reactor.trans h1.reactor
  retryTimer := h2.retryTimer.trans h1.retryTimer
  maxFailures := h2.maxFailures.trans h1.maxFailures
  failCount := h2.failCount.trans h1.failCount
  backoff := h2.backoff.trans h1.backoff
  log := by
    obtain ⟨l1, hl1, hi1⟩ := h1.log
    obtain ⟨l2, hl2, hi2⟩ := h2.log
    refine ⟨l2 ++ l1, by rw [hl2, hl1, List.append_assoc], fun o ho => ?_⟩
    rcases List.mem_append.mp ho with ho | ho
    · exact hi2 o ho
    · exact hi1 o ho

lemma childOnly (co : ChildOnly w w') : Idle w w' := by
  obtain ⟨l, hl, child⟩ := co.log
  refine ⟨co.state, co.reactor, co.retryTimer, co.maxFailures, co.failCount, co.backoff, l, hl, ?_⟩
  intro o ho
  have hc := child o ho
  cases o <;> first | rfl | simp [Obs.isChild] at hc

/-- What is idle is not counted. -/
lemma note {o : Obs} (ho : o.isIdle = true) : Idle w (w.note o) :=
  { refl (w := w) with log := ⟨[o], rfl, by simpa using ho⟩ }

lemma recordFailure (time : Int) : Idle w (w.recordFailure time) :=
  { refl (w := w) with log := ⟨[.breakerFailure time], rfl, by simp [Obs.isIdle]⟩ }

lemma recordSuccess : Idle w w.recordSuccess :=
  { refl (w := w) with log := ⟨[.breakerSuccess], rfl, by simp [Obs.isIdle]⟩ }

lemma afterAllow (time : Int) : Idle w (w.afterAllow time) := by
  rw [World.afterAllow]
  split
  · exact { refl (w := w) with log := ⟨[.breakerCooldown time], rfl, by simp [Obs.isIdle]⟩ }
  · exact refl

lemma addCtxTimer (os : Os) (timeout interval : Nat) (cb : Callback) :
    Idle w (w.addCtxTimer os timeout interval cb).1 := by
  rw [addCtxTimer_eq]
  exact { refl (w := w) with }

lemma cancelCtxTimer (h : Option Nat) : Idle w (w.cancelCtxTimer h) := by
  rw [cancelCtxTimer_eq]
  exact { refl (w := w) with }

lemma setHealth (h : Option Nat) : Idle w (w.setHealth h) := { refl (w := w) with }

end Idle

/-- Observations that are not counted change none of the counts. -/
lemma idle_append (log : List Obs) (bound : Int) (b : Backoff) {l : List Obs}
    (hl : ∀ o ∈ l, o.isIdle = true) :
    spawnsSince (l ++ log) = spawnsSince log ∧
      (SpawnsBounded bound (l ++ log) ↔ SpawnsBounded bound log) ∧
      (Paced b log → Paced b (l ++ log)) := by
  induction l with
  | nil => exact ⟨rfl, .rfl, id⟩
  | cons o l ih =>
    obtain ⟨spawns, bounded, paced⟩ := ih fun o ho => hl o (by simp [ho])
    have ho := hl o (by simp)
    refine ⟨?_, ?_, fun pa => ?_⟩
    · cases o <;> first | exact spawns | simp [Obs.isIdle] at ho
    · cases o <;> first | exact bounded | simp [Obs.isIdle] at ho
    · obtain ⟨base, maximum, multiplier, current, delays⟩ := paced pa
      cases o <;> first
        | exact ⟨base, maximum, multiplier, current, delays⟩
        | simp [Obs.isIdle] at ho

/-- The cover depends on nothing that is idle. -/
lemma Covered.idle (co : Covered limit k w) (id : Idle w w') : Covered limit k w' := by
  obtain ⟨l, hl, idle⟩ := id.log
  obtain ⟨spawns, bounded, paced⟩ :=
    idle_append w.log (limit + 1) w.ctx.backoff idle
  refine ⟨co.positive, id.maxFailures.trans co.limit_eq, ?_, ?_, ?_⟩
  · rw [hl, spawns, id.failCount]
    exact co.spawns
  · rw [hl]
    exact bounded.mpr co.bounded
  · rw [hl, id.backoff]
    exact paced co.paced

/-- So does the whole invariant. -/
lemma Storm.idle (st : Storm limit w) (id : Idle w w') : Storm limit w' := by
  refine ⟨st.toCovered.idle id, fun owes => ?_, ?_, ?_, ?_⟩
  · refine (st.owed ?_).idle id
    simpa only [World.owes, ServiceCtx.exhausted, id.retryTimer, id.reactor, id.state,
      id.maxFailures, id.failCount] using owes
  · rw [id.retryTimer, id.failCount]
    exact st.pending
  · rw [id.retryTimer, id.failCount, id.state]
    exact st.early
  · rw [id.state, id.failCount]
    exact st.within

/-! ## Entries -/

/-- A charge covers one more spawn. -/
lemma Covered.charge (co : Covered limit k w) : Covered limit (k + 1) w.charge := by
  obtain ⟨positive, limit_eq, spawns, bounded, paced⟩ := co
  refine ⟨positive, limit_eq, ?_, bounded, ?_⟩
  · simp only [World.charge, spawnsSince]
    omega
  · exact ⟨paced.base, paced.maximum, paced.multiplier, paced.current, paced.delays⟩

lemma Covered.setState {s : ServiceState} (co : Covered limit k w) : Covered limit k (w.setState s) :=
  ⟨co.positive, co.limit_eq, co.spawns, co.bounded, co.paced⟩

lemma Covered.setRetry {h : Option Nat} (co : Covered limit k w) : Covered limit k (w.setRetry h) :=
  ⟨co.positive, co.limit_eq, co.spawns, co.bounded, co.paced⟩

/-- Fewer coming spawns are covered as well. -/
lemma Covered.mono {j : Nat} (co : Covered limit k w) (le : j ≤ k) : Covered limit j w :=
  ⟨co.positive, co.limit_eq, by have := co.spawns; omega, co.bounded, co.paced⟩

lemma Covered.cancelRetry (co : Covered limit k w) : Covered limit k w.cancelRetry :=
  (co.idle (.cancelCtxTimer _)).setRetry

/-- A spawn that was covered takes place. -/
lemma Covered.spawn (co : Covered limit 1 w) (le : w.ctx.failCount ≤ limit) (os : Os) :
    Covered limit 0 (serviceSpawn w os).1 := by
  have called : Covered limit 0 (w.note .spawn) := by
    obtain ⟨positive, limit_eq, spawns, bounded, paced⟩ := co
    refine ⟨positive, limit_eq, spawns, ⟨?_, bounded⟩, ?_⟩
    · omega
    · exact ⟨paced.base, paced.maximum, paced.multiplier, paced.current, paced.delays⟩
  exact called.idle (.childOnly (.spawn w os))

/-- `service_schedule_retry` for a covered spawn. -/
lemma Covered.scheduleRetry (co : Covered limit 1 w) (le : w.ctx.failCount ≤ limit)
    (early : w.ctx.state.isUp = true → w.ctx.failCount < limit) (os : Os) :
    Storm limit (serviceScheduleRetry w os) := by
  have next : Covered limit 1 w.nextBackoff := by
    obtain ⟨positive, limit_eq, spawns, bounded, paced⟩ := co
    exact ⟨positive, limit_eq, spawns, bounded, paced.next⟩
  have added : ∀ h, Covered limit 1 ((w.nextBackoff.cancelRetry.addCtxTimer os
      w.ctx.backoff.currentDelayMs 0 .delayedSpawn).1.setRetry h) :=
    fun h => (next.cancelRetry.idle (.addCtxTimer os _ 0 .delayedSpawn)).setRetry
  have ctx : ∀ h, ((w.nextBackoff.cancelRetry.addCtxTimer os
      w.ctx.backoff.currentDelayMs 0 .delayedSpawn).1.setRetry h).ctx =
        { w.nextBackoff.ctx with retryTimer := h } := by
    intro h
    simp [World.setRetry, World.cancelRetry]
  simp only [serviceScheduleRetry]
  split
  · rename_i unset
    -- the timer could not be allocated: the state is FAILED, and the monitor may try again
    rw [unset]
    have failed := (added none).setState (s := .failed)
    refine ⟨failed.mono (Nat.zero_le 1), fun _ => failed, ?_, ?_, ?_⟩
    · simp [World.setState, ctx]
    · simp [World.setState, ctx]
    · simp [World.setState, ServiceState.isUp]
  · refine ⟨(added _).mono (Nat.zero_le 1), fun _ => added _, ?_, ?_, ?_⟩
    · intro _
      rw [ctx]
      exact le
    · intro _ up
      rw [ctx] at up ⊢
      exact early up
    · intro up
      rw [ctx] at up ⊢
      exact le

/-- `fail_count++`, and then either the end of the retries or the next one. -/
lemma Covered.chargeAndRetry (co : Covered limit 0 w)
    (pending : w.ctx.retryTimer.isSome = true → w.ctx.failCount < limit) (os : Os) :
    Storm limit (w.chargeAndRetry os) := by
  have charged : Covered limit 1 (w.charge.recordFailure os.failTime) :=
    co.charge.idle (.recordFailure os.failTime)
  simp only [World.chargeAndRetry]
  split
  · have gone := (charged.idle (.note (o := .gaveUp w.ctx.maxFailures) rfl)).setState (s := .failed)
    refine ⟨gone.mono (Nat.zero_le 1), fun _ => gone, fun some => ?_, fun _ => ?_, ?_⟩
    · -- a retry that is still pending was scheduled below the bound
      have lt := pending some
      change ((w.ctx.failCount + 1 : Nat) : Int) ≤ limit
      omega
    · simp [World.setState, ServiceState.isUp]
    · simp [World.setState, ServiceState.isUp]
  · rename_i few
    have lt : ((w.ctx.failCount + 1 : Nat) : Int) < limit := by
      have eq := co.limit_eq
      simp only [ServiceCtx.exhausted, decide_eq_true_eq, Int.not_le] at few
      exact eq ▸ few
    exact charged.scheduleRetry (Int.le_of_lt lt) (fun _ => lt) os

/-! ## The callbacks -/

/-- A service that is starting, with no retry pending. -/
lemma Storm.starting (co : Covered limit 0 w) (state : w.ctx.state = .starting)
    (retry : w.ctx.retryTimer = none) (le : w.ctx.failCount ≤ limit) : Storm limit w := by
  refine ⟨co, fun owes => ?_, fun some => ?_, fun some => ?_, fun _ => le⟩
  · simp [World.owes, state, retry] at owes
  · simp [retry] at some
  · simp [retry] at some

/-- `service_delayed_spawn_cb` behind the circuit breaker. -/
lemma Covered.delayedSpawnAttempt (co : Covered limit 1 w) (retry : w.ctx.retryTimer = none)
    (le : w.ctx.failCount ≤ limit) (os : Os) : Storm limit (delayedSpawnAttempt w os) := by
  have spawned := co.spawn le os
  have same := Idle.childOnly (.spawn w os)
  have retry := same.retryTimer.trans retry
  have count : (serviceSpawn w os).1.ctx.failCount = w.ctx.failCount := same.failCount
  rw [Service.delayedSpawnAttempt]
  split
  · rename_i heq
    rw [heq] at spawned retry count
    have starting := Storm.starting (spawned.setState (s := .starting)) rfl retry (count ▸ le)
    exact starting.idle (.addCtxTimer os 100 0 .monitor)
  · rename_i heq
    rw [heq] at spawned retry
    dsimp only at retry
    exact spawned.chargeAndRetry (by simp [retry]) os

/-- `service_delayed_spawn_cb`, when its timer is the one that the context names. -/
lemma Storm.delayedSpawn (st : Storm limit w) (live : w.ctx.retryTimer.isSome = true) (os : Os) :
    Storm limit (serviceDelayedSpawnCb w os) := by
  have le := st.pending live
  have cancelled : Covered limit 1 w.cancelRetry := (st.owed (by simp [World.owes, live])).cancelRetry
  have retry : w.cancelRetry.ctx.retryTimer = none := rfl
  have count : w.cancelRetry.ctx.failCount = w.ctx.failCount := by
    simp [World.cancelRetry, World.setRetry]
  have state : w.cancelRetry.ctx.state = w.ctx.state := by
    simp [World.cancelRetry, World.setRetry]
  rw [serviceDelayedSpawnCb]
  split
  · exact st
  · dsimp only
    split
    · have allowed := Idle.afterAllow (w := w.cancelRetry) os.allowTime
      refine (cancelled.idle allowed).delayedSpawnAttempt (allowed.retryTimer.trans retry) ?_ os
      rw [allowed.failCount, count]
      exact le
    · refine cancelled.scheduleRetry (by rw [count]; exact le) ?_ os
      rw [state, count]
      exact st.early live

/-- The failure that is charged covers the spawn of the retry. -/
lemma Storm.sigchldFailed (st : Storm limit w) (os : Os) : Storm limit (sigchldFailed w os) := by
  rw [Service.sigchldFailed]
  split
  · rename_i up
    have up : w.ctx.state.isUp = true := by rcases up with h | h <;> simp [h, ServiceState.isUp]
    have failed : Idle (w.setState .failed) ((w.setState .failed).recordFailure os.failTime) :=
      .recordFailure os.failTime
    dsimp only
    split
    · rename_i hr
      have lt : w.ctx.failCount < limit := by
        have few := hr.2
        have eq := st.limit_eq
        simp only [ServiceCtx.exhausted, decide_eq_true_eq, Int.not_le] at few
        exact eq ▸ few
      refine (st.toCovered.setState.idle failed).charge.scheduleRetry ?_ ?_ os
      · change ((w.ctx.failCount + 1 : Nat) : Int) ≤ limit
        omega
      · simp [World.charge, World.recordFailure, World.setState, ServiceState.isUp]
    · rename_i hr
      have gone : Storm limit (w.setState .failed) := by
        refine ⟨st.toCovered.setState, fun owes => ?_, st.pending, ?_, ?_⟩
        · -- no retry is scheduled, so only one that was pending can be owed
          refine (st.owed ?_).setState
          simp only [World.owes, World.setState, Bool.or_eq_true] at owes ⊢
          refine owes.imp_right fun waiting => absurd ?_ hr
          simp only [Bool.and_eq_true, Bool.not_eq_true'] at waiting
          exact ⟨waiting.1.1, fun full => Bool.false_ne_true (waiting.2.symm.trans full)⟩
        · simp [World.setState, ServiceState.isUp]
        · simp [World.setState, ServiceState.isUp]
      exact gone.idle failed
  · exact st

/-- Nothing is spawned by `service_sigchld_cb` itself. -/
lemma Storm.sigchld (st : Storm limit w) (os : Os) : Storm limit (serviceSigchldCb w os) := by
  have waited := st.idle (.childOnly (.waitpidNohang w w.ctx.childPid os.alive1.dies))
  rw [serviceSigchldCb]
  split
  · split
    · exact st.idle (.note rfl)
    · split
      · rename_i heq
        rw [heq] at waited
        have cleared := waited.idle
          (.childOnly (.trans .clearChild (.trans (.setHealthy false) .unlinkPid)))
        exact cleared.sigchldFailed os
      · rename_i heq
        rw [heq] at waited
        exact waited
  · exact st

lemma Storm.health (st : Storm limit w) (os : Os) : Storm limit (serviceHealthCheckCb w os) := by
  have checked : ∀ healthy : Bool,
      Storm limit ((w.setHealthy healthy).setLastHealthCheck os.wallTime) := fun healthy =>
    st.idle (.childOnly (.trans (.setHealthy healthy) (.setLastHealthCheck os.wallTime)))
  simp only [serviceHealthCheckCb]
  split
  · split
    · split
      · exact (checked _).idle .recordSuccess
      · exact (checked _).idle (.recordFailure os.failTime)
    · exact st.idle (.childOnly (.setHealthy false))
  · exact st

/-! ### The monitor -/

/-- After the service has entered RUNNING nothing is on record, so any state will do. -/
lemma Storm.fresh (co : Covered limit 1 w) (zero : w.ctx.failCount = 0) : Storm limit w := by
  have positive := co.positive
  refine ⟨co.mono (Nat.zero_le 1), fun _ => co, fun _ => ?_, fun _ _ => ?_, fun _ => ?_⟩
  · rw [zero]
    exact Int.le_trans (by decide) positive
  · rw [zero]
    exact Int.lt_of_lt_of_le (by decide) positive
  · rw [zero]
    exact Int.le_trans (by decide) positive

/-- The health timer of a service that has just entered RUNNING. -/
lemma Covered.monitorStartHealth (co : Covered limit 1 w) (zero : w.ctx.failCount = 0) (os : Os) :
    Storm limit (monitorStartHealth w os) := by
  have added : ∀ interval h, Idle w
      ((w.cancelHealth.addCtxTimer os interval interval .healthCheck).1.setHealth h) := by
    intro interval h
    have cancelled : Idle w w.cancelHealth := (Idle.cancelCtxTimer _).trans (.setHealth none)
    exact (cancelled.trans (.addCtxTimer os interval interval .healthCheck)).trans (.setHealth h)
  have failed : ∀ interval h, Storm limit ((w.cancelHealth.addCtxTimer os interval interval
      .healthCheck).1.setHealth h |>.setState .failed) := fun interval h =>
    .fresh (co.idle (added interval h)).setState ((added interval h).failCount.trans zero)
  rw [Service.monitorStartHealth]
  split
  · dsimp only
    split
    · exact failed _ _
    · exact .fresh (co.idle (added _ _)) ((added _ _).failCount.trans zero)
  · exact .fresh co zero

/-- The service enters RUNNING: the account is opened anew. -/
lemma Covered.enterRunning (co : Covered limit k w) :
    Covered limit 1 ((w.setState .running).note .enteredRunning).resetCharges := by
  have pa := co.paced
  refine ⟨co.positive, co.limit_eq, ?_, co.bounded, ?_⟩
  · simp [World.resetCharges, World.note, spawnsSince]
  · exact ⟨pa.base, pa.maximum, pa.multiplier, pa.current, pa.delays⟩

/-- Only the delays start again. -/
lemma Covered.resetBackoff (co : Covered limit k w) : Covered limit k w.resetBackoff :=
  ⟨co.positive, co.limit_eq, co.spawns, co.bounded, co.paced.reset⟩

/-- A service that is ready begins a new stretch. -/
lemma Storm.monitorReady (st : Storm limit w) (os : Os) : Storm limit (monitorReady w os) := by
  have checked := st.toCovered.enterRunning.idle
    (.childOnly (.trans (.setHealthy true) (.setLastHealthCheck os.wallTime)))
  have ready := checked.resetBackoff.idle .recordSuccess
  exact ready.monitorStartHealth rfl os

lemma Storm.monitorAlive (st : Storm limit w) (os : Os) : Storm limit (monitorAlive w os) := by
  have validated := st.idle (.childOnly (.validate w os))
  have probed := validated.idle (.childOnly (.probeNativeApi (monitorValidate w os) os))
  simp only [Service.monitorAlive]
  split
  · rw [monitorProbe]
    split
    · rename_i heq
      rw [heq] at probed
      exact probed.monitorReady os
    · rename_i heq
      rw [heq] at probed
      exact probed
  · exact validated

/-- A start that took too long is charged like a failure. -/
lemma Storm.monitorTimeout (st : Storm limit w) (starting : w.ctx.state = .starting) (os : Os) :
    Storm limit (monitorTimeout w os) := by
  have killed := Idle.childOnly (w := w) .killTimedOut
  have charged : Covered limit 1 (((w.killTimedOut.setState .failed).charge).recordFailure os.failTime) :=
    ((st.toCovered.idle killed).setState (s := .failed)).charge.idle (.recordFailure os.failTime)
  have count : (((w.killTimedOut.setState .failed).charge).recordFailure os.failTime).ctx.failCount =
      w.ctx.failCount + 1 := by
    simpa only [World.recordFailure, World.charge, World.setState] using
      congrArg (· + 1) killed.failCount
  have retry : (((w.killTimedOut.setState .failed).charge).recordFailure os.failTime).ctx.retryTimer =
      w.ctx.retryTimer := by
    simpa only [World.recordFailure, World.charge, World.setState] using killed.retryTimer
  simp only [Service.monitorTimeout]
  split
  · rename_i hr
    refine charged.scheduleRetry ?_ (by simp [World.setState, World.charge, World.recordFailure,
      ServiceState.isUp]) os
    have few := hr.2
    have eq := charged.limit_eq
    simp only [ServiceCtx.exhausted, decide_eq_true_eq, Int.not_le] at few
    omega
  · refine ⟨charged.mono (Nat.zero_le 1), fun _ => charged, fun some => ?_, ?_, ?_⟩
    · -- a retry that is pending in STARTING was scheduled below the bound
      rw [retry] at some
      have lt := st.early some (by simp [starting, ServiceState.isUp])
      rw [count]
      omega
    · simp [World.setState, World.charge, World.recordFailure, ServiceState.isUp]
    · simp [World.setState, World.charge, World.recordFailure, ServiceState.isUp]

/-- A tick of a starting service, by its branches. -/
lemma Storm.monitorStarting (st : Storm limit w) (starting : w.ctx.state = .starting) (os : Os) :
    Storm limit (monitorStarting w os) := by
  have asked := Idle.childOnly (.startingChildAlive w os.alive1)
  have kept := st.idle asked
  have state := asked.state.trans starting
  rw [Service.monitorStarting]
  split
  · exact st.monitorTimeout starting os
  · split
    · rename_i heq
      rw [heq] at kept
      exact kept.monitorAlive os
    · rename_i heq
      rw [heq] at kept state
      dsimp only at kept state
      refine kept.toCovered.chargeAndRetry (fun some => kept.early some ?_) os
      simp [state, ServiceState.isUp]

/-- `service_monitor_cb` spawns nothing itself. -/
lemma Storm.monitor (st : Storm limit w) (os : Os) : Storm limit (serviceMonitorCb w os) := by
  rw [serviceMonitorCb]
  split
  · exact st
  · rename_i starting
    exact st.monitorStarting starting os
  · rename_i running
    rw [monitorRunning]
    split
    · exact st
    · refine st.toCovered.setState.chargeAndRetry (fun some => ?_) os
      exact st.early some (by simp [running, ServiceState.isUp])
  · rename_i failed
    rw [monitorFailed]
    split
    · rename_i hr
      have lt : w.ctx.failCount < limit := by
        have few := hr.2.2.1
        have eq := st.limit_eq
        simp only [ServiceCtx.exhausted, decide_eq_true_eq, Int.not_le] at few
        omega
      -- the monitor takes up the retry that could not be scheduled, without a charge of its own
      have covered := st.owed (by simp [World.owes, failed, hr.1, hr.2.2.1])
      exact covered.scheduleRetry (Int.le_of_lt lt) (fun _ => lt) os
    · exact st
  · exact st

/-! ### The end of a stop -/

/-- A service that goes down owes no more than before. -/
lemma Storm.down {s : ServiceState} (st : Storm limit w) (down : s = .stopped ∨ s = .stopping) :
    Storm limit (w.setState s) := by
  refine ⟨st.toCovered.setState, fun owes => ?_, st.pending, ?_, ?_⟩
  · have pending : w.ctx.retryTimer.isSome = true := by
      rcases down with rfl | rfl <;> simpa [World.owes, World.setState] using owes
    exact (st.owed (by simp [World.owes, pending])).setState
  · rcases down with rfl | rfl <;> simp [World.setState, ServiceState.isUp]
  · rcases down with rfl | rfl <;> simp [World.setState, ServiceState.isUp]

/-- Without its retry timer a service that is STOPPING owes nothing. -/
lemma Covered.stopping (co : Covered limit k w) (down : w.ctx.state = .stopping)
    (unset : w.ctx.retryTimer = none) : Storm limit w := by
  refine ⟨co.mono (Nat.zero_le k), fun owes => ?_, ?_, ?_, ?_⟩
  · simp [World.owes, down, unset] at owes
  · simp [unset]
  · simp [unset]
  · simp [down, ServiceState.isUp]

/-- A stop cancels what was to be spawned. -/
lemma Storm.stopSync (st : Storm limit w) (os : Os) : Storm limit (serviceStopSync w os).1 := by
  have detached : Storm limit (w.setState .stopping).detach := by
    rw [World.detach]
    split
    · have monitor : Covered limit 0 (w.setState .stopping).cancelMonitor :=
        (st.toCovered.setState.idle (.cancelCtxTimer _)).idle { Idle.refl with }
      have health : Covered limit 0 (w.setState .stopping).cancelMonitor.cancelRetry.cancelHealth :=
        (monitor.cancelRetry.idle (.cancelCtxTimer _)).idle (.setHealth none)
      have ctx : ((w.setState .stopping).cancelMonitor.cancelRetry.cancelHealth).ctx =
          { w.ctx with
            state := .stopping, monitorTimer := none, retryTimer := none, healthTimer := none } := by
        simp [World.cancelHealth, World.cancelRetry, World.cancelMonitor, World.setHealth,
          World.setRetry, World.setMonitor, World.setState]
      have detached : Covered limit 0
          ((w.setState .stopping).cancelMonitor.cancelRetry.cancelHealth.setReactor false) :=
        ⟨health.positive, health.limit_eq, health.spawns, health.bounded, health.paced⟩
      exact detached.stopping (congrArg (·.state) ctx) (congrArg (·.retryTimer) ctx)
    · exact st.down (.inr rfl)
  have stopped := detached.idle (.childOnly (.stopChild _ os))
    |>.idle (.childOnly (.trans .clearChild (.setHealthy false)))
  exact ((stopped.down (.inl rfl)).idle (.childOnly .unlinkPid)).idle (.note rfl)

/-- The end of an asynchronous stop spawns nothing. -/
lemma Storm.stopWaitDone {s : StopState} (st : Storm limit w) : Storm limit (stopWaitDone w s) := by
  have stopped := (st.idle (.childOnly .clearChild)).down (s := .stopped) (.inl rfl)
    |>.idle (.childOnly (.trans (.setHealthy false) .unlinkPid))
  rw [Service.stopWaitDone, World.done]
  split
  · exact stopped.idle (.note rfl)
  · exact stopped

lemma Storm.stopWait {s : StopState} (st : Storm limit w) (os : Os) :
    Storm limit (serviceStopWaitCb w s os) := by
  have added : ∀ cb, Storm limit (w.addTimer os 100 0 cb).1 := fun cb =>
    st.idle { Idle.refl (w := w) with }
  rw [serviceStopWaitCb]
  split
  · dsimp only
    split
    · exact (st.idle (.childOnly (.trans .kill .waitpid))).stopWaitDone
    · split
      · exact (added _).stopSync os
      · exact added _
  · exact st.stopWaitDone

/-! ## Runs -/

/-- A timer callback keeps the account; the retry callback is that of the timer that the context
names. -/
lemma Storm.dispatch {cb : Callback} (st : Storm limit w) (os : Os)
    (live : cb = .delayedSpawn → w.ctx.retryTimer.isSome = true) : Storm limit (dispatch w os cb) := by
  cases cb with
  | monitor => exact st.monitor os
  | delayedSpawn => exact st.delayedSpawn (live rfl) os
  | healthCheck => exact st.health os
  | stopWait s => exact st.stopWait os

/-- A retry timer that fires has its spawn covered. -/
lemma Storm.fire {t : Timer Callback} (st : Storm limit w) (tr : Tracked w) (ht : t ∈ w.priv.timers)
    (nowMs : Nat) (os : Os) : Storm limit (w.fire t nowMs os) := by
  apply World.fire_keeps (I := Storm limit) (fun st => st.idle { Idle.refl with }) st
  intro cb hcb mark
  apply Storm.dispatch (w := w.beginTimer t nowMs) (st.idle { Idle.refl with })
  rintro rfl
  -- the timer that fires is live, so it is the one that the context names
  have handle := tr.only t.toPublic (mem_live.mpr ⟨t, .inr ht, mark, rfl⟩) hcb
  rw [ServiceCtx.retryHandle] at handle
  split at handle
  · exact handle ▸ rfl
  · cases handle

/-- By cases on the event. -/
lemma Storm.step {e : Event} (st : Storm limit w) (tr : Tracked w) (own : e.isSupervision = true)
    (hs : Service.step w e = some w') : Storm limit w' := by
  cases e with
  | monitor os => cases hs; exact st.monitor os
  | timer id nowMs os =>
    obtain ⟨t, due, rfl⟩ := Option.map_eq_some_iff.mp hs
    exact st.fire tr (World.due_mem due) nowMs os
  | sigchld os => cases hs; exact st.sigchld os
  | health os => cases hs; exact st.health os
  | exit pid => cases hs; exact st.idle (.childOnly .exit)
  | setReactor os => cases own
  | start os => cases own
  | stopAsync d os => cases own
  | stopSync os => cases own
  | applyConfig cfg os => cases own

/-! ### The start -/

/-- A context from `service_init`, perhaps attached to its reactor: nothing is on record. -/
structure Ready (limit : Int) (w : World) : Prop extends Covered limit 1 w where
  zero : w.ctx.failCount = 0
  unset : w.ctx.retryTimer = none
  stopped : w.ctx.state = .stopped
  inv : StopInv w

/-- Attaching the context spawns nothing. -/
lemma Ready.setReactor (re : Ready limit w) (os : Os) : Ready limit (serviceSetReactor w os).1 := by
  have attached : Covered limit 1 (w.setReactor true) :=
    ⟨re.positive, re.limit_eq, re.spawns, re.bounded, re.paced⟩
  have cancelled : Covered limit 1 (w.setReactor true).cancelMonitor :=
    (attached.idle (.cancelCtxTimer _)).idle { Idle.refl with }
  have added := cancelled.idle (.addCtxTimer os 100 1000 .monitor)
  refine ⟨⟨added.positive, added.limit_eq, added.spawns, added.bounded, added.paced⟩, ?_, ?_,
    ?_, re.inv.setReactor os⟩
  · simpa [serviceSetReactor, World.setMonitor, World.cancelMonitor, World.setReactor] using re.zero
  · simpa [serviceSetReactor, World.setMonitor, World.cancelMonitor, World.setReactor] using re.unset
  · simpa [serviceSetReactor, World.setMonitor, World.cancelMonitor, World.setReactor] using re.stopped

/-- `fail_count = 0`, when it is zero already. -/
lemma Covered.resetCharges (co : Covered limit k w) (zero : w.ctx.failCount = 0) :
    Covered limit k w.resetCharges := by
  have pa := co.paced
  refine ⟨co.positive, co.limit_eq, ?_, co.bounded, ?_⟩
  · have spawns := co.spawns
    rw [zero] at spawns
    exact spawns
  · exact ⟨pa.base, pa.maximum, pa.multiplier, pa.current, pa.delays⟩

/-- The first spawn is the start's own. -/
lemma Ready.start (re : Ready limit w) (os : Os) (started : (serviceStartAsync w os).2 = true) :
    Storm limit (serviceStartAsync w os).1 := by
  have called : Idle w ((w.note .startCalled).afterAllow os.allowTime) :=
    (Idle.note rfl).trans (.afterAllow os.allowTime)
  have covered := re.toCovered.idle called
  have zero := called.failCount.trans re.zero
  have unset := called.retryTimer.trans re.unset
  have le : ((0 : Nat) : Int) ≤ limit := Int.le_trans (by decide) re.positive
  revert started
  simp only [serviceStartAsync]
  split
  · rename_i up
    simp [re.stopped] at up
  · split
    · split
      · intro _
        exact .starting (covered.mono (Nat.zero_le 1)).setState rfl unset (zero ▸ le)
      · -- the spawn of the start is the first of its stretch
        have spawned := covered.spawn (zero ▸ le) os
        have same := Idle.childOnly (.spawn ((w.note .startCalled).afterAllow os.allowTime) os)
        have zero := same.failCount.trans zero
        have unset := same.retryTimer.trans unset
        rw [startSpawn]
        split
        · split
          · rename_i heq
            rw [heq] at spawned zero unset
            intro _
            have begun := (spawned.setState (s := .starting)).idle
              (.childOnly (.setStart os.wallTime os.startMs))
            refine .starting (begun.resetCharges zero).resetBackoff ?_ ?_ ?_
            · simp only [World.resetBackoff, World.resetCharges, World.setStart, World.setState]
            · simpa only [World.resetBackoff, World.resetCharges, World.setStart, World.setState]
                using unset
            · simpa only [World.resetBackoff, World.resetCharges, World.setStart, World.setState]
                using le
          · intro failed
            cases failed
        · intro failed
          cases failed
    · intro failed
      cases failed

/-- A context from `service_init` is ready. -/
lemma World.init_ready {cfg : AtpConfig} {alloc : Bool} {ctx : ServiceCtx}
    (init : serviceInit cfg alloc = some ctx) (pidFile : Option Int) (nowMs : Nat) :
    Ready ctx.maxFailures (World.init ctx pidFile nowMs) := by
  have inv := World.init_stopInv ctx pidFile nowMs
  obtain ⟨_, _, _, _, _, rfl⟩ := serviceInit_eq init
  have positive : 1 ≤ positiveOr cfg.service.maxFailures 5 := positiveOr_pos (by decide)
  exact ⟨⟨positive, rfl, Nat.le_refl 1, trivial, rfl, rfl, rfl, rfl, trivial⟩, rfl, rfl, rfl, inv⟩

/-- No restart storm: after a successful start, whatever the monitor, the timers, SIGCHLD and the
health checks do, `service_spawn` is called at most `max_failures + 1` times until the service is up,
and every retry waits as long as its number asks for. -/
theorem spawns_bounded_of_start (cfg : AtpConfig) (alloc : Bool) (ctx : ServiceCtx)
    (pidFile : Option Int) (nowMs : Nat) (reactors : List Os) (w0 : World) (os : Os)
    (es : List Event) (init : serviceInit cfg alloc = some ctx)
    (attach : run Service.step (World.init ctx pidFile nowMs) (reactors.map .setReactor) = some w0)
    (started : (serviceStartAsync w0 os).2 = true) (own : ∀ e ∈ es, e.isSupervision = true)
    (rn : run Service.step (serviceStartAsync w0 os).1 es = some w) :
    SpawnsBounded (ctx.maxFailures + 1) w.log ∧ DelaysDoubled w.log := by
  have ready : Ready ctx.maxFailures w0 := by
    refine run_preserves_along (P := fun _ e => ∃ os, e = .setReactor os) ?_
      (World.init_ready init pidFile nowMs) (Along.of_forall ?_) attach
    · rintro w _ w' re ⟨os, rfl⟩ ⟨⟩
      exact re.setReactor os
    · intro w e he
      obtain ⟨os, -, rfl⟩ := List.mem_map.mp he
      exact ⟨os, rfl⟩
  have kept : Storm ctx.maxFailures w ∧ StopInv w := by
    refine run_preserves_along (P := fun _ e => e.isSupervision = true)
      (I := fun w => Storm ctx.maxFailures w ∧ StopInv w) ?_
      ⟨ready.start os started, ready.inv.start os⟩ (Along.of_forall fun _ e he => own e he) rn
    rintro w e w' ⟨st, inv⟩ own hs
    exact ⟨st.step inv.tracked own hs, inv.step hs⟩
  exact ⟨kept.1.bounded, kept.1.paced.delays⟩

/-- The defaults, with one failure allowed. -/
def oneFailure : AtpConfig :=
  let cfg := configSetDefaults "/data/adb/atp".toList false
  { cfg with service := { cfg.service with maxFailures := 1 } }

/-- The child of the start dies, and so does the one that the retry spawns. -/
def twoSpawns : List Event :=
  [.exit 100, .sigchld (.calm 2000 100), .timer 1 3100 (.calm 3100 101), .exit 101,
    .sigchld (.calm 4000 101), .monitor (.calm 5000 102)]

/-- With one failure allowed there are two spawns. -/
theorem spawns_bounded_of_start_twoSpawns :
    ∃ ctx w0 w, serviceInit oneFailure true = some ctx ∧ ctx.maxFailures = 1 ∧
      run Service.step (World.init ctx none 1000) [.setReactor (.calm 1000 100)] = some w0 ∧
      run Service.step (serviceStartAsync w0 (.calm 1000 100)).1 twoSpawns = some w ∧
      spawnsSince w.log = 2 ∧ SpawnsBounded 2 w.log ∧ DelaysDoubled w.log :=
  ⟨_, _, _, rfl, rfl, rfl, rfl, rfl, spawns_bounded_of_start oneFailure true _ none 1000
    [.calm 1000 100] _ (.calm 1000 100) twoSpawns rfl rfl rfl (by decide) rfl⟩

end Atpd.Service
