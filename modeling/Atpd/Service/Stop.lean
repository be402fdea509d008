import Atpd.Reactor.Handle
import Atpd.Service.Frame
import Atpd.Service.Step

/-!
# No resurrection after a stop

A supervisor that was stopped stays down until it is started again. The only callback that spawns
is `service_delayed_spawn_cb`, and the context keeps one handle for it: `Tracked` says that every
live retry timer is the one that `retry_timer` names, so that a stop, which cancels the handle,
leaves none. From then on the state is STOPPED or STOPPING, no callback schedules a retry in these
states, and `Quiet` is kept by every event but a start.
-/

namespace Atpd.Service

open Atpd.Config Atpd.Reactor Atpd.Lib

variable {w w' : World} {os : Os}

/-- The last thing in the history that a start or a stop did is a stop that returned. -/
def stoppedAt : List Obs → Bool
  | [] => false
  | .stopReturned :: _ => true
  | .startCalled :: _ => false
  | _ :: log => stoppedAt log

/-- `service_spawn` never ran between a stop that returned and the next start. -/
def NoResurrection : List Obs → Prop
  | [] => True
  | .spawn :: log => stoppedAt log = false ∧ NoResurrection log
  | _ :: log => NoResurrection log

/-- The retry timer that the context can cancel. -/
def ServiceCtx.retryHandle (ctx : ServiceCtx) : Option Nat :=
  if ctx.reactor then ctx.retryTimer else none

/-- Every live retry timer is the one that the context can cancel. -/
structure Tracked (w : World) : Prop where
  wf : w.priv.Wf
  only : w.priv.Only .delayedSpawn w.ctx.retryHandle
  clean : NoResurrection w.log

/-- The service was started, or not stopped yet. -/
structure Active (w : World) : Prop extends Tracked w where
  going : stoppedAt w.log = false

/-- The service is down: no retry timer is live. -/
structure Quiet (w : World) : Prop extends Tracked w where
  none : w.priv.Only .delayedSpawn none
  down : w.ctx.state = .stopped ∨ w.ctx.state = .stopping

/-! ## Bookkeeping -/

/-- Observations that are no marks do not count. -/
lemma unmarked_append {l log : List Obs} (hl : ∀ o ∈ l, o.isMark = false) :
    stoppedAt (l ++ log) = stoppedAt log ∧ (NoResurrection (l ++ log) ↔ NoResurrection log) := by
  induction l with
  | nil => simp
  | cons o l ih =>
    obtain ⟨stop, clean⟩ := ih fun o ho => hl o (by simp [ho])
    have ho := hl o (by simp)
    cases o <;> simp_all [Obs.isMark, stoppedAt, NoResurrection]

/-- What happens aside is neither a start nor a stop. -/
lemma Aside.stoppedAt (as : Aside w w') : stoppedAt w'.log = stoppedAt w.log := by
  obtain ⟨l, hl, unmarked⟩ := as.log
  rw [hl]
  exact (unmarked_append unmarked).1

/-- The retry timer stays within reach. -/
lemma Tracked.aside (tr : Tracked w) (as : Aside w w') : Tracked w' where
  wf := as.priv ▸ tr.wf
  only := by
    rw [as.priv, ServiceCtx.retryHandle, as.reactor, as.retryTimer]
    exact tr.only
  clean := by
    obtain ⟨l, hl, unmarked⟩ := as.log
    rw [hl]
    exact (unmarked_append unmarked).2.mpr tr.clean

/-- The service stays active. -/
lemma Active.aside (ac : Active w) (as : Aside w w') : Active w' :=
  ⟨ac.toTracked.aside as, as.stoppedAt.trans ac.going⟩

/-- And a quiet one stays quiet. -/
lemma Quiet.aside (qu : Quiet w) (as : Aside w w') : Quiet w' :=
  ⟨qu.toTracked.aside as, as.priv ▸ qu.none, as.state ▸ qu.down⟩

lemma Tracked.setState {s : ServiceState} (tr : Tracked w) : Tracked (w.setState s) :=
  ⟨tr.wf, tr.only, tr.clean⟩

lemma Active.setState {s : ServiceState} (ac : Active w) : Active (w.setState s) :=
  ⟨ac.toTracked.setState, ac.going⟩

/-! ## Timer operations -/

lemma Tracked.cancelCtxTimer (tr : Tracked w) (h : Option Nat) : Tracked (w.cancelCtxTimer h) := by
  cases h with
  | none => exact tr
  | some id =>
    simp only [World.cancelCtxTimer]
    split
    · exact ⟨tr.wf.cancel, tr.only.cancel tr.wf, tr.clean⟩
    · exact tr

lemma Tracked.addCtxTimer {timeout interval : Nat} {cb : Callback} (tr : Tracked w)
    (ne : cb ≠ .delayedSpawn) : Tracked (w.addCtxTimer os timeout interval cb).1 := by
  simp only [World.addCtxTimer]
  split
  · exact ⟨tr.wf.add, tr.only.add_other ne, tr.clean⟩
  · exact tr

lemma Tracked.cancelHealth (tr : Tracked w) : Tracked w.cancelHealth := by
  have cancelled := tr.cancelCtxTimer w.ctx.healthTimer
  exact ⟨cancelled.wf, cancelled.only, cancelled.clean⟩

lemma Tracked.cancelMonitor (tr : Tracked w) : Tracked w.cancelMonitor := by
  have cancelled := tr.cancelCtxTimer w.ctx.monitorTimer
  exact ⟨cancelled.wf, cancelled.only, cancelled.clean⟩

/-- After a cancel of the retry timer no retry timer is live. -/
lemma Tracked.cancelRetry_none (tr : Tracked w) : w.cancelRetry.priv.Only .delayedSpawn none := by
  have only := tr.only
  rw [ServiceCtx.retryHandle] at only
  change (w.cancelCtxTimer w.ctx.retryTimer).priv.Only .delayedSpawn none
  -- the handle is cancelled only if the context has its reactor; without it there was no live timer
  cases ht : w.ctx.retryTimer with
  | none => simpa [ht, World.cancelCtxTimer] using only
  | some id =>
    simp only [World.cancelCtxTimer]
    split
    · rename_i hr
      simp only [hr, ht, ↓reduceIte] at only
      exact only.cancel_self tr.wf
    · rename_i hr
      simpa [hr] using only

lemma Tracked.cancelRetry (tr : Tracked w) : Tracked w.cancelRetry := by
  have cancelled := tr.cancelCtxTimer w.ctx.retryTimer
  exact ⟨cancelled.wf, tr.cancelRetry_none.of_none, cancelled.clean⟩

/-- A retry timer is added when none is live, and its handle is kept. -/
lemma Tracked.addRetry (tr : Tracked w) (unset : w.priv.Only .delayedSpawn none) (os : Os)
    (timeout : Nat) :
    Tracked ((w.addCtxTimer os timeout 0 .delayedSpawn).1.setRetry
      (w.addCtxTimer os timeout 0 .delayedSpawn).2) := by
  cases hr : w.ctx.reactor with
  | false =>
    simp only [World.addCtxTimer, hr, Bool.false_eq_true, ↓reduceIte]
    exact ⟨tr.wf, unset.of_none, tr.clean⟩
  | true =>
    simp only [World.addCtxTimer, World.addTimer, hr, ↓reduceIte]
    refine ⟨tr.wf.add, ?_, tr.clean⟩
    simp only [ServiceCtx.retryHandle, World.setRetry, hr, ↓reduceIte]
    exact unset.add_self

/-! ## A service that is not stopped -/

lemma Active.addCtxTimer {timeout interval : Nat} {cb : Callback} (ac : Active w)
    (ne : cb ≠ .delayedSpawn) : Active (w.addCtxTimer os timeout interval cb).1 :=
  ⟨ac.toTracked.addCtxTimer ne, by rw [addCtxTimer_log]; exact ac.going⟩

lemma Active.cancelRetry (ac : Active w) : Active w.cancelRetry :=
  ⟨ac.toTracked.cancelRetry, by rw [cancelRetry_log]; exact ac.going⟩

lemma Active.cancelHealth (ac : Active w) : Active w.cancelHealth :=
  ⟨ac.toTracked.cancelHealth, by rw [cancelHealth_log]; exact ac.going⟩

/-- `service_schedule_retry` replaces the retry timer. -/
lemma Active.scheduleRetry (ac : Active w) (os : Os) : Active (serviceScheduleRetry w os) := by
  have base := ac.aside .nextBackoff
  have added := base.toTracked.cancelRetry.addRetry base.toTracked.cancelRetry_none os
    w.ctx.backoff.currentDelayMs
  have going : stoppedAt (w.nextBackoff.cancelRetry.addCtxTimer os w.ctx.backoff.currentDelayMs 0
      .delayedSpawn).1.log = false := by
    rw [addCtxTimer_log, cancelRetry_log]
    exact base.going
  simp only [serviceScheduleRetry]
  split
  · exact ⟨added.setState, going⟩
  · exact ⟨added, going⟩

/-- `service_spawn` may run. -/
lemma Active.spawn (ac : Active w) (os : Os) : Active (serviceSpawn w os).1 := by
  have called : Active (w.note .spawn) := ⟨⟨ac.wf, ac.only, ac.going, ac.clean⟩, ac.going⟩
  exact called.aside (.spawn w os)

/-- A retry is scheduled by an active service. -/
lemma Active.chargeAndRetry (ac : Active w) (os : Os) : Active (w.chargeAndRetry os) := by
  have charged := (ac.aside .charge).aside (.recordFailure os.failTime)
  simp only [World.chargeAndRetry]
  split
  · exact (charged.aside (.note rfl)).setState
  · exact charged.scheduleRetry os

lemma Active.delayedSpawnAttempt (ac : Active w) (os : Os) : Active (delayedSpawnAttempt w os) := by
  have spawned := ac.spawn os
  rw [Service.delayedSpawnAttempt]
  split
  · rename_i heq
    rw [heq] at spawned
    exact spawned.setState.addCtxTimer (by simp)
  · rename_i heq
    rw [heq] at spawned
    exact spawned.chargeAndRetry os

/-- And fires for an active one. -/
lemma Active.delayedSpawn (ac : Active w) (os : Os) : Active (serviceDelayedSpawnCb w os) := by
  rw [serviceDelayedSpawnCb]
  split
  · exact ac
  · dsimp only
    split
    · exact (ac.cancelRetry.aside .afterAllow).delayedSpawnAttempt os
    · exact ac.cancelRetry.scheduleRetry os

/-- The end of a child that was up does not stop the service. -/
lemma Active.sigchldFailed (ac : Active w) (os : Os) : Active (sigchldFailed w os) := by
  have failed := (ac.setState (s := .failed)).aside (.recordFailure os.failTime)
  rw [Service.sigchldFailed]
  split
  · dsimp only
    split
    · exact (failed.aside .charge).scheduleRetry os
    · exact failed
  · exact ac

lemma Active.monitorStartHealth (ac : Active w) (os : Os) : Active (monitorStartHealth w os) := by
  have added : ∀ {interval : Nat} {h : Option Nat}, Active
      ((w.cancelHealth.addCtxTimer os interval interval .healthCheck).1.setHealth h) := by
    intro interval h
    have added : Active (w.cancelHealth.addCtxTimer os interval interval .healthCheck).1 :=
      ac.cancelHealth.addCtxTimer (by simp)
    exact ⟨⟨added.wf, added.only, added.clean⟩, added.going⟩
  rw [Service.monitorStartHealth]
  split
  · dsimp only
    split
    · exact added.setState
    · exact added
  · exact ac

lemma Active.monitorReady (ac : Active w) (os : Os) : Active (monitorReady w os) := by
  have ready := ac.setState (s := .running) |>.aside (.note (o := .enteredRunning) rfl)
    |>.aside .resetCharges |>.aside (.setHealthy true)
    |>.aside (.setLastHealthCheck os.wallTime) |>.aside .resetBackoff |>.aside .recordSuccess
  exact ready.monitorStartHealth os

lemma Active.monitorProbe (ac : Active w) (os : Os) : Active (monitorProbe w os) := by
  have probed := ac.aside (.probeNativeApi w os)
  rw [Service.monitorProbe]
  split
  · rename_i heq
    rw [heq] at probed
    exact probed.monitorReady os
  · rename_i heq
    rw [heq] at probed
    exact probed

lemma Active.monitorAlive (ac : Active w) (os : Os) : Active (monitorAlive w os) := by
  have validated := ac.aside (.validate w os)
  simp only [Service.monitorAlive]
  split
  · exact validated.monitorProbe os
  · exact validated

lemma Active.monitorTimeout (ac : Active w) (os : Os) : Active (monitorTimeout w os) := by
  have failed := ((ac.aside .killTimedOut).setState (s := .failed)).aside .charge
    |>.aside (.recordFailure os.failTime)
  simp only [Service.monitorTimeout]
  split
  · exact failed.scheduleRetry os
  · exact failed

lemma Active.monitorStarting (ac : Active w) (os : Os) : Active (monitorStarting w os) := by
  have asked := ac.aside (.startingChildAlive w os.alive1)
  rw [Service.monitorStarting]
  split
  · exact ac.monitorTimeout os
  · split
    · rename_i heq
      rw [heq] at asked
      exact asked.monitorAlive os
    · rename_i heq
      rw [heq] at asked
      exact asked.chargeAndRetry os

/-- `service_monitor_cb` does not stop the service either. -/
lemma Active.monitor (ac : Active w) (os : Os) : Active (serviceMonitorCb w os) := by
  rw [serviceMonitorCb]
  split
  · exact ac
  · exact ac.monitorStarting os
  · rw [monitorRunning]
    split
    · exact ac
    · exact ac.setState.chargeAndRetry os
  · rw [monitorFailed]
    split
    · exact ac.scheduleRetry os
    · exact ac
  · exact ac

/-! ## Stopping -/

lemma Quiet.setState {s : ServiceState} (qu : Quiet w) (down : s = .stopped ∨ s = .stopping) :
    Quiet (w.setState s) :=
  ⟨qu.toTracked.setState, qu.none, down⟩

/-- A quiet service is neither RUNNING nor STARTING. -/
lemma Quiet.not_up (qu : Quiet w) : ¬(w.ctx.state = .running ∨ w.ctx.state = .starting) := by
  rcases qu.down with h | h <;> simp [h]

/-- A stop may be noted once there is no retry left. -/
lemma Quiet.noteStop (qu : Quiet w) : Quiet (w.note .stopReturned) :=
  ⟨⟨qu.wf, qu.only, qu.clean⟩, qu.none, qu.down⟩

lemma Quiet.done {d : Bool} (qu : Quiet w) : Quiet (w.done d) := by
  rw [World.done]
  split
  · exact qu.aside (.note rfl)
  · exact qu

lemma Quiet.addTimer {timeout interval : Nat} {cb : Callback} (qu : Quiet w)
    (ne : cb ≠ .delayedSpawn) : Quiet (w.addTimer os timeout interval cb).1 :=
  ⟨⟨qu.wf.add, qu.only.add_other ne, qu.clean⟩, qu.none.add_other ne, qu.down⟩

lemma Quiet.addCtxTimer {timeout interval : Nat} {cb : Callback} (qu : Quiet w)
    (ne : cb ≠ .delayedSpawn) : Quiet (w.addCtxTimer os timeout interval cb).1 := by
  rw [World.addCtxTimer]
  split
  · exact qu.addTimer ne
  · exact qu

lemma Quiet.cancelCtxTimer {h : Option Nat} (qu : Quiet w) : Quiet (w.cancelCtxTimer h) := by
  refine ⟨qu.toTracked.cancelCtxTimer h, ?_, by rw [cancelCtxTimer_ctx]; exact qu.down⟩
  cases h with
  | none => exact qu.none
  | some id =>
    simp only [World.cancelCtxTimer]
    split
    · exact qu.none.cancel qu.wf
    · exact qu.none

lemma Quiet.cancelHealth (qu : Quiet w) : Quiet w.cancelHealth := by
  have cancelled := qu.cancelCtxTimer (h := w.ctx.healthTimer)
  exact ⟨⟨cancelled.wf, cancelled.only, cancelled.clean⟩, cancelled.none, cancelled.down⟩

/-- Detaching the context cancels the retry timer. -/
lemma Tracked.detach (tr : Tracked w) (down : w.ctx.state = .stopping) : Quiet w.detach := by
  rw [World.detach]
  split
  · have monitor := tr.cancelMonitor
    have retry : Quiet w.cancelMonitor.cancelRetry :=
      ⟨monitor.cancelRetry, monitor.cancelRetry_none, .inr (by
        simpa [World.cancelRetry, World.cancelMonitor, World.setRetry, World.setMonitor] using down)⟩
    have health := retry.cancelHealth
    exact ⟨⟨health.wf, health.none.of_none, health.clean⟩, health.none, health.down⟩
  · rename_i hr
    refine ⟨tr, ?_, .inr down⟩
    simpa [ServiceCtx.retryHandle, hr] using tr.only

/-- `service_stop_sync` cancels the retry timer, whatever it was before. -/
lemma Tracked.stopSync (tr : Tracked w) (os : Os) : Quiet (serviceStopSync w os).1 := by
  have detached := (tr.setState (s := .stopping)).detach rfl
  have stopped := detached.aside (.stopChild _ os) |>.aside .clearChild |>.aside (.setHealthy false)
  exact (stopped.setState (.inl rfl) |>.aside .unlinkPid).noteStop

/-- `service_stop_async` leaves the service quiet once it cancels its timers. -/
lemma Tracked.stopAsyncWait (tr : Tracked w) (down : w.ctx.state = .stopping) (d : Bool) (os : Os) :
    Quiet (stopAsyncWait w d os).1 := by
  have monitor := tr.cancelMonitor
  have quiet : Quiet w.cancelMonitor.cancelRetry :=
    ⟨monitor.cancelRetry, monitor.cancelRetry_none, .inr (by
      simpa [World.cancelRetry, World.cancelMonitor, World.setRetry, World.setMonitor] using down)⟩
  simp only [Service.stopAsyncWait]
  split
  · split
    · exact quiet.addCtxTimer (by simp)
    · exact (quiet.addCtxTimer (by simp)).noteStop
  · exact ((quiet.setState (.inl rfl)).aside .resetCharges |>.aside (.setHealthy false)
      |>.aside .unlinkPid).done

/-! ## Events -/

/-- The invariant of a run: the service may spawn, or it is quiet. -/
def StopInv (w : World) : Prop := Active w ∨ Quiet w

/-- In either case the retry timer is within reach. -/
lemma StopInv.tracked (inv : StopInv w) : Tracked w := inv.elim (·.toTracked) (·.toTracked)

lemma StopInv.aside (inv : StopInv w) (as : Aside w w') : StopInv w' :=
  inv.imp (·.aside as) (·.aside as)

/-- Fields that the invariant does not read are set. -/
lemma StopInv.congr (inv : StopInv w) (priv : w'.priv = w.priv)
    (handle : w'.ctx.retryHandle = w.ctx.retryHandle) (state : w'.ctx.state = w.ctx.state)
    (log : w'.log = w.log) : StopInv w' := by
  have tr : Tracked w' :=
    ⟨priv ▸ inv.tracked.wf, by rw [priv, handle]; exact inv.tracked.only, log ▸ inv.tracked.clean⟩
  exact inv.imp (fun ac => ⟨tr, log ▸ ac.going⟩) (fun qu => ⟨tr, priv ▸ qu.none, state ▸ qu.down⟩)

lemma StopInv.setHealth {h : Option Nat} (inv : StopInv w) : StopInv (w.setHealth h) :=
  inv.congr rfl rfl rfl rfl

lemma StopInv.setMonitor {h : Option Nat} (inv : StopInv w) : StopInv (w.setMonitor h) :=
  inv.congr rfl rfl rfl rfl

lemma StopInv.applyFields (inv : StopInv w) (cfg : AtpConfig) : StopInv (w.applyFields cfg) :=
  inv.congr rfl rfl rfl rfl

/-- `service_monitor_cb` does nothing to a quiet service. -/
lemma StopInv.monitor (inv : StopInv w) (os : Os) : StopInv (serviceMonitorCb w os) := by
  rcases inv with ac | qu
  · exact .inl (ac.monitor os)
  · right
    rcases qu.down with h | h <;> simpa [serviceMonitorCb, h] using qu

/-- Nor does `service_sigchld_cb` retry for it. -/
lemma StopInv.sigchld (inv : StopInv w) (os : Os) : StopInv (serviceSigchldCb w os) := by
  rw [serviceSigchldCb]
  split
  · split
    · exact inv.aside (.note rfl)
    · have waited := inv.aside (.waitpidNohang w w.ctx.childPid os.alive1.dies)
      split
      · rename_i heq
        rw [heq] at waited
        have cleared := waited.aside (.trans .clearChild (.trans (.setHealthy false) .unlinkPid))
        rcases cleared with ac | qu
        · exact .inl (ac.sigchldFailed os)
        · right
          rw [sigchldFailed, if_neg qu.not_up]
          exact qu
      · rename_i heq
        rw [heq] at waited
        exact waited
  · exact inv

/-- The beginning of a stop makes the service quiet. -/
lemma StopInv.beginStop (inv : StopInv w) : StopInv w.beginStop ∧ w.beginStop.ctx.state = .stopping := by
  have stopping : StopInv (w.setState .stopping) :=
    inv.imp (·.setState) (·.setState (.inr rfl))
  simp only [World.beginStop]
  split
  · exact ⟨stopping.imp (·.cancelHealth) (·.cancelHealth), by
      simp [World.cancelHealth, World.setHealth, World.setState]⟩
  · exact ⟨stopping, rfl⟩

/-- And so does `service_stop_async`. -/
lemma StopInv.stopAsync (inv : StopInv w) (d : Bool) (os : Os) :
    StopInv (serviceStopAsync w d os).1 := by
  have killed := inv.beginStop.1.aside .terminate
  have down : w.beginStop.terminate.ctx.state = .stopping :=
    Aside.terminate.state.trans inv.beginStop.2
  simp only [serviceStopAsync]
  split
  -- SIGTERM failed: no stop was recorded, so nothing is promised
  · exact killed
  · split
    · exact .inr (killed.tracked.stopAsyncWait down d os)
    · exact .inr (killed.tracked.stopSync os).done

/-- The end of a stop leaves it quiet. -/
lemma StopInv.stopWaitDone (inv : StopInv w) (s : StopState) : StopInv (stopWaitDone w s) := by
  have cleared := inv.aside .clearChild
  have stopped : StopInv (w.clearChild.setState .stopped) :=
    cleared.imp (·.setState) (·.setState (.inl rfl))
  have unlinked := stopped.aside (.trans (.setHealthy false) .unlinkPid)
  rw [Service.stopWaitDone, World.done]
  split
  · exact unlinked.aside (.note rfl)
  · exact unlinked

lemma StopInv.addTimer {timeout interval : Nat} {cb : Callback} (inv : StopInv w)
    (ne : cb ≠ .delayedSpawn) : StopInv (w.addTimer os timeout interval cb).1 :=
  inv.imp (fun ac => ⟨⟨ac.wf.add, ac.only.add_other ne, ac.clean⟩, ac.going⟩) (·.addTimer ne)

lemma StopInv.addCtxTimer {timeout interval : Nat} {cb : Callback} (inv : StopInv w)
    (ne : cb ≠ .delayedSpawn) : StopInv (w.addCtxTimer os timeout interval cb).1 :=
  inv.imp (·.addCtxTimer ne) (·.addCtxTimer ne)

lemma StopInv.cancelCtxTimer {h : Option Nat} (inv : StopInv w) : StopInv (w.cancelCtxTimer h) :=
  inv.imp (fun ac => ⟨ac.toTracked.cancelCtxTimer h, by rw [cancelCtxTimer_log]; exact ac.going⟩)
    (·.cancelCtxTimer)

/-- A tick of the wait adds no retry. -/
lemma StopInv.stopWait (inv : StopInv w) (s : StopState) (os : Os) :
    StopInv (serviceStopWaitCb w s os) := by
  rw [serviceStopWaitCb]
  split
  · dsimp only
    split
    · exact (inv.aside (.trans .kill .waitpid)).stopWaitDone _
    · have added : StopInv
          (w.addTimer os 100 0 (.stopWait { s with attempts := s.attempts + 1 })).1 :=
        inv.addTimer (by simp)
      split
      · exact .inr (added.tracked.stopSync os)
      · exact added
  · exact inv.stopWaitDone s

lemma StopInv.setReactor (inv : StopInv w) (os : Os) : StopInv (serviceSetReactor w os).1 := by
  have only : w.priv.Only .delayedSpawn w.ctx.retryTimer := by
    have only := inv.tracked.only
    rw [ServiceCtx.retryHandle] at only
    split at only
    · exact only
    · exact only.of_none
  have attached : StopInv (w.setReactor true) := by
    have tr : Tracked (w.setReactor true) := ⟨inv.tracked.wf, only, inv.tracked.clean⟩
    exact inv.imp (fun ac => ⟨tr, ac.going⟩) (fun qu => ⟨tr, qu.none, qu.down⟩)
  have cancelled : StopInv (w.setReactor true).cancelMonitor :=
    attached.cancelCtxTimer.setMonitor
  exact (cancelled.addCtxTimer (by simp)).setMonitor

lemma StopInv.applyConfig (inv : StopInv w) (cfg : AtpConfig) (os : Os) :
    StopInv (serviceApplyConfig w cfg os).1 := by
  simp only [serviceApplyConfig]
  split
  · split
    · exact inv.addCtxTimer (by simp)
    · exact ((inv.addCtxTimer (by simp)).cancelCtxTimer.applyFields cfg).setHealth
  · exact inv.applyFields cfg

/-- A start, whatever came before it, makes the service one that may spawn. -/
lemma StopInv.start (inv : StopInv w) (os : Os) : StopInv (serviceStartAsync w os).1 := by
  have ac : Active (w.note .startCalled) := ⟨⟨inv.tracked.wf, inv.tracked.only, inv.tracked.clean⟩, rfl⟩
  have allowed : Active ((w.note .startCalled).afterAllow os.allowTime) := ac.aside .afterAllow
  have spawned := allowed.spawn os
  left
  simp only [serviceStartAsync]
  split
  · exact ac
  · split
    · split
      · exact allowed.setState
      · rw [startSpawn]
        split
        · split
          · rename_i heq
            rw [heq] at spawned
            exact spawned.setState.aside (.trans (.setStart _ _) (.trans .resetCharges .resetBackoff))
          · rename_i heq
            rw [heq] at spawned
            exact spawned.setState.aside (.recordFailure _)
        · exact allowed.setState
    · exact ac

/-- A timer callback keeps the invariant; the retry callback is that of a live timer. -/
lemma StopInv.dispatch {cb : Callback} (inv : StopInv w) (os : Os)
    (live : cb = .delayedSpawn → ∃ x ∈ w.priv.live, x.callback = some .delayedSpawn) :
    StopInv (dispatch w os cb) := by
  cases cb with
  | monitor => exact inv.monitor os
  | healthCheck => exact inv.aside (.health w os)
  | stopWait s => exact inv.stopWait s os
  | delayedSpawn =>
    rcases inv with ac | qu
    · exact .inl (ac.delayedSpawn os)
    · -- a quiet service has no live retry timer, so none can fire
      obtain ⟨x, hx, hcb⟩ := live rfl
      exact absurd (qu.none x hx hcb) (by simp)

/-- Fewer live timers keep the invariant. -/
lemma StopInv.mono {r : Priv Callback} (inv : StopInv w) (wf : r.Wf)
    (sub : ∀ x ∈ r.live, x ∈ w.priv.live) : StopInv { w with priv := r } := by
  have tr : Tracked { w with priv := r } := ⟨wf, inv.tracked.only.mono sub, inv.tracked.clean⟩
  exact inv.imp (fun ac => ⟨tr, ac.going⟩) (fun qu => ⟨tr, qu.none.mono sub, qu.down⟩)

/-- A retry timer that fires is a live one, so the service is active. -/
lemma StopInv.fire {t : Timer Callback} (inv : StopInv w) (ht : t ∈ w.priv.timers) (nowMs : Nat)
    (os : Os) : StopInv (w.fire t nowMs os) := by
  have wf : { w.priv with currentTimeMs := nowMs : Priv Callback }.Wf :=
    ⟨inv.tracked.wf.nodup, inv.tracked.wf.fresh, inv.tracked.wf.runningFresh,
      inv.tracked.wf.unlinked⟩
  rw [World.fire]
  split
  · exact inv.mono wf.remove fun x hx => live_of_freeTimer hx
  · rename_i mark
    have begun : StopInv (w.beginTimer t nowMs) :=
      inv.mono (wf.begin ht) fun x hx => live_of_beginTimer ht hx
    have ran : StopInv ((w.beginTimer t nowMs).runTimer t os) := by
      rw [World.runTimer]
      split
      · rename_i cb hcb
        split
        · refine begun.dispatch os fun hd => ⟨t.toPublic, mem_live.mpr ?_, hcb.trans (hd ▸ rfl)⟩
          exact ⟨t, .inl rfl, by simpa using mark, rfl⟩
        · exact begun
      · exact begun
    exact ran.mono ran.tracked.wf.endTimer fun x hx => live_of_endTimer hx

/-- By cases on the event. -/
lemma StopInv.step {e : Event} (inv : StopInv w) (st : step w e = some w') : StopInv w' := by
  cases e with
  | setReactor os => cases st; exact inv.setReactor os
  | start os => cases st; exact inv.start os
  | monitor os => cases st; exact inv.monitor os
  | timer id nowMs os =>
    obtain ⟨t, due, rfl⟩ := Option.map_eq_some_iff.mp st
    exact inv.fire (World.due_mem due) nowMs os
  | sigchld os => cases st; exact inv.sigchld os
  | health os => cases st; exact inv.aside (.health w os)
  | exit pid => cases st; exact inv.aside .exit
  | stopAsync d os => cases st; exact inv.stopAsync d os
  | stopSync os => cases st; exact .inr (inv.tracked.stopSync os)
  | applyConfig cfg os => cases st; exact inv.applyConfig cfg os

/-! ## Until the next start -/

namespace Quiet

/-- Fields that are not about the retry timer are set. -/
lemma congr (qu : Quiet w) (priv : w'.priv = w.priv) (state : w'.ctx.state = w.ctx.state)
    (log : w'.log = w.log) : Quiet w' :=
  ⟨⟨priv ▸ qu.wf, priv ▸ qu.none.of_none, log ▸ qu.clean⟩, priv ▸ qu.none, state ▸ qu.down⟩

/-- Only a service that is up is monitored. -/
lemma monitor (qu : Quiet w) (os : Os) : Quiet (serviceMonitorCb w os) := by
  rcases qu.down with h | h <;> simpa [serviceMonitorCb, h] using qu

/-- The end of a child of a quiet service is no failure. -/
lemma sigchld (qu : Quiet w) (os : Os) : Quiet (serviceSigchldCb w os) := by
  rw [serviceSigchldCb]
  split
  · split
    · exact qu.aside (.note rfl)
    · have waited := qu.aside (.waitpidNohang w w.ctx.childPid os.alive1.dies)
      split
      · rename_i heq
        rw [heq] at waited
        have cleared := waited.aside (.trans .clearChild (.trans (.setHealthy false) .unlinkPid))
        rw [Service.sigchldFailed, if_neg cleared.not_up]
        exact cleared
      · rename_i heq
        rw [heq] at waited
        exact waited
  · exact qu

lemma stopAsync (qu : Quiet w) (d : Bool) (os : Os) : Quiet (serviceStopAsync w d os).1 := by
  have stopping : Quiet (w.setState .stopping) := qu.setState (.inr rfl)
  have begun : Quiet w.beginStop := by
    simp only [World.beginStop]
    split
    · exact stopping.cancelHealth
    · exact stopping
  have killed := begun.aside .terminate
  have down : w.beginStop.terminate.ctx.state = .stopping :=
    Aside.terminate.state.trans (StopInv.beginStop (.inr qu)).2
  simp only [serviceStopAsync]
  split
  · exact killed
  · split
    · exact killed.toTracked.stopAsyncWait down d os
    · exact (killed.toTracked.stopSync os).done

lemma stopWaitDone (qu : Quiet w) (s : StopState) : Quiet (stopWaitDone w s) :=
  ((qu.aside .clearChild).setState (.inl rfl)).aside (.trans (.setHealthy false) .unlinkPid) |>.done

lemma stopWait (qu : Quiet w) (s : StopState) (os : Os) : Quiet (serviceStopWaitCb w s os) := by
  rw [serviceStopWaitCb]
  split
  · dsimp only
    split
    · exact (qu.aside (.trans .kill .waitpid)).stopWaitDone _
    · have added : Quiet
          (w.addTimer os 100 0 (.stopWait { s with attempts := s.attempts + 1 })).1 :=
        qu.addTimer (by simp)
      split
      · exact added.toTracked.stopSync os
      · exact added
  · exact qu.stopWaitDone s

lemma setReactor (qu : Quiet w) (os : Os) : Quiet (serviceSetReactor w os).1 := by
  have attached : Quiet (w.setReactor true) := qu.congr rfl rfl rfl
  have cancelled : Quiet (w.setReactor true).cancelMonitor :=
    attached.cancelCtxTimer.congr rfl rfl rfl
  exact (cancelled.addCtxTimer (by simp)).congr rfl rfl rfl

/-- The settings of a service that is down are taken over, and its timers left. -/
lemma applyConfig (qu : Quiet w) (cfg : AtpConfig) (os : Os) :
    Quiet (serviceApplyConfig w cfg os).1 := by
  have down : w.ctx.state ≠ .running := fun h => qu.not_up (.inl h)
  simp only [serviceApplyConfig, down, and_false, ↓reduceIte]
  exact qu.congr rfl rfl rfl

/-- With fewer timers it stays quiet. -/
lemma mono {r : Priv Callback} (qu : Quiet w) (wf : r.Wf) (sub : ∀ x ∈ r.live, x ∈ w.priv.live) :
    Quiet { w with priv := r } :=
  ⟨⟨wf, qu.only.mono sub, qu.clean⟩, qu.none.mono sub, qu.down⟩

/-- A timer callback of a quiet service; it is not that of a retry. -/
lemma dispatch {cb : Callback} (qu : Quiet w) (os : Os)
    (live : ∃ x ∈ w.priv.live, x.callback = some cb) : Quiet (dispatch w os cb) := by
  cases cb with
  | monitor => exact qu.monitor os
  | healthCheck => exact qu.aside (.health w os)
  | stopWait s => exact qu.stopWait s os
  | delayedSpawn =>
    obtain ⟨x, hx, hcb⟩ := live
    exact absurd (qu.none x hx hcb) (by simp)

/-- No timer of a quiet service is a retry. -/
lemma fire {t : Timer Callback} (qu : Quiet w) (ht : t ∈ w.priv.timers) (nowMs : Nat) (os : Os) :
    Quiet (w.fire t nowMs os) := by
  have wf : { w.priv with currentTimeMs := nowMs : Priv Callback }.Wf :=
    ⟨qu.wf.nodup, qu.wf.fresh, qu.wf.runningFresh, qu.wf.unlinked⟩
  rw [World.fire]
  split
  · exact qu.mono wf.remove fun x hx => live_of_freeTimer hx
  · rename_i mark
    have begun : Quiet (w.beginTimer t nowMs) :=
      qu.mono (wf.begin ht) fun x hx => live_of_beginTimer ht hx
    have ran : Quiet ((w.beginTimer t nowMs).runTimer t os) := by
      rw [World.runTimer]
      split
      · rename_i cb hcb
        split
        · refine begun.dispatch os ⟨t.toPublic, mem_live.mpr ?_, hcb⟩
          exact ⟨t, .inl rfl, by simpa using mark, rfl⟩
        · exact begun
      · exact begun
    exact ran.mono ran.wf.endTimer fun x hx => live_of_endTimer hx

/-- A quiet service stays so until it is started. -/
lemma step {e : Event} (qu : Quiet w) (other : ∀ os, e ≠ .start os)
    (st : Service.step w e = some w') : Quiet w' := by
  cases e with
  | setReactor os => cases st; exact qu.setReactor os
  | start os => exact absurd rfl (other os)
  | monitor os => cases st; exact qu.monitor os
  | timer id nowMs os =>
    obtain ⟨t, due, rfl⟩ := Option.map_eq_some_iff.mp st
    exact qu.fire (World.due_mem due) nowMs os
  | sigchld os => cases st; exact qu.sigchld os
  | health os => cases st; exact qu.aside (.health w os)
  | exit pid => cases st; exact qu.aside .exit
  | stopAsync d os => cases st; exact qu.stopAsync d os
  | stopSync os => cases st; exact qu.toTracked.stopSync os
  | applyConfig cfg os => cases st; exact qu.applyConfig cfg os

end Quiet

/-- Before the first event there is no timer. -/
lemma World.init_stopInv (ctx : ServiceCtx) (pidFile : Option Int) (nowMs : Nat) :
    StopInv (World.init ctx pidFile nowMs) :=
  .inl ⟨⟨reactorCreate_wf, reactorCreate_only, trivial⟩, rfl⟩

/-- No resurrection: in every run of the supervisor, once `service_stop_sync` has returned, or
`service_stop_async` has returned 0, `service_spawn` does not run until `service_start_async` is
called. -/
theorem no_spawn_after_stop (ctx : ServiceCtx) (pidFile : Option Int) (nowMs : Nat)
    (es : List Event) (rn : run Service.step (World.init ctx pidFile nowMs) es = some w) :
    NoResurrection w.log := by
  have inv : StopInv w :=
    run_preserves (fun _ _ _ inv st => inv.step st) (World.init_stopInv ctx pidFile nowMs) rn
  exact inv.tracked.clean

/-- The child dies, a retry is scheduled, and the service is stopped before the retry is due. -/
def stopBeforeRetry : List Event :=
  [.setReactor (.calm 1000 100), .start (.calm 1000 100), .exit 100, .sigchld (.calm 2000 100),
    .stopSync (.calm 2500 100), .timer 1 3500 (.calm 3500 101), .monitor (.calm 4000 101)]

/-- A stop comes between the failure and the retry, and nothing is spawned. -/
theorem no_spawn_after_stop_stopBeforeRetry :
    ∃ w, run Service.step (World.init defaultCtx none 1000) stopBeforeRetry = some w ∧
      stoppedAt w.log = true ∧ NoResurrection w.log :=
  ⟨_, rfl, rfl, no_spawn_after_stop defaultCtx none 1000 stopBeforeRetry rfl⟩

end Atpd.Service
