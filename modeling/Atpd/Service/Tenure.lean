import Atpd.Service.Failure

/-!
# What a step does to the child

Two things are kept next to the child: its PID file, which others may read, and the time of its
start, by which a health check tells old samples from new ones. Both stand as long as the child
does. `Retains` says that a function keeps the child with both of them, or leaves none; `Renewed`
says that a new child was forked, and then both are its own, or it is gone already. Every event of
the supervisor does one or the other: `step_tenure`.
-/

namespace Atpd.Service

open Atpd.Config Atpd.Reactor Atpd.Lib

variable {w w' w1 w2 : World} {os : Os} {pid : Int} {ms : Nat}

/-- The forks of a history. -/
def forkCount : List Obs → Nat
  | [] => 0
  | .forked _ :: log => forkCount log + 1
  | _ :: log => forkCount log

/-- The child with this pid has neither exited nor been reaped. -/
def World.Live (w : World) (pid : Int) : Prop := ∃ p ∈ w.procs, p.pid = pid ∧ p.exited = false

/-- The child of `w'` is the one of `w`, or there is none. -/
structure Continues (w w' : World) : Prop where
  forks : forkCount w'.log = forkCount w.log
  start : w'.ctx.startTimeMs = w.ctx.startTimeMs
  child : 0 < w'.ctx.childPid → w'.ctx.childPid = w.ctx.childPid
  live : 0 < w'.ctx.childPid → w'.Live w'.ctx.childPid → w.Live w.ctx.childPid

/-- One part of a call behind another. -/
lemma Continues.trans (h1 : Continues w w1) (h2 : Continues w1 w2) : Continues w w2 where
  forks := h2.forks.trans h1.forks
  start := h2.start.trans h1.start
  child pos := by
    have same := h2.child pos
    exact same.trans (h1.child (same ▸ pos))
  live pos live := by
    have same := h2.child pos
    exact h1.live (same ▸ pos) (h2.live pos live)

/-- The PID file is not the child. -/
lemma Continues.unlinkPid : Continues w (serviceUnlinkPid w) := ⟨rfl, rfl, fun _ => rfl, fun _ => id⟩

/-- A live child of `w'` has the PID file it had in `w`. -/
def FileKept (w w' : World) : Prop :=
  0 < w'.ctx.childPid → w'.Live w'.ctx.childPid → w'.pidFile = w.pidFile

/-- The child of `w'` is the one of `w`, with its PID file, or there is none. -/
structure Retains (w w' : World) : Prop extends Continues w w' where
  file : FileKept w w'

/-- A new child was forked; it is the child of `w'`, with its PID file and the start time
`startMs`, or it is gone. -/
structure Renewed (startMs : Nat) (w w' : World) : Prop where
  forks : forkCount w'.log = forkCount w.log + 1
  start : 0 < w'.ctx.childPid → w'.ctx.startTimeMs = startMs
  file : 0 < w'.ctx.childPid → w'.Live w'.ctx.childPid → w'.pidFile = some w'.ctx.childPid

namespace Retains

/-- What the relation reads is left alone. -/
lemma of_eq (pid : w'.ctx.childPid = w.ctx.childPid) (procs : w'.procs = w.procs)
    (file : w'.pidFile = w.pidFile) (start : w'.ctx.startTimeMs = w.ctx.startTimeMs)
    (forks : forkCount w'.log = forkCount w.log) : Retains w w' where
  forks := forks
  start := start
  child _ := pid
  live _ := by
    rw [World.Live, World.Live, pid, procs]
    exact id
  file _ _ := file

/-- Nothing happens. -/
lemma refl : Retains w w := of_eq rfl rfl rfl rfl rfl

/-- One part of a call behind another. -/
lemma trans (h1 : Retains w w1) (h2 : Retains w1 w2) : Retains w w2 where
  toContinues := h1.toContinues.trans h2.toContinues
  file pos live := by
    have same := h2.child pos
    exact (h2.file pos live).trans (h1.file (same ▸ pos) (h2.live pos live))

/-- The context forgets its child. -/
lemma of_gone (gone : w'.ctx.childPid ≤ 0) (start : w'.ctx.startTimeMs = w.ctx.startTimeMs)
    (forks : forkCount w'.log = forkCount w.log) : Retains w w' where
  forks := forks
  start := start
  child pos := by omega
  live pos := by omega
  file pos := by omega

/-- Only a fork is noted of a new child. -/
lemma note {o : Obs} (ho : o.isFork = false) : Retains w (w.note o) :=
  of_eq rfl rfl rfl rfl (by cases o <;> first | rfl | simp [Obs.isFork] at ho)

/-- Without a child there is nothing to keep. -/
lemma clearChild : Retains w w.clearChild := of_gone (by decide : (-1 : Int) ≤ 0) rfl rfl

lemma setState {s : ServiceState} : Retains w (w.setState s) := of_eq rfl rfl rfl rfl rfl

lemma setHealthy {b : Bool} : Retains w (w.setHealthy b) := of_eq rfl rfl rfl rfl rfl

lemma setLastHealthCheck {t : Int} : Retains w (w.setLastHealthCheck t) :=
  of_eq rfl rfl rfl rfl rfl

lemma charge : Retains w w.charge := of_eq rfl rfl rfl rfl rfl

lemma resetCharges : Retains w w.resetCharges := of_eq rfl rfl rfl rfl rfl

lemma recordFailure (t : Int) : Retains w (w.recordFailure t) := of_eq rfl rfl rfl rfl rfl

lemma recordSuccess : Retains w w.recordSuccess := of_eq rfl rfl rfl rfl rfl

lemma resetBackoff : Retains w w.resetBackoff := of_eq rfl rfl rfl rfl rfl

lemma setHealth {h : Option Nat} : Retains w (w.setHealth h) := of_eq rfl rfl rfl rfl rfl

lemma applyFields {cfg : AtpConfig} : Retains w (w.applyFields cfg) := of_eq rfl rfl rfl rfl rfl

/-- The PID file of a child that is gone may go. -/
lemma unlinkGone (gone : w.ctx.childPid ≤ 0) : Retains w (serviceUnlinkPid w) :=
  of_gone gone rfl rfl

/-! ### Timers -/

lemma cancelCtxTimer (h : Option Nat) : Retains w (w.cancelCtxTimer h) := by
  rw [cancelCtxTimer_eq]
  exact of_eq rfl rfl rfl rfl rfl

lemma addCtxTimer (os : Os) (timeout interval : Nat) (cb : Callback) :
    Retains w (w.addCtxTimer os timeout interval cb).1 := by
  rw [addCtxTimer_eq]
  exact of_eq rfl rfl rfl rfl rfl

lemma cancelRetry : Retains w w.cancelRetry :=
  (cancelCtxTimer _).trans (of_eq rfl rfl rfl rfl rfl)

lemma cancelHealth : Retains w w.cancelHealth :=
  (cancelCtxTimer _).trans (of_eq rfl rfl rfl rfl rfl)

lemma cancelMonitor : Retains w w.cancelMonitor :=
  (cancelCtxTimer _).trans (of_eq rfl rfl rfl rfl rfl)

lemma afterAllow (time : Int) : Retains w (w.afterAllow time) := by
  rw [World.afterAllow]
  split
  · exact of_eq rfl rfl rfl rfl rfl
  · exact refl

lemma scheduleRetry (os : Os) : Retains w (serviceScheduleRetry w os) := by
  have next : Retains w w.nextBackoff := of_eq rfl rfl rfl rfl rfl
  have added := (next.trans cancelRetry).trans
    (addCtxTimer os w.ctx.backoff.currentDelayMs 0 .delayedSpawn)
  have kept : ∀ h, Retains w ((w.nextBackoff.cancelRetry.addCtxTimer os
      w.ctx.backoff.currentDelayMs 0 .delayedSpawn).1.setRetry h) :=
    fun h => added.trans (of_eq rfl rfl rfl rfl rfl)
  simp only [serviceScheduleRetry]
  split
  · exact (kept _).trans setState
  · exact kept _

lemma chargeAndRetry (os : Os) : Retains w (w.chargeAndRetry os) := by
  have charged : Retains w (w.charge.recordFailure os.failTime) :=
    charge.trans (recordFailure os.failTime)
  simp only [World.chargeAndRetry]
  split
  · exact (charged.trans (note rfl)).trans setState
  · exact charged.trans (scheduleRetry os)

/-! ### The child -/

/-- A child that ends is the same child. -/
lemma exit : Retains w (w.exit pid) := by
  rw [World.exit]
  split
  · split
    · exact refl
    · refine ⟨⟨rfl, rfl, fun _ => rfl, fun _ => ?_⟩, fun _ _ => rfl⟩
      rintro ⟨q, hq, own, running⟩
      obtain ⟨p, hp, rfl⟩ := List.mem_map.mp hq
      split at running
      · cases running
      · rename_i ne
        simp only [ne, ↓reduceIte] at own
        exact ⟨p, hp, own, running⟩
  · exact refl

/-- And gone once it is reaped. -/
lemma reap : Retains w (w.reap pid) := by
  rw [World.reap]
  split
  · refine ⟨⟨rfl, rfl, fun _ => rfl, fun _ => ?_⟩, fun _ _ => rfl⟩
    rintro ⟨p, hp, own⟩
    exact ⟨p, (List.mem_filter.mp hp).1, own⟩
  · exact refl

lemma kill : Retains w (w.kill pid) := note rfl

lemma waitpid : Retains w (w.waitpid pid) := ((note rfl).trans exit).trans reap

lemma waitpidNohang (w : World) (pid : Int) (dies : Bool) :
    Retains w (waitpidNohang w pid dies).1 := by
  have before : Retains w ((w.note (.waited pid)).mayExit pid dies) := by
    rw [World.mayExit]
    split
    · exact (note rfl).trans exit
    · exact note rfl
  simp only [Service.waitpidNohang]
  split
  · split
    · exact before.trans reap
    · exact before
  · exact before

/-- The child is forgotten, and its PID file goes with it. -/
lemma clearUnlink : Retains w (serviceUnlinkPid w.clearChild) :=
  of_gone (by decide : (-1 : Int) ≤ 0) rfl rfl

/-- `service_starting_child_alive` may find it gone. -/
lemma startingChildAlive (w : World) (a : Alive) : Retains w (serviceStartingChildAlive w a).1 := by
  rw [serviceStartingChildAlive]
  split
  · have wait := waitpidNohang w w.ctx.childPid a.dies
    split
    · rename_i heq
      rw [heq] at wait
      exact wait
    · rename_i heq
      rw [heq] at wait
      exact wait.trans clearUnlink
  · exact refl

lemma probeNativeApi (w : World) (os : Os) : Retains w (serviceProbeNativeApi w os).1 := by
  have alive := startingChildAlive w os.alive2
  rw [serviceProbeNativeApi]
  split
  · rename_i heq
    rw [heq] at alive
    exact alive
  · rename_i heq
    rw [heq] at alive
    split
    · exact alive.trans (startingChildAlive _ _)
    · exact alive

/-- Validating the child does not replace it. -/
lemma validate (w : World) (os : Os) : Retains w (monitorValidate w os) := by
  rw [monitorValidate]
  split
  · exact refl
  · split
    · exact of_eq rfl rfl rfl rfl rfl
    · exact (kill.trans waitpid).trans (of_gone (by decide : (-1 : Int) ≤ 0) rfl rfl)

/-! ### The callbacks -/

lemma sigchldFailed (w : World) (os : Os) : Retains w (sigchldFailed w os) := by
  have failed : Retains w ((w.setState .failed).recordFailure os.failTime) :=
    setState.trans (recordFailure os.failTime)
  rw [Service.sigchldFailed]
  split
  · dsimp only
    split
    · exact (failed.trans charge).trans (scheduleRetry os)
    · exact failed
  · exact refl

/-- `service_sigchld_cb` unlinks the PID file only with the child gone. -/
lemma sigchld (w : World) (os : Os) : Retains w (serviceSigchldCb w os) := by
  have wait := waitpidNohang w w.ctx.childPid os.alive1.dies
  rw [serviceSigchldCb]
  split
  · split
    · exact note rfl
    · split
      · rename_i w1 heq
        rw [heq] at wait
        have cleared : Retains w1 (serviceUnlinkPid (w1.clearChild.setHealthy false)) :=
          of_gone (by decide : (-1 : Int) ≤ 0) rfl rfl
        exact (wait.trans cleared).trans (sigchldFailed _ os)
      · rename_i heq
        rw [heq] at wait
        exact wait
  · exact refl

lemma health (w : World) (os : Os) : Retains w (serviceHealthCheckCb w os) := by
  simp only [serviceHealthCheckCb]
  split
  · split
    · have checked : ∀ b, Retains w ((w.setHealthy b).setLastHealthCheck os.wallTime) :=
        fun b => setHealthy.trans setLastHealthCheck
      split
      · exact (checked _).trans recordSuccess
      · exact (checked _).trans (recordFailure os.failTime)
    · exact setHealthy
  · exact refl

lemma monitorStartHealth (w : World) (os : Os) : Retains w (monitorStartHealth w os) := by
  have added : ∀ h, Retains w ((w.cancelHealth.addCtxTimer os w.ctx.healthCheckIntervalMs.toNat
      w.ctx.healthCheckIntervalMs.toNat .healthCheck).1.setHealth h) :=
    fun h => (cancelHealth.trans (addCtxTimer os _ _ .healthCheck)).trans setHealth
  simp only [Service.monitorStartHealth]
  split
  · split
    · exact (added _).trans setState
    · exact added _
  · exact refl

lemma monitorReady (w : World) (os : Os) : Retains w (monitorReady w os) := by
  have entered : Retains w ((w.setState .running).note .enteredRunning) := setState.trans (note rfl)
  have reset : Retains w (((w.setState .running).note .enteredRunning).resetCharges.setHealthy true) :=
    (entered.trans resetCharges).trans setHealthy
  have ready : Retains w ((((w.setState .running).note .enteredRunning).resetCharges.setHealthy true
      |>.setLastHealthCheck os.wallTime).resetBackoff.recordSuccess) :=
    ((reset.trans setLastHealthCheck).trans resetBackoff).trans recordSuccess
  rw [Service.monitorReady]
  exact ready.trans (monitorStartHealth _ os)

lemma monitorAlive (w : World) (os : Os) : Retains w (monitorAlive w os) := by
  have probed := (validate w os).trans (probeNativeApi (monitorValidate w os) os)
  simp only [Service.monitorAlive]
  split
  · rw [monitorProbe]
    split
    · rename_i heq
      rw [heq] at probed
      exact probed.trans (monitorReady _ os)
    · rename_i heq
      rw [heq] at probed
      exact probed
  · exact validate w os

lemma monitorTimeout (w : World) (os : Os) : Retains w (monitorTimeout w os) := by
  have killed : Retains w w.killTimedOut := by
    rw [World.killTimedOut]
    split
    · exact kill.trans (note rfl)
    · exact refl
  have failed : Retains w (((w.killTimedOut.setState .failed).charge).recordFailure os.failTime) :=
    ((killed.trans setState).trans charge).trans (recordFailure os.failTime)
  simp only [Service.monitorTimeout]
  split
  · exact failed.trans (scheduleRetry os)
  · exact failed

/-- `service_monitor_cb` forks nothing, whatever it finds. -/
lemma monitor (w : World) (os : Os) : Retains w (serviceMonitorCb w os) := by
  have asked := startingChildAlive w os.alive1
  rw [serviceMonitorCb]
  split
  · exact refl
  · rw [monitorStarting]
    split
    · exact monitorTimeout w os
    · split
      · rename_i heq
        rw [heq] at asked
        exact asked.trans (monitorAlive _ os)
      · rename_i heq
        rw [heq] at asked
        exact asked.trans (chargeAndRetry os)
  · rw [monitorRunning]
    split
    · exact refl
    · exact setState.trans (chargeAndRetry os)
  · rw [monitorFailed]
    split
    · exact scheduleRetry os
    · exact refl
  · exact refl

/-! ### Stopping -/

/-- By induction on the polls. -/
lemma stopPoll (pid : Int) (attempts : Nat) (waits : List Wait) (w : World) :
    Retains w (stopPoll pid attempts waits w).1 := by
  induction attempts generalizing waits w with
  | zero => exact refl
  | succ attempts ih =>
    rw [Service.stopPoll]
    split
    · exact note rfl
    · exact (note rfl).trans (ih _ _)
    · have wait := waitpidNohang w pid (waits.headD .quiet = .dies)
      split
      · rename_i heq
        rw [heq] at wait
        exact wait.trans (ih _ _)
      · rename_i heq
        rw [heq] at wait
        exact wait

lemma stopChild (w : World) (os : Os) : Retains w (stopChild w os).1 := by
  have poll := kill.trans (stopPoll w.ctx.childPid
    (if 0 < w.ctx.stopTimeoutSec then (w.ctx.stopTimeoutSec * 10).toNat else 10) os.waits
    (w.kill w.ctx.childPid))
  simp only [Service.stopChild]
  split
  · split
    · rename_i heq
      rw [heq] at poll
      exact poll
    · rename_i heq
      rw [heq] at poll
      exact (poll.trans kill).trans waitpid
  · exact refl

lemma detach : Retains w w.detach := by
  rw [World.detach]
  split
  · exact ((cancelMonitor.trans cancelRetry).trans cancelHealth).trans (of_eq rfl rfl rfl rfl rfl)
  · exact refl

lemma done {d : Bool} : Retains w (w.done d) := by
  rw [World.done]
  split
  · exact note rfl
  · exact refl

/-- `service_stop_sync` forks nothing. -/
lemma stopSync (w : World) (os : Os) : Retains w (serviceStopSync w os).1 := by
  have stopped : Retains w (Service.stopChild (w.setState .stopping).detach os).1 :=
    (setState.trans detach).trans (stopChild _ os)
  have cleared := (stopped.trans clearChild).trans (setHealthy (b := false))
  have down := cleared.trans (setState (s := .stopped))
  exact (down.trans (unlinkGone (by decide : (-1 : Int) ≤ 0))).trans (note rfl)

lemma stopWaitDone (w : World) (s : StopState) : Retains w (stopWaitDone w s) := by
  have cleared : Retains w ((w.clearChild.setState .stopped).setHealthy false) :=
    (clearChild.trans setState).trans setHealthy
  exact (cleared.trans (unlinkGone (by decide : (-1 : Int) ≤ 0))).trans done

/-- Nor does a tick of the wait. -/
lemma stopWait (w : World) (s : StopState) (os : Os) : Retains w (serviceStopWaitCb w s os) := by
  rw [serviceStopWaitCb]
  split
  · dsimp only
    split
    · exact (kill.trans waitpid).trans (stopWaitDone _ _)
    · have added : Retains w
          (w.addTimer os 100 0 (.stopWait { s with attempts := s.attempts + 1 })).1 :=
        of_eq rfl rfl rfl rfl rfl
      split
      · exact added.trans (stopSync _ os)
      · exact added
  · exact stopWaitDone w s

/-! ### Control -/

lemma setReactor (w : World) (os : Os) : Retains w (serviceSetReactor w os).1 := by
  have attached : Retains w (w.setReactor true) := of_eq rfl rfl rfl rfl rfl
  have added := (attached.trans cancelMonitor).trans (addCtxTimer os 100 1000 .monitor)
  exact added.trans (of_eq rfl rfl rfl rfl rfl)

lemma applyConfig (w : World) (cfg : AtpConfig) (os : Os) :
    Retains w (serviceApplyConfig w cfg os).1 := by
  simp only [serviceApplyConfig]
  split
  · have added := addCtxTimer (w := w) os (positiveOr cfg.service.healthCheckIntervalMs 5000).toNat
      (positiveOr cfg.service.healthCheckIntervalMs 5000).toNat .healthCheck
    split
    · exact added
    · exact ((added.trans (cancelCtxTimer _)).trans applyFields).trans setHealth
  · exact applyFields

end Retains

/-! ## A new child -/

/-- A new child is kept by what follows. -/
lemma Renewed.retains (re : Renewed ms w w1) (kept : Retains w1 w2) : Renewed ms w w2 where
  forks := kept.forks.trans re.forks
  start pos := by
    have same := kept.child pos
    exact kept.start.trans (re.start (same ▸ pos))
  file pos live := by
    have same := kept.child pos
    rw [same, kept.file pos live]
    exact re.file (same ▸ pos) (kept.live pos live)

/-- What was before does not matter to a new child. -/
lemma Retains.renewed (kept : Retains w w1) (re : Renewed ms w1 w2) : Renewed ms w w2 where
  forks := by rw [re.forks, kept.forks]
  start := re.start
  file := re.file

/-- A child that could not be kept is gone. -/
lemma Renewed.of_gone (forks : forkCount w'.log = forkCount w.log + 1)
    (gone : w'.ctx.childPid ≤ 0) : Renewed ms w w' where
  forks := forks
  start pos := by omega
  file pos := by omega

lemma Retains.killNew (w : World) (os : Os) : Retains w (w.killNew os) := by
  simp only [World.killNew]
  split
  · exact kill.trans (note rfl)
  · exact kill.trans waitpid

/-- The start time is noted anew. -/
lemma Renewed.setStart (re : Renewed ms w w1) (time : Int) (timeMs : Nat) :
    Renewed timeMs w (w1.setStart time timeMs) where
  forks := re.forks
  start _ := rfl
  file := re.file

/-- The child of `w'` is the one of `w`, or a new one. -/
def Tenure (startMs : Nat) (w w' : World) : Prop := Retains w w' ∨ Renewed startMs w w'

/-- Keeping the child, and then perhaps a new one. -/
lemma Retains.tenure (kept : Retains w w1) (te : Tenure ms w1 w2) : Tenure ms w w2 :=
  te.imp kept.trans kept.renewed

/-- Perhaps a new child, and then keeping it. -/
lemma Tenure.retains (te : Tenure ms w w1) (kept : Retains w1 w2) : Tenure ms w w2 :=
  te.imp (·.trans kept) (·.retains kept)

/-- `service_spawn` after the fork. -/
lemma Renewed.spawnParent_true (ok : (serviceSpawnParent (w.fork os) os).2 = true) :
    Renewed os.spawnMs w (serviceSpawnParent (w.fork os) os).1 := by
  simp only [serviceSpawnParent] at ok ⊢
  split at ok
  · split at ok
    · rename_i stat written
      simp only [stat, written, ↓reduceIte]
      exact ⟨rfl, fun _ => rfl, fun _ _ => rfl⟩
    · cases ok
  · cases ok

/-- A child that could not be made known is killed. -/
lemma Renewed.spawnParent_false (failed : (serviceSpawnParent (w.fork os) os).2 = false) :
    Renewed ms w (serviceSpawnParent (w.fork os) os).1 := by
  simp only [serviceSpawnParent] at failed ⊢
  split at failed
  · split at failed
    · cases failed
    · rename_i stat written
      simp only [stat, written, ↓reduceIte, Bool.false_eq_true]
      exact .of_gone (Retains.killNew _ os).forks (by decide : (-1 : Int) ≤ 0)
  · rename_i stat
    simp only [stat, ↓reduceIte, Bool.false_eq_true]
    exact .of_gone (Retains.killNew _ os).forks (by decide : (-1 : Int) ≤ 0)

/-- A spawn that works is a new child with its PID file. -/
lemma Renewed.spawn (ok : (serviceSpawn w os).2 = true) :
    Renewed os.spawnMs w (serviceSpawn w os).1 := by
  have called : Retains w (w.note .spawn) := .note rfl
  have parent : (serviceSpawnParent ((w.note .spawn).fork os) os).2 = true →
      Renewed os.spawnMs (w.note .spawn) _ := Renewed.spawnParent_true
  simp only [serviceSpawn] at ok ⊢
  split at ok
  · rename_i forks
    rw [if_pos forks]
    split at ok
    · rename_i heq
      rw [heq] at parent
      exact called.renewed (parent rfl)
    · cases ok
  · cases ok

/-- A spawn that fails leaves the child it found, or none. -/
lemma Tenure.spawn (failed : (serviceSpawn w os).2 = false) :
    Tenure ms w (serviceSpawn w os).1 := by
  have called : Retains w (w.note .spawn) := .note rfl
  have parent : (serviceSpawnParent ((w.note .spawn).fork os) os).2 = false →
      Renewed ms (w.note .spawn) _ := Renewed.spawnParent_false
  simp only [serviceSpawn] at failed ⊢
  split at failed
  · rename_i forks
    rw [if_pos forks]
    split at failed
    · cases failed
    · rename_i heq
      rw [heq] at parent
      exact .inr ((called.renewed (parent rfl)).retains (.note rfl))
  · rename_i forks
    rw [if_neg forks]
    exact .inl (called.trans (.note rfl))

/-- `service_delayed_spawn_cb` spawns at most once. -/
lemma Tenure.delayedSpawn (w : World) (os : Os) :
    Tenure os.spawnMs w (serviceDelayedSpawnCb w os) := by
  have attempt : ∀ w, Tenure os.spawnMs w (delayedSpawnAttempt w os) := by
    intro w
    have ok : (serviceSpawn w os).2 = true → Renewed os.spawnMs w _ := Renewed.spawn
    have failed : (serviceSpawn w os).2 = false → Tenure os.spawnMs w _ := Tenure.spawn
    rw [delayedSpawnAttempt]
    split
    · rename_i heq
      rw [heq] at ok
      exact .inr ((ok rfl).retains (Retains.setState.trans (.addCtxTimer os 100 0 .monitor)))
    · rename_i heq
      rw [heq] at failed
      exact (failed rfl).retains (.chargeAndRetry os)
  rw [serviceDelayedSpawnCb]
  split
  · exact .inl .refl
  · dsimp only
    split
    · exact (Retains.cancelRetry.trans (.afterAllow os.allowTime)).tenure (attempt _)
    · exact .inl (Retains.cancelRetry.trans (.scheduleRetry os))

/-- `service_start_async` notes a start time of its own. -/
lemma Tenure.startSpawn (w : World) (os : Os) : Tenure os.startMs w (startSpawn w os).1 := by
  have ok : (serviceSpawn w os).2 = true → Renewed os.spawnMs w _ := Renewed.spawn
  have failed : (serviceSpawn w os).2 = false → Tenure os.startMs w _ := Tenure.spawn
  rw [Service.startSpawn]
  split
  · split
    · rename_i w1 heq
      rw [heq] at ok
      have started := ((ok rfl).retains (.setState (s := .starting))).setStart os.wallTime os.startMs
      exact .inr ((started.retains .resetCharges).retains .resetBackoff)
    · rename_i w1 heq
      rw [heq] at failed
      exact (failed rfl).retains (Retains.setState.trans (.recordFailure os.failTime))
  · exact .inl .setState

/-- So does `service_start_async`. -/
lemma Tenure.start (w : World) (os : Os) : Tenure os.startMs w (serviceStartAsync w os).1 := by
  have called : Retains w (w.note .startCalled) := .note rfl
  have allowed := called.trans (.afterAllow os.allowTime)
  simp only [serviceStartAsync]
  split
  · exact .inl called
  · split
    · split
      · exact .inl (allowed.trans .setState)
      · exact allowed.tenure (.startSpawn _ os)
    · exact .inl called

/-! ## Events -/

/-- The start time that the event gives to a child it forks. -/
def Event.startMs : Event → Nat
  | .start os => os.startMs
  | .timer _ _ os => os.spawnMs
  | _ => 0

/-- The event does not take the PID file of a live child away. The one that can is a
`service_stop_async` that signals its child and then cannot allocate its state. -/
def KeepsFile (w : World) : Event → Prop
  | .stopAsync _ os => w.stopResets os = true → 0 < w.ctx.childPid → ¬w.Live w.ctx.childPid
  | _ => True

instance (w : World) (pid : Int) : Decidable (w.Live pid) :=
  inferInstanceAs (Decidable (∃ p ∈ w.procs, p.pid = pid ∧ p.exited = false))

instance (w : World) (e : Event) : Decidable (KeepsFile w e) :=
  match e with
  | .stopAsync _ os => inferInstanceAs (Decidable
      (w.stopResets os = true → 0 < w.ctx.childPid → ¬w.Live w.ctx.childPid))
  | .setReactor _ | .start _ | .monitor _ | .timer _ _ _ | .sigchld _ | .health _ | .exit _
  | .stopSync _ | .applyConfig _ _ => inferInstanceAs (Decidable True)

lemma Retains.beginStop : Retains w w.beginStop := by
  have stopping : Retains w (w.setState .stopping) := setState
  simp only [World.beginStop]
  split
  · exact stopping.trans cancelHealth
  · exact stopping

lemma Retains.terminate : Retains w w.terminate := by
  rw [World.terminate]
  split
  · exact kill
  · exact refl

/-- `service_stop_async` that could allocate its state. -/
lemma Retains.stopAsyncWait (w : World) (d : Bool) (os : Os) (alloc : os.stopAlloc = true) :
    Retains w (stopAsyncWait w d os).1 := by
  have cancelled : Retains w w.cancelMonitor.cancelRetry := cancelMonitor.trans cancelRetry
  simp only [Service.stopAsyncWait, alloc, ↓reduceIte]
  split
  · exact cancelled.trans (addCtxTimer os 100 0 _)
  · exact (cancelled.trans (addCtxTimer os 100 0 _)).trans (note rfl)

/-- `service_stop_async` that could not: the child stands, and its PID file is gone. -/
lemma Continues.stopAsyncWait (w : World) (d : Bool) (os : Os) (alloc : os.stopAlloc = false) :
    Continues w (stopAsyncWait w d os).1 := by
  have cancelled : Retains w w.cancelMonitor.cancelRetry :=
    Retains.cancelMonitor.trans .cancelRetry
  have stopped : Retains w
      ((w.cancelMonitor.cancelRetry.setState .stopped).resetCharges.setHealthy false) :=
    ((cancelled.trans .setState).trans .resetCharges).trans .setHealthy
  have unlinked := stopped.toContinues.trans .unlinkPid
  simp only [Service.stopAsyncWait, alloc, Bool.false_eq_true, ↓reduceIte]
  exact unlinked.trans Retains.done.toContinues

/-- `service_stop_async` keeps the child, and its PID file unless it resets. -/
lemma Continues.stopAsync (w : World) (d : Bool) (os : Os) :
    Continues w (serviceStopAsync w d os).1 ∧
      (KeepsFile w (.stopAsync d os) → FileKept w (serviceStopAsync w d os).1) := by
  have killed : Retains w w.beginStop.terminate := Retains.beginStop.trans .terminate
  have pid : w.beginStop.terminate.ctx.childPid = w.ctx.childPid := childPid_of_view (by simp)
  have reactor : w.beginStop.terminate.ctx.reactor = w.ctx.reactor :=
    Aside.terminate.reactor.trans beginStop_ctx.2
  simp only [serviceStopAsync]
  split
  · exact ⟨killed.toContinues, fun _ => killed.file⟩
  · rename_i sent
    split
    · rename_i attached
      cases alloc : os.stopAlloc with
      | true =>
        have kept := killed.trans (.stopAsyncWait _ d os alloc)
        exact ⟨kept.toContinues, fun _ => kept.file⟩
      | false =>
        have kept := killed.toContinues.trans (.stopAsyncWait _ d os alloc)
        refine ⟨kept, fun keeps pos live => absurd (kept.live pos live) (keeps ?_ (kept.child pos ▸ pos))⟩
        rw [pid] at sent
        rw [reactor] at attached
        simp only [not_and_or, not_not] at sent
        simpa [World.stopResets, attached, alloc] using sent
    · have kept := (killed.trans (.stopSync _ os)).trans (.done (d := d))
      exact ⟨kept.toContinues, fun _ => kept.file⟩

/-- A `service_stop_async` that resets leaves the child as it is, without its PID file. -/
lemma stopAsync_unlinks (d : Bool) (resets : w.stopResets os = true) :
    (serviceStopAsync w d os).1.childView = w.childView ∧
      (serviceStopAsync w d os).1.pidFile = none := by
  have view : w.beginStop.terminate.childView = w.childView := by simp
  have reactor : w.beginStop.terminate.ctx.reactor = w.ctx.reactor :=
    Aside.terminate.reactor.trans beginStop_ctx.2
  obtain ⟨⟨attached, sent⟩, alloc⟩ : (w.ctx.reactor = true ∧
      (w.ctx.childPid ≤ 0 ∨ os.termOk = true)) ∧ os.stopAlloc = false := by
    simpa [World.stopResets] using resets
  have signalled : ¬(0 < w.beginStop.terminate.ctx.childPid ∧ ¬os.termOk = true) := by
    rw [childPid_of_view view]
    rintro ⟨pos, refused⟩
    rcases sent with gone | sent
    · omega
    · exact refused sent
  simp only [serviceStopAsync]
  rw [if_neg signalled, reactor, if_pos attached]
  refine ⟨childView_stopAsyncWait.trans view, ?_⟩
  simp only [stopAsyncWait, alloc, Bool.false_eq_true, ↓reduceIte, World.done]
  split <;> rfl

/-- No other callback spawns. -/
lemma Tenure.dispatch (w : World) (os : Os) (cb : Callback) :
    Tenure os.spawnMs w (dispatch w os cb) := by
  cases cb with
  | monitor => exact .inl (.monitor w os)
  | delayedSpawn => exact .delayedSpawn w os
  | healthCheck => exact .inl (.health w os)
  | stopWait s => exact .inl (.stopWait w s os)

/-- A timer fires one callback. -/
lemma Tenure.fire {t : Timer Callback} {nowMs : Nat} (w : World) (os : Os) :
    Tenure os.spawnMs w (w.fire t nowMs os) := by
  have begun : Retains w (w.beginTimer t nowMs) := .of_eq rfl rfl rfl rfl rfl
  apply World.fire_keeps (I := Tenure os.spawnMs w)
  · intro w1 priv te
    exact te.retains (.of_eq rfl rfl rfl rfl rfl)
  · exact .inl .refl
  · intro cb _ _
    exact begun.tenure (.dispatch _ os cb)

/-- One event: the child stands or is gone, and keeps its PID file, or there is a new one. -/
theorem step_tenure {e : Event} (st : step w e = some w') :
    Continues w w' ∧ (KeepsFile w e → FileKept w w') ∨ Renewed e.startMs w w' := by
  have retained : ∀ {w'}, Retains w w' →
      Continues w w' ∧ (KeepsFile w e → FileKept w w') ∨ Renewed e.startMs w w' :=
    fun kept => .inl ⟨kept.toContinues, fun _ => kept.file⟩
  cases e with
  | setReactor os => cases st; exact retained (.setReactor w os)
  | start os =>
    cases st
    exact (Tenure.start w os).elim retained .inr
  | monitor os => cases st; exact retained (.monitor w os)
  | timer id nowMs os =>
    obtain ⟨t, due, rfl⟩ := Option.map_eq_some_iff.mp st
    exact (Tenure.fire w os).elim retained .inr
  | sigchld os => cases st; exact retained (.sigchld w os)
  | health os => cases st; exact retained (.health w os)
  | exit pid => cases st; exact retained .exit
  | stopAsync d os => cases st; exact .inl (Continues.stopAsync w d os)
  | stopSync os => cases st; exact retained (.stopSync w os)
  | applyConfig cfg os => cases st; exact retained (.applyConfig w cfg os)

end Atpd.Service
