import Atpd.Service.Frame
import Atpd.Service.Step

/-!
# One child at a time

`service_spawn` is meant to fork only when the child before it has been reaped. That is the
invariant `Owned`: there is at most one unreaped child, and it is the one that `child_pid` and
`child_starttime_ticks` name. The retry callback does not check it: after a startup timeout the
child has been sent SIGKILL but not reaped, and the retry forks over it. `SpawnsOverNone` says which
steps are safe; in a run of such steps the invariant holds throughout.

Most functions do not touch the child at all: they keep `World.childView`.
-/

namespace Atpd.Service

open Atpd.Config Atpd.Reactor Atpd.Lib

variable {w w' : World} {os : Os} {pid : Int}

/-! ## The property -/

/-- The children that were forked and not reaped in a history. -/
def outstanding : List Obs → List Int
  | [] => []
  | .forked pid :: log => pid :: outstanding log
  | .reaped pid :: log => (outstanding log).filter (· ≠ pid)
  | _ :: log => outstanding log

/-- Every fork of a history came when no child was outstanding. -/
def ForksClean : List Obs → Prop
  | [] => True
  | .forked _ :: log => outstanding log = [] ∧ ForksClean log
  | _ :: log => ForksClean log

/-- At most one child: every fork came when the child before was reaped, and an unreaped child is
the one that `child_pid` names. -/
structure OneChild (w : World) : Prop where
  clean : ForksClean w.log
  atMost : w.procs.length ≤ 1
  named : ∀ p ∈ w.procs, p.pid = w.ctx.childPid

/-! ## The invariant -/

/-- The child that the context names is the only one that is not reaped. -/
structure Owned (w : World) : Prop where
  shadow : outstanding w.log = w.procs.map Proc.pid
  clean : ForksClean w.log
  own : w.procs = [] ∨ ∃ p, w.procs = [p] ∧ 0 < p.pid ∧ p.pid = w.ctx.childPid ∧
    p.starttime = w.ctx.childStarttimeTicks ∧ p.starttime ≠ 0

/-- What the invariant reads. -/
structure ChildView where
  childPid : Int
  ticks : Nat
  procs : List Proc
  out : List Int
  clean : Prop

/-- The part of the world that is about the child. -/
def World.childView (w : World) : ChildView :=
  ⟨w.ctx.childPid, w.ctx.childStarttimeTicks, w.procs, outstanding w.log, ForksClean w.log⟩

/-- The pid is part of the view. -/
lemma childPid_of_view (view : w'.childView = w.childView) : w'.ctx.childPid = w.ctx.childPid :=
  congrArg ChildView.childPid view

/-- Owning is a matter of the view alone. -/
lemma Owned.congr (ow : Owned w) (view : w'.childView = w.childView) : Owned w' := by
  simp only [World.childView, ChildView.mk.injEq] at view
  obtain ⟨hpid, hticks, hprocs, hout, hclean⟩ := view
  exact ⟨by rw [hout, hprocs, ow.shadow], hclean ▸ ow.clean, by rw [hprocs, hpid, hticks]; exact ow.own⟩

/-- What is owned is at most one child. -/
lemma Owned.oneChild (ow : Owned w) : OneChild w := by
  refine ⟨ow.clean, ?_, ?_⟩
  · rcases ow.own with h | ⟨p, h, -⟩ <;> simp [h]
  · rcases ow.own with h | ⟨p, h, -, hpid, -⟩
    · simp [h]
    · simpa [h] using hpid

/-- Without a child that the context names there is none. -/
lemma Owned.no_child (ow : Owned w) (h : w.ctx.childPid ≤ 0) : w.procs = [] := by
  rcases ow.own with h' | ⟨p, -, hpos, hpid, -⟩
  · exact h'
  · omega

/-- The fields of the child are set when there is none. -/
lemma Owned.of_none (ow : Owned w) (gone : w.procs = []) (procs : w'.procs = w.procs)
    (log : w'.log = w.log) : Owned w' :=
  ⟨by rw [log, procs, ow.shadow], log ▸ ow.clean, .inl (procs.trans gone)⟩

/-! ## What does not touch the child -/

/-- Observations that are about a fork or a reap. -/
def Obs.isFork : Obs → Bool
  | .forked _ | .reaped _ => true
  | _ => false

/-- Only a fork that is noted belongs to the view. -/
lemma childView_note {o : Obs} (ho : o.isFork = false) : (w.note o).childView = w.childView := by
  cases o <;> first | rfl | simp [Obs.isFork] at ho

@[simp] lemma childView_setState {s : ServiceState} : (w.setState s).childView = w.childView := rfl
@[simp] lemma childView_setHealthy {b : Bool} : (w.setHealthy b).childView = w.childView := rfl
@[simp] lemma childView_setLast {t : Int} : (w.setLastHealthCheck t).childView = w.childView := rfl
@[simp] lemma childView_setValidated : w.setValidated.childView = w.childView := rfl
@[simp] lemma childView_setStart {t : Int} {n : Nat} : (w.setStart t n).childView = w.childView := rfl
@[simp] lemma childView_unlink : (serviceUnlinkPid w).childView = w.childView := rfl
@[simp] lemma childView_charge : w.charge.childView = w.childView := rfl
@[simp] lemma childView_resetCharges : w.resetCharges.childView = w.childView := rfl
@[simp] lemma childView_recordFailure {t : Int} : (w.recordFailure t).childView = w.childView := rfl
@[simp] lemma childView_recordSuccess : w.recordSuccess.childView = w.childView := rfl
@[simp] lemma childView_resetBackoff : w.resetBackoff.childView = w.childView := rfl
@[simp] lemma childView_nextBackoff : w.nextBackoff.childView = w.childView := rfl
@[simp] lemma childView_setRetry {h : Option Nat} : (w.setRetry h).childView = w.childView := rfl
@[simp] lemma childView_setHealth {h : Option Nat} : (w.setHealth h).childView = w.childView := rfl
@[simp] lemma childView_setMonitor {h : Option Nat} : (w.setMonitor h).childView = w.childView := rfl
@[simp] lemma childView_setReactor {b : Bool} : (w.setReactor b).childView = w.childView := rfl
@[simp] lemma childView_applyFields {cfg : AtpConfig} :
    (w.applyFields cfg).childView = w.childView := rfl
@[simp] lemma childView_kill (w : World) (pid : Int) : (w.kill pid).childView = w.childView := rfl

@[simp] lemma childView_afterAllow {t : Int} : (w.afterAllow t).childView = w.childView := by
  rw [World.afterAllow]
  split <;> rfl

@[simp] lemma childView_cancelCtxTimer {h : Option Nat} :
    (w.cancelCtxTimer h).childView = w.childView := by
  rw [cancelCtxTimer_eq]
  rfl

@[simp] lemma childView_addCtxTimer {timeout interval : Nat} {cb : Callback} :
    (w.addCtxTimer os timeout interval cb).1.childView = w.childView := by
  rw [addCtxTimer_eq]
  rfl

@[simp] lemma childView_cancelRetry : w.cancelRetry.childView = w.childView := by
  simp [World.cancelRetry]

@[simp] lemma childView_cancelHealth : w.cancelHealth.childView = w.childView := by
  simp [World.cancelHealth]

@[simp] lemma childView_cancelMonitor : w.cancelMonitor.childView = w.childView := by
  simp [World.cancelMonitor]

@[simp] lemma childView_scheduleRetry : (serviceScheduleRetry w os).childView = w.childView := by
  simp only [serviceScheduleRetry]
  split <;> simp

@[simp] lemma childView_chargeAndRetry : (w.chargeAndRetry os).childView = w.childView := by
  simp only [World.chargeAndRetry]
  split
  · rw [childView_setState, childView_note rfl]
    simp
  · simp

@[simp] lemma childView_sigchldFailed : (sigchldFailed w os).childView = w.childView := by
  simp only [sigchldFailed]
  split
  · split <;> simp
  · rfl

@[simp] lemma childView_monitorTimeout : (monitorTimeout w os).childView = w.childView := by
  have killed : w.killTimedOut.childView = w.childView := by
    rw [World.killTimedOut]
    split
    · rw [childView_note rfl, childView_kill]
    · rfl
  simp only [monitorTimeout]
  split <;> simp [killed]

@[simp] lemma childView_monitorReady : (monitorReady w os).childView = w.childView := by
  have ready : (((w.setState .running).note .enteredRunning).resetCharges).childView =
      w.childView := rfl
  simp only [monitorReady, monitorStartHealth]
  split
  · split <;> simp [ready]
  · simp [ready]

@[simp] lemma childView_detach : w.detach.childView = w.childView := by
  rw [World.detach]
  split <;> simp

@[simp] lemma childView_health : (serviceHealthCheckCb w os).childView = w.childView := by
  simp only [serviceHealthCheckCb]
  split
  · split
    · split <;> simp
    · simp
  · rfl

@[simp] lemma childView_applyConfig {cfg : AtpConfig} :
    (serviceApplyConfig w cfg os).1.childView = w.childView := by
  simp only [serviceApplyConfig]
  split
  · split <;> simp
  · simp

@[simp] lemma childView_serviceSetReactor :
    (serviceSetReactor w os).1.childView = w.childView := by
  simp [serviceSetReactor]

@[simp] lemma childView_done {d : Bool} : (w.done d).childView = w.childView := by
  rw [World.done]
  split <;> rfl

@[simp] lemma childView_beginStop : w.beginStop.childView = w.childView := by
  simp only [World.beginStop]
  split <;> simp

@[simp] lemma childView_terminate : w.terminate.childView = w.childView := by
  rw [World.terminate]
  split <;> rfl

@[simp] lemma childView_stopAsyncWait {d : Bool} :
    (stopAsyncWait w d os).1.childView = w.childView := by
  simp only [stopAsyncWait]
  split
  · split
    · simp
    · rw [childView_note rfl]
      simp
  · simp

/-! ## What does -/

/-- With one process in the table, this is the one that is found. -/
lemma proc_of_single {p : Proc} (h : w.procs = [p]) (pid : Int) :
    w.proc pid = if p.pid = pid then some p else none := by
  simp only [World.proc, h, List.find?_singleton, beq_iff_eq]

/-- With none there is nothing to be found. -/
lemma proc_of_nil (h : w.procs = []) (pid : Int) : w.proc pid = none := by
  simp [World.proc, h]

/-- A child that ends is still the only one, until it is reaped. -/
lemma Owned.exit (ow : Owned w) : Owned (w.exit pid) := by
  rw [World.exit]
  rcases ow.own with h | ⟨p, h, hpos, hpid, hstart⟩
  · rwa [proc_of_nil h]
  · by_cases hp : p.pid = pid
    · simp only [proc_of_single h, hp, ↓reduceIte]
      split
      · exact ow
      · refine ⟨?_, ow.clean, .inr ⟨{ p with exited := true }, ?_, hpos, hpid, hstart⟩⟩
        · simpa [outstanding, h, hp] using ow.shadow
        · simp [h, hp]
    · simpa only [proc_of_single h, hp, ↓reduceIte] using ow

/-- Once it is reaped there is none. -/
lemma Owned.reap (ow : Owned w) : Owned (w.reap pid) := by
  rw [World.reap]
  rcases ow.own with h | ⟨p, h, hpos, hpid, hstart⟩
  · rwa [proc_of_nil h]
  · by_cases hp : p.pid = pid
    · simp only [proc_of_single h, hp, ↓reduceIte]
      have shadow := ow.shadow
      refine ⟨?_, ow.clean, .inl ?_⟩
      · simp [outstanding, shadow, h, hp]
      · simp [h, hp]
    · simpa only [proc_of_single h, hp, ↓reduceIte] using ow

/-- The child that the context names is reaped: then there is none. -/
lemma Owned.reap_own (ow : Owned w) (hpid : pid = w.ctx.childPid) : (w.reap pid).procs = [] := by
  rw [World.reap]
  rcases ow.own with h | ⟨p, h, -, hp, -⟩
  · rw [proc_of_nil h, h]
  · simp [proc_of_single h, hp, hpid, h]

/-- A blocking wait for the child leaves none. -/
lemma Owned.waitpid (ow : Owned w) (pid : Int) (hpid : pid = w.ctx.childPid) :
    Owned (w.waitpid pid) ∧ (w.waitpid pid).procs = [] := by
  have exited : Owned ((w.note (.waited pid)).exit pid) := (ow.congr (childView_note rfl)).exit
  have own : pid = ((w.note (.waited pid)).exit pid).ctx.childPid := by
    rw [exit_ctx]
    exact hpid
  exact ⟨exited.reap, exited.reap_own own⟩

/-- `waitpid(.., WNOHANG)` for the child: unless it says that the child runs, there is none. -/
lemma Owned.waitpidNohang (ow : Owned w) (pid : Int) (hpid : pid = w.ctx.childPid) (dies : Bool) :
    Owned (waitpidNohang w pid dies).1 ∧
      ((waitpidNohang w pid dies).2 ≠ .running → (waitpidNohang w pid dies).1.procs = []) := by
  have before : Owned ((w.note (.waited pid)).mayExit pid dies) := by
    have noted : Owned (w.note (.waited pid)) := ow.congr (childView_note rfl)
    rw [World.mayExit]
    split
    · exact noted.exit
    · exact noted
  have own : pid = ((w.note (.waited pid)).mayExit pid dies).ctx.childPid := by
    rw [mayExit_ctx]
    exact hpid
  simp only [Service.waitpidNohang]
  split
  · split
    · exact ⟨before.reap, fun _ => before.reap_own own⟩
    · exact ⟨before, fun h => absurd rfl h⟩
  · -- ECHILD: the context would name the only child
    rename_i gone
    refine ⟨before, fun _ => ?_⟩
    rcases before.own with h | ⟨p, h, -, hp, -⟩
    · exact h
    · rw [proc_of_single h, if_pos (hp.trans own.symm)] at gone
      cases gone

/-- With no process left the fields can be cleared. -/
lemma Owned.clearChild (ow : Owned w) (gone : w.procs = []) : Owned w.clearChild :=
  ow.of_none gone rfl rfl

/-- `service_starting_child_alive` reaps the child before it clears the fields. -/
lemma Owned.startingChildAlive (ow : Owned w) (a : Alive) :
    Owned (serviceStartingChildAlive w a).1 := by
  rw [serviceStartingChildAlive]
  split
  · obtain ⟨waited, gone⟩ := ow.waitpidNohang _ rfl a.dies
    split
    · rename_i heq
      rw [heq] at waited
      exact waited
    · rename_i w1 r running heq
      rw [heq] at waited gone
      exact (waited.clearChild (gone running)).congr childView_unlink
  · exact ow

/-- The probe looks at the child and forks none. -/
lemma Owned.probeNativeApi (ow : Owned w) (os : Os) : Owned (serviceProbeNativeApi w os).1 := by
  have alive := ow.startingChildAlive os.alive2
  rw [serviceProbeNativeApi]
  split
  · rename_i heq
    rw [heq] at alive
    exact alive
  · rename_i heq
    rw [heq] at alive
    split
    · exact alive.startingChildAlive _
    · exact alive

/-- Nor does validating it. -/
lemma Owned.validate (ow : Owned w) (os : Os) : Owned (monitorValidate w os) := by
  rw [monitorValidate]
  split
  · exact ow
  · split
    · exact ow.congr childView_setValidated
    · have killed : Owned (w.kill w.ctx.childPid) := ow.congr (childView_kill _ _)
      obtain ⟨waited, gone⟩ := killed.waitpid w.ctx.childPid rfl
      exact waited.of_none gone rfl rfl

/-- The branch of `service_monitor_cb` that probes the API forks nothing. -/
lemma Owned.monitorProbe (ow : Owned w) (os : Os) : Owned (monitorProbe w os) := by
  have probed := ow.probeNativeApi os
  rw [Service.monitorProbe]
  split
  · rename_i heq
    rw [heq] at probed
    exact probed.congr childView_monitorReady
  · rename_i heq
    rw [heq] at probed
    exact probed

/-- Nor does the one that validates the child first. -/
lemma Owned.monitorAlive (ow : Owned w) (os : Os) : Owned (monitorAlive w os) := by
  simp only [Service.monitorAlive]
  split
  · exact (ow.validate os).monitorProbe os
  · exact ow.validate os

/-- A start that takes too long kills the child, and leaves it to be reaped. -/
lemma Owned.monitorStarting (ow : Owned w) : Owned (monitorStarting w os) := by
  have asked := ow.startingChildAlive os.alive1
  rw [Service.monitorStarting]
  split
  · exact ow.congr childView_monitorTimeout
  · split
    · rename_i heq
      rw [heq] at asked
      exact asked.monitorAlive os
    · rename_i heq
      rw [heq] at asked
      exact asked.congr childView_chargeAndRetry

/-- `service_monitor_cb` never forks. -/
lemma Owned.monitor (ow : Owned w) : Owned (serviceMonitorCb w os) := by
  rw [serviceMonitorCb]
  split
  · exact ow
  · exact ow.monitorStarting
  · rw [monitorRunning]
    split
    · exact ow
    · exact ow.congr (by simp)
  · rw [monitorFailed]
    split
    · exact ow.congr (by simp)
    · exact ow
  · exact ow

/-- `service_sigchld_cb` clears the fields of a child that it has reaped. -/
lemma Owned.sigchld (ow : Owned w) : Owned (serviceSigchldCb w os) := by
  rw [serviceSigchldCb]
  split
  · split
    · exact ow.congr (childView_note rfl)
    · obtain ⟨waited, gone⟩ := ow.waitpidNohang _ rfl os.alive1.dies
      split
      · rename_i heq
        rw [heq] at waited gone
        exact (waited.clearChild (gone (by simp))).congr (by simp)
      · rename_i heq
        rw [heq] at waited
        exact waited
  · exact ow

/-! ## Stopping -/

/-- The loop of `service_stop_sync`: if it reaps the child, there is none. -/
lemma Owned.stopPoll (attempts : Nat) (waits : List Wait) (ow : Owned w) (pid : Int)
    (hpid : pid = w.ctx.childPid) :
    Owned (stopPoll pid attempts waits w).1 ∧
      (stopPoll pid attempts waits w).1.ctx.childPid = w.ctx.childPid ∧
      ((stopPoll pid attempts waits w).2 = .reaped → (stopPoll pid attempts waits w).1.procs = []) := by
  -- the loop does not touch the context, so `pid` stays the child of the context
  induction attempts generalizing waits w with
  | zero => exact ⟨ow, rfl, fun h => by cases h⟩
  | succ attempts ih =>
    have noted : Owned (w.note (.waited pid)) := ow.congr (childView_note rfl)
    rw [Service.stopPoll]
    split
    · exact ⟨noted, rfl, fun h => by cases h⟩
    · exact ih _ noted hpid
    · obtain ⟨waited, gone⟩ := ow.waitpidNohang pid hpid (waits.headD .quiet = .dies)
      have ctx := waitpidNohang_ctx w pid (waits.headD .quiet = .dies)
      split
      · rename_i heq
        rw [heq] at waited ctx
        obtain ⟨poll, same, reaped⟩ := ih waits.tail waited (by rw [hpid, ctx])
        exact ⟨poll, by rw [same, ctx], reaped⟩
      · rename_i running heq
        rw [heq] at waited ctx gone
        exact ⟨waited, by rw [ctx], fun _ => gone running⟩

/-- `service_stop_sync` leaves no child. -/
lemma Owned.stopChild (ow : Owned w) (os : Os) :
    Owned (stopChild w os).1 ∧ (stopChild w os).1.procs = [] := by
  simp only [Service.stopChild]
  split
  · have killed : Owned (w.kill w.ctx.childPid) := ow.congr (childView_kill _ _)
    obtain ⟨poll, same, reaped⟩ := killed.stopPoll
      (if 0 < w.ctx.stopTimeoutSec then (w.ctx.stopTimeoutSec * 10).toNat else 10) os.waits
      w.ctx.childPid rfl
    split
    · rename_i heq
      rw [heq] at poll reaped
      exact ⟨poll, reaped rfl⟩
    · rename_i heq
      rw [heq] at poll same
      have again := poll.congr (childView_kill _ w.ctx.childPid)
      exact again.waitpid _ same.symm
  · rename_i cleared
    exact ⟨ow, ow.no_child (by omega)⟩

/-- `service_stop_sync` returns only behind the reaped child. -/
lemma Owned.stopSync (ow : Owned w) : Owned (serviceStopSync w os).1 := by
  have detached : Owned (w.setState .stopping).detach := ow.congr (by simp)
  obtain ⟨stopped, gone⟩ := detached.stopChild os
  simp only [serviceStopSync]
  exact (stopped.clearChild gone).congr ((childView_note rfl).trans (by simp))

/-- `service_stop_async` leaves the child to its wait. -/
lemma Owned.stopAsync {d : Bool} (ow : Owned w) : Owned (serviceStopAsync w d os).1 := by
  have killed : Owned w.beginStop.terminate := ow.congr (by simp)
  simp only [serviceStopAsync]
  split
  · exact killed
  · split
    · exact killed.congr childView_stopAsyncWait
    · exact killed.stopSync.congr childView_done

/-! ## Spawning -/

/-- The wait in the cleanup of `service_spawn` is interrupted: the new child is forgotten without
being reaped. -/
def Os.cleanupCut (os : Os) : Bool := os.waitEintr && !(os.forkStat && os.pidFileOk)

/-- The cleanup of `service_spawn` reaps the new child. -/
lemma killNew_new (h : w.procs = [⟨os.forkPid, os.forkStart, false⟩]) (wait : os.waitEintr = false) :
    (w.killNew os).procs = [] ∧ (w.killNew os).log =
      .reaped os.forkPid :: .exited os.forkPid :: .waited os.forkPid :: .signalled os.forkPid ::
        w.log := by
  simp [World.killNew, World.kill, World.waitpid, World.note, World.exit, World.reap, World.proc,
    h, wait]

/-- A world after a fork that had no child before it. -/
structure Forked (w : World) (os : Os) : Prop where
  procs : w.procs = [⟨os.forkPid, os.forkStart, false⟩]
  out : outstanding w.log = [os.forkPid]
  clean : ForksClean w.log

/-- A child that cannot be used is killed and reaped, unless the wait is interrupted. -/
lemma Forked.killNew (fk : Forked w os) (wait : os.waitEintr = false) :
    Owned (w.killNew os) ∧ (w.killNew os).procs = [] := by
  obtain ⟨gone, log⟩ := killNew_new fk.procs wait
  refine ⟨⟨?_, ?_, .inl gone⟩, gone⟩
  · simp [log, gone, outstanding, fk.out]
  · rw [log]
    exact fk.clean

/-- `service_spawn` after the fork: the new child is the only one, or it is reaped. -/
lemma Forked.spawnParent (fk : Forked w os) (pid : w.ctx.childPid = os.forkPid)
    (pos : 0 < os.forkPid) (start : 0 < os.forkStart) (cut : os.cleanupCut = false) :
    Owned (serviceSpawnParent w os).1 := by
  -- both failures go through the wait that is not retried
  have wait : ¬(os.forkStat = true ∧ os.pidFileOk = true) → os.waitEintr = false := by
    intro h
    simpa [Os.cleanupCut, h] using cut
  have filled : Forked (((w.setTicks os.forkStart).setValidated).setStart os.wallTime os.spawnMs)
      os := ⟨fk.procs, fk.out, fk.clean⟩
  simp only [serviceSpawnParent]
  split
  · split
    · exact ⟨filled.out.trans (congrArg (List.map Proc.pid) fk.procs).symm, fk.clean,
        .inr ⟨_, fk.procs, pos, pid.symm, rfl, Nat.ne_of_gt start⟩⟩
    · rename_i stat file
      obtain ⟨killed, gone⟩ := filled.killNew (wait (fun h => file h.2))
      have unlinked : Owned (serviceUnlinkPid _) := killed.congr childView_unlink
      exact unlinked.clearChild gone
  · rename_i stat
    obtain ⟨killed, gone⟩ := fk.killNew (wait (fun h => stat h.1))
    exact killed.of_none gone rfl rfl

/-- `service_spawn` is safe when there is no child. -/
lemma Owned.spawn (ow : Owned w) (safe : w.forks os = true → w.procs = [] ∧ os.cleanupCut = false) :
    Owned (serviceSpawn w os).1 := by
  have called : Owned (w.note .spawn) := ow.congr (childView_note rfl)
  simp only [serviceSpawn]
  split
  · rename_i forks
    obtain ⟨gone, cut⟩ := safe forks
    have empty : outstanding w.log = [] := by rw [ow.shadow, gone, List.map_nil]
    simp only [World.forks, Bool.and_eq_true, decide_eq_true_eq] at forks
    obtain ⟨-, ⟨pos, start⟩, -⟩ := forks
    have forked : Forked ((w.note .spawn).fork os) os :=
      ⟨congrArg (_ :: ·) gone, congrArg (_ :: ·) empty, empty, ow.clean⟩
    have parent := forked.spawnParent rfl pos start cut
    split
    · rename_i heq
      rw [heq] at parent
      exact parent
    · rename_i heq
      rw [heq] at parent
      exact parent.congr (childView_note rfl)
  · exact called.congr (childView_note rfl)

/-- The retry callback gets as far as a fork. -/
def World.retryForks (w : World) (os : Os) : Bool :=
  decide (w.ctx.state ≠ .stopped) && circuitBreakerShouldAllow w.ctx.breaker os.allowTime &&
    w.forks os

/-- `service_start_async` gets as far as a fork, unless it finds the child alive. -/
def World.startForks (w : World) (os : Os) : Bool :=
  decide (w.ctx.state ≠ .running ∧ w.ctx.state ≠ .starting) &&
    circuitBreakerShouldAllow w.ctx.breaker os.allowTime && os.binaryExists && w.forks os

/-- A timer callback does not lose a child: a retry that forks finds `child_pid` cleared and cleans
up without being interrupted, and a stop-wait tick can read the start time of the child. -/
def CallbackKeepsChild (w : World) (os : Os) : Callback → Prop
  | .delayedSpawn => w.retryForks os = true → w.ctx.childPid ≤ 0 ∧ os.cleanupCut = false
  | .stopWait _ => 0 < w.ctx.childPid → os.alive1.stat = true
  | _ => True

/-- An event does not lose a child. -/
def KeepsChild (w : World) : Event → Prop
  | .start os => w.startForks os = true →
      (0 < w.ctx.childPid → os.alive1.stat = true) ∧ os.cleanupCut = false
  | .timer id nowMs os => ∀ t ∈ w.due id nowMs, ∀ cb ∈ t.callback, t.pendingDelete = false →
      CallbackKeepsChild w os cb
  | _ => True

instance (w : World) (os : Os) (cb : Callback) : Decidable (CallbackKeepsChild w os cb) :=
  match cb with
  | .delayedSpawn => inferInstanceAs (Decidable (w.retryForks os = true →
      w.ctx.childPid ≤ 0 ∧ os.cleanupCut = false))
  | .stopWait _ => inferInstanceAs (Decidable (0 < w.ctx.childPid → os.alive1.stat = true))
  | .monitor => inferInstanceAs (Decidable True)
  | .healthCheck => inferInstanceAs (Decidable True)

instance (w : World) (e : Event) : Decidable (KeepsChild w e) :=
  match e with
  | .start os => inferInstanceAs (Decidable (w.startForks os = true →
      (0 < w.ctx.childPid → os.alive1.stat = true) ∧ os.cleanupCut = false))
  | .timer id nowMs os => inferInstanceAs (Decidable (∀ t ∈ w.due id nowMs, ∀ cb ∈ t.callback,
      t.pendingDelete = false → CallbackKeepsChild w os cb))
  | .setReactor _ | .monitor _ | .sigchld _ | .health _ | .exit _ | .stopAsync _ _ | .stopSync _
  | .applyConfig _ _ => inferInstanceAs (Decidable True)

/-- A readable start time shows the child alive, if there is one. -/
lemma Owned.alive (ow : Owned w) {stat : Bool} (dead : serviceIsAlive w stat = false)
    (readable : 0 < w.ctx.childPid → stat = true) : w.procs = [] := by
  rcases ow.own with h | ⟨p, h, pos, hpid, hstart, hne⟩
  · exact h
  · have hp : w.proc w.ctx.childPid = some p := by rw [proc_of_single h, if_pos hpid]
    rw [serviceIsAlive, hp] at dead
    simp [← hpid, pos, ← hstart, hne, readable (hpid ▸ pos)] at dead

/-- What `service_spawn` checks does not change before it is called. -/
lemma forks_afterAllow {t : Int} : (w.afterAllow t).forks os = w.forks os := by
  rw [World.afterAllow]
  split <;> rfl

/-- Whether a spawn forks does not depend on the retry timer. -/
lemma forks_cancelRetry : w.cancelRetry.forks os = w.forks os := by
  simp [World.forks, World.cancelRetry, World.setRetry, World.proc]

/-- The retry forks only behind the reaped child. -/
lemma Owned.delayedSpawnAttempt (ow : Owned w)
    (safe : w.forks os = true → w.procs = [] ∧ os.cleanupCut = false) :
    Owned (delayedSpawnAttempt w os) := by
  have spawned := ow.spawn safe
  rw [Service.delayedSpawnAttempt]
  split
  · rename_i heq
    rw [heq] at spawned
    exact spawned.congr (by simp)
  · rename_i heq
    rw [heq] at spawned
    exact spawned.congr (by simp)

/-- So does `service_delayed_spawn_cb`, if no child is named when the timer fires. -/
lemma Owned.delayedSpawn (ow : Owned w)
    (keep : w.retryForks os = true → w.ctx.childPid ≤ 0 ∧ os.cleanupCut = false) :
    Owned (serviceDelayedSpawnCb w os) := by
  have allowed : Owned (w.cancelRetry.afterAllow os.allowTime) := ow.congr (by simp)
  rw [serviceDelayedSpawnCb]
  split
  · exact ow
  · rename_i up
    dsimp only
    split
    · rename_i allow
      refine allowed.delayedSpawnAttempt fun forks => ?_
      -- back to the state before the callback, which the condition is about
      rw [forks_afterAllow, forks_cancelRetry] at forks
      have allow : circuitBreakerShouldAllow w.ctx.breaker os.allowTime = true := by
        simpa [World.cancelRetry, World.setRetry] using allow
      obtain ⟨gone, cut⟩ := keep (by simp [World.retryForks, up, allow, forks])
      have view : (w.cancelRetry.afterAllow os.allowTime).childView = w.childView := by simp
      exact ⟨(congrArg ChildView.procs view).trans (ow.no_child gone), cut⟩
    · exact ow.congr (by simp)

/-- What the guards of `service_start_async` let through. -/
lemma startForks_of (down : ¬(w.ctx.state = .running ∨ w.ctx.state = .starting))
    (allow : circuitBreakerShouldAllow w.ctx.breaker os.allowTime = true)
    (binary : os.binaryExists = true) (forks : w.forks os = true) : w.startForks os = true := by
  simpa [World.startForks, allow, binary, forks] using down

/-- `service_start_async`, if it forks only with no child left. -/
lemma Owned.start (ow : Owned w) (keep : KeepsChild w (.start os)) :
    Owned (serviceStartAsync w os).1 := by
  have called : Owned (w.note .startCalled) := ow.congr (childView_note rfl)
  have allowed : Owned ((w.note .startCalled).afterAllow os.allowTime) := called.congr (by simp)
  simp only [serviceStartAsync]
  split
  · exact called
  · rename_i down
    split
    · rename_i allow
      split
      · exact allowed.congr childView_setState
      · rename_i dead
        rw [startSpawn]
        split
        · rename_i binary
          have spawned : Owned
              (serviceSpawn ((w.note .startCalled).afterAllow os.allowTime) os).1 := by
            refine allowed.spawn fun forks => ?_
            rw [forks_afterAllow] at forks
            -- with a readable start time, a child that is taken for dead is not there
            obtain ⟨readable, cut⟩ := keep (startForks_of down allow binary forks)
            have pid : ((w.note .startCalled).afterAllow os.allowTime).ctx.childPid =
                w.ctx.childPid :=
              childPid_of_view (childView_afterAllow.trans (childView_note rfl))
            exact ⟨allowed.alive (by simpa using dead) (fun pos => readable (pid ▸ pos)), cut⟩
          split
          · rename_i heq
            rw [heq] at spawned
            exact spawned.congr (by simp)
          · rename_i heq
            rw [heq] at spawned
            exact spawned.congr (by simp)
        · exact allowed.congr childView_setState
    · exact called

/-- The end of a stop clears a child that is gone. -/
lemma Owned.stopWaitDone {s : StopState} (ow : Owned w) (gone : w.procs = []) :
    Owned (stopWaitDone w s) :=
  (ow.clearChild gone).congr (by simp [Service.stopWaitDone])

/-- A tick of the wait clears the child once it is reaped. -/
lemma Owned.stopWait {s : StopState} (ow : Owned w)
    (readable : 0 < w.ctx.childPid → os.alive1.stat = true) : Owned (serviceStopWaitCb w s os) := by
  rw [serviceStopWaitCb]
  split
  · dsimp only
    split
    · have killed : Owned (w.kill w.ctx.childPid) := ow.congr (childView_kill _ _)
      obtain ⟨waited, gone⟩ := killed.waitpid _ rfl
      exact waited.stopWaitDone gone
    · have added : Owned
          (w.addTimer os 100 0 (.stopWait { s with attempts := s.attempts + 1 })).1 := ow.congr rfl
      split
      · exact added.stopSync
      · exact added
  · rename_i dead
    exact ow.stopWaitDone (ow.alive (by simpa using dead) readable)

/-! ## Runs -/

/-- By cases on the callback. -/
lemma Owned.dispatch {cb : Callback} (ow : Owned w) (keep : CallbackKeepsChild w os cb) :
    Owned (dispatch w os cb) := by
  cases cb with
  | monitor => exact ow.monitor
  | delayedSpawn => exact ow.delayedSpawn keep
  | healthCheck => exact ow.congr childView_health
  | stopWait s => exact ow.stopWait keep

/-- A timer that is pending deletion does nothing. -/
lemma Owned.fire {t : Timer Callback} {nowMs : Nat} (ow : Owned w)
    (keep : ∀ cb ∈ t.callback, t.pendingDelete = false → CallbackKeepsChild w os cb) :
    Owned (w.fire t nowMs os) := by
  have begun : Owned (w.beginTimer t nowMs) := ow.congr rfl
  apply World.fire_keeps (fun ow => ow.congr rfl) ow
  intro cb hcb mark
  exact begun.dispatch (keep cb hcb mark)

/-- By cases on the event. -/
lemma Owned.step {e : Event} (ow : Owned w) (keep : KeepsChild w e)
    (st : Service.step w e = some w') : Owned w' := by
  cases e with
  | setReactor os => cases st; exact ow.congr childView_serviceSetReactor
  | start os => cases st; exact ow.start keep
  | monitor os => cases st; exact ow.monitor
  | timer id nowMs os =>
    obtain ⟨t, due, rfl⟩ := Option.map_eq_some_iff.mp st
    exact ow.fire (keep t due)
  | sigchld os => cases st; exact ow.sigchld
  | health os => cases st; exact ow.congr childView_health
  | exit pid => cases st; exact ow.exit
  | stopAsync d os => cases st; exact ow.stopAsync
  | stopSync os => cases st; exact ow.stopSync
  | applyConfig cfg os => cases st; exact ow.congr childView_applyConfig

/-- Before the first event there is no child. -/
lemma World.init_owned (ctx : ServiceCtx) (pidFile : Option Int) (nowMs : Nat) :
    Owned (World.init ctx pidFile nowMs) :=
  ⟨rfl, trivial, .inl rfl⟩

/-- In every run of the supervisor whose steps do not lose a child, there is at most one child:
`service_spawn` forks only when the child before was reaped. -/
theorem one_child_of_keepsChild (ctx : ServiceCtx) (pidFile : Option Int) (nowMs : Nat)
    (es : List Event) (keep : Along Service.step KeepsChild (World.init ctx pidFile nowMs) es)
    (rn : run Service.step (World.init ctx pidFile nowMs) es = some w) : OneChild w := by
  have ow : Owned w := run_preserves_along (fun _ _ _ ow keep st => ow.step keep st)
    (World.init_owned ctx pidFile nowMs) keep rn
  exact ow.oneChild

/-- The child dies, is reaped, and the retry starts another one. -/
def respawnAfterReap : List Event :=
  [.setReactor (.calm 1000 100), .start (.calm 1000 100), .exit 100, .sigchld (.calm 2000 100),
    .timer 1 3000 (.calm 3000 101)]

/-- The child dies, is reaped and spawned again: there is one. -/
theorem one_child_of_keepsChild_respawnAfterReap :
    ∃ w, run Service.step (World.init defaultCtx none 1000) respawnAfterReap = some w ∧
      w.procs.length = 1 ∧ OneChild w :=
  ⟨_, rfl, rfl, one_child_of_keepsChild defaultCtx none 1000 respawnAfterReap (by decide) rfl⟩

/-- The startup of the child times out, it is sent SIGKILL but does not exit yet, and the retry is
due. -/
def retryBeforeReap : List Event :=
  [.setReactor (.calm 1000 100), .start (.calm 1000 100), .timer 0 31100 (.calm 31100 100),
    .timer 1 32100 (.calm 32100 101)]

/-- The retry forks over the unreaped child. -/
theorem retryBeforeReap_two_children :
    ∃ w, run Service.step (World.init defaultCtx none 1000) retryBeforeReap = some w ∧
      w.procs.map Proc.pid = [101, 100] ∧ w.ctx.childPid = 101 ∧ ¬OneChild w := by
  refine ⟨_, rfl, rfl, rfl, fun one => ?_⟩
  have two := one.atMost
  revert two
  decide

end Atpd.Service
