import Atpd.Service.Stop

/-!
# The identity of the child

`child_pid`, `child_starttime_ticks` and `validated_pid` are set and cleared by hand in many places,
some of which clear only one of them. On a system where the start time of every unreaped child can
be read (`Os.Truthful`), none of these is reached: `Known` says that the three fields are cleared
together or name an unreaped child by its start time, so that `service_is_alive` tells the truth.

The other half is about the retry timer, whose callback forgets the child when its PID file cannot
be written. `Lawful` says that no retry is pending while the service is RUNNING, or while it is
STARTING with a child. A second start breaks that, so the runs here have one.
-/

namespace Atpd.Service

open Atpd.Config Atpd.Reactor Atpd.Lib

variable {w w' : World} {os : Os} {pid : Int}

/-! ## The property -/

/-- The pids that `kill` and `waitpid` were called with in a history. -/
def called : List Obs → List Int
  | [] => []
  | .signalled pid :: log => pid :: called log
  | .waited pid :: log => pid :: called log
  | _ :: log => called log

/-- The three fields of the child agree with each other and with the state, and no signal or wait
was meant for another process or for all of them. -/
structure Identity (w : World) : Prop where
  pid : w.ctx.childPid = -1 ∨ 0 < w.ctx.childPid
  cleared : w.ctx.childPid = -1 → w.ctx.childStarttimeTicks = 0 ∧ w.ctx.validatedPid = false
  running : w.ctx.state = .running →
    0 < w.ctx.childPid ∧ w.ctx.childStarttimeTicks ≠ 0 ∧ w.ctx.validatedPid = true
  calls : ∀ pid ∈ called w.log, 0 < pid

/-- `get_process_starttime` succeeds for every unreaped child, and a `waitpid` on the child fails
only with EINTR or ECHILD. -/
structure Os.Truthful (os : Os) : Prop where
  forkStat : os.forkStat = true
  alive1 : os.alive1.stat = true
  alive2 : os.alive2.stat = true
  alive3 : os.alive3.stat = true
  waits : .error ∉ os.waits

instance (os : Os) : Decidable os.Truthful :=
  decidable_of_iff (os.forkStat = true ∧ os.alive1.stat = true ∧ os.alive2.stat = true ∧
      os.alive3.stat = true ∧ .error ∉ os.waits)
    ⟨fun ⟨h1, h2, h3, h4, h5⟩ => ⟨h1, h2, h3, h4, h5⟩,
      fun ⟨h1, h2, h3, h4, h5⟩ => ⟨h1, h2, h3, h4, h5⟩⟩

/-- The outcomes that an event comes with. -/
def Event.outcomes : Event → Option Os
  | .setReactor os | .start os | .monitor os | .timer _ _ os | .sigchld os | .health os
  | .stopAsync _ os | .stopSync os | .applyConfig _ os => some os
  | .exit _ => none

/-- The events that `service_start_async` is. -/
def Event.isStart : Event → Bool
  | .start _ => true
  | _ => false

/-! ## Fields and processes -/

/-- The fields of the child are cleared. -/
structure NoChild (w : World) : Prop where
  pid : w.ctx.childPid = -1
  ticks : w.ctx.childStarttimeTicks = 0
  validated : w.ctx.validatedPid = false

/-- The fields of the child name an unreaped child by its start time. -/
structure Named (w : World) : Prop where
  pos : 0 < w.ctx.childPid
  ticks : w.ctx.childStarttimeTicks ≠ 0
  validated : w.ctx.validatedPid = true
  proc : ∃ p, w.proc w.ctx.childPid = some p ∧ p.starttime = w.ctx.childStarttimeTicks

/-- Every signal and every wait so far was for a positive pid. -/
def Aimed (w : World) : Prop := ∀ pid ∈ called w.log, 0 < pid

/-- The fields of the child are cleared or name an unreaped child. -/
structure Known (w : World) : Prop where
  child : NoChild w ∨ Named w
  aimed : Aimed w

/-- What is noted of others is no call. -/
lemma called_append {l log : List Obs} (hl : ∀ o ∈ l, o.isChild = false) :
    called (l ++ log) = called log := by
  induction l with
  | nil => rfl
  | cons o l ih =>
    have rest := ih fun o ho => hl o (by simp [ho])
    have ho := hl o (by simp)
    cases o <;> first | exact rest | simp [Obs.isChild] at ho

/-- The calls depend on the record alone. -/
lemma Aimed.kept (ai : Aimed w) (ck : ChildKept w w') : Aimed w' := by
  obtain ⟨l, hl, unrelated⟩ := ck.log
  rw [Aimed, hl, called_append unrelated]
  exact ai

/-- A signal to a positive pid. -/
lemma Aimed.kill (ai : Aimed w) (pos : 0 < pid) : Aimed (w.kill pid) := by
  intro p hp
  rcases List.mem_cons.mp hp with rfl | hp
  · exact pos
  · exact ai p hp

/-- A wait for a positive pid. -/
lemma Aimed.wait (ai : Aimed w) (pos : 0 < pid) : Aimed (w.note (.waited pid)) := by
  intro p hp
  rcases List.mem_cons.mp hp with rfl | hp
  · exact pos
  · exact ai p hp

/-- The end of a child is no call. -/
lemma Aimed.exit (ai : Aimed w) : Aimed (w.exit pid) := by
  rw [World.exit]
  split
  · split
    · exact ai
    · exact ai
  · exact ai

/-- Nor is reaping it. -/
lemma Aimed.reap (ai : Aimed w) : Aimed (w.reap pid) := by
  rw [World.reap]
  split
  · exact ai
  · exact ai

/-- The blocking wait is for one child. -/
lemma Aimed.waitpid (ai : Aimed w) (pos : 0 < pid) : Aimed (w.waitpid pid) :=
  (ai.wait pos).exit.reap

/-- So is the other one. -/
lemma Aimed.waitpidNohang (ai : Aimed w) (pos : 0 < pid) (dies : Bool) :
    Aimed (waitpidNohang w pid dies).1 := by
  have before : Aimed ((w.note (.waited pid)).mayExit pid dies) := by
    rw [World.mayExit]
    split
    · exact (ai.wait pos).exit
    · exact ai.wait pos
  simp only [Service.waitpidNohang]
  split
  · split
    · exact before.reap
    · exact before
  · exact before

/-- The loop of `service_stop_sync`: by induction on the attempts left. -/
lemma Aimed.stopPoll (ai : Aimed w) (pos : 0 < pid) (attempts : Nat) (waits : List Wait) :
    Aimed (stopPoll pid attempts waits w).1 := by
  induction attempts generalizing waits w with
  | zero => exact ai
  | succ attempts ih =>
    rw [Service.stopPoll]
    split
    · exact ai.wait pos
    · exact ih (ai.wait pos) _
    · have waited := ai.waitpidNohang pos (waits.headD .quiet = .dies)
      split
      · rename_i heq
        rw [heq] at waited
        exact ih waited _
      · rename_i heq
        rw [heq] at waited
        exact waited

/-- A stop is aimed at the child, or there is none. -/
lemma Aimed.stopChild (ai : Aimed w) (os : Os) : Aimed (stopChild w os).1 := by
  simp only [Service.stopChild]
  split
  · rename_i pos
    have polled := (ai.kill pos).stopPoll pos
      (if 0 < w.ctx.stopTimeoutSec then (w.ctx.stopTimeoutSec * 10).toNat else 10) os.waits
    split
    · rename_i heq
      rw [heq] at polled
      exact polled
    · rename_i heq
      rw [heq] at polled
      exact (polled.kill pos).waitpid pos
  · exact ai

/-- And the cleanup of a spawn at the child that it has forked. -/
lemma Aimed.killNew (ai : Aimed w) (pos : 0 < os.forkPid) : Aimed (w.killNew os) := by
  simp only [World.killNew]
  split
  · exact (ai.kill pos).wait pos
  · exact (ai.kill pos).waitpid pos

/-! ## The child is known -/

namespace Known

/-- Where the child is kept it stays known. -/
lemma kept (kn : Known w) (ck : ChildKept w w') : Known w' := by
  refine ⟨kn.child.imp (fun no => ?_) (fun na => ?_), kn.aimed.kept ck⟩
  · exact ⟨ck.childPid.trans no.pid, ck.ticks.trans no.ticks, ck.validated.trans no.validated⟩
  · obtain ⟨p, hp, hstart⟩ := na.proc
    refine ⟨ck.childPid ▸ na.pos, ck.ticks ▸ na.ticks, ck.validated.trans na.validated, p, ?_, ?_⟩
    · rw [World.proc, ck.procs, ck.childPid]
      exact hp
    · rw [ck.ticks]
      exact hstart

/-- Whatever was done to the child: once its fields are cleared, nothing more is to be shown. -/
lemma clearChild (ai : Aimed w) : Known w.clearChild := ⟨.inl ⟨rfl, rfl, rfl⟩, ai⟩

/-- A pid that is set names a child. -/
lemma named (kn : Known w) (pos : 0 < w.ctx.childPid) : Named w :=
  kn.child.resolve_left fun no => by simp [no.pid] at pos

/-- If no child is named, the pid is `-1`. -/
lemma cleared (kn : Known w) (pos : ¬0 < w.ctx.childPid) : w.ctx.childPid = -1 := by
  rcases kn.child with no | na
  · exact no.pid
  · exact absurd na.pos pos

/-- `service_is_alive` tells the truth. -/
lemma isAlive (kn : Known w) : serviceIsAlive w true = decide (0 < w.ctx.childPid) := by
  rw [serviceIsAlive]
  rcases kn.child with no | na
  · simp [no.pid]
  · obtain ⟨p, hp, hstart⟩ := na.proc
    simp [hp, na.pos, na.ticks, hstart]

/-- An entry of the history is no more than that. -/
lemma note {o : Obs} (kn : Known w) (ai : Aimed (w.note o)) : Known (w.note o) :=
  ⟨kn.child.imp (fun no => ⟨no.pid, no.ticks, no.validated⟩)
    (fun na => ⟨na.pos, na.ticks, na.validated, na.proc⟩), ai⟩

lemma kill (kn : Known w) (pos : 0 < pid) : Known (w.kill pid) := kn.note (kn.aimed.kill pos)

lemma wait (kn : Known w) (pos : 0 < pid) : Known (w.note (.waited pid)) :=
  kn.note (kn.aimed.wait pos)

end Known

/-- An exit leaves every process where it was, with its start time. -/
lemma starttime_exit {q : Int} {p : Proc} (pid : Int) (hp : w.proc q = some p) :
    ∃ p', (w.exit pid).proc q = some p' ∧ p'.starttime = p.starttime := by
  by_cases same : q = pid
  · subst same
    exact ⟨{ p with exited := true }, by rw [proc_exit, hp, Option.map_some], rfl⟩
  · exact ⟨p, by rw [proc_exit_ne same, hp], rfl⟩

namespace Known

/-- The child that has ended is still the one that is named. -/
lemma exit (kn : Known w) : Known (w.exit pid) := by
  refine ⟨kn.child.imp (fun no => ?_) (fun na => ?_), kn.aimed.exit⟩
  · exact ⟨by rw [exit_ctx, no.pid], by rw [exit_ctx, no.ticks], by rw [exit_ctx, no.validated]⟩
  · obtain ⟨p, hp, hstart⟩ := na.proc
    obtain ⟨p', hp', same⟩ := starttime_exit pid hp
    exact ⟨by rw [exit_ctx]; exact na.pos, by rw [exit_ctx]; exact na.ticks,
      by rw [exit_ctx]; exact na.validated, p', by rw [exit_ctx]; exact hp',
      by rw [same, hstart, exit_ctx]⟩

/-- `waitpid(.., WNOHANG)` that does not reap the child. -/
lemma waitpidNohang {dies : Bool} {r : Waited} (kn : Known w) (pos : 0 < pid)
    (wait : Service.waitpidNohang w pid dies = (w', r)) (unreaped : r ≠ .reaped) : Known w' := by
  have before : Known ((w.note (.waited pid)).mayExit pid dies) := by
    rw [World.mayExit]
    split
    · exact (kn.wait pos).exit
    · exact kn.wait pos
  simp only [Service.waitpidNohang] at wait
  split at wait
  · split at wait
    · cases wait
      exact absurd rfl unreaped
    · cases wait
      exact before
  · cases wait
    exact before

/-- `service_starting_child_alive` keeps the child it finds alive, and forgets one it has reaped. -/
lemma startingChildAlive {a : Alive} (kn : Known w) (stat : a.stat = true) :
    Known (serviceStartingChildAlive w a).1 ∧
      ((serviceStartingChildAlive w a).2 = true → 0 < (serviceStartingChildAlive w a).1.ctx.childPid) ∧
      ((serviceStartingChildAlive w a).2 = false →
        (serviceStartingChildAlive w a).1.ctx.childPid = -1) := by
  rw [serviceStartingChildAlive, stat, kn.isAlive]
  split
  · rename_i alive
    have pos := of_decide_eq_true alive
    have aimed := kn.aimed.waitpidNohang pos a.dies
    have ctx := waitpidNohang_ctx w w.ctx.childPid a.dies
    split
    · rename_i heq
      rw [heq] at ctx
      exact ⟨kn.waitpidNohang pos heq (by simp), fun _ => by rw [ctx]; exact pos, by simp⟩
    · rename_i heq
      rw [heq] at aimed
      exact ⟨(clearChild aimed).kept .unlinkPid, by simp, fun _ => rfl⟩
  · rename_i dead
    exact ⟨kn, by simp, fun _ => kn.cleared (of_decide_eq_false (by simpa using dead))⟩

/-- A probe that succeeds has seen the child. -/
lemma probeNativeApi (kn : Known w) (tr : os.Truthful) :
    Known (serviceProbeNativeApi w os).1 ∧
      ((serviceProbeNativeApi w os).2 = true → 0 < (serviceProbeNativeApi w os).1.ctx.childPid) := by
  obtain ⟨known, pos, -⟩ := kn.startingChildAlive tr.alive2
  rw [serviceProbeNativeApi]
  split
  · rename_i heq
    rw [heq] at known
    exact ⟨known, by simp⟩
  · rename_i heq
    rw [heq] at known
    split
    · obtain ⟨known, pos, -⟩ := known.startingChildAlive tr.alive3
      exact ⟨known, pos⟩
    · exact ⟨known, by simp⟩

/-- The cleanup in `service_monitor_cb` that clears `child_pid` only is not reached. -/
lemma validate (kn : Known w) (pos : 0 < w.ctx.childPid) (os : Os) : monitorValidate w os = w := by
  rw [monitorValidate, if_pos (kn.named pos).validated]

/-- `service_spawn` after the fork: the new child is known, or it is forgotten. -/
lemma spawnParent (ai : Aimed w) (pid : w.ctx.childPid = os.forkPid) (pos : 0 < os.forkPid)
    (start : 0 < os.forkStart) (proc : w.proc os.forkPid = some ⟨os.forkPid, os.forkStart, false⟩)
    (tr : os.Truthful) :
    Known (serviceSpawnParent w os).1 ∧
      ((serviceSpawnParent w os).2 = false → (serviceSpawnParent w os).1.ctx.childPid = -1) := by
  have aimed : Aimed (((w.setTicks os.forkStart).setValidated).setStart os.wallTime os.spawnMs) := ai
  simp only [serviceSpawnParent, tr.forkStat, ↓reduceIte]
  split
  · refine ⟨⟨.inr ⟨?_, Nat.ne_of_gt start, rfl, ⟨os.forkPid, os.forkStart, false⟩, ?_, rfl⟩, ai⟩, by simp⟩
    · exact pid ▸ pos
    · show w.proc w.ctx.childPid = _
      rw [pid, proc]
  · exact ⟨clearChild (aimed.killNew pos), fun _ => rfl⟩

/-- `service_spawn`: if it fails, the child is the one of before or forgotten. -/
lemma spawn (kn : Known w) (tr : os.Truthful) :
    Known (serviceSpawn w os).1 ∧
      ((serviceSpawn w os).2 = false → w.ctx.childPid = -1 →
        (serviceSpawn w os).1.ctx.childPid = -1) := by
  have called : Known (w.note .spawn) := kn.kept (.note rfl)
  simp only [serviceSpawn]
  split
  · rename_i forks
    simp only [World.forks, Bool.and_eq_true, decide_eq_true_eq] at forks
    obtain ⟨-, ⟨pos, start⟩, -⟩ := forks
    obtain ⟨known, gone⟩ := spawnParent (w := (w.note .spawn).fork os) called.aimed rfl pos start
      (by simp [World.proc, World.fork]) tr
    split
    · rename_i heq
      rw [heq] at known
      exact ⟨known, by simp⟩
    · rename_i heq
      rw [heq] at known gone
      exact ⟨known.note known.aimed, fun _ _ => gone rfl⟩
  · exact ⟨called.note called.aimed, fun _ no => no⟩

end Known

/-! ## The retry timer -/

/-- From `w` to `w'` timers come and go, but no retry timer comes. -/
structure NoRetryAdded (w w' : World) : Prop where
  wf : w.priv.Wf → w'.priv.Wf
  only : w.priv.Wf → w.priv.Only .delayedSpawn none → w'.priv.Only .delayedSpawn none

namespace NoRetryAdded

/-- Timers that stay the same. -/
lemma same (priv : w'.priv = w.priv) : NoRetryAdded w w' :=
  ⟨fun wf => priv ▸ wf, fun _ on => priv ▸ on⟩

/-- What happens aside adds no timer. -/
lemma aside (as : Aside w w') : NoRetryAdded w w' := same as.priv

/-- One part of a call behind another. -/
lemma trans {w1 w2 : World} (h1 : NoRetryAdded w w1) (h2 : NoRetryAdded w1 w2) :
    NoRetryAdded w w2 :=
  ⟨fun wf => h2.wf (h1.wf wf), fun wf on => h2.only (h1.wf wf) (h1.only wf on)⟩

lemma cancelCtxTimer (h : Option Nat) : NoRetryAdded w (w.cancelCtxTimer h) := by
  cases h with
  | none => exact same rfl
  | some id =>
    simp only [World.cancelCtxTimer]
    split
    · exact ⟨fun wf => wf.cancel, fun wf on => on.cancel wf⟩
    · exact same rfl

/-- A timer of another kind. -/
lemma addTimer {cb : Callback} (os : Os) (timeout interval : Nat) (ne : cb ≠ .delayedSpawn) :
    NoRetryAdded w (w.addTimer os timeout interval cb).1 :=
  ⟨fun wf => wf.add, fun _ on => on.add_other ne⟩

lemma addCtxTimer {cb : Callback} (os : Os) (timeout interval : Nat) (ne : cb ≠ .delayedSpawn) :
    NoRetryAdded w (w.addCtxTimer os timeout interval cb).1 := by
  rw [World.addCtxTimer]
  split
  · exact addTimer os _ _ ne
  · exact same rfl

lemma cancelRetry : NoRetryAdded w w.cancelRetry := (cancelCtxTimer _).trans (same rfl)

lemma cancelHealth : NoRetryAdded w w.cancelHealth := (cancelCtxTimer _).trans (same rfl)

lemma cancelMonitor : NoRetryAdded w w.cancelMonitor := (cancelCtxTimer _).trans (same rfl)

lemma serviceSetReactor (w : World) (os : Os) : NoRetryAdded w (serviceSetReactor w os).1 := by
  have attached : NoRetryAdded w (w.setReactor true) := same rfl
  have added : NoRetryAdded w ((w.setReactor true).cancelMonitor.addCtxTimer os 100 1000 .monitor).1 :=
    (attached.trans cancelMonitor).trans (addCtxTimer os 100 1000 (by simp))
  exact added.trans (same rfl)

lemma applyConfig (w : World) (cfg : AtpConfig) (os : Os) :
    NoRetryAdded w (serviceApplyConfig w cfg os).1 := by
  simp only [serviceApplyConfig]
  split
  · split
    · exact addCtxTimer os _ _ (by simp)
    · exact (addCtxTimer os _ _ (by simp)).trans (cancelCtxTimer _) |>.trans (same rfl)
  · exact same rfl

/-- The health timer is no retry. -/
lemma monitorStartHealth (w : World) (os : Os) : NoRetryAdded w (monitorStartHealth w os) := by
  have added : NoRetryAdded w (w.cancelHealth.addCtxTimer os w.ctx.healthCheckIntervalMs.toNat
      w.ctx.healthCheckIntervalMs.toNat .healthCheck).1 :=
    cancelHealth.trans (addCtxTimer os _ _ (by simp))
  simp only [Service.monitorStartHealth]
  split
  · split
    · exact added.trans (same rfl)
    · exact added.trans (same rfl)
  · exact same rfl

end NoRetryAdded

/-- The child is known, and no retry that could forget it is pending. -/
structure Lawful (w : World) : Prop where
  wf : w.priv.Wf
  known : Known w
  running : w.ctx.state = .running → 0 < w.ctx.childPid ∧ w.priv.Only .delayedSpawn none
  starting : w.ctx.state = .starting → w.ctx.childPid = -1 ∨ w.priv.Only .delayedSpawn none

/-- The service has no child to lose: it is not RUNNING, and if it is STARTING, the child is gone. A
retry may be scheduled. -/
structure Loose (w : World) : Prop where
  wf : w.priv.Wf
  known : Known w
  idle : w.ctx.state ≠ .running
  gone : w.ctx.state = .starting → w.ctx.childPid = -1

/-- A lawful context names its own child, or none. -/
lemma Lawful.identity (la : Lawful w) : Identity w where
  pid := la.known.child.imp (·.pid) (·.pos)
  cleared no := by
    rcases la.known.child with cl | na
    · exact ⟨cl.ticks, cl.validated⟩
    · have pos := na.pos
      rw [no] at pos
      exact absurd pos (by decide)
  running up := by
    have na := la.known.named (la.running up).1
    exact ⟨na.pos, na.ticks, na.validated⟩
  calls := la.known.aimed

/-- No retry timer is added, and nothing happens to the child or the state. -/
lemma Lawful.timers (la : Lawful w) (ck : ChildKept w w') (nr : NoRetryAdded w w')
    (state : w'.ctx.state = w.ctx.state) : Lawful w' where
  wf := nr.wf la.wf
  known := la.known.kept ck
  running up := by
    obtain ⟨pos, only⟩ := la.running (state ▸ up)
    exact ⟨ck.childPid ▸ pos, nr.only la.wf only⟩
  starting up := (la.starting (state ▸ up)).imp (fun no => ck.childPid.trans no) (nr.only la.wf)

/-- A service that is neither RUNNING nor STARTING. -/
lemma Lawful.idle (wf : w.priv.Wf) (known : Known w)
    (down : ¬(w.ctx.state = .running ∨ w.ctx.state = .starting)) : Lawful w :=
  ⟨wf, known, fun up => absurd (.inl up) down, fun up => absurd (.inr up) down⟩

/-- A service that is STARTING without a pending retry. -/
lemma Lawful.unretried (wf : w.priv.Wf) (known : Known w) (only : w.priv.Only .delayedSpawn none)
    (state : w.ctx.state = .running → 0 < w.ctx.childPid) : Lawful w :=
  ⟨wf, known, fun up => ⟨state up, only⟩, fun _ => .inr only⟩

namespace Loose

/-- With no child to lose the service is lawful. -/
lemma lawful (lo : Loose w) : Lawful w :=
  ⟨lo.wf, lo.known, fun up => absurd up lo.idle, fun up => .inl (lo.gone up)⟩

lemma kept (lo : Loose w) (ck : ChildKept w w') (wf : w'.priv.Wf)
    (state : w'.ctx.state = w.ctx.state) : Loose w' :=
  ⟨wf, lo.known.kept ck, state ▸ lo.idle, fun up => ck.childPid.trans (lo.gone (state ▸ up))⟩

/-- A service that has just FAILED. -/
lemma failed (wf : w.priv.Wf) (known : Known w) (state : w.ctx.state = .failed) : Loose w :=
  ⟨wf, known, by simp [state], by simp [state]⟩

lemma cancelRetry (lo : Loose w) : Loose w.cancelRetry :=
  lo.kept .cancelRetry (NoRetryAdded.cancelRetry.wf lo.wf) (by simp [World.cancelRetry, World.setRetry])

/-- A retry is scheduled when the child is gone. -/
lemma scheduleRetry (lo : Loose w) (os : Os) : Loose (serviceScheduleRetry w os) := by
  have cancelled : w.nextBackoff.cancelRetry.priv.Wf := NoRetryAdded.cancelRetry.wf lo.wf
  have wf : (w.nextBackoff.cancelRetry.addCtxTimer os w.ctx.backoff.currentDelayMs 0
      .delayedSpawn).1.priv.Wf := by
    rw [World.addCtxTimer]
    split
    · exact cancelled.add
    · exact cancelled
  have ck := ChildKept.scheduleRetry w os
  simp only [serviceScheduleRetry] at ck ⊢
  split
  · rename_i null
    rw [if_pos null] at ck
    exact failed wf (lo.known.kept ck) rfl
  · rename_i handle
    rw [if_neg handle] at ck
    exact lo.kept ck wf (by simp [World.setRetry, World.cancelRetry, World.nextBackoff])

lemma chargeAndRetry (lo : Loose w) (os : Os) : Loose (w.chargeAndRetry os) := by
  have ck := (ChildKept.charge (w := w)).trans (.recordFailure os.failTime)
  have charged : Loose (w.charge.recordFailure os.failTime) := lo.kept ck lo.wf rfl
  simp only [World.chargeAndRetry]
  split
  · exact failed charged.wf (charged.known.kept ((ChildKept.note rfl).trans (.setState _))) rfl
  · exact charged.scheduleRetry os

/-- The service has FAILED and is charged for it. -/
lemma charged (wf : w.priv.Wf) (known : Known w) (time : Int) :
    Loose ((w.setState .failed).charge.recordFailure time) := by
  have ck := (ChildKept.setState (w := w) .failed).trans .charge |>.trans (.recordFailure time)
  exact .failed wf (known.kept ck) rfl

end Loose

/-! ## Callbacks -/

/-- `service_monitor_cb` when the API answers: the service is RUNNING, with a child and no retry. -/
lemma Lawful.monitorReady (wf : w.priv.Wf) (known : Known w) (pos : 0 < w.ctx.childPid)
    (only : w.priv.Only .delayedSpawn none) (os : Os) : Lawful (monitorReady w os) := by
  have ck := ChildKept.monitorReady w os
  have up : NoRetryAdded w (w.setState .running) := .same rfl
  have ready := Aside.note (w := w.setState .running) (o := .enteredRunning) rfl
    |>.trans .resetCharges |>.trans (.setHealthy true) |>.trans (.setLastHealthCheck os.wallTime)
    |>.trans .resetBackoff |>.trans .recordSuccess
  have nr : NoRetryAdded w (Service.monitorReady w os) :=
    (up.trans (.aside ready)).trans (.monitorStartHealth _ os)
  exact .unretried (nr.wf wf) (known.kept ck) (nr.only wf only) fun _ => ck.childPid ▸ pos

/-- `service_monitor_cb` when the child is alive. -/
lemma Lawful.monitorAlive (wf : w.priv.Wf) (known : Known w) (pos : 0 < w.ctx.childPid)
    (only : w.priv.Only .delayedSpawn none) (state : w.ctx.state = .starting) (tr : os.Truthful) :
    Lawful (monitorAlive w os) := by
  obtain ⟨probed, alive⟩ := known.probeNativeApi tr
  have aside := Aside.probeNativeApi w os
  simp only [Service.monitorAlive, known.validate pos, (known.named pos).validated, ↓reduceIte]
  rw [Service.monitorProbe]
  split
  · rename_i heq
    rw [heq] at probed alive aside
    exact .monitorReady (aside.priv ▸ wf) probed (alive rfl) (aside.priv ▸ only) os
  · rename_i heq
    rw [heq] at probed aside
    exact .unretried (aside.priv ▸ wf) probed (aside.priv ▸ only) (by rw [aside.state, state]; simp)

/-- A start that took too long has its child killed, and still names it. -/
lemma Lawful.monitorTimeout (la : Lawful w) (os : Os) : Lawful (monitorTimeout w os) := by
  have killed : Known w.killTimedOut := by
    rw [World.killTimedOut]
    split
    · rename_i pos
      exact (la.known.kill pos).note (la.known.kill pos).aimed
    · exact la.known
  have wf : w.killTimedOut.priv.Wf := (NoRetryAdded.aside .killTimedOut).wf la.wf
  have failed := Loose.charged wf killed os.failTime
  simp only [Service.monitorTimeout]
  split
  · exact (failed.scheduleRetry os).lawful
  · exact failed.lawful

/-- A tick of a starting service, by its branches. -/
lemma Lawful.monitorStarting (la : Lawful w) (state : w.ctx.state = .starting) (tr : os.Truthful) :
    Lawful (monitorStarting w os) := by
  obtain ⟨asked, alive, gone⟩ := la.known.startingChildAlive tr.alive1
  have aside := Aside.startingChildAlive w os.alive1
  rw [Service.monitorStarting]
  split
  · exact la.monitorTimeout os
  · split
    · rename_i heq
      have pos : 0 < w.ctx.childPid := by
        by_contra dead
        simp [serviceStartingChildAlive, tr.alive1, la.known.isAlive, dead] at heq
      rw [heq] at asked alive aside
      have only : w.priv.Only .delayedSpawn none :=
        (la.starting state).resolve_left fun no => by simp [no] at pos
      exact .monitorAlive (aside.priv ▸ la.wf) asked (alive rfl) (aside.priv ▸ only)
        (aside.state.trans state) tr
    · rename_i heq
      rw [heq] at asked gone aside
      -- the child is gone and the state is still STARTING
      have loose : Loose _ := ⟨aside.priv ▸ la.wf, asked, by rw [aside.state, state]; simp,
        fun _ => gone rfl⟩
      exact (loose.chargeAndRetry os).lawful

/-- In any other state the tick does nothing to the child. -/
lemma Lawful.monitor (la : Lawful w) (tr : os.Truthful) : Lawful (serviceMonitorCb w os) := by
  rw [serviceMonitorCb]
  split
  · exact la
  · rename_i state
    exact la.monitorStarting state tr
  · rename_i state
    rw [monitorRunning, tr.alive1, la.known.isAlive, if_pos (decide_eq_true (la.running state).1)]
    exact la
  · rename_i state
    rw [monitorFailed]
    split
    · exact ((Loose.failed la.wf la.known state).scheduleRetry os).lawful
    · exact la
  · exact la

/-- `service_sigchld_cb` once the child is reaped and forgotten. -/
lemma Lawful.sigchldFailed (wf : w.priv.Wf) (known : Known w) (os : Os) :
    Lawful (sigchldFailed w os) := by
  have ck := (ChildKept.setState (w := w) .failed).trans (.recordFailure os.failTime)
  have failed : Loose ((w.setState .failed).recordFailure os.failTime) :=
    .failed wf (known.kept ck) rfl
  simp only [Service.sigchldFailed]
  split
  · split
    · exact ((failed.kept .charge failed.wf rfl).scheduleRetry os).lawful
    · exact failed.lawful
  · rename_i down
    exact .idle wf known down

/-- `service_sigchld_cb` clears what it has reaped. -/
lemma Lawful.sigchld (la : Lawful w) (os : Os) : Lawful (serviceSigchldCb w os) := by
  rw [serviceSigchldCb]
  split
  · rename_i pos
    split
    · exact ⟨la.wf, la.known.wait pos, la.running, la.starting⟩
    · have aimed := la.known.aimed.waitpidNohang pos os.alive1.dies
      have aside := Aside.waitpidNohang w w.ctx.childPid os.alive1.dies
      have ctx := waitpidNohang_ctx w w.ctx.childPid os.alive1.dies
      split
      · rename_i heq
        rw [heq] at aimed aside
        have cleared := (Known.clearChild aimed).kept ((ChildKept.setHealthy false).trans .unlinkPid)
        refine .sigchldFailed ?_ cleared os
        exact (NoRetryAdded.aside aside).wf la.wf
      · rename_i unreaped heq
        rw [heq] at aside ctx
        have known := la.known.waitpidNohang pos heq unreaped
        exact ⟨aside.priv ▸ la.wf, known, by rw [ctx, aside.priv]; exact la.running,
          by rw [ctx, aside.priv]; exact la.starting⟩
  · exact la

/-- The retry callback, of a timer that is live. -/
lemma Lawful.delayedSpawn (la : Lawful w) (tracked : Tracked w)
    (live : ∃ x ∈ w.priv.live, x.callback = some .delayedSpawn) (tr : os.Truthful) :
    Lawful (serviceDelayedSpawnCb w os) := by
  have pending : ¬w.priv.Only .delayedSpawn none := by
    obtain ⟨x, hx, hcb⟩ := live
    exact fun on => absurd (on x hx hcb) (by simp)
  have loose : Loose w := ⟨la.wf, la.known, fun up => pending (la.running up).2,
    fun up => (la.starting up).resolve_right pending⟩
  rw [serviceDelayedSpawnCb]
  split
  · exact la
  · dsimp only
    split
    · have allowed : Loose (w.cancelRetry.afterAllow os.allowTime) :=
        loose.cancelRetry.kept .afterAllow ((NoRetryAdded.aside .afterAllow).wf loose.cancelRetry.wf)
          Aside.afterAllow.state
      have only : (w.cancelRetry.afterAllow os.allowTime).priv.Only .delayedSpawn none :=
        (NoRetryAdded.aside .afterAllow).only loose.cancelRetry.wf tracked.cancelRetry_none
      obtain ⟨known, gone⟩ := allowed.known.spawn tr
      have aside := Aside.spawn (w.cancelRetry.afterAllow os.allowTime) os
      have priv := aside.priv
      have state := aside.state
      rw [delayedSpawnAttempt]
      split
      · rename_i w1 heq
        rw [heq] at known priv
        have nr := NoRetryAdded.addCtxTimer (w := w1.setState .starting) os 100 0
          (by simp : Callback.monitor ≠ .delayedSpawn)
        refine .unretried (nr.wf (priv ▸ allowed.wf)) ?_ (nr.only (priv ▸ allowed.wf) (priv ▸ only)) ?_
        · exact known.kept ((ChildKept.setState _).trans (.addCtxTimer os 100 0 .monitor))
        · rw [addCtxTimer_ctx]
          simp [World.setState]
      · rename_i heq
        rw [heq] at known gone priv state
        have failed : Loose _ := ⟨priv ▸ allowed.wf, known, by rw [state]; exact allowed.idle,
          fun up => gone rfl (allowed.gone (state ▸ up))⟩
        exact (failed.chargeAndRetry os).lawful
    · exact (loose.cancelRetry.scheduleRetry os).lawful

/-! ## Stopping -/

/-- `service_stop_sync` clears the child, and its retry timer. -/
lemma Lawful.stopSync (la : Lawful w) (tracked : Tracked w) (os : Os) :
    Lawful (serviceStopSync w os).1 := by
  have wf := (tracked.stopSync os).wf
  have detached := la.known.kept ((ChildKept.setState .stopping).trans .detach)
  have cleared := (Known.clearChild (detached.aimed.stopChild os)).kept
    ((ChildKept.setHealthy false).trans (.setState .stopped) |>.trans .unlinkPid
      |>.trans (.note (o := .stopReturned) rfl))
  rw [stopSync_eq] at wf ⊢
  exact .idle wf cleared (by simp)

/-- `service_stop_async` leaves the child named until it is gone. -/
lemma Lawful.stopAsync (la : Lawful w) (inv : StopInv w) (d : Bool) (os : Os) :
    Lawful (serviceStopAsync w d os).1 := by
  have killed := inv.beginStop.1.aside .terminate
  have down : w.beginStop.terminate.ctx.state = .stopping :=
    Aside.terminate.state.trans inv.beginStop.2
  have known : Known w.beginStop.terminate := by
    have begun := la.known.kept .beginStop
    rw [World.terminate]
    split
    · rename_i pos
      exact begun.kill pos
    · exact begun
  have stopping : Lawful w.beginStop.terminate := .idle killed.tracked.wf known (by simp [down])
  simp only [serviceStopAsync]
  split
  · exact stopping
  · split
    · have quiet := killed.tracked.stopAsyncWait down d os
      exact .idle quiet.wf (known.kept (.stopAsyncWait _ d os)) quiet.not_up
    · have quiet := (killed.tracked.stopSync os).done (d := d)
      exact .idle quiet.wf ((stopping.stopSync killed.tracked os).known.kept .done) quiet.not_up

/-- The end of the stop clears it. -/
lemma Lawful.stopWaitDone (wf : w.priv.Wf) (ai : Aimed w) (s : StopState) :
    Lawful (stopWaitDone w s) := by
  have cleared : Known (Service.stopWaitDone w s) := (Known.clearChild ai).kept
    ((ChildKept.setState .stopped).trans (.setHealthy false) |>.trans .unlinkPid |>.trans .done)
  refine .idle ?_ cleared ?_
  · rw [Service.stopWaitDone, World.done]
    split
    · exact wf
    · exact wf
  · rw [Service.stopWaitDone, World.done]
    split <;> simp

/-- A tick of the wait, by whether the child is gone. -/
lemma Lawful.stopWait (la : Lawful w) (inv : StopInv w) (s : StopState) (tr : os.Truthful) :
    Lawful (serviceStopWaitCb w s os) := by
  rw [serviceStopWaitCb, tr.alive1, la.known.isAlive]
  split
  · rename_i alive
    have pos := of_decide_eq_true alive
    dsimp only
    split
    · have killed : NoRetryAdded w ((w.kill w.ctx.childPid).waitpid w.ctx.childPid) :=
        .aside (.trans .kill .waitpid)
      exact .stopWaitDone (killed.wf la.wf) ((la.known.aimed.kill pos).waitpid pos) _
    · have added : Lawful
          (w.addTimer os 100 0 (.stopWait { s with attempts := s.attempts + 1 })).1 :=
        la.timers (.addTimer os _ _ _) (.addTimer os _ _ (by simp)) rfl
      split
      · exact added.stopSync (inv.addTimer (by simp)).tracked os
      · exact added
  · exact .stopWaitDone la.wf la.known.aimed s

/-! ## Events -/

/-- `service_start_async` with a new child: the service is STARTING, and no retry is pending. -/
lemma Lawful.started {time : Int} {timeMs : Nat} (wf : w.priv.Wf) (known : Known w)
    (only : w.priv.Only .delayedSpawn none) :
    Lawful ((((w.setState .starting).setStart time timeMs).resetCharges).resetBackoff) := by
  have ck := (ChildKept.setState (w := w) .starting).trans (.setStart time timeMs)
    |>.trans .resetCharges |>.trans .resetBackoff
  have up : NoRetryAdded w (w.setState .starting) := .same rfl
  have set := (Aside.setStart (w := w.setState .starting) time timeMs).trans .resetCharges
    |>.trans .resetBackoff
  have nr := up.trans (.aside set)
  exact .unretried (nr.wf wf) (known.kept ck) (nr.only wf only) (by rw [set.state]; simp)

/-- The only start of a run comes when the service is quiet. -/
lemma Lawful.start (la : Lawful w) (qu : Quiet w) (tr : os.Truthful) :
    Lawful (serviceStartAsync w os).1 := by
  have called : Lawful (w.note .startCalled) := la.timers (.note rfl) (.same rfl) rfl
  have nr : NoRetryAdded (w.note .startCalled) ((w.note .startCalled).afterAllow os.allowTime) :=
    .aside .afterAllow
  have known : Known ((w.note .startCalled).afterAllow os.allowTime) := called.known.kept .afterAllow
  have wf := nr.wf qu.wf
  have only := nr.only qu.wf qu.none
  simp only [serviceStartAsync]
  split
  · exact called
  · split
    · split
      · exact .unretried wf (known.kept (.setState _)) only (by simp)
      · obtain ⟨spawned, -⟩ := known.spawn tr
        have priv : (serviceSpawn _ os).1.priv = ((w.note .startCalled).afterAllow os.allowTime).priv :=
          (Aside.spawn ((w.note .startCalled).afterAllow os.allowTime) os).priv
        have spawnedWf := priv.symm ▸ wf
        have spawnedOnly := priv.symm ▸ only
        rw [startSpawn]
        split
        · split
          · rename_i w1 heq
            rw [heq] at spawned spawnedWf spawnedOnly
            exact .started spawnedWf spawned spawnedOnly
          · rename_i w1 heq
            rw [heq] at spawned spawnedWf
            have ck := (ChildKept.setState (w := w1) .failed).trans (.recordFailure os.failTime)
            exact .idle spawnedWf (spawned.kept ck) (by simp)
        · exact .idle wf (known.kept (.setState _)) (by simp)
    · exact called

/-- A retry fires only while its timer is live, and then there is no child. -/
lemma Lawful.dispatch {cb : Callback} (la : Lawful w) (inv : StopInv w) (tr : os.Truthful)
    (live : cb = .delayedSpawn → ∃ x ∈ w.priv.live, x.callback = some .delayedSpawn) :
    Lawful (dispatch w os cb) := by
  cases cb with
  | monitor => exact la.monitor tr
  | delayedSpawn => exact la.delayedSpawn inv.tracked (live rfl) tr
  | healthCheck =>
    have aside := Aside.health w os
    exact la.timers (.health w os) (.aside aside) aside.state
  | stopWait s => exact la.stopWait inv s tr

/-- The timer that fires is a live one. -/
lemma Lawful.fire {t : Timer Callback} (la : Lawful w) (inv : StopInv w) (ht : t ∈ w.priv.timers)
    (nowMs : Nat) (tr : os.Truthful) : Lawful (w.fire t nowMs os) := by
  have wf : { w.priv with currentTimeMs := nowMs : Priv Callback }.Wf :=
    ⟨la.wf.nodup, la.wf.fresh, la.wf.runningFresh, la.wf.unlinked⟩
  have fewer : ∀ {w : World} {r : Priv Callback}, Lawful w → r.Wf →
      (∀ x ∈ r.live, x ∈ w.priv.live) → Lawful { w with priv := r } := by
    intro w r la wf sub
    exact la.timers { ChildKept.refl (w := w) with } ⟨fun _ => wf, fun _ on => on.mono sub⟩ rfl
  rw [World.fire]
  split
  · exact fewer la wf.remove fun x hx => live_of_freeTimer hx
  · rename_i mark
    have begun : Lawful (w.beginTimer t nowMs) :=
      fewer la (wf.begin ht) fun x hx => live_of_beginTimer ht hx
    have inv : StopInv (w.beginTimer t nowMs) :=
      inv.mono (wf.begin ht) fun x hx => live_of_beginTimer ht hx
    have ran : Lawful ((w.beginTimer t nowMs).runTimer t os) := by
      rw [World.runTimer]
      split
      · rename_i cb hcb
        split
        · refine begun.dispatch inv tr fun hd => ⟨t.toPublic, mem_live.mpr ?_, hcb.trans (hd ▸ rfl)⟩
          exact ⟨t, .inl rfl, by simpa using mark, rfl⟩
        · exact begun
      · exact begun
    exact fewer ran ran.wf.endTimer fun x hx => live_of_endTimer hx

/-- Every event but a start keeps the invariant. -/
lemma Lawful.step {e : Event} (la : Lawful w) (inv : StopInv w) (tr : ∀ os ∈ e.outcomes, os.Truthful)
    (other : e.isStart = false) (st : Service.step w e = some w') : Lawful w' := by
  cases e with
  | setReactor os =>
    cases st
    exact la.timers (.serviceSetReactor w os) (.serviceSetReactor w os)
      (by simp [serviceSetReactor, World.setMonitor, World.cancelMonitor, World.setReactor])
  | start os => simp [Event.isStart] at other
  | monitor os => cases st; exact la.monitor (tr os rfl)
  | timer id nowMs os =>
    obtain ⟨t, due, rfl⟩ := Option.map_eq_some_iff.mp st
    exact la.fire inv (World.due_mem due) nowMs (tr os rfl)
  | sigchld os => cases st; exact la.sigchld os
  | health os =>
    cases st
    have aside := Aside.health w os
    exact la.timers (.health w os) (.aside aside) aside.state
  | exit pid =>
    cases st
    have aside : Aside w (w.exit pid) := .exit
    exact ⟨aside.priv ▸ la.wf, la.known.exit, by rw [aside.priv, exit_ctx]; exact la.running,
      by rw [aside.priv, exit_ctx]; exact la.starting⟩
  | stopAsync d os => cases st; exact la.stopAsync inv d os
  | stopSync os => cases st; exact la.stopSync inv.tracked os
  | applyConfig cfg os =>
    cases st
    refine la.timers (.applyConfig w cfg os) (.applyConfig w cfg os) ?_
    simp only [serviceApplyConfig]
    split
    · split
      · simp
      · simp [World.setHealth, World.applyFields]
    · rfl

/-- A run with at most one start, from a service that is quiet. -/
lemma Lawful.run {es : List Event} (la : Lawful w) (qu : Quiet w)
    (tr : ∀ e ∈ es, ∀ os ∈ e.outcomes, os.Truthful) (once : es.countP Event.isStart ≤ 1)
    (rn : run Service.step w es = some w') : Lawful w' := by
  induction es generalizing w with
  | nil =>
    cases rn
    exact la
  | cons e es ih =>
    obtain ⟨w1, st, rn1⟩ := run_cons.mp rn
    have trs : ∀ e ∈ es, ∀ os ∈ e.outcomes, os.Truthful := fun e he => tr e (by simp [he])
    cases hs : e.isStart with
    | false =>
      have qu1 : Quiet w1 := qu.step (fun os h => by simp [h, Event.isStart] at hs) st
      exact ih (la.step (.inr qu) (tr e (by simp)) hs st) qu1 trs (by simpa [hs] using once) rn1
    | true =>
      -- the start: from here on there is none
      cases e with
      | start os =>
        have none : es.countP Event.isStart = 0 := by simpa [hs] using once
        have started : StopInv w1 ∧ Lawful w1 := by
          refine ⟨StopInv.step (.inr qu) st, ?_⟩
          cases st
          exact la.start qu (tr (.start os) (by simp) os rfl)
        have kept := run_preserves_along (I := fun w => StopInv w ∧ Lawful w)
          (P := fun _ e => (∀ os ∈ e.outcomes, os.Truthful) ∧ e.isStart = false)
          (fun w e w' inv pe st => ⟨inv.1.step st, inv.2.step inv.1 pe.1 pe.2 st⟩) started
          (Along.of_forall fun _ e he => ⟨trs e he, by
            simpa using List.countP_eq_zero.mp none e he⟩) rn1
        exact kept.2
      | _ => simp [Event.isStart] at hs

/-- A context from `service_init` has no timers. -/
lemma World.init_quiet (ctx : ServiceCtx) (pidFile : Option Int) (nowMs : Nat)
    (state : ctx.state = .stopped) : Quiet (World.init ctx pidFile nowMs) :=
  ⟨⟨reactorCreate_wf, reactorCreate_only, trivial⟩, reactorCreate_only, .inl state⟩

/-- Child identity: in every run with at most one start, on a system that tells the start time of
every unreaped child, the fields of the child are cleared together, a RUNNING service has a child
that was validated, and neither `kill` nor `waitpid` is called with a pid that is not positive. -/
theorem child_identity (cfg : AtpConfig) (alloc : Bool) (ctx : ServiceCtx) (pidFile : Option Int)
    (nowMs : Nat) (es : List Event) (init : serviceInit cfg alloc = some ctx)
    (tr : ∀ e ∈ es, ∀ os ∈ e.outcomes, os.Truthful) (once : es.countP Event.isStart ≤ 1)
    (rn : run Service.step (World.init ctx pidFile nowMs) es = some w) : Identity w := by
  obtain ⟨baseDir, binPath, confPath, logPath, pidPath, rfl⟩ := serviceInit_eq init
  have quiet := World.init_quiet (initCtx cfg baseDir binPath confPath logPath pidPath) pidFile
    nowMs rfl
  have known : Known (World.init (initCtx cfg baseDir binPath confPath logPath pidPath) pidFile
      nowMs) := ⟨.inl ⟨rfl, rfl, rfl⟩, by simp [Aimed, World.init, called]⟩
  exact (Lawful.run (.idle quiet.wf known quiet.not_up) quiet tr once rn).identity

/-- The API answers, and the service is RUNNING. -/
def startToRunning : List Event :=
  [.setReactor (.calm 1000 100), .start (.calm 1000 100),
    .timer 0 1100 { Os.calm 1100 100 with apiStatus := true }]

/-- From the start to RUNNING the pid is the one of the child. -/
theorem child_identity_startToRunning :
    ∃ w, run Service.step (World.init defaultCtx none 1000) startToRunning = some w ∧
      w.ctx.state = .running ∧ w.ctx.childPid = 100 ∧ Identity w :=
  ⟨_, rfl, rfl, rfl, child_identity (configSetDefaults "/data/adb/atp".toList false) true defaultCtx
    none 1000 startToRunning (by decide) (by decide) (by decide) rfl⟩

end Atpd.Service
