import Atpd.Service.Ops

/-!
# What the operations leave alone

The timer operations change the timers only. The functions of the supervisor that deal with the
child process, the counters and the breaker change neither a timer, nor the state, nor a setting.
`Aside` says so, and each of these functions goes aside; what an invariant says about timers and
states then needs no further argument for them.
-/

namespace Atpd.Service

variable {w w' w1 w2 : World} {os : Os} {pid : Int}

/-! ## Timer operations -/

/-- A cancel changes the timers only. -/
lemma cancelCtxTimer_eq (w : World) (h : Option Nat) :
    w.cancelCtxTimer h = { w with priv := (w.cancelCtxTimer h).priv } := by
  cases h with
  | none => rfl
  | some id =>
    simp only [World.cancelCtxTimer]
    split <;> rfl

@[simp] lemma cancelCtxTimer_ctx {h : Option Nat} : (w.cancelCtxTimer h).ctx = w.ctx := by
  rw [cancelCtxTimer_eq]

@[simp] lemma cancelCtxTimer_procs {h : Option Nat} : (w.cancelCtxTimer h).procs = w.procs := by
  rw [cancelCtxTimer_eq]

@[simp] lemma cancelCtxTimer_log {h : Option Nat} : (w.cancelCtxTimer h).log = w.log := by
  rw [cancelCtxTimer_eq]

/-- A new timer changes the timers only. -/
lemma addCtxTimer_eq (w : World) (os : Os) (timeout interval : Nat) (cb : Callback) :
    (w.addCtxTimer os timeout interval cb).1 =
      { w with priv := (w.addCtxTimer os timeout interval cb).1.priv } := by
  simp only [World.addCtxTimer]
  split <;> rfl

@[simp] lemma addCtxTimer_ctx {timeout interval : Nat} {cb : Callback} :
    (w.addCtxTimer os timeout interval cb).1.ctx = w.ctx := by
  rw [addCtxTimer_eq]

@[simp] lemma addCtxTimer_procs {timeout interval : Nat} {cb : Callback} :
    (w.addCtxTimer os timeout interval cb).1.procs = w.procs := by
  rw [addCtxTimer_eq]

@[simp] lemma addCtxTimer_log {timeout interval : Nat} {cb : Callback} :
    (w.addCtxTimer os timeout interval cb).1.log = w.log := by
  rw [addCtxTimer_eq]

@[simp] lemma cancelRetry_log : w.cancelRetry.log = w.log := cancelCtxTimer_log

@[simp] lemma cancelHealth_log : w.cancelHealth.log = w.log := cancelCtxTimer_log

@[simp] lemma cancelMonitor_log : w.cancelMonitor.log = w.log := cancelCtxTimer_log

/-! ## Child operations -/

@[simp] lemma note_ctx {o : Obs} : (w.note o).ctx = w.ctx := rfl

@[simp] lemma unlinkPid_ctx : (serviceUnlinkPid w).ctx = w.ctx := rfl

@[simp] lemma setState_state {s : ServiceState} : (w.setState s).ctx.state = s := rfl

@[simp] lemma setHealthy_state {b : Bool} : (w.setHealthy b).ctx.state = w.ctx.state := rfl

@[simp] lemma resetCharges_state : w.resetCharges.ctx.state = w.ctx.state := rfl

@[simp] lemma recordFailure_state {t : Int} : (w.recordFailure t).ctx.state = w.ctx.state := rfl

@[simp] lemma charge_state : w.charge.ctx.state = w.ctx.state := rfl

@[simp] lemma exit_ctx : (w.exit pid).ctx = w.ctx := by
  rw [World.exit]
  split
  · split <;> rfl
  · rfl

@[simp] lemma mayExit_ctx {dies : Bool} : (w.mayExit pid dies).ctx = w.ctx := by
  rw [World.mayExit]
  split
  · exact exit_ctx
  · rfl

@[simp] lemma reap_ctx : (w.reap pid).ctx = w.ctx := by
  rw [World.reap]
  split <;> rfl

@[simp] lemma waitpid_ctx : (w.waitpid pid).ctx = w.ctx := by
  simp [World.waitpid, World.note]

@[simp] lemma waitpidNohang_ctx (w : World) (pid : Int) (dies : Bool) :
    (waitpidNohang w pid dies).1.ctx = w.ctx := by
  simp only [waitpidNohang]
  split
  · split
    · rw [reap_ctx, mayExit_ctx]
      rfl
    · exact mayExit_ctx
  · exact mayExit_ctx

/-- What `exit` does to the children, found by their pid. -/
lemma find_exit (l : List Proc) (pid q : Int) :
    (l.map fun r => if r.pid = pid then { r with exited := true } else r).find? (·.pid == q) =
      (l.find? (·.pid == q)).map fun r => if r.pid = pid then { r with exited := true } else r := by
  rw [List.find?_map]
  congr 2
  funext r
  simp only [Function.comp]
  split <;> rfl

lemma proc_exit (w : World) (pid : Int) :
    (w.exit pid).proc pid = (w.proc pid).map (fun p => { p with exited := true }) := by
  cases hp : w.proc pid with
  | none => simp [World.exit, hp]
  | some p =>
    have id : p.pid = pid := by simpa using List.find?_some hp
    cases hx : p.exited with
    | true =>
      simp only [World.exit, hp, hx, ↓reduceIte, Option.map_some]
      cases p
      simp_all
    | false =>
      simp only [World.exit, hp, hx, Bool.false_eq_true, ↓reduceIte]
      rw [World.proc] at hp ⊢
      rw [find_exit, hp]
      simp [id]

lemma proc_exit_ne {q : Int} (ne : q ≠ pid) : (w.exit pid).proc q = w.proc q := by
  rw [World.exit]
  split
  · split
    · rfl
    · simp only [World.proc]
      rw [find_exit]
      cases hq : w.procs.find? (·.pid == q) with
      | none => rfl
      | some r =>
        have id : r.pid = q := by simpa using List.find?_some hq
        simp [id, ne]
  · rfl

/-! ## The child -/

/-- The observations that dealing with a child leaves. -/
def Obs.isChild : Obs → Bool
  | .forked _ | .spawnFailed | .exited _ | .reaped _ | .startTimeout _ | .signalled _ | .waited _ => true
  | _ => false

/-- From `w` to `w'` only the child has changed: its fields of the context, the processes, the PID
file, and the history of the child. -/
structure ChildOnly (w w' : World) : Prop where
  state : w'.ctx.state = w.ctx.state
  reactor : w'.ctx.reactor = w.ctx.reactor
  monitorTimer : w'.ctx.monitorTimer = w.ctx.monitorTimer
  retryTimer : w'.ctx.retryTimer = w.ctx.retryTimer
  healthTimer : w'.ctx.healthTimer = w.ctx.healthTimer
  maxFailures : w'.ctx.maxFailures = w.ctx.maxFailures
  startTimeoutSec : w'.ctx.startTimeoutSec = w.ctx.startTimeoutSec
  stopTimeoutSec : w'.ctx.stopTimeoutSec = w.ctx.stopTimeoutSec
  interval : w'.ctx.healthCheckIntervalMs = w.ctx.healthCheckIntervalMs
  failCount : w'.ctx.failCount = w.ctx.failCount
  backoff : w'.ctx.backoff = w.ctx.backoff
  breaker : w'.ctx.breaker = w.ctx.breaker
  priv : w'.priv = w.priv
  log : ∃ l, w'.log = l ++ w.log ∧ ∀ o ∈ l, o.isChild = true

namespace ChildOnly

lemma refl : ChildOnly w w :=
  ⟨rfl, rfl, rfl, rfl, rfl, rfl, rfl, rfl, rfl, rfl, rfl, rfl, rfl, [], rfl, by simp⟩

lemma trans (h1 : ChildOnly w w1) (h2 : ChildOnly w1 w2) : ChildOnly w w2 where
  state := h2.state.trans h1.state
  reactor := h2.reactor.trans h1.reactor
  monitorTimer := h2.monitorTimer.trans h1.monitorTimer
  retryTimer := h2.retryTimer.trans h1.retryTimer
  healthTimer := h2.healthTimer.trans h1.healthTimer
  maxFailures := h2.maxFailures.trans h1.maxFailures
  startTimeoutSec := h2.startTimeoutSec.trans h1.startTimeoutSec
  stopTimeoutSec := h2.stopTimeoutSec.trans h1.stopTimeoutSec
  interval := h2.interval.trans h1.interval
  failCount := h2.failCount.trans h1.failCount
  backoff := h2.backoff.trans h1.backoff
  breaker := h2.breaker.trans h1.breaker
  priv := h2.priv.trans h1.priv
  log := by
    obtain ⟨l1, hl1, hm1⟩ := h1.log
    obtain ⟨l2, hl2, hm2⟩ := h2.log
    refine ⟨l2 ++ l1, by rw [hl2, hl1, List.append_assoc], fun o ho => ?_⟩
    rcases List.mem_append.mp ho with ho | ho
    · exact hm2 o ho
    · exact hm1 o ho

lemma note {o : Obs} (ho : o.isChild = true) : ChildOnly w (w.note o) :=
  { refl (w := w) with log := ⟨[o], rfl, by simpa using ho⟩ }

lemma unlinkPid : ChildOnly w (serviceUnlinkPid w) := { refl (w := w) with }

lemma clearChild : ChildOnly w w.clearChild := { refl (w := w) with }

lemma setChildPid {pid : Int} : ChildOnly w (w.setChildPid pid) := { refl (w := w) with }

lemma setTicks {ticks : Nat} : ChildOnly w (w.setTicks ticks) := { refl (w := w) with }

lemma setValidated : ChildOnly w w.setValidated := { refl (w := w) with }

lemma setStart (time : Int) (timeMs : Nat) : ChildOnly w (w.setStart time timeMs) :=
  { refl (w := w) with }

lemma setHealthy (healthy : Bool) : ChildOnly w (w.setHealthy healthy) := { refl (w := w) with }

lemma setLastHealthCheck (time : Int) : ChildOnly w (w.setLastHealthCheck time) :=
  { refl (w := w) with }

lemma exit : ChildOnly w (w.exit pid) := by
  rw [World.exit]
  split
  · split
    · exact refl
    · exact { refl (w := w) with log := ⟨[.exited pid], rfl, by simp [Obs.isChild]⟩ }
  · exact refl

lemma reap : ChildOnly w (w.reap pid) := by
  rw [World.reap]
  split
  · exact { refl (w := w) with log := ⟨[.reaped pid], rfl, by simp [Obs.isChild]⟩ }
  · exact refl

lemma kill : ChildOnly w (w.kill pid) := note rfl

lemma waitpid : ChildOnly w (w.waitpid pid) := ((note rfl).trans exit).trans reap

lemma waitpidNohang (w : World) (pid : Int) (dies : Bool) :
    ChildOnly w (waitpidNohang w pid dies).1 := by
  have before : ChildOnly w ((w.note (.waited pid)).mayExit pid dies) := by
    rw [World.mayExit]
    split
    · exact (note rfl).trans exit
    · exact note rfl
  simp only [Service.waitpidNohang]
  split
  · split
    · exact before.trans reap
    · exact before
  · exact before

lemma startingChildAlive (w : World) (a : Alive) :
    ChildOnly w (serviceStartingChildAlive w a).1 := by
  rw [serviceStartingChildAlive]
  split
  · have wait := waitpidNohang w w.ctx.childPid a.dies
    split
    · rename_i heq
      simpa [heq] using wait
    · rename_i heq
      rw [heq] at wait
      exact (wait.trans clearChild).trans unlinkPid
  · exact refl

lemma probeNativeApi (w : World) (os : Os) : ChildOnly w (serviceProbeNativeApi w os).1 := by
  have alive := startingChildAlive w os.alive2
  rw [serviceProbeNativeApi]
  split
  · rename_i heq
    simpa [heq] using alive
  · rename_i heq
    rw [heq] at alive
    split
    · exact alive.trans (startingChildAlive _ _)
    · exact alive

lemma validate (w : World) (os : Os) : ChildOnly w (monitorValidate w os) := by
  rw [monitorValidate]
  split
  · exact refl
  · split
    · exact setValidated
    · exact (kill.trans waitpid).trans setChildPid

lemma terminate : ChildOnly w w.terminate := by
  rw [World.terminate]
  split
  · exact kill
  · exact refl

lemma killTimedOut : ChildOnly w w.killTimedOut := by
  rw [World.killTimedOut]
  split
  · exact kill.trans (note rfl)
  · exact refl

lemma killNew : ChildOnly w (w.killNew os) := by
  simp only [World.killNew]
  split
  · exact kill.trans (note rfl)
  · exact kill.trans waitpid

lemma spawnParent (w : World) (os : Os) : ChildOnly w (serviceSpawnParent w os).1 := by
  have filled : ChildOnly w
      (((w.setTicks os.forkStart).setValidated).setStart os.wallTime os.spawnMs) :=
    (setTicks.trans setValidated).trans (setStart _ _)
  simp only [serviceSpawnParent]
  split
  · split
    · exact { filled with }
    · exact ((filled.trans killNew).trans unlinkPid).trans clearChild
  · exact killNew.trans setChildPid

/-- `service_spawn`, behind the record that it was called. -/
lemma spawn (w : World) (os : Os) : ChildOnly (w.note .spawn) (serviceSpawn w os).1 := by
  simp only [serviceSpawn]
  split
  · have fork : ChildOnly (w.note .spawn) ((w.note .spawn).fork os) :=
      { refl (w := w.note .spawn) with
        log := ⟨[.forked os.forkPid], rfl, by simp [Obs.isChild]⟩ }
    have parent := fork.trans (spawnParent _ os)
    split
    · rename_i heq
      simpa [heq] using parent
    · rename_i heq
      rw [heq] at parent
      exact parent.trans (note rfl)
  · exact note rfl

/-- The loop of `service_stop_sync`: by induction on the attempts left. -/
lemma stopPoll (pid : Int) (attempts : Nat) (waits : List Wait) (w : World) :
    ChildOnly w (stopPoll pid attempts waits w).1 := by
  induction attempts generalizing waits w with
  | zero => exact refl
  | succ attempts ih =>
    rw [Service.stopPoll]
    split
    · exact note rfl
    · exact (note rfl).trans (ih _ _)
    · have wait := waitpidNohang w pid (waits.headD .quiet = .dies)
      split
      · rename_i heq
        rw [heq] at wait
        exact wait.trans (ih _ _)
      · rename_i heq
        rw [heq] at wait
        exact wait

lemma stopChild (w : World) (os : Os) : ChildOnly w (stopChild w os).1 := by
  simp only [Service.stopChild]
  split
  · have poll := kill.trans (stopPoll w.ctx.childPid
      (if 0 < w.ctx.stopTimeoutSec then (w.ctx.stopTimeoutSec * 10).toNat else 10) os.waits
      (w.kill w.ctx.childPid))
    split
    · rename_i heq
      simpa [heq] using poll
    · rename_i heq
      rw [heq] at poll
      exact (poll.trans kill).trans waitpid
  · exact refl

end ChildOnly

/-! ## Everything else -/

/-- The observations that a start, a stop or a spawn leaves. -/
def Obs.isMark : Obs → Bool
  | .spawn | .startCalled | .stopReturned => true
  | _ => false

/-- From `w` to `w'` neither the state of the service nor its timers nor its settings change, and
no mark is left. -/
structure Aside (w w' : World) : Prop where
  state : w'.ctx.state = w.ctx.state
  reactor : w'.ctx.reactor = w.ctx.reactor
  monitorTimer : w'.ctx.monitorTimer = w.ctx.monitorTimer
  retryTimer : w'.ctx.retryTimer = w.ctx.retryTimer
  healthTimer : w'.ctx.healthTimer = w.ctx.healthTimer
  maxFailures : w'.ctx.maxFailures = w.ctx.maxFailures
  startTimeoutSec : w'.ctx.startTimeoutSec = w.ctx.startTimeoutSec
  stopTimeoutSec : w'.ctx.stopTimeoutSec = w.ctx.stopTimeoutSec
  interval : w'.ctx.healthCheckIntervalMs = w.ctx.healthCheckIntervalMs
  priv : w'.priv = w.priv
  log : ∃ l, w'.log = l ++ w.log ∧ ∀ o ∈ l, o.isMark = false

lemma Obs.not_isMark {o : Obs} (ho : o.isChild = true) : o.isMark = false := by
  cases o <;> first | rfl | simp [Obs.isChild] at ho

/-- What changes the child only goes aside. -/
lemma ChildOnly.aside (co : ChildOnly w w') : Aside w w' where
  state := co.state
  reactor := co.reactor
  monitorTimer := co.monitorTimer
  retryTimer := co.retryTimer
  healthTimer := co.healthTimer
  maxFailures := co.maxFailures
  startTimeoutSec := co.startTimeoutSec
  stopTimeoutSec := co.stopTimeoutSec
  interval := co.interval
  priv := co.priv
  log := by
    obtain ⟨l, hl, child⟩ := co.log
    exact ⟨l, hl, fun o ho => Obs.not_isMark (child o ho)⟩

namespace Aside

lemma refl : Aside w w := ChildOnly.refl.aside

lemma trans (h1 : Aside w w1) (h2 : Aside w1 w2) : Aside w w2 where
  state := h2.state.trans h1.state
  reactor := h2.reactor.trans h1.reactor
  monitorTimer := h2.monitorTimer.trans h1.monitorTimer
  retryTimer := h2.retryTimer.trans h1.retryTimer
  healthTimer := h2.healthTimer.trans h1.healthTimer
  maxFailures := h2.maxFailures.trans h1.maxFailures
  startTimeoutSec := h2.startTimeoutSec.trans h1.startTimeoutSec
  stopTimeoutSec := h2.stopTimeoutSec.trans h1.stopTimeoutSec
  interval := h2.interval.trans h1.interval
  priv := h2.priv.trans h1.priv
  log := by
    obtain ⟨l1, hl1, hm1⟩ := h1.log
    obtain ⟨l2, hl2, hm2⟩ := h2.log
    refine ⟨l2 ++ l1, by rw [hl2, hl1, List.append_assoc], fun o ho => ?_⟩
    rcases List.mem_append.mp ho with ho | ho
    · exact hm2 o ho
    · exact hm1 o ho

lemma note {o : Obs} (ho : o.isMark = false) : Aside w (w.note o) :=
  { refl (w := w) with log := ⟨[o], rfl, by simpa using ho⟩ }

/-! ### Fields -/

lemma unlinkPid : Aside w (serviceUnlinkPid w) := ChildOnly.unlinkPid.aside

lemma clearChild : Aside w w.clearChild := ChildOnly.clearChild.aside

lemma setStart (time : Int) (timeMs : Nat) : Aside w (w.setStart time timeMs) :=
  (ChildOnly.setStart time timeMs).aside

lemma setHealthy (healthy : Bool) : Aside w (w.setHealthy healthy) :=
  (ChildOnly.setHealthy healthy).aside

lemma setLastHealthCheck (time : Int) : Aside w (w.setLastHealthCheck time) :=
  (ChildOnly.setLastHealthCheck time).aside

lemma charge : Aside w w.charge :=
  { refl (w := w) with log := ⟨[.charged], rfl, by simp [Obs.isMark]⟩ }

lemma resetCharges : Aside w w.resetCharges :=
  { refl (w := w) with log := ⟨[.chargesReset], rfl, by simp [Obs.isMark]⟩ }

lemma recordFailure (time : Int) : Aside w (w.recordFailure time) :=
  { refl (w := w) with log := ⟨[.breakerFailure time], rfl, by simp [Obs.isMark]⟩ }

lemma recordSuccess : Aside w w.recordSuccess :=
  { refl (w := w) with log := ⟨[.breakerSuccess], rfl, by simp [Obs.isMark]⟩ }

lemma resetBackoff : Aside w w.resetBackoff :=
  { refl (w := w) with log := ⟨[.backoffReset], rfl, by simp [Obs.isMark]⟩ }

lemma nextBackoff : Aside w w.nextBackoff :=
  { refl (w := w) with
    log := ⟨[.retryScheduled w.ctx.backoff.currentDelayMs], rfl, by simp [Obs.isMark]⟩ }

lemma afterAllow {time : Int} : Aside w (w.afterAllow time) := by
  rw [World.afterAllow]
  split
  · exact { refl (w := w) with log := ⟨[.breakerCooldown time], rfl, by simp [Obs.isMark]⟩ }
  · exact refl

/-! ### The child -/

lemma exit : Aside w (w.exit pid) := ChildOnly.exit.aside

lemma kill : Aside w (w.kill pid) := ChildOnly.kill.aside

lemma waitpid : Aside w (w.waitpid pid) := ChildOnly.waitpid.aside

lemma waitpidNohang (w : World) (pid : Int) (dies : Bool) :
    Aside w (waitpidNohang w pid dies).1 :=
  (ChildOnly.waitpidNohang w pid dies).aside

lemma startingChildAlive (w : World) (a : Alive) : Aside w (serviceStartingChildAlive w a).1 :=
  (ChildOnly.startingChildAlive w a).aside

lemma probeNativeApi (w : World) (os : Os) : Aside w (serviceProbeNativeApi w os).1 :=
  (ChildOnly.probeNativeApi w os).aside

lemma validate (w : World) (os : Os) : Aside w (monitorValidate w os) :=
  (ChildOnly.validate w os).aside

lemma terminate : Aside w w.terminate := ChildOnly.terminate.aside

lemma killTimedOut : Aside w w.killTimedOut := ChildOnly.killTimedOut.aside

/-- `service_spawn`, behind the record that it was called. -/
lemma spawn (w : World) (os : Os) : Aside (w.note .spawn) (serviceSpawn w os).1 :=
  (ChildOnly.spawn w os).aside

lemma stopChild (w : World) (os : Os) : Aside w (stopChild w os).1 :=
  (ChildOnly.stopChild w os).aside

lemma health (w : World) (os : Os) : Aside w (serviceHealthCheckCb w os) := by
  have checked : ∀ {healthy : Bool},
      Aside w ((w.setHealthy healthy).setLastHealthCheck os.wallTime) :=
    (setHealthy _).trans (setLastHealthCheck _)
  simp only [serviceHealthCheckCb]
  split
  · split
    · split
      · exact checked.trans recordSuccess
      · exact checked.trans (recordFailure _)
    · exact setHealthy _
  · exact refl

end Aside

/-- What `service_stop_sync` writes once the child has ended. -/
lemma stopSync_eq (w : World) (os : Os) : (serviceStopSync w os).1 =
    (serviceUnlinkPid (((stopChild (w.setState .stopping).detach os).1.clearChild.setHealthy
      false).setState .stopped)).note .stopReturned := rfl

lemma stopSync_priv (w : World) (os : Os) :
    (serviceStopSync w os).1.priv = (w.setState .stopping).detach.priv := by
  rw [← (Aside.stopChild (w.setState .stopping).detach os).priv, stopSync_eq]
  generalize (stopChild (w.setState .stopping).detach os).1 = w1
  rfl

lemma stopSync_log (w : World) (os : Os) : (serviceStopSync w os).1.log =
    .stopReturned :: (stopChild (w.setState .stopping).detach os).1.log := by
  rw [stopSync_eq]
  generalize (stopChild (w.setState .stopping).detach os).1 = w1
  rfl

/-! ## What leaves the child alone -/

/-- From `w` to `w'` nothing has happened to the child: its fields, the processes and the history of
the child are the same. -/
structure ChildKept (w w' : World) : Prop where
  childPid : w'.ctx.childPid = w.ctx.childPid
  ticks : w'.ctx.childStarttimeTicks = w.ctx.childStarttimeTicks
  validated : w'.ctx.validatedPid = w.ctx.validatedPid
  procs : w'.procs = w.procs
  log : ∃ l, w'.log = l ++ w.log ∧ ∀ o ∈ l, o.isChild = false

namespace ChildKept

lemma refl : ChildKept w w := ⟨rfl, rfl, rfl, rfl, [], rfl, by simp⟩

lemma trans (h1 : ChildKept w w1) (h2 : ChildKept w1 w2) : ChildKept w w2 where
  childPid := h2.childPid.trans h1.childPid
  ticks := h2.ticks.trans h1.ticks
  validated := h2.validated.trans h1.validated
  procs := h2.procs.trans h1.procs
  log := by
    obtain ⟨l1, hl1, hm1⟩ := h1.log
    obtain ⟨l2, hl2, hm2⟩ := h2.log
    refine ⟨l2 ++ l1, by rw [hl2, hl1, List.append_assoc], fun o ho => ?_⟩
    rcases List.mem_append.mp ho with ho | ho
    · exact hm2 o ho
    · exact hm1 o ho

lemma note {o : Obs} (ho : o.isChild = false) : ChildKept w (w.note o) :=
  { refl (w := w) with log := ⟨[o], rfl, by simpa using ho⟩ }

/-! ### Fields -/

lemma setState (s : ServiceState) : ChildKept w (w.setState s) := { refl (w := w) with }

lemma setHealthy (healthy : Bool) : ChildKept w (w.setHealthy healthy) := { refl (w := w) with }

lemma setLastHealthCheck (time : Int) : ChildKept w (w.setLastHealthCheck time) :=
  { refl (w := w) with }

lemma setStart (time : Int) (timeMs : Nat) : ChildKept w (w.setStart time timeMs) :=
  { refl (w := w) with }

lemma setRetry (h : Option Nat) : ChildKept w (w.setRetry h) := { refl (w := w) with }

lemma setHealth (h : Option Nat) : ChildKept w (w.setHealth h) := { refl (w := w) with }

lemma setMonitor (h : Option Nat) : ChildKept w (w.setMonitor h) := { refl (w := w) with }

lemma setReactor (reactor : Bool) : ChildKept w (w.setReactor reactor) := { refl (w := w) with }

lemma unlinkPid : ChildKept w (serviceUnlinkPid w) := { refl (w := w) with }

lemma charge : ChildKept w w.charge :=
  { refl (w := w) with log := ⟨[.charged], rfl, by simp [Obs.isChild]⟩ }

lemma resetCharges : ChildKept w w.resetCharges :=
  { refl (w := w) with log := ⟨[.chargesReset], rfl, by simp [Obs.isChild]⟩ }

lemma recordFailure (time : Int) : ChildKept w (w.recordFailure time) :=
  { refl (w := w) with log := ⟨[.breakerFailure time], rfl, by simp [Obs.isChild]⟩ }

lemma recordSuccess : ChildKept w w.recordSuccess :=
  { refl (w := w) with log := ⟨[.breakerSuccess], rfl, by simp [Obs.isChild]⟩ }

lemma resetBackoff : ChildKept w w.resetBackoff :=
  { refl (w := w) with log := ⟨[.backoffReset], rfl, by simp [Obs.isChild]⟩ }

lemma nextBackoff : ChildKept w w.nextBackoff :=
  { refl (w := w) with
    log := ⟨[.retryScheduled w.ctx.backoff.currentDelayMs], rfl, by simp [Obs.isChild]⟩ }

lemma afterAllow {time : Int} : ChildKept w (w.afterAllow time) := by
  rw [World.afterAllow]
  split
  · exact { refl (w := w) with log := ⟨[.breakerCooldown time], rfl, by simp [Obs.isChild]⟩ }
  · exact refl

lemma applyFields (cfg : Config.AtpConfig) : ChildKept w (w.applyFields cfg) :=
  { refl (w := w) with }

lemma done {doneCb : Bool} : ChildKept w (w.done doneCb) := by
  rw [World.done]
  split
  · exact note rfl
  · exact refl

/-! ### Timers -/

lemma cancelCtxTimer (h : Option Nat) : ChildKept w (w.cancelCtxTimer h) := by
  rw [cancelCtxTimer_eq]
  exact { refl (w := w) with }

lemma addCtxTimer (os : Os) (timeout interval : Nat) (cb : Callback) :
    ChildKept w (w.addCtxTimer os timeout interval cb).1 := by
  rw [addCtxTimer_eq]
  exact { refl (w := w) with }

lemma addTimer (os : Os) (timeout interval : Nat) (cb : Callback) :
    ChildKept w (w.addTimer os timeout interval cb).1 := ⟨rfl, rfl, rfl, rfl, [], rfl, by simp⟩

lemma cancelRetry : ChildKept w w.cancelRetry := (cancelCtxTimer _).trans (setRetry none)

lemma cancelHealth : ChildKept w w.cancelHealth := (cancelCtxTimer _).trans (setHealth none)

lemma cancelMonitor : ChildKept w w.cancelMonitor := (cancelCtxTimer _).trans (setMonitor none)

lemma scheduleRetry (w : World) (os : Os) : ChildKept w (serviceScheduleRetry w os) := by
  have added := (nextBackoff (w := w)).trans cancelRetry
    |>.trans (addCtxTimer os w.ctx.backoff.currentDelayMs 0 .delayedSpawn)
  simp only [serviceScheduleRetry]
  split
  · exact (added.trans (setRetry _)).trans (setState _)
  · exact added.trans (setRetry _)

lemma monitorStartHealth (w : World) (os : Os) : ChildKept w (monitorStartHealth w os) := by
  have added := (cancelHealth (w := w)).trans (addCtxTimer os
    w.ctx.healthCheckIntervalMs.toNat w.ctx.healthCheckIntervalMs.toNat .healthCheck)
  simp only [Service.monitorStartHealth]
  split
  · split
    · exact (added.trans (setHealth _)).trans (setState _)
    · exact added.trans (setHealth _)
  · exact refl

lemma monitorReady (w : World) (os : Os) : ChildKept w (monitorReady w os) := by
  have ready := (setState (w := w) .running).trans (note (o := .enteredRunning) rfl)
    |>.trans resetCharges |>.trans (setHealthy true) |>.trans (setLastHealthCheck os.wallTime)
    |>.trans resetBackoff |>.trans recordSuccess
  exact ready.trans (monitorStartHealth _ os)

lemma health (w : World) (os : Os) : ChildKept w (serviceHealthCheckCb w os) := by
  have checked : ∀ {healthy : Bool},
      ChildKept w ((w.setHealthy healthy).setLastHealthCheck os.wallTime) :=
    (setHealthy _).trans (setLastHealthCheck _)
  simp only [serviceHealthCheckCb]
  split
  · split
    · split
      · exact checked.trans recordSuccess
      · exact checked.trans (recordFailure _)
    · exact setHealthy _
  · exact refl

lemma applyConfig (w : World) (cfg : Config.AtpConfig) (os : Os) :
    ChildKept w (serviceApplyConfig w cfg os).1 := by
  simp only [serviceApplyConfig]
  split
  · split
    · exact addCtxTimer _ _ _ _
    · exact (addCtxTimer _ _ _ _).trans (cancelCtxTimer _) |>.trans (applyFields cfg)
        |>.trans (setHealth _)
  · exact applyFields cfg

lemma serviceSetReactor (w : World) (os : Os) : ChildKept w (serviceSetReactor w os).1 :=
  (setReactor true).trans cancelMonitor |>.trans (addCtxTimer os 100 1000 .monitor)
    |>.trans (setMonitor _)

lemma detach : ChildKept w w.detach := by
  rw [World.detach]
  split
  · exact cancelMonitor.trans cancelRetry |>.trans cancelHealth |>.trans (setReactor false)
  · exact refl

lemma beginStop : ChildKept w w.beginStop := by
  simp only [World.beginStop]
  split
  · exact (setState _).trans cancelHealth
  · exact setState _

lemma stopAsyncWait (w : World) (doneCb : Bool) (os : Os) :
    ChildKept w (stopAsyncWait w doneCb os).1 := by
  have cancelled : ChildKept w w.cancelMonitor.cancelRetry := cancelMonitor.trans cancelRetry
  simp only [Service.stopAsyncWait]
  split
  · split
    · exact cancelled.trans (addCtxTimer _ _ _ _)
    · exact (cancelled.trans (addCtxTimer _ _ _ _)).trans (note rfl)
  · exact (cancelled.trans (setState _)).trans resetCharges |>.trans (setHealthy false)
      |>.trans unlinkPid |>.trans done

end ChildKept

end Atpd.Service
