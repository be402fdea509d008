import Atpd.Service.Child

/-!
# Each failure is charged once

`fail_count` decides when the supervisor gives up, so every increment is meant to stand for a
failure of its own: a child that terminated, a startup that timed out, a spawn that failed. The
history of a run counts both sides, and `World.ledger` holds them next to `fail_count`.

The monitor breaks the rule: when it finds a child dead during startup it reaps it, charges the
failure and schedules a retry, but stays in STARTING with `child_pid` cleared, so that the next
tick charges the same death again. `ChargesOnce` says which steps are free of that; in a run of
such steps every charge is earned.

The invariant `Accounted` keeps a failure in reserve for every charge that is still to come: for a
child that has exited and is not reaped, and for a service that is starting or running without a
child and without a retry.
-/

namespace Atpd.Service

open Atpd.Config Atpd.Reactor Atpd.Lib

variable {w w' : World} {os : Os} {pid : Int} {k : Nat}

/-! ## The property -/

/-- The increments of `fail_count` since it was last reset. -/
def charges : List Obs → Nat
  | [] => 0
  | .chargesReset :: _ => 0
  | .charged :: log => charges log + 1
  | _ :: log => charges log

/-- The startup of the child `pid` has timed out before, since it was forked. -/
def timedOut (pid : Int) : List Obs → Bool
  | [] => false
  | .forked p :: log => if p = pid then false else timedOut pid log
  | .startTimeout p :: log => decide (p = pid) || timedOut pid log
  | _ :: log => timedOut pid log

/-- The failures since `fail_count` was last reset: terminations of a child, start timeouts, one for
each child, and failed calls of `service_spawn`. -/
def failEvents : List Obs → Nat
  | [] => 0
  | .chargesReset :: _ => 0
  | .exited _ :: log => failEvents log + 1
  | .spawnFailed :: log => failEvents log + 1
  | .startTimeout pid :: log => if timedOut pid log then failEvents log else failEvents log + 1
  | _ :: log => failEvents log

/-- The supervisor gave up only after as many failures as it allows. -/
def GiveUpsEarned : List Obs → Prop
  | [] => True
  | .gaveUp maxFailures :: log => maxFailures ≤ failEvents log ∧ GiveUpsEarned log
  | _ :: log => GiveUpsEarned log

/-- Each failure is charged once at most: `fail_count` is the number of charges, there are no more
of them than failures, and the supervisor never gives up early. -/
structure ChargedOnce (w : World) : Prop where
  count : w.ctx.failCount = charges w.log
  le : charges w.log ≤ failEvents w.log
  earned : GiveUpsEarned w.log

/-! ## The ledger -/

/-- Both sides of the account. -/
structure Ledger where
  failCount : Nat
  charges : Nat
  events : Nat
  earned : Prop

/-- What the account is about. -/
def World.ledger (w : World) : Ledger :=
  ⟨w.ctx.failCount, charges w.log, failEvents w.log, GiveUpsEarned w.log⟩

/-- The ledger is in order, with `k` failures in reserve. -/
structure Ledger.Balanced (l : Ledger) (k : Nat) : Prop where
  count : l.failCount = l.charges
  le : l.charges + k ≤ l.events
  earned : l.earned

/-- A reserve may be left out of account. -/
lemma Ledger.Balanced.mono {l : Ledger} {j : Nat} (ba : l.Balanced k) (le : j ≤ k) :
    l.Balanced j :=
  ⟨ba.count, by have := ba.le; omega, ba.earned⟩

/-- Observations that the ledger counts. -/
def Obs.isCounted : Obs → Bool
  | .charged | .chargesReset | .exited _ | .spawnFailed | .startTimeout _ | .gaveUp _ => true
  | _ => false

/-- Most of what is noted is no failure. -/
lemma ledger_note {o : Obs} (ho : o.isCounted = false) : (w.note o).ledger = w.ledger := by
  cases o <;> first | rfl | simp [Obs.isCounted] at ho

@[simp] lemma ledger_setState {s : ServiceState} : (w.setState s).ledger = w.ledger := rfl
@[simp] lemma ledger_setHealthy {b : Bool} : (w.setHealthy b).ledger = w.ledger := rfl
@[simp] lemma ledger_setLast {t : Int} : (w.setLastHealthCheck t).ledger = w.ledger := rfl
@[simp] lemma ledger_setValidated : w.setValidated.ledger = w.ledger := rfl
@[simp] lemma ledger_setStart {t : Int} {n : Nat} : (w.setStart t n).ledger = w.ledger := rfl
@[simp] lemma ledger_clearChild : w.clearChild.ledger = w.ledger := rfl
@[simp] lemma ledger_unlink : (serviceUnlinkPid w).ledger = w.ledger := rfl
@[simp] lemma ledger_recordFailure {t : Int} : (w.recordFailure t).ledger = w.ledger := rfl
@[simp] lemma ledger_recordSuccess : w.recordSuccess.ledger = w.ledger := rfl
@[simp] lemma ledger_resetBackoff : w.resetBackoff.ledger = w.ledger := rfl
@[simp] lemma ledger_nextBackoff : w.nextBackoff.ledger = w.ledger := rfl
@[simp] lemma ledger_setRetry {h : Option Nat} : (w.setRetry h).ledger = w.ledger := rfl
@[simp] lemma ledger_setHealth {h : Option Nat} : (w.setHealth h).ledger = w.ledger := rfl
@[simp] lemma ledger_setMonitor {h : Option Nat} : (w.setMonitor h).ledger = w.ledger := rfl
@[simp] lemma ledger_setReactor {b : Bool} : (w.setReactor b).ledger = w.ledger := rfl
@[simp] lemma ledger_applyFields {cfg : AtpConfig} : (w.applyFields cfg).ledger = w.ledger := rfl
@[simp] lemma ledger_kill : (w.kill pid).ledger = w.ledger := rfl

@[simp] lemma ledger_afterAllow {t : Int} : (w.afterAllow t).ledger = w.ledger := by
  rw [World.afterAllow]
  split <;> rfl

@[simp] lemma ledger_cancelCtxTimer {h : Option Nat} : (w.cancelCtxTimer h).ledger = w.ledger := by
  rw [cancelCtxTimer_eq]
  rfl

@[simp] lemma ledger_addCtxTimer {timeout interval : Nat} {cb : Callback} :
    (w.addCtxTimer os timeout interval cb).1.ledger = w.ledger := by
  rw [addCtxTimer_eq]
  rfl

@[simp] lemma ledger_cancelRetry : w.cancelRetry.ledger = w.ledger := by
  simp [World.cancelRetry]

@[simp] lemma ledger_cancelHealth : w.cancelHealth.ledger = w.ledger := by
  simp [World.cancelHealth]

@[simp] lemma ledger_cancelMonitor : w.cancelMonitor.ledger = w.ledger := by
  simp [World.cancelMonitor]

@[simp] lemma ledger_scheduleRetry : (serviceScheduleRetry w os).ledger = w.ledger := by
  simp only [serviceScheduleRetry]
  split <;> simp

/-! ### Entries -/

/-- A charge uses up a failure. -/
lemma Ledger.Balanced.charge (ba : w.ledger.Balanced (k + 1)) : w.charge.ledger.Balanced k := by
  obtain ⟨count, le, earned⟩ := ba
  refine ⟨congrArg (· + 1) count, ?_, earned⟩
  simp only [World.ledger, World.charge, Service.charges, failEvents] at le ⊢
  omega

/-- A reset closes the account. -/
lemma Ledger.Balanced.reset (ba : w.ledger.Balanced k) : w.resetCharges.ledger.Balanced 0 :=
  ⟨rfl, Nat.le_refl _, ba.earned⟩

/-- A spawn that fails is one failure more in reserve. -/
lemma Ledger.Balanced.spawnFailed (ba : w.ledger.Balanced k) :
    (w.note .spawnFailed).ledger.Balanced (k + 1) :=
  ⟨ba.count, Nat.succ_le_succ ba.le, ba.earned⟩

/-- The first timeout of a child adds a failure. -/
lemma Ledger.Balanced.startTimeout (ba : w.ledger.Balanced k) (first : timedOut pid w.log = false) :
    (w.note (.startTimeout pid)).ledger.Balanced (k + 1) := by
  obtain ⟨count, le, earned⟩ := ba
  refine ⟨count, ?_, earned⟩
  simp only [World.ledger, World.note, Service.charges, failEvents, first] at le ⊢
  simpa [← Nat.add_assoc] using le

/-- The supervisor gives up when `fail_count` has reached its bound. -/
lemma Ledger.Balanced.gaveUp (ba : w.ledger.Balanced k) (full : w.ctx.exhausted = true) :
    (w.note (.gaveUp w.ctx.maxFailures)).ledger.Balanced k := by
  obtain ⟨count, le, earned⟩ := ba
  refine ⟨count, le, ?_, earned⟩
  simp only [ServiceCtx.exhausted, decide_eq_true_eq] at full
  simp only [World.ledger] at count le
  omega

/-- So is the end of a child that was running. -/
lemma Ledger.Balanced.exit_running {p : Proc} (ba : w.ledger.Balanced k) (hp : w.proc pid = some p)
    (running : p.exited = false) : (w.exit pid).ledger.Balanced (k + 1) := by
  simp only [World.exit, hp, running, Bool.false_eq_true, ↓reduceIte]
  exact ⟨ba.count, Nat.succ_le_succ ba.le, ba.earned⟩

/-- A child that ends costs nothing. -/
lemma Ledger.Balanced.exit (ba : w.ledger.Balanced k) : (w.exit pid).ledger.Balanced k := by
  cases hp : w.proc pid with
  | none => simpa [World.exit, hp] using ba
  | some p =>
    cases hx : p.exited with
    | true => simpa [World.exit, hp, hx] using ba
    | false => exact (ba.exit_running hp hx).mono (Nat.le_succ k)

/-- Nor does reaping it. -/
lemma Ledger.Balanced.reap (ba : w.ledger.Balanced k) : (w.reap pid).ledger.Balanced k := by
  rw [World.reap]
  split <;> exact ba

/-- Nor does anything else that is noted. -/
lemma Ledger.Balanced.note {o : Obs} (ba : w.ledger.Balanced k) (ho : o.isCounted = false) :
    (w.note o).ledger.Balanced k := by
  rw [ledger_note ho]
  exact ba

/-- The blocking wait ends the child and reaps it. -/
lemma Ledger.Balanced.waitpid (ba : w.ledger.Balanced k) : (w.waitpid pid).ledger.Balanced k :=
  ((ba.note rfl).exit).reap

/-- The child may end at any time. -/
lemma Ledger.Balanced.mayExit {dies : Bool} (ba : w.ledger.Balanced k) :
    (w.mayExit pid dies).ledger.Balanced k := by
  rw [World.mayExit]
  split
  · exact ba.exit
  · exact ba

/-- The other wait may find it ended. -/
lemma Ledger.Balanced.waitpidNohang (ba : w.ledger.Balanced k) (pid : Int) (dies : Bool) :
    (waitpidNohang w pid dies).1.ledger.Balanced k := by
  have before : ((w.note (.waited pid)).mayExit pid dies).ledger.Balanced k :=
    (ba.note rfl).mayExit
  simp only [Service.waitpidNohang]
  split
  · split
    · exact before.reap
    · exact before
  · exact before

/-- A charge is paid for from the reserve. -/
lemma Ledger.Balanced.chargeAndRetry (ba : w.ledger.Balanced (k + 1)) :
    (w.chargeAndRetry os).ledger.Balanced k := by
  have charged : (w.charge.recordFailure os.failTime).ledger.Balanced k := ba.charge
  simp only [World.chargeAndRetry]
  split
  · rename_i full
    exact charged.gaveUp full
  · rw [ledger_scheduleRetry]
    exact charged

/-! ## Children -/

/-- The child that the context names has exited and is not reaped. -/
def World.zombie (w : World) : Bool :=
  decide (0 < w.ctx.childPid) && (w.proc w.ctx.childPid).any Proc.exited

/-- The service is starting or running, without a child and without a retry. -/
def World.awaiting (w : World) : Prop :=
  (w.ctx.state = .starting ∨ w.ctx.state = .running) ∧ w.ctx.childPid ≤ 0 ∧ w.ctx.retryTimer = none

/-- The context names an unreaped child, with its start time. -/
def World.Named (w : World) : Prop :=
  0 < w.ctx.childPid → ∃ p, w.proc w.ctx.childPid = some p ∧
    p.starttime = w.ctx.childStarttimeTicks ∧ p.starttime ≠ 0

/-- Every charge so far is earned, and so is the one for a child that has exited. -/
structure Books (w : World) : Prop where
  named : w.Named
  base : w.ledger.Balanced 0
  zombie : w.zombie = true → w.ledger.Balanced 1

/-- The invariant: the charge for a service without a child is earned too. -/
structure Accounted (w : World) : Prop extends Books w where
  waiting : w.awaiting → w.ledger.Balanced 1

/-- Whether the child is a zombie is a matter of the view. -/
lemma zombie_congr (view : w'.childView = w.childView) : w'.zombie = w.zombie := by
  have pid := childPid_of_view view
  have procs : w'.procs = w.procs := congrArg ChildView.procs view
  simp only [World.zombie, World.proc, pid, procs]

/-- So is whether it is named. -/
lemma World.Named.congr (named : w.Named) (view : w'.childView = w.childView) : w'.Named := by
  have pid := childPid_of_view view
  have ticks : w'.ctx.childStarttimeTicks = w.ctx.childStarttimeTicks :=
    congrArg ChildView.ticks view
  have procs : w'.procs = w.procs := congrArg ChildView.procs view
  simpa only [World.Named, World.proc, pid, ticks, procs] using named

/-- The books depend on the view and the ledger. -/
lemma Books.congr (bk : Books w) (view : w'.childView = w.childView)
    (ledger : w'.ledger = w.ledger) : Books w' :=
  ⟨bk.named.congr view, ledger ▸ bk.base, fun hz => ledger ▸ bk.zombie (zombie_congr view ▸ hz)⟩

/-- Without a child the books need the base only. -/
lemma Books.of_none (ba : w.ledger.Balanced 0) (gone : w.ctx.childPid ≤ 0) : Books w :=
  ⟨fun pos => absurd gone (by omega), ba, fun hz => by simp [World.zombie] at hz; omega⟩

/-- The invariant depends on the state and the retry handle, too. -/
lemma Accounted.congr (ac : Accounted w) (view : w'.childView = w.childView)
    (ledger : w'.ledger = w.ledger) (state : w'.ctx.state = w.ctx.state)
    (retry : w'.ctx.retryTimer = w.ctx.retryTimer) : Accounted w' := by
  refine ⟨ac.toBooks.congr view ledger, fun aw => ledger ▸ ac.waiting ?_⟩
  have pid := childPid_of_view view
  simpa only [World.awaiting, state, retry, pid] using aw

/-- A service that has a retry, or is neither starting nor running, waits for nothing. -/
def World.settled (w : World) : Prop :=
  w.ctx.retryTimer ≠ none ∨ (w.ctx.state ≠ .starting ∧ w.ctx.state ≠ .running)

/-- With a child, or with a retry scheduled, nothing is owed. -/
lemma Books.accounted (bk : Books w) (h : w.settled ∨ 0 < w.ctx.childPid) : Accounted w := by
  refine ⟨bk, fun ⟨state, gone, retry⟩ => ?_⟩
  rcases h with (h | h) | h
  · exact absurd retry h
  · rcases state with state | state
    · exact absurd state h.1
    · exact absurd state h.2
  · omega

/-! ## The child exits and is reaped -/

/-- The end of a child is entered when it happens. -/
lemma Books.exit (bk : Books w) : Books (w.exit pid) := by
  by_cases hpid : w.ctx.childPid = pid
  · cases hp : w.proc pid with
    | none => simpa [World.exit, hp] using bk
    | some p =>
      have exited : (w.exit pid).proc pid = some { p with exited := true } := by
        rw [proc_exit, hp, Option.map_some]
      refine ⟨?_, bk.base.exit, fun hz => ?_⟩
      · intro pos
        rw [exit_ctx] at pos
        obtain ⟨q, hq, start⟩ := bk.named pos
        rw [hpid, hp, Option.some.injEq] at hq
        rw [exit_ctx, hpid, exited]
        exact ⟨_, rfl, hq ▸ start⟩
      · -- a second exit is none; the first one puts a failure into the books
        cases hx : p.exited with
        | true =>
          have pos : 0 < pid := by
            simp only [World.zombie, exit_ctx, hpid, Bool.and_eq_true, decide_eq_true_eq] at hz
            exact hz.1
          exact (bk.zombie (by simp [World.zombie, hpid, pos, hp, hx])).exit
        | false => exact bk.base.exit_running hp hx
  · have same : (w.exit pid).proc w.ctx.childPid = w.proc w.ctx.childPid := proc_exit_ne hpid
    refine ⟨?_, bk.base.exit, fun hz => (bk.zombie ?_).exit⟩
    · simpa only [World.Named, exit_ctx, same] using bk.named
    · simpa only [World.zombie, exit_ctx, same] using hz

/-- What is no failure and no fork does not touch the books. -/
lemma Books.note {o : Obs} (bk : Books w) (counted : o.isCounted = false)
    (fork : o.isFork = false) : Books (w.note o) :=
  bk.congr (childView_note fork) (ledger_note counted)

/-- `waitpid(.., WNOHANG)` for the child: either it runs, or its end is a failure in reserve. -/
lemma Books.waitpidNohang (bk : Books w) (pos : 0 < w.ctx.childPid) (dies : Bool) :
    ((waitpidNohang w w.ctx.childPid dies).2 = .running ∧
      Books (waitpidNohang w w.ctx.childPid dies).1 ∧
        (waitpidNohang w w.ctx.childPid dies).1.zombie = false) ∨
    ((waitpidNohang w w.ctx.childPid dies).2 = .reaped ∧
      (waitpidNohang w w.ctx.childPid dies).1.ledger.Balanced 1) := by
  have before : Books ((w.note (.waited w.ctx.childPid)).mayExit w.ctx.childPid dies) := by
    rw [World.mayExit]
    split
    · exact (bk.note rfl rfl).exit
    · exact bk.note rfl rfl
  have ctx : ((w.note (.waited w.ctx.childPid)).mayExit w.ctx.childPid dies).ctx = w.ctx :=
    mayExit_ctx
  simp only [Service.waitpidNohang]
  split
  · rename_i p hp
    split
    · rename_i hx
      refine .inr ⟨rfl, (before.zombie ?_).reap⟩
      simp [World.zombie, pos, hp, hx]
    · rename_i hx
      refine .inl ⟨rfl, before, ?_⟩
      simp [World.zombie, hp, hx]
  · rename_i gone
    -- ECHILD is not possible for the child that the context names
    obtain ⟨p, hp, -⟩ := before.named (by rw [ctx]; exact pos)
    rw [ctx, gone] at hp
    cases hp

/-- A blocking wait for the child leaves its end in reserve. -/
lemma Books.waitpid (bk : Books w) (pos : 0 < w.ctx.childPid) :
    (w.waitpid w.ctx.childPid).ledger.Balanced 1 := by
  have exited : Books ((w.note (.waited w.ctx.childPid)).exit w.ctx.childPid) :=
    (bk.note rfl rfl).exit
  refine (exited.zombie ?_).reap
  obtain ⟨p, hp, -⟩ := bk.named pos
  have hp : (w.note (.waited w.ctx.childPid)).proc w.ctx.childPid = some p := hp
  simp [World.zombie, pos, proc_exit, hp]

/-- A child whose start time can be read is alive. -/
lemma World.Named.alive (named : w.Named) (pos : 0 < w.ctx.childPid) :
    serviceIsAlive w true = true := by
  obtain ⟨p, hp, start, ne⟩ := named pos
  simp [serviceIsAlive, pos, hp, ← start, ne]

/-- Only a child that is named is found alive. -/
lemma pos_of_alive {stat : Bool} (alive : serviceIsAlive w stat = true) : 0 < w.ctx.childPid := by
  simp only [serviceIsAlive, Bool.and_eq_true, decide_eq_true_eq] at alive
  exact alive.1

/-- What `service_starting_child_alive` tells: the child runs; or the child could not be seen; or it
was reaped, its end is in reserve and `child_pid` is cleared. -/
inductive Asked (w : World) (stat : Bool) : World × Bool → Prop where
  | alive {w1 : World} (bk : Books w1) (ctx : w1.ctx = w.ctx) (pos : 0 < w.ctx.childPid)
    (running : w1.zombie = false) : Asked w stat (w1, true)
  | unseen (dead : serviceIsAlive w stat = false) : Asked w stat (w, false)
  | reaped {w1 : World} (as : Aside w w1) (spare : w1.ledger.Balanced 1)
    (gone : w1.ctx.childPid = -1) : Asked w stat (w1, false)

/-- `service_starting_child_alive`, by what it finds. -/
lemma Books.startingChildAlive (bk : Books w) (a : Alive) :
    Asked w a.stat (serviceStartingChildAlive w a) := by
  rw [serviceStartingChildAlive]
  split
  · rename_i alive
    have pos := pos_of_alive alive
    have aside := Aside.waitpidNohang w w.ctx.childPid a.dies
    have waited := bk.waitpidNohang pos a.dies
    have ctx := waitpidNohang_ctx w w.ctx.childPid a.dies
    split
    · rename_i heq
      rw [heq] at waited ctx
      rcases waited with ⟨-, books, fresh⟩ | ⟨h, -⟩
      · exact .alive books ctx pos fresh
      · cases h
    · rename_i ended heq
      rw [heq] at waited aside
      rcases waited with ⟨h, -⟩ | ⟨-, spare⟩
      · exact absurd h ended
      · exact .reaped ((aside.trans .clearChild).trans .unlinkPid) spare rfl
  · rename_i dead
    exact .unseen (by simpa using dead)

/-! ## Charging -/

/-- Behind `service_schedule_retry` the service is settled. -/
lemma settled_scheduleRetry : (serviceScheduleRetry w os).settled := by
  simp only [serviceScheduleRetry]
  split
  · exact .inr (by simp)
  · rename_i handle
    exact .inl handle

/-- And so it is behind a charge. -/
lemma settled_chargeAndRetry : (w.chargeAndRetry os).settled := by
  simp only [World.chargeAndRetry]
  split
  · exact .inr (by simp)
  · exact settled_scheduleRetry

/-- One failure in reserve pays for the charge; a zombie has another one. -/
lemma Accounted.chargeAndRetry (named : w.Named) (spare : w.ledger.Balanced 1)
    (zombie : w.zombie = true → w.ledger.Balanced 2) : Accounted (w.chargeAndRetry os) := by
  have view : (w.chargeAndRetry os).childView = w.childView := childView_chargeAndRetry
  have books : Books (w.chargeAndRetry os) :=
    ⟨named.congr view, spare.chargeAndRetry,
      fun hz => (zombie (zombie_congr view ▸ hz)).chargeAndRetry⟩
  exact books.accounted (.inl settled_chargeAndRetry)

/-- Without a child one is enough. -/
lemma Accounted.chargeAndRetry_none (spare : w.ledger.Balanced 1) (gone : w.ctx.childPid ≤ 0) :
    Accounted (w.chargeAndRetry os) := by
  have books : Books w := .of_none (spare.mono (Nat.zero_le 1)) gone
  refine .chargeAndRetry books.named spare fun hz => ?_
  simp only [World.zombie, Bool.and_eq_true, decide_eq_true_eq] at hz
  omega

/-- The startup timeout of a child: a failure, unless it timed out before. -/
lemma Ledger.Balanced.killTimedOut (ba : w.ledger.Balanced k) (pos : 0 < w.ctx.childPid)
    (first : timedOut w.ctx.childPid w.log = false) : w.killTimedOut.ledger.Balanced (k + 1) := by
  rw [World.killTimedOut, if_pos pos]
  exact Ledger.Balanced.startTimeout (w := w.kill w.ctx.childPid) ba first

/-- A start that took too long ends with a retry, or is given up. -/
lemma settled_monitorTimeout : (monitorTimeout w os).settled := by
  simp only [monitorTimeout]
  split
  · exact settled_scheduleRetry
  · exact .inr (by simp)

/-- The first time that a child is too late, this is a failure. -/
lemma Ledger.Balanced.monitorTimeout (ba : w.killTimedOut.ledger.Balanced (k + 1)) :
    (monitorTimeout w os).ledger.Balanced k := by
  have charged : ((w.killTimedOut.setState .failed).charge.recordFailure
      os.failTime).ledger.Balanced k := Ledger.Balanced.charge (w := w.killTimedOut.setState .failed) ba
  simp only [Service.monitorTimeout]
  split
  · rw [ledger_scheduleRetry]
    exact charged
  · exact charged

/-- It is charged once for each child. -/
lemma Accounted.monitorTimeout (ac : Accounted w) (starting : w.ctx.state = .starting)
    (first : 0 < w.ctx.childPid → timedOut w.ctx.childPid w.log = false)
    (idle : w.ctx.childPid ≤ 0 → w.ctx.retryTimer = none) : Accounted (monitorTimeout w os) := by
  have view : (Service.monitorTimeout w os).childView = w.childView := childView_monitorTimeout
  have books : Books (Service.monitorTimeout w os) := by
    rcases Int.lt_or_le 0 w.ctx.childPid with pos | gone
    · have once := first pos
      exact ⟨ac.named.congr view, (ac.base.killTimedOut pos once).monitorTimeout,
        fun hz => ((ac.zombie (zombie_congr view ▸ hz)).killTimedOut pos once).monitorTimeout⟩
    · -- without a child the charge is for the one that was reaped before
      have spare := ac.waiting ⟨.inl starting, gone, idle gone⟩
      have same : w.killTimedOut = w := if_neg (by omega)
      have pid := childPid_of_view view
      exact .of_none (Ledger.Balanced.monitorTimeout (by rw [same]; exact spare)) (by omega)
  exact books.accounted (.inl settled_monitorTimeout)

/-! ## Monitor -/

/-- The child was reaped while the service starts: its charge is still to come. -/
lemma Accounted.of_gone (spare : w.ledger.Balanced 1) (gone : w.ctx.childPid ≤ 0) : Accounted w :=
  ⟨.of_none (spare.mono (Nat.zero_le 1)) gone, fun _ => spare⟩

/-- The service is running: the account starts anew. -/
lemma Accounted.monitorReady (bk : Books w) (pos : 0 < w.ctx.childPid) (running : w.zombie = false) :
    Accounted (monitorReady w os) := by
  have view : (Service.monitorReady w os).childView = w.childView := childView_monitorReady
  have ledger : (Service.monitorReady w os).ledger =
      (((w.setState .running).note .enteredRunning).resetCharges).ledger := by
    simp only [Service.monitorReady, monitorStartHealth]
    split
    · split <;> simp
    · simp
  have reset : (((w.setState .running).note .enteredRunning).resetCharges).ledger.Balanced 0 :=
    Ledger.Balanced.reset (w := (w.setState .running).note .enteredRunning) bk.base
  have books : Books (Service.monitorReady w os) :=
    ⟨bk.named.congr view, ledger ▸ reset, fun hz => by
      rw [zombie_congr view, running] at hz
      cases hz⟩
  exact books.accounted (.inr (childPid_of_view view ▸ pos))

/-- What the probe tells: the API answers and the child runs, or nothing changes that is not
accounted for. -/
inductive Probed : World × Bool → Prop where
  | ready {w : World} (bk : Books w) (pos : 0 < w.ctx.childPid) (running : w.zombie = false) :
    Probed (w, true)
  | waiting {w : World} (ac : Accounted w) : Probed (w, false)

/-- The probe asks for the child first. -/
lemma Asked.probed {r : World × Bool} {stat : Bool} (bk : Books w) (pos : 0 < w.ctx.childPid)
    (asked : Asked w stat r) : Probed r := by
  cases asked with
  | alive bk ctx pos running => exact .ready bk (ctx ▸ pos) running
  | unseen dead => exact .waiting (bk.accounted (.inr pos))
  | reaped as spare gone => exact .waiting (.of_gone spare (by omega))

/-- `service_probe_native_api`, by what it finds. -/
lemma Books.probeNativeApi (bk : Books w) (pos : 0 < w.ctx.childPid) (os : Os) :
    Probed (serviceProbeNativeApi w os) := by
  have asked := (bk.startingChildAlive os.alive2).probed bk pos
  rw [serviceProbeNativeApi]
  split
  · rename_i heq
    rwa [heq] at asked
  · rename_i heq
    rw [heq] at asked
    cases asked with
    | ready bk pos running =>
      split
      · exact (bk.startingChildAlive os.alive3).probed bk pos
      · exact .waiting (bk.accounted (.inr pos))

/-- The probe of a starting service charges nothing. -/
lemma Accounted.monitorProbe (bk : Books w) (pos : 0 < w.ctx.childPid) :
    Accounted (monitorProbe w os) := by
  have probed := bk.probeNativeApi pos os
  rw [Service.monitorProbe]
  split
  · rename_i heq
    rw [heq] at probed
    cases probed with
    | ready bk pos running => exact .monitorReady bk pos running
  · rename_i heq
    rw [heq] at probed
    cases probed with
    | waiting ac => exact ac

/-- After the validation the child is still there, or it was reaped and its end is in reserve. -/
lemma Books.validate (bk : Books w) (pos : 0 < w.ctx.childPid) (os : Os) :
    (Books (monitorValidate w os) ∧ 0 < (monitorValidate w os).ctx.childPid) ∨
    ((monitorValidate w os).ledger.Balanced 1 ∧ (monitorValidate w os).ctx.childPid ≤ 0 ∧
      (monitorValidate w os).ctx.validatedPid = false) := by
  rw [monitorValidate]
  split
  · exact .inl ⟨bk, pos⟩
  · rename_i invalid
    split
    · exact .inl ⟨bk.congr childView_setValidated ledger_setValidated, pos⟩
    · have killed : Books (w.kill w.ctx.childPid) := bk.congr (childView_kill _ _) ledger_kill
      have valid : ((w.kill w.ctx.childPid).waitpid w.ctx.childPid).ctx.validatedPid = false := by
        rw [waitpid_ctx]
        exact Bool.eq_false_iff.mpr invalid
      exact .inr ⟨killed.waitpid pos, by simp [World.setChildPid], valid⟩

/-- Nor does validating the child in front of it. -/
lemma Accounted.monitorAlive (bk : Books w) (pos : 0 < w.ctx.childPid) :
    Accounted (monitorAlive w os) := by
  simp only [Service.monitorAlive]
  rcases bk.validate pos os with ⟨bk, pos⟩ | ⟨spare, gone, invalid⟩
  · split
    · exact .monitorProbe bk pos
    · exact bk.accounted (.inr pos)
  · rw [if_neg (by simp [invalid])]
    exact .of_gone spare gone

/-- What a monitor tick needs to charge each failure once: without a child no retry is pending, a
child whose startup times out has not timed out before, and otherwise its start time can be read. -/
def MonitorChargesOnce (w : World) (os : Os) : Prop :=
  w.ctx.state = .starting ∨ w.ctx.state = .running →
    if w.ctx.childPid ≤ 0 then w.ctx.retryTimer = none
    else if w.ctx.state = .starting ∧ w.ctx.startTimedOut os.monitorMs = true then
      timedOut w.ctx.childPid w.log = false
    else os.alive1.stat = true

/-- A tick of a starting service charges once, if the condition is met. -/
lemma Accounted.monitorStarting (ac : Accounted w) (starting : w.ctx.state = .starting)
    (once : MonitorChargesOnce w os) : Accounted (monitorStarting w os) := by
  have once := once (.inl starting)
  rw [Service.monitorStarting]
  split
  · rename_i late
    refine ac.monitorTimeout starting (fun pos => ?_) (fun gone => ?_)
    · rwa [if_neg (by omega), if_pos ⟨starting, late⟩] at once
    · rwa [if_pos gone] at once
  · rename_i early
    have asked := ac.toBooks.startingChildAlive os.alive1
    split
    · rename_i heq
      rw [heq] at asked
      cases asked with
      | alive bk ctx pos running => exact .monitorAlive bk (ctx ▸ pos)
    · rename_i heq
      rw [heq] at asked
      cases asked with
      | unseen dead =>
        -- a child that is there is seen, so only a missing one is charged
        rcases Int.lt_or_le 0 w.ctx.childPid with pos | gone
        · rw [if_neg (by omega), if_neg (fun h => early h.2)] at once
          rw [once, ac.named.alive pos] at dead
          cases dead
        · rw [if_pos gone] at once
          exact .chargeAndRetry_none (ac.waiting ⟨.inl starting, gone, once⟩) gone
      | reaped as spare gone => exact .chargeAndRetry_none spare (by omega)

/-- So does a tick of a running service. -/
lemma Accounted.monitorRunning (ac : Accounted w) (running : w.ctx.state = .running)
    (once : MonitorChargesOnce w os) : Accounted (monitorRunning w os) := by
  have once := once (.inr running)
  rw [Service.monitorRunning]
  split
  · exact ac
  · rename_i dead
    rcases Int.lt_or_le 0 w.ctx.childPid with pos | gone
    · rw [if_neg (by omega), if_neg (by simp [running])] at once
      rw [once, ac.named.alive pos] at dead
      exact absurd rfl dead
    · rw [if_pos gone] at once
      have spare := ac.waiting ⟨.inr running, gone, once⟩
      exact Accounted.chargeAndRetry_none (w := w.setState .failed) spare gone

/-- `service_monitor_cb`, by the state of the service. -/
lemma Accounted.monitor (ac : Accounted w) (once : MonitorChargesOnce w os) :
    Accounted (serviceMonitorCb w os) := by
  rw [serviceMonitorCb]
  split
  · exact ac
  · rename_i starting
    exact ac.monitorStarting starting once
  · rename_i running
    exact ac.monitorRunning running once
  · rw [monitorFailed]
    split
    · exact (ac.toBooks.congr childView_scheduleRetry ledger_scheduleRetry).accounted
        (.inl settled_scheduleRetry)
    · exact ac
  · exact ac

/-! ## SIGCHLD -/

/-- The end of a child that was up is charged. -/
lemma Accounted.sigchldFailed (spare : w.ledger.Balanced 1) (gone : w.ctx.childPid ≤ 0) :
    Accounted (sigchldFailed w os) := by
  have base := spare.mono (Nat.zero_le 1)
  rw [Service.sigchldFailed]
  split
  · dsimp only
    split
    · have charged : Books ((w.setState .failed).recordFailure os.failTime).charge :=
        .of_none (Ledger.Balanced.charge (w := (w.setState .failed).recordFailure os.failTime) spare)
          gone
      have retried : Books
          (serviceScheduleRetry ((w.setState .failed).recordFailure os.failTime).charge os) :=
        charged.congr childView_scheduleRetry ledger_scheduleRetry
      exact retried.accounted (.inl settled_scheduleRetry)
    · exact Books.accounted (.of_none base gone) (.inl (.inr (by simp)))
  · rename_i other
    refine Books.accounted (.of_none base gone) (.inl (.inr ?_))
    exact ⟨fun h => other (.inr h), fun h => other (.inl h)⟩

/-- `service_sigchld_cb` charges only what it has reaped. -/
lemma Accounted.sigchld (ac : Accounted w) : Accounted (serviceSigchldCb w os) := by
  rw [serviceSigchldCb]
  split
  · rename_i pos
    split
    · exact (ac.toBooks.note rfl rfl).accounted (.inr pos)
    · have waited := ac.toBooks.waitpidNohang pos os.alive1.dies
      have ctx := waitpidNohang_ctx w w.ctx.childPid os.alive1.dies
      split
      · rename_i heq
        rw [heq] at waited
        rcases waited with ⟨h, -⟩ | ⟨-, spare⟩
        · cases h
        · exact .sigchldFailed (by simpa using spare) (by simp [World.clearChild, World.setHealthy])
      · rename_i other heq
        rw [heq] at waited ctx
        rcases waited with ⟨-, books, -⟩ | ⟨h, -⟩
        · exact books.accounted (.inr (ctx ▸ pos))
        · exact absurd h other
  · exact ac

/-! ## Spawning -/

/-- The child that is killed right after the fork is not counted. -/
lemma Ledger.Balanced.killNew (ba : w.ledger.Balanced k) : (w.killNew os).ledger.Balanced k := by
  simp only [World.killNew]
  split
  · exact ba
  · exact Ledger.Balanced.waitpid (w := w.kill os.forkPid) ba

/-- The parent's part of `service_spawn` charges nothing. -/
lemma Ledger.Balanced.spawnParent (ba : w.ledger.Balanced k) :
    (serviceSpawnParent w os).1.ledger.Balanced k := by
  simp only [serviceSpawnParent]
  split
  · split
    · exact ba
    · exact Ledger.Balanced.killNew
        (w := ((w.setTicks os.forkStart).setValidated).setStart os.wallTime os.spawnMs) ba
  · exact ba.killNew

/-- `service_spawn`: a failed call is a failure. -/
lemma Ledger.Balanced.spawn (ba : w.ledger.Balanced k) (os : Os) :
    (serviceSpawn w os).1.ledger.Balanced (if (serviceSpawn w os).2 then k else k + 1) := by
  have parent : (serviceSpawnParent ((w.note .spawn).fork os) os).1.ledger.Balanced k :=
    Ledger.Balanced.spawnParent (w := (w.note .spawn).fork os) ba
  simp only [serviceSpawn]
  split
  · split
    · rename_i heq
      rw [heq] at parent
      exact parent
    · rename_i heq
      rw [heq] at parent
      exact parent.spawnFailed
  · exact Ledger.Balanced.spawnFailed (w := w.note .spawn) ba

/-- `service_spawn` after the fork: the new child is named and runs, or none is. -/
lemma spawnParent_child (w : World) (os : Os) :
    ((serviceSpawnParent w os).2 = true ∧
      (serviceSpawnParent w os).1.ctx.childPid = w.ctx.childPid ∧
      (serviceSpawnParent w os).1.ctx.childStarttimeTicks = os.forkStart ∧
      (serviceSpawnParent w os).1.procs = w.procs) ∨
    ((serviceSpawnParent w os).2 = false ∧ (serviceSpawnParent w os).1.ctx.childPid = -1) := by
  simp only [serviceSpawnParent]
  split
  · split
    · exact .inl ⟨rfl, rfl, rfl, rfl⟩
    · exact .inr ⟨rfl, rfl⟩
  · exact .inr ⟨rfl, rfl⟩

/-- What `service_spawn` does to the child: a new one that runs, none, or nothing. -/
inductive Spawned (w : World) : World × Bool → Prop where
  | started {w1 : World} (pos : 0 < w1.ctx.childPid) (named : w1.Named)
    (running : w1.zombie = false) : Spawned w (w1, true)
  | cleaned {w1 : World} (gone : w1.ctx.childPid = -1) : Spawned w (w1, false)
  | refused {w1 : World} (view : w1.childView = w.childView) : Spawned w (w1, false)

/-- `service_spawn`, by what becomes of the child. -/
lemma spawn_child (w : World) (os : Os) : Spawned w (serviceSpawn w os) := by
  simp only [serviceSpawn]
  split
  · rename_i forks
    simp only [World.forks, Bool.and_eq_true, decide_eq_true_eq] at forks
    obtain ⟨-, ⟨pos, start⟩, -⟩ := forks
    have parent := spawnParent_child ((w.note .spawn).fork os) os
    split
    · rename_i w1 heq
      rw [heq] at parent
      rcases parent with ⟨-, pid, ticks, procs⟩ | ⟨h, -⟩
      · have pid : w1.ctx.childPid = os.forkPid := pid
        have new : w1.proc w1.ctx.childPid = some ⟨os.forkPid, os.forkStart, false⟩ := by
          rw [World.proc, pid, procs]
          simp [World.fork]
        exact .started (pid ▸ pos) (fun _ => ⟨_, new, ticks.symm, Nat.ne_of_gt start⟩)
          (by simp [World.zombie, new])
      · cases h
    · rename_i heq
      rw [heq] at parent
      rcases parent with ⟨h, -⟩ | ⟨-, pid⟩
      · cases h
      · exact .cleaned pid
  · exact .refused ((childView_note rfl).trans (childView_note rfl))

/-- A retry that fails to spawn is charged. -/
lemma Accounted.delayedSpawnAttempt (bk : Books w) : Accounted (delayedSpawnAttempt w os) := by
  have base := bk.base.spawn os
  have zombie := fun hz => (bk.zombie hz).spawn os
  have child := spawn_child w os
  rw [Service.delayedSpawnAttempt]
  split
  · rename_i w1 heq
    rw [heq] at base child
    cases child with
    | started pos named running =>
      have books : Books w1 := ⟨named, base, fun hz => absurd hz (by simp [running])⟩
      refine Books.accounted (books.congr (by simp) (by simp)) (.inr ?_)
      rw [addCtxTimer_ctx]
      exact pos
  · rename_i heq
    rw [heq] at base zombie child
    cases child with
    | cleaned gone => exact .chargeAndRetry_none base (by omega)
    | refused view =>
      -- the failed call left an old child alone, which may have exited meanwhile
      exact .chargeAndRetry (bk.named.congr view) base fun hz => zombie (zombie_congr view ▸ hz)

/-- A retry that the breaker does not allow is put off. -/
lemma Accounted.delayedSpawn (ac : Accounted w) : Accounted (serviceDelayedSpawnCb w os) := by
  rw [serviceDelayedSpawnCb]
  split
  · exact ac
  · dsimp only
    split
    · exact .delayedSpawnAttempt (ac.toBooks.congr (by simp) (by simp))
    · exact (ac.toBooks.congr (by simp) (by simp)).accounted (.inl settled_scheduleRetry)

/-- A service that is neither starting nor running waits for nothing. -/
lemma Books.of_state {s : ServiceState} (bk : Books w) (idle : s ≠ .starting ∧ s ≠ .running) :
    Accounted (w.setState s) :=
  (bk.congr childView_setState ledger_setState).accounted (.inl (.inr idle))

/-- A start that spawns resets the charges. -/
lemma Accounted.startSpawn (bk : Books w) : Accounted (startSpawn w os).1 := by
  have base := bk.base.spawn os
  have zombie := fun hz => (bk.zombie hz).spawn os
  have child := spawn_child w os
  rw [Service.startSpawn]
  split
  · split
    · rename_i w1 heq
      rw [heq] at base child
      cases child with
      | started pos named running =>
        have reset : ((w1.setState .starting).setStart os.wallTime
            os.startMs).resetCharges.ledger.Balanced 0 :=
          Ledger.Balanced.reset (k := 0) (by simpa using base)
        have books : Books ((w1.setState .starting).setStart os.wallTime os.startMs).resetCharges := by
          have view : ((w1.setState .starting).setStart os.wallTime
              os.startMs).resetCharges.childView = w1.childView := by simp
          refine ⟨named.congr view, reset, fun hz => ?_⟩
          rw [zombie_congr view, running] at hz
          cases hz
        have view : (((w1.setState .starting).setStart os.wallTime
            os.startMs).resetCharges.resetBackoff).childView = w1.childView := by simp
        refine Books.accounted (books.congr childView_resetBackoff ledger_resetBackoff) (.inr ?_)
        rw [childPid_of_view view]
        exact pos
    · rename_i w1 heq
      rw [heq] at base zombie child
      have books : Books w1 := by
        cases child with
        | cleaned gone => exact .of_none (base.mono (Nat.zero_le _)) (by omega)
        | refused view =>
          exact ⟨bk.named.congr view, base.mono (Nat.zero_le _),
            fun hz => (zombie (zombie_congr view ▸ hz)).mono (by simp)⟩
      exact (books.of_state (s := .failed) (by simp)).congr (by simp) (by simp) rfl rfl
  · exact bk.of_state (by simp)

/-- `service_start_async`, by its guards. -/
lemma Accounted.start (ac : Accounted w) : Accounted (serviceStartAsync w os).1 := by
  have called : Accounted (w.note .startCalled) :=
    ac.congr (childView_note rfl) (ledger_note rfl) rfl rfl
  have allowed : Books ((w.note .startCalled).afterAllow os.allowTime) :=
    called.toBooks.congr (by simp) (by simp)
  simp only [serviceStartAsync]
  split
  · exact called
  · split
    · split
      · rename_i alive
        exact (allowed.congr childView_setState ledger_setState).accounted (.inr (pos_of_alive alive))
      · exact .startSpawn allowed
    · exact called

/-! ## What charges nothing -/

/-- The health check charges nothing. -/
lemma Accounted.health (ac : Accounted w) : Accounted (serviceHealthCheckCb w os) := by
  have ledger : (serviceHealthCheckCb w os).ledger = w.ledger := by
    simp only [serviceHealthCheckCb]
    split
    · split
      · split <;> simp
      · simp
    · rfl
  exact ac.congr childView_health ledger (Aside.health w os).state (Aside.health w os).retryTimer

/-- `service_set_reactor` charges nothing. -/
lemma Accounted.setReactor (ac : Accounted w) : Accounted (serviceSetReactor w os).1 := by
  refine ac.congr (by simp) ?_ ?_ ?_
  · simp [serviceSetReactor]
  · simp [serviceSetReactor, World.setMonitor, World.cancelMonitor, World.setReactor]
  · simp [serviceSetReactor, World.setMonitor, World.cancelMonitor, World.setReactor]

/-- Nor does a new configuration. -/
lemma Accounted.applyConfig {cfg : AtpConfig} (ac : Accounted w) :
    Accounted (serviceApplyConfig w cfg os).1 := by
  simp only [serviceApplyConfig]
  split
  · split
    · exact ac.congr (by simp) (by simp) (by simp) (by simp)
    · exact ac.congr (by simp) (by simp) (by simp [World.setHealth, World.applyFields])
        (by simp [World.setHealth, World.applyFields])
  · exact ac.congr rfl rfl rfl rfl

/-- The end of a child is charged later, by who reaps it. -/
lemma Accounted.exit (ac : Accounted w) : Accounted (w.exit pid) :=
  ⟨ac.toBooks.exit, fun aw => (ac.waiting (by simpa [World.awaiting] using aw)).exit⟩

/-! ## Stopping -/

/-- By induction on the polls: a stop charges nothing. -/
lemma Ledger.Balanced.stopPoll (ba : w.ledger.Balanced k) (pid : Int) (attempts : Nat)
    (waits : List Wait) : (stopPoll pid attempts waits w).1.ledger.Balanced k := by
  induction attempts generalizing waits w with
  | zero => exact ba
  | succ attempts ih =>
    rw [Service.stopPoll]
    split
    · exact ba.note rfl
    · exact ih (ba.note rfl) _
    · have wait := ba.waitpidNohang pid (waits.headD .quiet = .dies)
      split
      · rename_i heq
        rw [heq] at wait
        exact ih wait _
      · rename_i heq
        rw [heq] at wait
        exact wait

/-- Neither does the whole of stopping the child. -/
lemma Ledger.Balanced.stopChild (ba : w.ledger.Balanced k) :
    (stopChild w os).1.ledger.Balanced k := by
  simp only [Service.stopChild]
  split
  · have poll := Ledger.Balanced.stopPoll (w := w.kill w.ctx.childPid) ba w.ctx.childPid
      (if 0 < w.ctx.stopTimeoutSec then (w.ctx.stopTimeoutSec * 10).toNat else 10) os.waits
    split
    · rename_i heq
      rw [heq] at poll
      exact poll
    · rename_i w1 polled _ heq
      rw [heq] at poll
      exact Ledger.Balanced.waitpid (w := w1.kill w.ctx.childPid) poll
  · exact ba

/-- The reactor is not in the ledger. -/
lemma ledger_detach : w.detach.ledger = w.ledger := by
  rw [World.detach]
  split <;> simp

/-- After a stop nothing is left to be charged. -/
lemma Accounted.stopSync (ba : w.ledger.Balanced 0) : Accounted (serviceStopSync w os).1 := by
  have detached : (w.setState .stopping).detach.ledger.Balanced 0 := by
    rw [ledger_detach]
    exact ba
  have cleared : Books (stopChild (w.setState .stopping).detach os).1.clearChild :=
    .of_none detached.stopChild (by decide : (-1 : Int) ≤ 0)
  have stopped : Accounted ((stopChild (w.setState .stopping).detach os).1.clearChild.setHealthy
      false |>.setState .stopped) :=
    (cleared.congr childView_setHealthy ledger_setHealthy).of_state (by simp)
  have unlinked : Accounted (serviceUnlinkPid ((stopChild (w.setState .stopping).detach
      os).1.clearChild.setHealthy false |>.setState .stopped)) :=
    stopped.congr childView_unlink ledger_unlink rfl rfl
  exact unlinked.congr (childView_note rfl) (ledger_note rfl) rfl rfl

/-- `service_stop_async` resets `fail_count`: it cannot allocate its state. -/
def World.stopResets (w : World) (os : Os) : Bool :=
  w.ctx.reactor && !(decide (0 < w.ctx.childPid) && !os.termOk) && !os.stopAlloc

/-- The callback of a stop is called outside the account. -/
lemma Accounted.done {d : Bool} (ac : Accounted w) : Accounted (w.done d) := by
  rw [World.done]
  split
  · exact ac.congr (childView_note rfl) (ledger_note rfl) rfl rfl
  · exact ac

/-- A stop that cannot wait resets the charges, so that no end of a child may be owed. -/
lemma Accounted.stopAsyncWait {d : Bool} (bk : Books w)
    (down : w.ctx.state ≠ .starting ∧ w.ctx.state ≠ .running)
    (reset : os.stopAlloc = false → w.zombie = false) : Accounted (stopAsyncWait w d os).1 := by
  have books : Books w.cancelMonitor.cancelRetry := bk.congr (by simp) (by simp)
  have state : w.cancelMonitor.cancelRetry.ctx.state = w.ctx.state := by
    simp [World.cancelRetry, World.cancelMonitor, World.setRetry, World.setMonitor]
  simp only [Service.stopAsyncWait]
  split
  · split
    · refine Books.accounted (books.congr (by simp) (by simp)) (.inl (.inr ?_))
      rw [addCtxTimer_ctx, state]
      exact down
    · refine Books.accounted (books.congr ((childView_note rfl).trans (by simp))
        ((ledger_note rfl).trans (by simp))) (.inl (.inr ?_))
      rw [note_ctx, addCtxTimer_ctx, state]
      exact down
  · rename_i noAlloc
    have running := reset (by simpa using noAlloc)
    have view : (serviceUnlinkPid ((w.cancelMonitor.cancelRetry.setState
        .stopped).resetCharges.setHealthy false)).childView = w.childView := by simp
    have reset : (w.cancelMonitor.cancelRetry.setState .stopped).resetCharges.ledger.Balanced 0 :=
      Ledger.Balanced.reset (w := w.cancelMonitor.cancelRetry.setState .stopped) books.base
    have closed : Books (serviceUnlinkPid ((w.cancelMonitor.cancelRetry.setState
        .stopped).resetCharges.setHealthy false)) := by
      refine ⟨bk.named.congr view, by simpa using reset, fun hz => ?_⟩
      rw [zombie_congr view, running] at hz
      cases hz
    exact (closed.accounted (.inl (.inr (by simp)))).done

/-- The beginning of a stop is not in the ledger. -/
lemma ledger_beginStop : w.beginStop.ledger = w.ledger := by
  simp only [World.beginStop]
  split <;> simp

/-- Nor is its `SIGTERM`. -/
lemma ledger_terminate : w.terminate.ledger = w.ledger := by
  rw [World.terminate]
  split <;> rfl

/-- A stop sets the state, and keeps the reactor. -/
lemma beginStop_ctx : w.beginStop.ctx.state = .stopping ∧ w.beginStop.ctx.reactor = w.ctx.reactor := by
  simp only [World.beginStop]
  split <;> simp [World.cancelHealth, World.setHealth, World.setState]

/-- `service_stop_async`, if it does not reset a child that has ended. -/
lemma Accounted.stopAsync {d : Bool} (ac : Accounted w)
    (reset : w.stopResets os = true → w.zombie = false) :
    Accounted (serviceStopAsync w d os).1 := by
  have view : w.beginStop.terminate.childView = w.childView := by simp
  have books : Books w.beginStop.terminate :=
    ac.toBooks.congr view (ledger_terminate.trans ledger_beginStop)
  have state : w.beginStop.terminate.ctx.state = .stopping :=
    Aside.terminate.state.trans beginStop_ctx.1
  have reactor : w.beginStop.terminate.ctx.reactor = w.ctx.reactor :=
    Aside.terminate.reactor.trans beginStop_ctx.2
  have pid := childPid_of_view view
  simp only [serviceStopAsync]
  split
  · exact books.accounted (.inl (.inr (by simp [state])))
  · rename_i killed
    split
    · rename_i attached
      refine .stopAsyncWait books (by simp [state]) fun noAlloc => ?_
      rw [zombie_congr view]
      refine reset ?_
      rw [pid] at killed
      rw [reactor] at attached
      simp only [not_and_or, not_not] at killed
      simpa [World.stopResets, attached, noAlloc] using killed
    · exact (Accounted.stopSync books.base).done

/-- With the stop done there is neither child nor retry. -/
lemma Accounted.stopWaitDone {s : StopState} (ba : w.ledger.Balanced 0) :
    Accounted (stopWaitDone w s) := by
  have cleared : Books w.clearChild := .of_none ba (by decide : (-1 : Int) ≤ 0)
  have stopped : Accounted (w.clearChild.setState .stopped) := cleared.of_state (by simp)
  have unlinked : Accounted (serviceUnlinkPid ((w.clearChild.setState .stopped).setHealthy false)) :=
    stopped.congr (by simp) (by simp) rfl rfl
  exact unlinked.done

/-- A tick of the wait, by whether the child is gone. -/
lemma Accounted.stopWait {s : StopState} (ac : Accounted w) : Accounted (serviceStopWaitCb w s os) := by
  rw [serviceStopWaitCb]
  split
  · dsimp only
    split
    · exact .stopWaitDone (Ledger.Balanced.waitpid (w := w.kill w.ctx.childPid) ac.base)
    · split
      · exact .stopSync (w := (w.addTimer os 100 0 _).1) ac.base
      · exact ac.congr rfl rfl rfl rfl
  · exact .stopWaitDone ac.base

/-! ## Runs -/

/-- An event charges each failure once: a monitor tick does, and a stop that resets `fail_count`
leaves no exited child behind. -/
def ChargesOnce (w : World) : Event → Prop
  | .monitor os => MonitorChargesOnce w os
  | .timer id nowMs os => ∀ t ∈ w.due id nowMs, t.callback = some .monitor →
      t.pendingDelete = false → MonitorChargesOnce w os
  | .stopAsync _ os => w.stopResets os = true → w.zombie = false
  | _ => True

instance (w : World) (os : Os) : Decidable (MonitorChargesOnce w os) :=
  inferInstanceAs (Decidable (w.ctx.state = .starting ∨ w.ctx.state = .running →
    if w.ctx.childPid ≤ 0 then w.ctx.retryTimer = none
    else if w.ctx.state = .starting ∧ w.ctx.startTimedOut os.monitorMs = true then
      timedOut w.ctx.childPid w.log = false
    else os.alive1.stat = true))

instance (w : World) (e : Event) : Decidable (ChargesOnce w e) :=
  match e with
  | .monitor os => inferInstanceAs (Decidable (MonitorChargesOnce w os))
  | .timer id nowMs os => inferInstanceAs (Decidable (∀ t ∈ w.due id nowMs,
      t.callback = some .monitor → t.pendingDelete = false → MonitorChargesOnce w os))
  | .stopAsync _ os => inferInstanceAs (Decidable (w.stopResets os = true → w.zombie = false))
  | .setReactor _ | .start _ | .sigchld _ | .health _ | .exit _ | .stopSync _ | .applyConfig _ _ =>
    inferInstanceAs (Decidable True)

/-- By cases on the callback. -/
lemma Accounted.dispatch {cb : Callback} (ac : Accounted w)
    (once : cb = .monitor → MonitorChargesOnce w os) : Accounted (dispatch w os cb) := by
  cases cb with
  | monitor => exact ac.monitor (once rfl)
  | delayedSpawn => exact ac.delayedSpawn
  | healthCheck => exact ac.health
  | stopWait s => exact ac.stopWait

/-- A timer that is pending deletion does nothing. -/
lemma Accounted.fire {t : Timer Callback} {nowMs : Nat} (ac : Accounted w)
    (once : t.callback = some .monitor → t.pendingDelete = false → MonitorChargesOnce w os) :
    Accounted (w.fire t nowMs os) := by
  have begun : Accounted (w.beginTimer t nowMs) := ac.congr rfl rfl rfl rfl
  apply World.fire_keeps (fun ac => ac.congr rfl rfl rfl rfl) ac
  intro cb hcb mark
  exact begun.dispatch fun h => once (h ▸ hcb) mark

/-- By cases on the event. -/
lemma Accounted.step {e : Event} (ac : Accounted w) (once : ChargesOnce w e)
    (st : Service.step w e = some w') : Accounted w' := by
  cases e with
  | setReactor os => cases st; exact ac.setReactor
  | start os => cases st; exact ac.start
  | monitor os => cases st; exact ac.monitor once
  | timer id nowMs os =>
    obtain ⟨t, due, rfl⟩ := Option.map_eq_some_iff.mp st
    exact ac.fire (once t due)
  | sigchld os => cases st; exact ac.sigchld
  | health os => cases st; exact ac.health
  | exit pid => cases st; exact ac.exit
  | stopAsync d os => cases st; exact ac.stopAsync once
  | stopSync os => cases st; exact .stopSync ac.base
  | applyConfig cfg os => cases st; exact ac.applyConfig

/-- Before the first event nothing is owed. -/
lemma World.init_accounted {cfg : AtpConfig} {alloc : Bool} {ctx : ServiceCtx}
    (init : serviceInit cfg alloc = some ctx) (pidFile : Option Int) (nowMs : Nat) :
    Accounted (World.init ctx pidFile nowMs) := by
  obtain ⟨_, _, _, _, _, rfl⟩ := serviceInit_eq init
  exact Books.accounted (.of_none ⟨rfl, Nat.le_refl _, trivial⟩ (by decide : (-1 : Int) ≤ 0))
    (.inl (.inr (by simp [World.init, initCtx])))

/-- In every run of the supervisor whose monitor ticks do not come to a failure that was charged
before, each failure is charged once at most. -/
theorem charged_once_of_chargesOnce (cfg : AtpConfig) (alloc : Bool) (ctx : ServiceCtx)
    (pidFile : Option Int) (nowMs : Nat) (es : List Event) (init : serviceInit cfg alloc = some ctx)
    (once : Along Service.step ChargesOnce (World.init ctx pidFile nowMs) es)
    (rn : run Service.step (World.init ctx pidFile nowMs) es = some w) : ChargedOnce w := by
  have ac : Accounted w := run_preserves_along (fun _ _ _ ac once st => ac.step once st)
    (World.init_accounted init pidFile nowMs) once rn
  exact ⟨ac.base.count, ac.base.le, ac.base.earned⟩

/-- One child dies and is found by the monitor, the next one dies and is reported by SIGCHLD. -/
def twoDeaths : List Event :=
  [.setReactor (.calm 1000 100), .start (.calm 1000 100), .exit 100, .timer 0 1101 (.calm 1101 100),
    .timer 1 2101 (.calm 2101 101), .exit 101, .sigchld (.calm 2150 101)]

/-- Two children die, and two failures are charged. -/
theorem charged_once_of_chargesOnce_twoDeaths :
    ∃ w, run Service.step (World.init defaultCtx none 1000) twoDeaths = some w ∧
      w.ctx.failCount = 2 ∧ failEvents w.log = 2 ∧ ChargedOnce w :=
  ⟨_, rfl, rfl, rfl, charged_once_of_chargesOnce (configSetDefaults "/data/adb/atp".toList false)
    true defaultCtx none 1000 twoDeaths (by decide) (by decide) rfl⟩

/-- One child dies while it starts, and the monitor ticks on. -/
def oneDeath : List Event :=
  [.setReactor (.calm 1000 100), .start (.calm 1000 100), .exit 100, .timer 0 1101 (.calm 1101 100),
    .timer 0 2100 (.calm 2100 101), .timer 0 3100 (.calm 3100 101), .timer 0 4100 (.calm 4100 101),
    .timer 0 5100 (.calm 5100 101)]

/-- Its death is charged five times, and the supervisor gives up. -/
theorem oneDeath_charged_five_times :
    ∃ w, run Service.step (World.init defaultCtx none 1000) oneDeath = some w ∧
      charges w.log = 5 ∧ failEvents w.log = 1 ∧ .gaveUp 5 ∈ w.log ∧ ¬ChargedOnce w := by
  refine ⟨_, rfl, rfl, rfl, by decide, fun once => ?_⟩
  have le := once.le
  revert le
  decide

end Atpd.Service
