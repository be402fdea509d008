import Atpd.Lib.Run
import Atpd.Service.Ops

/-!
# Supervisor runs

The supervisor as a machine: an event is a call of one of its public functions, a callback of the
reactor, or the exit of a child, together with the outcomes of the system calls made while it is
handled. Events come in any order. A timer fires when it is due at the time of the pass; that the
reactor takes the due timers in deadline order is not used, so the statements hold for every order.
-/

namespace Atpd.Service

open Atpd.Config Atpd.Reactor Atpd.Lib

/-- What can happen to the supervisor. -/
inductive Event where
  | setReactor (os : Os)
  | start (os : Os)
  | monitor (os : Os)
  | timer (id : Nat) (nowMs : Nat) (os : Os)
  | sigchld (os : Os)
  | health (os : Os)
  | exit (pid : Int)
  | stopAsync (doneCb : Bool) (os : Os)
  | stopSync (os : Os)
  | applyConfig (cfg : AtpConfig) (os : Os)
deriving DecidableEq

/-- A timer callback is called. -/
def dispatch (w : World) (os : Os) : Callback → World
  | .monitor => serviceMonitorCb w os
  | .delayedSpawn => serviceDelayedSpawnCb w os
  | .healthCheck => serviceHealthCheckCb w os
  | .stopWait s => serviceStopWaitCb w s os

/-- The timer `t` before its callback: unlinked, in a pass at `nowMs`. -/
def World.beginTimer (w : World) (t : Timer Callback) (nowMs : Nat) : World :=
  { w with priv := { w.priv with currentTimeMs := nowMs }.beginTimer t }

/-- The callback of `t`, if it has one. -/
def World.runTimer (w : World) (t : Timer Callback) (os : Os) : World :=
  match t.callback with
  | some cb => if t.active then dispatch w os cb else w
  | none => w

/-- The timer that is running goes back into the list or is freed. -/
def World.endTimer (w : World) (nowMs : Nat) : World :=
  { w with priv := w.priv.endTimer nowMs }

/-- One iteration of `process_expired_timers` for the timer `t`. -/
def World.fire (w : World) (t : Timer Callback) (nowMs : Nat) (os : Os) : World :=
  if t.pendingDelete then
    { w with priv := { w.priv with currentTimeMs := nowMs }.freeTimer t }
  else ((w.beginTimer t nowMs).runTimer t os).endTimer nowMs

/-- The linked timer `id`, if it is due at `nowMs`. -/
def World.due (w : World) (id nowMs : Nat) : Option (Timer Callback) :=
  w.priv.timers.find? (fun t => t.id == id && decide (t.expiresMs ≤ nowMs))

/-- One event; only a timer that is due fires. -/
def step (w : World) : Event → Option World
  | .setReactor os => some (serviceSetReactor w os).1
  | .start os => some (serviceStartAsync w os).1
  | .monitor os => some (serviceMonitorCb w os)
  | .timer id nowMs os => (w.due id nowMs).map fun t => w.fire t nowMs os
  | .sigchld os => some (serviceSigchldCb w os)
  | .health os => some (serviceHealthCheckCb w os)
  | .exit pid => some (w.exit pid)
  | .stopAsync doneCb os => some (serviceStopAsync w doneCb os).1
  | .stopSync os => some (serviceStopSync w os).1
  | .applyConfig cfg os => some (serviceApplyConfig w cfg os).1

/-- A timer that is due is in the list. -/
lemma World.due_mem {w : World} {id nowMs : Nat} {t : Timer Callback}
    (due : w.due id nowMs = some t) : t ∈ w.priv.timers :=
  List.mem_of_find?_eq_some due

/-- A property that does not speak of the timers survives the iteration for `t` if the callback of
`t` keeps it. -/
lemma World.fire_keeps {I : World → Prop} {w : World} {t : Timer Callback} {nowMs : Nat} {os : Os}
    (timers : ∀ {w : World} {priv : Priv Callback}, I w → I { w with priv := priv }) (hI : I w)
    (called : ∀ cb ∈ t.callback, t.pendingDelete = false →
      I (dispatch (w.beginTimer t nowMs) os cb)) : I (w.fire t nowMs os) := by
  rw [World.fire]
  split
  · exact timers hI
  · rename_i mark
    have ran : I ((w.beginTimer t nowMs).runTimer t os) := by
      rw [World.runTimer]
      split
      · rename_i cb hcb
        split
        · exact called cb hcb (by simpa using mark)
        · exact timers hI
      · exact timers hI
    exact timers ran

/-! ## A system on which everything works -/

/-- At `nowMs` every call works, the next child has the pid `pid`, the API does not answer yet. -/
def Os.calm (nowMs : Nat) (pid : Int) : Os where
  monitorMs := nowMs
  spawnMs := nowMs
  startMs := nowMs
  timerMs := nowMs
  allowTime := nowMs / 1000
  failTime := nowMs / 1000
  wallTime := nowMs / 1000
  timerAlloc := true
  stopAlloc := true
  binaryExists := true
  spawnBinary := true
  workDirOk := true
  runDirOk := true
  forkPid := pid
  forkStart := nowMs / 10
  forkStat := true
  pidFileOk := true
  waitEintr := false
  alive1 := ⟨true, false⟩
  alive2 := ⟨true, false⟩
  alive3 := ⟨true, false⟩
  validates := true
  apiStatus := false
  snapshotValid := false
  snapshotMs := 0
  termOk := true
  killOk := true
  waits := []

/-- The context of the default configuration in `/data/adb/atp`. -/
def defaultCtx : ServiceCtx :=
  (serviceInit (configSetDefaults "/data/adb/atp".toList false) true).get (by decide)

end Atpd.Service
