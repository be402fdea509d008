import Atpd.Config.Reload
import Atpd.Daemon.Context
import Atpd.Lib.Run
import Atpd.Service.Health

/-!
# Reloads

`on_idle` of `src/main.c` processes a reload request: the candidate is prepared, classified, applied
to the supervisor, and only then becomes `daemon_config`. The machine of this file interleaves idle
callbacks, signals and everything that can happen to the supervisor, in any order.

Two things are as the daemon has them. The supervisor is configured by `on_idle` only, and
`service_start_async` is called only while the context is attached to the reactor:
`atpd_init_phase_service` attaches it before `run_event_loop` starts the service, and only
`service_stop_sync` detaches it.
-/

namespace Atpd.Daemon

open Atpd.Config Atpd.Reactor Atpd.Lib

/-- The daemon: `daemon_config`, `daemon_service` with its surroundings, the runtime state, the flags
of the signal handler, and whether the reactor has been told to stop. -/
structure State where
  config : AtpConfig
  world : Service.World
  configPath : Str
  runtime : RuntimeState
  reloadRequested : Bool
  shutdownRequested : Bool
  statusRequested : Bool
  reactorStopped : Bool

/-- The daemon once `service_init` has built the context of its service. -/
def State.init (cfg : AtpConfig) (configPath : Str) (world : Service.World) : State where
  config := cfg
  world := world
  configPath := configPath
  runtime := .running
  reloadRequested := false
  shutdownRequested := false
  statusRequested := false
  reactorStopped := false

/-- `atpd_runtime_state_transition`, `true` for success. -/
def atpdRuntimeStateTransition (d : State) (new : RuntimeState) : State × Bool :=
  if d.runtime = new then (d, true)
  else if runtimeTransitionAllowed d.runtime new then ({ d with runtime := new }, true)
  else (d, false)

/-- How a reload ends. -/
inductive ReloadResult where
  | invalidCandidate
  | requiresRestart (fields : Str)
  | applyFailed
  | completed
deriving DecidableEq, Repr

/-- `reload_return_to_running_or_shutdown`. -/
def reloadReturnToRunningOrShutdown (d : State) : State :=
  match atpdRuntimeStateTransition d .running with
  | (d, true) => d
  | (d, false) => { d with shutdownRequested := true, reactorStopped := true }

/-- `on_idle`: the reload itself, in the runtime state RELOADING. -/
def reload (d : State) (defaults : AtpConfig) (file : CandidateFile) (os : Service.Os) :
    State × ReloadResult :=
  match configPrepareReload d.configPath defaults file with
  | .error _ => (d, .invalidCandidate)
  | .ok candidate =>
    let (changes, fields) := configClassifyReload d.config candidate 512
    if changes.requiresRestart then (d, .requiresRestart fields)
    else
      match Service.serviceApplyConfig d.world candidate os with
      | (world, false) => ({ d with world := world }, .applyFailed)
      | (world, true) => ({ d with world := world, config := candidate }, .completed)

/-- `on_idle`: the reload request, if there is one. -/
def idleReload (d : State) (defaults : AtpConfig) (file : CandidateFile) (os : Service.Os) :
    State × Option ReloadResult :=
  if d.reloadRequested then
    let d := { d with reloadRequested := false }
    if !d.shutdownRequested && d.runtime = .running then
      match atpdRuntimeStateTransition d .reloading with
      | (d, false) => (d, none)
      | (d, true) =>
        let (d, result) := reload d defaults file os
        (reloadReturnToRunningOrShutdown d, some result)
    else (d, none)
  else (d, none)

/-- `on_idle`: the end. -/
def idleShutdown (d : State) : State :=
  let d := if d.statusRequested && !d.shutdownRequested then { d with statusRequested := false } else d
  if d.shutdownRequested then { (atpdRuntimeStateTransition d .stopping).1 with reactorStopped := true }
  else d

/-- `on_idle`, and how the reload it has processed ended. -/
def onIdle (d : State) (defaults : AtpConfig) (file : CandidateFile) (os : Service.Os) :
    State × Option ReloadResult :=
  let (d, result) := idleReload d defaults file os
  (idleShutdown d, result)

/-- What can happen to the daemon. -/
inductive Label where
  /-- `on_signal`: SIGHUP, SIGUSR1, and SIGTERM or SIGINT. -/
  | sighup
  | sigusr1
  | sigterm
  /-- The control socket asks for a shutdown. -/
  | shutdown
  | idle (defaults : AtpConfig) (file : CandidateFile) (os : Service.Os)
  | service (e : Service.Event)

/-- The supervisor's events that the daemon lets happen. -/
def permits (w : Service.World) : Service.Event → Bool
  | .start _ => w.ctx.reactor
  | .applyConfig _ _ => false
  | _ => true

/-- One step. -/
def step (d : State) : Label → Option State
  | .sighup => some { d with reloadRequested := true }
  | .sigusr1 => some { d with statusRequested := true }
  | .sigterm =>
    let d := { d with shutdownRequested := true }
    some { (atpdRuntimeStateTransition d .stopping).1 with reactorStopped := true }
  | .shutdown => some { d with shutdownRequested := true }
  | .idle defaults file os => some (onIdle d defaults file os).1
  | .service e =>
    if permits d.world e then (Service.step d.world e).map fun w => { d with world := w } else none

/-! ## What a reload leaves -/

variable {d d' : State} {cfg defaults : AtpConfig} {file : CandidateFile} {os : Service.Os}

/-- A change of the flags and of the runtime state. -/
structure Flags (d d' : State) : Prop where
  config : d'.config = d.config
  world : d'.world = d.world

/-- One change behind another. -/
lemma Flags.trans {d1 d2 d3 : State} (h1 : Flags d1 d2) (h2 : Flags d2 d3) : Flags d1 d3 :=
  ⟨h2.config.trans h1.config, h2.world.trans h1.world⟩

/-- A reload that is done is not pending any more. -/
lemma Flags.clear : Flags d { d with reloadRequested := false } := ⟨rfl, rfl⟩

/-- A transition is no reload. -/
lemma Flags.transition (d : State) (new : RuntimeState) :
    Flags d (atpdRuntimeStateTransition d new).1 := by
  rw [atpdRuntimeStateTransition]
  split
  · exact ⟨rfl, rfl⟩
  · split <;> exact ⟨rfl, rfl⟩

/-- Nor is the return from one. -/
lemma Flags.reloadReturn (d : State) : Flags d (reloadReturnToRunningOrShutdown d) := by
  have moved := transition d .running
  rw [reloadReturnToRunningOrShutdown]
  split
  · rename_i heq
    rw [heq] at moved
    exact moved
  · rename_i heq
    rw [heq] at moved
    exact ⟨moved.config, moved.world⟩

/-- Nor is a shutdown. -/
lemma Flags.idleShutdown (d : State) : Flags d (idleShutdown d) := by
  have shown : Flags d
      (if d.statusRequested && !d.shutdownRequested then { d with statusRequested := false } else d) := by
    split <;> exact ⟨rfl, rfl⟩
  simp only [Daemon.idleShutdown]
  generalize (if d.statusRequested && !d.shutdownRequested then { d with statusRequested := false }
    else d) = d1 at shown ⊢
  split
  · have moved := shown.trans (transition d1 .stopping)
    exact ⟨moved.config, moved.world⟩
  · exact shown

/-- `on_idle` without its flags: either no reload takes place, or one does. -/
lemma onIdle_cases (d : State) (defaults : AtpConfig) (file : CandidateFile) (os : Service.Os) :
    (Flags d (onIdle d defaults file os).1 ∧ (onIdle d defaults file os).2 = none) ∨
    ∃ d0, Flags d d0 ∧ Flags (reload d0 defaults file os).1 (onIdle d defaults file os).1 ∧
      (onIdle d defaults file os).2 = some (reload d0 defaults file os).2 := by
  have ended := Flags.idleShutdown (idleReload d defaults file os).1
  simp only [onIdle]
  generalize hr : idleReload d defaults file os = r at ended ⊢
  simp only [idleReload] at hr
  split at hr
  · split at hr
    · have moved := Flags.clear.trans (.transition { d with reloadRequested := false } .reloading)
      split at hr
      · rename_i heq
        rw [heq] at moved
        cases hr
        exact .inl ⟨moved.trans ended, rfl⟩
      · rename_i d0 heq
        rw [heq] at moved
        cases hr
        exact .inr ⟨d0, moved, (Flags.reloadReturn _).trans ended, rfl⟩
    · cases hr
      exact .inl ⟨Flags.clear.trans ended, rfl⟩
  · cases hr
    exact .inl ⟨ended, rfl⟩

/-- A reload that does not complete changes neither the configuration nor the supervisor. -/
lemma reload_failed (fails : (reload d defaults file os).2 ≠ .completed)
    (su : Service.Supervised d.config true d.world) :
    (reload d defaults file os).1.config = d.config ∧ (reload d defaults file os).1.world = d.world := by
  rw [reload] at fails ⊢
  split
  · exact ⟨rfl, rfl⟩
  · rename_i candidate prepared
    simp only [prepared] at fails
    dsimp only
    split
    · exact ⟨rfl, rfl⟩
    · rename_i hot
      rw [if_neg hot] at fails
      have kept := (su.applyConfig (configPrepareReload_valid prepared) os).1
      split
      · rename_i heq
        rw [heq] at kept
        exact ⟨rfl, kept rfl⟩
      · rename_i heq
        simp [heq] at fails

/-- The invariant: the configuration has the restart-required fields it was started with, and the
supervisor is in step with it. -/
structure Inv (cfg : AtpConfig) (d : State) : Prop where
  pinned : d.config.restartFields = cfg.restartFields
  supervised : Service.Supervised d.config true d.world

/-- The invariant does not depend on the flags. -/
lemma Inv.flags (inv : Inv cfg d) (fl : Flags d d') : Inv cfg d' where
  pinned := fl.config ▸ inv.pinned
  supervised := by rw [fl.config, fl.world]; exact inv.supervised

/-- A reload applies a valid configuration, or none. -/
lemma Inv.reload (inv : Inv cfg d) (defaults : AtpConfig) (file : CandidateFile) (os : Service.Os) :
    Inv cfg (reload d defaults file os).1 := by
  rw [Daemon.reload]
  split
  · exact inv
  · rename_i candidate prepared
    dsimp only
    split
    · exact inv
    · rename_i hot
      obtain ⟨kept, applied⟩ := inv.supervised.applyConfig (configPrepareReload_valid prepared) os
      split
      · rename_i heq
        rw [heq] at kept
        exact inv.flags ⟨rfl, kept rfl⟩
      · rename_i heq
        rw [heq] at applied
        have same := requiresRestart_eq_false.mp (Bool.eq_false_iff.mpr hot)
        exact ⟨same.symm.trans inv.pinned, applied rfl⟩

/-- The work between two passes. -/
lemma Inv.onIdle (inv : Inv cfg d) (defaults : AtpConfig) (file : CandidateFile) (os : Service.Os) :
    Inv cfg (onIdle d defaults file os).1 := by
  obtain ⟨flags, -⟩ | ⟨d0, before, after, -⟩ := onIdle_cases d defaults file os
  · exact inv.flags flags
  · exact ((inv.flags before).reload defaults file os).flags after

/-- An event of the service. -/
lemma Inv.service {e : Service.Event} {w : Service.World} (inv : Inv cfg d)
    (permitted : permits d.world e = true) (st : Service.step d.world e = some w) :
    Inv cfg { d with world := w } where
  pinned := inv.pinned
  supervised := by
    refine inv.supervised.step st ?_ ?_
    · rintro os rfl
      exact permitted
    · rintro cfg' os rfl
      cases permitted

/-- By cases on the label. -/
lemma Inv.step {lb : Label} (inv : Inv cfg d) (st : step d lb = some d') : Inv cfg d' := by
  cases lb with
  | sighup => cases st; exact inv.flags ⟨rfl, rfl⟩
  | sigusr1 => cases st; exact inv.flags ⟨rfl, rfl⟩
  | sigterm =>
    cases st
    have moved := Flags.transition { d with shutdownRequested := true } .stopping
    exact inv.flags ⟨moved.config, moved.world⟩
  | shutdown => cases st; exact inv.flags ⟨rfl, rfl⟩
  | idle defaults file os => cases st; exact inv.onIdle defaults file os
  | service e =>
    simp only [Daemon.step, Option.ite_none_right_eq_some, Option.map_eq_some_iff] at st
    obtain ⟨permitted, w, st, rfl⟩ := st
    exact inv.service permitted st

/-- Reload is transactional and keeps the configuration and the supervisor in step: in every state
that a daemon reaches, the restart-required fields are those of its start, the supervisor's settings
are those of the configuration, a RUNNING service has exactly one health timer, with the interval of
the configuration, and a reload that does not complete changes neither the configuration, nor the
context, nor the live timers. -/
theorem reload_in_step {alloc : Bool} {ctx : Service.ServiceCtx}
    (init : Service.serviceInit cfg alloc = some ctx) (valid : configValidateValues cfg = true)
    (configPath : Str) (pidFile : Option Int) (nowMs : Nat) (ls : List Label)
    (rn : run Daemon.step (.init cfg configPath (.init ctx pidFile nowMs)) ls = some d) :
    d.config.restartFields = cfg.restartFields ∧
    d.world.ctx.settings = .ofConfig d.config ∧
    (d.world.ctx.state = .running → ∃ id, d.world.ctx.healthTimer = some id ∧
      d.world.priv.live.filter (fun x => x.callback = some .healthCheck) =
        [⟨id, d.config.service.healthCheckIntervalMs.toNat, some .healthCheck⟩]) ∧
    (∀ defaults file os result, (onIdle d defaults file os).2 = some result → result ≠ .completed →
      (onIdle d defaults file os).1.config = d.config ∧
      (onIdle d defaults file os).1.world.ctx = d.world.ctx ∧
      (onIdle d defaults file os).1.world.priv.live = d.world.priv.live) := by
  have inv : Inv cfg d := run_preserves (fun _ _ _ inv st => inv.step st)
    ⟨rfl, Service.World.init_supervised init valid pidFile nowMs⟩ rn
  refine ⟨inv.pinned, inv.supervised.handled.settings, inv.supervised.one_health, ?_⟩
  intro defaults file os result processed fails
  obtain ⟨-, skipped⟩ | ⟨d0, before, after, ended⟩ := onIdle_cases d defaults file os
  · exact absurd (skipped.symm.trans processed) (by simp)
  · have same : result = (reload d0 defaults file os).2 :=
      Option.some.inj (processed.symm.trans ended)
    obtain ⟨config, world⟩ := reload_failed (same ▸ fails) (inv.flags before).supervised
    have unchanged : (onIdle d defaults file os).1.world = d.world :=
      after.world.trans (world.trans before.world)
    exact ⟨after.config.trans (config.trans before.config), by rw [unchanged], by rw [unchanged]⟩

/-- The default configuration in `/data/adb/atp`. -/
def defaultConfig : AtpConfig := configSetDefaults "/data/adb/atp".toList false

/-- A file that changes the health check interval. -/
def quarterSecond : CandidateFile where
  present := true
  prepare cfg := .ok { cfg with service := { cfg.service with healthCheckIntervalMs := 250 } }
  sync := .ok

/-- The service becomes RUNNING, a first reload fails for want of a timer, a second one completes. -/
def twoReloads : List Label :=
  [.service (.setReactor (.calm 1000 100)), .service (.start (.calm 1000 100)),
    .service (.monitor { Service.Os.calm 1100 100 with apiStatus := true }),
    .sighup, .idle defaultConfig quarterSecond { Service.Os.calm 2000 100 with timerAlloc := false },
    .sighup, .idle defaultConfig quarterSecond (.calm 3000 100)]

/-- One reload is applied, and one is refused. -/
theorem reload_in_step_twoReloads :
    ∃ d, run Daemon.step (.init defaultConfig "atp.conf".toList (.init Service.defaultCtx none 1000))
        twoReloads = some d ∧
      d.world.ctx.state = .running ∧ d.world.ctx.settings.healthCheckIntervalMs = 250 ∧
      ∃ id, d.world.priv.live.filter (fun x => x.callback = some .healthCheck) =
        [⟨id, 250, some .healthCheck⟩] := by
  refine ⟨_, rfl, rfl, rfl, ?_⟩
  have init : Service.serviceInit defaultConfig true = some Service.defaultCtx := rfl
  obtain ⟨-, -, health, -⟩ := reload_in_step init configSetDefaults_valid "atp.conf".toList none 1000
    twoReloads rfl
  obtain ⟨id, -, one⟩ := health rfl
  exact ⟨id, one⟩

end Atpd.Daemon
