import Atpd.Daemon.PidFile
import Atpd.Service.Handles
import Atpd.Service.Identity

/-!
# Teardown of the supervisor

`service_destroy` stops the supervisor and frees its context. Every timer of the model carries the
context, as its userdata or in the `service_stop_state_t` that is its userdata, so nothing can run on
the freed context exactly if no timer is live. The three handles are cancelled; the readiness check
after a respawn and the ticks of an asynchronous stop are not.
-/

namespace Atpd.Daemon.Startup

open Atpd.Config Atpd.Reactor Atpd.Lib Atpd.Service

variable {w : World}

/-- No timer that no handle is kept for is outstanding: neither the readiness check that
`service_delayed_spawn_cb` adds, nor a tick of `service_stop_async`. -/
def NoneOutstanding (w : World) : Prop := ∀ x ∈ w.priv.live, Service.PublicTimer.unkept x = false

instance (w : World) : Decidable (NoneOutstanding w) :=
  inferInstanceAs (Decidable (∀ x ∈ w.priv.live, Service.PublicTimer.unkept x = false))

/-- After `service_stop_sync` nothing is live exactly if nothing but the handles was. -/
lemma stopSync_live_nil {out : Bool} (ac : Listed out w) (os : Os) :
    (serviceStopSync w os).1.priv.live = [] ↔ NoneOutstanding w := by
  rw [List.eq_nil_iff_forall_not_mem]
  constructor
  · intro none x hx
    by_contra unkept
    exact none x ((ac.mem_live_stopSync os).mpr ⟨hx, by simpa using unkept⟩)
  · intro none x hx
    obtain ⟨hx, unkept⟩ := (ac.mem_live_stopSync os).mp hx
    simp [none x hx] at unkept

/-- In every state of every run: `service_stop_sync` and `service_destroy` leave no timer of the
context live exactly if none was outstanding that no handle is kept for. -/
theorem teardown_live_nil_iff (cfg : AtpConfig) (alloc : Bool) (ctx : ServiceCtx)
    (pidFile : Option Int) (nowMs : Nat) (es : List Service.Event) (os : Os)
    (init : serviceInit cfg alloc = some ctx)
    (rn : run Service.step (World.init ctx pidFile nowMs) es = some w) :
    ((serviceStopSync w os).1.priv.live = [] ↔ NoneOutstanding w) ∧
      ((serviceDestroy w os).priv.live = [] ↔ NoneOutstanding w) := by
  have ac : Listed true w :=
    run_preserves (fun _ _ _ ac st => ac.step st) (World.init_listed init pidFile nowMs) rn
  exact ⟨stopSync_live_nil ac os, stopSync_live_nil ac os⟩

/-- The child was respawned less than 100 ms ago. -/
def justRespawned : List Service.Event :=
  [.setReactor (.calm 1000 100), .start (.calm 1000 100), .exit 100, .sigchld (.calm 2000 100),
    .timer 1 3000 (.calm 3000 101)]

/-- An asynchronous stop is under way. -/
def justStopping : List Service.Event :=
  [.setReactor (.calm 1000 100), .start (.calm 1000 100), .stopAsync true (.calm 2000 100)]

/-- A readiness check and a tick of a stop survive the context. -/
theorem teardown_leaves_timer :
    (∃ w, run Service.step (World.init defaultCtx none 1000) justRespawned = some w ∧
      (serviceDestroy w (.calm 3050 101)).priv.live = [⟨2, 0, some .monitor⟩]) ∧
    ∃ w, run Service.step (World.init defaultCtx none 1000) justStopping = some w ∧
      (serviceDestroy w (.calm 2050 100)).priv.live = [⟨1, 0, some (.stopWait ⟨0, 100, true⟩)⟩] :=
  ⟨⟨_, rfl, by decide⟩, _, rfl, by decide⟩

/-- The service is RUNNING, with its monitor and health timers. -/
theorem teardown_live_nil_iff_startToRunning :
    ∃ w, run Service.step (World.init defaultCtx none 1000) startToRunning = some w ∧
      w.priv.live.length = 2 ∧ (serviceDestroy w (.calm 2000 100)).priv.live = [] :=
  ⟨_, rfl, by decide, (teardown_live_nil_iff (configSetDefaults "/data/adb/atp".toList false) true
    defaultCtx none 1000 startToRunning (.calm 2000 100) (by decide) rfl).2.mpr (by decide)⟩

end Atpd.Daemon.Startup
