import Mathlib.Tactic.Common

/-!
# Daemon state

The states of `include/atpd_context.h`: what the daemon observes of the VPN, and where it is in its
own life. `src/atpd_context.c` rejects every transition of the runtime state that is not in its
table.
-/

namespace Atpd.Daemon

/-- `vpn_state_t`. -/
inductive VpnState where
  | idle
  | predicting
  | ready
  | teardown
deriving DecidableEq, Repr

/-- `atpd_runtime_state_t`. -/
inductive RuntimeState where
  | uninitialized
  | initializing
  | running
  | reloading
  | stopping
  | stopped
  | failed
deriving DecidableEq, Repr

/-- `runtime_transition_allowed`. -/
def runtimeTransitionAllowed : RuntimeState → RuntimeState → Bool
  | .uninitialized, new => new = .initializing
  | .initializing, new => new = .running || new = .failed || new = .stopping
  | .running, new => new = .reloading || new = .stopping || new = .failed
  | .reloading, new => new = .running || new = .stopping
  | .stopping, new => new = .stopped
  | .failed, new => new = .stopping || new = .stopped
  | .stopped, _ => false

end Atpd.Daemon
