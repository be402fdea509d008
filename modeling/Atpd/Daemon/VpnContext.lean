import Atpd.Daemon.Context
import Mathlib.Algebra.Group.Nat.Defs

/-!
# What the daemon knows of the VPN

The VPN half of `src/atpd_context.c`. A transition that changes neither the state nor the identity of the
interface does nothing; any other is counted and reported to the owners of the two callbacks. Names of
interfaces are C strings without their NUL, and an empty one stands for NULL, too.

`calls` is history: what the callbacks were told, the newest first.
-/

namespace Atpd.Daemon

/-- `atpd_vpn_snapshot_t`. -/
structure VpnSnapshot where
  state : VpnState
  ifId : Nat
  iface : List UInt8
  changedAt : Nat
  transitions : Nat
deriving DecidableEq, Repr

/-- A call of the mode callback, with its interface, or of the teardown callback. -/
inductive VpnCall where
  | mode (state : VpnState) (iface : Option (List UInt8))
  | teardown
deriving DecidableEq, Repr

/-- The part of `struct atpd_context` that is about the VPN. -/
structure VpnContext where
  vpn : VpnSnapshot
  modeCallback : Bool
  teardownCallback : Bool
  calls : List VpnCall
deriving DecidableEq, Repr

/-- `atpd_context_init`. -/
def atpdContextInit (nowMs : Nat) : VpnContext where
  vpn := ⟨.idle, 0, [], nowMs, 0⟩
  modeCallback := false
  teardownCallback := false
  calls := []

/-- `atpd_set_vpn_mode_callback`. -/
def atpdSetVpnModeCallback (c : VpnContext) (callback : Bool) : VpnContext :=
  { c with modeCallback := callback }

/-- `atpd_set_vpn_teardown_callback`. -/
def atpdSetVpnTeardownCallback (c : VpnContext) (callback : Bool) : VpnContext :=
  { c with teardownCallback := callback }

/-- `snprintf` into `callback_iface`, which has 32 bytes. -/
def callbackIface (iface : List UInt8) : List UInt8 := iface.take 31

/-- The transition changes something. -/
def VpnSnapshot.differs (s : VpnSnapshot) (new : VpnState) (ifId : Nat) (iface : List UInt8) : Bool :=
  s.state ≠ new || s.ifId ≠ ifId || s.iface ≠ callbackIface iface

/-- What a transition tells the callbacks, the last call first. -/
def VpnContext.tells (c : VpnContext) (new : VpnState) (iface : List UInt8) : List VpnCall :=
  let named := if callbackIface iface = [] then none else some (callbackIface iface)
  let edge := c.vpn.state ≠ .teardown ∧ new = .teardown
  (if edge ∧ c.teardownCallback then [.teardown] else []) ++
    if c.modeCallback then [.mode new named] else []

/-- `atpd_vpn_state_transition`; the states that it rejects are not in the type. -/
def atpdVpnStateTransition (c : VpnContext) (new : VpnState) (ifId : Nat) (iface : List UInt8)
    (nowMs : Nat) : VpnContext :=
  if c.vpn.differs new ifId iface then
    { c with
      vpn := ⟨new, ifId, callbackIface iface, nowMs, (c.vpn.transitions + 1) % 2 ^ 64⟩
      calls := c.tells new iface ++ c.calls }
  else c

variable {c : VpnContext} {new : VpnState} {ifId nowMs : Nat} {iface : List UInt8}

/-- The snapshot after a transition is what was asked for, whether or not anything changed. -/
lemma transition_snapshot (c : VpnContext) (new : VpnState) (ifId : Nat) (iface : List UInt8)
    (nowMs : Nat) :
    (atpdVpnStateTransition c new ifId iface nowMs).vpn.state = new ∧
      (atpdVpnStateTransition c new ifId iface nowMs).vpn.ifId = ifId ∧
      (atpdVpnStateTransition c new ifId iface nowMs).vpn.iface = callbackIface iface := by
  rw [atpdVpnStateTransition]
  cases differs : c.vpn.differs new ifId iface with
  | true => exact ⟨rfl, rfl, rfl⟩
  | false =>
    simp only [VpnSnapshot.differs, Bool.or_eq_false_iff, decide_eq_false_iff_not, not_not] at differs
    exact ⟨differs.1.1, differs.1.2, differs.2⟩

/-- A transition adds to the calls, and leaves the callbacks. -/
lemma transition_frame (c : VpnContext) (new : VpnState) (ifId : Nat) (iface : List UInt8) (nowMs : Nat) :
    (atpdVpnStateTransition c new ifId iface nowMs).modeCallback = c.modeCallback ∧
      (atpdVpnStateTransition c new ifId iface nowMs).teardownCallback = c.teardownCallback ∧
      ∃ told, (atpdVpnStateTransition c new ifId iface nowMs).calls = told ++ c.calls := by
  rw [atpdVpnStateTransition]
  split
  · exact ⟨rfl, rfl, _, rfl⟩
  · exact ⟨rfl, rfl, [], rfl⟩

end Atpd.Daemon
