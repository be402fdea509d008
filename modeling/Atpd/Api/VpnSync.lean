import Atpd.Api.Mailbox
import Atpd.Netlink.Refresh

/-!
# From the kernel to the Clash mode

Three parties: the netlink callbacks with the delayed refresh, the context that reports each change of the
VPN state, and the worker that asks sing-box for the mode. `api_vpn_mode_callback`, which is what the
context calls, only hears of the stable states, READY and IDLE. When everything is quiet the three agree:
the last request that the worker has carried out is for what the last refresh has found.

The interface settings cannot be changed by a reload, so the configuration is fixed for a run.
-/

namespace Atpd.Api.VpnSync

open Atpd.Config Atpd.Daemon Atpd.Lib Atpd.Netlink

/-- The netlink side with the context, and the mailbox with the worker. -/
structure World where
  net : Refresh.World
  box : Mailbox.Ctx

/-- A step of either side. -/
inductive Label where
  | net (l : Refresh.Label)
  | worker (l : Mailbox.Label)

/-- A report of the context: `api_vpn_mode_callback` is the mode callback. -/
def report (cfg : InterfaceConfig) : VpnCall → Mailbox.Ctx → Mailbox.Ctx
  | .mode state _, box => Mailbox.apiVpnModeCallback box cfg state
  | .teardown, box => box

/-- What the context has reported from one state to another, the last report first. -/
def reports (before after : VpnContext) : List VpnCall :=
  after.calls.take (after.calls.length - before.calls.length)

/-- The worker does not post. -/
def isPost : Mailbox.Label → Bool
  | .post _ _ => true
  | _ => false

/-- One step. -/
def step (cfg : InterfaceConfig) (w : World) : Label → Option World
  | .net l =>
    (Refresh.step w.net l).map fun net =>
      ⟨net, (reports w.net.context net.context).foldr (report cfg) w.box⟩
  | .worker l => if isPost l then none else (Mailbox.step w.box l).map fun box => { w with box := box }

/-- After `atpd_init_run`: the context reports to the API client. -/
def World.init (teardown : Bool) (start : Nat) (server : Server) : World where
  net := .init (atpdSetVpnModeCallback (atpdSetVpnTeardownCallback (atpdContextInit start) teardown) true)
    start
  box := .init server

variable {cfg : InterfaceConfig} {w w' : World} {box box' : Mailbox.Ctx} {c : VpnContext}
  {calls told : List VpnCall}

/-- The stable state that was reported last. -/
def lastReported : List VpnCall → Option VpnState
  | [] => none
  | .mode .ready _ :: _ => some .ready
  | .mode .idle _ :: _ => some .idle
  | _ :: calls => lastReported calls

/-! ## The context -/

/-- A stable state was reported when it was entered; only the first one was not. -/
structure Reported (c : VpnContext) : Prop where
  callback : c.modeCallback = true
  ready : c.vpn.state = .ready → lastReported c.calls = some .ready
  idle : c.vpn.state = .idle → lastReported c.calls = some .idle ∨ c.calls = []

/-- A teardown reports no state. -/
lemma lastReported_teardown {edge : Prop} [Decidable edge] :
    lastReported ((if edge then [.teardown] else []) ++ calls) = lastReported calls := by
  split <;> rfl

/-- A transition reports the state that it goes to. -/
lemma Reported.transition (rep : Reported c) (new : VpnState) (ifId : Nat) (iface : List UInt8)
    (nowMs : Nat) : Reported (atpdVpnStateTransition c new ifId iface nowMs) := by
  rw [atpdVpnStateTransition]
  split
  · have told : lastReported (c.tells new iface ++ c.calls) = lastReported
        (.mode new (if callbackIface iface = [] then none else some (callbackIface iface)) :: c.calls) := by
      rw [VpnContext.tells, if_pos rep.callback, List.append_assoc]
      exact lastReported_teardown
    refine ⟨rep.callback, fun state => ?_, fun state => ?_⟩
    · have state : new = .ready := state
      subst state
      exact told
    · have state : new = .idle := state
      subst state
      exact .inl told
  · exact rep

/-- A step of the netlink side makes one transition at most. -/
lemma net_context {net net' : Refresh.World} {l : Refresh.Label} (inv : Refresh.Inv net)
    (st : Refresh.step net l = some net') : net'.context = net.context ∨
      ∃ new ifId iface nowMs, net'.context = atpdVpnStateTransition net.context new ifId iface nowMs := by
  cases l with
  | others l =>
    simp only [Refresh.step, Option.ite_none_right_eq_some] at st
    obtain ⟨s, -, rfl⟩ := Option.map_eq_some_iff.mp st.2
    exact .inl rfl
  | passStep nowMs look =>
    simp only [Refresh.step, Option.ite_none_right_eq_some] at st
    have it := inv.timed.iterated st.2
    cases it with
    | other begun running => exact .inl rfl
    -- a refresh reports the interface that it found, or that there is none
    | @refresh passMs t vpn s pass mem due mark cb ended begun =>
      cases vpn with
      | none => exact .inr ⟨.idle, 0, [], nowMs, rfl⟩
      | some name => exact .inr ⟨.ready, 0, name, nowMs, rfl⟩
  | handleEvent fuel d =>
    simp only [Refresh.step, Option.ite_none_right_eq_some] at st
    obtain ⟨r, -, rfl⟩ := Option.map_eq_some_iff.mp st.2
    exact .inl rfl
  | xfrmEvent fuel d =>
    simp only [Refresh.step, Option.ite_none_right_eq_some] at st
    obtain ⟨r, -, rfl⟩ := Option.map_eq_some_iff.mp st.2
    exact .inl rfl
  | refreshState =>
    simp only [Refresh.step, Option.ite_none_right_eq_some, Option.some.injEq] at st
    obtain ⟨-, rfl⟩ := st
    exact .inl rfl
  | effect alloc nowMs =>
    simp only [Refresh.step] at st
    split at st
    · cases st
    · rename_i e todo next
      simp only [Option.ite_none_right_eq_some, Option.some.injEq] at st
      obtain ⟨-, rfl⟩ := st
      cases e with
      | predicting ifId ifname => exact .inr ⟨.predicting, ifId, bytes ifname, nowMs, rfl⟩
      | teardown => exact .inr ⟨.teardown, 0, [], nowMs, rfl⟩
      -- the trigger arms a timer, and reports nothing
      | refresh delayMs => exact .inl (Refresh.trigger_frame _ _ _ _).2.2
  | cleanup =>
    simp only [Refresh.step, Option.ite_none_right_eq_some, Option.some.injEq] at st
    obtain ⟨-, rfl⟩ := st
    left
    rw [Refresh.netlinkCleanup]
    split
    · exact (Refresh.cancel_frame net).2.2.1
    · rfl

/-- The reports of a step come before the earlier ones. -/
lemma net_reports {net net' : Refresh.World} {l : Refresh.Label} (inv : Refresh.Inv net)
    (st : Refresh.step net l = some net') :
    net'.context.calls = reports net.context net'.context ++ net.context.calls := by
  have more : ∃ told, net'.context.calls = told ++ net.context.calls := by
    rcases net_context inv st with same | ⟨new, ifId, iface, nowMs, moved⟩
    · exact ⟨[], by rw [same, List.nil_append]⟩
    · rw [moved]
      exact (transition_frame net.context new ifId iface nowMs).2.2
  obtain ⟨told, more⟩ := more
  rw [reports, more, List.length_append, Nat.add_sub_cancel, List.take_left]

/-! ## The mailbox -/

/-- The most recent post is for the stable state that was reported last. -/
def Posted (calls : List VpnCall) (box : Mailbox.Ctx) : Prop :=
  (Mailbox.lastPosted box.log).map (·.request.state) = lastReported calls

/-- A call of the callback posts a request. -/
lemma Posted.report (auto : cfg.vpnAutoMode = true) (call : VpnCall) (po : Posted calls box) :
    Posted (call :: calls) (report cfg call box) := by
  cases call with
  | teardown => exact po
  | mode state iface =>
    rw [VpnSync.report, Mailbox.apiVpnModeCallback, if_neg (by simp [auto])]
    cases state with
    | idle => exact rfl
    | predicting => exact po
    | ready => exact rfl
    | teardown => exact po

/-- By induction on the calls. -/
lemma Posted.reports (auto : cfg.vpnAutoMode = true) (po : Posted calls box) :
    Posted (told ++ calls) (told.foldr (VpnSync.report cfg) box) := by
  induction told with
  | nil => exact po
  | cons call told ih => exact ih.report auto call

/-- The mailbox keeps its invariant. -/
lemma inv_report (inv : Mailbox.Inv box) (call : VpnCall) : Mailbox.Inv (report cfg call box) := by
  cases call with
  | teardown => exact inv
  | mode state iface => exact inv.post cfg state

/-- The steps of the worker post nothing. -/
lemma lastPosted_step {l : Mailbox.Label} (other : isPost l = false) (st : Mailbox.step box l = some box') :
    Mailbox.lastPosted box'.log = Mailbox.lastPosted box.log := by
  cases l with
  | post _ _ => cases other
  | start | refresh _ =>
    simp only [Mailbox.step, Option.ite_none_right_eq_some, Option.some.injEq] at st
    obtain ⟨-, rfl⟩ := st
    rfl
  | take =>
    simp only [Mailbox.step, Option.ite_none_right_eq_some, Option.some.injEq] at st
    obtain ⟨-, rfl⟩ := st
    simp only [Mailbox.take]
    split
    · rfl
    · split <;> rfl
  | apply rpc =>
    simp only [Mailbox.step] at st
    split at st
    · cases st
      rw [Mailbox.apply]
      split <;> rfl
    · cases st
  | requeue =>
    simp only [Mailbox.step] at st
    split at st
    · cases st
      rw [Mailbox.requeue]
      split <;> rfl
    · cases st
  | stop | other _ =>
    cases st
    rfl

/-! ## Runs -/

/-- What holds between any two steps. -/
structure Inv (w : World) : Prop where
  net : Refresh.Inv w.net
  reported : Reported w.net.context
  box : Mailbox.Inv w.box
  posted : Posted w.net.context.calls w.box

/-- At the start nothing was reported. -/
lemma World.init_inv (teardown : Bool) (start : Nat) (server : Server) :
    Inv (.init teardown start server) where
  net := ⟨Refresh.World.init_timed _ start, Refresh.World.init_known true teardown start⟩
  reported := ⟨rfl, fun state => (by cases state), fun _ => .inr rfl⟩
  box := .init server
  posted := rfl

/-- By cases on the label. -/
lemma Inv.step {l : Label} (auto : cfg.vpnAutoMode = true) (inv : Inv w)
    (st : step cfg w l = some w') : Inv w' := by
  cases l with
  | net l =>
    obtain ⟨net, moved, rfl⟩ := Option.map_eq_some_iff.mp st
    refine ⟨inv.net.step moved, ?_, ?_, ?_⟩
    · rcases net_context inv.net moved with same | ⟨new, ifId, iface, nowMs, same⟩
      · exact same ▸ inv.reported
      · exact same ▸ inv.reported.transition new ifId iface nowMs
    · exact List.foldrRecOn (reports w.net.context net.context) (report cfg) inv.box
        fun _ ih call _ => inv_report ih call
    · show Posted net.context.calls _
      rw [net_reports inv.net moved]
      exact inv.posted.reports auto
  | worker l =>
    rw [VpnSync.step] at st
    split at st
    · cases st
    · rename_i other
      have other : isPost l = false := by simpa using other
      obtain ⟨box, moved, rfl⟩ := Option.map_eq_some_iff.mp st
      refine ⟨inv.net, inv.reported, inv.box.step moved, ?_⟩
      show Option.map _ (Mailbox.lastPosted box.log) = _
      rw [lastPosted_step other moved]
      exact inv.posted

/-- In every interleaving of netlink and XFRM events, passes of the reactor, and steps of the worker with
RPCs that may fail: when a refresh was made and nothing is on its way, neither another refresh nor a
request, the last request that was carried out is for what the refresh has found; or no VPN has been seen
yet, and nothing was ever asked for. -/
theorem vpn_sync (auto : cfg.vpnAutoMode = true) (teardown : Bool) (start : Nat) (server : Server)
    (ls : List Label) (rn : run (step cfg) (.init teardown start server) ls = some w)
    {passMs : Nat} {vpn : Option (List UInt8)} {log : List Refresh.Entry}
    (refreshed : w.net.log = .refreshed passMs vpn :: log) (idle : w.net.todo = [])
    (unpending : w.box.vpnPending = false) (free : w.box.worker.inFlight = none)
    (running : w.box.stopping = false) :
    (∃ r, Mailbox.lastApplied w.box.log = some r ∧
      r.request.state = if vpn.isSome then .ready else .idle) ∨
      vpn = none ∧ Mailbox.lastPosted w.box.log = none := by
  have inv : Inv w := run_preserves (fun _ _ _ inv st => inv.step auto st)
    (World.init_inv teardown start server) rn
  have agrees : Refresh.Agrees w.net.context.vpn w.net.log := by
    rcases inv.net.known.agrees with agrees | ⟨_, _, busy⟩
    · exact agrees
    · exact absurd (idle.symm.trans busy) (by simp)
  rw [refreshed] at agrees
  have posted := inv.posted
  -- a request that was posted last is neither pending nor in flight, so it was applied
  have applied : ∀ state, lastReported w.net.context.calls = some state →
      ∃ r, Mailbox.lastApplied w.box.log = some r ∧ r.request.state = state := by
    intro state told
    rw [Posted, told] at posted
    obtain ⟨r, last, rfl⟩ := Option.map_eq_some_iff.mp posted
    have kept := inv.box.kept running r last
    simp only [unpending, free, Bool.false_eq_true, reduceCtorEq, false_or] at kept
    exact ⟨r, kept, rfl⟩
  cases vpn with
  | some name => exact .inl (applied .ready (inv.reported.ready agrees.1))
  | none =>
    rcases inv.reported.idle agrees.1 with told | silent
    · exact .inl (applied .idle told)
    · right
      rw [Posted, silent] at posted
      exact ⟨rfl, Option.map_eq_none_iff.mp posted⟩

/-- An address is added, `wg0` is found to be up, and the worker sets the mode. -/
def vpnFound : List Label :=
  [.worker .start, .net (.handleEvent 3 (Refresh.headerOnly 20)), .net (.effect true 1000),
    .net (.others (.passBegin 1500)),
    .net (.passStep 1500 ⟨0, 0, some [⟨bytes "wg0".toList, 1⟩], false, false, []⟩),
    .worker .take, .worker (.apply ⟨true, true, true⟩)]

/-- The VPN is found, and the mode for it is set. -/
theorem vpn_sync_vpnFound :
    ∃ w, run (step ⟨true, [], []⟩) (.init true 0 ruleServer) vpnFound = some w ∧
      ∃ r, Mailbox.lastApplied w.box.log = some r ∧ r.request.state = .ready := by
  obtain ⟨w, rn⟩ : ∃ w, run (step ⟨true, [], []⟩) (.init true 0 ruleServer) vpnFound = some w := ⟨_, rfl⟩
  have refreshed : (run (step ⟨true, [], []⟩) (.init true 0 ruleServer) vpnFound).map (·.net.log) =
      some [.refreshed 1500 (some (bytes "wg0".toList)), .triggered 1000 500 true] := rfl
  have quiet : (run (step ⟨true, [], []⟩) (.init true 0 ruleServer) vpnFound).map
      (fun w => (w.net.todo, w.box.vpnPending, w.box.worker.inFlight, w.box.stopping)) =
        some ([], false, none, false) := rfl
  rw [rn, Option.map_some, Option.some.injEq] at refreshed quiet
  simp only [Prod.mk.injEq] at quiet
  obtain ⟨idle, unpending, free, running⟩ := quiet
  rcases vpn_sync (by rfl) true 0 ruleServer vpnFound rn refreshed idle unpending free
    running with applied | ⟨none, -⟩
  · exact ⟨w, rn, applied⟩
  · cases none

end Atpd.Api.VpnSync
