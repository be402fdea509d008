import Atpd.Daemon.VpnContext
import Atpd.Netlink.Vpn
import Atpd.Reactor.OneShot
import Atpd.Reactor.Semantics

/-!
# The delayed refresh of the VPN state

The kernel tells of changes in bursts. `netlink_handle_event` and `netlink_xfrm_event_cb` do not look at
the interfaces themselves: they put off one refresh, `debounce_timer_cb`, until the burst is over, and the
XFRM events set the state at once to what they announce. The timer lives in the reactor that the other
components use, too; their code is the labels of `Atpd.Reactor.step` that do not touch it.

A callback for a descriptor runs between two passes. What it has still to do, message by message, is in
`todo`; every call reads the clock for itself. `netlink_refresh_state` is called where the event loop is
set up, and by the supervisor in a callback of its own timer, which runs in a pass. `log` is history, with
the newest entry first.
-/

namespace Atpd.Netlink.Refresh

open Atpd.Daemon Atpd.Lib Atpd.Reactor

/-- Whose timer it is. -/
inductive Owner where
  | debounce
  | other (n : Nat)
deriving DecidableEq, Repr

/-- An entry of the history. -/
inductive Entry where
  /-- A refresh was asked for, to come after `delayMs`; `scheduled` says that there is a timer for it. -/
  | triggered (nowMs delayMs : Nat) (scheduled : Bool)
  /-- A refresh was made in the pass at `passMs`. -/
  | refreshed (passMs : Nat) (vpn : Option (List UInt8))
  | cleaned
deriving DecidableEq, Repr

/-- The variables of `src/netlink.c` for the refresh, the reactor and the VPN state. -/
structure World where
  reactor : State Owner
  debounceReactor : Bool
  debounceTimer : Option Nat
  todo : List Effect
  context : VpnContext
  log : List Entry

/-- What the interfaces are like when `netlink_get_active_vpn` looks. -/
structure Lookup where
  fuel : Nat
  seq : Nat
  ifaddr : Option (List Link)
  socket : Bool
  sent : Bool
  dump : List (Datagram nlDumpSize)

/-- `netlink_get_active_vpn(vpn, sizeof(vpn)) == 0 && vpn[0]`: the name, if there is one. -/
def Lookup.vpn (look : Lookup) : Option (Option (List UInt8)) :=
  (netlinkGetActiveVpn look.fuel 16 look.seq look.ifaddr look.socket look.sent look.dump).map
    fun found => found.filter (· ≠ [])

/-- What can happen. -/
inductive Label where
  /-- The other components, and the passes of the reactor but for their iterations. -/
  | others (l : Reactor.Label Owner)
  /-- An iteration of `process_expired_timers`. -/
  | passStep (nowMs : Nat) (look : Lookup)
  | handleEvent (fuel : Nat) (d : Datagram nlBufSize)
  | xfrmEvent (fuel : Nat) (d : Datagram nlBufSize)
  /-- `netlink_refresh_state` is called, with the reactor that netlink is attached to. -/
  | refreshState
  /-- The next call of the callback that is running. -/
  | effect (alloc : Bool) (nowMs : Nat)
  | cleanup

/-- `NETLINK_DEBOUNCE_MS`. -/
def netlinkDebounceMs : Nat := 500

/-! ## The functions -/

/-- `reactor_cancel_timer` of the debounce timer. -/
def World.cancel (w : World) : World :=
  match w.debounceTimer with
  | some id =>
    { w with
      reactor :=
        { w.reactor with
          priv := reactorCancelTimer w.reactor.priv id
          log := .cancelled id :: w.reactor.log }
      debounceTimer := none }
  | none => w

/-- `trigger_network_refresh_delay`. -/
def triggerNetworkRefreshDelay (w : World) (alloc : Bool) (nowMs delayMs : Nat) : World :=
  if !w.debounceReactor then w
  else
    let w := w.cancel
    let added := reactorAddTimer w.reactor.priv alloc nowMs delayMs 0 (some .debounce)
    { w with
      reactor := { w.reactor with priv := added.1, clock := nowMs }
      debounceTimer := added.2
      log := .triggered nowMs delayMs alloc :: w.log }

/-- `debounce_timer_cb`, in the pass at `passMs`. -/
def debounceTimerCb (w : World) (passMs nowMs : Nat) (vpn : Option (List UInt8)) : World :=
  { w with
    debounceTimer := none
    context :=
      match vpn with
      | some name => atpdVpnStateTransition w.context .ready 0 name nowMs
      | none => atpdVpnStateTransition w.context .idle 0 [] nowMs
    log := .refreshed passMs vpn :: w.log }

/-- How far ahead the deadline of the call is. -/
def delay : Effect → Nat
  | .refresh delayMs => delayMs
  | _ => 0

/-- One call of `netlink_xfrm_event_cb` or `netlink_handle_event`. -/
def perform (w : World) (alloc : Bool) (nowMs : Nat) : Effect → World
  | .predicting ifId ifname =>
    { w with context := atpdVpnStateTransition w.context .predicting ifId (bytes ifname) nowMs }
  | .teardown => { w with context := atpdVpnStateTransition w.context .teardown 0 [] nowMs }
  | .refresh delayMs => triggerNetworkRefreshDelay w alloc nowMs delayMs

/-- `netlink_cleanup`, less the descriptors. -/
def netlinkCleanup (w : World) : World :=
  { (if w.debounceReactor then w.cancel else w) with debounceReactor := false, log := .cleaned :: w.log }

/-- The timer is none of another component. -/
def State.isDebounce (s : State Owner) (id : Nat) : Bool :=
  s.priv.live.any fun x => x.id == id && x.callback == some Owner.debounce

/-- What the other components do, and the reactor around its iterations. -/
def World.allows (w : World) : Reactor.Label Owner → Bool
  | .add _ _ _ _ cb => cb ≠ some .debounce
  | .cancel id => !State.isDebounce w.reactor id
  | .updateTime _ | .passEnd => true
  | .passBegin _ | .callbackEnd => w.todo = []
  | .passStep => false

/-- The rest of an iteration that has unlinked the timer `t`: the callback of the debounce timer is run
here, up to the end of the iteration, and those of the others by their labels. -/
def World.entered (w : World) (passMs nowMs : Nat) (look : Lookup) (t : Timer Owner) : Option World :=
  if t.callback ≠ some .debounce then some w
  else
    look.vpn.bind fun vpn =>
      let w := if t.calls then debounceTimerCb w passMs nowMs vpn else w
      (Reactor.step w.reactor .callbackEnd).map fun s => { w with reactor := s }

/-- One iteration of `process_expired_timers`. -/
def World.iterate (w : World) (nowMs : Nat) (look : Lookup) : Option World :=
  (Reactor.step w.reactor .passStep).bind fun s =>
    match s.pass, s.priv.running with
    | some passMs, some t => World.entered { w with reactor := s } passMs nowMs look t
    -- the node was cancelled before, and is freed
    | _, _ => some { w with reactor := s }

/-- One step. -/
def step (w : World) : Label → Option World
  | .others l =>
    if w.allows l then (Reactor.step w.reactor l).map fun s => { w with reactor := s } else none
  | .passStep nowMs look =>
    if w.reactor.clock ≤ nowMs then w.iterate nowMs look else none
  | .handleEvent fuel d =>
    if w.debounceReactor ∧ w.reactor.pass = none ∧ w.todo = [] then
      (netlinkHandleEvent fuel d).map fun r =>
        { w with todo := List.replicate r.state (.refresh netlinkDebounceMs) }
    else none
  | .xfrmEvent fuel d =>
    if w.debounceReactor ∧ w.reactor.pass = none ∧ w.todo = [] then
      (netlinkXfrmEventCb fuel d).map fun r => { w with todo := r.state }
    else none
  | .refreshState =>
    if w.debounceReactor ∧ w.reactor.Open ∧ w.todo = [] then
      some { w with todo := [.refresh netlinkVpnSettleMs] }
    else none
  | .effect alloc nowMs =>
    match w.todo with
    | [] => none
    | e :: todo =>
      if w.reactor.clock ≤ nowMs ∧ nowMs + delay e < deadlineBound then
        some (perform { w with todo := todo } alloc nowMs e)
      else none
  | .cleanup => if w.reactor.pass = none ∧ w.todo = [] then some (netlinkCleanup w) else none

/-- After `netlink_set_reactor`. -/
def World.init (context : VpnContext) (nowMs : Nat) : World where
  reactor := State.init nowMs
  debounceReactor := true
  debounceTimer := none
  todo := []
  context := context
  log := []

variable {w w' : World} {log : List Entry} {due id now nowMs start : Nat} {t : Timer Owner}
  {look : Lookup} {e : Effect}

/-! ## The history -/

/-- When the refresh is due that was asked for last, if it was not made yet. -/
def awaited : List Entry → Option Nat
  | .triggered nowMs delayMs true :: _ => some (nowMs + delayMs)
  | _ => none

/-- Every refresh is the one that was asked for last, and it is not early. -/
def Served : List Entry → Prop
  | [] => True
  | .refreshed passMs _ :: log => (∃ due ∈ awaited log, due ≤ passMs) ∧ Served log
  | _ :: log => Served log

/-- What was found by the last refresh is what is known of the VPN, until something new is heard. -/
def Agrees (s : VpnSnapshot) : List Entry → Prop
  | [] => s.state = .idle ∧ s.ifId = 0 ∧ s.iface = []
  | .refreshed _ (some name) :: _ => s.state = .ready ∧ s.ifId = 0 ∧ s.iface = callbackIface name
  | .refreshed _ none :: _ => s.state = .idle ∧ s.ifId = 0 ∧ s.iface = []
  | _ => True

/-! ## The timer -/

/-- The handle, the timer and the history tell the same. -/
structure Timed (w : World) : Prop where
  inv : Reactor.Inv w.reactor
  fresh : w.reactor.priv.staleCancels = 0
  idle : ∀ t, w.reactor.priv.running = some t → t.callback ≠ some .debounce
  only : w.reactor.priv.Only .debounce w.debounceTimer
  waits : ∀ id, w.debounceTimer = some id →
    ∃ due, awaited w.log = some due ∧ w.reactor.priv.Waits .debounce due id
  quiet : w.debounceTimer = none → awaited w.log = none
  detached : w.debounceReactor = false → w.debounceTimer = none
  served : Served w.log

/-- At the start no refresh is on its way. -/
lemma World.init_timed (context : VpnContext) (start : Nat) : Timed (.init context start) where
  inv := State.init_inv
  fresh := rfl
  idle _ running := by cases running
  only := reactorCreate_only
  waits _ handle := by cases handle
  quiet _ := rfl
  detached _ := rfl
  served := trivial

/-- The handle names a live timer. -/
lemma Timed.live (ti : Timed w) (handle : w.debounceTimer = some id) : w.reactor.Live id := by
  obtain ⟨due, -, waits⟩ := ti.waits id handle
  exact ⟨_, waits.live, rfl⟩

/-- What is left of `Timed` when the timer is cancelled. -/
structure Cleared (w : World) : Prop where
  inv : Reactor.Inv w.reactor
  fresh : w.reactor.priv.staleCancels = 0
  idle : ∀ t, w.reactor.priv.running = some t → t.callback ≠ some .debounce
  only : w.reactor.priv.Only .debounce none
  handle : w.debounceTimer = none

/-- Cancelling the refresh clears the handle. -/
lemma Timed.cancel (ti : Timed w) : Cleared w.cancel := by
  have only := ti.only
  rw [World.cancel]
  cases handle : w.debounceTimer with
  | none =>
    rw [handle] at only
    exact ⟨ti.inv, ti.fresh, ti.idle, only, handle⟩
  | some id =>
    have live := ti.live handle
    refine ⟨ti.inv.cancel live, (staleCancels_cancel live).trans ti.fresh, fun t running => ?_, ?_, rfl⟩
    · obtain ⟨u, running, same⟩ := cancel_running running
      exact same ▸ ti.idle u running
    · rw [handle] at only
      exact Priv.Only.cancel_self ti.inv.wf only

/-- A cancel touches the timer only. -/
lemma cancel_frame (w : World) : w.cancel.debounceReactor = w.debounceReactor ∧ w.cancel.todo = w.todo ∧
    w.cancel.context = w.context ∧ w.cancel.log = w.log ∧
    w.cancel.reactor.clock = w.reactor.clock := by
  rw [World.cancel]
  cases w.debounceTimer with
  | none => exact ⟨rfl, rfl, rfl, rfl, rfl⟩
  | some id => exact ⟨rfl, rfl, rfl, rfl, rfl⟩

/-- The timer that is added waits for what was asked for. -/
lemma Timed.trigger {alloc : Bool} {delayMs : Nat} (ti : Timed w) (le : w.reactor.clock ≤ nowMs) :
    Timed (triggerNetworkRefreshDelay w alloc nowMs delayMs) := by
  rw [triggerNetworkRefreshDelay]
  cases attached : w.debounceReactor with
  | false => exact ti
  | true =>
    obtain ⟨inv, fresh, idle, only, handle⟩ := ti.cancel
    obtain ⟨attached', -, -, log, clock⟩ := cancel_frame w
    have le : w.cancel.reactor.clock ≤ nowMs := clock ▸ le
    have served : Served w.cancel.log := log ▸ ti.served
    have so : w.cancel.reactor.priv.Sorted := ⟨inv.sorted, inv.stamped⟩
    cases alloc with
    | false =>
      refine ⟨inv.moves nowMs .refl le inv.wf inv.idle so.1 so.2, fresh, idle, only, fun _ h => ?_,
        fun _ => rfl, fun _ => rfl, served⟩
      cases h
    | true =>
      refine ⟨inv.moves nowMs (.add fun n hn => Nat.le_trans (inv.now_le n hn) le) le inv.wf.add
        (fun h => inv.idle h) so.link.1 so.link.2, fresh, idle, only.add_self, fun id h => ?_, fun h => ?_,
        fun h => ?_, served⟩
      · cases h
        exact ⟨_, rfl, .add_self⟩
      · cases h
      · exact absurd (attached'.symm.trans h) (by simp [attached])

/-- `netlink_cleanup` leaves no refresh behind. -/
lemma Timed.cleanup (ti : Timed w) : Timed (netlinkCleanup w) := by
  rw [netlinkCleanup]
  cases attached : w.debounceReactor with
  | false =>
    have handle := ti.detached attached
    refine ⟨ti.inv, ti.fresh, ti.idle, ti.only, fun _ h => ?_, fun _ => rfl, fun _ => handle, ti.served⟩
    exact absurd (handle.symm.trans h) (by simp)
  | true =>
    obtain ⟨inv, fresh, idle, only, handle⟩ := ti.cancel
    have log := (cancel_frame w).2.2.2.1
    refine ⟨inv, fresh, idle, Priv.Only.of_none only, fun _ h => ?_, fun _ => rfl, fun _ => handle,
      log ▸ ti.served⟩
    exact absurd (handle.symm.trans h) (by simp)

/-- An effect of a callback, refresh or not, keeps this. -/
lemma Timed.perform {alloc : Bool} (ti : Timed w) (le : w.reactor.clock ≤ nowMs) :
    Timed (perform w alloc nowMs e) := by
  cases e with
  | predicting ifId ifname => exact ⟨ti.1, ti.2, ti.3, ti.4, ti.5, ti.6, ti.7, ti.8⟩
  | teardown => exact ⟨ti.1, ti.2, ti.3, ti.4, ti.5, ti.6, ti.7, ti.8⟩
  | refresh delayMs => exact ti.trigger le

/-! ## The reactor -/

variable {s s' : State Owner} {l : Reactor.Label Owner}

/-- What an operation of the reactor has to keep, if it leaves the debounce timer. -/
lemma Timed.reactor (ti : Timed w) (st : Reactor.step w.reactor l = some s)
    (fresh : s.priv.staleCancels = 0) (idle : ∀ t, s.priv.running = some t → t.callback ≠ some .debounce)
    (only : s.priv.Only .debounce w.debounceTimer)
    (waits : ∀ due id, w.debounceTimer = some id → w.reactor.priv.Waits .debounce due id →
      s.priv.Waits .debounce due id) : Timed { w with reactor := s } := by
  refine ⟨ti.inv.step st, fresh, idle, only, fun id handle => ?_, ti.quiet, ti.detached, ti.served⟩
  obtain ⟨due, await, waiting⟩ := ti.waits id handle
  exact ⟨due, await, waits due id handle waiting⟩

/-- A handle of another component is not the one of the debounce timer. -/
lemma Timed.foreign (ti : Timed w) (other : State.isDebounce w.reactor id = false) :
    w.debounceTimer ≠ some id := by
  intro handle
  obtain ⟨due, -, waits⟩ := ti.waits id handle
  have none := List.any_eq_false.mp other _ waits.live
  simp at none

/-- So does every step of the other timers in the reactor. -/
lemma Timed.others (ti : Timed w) (allowed : w.allows l = true)
    (st : Reactor.step w.reactor l = some s) : Timed { w with reactor := s } := by
  cases l with
  | add alloc now timeout interval cb =>
    have ne : cb ≠ some .debounce := by simpa [World.allows] using allowed
    have step := st
    simp only [Reactor.step, Option.ite_none_right_eq_some, Option.some.injEq] at st
    obtain ⟨-, rfl⟩ := st
    refine ti.reactor step ?_ ?_ (ti.only.add_foreign ne) fun due id _ wa => wa.add
    · cases alloc with
      | false => exact ti.fresh
      | true => exact ti.fresh
    · cases alloc with
      | false => exact ti.idle
      | true => exact ti.idle
  -- only `netlink_refresh_state` and `netlink_cleanup` cancel the timer of the refresh
  | cancel i =>
    have other : State.isDebounce w.reactor i = false := by simpa [World.allows] using allowed
    have step := st
    simp only [Reactor.step, Option.ite_none_right_eq_some, Option.some.injEq] at st
    obtain ⟨⟨-, live⟩, rfl⟩ := st
    refine ti.reactor step ((staleCancels_cancel live).trans ti.fresh) (fun t running => ?_)
      (ti.only.cancel ti.inv.wf) fun due id handle wa => wa.cancel ?_
    · obtain ⟨u, running, same⟩ := cancel_running running
      exact same ▸ ti.idle u running
    · rintro rfl
      exact ti.foreign other handle
  | updateTime now =>
    have step := st
    simp only [Reactor.step, Option.ite_none_right_eq_some, Option.some.injEq] at st
    obtain ⟨-, rfl⟩ := st
    exact ti.reactor step ti.fresh ti.idle ti.only fun due id _ wa => wa
  | passBegin now =>
    have step := st
    simp only [Reactor.step, Option.ite_none_right_eq_some, Option.some.injEq] at st
    obtain ⟨-, rfl⟩ := st
    exact ti.reactor step ti.fresh ti.idle ti.only fun due id _ wa => wa
  -- a round may run the timer of the refresh, so it is a step of its own
  | passStep => cases allowed
  | callbackEnd =>
    have step := st
    simp only [Reactor.step] at st
    split at st
    · rename_i now t pass running
      simp only [Option.ite_none_right_eq_some, Option.some.injEq] at st
      obtain ⟨-, rfl⟩ := st
      refine ti.reactor step (endTimer_stale.trans ti.fresh) (fun u running' => ?_)
        (ti.only.mono fun _ hx => live_of_endTimer hx) fun due id _ wa => wa.endTimer
      -- nothing runs once the callback has ended
      exact absurd (endTimer_running.symm.trans running') (by simp)
    · cases st
  | passEnd =>
    have step := st
    simp only [Reactor.step] at st
    split at st
    · simp only [Option.ite_none_right_eq_some, Option.some.injEq] at st
      obtain ⟨-, rfl⟩ := st
      exact ti.reactor step ti.fresh ti.idle ti.only fun due id _ wa => wa
    · cases st

/-- A step of the pass runs a timer that is due. -/
lemma passStep_cases (st : Reactor.step s .passStep = some s') :
    ∃ passMs t, s.pass = some passMs ∧ s.priv.running = none ∧ t ∈ s.priv.timers ∧ t.expiresMs ≤ passMs ∧
      s' = s.passStep t := by
  simp only [Reactor.step] at st
  split at st
  · rename_i passMs t rest pass running timers
    simp only [Option.ite_none_right_eq_some, Option.some.injEq] at st
    obtain ⟨le, rfl⟩ := st
    exact ⟨passMs, t, pass, running, by simp [timers], le, rfl⟩
  · cases st

/-- An iteration is over, or in the callback of another component, or it has run the callback of the
debounce timer. -/
inductive Iterated (w : World) (nowMs : Nat) : World → Prop where
  | other {s : State Owner} (st : Reactor.step w.reactor .passStep = some s)
    (running : ∀ t, s.priv.running = some t → t.callback ≠ some .debounce) :
    Iterated w nowMs { w with reactor := s }
  | refresh {passMs : Nat} {t : Timer Owner} {vpn : Option (List UInt8)} {s : State Owner}
    (pass : w.reactor.pass = some passMs) (mem : t ∈ w.reactor.priv.timers) (due : t.expiresMs ≤ passMs)
    (mark : t.pendingDelete = false) (cb : t.callback = some .debounce)
    (st : Reactor.step (w.reactor.passStep t) .callbackEnd = some s)
    (begun : Reactor.step w.reactor .passStep = some (w.reactor.passStep t)) :
    Iterated w nowMs { debounceTimerCb w passMs nowMs vpn with reactor := s }

/-- A pass that comes to the refresh takes it out and makes it. -/
lemma Timed.iterated (ti : Timed w) (st : w.iterate nowMs look = some w') : Iterated w nowMs w' := by
  obtain ⟨s, begun, st⟩ := Option.bind_eq_some_iff.mp st
  obtain ⟨passMs, t, pass, running, mem, due, rfl⟩ := passStep_cases begun
  cases mark : t.pendingDelete with
  | true =>
    -- the node is only freed
    have freed : (w.reactor.passStep t).pass = some passMs ∧
        (w.reactor.passStep t).priv.running = none := by
      rw [State.passStep, if_pos mark]
      exact ⟨pass, running⟩
    simp only [freed.1, freed.2, Option.some.injEq] at st
    subst st
    exact .other begun fun u run => absurd (freed.2.symm.trans run) (by simp)
  | false =>
    have entered : (w.reactor.passStep t).pass = some passMs ∧
        (w.reactor.passStep t).priv.running = some t := by
      rw [State.passStep, if_neg (by simp [mark])]
      exact ⟨pass, rfl⟩
    simp only [entered.1, entered.2, World.entered] at st
    split at st
    · rename_i foreign
      cases st
      refine .other begun fun u run => ?_
      cases entered.2.symm.trans run
      exact foreign
    · rename_i own
      have cb : t.callback = some .debounce := by simpa using own
      have active : t.active = true := by simp [ti.inv.active t (.inr mem), mark]
      have calls : t.calls = true := by simp [Timer.calls, active, cb]
      obtain ⟨vpn, -, st⟩ := Option.bind_eq_some_iff.mp st
      simp only [calls, ↓reduceIte] at st
      obtain ⟨s, ended, rfl⟩ := Option.map_eq_some_iff.mp st
      exact .refresh pass mem due mark cb ended begun

/-- The node that an iteration takes, if it is not the one of the debounce timer. -/
lemma Timed.iterate_other (ti : Timed w) (st : Reactor.step w.reactor .passStep = some s)
    (foreign : ∀ t, s.priv.running = some t → t.callback ≠ some .debounce) :
    Timed { w with reactor := s } := by
  obtain ⟨passMs, t, -, -, mem, -, rfl⟩ := passStep_cases st
  cases mark : t.pendingDelete with
  | true =>
    have freed : w.reactor.passStep t = { w.reactor with priv := w.reactor.priv.freeTimer t } := by
      rw [State.passStep, if_pos mark]
    rw [freed] at st foreign ⊢
    refine ti.reactor st ti.fresh foreign (ti.only.mono fun _ hx => live_of_freeTimer hx)
      fun due id _ wa => wa.free ?_
    rintro rfl
    have := (wa.of_mem ti.inv.wf mem).2.1
    simp [mark] at this
  | false =>
    have begun : w.reactor.passStep t =
        { w.reactor with
          priv := w.reactor.priv.beginTimer t
          log := if t.calls then .ran t w.reactor.passes :: w.reactor.log else w.reactor.log } := by
      rw [State.passStep, if_neg (by simp [mark])]
    rw [begun] at st foreign ⊢
    refine ti.reactor st ti.fresh foreign (ti.only.mono fun _ hx => live_of_beginTimer mem hx)
      fun due id _ wa => wa.begin ?_
    rintro rfl
    exact foreign t rfl (wa.of_mem ti.inv.wf mem).1

/-- The refresh that was asked for last is made, and its timer is gone. -/
lemma Timed.refresh {passMs : Nat} {vpn : Option (List UInt8)} (ti : Timed w)
    (mem : t ∈ w.reactor.priv.timers) (due : t.expiresMs ≤ passMs) (mark : t.pendingDelete = false)
    (cb : t.callback = some .debounce) (begun : Reactor.step w.reactor .passStep = some (w.reactor.passStep t))
    (st : Reactor.step (w.reactor.passStep t) .callbackEnd = some s) :
    Timed { debounceTimerCb w passMs nowMs vpn with reactor := s } := by
  have handle : w.debounceTimer = some t.id := ti.only t.toPublic (mem_live.mpr ⟨t, .inr mem, mark, rfl⟩) cb
  obtain ⟨deadline, await, waits⟩ := ti.waits t.id handle
  have same : t.expiresMs = deadline := (waits.of_mem ti.inv.wf mem).2.2.2
  have served : Served (.refreshed passMs vpn :: w.log) := ⟨⟨deadline, await, same ▸ due⟩, ti.served⟩
  have inv := (ti.inv.step begun).step st
  have passed : w.reactor.passStep t =
      { w.reactor with
        priv := w.reactor.priv.beginTimer t
        log := if t.calls then .ran t w.reactor.passes :: w.reactor.log else w.reactor.log } := by
    rw [State.passStep, if_neg (by simp [mark])]
  rw [passed] at st
  simp only [Reactor.step] at st
  split at st
  · rename_i now u pass running
    simp only [Option.ite_none_right_eq_some, Option.some.injEq] at st
    obtain ⟨-, rfl⟩ := st
    refine ⟨inv, endTimer_stale.trans ti.fresh, fun v run => ?_, fun x hx hcb => ?_, fun _ h => ?_,
      fun _ => rfl, fun _ => rfl, served⟩
    · exact absurd (endTimer_running.symm.trans run) (by simp)
    · -- another live timer with the callback would have the same handle
      have before := live_of_endTimer hx
      have id : x.id = t.id :=
        (Option.some.inj (handle.symm.trans (ti.only x (live_of_beginTimer mem before) hcb))).symm
      have once : t.rearms = false := by simp [Timer.rearms, (waits.of_mem ti.inv.wf mem).2.2.1]
      rcases (mem_live_endTimer rfl).mp hx with ⟨rearms, -⟩ | ⟨v, hv, -, rfl⟩
      · exact absurd (once.symm.trans rearms) (by simp)
      · exact absurd id (mem_timerListRemove.mp hv).2
    · cases h
  · cases st

/-! ## The state of the VPN -/

/-- Each change of the state that is still to come is followed by a refresh. -/
inductive Paired : List Effect → Prop where
  | nil : Paired []
  | refresh {delayMs : Nat} {l : List Effect} : Paired l → Paired (.refresh delayMs :: l)
  | predicting {ifId delayMs : Nat} {ifname : Config.Str} {l : List Effect} :
      Paired l → Paired (.predicting ifId ifname :: .refresh delayMs :: l)
  | teardown {delayMs : Nat} {l : List Effect} : Paired l → Paired (.teardown :: .refresh delayMs :: l)

/-- Effects of one message after those of another. -/
lemma Paired.append {l l' : List Effect} (h : Paired l) (h' : Paired l') : Paired (l ++ l') := by
  induction h with
  | nil => exact h'
  | refresh _ ih => exact .refresh ih
  | predicting _ ih => exact .predicting ih
  | teardown _ ih => exact .teardown ih

/-- Requests alone need no pair. -/
lemma Paired.replicate (n delayMs : Nat) : Paired (List.replicate n (.refresh delayMs)) := by
  induction n with
  | zero => exact .nil
  | succ n ih => exact .refresh ih

/-- `netlink_xfrm_event_cb` asks for a refresh after each transition. -/
lemma xfrm_paired {fuel : Nat} {d : Datagram nlBufSize} {r : Walked (List Effect)}
    (rn : netlinkXfrmEventCb fuel d = some r) : Paired r.state := by
  rw [netlinkXfrmEventCb] at rn
  split at rn
  · cases rn
    exact .nil
  · refine Walk.run_keeps (fun h effects v paired visited => ?_) .nil rn
    rw [xfrmMessage] at visited
    split at visited
    · obtain ⟨r', inner, rfl⟩ := Option.map_eq_some_iff.mp visited
      refine Walk.run_keeps (P := Paired) (fun a effects v paired visited => ?_) paired inner
      rw [xfrmAttribute] at visited
      split at visited
      · cases visited
        dsimp only
        split
        · exact paired
        · exact paired.append (.predicting .nil)
      · cases visited
        exact paired
    · split at visited
      · cases visited
        exact paired.append (.teardown .nil)
      · cases visited
        exact paired

/-- What was found by the last refresh is what is known, unless the next call is a refresh. -/
structure Known (w : World) : Prop where
  paired : Paired w.todo
  attached : w.todo ≠ [] → w.debounceReactor = true
  opened : w.todo ≠ [] → w.reactor.Open
  agrees : Agrees w.context.vpn w.log ∨ ∃ delayMs rest, w.todo = .refresh delayMs :: rest

/-- At the start no VPN is known, and none was found. -/
lemma World.init_known (mode teardown : Bool) (start : Nat) :
    Known (.init (atpdSetVpnModeCallback (atpdSetVpnTeardownCallback (atpdContextInit start) teardown) mode)
      start) where
  paired := .nil
  attached h := absurd rfl h
  opened h := absurd rfl h
  agrees := .inl ⟨rfl, rfl, rfl⟩

/-- A cancel does not end the callback that is running. -/
lemma cancel_open (opened : s.Open) (log : List (Obs Owner)) :
    ({ s with priv := reactorCancelTimer s.priv id, log := log } : State Owner).Open := by
  refine opened.imp_right fun ⟨t, running, calls⟩ => ?_
  obtain ⟨u, running', same⟩ := running_cancel (i := id) running
  exact ⟨u, running', by rwa [same]⟩

/-- Adding a timer does not end the reactor. -/
lemma add_open {alloc : Bool} {timeout interval clock : Nat} {cb : Option Owner} (opened : s.Open) :
    ({ s with priv := (reactorAddTimer s.priv alloc now timeout interval cb).1, clock := clock }
      : State Owner).Open := by
  cases alloc with
  | false => exact opened
  | true => exact opened

/-- The other components neither begin a pass nor end a callback that has calls left. -/
lemma Known.others (kn : Known w) (allowed : w.allows l = true) (st : Reactor.step w.reactor l = some s) :
    Known { w with reactor := s } := by
  refine ⟨kn.paired, kn.attached, fun busy => ?_, kn.agrees⟩
  have opened := kn.opened busy
  cases l with
  | add _ _ _ _ _ =>
    simp only [Reactor.step, Option.ite_none_right_eq_some, Option.some.injEq] at st
    obtain ⟨-, rfl⟩ := st
    exact add_open opened
  | cancel _ =>
    simp only [Reactor.step, Option.ite_none_right_eq_some, Option.some.injEq] at st
    obtain ⟨-, rfl⟩ := st
    exact cancel_open opened _
  | updateTime _ =>
    simp only [Reactor.step, Option.ite_none_right_eq_some, Option.some.injEq] at st
    obtain ⟨-, rfl⟩ := st
    exact opened
  | passBegin _ | callbackEnd =>
    have idle : w.todo = [] := by simpa [World.allows] using allowed
    exact absurd idle busy
  | passStep => cases allowed
  | passEnd =>
    -- a pass ends behind its last callback
    simp only [Reactor.step] at st
    split at st
    · rename_i pass running
      rcases opened with none | ⟨t, calling, -⟩
      · exact absurd (none.symm.trans pass) (by simp)
      · exact absurd (running.symm.trans calling) (by simp)
    · cases st

/-- What a refresh finds is what is known from then on. -/
lemma Known.iterated (kn : Known w) (it : Iterated w nowMs w') : Known w' := by
  -- an iteration begins behind the last callback
  have idle : ∀ {passMs}, w.reactor.pass = some passMs → w.reactor.priv.running = none → w.todo = [] := by
    intro passMs pass running
    by_contra busy
    rcases kn.opened busy with none | ⟨t, calling, -⟩
    · exact absurd (none.symm.trans pass) (by simp)
    · exact absurd (running.symm.trans calling) (by simp)
  cases it with
  | other st _ =>
    obtain ⟨passMs, t, pass, running, -, -, rfl⟩ := passStep_cases st
    exact ⟨kn.paired, kn.attached, fun busy => absurd (idle pass running) busy, kn.agrees⟩
  | @refresh passMs t vpn s pass mem due mark cb st begun =>
    obtain ⟨_, _, -, running, -⟩ := passStep_cases begun
    refine ⟨kn.paired, kn.attached, fun busy => absurd (idle pass running) busy, .inl ?_⟩
    cases vpn with
    | none => exact transition_snapshot w.context .idle 0 [] nowMs
    | some name => exact transition_snapshot w.context .ready 0 name nowMs

/-- A trigger makes what is known provisional. -/
lemma agrees_trigger {alloc : Bool} {delayMs : Nat} (attached : w.debounceReactor = true) :
    Agrees (triggerNetworkRefreshDelay w alloc nowMs delayMs).context.vpn
      (triggerNetworkRefreshDelay w alloc nowMs delayMs).log := by
  rw [triggerNetworkRefreshDelay, attached]
  trivial

/-- A request touches only the timer and its handle. -/
lemma trigger_frame (w : World) (alloc : Bool) (nowMs delayMs : Nat) :
    (triggerNetworkRefreshDelay w alloc nowMs delayMs).todo = w.todo ∧
      (triggerNetworkRefreshDelay w alloc nowMs delayMs).debounceReactor = w.debounceReactor ∧
      (triggerNetworkRefreshDelay w alloc nowMs delayMs).context = w.context := by
  obtain ⟨attached, todo, context, -, -⟩ := cancel_frame w
  rw [triggerNetworkRefreshDelay]
  split
  · exact ⟨rfl, rfl, rfl⟩
  · exact ⟨todo, attached, context⟩

/-- The callback that has asked for a refresh goes on. -/
lemma trigger_open {alloc : Bool} {delayMs : Nat} (opened : w.reactor.Open) :
    (triggerNetworkRefreshDelay w alloc nowMs delayMs).reactor.Open := by
  rw [triggerNetworkRefreshDelay]
  split
  · exact opened
  · refine add_open ?_
    rw [World.cancel]
    split
    · exact cancel_open opened _
    · exact opened

/-- An effect of a callback keeps what is known, or makes it stale. -/
lemma Known.effect {alloc : Bool} {todo : List Effect} (kn : Known w) (next : w.todo = e :: todo) :
    Known (perform { w with todo := todo } alloc nowMs e) := by
  have busy : w.todo ≠ [] := by simp [next]
  have attached := kn.attached busy
  have opened := kn.opened busy
  have paired := kn.paired
  rw [next] at paired
  cases paired with
  | refresh paired =>
    obtain ⟨todo', attached', -⟩ := trigger_frame { w with todo := todo } alloc nowMs _
    refine ⟨?_, fun _ => ?_, fun _ => trigger_open opened, .inl (agrees_trigger attached)⟩
    · rw [perform, todo']
      exact paired
    · rw [perform, attached']
      exact attached
  | predicting paired => exact ⟨.refresh paired, fun _ => attached, fun _ => opened, .inr ⟨_, _, rfl⟩⟩
  | teardown paired => exact ⟨.refresh paired, fun _ => attached, fun _ => opened, .inr ⟨_, _, rfl⟩⟩

/-- Behind `netlink_cleanup` nothing is still to come. -/
lemma known_cleanup (idle : w.todo = []) : Known (netlinkCleanup w) := by
  have todo : (netlinkCleanup w).todo = [] := by
    rw [netlinkCleanup]
    split
    · exact (cancel_frame w).2.1.trans idle
    · exact idle
  exact ⟨todo ▸ .nil, fun busy => absurd todo busy, fun busy => absurd todo busy, .inl trivial⟩

/-! ## Runs -/

/-- What holds between any two steps. -/
structure Inv (w : World) : Prop where
  timed : Timed w
  known : Known w

/-- A new list of calls, for code that can run. -/
lemma Inv.begin {todo : List Effect} (inv : Inv w) (attached : w.debounceReactor = true)
    (opened : w.reactor.Open) (idle : w.todo = []) (paired : Paired todo) :
    Inv { w with todo := todo } := by
  obtain ⟨⟨h1, h2, h3, h4, h5, h6, h7, h8⟩, known⟩ := inv
  refine ⟨⟨h1, h2, h3, h4, h5, h6, h7, h8⟩, paired, fun _ => attached, fun _ => opened, ?_⟩
  rcases known.agrees with agrees | ⟨_, _, busy⟩
  · exact .inl agrees
  · exact absurd (idle.symm.trans busy) (by simp)

/-- Every step keeps the invariant. -/
lemma Inv.step {l : Label} (inv : Inv w) (st : step w l = some w') : Inv w' := by
  cases l with
  | others l =>
    simp only [Refresh.step, Option.ite_none_right_eq_some] at st
    obtain ⟨allowed, st⟩ := st
    obtain ⟨s, moved, rfl⟩ := Option.map_eq_some_iff.mp st
    exact ⟨inv.timed.others allowed moved, inv.known.others allowed moved⟩
  | passStep nowMs look =>
    simp only [Refresh.step, Option.ite_none_right_eq_some] at st
    have it := inv.timed.iterated st.2
    refine ⟨?_, inv.known.iterated it⟩
    cases it with
    | other begun running => exact inv.timed.iterate_other begun running
    | refresh pass mem due mark cb ended begun => exact inv.timed.refresh mem due mark cb begun ended
  | handleEvent fuel d =>
    simp only [Refresh.step, Option.ite_none_right_eq_some] at st
    obtain ⟨⟨attached, pass, idle⟩, st⟩ := st
    obtain ⟨r, -, rfl⟩ := Option.map_eq_some_iff.mp st
    exact inv.begin attached (.inl pass) idle (.replicate _ _)
  | xfrmEvent fuel d =>
    simp only [Refresh.step, Option.ite_none_right_eq_some] at st
    obtain ⟨⟨attached, pass, idle⟩, st⟩ := st
    obtain ⟨r, rn, rfl⟩ := Option.map_eq_some_iff.mp st
    exact inv.begin attached (.inl pass) idle (xfrm_paired rn)
  | refreshState =>
    simp only [Refresh.step, Option.ite_none_right_eq_some, Option.some.injEq] at st
    -- also inside a pass, by the callback of a timer
    obtain ⟨⟨attached, opened, idle⟩, rfl⟩ := st
    exact inv.begin attached opened idle (.refresh .nil)
  | effect alloc nowMs =>
    simp only [Refresh.step] at st
    split at st
    · cases st
    · rename_i e todo next
      simp only [Option.ite_none_right_eq_some, Option.some.injEq] at st
      obtain ⟨⟨le, -⟩, rfl⟩ := st
      -- what is still to be done is not part of `Timed`
      obtain ⟨h1, h2, h3, h4, h5, h6, h7, h8⟩ := inv.timed
      have timed : Timed { w with todo := todo } := ⟨h1, h2, h3, h4, h5, h6, h7, h8⟩
      exact ⟨timed.perform le, inv.known.effect next⟩
  | cleanup =>
    simp only [Refresh.step, Option.ite_none_right_eq_some, Option.some.injEq] at st
    obtain ⟨⟨-, idle⟩, rfl⟩ := st
    exact ⟨inv.timed.cleanup, known_cleanup idle⟩

/-- A datagram with one message, which is only a header. -/
def headerOnly (type : UInt8) : Datagram nlBufSize where
  mem o := if o = 0 then 16 else if o = 4 then type else 0
  len := 16
  fits := by decide

end Atpd.Netlink.Refresh
