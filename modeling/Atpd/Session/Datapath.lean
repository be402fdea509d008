import Atpd.Daemon.Context
import Atpd.Lib.Run

/-!
# Session datapath

The part of `src/session.c` that moves bytes: the drain of a dirty pipe, the splice pump, and the two
reactor callbacks that call them. A session copies from `fd_in` through a kernel pipe to `fd_out`;
`inPipe` is what the kernel holds in that pipe, which the code does not see.

A call is given the results of its `splice` calls, in order, as a trace. Each entry also says what
the VPN snapshot is when the code looks at it and when the bytes move, so that the VPN may change
between any two steps. A trace that the kernel cannot produce, or that ends before the call returns,
gives `none`.

References, the registry and the GC queue are not part of the datapath; a session that is marked
closing goes to the GC queue at once.
-/

namespace Atpd.Session

open Atpd.Daemon

/-- `atpd_session_state_t`. -/
inductive SessionState where
  | idle
  | active
  | pipeDirty
  | draining
  | closing
  | destroyPending
  | destroyed
deriving DecidableEq, Repr

/-- `state >= ATPD_SESSION_CLOSING`. -/
def SessionState.isClosing : SessionState → Bool
  | .idle | .active | .pipeDirty | .draining => false
  | .closing | .destroyPending | .destroyed => true

/-- The errors of `splice` that the code tells apart. -/
inductive Errno where
  | eagain
  | eintr
  | epipe
  | econnreset
  | einval
  | other
deriving DecidableEq, Repr

/-- What `splice` returns. -/
inductive Spliced where
  | moved (n : Nat)
  | fails (errno : Errno)
deriving DecidableEq, Repr

/-- `atpd_session_t`, with the bytes in its pipe; `outLog` is history, newest first: the bytes that
each `splice` moved into `fd_out`, and the VPN state at that moment. -/
structure AtpdSession where
  state : SessionState
  gcEnqueued : Bool
  emergencyDrained : Bool
  pipePending : Nat
  bytesIn : Nat
  bytesOut : Nat
  lastActiveAt : Nat
  reactor : Bool
  inPipe : Nat
  outLog : List (Nat × VpnState)
deriving DecidableEq, Repr

/-- `atpd_session_create`; `reactor` says whether it is given a reactor. -/
def atpdSessionCreate (reactor : Bool) (nowMs : Nat) : AtpdSession where
  state := .idle
  gcEnqueued := false
  emergencyDrained := false
  pipePending := 0
  bytesIn := 0
  bytesOut := 0
  lastActiveAt := nowMs
  reactor := reactor
  inPipe := 0
  outLog := []

/-- `session_set_state`. -/
def sessionSetState (s : AtpdSession) (desired : SessionState) : AtpdSession × Bool :=
  if s.state.isClosing && !desired.isClosing then (s, false) else ({ s with state := desired }, true)

/-- `atpd_session_gc_enqueue`. -/
def atpdSessionGcEnqueue (s : AtpdSession) : AtpdSession :=
  if s.gcEnqueued then s
  else
    match sessionSetState { s with gcEnqueued := true } .destroyPending with
    | (s, true) => s
    | (s, false) => { s with gcEnqueued := false }

/-- `atpd_session_mark_closing`. -/
def atpdSessionMarkClosing (s : AtpdSession) : AtpdSession :=
  if s.state.isClosing then s else atpdSessionGcEnqueue { s with state := .closing }

/-- `emergency_drain`: the pipe is closed, and the kernel discards what is in it. -/
def emergencyDrain (s : AtpdSession) : AtpdSession :=
  if s.emergencyDrained then s
  else atpdSessionMarkClosing { s with emergencyDrained := true, inPipe := 0, pipePending := 0 }

/-- `atpd_session_is_vpn_ready`. -/
def atpdSessionIsVpnReady (vpn : VpnState) : Bool := vpn = .ready

/-- `splice(pipe_fds[0], NULL, fd_out, NULL, len, ..)`, which moves at most `len` bytes, and at most
what is in the pipe. -/
def spliceOut (s : AtpdSession) (len : Nat) (vpn : VpnState) : Spliced → Option AtpdSession
  | .moved n =>
    if n ≤ len ∧ n ≤ s.inPipe then
      some { s with inPipe := s.inPipe - n, outLog := (n, vpn) :: s.outLog }
    else none
  | .fails _ => some s

/-! ## Drain -/

/-- A `splice` of the drain: the VPN state at that moment, and what it returns. -/
structure DrainSplice where
  vpn : VpnState
  result : Spliced
deriving DecidableEq, Repr

/-- The outcomes of a drain; `modifyOk` says that `reactor_modify_fd` works. -/
structure DrainIo where
  trace : List DrainSplice
  modifyOk : Bool
deriving DecidableEq, Repr

/-- `atpd_session_drain_pipe` behind its loop. -/
def drainDone (s : AtpdSession) (modifyOk : Bool) : AtpdSession × Int :=
  match sessionSetState { s with pipePending := 0 } .active with
  | (s, false) => (s, -1)
  | (s, true) => if s.reactor && !modifyOk then (atpdSessionMarkClosing s, -1) else (s, 0)

/-- The loop of `atpd_session_drain_pipe`. -/
def drainLoop (modifyOk : Bool) (pending : Nat) :
    List DrainSplice → Nat → AtpdSession → Option (AtpdSession × Int)
  | [], sent, s => if sent < pending then none else some (drainDone s modifyOk)
  | o :: trace, sent, s =>
    if sent < pending then
      match spliceOut s (pending - sent) o.vpn o.result with
      | none => none
      | some s =>
        match o.result with
        | .fails .eagain =>
          some ((sessionSetState { s with pipePending := pending - sent } .pipeDirty).1, 1)
        | .fails .eintr => drainLoop modifyOk pending trace sent s
        -- `pipe_pending` is not stored here
        | .fails _ => some ((sessionSetState s .pipeDirty).1, -1)
        -- `break`: taken for the end of the pipe
        | .moved 0 => some (drainDone s modifyOk)
        | .moved n =>
          drainLoop modifyOk pending trace (sent + n) { s with bytesOut := s.bytesOut + n }
    else some (drainDone s modifyOk)

/-- `atpd_session_drain_pipe`. -/
def atpdSessionDrainPipe (s : AtpdSession) (io : DrainIo) : Option (AtpdSession × Int) :=
  let pending := s.pipePending
  if pending = 0 then some (s, 0)
  else if s.state ≠ .pipeDirty then some (s, 0)
  else
    match sessionSetState s .draining with
    | (s, false) => some (s, -1)
    | (s, true) => drainLoop io.modifyOk pending io.trace 0 s

/-! ## Pump -/

/-- `ATPD_SPLICE_OK`. -/
def spliceOk : Int := 0

/-- `ATPD_SPLICE_EOF`. -/
def spliceEof : Int := -1

/-- `ATPD_SPLICE_NOTSUP`. -/
def spliceNotsup : Int := -3

/-- `ATPD_SPLICE_ERROR`. -/
def spliceError : Int := -4

/-- `ATPD_SPLICE_VPN_NOT_READY`. -/
def spliceVpnNotReady : Int := -5

/-- `ATPD_SESSION_PIPE_SIZE`. -/
def sessionPipeSize : Nat := 64 * 1024

/-- A `splice` of the pump: from `fd_in`, or into `fd_out`, with the VPN state at the check before it
and at the moment of the splice. -/
inductive PumpSplice where
  | read (result : Spliced)
  | write (check now : VpnState) (result : Spliced)
deriving DecidableEq, Repr

/-- The outcomes of a pump; `entry` is the VPN state at the check at its entry. -/
structure PumpIo where
  entry : VpnState
  trace : List PumpSplice
  modifyOk : Bool
  nowMs : Nat
deriving DecidableEq, Repr

/-- The local variables of `atpd_session_splice_pump`. -/
structure Pump where
  s : AtpdSession
  totalMoved : Nat
  remaining : Nat
  bytesInTotal : Nat
  bytesOutTotal : Nat

/-- The loop that the pump is in; the inner one has sent `sent` of `toSend` bytes. -/
inductive Phase where
  | reading
  | writing (sent toSend : Nat)

/-- What an iteration leads to. -/
inductive Flow where
  | next (p : Pump) (phase : Phase)
  | ret (s : AtpdSession) (code : Int)

/-- Folds the totals into the counters of the session. -/
def Pump.count (p : Pump) : AtpdSession :=
  { p.s with bytesIn := p.s.bytesIn + p.bytesInTotal, bytesOut := p.s.bytesOut + p.bytesOutTotal }

/-- The label `done`. -/
def pumpDone (p : Pump) (nowMs : Nat) : Flow :=
  if 0 < p.totalMoved then .ret { p.count with lastActiveAt := nowMs } p.totalMoved
  else .ret p.s spliceOk

/-- `atpd_session_splice_pump`: what follows a `splice` from `fd_in`. -/
def pumpRead (p : Pump) (nowMs : Nat) : Spliced → Flow
  | .fails .eagain => pumpDone p nowMs
  | .fails .eintr => .next p .reading
  | .fails .epipe | .fails .econnreset | .moved 0 =>
    if 0 < p.totalMoved then pumpDone p nowMs else .ret p.s spliceEof
  | .fails .einval => .ret p.s spliceNotsup
  | .fails .other => .ret p.s spliceError
  | .moved n =>
    .next
      { p with
        s := { p.s with inPipe := p.s.inPipe + n }
        bytesInTotal := p.bytesInTotal + n } (.writing 0 n)

/-- `atpd_session_splice_pump`: the VPN is not ready at the check before a `splice` into `fd_out`. -/
def pumpVpnLost (p : Pump) : Flow :=
  let p := { p with s := emergencyDrain (atpdSessionMarkClosing p.s) }
  if 0 < p.totalMoved then .ret p.count p.totalMoved else .ret p.s spliceVpnNotReady

/-- `atpd_session_splice_pump`: a `splice` into `fd_out` would block. -/
def pumpBlocked (p : Pump) (sent toSend : Nat) (modifyOk : Bool) : Flow :=
  match sessionSetState { p.s with pipePending := toSend - sent } .pipeDirty with
  | (s, false) => .ret s spliceError
  | (s, true) =>
    -- `bytesOutTotal` has these bytes already
    let s := { p with s := s, bytesOutTotal := p.bytesOutTotal + sent }.count
    if s.reactor && !modifyOk then .ret (atpdSessionMarkClosing s) spliceError
    else .ret s (p.totalMoved + sent)

/-- `atpd_session_splice_pump`: the peer of `fd_out` is gone. -/
def pumpReset (p : Pump) (sent toSend : Nat) : Flow :=
  match sessionSetState { p.s with pipePending := toSend - sent } .pipeDirty with
  | (s, false) => .ret s spliceError
  | (s, true) =>
    let p := { p with s := s, bytesOutTotal := p.bytesOutTotal + sent }
    if 0 < p.totalMoved + sent then .ret p.count (p.totalMoved + sent) else .ret p.s spliceEof

/-- `atpd_session_splice_pump`: a `splice` into `fd_out` returns 0. -/
def pumpStalled (p : Pump) (sent : Nat) : Flow :=
  if 0 < p.totalMoved + sent then
    .ret { p with bytesOutTotal := p.bytesOutTotal + sent }.count (p.totalMoved + sent)
  else .ret p.s spliceEof

/-- `atpd_session_splice_pump`: `n` more bytes of the chunk are in `fd_out`. -/
def pumpSent (p : Pump) (sent toSend n : Nat) : Flow :=
  let sent := sent + n
  let p := { p with bytesOutTotal := p.bytesOutTotal + n }
  if sent < toSend then .next p (.writing sent toSend)
  else .next { p with totalMoved := p.totalMoved + sent, remaining := p.remaining - sent } .reading

/-- `atpd_session_splice_pump`: what follows a `splice` into `fd_out`. -/
def pumpWrite (p : Pump) (sent toSend : Nat) (modifyOk : Bool) : Spliced → Flow
  | .fails .eagain => pumpBlocked p sent toSend modifyOk
  | .fails .eintr => .next p (.writing sent toSend)
  | .fails .epipe | .fails .econnreset => pumpReset p sent toSend
  | .fails _ => .ret p.s spliceError
  | .moved 0 => pumpStalled p sent
  | .moved n => pumpSent p sent toSend n

/-- One iteration of one of the two loops. -/
def pumpStep (modifyOk : Bool) (nowMs : Nat) (p : Pump) : Phase → PumpSplice → Option Flow
  | .reading, o =>
    if p.remaining = 0 then some (pumpDone p nowMs)
    else
      match o with
      | .read (.moved n) => if n ≤ p.remaining then some (pumpRead p nowMs (.moved n)) else none
      | .read (.fails errno) => some (pumpRead p nowMs (.fails errno))
      | .write _ _ _ => none
  | .writing sent toSend, .write check now r =>
    if atpdSessionIsVpnReady check then
      (spliceOut p.s (toSend - sent) now r).map fun s =>
        pumpWrite { p with s := s } sent toSend modifyOk r
    else some (pumpVpnLost p)
  | .writing _ _, .read _ => none

/-- The return of a flow. -/
def Flow.returned : Flow → Option (AtpdSession × Int)
  | .ret s code => some (s, code)
  | .next _ _ => none

/-- The loops of `atpd_session_splice_pump`. -/
def pumpLoop (modifyOk : Bool) (nowMs : Nat) :
    List PumpSplice → Pump → Phase → Option (AtpdSession × Int)
  | [], p, .reading => if p.remaining = 0 then (pumpDone p nowMs).returned else none
  | [], _, .writing _ _ => none
  | o :: trace, p, phase =>
    match pumpStep modifyOk nowMs p phase o with
    | some (.next p phase) => pumpLoop modifyOk nowMs trace p phase
    | some (.ret s code) => some (s, code)
    | none => none

/-- `atpd_session_splice_pump`. -/
def atpdSessionSplicePump (s : AtpdSession) (maxLen : Nat) (io : PumpIo) :
    Option (AtpdSession × Int) :=
  if atpdSessionIsVpnReady io.entry then
    if s.state.isClosing then some (s, spliceError)
    else pumpLoop io.modifyOk io.nowMs io.trace ⟨s, 0, maxLen, 0, 0⟩ .reading
  else some (s, spliceVpnNotReady)

/-! ## Callbacks -/

/-- `session_in_cb`: the pump, and the end of a session whose pump fails. -/
def inCbPump (s : AtpdSession) (io : PumpIo) : Option AtpdSession := do
  let (s, ret) ← atpdSessionSplicePump s sessionPipeSize io
  if ret = spliceVpnNotReady then return atpdSessionMarkClosing s
  if ret < 0 then return atpdSessionMarkClosing s
  return s

/-- `session_in_cb`; `hangup` says that the events have an error or a hangup. -/
def sessionInCb (s : AtpdSession) (hangup : Bool) (drain : DrainIo) (pump : PumpIo) :
    Option AtpdSession :=
  if s.state.isClosing then some s
  else if hangup then some (atpdSessionMarkClosing s)
  else if s.state = .pipeDirty then do
    -- what the drain returns is not looked at, only the state it leaves
    let (s, _) ← atpdSessionDrainPipe s drain
    if s.state = .pipeDirty then return s
    inCbPump s pump
  else inCbPump s pump

/-- `session_out_cb`. -/
def sessionOutCb (s : AtpdSession) (hangup : Bool) (drain : DrainIo) : Option AtpdSession :=
  if s.state.isClosing then some s
  else if hangup then some (atpdSessionMarkClosing s)
  else if s.state = .pipeDirty then do
    let (s, ret) ← atpdSessionDrainPipe s drain
    if 0 < ret then return s
    if ret < 0 then return atpdSessionMarkClosing s
    return s
  else some s

/-! ## Runs -/

/-- A call of one of the two functions that move bytes. -/
inductive Call where
  | pump (maxLen : Nat) (io : PumpIo)
  | drain (io : DrainIo)
deriving DecidableEq

/-- A callback of the reactor. -/
inductive Callback where
  | inCb (hangup : Bool) (drain : DrainIo) (pump : PumpIo)
  | outCb (hangup : Bool) (drain : DrainIo)
deriving DecidableEq

/-- What can happen to a session: it is registered, it moves bytes, or it is closed. -/
inductive Event (α : Type*) where
  | register
  | act (a : α)
  | markClosing
  | emergency
deriving DecidableEq

/-- The session after a call. -/
def Call.run (s : AtpdSession) : Call → Option AtpdSession
  | .pump maxLen io => (atpdSessionSplicePump s maxLen io).map (·.1)
  | .drain io => (atpdSessionDrainPipe s io).map (·.1)

/-- The session after a callback. -/
def Callback.run (s : AtpdSession) : Callback → Option AtpdSession
  | .inCb hangup drain pump => sessionInCb s hangup drain pump
  | .outCb hangup drain => sessionOutCb s hangup drain

/-- The session after a call or a callback. -/
def actRun (s : AtpdSession) : Call ⊕ Callback → Option AtpdSession
  | .inl call => call.run s
  | .inr callback => callback.run s

/-- One step of a session whose bytes are moved by `act`. A session is registered once, when it is
new. -/
def step {α : Type*} (act : AtpdSession → α → Option AtpdSession) (s : AtpdSession) :
    Event α → Option AtpdSession
  | .register => if s.state = .idle then some (sessionSetState s .active).1 else none
  | .act a => act s a
  | .markClosing => some (atpdSessionMarkClosing s)
  | .emergency => some (if s.state.isClosing then s else emergencyDrain s)

/-- The session has a pipe to drain. -/
def AtpdSession.Dirty (s : AtpdSession) : Prop := s.pipePending ≠ 0 ∧ s.state = .pipeDirty

instance (s : AtpdSession) : Decidable s.Dirty :=
  inferInstanceAs (Decidable (s.pipePending ≠ 0 ∧ s.state = .pipeDirty))

/-- Ten bytes are read, four of them written before `fd_out` blocks. -/
def blockedPump : PumpIo where
  entry := .ready
  trace := [.read (.moved 10), .write .ready .ready (.moved 4), .write .ready .ready (.fails .eagain)]
  modifyOk := true
  nowMs := 2000

end Atpd.Session
