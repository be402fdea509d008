import Atpd.Session.Datapath

/-!
# What a call leaves

`atpd_session_splice_pump` keeps two totals and a count for the chunk it is writing, and returns in
the middle of its loops. `ending` reads off a trace how the pump ends, without a session: the bytes
`total` of the chunks that went through, and how much of the last chunk was sent when it was cut.
`Ending.after` is what the exit taken then makes of the session, as the source has it, and
`Leaves.of_pump` says that the pump does just that. `DrainEnding` and `Drained.of_drain` are the same
for the drain.

Three of the exits add `sent` to a total that has it already, so the bytes of a chunk that was cut
after a partial write are counted twice.
-/

namespace Atpd.Session

open Atpd.Daemon

variable {s s0 s' : AtpdSession} {modifyOk : Bool} {nowMs : Nat}

/-! ## Closing -/

/-- A session that is not closing takes any state. -/
lemma setState_open {d : SessionState} (up : s.state.isClosing = false) :
    sessionSetState s d = ({ s with state := d }, true) := by
  simp [sessionSetState, up]

/-- Queueing does not open a session. -/
lemma gcEnqueue_isClosing (closing : s.state.isClosing = true) :
    (atpdSessionGcEnqueue s).state.isClosing = true := by
  rw [atpdSessionGcEnqueue]
  split
  · exact closing
  · simp [sessionSetState, SessionState.isClosing]

@[simp] lemma markClosing_isClosing : (atpdSessionMarkClosing s).state.isClosing = true := by
  rw [atpdSessionMarkClosing]
  split
  · assumption
  · exact gcEnqueue_isClosing rfl

/-- Nor does draining it. -/
lemma emergencyDrain_isClosing (closing : s.state.isClosing = true) :
    (emergencyDrain s).state.isClosing = true := by
  rw [emergencyDrain]
  split
  · exact closing
  · exact markClosing_isClosing

/-- What an open session can have gone through in one step: something that moves bytes, its
registration, or nothing at all. -/
lemma step_open {α : Type*} {act : AtpdSession → α → Option AtpdSession} {e : Event α}
    (st : step act s e = some s') (up' : s'.state.isClosing = false) :
    (∃ a, e = .act a ∧ act s a = some s') ∨ s' = s ∨
      s.state = .idle ∧ s' = { s with state := .active } := by
  cases e with
  | register =>
    simp only [step, Option.ite_none_right_eq_some, Option.some.injEq] at st
    obtain ⟨idle, rfl⟩ := st
    exact .inr (.inr ⟨idle, by rw [setState_open (by rw [idle]; rfl)]⟩)
  | act a => exact .inl ⟨a, rfl, st⟩
  | markClosing =>
    cases st
    exact absurd (markClosing_isClosing.symm.trans up') (by decide)
  | emergency =>
    cases st
    right
    left
    split
    · rfl
    · rename_i up
      rw [if_neg up, emergencyDrain] at up'
      rw [emergencyDrain]
      split
      · rfl
      · rename_i first
        rw [if_neg first] at up'
        exact absurd (markClosing_isClosing.symm.trans up') (by decide)

/-! ## Endings of a pump -/

/-- How a pump ends: with whole chunks of `total` bytes, or with a further chunk of which `sent` of
`toSend` bytes were written. -/
inductive Ending where
  /-- There is nothing more to read, or no room for more. -/
  | finished (total : Nat)
  /-- Nothing was read, or reading has failed. -/
  | noInput
  /-- The VPN is not ready. -/
  | vpnLost
  /-- EAGAIN on `fd_out`. -/
  | blocked (total sent toSend : Nat)
  /-- EPIPE or ECONNRESET on `fd_out`. -/
  | reset (total sent toSend : Nat)
  /-- A zero return on `fd_out`. -/
  | stalled (total sent toSend : Nat)
  /-- Another error on `fd_out`. -/
  | failed (sent toSend : Nat)
deriving DecidableEq, Repr

/-- The ending of a trace, from a point where `remaining` bytes may be read and `total` bytes have
gone through. -/
def ending : List PumpSplice → Nat → Nat → Phase → Ending
  | [], _, total, _ => .finished total
  | o :: trace, remaining, total, .reading =>
    if remaining = 0 then .finished total
    else
      match o with
      | .read (.fails .eagain) => .finished total
      | .read (.fails .eintr) => ending trace remaining total .reading
      | .read (.fails .epipe) | .read (.fails .econnreset) | .read (.moved 0) =>
        if 0 < total then .finished total else .noInput
      | .read (.fails _) => .noInput
      | .read (.moved n) => ending trace remaining total (.writing 0 n)
      | .write _ _ _ => .noInput
  | o :: trace, remaining, total, .writing sent toSend =>
    match o with
    | .write check _ r =>
      if atpdSessionIsVpnReady check then
        match r with
        | .fails .eagain => .blocked total sent toSend
        | .fails .eintr => ending trace remaining total (.writing sent toSend)
        | .fails .epipe | .fails .econnreset => .reset total sent toSend
        | .fails _ => .failed sent toSend
        | .moved 0 => .stalled total sent toSend
        | .moved n =>
          if sent + n < toSend then ending trace remaining total (.writing (sent + n) toSend)
          else ending trace (remaining - (sent + n)) (total + (sent + n)) .reading
      else .vpnLost
    | .read _ => .noInput

/-- How a call of the pump ends, from its trace. -/
def PumpIo.ending (io : PumpIo) (maxLen : Nat) : Ending := Session.ending io.trace maxLen 0 .reading

/-- The part of a session that the datapath changes. -/
structure View where
  state : SessionState
  pipePending : Nat
  inPipe : Nat
  bytesIn : Nat
  bytesOut : Nat
deriving DecidableEq, Repr

/-- What the results depend on. -/
def AtpdSession.view (s : AtpdSession) : View :=
  ⟨s.state, s.pipePending, s.inPipe, s.bytesIn, s.bytesOut⟩

/-- The totals with a chunk that was cut: what was sent of it is counted twice. -/
def View.countCut (v : View) (total sent toSend : Nat) : View :=
  { v with bytesIn := v.bytesIn + (total + toSend), bytesOut := v.bytesOut + (total + sent + sent) }

/-- The rest of a chunk stays in the pipe. -/
def View.keep (v : View) (left : Nat) : View := { v with inPipe := v.inPipe + left }

/-- The rest of a chunk is known to stay in the pipe. -/
def View.dirty (v : View) (left : Nat) : View := { v with state := .pipeDirty, pipePending := left }

/-- What an ending makes of a session that is not closed by it. -/
def Ending.after (v : View) : Ending → View
  | .finished total => { v with bytesIn := v.bytesIn + total, bytesOut := v.bytesOut + total }
  | .noInput | .vpnLost => v
  | .blocked total sent toSend =>
    ((v.keep (toSend - sent)).dirty (toSend - sent)).countCut total sent toSend
  | .reset total sent toSend =>
    let v := (v.keep (toSend - sent)).dirty (toSend - sent)
    if 0 < total + sent then v.countCut total sent toSend else v
  | .stalled total sent toSend =>
    let v := v.keep (toSend - sent)
    if 0 < total + sent then v.countCut total sent toSend else v
  | .failed sent toSend => v.keep (toSend - sent)

/-- The pump returns an error. -/
def Ending.fails : Ending → Bool
  | .finished _ | .blocked _ _ _ => false
  | .reset total sent _ | .stalled total sent _ => total + sent = 0
  | .noInput | .vpnLost | .failed _ _ => true

/-- A chunk that was cut was not written whole. -/
def Ending.Proper : Ending → Prop
  | .finished _ | .noInput | .vpnLost => True
  | .blocked _ sent toSend | .reset _ sent toSend | .stalled _ sent toSend | .failed sent toSend =>
    sent < toSend

/-- The call leaves `s'` and returns `code`, as the ending says, or the session is closing. -/
structure Leaves (v : View) (e : Ending) (s' : AtpdSession) (code : Int) : Prop where
  proper : e.Proper
  left : s'.state.isClosing = true ∨ s'.view = e.after v ∧ (code < 0 ↔ e.fails = true)

/-! ## The pump -/

/-- The bytes of a chunk that are still in the pipe. -/
def Phase.left : Phase → Nat
  | .reading => 0
  | .writing sent toSend => toSend - sent

/-- The totals of a pump. -/
def Pump.Tally (p : Pump) : Phase → Prop
  | .reading => p.bytesInTotal = p.totalMoved ∧ p.bytesOutTotal = p.totalMoved
  | .writing sent toSend =>
    sent < toSend ∧ p.bytesInTotal = p.totalMoved + toSend ∧ p.bytesOutTotal = p.totalMoved + sent

/-- The invariant of the loops: the session is the one that was given, but for the chunk in its
pipe. -/
structure PumpInv (v : View) (p : Pump) (phase : Phase) : Prop where
  view : p.s.view = v.keep phase.left
  tally : p.Tally phase
  up : v.state.isClosing = false

variable {v : View} {p : Pump}

/-- Within the pump the session is open. -/
lemma PumpInv.up_session {phase : Phase} (inv : PumpInv v p phase) : p.s.state.isClosing = false := by
  have same : p.s.state = v.state := congrArg View.state inv.view
  rw [same]
  exact inv.up

/-- What an iteration leads to, when the trace from there on is `trace`. -/
def Follows (v : View) (e : Ending) (trace : List PumpSplice) : Flow → Prop
  | .next p phase => PumpInv v p phase ∧ e = ending trace p.remaining p.totalMoved phase
  | .ret s code => Leaves v e s code

/-- The pump has moved all that it may. -/
lemma PumpInv.done (inv : PumpInv v p .reading) (nowMs : Nat) (trace : List PumpSplice) :
    Follows v (.finished p.totalMoved) trace (pumpDone p nowMs) := by
  have view := inv.view
  obtain ⟨tin, tout⟩ := inv.tally
  simp only [AtpdSession.view, View.keep, Phase.left, Nat.add_zero, View.mk.injEq] at view
  rw [pumpDone]
  split
  · refine ⟨trivial, .inr ⟨?_, by simp [Ending.fails]⟩⟩
    simp [Pump.count, AtpdSession.view, Ending.after, view, tin, tout]
  · rename_i idle
    refine ⟨trivial, .inr ⟨?_, by simp [Ending.fails, spliceOk]⟩⟩
    have zero : p.totalMoved = 0 := by omega
    simp [AtpdSession.view, Ending.after, view, zero]

/-- A return that changes nothing. -/
lemma PumpInv.noInput {code : Int} (inv : PumpInv v p .reading) (neg : code < 0) :
    Leaves v .noInput p.s code := by
  refine ⟨trivial, .inr ⟨?_, by simp [Ending.fails, neg]⟩⟩
  simpa [Ending.after, View.keep, Phase.left] using inv.view

/-- A read, by its result. -/
lemma PumpInv.read {trace : List PumpSplice} {r : Spliced} (inv : PumpInv v p .reading)
    (room : p.remaining ≠ 0) :
    Follows v (ending (.read r :: trace) p.remaining p.totalMoved .reading) trace
      (pumpRead p nowMs r) := by
  have view := inv.view
  obtain ⟨tin, tout⟩ := inv.tally
  simp only [AtpdSession.view, View.keep, Phase.left, Nat.add_zero, View.mk.injEq] at view
  have eof : Follows v (if 0 < p.totalMoved then .finished p.totalMoved else .noInput) trace
      (if 0 < p.totalMoved then pumpDone p nowMs else .ret p.s spliceEof) := by
    split
    · exact inv.done nowMs trace
    · exact inv.noInput (by decide)
  cases r with
  | moved n =>
    cases n with
    | zero => simpa [ending, room, pumpRead] using eof
    | succ n =>
      simp only [ending, room, ↓reduceIte, pumpRead]
      refine ⟨⟨?_, ?_, inv.up⟩, rfl⟩
      · simp [AtpdSession.view, View.keep, Phase.left, view]
      · exact ⟨Nat.succ_pos n, by dsimp only; omega, tout⟩
  | fails errno =>
    cases errno with
    | eagain => simpa [ending, room, pumpRead] using inv.done nowMs trace
    | eintr => simpa [ending, room, pumpRead] using ⟨inv, rfl⟩
    | epipe => simpa [ending, room, pumpRead] using eof
    | econnreset => simpa [ending, room, pumpRead] using eof
    | einval =>
      simp only [ending, room, ↓reduceIte, pumpRead]
      exact inv.noInput (by decide)
    | other =>
      simp only [ending, room, ↓reduceIte, pumpRead]
      exact inv.noInput (by decide)

/-- What the session holds between two writes. -/
lemma PumpInv.fields {sent toSend : Nat} (inv : PumpInv v p (.writing sent toSend)) :
    p.s.state = v.state ∧ p.s.pipePending = v.pipePending ∧
      p.s.inPipe = v.inPipe + (toSend - sent) ∧ p.s.bytesIn = v.bytesIn ∧
      p.s.bytesOut = v.bytesOut := by
  have view := inv.view
  simpa only [AtpdSession.view, View.keep, Phase.left, View.mk.injEq] using view

/-- The output is full. -/
lemma PumpInv.blocked {sent toSend : Nat} (inv : PumpInv v p (.writing sent toSend))
    (modifyOk : Bool) :
    ∃ s code, pumpBlocked p sent toSend modifyOk = .ret s code ∧
      Leaves v (.blocked p.totalMoved sent toSend) s code := by
  obtain ⟨state, pending, pipe, bin, bout⟩ := inv.fields
  obtain ⟨lt, tin, tout⟩ := inv.tally
  simp only [pumpBlocked, setState_open (s := { p.s with pipePending := toSend - sent })
    inv.up_session]
  split
  · exact ⟨_, _, rfl, lt, .inl markClosing_isClosing⟩
  · refine ⟨_, _, rfl, lt, .inr ⟨?_, by simp [Ending.fails]; omega⟩⟩
    simp [Pump.count, AtpdSession.view, Ending.after, View.keep, View.dirty, View.countCut, pipe, bin,
      bout, tin, tout]

/-- The peer has gone. -/
lemma PumpInv.reset {sent toSend : Nat} (inv : PumpInv v p (.writing sent toSend)) :
    ∃ s code, pumpReset p sent toSend = .ret s code ∧
      Leaves v (.reset p.totalMoved sent toSend) s code := by
  obtain ⟨state, pending, pipe, bin, bout⟩ := inv.fields
  obtain ⟨lt, tin, tout⟩ := inv.tally
  simp only [pumpReset, setState_open (s := { p.s with pipePending := toSend - sent }) inv.up_session]
  split
  · rename_i progress
    refine ⟨_, _, rfl, lt, .inr ⟨?_, by simp [Ending.fails]; omega⟩⟩
    simp [Pump.count, AtpdSession.view, Ending.after, View.keep, View.dirty, View.countCut, pipe, bin,
      bout, tin, tout, progress]
  · rename_i idle
    refine ⟨_, _, rfl, lt, .inr ⟨?_, by simp [Ending.fails, spliceEof]; omega⟩⟩
    simp [AtpdSession.view, Ending.after, View.keep, View.dirty, pipe, bin, bout, idle]

/-- Nothing was written. -/
lemma PumpInv.stalled {sent toSend : Nat} (inv : PumpInv v p (.writing sent toSend)) :
    ∃ s code, pumpStalled p sent = .ret s code ∧
      Leaves v (.stalled p.totalMoved sent toSend) s code := by
  obtain ⟨state, pending, pipe, bin, bout⟩ := inv.fields
  obtain ⟨lt, tin, tout⟩ := inv.tally
  rw [pumpStalled]
  split
  · rename_i progress
    refine ⟨_, _, rfl, lt, .inr ⟨?_, by simp [Ending.fails]; omega⟩⟩
    simp [Pump.count, AtpdSession.view, Ending.after, View.keep, View.countCut, state, pending, pipe,
      bin, bout, tin, tout, progress]
  · rename_i idle
    refine ⟨_, _, rfl, lt, .inr ⟨?_, by simp [Ending.fails, spliceEof]; omega⟩⟩
    simp [AtpdSession.view, Ending.after, View.keep, state, pending, pipe, bin, bout, idle]

/-- Any other error. -/
lemma PumpInv.failed {sent toSend : Nat} (inv : PumpInv v p (.writing sent toSend)) :
    Leaves v (.failed sent toSend) p.s spliceError := by
  refine ⟨inv.tally.1, .inr ⟨?_, by simp [Ending.fails, spliceError]⟩⟩
  simpa [Ending.after, Phase.left] using inv.view

/-- Some of it was written. -/
lemma PumpInv.sent {sent toSend n : Nat} {trace : List PumpSplice} {now : VpnState}
    (inv : PumpInv v p (.writing sent toSend))
    (sp : spliceOut p.s (toSend - sent) now (.moved n) = some s) :
    Follows v
      (if sent + n < toSend then ending trace p.remaining p.totalMoved (.writing (sent + n) toSend)
        else ending trace (p.remaining - (sent + n)) (p.totalMoved + (sent + n)) .reading)
      trace (pumpSent { p with s := s } sent toSend n) := by
  obtain ⟨state, pending, pipe, bin, bout⟩ := inv.fields
  obtain ⟨lt, tin, tout⟩ := inv.tally
  simp only [spliceOut, Option.ite_none_right_eq_some, Option.some.injEq] at sp
  obtain ⟨⟨le, -⟩, rfl⟩ := sp
  simp only [pumpSent]
  split
  · rename_i more
    refine ⟨⟨?_, ⟨more, tin, by dsimp only; omega⟩, inv.up⟩, rfl⟩
    simp only [AtpdSession.view, View.keep, Phase.left, View.mk.injEq]
    exact ⟨state, pending, by omega, bin, bout⟩
  · rename_i whole
    refine ⟨⟨?_, ⟨by dsimp only; omega, by dsimp only; omega⟩, inv.up⟩, rfl⟩
    simp only [AtpdSession.view, View.keep, Phase.left, View.mk.injEq]
    exact ⟨state, pending, by omega, bin, bout⟩

/-- A write, by its result. -/
lemma PumpInv.write {sent toSend : Nat} {trace : List PumpSplice} {check now : VpnState} {r : Spliced}
    (inv : PumpInv v p (.writing sent toSend)) (ready : atpdSessionIsVpnReady check = true)
    (sp : spliceOut p.s (toSend - sent) now r = some s) :
    Follows v (ending (.write check now r :: trace) p.remaining p.totalMoved (.writing sent toSend))
      trace (pumpWrite { p with s := s } sent toSend modifyOk r) := by
  cases r with
  | moved n =>
    cases n with
    | zero =>
      simp only [spliceOut, Nat.zero_le, and_self, ↓reduceIte, Option.some.injEq] at sp
      cases sp
      simp only [ending, ready, ↓reduceIte, pumpWrite]
      have inv : PumpInv v { p with s := { p.s with outLog := (0, now) :: p.s.outLog } }
          (.writing sent toSend) := ⟨inv.view, inv.tally, inv.up⟩
      obtain ⟨s, code, eq, leaves⟩ := inv.stalled
      exact eq ▸ leaves
    | succ n =>
      simp only [ending, ready, ↓reduceIte, pumpWrite]
      exact inv.sent sp
  | fails errno =>
    cases sp
    cases errno with
    | eagain =>
      simp only [ending, ready, ↓reduceIte, pumpWrite]
      obtain ⟨s, code, eq, leaves⟩ := inv.blocked modifyOk
      exact eq ▸ leaves
    | eintr =>
      simp only [ending, ready, ↓reduceIte, pumpWrite]
      exact ⟨inv, rfl⟩
    | epipe =>
      simp only [ending, ready, ↓reduceIte, pumpWrite]
      obtain ⟨s, code, eq, leaves⟩ := inv.reset
      exact eq ▸ leaves
    | econnreset =>
      simp only [ending, ready, ↓reduceIte, pumpWrite]
      obtain ⟨s, code, eq, leaves⟩ := inv.reset
      exact eq ▸ leaves
    | einval =>
      simp only [ending, ready, ↓reduceIte, pumpWrite]
      exact inv.failed
    | other =>
      simp only [ending, ready, ↓reduceIte, pumpWrite]
      exact inv.failed

/-- Without the VPN nothing is written. -/
lemma pumpVpnLost_leaves : ∃ s code, pumpVpnLost p = .ret s code ∧ Leaves v .vpnLost s code := by
  have lost : (emergencyDrain (atpdSessionMarkClosing p.s)).state.isClosing = true :=
    emergencyDrain_isClosing markClosing_isClosing
  simp only [pumpVpnLost]
  split
  · exact ⟨_, _, rfl, trivial, .inl lost⟩
  · exact ⟨_, _, rfl, trivial, .inl lost⟩

/-- One splice brings the pump one step further on its trace. -/
lemma PumpInv.step {phase : Phase} {o : PumpSplice} {f : Flow} (inv : PumpInv v p phase)
    (st : pumpStep modifyOk nowMs p phase o = some f) (trace : List PumpSplice) :
    Follows v (ending (o :: trace) p.remaining p.totalMoved phase) trace f := by
  cases phase with
  | reading =>
    simp only [pumpStep] at st
    split at st
    · rename_i full
      cases st
      simpa [ending, full] using inv.done nowMs trace
    · rename_i room
      split at st
      · simp only [Option.ite_none_right_eq_some, Option.some.injEq] at st
        obtain ⟨-, rfl⟩ := st
        exact inv.read room
      · cases st
        exact inv.read room
      · cases st
  | writing sent toSend =>
    cases o with
    | read r => cases st
    | write check now r =>
      simp only [pumpStep] at st
      split at st
      · rename_i ready
        obtain ⟨s1, sp, rfl⟩ := Option.map_eq_some_iff.mp st
        exact inv.write ready sp
      · rename_i lost
        cases st
        simp only [ending, lost, Bool.false_eq_true, ↓reduceIte]
        obtain ⟨s, code, eq, leaves⟩ := pumpVpnLost_leaves (v := v) (p := p)
        exact eq ▸ leaves

/-- The loops, by induction on the `splice` calls left. -/
lemma PumpInv.loop {phase : Phase} {trace : List PumpSplice} {code : Int} (inv : PumpInv v p phase)
    (pu : pumpLoop modifyOk nowMs trace p phase = some (s', code)) :
    Leaves v (ending trace p.remaining p.totalMoved phase) s' code := by
  -- `ending` recurses over the trace as the loops do, so the two go in step
  induction trace generalizing p phase with
  | nil =>
    cases phase with
    | reading =>
      simp only [pumpLoop, Option.ite_none_right_eq_some] at pu
      have done := inv.done nowMs []
      obtain ⟨-, pu⟩ := pu
      rw [Flow.returned.eq_def] at pu
      split at pu
      · rename_i heq
        rw [heq] at done
        cases pu
        exact done
      · cases pu
    | writing sent toSend => cases pu
  | cons o trace ih =>
    rw [pumpLoop.eq_def] at pu
    dsimp only at pu
    split at pu
    · rename_i st
      obtain ⟨inv, same⟩ := inv.step st trace
      rw [same]
      exact ih inv pu
    · rename_i st
      cases pu
      exact inv.step st trace
    · cases pu

/-- `atpd_session_splice_pump` on a session that is not closing, while the VPN is ready. -/
lemma Leaves.of_pump {maxLen : Nat} {io : PumpIo} {code : Int} (up : s.state.isClosing = false)
    (ready : io.entry = .ready) (pu : atpdSessionSplicePump s maxLen io = some (s', code)) :
    Leaves s.view (io.ending maxLen) s' code := by
  simp only [atpdSessionSplicePump, atpdSessionIsVpnReady, ready, decide_true, ↓reduceIte, up,
    Bool.false_eq_true] at pu
  have inv : PumpInv s.view ⟨s, 0, maxLen, 0, 0⟩ .reading := ⟨rfl, ⟨rfl, rfl⟩, up⟩
  exact inv.loop pu

/-! ## The drain -/

/-- How a drain ends, with `sent` bytes written. -/
inductive DrainEnding where
  /-- The pipe is empty. -/
  | clean
  /-- EAGAIN. -/
  | blocked (sent : Nat)
  /-- A zero return. -/
  | stalled (sent : Nat)
  /-- Another error. -/
  | failed (sent : Nat)
deriving DecidableEq, Repr

/-- The ending of a trace, when `sent` of `pending` bytes have been written. -/
def drainEnding (pending : Nat) : List DrainSplice → Nat → DrainEnding
  | [], _ => .clean
  | o :: trace, sent =>
    if sent < pending then
      match o.result with
      | .fails .eagain => .blocked sent
      | .fails .eintr => drainEnding pending trace sent
      | .fails _ => .failed sent
      | .moved 0 => .stalled sent
      | .moved n => drainEnding pending trace (sent + n)
    else .clean

/-- How a call of the drain ends, from its trace. -/
def DrainIo.ending (io : DrainIo) (pending : Nat) : DrainEnding := drainEnding pending io.trace 0

/-- `sent` bytes leave the pipe. -/
def View.send (v : View) (sent : Nat) : View :=
  { v with inPipe := v.inPipe - sent, bytesOut := v.bytesOut + sent }

/-- What an ending makes of a session that is not closed by it. A zero return is taken for the end of
the pipe; after an error the count of the pipe stays what it was. -/
def DrainEnding.after (v : View) : DrainEnding → View
  | .clean => { v.send v.pipePending with state := .active, pipePending := 0 }
  | .blocked sent => { v.send sent with state := .pipeDirty, pipePending := v.pipePending - sent }
  | .stalled sent => { v.send sent with state := .active, pipePending := 0 }
  | .failed sent => { v.send sent with state := .pipeDirty }

/-- What the drain returns. -/
def DrainEnding.code : DrainEnding → Int
  | .clean | .stalled _ => 0
  | .blocked _ => 1
  | .failed _ => -1

/-- A drain does not write more than is pending and in the pipe. -/
def DrainEnding.Proper (v : View) : DrainEnding → Prop
  | .clean => v.pipePending ≤ v.inPipe
  | .blocked sent | .stalled sent | .failed sent => sent < v.pipePending ∧ sent ≤ v.inPipe

/-- The drain leaves `s'` and returns `code`, as the ending says, or the session is closing. -/
structure Drained (v : View) (e : DrainEnding) (s' : AtpdSession) (code : Int) : Prop where
  proper : e.Proper v
  left : s'.state.isClosing = true ∨ s'.view = e.after v ∧ code = e.code

/-- The invariant of the loop. -/
structure DrainInv (v : View) (sent : Nat) (s : AtpdSession) : Prop where
  view : s.view = { v.send sent with state := .draining }
  le : sent ≤ v.pipePending ∧ sent ≤ v.inPipe

/-- Within the drain the session is open. -/
lemma DrainInv.up {sent : Nat} (inv : DrainInv v sent s) : s.state.isClosing = false := by
  have draining : s.state = .draining := congrArg View.state inv.view
  rw [draining]
  rfl

/-- What it holds between two writes. -/
lemma DrainInv.fields {sent : Nat} (inv : DrainInv v sent s) :
    s.pipePending = v.pipePending ∧ s.inPipe = v.inPipe - sent ∧ s.bytesIn = v.bytesIn ∧
      s.bytesOut = v.bytesOut + sent := by
  have view := inv.view
  simp only [AtpdSession.view, View.send, View.mk.injEq] at view
  exact view.2

/-- The pipe is empty, and the session goes on. -/
lemma DrainInv.done {sent : Nat} {code : Int} {e : DrainEnding} (inv : DrainInv v sent s)
    (proper : e.Proper v) (after : e.after v = { v.send sent with state := .active, pipePending := 0 })
    (zero : e.code = 0) (dr : some (drainDone s modifyOk) = some (s', code)) :
    Drained v e s' code := by
  obtain ⟨pending, pipe, bin, bout⟩ := inv.fields
  refine ⟨proper, ?_⟩
  simp only [drainDone, setState_open (s := { s with pipePending := 0 }) inv.up,
    Option.some.injEq] at dr
  split at dr
  · cases dr
    exact .inl markClosing_isClosing
  · cases dr
    right
    rw [after, zero]
    simp [AtpdSession.view, View.send, pipe, bin, bout]

/-- The loop of the drain, by induction on the `splice` calls left. -/
lemma DrainInv.loop {trace : List DrainSplice} {sent : Nat} {code : Int} (inv : DrainInv v sent s)
    (dr : drainLoop modifyOk v.pipePending trace sent s = some (s', code)) :
    Drained v (drainEnding v.pipePending trace sent) s' code := by
  -- both ways out of the loop with everything sent
  have clean : ∀ {s sent}, DrainInv v sent s → ¬sent < v.pipePending →
      some (drainDone s modifyOk) = some (s', code) → Drained v .clean s' code := by
    intro s sent inv whole dr
    have all : sent = v.pipePending := by
      have := inv.le
      omega
    have room : v.pipePending ≤ v.inPipe := all ▸ inv.le.2
    exact inv.done room (by rw [all]; rfl) rfl dr
  induction trace generalizing sent s with
  | nil =>
    rw [drainLoop] at dr
    split at dr
    · cases dr
    · rename_i whole
      exact clean inv whole dr
  | cons o trace ih =>
    rw [drainLoop] at dr
    rw [drainEnding]
    split at dr
    · rename_i more
      rw [if_pos more]
      obtain ⟨pending, pipe, bin, bout⟩ := inv.fields
      cases hr : o.result with
      | fails errno =>
        simp only [hr, spliceOut] at dr
        cases errno with
        | eagain =>
          simp only [setState_open (s := { s with pipePending := v.pipePending - sent }) inv.up,
            Option.some.injEq, Prod.mk.injEq] at dr
          obtain ⟨rfl, rfl⟩ := dr
          refine ⟨⟨more, inv.le.2⟩, .inr ⟨?_, rfl⟩⟩
          simp [AtpdSession.view, DrainEnding.after, View.send, pipe, bin, bout]
        | eintr => exact ih inv dr
        | epipe | econnreset | einval | other =>
          simp only [setState_open inv.up, Option.some.injEq, Prod.mk.injEq] at dr
          obtain ⟨rfl, rfl⟩ := dr
          refine ⟨⟨more, inv.le.2⟩, .inr ⟨?_, rfl⟩⟩
          simp [AtpdSession.view, DrainEnding.after, View.send, pending, pipe, bin, bout]
      | moved n =>
        simp only [hr, spliceOut] at dr
        split at dr
        · cases dr
        · rename_i s1 sp
          simp only [Option.ite_none_right_eq_some, Option.some.injEq] at sp
          obtain ⟨⟨len, avail⟩, rfl⟩ := sp
          cases n with
          | zero =>
            have inv : DrainInv v sent
                { s with inPipe := s.inPipe - 0, outLog := (0, o.vpn) :: s.outLog } :=
              ⟨inv.view, inv.le⟩
            exact inv.done ⟨more, inv.le.2⟩ rfl rfl dr
          | succ n =>
            refine ih ⟨?_, ?_⟩ dr
            · have draining : s.state = .draining := congrArg View.state inv.view
              simp only [AtpdSession.view, View.send, View.mk.injEq]
              exact ⟨draining, pending, by omega, bin, by omega⟩
            · have := inv.le
              omega
    · rename_i whole
      rw [if_neg whole]
      exact clean inv whole dr

/-- `atpd_session_drain_pipe` on a dirty session. -/
lemma Drained.of_drain {io : DrainIo} {code : Int} (dirty : s.Dirty)
    (dr : atpdSessionDrainPipe s io = some (s', code)) :
    Drained s.view (io.ending s.pipePending) s' code := by
  obtain ⟨pending, dirty⟩ := dirty
  have up : s.state.isClosing = false := by
    rw [dirty]
    rfl
  simp only [atpdSessionDrainPipe, pending, ↓reduceIte, dirty, ne_eq, not_true_eq_false,
    setState_open up] at dr
  have inv : DrainInv s.view 0 { s with state := .draining } :=
    ⟨by simp [AtpdSession.view, View.send], by simp⟩
  exact inv.loop dr

/-- `atpd_session_drain_pipe` does nothing to another session. -/
lemma drain_clean {io : DrainIo} {code : Int} (clean : ¬s.Dirty)
    (dr : atpdSessionDrainPipe s io = some (s', code)) : s' = s ∧ code = 0 := by
  simp only [atpdSessionDrainPipe] at dr
  split at dr
  · cases dr
    exact ⟨rfl, rfl⟩
  · rename_i pending
    rw [if_pos fun dirty => clean ⟨pending, dirty⟩] at dr
    cases dr
    exact ⟨rfl, rfl⟩

end Atpd.Session
