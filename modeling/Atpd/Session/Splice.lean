import Mathlib.Algebra.Group.Nat.Defs
import Atpd.Session.Datapath

/-!
# The stateful splice

`atpd_bridge_splice_stateful` of `src/splice.c`, which forwards from one descriptor to another through
the pipe of a `splice_state_t`, and keeps three counters about that pipe. A call is given the results
of its `splice` calls, in order, as a trace; a trace that the kernel cannot produce, or that does not end
where the call returns, gives `none`.

The counters are brought up to date where the function leaves its loops, and not where it leaves them
for `ATPD_SPLICE_NOTSUP` or `ATPD_SPLICE_ERROR`. `interrupted` finds in a trace that bytes had been
written before such an error; it says exactly when the counters are right afterwards.
-/

namespace Atpd.Session.Splice

open Atpd.Lib

/-- The errors that the function tells apart. -/
inductive Errno where
  /-- `EWOULDBLOCK` is the same number. -/
  | eagain
  | eintr
  | epipe
  | econnreset
  | einval
  | enosys
  | espipe
  | other
deriving DecidableEq, Repr

/-- What `splice` returns. -/
inductive Result where
  | moved (n : Nat)
  | fails (errno : Errno)
deriving DecidableEq, Repr

/-- A `splice` from `fd_in` into the pipe, or from the pipe into `fd_out`. -/
inductive SpliceCall where
  | read (result : Result)
  | write (result : Result)
deriving DecidableEq, Repr

/-- `splice_state_t`. -/
structure SpliceState where
  pipeFds : Int × Int
  pipePending : Nat
  pipeCapacity : Nat
  bytesIn : UInt64
  bytesOut : UInt64
  pipeInitialized : Bool
deriving DecidableEq, Repr

/-- A state, with the bytes in its pipe; `received` and `sent` are history: all the bytes that came
into the pipe, and all that left it. -/
structure Machine where
  state : SpliceState
  inPipe : Nat
  received : Nat
  sent : Nat
deriving DecidableEq, Repr

/-- `ATPD_SPLICE_EAGAIN`. -/
def spliceEagain : Int := -2

/-- `ATPD_SPLICE_PIPE_SIZE`. -/
def splicePipeSize : Int := 64 * 1024

/-- `ATPD_SPLICE_DEFAULT_CHUNK`. -/
def spliceDefaultChunk : Nat := 64 * 1024

/-- `ATPD_SPLICE_MAX_PER_EVENT`. -/
def spliceMaxPerEvent : Nat := 4 * 1024 * 1024

/-- `atpd_splice_state_init`, with what `pipe2` and the two `fcntl` return. -/
def atpdSpliceStateInit (pipe : Option (Int × Int)) (setSize getSize : Int) : SpliceState × Int :=
  let state : SpliceState :=
    { pipeFds := (-1, -1), pipePending := 0, pipeCapacity := 0, bytesIn := 0, bytesOut := 0,
      pipeInitialized := false }
  match pipe with
  | none => (state, -1)
  | some fds =>
    let actual :=
      if setSize < 0 then if getSize < 0 then splicePipeSize else getSize else setSize
    ({ state with pipeFds := fds, pipeCapacity := actual.toNat, pipeInitialized := true }, 0)

/-- Nothing is in a pipe that was just made. -/
def Machine.start (state : SpliceState) : Machine := ⟨state, 0, 0, 0⟩

/-! ## The function -/

/-- `splice(pipe_fds[0], NULL, fd_out, NULL, ..)` has moved `n` bytes. -/
def Machine.leave (m : Machine) (n : Nat) : Machine :=
  { m with inPipe := m.inPipe - n, sent := m.sent + n }

/-- `splice(fd_in, NULL, pipe_fds[1], NULL, ..)` has moved `n` bytes. -/
def Machine.enter (m : Machine) (n : Nat) : Machine :=
  { m with inPipe := m.inPipe + n, received := m.received + n }

/-- `pipe_pending -= n; bytes_out += n`. -/
def Machine.wrote (m : Machine) (n : Nat) : Machine :=
  { m with
    state.pipePending := m.state.pipePending - n
    state.bytesOut := m.state.bytesOut + .ofNat n }

/-- `pipe_pending += n; bytes_in += n`. -/
def Machine.took (m : Machine) (n : Nat) : Machine :=
  { m with
    state.pipePending := m.state.pipePending + n
    state.bytesIn := m.state.bytesIn + .ofNat n }

/-- How a loop that writes is left. -/
inductive Exit where
  | whole
  | again
  | reset
  | zero
  | notsup
  | error
deriving DecidableEq, Repr

/-- The loops of the phases 1 and 3: `done` of `len` bytes are written. -/
def writeLoop (len : Nat) :
    List SpliceCall → Nat → Machine → Option (Exit × Nat × Machine × List SpliceCall)
  | [], done, m => if done < len then none else some (.whole, done, m, [])
  | sp :: trace, done, m =>
    if done < len then
      match sp with
      | .read _ => none
      | .write (.moved n) =>
        if n ≤ len - done ∧ n ≤ m.inPipe then
          if n = 0 then some (.zero, done, m, trace) else writeLoop len trace (done + n) (m.leave n)
        else none
      | .write (.fails .eintr) => writeLoop len trace done m
      | .write (.fails .eagain) => some (.again, done, m, trace)
      | .write (.fails .epipe) | .write (.fails .econnreset) => some (.reset, done, m, trace)
      | .write (.fails .einval) | .write (.fails .enosys) | .write (.fails .espipe) =>
        some (.notsup, done, m, trace)
      | .write (.fails .other) => some (.error, done, m, trace)
    else some (.whole, done, m, sp :: trace)

/-- A return from a loop that has written `n` bytes, after `total` before it. -/
def leaveLoop (m : Machine) (total n : Nat) : Exit → Machine × Int
  | .whole => (m.wrote n, (total + n : Nat))
  | .again => if 0 < n then (m.wrote n, (total + n : Nat)) else (m, spliceEagain)
  | .reset | .zero => if 0 < n then (m.wrote n, (total + n : Nat)) else (m, spliceEof)
  -- what was written is not counted here
  | .notsup => (m, spliceNotsup)
  | .error => (m, spliceError)

/-- A phase returns from the function, or goes on with `total_forwarded` and `remaining_limit`. -/
inductive Flow where
  | returns (ret : Int)
  | goesOn (total limit : Nat)
deriving DecidableEq, Repr

/-- PHASE 1: drain what is pending. -/
def drainPhase (m : Machine) (maxLen limit : Nat) (trace : List SpliceCall) :
    Option (Machine × Flow × List SpliceCall) :=
  if 0 < m.state.pipePending then
    match writeLoop (min m.state.pipePending limit) trace 0 m with
    | none => none
    | some (.whole, drained, m, trace) =>
      let m := m.wrote drained
      if maxLen ≠ 0 ∧ maxLen ≤ drained then some (m, .returns drained, trace)
      else
        let limit := if maxLen ≠ 0 then maxLen - drained else limit
        let limit := min limit spliceMaxPerEvent
        if 0 < m.state.pipePending then some (m, .returns drained, trace)
        else some (m, .goesOn drained limit, trace)
    | some (exit, drained, m, trace) =>
      let (m, ret) := leaveLoop m 0 drained exit
      some (m, .returns ret, trace)
  else some (m, .goesOn 0 limit, trace)

/-- The loop of PHASE 2, until `splice` returns something else than `EINTR`. -/
def readLoop : List SpliceCall → Option (Result × List SpliceCall)
  | .read (.fails .eintr) :: trace => readLoop trace
  | .read r :: trace => some (r, trace)
  | _ => none

/-- `total_forwarded > 0 ? total_forwarded : ret`. -/
def forwardedOr (total : Nat) (ret : Int) : Int := if 0 < total then total else ret

/-- PHASE 2: read into the empty pipe. -/
def readPhase (m : Machine) (total limit : Nat) (trace : List SpliceCall) :
    Option (Machine × Flow × List SpliceCall) :=
  if m.state.pipePending = 0 ∧ 0 < limit then
    let readChunk := min (min spliceDefaultChunk limit) m.state.pipeCapacity
    match readLoop trace with
    | none => none
    | some (.moved n, trace) =>
      if n ≤ readChunk then
        if n = 0 then some (m, .returns (forwardedOr total spliceEof), trace)
        else some ((m.enter n).took n, .goesOn total limit, trace)
      else none
    | some (.fails errno, trace) =>
      match errno with
      | .eagain => some (m, .returns (forwardedOr total spliceEagain), trace)
      | .einval | .enosys | .espipe => some (m, .returns spliceNotsup, trace)
      | .epipe | .econnreset => some (m, .returns (forwardedOr total spliceEof), trace)
      -- the loop does not end with `EINTR`
      | .eintr | .other => some (m, .returns spliceError, trace)
  else some (m, .goesOn total limit, trace)

/-- PHASE 3: write what was read. -/
def writePhase (m : Machine) (total limit : Nat) (trace : List SpliceCall) :
    Option (Machine × Flow × List SpliceCall) :=
  if 0 < m.state.pipePending then
    match writeLoop (min m.state.pipePending limit) trace 0 m with
    | none => none
    | some (.whole, written, m, trace) => some (m.wrote written, .goesOn (total + written) limit, trace)
    | some (exit, written, m, trace) =>
      let (m, ret) := leaveLoop m total written exit
      some (m, .returns ret, trace)
  else some (m, .goesOn total limit, trace)

/-- `remaining_limit` at the entry. -/
def entryLimit (maxLen : Nat) : Nat :=
  min (if maxLen ≠ 0 then maxLen else 2 ^ 64 - 1) spliceMaxPerEvent

/-- `atpd_bridge_splice_stateful`, with the results that its trace has left. -/
def bridge (fdIn fdOut : Int) (m : Machine) (maxLen : Nat) (trace : List SpliceCall) :
    Option (Machine × Int × List SpliceCall) :=
  if m.state.pipeInitialized = false ∨ fdIn < 0 ∨ fdOut < 0 then some (m, spliceError, trace)
  else
    match drainPhase m maxLen (entryLimit maxLen) trace with
    | none => none
    | some (m, .returns ret, trace) => some (m, ret, trace)
    | some (m, .goesOn total limit, trace) =>
      match readPhase m total limit trace with
      | none => none
      | some (m, .returns ret, trace) => some (m, ret, trace)
      | some (m, .goesOn total limit, trace) =>
        match writePhase m total limit trace with
        | none => none
        | some (m, .returns ret, trace) => some (m, ret, trace)
        | some (m, .goesOn total _, trace) =>
          if maxLen ≠ 0 ∧ maxLen ≤ total then some (m, total, trace)
          else some (m, forwardedOr total spliceOk, trace)

/-- A call, with the results of its `splice` calls. -/
structure Call where
  fdIn : Int
  fdOut : Int
  maxLen : Nat
  trace : List SpliceCall
deriving DecidableEq, Repr

/-- `atpd_bridge_splice_stateful`. -/
def atpdBridgeSpliceStateful (m : Machine) (c : Call) : Option (Machine × Int) :=
  match bridge c.fdIn c.fdOut m c.maxLen c.trace with
  | some (m, ret, []) => some (m, ret)
  | _ => none

/-- A call that returns. -/
def step (m : Machine) (c : Call) : Option Machine := (atpdBridgeSpliceStateful m c).map Prod.fst

/-! ## The counters -/

/-- After each call: `pipe_pending` is what the pipe holds, and the two totals differ by it. -/
structure Accounted (m : Machine) : Prop where
  pending : m.state.pipePending = m.inPipe
  bytes : m.state.bytesIn = m.state.bytesOut + .ofNat m.state.pipePending
  room : m.state.pipePending ≤ m.state.pipeCapacity

/-- The assertions at the head of the function, under `ATPD_DEBUG`. -/
def Asserts (m : Machine) : Prop :=
  m.inPipe = m.state.pipePending ∧ 0 ≤ m.state.pipeFds.1 ∧ 0 ≤ m.state.pipeFds.2 ∧
    m.state.bytesOut ≤ m.state.bytesIn ∧ m.state.pipePending ≤ m.state.pipeCapacity ∧
    m.state.bytesIn = m.state.bytesOut + .ofNat m.state.pipePending

instance (m : Machine) : Decidable (Asserts m) := inferInstanceAs (Decidable (_ ∧ _))

/-- The errors for which a loop that writes is left without counting. -/
def Errno.fatal : Errno → Bool
  | .einval | .enosys | .espipe | .other => true
  | .eagain | .eintr | .epipe | .econnreset => false

/-- The exits that do not book what was moved. -/
def Exit.fatal : Exit → Bool
  | .notsup | .error => true
  | .whole | .again | .reset | .zero => false

/-- A write fails for good, and one since the last read had moved something; `moved` says that one
before the trace has. -/
def interrupted : Bool → List SpliceCall → Bool
  | _, [] => false
  | _, .read _ :: trace => interrupted false trace
  | moved, .write (.moved n) :: trace => interrupted (moved || decide (0 < n)) trace
  | moved, .write (.fails errno) :: trace => (moved && errno.fatal) || interrupted moved trace

/-- The call has written something, and is then left without counting it. -/
def Call.interrupted (c : Call) : Bool := Splice.interrupted false c.trace

variable {m m' m1 : Machine} {len done n total limit maxLen : Nat} {exit : Exit} {moved : Bool}
  {trace trace' rest : List SpliceCall} {flow : Flow}

/-- What a loop that writes has done. -/
structure Wrote (len : Nat) (m : Machine) (n : Nat) (m' : Machine) : Prop where
  le : n ≤ len
  held : n ≤ m.inPipe
  leave : m' = m.leave n

/-- What the loop has written, and whether it was interrupted. -/
lemma writeLoop_spec (le : done ≤ len) (lp : writeLoop len trace done m = some (exit, n, m', rest)) :
    ∃ k, n = done + k ∧ Wrote (len - done) m k m' ∧
      interrupted moved trace = (((moved || decide (0 < k)) && exit.fatal) ||
        interrupted (moved || decide (0 < k)) rest) := by
  induction trace generalizing done m moved with
  | nil =>
    simp only [writeLoop] at lp
    split at lp
    · cases lp
    · cases lp
      exact ⟨0, rfl, ⟨Nat.zero_le _, Nat.zero_le _, rfl⟩, by simp [Exit.fatal]⟩
  | cons sp trace ih =>
    have stays : Wrote (len - done) m 0 m := ⟨Nat.zero_le _, Nat.zero_le _, rfl⟩
    simp only [writeLoop] at lp
    split at lp
    · rename_i short
      cases sp with
      | read r => cases lp
      | write r =>
        cases r with
        | moved k =>
          simp only at lp
          split at lp
          · rename_i fits
            split at lp
            · rename_i zero
              cases lp
              exact ⟨0, rfl, stays, by simp [interrupted, zero, Exit.fatal]⟩
            · rename_i pos
              have pos : 0 < k := Nat.pos_of_ne_zero pos
              -- the rest of the loop, with what was written so far
              obtain ⟨j, rfl, wrote, eq⟩ := @ih _ _ (moved || decide (0 < k)) (by omega) lp
              refine ⟨k + j, by omega, ⟨?_, ?_, ?_⟩, ?_⟩
              · have := wrote.le
                omega
              · have := wrote.held
                simp only [Machine.leave] at this
                omega
              · rw [wrote.leave]
                simp [Machine.leave, Nat.sub_sub, Nat.add_assoc]
              · have both : 0 < k + j := by omega
                rw [interrupted, eq]
                simp [pos, both]
          · cases lp
        | fails errno =>
          -- only EINTR goes on
          cases errno with
          | eintr =>
            obtain ⟨k, rfl, wrote, eq⟩ := @ih _ _ moved le lp
            exact ⟨k, rfl, wrote, by rw [interrupted, eq]; simp [Errno.fatal]⟩
          | _ =>
            cases lp
            exact ⟨0, rfl, stays, by simp [interrupted, Errno.fatal, Exit.fatal]⟩
    · cases lp
      exact ⟨0, rfl, stays, by simp [Exit.fatal]⟩

/-- Counting what was written. -/
lemma Accounted.wrote (ac : Accounted m) (held : n ≤ m.inPipe) : Accounted ((m.leave n).wrote n) := by
  have pending : n ≤ m.state.pipePending := ac.pending ▸ held
  refine ⟨?_, ?_, ?_⟩
  · simp only [Machine.wrote, Machine.leave, ac.pending]
  · have parts : n + (m.state.pipePending - n) = m.state.pipePending := by omega
    simp only [Machine.wrote, Machine.leave]
    rw [ac.bytes, UInt64.add_assoc, ← UInt64.ofNat_add, parts]
  · exact Nat.le_trans (Nat.sub_le _ _) ac.room

/-- Not counting it. -/
lemma Accounted.leave_iff (ac : Accounted m) (held : n ≤ m.inPipe) : Accounted (m.leave n) ↔ n = 0 := by
  constructor
  · intro left
    have pending := left.pending
    simp only [Machine.leave, ac.pending] at pending
    omega
  · rintro rfl
    exact ac

/-- The return from a loop that writes has counted, unless it is interrupted. -/
lemma Accounted.leaveLoop_iff (ac : Accounted m) (wr : Wrote len m n m') :
    Accounted (leaveLoop m' total n exit).1 ↔ (decide (0 < n) && exit.fatal) = false := by
  have counted := ac.wrote wr.held
  have left := ac.leave_iff wr.held
  have none : n = 0 → Accounted (m.leave n) := left.mpr
  rw [wr.leave]
  cases exit with
  | whole => simp [leaveLoop, Exit.fatal, counted]
  | again | reset | zero =>
    simp only [leaveLoop, Exit.fatal, Bool.and_false, iff_true]
    split
    · exact counted
    · rename_i zero
      exact none (by omega)
  | notsup | error => simp [leaveLoop, Exit.fatal, left]

/-- From `trace` to `rest` the counters went right, unless a write was interrupted there. -/
def Counts (moved : Bool) (trace : List SpliceCall) (m' : Machine) (rest : List SpliceCall) : Prop :=
  ∃ cut moved', interrupted moved trace = (cut || interrupted moved' rest) ∧
    (Accounted m' ↔ cut = false)

/-- At the entry the account is even. -/
lemma Counts.of_accounted (ac : Accounted m) : Counts moved trace m trace :=
  ⟨false, moved, rfl, iff_of_true ac rfl⟩

/-- At the end of the trace. -/
lemma Counts.iff (ct : Counts moved trace m' []) : Accounted m' ↔ interrupted moved trace = false := by
  obtain ⟨cut, moved', eq, acc⟩ := ct
  rw [eq, acc]
  simp [interrupted]

/-- A part in which the counters are right can be put before another. -/
lemma Counts.trans (ct : Counts moved trace m rest) (ac : Accounted m)
    (later : ∀ moved, Counts moved rest m' trace') : Counts moved trace m' trace' := by
  obtain ⟨cut, moved', eq, acc⟩ := ct
  obtain ⟨cut', moved'', eq', acc'⟩ := later moved'
  exact ⟨cut', moved'', by rw [eq, acc.mp ac, Bool.false_or, eq'], acc'⟩

/-- The loop books what it has written, unless it was interrupted. -/
lemma Accounted.writeLoop (ac : Accounted m) (total : Nat)
    (lp : writeLoop len trace 0 m = some (exit, n, m1, rest)) :
    Counts false trace (leaveLoop m1 total n exit).1 rest ∧ Accounted (m1.wrote n) := by
  obtain ⟨k, eq, wr, intr⟩ := @writeLoop_spec _ _ _ _ _ _ false _ _ (Nat.zero_le _) lp
  obtain rfl : n = k := by omega
  rw [Bool.false_or] at intr
  exact ⟨⟨_, _, intr, ac.leaveLoop_iff wr⟩, wr.leave ▸ ac.wrote wr.held⟩

/-- PHASE 1. -/
lemma Accounted.drainPhase (ac : Accounted m)
    (ph : drainPhase m maxLen limit trace = some (m', flow, rest)) :
    Counts false trace m' rest ∧
      ∀ total limit, flow = .goesOn total limit → Accounted m' ∧ m'.state.pipePending = 0 := by
  simp only [Splice.drainPhase] at ph
  split at ph
  · split at ph
    · cases ph
    · rename_i lp
      obtain ⟨counts, counted⟩ := ac.writeLoop 0 lp
      split at ph
      · cases ph
        exact ⟨counts, nofun⟩
      · split at ph
        · cases ph
          exact ⟨counts, nofun⟩
        · rename_i none
          cases ph
          exact ⟨counts, fun _ _ _ => ⟨counted, Nat.eq_zero_of_not_pos none⟩⟩
    · rename_i lp
      cases ph
      exact ⟨(ac.writeLoop 0 lp).1, nofun⟩
  · rename_i none
    cases ph
    refine ⟨.of_accounted ac, fun _ _ _ => ⟨ac, ?_⟩⟩
    omega

/-- Reading is not interrupted. -/
lemma interrupted_readLoop {r : Result} (lp : readLoop trace = some (r, rest)) :
    interrupted moved trace = interrupted false rest := by
  induction trace generalizing moved with
  | nil => cases lp
  | cons sp trace ih =>
    cases sp with
    | read r' =>
      rw [interrupted]
      rw [readLoop.eq_def] at lp
      split at lp
      · rename_i again
        cases again
        exact ih lp
      · rename_i once
        cases lp
        cases once
        rfl
      · cases lp
    | write r' => cases lp

/-- Counting what was read into the empty pipe. -/
lemma Accounted.took (ac : Accounted m) (empty : m.state.pipePending = 0)
    (le : n ≤ m.state.pipeCapacity) : Accounted ((m.enter n).took n) := by
  refine ⟨?_, ?_, ?_⟩
  · simp only [Machine.took, Machine.enter, ac.pending]
  · simp only [Machine.took, Machine.enter]
    rw [ac.bytes, UInt64.add_assoc, ← UInt64.ofNat_add]
  · simp only [Machine.took, Machine.enter, empty, Nat.zero_add]
    exact le

/-- PHASE 2 reads, or there is nothing that it may do. -/
lemma Accounted.readPhase (ac : Accounted m)
    (ph : readPhase m total limit trace = some (m', flow, rest)) :
    Accounted m' ∧ (∀ moved, interrupted moved trace = interrupted false rest) ∨
      m' = m ∧ rest = trace ∧ flow = .goesOn total limit := by
  simp only [Splice.readPhase] at ph
  split at ph
  · rename_i reads
    left
    split at ph
    · cases ph
    · rename_i n rest' lp
      split at ph
      · rename_i le
        split at ph
        · cases ph
          exact ⟨ac, fun moved => interrupted_readLoop lp⟩
        · cases ph
          refine ⟨ac.took reads.1 (by omega), fun moved => interrupted_readLoop lp⟩
      · cases ph
    · rename_i errno rest' lp
      cases errno <;> cases ph <;> exact ⟨ac, fun moved => interrupted_readLoop lp⟩
  · cases ph
    exact .inr ⟨rfl, rfl, rfl⟩

/-- PHASE 3. -/
lemma Accounted.writePhase (ac : Accounted m) (fresh : moved = true → m.state.pipePending = 0)
    (ph : writePhase m total limit trace = some (m', flow, rest)) : Counts moved trace m' rest := by
  simp only [Splice.writePhase] at ph
  split at ph
  · rename_i pos
    obtain rfl : moved = false := by
      cases moved with
      | false => rfl
      | true => exact absurd (fresh rfl) (Nat.ne_of_gt pos)
    split at ph
    · cases ph
    · rename_i lp
      cases ph
      exact (ac.writeLoop 0 lp).1
    · rename_i lp
      cases ph
      exact (ac.writeLoop total lp).1
  · cases ph
    exact .of_accounted ac

/-- The phases that a call goes through. -/
inductive Bridged (m : Machine) (maxLen : Nat) (trace : List SpliceCall) (m' : Machine)
    (rest : List SpliceCall) : Prop where
  | refused (same : m' = m) (unread : rest = trace)
  | drained (ret : Int)
      (drain : drainPhase m maxLen (entryLimit maxLen) trace = some (m', .returns ret, rest))
  | read (m1 : Machine) (total limit : Nat) (rest1 : List SpliceCall) (ret : Int)
      (drain : drainPhase m maxLen (entryLimit maxLen) trace = some (m1, .goesOn total limit, rest1))
      (read : readPhase m1 total limit rest1 = some (m', .returns ret, rest))
  | written (m1 m2 : Machine) (total limit total2 limit2 : Nat) (rest1 rest2 : List SpliceCall)
      (flow : Flow)
      (drain : drainPhase m maxLen (entryLimit maxLen) trace = some (m1, .goesOn total limit, rest1))
      (read : readPhase m1 total limit rest1 = some (m2, .goesOn total2 limit2, rest2))
      (write : writePhase m2 total2 limit2 rest2 = some (m', flow, rest))

/-- A call that returns, phase by phase. -/
lemma bridged {fdIn fdOut ret : Int} (br : bridge fdIn fdOut m maxLen trace = some (m', ret, rest)) :
    Bridged m maxLen trace m' rest := by
  rw [bridge] at br
  split at br
  · cases br
    exact .refused rfl rfl
  · split at br
    · cases br
    · rename_i drain
      cases br
      exact .drained _ drain
    · rename_i drain
      split at br
      · cases br
      · rename_i read
        cases br
        exact .read _ _ _ _ _ drain read
      · rename_i read
        split at br
        · cases br
        · rename_i write
          cases br
          exact .written _ _ _ _ _ _ _ _ _ drain read write
        · rename_i write
          split at br <;> cases br <;> exact .written _ _ _ _ _ _ _ _ _ drain read write

/-- The same for a step. -/
lemma step_bridged {c : Call} (st : step m c = some m') : Bridged m c.maxLen c.trace m' [] := by
  obtain ⟨⟨m2, ret⟩, call, eq⟩ := Option.map_eq_some_iff.mp st
  cases eq
  rw [atpdBridgeSpliceStateful] at call
  split at call
  · rename_i br
    cases call
    exact bridged br
  · cases call

/-- A call keeps the account exactly if it is not interrupted. -/
lemma Accounted.bridged (ac : Accounted m) (br : Bridged m maxLen trace m' rest) :
    Counts false trace m' rest := by
  cases br with
  | refused same unread =>
    subst same unread
    exact .of_accounted ac
  | drained ret drain => exact (ac.drainPhase drain).1
  | read m1 total limit rest1 ret drain read =>
    obtain ⟨counts, goes⟩ := ac.drainPhase drain
    obtain ⟨ac1, -⟩ := goes _ _ rfl
    refine counts.trans ac1 fun moved => ?_
    rcases ac1.readPhase read with ⟨ac2, resets⟩ | ⟨-, -, eq⟩
    · exact ⟨false, false, by rw [resets moved, Bool.false_or], iff_of_true ac2 rfl⟩
    · cases eq
  | written m1 m2 total limit total2 limit2 rest1 rest2 flow drain read write =>
    obtain ⟨counts, goes⟩ := ac.drainPhase drain
    obtain ⟨ac1, empty⟩ := goes _ _ rfl
    refine counts.trans ac1 fun moved => ?_
    rcases ac1.readPhase read with ⟨ac2, resets⟩ | ⟨rfl, rfl, -⟩
    · obtain ⟨cut, moved', eq, acc⟩ := ac2.writePhase (show false = true → _ from nofun) write
      exact ⟨cut, moved', by rw [resets moved, eq], acc⟩
    · exact ac1.writePhase (fun _ => empty) write

/-- A call leaves the counters right exactly if it is not interrupted. -/
lemma Accounted.step_iff {c : Call} (ac : Accounted m) (st : step m c = some m') :
    Accounted m' ↔ c.interrupted = false := by
  exact (ac.bridged (step_bridged st)).iff

/-! ## All the bytes -/

/-- What every call keeps, interrupted or not: all that was read is counted. -/
structure Tally (fds : Int × Int) (m : Machine) : Prop where
  pipeFds : m.state.pipeFds = fds
  received : m.received = m.sent + m.inPipe
  bytesIn : m.state.bytesIn = .ofNat m.received

variable {fds : Int × Int}

namespace Tally

/-- Writing moves bytes out of the pipe. -/
lemma wrote (ta : Tally fds m) : Tally fds (m.wrote n) := ⟨ta.pipeFds, ta.received, ta.bytesIn⟩

/-- Reading moves them in. -/
lemma took (ta : Tally fds m) : Tally fds ((m.enter n).took n) where
  pipeFds := ta.pipeFds
  received := by
    simp only [Machine.took, Machine.enter, ta.received]
    omega
  bytesIn := by
    simp only [Machine.took, Machine.enter]
    rw [ta.bytesIn, UInt64.ofNat_add]

/-- The end of a loop moves none. -/
lemma leaveLoop (ta : Tally fds m) : Tally fds (leaveLoop m total n exit).1 := by
  cases exit with
  | whole => exact ta.wrote
  | again | reset | zero =>
    simp only [Splice.leaveLoop]
    split
    · exact ta.wrote
    · exact ta
  | notsup | error => exact ta

/-- By induction on the splices. -/
lemma writeLoop (ta : Tally fds m) (lp : writeLoop len trace 0 m = some (exit, n, m1, rest)) :
    Tally fds m1 := by
  obtain ⟨k, -, wr, -⟩ := @writeLoop_spec _ _ _ _ _ _ false _ _ (Nat.zero_le _) lp
  rw [wr.leave]
  refine ⟨ta.pipeFds, ?_, ta.bytesIn⟩
  have held := wr.held
  simp only [Machine.leave, ta.received]
  omega

/-- What was left is written first. -/
lemma drainPhase (ta : Tally fds m) (ph : drainPhase m maxLen limit trace = some (m', flow, rest)) :
    Tally fds m' := by
  simp only [Splice.drainPhase] at ph
  split at ph
  · split at ph
    · cases ph
    · rename_i lp
      have moved := ta.writeLoop lp
      split at ph
      · cases ph
        exact moved.wrote
      · split at ph <;> cases ph <;> exact moved.wrote
    · rename_i lp
      cases ph
      exact (ta.writeLoop lp).leaveLoop
  · cases ph
    exact ta

/-- Then something is read. -/
lemma readPhase (ta : Tally fds m) (ph : readPhase m total limit trace = some (m', flow, rest)) :
    Tally fds m' := by
  simp only [Splice.readPhase] at ph
  split at ph
  · split at ph
    · cases ph
    · split at ph
      · split at ph
        · cases ph
          exact ta
        · cases ph
          exact ta.took
      · cases ph
    · rename_i errno _ _
      cases errno <;> cases ph <;> exact ta
  · cases ph
    exact ta

/-- And then that is written. -/
lemma writePhase (ta : Tally fds m) (ph : writePhase m total limit trace = some (m', flow, rest)) :
    Tally fds m' := by
  simp only [Splice.writePhase] at ph
  split at ph
  · split at ph
    · cases ph
    · rename_i lp
      cases ph
      exact (ta.writeLoop lp).wrote
    · rename_i lp
      cases ph
      exact (ta.writeLoop lp).leaveLoop
  · cases ph
    exact ta

/-- Every call keeps the tally. -/
lemma step {c : Call} (ta : Tally fds m) (st : step m c = some m') : Tally fds m' := by
  cases step_bridged st with
  | refused same unread => exact same ▸ ta
  | drained ret drain => exact ta.drainPhase drain
  | read m1 total limit rest1 ret drain read => exact (ta.drainPhase drain).readPhase read
  | written m1 m2 total limit total2 limit2 rest1 rest2 flow drain read write =>
    exact ((ta.drainPhase drain).readPhase read).writePhase write

/-- With right counters that have not wrapped, the assertions hold. -/
lemma asserts (ta : Tally fds m) (ac : Accounted m) (opened : 0 ≤ fds.1 ∧ 0 ≤ fds.2)
    (small : m.received < 2 ^ 64) : Asserts m := by
  refine ⟨ac.pending.symm, ta.pipeFds ▸ opened.1, ta.pipeFds ▸ opened.2, ?_, ac.room, ac.bytes⟩
  have bytesOut : m.state.bytesOut = .ofNat m.sent := by
    have same := ac.bytes
    rw [ta.bytesIn, ta.received, UInt64.ofNat_add, ac.pending] at same
    exact ((UInt64.add_left_inj _).mp same).symm
  have sent : m.sent ≤ m.received := ta.received ▸ Nat.le_add_right _ _
  rw [bytesOut, ta.bytesIn]
  exact (UInt64.ofNat_le_iff_le (Nat.lt_of_le_of_lt sent small) small).mpr sent

end Tally

/-- At the start nothing was moved. -/
lemma accounted_start (pipe : Option (Int × Int)) (setSize getSize : Int) :
    Accounted (.start (atpdSpliceStateInit pipe setSize getSize).1) := by
  cases pipe with
  | none => exact ⟨rfl, rfl, Nat.zero_le _⟩
  | some fds => exact ⟨rfl, rfl, Nat.zero_le _⟩

/-- And the pipe is empty. -/
lemma tally_start (setSize getSize : Int) :
    Tally fds (.start (atpdSpliceStateInit (some fds) setSize getSize).1) := ⟨rfl, rfl, rfl⟩

/-- After each call of a run the counters are right, exactly if no call had written something when it
was left for `ATPD_SPLICE_NOTSUP` or `ATPD_SPLICE_ERROR`. Then the assertions hold at the head of the
next call, as long as `bytes_in` does not wrap. -/
theorem accounted_iff_notInterrupted (pipe : Option (Int × Int)) (setSize getSize : Int)
    (cs : List Call) (m : Machine)
    (rn : run step (.start (atpdSpliceStateInit pipe setSize getSize).1) cs = some m) :
    ((∀ ds m', ds <+: cs → run step (.start (atpdSpliceStateInit pipe setSize getSize).1) ds = some m' →
        Accounted m') ↔
      ∀ c ∈ cs, c.interrupted = false) ∧
    ((∀ c ∈ cs, c.interrupted = false) → ∀ fds, pipe = some fds → 0 ≤ fds.1 ∧ 0 ≤ fds.2 →
      m.received < 2 ^ 64 → Asserts m) := by
  have start := accounted_start pipe setSize getSize
  have exactly := prefixes_iff (fun _ _ _ ac st => Accounted.step_iff ac st) start rn
  refine ⟨exactly, ?_⟩
  rintro clean fds rfl opened small
  have tally := run_preserves (fun _ _ _ ta st => Tally.step ta st) (tally_start setSize getSize) rn
  exact tally.asserts (exactly.mpr clean cs m (List.prefix_refl cs) rn) opened small

/-- Five bytes are read, three of them are written, and then the descriptor fails: the pipe holds two
bytes, and five count as pending. -/
theorem interrupted_five : ∃ m,
    step (.start (atpdSpliceStateInit (some (3, 4)) 65536 0).1)
      ⟨5, 6, 0, [.read (.moved 5), .write (.moved 3), .write (.fails .other)]⟩ = some m ∧
    m.inPipe = 2 ∧ m.state.pipePending = 5 ∧ ¬Accounted m ∧ ¬Asserts m := by
  refine ⟨_, rfl, rfl, rfl, fun ac => ?_, by decide⟩
  exact absurd ac.pending (by decide)

/-- One call is cut short by `EAGAIN`, one drains, and one meets the end of the input. -/
def threeCalls : List Call :=
  [⟨5, 6, 0, [.read (.moved 5), .write (.moved 3), .write (.fails .eagain)]⟩,
    ⟨5, 6, 2, [.write (.moved 1), .write (.fails .eintr), .write (.moved 1)]⟩,
    ⟨5, 6, 7, [.read (.fails .eintr), .read (.moved 0)]⟩]

/-- Three calls that are not interrupted keep the account. -/
theorem accounted_iff_notInterrupted_three : ∃ m,
    run step (.start (atpdSpliceStateInit (some (3, 4)) 65536 0).1) threeCalls = some m ∧
    m.state.bytesOut = 5 ∧ Accounted m ∧ Asserts m := by
  refine ⟨_, rfl, rfl, ?_⟩
  obtain ⟨exactly, asserts⟩ :=
    accounted_iff_notInterrupted (some (3, 4)) 65536 0 threeCalls _ rfl
  have clean : ∀ c ∈ threeCalls, c.interrupted = false := by decide
  exact ⟨exactly.mpr clean threeCalls _ (List.prefix_refl _) rfl,
    asserts clean (3, 4) rfl (by decide) (by decide)⟩

end Atpd.Session.Splice
