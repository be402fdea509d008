import Atpd.Session.Splice

/-!
# What the stateful splice returns

The value of `atpd_bridge_splice_stateful` against what has left the pipe during the call. A call that
drains old bytes and then reads new ones has two loops that write, and `total_forwarded` goes from the
first to the second. Where the second loop, or the read, is left with an error code, that total is
dropped. `unreported` finds this in the results of the `splice` calls.
-/

namespace Atpd.Session.Splice

/-- A splice fails after bytes were forwarded, and the call says nothing of them. `drained` says that an
earlier loop of the call has written, `written` that this one has. -/
def unreported : Bool → Bool → List SpliceCall → Bool
  | _, _, [] => false
  | drained, written, .read (.moved _) :: trace => unreported (drained || written) false trace
  | drained, written, .read (.fails errno) :: trace =>
    ((drained || written) && errno.fatal) || unreported (drained || written) false trace
  | drained, written, .write (.moved n) :: trace =>
    (drained && !written && decide (n = 0)) || unreported drained (written || decide (0 < n)) trace
  | drained, written, .write (.fails errno) :: trace =>
    (if errno.fatal then drained || written else drained && !written && decide (errno ≠ .eintr)) ||
      unreported drained written trace

/-- The call forwards bytes and returns an error code. -/
def Call.unreported (c : Call) : Bool := Splice.unreported false false c.trace

/-- How a loop that writes is left without a word about `drained` bytes before it and `written` bytes
in it. -/
def Exit.silent (drained written : Bool) : Exit → Bool
  | .whole => false
  | .again | .reset | .zero => drained && !written
  | .notsup | .error => drained || written

/-- What the value of a call from `m` to `m'` says. -/
structure Told (m m' : Machine) (maxLen : Nat) (ret : Int) : Prop where
  count : 0 ≤ ret → ret = (m'.sent : Int) - m.sent ∧
    m'.state.bytesOut = m.state.bytesOut + .ofNat ret.toNat ∧ (0 < maxLen → ret ≤ maxLen)
  code : ret < 0 → m'.sent = m.sent

/-- A phase of a call from `m0` begins, with `total` bytes forwarded and `limit` still allowed. -/
structure Sofar (m0 m : Machine) (maxLen total limit : Nat) : Prop where
  sent : m.sent = m0.sent + total
  bytesOut : m.state.bytesOut = m0.state.bytesOut + .ofNat total
  bound : 0 < maxLen → total + limit ≤ maxLen

variable {m m' m0 m1 : Machine} {len done n total limit maxLen : Nat} {exit : Exit} {ret : Int}
  {drained written : Bool} {trace rest : List SpliceCall} {flow : Flow}

/-! ## The loops -/

/-- What the loop does not report, and what those behind it do not. -/
lemma unreported_writeLoop (drained : Bool)
    (lp : writeLoop len trace done m = some (exit, n, m', rest)) :
    unreported drained (decide (0 < done)) trace =
      (exit.silent drained (decide (0 < n)) || unreported drained (decide (0 < n)) rest) := by
  induction trace generalizing done m with
  | nil =>
    simp only [writeLoop] at lp
    split at lp
    · cases lp
    · cases lp
      rfl
  | cons sp trace ih =>
    simp only [writeLoop] at lp
    split at lp
    · cases sp with
      | read r => cases lp
      | write r =>
        cases r with
        | moved k =>
          simp only at lp
          split at lp
          · split at lp
            · rename_i zero
              cases lp
              simp [unreported, Exit.silent, zero]
            · rename_i pos
              have later := ih lp
              have pos : 0 < k := Nat.pos_of_ne_zero pos
              have more : 0 < done + k := Nat.lt_of_lt_of_le pos (Nat.le_add_left _ _)
              rw [← later]
              simp [unreported, pos, more, Nat.ne_of_gt pos]
          · cases lp
        | fails errno =>
          cases errno with
          | eintr =>
            rw [← ih lp]
            simp [unreported, Errno.fatal]
          | _ =>
            cases lp
            simp [unreported, Errno.fatal, Exit.silent]
    · cases lp
      rfl

/-- Reading reports everything. -/
lemma unreported_readLoop {r : Result} (lp : readLoop trace = some (r, rest)) :
    unreported drained written trace = unreported drained written (.read r :: rest) := by
  induction trace generalizing drained written with
  | nil => cases lp
  | cons sp trace ih =>
    cases sp with
    | read r' =>
      rw [readLoop.eq_def] at lp
      split at lp
      · rename_i again
        cases again
        have later := @ih (drained || written) false lp
        cases r with
        | moved n => simpa [unreported, Errno.fatal] using later
        | fails errno => simpa [unreported, Errno.fatal] using later
      · rename_i once
        cases lp
        cases once
        rfl
      · cases lp
    | write r' => cases lp

/-- An interrupted read is tried again. -/
lemma readLoop_ne_eintr (trace : List SpliceCall) :
    readLoop trace ≠ some (.fails .eintr, rest) := by
  induction trace with
  | nil => nofun
  | cons sp trace ih =>
    intro lp
    rw [readLoop.eq_def] at lp
    split at lp
    · rename_i again
      cases again
      exact ih lp
    · rename_i other once
      cases lp
      cases once
      exact other rfl
    · cases lp

/-- A loop has written `n` bytes, and the counters do not know of it yet. -/
lemma Sofar.writeLoop (sf : Sofar m0 m maxLen total limit) (le : len ≤ limit)
    (lp : writeLoop len trace 0 m = some (exit, n, m1, rest)) :
    n ≤ limit ∧ m1.sent = m0.sent + (total + n) ∧ m1.state = m.state := by
  obtain ⟨k, eq, wr, -⟩ := @writeLoop_spec _ _ _ _ _ _ false _ _ (Nat.zero_le _) lp
  obtain rfl : n = k := by omega
  refine ⟨Nat.le_trans wr.le le, ?_, ?_⟩
  · rw [wr.leave, ← Nat.add_assoc, ← sf.sent]
    rfl
  · rw [wr.leave]
    rfl

/-- What the loop has written is counted. -/
lemma Sofar.wrote (sf : Sofar m0 m maxLen total limit) (le : n ≤ limit)
    (sent : m1.sent = m0.sent + (total + n)) (state : m1.state = m.state) :
    Sofar m0 (m1.wrote n) maxLen (total + n) (limit - n) where
  sent := sent
  bytesOut := by
    simp only [Machine.wrote]
    rw [state, sf.bytesOut, UInt64.ofNat_add, UInt64.add_assoc]
  bound pos := by
    have := sf.bound pos
    omega

/-- Returning the total tells all. -/
lemma Sofar.told (sf : Sofar m0 m maxLen total limit) : Told m0 m maxLen total where
  count _ := by
    refine ⟨?_, sf.bytesOut, ?_⟩
    · rw [sf.sent]
      omega
    · intro pos
      have := sf.bound pos
      omega
  code neg := absurd neg (by omega)

/-- Returning an error code tells that nothing was forwarded. -/
lemma told_code_iff (neg : ret < 0) (sent : m.sent = m0.sent + total) :
    Told m0 m maxLen ret ↔ total = 0 := by
  constructor
  · intro told
    have same := told.code neg
    omega
  · rintro rfl
    exact ⟨fun pos => absurd neg (by omega), fun _ => sent⟩

/-- `total_forwarded`, or an error code if it is zero. -/
lemma Sofar.forwardedOr (sf : Sofar m0 m maxLen total limit) (neg : ret < 0) :
    Told m0 m maxLen (forwardedOr total ret) := by
  rw [Splice.forwardedOr]
  split
  · exact sf.told
  · rename_i none
    exact (told_code_iff neg sf.sent).mpr (Nat.eq_zero_of_not_pos none)

/-- What is told at the end of a loop. -/
lemma Sofar.leaveLoop (sf : Sofar m0 m maxLen total limit) (le : len ≤ limit)
    (lp : Splice.writeLoop len trace 0 m = some (exit, n, m1, rest)) :
    Told m0 (leaveLoop m1 total n exit).1 maxLen (leaveLoop m1 total n exit).2 ↔
      exit.silent (decide (0 < total)) (decide (0 < n)) = false := by
  obtain ⟨le, sent, state⟩ := sf.writeLoop le lp
  have told := (sf.wrote le sent state).told
  cases exit with
  | whole => exact iff_of_true told rfl
  | again | reset | zero =>
    simp only [Splice.leaveLoop, Exit.silent]
    split
    · rename_i pos
      exact iff_of_true told (by simp [pos])
    · rename_i none
      obtain rfl := Nat.eq_zero_of_not_pos none
      dsimp only
      rw [told_code_iff (by decide) sent]
      simp
  | notsup | error =>
    simp only [Splice.leaveLoop, Exit.silent]
    rw [told_code_iff (by decide) sent]
    simp

/-! ## The phases -/

/-- At the entry nothing was written. -/
lemma sofar_entry (m : Machine) (maxLen : Nat) : Sofar m m maxLen 0 (entryLimit maxLen) where
  sent := rfl
  bytesOut := (UInt64.add_zero _).symm
  bound pos := by
    rw [entryLimit, if_pos (Nat.ne_of_gt pos), Nat.zero_add]
    exact Nat.min_le_left _ _

/-- PHASE 1 writes what it can. -/
lemma drain_whole {pending : Nat}
    (lp : writeLoop (min pending (entryLimit maxLen)) trace 0 m = some (.whole, n, m1, rest)) :
    Sofar m (m1.wrote n) maxLen n (entryLimit maxLen - n) ∧
      unreported false false trace = unreported false (decide (0 < n)) rest := by
  have sf := sofar_entry m maxLen
  obtain ⟨le, sent, state⟩ := sf.writeLoop (Nat.min_le_right _ _) lp
  have counted := sf.wrote le sent state
  rw [Nat.zero_add] at counted
  exact ⟨counted, unreported_writeLoop false lp⟩

/-- PHASE 1 returns. -/
lemma drain_returns
    (ph : drainPhase m maxLen (entryLimit maxLen) trace = some (m', .returns ret, [])) :
    Told m m' maxLen ret ↔ unreported false false trace = false := by
  have sf := sofar_entry m maxLen
  simp only [drainPhase] at ph
  split at ph
  · split at ph
    · cases ph
    · rename_i lp
      obtain ⟨counted, later⟩ := drain_whole lp
      split at ph
      · cases ph
        exact iff_of_true counted.told later
      · split at ph <;> cases ph
        exact iff_of_true counted.told later
    · rename_i lp
      cases ph
      have told := sf.leaveLoop (Nat.min_le_right _ _) lp
      have silent := unreported_writeLoop false lp
      rw [told]
      simp only [unreported, Bool.or_false] at silent
      exact silent ▸ Iff.rfl
  · cases ph

/-- PHASE 1 goes on: nothing is pending. -/
lemma drain_goesOn
    (ph : drainPhase m maxLen (entryLimit maxLen) trace = some (m1, .goesOn total limit, rest)) :
    Sofar m m1 maxLen total limit ∧ m1.state.pipePending = 0 ∧
      unreported false false trace = unreported false (decide (0 < total)) rest := by
  have sf := sofar_entry m maxLen
  simp only [drainPhase] at ph
  split at ph
  · split at ph
    · cases ph
    · rename_i lp
      obtain ⟨counted, later⟩ := drain_whole lp
      split at ph
      · cases ph
      · rename_i less
        split at ph
        · cases ph
        · rename_i none
          cases ph
          refine ⟨⟨counted.sent, counted.bytesOut, ?_⟩, Nat.eq_zero_of_not_pos none, later⟩
          intro pos
          have nonzero := Nat.ne_of_gt pos
          have short := Nat.lt_of_not_le fun le => less ⟨nonzero, le⟩
          rw [if_pos nonzero]
          omega
    · cases ph
  · rename_i none
    cases ph
    exact ⟨sf, Nat.eq_zero_of_not_pos none, rfl⟩

/-- PHASE 2 returns. -/
lemma Sofar.read_returns (sf : Sofar m0 m maxLen total limit)
    (ph : readPhase m total limit trace = some (m', .returns ret, [])) :
    Told m0 m' maxLen ret ↔ unreported false (decide (0 < total)) trace = false := by
  simp only [readPhase] at ph
  split at ph
  · split at ph
    · cases ph
    · rename_i lp
      rw [unreported_readLoop lp]
      split at ph
      · split at ph <;> cases ph
        exact iff_of_true (sf.forwardedOr (by decide)) rfl
      · cases ph
    · rename_i errno rest lp
      rw [unreported_readLoop lp]
      cases errno with
      | eagain | epipe | econnreset =>
        cases ph
        exact iff_of_true (sf.forwardedOr (by decide)) (by simp [unreported, Errno.fatal])
      | einval | enosys | espipe | other =>
        cases ph
        rw [told_code_iff (by decide) sf.sent]
        simp [unreported, Errno.fatal]
      | eintr => exact absurd lp (readLoop_ne_eintr _)
  · cases ph

/-- PHASE 2 goes on: with bytes in the pipe, or with nothing to do. -/
lemma Sofar.read_goesOn (sf : Sofar m0 m maxLen total limit) (empty : m.state.pipePending = 0)
    (ph : readPhase m total limit trace = some (m1, .goesOn n len, rest)) :
    n = total ∧ Sofar m0 m1 maxLen total len ∧
      (0 < m1.state.pipePending →
        unreported false (decide (0 < total)) trace = unreported (decide (0 < total)) false rest) ∧
      (m1.state.pipePending = 0 → rest = trace) := by
  simp only [readPhase] at ph
  split at ph
  · split at ph
    · cases ph
    · rename_i k rest' lp
      split at ph
      · split at ph
        · cases ph
        · rename_i pos
          cases ph
          refine ⟨rfl, ⟨sf.sent, sf.bytesOut, sf.bound⟩, fun _ => ?_, fun none => ?_⟩
          · rw [unreported_readLoop lp, unreported, Bool.false_or]
          · simp only [Machine.took, Machine.enter, empty, Nat.zero_add] at none
            exact absurd none pos
      · cases ph
    · rename_i errno _ _
      cases errno <;> cases ph
  · cases ph
    exact ⟨rfl, sf, fun pos => absurd empty (Nat.ne_of_gt pos), fun _ => rfl⟩

/-- PHASE 3 returns. -/
lemma Sofar.write_returns (sf : Sofar m0 m maxLen total limit)
    (ph : writePhase m total limit trace = some (m', .returns ret, [])) :
    0 < m.state.pipePending ∧
      (Told m0 m' maxLen ret ↔ unreported (decide (0 < total)) false trace = false) := by
  simp only [writePhase] at ph
  split at ph
  · rename_i pending
    refine ⟨pending, ?_⟩
    split at ph
    · cases ph
    · cases ph
    · rename_i lp
      cases ph
      have told := sf.leaveLoop (Nat.min_le_right _ _) lp
      have silent := unreported_writeLoop (decide (0 < total)) lp
      rw [told]
      simp only [unreported, Bool.or_false] at silent
      exact silent ▸ Iff.rfl
  · cases ph

/-- PHASE 3 goes on to the end of the function. -/
lemma Sofar.write_goesOn (sf : Sofar m0 m maxLen total limit)
    (ph : writePhase m total limit trace = some (m', .goesOn n len, [])) :
    Told m0 m' maxLen n ∧
      (0 < m.state.pipePending → unreported (decide (0 < total)) false trace = false) ∧
      (m.state.pipePending = 0 → trace = []) := by
  simp only [writePhase] at ph
  split at ph
  · rename_i pending
    split at ph
    · cases ph
    · rename_i lp
      cases ph
      obtain ⟨le, sent, state⟩ := sf.writeLoop (Nat.min_le_right _ _) lp
      refine ⟨(sf.wrote le sent state).told, fun _ => unreported_writeLoop _ lp, fun none => ?_⟩
      exact absurd none (Nat.ne_of_gt pending)
    · cases ph
  · rename_i none
    cases ph
    exact ⟨sf.told, fun pending => absurd pending none, fun _ => rfl⟩

/-- A total is told in any case, if the code is no error. -/
lemma forwardedOr_ok (total : Nat) : forwardedOr total spliceOk = total := by
  rw [forwardedOr]
  split
  · rfl
  · rename_i none
    rw [Nat.eq_zero_of_not_pos none]
    rfl

/-! ## The value -/

/-- For every state, every `max_len` and all results of the `splice` calls: a value that is not negative
is what has reached `fd_out`, is what `bytes_out` grew by and is at most `max_len`, and an error code
says that nothing has reached `fd_out`, exactly if once bytes were forwarded no splice fails for good, and
the loop that writes what was read after a drain does write some of it. -/
theorem told_iff_notUnreported (m m' : Machine) (c : Call) (ret : Int)
    (call : atpdBridgeSpliceStateful m c = some (m', ret)) :
    Told m m' c.maxLen ret ↔ c.unreported = false := by
  rw [Call.unreported]
  rw [atpdBridgeSpliceStateful] at call
  split at call
  · rename_i br
    cases call
    rw [bridge] at br
    split at br
    · injection br with br
      injection br with same rest
      injection rest with code trace
      subst same code
      rw [trace]
      exact iff_of_true ((told_code_iff (by decide) rfl).mpr rfl) rfl
    · split at br
      · cases br
      · rename_i drain
        cases br
        exact drain_returns drain
      · rename_i drain
        -- the pipe was drained, and may have sent something
        obtain ⟨sf, empty, later⟩ := drain_goesOn drain
        rw [later]
        split at br
        · cases br
        · rename_i read
          cases br
          exact sf.read_returns read
        · rename_i read
          obtain ⟨rfl, sf, pending, none⟩ := sf.read_goesOn empty read
          split at br
          · cases br
          · rename_i write
            cases br
            obtain ⟨holds, told⟩ := sf.write_returns write
            rw [pending holds]
            exact told
          · rename_i write
            -- all that was read has been written
            rw [forwardedOr_ok, ite_self] at br
            cases br
            obtain ⟨told, clean, unread⟩ := sf.write_goesOn write
            refine iff_of_true told ?_
            obtain empty | holds := Nat.eq_zero_or_pos _
            · rw [← none empty, unread empty]
              rfl
            · rw [pending holds]
              exact clean holds
  · cases call

/-- Three bytes are read, and wait in the pipe. -/
def waiting : Call := ⟨5, 6, 0, [.read (.moved 3), .write (.fails .eagain)]⟩

/-- Then they are drained, five more are read, and the descriptor blocks: the call says `EAGAIN`, and
three bytes have been forwarded. -/
theorem drained_then_eagain : ∃ m m',
    step (.start (atpdSpliceStateInit (some (3, 4)) 65536 0).1) waiting = some m ∧
    m.state.bytesIn = m.state.bytesOut + .ofNat m.state.pipePending ∧
    atpdBridgeSpliceStateful m
      ⟨5, 6, 0, [.write (.moved 3), .read (.moved 5), .write (.fails .eagain)]⟩ =
        some (m', spliceEagain) ∧
    m'.sent = m.sent + 3 ∧ m'.state.bytesOut = m.state.bytesOut + 3 ∧ ¬Told m m' 0 spliceEagain := by
  refine ⟨_, _, rfl, rfl, rfl, rfl, rfl, fun told => ?_⟩
  exact absurd (told.code (by decide)) (by decide)

/-- Then they are drained, five more are read, and four of these are written. -/
def sevenBytes : Call :=
  ⟨5, 6, 9, [.write (.moved 3), .read (.moved 5), .write (.moved 4), .write (.fails .eagain)]⟩

/-- Seven bytes are written and told. -/
theorem told_iff_notUnreported_seven : ∃ m m',
    step (.start (atpdSpliceStateInit (some (3, 4)) 65536 0).1) waiting = some m ∧
    atpdBridgeSpliceStateful m sevenBytes = some (m', 7) ∧ Told m m' 9 7 := by
  refine ⟨_, _, rfl, rfl, ?_⟩
  exact (told_iff_notUnreported _ _ sevenBytes 7 rfl).mpr rfl

end Atpd.Session.Splice
