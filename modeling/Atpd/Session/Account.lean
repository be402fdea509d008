import Atpd.Session.Pump

/-!
# Pipe accounting

`pipe_pending` is the session's own count of what the kernel holds in its pipe, and PIPE_DIRTY says
that it holds something. Both callbacks drain a dirty pipe; `session_out_cb` closes the session when
the drain fails, `session_in_cb` does not look at what it returns. So an error after a partial write
leaves a count that is too high, and a zero return leaves bytes in a pipe that counts as empty.
`Accounts` is the exact condition.
-/

namespace Atpd.Session

open Atpd.Daemon Atpd.Lib

variable {s s' : AtpdSession} {v : View}

/-- The count of a view is what is in the pipe, and the state tells whether there is something. -/
def View.Accounted (v : View) : Prop :=
  v.pipePending = v.inPipe ∧ (v.state = .pipeDirty ↔ 0 < v.inPipe)

/-- The count of a session is what is in its pipe, and its state tells whether there is something. -/
def Accounted (s : AtpdSession) : Prop :=
  s.pipePending = s.inPipe ∧ (s.state = .pipeDirty ↔ 0 < s.inPipe)

instance (s : AtpdSession) : Decidable (Accounted s) :=
  inferInstanceAs (Decidable (s.pipePending = s.inPipe ∧ (s.state = .pipeDirty ↔ 0 < s.inPipe)))

/-- A pump that goes on with the session has no zero return on `fd_out`. -/
def Ending.Accounts : Ending → Prop
  | .stalled total sent _ => total + sent = 0
  | _ => True

/-- A drain in `session_in_cb` has no zero return, and no error after a partial write; a drain that
empties the pipe is followed by a pump. -/
def DrainEnding.AccountsIn (pump : Prop) : DrainEnding → Prop
  | .clean => pump
  | .blocked _ => True
  | .stalled _ => False
  | .failed sent => sent = 0

/-- A drain in `session_out_cb` has no zero return. -/
def DrainEnding.AccountsOut : DrainEnding → Prop
  | .stalled _ => False
  | _ => True

/-- The condition on a pump in `session_in_cb`. -/
def PumpIo.Accounts (io : PumpIo) : Prop := (io.ending sessionPipeSize).Accounts

/-- The condition on a callback. -/
def Callback.Accounts (s : AtpdSession) : Callback → Prop
  | .inCb _ drain pump =>
    if s.state = .pipeDirty then (drain.ending s.pipePending).AccountsIn pump.Accounts
    else pump.Accounts
  | .outCb _ drain => s.state = .pipeDirty → (drain.ending s.pipePending).AccountsOut

/-- The condition on an event. -/
def AccountsEvent (s : AtpdSession) : Event Callback → Prop
  | .act callback => callback.Accounts s
  | .register | .markClosing | .emergency => True

instance : DecidablePred Ending.Accounts
  | .stalled total sent _ => inferInstanceAs (Decidable (total + sent = 0))
  | .finished _ | .noInput | .vpnLost | .blocked _ _ _ | .reset _ _ _ | .failed _ _ => isTrue trivial

instance (pump : Prop) [Decidable pump] : DecidablePred (DrainEnding.AccountsIn pump)
  | .clean => inferInstanceAs (Decidable pump)
  | .blocked _ => isTrue trivial
  | .stalled _ => isFalse id
  | .failed sent => inferInstanceAs (Decidable (sent = 0))

instance : DecidablePred DrainEnding.AccountsOut
  | .stalled _ => isFalse id
  | .clean | .blocked _ | .failed _ => isTrue trivial

instance (io : PumpIo) : Decidable io.Accounts :=
  inferInstanceAs (Decidable (io.ending sessionPipeSize).Accounts)

instance (s : AtpdSession) : DecidablePred (Callback.Accounts s)
  | .inCb _ drain pump =>
    inferInstanceAs (Decidable (if s.state = .pipeDirty then
      (drain.ending s.pipePending).AccountsIn pump.Accounts else pump.Accounts))
  | .outCb _ drain =>
    inferInstanceAs (Decidable (s.state = .pipeDirty → (drain.ending s.pipePending).AccountsOut))

instance (s : AtpdSession) : DecidablePred (AccountsEvent s)
  | .act callback => inferInstanceAs (Decidable (callback.Accounts s))
  | .register | .markClosing | .emergency => isTrue trivial

/-! ## Endings -/

/-- The account is a matter of the view. -/
lemma accounted_view (h : s.view = v) : Accounted s ↔ v.Accounted := by
  rw [← h]
  rfl

/-- A pump on a session whose pipe counts as empty. -/
lemma Ending.accounted_iff {e : Ending} (proper : e.Proper) (ok : e.fails = false)
    (pending : v.pipePending = 0) (clean : v.state ≠ .pipeDirty) :
    (e.after v).Accounted ↔ v.inPipe = 0 ∧ e.Accounts := by
  cases e with
  | finished total =>
    simp only [after, View.Accounted, Accounts, pending, clean, false_iff, and_true]
    omega
  | noInput => cases ok
  | vpnLost => cases ok
  | failed sent toSend => cases ok
  | blocked total sent toSend =>
    have lt : sent < toSend := proper
    simp only [after, View.keep, View.dirty, View.countCut, View.Accounted, Accounts, true_iff,
      and_true]
    omega
  | reset total sent toSend =>
    have lt : sent < toSend := proper
    have some : 0 < total + sent := by
      simp only [fails, decide_eq_false_iff_not] at ok
      omega
    simp only [after, View.keep, View.dirty, View.countCut, some, ↓reduceIte, View.Accounted,
      Accounts, true_iff, and_true]
    omega
  | stalled total sent toSend =>
    have lt : sent < toSend := proper
    have some : 0 < total + sent := by
      simp only [fails, decide_eq_false_iff_not] at ok
      omega
    simp only [after, View.keep, View.countCut, some, ↓reduceIte, View.Accounted, Accounts, pending,
      clean, false_iff]
    omega

/-- The session is left open by `session_in_cb` after a pump. -/
lemma inCbPump_open {io : PumpIo} (cb : inCbPump s io = some s') (up' : s'.state.isClosing = false) :
    s.state.isClosing = false ∧ (io.ending sessionPipeSize).Proper ∧
      (io.ending sessionPipeSize).fails = false ∧
      s'.view = (io.ending sessionPipeSize).after s.view := by
  simp only [inCbPump, Option.bind_eq_bind, Option.bind_eq_some_iff] at cb
  obtain ⟨⟨s1, ret⟩, pu, cb⟩ := cb
  have kept : 0 ≤ ret ∧ s1 = s' := by
    dsimp only at cb
    split at cb
    · cases cb
      exact absurd (markClosing_isClosing.symm.trans up') (by decide)
    · split at cb
      · cases cb
        exact absurd (markClosing_isClosing.symm.trans up') (by decide)
      · rename_i ok
        cases cb
        exact ⟨Int.not_lt.mp ok, rfl⟩
  obtain ⟨ok, rfl⟩ := kept
  have ready : io.entry = .ready := by
    by_contra lost
    simp only [atpdSessionSplicePump, atpdSessionIsVpnReady, lost, decide_false, Bool.false_eq_true,
      ↓reduceIte, Option.some.injEq, Prod.mk.injEq] at pu
    rw [← pu.2] at ok
    exact absurd ok (by decide)
  have up : s.state.isClosing = false := by
    by_contra closing
    have closing : s.state.isClosing = true := by simpa using closing
    simp only [atpdSessionSplicePump, atpdSessionIsVpnReady, ready, decide_true, ↓reduceIte, closing,
      Option.some.injEq, Prod.mk.injEq] at pu
    rw [← pu.2] at ok
    exact absurd ok (by decide)
  have leaves := Leaves.of_pump up ready pu
  obtain closing | ⟨view, code⟩ := leaves.left
  · exact absurd (closing.symm.trans up') (by decide)
  · refine ⟨up, leaves.proper, Bool.eq_false_iff.mpr fun fails => ?_, view⟩
    exact absurd (code.mpr fails) (Int.not_lt.mpr ok)

/-! ## Callbacks -/

/-- The pump of `session_in_cb` on a session whose pipe counts as empty. -/
lemma inCbPump_accounted {io : PumpIo} (cb : inCbPump s io = some s')
    (up' : s'.state.isClosing = false) (pending : s.pipePending = 0) (clean : s.state ≠ .pipeDirty) :
    Accounted s' ↔ s.inPipe = 0 ∧ io.Accounts := by
  obtain ⟨-, proper, ok, view⟩ := inCbPump_open cb up'
  rw [accounted_view view]
  exact Ending.accounted_iff (v := s.view) proper ok pending clean

/-- A dirty session has something to drain. -/
lemma Accounted.dirty (ac : Accounted s) (dirty : s.state = .pipeDirty) : s.Dirty := by
  have := ac.2.mp dirty
  have := ac.1
  exact ⟨by omega, dirty⟩

/-- The part of `session_in_cb` behind the drain. -/
lemma inCb_drained {drain : DrainIo} {pump : PumpIo} {s1 : AtpdSession} {code : Int}
    (ac : Accounted s) (dirty : s.state = .pipeDirty)
    (dr : atpdSessionDrainPipe s drain = some (s1, code))
    (cb : (if s1.state = .pipeDirty then some s1 else inCbPump s1 pump) = some s')
    (up' : s'.state.isClosing = false) :
    Accounted s' ↔ (drain.ending s.pipePending).AccountsIn pump.Accounts := by
  have drained := Drained.of_drain (ac.dirty dirty) dr
  have count : s.pipePending = s.inPipe := ac.1
  have proper := drained.proper
  obtain closing | ⟨view, -⟩ := drained.left
  · have other : s1.state ≠ .pipeDirty := by
      intro h
      rw [h] at closing
      cases closing
    rw [if_neg other] at cb
    exact absurd (closing.symm.trans (inCbPump_open cb up').1) (by decide)
  · generalize drain.ending s.pipePending = e at proper view ⊢
    cases e with
    | clean =>
      simp only [AtpdSession.view, DrainEnding.after, View.send, View.mk.injEq] at view
      have clean : s1.state ≠ .pipeDirty := by simp [view.1]
      rw [if_neg clean] at cb
      rw [inCbPump_accounted cb up' view.2.1 clean]
      have empty : s1.inPipe = 0 := by omega
      simp [empty, DrainEnding.AccountsIn]
    | blocked sent =>
      obtain ⟨lt, -⟩ := proper
      simp only [AtpdSession.view, DrainEnding.after, View.send, View.mk.injEq] at view lt
      rw [if_pos view.1] at cb
      cases cb
      simp only [Accounted, view.1, DrainEnding.AccountsIn, true_iff, iff_true]
      omega
    | stalled sent =>
      obtain ⟨lt, -⟩ := proper
      simp only [AtpdSession.view, DrainEnding.after, View.send, View.mk.injEq] at view lt
      have clean : s1.state ≠ .pipeDirty := by simp [view.1]
      rw [if_neg clean] at cb
      rw [inCbPump_accounted cb up' view.2.1 clean]
      have left : s1.inPipe ≠ 0 := by omega
      simp [left, DrainEnding.AccountsIn]
    | failed sent =>
      obtain ⟨lt, -⟩ := proper
      simp only [AtpdSession.view, DrainEnding.after, View.send, View.mk.injEq] at view lt
      rw [if_pos view.1] at cb
      cases cb
      simp only [Accounted, view.1, DrainEnding.AccountsIn, true_iff]
      omega

/-- `session_in_cb` keeps the account exactly if its traces do. -/
lemma inCb_accounted_iff {hangup : Bool} {drain : DrainIo} {pump : PumpIo} (ac : Accounted s)
    (up : s.state.isClosing = false) (cb : sessionInCb s hangup drain pump = some s')
    (up' : s'.state.isClosing = false) :
    Accounted s' ↔ (Callback.inCb hangup drain pump).Accounts s := by
  rw [sessionInCb, up] at cb
  simp only [Bool.false_eq_true, ↓reduceIte] at cb
  split at cb
  · cases cb
    exact absurd (markClosing_isClosing.symm.trans up') (by decide)
  · split at cb
    · rename_i dirty
      simp only [Option.bind_eq_bind, Option.bind_eq_some_iff] at cb
      obtain ⟨⟨s1, code⟩, dr, cb⟩ := cb
      simp only [Callback.Accounts, dirty, ↓reduceIte]
      exact inCb_drained ac dirty dr cb up'
    · rename_i clean
      have empty : s.inPipe = 0 := by
        have := ac.2
        simp only [clean, false_iff] at this
        omega
      rw [inCbPump_accounted cb up' (ac.1.trans empty) clean]
      simp [Callback.Accounts, clean, empty]

/-- So does `session_out_cb`. -/
lemma outCb_accounted_iff {hangup : Bool} {drain : DrainIo} (ac : Accounted s)
    (up : s.state.isClosing = false) (cb : sessionOutCb s hangup drain = some s')
    (up' : s'.state.isClosing = false) :
    Accounted s' ↔ (Callback.outCb hangup drain).Accounts s := by
  rw [sessionOutCb, up] at cb
  simp only [Bool.false_eq_true, ↓reduceIte] at cb
  split at cb
  · cases cb
    exact absurd (markClosing_isClosing.symm.trans up') (by decide)
  · split at cb
    · rename_i dirty
      simp only [Option.bind_eq_bind, Option.bind_eq_some_iff] at cb
      obtain ⟨⟨s1, code⟩, dr, cb⟩ := cb
      have drained := Drained.of_drain (ac.dirty dirty) dr
      -- the session is open afterwards, so nothing is done after the drain
      have kept : 0 ≤ code ∧ s1 = s' := by
        dsimp only at cb
        split at cb
        · rename_i blocked
          cases cb
          exact ⟨Int.le_of_lt blocked, rfl⟩
        · split at cb
          · cases cb
            exact absurd (markClosing_isClosing.symm.trans up') (by decide)
          · rename_i ok
            cases cb
            exact ⟨Int.not_lt.mp ok, rfl⟩
      obtain ⟨ok, rfl⟩ := kept
      have count : s.pipePending = s.inPipe := ac.1
      have proper := drained.proper
      simp only [Callback.Accounts, dirty, true_implies]
      obtain closing | ⟨view, rfl⟩ := drained.left
      · exact absurd (closing.symm.trans up') (by decide)
      · -- by the way the drain has ended
        generalize drain.ending s.pipePending = e at proper view ok ⊢
        cases e with
        | clean =>
          simp only [AtpdSession.view, DrainEnding.after, View.send, View.mk.injEq] at view
          simp only [Accounted, view.1, reduceCtorEq, DrainEnding.AccountsOut, false_iff, iff_true]
          omega
        -- after EAGAIN the count is what is left in the pipe
        | blocked sent =>
          obtain ⟨lt, -⟩ := proper
          simp only [AtpdSession.view, DrainEnding.after, View.send, View.mk.injEq] at view lt
          simp only [Accounted, view.1, DrainEnding.AccountsOut, true_iff, iff_true]
          omega
        -- after a zero return it is 0, and the rest is still in the pipe
        | stalled sent =>
          obtain ⟨lt, -⟩ := proper
          simp only [AtpdSession.view, DrainEnding.after, View.send, View.mk.injEq] at view lt
          simp only [Accounted, view.1, reduceCtorEq, DrainEnding.AccountsOut, false_iff, iff_false]
          omega
        | failed sent => simp [DrainEnding.code] at ok
    · rename_i clean
      cases cb
      simp [Callback.Accounts, clean, ac]

/-- A callback keeps the account of an open session exactly under its condition. -/
lemma Callback.accounted_iff {callback : Callback} (ac : Accounted s)
    (up : s.state.isClosing = false) (cb : callback.run s = some s')
    (up' : s'.state.isClosing = false) : Accounted s' ↔ callback.Accounts s := by
  cases callback with
  | inCb hangup drain pump => exact inCb_accounted_iff ac up cb up'
  | outCb hangup drain => exact outCb_accounted_iff ac up cb up'

/-- A closing session is left alone. -/
lemma Callback.closing {callback : Callback} (closing : s.state.isClosing = true)
    (cb : callback.run s = some s') : s' = s := by
  cases callback with
  | inCb hangup drain pump =>
    simp only [run, sessionInCb, closing, ↓reduceIte, Option.some.injEq] at cb
    exact cb.symm
  | outCb hangup drain =>
    simp only [run, sessionOutCb, closing, ↓reduceIte, Option.some.injEq] at cb
    exact cb.symm

/-! ## Runs -/

/-- The invariant: the account of an open session is right. -/
def AccountInv (s : AtpdSession) : Prop := s.state.isClosing = false → Accounted s

/-- By cases on the event. -/
lemma AccountInv.step {e : Event Callback} (inv : AccountInv s) (accounts : AccountsEvent s e)
    (st : step Callback.run s e = some s') : AccountInv s' := by
  intro up'
  obtain ⟨callback, rfl, cb⟩ | rfl | ⟨idle, rfl⟩ := step_open st up'
  · cases up : s.state.isClosing with
    | false => exact (Callback.accounted_iff (inv up) up cb up').mpr accounts
    | true =>
      cases Callback.closing up cb
      exact absurd (up.symm.trans up') (by decide)
  · exact inv up'
  · have ac := inv (by rw [idle]; rfl)
    simpa [Accounted, idle] using ac

/-- Pipe accounting: in every run of the callbacks that all meet the condition, the account of an open
session is right; and the condition is exact, since a callback on a session whose account is right
leaves it right exactly when it meets it. -/
theorem accounted_of_accounts (reactor : Bool) (nowMs : Nat) (es : List (Event Callback))
    (al : Along (step Callback.run) AccountsEvent (atpdSessionCreate reactor nowMs) es)
    (rn : run (step Callback.run) (atpdSessionCreate reactor nowMs) es = some s)
    (up : s.state.isClosing = false) :
    Accounted s ∧ ∀ (callback : Callback) (s' : AtpdSession), callback.run s = some s' →
      s'.state.isClosing = false → (Accounted s' ↔ callback.Accounts s) := by
  have start : AccountInv (atpdSessionCreate reactor nowMs) := fun _ => by
    simp [Accounted, atpdSessionCreate]
  have inv : AccountInv s :=
    run_preserves_along (fun _ _ _ inv accounts st => AccountInv.step inv accounts st) start al rn
  exact ⟨inv up, fun callback s' cb up' => Callback.accounted_iff (inv up) up cb up'⟩

/-- A session becomes dirty, and `session_in_cb` drains it with the given results. -/
def dirtyRun (trace : List DrainSplice) : List (Event Callback) :=
  [.register, .act (.inCb false ⟨[], true⟩ blockedPump),
    .act (.inCb false ⟨trace, true⟩ ⟨.ready, [], true, 3000⟩)]

/-- Four bytes stay in the pipe, and are accounted for. -/
theorem accounted_of_accounts_dirtyRun :
    ∃ s, run (step Callback.run) (atpdSessionCreate true 1000)
        (dirtyRun [⟨.ready, .moved 2⟩, ⟨.ready, .fails .eagain⟩]) = some s ∧
      s.inPipe = 4 ∧ Accounted s :=
  ⟨_, rfl, rfl, (accounted_of_accounts true 1000
    (dirtyRun [⟨.ready, .moved 2⟩, ⟨.ready, .fails .eagain⟩]) (by decide) rfl rfl).1⟩

/-- The peer resets the connection after two more bytes: the session stays open, and counts six bytes
in a pipe that holds four. -/
theorem dirtyRun_reset_miscounts :
    ∃ s, run (step Callback.run) (atpdSessionCreate true 1000)
        (dirtyRun [⟨.ready, .moved 2⟩, ⟨.ready, .fails .econnreset⟩]) = some s ∧
      s.state = .pipeDirty ∧ s.pipePending = 6 ∧ s.inPipe = 4 ∧ ¬Accounted s :=
  ⟨_, rfl, rfl, rfl, rfl, by decide⟩

end Atpd.Session
