import Atpd.Session.Pump

/-!
# Byte conservation

The counters of a session are meant to balance: what was read is what was written and what is
pending. They do when a chunk goes through whole, or is cut before any of it was written. A chunk that
is cut after a partial write is booked wrong at three exits of the pump, and the drain forgets what it
has written when it fails, and what it has not written at a zero return. `Balanced` is the exact
condition.
-/

namespace Atpd.Session

open Atpd.Daemon Atpd.Lib

variable {s s' : AtpdSession} {v : View}

/-- What was read was written, or is pending. -/
def Conserved (s : AtpdSession) : Prop := s.bytesIn = s.bytesOut + s.pipePending

instance (s : AtpdSession) : Decidable (Conserved s) :=
  inferInstanceAs (Decidable (s.bytesIn = s.bytesOut + s.pipePending))

/-- The books balance at the end of a pump that found `pending` bytes in the pipe: a chunk that is cut
by EAGAIN, EPIPE or ECONNRESET after `sent` bytes overwrites as many pending bytes as it counts twice,
a peer that is gone at once leaves as many bytes as were pending, and a zero return comes at once or
halfway. -/
def Ending.Balanced (pending : Nat) : Ending → Prop
  | .finished _ | .noInput | .vpnLost | .failed _ _ => True
  | .blocked _ sent _ => pending = sent
  | .reset total sent toSend => if 0 < total + sent then pending = sent else pending = toSend
  | .stalled total sent toSend => total + sent = 0 ∨ toSend = sent + sent

/-- The books balance at the end of a drain: it has no zero return, and no error after a partial
write. -/
def DrainEnding.Balanced : DrainEnding → Prop
  | .clean | .blocked _ => True
  | .stalled _ => False
  | .failed sent => sent = 0

/-- The condition on a call. -/
def Call.Balanced (s : AtpdSession) : Call → Prop
  | .pump maxLen io => io.entry = .ready → (io.ending maxLen).Balanced s.pipePending
  | .drain io => s.Dirty → (io.ending s.pipePending).Balanced

/-- The condition on an event. -/
def BalancedEvent (s : AtpdSession) : Event Call → Prop
  | .act call => call.Balanced s
  | .register | .markClosing | .emergency => True

instance (pending : Nat) : DecidablePred (Ending.Balanced pending)
  | .finished _ | .noInput | .vpnLost | .failed _ _ => isTrue trivial
  | .blocked _ sent _ => inferInstanceAs (Decidable (pending = sent))
  | .reset total sent toSend =>
    inferInstanceAs (Decidable (if 0 < total + sent then pending = sent else pending = toSend))
  | .stalled total sent toSend => inferInstanceAs (Decidable (total + sent = 0 ∨ toSend = sent + sent))

instance : DecidablePred DrainEnding.Balanced
  | .clean | .blocked _ => isTrue trivial
  | .stalled _ => isFalse id
  | .failed sent => inferInstanceAs (Decidable (sent = 0))

instance (s : AtpdSession) : DecidablePred (Call.Balanced s)
  | .pump maxLen io =>
    inferInstanceAs (Decidable (io.entry = .ready → (io.ending maxLen).Balanced s.pipePending))
  | .drain io => inferInstanceAs (Decidable (s.Dirty → (io.ending s.pipePending).Balanced))

instance (s : AtpdSession) : DecidablePred (BalancedEvent s)
  | .act call => inferInstanceAs (Decidable (call.Balanced s))
  | .register | .markClosing | .emergency => isTrue trivial

/-! ## Calls -/

/-- A view whose books balance. -/
def View.Conserved (v : View) : Prop := v.bytesIn = v.bytesOut + v.pipePending

/-- Conservation is a matter of the view. -/
lemma conserved_view (h : s.view = v) : Conserved s ↔ v.Conserved := by
  rw [← h]
  rfl

/-- The exits of the pump, one by one. -/
lemma Ending.conserved_iff {e : Ending} (proper : e.Proper) (co : v.Conserved) :
    (e.after v).Conserved ↔ e.Balanced v.pipePending := by
  simp only [View.Conserved] at co
  cases e with
  | finished total =>
    simp only [after, View.Conserved, Balanced, iff_true]
    omega
  | noInput => simpa [after, View.Conserved, Balanced] using co
  | vpnLost => simpa [after, View.Conserved, Balanced] using co
  | blocked total sent toSend =>
    have lt : sent < toSend := proper
    simp only [after, View.keep, View.dirty, View.countCut, View.Conserved, Balanced]
    omega
  | reset total sent toSend =>
    have lt : sent < toSend := proper
    simp only [after, View.keep, View.dirty, View.countCut, Balanced]
    split
    · simp only [View.Conserved]
      omega
    · simp only [View.Conserved]
      omega
  | stalled total sent toSend =>
    have lt : sent < toSend := proper
    simp only [after, View.keep, View.countCut, Balanced]
    split
    · simp only [View.Conserved]
      omega
    · simp only [View.Conserved]
      omega
  | failed sent toSend => simpa [after, View.keep, View.Conserved, Balanced] using co

/-- The exits of the drain, one by one. -/
lemma DrainEnding.conserved_iff {e : DrainEnding} (proper : e.Proper v) (co : v.Conserved) :
    (e.after v).Conserved ↔ e.Balanced := by
  simp only [View.Conserved] at co
  cases e with
  | clean =>
    simp only [after, View.send, View.Conserved, Balanced, iff_true]
    omega
  | blocked sent =>
    have lt : sent < v.pipePending := proper.1
    simp only [after, View.send, View.Conserved, Balanced, iff_true]
    omega
  | stalled sent =>
    have lt : sent < v.pipePending := proper.1
    simp only [after, View.send, View.Conserved, Balanced, iff_false]
    omega
  | failed sent =>
    simp only [after, View.send, View.Conserved, Balanced]
    omega

/-- A call keeps the books balanced exactly under its condition. -/
lemma Call.conserved_iff {call : Call} (up : s.state.isClosing = false) (co : Conserved s)
    (call_run : call.run s = some s') (up' : s'.state.isClosing = false) :
    Conserved s' ↔ call.Balanced s := by
  cases call with
  | pump maxLen io =>
    obtain ⟨⟨s1, code⟩, pu, rfl⟩ := Option.map_eq_some_iff.mp call_run
    by_cases ready : io.entry = .ready
    · have leaves := Leaves.of_pump up ready pu
      obtain closing | ⟨view, -⟩ := leaves.left
      · exact absurd (closing.symm.trans up') (by decide)
      · rw [conserved_view view, Ending.conserved_iff (v := s.view) leaves.proper co]
        simp [Balanced, ready, AtpdSession.view]
    · simp only [atpdSessionSplicePump, atpdSessionIsVpnReady, ready, decide_false,
        Bool.false_eq_true, ↓reduceIte, Option.some.injEq, Prod.mk.injEq] at pu
      obtain ⟨rfl, rfl⟩ := pu
      simp [Balanced, ready, co]
  | drain io =>
    obtain ⟨⟨s1, code⟩, dr, rfl⟩ := Option.map_eq_some_iff.mp call_run
    by_cases dirty : s.Dirty
    · have drained := Drained.of_drain dirty dr
      obtain closing | ⟨view, -⟩ := drained.left
      · exact absurd (closing.symm.trans up') (by decide)
      · rw [conserved_view view, DrainEnding.conserved_iff drained.proper co]
        simp [Balanced, dirty]
    · obtain ⟨rfl, -⟩ := drain_clean dirty dr
      simp [Balanced, dirty, co]

/-- A closing session is left alone. -/
lemma Call.closing {call : Call} (closing : s.state.isClosing = true)
    (call_run : call.run s = some s') : s' = s := by
  cases call with
  | pump maxLen io =>
    obtain ⟨⟨s1, code⟩, pu, rfl⟩ := Option.map_eq_some_iff.mp call_run
    rw [atpdSessionSplicePump, closing] at pu
    split at pu <;> (cases pu; rfl)
  | drain io =>
    obtain ⟨⟨s1, code⟩, dr, rfl⟩ := Option.map_eq_some_iff.mp call_run
    refine (drain_clean (fun dirty => ?_) dr).1
    rw [dirty.2] at closing
    cases closing

/-! ## Runs -/

/-- The invariant: the books balance while the session is open. -/
def Booked (s : AtpdSession) : Prop := s.state.isClosing = false → Conserved s

/-- By cases on the event. -/
lemma Booked.step {e : Event Call} (bo : Booked s) (balanced : BalancedEvent s e)
    (st : step Call.run s e = some s') : Booked s' := by
  intro up'
  obtain ⟨call, rfl, call_run⟩ | rfl | ⟨idle, rfl⟩ := step_open st up'
  · cases up : s.state.isClosing with
    | false => exact (Call.conserved_iff up (bo up) call_run up').mpr balanced
    | true =>
      cases Call.closing up call_run
      exact absurd (up.symm.trans up') (by decide)
  · exact bo up'
  · exact bo (by rw [idle]; rfl)

/-- Byte conservation: in every run of pumps and drains whose calls all meet the condition, the books
of an open session balance; and the condition is exact, since a call on a session whose books balance
keeps them balanced exactly when it meets it. -/
theorem conserved_of_balanced (reactor : Bool) (nowMs : Nat) (es : List (Event Call))
    (al : Along (step Call.run) BalancedEvent (atpdSessionCreate reactor nowMs) es)
    (rn : run (step Call.run) (atpdSessionCreate reactor nowMs) es = some s)
    (up : s.state.isClosing = false) :
    Conserved s ∧ ∀ (call : Call) (s' : AtpdSession), call.run s = some s' →
      s'.state.isClosing = false → (Conserved s' ↔ call.Balanced s) := by
  have start : Booked (atpdSessionCreate reactor nowMs) := fun _ => rfl
  have booked : Booked s :=
    run_preserves_along (fun _ _ _ bo balanced st => Booked.step bo balanced st) start al rn
  exact ⟨booked up, fun call s' call_run up' => Call.conserved_iff up (booked up) call_run up'⟩

/-- A chunk of ten bytes goes through, a second one is cut before it is written, and is drained. -/
def wholeChunks : List (Event Call) :=
  [.register,
    .act (.pump sessionPipeSize ⟨.ready, [.read (.moved 10), .write .ready .ready (.moved 4),
      .write .ready .ready (.moved 6), .read (.moved 7), .write .ready .ready (.fails .eintr),
      .write .ready .ready (.fails .eagain)], true, 2000⟩),
    .act (.drain ⟨[⟨.ready, .moved 3⟩, ⟨.ready, .fails .eagain⟩], true⟩)]

/-- Thirteen of seventeen bytes are out, and four in the pipe. -/
theorem conserved_of_balanced_wholeChunks :
    ∃ s, run (step Call.run) (atpdSessionCreate true 1000) wholeChunks = some s ∧
      s.bytesIn = 17 ∧ s.bytesOut = 13 ∧ s.pipePending = 4 ∧ Conserved s :=
  ⟨_, rfl, rfl, rfl, rfl,
    (conserved_of_balanced true 1000 wholeChunks (by decide) rfl rfl).1⟩

/-- Four bytes of a chunk of ten are written before `fd_out` blocks, and eight are counted. -/
theorem blockedPump_counts_twice :
    ∃ s, run (step Call.run) (atpdSessionCreate true 1000)
        [.register, .act (.pump sessionPipeSize blockedPump)] = some s ∧
      s.state.isClosing = false ∧ s.bytesIn = 10 ∧ s.bytesOut = 8 ∧ s.pipePending = 6 ∧
      ¬Conserved s :=
  ⟨_, rfl, rfl, rfl, rfl, rfl, by decide⟩

end Atpd.Session
