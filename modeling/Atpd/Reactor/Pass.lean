import Atpd.Lib.Run
import Atpd.Reactor.Timer

/-!
# Timer passes

`process_expired_timers` together with the code that runs between its steps. A callback is
arbitrary code of the program, so it is not a function here but the labels `add`, `cancel` and
`updateTime` that are enabled while it runs; the same labels are enabled between two passes. The
loop of the pass is cut where it hands control over: `passStep` is one iteration up to the
callback (or the freeing of a cancelled node), `callbackEnd` the rest of the iteration.

The clock is read by the labels that carry it and never goes back. Labels that would make a
deadline reach `2 ^ 64` are not enabled, which is the bound under which `uint64_t` addition is
addition.
-/

namespace Atpd.Reactor

open Atpd.Lib

variable {κ : Type*}

/-- What a run shows: a callback was entered in a pass, a cancel returned. -/
inductive Obs (κ : Type*) where
  | ran (t : Timer κ) (pass : Nat)
  | cancelled (id : Nat)

/-- The reactor during a run; `pass` is the time `now` that the pass in progress has read, and
`log` has the newest observation first. -/
structure State (κ : Type*) where
  priv : Priv κ
  pass : Option Nat
  clock : Nat
  passes : Nat
  log : List (Obs κ)

/-- The labels of a run. -/
inductive Label (κ : Type*) where
  | add (alloc : Bool) (nowMs timeoutMs intervalMs : Nat) (cb : Option κ)
  | cancel (id : Nat)
  | updateTime (nowMs : Nat)
  | passBegin (nowMs : Nat)
  | passStep
  | callbackEnd
  | passEnd

/-- A reactor as `reactor_create` leaves it. -/
def State.init (nowMs : Nat) : State κ := ⟨reactorCreate nowMs, none, nowMs, 0, []⟩

/-- Code of the program is running: no pass is, or a callback is. -/
def State.Open (s : State κ) : Prop :=
  s.pass = none ∨ ∃ t, s.priv.running = some t ∧ t.callback.isSome

instance (s : State κ) : Decidable s.Open :=
  match hr : s.priv.running with
  | none => decidable_of_iff (s.pass = none) (by simp [State.Open, hr])
  | some t => decidable_of_iff (s.pass = none ∨ t.callback.isSome) (by simp [State.Open, hr])

/-- The handle `id` is live. -/
def State.Live (s : State κ) (id : Nat) : Prop := ∃ x ∈ s.priv.live, x.id = id

instance (s : State κ) (id : Nat) : Decidable (s.Live id) :=
  inferInstanceAs (Decidable (∃ x ∈ s.priv.live, x.id = id))

/-- One iteration of the pass up to the callback of its first due node. -/
def State.passStep (s : State κ) (t : Timer κ) : State κ :=
  if t.pendingDelete then { s with priv := s.priv.freeTimer t }
  else
    { s with
      priv := s.priv.beginTimer t
      log := if t.calls then .ran t s.passes :: s.log else s.log }

/-- The labelled step function. -/
def step (s : State κ) : Label κ → Option (State κ)
  | .add alloc nowMs timeoutMs intervalMs cb =>
    if s.Open ∧ s.clock ≤ nowMs ∧ nowMs + timeoutMs < deadlineBound then
      some { s with
        priv := (reactorAddTimer s.priv alloc nowMs timeoutMs intervalMs cb).1
        clock := nowMs }
    else none
  | .cancel id =>
    if s.Open ∧ s.Live id then
      some { s with priv := reactorCancelTimer s.priv id, log := .cancelled id :: s.log }
    else none
  | .updateTime nowMs =>
    if s.Open ∧ s.clock ≤ nowMs then
      some { s with priv := { s.priv with currentTimeMs := nowMs }, clock := nowMs }
    else none
  | .passBegin nowMs =>
    if s.pass = none ∧ s.clock ≤ nowMs then
      some { s with
        priv := { s.priv with currentTimeMs := nowMs }
        pass := some nowMs
        clock := nowMs
        passes := s.passes + 1 }
    else none
  | .passStep =>
    match s.pass, s.priv.running, s.priv.timers with
    | some now, none, t :: _ => if t.expiresMs ≤ now then some (s.passStep t) else none
    | _, _, _ => none
  | .callbackEnd =>
    match s.pass, s.priv.running with
    | some now, some t =>
      if t.rearms → rearm now t.intervalMs t.expiresMs < deadlineBound then
        some { s with priv := s.priv.endTimer now }
      else none
    | _, _ => none
  | .passEnd =>
    match s.pass, s.priv.running with
    | some now, none =>
      -- the loop looks at the head of the list only
      if ∀ t ∈ s.priv.timers.head?, now < t.expiresMs then some { s with pass := none } else none
    | _, _ => none

/-- `a` stands before `b` in the list: an earlier deadline, or the same one and inserted first. -/
def Timer.Before (a b : Timer κ) : Prop :=
  a.expiresMs < b.expiresMs ∨ a.expiresMs = b.expiresMs ∧ a.stamp < b.stamp

/-! ## The list stays sorted -/

/-- Insertion of the newest node keeps the list sorted. -/
lemma timerListInsert_sorted {l : List (Timer κ)} {t : Timer κ} (sorted : l.Pairwise Timer.Before)
    (newest : ∀ u ∈ l, u.stamp < t.stamp) : (timerListInsert l t).Pairwise Timer.Before := by
  induction l with
  | nil => simp [timerListInsert]
  | cons cur rest ih =>
    obtain ⟨hc, hr⟩ := List.pairwise_cons.mp sorted
    rw [timerListInsert]
    split
    · -- behind `cur`: on a tie the stamp of the new node is the later one
      rename_i hle
      refine List.pairwise_cons.mpr ⟨fun u hu => ?_, ih hr fun u hu => newest u (by simp [hu])⟩
      rcases mem_timerListInsert.mp hu with rfl | hu
      · rcases Nat.lt_or_eq_of_le hle with h | h
        · exact .inl h
        · exact .inr ⟨h, newest cur (by simp)⟩
      · exact hc u hu
    · -- before `cur`, and so before everything that `cur` is before
      rename_i hgt
      refine List.pairwise_cons.mpr ⟨fun u hu => ?_, sorted⟩
      rcases List.mem_cons.mp hu with rfl | hu
      · exact .inl (by omega)
      · rcases hc u hu with h | h
        · exact .inl (by omega)
        · exact .inl (by omega)

/-- The fuel of the re-arm loop suffices: it ends behind `now`, at the first multiple that is. -/
lemma advance_spec (now interval fuel expires : Nat) (pos : 0 < interval)
    (enough : now < expires + fuel) :
    ∃ k, advance now interval fuel expires = expires + k * interval ∧
      now < advance now interval fuel expires ∧
      ∀ j, now < expires + j * interval → k ≤ j := by
  induction fuel generalizing expires with
  | zero => exact ⟨0, by simp [advance], by simpa [advance] using enough, fun j _ => Nat.zero_le j⟩
  | succ fuel ih =>
    rw [advance]
    split
    · rename_i hle
      -- the multiples counted from `expires + interval` are one fewer
      obtain ⟨k, heq, hlt, hmin⟩ := ih (expires + interval) (by omega)
      refine ⟨k + 1, by rw [heq, Nat.add_mul]; omega, hlt, fun j hj => ?_⟩
      cases j with
      | zero => omega
      | succ j =>
        have := hmin j (by rw [Nat.add_mul] at hj; omega)
        omega
    · rename_i hgt
      exact ⟨0, by simp, by omega, fun j _ => Nat.zero_le j⟩

/-- A periodic timer is re-armed to its first deadline behind `now`. -/
lemma rearm_spec (now interval expires : Nat) (pos : 0 < interval) :
    ∃ k, 1 ≤ k ∧ rearm now interval expires = expires + k * interval ∧
      now < rearm now interval expires ∧
      ∀ j, 1 ≤ j → now < expires + j * interval → k ≤ j := by
  obtain ⟨k, heq, hlt, hmin⟩ :=
    advance_spec now interval (now + 1) (expires + interval) pos (by omega)
  refine ⟨k + 1, by omega, by rw [rearm, heq, Nat.add_mul]; omega, hlt, fun j hj hj' => ?_⟩
  obtain ⟨i, rfl⟩ : ∃ i, j = i + 1 := ⟨j - 1, by omega⟩
  have := hmin i (by rw [Nat.add_mul] at hj'; omega)
  omega

end Atpd.Reactor
