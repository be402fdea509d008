import Atpd.Reactor.Handle

/-!
# One-shot timers

A component that keeps one handle for a one-shot callback also relies on the timer behind the handle:
it is linked, nobody has cancelled it, and its deadline is the one that was asked for. `Priv.Waits r cb
due id` says so. Whatever the rest of the program does with timers of its own, and whatever the reactor
does with other nodes, keeps it.
-/

namespace Atpd.Reactor

variable {κ : Type*} {r : Priv κ} {cb c : κ} {t : Timer κ} {due id i now : Nat}

/-- The handle `id` names a linked one-shot timer with the callback `cb` and the deadline `due`. -/
def Priv.Waits (r : Priv κ) (cb : κ) (due id : Nat) : Prop :=
  ∃ t ∈ r.timers, t.id = id ∧ t.callback = some cb ∧ t.pendingDelete = false ∧ t.intervalMs = 0 ∧
    t.expiresMs = due

namespace Priv.Waits

/-- The timer that waits is live. -/
lemma live (wa : r.Waits cb due id) : ⟨id, 0, some cb⟩ ∈ r.live := by
  obtain ⟨t, ht, rfl, hcb, mark, interval, -⟩ := wa
  refine mem_live.mpr ⟨t, .inr ht, mark, ?_⟩
  rw [Timer.toPublic, interval, hcb]

/-- What keeps the node keeps the timer. -/
lemma mono {r' : Priv κ} (wa : r.Waits cb due id)
    (kept : ∀ t ∈ r.timers, t.id = id → t.pendingDelete = false → t ∈ r'.timers) : r'.Waits cb due id := by
  obtain ⟨t, ht, hid, hcb, mark, rest⟩ := wa
  exact ⟨t, kept t ht hid mark, hid, hcb, mark, rest⟩

/-- Another timer may be linked. -/
lemma link {u : Timer κ} (wa : r.Waits cb due id) : (r.link u).Waits cb due id :=
  wa.mono fun _ ht _ _ => mem_timerListInsert.mpr (.inr ht)

/-- And added. -/
lemma add {alloc : Bool} {nowMs timeout interval : Nat} {f : Option κ} (wa : r.Waits cb due id) :
    (reactorAddTimer r alloc nowMs timeout interval f).1.Waits cb due id := by
  cases alloc with
  | false => simpa using wa
  | true =>
    refine wa.mono fun t ht _ _ => ?_
    exact mem_timerListInsert.mpr (.inr ht)

/-- A new one-shot timer waits for the deadline that it was given. -/
lemma add_self {nowMs timeout : Nat} :
    (reactorAddTimer r true nowMs timeout 0 (some cb)).1.Waits cb (nowMs + timeout) r.nextId :=
  ⟨_, mem_timerListInsert.mpr (.inl rfl), rfl, rfl, rfl, rfl, rfl⟩

/-- Another timer may be removed. -/
lemma remove (wa : r.Waits cb due id) (ne : id ≠ i) :
    { r with timers := timerListRemove r.timers i : Priv κ }.Waits cb due id :=
  wa.mono fun _ ht hid _ => mem_timerListRemove.mpr ⟨ht, hid ▸ ne⟩

/-- A cancel through another handle does not matter. -/
lemma cancel (wa : r.Waits cb due id) (ne : id ≠ i) : (reactorCancelTimer r i).Waits cb due id := by
  rw [reactorCancelTimer]
  cases findLive r.running.toList i with
  | some u => exact wa
  | none =>
    cases findLive r.timers i with
    | some u => exact (wa.remove ne).link
    | none => exact wa

/-- And freed. -/
lemma free (wa : r.Waits cb due id) (ne : id ≠ t.id) : (r.freeTimer t).Waits cb due id := wa.remove ne

/-- Or begin to run. -/
lemma begin (wa : r.Waits cb due id) (ne : id ≠ t.id) : (r.beginTimer t).Waits cb due id := wa.remove ne

/-- And end. -/
lemma endTimer (wa : r.Waits cb due id) : (r.endTimer now).Waits cb due id := by
  rw [Priv.endTimer]
  cases r.running with
  | none => exact wa
  | some u =>
    dsimp only
    split
    · exact Priv.Waits.link (r := { r with running := none }) wa
    · exact wa

/-- The node that the handle names has the deadline, whichever node it is taken for. -/
lemma of_mem (wa : r.Waits cb due t.id) (wf : r.Wf) (ht : t ∈ r.timers) :
    t.callback = some cb ∧ t.pendingDelete = false ∧ t.intervalMs = 0 ∧ t.expiresMs = due := by
  obtain ⟨u, hu, hid, rest⟩ := wa
  cases wf.eq_of_id hu ht hid
  exact rest

end Priv.Waits

/-- After a callback nothing is running. -/
lemma endTimer_running : (r.endTimer now).running = none := by
  rw [Priv.endTimer]
  cases running : r.running with
  | none => exact running
  | some t =>
    dsimp only
    split <;> rfl

/-- The end of a callback cancels nothing. -/
lemma endTimer_stale : (r.endTimer now).staleCancels = r.staleCancels := by
  rw [Priv.endTimer]
  cases r.running with
  | none => rfl
  | some t =>
    dsimp only
    split <;> rfl

/-- A timer with another callback, or with none, does not matter. -/
lemma Priv.Only.add_foreign {alloc : Bool} {nowMs timeout interval : Nat} {f : Option κ} {h : Option Nat}
    (on : r.Only cb h) (ne : f ≠ some cb) : (reactorAddTimer r alloc nowMs timeout interval f).1.Only cb h := by
  cases alloc with
  | false => simpa using on
  | true =>
    intro x hx hcb
    rcases mem_live_reactorAddTimer.mp hx with rfl | hx
    · exact absurd hcb ne
    · exact on x hx hcb

/-- A cancel leaves the callback that is running. -/
lemma cancel_running (running : (reactorCancelTimer r i).running = some t) :
    ∃ u, r.running = some u ∧ t.callback = u.callback := by
  rw [reactorCancelTimer] at running
  cases found : findLive r.running.toList i with
  | some u =>
    rw [found] at running
    cases running
    exact ⟨u, by simpa using (findLive_some found).1, rfl⟩
  | none =>
    rw [found] at running
    dsimp only at running
    split at running
    · exact ⟨t, running, rfl⟩
    · exact ⟨t, running, rfl⟩

/-- A callback that is running goes on, whatever it cancels. -/
lemma running_cancel (running : r.running = some t) :
    ∃ u, (reactorCancelTimer r i).running = some u ∧ u.callback = t.callback := by
  rw [reactorCancelTimer]
  cases found : findLive r.running.toList i with
  | some u =>
    have same : r.running = some u := by simpa using (findLive_some found).1
    cases running.symm.trans same
    exact ⟨t.cancelled, rfl, rfl⟩
  | none =>
    dsimp only
    split
    · exact ⟨t, running, rfl⟩
    · exact ⟨t, running, rfl⟩

end Atpd.Reactor
