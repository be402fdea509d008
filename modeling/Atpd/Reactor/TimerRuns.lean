import Atpd.Reactor.Owned

/-!
# Runs of the timers in memory

The program, the callbacks and the passes in any order. As in `Reactor/Pass.lean` a pass is cut where it
hands over control, so that a callback is what is called between `passStep` and `callbackEnd`. Nothing is
asked of the clock or of the deadlines here.
-/

namespace Atpd.Reactor.Pointers

open Atpd.Lib Heap

variable {κ : Type}

/-- The timers during a run: the time that the pass in progress has read, the timer that its round is
about, and whether the callback of that is running. -/
structure State (κ : Type) where
  heap : Heap κ
  pass : Option UInt64
  running : Option Nat
  calling : Bool

/-- What happens to the reactor. -/
inductive Label (κ : Type) where
  | call (c : Call κ)
  | passBegin (nowMs : UInt64)
  | passStep
  | callbackEnd
  | passEnd

/-- No timers, and no pass. -/
def State.init (nowMs : UInt64) : State κ := ⟨.init nowMs, none, none, false⟩

/-- Code of the program is running. -/
def State.Open (s : State κ) : Prop := s.pass = none ∨ s.calling = true

instance (s : State κ) : Decidable s.Open := inferInstanceAs (Decidable (s.pass = none ∨ s.calling = true))

/-- A timer is cancelled by a handle that is not freed. -/
def Call.Live (m : Heap κ) : Call κ → Prop
  | .cancel p => (m.pub p).isSome
  | _ => True

instance (m : Heap κ) (c : Call κ) : Decidable (c.Live m) :=
  match c with
  | .add .. => isTrue trivial
  | .cancel p => inferInstanceAs (Decidable ((m.pub p).isSome = true))
  | .updateTime _ => isTrue trivial

/-- A step of the run. A loop that does not end returns nothing. -/
def State.step (s : State κ) : Label κ → Option (Except Fault (State κ))
  | .call c =>
    if s.Open ∧ c.Live s.heap then some ((s.heap.call c).map fun m => { s with heap := m }) else none
  | .passBegin nowMs =>
    if s.pass = none then
      some (.ok { s with heap := { s.heap with currentTimeMs := nowMs }, pass := some nowMs })
    else none
  | .passStep =>
    match s.pass, s.running, s.heap.head with
    | some now, none, some a =>
      match s.heap.load a with
      | .error fault => some (.error fault)
      | .ok t =>
        if t.expiresMs ≤ now then
          some ((s.heap.beginRound a).map fun round =>
            { s with heap := round.1, running := round.2.map fun _ => a, calling := round.2 == some true })
        else none
    | _, _, _ => none
  | .callbackEnd =>
    match s.pass, s.running with
    | some now, some a =>
      match s.heap.endRound now a with
      | .error .endless => none
      | result => some (result.map fun m => { s with heap := m, running := none, calling := false })
    | _, _ => none
  | .passEnd =>
    match s.pass, s.running with
    | some now, none =>
      match s.heap.head with
      | none => some (.ok { s with pass := none })
      | some a =>
        match s.heap.load a with
        | .error fault => some (.error fault)
        | .ok t => if t.expiresMs ≤ now then none else some (.ok { s with pass := none })
    | _, _ => none

/-- A run goes on as long as there is no fault. -/
def step (r : Except Fault (State κ)) (l : Label κ) : Option (Except Fault (State κ)) :=
  match r with
  | .ok s => s.step l
  | .error _ => none

variable {s s' : State κ} {ns : List Nat} {c : Call κ} {l : Label κ} {r r' : Except Fault (State κ)}
  {m : Heap κ} {out : List Nat} {a : Nat} {start : UInt64} {ls : List (Label κ)}

/-- A call keeps the invariant, with what it does to the list. -/
lemma Owned.call (ow : Owned m out ns) (live : c.Live m) :
    ∃ m' ns', m.call c = .ok m' ∧ Owned m' out ns' := by
  cases c with
  | add allocPub allocNode nowMs timeoutMs intervalMs cb =>
    by_cases both : (allocPub && allocNode) = true
    · rw [Bool.and_eq_true] at both
      obtain ⟨rfl, rfl⟩ := both
      obtain ⟨m', added, ow', -⟩ := ow.add nowMs timeoutMs intervalMs cb
      exact ⟨m', _, by rw [Heap.call, added]; rfl, ow'⟩
    · have failed := ow.add_failed (Bool.not_eq_true _ ▸ both) nowMs timeoutMs intervalMs cb
      exact ⟨m, ns, by rw [Heap.call, failed]; rfl, ow⟩
  | cancel p =>
    obtain ⟨x, found⟩ := Option.isSome_iff_exists.mp live
    obtain ⟨a, t, m', -, -, cancelled, ow', -⟩ := ow.cancel found
    exact ⟨m', _, cancelled, ow'⟩
  | updateTime nowMs => exact ⟨_, ns, rfl, { ow with }⟩

/-- The states of a run. -/
def Sound (r : Except Fault (State κ)) : Prop :=
  ∃ s ns, r = .ok s ∧ Owned s.heap s.running.toList ns

/-- The timer at `timer_head` is the first of the list. -/
lemma Owned.head_mem (ow : Owned m out ns) (head : m.head = some a) : a ∈ ns := by
  have li := ow.linked
  rw [head] at li
  exact li.mem_of_ptr

/-- One round of a pass up to its callback. -/
lemma Owned.beginRound (ow : Owned m [] ns) (mem : a ∈ ns) :
    ∃ m' calls, m.beginRound a = .ok (m', calls) ∧
      Owned m' (calls.map fun _ => a).toList (ns.erase a) := by
  obtain ⟨t, node, -⟩ := ow.node_of_mem mem
  cases pending : t.pendingDelete with
  | true =>
    obtain ⟨m', begins, ow', -⟩ := ow.beginRound_cancelled mem node pending
    exact ⟨m', none, begins, ow'⟩
  | false =>
    obtain ⟨m', begins, ow', -⟩ := ow.beginRound_live mem node pending
    exact ⟨m', some t.calls, begins, ow'⟩

/-- The rest of the round, if it ends. -/
lemma Owned.endRound (ow : Owned m [a] ns) (now : UInt64) :
    m.endRound now a = .error .endless ∨ ∃ m' ns', m.endRound now a = .ok m' ∧ Owned m' [] ns' := by
  obtain ⟨-, t, node⟩ := ow.apart a List.mem_cons_self
  cases rearms : t.rearms with
  | false =>
    obtain ⟨m', ends, ow', -⟩ := ow.endRound_frees List.not_mem_nil node rearms now
    exact .inr ⟨m', ns, ends, ow'⟩
  | true =>
    cases late : catchUp now t.intervalMs (2 ^ 64) (t.expiresMs + t.intervalMs) with
    | error fault =>
      left
      rw [Heap.endRound, load_eq node]
      simp only [bind, Except.bind, rearms, if_true]
      rw [late, catchUp_error late]
    | ok expiresMs =>
      obtain ⟨m', ends, ow', -⟩ := ow.endRound_rearms List.not_mem_nil node rearms late
      exact .inr ⟨m', _, ends, ow'⟩

/-- Every step keeps the invariant, and has no fault. -/
lemma Sound.step (so : Sound r) (st : step r l = some r') : Sound r' := by
  obtain ⟨s, ns, rfl, ow⟩ := so
  cases l with
  | call c =>
    simp only [Pointers.step, State.step] at st
    split at st
    · rename_i enabled
      obtain ⟨m', ns', returns, ow'⟩ := ow.call enabled.2
      rw [returns] at st
      cases st
      exact ⟨_, ns', rfl, ow'⟩
    · cases st
  | passBegin nowMs =>
    simp only [Pointers.step, State.step] at st
    split at st
    · cases st
      exact ⟨_, ns, rfl, { ow with }⟩
    · cases st
  | passStep =>
    simp only [Pointers.step, State.step] at st
    split at st
    · rename_i now a pass idle head
      have mem := ow.head_mem head
      obtain ⟨t, node, -⟩ := ow.node_of_mem mem
      rw [idle] at ow
      -- the node leaves the list for the time of its callback
      obtain ⟨m', calls, begins, ow'⟩ := Owned.beginRound ow mem
      rw [load_eq node, begins] at st
      dsimp only at st
      split at st
      · cases st
        exact ⟨_, _, rfl, ow'⟩
      · cases st
    · cases st
  | callbackEnd =>
    simp only [Pointers.step, State.step] at st
    split at st
    · rename_i now a pass running
      rw [running] at ow
      -- it is freed or linked again
      rcases ow.endRound now with endless | ⟨m', ns', ends, ow'⟩
      · rw [endless] at st
        cases st
      · rw [ends] at st
        cases st
        exact ⟨_, ns', rfl, ow'⟩
    · cases st
  | passEnd =>
    simp only [Pointers.step, State.step] at st
    split at st
    · split at st
      · cases st
        exact ⟨_, ns, rfl, ow⟩
      · rename_i a head
        obtain ⟨t, node, -⟩ := ow.node_of_mem (ow.head_mem head)
        rw [load_eq node] at st
        dsimp only at st
        split at st
        · cases st
        · cases st
          exact ⟨_, ns, rfl, ow⟩
    · cases st

/-- The list from `timer_head`, and the timers that are allocated. -/
structure TimerList (s : State κ) (ns : List Nat) : Prop where
  linked : Linked s.heap.link none s.heap.head ns
  inverse : ∀ a ∈ ns, ∀ b ∈ ns, (s.heap.link a).next = some b ↔ (s.heap.link b).prev = some a
  acyclic : ns.Nodup
  sorted : ns.Pairwise fun a b => deadline s.heap.node a ≤ deadline s.heap.node b
  count : s.heap.timerCount = ns.length
  flag : ∀ a t, s.heap.node a = some t → (t.linked = true ↔ a ∈ ns)
  allocated : ∀ a, (∃ t, s.heap.node a = some t) ↔ a ∈ ns ∨ s.running = some a
  outside : ∀ a, s.running = some a → a ∉ ns

/-- What is owned is a list. -/
lemma Owned.timerList (ow : Owned s.heap s.running.toList ns) : TimerList s ns where
  linked := ow.linked
  inverse _ ha _ hb := ow.linked.next_iff_prev ow.nodup ha hb
  acyclic := ow.nodup
  sorted := ow.sorted
  count := ow.count
  flag a t node := (ow.fits a t node).flag
  allocated a := by
    constructor
    · rintro ⟨t, node⟩
      exact (ow.fits a t node).held.imp id Option.mem_toList.mp
    · rintro (mem | running)
      · exact ow.nodes a mem
      · exact (ow.apart a (Option.mem_toList.mpr running)).2
  outside a running := (ow.apart a (Option.mem_toList.mpr running)).1

/-- In every run, whatever is called between the passes and in the callbacks: no object is used or freed
after it was freed, and the list is sorted, holds each allocated timer once but for the one whose callback
runs, and has both its pointers, its counter and its flags right. -/
theorem timers_in_memory (start : UInt64) (ls : List (Label κ)) (r : Except Fault (State κ))
    (rn : run step (.ok (.init start)) ls = some r) : ∃ s ns, r = .ok s ∧ TimerList s ns := by
  have begins : Sound (.ok (.init start) : Except Fault (State κ)) := ⟨_, [], rfl, .init⟩
  obtain ⟨s, ns, rfl, ow⟩ := run_preserves (fun _ _ _ so st => so.step st) begins rn
  exact ⟨s, ns, rfl, ow.timerList⟩

/-- The callback of the first timer cancels the third and itself, and adds another; the second is put
back. -/
def cancelRun : List (Label Unit) :=
  [.call (.add true true 10 5 0 (some ())), .call (.add true true 10 5 20 (some ())),
    .call (.add true true 10 100 0 (some ())), .passBegin 30, .passStep, .call (.cancel 2),
    .call (.cancel 0), .call (.add true true 31 1 0 (some ())), .callbackEnd, .passStep, .callbackEnd,
    .passStep, .passEnd]

/-- The run ends without a fault, and with a list. -/
theorem timers_in_memory_cancelRun :
    ∃ r, run step (.ok (.init 0)) cancelRun = some r ∧ ∃ s ns, r = .ok s ∧ TimerList s ns := by
  have ends : (run step (.ok (.init 0)) cancelRun).isSome := by decide +kernel
  obtain ⟨r, rn⟩ := Option.isSome_iff_exists.mp ends
  exact ⟨r, rn, timers_in_memory 0 cancelRun r rn⟩

end Atpd.Reactor.Pointers
