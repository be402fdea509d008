import Mathlib.Algebra.GroupWithZero.Nat
import Mathlib.Logic.Function.Basic
import Mathlib.Tactic.Common

/-!
# Ring buffers

A table of `cap` slots that keeps the latest entries: a push writes behind the last one, and when the
table is full it takes the slot of the oldest. Two positions and a count say where the entries are.
`Holds` relates a ring to the list of its entries, and `Holds.push` is the one lemma about the positions;
everything else follows from it. Nothing here names the modelled program.

* `latest cap xs`: what a queue of `cap` slots keeps of `xs`.
* `Holds.push`: a push keeps the latest entries.
* `Holds.get`, `Holds.last`: what is read.
-/

namespace Atpd.Lib

variable {α : Type*} {cap : Nat}

/-- The last entries of `xs`, at most `cap` of them. -/
def latest (cap : Nat) (xs : List α) : List α := xs.drop (xs.length - cap)

/-- How many of them there are. -/
lemma length_latest (cap : Nat) (xs : List α) : (latest cap xs).length = min xs.length cap := by
  rw [latest, List.length_drop]
  omega

/-- Only the latest entries matter for what is kept later. -/
lemma latest_latest (cap : Nat) (xs ys : List α) :
    latest cap (latest cap xs ++ ys) = latest cap (xs ++ ys) := by
  rw [latest, latest, latest, List.length_append, List.length_drop, List.length_append]
  by_cases fits : xs.length ≤ cap
  · rw [Nat.sub_eq_zero_of_le fits, List.drop_zero, Nat.sub_zero]
  · rw [← List.drop_append_of_le_length (by omega), List.drop_drop]
    congr 1
    omega

/-- The last one is among them. -/
lemma getLast?_latest (pos : 0 < cap) (xs : List α) : (latest cap xs).getLast? = xs.getLast? := by
  cases xs with
  | nil => simp [latest]
  | cons x xs =>
    rw [latest, List.getLast?_drop, if_neg]
    rw [List.length_cons]
    omega

/-- A ring with `cap` slots. -/
structure Ring (α : Type*) (cap : Nat) where
  slots : Fin cap → α
  head : Fin cap
  tail : Fin cap
  count : Nat

namespace Ring

variable [NeZero cap] {r : Ring α cap} {xs : List α}

/-- A ring without entries; its slots hold `blank`. -/
def empty (blank : α) : Ring α cap := ⟨fun _ => blank, 0, 0, 0⟩

/-- The entry goes to the slot at `tail`; `head` moves only when the table is full. -/
def push (r : Ring α cap) (x : α) : Ring α cap :=
  let slots := Function.update r.slots r.tail x
  let tail := Fin.ofNat cap (r.tail + 1)
  if r.count < cap then ⟨slots, r.head, tail, r.count + 1⟩
  else ⟨slots, Fin.ofNat cap (r.head + 1), tail, r.count⟩

/-- The entry at `index`, counted from the oldest. -/
def get (r : Ring α cap) (index : Nat) : Option α :=
  if r.count ≤ index then none else some (r.slots (Fin.ofNat cap (r.head + index)))

/-- The newest entry. -/
def last (r : Ring α cap) : Option α :=
  if r.count = 0 then none else some (r.slots (Fin.ofNat cap (r.tail + cap - 1)))

/-- The ring has the entries `xs`, the oldest first. -/
structure Holds (r : Ring α cap) (xs : List α) : Prop where
  count : r.count = xs.length
  fits : xs.length ≤ cap
  tail : r.tail = Fin.ofNat cap (r.head + xs.length)
  slots : ∀ i (h : i < xs.length), r.slots (Fin.ofNat cap (r.head + i)) = xs[i]

/-- An empty ring holds nothing. -/
lemma holds_empty (blank : α) : Holds (empty blank : Ring α cap) [] where
  count := rfl
  fits := Nat.zero_le _
  tail := by simp [empty]
  slots i h := absurd h (Nat.not_lt_zero i)

/-- Two steps along the ring are one. -/
lemma ofNat_add (head : Fin cap) (i j : Nat) :
    Fin.ofNat cap ((Fin.ofNat cap (head + i) : Fin cap) + j) = Fin.ofNat cap (head + (i + j)) := by
  apply Fin.ext
  show ((head.val + i) % cap + j) % cap = (head.val + (i + j)) % cap
  rw [Nat.mod_add_mod, Nat.add_assoc]

/-- A whole turn leads back. -/
lemma ofNat_turn (head : Fin cap) (i : Nat) :
    Fin.ofNat cap (head + (i + cap)) = Fin.ofNat cap (head + i) := by
  apply Fin.ext
  show (head.val + (i + cap)) % cap = (head.val + i) % cap
  rw [← Nat.add_assoc, Nat.add_mod_right]

/-- Two positions less than a turn apart are different. -/
lemma ofNat_ne {i j : Nat} (head : Fin cap) (less : i < j) (near : j < i + cap) :
    Fin.ofNat cap (head + i) ≠ Fin.ofNat cap (head + j) := by
  intro same
  have same : (head.val + i) % cap = (head.val + j) % cap := congrArg Fin.val same
  have apart := Nat.dvd_of_mod_eq_zero (Nat.sub_mod_eq_zero_of_mod_eq same.symm)
  have turn := Nat.le_of_dvd (by omega) apart
  omega

/-- A push into a table with room. -/
lemma Holds.push_room (holds : Holds r xs) (room : xs.length < cap) (x : α) :
    Holds (r.push x) (xs ++ [x]) := by
  rw [Ring.push, if_pos (holds.count ▸ room)]
  refine ⟨?_, ?_, ?_, ?_⟩
  · rw [List.length_append, holds.count]
    rfl
  · rw [List.length_append]
    exact room
  · rw [List.length_append, holds.tail]
    exact ofNat_add r.head xs.length 1
  · intro i h
    rw [List.length_append, List.length_singleton] at h
    show Function.update r.slots r.tail x (Fin.ofNat cap (r.head + i)) = _
    by_cases new : i = xs.length
    · subst new
      rw [← holds.tail, Function.update_self, List.getElem_concat_length rfl]
    · have older : i < xs.length := by omega
      have apart : Fin.ofNat cap (r.head + i) ≠ r.tail :=
        holds.tail ▸ ofNat_ne r.head older (by omega)
      rw [Function.update_of_ne apart, List.getElem_append_left older]
      exact holds.slots i older

/-- A push into a full table, where `tail` is at the oldest entry. -/
lemma Holds.push_full (holds : Holds r xs) (full : xs.length = cap) (x : α) :
    Holds (r.push x) (xs.drop 1 ++ [x]) := by
  have pos : 0 < cap := Nat.pos_of_neZero cap
  have length : (xs.drop 1 ++ [x]).length = cap := by
    rw [List.length_append, List.length_drop, List.length_singleton]
    omega
  have next : ∀ i, Fin.ofNat cap ((Fin.ofNat cap (r.head + 1) : Fin cap) + i) =
      Fin.ofNat cap (r.head + (i + 1)) := by
    intro i
    rw [ofNat_add, Nat.add_comm 1 i]
  rw [Ring.push, if_neg (by rw [holds.count]; omega)]
  refine ⟨?_, Nat.le_of_eq length, ?_, ?_⟩
  · rw [length, holds.count, full]
  · rw [length, next, holds.tail, full, ofNat_add]
  · intro i h
    rw [length] at h
    show Function.update r.slots r.tail x
      (Fin.ofNat cap ((Fin.ofNat cap (r.head + 1) : Fin cap) + i)) = _
    rw [next]
    by_cases new : i + 1 = cap
    · have last : i = (xs.drop 1).length := by
        rw [List.length_drop]
        omega
      subst last
      rw [new.trans full.symm, ← holds.tail, Function.update_self, List.getElem_concat_length rfl]
    · have older : i < (xs.drop 1).length := by
        rw [List.length_drop]
        omega
      have apart : Fin.ofNat cap (r.head + (i + 1)) ≠ r.tail :=
        holds.tail ▸ ofNat_ne r.head (by omega) (by omega)
      rw [Function.update_of_ne apart, List.getElem_append_left older, List.getElem_drop,
        holds.slots (i + 1) (by omega)]
      simp only [Nat.add_comm]

/-- A push keeps the latest entries. -/
theorem Holds.push (holds : Holds r xs) (x : α) : Holds (r.push x) (latest cap (xs ++ [x])) := by
  have fits := holds.fits
  rw [latest, List.length_append, List.length_singleton]
  by_cases room : xs.length < cap
  · rw [Nat.sub_eq_zero_of_le room]
    exact holds.push_room room x
  · have full : xs.length = cap := by omega
    have pos : 0 < cap := Nat.pos_of_neZero cap
    rw [full, Nat.add_sub_cancel_left, List.drop_append_of_le_length (by omega)]
    exact holds.push_full full x

/-- From the oldest one on. -/
lemma Holds.get (holds : Holds r xs) (i : Nat) : r.get i = xs[i]? := by
  rw [Ring.get, holds.count]
  split
  · rename_i beyond
    exact (List.getElem?_eq_none beyond).symm
  · rename_i within
    rw [holds.slots i (by omega), List.getElem?_eq_getElem]

/-- And the last one. -/
lemma Holds.last (holds : Holds r xs) : r.last = xs.getLast? := by
  have pos : 0 < cap := Nat.pos_of_neZero cap
  rw [Ring.last, holds.count, List.getLast?_eq_getElem?]
  cases empty : xs.length with
  | zero => simp [List.length_eq_zero_iff.mp empty]
  | succ n =>
    have behind : (Fin.ofNat cap (r.head + (n + 1)) : Fin cap).val + cap - 1 =
        (Fin.ofNat cap (r.head + (n + 1)) : Fin cap).val + (cap - 1) := Nat.add_sub_assoc pos _
    have turn : n + 1 + (cap - 1) = n + cap := by omega
    rw [if_neg (Nat.succ_ne_zero n), holds.tail, empty, behind, ofNat_add, turn, ofNat_turn,
      holds.slots n (by omega), Nat.add_sub_cancel, List.getElem?_eq_getElem]

end Ring

end Atpd.Lib
