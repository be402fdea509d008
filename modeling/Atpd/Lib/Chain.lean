import Mathlib.Logic.Function.Basic
import Mathlib.Data.List.Basic
import Mathlib.Data.List.Nodup
import Mathlib.Tactic.Common

/-!
# Singly linked lists

A singly linked list, as it is written in C, in a memory where nodes can be freed: `nexts n` is the
pointer to the next node that the node `n` holds, or `none` if `n` was freed. `Chain` says that the
pointers hold the nodes of a list. To take a node out, one looks for the place that points to it, which
is the head or the pointer of another node, and stores there what the node points to. Nothing here names
the modelled program.

* `Slot`: a place that holds a pointer.
* `seek`: the place that points to a node, found by following the pointers.
* `Chain.seek`: it is found, and the node is taken out.
-/

namespace Atpd.Lib

variable {ν : Type*}

/-- From `ptr` on the pointers hold the nodes of a list. -/
def Chain (nexts : ν → Option (Option ν)) : Option ν → List ν → Prop
  | ptr, [] => ptr = none
  | ptr, n :: l => ptr = some n ∧ ∃ next, nexts n = some next ∧ Chain nexts next l

/-- A place that holds a pointer. -/
inductive Slot (ν : Type*) where
  | head
  | next (n : ν)
deriving DecidableEq, Repr

/-- The outcome of a search. -/
inductive Seek (ν : Type*) where
  /-- The place, and the pointer in it. -/
  | found (slot : Slot ν) (ptr : Option ν)
  /-- The search has come to a node that was freed. -/
  | freed
  | endless
deriving DecidableEq, Repr

/-- `while (*link && *link != c) link = &(*link)->next`, from the place `slot` that holds `ptr`. -/
def seek [DecidableEq ν] (nexts : ν → Option (Option ν)) (c : ν) : Nat → Slot ν → Option ν → Seek ν
  | 0, _, _ => .endless
  | _ + 1, slot, none => .found slot none
  | fuel + 1, slot, some n =>
    if n = c then .found slot (some n)
    else
      match nexts n with
      | some ptr => seek nexts c fuel (.next n) ptr
      | none => .freed

namespace Chain

variable {nexts nexts' : ν → Option (Option ν)} {ptr : Option ν} {c n : ν} {l : List ν} {fuel : Nat}

/-- Only the nodes of the list are read. -/
lemma congr (ch : Chain nexts ptr l) (same : ∀ n ∈ l, nexts' n = nexts n) : Chain nexts' ptr l := by
  induction l generalizing ptr with
  | nil => exact ch
  | cons n l ih =>
    obtain ⟨first, next, here, rest⟩ := ch
    refine ⟨first, next, ?_, ih rest fun m mem => same m (List.mem_cons_of_mem n mem)⟩
    rw [same n List.mem_cons_self]
    exact here

/-- The pointer is to the first one. -/
lemma ptr_eq (ch : Chain nexts ptr l) : ptr = l.head? := by
  cases l with
  | nil => exact ch
  | cons n l => exact ch.1

/-- The end of a list is a list. -/
lemma suffix {before : List ν} (ch : Chain nexts ptr (before ++ l)) : Chain nexts l.head? l := by
  induction before generalizing ptr with
  | nil => exact ch.ptr_eq ▸ ch
  | cons n before ih =>
    obtain ⟨-, next, -, rest⟩ := ch
    exact ih rest

/-- Behind no pointer there is nothing. -/
lemma eq_nil (ch : Chain nexts none l) : l = [] := by
  cases l with
  | nil => rfl
  | cons n l => cases ch.1

/-- The search for a node of the list ends at the place that points to it. With what the node points
to stored there, the node is no more in the list. -/
theorem seek [DecidableEq ν] (ch : Chain nexts ptr l) (nodup : l.Nodup) (mem : c ∈ l)
    (enough : l.length ≤ fuel) (slot : Slot ν) :
    ∃ next, nexts c = some next ∧
      (ptr = some c ∧ seek nexts c fuel slot ptr = .found slot (some c) ∧
          Chain nexts next (l.erase c) ∨
        ∃ p ∈ l, p ≠ c ∧ seek nexts c fuel slot ptr = .found (.next p) (some c) ∧
          Chain (Function.update nexts p (some next)) ptr (l.erase c)) := by
  induction l generalizing ptr fuel slot with
  | nil => cases mem
  | cons n l ih =>
    obtain ⟨first, after, here, rest⟩ := ch
    obtain ⟨fresh, nodup⟩ := List.nodup_cons.mp nodup
    obtain ⟨fuel, rfl⟩ : ∃ k, fuel = k + 1 := ⟨fuel - 1, by simp only [List.length_cons] at enough; omega⟩
    subst first
    by_cases eq : n = c
    · subst eq
      refine ⟨after, here, .inl ⟨rfl, ?_, ?_⟩⟩
      · simp [Lib.seek]
      · rw [List.erase_cons_head]
        exact rest
    · have mem : c ∈ l := (List.mem_cons.mp mem).resolve_left (Ne.symm eq)
      have erase : (n :: l).erase c = n :: l.erase c := List.erase_cons_tail (by simpa using eq)
      have enough : l.length ≤ fuel := by simpa using enough
      have goes : Lib.seek nexts c (fuel + 1) slot (some n) = Lib.seek nexts c fuel (.next n) after := by
        simp [Lib.seek, eq, here]
      obtain ⟨next, there, ⟨points, found, out⟩ | ⟨p, pmem, pne, found, out⟩⟩ :=
        ih rest nodup mem enough (.next n)
      · refine ⟨next, there, .inr ⟨n, List.mem_cons_self, eq, goes.trans found, ?_⟩⟩
        rw [erase]
        refine ⟨rfl, next, Function.update_self .., out.congr fun m mmem => ?_⟩
        have other : m ≠ n := by
          rintro rfl
          exact fresh (List.mem_of_mem_erase mmem)
        exact Function.update_of_ne other ..
      · refine ⟨next, there, .inr ⟨p, List.mem_cons_of_mem n pmem, pne, goes.trans found, ?_⟩⟩
        have other : n ≠ p := by
          rintro rfl
          exact fresh pmem
        rw [erase]
        exact ⟨rfl, after, (Function.update_of_ne other ..).trans here, out⟩

end Chain

end Atpd.Lib
