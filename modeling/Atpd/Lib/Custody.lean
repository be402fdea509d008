import Mathlib.Data.List.Nodup
import Mathlib.Data.List.Perm.Basic
import Mathlib.Tactic.Common

/-!
# Custody of resources

Descriptors, heap blocks and threads as tokens: each is handed out once, and given back once. To give
back, or to use, what is not held is a fault, which is `none`. Nothing here names the modelled program.

A function of a component is specified with a frame: if what is held is the component's own tokens and
some others, then the call does not fault, and afterwards what is held is the component's own tokens and
the same others. `Holds` is this condition, and its rules are those of the three operations; `releaseAll`
gives back one after the other.
-/

namespace Atpd.Lib

/-- What is held, and the token that is handed out next. -/
structure Custody where
  held : List Nat
  next : Nat
  below : ∀ i ∈ held, i < next
  nodup : held.Nodup

namespace Custody

variable {c : Custody} {own own' frame ids : List Nat} {id : Nat}

/-- Nothing was handed out yet. -/
def empty : Custody where
  held := []
  next := 0
  below _ mem := absurd mem List.not_mem_nil
  nodup := List.nodup_nil

/-- Hands out a token. -/
def acquire (c : Custody) : Custody where
  held := c.next :: c.held
  next := c.next + 1
  below i mem := by
    rcases List.mem_cons.mp mem with rfl | mem
    · exact Nat.lt_succ_self _
    · exact Nat.lt_succ_of_lt (c.below i mem)
  nodup := List.nodup_cons.mpr ⟨fun mem => absurd (c.below _ mem) (Nat.lt_irrefl _), c.nodup⟩

/-- Takes a token back. -/
def release (c : Custody) (id : Nat) : Option Custody :=
  if id ∈ c.held then
    some ⟨c.held.erase id, c.next, fun i mem => c.below i (List.mem_of_mem_erase mem), c.nodup.erase id⟩
  else none

/-- Uses what the token stands for. -/
def use (c : Custody) (id : Nat) : Option Custody := if id ∈ c.held then some c else none

/-- Takes the tokens back from left to right. -/
def releaseAll : List Nat → Custody → Option Custody
  | [], c => some c
  | id :: ids, c => (c.release id).bind (releaseAll ids)

/-- What is held is `own`, in some order. -/
def Holds (c : Custody) (own : List Nat) : Prop := c.held.Perm own

namespace Holds

/-- The order does not matter. -/
lemma perm (ho : c.Holds own) (same : own.Perm own') : c.Holds own' := List.Perm.trans ho same

/-- A new one is held. -/
lemma acquire (ho : c.Holds own) : c.acquire.Holds (c.next :: own) := List.Perm.cons _ ho

/-- What is owned is held, so it can be used. -/
lemma use (ho : c.Holds own) (mem : id ∈ own) : c.use id = some c := if_pos (ho.mem_iff.mpr mem)

/-- What is owned is held, so it can be given back, and then it is gone. -/
lemma release (ho : c.Holds (id :: own)) : ∃ c', c.release id = some c' ∧ c'.Holds own := by
  have mem : id ∈ c.held := ho.mem_iff.mpr List.mem_cons_self
  refine ⟨_, if_pos mem, ?_⟩
  have erased : (c.held.erase id).Perm ((id :: own).erase id) := List.Perm.erase id ho
  rwa [List.erase_cons_head] at erased

/-- What is held can be given back, one by one. -/
lemma releaseAll (ho : c.Holds (ids ++ own)) : ∃ c', releaseAll ids c = some c' ∧ c'.Holds own := by
  induction ids generalizing c with
  | nil => exact ⟨c, rfl, ho⟩
  | cons id ids ih =>
    obtain ⟨c1, eq1, ho1⟩ := ho.release
    obtain ⟨c2, eq2, ho2⟩ := ih ho1
    exact ⟨c2, by rw [Custody.releaseAll, eq1, Option.bind_some, eq2], ho2⟩

end Holds

end Custody

end Atpd.Lib
