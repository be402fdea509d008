import Mathlib.Logic.Function.Basic
import Mathlib.Tactic.Common

/-!
# Directories

A directory as a function from names to files, and `rename` in it: the file at the old name takes the new
name from the file that has it, and nothing is done where both names are of one file. Nothing here names
the modelled program.

`moveUp chain k` renames along a sequence of names, from `chain k` down: each file gets the next name.
Each of the renames finds the name it gives either free or of a file that has another name, except for the
first; so one file at most is left without a name.
-/

namespace Atpd.Lib.Directory

variable {α β : Type*} [DecidableEq α] [DecidableEq β] {names : α → Option β} {old new name : α} {file : β}
  {chain : Nat → α} {i k : Nat}

/-- `rename(old, new)`. -/
def rename (names : α → Option β) (old new : α) : α → Option β :=
  if names old = none ∨ names old = names new then names
  else Function.update (Function.update names new (names old)) old none

/-- Other names keep their files. -/
lemma rename_other (ne_old : name ≠ old) (ne_new : name ≠ new) : rename names old new name = names name := by
  rw [rename]
  split
  · rfl
  · rw [Function.update_of_ne ne_old, Function.update_of_ne ne_new]

/-- The file has the new name. -/
lemma rename_new (entry : names old = some file) : rename names old new new = some file := by
  rw [rename, entry]
  split
  · rename_i same
    rcases same with none | same
    · cases none
    · exact same.symm
  · rename_i differ
    have ne : new ≠ old := by
      rintro rfl
      exact differ (.inr entry.symm)
    rw [Function.update_of_ne ne, Function.update_self]

/-- No file gets a name but the one at the old name. -/
lemma mem_rename (entry : rename names old new name = some file) : ∃ name', names name' = some file := by
  rw [rename] at entry
  split at entry
  · exact ⟨name, entry⟩
  · by_cases here : name = old
    · rw [here, Function.update_self] at entry
      cases entry
    · rw [Function.update_of_ne here] at entry
      by_cases there : name = new
      · rw [there, Function.update_self] at entry
        exact ⟨old, entry⟩
      · rw [Function.update_of_ne there] at entry
        exact ⟨name, entry⟩

/-- The renames along `chain`, from `chain k` down. -/
def moveUp (chain : Nat → α) : Nat → (α → Option β) → α → Option β
  | 0, names => names
  | k + 1, names => moveUp chain k (rename names (chain k) (chain (k + 1)))

/-- Names outside of the chain stay. -/
lemma moveUp_other (outside : ∀ i ≤ k, name ≠ chain i) : moveUp chain k names name = names name := by
  induction k generalizing names with
  | zero => rfl
  | succ k ih =>
    rw [moveUp, ih fun i le => outside i (Nat.le_succ_of_le le)]
    exact rename_other (outside k (Nat.le_succ k)) (outside (k + 1) (Nat.le_refl _))

/-- Each file of the chain gets the next name. -/
theorem moveUp_moved (inj : Function.Injective chain) (lt : i < k) (entry : names (chain i) = some file) :
    moveUp chain k names (chain (i + 1)) = some file := by
  induction k generalizing names with
  | zero => cases lt
  | succ k ih =>
    rw [moveUp]
    rcases Nat.lt_succ_iff_lt_or_eq.mp lt with lt | rfl
    · refine ih lt ?_
      rw [rename_other (inj.ne (by omega)) (inj.ne (by omega))]
      exact entry
    · rw [moveUp_other fun j le => inj.ne (by omega)]
      exact rename_new entry

/-- Every file keeps a name, except for the one that had the last name of the chain only. -/
theorem moveUp_kept (inj : Function.Injective chain) (entry : names name = some file)
    (ne : name ≠ chain k) : ∃ name', moveUp chain k names name' = some file := by
  induction k generalizing names name with
  | zero => exact ⟨name, entry⟩
  | succ k ih =>
    by_cases here : name = chain k
    · exact ih (rename_new (here ▸ entry)) (inj.ne (Nat.succ_ne_self k))
    · exact ih ((rename_other here ne).trans entry) here

end Atpd.Lib.Directory
