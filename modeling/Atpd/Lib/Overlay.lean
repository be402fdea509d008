import Mathlib.Data.List.Sigma
import Mathlib.Logic.Function.Basic

/-!
# Values by name, written over

A family `f` of values, one for each name, and a list of names with new values. `overlay f es` takes the
value that `es` gives to a name, and the one of `f` for the other names.

* `overlay_cons`: the list may be worked off from its head, one `Function.update` at a time.
* `overlay_perm`: where no name occurs twice, the order does not matter.
* `overlay_of_mem`: a name in the list has the value that is given there.
-/

namespace Atpd.Lib

variable {α : Type*} {β : α → Type*} [DecidableEq α]

/-- The values of `f`, with those of `es` over them. -/
def overlay (f : ∀ a, β a) (es : List (Sigma β)) : ∀ a, β a :=
  fun a => (es.dlookup a).getD (f a)

variable {f : ∀ a, β a} {es es' : List (Sigma β)} {a : α} {b : β a}

@[simp] lemma overlay_nil : overlay f [] = f := rfl

/-- The first entry may be written before the others. -/
lemma overlay_cons (fresh : a ∉ es.keys) : overlay (Function.update f a b) es = overlay f (⟨a, b⟩ :: es) := by
  funext c
  by_cases same : c = a
  · subst same
    rw [overlay, overlay, List.dlookup_eq_none.mpr fresh, List.dlookup_cons_eq]
    exact Function.update_self ..
  · rw [overlay, overlay, List.dlookup_cons_ne es ⟨a, b⟩ same, Function.update_of_ne same]

/-- What is entered is found. -/
lemma overlay_of_mem (nodup : es.NodupKeys) (mem : ⟨a, b⟩ ∈ es) : overlay f es a = b := by
  rw [overlay, List.mem_dlookup nodup mem]
  rfl

/-- What is not is as before. -/
lemma overlay_of_notMem (absent : a ∉ es.keys) : overlay f es a = f a := by
  rw [overlay, List.dlookup_eq_none.mpr absent]
  rfl

/-- The order does not matter. -/
lemma overlay_perm (nodup : es.NodupKeys) (perm : es.Perm es') : overlay f es = overlay f es' := by
  funext c
  rw [overlay, overlay, List.perm_dlookup c nodup perm]

end Atpd.Lib
