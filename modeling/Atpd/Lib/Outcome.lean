import Mathlib.Tactic.Common

/-!
# Outcomes of a computation that may fail

A computation in `Except ε` that is allowed to fail in some ways only. `Ends E P r` says that `r` is a
result with `P`, or a failure with `E`; it follows the computation through `bind`. Nothing here names
the modelled program.
-/

namespace Atpd.Lib

universe u

variable {ε : Type*} {α β : Type u} {E : ε → Prop} {P Q : α → Prop} {R : β → Prop} {r : Except ε α}

/-- The result has `P`, or the failure has `E`. -/
def Ends (E : ε → Prop) (P : α → Prop) : Except ε α → Prop
  | .ok a => P a
  | .error e => E e

namespace Ends

/-- One computation behind another. -/
lemma bind {f : α → Except ε β} (first : Ends E P r) (next : ∀ a, P a → Ends E R (f a)) :
    Ends E R (r >>= f) := by
  cases r with
  | ok a => exact next a first
  | error e => exact first

/-- A weaker end. -/
lemma mono (ends : Ends E P r) (weaker : ∀ a, P a → Q a) : Ends E Q r := by
  cases r with
  | ok a => exact weaker a ends
  | error e => exact ends

/-- What a result meets. -/
lemma of_ok {a : α} (ends : Ends E P r) (eq : r = .ok a) : P a := by
  subst eq
  exact ends

/-- What an error meets. -/
lemma of_error {e : ε} (ends : Ends E P r) (eq : r = .error e) : E e := by
  subst eq
  exact ends

end Ends

end Atpd.Lib
