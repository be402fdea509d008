import Mathlib.Tactic.Common
import Mathlib.Data.List.Basic

/-!
# UTF-8

The encoding of a text, and how much of a text fits into a number of bytes. Nothing here names the
modelled program.

* `lead_encodeChar`: the first byte of a codepoint tells how many bytes it has.
* `fitting n cs`: the codepoints of `cs` that fit into `n` bytes; `fitting_longest`: no longer part from
  the begin fits.
-/

namespace Atpd.Lib.Utf8

variable {c : Char} {cs : List Char} {n : Nat}

/-- The bytes of a text. -/
def encode (cs : List Char) : List UInt8 := cs.flatMap String.utf8EncodeChar

@[simp] lemma encode_nil : encode [] = [] := rfl

@[simp] lemma encode_cons : encode (c :: cs) = String.utf8EncodeChar c ++ encode cs := rfl

/-- The length of a codepoint, told by its first byte. -/
def Announces (b : UInt8) (n : Nat) : Prop :=
  n = 1 ∧ b < 0x80 ∨ n = 2 ∧ b &&& 0xe0 = 0xc0 ∨ n = 3 ∧ b &&& 0xf0 = 0xe0 ∨ n = 4 ∧ b &&& 0xf8 = 0xf0

/-- Some bits of a byte with a mark above them. -/
lemma mark_bits (x : UInt8) :
    (x &&& 0x1f ||| 0xc0) &&& 0xe0 = 0xc0 ∧ (x &&& 0x0f ||| 0xe0) &&& 0xf0 = 0xe0 ∧
      (x &&& 0x07 ||| 0xf0) &&& 0xf8 = 0xf0 := by
  have all : ∀ k : Fin 256, (UInt8.ofNat k &&& 0x1f ||| 0xc0) &&& 0xe0 = 0xc0 ∧
      (UInt8.ofNat k &&& 0x0f ||| 0xe0) &&& 0xf0 = 0xe0 ∧
      (UInt8.ofNat k &&& 0x07 ||| 0xf0) &&& 0xf8 = 0xf0 := by
    decide +kernel
  have here := all ⟨x.toNat, x.toNat_lt⟩
  rw [UInt8.ofNat_toNat] at here
  exact here

/-- The first byte tells how many there are. -/
lemma lead_encodeChar (c : Char) :
    ∃ b tail, String.utf8EncodeChar c = b :: tail ∧ Announces b c.utf8Size := by
  rcases c.utf8Size_eq with one | two | three | four
  · refine ⟨_, _, String.utf8EncodeChar_eq_singleton one, .inl ⟨one, ?_⟩⟩
    have small := Char.utf8Size_eq_one_iff.mp one
    rw [UInt32.le_iff_toNat_le] at small
    rw [UInt8.lt_iff_toNat_lt, UInt32.toNat_toUInt8]
    have bound : (127 : UInt32).toNat = 127 := rfl
    have top : (0x80 : UInt8).toNat = 128 := rfl
    omega
  · exact ⟨_, _, String.utf8EncodeChar_eq_cons_cons two, .inr (.inl ⟨two, (mark_bits _).1⟩)⟩
  · refine ⟨_, _, String.utf8EncodeChar_eq_cons_cons_cons three, ?_⟩
    exact .inr (.inr (.inl ⟨three, (mark_bits _).2.1⟩))
  · refine ⟨_, _, String.utf8EncodeChar_eq_cons_cons_cons_cons four, ?_⟩
    exact .inr (.inr (.inr ⟨four, (mark_bits _).2.2⟩))

/-- Two texts are encoded one after the other. -/
lemma encode_append (cs ds : List Char) : encode (cs ++ ds) = encode cs ++ encode ds :=
  List.flatMap_append

/-- The first character, and the others. -/
lemma length_encode_cons : (encode (c :: cs)).length = c.utf8Size + (encode cs).length := by
  rw [encode_cons, List.length_append, String.length_utf8EncodeChar]

/-- Only the empty text has no bytes. -/
lemma eq_nil_of_length_encode (none : (encode cs).length = 0) : cs = [] := by
  cases cs with
  | nil => rfl
  | cons c cs =>
    have pos := c.utf8Size_pos
    rw [length_encode_cons] at none
    omega

/-! ## What fits -/

/-- The codepoints that fit into `n` bytes. -/
def fitting : Nat → List Char → List Char
  | _, [] => []
  | n, c :: cs => if c.utf8Size ≤ n then c :: fitting (n - c.utf8Size) cs else []

@[simp] lemma fitting_zero : fitting 0 cs = [] := by
  cases cs with
  | nil => rfl
  | cons c cs => rw [fitting, if_neg (Nat.not_le.mpr c.utf8Size_pos)]

/-- What fits does. -/
lemma length_fitting (n : Nat) (cs : List Char) : (encode (fitting n cs)).length ≤ n := by
  induction cs generalizing n with
  | nil => exact Nat.zero_le n
  | cons c cs ih =>
    rw [fitting]
    split
    · have rest := ih (n - c.utf8Size)
      rw [length_encode_cons]
      omega
    · exact Nat.zero_le n

/-- It is a prefix. -/
lemma fitting_prefix (n : Nat) (cs : List Char) : fitting n cs <+: cs := by
  induction cs generalizing n with
  | nil => exact List.nil_prefix
  | cons c cs ih =>
    rw [fitting]
    split
    · exact List.cons_prefix_cons.mpr ⟨rfl, ih _⟩
    · exact List.nil_prefix

/-- Every part from the begin that fits is a part of this one. -/
theorem fitting_longest {ds : List Char} (part : ds <+: cs) (fits : (encode ds).length ≤ n) :
    ds <+: fitting n cs := by
  induction cs generalizing n ds with
  | nil => exact part
  | cons c cs ih =>
    cases ds with
    | nil => exact List.nil_prefix
    | cons d ds =>
      obtain ⟨rfl, rest⟩ := List.cons_prefix_cons.mp part
      rw [length_encode_cons] at fits
      rw [fitting, if_pos (by omega)]
      exact List.cons_prefix_cons.mpr ⟨rfl, ih rest (by omega)⟩

end Atpd.Lib.Utf8
