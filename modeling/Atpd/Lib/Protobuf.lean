import Mathlib.Tactic.Common
import Mathlib.Algebra.Group.Nat.Defs

/-!
# The protobuf wire format

A message is a sequence of fields, each a key and a payload. The encoding is a relation, not a function:
a varint may be padded, and the fields may stand in any order. Nothing here names the modelled program.

* `Varint n bs`: the bytes `bs` hold the number `n`, seven bits in each byte, the lowest first.
* `Payload.Encoded`, `Field.Encoded`: one field.
* `Message fs bs`: the bytes `bs` hold the fields `fs`, in this order.
-/

namespace Atpd.Lib.Protobuf

/-! ## Numbers -/

/-- The bytes hold a number; each but the last has its top bit set. -/
inductive Varint : Nat → List UInt8 → Prop where
  | last {n : Nat} (small : n < 128) : Varint n [UInt8.ofNat n]
  | more {digit n : Nat} {bs : List UInt8} (small : digit < 128) (rest : Varint n bs) :
      Varint (digit + 128 * n) (UInt8.ofNat (digit + 128) :: bs)

/-- A varint takes up at least one byte. -/
lemma Varint.length_pos {n : Nat} {bs : List UInt8} (vi : Varint n bs) : 0 < bs.length := by
  cases vi <;> exact Nat.succ_pos _

/-- The seven bits of a byte that holds a digit, and its top bit. -/
lemma byte_digit {n : Nat} (small : n < 256) :
    (UInt8.ofNat n &&& 0x7f).toNat = n % 128 ∧ (UInt8.ofNat n &&& 0x80 = 0 ↔ n < 128) := by
  have all : ∀ k : Fin 256, (UInt8.ofNat k &&& 0x7f).toNat = k.val % 128 ∧
      (UInt8.ofNat k &&& 0x80 = 0 ↔ k.val < 128) := by
    decide +kernel
  exact all ⟨n, small⟩

/-- A digit is added above the bits so far. -/
lemma or_shiftLeft {result : UInt64} {digit shift : Nat} (below : result.toNat < 2 ^ shift)
    (low : shift < 64) (fits : digit * 2 ^ shift < 2 ^ 64) :
    (result ||| UInt64.ofNat digit <<< UInt64.ofNat shift).toNat = result.toNat + digit * 2 ^ shift := by
  have pos : 0 < 2 ^ shift := Nat.two_pow_pos _
  have digitSmall : digit < 2 ^ 64 := Nat.lt_of_le_of_lt (Nat.le_mul_of_pos_right _ pos) fits
  have shiftSmall : shift % 2 ^ 64 % 64 = shift := by omega
  have shifted : (UInt64.ofNat digit <<< UInt64.ofNat shift).toNat = 2 ^ shift * digit := by
    rw [UInt64.toNat_shiftLeft, UInt64.toNat_ofNat', UInt64.toNat_ofNat', shiftSmall,
      Nat.mod_eq_of_lt digitSmall, Nat.shiftLeft_eq, Nat.mod_eq_of_lt fits, Nat.mul_comm]
  rw [UInt64.toNat_or, shifted, Nat.or_comm, ← Nat.two_pow_add_eq_or_of_lt below]
  rw [Nat.add_comm, Nat.mul_comm]

/-! ## Fields -/

/-- What a field holds. The wire types 3, 4, 6 and 7 are not in use. -/
inductive Payload where
  | varint (value : UInt64)
  | fixed64 (data : List UInt8)
  | bytes (data : List UInt8)
  | fixed32 (data : List UInt8)
deriving DecidableEq, Repr

/-- The wire type of a payload. -/
def Payload.wire : Payload → Nat
  | .varint _ => 0
  | .fixed64 _ => 1
  | .bytes _ => 2
  | .fixed32 _ => 5

/-- It has three bits. -/
lemma Payload.wire_lt (p : Payload) : p.wire < 8 := by
  cases p <;> simp [Payload.wire]

/-- A varint has at most ten bytes. -/
inductive Payload.Encoded : Payload → List UInt8 → Prop where
  | varint {value : UInt64} {bs : List UInt8} (number : Varint value.toNat bs) (short : bs.length ≤ 10) :
      Encoded (.varint value) bs
  | fixed64 {data : List UInt8} (length : data.length = 8) : Encoded (.fixed64 data) data
  | bytes {data bs : List UInt8} (number : Varint data.length bs) (short : bs.length ≤ 10)
      (small : data.length < 2 ^ 64) : Encoded (.bytes data) (bs ++ data)
  | fixed32 {data : List UInt8} (length : data.length = 4) : Encoded (.fixed32 data) data

/-- A number, and what it stands for. -/
structure Field where
  number : Nat
  payload : Payload
deriving DecidableEq, Repr

/-- The number and the wire type in one. -/
def Field.key (f : Field) : Nat := f.number * 8 + f.payload.wire

/-- The key and the payload; a field number has 29 bits. -/
inductive Field.Encoded (f : Field) : List UInt8 → Prop where
  | intro {key bs : List UInt8} (small : f.number < 2 ^ 29) (number : Varint f.key key)
      (short : key.length ≤ 10) (payload : f.payload.Encoded bs) : Encoded f (key ++ bs)

/-- The key as a number of 64 bits, taken apart. -/
lemma Field.key_parts {f : Field} (small : f.number < 2 ^ 29) :
    f.key < 2 ^ 64 ∧ UInt64.ofNat f.key &&& 7 = UInt64.ofNat f.payload.wire ∧
      (UInt64.ofNat f.key >>> 3).toUInt32 = UInt32.ofNat f.number := by
  have wire := f.payload.wire_lt
  have keySmall : f.key < 2 ^ 64 := by
    rw [Field.key]
    omega
  refine ⟨keySmall, ?_, ?_⟩
  · apply UInt64.toNat_inj.mp
    have mask : (7 : UInt64).toNat = 2 ^ 3 - 1 := rfl
    rw [UInt64.toNat_and, mask, Nat.and_two_pow_sub_one_eq_mod, UInt64.toNat_ofNat', UInt64.toNat_ofNat',
      Field.key]
    omega
  · apply UInt32.toNat_inj.mp
    have three : (3 : UInt64).toNat % 64 = 3 := rfl
    rw [UInt64.toNat_toUInt32, UInt64.toNat_shiftRight, three, Nat.shiftRight_eq_div_pow,
      UInt64.toNat_ofNat', UInt32.toNat_ofNat', Field.key]
    omega

/-- The key is a number of 32 bits. -/
lemma Field.Encoded.number_lt {f : Field} {bs : List UInt8} (fe : f.Encoded bs) :
    f.number < 2 ^ 29 := by
  obtain ⟨small, -, -, -⟩ := fe
  exact small

/-- A field whose key has one byte. -/
lemma Field.encoded_of_key_lt {f : Field} {bs : List UInt8} (small : f.key < 128)
    (payload : f.payload.Encoded bs) : f.Encoded (UInt8.ofNat f.key :: bs) := by
  refine .intro ?_ (.last small) (by simp) payload
  rw [Field.key] at small
  omega

/-! ## Messages -/

/-- The fields, one after the other. -/
inductive Message : List Field → List UInt8 → Prop where
  | nil : Message [] []
  | cons {f : Field} {fs : List Field} {bs rest : List UInt8} (field : f.Encoded bs)
      (fields : Message fs rest) : Message (f :: fs) (bs ++ rest)

/-- A field takes up at least one byte. -/
lemma Field.Encoded.length_pos {f : Field} {bs : List UInt8} (fe : f.Encoded bs) : 0 < bs.length := by
  obtain ⟨-, number, -, -⟩ := fe
  rw [List.length_append]
  exact Nat.lt_of_lt_of_le number.length_pos (Nat.le_add_right _ _)

/-- An encoding is not empty. -/
lemma Field.Encoded.append_eq_cons {f : Field} {bs : List UInt8} (fe : f.Encoded bs) (rest : List UInt8) :
    ∃ byte tail, bs ++ rest = byte :: tail := by
  cases bs with
  | nil => cases fe.length_pos
  | cons byte bs => exact ⟨byte, bs ++ rest, rfl⟩

end Atpd.Lib.Protobuf
