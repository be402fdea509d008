import Atpd.Api.GrpcWeb
import Atpd.Lib.Protobuf

/-!
# Status messages

`parse_status_frame` against the protobuf encoding of `daemon.Status`. The encoding may leave out fields
that are zero, puts them in any order, and may have fields that the parser does not know.
-/

namespace Atpd.Api

open Atpd.Lib Atpd.Lib.Protobuf

variable {s status : SingboxStatus} {f : Field} {fs : List Field} {n : Nat} {bs message rest t : Bytes}

/-! ## Numbers and keys -/

/-- The bits of one byte come on top of `result`. -/
lemma or_byte {result : UInt64} {d shift : Nat} (byte : d < 256) (below : result.toNat < 2 ^ shift)
    (low : shift < 64) (fits : d % 128 * 2 ^ shift < 2 ^ 64) :
    (result ||| (UInt8.ofNat d &&& 0x7f).toUInt64 <<< UInt64.ofNat shift).toNat =
      result.toNat + d % 128 * 2 ^ shift := by
  have digit : (UInt8.ofNat d &&& 0x7f).toUInt64 = UInt64.ofNat (d % 128) := by
    apply UInt64.toNat_inj.mp
    rw [UInt8.toNat_toUInt64, (byte_digit byte).1, UInt64.toNat_ofNat']
    omega
  rw [digit]
  exact or_shiftLeft below low fits

/-- A varint is read back: by induction on its bytes, with the bits below `shift` in `result`. -/
lemma readVarint_append {shift : Nat} {result : UInt64} (vi : Varint n bs)
    (below : result.toNat < 2 ^ shift) (fits : result.toNat + n * 2 ^ shift < 2 ^ 64)
    (short : shift + 7 * bs.length ≤ 70) :
    readVarint shift result (bs ++ t) = some (UInt64.ofNat (result.toNat + n * 2 ^ shift), t) := by
  induction vi generalizing shift result with
  | @last n small =>
    have byte : n < 256 := by omega
    have low : shift < 64 := by
      simp only [List.length_cons, List.length_nil] at short
      omega
    have digit : n % 128 = n := Nat.mod_eq_of_lt small
    have sum := or_byte byte below low (by rw [digit]; omega)
    rw [digit] at sum
    rw [List.cons_append, readVarint, if_pos low]
    dsimp only
    rw [if_pos ((byte_digit byte).2.mpr small), ← sum, UInt64.ofNat_toNat, List.nil_append]
  | @more d n bs small vi ih =>
    have byte : d + 128 < 256 := by omega
    have low : shift < 64 := by
      have pos := vi.length_pos
      simp only [List.length_cons] at short
      omega
    have digit : (d + 128) % 128 = d := by omega
    have next : 2 ^ (shift + 7) = 2 ^ shift * 128 := by rw [Nat.pow_add]
    have value : (d + 128 * n) * 2 ^ shift = d * 2 ^ shift + n * 2 ^ (shift + 7) := by
      rw [next, Nat.add_mul, Nat.mul_comm 128 n, Nat.mul_assoc, Nat.mul_comm 128]
    have sum := or_byte byte below low (by rw [digit]; omega)
    rw [digit] at sum
    have below' : result.toNat + d * 2 ^ shift < 2 ^ (shift + 7) := by
      have le : d * 2 ^ shift ≤ 127 * 2 ^ shift := Nat.mul_le_mul_right _ (by omega)
      omega
    have later := @ih (shift + 7)
      (result ||| (UInt8.ofNat (d + 128) &&& 0x7f).toUInt64 <<< UInt64.ofNat shift)
      (by rw [sum]; exact below') (by rw [sum]; omega)
      (by simp only [List.length_cons] at short; omega)
    have continues : ¬UInt8.ofNat (d + 128) &&& 0x80 = 0 := by
      rw [(byte_digit byte).2]
      omega
    rw [List.cons_append, readVarint, if_pos low]
    dsimp only
    rw [if_neg continues, later, sum, value, Nat.add_assoc]

/-- A whole varint. -/
lemma readVarint_of_varint (vi : Varint n bs) (short : bs.length ≤ 10) (small : n < 2 ^ 64) :
    readVarint 0 0 (bs ++ t) = some (UInt64.ofNat n, t) := by
  have read : readVarint 0 0 (bs ++ t) = some (UInt64.ofNat ((0 : UInt64).toNat + n * 2 ^ 0), t) :=
    readVarint_append vi (by decide) (by simpa using small) (by omega)
  simpa using read

/-- The length of some bytes is read back, and so many bytes are there. -/
lemma readVarint_length_of_varint {data : Bytes} (vi : Varint data.length bs) (short : bs.length ≤ 10)
    (small : data.length < 2 ^ 64) :
    readVarint 0 0 (bs ++ (data ++ t)) = some (UInt64.ofNat data.length, data ++ t) ∧
      (UInt64.ofNat data.length).toNat = data.length :=
  ⟨readVarint_of_varint vi short small, by rw [UInt64.toNat_ofNat', Nat.mod_eq_of_lt small]⟩

/-- Data that are there are not cut short. -/
lemma not_cut_short (data : Bytes) : ¬(data ++ t).length < data.length := by
  rw [List.length_append]
  omega

/-- A key is read back. -/
lemma readVarint_key {key : Bytes} (small : f.number < 2 ^ 29) (number : Varint f.key key)
    (short : key.length ≤ 10) :
    readVarint 0 0 (key ++ t) = some (UInt64.ofNat f.key, t) := by
  exact readVarint_of_varint number short (Field.key_parts small).1

/-! ## Fields -/

/-- The varint that stands for a field; an `int64` is its two's complement. -/
def SingboxStatus.value (s : SingboxStatus) : Nat → UInt64
  | 1 => s.memory
  | 2 => s.goroutines.toUInt32.toUInt64
  | 3 => s.connectionsIn.toUInt32.toUInt64
  | 4 => s.connectionsOut.toUInt32.toUInt64
  | 5 => if s.trafficAvailable then 1 else 0
  | 6 => s.uplink.toUInt64
  | 7 => s.downlink.toUInt64
  | 8 => s.uplinkTotal.toUInt64
  | 9 => s.downlinkTotal.toUInt64
  | _ => 0

/-- The counts are not negative. -/
structure SingboxStatus.Counts (s : SingboxStatus) : Prop where
  goroutines : 0 ≤ s.goroutines
  connectionsIn : 0 ≤ s.connectionsIn
  connectionsOut : 0 ≤ s.connectionsOut

/-- A field of a message that stands for `s`: one of its own, or one that is not known. -/
def SingboxStatus.Has (s : SingboxStatus) (f : Field) : Prop :=
  (1 ≤ f.number ∧ f.number ≤ 9 ∧ f.payload = .varint (s.value f.number)) ∨ 10 ≤ f.number

instance (s : SingboxStatus) (f : Field) : Decidable (s.Has f) := inferInstanceAs (Decidable (_ ∨ _))

/-- The fields of a message stand for `s`: what is left out is zero. -/
structure SingboxStatus.Fields (s : SingboxStatus) (fs : List Field) : Prop where
  has : ∀ f ∈ fs, s.Has f
  omitted : ∀ n, 1 ≤ n → n ≤ 9 → (∀ f ∈ fs, f.number ≠ n) → s.value n = 0

/-- The status with one field taken from `s`. -/
def SingboxStatus.copy (s status : SingboxStatus) : Nat → SingboxStatus
  | 1 => { status with memory := s.memory }
  | 2 => { status with goroutines := s.goroutines }
  | 3 => { status with connectionsIn := s.connectionsIn }
  | 4 => { status with connectionsOut := s.connectionsOut }
  | 5 => { status with trafficAvailable := s.trafficAvailable }
  | 6 => { status with uplink := s.uplink }
  | 7 => { status with downlink := s.downlink }
  | 8 => { status with uplinkTotal := s.uplinkTotal }
  | 9 => { status with downlinkTotal := s.downlinkTotal }
  | _ => status

/-- A count passes the test. -/
lemma exceedsInt32_count {x : Int32} (nonneg : 0 ≤ x) :
    exceedsInt32 x.toUInt32.toUInt64 = false := by
  have small : x.toUInt32.toNat < 2 ^ 31 := by
    have low : 0 ≤ x.toBitVec.toInt := by simpa using Int32.le_iff_toInt_le.mp nonneg
    have cond := x.toBitVec.toInt_eq_toNat_cond
    have lt := x.toBitVec.isLt
    show x.toBitVec.toNat < 2 ^ 31
    omega
  have max : (0x7fffffff : UInt64).toNat = 2 ^ 31 - 1 := rfl
  simp only [exceedsInt32, decide_eq_false_iff_not, UInt64.lt_iff_toNat_lt, UInt32.toNat_toUInt64]
  omega

/-- The nine numbers are stored. -/
lemma storeField_value (counts : s.Counts) (low : 1 ≤ n) (high : n ≤ 9) :
    storeField status (UInt32.ofNat n) (s.value n) = some (s.copy status n) := by
  obtain rfl | rfl | rfl | rfl | rfl | rfl | rfl | rfl | rfl :
      n = 1 ∨ n = 2 ∨ n = 3 ∨ n = 4 ∨ n = 5 ∨ n = 6 ∨ n = 7 ∨ n = 8 ∨ n = 9 := by omega
  · rfl
  · simp [storeField, SingboxStatus.value, SingboxStatus.copy, exceedsInt32_count counts.goroutines]
  · simp [storeField, SingboxStatus.value, SingboxStatus.copy, exceedsInt32_count counts.connectionsIn]
  · simp [storeField, SingboxStatus.value, SingboxStatus.copy, exceedsInt32_count counts.connectionsOut]
  · simp [storeField, SingboxStatus.value, SingboxStatus.copy]
  · rfl
  · rfl
  · rfl
  · rfl

/-- An unknown one is not. -/
lemma storeField_unknown {value : UInt64} (unknown : 10 ≤ n) (small : n < 2 ^ 29) :
    storeField status (UInt32.ofNat n) value = some status := by
  have ne : ∀ k < 10, UInt32.ofNat n ≠ UInt32.ofNat k := by
    intro k lt eq
    have same := congrArg UInt32.toNat eq
    rw [UInt32.toNat_ofNat', UInt32.toNat_ofNat'] at same
    omega
  rw [storeField]
  · exact ne 1 (by decide)
  · exact ne 2 (by decide)
  · exact ne 3 (by decide)
  · exact ne 4 (by decide)
  · exact ne 5 (by decide)
  · exact ne 6 (by decide)
  · exact ne 7 (by decide)
  · exact ne 8 (by decide)
  · exact ne 9 (by decide)

/-- A field of the message does its part. -/
lemma parseField_encoded (counts : s.Counts) (has : s.Has f) (small : f.number < 2 ^ 29)
    (payload : f.payload.Encoded bs) :
    parseField status (UInt64.ofNat f.key) (bs ++ t) = .done (s.copy status f.number, t) := by
  obtain ⟨-, wire, number⟩ := Field.key_parts small
  -- a field that is not known is passed over, and so is what it holds
  have skipped : f.payload.wire ≠ 0 → s.copy status f.number = status := by
    intro other
    obtain ⟨-, -, own⟩ | unknown := has
    · rw [own] at other
      exact absurd rfl other
    · rw [SingboxStatus.copy] <;> omega
  rw [parseField, wire]
  generalize held : f.payload = p at payload skipped
  cases payload with
  | @varint v bs read short =>
    have stored : storeField status (UInt32.ofNat f.number) v = some (s.copy status f.number) := by
      obtain ⟨low, high, own⟩ | unknown := has
      · obtain rfl : s.value f.number = v := by
          rw [held] at own
          exact (Payload.varint.inj own).symm
        exact storeField_value counts low high
      · rw [storeField_unknown unknown small, SingboxStatus.copy] <;> omega
    have back := @readVarint_of_varint _ _ t read short v.toNat_lt
    rw [UInt64.ofNat_toNat] at back
    simp only [Payload.wire, back]
    rw [number, stored]
    rfl
  | fixed64 length =>
    have fits : ¬(bs ++ t).length < 8 := length ▸ not_cut_short bs
    show (if (bs ++ t).length < 8 then _ else _) = _
    rw [if_neg fits, skipped (Nat.succ_ne_zero _), ← length, List.drop_left]
  | @bytes data bs read short small =>
    obtain ⟨back, size⟩ := @readVarint_length_of_varint _ t _ read short small
    rw [List.append_assoc]
    simp only [Payload.wire, back]
    show (if (data ++ t).length < (UInt64.ofNat data.length).toNat then _ else _) = _
    rw [size, if_neg (not_cut_short data), skipped (Nat.succ_ne_zero _), List.drop_left]
  | fixed32 length =>
    have fits : ¬(bs ++ t).length < 4 := length ▸ not_cut_short bs
    show (if (bs ++ t).length < 4 then _ else _) = _
    rw [if_neg fits, skipped (Nat.succ_ne_zero _), ← length, List.drop_left]

/-! ## The message -/

/-- The status with the fields of `numbers` taken from `s`. -/
def SingboxStatus.merge (s status : SingboxStatus) (numbers : List Nat) : SingboxStatus where
  memory := if 1 ∈ numbers then s.memory else status.memory
  goroutines := if 2 ∈ numbers then s.goroutines else status.goroutines
  connectionsIn := if 3 ∈ numbers then s.connectionsIn else status.connectionsIn
  connectionsOut := if 4 ∈ numbers then s.connectionsOut else status.connectionsOut
  trafficAvailable := if 5 ∈ numbers then s.trafficAvailable else status.trafficAvailable
  uplink := if 6 ∈ numbers then s.uplink else status.uplink
  downlink := if 7 ∈ numbers then s.downlink else status.downlink
  uplinkTotal := if 8 ∈ numbers then s.uplinkTotal else status.uplinkTotal
  downlinkTotal := if 9 ∈ numbers then s.downlinkTotal else status.downlinkTotal

/-- Storing a field is merging it. -/
lemma merge_copy (s status : SingboxStatus) (n : Nat) (numbers : List Nat) :
    s.merge (s.copy status n) numbers = s.merge status (n :: numbers) := by
  by_cases own : 1 ≤ n ∧ n ≤ 9
  · obtain rfl | rfl | rfl | rfl | rfl | rfl | rfl | rfl | rfl :
        n = 1 ∨ n = 2 ∨ n = 3 ∨ n = 4 ∨ n = 5 ∨ n = 6 ∨ n = 7 ∨ n = 8 ∨ n = 9 := by omega
    all_goals simp [SingboxStatus.merge, SingboxStatus.copy]
  · have other : ∀ k, 1 ≤ k → k ≤ 9 → (k ∈ n :: numbers ↔ k ∈ numbers) := by
      intro k low high
      rw [List.mem_cons, or_iff_right]
      omega
    rw [SingboxStatus.copy]
    · simp [SingboxStatus.merge, -List.mem_cons, other]
    all_goals omega

/-- The loop takes over the fields, whatever their order: by induction on the message. -/
lemma parseFields_message {fuel : Nat} (counts : s.Counts) (has : ∀ f ∈ fs, s.Has f)
    (msg : Message fs message) (enough : message.length ≤ fuel) :
    parseFields fuel status message = .done (s.merge status (fs.map Field.number)) := by
  induction msg generalizing fuel status with
  | nil => cases fuel <;> rfl
  | @cons f fs bs rest field fields ih =>
    have pos := field.length_pos
    rw [List.length_append] at enough
    obtain ⟨fuel, rfl⟩ : ∃ k, fuel = k + 1 := ⟨fuel - 1, by omega⟩
    obtain ⟨byte, tail, whole⟩ := field.append_eq_cons rest
    have later := @ih (s.copy status f.number) fuel (fun g mem => has g (List.mem_cons_of_mem _ mem))
      (by omega)
    rw [whole, parseFields, ← whole]
    obtain ⟨small, number, short, payload⟩ := field
    rw [List.append_assoc, readVarint_key small number short]
    dsimp only
    rw [parseField_encoded counts (has f List.mem_cons_self) small payload]
    dsimp only
    rw [later, merge_copy, List.map_cons]

/-- All fields together are the status. -/
lemma merge_zero (fields : s.Fields fs) : s.merge .zero (fs.map Field.number) = s := by
  have zero : ∀ n, 1 ≤ n → n ≤ 9 → n ∉ fs.map Field.number → s.value n = 0 := by
    intro n low high absent
    refine fields.omitted n low high fun f mem eq => absent ?_
    exact eq ▸ List.mem_map_of_mem mem
  have pick : ∀ {α : Type} (n : Nat) (x y : α), (n ∉ fs.map Field.number → y = x) →
      (if n ∈ fs.map Field.number then x else y) = x := by
    intro α n x y absent
    split
    · rfl
    · rename_i out
      exact absent out
  have count : ∀ x : Int32, x.toUInt32.toUInt64 = 0 → 0 = x := by
    intro x none
    have zero : x.toUInt32 = 0 := UInt32.toUInt64_inj.mp none
    rw [← Int32.toInt32_toUInt32 x, zero]
    rfl
  have number : ∀ x : Int64, x.toUInt64 = 0 → 0 = x := by
    intro x none
    rw [← Int64.toInt64_toUInt64 x, none]
    rfl
  simp only [SingboxStatus.merge, SingboxStatus.zero]
  rw [pick 1 s.memory _ fun out => (zero 1 (by decide) (by decide) out).symm,
    pick 2 s.goroutines _ fun out => count _ (zero 2 (by decide) (by decide) out),
    pick 3 s.connectionsIn _ fun out => count _ (zero 3 (by decide) (by decide) out),
    pick 4 s.connectionsOut _ fun out => count _ (zero 4 (by decide) (by decide) out),
    pick 5 s.trafficAvailable _ fun out => by
      simpa [SingboxStatus.value] using zero 5 (by decide) (by decide) out,
    pick 6 s.uplink _ fun out => number _ (zero 6 (by decide) (by decide) out),
    pick 7 s.downlink _ fun out => number _ (zero 7 (by decide) (by decide) out),
    pick 8 s.uplinkTotal _ fun out => number _ (zero 8 (by decide) (by decide) out),
    pick 9 s.downlinkTotal _ fun out => number _ (zero 9 (by decide) (by decide) out)]

/-! ## The frame -/

/-- A length in four bytes, the highest first. -/
def lengthBytes (n : Nat) : Bytes :=
  [UInt8.ofNat (n >>> 24), UInt8.ofNat (n >>> 16), UInt8.ofNat (n >>> 8), UInt8.ofNat n]

/-- A frame: its flags, the length and the message. -/
def flaggedFrame (flags : UInt8) (message : Bytes) : Bytes :=
  flags :: (lengthBytes message.length ++ message)

/-- A data frame has the flags 0. -/
def dataFrame (message : Bytes) : Bytes := flaggedFrame 0 message

/-- The length is read as it was written. -/
lemma messageLen_lengthBytes (small : n < 2 ^ 32) :
    messageLen (UInt8.ofNat (n >>> 24)) (UInt8.ofNat (n >>> 16)) (UInt8.ofNat (n >>> 8))
      (UInt8.ofNat n) = n := by
  simp only [messageLen, UInt8.toNat_ofNat', Nat.shiftRight_eq_div_pow]
  omega

/-- What stands behind a frame does not matter. -/
lemma parseStatusFrame_flaggedFrame {flags : UInt8} (data : ¬flags &&& 0x80 ≠ 0)
    (small : message.length < 2 ^ 32) :
    parseStatusFrame (flaggedFrame flags message ++ t) =
      parseFields message.length .zero (message.take (messageSpan message.length)) := by
  have enough : ¬(message ++ t).length < message.length := by
    rw [List.length_append]
    omega
  have le := messageSpan_le message.length
  simp only [flaggedFrame, lengthBytes, List.cons_append, List.nil_append, parseStatusFrame]
  rw [if_neg data, messageLen_lengthBytes small, if_neg enough, List.take_append_of_le_length le]

/-- The message of a frame, as far as it is spanned. -/
lemma parseStatusFrame_dataFrame (small : message.length < 2 ^ 32) :
    parseStatusFrame (dataFrame message ++ t) =
      parseFields message.length .zero (message.take (messageSpan message.length)) :=
  parseStatusFrame_flaggedFrame (by decide) small

/-- A message that takes `end` beyond 32 bits is passed over. -/
lemma parseStatusFrame_wraps (small : message.length < 2 ^ 32) (long : 2 ^ 32 - 5 ≤ message.length) :
    parseStatusFrame (dataFrame message ++ t) = .done .zero := by
  have none : messageSpan message.length = 0 := by
    rw [messageSpan]
    omega
  rw [parseStatusFrame_dataFrame small, none, List.take_zero]
  cases message.length <;> rfl

/-- A part of a frame is not enough. -/
lemma parseStatusFrame_prefix {part : Bytes} (small : message.length < 2 ^ 32)
    (pre : part <+: dataFrame message) (short : part.length < (dataFrame message).length) :
    parseStatusFrame part = .more := by
  obtain ⟨tail, whole⟩ := pre
  obtain few | ⟨flags, b1, b2, b3, b4, rest, rfl⟩ := frame_bytes part
  · exact parseStatusFrame_short few
  · simp only [dataFrame, flaggedFrame, lengthBytes, List.cons_append, List.nil_append,
      List.cons.injEq] at whole
    obtain ⟨rfl, rfl, rfl, rfl, rfl, rfl⟩ := whole
    rw [parseStatusFrame, if_neg (by decide), messageLen_lengthBytes small]
    simp only [dataFrame, flaggedFrame, lengthBytes, List.length_cons, List.length_append,
      List.length_nil] at short
    rw [if_pos]
    rw [List.length_append]
    omega

/-- For every status and every encoding of it: the parser gives the status back, whatever stands behind
the frame, and asks for more as long as the frame is not complete; exactly if the message does not take
`end` beyond 32 bits, or has nothing to say. -/
theorem parse_encoded_iff (s : SingboxStatus) (fs : List Field) (message trailing : Bytes)
    (counts : s.Counts) (fields : s.Fields fs) (encoded : Message fs message)
    (small : message.length < 2 ^ 32) :
    (parseStatusFrame (dataFrame message ++ trailing) = .done s ∧
      ∀ part, part <+: dataFrame message → part.length < (dataFrame message).length →
        parseStatusFrame part = .more) ↔
    message.length < 2 ^ 32 - 5 ∨ s = .zero := by
  rw [parseStatusFrame_dataFrame small, and_iff_left]
  · by_cases fits : message.length < 2 ^ 32 - 5
    · refine iff_of_true ?_ (.inl fits)
      rw [messageSpan_eq fits, List.take_length,
        parseFields_message counts fields.has encoded (Nat.le_refl _), merge_zero fields]
    · rw [← @parseStatusFrame_dataFrame _ trailing small,
        parseStatusFrame_wraps small (Nat.le_of_not_lt fits), or_iff_right fits]
      exact ⟨fun same => (Verdict.done.inj same).symm, fun same => by rw [same]⟩
  · intro part pre short
    exact parseStatusFrame_prefix small pre short

/-- `memory = 1`. -/
def oneByte : SingboxStatus := { SingboxStatus.zero with memory := 1 }

/-- `memory = 1`, and a field that is not known with `n` bytes. -/
def paddedFields (n : Nat) : List Field := [⟨1, .varint 1⟩, ⟨10, .bytes (List.replicate n 0)⟩]

/-- An unknown field may be of any length. -/
lemma padded_fields (n : Nat) : oneByte.Counts ∧ oneByte.Fields (paddedFields n) := by
  refine ⟨⟨by decide, by decide, by decide⟩, ⟨?_, ?_⟩⟩
  · intro f mem
    obtain rfl | ⟨rfl⟩ : f = ⟨1, .varint 1⟩ ∨ f = ⟨10, .bytes (List.replicate n 0)⟩ := by
      simpa [paddedFields] using mem
    · exact .inl ⟨by decide, by decide, rfl⟩
    · exact .inr (Nat.le_refl 10)
  · intro k low high absent
    have other : k ≠ 1 := fun eq => absent ⟨1, .varint 1⟩ List.mem_cons_self eq.symm
    obtain rfl | rfl | rfl | rfl | rfl | rfl | rfl | rfl :
      k = 2 ∨ k = 3 ∨ k = 4 ∨ k = 5 ∨ k = 6 ∨ k = 7 ∨ k = 8 ∨ k = 9 := by omega
    all_goals rfl

/-- And this is its encoding. -/
lemma padded_message {size : Bytes} (number : Varint n size) (short : size.length ≤ 10)
    (small : n < 2 ^ 64) :
    Message (paddedFields n) ([8, 1] ++ (82 :: (size ++ List.replicate n 0) ++ [])) := by
  have memory : Field.Encoded ⟨1, .varint 1⟩ [8, 1] :=
    Field.encoded_of_key_lt (by decide) (.varint (.last (by decide)) (by decide))
  have padding : Field.Encoded ⟨10, .bytes (List.replicate n 0)⟩ (82 :: (size ++ List.replicate n 0)) := by
    refine Field.encoded_of_key_lt (show 82 < 128 by decide) (.bytes ?_ short ?_)
    · rw [List.length_replicate]
      exact number
    · rw [List.length_replicate]
      exact small
  exact .cons memory (.cons padding .nil)

/-- A message of 2^32 - 5 bytes counts as an empty one, and its field is lost. -/
theorem parse_wraps : ∃ message,
    oneByte.Counts ∧ oneByte.Fields (paddedFields 4294967283) ∧
    Message (paddedFields 4294967283) message ∧ message.length = 2 ^ 32 - 5 ∧
    parseStatusFrame (dataFrame message ++ []) = .done .zero ∧ oneByte ≠ .zero := by
  obtain ⟨counts, fields⟩ := padded_fields 4294967283
  have size : Varint 4294967283 [243, 255, 255, 255, 15] :=
    @Varint.more 115 33554431 _ (by decide) (@Varint.more 127 262143 _ (by decide)
      (@Varint.more 127 2047 _ (by decide) (@Varint.more 127 15 _ (by decide) (.last (by decide)))))
  have length : ∀ n, ([8, 1] ++ (82 :: ([243, 255, 255, 255, 15] ++ List.replicate n 0) ++ []) :
      Bytes).length = n + 8 := by
    intro n
    simp only [List.length_append, List.length_cons, List.length_nil, List.length_replicate]
    omega
  have whole := length 4294967283
  refine ⟨_, counts, fields, padded_message size (by decide) (by decide), whole, ?_, by decide⟩
  exact parseStatusFrame_wraps (whole ▸ by decide) (whole ▸ by decide)

/-- `memory = 300` and `uplink = -1`. -/
def twoValues : SingboxStatus := { SingboxStatus.zero with memory := 300, uplink := -1 }

/-- Its fields, and one that is not known between them. -/
def threeFields : List Field :=
  [⟨6, .varint 18446744073709551615⟩, ⟨12, .fixed32 [1, 2, 3, 4]⟩, ⟨1, .varint 300⟩]

/-- Three fields, one of them twice. -/
def threeBytes : Bytes :=
  [48, 255, 255, 255, 255, 255, 255, 255, 255, 255, 1, 101, 1, 2, 3, 4, 8, 172, 2]

/-- Their encoding. -/
lemma three_message : Message threeFields threeBytes := by
  have ones : ∀ n bs, Varint n bs → Varint (127 + 128 * n) (255 :: bs) :=
    fun _ _ vi => .more (by decide) vi
  have minusOne : Varint 18446744073709551615 [255, 255, 255, 255, 255, 255, 255, 255, 255, 1] := by
    have one : Varint 1 [1] := .last (by decide)
    exact ones 144115188075855871 _ (ones 1125899906842623 _ (ones 8796093022207 _
      (ones 68719476735 _ (ones 536870911 _ (ones 4194303 _ (ones 32767 _ (ones 255 _
        (ones 1 _ one))))))))
  have threeHundred : Varint 300 [172, 2] := @Varint.more 44 2 _ (by decide) (.last (by decide))
  have uplink : Field.Encoded ⟨6, .varint 18446744073709551615⟩
      [48, 255, 255, 255, 255, 255, 255, 255, 255, 255, 1] :=
    Field.encoded_of_key_lt (by decide) (.varint minusOne (by decide))
  have unknown : Field.Encoded ⟨12, .fixed32 [1, 2, 3, 4]⟩ [101, 1, 2, 3, 4] :=
    Field.encoded_of_key_lt (by decide) (.fixed32 rfl)
  have memory : Field.Encoded ⟨1, .varint 300⟩ [8, 172, 2] :=
    Field.encoded_of_key_lt (by decide) (.varint threeHundred (by decide))
  exact .cons uplink (.cons unknown (.cons memory .nil))

/-- The last value of a field counts. -/
theorem parse_encoded_iff_three :
    parseStatusFrame (dataFrame threeBytes ++ [7, 7]) = .done twoValues := by
  have fields : twoValues.Fields threeFields := by
    refine ⟨by decide, fun k low high absent => ?_⟩
    have notOne : k ≠ 1 := fun eq => absent ⟨1, .varint 300⟩ (by decide) eq.symm
    have notSix : k ≠ 6 := fun eq => absent ⟨6, .varint 18446744073709551615⟩ (by decide) eq.symm
    obtain rfl | rfl | rfl | rfl | rfl | rfl | rfl :
      k = 2 ∨ k = 3 ∨ k = 4 ∨ k = 5 ∨ k = 7 ∨ k = 8 ∨ k = 9 := by omega
    all_goals rfl
  exact ((parse_encoded_iff twoValues threeFields threeBytes [7, 7] ⟨by decide, by decide, by decide⟩
    fields three_message (by decide)).mpr (.inl (by decide))).1

end Atpd.Api
