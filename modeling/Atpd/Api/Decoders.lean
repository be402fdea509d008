import Atpd.Api.ClashMode
import Atpd.Lib.Buffer

/-!
# The decoders on memory

`read_varint`, `parse_status_frame`, `parse_string_field` and `parse_clash_mode_status` of
`src/singbox_api.c` once more, as they go through the memory: with an index, with the buffers they write
to, and with every access checked. The lengths and sizes that move the index come from the bytes
themselves. Each decoder is shown to do what its model on lists does, without a fault.
-/

namespace Atpd.Api.Decoders

open Atpd.Lib Atpd.Api.Clash

/-! ## The functions -/

/-- `read_varint`: the value, and the index behind it. -/
def readVarintAt (buf : Buffer UInt8) (stop : Nat) :
    Nat → Nat → Nat → UInt64 → Checked (Option (UInt64 × Nat))
  | 0, _, _, _ => .error .endless
  | fuel + 1, shift, pos, result =>
    if shift < 64 ∧ pos < stop then
      match buf.load pos with
      | .error fault => .error fault
      | .ok byte =>
        let pos := sizeAdd pos 1
        let result := result ||| (byte &&& 0x7f).toUInt64 <<< UInt64.ofNat shift
        if byte &&& 0x80 = 0 then .ok (some (result, pos))
        else readVarintAt buf stop fuel (shift + 7) pos result
    else .ok none

/-- Ten bytes, and the test behind the last. -/
def varintRounds : Nat := 11

/-- `read_varint(buf, end, &pos, &value)`. -/
def varintAt (buf : Buffer UInt8) (stop pos : Nat) : Checked (Option (UInt64 × Nat)) :=
  readVarintAt buf stop varintRounds 0 pos 0

/-- A field in `parse_status_frame`: the status, and the index behind it. -/
def statusFieldAt (buf : Buffer UInt8) (stop : Nat) (status : SingboxStatus) (key : UInt64) (pos : Nat) :
    Checked (Verdict (SingboxStatus × Nat)) :=
  match key &&& 7 with
  | 0 =>
    match varintAt buf stop pos with
    | .error fault => .error fault
    | .ok none => .ok .error
    | .ok (some (value, pos)) =>
      match storeField status (key >>> 3).toUInt32 value with
      | none => .ok .error
      | some status => .ok (.done (status, pos))
  | 1 => .ok (if sizeSub stop pos < 8 then .more else .done (status, sizeAdd pos 8))
  | 2 =>
    match varintAt buf stop pos with
    | .error fault => .error fault
    | .ok none => .ok .more
    | .ok (some (size, pos)) =>
      .ok (if sizeSub stop pos < size.toNat then .more else .done (status, sizeAdd pos size.toNat))
  | 5 => .ok (if sizeSub stop pos < 4 then .more else .done (status, sizeAdd pos 4))
  | _ => .ok .error

/-- The loop of `parse_status_frame`. -/
def statusFieldsAt (buf : Buffer UInt8) (stop : Nat) :
    Nat → Nat → SingboxStatus → Checked (Verdict SingboxStatus)
  | 0, _, _ => .error .endless
  | fuel + 1, pos, status =>
    if pos < stop then
      match varintAt buf stop pos with
      | .error fault => .error fault
      | .ok none => .ok .error
      | .ok (some (key, pos)) =>
        match statusFieldAt buf stop status key pos with
        | .error fault => .error fault
        | .ok .more => .ok .more
        | .ok .error => .ok .error
        | .ok (.done (status, pos)) => statusFieldsAt buf stop fuel pos status
    else .ok (.done status)

/-- The head of a frame: its flags and `message_len`. -/
def frameHeadAt (buf : Buffer UInt8) : Checked (UInt8 × Nat) :=
  match buf.load 0, buf.load 1, buf.load 2, buf.load 3, buf.load 4 with
  | .ok flags, .ok b1, .ok b2, .ok b3, .ok b4 => .ok (flags, messageLen b1 b2 b3 b4)
  | .error fault, _, _, _, _ | _, .error fault, _, _, _ | _, _, .error fault, _, _
  | _, _, _, .error fault, _ | _, _, _, _, .error fault => .error fault

/-- `end = 5 + message_len`, a sum of 32 bits. -/
def frameStop (len : Nat) : Nat := (5 + len) % 2 ^ 32

/-- `parse_status_frame`. -/
def parseStatusFrameAt (buf : Buffer UInt8) : Checked (Verdict SingboxStatus) :=
  if buf.len < 5 then .ok .more
  else
    match frameHeadAt buf with
    | .error fault => .error fault
    | .ok (flags, len) =>
      if flags &&& 0x80 ≠ 0 then .ok .error
      else if sizeSub buf.len 5 < len then .ok .more
      else statusFieldsAt buf (frameStop len) (buf.len + 1) 5 .zero

/-- The body of the loops of `parse_string_field` and `parse_clash_mode_status`: the number of the field,
where its bytes begin and how many they are if it is length-delimited, and the index behind it. -/
def readFieldAt (buf : Buffer UInt8) (stop pos : Nat) :
    Checked (Option (UInt32 × Option (Nat × Nat) × Nat)) :=
  match varintAt buf stop pos with
  | .error fault => .error fault
  | .ok none => .ok none
  | .ok (some (key, pos)) =>
    let field := (key >>> 3).toUInt32
    match key &&& 7 with
    | 2 =>
      match varintAt buf stop pos with
      | .error fault => .error fault
      | .ok none => .ok none
      | .ok (some (size, pos)) =>
        if sizeSub stop pos < size.toNat then .ok none
        else .ok (some (field, some (pos, size.toNat), sizeAdd pos size.toNat))
    | 0 =>
      match varintAt buf stop pos with
      | .error fault => .error fault
      | .ok none => .ok none
      | .ok (some (_, pos)) => .ok (some (field, none, pos))
    | 1 => if sizeSub stop pos < 8 then .ok none else .ok (some (field, none, sizeAdd pos 8))
    | 5 => if sizeSub stop pos < 4 then .ok none else .ok (some (field, none, sizeAdd pos 4))
    | _ => .ok none

/-- `memcpy(out, frame + pos, copy_len)` and the NUL behind it, where `copy_len` is `size` or one less than
`out` can hold. -/
def copyStringAt (buf : Buffer UInt8) (pos size : Nat) (out : Bytes) : Checked Bytes :=
  let copyLen := if size < out.length - 1 then size else out.length - 1
  match memcpy buf copyLen pos 0 out with
  | .error fault => .error fault
  | .ok out => store out copyLen 0

/-- The loop of `parse_string_field`: `out`, and whether the field was found. -/
def findStringAt (buf : Buffer UInt8) (wantedField : UInt32) (out : Bytes) (stop : Nat) :
    Nat → Nat → Checked (Bytes × Bool)
  | 0, _ => .error .endless
  | fuel + 1, pos =>
    if pos < stop then
      match readFieldAt buf stop pos with
      | .error fault => .error fault
      | .ok none => .ok (out, false)
      | .ok (some (field, some (start, size), pos)) =>
        if field = wantedField then
          match copyStringAt buf start size out with
          | .error fault => .error fault
          | .ok out => .ok (out, true)
        else findStringAt buf wantedField out stop fuel pos
      | .ok (some (_, none, pos)) => findStringAt buf wantedField out stop fuel pos
    else .ok (out, false)

/-- `parse_string_field`; `out` has `out_cap` bytes. -/
def parseStringFieldAt (buf : Buffer UInt8) (wantedField : UInt32) (out : Bytes) :
    Checked (Bytes × Bool) :=
  if buf.len < 5 ∨ out.length = 0 then .ok (out, false)
  else
    match frameHeadAt buf with
    | .error fault => .error fault
    | .ok (flags, len) =>
      if flags &&& 0x80 ≠ 0 then .ok (out, false)
      else if sizeSub buf.len 5 < len then .ok (out, false)
      else findStringAt buf wantedField out (frameStop len) (buf.len + 1) 5

/-- `singbox_clash_mode_status_t`, as memory. -/
structure Table where
  modes : List Bytes
  modeCount : Nat
  currentMode : Bytes
deriving DecidableEq, Repr

/-- `memset(status_out, 0, sizeof(*status_out))`. -/
def Table.zero : Table where
  modes := List.replicate maxClashModes (List.replicate clashModeSize 0)
  modeCount := 0
  currentMode := List.replicate clashModeSize 0

/-- The target of a length-delimited field in `parse_clash_mode_status`, and the copy. -/
def storeModeAt (buf : Buffer UInt8) (field : UInt32) (pos size : Nat) (table : Table) : Checked Table :=
  if field = 1 ∧ table.modeCount < maxClashModes then
    match table.modes[table.modeCount]? with
    | none => .error (.write table.modeCount)
    | some row =>
      match copyStringAt buf pos size row with
      | .error fault => .error fault
      | .ok row =>
        .ok { table with
          modes := table.modes.set table.modeCount row
          modeCount := table.modeCount + 1 }
  else if field = 2 then
    match copyStringAt buf pos size table.currentMode with
    | .error fault => .error fault
    | .ok current => .ok { table with currentMode := current }
  else .ok table

/-- The loop of `parse_clash_mode_status`: the table, and whether it was left at the end. -/
def collectModesAt (buf : Buffer UInt8) (stop : Nat) : Nat → Nat → Table → Checked (Table × Bool)
  | 0, _, _ => .error .endless
  | fuel + 1, pos, table =>
    if pos < stop then
      match readFieldAt buf stop pos with
      | .error fault => .error fault
      | .ok none => .ok (table, false)
      | .ok (some (field, some (start, size), pos)) =>
        match storeModeAt buf field start size table with
        | .error fault => .error fault
        | .ok table => collectModesAt buf stop fuel pos table
      | .ok (some (_, none, pos)) => collectModesAt buf stop fuel pos table
    else .ok (table, true)

/-- `parse_clash_mode_status`. -/
def parseClashModeStatusAt (buf : Buffer UInt8) (table : Table) : Checked (Table × Bool) :=
  if buf.len < 5 then .ok (table, false)
  else
    match frameHeadAt buf with
    | .error fault => .error fault
    | .ok (flags, len) =>
      if flags &&& 0x80 ≠ 0 then .ok (table, false)
      else if sizeSub buf.len 5 < len then .ok (.zero, false)
      else
        match collectModesAt buf (frameStop len) (buf.len + 1) 5 .zero with
        | .error fault => .error fault
        | .ok (table, whole) => .ok (table, whole && decide (cstr table.currentMode ≠ []))

/-! ## Fields -/

variable {buf : Buffer UInt8} {stop pos fuel n shift : Nat} {result : UInt64} {rest s out : Bytes}
  {status : SingboxStatus}

/-- What an index-based reader delivers stands for what the one on lists does. -/
inductive Stands (buf : Buffer UInt8) (stop : Nat) :
    Option (UInt64 × Nat) → Option (UInt64 × Bytes) → Prop where
  | none : Stands buf stop none none
  | some {value : UInt64} {pos : Nat} {rest : Bytes} (at' : At buf stop pos rest) :
      Stands buf stop (some (value, pos)) (some (value, rest))

/-- A varint is read in at most ten rounds: by induction on the rounds that are left. -/
lemma readVarintAt_stands (at' : At buf stop pos s) (le : shift ≤ 70) (enough : 70 < shift + 7 * fuel) :
    ∃ found, readVarintAt buf stop fuel shift pos result = .ok found ∧
      Stands buf stop found (readVarint shift result s) := by
  induction fuel generalizing shift pos result s with
  | zero => omega
  | succ fuel ih =>
    rw [readVarintAt]
    cases s with
    | nil =>
      have done : ¬(shift < 64 ∧ pos < stop) := fun more => at'.lt_iff.mp more.2 rfl
      exact ⟨none, if_neg done, .none⟩
    | cons byte s =>
      obtain ⟨load, next⟩ := at'.load
      have inside : pos < stop := at'.lt_iff.mpr (List.cons_ne_nil _ _)
      rw [readVarint]
      by_cases low : shift < 64
      · rw [if_pos ⟨low, inside⟩, if_pos low, load]
        dsimp only
        rw [at'.add (n := 1) (by simp)]
        split
        · exact ⟨_, rfl, .some next⟩
        · exact ih next (by omega) (by omega)
      · rw [if_neg fun both => low both.1, if_neg low]
        exact ⟨none, rfl, .none⟩

/-- The loop over a varint, from its start. -/
lemma varintAt_stands (at' : At buf stop pos s) :
    ∃ found, varintAt buf stop pos = .ok found ∧ Stands buf stop found (readVarint 0 0 s) := by
  exact readVarintAt_stands at' (by decide) (by decide)

/-- The same for a field of a status. -/
inductive FieldStands (buf : Buffer UInt8) (stop : Nat) :
    Verdict (SingboxStatus × Nat) → Verdict (SingboxStatus × Bytes) → Prop where
  | more : FieldStands buf stop .more .more
  | error : FieldStands buf stop .error .error
  | done {status : SingboxStatus} {pos : Nat} {rest : Bytes} (at' : At buf stop pos rest) :
      FieldStands buf stop (.done (status, pos)) (.done (status, rest))

/-- A field of a known length is skipped. -/
lemma skip_stands (at' : At buf stop pos s) (n : Nat) :
    FieldStands buf stop (if sizeSub stop pos < n then .more else .done (status, sizeAdd pos n))
      (if s.length < n then .more else .done (status, s.drop n)) := by
  rw [at'.sub]
  split
  · exact .more
  · rename_i fits
    have fits : n ≤ s.length := Nat.le_of_not_lt fits
    rw [at'.add fits]
    exact .done (at'.drop fits)

/-- The wire types that a decoder knows. -/
def wireTypes : List UInt64 := [0, 1, 2, 5]

/-- Another wire type is none of the four. -/
lemma notMem_wireTypes {wire : UInt64} :
    wire ∉ wireTypes ↔ wire ≠ 0 ∧ wire ≠ 1 ∧ wire ≠ 2 ∧ wire ≠ 5 := by
  simp [wireTypes]

/-- A field of another wire type is refused, by both readers. -/
lemma statusFieldAt_other {key : UInt64} (other : key &&& 7 ∉ wireTypes) :
    statusFieldAt buf stop status key pos = .ok .error := by
  obtain ⟨n0, n1, n2, n5⟩ := notMem_wireTypes.mp other
  rw [statusFieldAt]
  split
  · exact absurd ‹_› n0
  · exact absurd ‹_› n1
  · exact absurd ‹_› n2
  · exact absurd ‹_› n5
  · rfl

/-- So it is on lists. -/
lemma parseField_other {key : UInt64} (other : key &&& 7 ∉ wireTypes) :
    parseField status key s = .error := by
  obtain ⟨n0, n1, n2, n5⟩ := notMem_wireTypes.mp other
  rw [parseField]
  split
  · exact absurd ‹_› n0
  · exact absurd ‹_› n1
  · exact absurd ‹_› n2
  · exact absurd ‹_› n5
  · rfl

/-- A field of a status, by cases on its wire type. -/
lemma statusFieldAt_stands (at' : At buf stop pos s) (key : UInt64) :
    ∃ verdict, statusFieldAt buf stop status key pos = .ok verdict ∧
      FieldStands buf stop verdict (parseField status key s) := by
  by_cases known : key &&& 7 ∉ wireTypes
  · rw [statusFieldAt_other known, parseField_other known]
    exact ⟨_, rfl, .error⟩
  obtain ⟨found, read, stands⟩ := varintAt_stands at'
  rw [statusFieldAt, parseField, read]
  generalize readVarint 0 0 s = listed at stands ⊢
  generalize key &&& 7 = wire at known ⊢
  split
  · cases stands with
    | none => exact ⟨_, rfl, .error⟩
    | @some value _ rest next =>
      dsimp only
      show ∃ verdict, _ = _ ∧ FieldStands buf stop verdict
        (match storeField status (key >>> 3).toUInt32 value with
          | none => .error
          | some status => .done (status, rest))
      cases storeField status (key >>> 3).toUInt32 value with
      | none => exact ⟨_, rfl, .error⟩
      | some status => exact ⟨_, rfl, .done next⟩
  · exact ⟨_, rfl, skip_stands at' 8⟩
  · cases stands with
    | none => exact ⟨_, rfl, .more⟩
    | some next => exact ⟨_, rfl, skip_stands next _⟩
  · exact ⟨_, rfl, skip_stands at' 4⟩
  · rename_i n0 n1 n2 n5
    exact absurd (notMem_wireTypes.mpr ⟨n0, n1, n2, n5⟩) known

/-- The loop of `parse_status_frame`: by induction on the rounds that are left, which are more than the
bytes. -/
lemma statusFieldsAt_eq (at' : At buf stop pos s) (enough : s.length < fuel) (le : s.length ≤ n) :
    statusFieldsAt buf stop fuel pos status = .ok (parseFields n status s) := by
  induction fuel generalizing pos s n status with
  | zero => omega
  | succ fuel ih =>
    rw [statusFieldsAt]
    cases s with
    | nil =>
      rw [if_neg fun more => at'.lt_iff.mp more rfl]
      cases n <;> rfl
    | cons byte s =>
      obtain ⟨n, rfl⟩ : ∃ k, n = k + 1 := ⟨n - 1, by simp only [List.length_cons] at le; omega⟩
      -- the key of the field
      obtain ⟨found, read, stands⟩ := varintAt_stands at'
      rw [if_pos (at'.lt_iff.mpr (List.cons_ne_nil _ _)), parseFields, read]
      cases listed : readVarint 0 0 (byte :: s) with
      | none =>
        rw [listed] at stands
        cases stands
        rfl
      | some r =>
        obtain ⟨key, rest⟩ := r
        rw [listed] at stands
        cases stands with
        | some next =>
          -- the field, behind its key
          obtain ⟨verdict, field, fieldStands⟩ := @statusFieldAt_stands _ _ _ _ status next key
          dsimp only
          rw [field]
          cases parsed : parseField status key rest with
          | more =>
            rw [parsed] at fieldStands
            cases fieldStands
            rfl
          | error =>
            rw [parsed] at fieldStands
            cases fieldStands
            rfl
          | done r =>
            obtain ⟨status', rest'⟩ := r
            rw [parsed] at fieldStands
            cases fieldStands with
            | done next' =>
              -- a round takes a byte at least, so the fuel is enough for the rest
              have lt := readVarint_length listed
              have le' := parseField_length parsed
              simp only [List.length_cons] at lt enough le
              exact ih next' (by omega) (by omega)

/-! ## Frames -/

/-- What may be read. -/
def bytesOf (buf : Buffer UInt8) : Bytes := buf.items.take buf.len

/-- A frame begins with five bytes, or it is too short. -/
lemma frame_cases (buf : Buffer UInt8) :
    buf.len < 5 ∧ (bytesOf buf).length < 5 ∨
    ∃ flags b1 b2 b3 b4 rest, ¬buf.len < 5 ∧ bytesOf buf = flags :: b1 :: b2 :: b3 :: b4 :: rest ∧
      frameHeadAt buf = .ok (flags, messageLen b1 b2 b3 b4) ∧ At buf buf.len 5 rest := by
  have all : At buf buf.len 0 (bytesOf buf) := At.start (Nat.le_refl _) (Nat.zero_le _)
  have length := all.length
  obtain few | ⟨flags, b1, b2, b3, b4, rest, whole⟩ := frame_bytes (bytesOf buf)
  · exact .inl ⟨by omega, few⟩
  · rw [whole] at all length
    simp only [List.length_cons] at length
    obtain ⟨load0, all⟩ := all.load
    obtain ⟨load1, all⟩ := all.load
    obtain ⟨load2, all⟩ := all.load
    obtain ⟨load3, all⟩ := all.load
    obtain ⟨load4, all⟩ := all.load
    refine .inr ⟨flags, b1, b2, b3, b4, rest, by omega, whole, ?_, all⟩
    simp only [Nat.zero_add, Nat.reduceAdd] at load1 load2 load3 load4
    rw [frameHeadAt, load0, load1, load2, load3, load4]

/-- The message of a frame: `end` may lie before its begin, and then the loop does not run. -/
lemma frame_message {len : Nat} (at' : At buf buf.len 5 rest) (fits : len ≤ rest.length) :
    At buf (frameStop len) 5 (rest.take (messageSpan len)) ∨
      ¬5 < frameStop len ∧ rest.take (messageSpan len) = [] := by
  have length := at'.length
  have stop : frameStop len ≤ buf.len := by
    have le := Nat.mod_le (5 + len) (2 ^ 32)
    rw [frameStop]
    omega
  by_cases le : 5 ≤ frameStop len
  · exact .inl (at'.restrict stop le)
  · refine .inr ⟨by omega, ?_⟩
    have none : messageSpan len = 0 := by
      rw [frameStop] at le
      rw [messageSpan]
      omega
    rw [none, List.take_zero]

/-- `parse_status_frame` does what its model on lists does. -/
theorem parseStatusFrameAt_eq (buf : Buffer UInt8) :
    parseStatusFrameAt buf = .ok (parseStatusFrame (bytesOf buf)) := by
  rw [parseStatusFrameAt]
  obtain ⟨short, few⟩ | ⟨flags, b1, b2, b3, b4, rest, enough, whole, head, at'⟩ := frame_cases buf
  · rw [if_pos short, parseStatusFrame_short few]
  · rw [if_neg enough, head, whole, parseStatusFrame]
    dsimp only
    split
    · rfl
    · rw [at'.sub]
      split
      · rfl
      · rename_i fits
        have fits := Nat.le_of_not_lt fits
        have length := at'.length
        have span := messageSpan_le (messageLen b1 b2 b3 b4)
        obtain message | ⟨beyond, none⟩ := frame_message at' fits
        · apply statusFieldsAt_eq message
          · rw [List.length_take]
            omega
          · rw [List.length_take]
            omega
        · rw [none, statusFieldsAt, if_neg beyond]
          cases messageLen b1 b2 b3 b4 <;> rfl

/-! ## Strings -/

/-- The same for a field of the other two decoders; its bytes are at `start`. -/
inductive DataStands (buf : Buffer UInt8) (stop : Nat) :
    Option (UInt32 × Option (Nat × Nat) × Nat) → Option (UInt32 × Option Bytes × Bytes) → Prop where
  | none : DataStands buf stop none none
  | skip {field : UInt32} {pos : Nat} {rest : Bytes} (at' : At buf stop pos rest) :
      DataStands buf stop (some (field, Option.none, pos)) (some (field, Option.none, rest))
  | data {field : UInt32} {start size pos : Nat} {s rest : Bytes} (held : At buf stop start s)
      (le : size ≤ s.length) (at' : At buf stop pos rest) :
      DataStands buf stop (some (field, some (start, size), pos)) (some (field, some (s.take size), rest))

/-- The same for a field of the other decoders that is skipped. -/
lemma skip_data_stands {field : UInt32} (at' : At buf stop pos s) (n : Nat) :
    ∃ found, (if sizeSub stop pos < n then (.ok none : Checked _)
        else .ok (some (field, none, sizeAdd pos n))) = .ok found ∧
      DataStands buf stop found (if s.length < n then none else some (field, none, s.drop n)) := by
  rw [at'.sub]
  split
  · exact ⟨_, rfl, .none⟩
  · rename_i fits
    have fits : n ≤ s.length := Nat.le_of_not_lt fits
    rw [at'.add fits]
    exact ⟨_, rfl, .skip (at'.drop fits)⟩

/-- A field of the other two decoders, by cases on its wire type. -/
lemma readFieldAt_stands (at' : At buf stop pos s) :
    ∃ found, readFieldAt buf stop pos = .ok found ∧ DataStands buf stop found (readField s) := by
  obtain ⟨found, read, stands⟩ := varintAt_stands at'
  rw [readFieldAt, readField, read]
  generalize readVarint 0 0 s = listed at stands ⊢
  cases stands with
  | none => exact ⟨_, rfl, .none⟩
  | @some key pos rest next =>
    dsimp only
    by_cases known : key &&& 7 ∉ wireTypes
    · obtain ⟨n0, n1, n2, n5⟩ := notMem_wireTypes.mp known
      simp only
      exact ⟨_, rfl, .none⟩
    obtain ⟨found, read, stands⟩ := varintAt_stands next
    rw [read]
    generalize readVarint 0 0 rest = listed at stands ⊢
    generalize key &&& 7 = wire at known ⊢
    split
    · cases stands with
      | none => exact ⟨_, rfl, .none⟩
      | @some size pos rest held =>
        dsimp only
        rw [held.sub]
        show ∃ found, _ = _ ∧ DataStands buf stop found
          (if rest.length < size.toNat then none
            else some ((key >>> 3).toUInt32, some (rest.take size.toNat), rest.drop size.toNat))
        split
        · exact ⟨_, rfl, .none⟩
        · rename_i fits
          have fits := Nat.le_of_not_lt fits
          rw [held.add fits]
          exact ⟨_, rfl, .data held fits (held.drop fits)⟩
    · cases stands with
      | none => exact ⟨_, rfl, .none⟩
      | some behind => exact ⟨_, rfl, .skip behind⟩
    · exact skip_data_stands next 8
    · exact skip_data_stands next 4
    · rename_i n2 n0 n1 n5
      exact absurd (notMem_wireTypes.mpr ⟨n0, n1, n2, n5⟩) known

/-- A field takes up at least one byte. -/
lemma readField_length {field : UInt32} {data : Option Bytes}
    (read : readField s = some (field, data, rest)) : rest.length < s.length := by
  rw [readField] at read
  split at read
  · cases read
  · rename_i key behind keyRead
    have lt := readVarint_length keyRead
    dsimp only at read
    split at read
    · split at read
      · cases read
      · rename_i sizeRead
        have lt' := readVarint_length sizeRead
        split at read
        · cases read
        · cases read
          rw [List.length_drop]
          omega
    · split at read
      · cases read
      · rename_i valueRead
        have lt' := readVarint_length valueRead
        cases read
        omega
    · split at read
      · cases read
      · cases read
        rw [List.length_drop]
        omega
    · split at read
      · cases read
      · cases read
        rw [List.length_drop]
        omega
    · cases read

/-- `out` with a string and a NUL at its begin. -/
def overwrite (out str : Bytes) : Bytes := str ++ 0 :: out.drop (str.length + 1)

/-- Copying a text does not change the size of the buffer. -/
lemma overwrite_length {str : Bytes} (room : str.length < out.length) :
    (overwrite out str).length = out.length := by
  rw [overwrite, List.length_append, List.length_cons, List.length_drop]
  omega

/-- And ends with a NUL. -/
lemma nul_mem_overwrite (out str : Bytes) : 0 ∈ overwrite out str := by
  exact List.mem_append_right _ List.mem_cons_self

/-- The copy stays inside `out`, and its NUL too. -/
lemma copyStringAt_eq (at' : At buf stop pos s) (fits : n ≤ s.length) (room : 1 ≤ out.length) :
    copyStringAt buf pos n out = .ok (overwrite out ((s.take n).take (out.length - 1))) := by
  have len : (if n < out.length - 1 then n else out.length - 1) = min (out.length - 1) n := by
    split <;> omega
  rw [copyStringAt, len, List.take_take]
  generalize size : min (out.length - 1) n = k
  have copied : memcpy buf k pos 0 out = .ok (out.take 0 ++ s.take k ++ out.drop (0 + k)) :=
    at'.memcpy (by omega) (by omega)
  have written : (s.take k).length = k := by
    rw [List.length_take]
    omega
  obtain ⟨old, split⟩ : ∃ old, out.drop k = old :: out.drop (k + 1) :=
    ⟨_, List.drop_eq_getElem_cons (by omega)⟩
  rw [copied]
  dsimp only
  rw [List.take_zero, List.nil_append, Nat.zero_add, store, if_pos]
  · rw [List.set_append_right _ _ (by omega), written, Nat.sub_self, split, List.set_cons_zero, overwrite,
      written]
  · rw [List.length_append, written, List.length_drop]
    omega

/-- The loop of `parse_string_field`. -/
lemma findStringAt_eq {wantedField : UInt32} (at' : At buf stop pos s) (enough : s.length < fuel)
    (le : s.length ≤ n) (room : 1 ≤ out.length) :
    findStringAt buf wantedField out stop fuel pos =
      .ok (match findString wantedField out.length n s with
        | none => (out, false)
        | some str => (overwrite out str, true)) := by
  induction fuel generalizing pos s n with
  | zero => omega
  | succ fuel ih =>
    rw [findStringAt]
    cases s with
    | nil =>
      rw [if_neg fun more => at'.lt_iff.mp more rfl]
      cases n <;> rfl
    | cons byte s =>
      obtain ⟨n, rfl⟩ : ∃ k, n = k + 1 := ⟨n - 1, by simp only [List.length_cons] at le; omega⟩
      obtain ⟨found, read, stands⟩ := readFieldAt_stands at'
      rw [if_pos (at'.lt_iff.mpr (List.cons_ne_nil _ _)), findString, read]
      cases listed : readField (byte :: s) with
      | none =>
        rw [listed] at stands
        cases stands
        rfl
      | some r =>
        obtain ⟨field, data, rest⟩ := r
        have lt := readField_length listed
        rw [listed] at stands
        simp only [List.length_cons] at lt enough le
        cases stands with
        | skip next => exact ih next (by omega) (by omega)
        | data held fits next =>
          dsimp only
          split
          · rw [copyStringAt_eq held fits room]
          · exact ih next (by omega) (by omega)

/-- `parse_string_field` does what its model on lists does, and leaves `out` alone when it fails. -/
theorem parseStringFieldAt_eq (buf : Buffer UInt8) (wantedField : UInt32) (out : Bytes)
    (room : 1 ≤ out.length) :
    parseStringFieldAt buf wantedField out =
      .ok (match parseStringField (bytesOf buf) wantedField out.length with
        | none => (out, false)
        | some str => (overwrite out str, true)) := by
  have some' : out.length ≠ 0 := Nat.ne_of_gt room
  rw [parseStringFieldAt, parseStringField, if_neg some']
  obtain ⟨short, few⟩ | ⟨flags, b1, b2, b3, b4, rest, enough, whole, head, at'⟩ := frame_cases buf
  · rw [if_pos (.inl short), frameMessage_short few]
    rfl
  · rw [if_neg (not_or.mpr ⟨enough, some'⟩), head, whole, frameMessage]
    dsimp only
    split
    · rfl
    · rw [at'.sub]
      split
      · rfl
      · rename_i fits
        have fits := Nat.le_of_not_lt fits
        have length := at'.length
        obtain message | ⟨beyond, none⟩ := frame_message at' fits
        · have short : (rest.take (messageSpan (messageLen b1 b2 b3 b4))).length < buf.len + 1 := by
            rw [List.length_take]
            omega
          rw [findStringAt_eq message short (Nat.le_refl _) room, Option.bind_some]
        · rw [none, findStringAt, if_neg beyond]
          rfl

/-! ## The table -/

/-- The arrays have the sizes that the type gives them. -/
structure Table.Shaped (table : Table) : Prop where
  modes : table.modes.length = maxClashModes
  rows : ∀ row ∈ table.modes, row.length = clashModeSize
  currentMode : table.currentMode.length = clashModeSize

/-- Every string in the table ends. -/
structure Table.Terminated (table : Table) : Prop where
  rows : ∀ row ∈ table.modes, 0 ∈ row
  currentMode : 0 ∈ table.currentMode

/-- The memory at `buf` holds a string. -/
def HoldsString (buf str : Bytes) : Prop := ∃ tail, buf = str ++ 0 :: tail

/-- The table holds a status, and is as it should be. -/
structure Table.Holds (table : Table) (status : SingboxClashModeStatus) : Prop where
  shaped : table.Shaped
  terminated : table.Terminated
  count : table.modeCount = status.modes.length
  bound : table.modeCount ≤ maxClashModes
  entries : ∀ (i : Nat) (mode : Bytes), status.modes[i]? = some mode →
    ∃ row, table.modes[i]? = some row ∧ HoldsString row mode
  current : HoldsString table.currentMode status.currentMode

variable {table : Table} {modeStatus : SingboxClashModeStatus}

/-- A table of zeros holds no mode. -/
lemma holds_zero : Table.zero.Holds ⟨[], []⟩ where
  shaped := ⟨rfl, fun row mem => by rw [List.eq_of_mem_replicate mem]; rfl, rfl⟩
  terminated := ⟨fun row mem => by rw [List.eq_of_mem_replicate mem]; decide, by decide⟩
  count := rfl
  bound := Nat.zero_le _
  entries := fun i mode found => by simp at found
  current := ⟨_, rfl⟩

/-- A mode is added. -/
lemma Table.Holds.push {row str : Bytes} (holds : table.Holds modeStatus)
    (free : table.modeCount < maxClashModes) (rowAt : table.modes[table.modeCount]? = some row)
    (short : str.length < row.length) :
    Table.Holds { table with
        modes := table.modes.set table.modeCount (overwrite row str)
        modeCount := table.modeCount + 1 }
      { modeStatus with modes := modeStatus.modes ++ [str] } := by
  have rowLength := holds.shaped.rows row (List.mem_of_getElem? rowAt)
  refine ⟨⟨?_, ?_, holds.shaped.currentMode⟩, ⟨?_, holds.terminated.currentMode⟩, ?_, free, ?_,
    holds.current⟩
  · rw [List.length_set]
    exact holds.shaped.modes
  · intro other mem
    obtain mem | rfl := List.mem_or_eq_of_mem_set mem
    · exact holds.shaped.rows other mem
    · rw [overwrite_length short]
      exact rowLength
  · intro other mem
    obtain mem | rfl := List.mem_or_eq_of_mem_set mem
    · exact holds.terminated.rows other mem
    · exact nul_mem_overwrite _ _
  · rw [List.length_append, ← holds.count]
    rfl
  · intro i mode found
    by_cases old : i < modeStatus.modes.length
    · rw [List.getElem?_append_left old] at found
      rw [List.getElem?_set_ne (by rw [holds.count]; omega)]
      exact holds.entries i mode found
    · have here := (List.getElem?_eq_some_iff.mp found).1
      rw [List.length_append, List.length_singleton] at here
      obtain rfl : i = modeStatus.modes.length := by omega
      have same : str = mode := by simpa using found
      have inside : modeStatus.modes.length < table.modes.length := by
        rw [← holds.count, holds.shaped.modes]
        exact free
      refine ⟨overwrite row str, ?_, same ▸ ⟨_, rfl⟩⟩
      rw [holds.count, List.getElem?_set_self inside]

/-- The current mode is replaced. -/
lemma Table.Holds.replace {str : Bytes} (holds : table.Holds modeStatus)
    (short : str.length < clashModeSize) :
    Table.Holds { table with currentMode := overwrite table.currentMode str }
      { modeStatus with currentMode := str } where
  shaped := ⟨holds.shaped.modes, holds.shaped.rows, by
    rw [overwrite_length (holds.shaped.currentMode ▸ short)]
    exact holds.shaped.currentMode⟩
  terminated := ⟨holds.terminated.rows, nul_mem_overwrite _ _⟩
  count := holds.count
  bound := holds.bound
  entries := holds.entries
  current := ⟨_, rfl⟩

/-- The copy of a field into the table stays inside it. -/
lemma storeModeAt_holds {field : UInt32} (holds : table.Holds modeStatus) (at' : At buf stop pos s)
    (fits : n ≤ s.length) :
    ∃ table', storeModeAt buf field pos n table = .ok table' ∧
      table'.Holds (storeMode modeStatus field (s.take n)) := by
  have size : clashModeSize = 64 := rfl
  rw [storeModeAt, storeMode]
  by_cases listed : field = 1 ∧ table.modeCount < maxClashModes
  · have listed' : field = 1 ∧ modeStatus.modes.length < maxClashModes := holds.count ▸ listed
    obtain ⟨row, rowAt⟩ : ∃ row, table.modes[table.modeCount]? = some row :=
      ⟨_, List.getElem?_eq_getElem (holds.shaped.modes ▸ listed.2)⟩
    have rowLength := holds.shaped.rows row (List.mem_of_getElem? rowAt)
    have copied := copyStringAt_eq at' fits (show 1 ≤ row.length by omega)
    rw [if_pos listed, if_pos listed', rowAt]
    dsimp only
    rw [copied]
    refine ⟨_, rfl, ?_⟩
    rw [copyMode, ← rowLength]
    apply holds.push listed.2 rowAt
    rw [List.length_take]
    omega
  · have listed' : ¬(field = 1 ∧ modeStatus.modes.length < maxClashModes) := holds.count ▸ listed
    rw [if_neg listed, if_neg listed']
    split
    · have currentLength := holds.shaped.currentMode
      have copied := copyStringAt_eq at' fits (show 1 ≤ table.currentMode.length by omega)
      rw [copied]
      refine ⟨_, rfl, ?_⟩
      rw [copyMode, ← currentLength]
      apply holds.replace
      rw [List.length_take]
      omega
    · exact ⟨table, rfl, holds⟩

/-- The loop of `parse_clash_mode_status`: also where it is left early, the table is as it should be. -/
lemma collectModesAt_holds (holds : table.Holds modeStatus) (at' : At buf stop pos s)
    (enough : s.length < fuel) (le : s.length ≤ n) :
    ∃ table' whole, collectModesAt buf stop fuel pos table = .ok (table', whole) ∧
      table'.Shaped ∧ table'.Terminated ∧
      (whole = true ↔ (collectModes n modeStatus s).isSome) ∧
      ∀ status, collectModes n modeStatus s = some status → table'.Holds status := by
  induction fuel generalizing pos s n table modeStatus with
  | zero => omega
  | succ fuel ih =>
    rw [collectModesAt]
    cases s with
    | nil =>
      rw [if_neg fun more => at'.lt_iff.mp more rfl]
      have all : collectModes n modeStatus [] = some modeStatus := by cases n <;> rfl
      rw [all]
      refine ⟨table, true, rfl, holds.shaped, holds.terminated, by simp, ?_⟩
      rintro status same
      cases same
      exact holds
    | cons byte s =>
      obtain ⟨n, rfl⟩ : ∃ k, n = k + 1 := ⟨n - 1, by simp only [List.length_cons] at le; omega⟩
      obtain ⟨found, read, stands⟩ := readFieldAt_stands at'
      rw [if_pos (at'.lt_iff.mpr (List.cons_ne_nil _ _)), collectModes, read]
      cases listed : readField (byte :: s) with
      -- the loop is left here, with the table as it is by now
      | none =>
        rw [listed] at stands
        cases stands
        exact ⟨table, false, rfl, holds.shaped, holds.terminated, by simp⟩
      | some r =>
        obtain ⟨field, data, rest⟩ := r
        have lt := readField_length listed
        rw [listed] at stands
        simp only [List.length_cons] at lt enough le
        cases stands with
        | skip next => exact ih holds next (by omega) (by omega)
        -- the string is stored, or there is no room for it and the table stays
        | data held fits next =>
          obtain ⟨table', stored, holds'⟩ := @storeModeAt_holds _ _ _ _ _ _ _ field holds held fits
          dsimp only
          rw [stored]
          exact ih holds' next (by omega) (by omega)

/-- The C string in an array that holds `str`. -/
lemma HoldsString.cstr {mem str : Bytes} (holds : HoldsString mem str) : Api.cstr mem = Api.cstr str := by
  obtain ⟨tail, rfl⟩ := holds
  by_cases nul : 0 ∈ str
  · exact cstr_append_of_mem nul
  · rw [cstr_append_of_notMem nul, cstr_eq_self nul]
    simp [Api.cstr]

/-- The loop of `parse_clash_mode_status` on the message of a frame. -/
lemma frame_modes {len : Nat} (at' : At buf buf.len 5 rest) (fits : len ≤ rest.length) :
    ∃ table' whole, collectModesAt buf (frameStop len) (buf.len + 1) 5 .zero = .ok (table', whole) ∧
      table'.Shaped ∧ table'.Terminated ∧
      (whole = true ↔ (collectModes (rest.take (messageSpan len)).length ⟨[], []⟩
        (rest.take (messageSpan len))).isSome) ∧
      ∀ status, collectModes (rest.take (messageSpan len)).length ⟨[], []⟩
        (rest.take (messageSpan len)) = some status → table'.Holds status := by
  have length := at'.length
  obtain message | ⟨beyond, none⟩ := frame_message at' fits
  · refine collectModesAt_holds holds_zero message ?_ (Nat.le_refl _)
    rw [List.length_take]
    omega
  · rw [none, collectModesAt, if_neg beyond]
    refine ⟨.zero, true, rfl, holds_zero.shaped, holds_zero.terminated, by simp [collectModes], ?_⟩
    rintro _ ⟨rfl⟩
    exact holds_zero

/-- `parse_clash_mode_status` does what its model on lists does, or leaves the table alone. -/
theorem parseClashModeStatusAt_holds (buf : Buffer UInt8) (table : Table) :
    ∃ table' found, parseClashModeStatusAt buf table = .ok (table', found) ∧
      (table' = table ∨ table'.Shaped ∧ table'.Terminated) ∧
      (found = true ↔ (parseClashModeStatus (bytesOf buf)).isSome) ∧
      ∀ status, parseClashModeStatus (bytesOf buf) = some status → table'.Holds status := by
  rw [parseClashModeStatusAt, parseClashModeStatus]
  obtain ⟨short, few⟩ | ⟨flags, b1, b2, b3, b4, rest, enough, whole, head, at'⟩ := frame_cases buf
  · rw [if_pos short, frameMessage_short few]
    exact ⟨table, false, rfl, .inl rfl, by simp⟩
  · rw [if_neg enough, head, whole, frameMessage]
    dsimp only
    split
    · exact ⟨table, false, rfl, .inl rfl, by simp⟩
    · rw [at'.sub]
      split
      · exact ⟨_, false, rfl, .inr ⟨holds_zero.shaped, holds_zero.terminated⟩, by simp⟩
      · rename_i fits
        have fits := Nat.le_of_not_lt fits
        obtain ⟨table', whole, collected, shaped, terminated, complete, holds⟩ := frame_modes at' fits
        rw [collected, Option.bind_some]
        refine ⟨table', _, rfl, .inr ⟨shaped, terminated⟩, ?_⟩
        -- an empty mode means that none was found
        generalize collectModes _ _ _ = listed at complete holds ⊢
        cases listed with
        | none =>
          obtain rfl : whole = false := by simpa using complete
          simp
        | some status =>
          obtain rfl : whole = true := by simpa using complete
          have same := (holds status rfl).current.cstr
          rw [Option.bind_some, same]
          split
          · rename_i empty
            simp [empty]
          · rename_i live
            refine ⟨by simp [live], ?_⟩
            rintro _ ⟨rfl⟩
            exact holds status rfl

/-! ## Safety -/

/-- The string leaves room for its NUL. -/
lemma findString_length {wantedField : UInt32} {cap : Nat} {str : Bytes} (pos : 1 ≤ cap)
    (found : findString wantedField cap n s = some str) : str.length < cap := by
  induction n generalizing s with
  | zero => cases s <;> cases found
  | succ n ih =>
    cases s with
    | nil => cases found
    | cons byte s =>
      rw [findString] at found
      split at found
      · cases found
      · split at found
        · cases found
          rw [List.length_take]
          omega
        · exact ih found
      · exact ih found

/-- The text is cut to the buffer. -/
lemma parseStringField_length {frame str : Bytes} {wantedField : UInt32} {cap : Nat} (pos : 1 ≤ cap)
    (parsed : parseStringField frame wantedField cap = some str) : str.length < cap := by
  rw [parseStringField, if_neg (Nat.ne_of_gt pos)] at parsed
  obtain ⟨message, -, found⟩ := Option.bind_eq_some_iff.mp parsed
  exact findString_length pos found

/-- For every buffer and every length within it, every field and every output: the decoders end without
a fault, that is they read below the length and write inside their outputs, and do what their models do.
What they write keeps its size, and every string in it ends with a NUL. -/
theorem decoders_safe (buf : Buffer UInt8) (wantedField : UInt32) (out : Bytes) (cap : 1 ≤ out.length)
    (table : Table) (shaped : table.Shaped) :
    parseStatusFrameAt buf = .ok (parseStatusFrame (bytesOf buf)) ∧
    (∃ out' found, parseStringFieldAt buf wantedField out = .ok (out', found) ∧
      out'.length = out.length ∧ (found = true → 0 ∈ out') ∧ (found = false → out' = out) ∧
      (found = true ↔ (parseStringField (bytesOf buf) wantedField out.length).isSome)) ∧
    ∃ table' found, parseClashModeStatusAt buf table = .ok (table', found) ∧ table'.Shaped ∧
      (table' = table ∧ found = false ∨ table'.Terminated) ∧
      (found = true ↔ (parseClashModeStatus (bytesOf buf)).isSome) ∧
      ∀ status, parseClashModeStatus (bytesOf buf) = some status → table'.Holds status := by
  refine ⟨parseStatusFrameAt_eq buf, ?_, ?_⟩
  · have run := parseStringFieldAt_eq buf wantedField out cap
    cases parsed : parseStringField (bytesOf buf) wantedField out.length with
    | none =>
      rw [parsed] at run
      exact ⟨out, false, run, rfl, nofun, fun _ => rfl, by simp⟩
    | some str =>
      rw [parsed] at run
      have short := parseStringField_length cap parsed
      exact ⟨_, true, run, overwrite_length short, fun _ => nul_mem_overwrite _ _, nofun, by simp⟩
  · obtain ⟨table', found, run, whole, complete, holds⟩ := parseClashModeStatusAt_holds buf table
    refine ⟨table', found, run, ?_, ?_, complete, holds⟩
    · obtain rfl | ⟨shaped', -⟩ := whole
      · exact shaped
      · exact shaped'
    · obtain same | ⟨-, terminated⟩ := whole
      · cases found with
        | false => exact .inl ⟨same, rfl⟩
        | true =>
          obtain ⟨status, parsed⟩ := Option.isSome_iff_exists.mp (complete.mp rfl)
          exact .inr (holds status parsed).terminated
      · exact .inr terminated

/-- A frame of the mode "direct", with a byte behind it that must not be read. -/
def directFrame : Buffer UInt8 where
  items := [0, 0, 0, 0, 8, 18, 6, 100, 105, 114, 101, 99, 116, 255]
  len := 13
  within := by decide
  small := by decide

/-- The text of a field is copied, with its NUL. -/
theorem decoders_safe_direct :
    ∃ out', parseStringFieldAt directFrame 2 (List.replicate 4 255) = .ok (out', true) ∧
      out'.length = 4 ∧ 0 ∈ out' := by
  obtain ⟨-, ⟨out', found, run, length, terminated, -, complete⟩, -⟩ :=
    decoders_safe directFrame 2 (List.replicate 4 255) (by decide) .zero holds_zero.shaped
  obtain rfl : found = true := complete.mpr (by decide +kernel)
  exact ⟨out', run, length, terminated rfl⟩

end Atpd.Api.Decoders
