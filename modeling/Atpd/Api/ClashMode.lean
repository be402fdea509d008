import Atpd.Api.Framing
import Atpd.Api.StatusMessage
import Atpd.Api.VpnMode

/-!
# Clash modes on the wire

`parse_string_field` and `parse_clash_mode_status` of `src/singbox_api.c`, and the test of `src/api.c`
whether a mode is in the list. The two parsers go through the fields of a message in the same way:
`readField` is the body of their loops up to the bytes of a field. The mode list is copied into a table of
`SINGBOX_MAX_CLASH_MODES` strings of `SINGBOX_CLASH_MODE_SIZE` bytes. What does not fit is cut off.
-/

namespace Atpd.Api.Clash

open Atpd.Lib Atpd.Lib.Protobuf

variable {f : Field} {fs : List Field} {n : Nat} {bs message rest t : Bytes}

/-! ## The parsers -/

/-- The next field of a message: its number, its bytes if it is length-delimited, and what stands behind
it. -/
def readField (message : Bytes) : Option (UInt32 × Option Bytes × Bytes) :=
  match readVarint 0 0 message with
  | none => none
  | some (key, rest) =>
    let field := (key >>> 3).toUInt32
    match key &&& 7 with
    | 2 =>
      match readVarint 0 0 rest with
      | none => none
      | some (size, rest) =>
        if rest.length < size.toNat then none
        else some (field, some (rest.take size.toNat), rest.drop size.toNat)
    | 0 =>
      match readVarint 0 0 rest with
      | none => none
      | some (_, rest) => some (field, none, rest)
    | 1 => if rest.length < 8 then none else some (field, none, rest.drop 8)
    | 5 => if rest.length < 4 then none else some (field, none, rest.drop 4)
    | _ => none

/-- The message of a data frame, from `pos = 5` to `end = 5 + message_len`. -/
def frameMessage : Bytes → Option Bytes
  | flags :: b1 :: b2 :: b3 :: b4 :: rest =>
    if flags &&& 0x80 ≠ 0 then none
    else
      let len := messageLen b1 b2 b3 b4
      if rest.length < len then none else some (rest.take (messageSpan len))
  | _ => none

/-- Without a whole prefix there is no message. -/
lemma frameMessage_short {frame : Bytes} (few : frame.length < 5) : frameMessage frame = none := by
  rw [frameMessage]
  rintro flags b1 b2 b3 b4 rest rfl
  simp only [List.length_cons] at few
  omega

/-- The loop of `parse_string_field`; a field takes up at least one byte, so the length of the message
bounds the rounds. -/
def findString (wantedField : UInt32) (outCap : Nat) : Nat → Bytes → Option Bytes
  | _, [] => none
  | 0, _ :: _ => none
  | fuel + 1, byte :: message =>
    match readField (byte :: message) with
    | none => none
    | some (field, some data, rest) =>
      if field = wantedField then some (data.take (outCap - 1))
      else findString wantedField outCap fuel rest
    | some (_, none, rest) => findString wantedField outCap fuel rest

/-- `parse_string_field`, with the string that it puts into `out`. -/
def parseStringField (frame : Bytes) (wantedField : UInt32) (outCap : Nat) : Option Bytes :=
  if outCap = 0 then none
  else (frameMessage frame).bind fun message => findString wantedField outCap message.length message

/-- `singbox_clash_mode_status_t`, with the bytes of each string. -/
structure SingboxClashModeStatus where
  modes : List Bytes
  currentMode : Bytes
deriving DecidableEq, Repr

/-- A string is copied into an array of `SINGBOX_CLASH_MODE_SIZE` bytes. -/
def copyMode (data : Bytes) : Bytes := data.take (clashModeSize - 1)

/-- A length-delimited field in `parse_clash_mode_status`. -/
def storeMode (status : SingboxClashModeStatus) (field : UInt32) (data : Bytes) :
    SingboxClashModeStatus :=
  if field = 1 ∧ status.modes.length < maxClashModes then
    { status with modes := status.modes ++ [copyMode data] }
  else if field = 2 then { status with currentMode := copyMode data }
  else status

/-- The loop of `parse_clash_mode_status`. -/
def collectModes : Nat → SingboxClashModeStatus → Bytes → Option SingboxClashModeStatus
  | _, status, [] => some status
  | 0, _, _ :: _ => none
  | fuel + 1, status, byte :: message =>
    match readField (byte :: message) with
    | none => none
    | some (field, some data, rest) => collectModes fuel (storeMode status field data) rest
    | some (_, none, rest) => collectModes fuel status rest

/-- `parse_clash_mode_status`: without a current mode it fails. -/
def parseClashModeStatus (frame : Bytes) : Option SingboxClashModeStatus :=
  (frameMessage frame).bind fun message =>
    (collectModes message.length ⟨[], []⟩ message).bind fun status =>
      if cstr status.currentMode = [] then none else some status

/-- `is_clash_mode_supported`; `strcmp` compares up to the first NUL. -/
def isClashModeSupported (status : SingboxClashModeStatus) (mode : Bytes) : Bool :=
  decide (cstr mode ≠ []) && status.modes.any fun m => cstr m = cstr mode

/-! ## Fields -/

/-- The bytes of a length-delimited field. -/
def data? : Payload → Option Bytes
  | .bytes data => some data
  | .varint _ | .fixed64 _ | .fixed32 _ => none

/-- A field is read back. -/
lemma readField_encoded (encoded : f.Encoded bs) :
    readField (bs ++ t) = some (UInt32.ofNat f.number, data? f.payload, t) := by
  obtain @⟨key, ps, small, keyed, short, payload⟩ := encoded
  obtain ⟨-, wire, number⟩ := Field.key_parts small
  rw [readField, List.append_assoc, readVarint_key small keyed short]
  dsimp only
  rw [wire, number]
  generalize f.payload = p at payload
  cases payload with
  | @varint v _ read short =>
    have back := @readVarint_of_varint _ _ t read short v.toNat_lt
    simp only [Payload.wire, back]
    rfl
  | fixed64 length =>
    have fits : ¬(ps ++ t).length < 8 := length ▸ not_cut_short ps
    show (if (ps ++ t).length < 8 then _ else _) = _
    rw [if_neg fits, ← length, List.drop_left]
    rfl
  | @bytes data bs read short small =>
    obtain ⟨back, size⟩ := @readVarint_length_of_varint _ t _ read short small
    rw [List.append_assoc]
    simp only [Payload.wire, back]
    show (if (data ++ t).length < (UInt64.ofNat data.length).toNat then _ else _) = _
    rw [size, if_neg (not_cut_short data), List.take_left, List.drop_left]
    rfl
  | fixed32 length =>
    have fits : ¬(ps ++ t).length < 4 := length ▸ not_cut_short ps
    show (if (ps ++ t).length < 4 then _ else _) = _
    rw [if_neg fits, ← length, List.drop_left]
    rfl

/-- The message of a data frame, whatever is behind it. -/
lemma frameMessage_dataFrame (small : message.length < 2 ^ 32 - 5) :
    frameMessage (dataFrame message ++ t) = some message := by
  have enough : ¬(message ++ t).length < message.length := by
    rw [List.length_append]
    omega
  simp only [dataFrame, flaggedFrame, lengthBytes, List.cons_append, List.nil_append, frameMessage]
  rw [if_neg (by decide), messageLen_lengthBytes (by omega), if_neg enough, messageSpan_eq small,
    List.take_left]

/-! ## The mode list -/

/-- The strings in the fields with the number `n`, in their order. -/
def fieldData (n : Nat) (fs : List Field) : List Bytes :=
  fs.filterMap fun f => if f.number = n then data? f.payload else none

/-- A field of this number has data. -/
lemma fieldData_cons_some {data : Bytes} (own : f.number = n) (held : data? f.payload = some data) :
    fieldData n (f :: fs) = data :: fieldData n fs := by
  simp [fieldData, own, held]

/-- Another field has none of it. -/
lemma fieldData_cons_none (other : f.number = n → data? f.payload = none) :
    fieldData n (f :: fs) = fieldData n fs := by
  by_cases own : f.number = n
  · simp [fieldData, other own]
  · simp [fieldData, own]

/-- Numbers of fields are not cut. -/
lemma ofNat_eq_iff {k : Nat} (small : n < 2 ^ 29) (k_small : k < 2 ^ 29) :
    UInt32.ofNat n = UInt32.ofNat k ↔ n = k := by
  refine ⟨fun eq => ?_, fun eq => by rw [eq]⟩
  have same := congrArg UInt32.toNat eq
  rw [UInt32.toNat_ofNat', UInt32.toNat_ofNat'] at same
  omega

/-- The table and the current mode after the fields `fs`. -/
def SingboxClashModeStatus.after (status : SingboxClashModeStatus) (fs : List Field) :
    SingboxClashModeStatus where
  modes := (status.modes ++ (fieldData 1 fs).map copyMode).take maxClashModes
  currentMode := ((fieldData 2 fs).map copyMode).getLast?.getD status.currentMode

variable {status : SingboxClashModeStatus}

/-- One field with a string. -/
lemma after_cons_some {data : Bytes} (small : f.number < 2 ^ 29) (held : data? f.payload = some data)
    (room : status.modes.length ≤ maxClashModes) :
    (storeMode status (UInt32.ofNat f.number) data).modes.length ≤ maxClashModes ∧
      (storeMode status (UInt32.ofNat f.number) data).after fs = status.after (f :: fs) := by
  have one : UInt32.ofNat f.number = 1 ↔ f.number = 1 := ofNat_eq_iff small (by decide)
  have two : UInt32.ofNat f.number = 2 ↔ f.number = 2 := ofNat_eq_iff small (by decide)
  simp only [storeMode, one, two]
  split
  · rename_i free
    have current : fieldData 2 (f :: fs) = fieldData 2 fs := fieldData_cons_none (by omega)
    refine ⟨?_, ?_⟩
    · simp only [List.length_append, List.length_cons, List.length_nil]
      omega
    · simp only [SingboxClashModeStatus.after, fieldData_cons_some free.1 held, current,
        List.map_cons, List.append_assoc, List.cons_append, List.nil_append]
  · rename_i full
    split
    · rename_i own
      have listed : fieldData 1 (f :: fs) = fieldData 1 fs := fieldData_cons_none (by omega)
      refine ⟨room, ?_⟩
      simp only [SingboxClashModeStatus.after, fieldData_cons_some own held, listed,
        List.map_cons, List.getLast?_cons, Option.getD_some]
    · rename_i other
      have current : fieldData 2 (f :: fs) = fieldData 2 fs :=
        fieldData_cons_none fun own => absurd own other
      refine ⟨room, ?_⟩
      simp only [SingboxClashModeStatus.after, current]
      by_cases own : f.number = 1
      · -- the table is full
        have len : status.modes.length = maxClashModes := by omega
        rw [fieldData_cons_some own held, ← len, List.take_left, List.take_left]
      · rw [fieldData_cons_none fun eq => absurd eq own]

/-- The loop collects: by induction on the message. -/
lemma collectModes_message {fuel : Nat} (msg : Message fs message) (enough : message.length ≤ fuel)
    (room : status.modes.length ≤ maxClashModes) :
    collectModes fuel status message = some (status.after fs) := by
  induction msg generalizing fuel status with
  | nil =>
    have all : status.after [] = status := by
      simp [SingboxClashModeStatus.after, fieldData, List.take_of_length_le room]
    rw [all]
    cases fuel <;> rfl
  | @cons f fs bs rest field fields ih =>
    have pos := field.length_pos
    rw [List.length_append] at enough
    obtain ⟨fuel, rfl⟩ : ∃ k, fuel = k + 1 := ⟨fuel - 1, by omega⟩
    obtain ⟨byte, tail, whole⟩ := field.append_eq_cons rest
    rw [whole, collectModes, ← whole, readField_encoded field]
    cases held : data? f.payload with
    | none =>
      have same : status.after (f :: fs) = status.after fs := by
        simp only [SingboxClashModeStatus.after, fieldData_cons_none fun _ => held]
      rw [same]
      exact ih (by omega) room
    | some data =>
      obtain ⟨room', same⟩ := @after_cons_some f fs status data field.number_lt held room
      rw [← same]
      exact ih (by omega) room'

/-- The fields of a message that lists `modes` and says that `current` is live. -/
structure ModeFields (modes : List Bytes) (current : Bytes) (fs : List Field) : Prop where
  listed : fieldData 1 fs = modes
  live : fieldData 2 fs = [current]

variable {modes : List Bytes} {current : Bytes}

/-- A text that is cut is still a text. -/
lemma cstr_take (k : Nat) (text : 0 ∉ t) : cstr (t.take k) = t.take k := by
  exact cstr_eq_self fun mem => text (List.mem_of_mem_take mem)

/-- What the parser makes of such a message. -/
lemma parseClashModeStatus_encoded (fields : ModeFields modes current fs) (encoded : Message fs message)
    (small : message.length < 2 ^ 32 - 5) (live : current ≠ []) (text : 0 ∉ current) :
    parseClashModeStatus (dataFrame message ++ t) =
      some ⟨(modes.map copyMode).take maxClashModes, copyMode current⟩ := by
  have collected := @collectModes_message _ _ ⟨[], []⟩ message.length encoded (Nat.le_refl _)
    (Nat.zero_le _)
  have nonempty : cstr (copyMode current) ≠ [] := by
    rw [copyMode, cstr_take _ text]
    cases current with
    | nil => exact absurd rfl live
    | cons b current => nofun
  rw [parseClashModeStatus, frameMessage_dataFrame small, Option.bind_some, collected, Option.bind_some]
  simp only [SingboxClashModeStatus.after, fields.listed, fields.live, List.nil_append, List.map_cons,
    List.map_nil, List.getLast?_singleton, Option.getD_some, if_neg nonempty]

/-- The bytes of a text. -/
def modeBytes (mode : Atpd.Config.Str) : Bytes := mode.map fun ch => UInt8.ofNat ch.toNat

/-- The answer of a server is decoded to the status that `Atpd.Api.singboxApiGetClashModeStatus` gives
for it. -/
theorem server_status_decoded {srv : Server} {rpc : Rpc} (works : rpc.statusOk = true)
    (fields : ModeFields (srv.modes.map modeBytes) (modeBytes srv.mode) fs)
    (encoded : Message fs message) (small : message.length < 2 ^ 32 - 5) (live : srv.mode ≠ [])
    (text : 0 ∉ modeBytes srv.mode) :
    parseClashModeStatus (dataFrame message ++ t) =
      (singboxApiGetClashModeStatus srv rpc).map fun status =>
        ⟨status.modes.map fun mode => modeBytes mode.1, modeBytes status.currentMode.1⟩ := by
  have cut : ∀ mode, modeBytes (ModeBuf.print mode).1 = copyMode (modeBytes mode) := by
    intro mode
    exact List.map_take
  have nonempty : modeBytes srv.mode ≠ [] := fun empty => live (List.map_eq_nil_iff.mp empty)
  rw [parseClashModeStatus_encoded fields encoded small nonempty text, singboxApiGetClashModeStatus,
    if_pos ⟨works, live⟩, Option.map_some, Server.modeList, ← cut]
  simp only [List.map_map, Function.comp_def, cut, List.map_take]

/-- The test finds what is in the table. -/
lemma supported_iff {mode : Bytes} (text : ∀ m ∈ modes, 0 ∉ m) (nonempty : mode ≠ []) (modeText : 0 ∉ mode) :
    isClashModeSupported ⟨(modes.map copyMode).take maxClashModes, copyMode current⟩ mode = true ↔
      ∃ m ∈ modes.take maxClashModes, copyMode m = mode := by
  rw [isClashModeSupported, cstr_eq_self modeText, ← List.map_take, Bool.and_eq_true, List.any_eq_true]
  simp only [List.mem_map, decide_eq_true_eq]
  constructor
  · rintro ⟨-, _, ⟨m, mem, rfl⟩, same⟩
    rw [copyMode, cstr_take _ (text m (List.mem_of_mem_take mem))] at same
    exact ⟨m, mem, same⟩
  · rintro ⟨m, mem, same⟩
    refine ⟨nonempty, _, ⟨m, mem, rfl⟩, ?_⟩
    rw [same, cstr_eq_self modeText]

/-- What fits is copied as it is, and nothing else. -/
lemma copyMode_eq_iff : copyMode t = t ↔ t.length < clashModeSize := by
  have pos : 0 < clashModeSize := by decide
  constructor
  · intro same
    have le := congrArg List.length same
    rw [copyMode, List.length_take] at le
    omega
  · intro short
    exact List.take_of_length_le (by omega)

/-- The test agrees with the list exactly if every mode fits into an entry, and those that the table has
no room for are in it already. -/
lemma supported_faithful_iff (text : ∀ m ∈ modes, 0 ∉ m) :
    (∀ mode, mode ≠ [] → 0 ∉ mode →
      ((∃ m ∈ modes.take maxClashModes, copyMode m = mode) ↔ mode ∈ modes)) ↔
    ∀ m ∈ modes, m.length < clashModeSize ∧ (m ≠ [] → m ∈ modes.take maxClashModes) := by
  constructor
  · intro faithful
    have short : ∀ m ∈ modes, m.length < clashModeSize := by
      intro m mem
      by_cases empty : m = []
      · subst empty
        decide
      · obtain ⟨x, -, same⟩ := (faithful m empty (text m mem)).mpr mem
        have pos : 0 < clashModeSize := by decide
        rw [← same, copyMode, List.length_take]
        omega
    refine fun m mem => ⟨short m mem, fun nonempty => ?_⟩
    obtain ⟨x, listed, same⟩ := (faithful m nonempty (text m mem)).mpr mem
    rw [copyMode_eq_iff.mpr (short x (List.mem_of_mem_take listed))] at same
    exact same ▸ listed
  · intro fits mode nonempty modeText
    constructor
    · rintro ⟨m, mem, same⟩
      have listed := List.mem_of_mem_take mem
      rw [← same, copyMode_eq_iff.mpr (fits m listed).1]
      exact listed
    · intro mem
      exact ⟨mode, (fits mode mem).2 nonempty, copyMode_eq_iff.mpr (fits mode mem).1⟩

/-- `sizeof(response)` in `singbox_api_get_clash_mode_status`. -/
def modeResponseSize : Nat := 2048

/-- For every mode list, every current mode and every encoding of them that fits into the response: the
parser succeeds, the test says yes exactly to the first 63 bytes of the first 32 modes, and the current
mode has its first 63 bytes. The test agrees with the list, and the current mode with the server's,
exactly if they fit into the strings and the table. -/
theorem clash_modes_decoded (modes : List Bytes) (current : Bytes) (fs : List Field) (message : Bytes)
    (fields : ModeFields modes current fs) (encoded : Message fs message)
    (fits : (dataFrame message).length ≤ modeResponseSize) (text : ∀ m ∈ modes, 0 ∉ m)
    (live : current ≠ []) (currentText : 0 ∉ current) :
    ∃ status, parseClashModeStatus (dataFrame message) = some status ∧
      cstr status.currentMode = current.take 63 ∧
      (∀ mode, mode ≠ [] → 0 ∉ mode →
        (isClashModeSupported status mode = true ↔ ∃ m ∈ modes.take 32, m.take 63 = mode)) ∧
      (((∀ mode, mode ≠ [] → 0 ∉ mode → (isClashModeSupported status mode = true ↔ mode ∈ modes)) ∧
          cstr status.currentMode = current) ↔
        (∀ m ∈ modes, m.length < 64 ∧ (m ≠ [] → m ∈ modes.take 32)) ∧ current.length < 64) := by
  have small : message.length < 2 ^ 32 - 5 := by
    simp only [dataFrame, flaggedFrame, List.length_cons, List.length_append, modeResponseSize] at fits
    omega
  have parsed := @parseClashModeStatus_encoded _ _ [] _ _ fields encoded small live currentText
  have stored : cstr (copyMode current) = copyMode current := cstr_take _ currentText
  rw [List.append_nil] at parsed
  refine ⟨_, parsed, stored, fun mode nonempty modeText => supported_iff text nonempty modeText, ?_⟩
  dsimp only
  rw [stored, copyMode_eq_iff]
  refine and_congr (Iff.trans ?_ (supported_faithful_iff text)) Iff.rfl
  refine forall_congr' fun mode => forall_congr' fun nonempty => forall_congr' fun modeText => ?_
  rw [supported_iff text nonempty modeText]

/-- A message with one mode of `n` letters, which is not the live one. -/
def oneMode (n : Nat) : List Field := [⟨1, .bytes (List.replicate n 97)⟩, ⟨2, .bytes [98]⟩]

/-- A list of one mode, and the current one. -/
lemma oneMode_encoded (short : n < 128) :
    ModeFields [List.replicate n 97] [98] (oneMode n) ∧
      Message (oneMode n) (10 :: UInt8.ofNat n :: (List.replicate n 97 ++ [18, 1, 98])) := by
  have length : (List.replicate n (97 : UInt8)).length = n := List.length_replicate
  have listed : Field.Encoded ⟨1, .bytes (List.replicate n 97)⟩
      (10 :: ([UInt8.ofNat n] ++ List.replicate n 97)) := by
    refine Field.encoded_of_key_lt (show 10 < 128 by decide) (.bytes ?_ (by simp) (by omega))
    rw [length]
    exact .last short
  have live : Field.Encoded ⟨2, .bytes [98]⟩ [18, 1, 98] :=
    Field.encoded_of_key_lt (by decide) (.bytes (.last (by decide)) (by decide) (by decide))
  refine ⟨⟨rfl, rfl⟩, ?_⟩
  have both : Message (oneMode n) _ := .cons listed (.cons live .nil)
  simpa using both

/-- A mode of 64 letters is in the list, and the test does not find it; it finds one of 63, which is
not. -/
theorem long_mode_cut : ∃ status,
    Message (oneMode 64) (10 :: 64 :: (List.replicate 64 97 ++ [18, 1, 98])) ∧
    ModeFields [List.replicate 64 97] [98] (oneMode 64) ∧
    parseClashModeStatus (dataFrame (10 :: 64 :: (List.replicate 64 97 ++ [18, 1, 98]))) = some status ∧
    isClashModeSupported status (List.replicate 64 97) = false ∧
    isClashModeSupported status (List.replicate 63 97) = true := by
  obtain ⟨fields, encoded⟩ := @oneMode_encoded 64 (by decide)
  refine ⟨⟨[List.replicate 63 97], [98]⟩, encoded, fields, ?_, by decide, by decide⟩
  decide +kernel

/-- A message of one mode, and its encoding. -/
theorem clash_modes_decoded_direct : ∃ status,
    parseClashModeStatus (dataFrame (10 :: 6 :: (List.replicate 6 97 ++ [18, 1, 98]))) = some status ∧
    isClashModeSupported status (List.replicate 6 97) = true ∧ cstr status.currentMode = [98] := by
  obtain ⟨fields, encoded⟩ := @oneMode_encoded 6 (by decide)
  obtain ⟨status, parsed, live, found, -⟩ := clash_modes_decoded [List.replicate 6 97] [98] (oneMode 6)
    (10 :: 6 :: (List.replicate 6 97 ++ [18, 1, 98])) fields encoded (by decide) (by decide) (by decide)
    (by decide)
  refine ⟨status, parsed, (found _ (by decide) (by decide)).mpr ?_, live⟩
  exact ⟨List.replicate 6 97, by decide, by decide⟩

/-- One mode of six letters, and another one is live. -/
def twoModes : Server := ⟨['b'], [List.replicate 6 'a']⟩

/-- The answer of a server is the status that was asked for. -/
theorem server_status_decoded_twoModes :
    parseClashModeStatus (dataFrame (10 :: 6 :: (List.replicate 6 97 ++ [18, 1, 98]))) =
      some ⟨[List.replicate 6 97], [98]⟩ := by
  obtain ⟨fields, encoded⟩ := @oneMode_encoded 6 (by decide)
  have works : (⟨true, true, true⟩ : Rpc).statusOk = true := rfl
  have listed : ModeFields (twoModes.modes.map modeBytes) (modeBytes twoModes.mode) (oneMode 6) := fields
  have decoded := server_status_decoded (t := []) works listed encoded (by decide) (by decide) (by decide)
  rw [List.append_nil] at decoded
  exact decoded

end Atpd.Api.Clash
