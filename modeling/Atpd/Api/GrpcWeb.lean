import Mathlib.Algebra.Group.Nat.Defs
import Atpd.Lib.Stream

/-!
# The status reader

`singbox_api_get_status` of `src/singbox_api.c` reads the response of the streaming RPC
`SubscribeStatus` into a buffer of 4096 bytes and runs `parse_grpc_web_response` on what it has, with
a NUL behind it, after every `recv`. This file is the parser and the loop. A buffer is the list of
its bytes; the results 0, 1 and -1 are `more`, `done` and `error`.

The string functions stop at the first NUL, the others do not: `strstr` and `strcasestr` see
`cstr buf`, `memmem` and the frame parser see `buf`.
-/

namespace Atpd.Api

open Atpd.Lib

/-- The bytes of a buffer. -/
abbrev Bytes := List UInt8

/-- The bytes of a text. -/
def ascii (text : String) : Bytes := text.toList.map fun ch => UInt8.ofNat ch.toNat

/-! ## Strings -/

/-- The C string at the start of a buffer that has a NUL behind it. -/
def cstr (buf : Bytes) : Bytes := buf.takeWhile (· ≠ 0)

/-- `"\r\n"`. -/
def crlf : Bytes := [13, 10]

/-- `"\r\n\r\n"`. -/
def headerEnd : Bytes := [13, 10, 13, 10]

/-- `tolower`. -/
def toLower (b : UInt8) : UInt8 := if 65 ≤ b ∧ b ≤ 90 then b + 32 else b

/-- `isspace`. -/
def isSpace (b : UInt8) : Bool := b = 32 || 9 ≤ b && b ≤ 13

/-- The value of a hexadecimal digit. -/
def hexVal (b : UInt8) : Option Nat :=
  if 48 ≤ b ∧ b ≤ 57 then some (b.toNat - 48)
  else if 97 ≤ b ∧ b ≤ 102 then some (b.toNat - 87)
  else if 65 ≤ b ∧ b ≤ 70 then some (b.toNat - 55)
  else none

/-- The number that hexadecimal digits stand for. -/
def hexNumber (digits : Bytes) : Nat :=
  digits.foldl (fun n b => n * 16 + (hexVal b).getD 0) 0

/-- `ULONG_MAX`. -/
def ulongMax : Nat := 2 ^ 64 - 1

/-- The sign of a number, and what stands behind it. -/
def stripSign : Bytes → Bool × Bytes
  | 43 :: text => (false, text)
  | 45 :: text => (true, text)
  | text => (false, text)

/-- An optional `0x`, which counts only in front of a digit. -/
def stripHexMark : Bytes → Bytes
  | 48 :: x :: d :: text => if (x = 120 ∨ x = 88) ∧ (hexVal d).isSome then d :: text else 48 :: x :: d :: text
  | text => text

/-- `strtoul(text, &endptr, 16)`: the number, and the text at `endptr`. -/
def strtoul16 (text : Bytes) : Nat × Bytes :=
  let (negative, unsigned) := stripSign (text.dropWhile isSpace)
  let number := stripHexMark unsigned
  let digits := number.takeWhile fun b => (hexVal b).isSome
  let value := min (hexNumber digits) ulongMax
  if digits = [] then (0, text)
  else
    (if negative ∧ hexNumber digits ≤ ulongMax then (2 ^ 64 - value) % 2 ^ 64 else value,
      number.dropWhile fun b => (hexVal b).isSome)

/-! ## The frame -/

/-- `singbox_status_t`. -/
structure SingboxStatus where
  memory : UInt64
  goroutines : Int32
  connectionsIn : Int32
  connectionsOut : Int32
  trafficAvailable : Bool
  uplink : Int64
  downlink : Int64
  uplinkTotal : Int64
  downlinkTotal : Int64
deriving DecidableEq, Repr

/-- `memset(status_out, 0, sizeof(*status_out))`. -/
def SingboxStatus.zero : SingboxStatus := ⟨0, 0, 0, 0, false, 0, 0, 0, 0⟩

/-- `read_varint`, from the bit `shift` on: the value and the bytes behind it. -/
def readVarint (shift : Nat) (result : UInt64) : Bytes → Option (UInt64 × Bytes)
  | [] => none
  | byte :: rest =>
    if shift < 64 then
      let result := result ||| (byte &&& 0x7f).toUInt64 <<< UInt64.ofNat shift
      if byte &&& 0x80 = 0 then some (result, rest) else readVarint (shift + 7) result rest
    else none

/-- `value > INT32_MAX`. -/
def exceedsInt32 (value : UInt64) : Bool := 0x7fffffff < value

/-- A field with a varint is stored; `none` says that its value is out of range. -/
def storeField (status : SingboxStatus) (field : UInt32) (value : UInt64) : Option SingboxStatus :=
  match field with
  | 1 => some { status with memory := value }
  | 2 => if exceedsInt32 value then none else some { status with goroutines := value.toUInt32.toInt32 }
  | 3 => if exceedsInt32 value then none else some { status with connectionsIn := value.toUInt32.toInt32 }
  | 4 => if exceedsInt32 value then none else some { status with connectionsOut := value.toUInt32.toInt32 }
  | 5 => some { status with trafficAvailable := value ≠ 0 }
  | 6 => some { status with uplink := value.toInt64 }
  | 7 => some { status with downlink := value.toInt64 }
  | 8 => some { status with uplinkTotal := value.toInt64 }
  | 9 => some { status with downlinkTotal := value.toInt64 }
  | _ => some status

/-- What is left of the message behind a field with the key `key`, and the status. -/
def parseField (status : SingboxStatus) (key : UInt64) (rest : Bytes) :
    Verdict (SingboxStatus × Bytes) :=
  match key &&& 7 with
  | 0 =>
    match readVarint 0 0 rest with
    | none => .error
    | some (value, rest) =>
      match storeField status (key >>> 3).toUInt32 value with
      | none => .error
      | some status => .done (status, rest)
  -- a field that does not fit into its message counts as incomplete
  | 1 => if rest.length < 8 then .more else .done (status, rest.drop 8)
  | 2 =>
    match readVarint 0 0 rest with
    | none => .more
    | some (size, rest) => if rest.length < size.toNat then .more else .done (status, rest.drop size.toNat)
  | 5 => if rest.length < 4 then .more else .done (status, rest.drop 4)
  | _ => .error

/-- The loop of `parse_status_frame` over the fields of the message. A field takes up at least one
byte, so the length of the message bounds the rounds. -/
def parseFields : Nat → SingboxStatus → Bytes → Verdict SingboxStatus
  | _, status, [] => .done status
  | 0, _, _ :: _ => .error
  | fuel + 1, status, byte :: message =>
    match readVarint 0 0 (byte :: message) with
    | none => .error
    | some (key, rest) =>
      match parseField status key rest with
      | .more => .more
      | .error => .error
      | .done (status, rest) => parseFields fuel status rest

/-- The big-endian length in a frame header. -/
def messageLen (b1 b2 b3 b4 : UInt8) : Nat :=
  b1.toNat * 2 ^ 24 + b2.toNat * 2 ^ 16 + b3.toNat * 2 ^ 8 + b4.toNat

/-- The length of the message between `pos = 5` and `end = 5 + message_len`, a sum of 32 bits. -/
def messageSpan (len : Nat) : Nat := (5 + len) % 2 ^ 32 - 5

/-- The sum is an unsigned number of 32 bits, so it may be less. -/
lemma messageSpan_le (len : Nat) : messageSpan len ≤ len := by
  have le := Nat.mod_le (5 + len) (2 ^ 32)
  rw [messageSpan]
  omega

/-- It is less only from 2^32 - 5 on. -/
lemma messageSpan_eq {len : Nat} (small : len < 2 ^ 32 - 5) : messageSpan len = len := by
  rw [messageSpan, Nat.mod_eq_of_lt (by omega), Nat.add_sub_cancel_left]

/-- `parse_status_frame`. -/
def parseStatusFrame : Bytes → Verdict SingboxStatus
  | flags :: b1 :: b2 :: b3 :: b4 :: rest =>
    if flags &&& 0x80 ≠ 0 then .error
    else
      let len := messageLen b1 b2 b3 b4
      if rest.length < len then .more else parseFields len .zero (rest.take (messageSpan len))
  | _ => .more

/-- A frame begins with five bytes, or it is too short. -/
lemma frame_bytes (frame : Bytes) :
    frame.length < 5 ∨ ∃ flags b1 b2 b3 b4 rest, frame = flags :: b1 :: b2 :: b3 :: b4 :: rest := by
  rcases frame with _ | ⟨flags, _ | ⟨b1, _ | ⟨b2, _ | ⟨b3, _ | ⟨b4, rest⟩⟩⟩⟩⟩
  · exact .inl (by simp)
  · exact .inl (by simp)
  · exact .inl (by simp)
  · exact .inl (by simp)
  · exact .inl (by simp)
  · exact .inr ⟨flags, b1, b2, b3, b4, rest, rfl⟩

/-- Without a whole prefix the frame is incomplete. -/
lemma parseStatusFrame_short {frame : Bytes} (few : frame.length < 5) :
    parseStatusFrame frame = .more := by
  rw [parseStatusFrame]
  rintro flags b1 b2 b3 b4 rest rfl
  simp only [List.length_cons] at few
  omega

/-! ### Enough rounds -/

/-- A varint takes up at least one byte. -/
lemma readVarint_length {shift : Nat} {result value : UInt64} {s rest : Bytes}
    (read : readVarint shift result s = some (value, rest)) : rest.length < s.length := by
  induction s generalizing shift result with
  | nil => cases read
  | cons byte s ih =>
    rw [readVarint] at read
    split at read
    · dsimp only at read
      split at read
      · cases read
        exact Nat.lt_succ_self _
      · exact Nat.lt_succ_of_lt (ih read)
    · cases read

/-- The payload of a field may take up none. -/
lemma parseField_length {status status' : SingboxStatus} {key : UInt64} {s rest : Bytes}
    (parsed : parseField status key s = .done (status', rest)) : rest.length ≤ s.length := by
  rw [parseField] at parsed
  split at parsed
  · split at parsed
    · cases parsed
    · rename_i read
      split at parsed
      · cases parsed
      · cases parsed
        exact Nat.le_of_lt (readVarint_length read)
  · split at parsed
    · cases parsed
    · cases parsed
      simp
  · split at parsed
    · cases parsed
    · rename_i read
      split at parsed
      · cases parsed
      · cases parsed
        have lt := readVarint_length read
        simp only [List.length_drop]
        omega
  · split at parsed
    · cases parsed
    · cases parsed
      simp
  · cases parsed

/-! ## The response -/

/-- The chunk at the start of a body: its data, and the body behind it and its line end. -/
def readChunk (body : Bytes) : Verdict (Bytes × Bytes) :=
  match cut crlf body with
  | none => .more
  | some (line, rest) =>
    if line.length = 0 ∨ 32 ≤ line.length then .error
    else
      -- `size_text` may have a NUL inside, and ends there for `strtoul`
      let (chunkLen, endptr) := strtoul16 (cstr line)
      if endptr ≠ [] ∨ chunkLen = 0 then .error
      else if rest.length < chunkLen then .more
      else .done (rest.take chunkLen, rest.drop (chunkLen + 2))

/-- The loop of `parse_grpc_web_response` over the chunks. A chunk takes up more than one byte, so
the length of the body bounds the rounds. -/
def parseChunks : Nat → Bytes → Verdict SingboxStatus
  | 0, _ => .more
  | fuel + 1, body =>
    match readChunk body with
    | .more => .more
    | .error => .error
    | .done (chunk, next) =>
      match parseStatusFrame chunk with
      | .more => parseChunks fuel next
      | verdict => verdict

/-- Nor is the loop over the chunks. -/
lemma parseChunks_rounds {fuel : Nat} {body : Bytes} (enough : body.length ≤ fuel) (k : Nat) :
    parseChunks (fuel + k) body = parseChunks fuel body := by
  induction fuel generalizing body with
  | zero =>
    obtain rfl := List.length_eq_zero_iff.mp (Nat.le_zero.mp enough)
    cases k <;> rfl
  | succ fuel ih =>
    rw [Nat.add_right_comm, parseChunks, parseChunks]
    cases read : readChunk body with
    | more => rfl
    | error => rfl
    | done p =>
      obtain ⟨chunk, next⟩ := p
      have lt : next.length < body.length := by
        rw [readChunk] at read
        split at read
        · cases read
        · rename_i line rest found
          have whole := congrArg List.length (cut_eq_append found)
          simp only [List.length_append, crlf, List.length_cons, List.length_nil] at whole
          dsimp only at read
          split at read
          · cases read
          · split at read
            · cases read
            · split at read
              · cases read
              · cases read
                simp only [List.length_drop]
                omega
      dsimp only
      cases parseStatusFrame chunk with
      | more => exact ih (by omega)
      | error => rfl
      | done status => rfl

/-- `strcasestr(headers, "transfer-encoding: chunked") != NULL`, on the whole buffer. -/
def isChunked (buf : Bytes) : Bool :=
  (cut (ascii "transfer-encoding: chunked") ((cstr buf).map toLower)).isSome

/-- `parse_grpc_web_response`. -/
def parseGrpcWebResponse (buf : Bytes) : Verdict SingboxStatus :=
  match cut headerEnd (cstr buf) with
  | none => .more
  | some (headers, _) =>
    let body := buf.drop (headers.length + 4)
    if isChunked buf then parseChunks body.length body else parseStatusFrame body

/-- `sizeof(buf) - 1` in `singbox_api_get_status`. -/
def statusBufferSize : Nat := 4095

/-- The receive loop of `singbox_api_get_status`: `segs` is what the calls of `recv` deliver, less
those that a signal interrupts. -/
def singboxApiGetStatus (segs : List Bytes) : Option SingboxStatus :=
  match scan parseGrpcWebResponse statusBufferSize [] segs with
  | .done status => some status
  | _ => none

end Atpd.Api
