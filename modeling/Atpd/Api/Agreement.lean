import Atpd.Api.Unary

/-!
# The two readers of a response

`grpc_web_unary_call` and `parse_grpc_web_response` of `src/singbox_api.c` look for the end of the header,
for the mark of a chunked body and for the size of the first chunk on their own. One takes two spellings
of the mark, of which it compares 25 letters; the other takes the 26 letters in any case.

`Response` is a complete response whose first frame lies in its plain body or in its first chunk, and
`unary_agrees_iff` says on which of them the frame of the one gives the verdict of the other.
-/

namespace Atpd.Api.Unary

open Atpd.Lib Atpd.Api.Clash

/-! ## Responses -/

/-- A body with the frame at its start: all of the body, or the data of its first chunk. -/
inductive Body (frame : Bytes) where
  | plain (trailing : Bytes)
  | chunked (c : Chunk) (more next : Bytes) (held : c.data = frame ++ more)

/-- The bytes of a body. -/
def Body.bytes {frame : Bytes} : Body frame → Bytes
  | .plain trailing => frame ++ trailing
  | .chunked c _ next _ => c.encode ++ next

/-- A complete response; the flag 1 says that the message is compressed. -/
structure Response where
  header : Bytes
  flag : UInt8
  message : Bytes
  body : Body (flaggedFrame flag message)
  text : 0 ∉ header
  block : cut headerEnd (header ++ headerEnd) = some (header, [])
  flags : flag = 0 ∨ flag = 1

/-- The data frame in the body. -/
def Response.frame (r : Response) : Bytes := flaggedFrame r.flag r.message

/-- The bytes of the response. -/
def Response.bytes (r : Response) : Bytes := r.header ++ headerEnd ++ r.body.bytes

/-- The mark of a chunked body, as `parse_grpc_web_response` looks for it. -/
def seesChunked (header : Bytes) : Bool :=
  (cut (ascii "transfer-encoding: chunked") (header.map toLower)).isSome

/-- The frame that the one reader returns gives the verdict of the other. -/
def Response.Agrees (responseCap : Nat) (r : Response) : Prop :=
  ∃ frame, receiveFrame responseCap [r.bytes] = some frame ∧
    parseStatusFrame frame = parseGrpcWebResponse r.bytes

/-- Both readers take the body for what it is, and the size line is a number alone. A chunk that
`parse_status_frame` asks for more on is passed over by one of them only. Where that one is mistaken
about the body, the message is malformed and gets the verdict of the mistake. -/
def Response.Concord (r : Response) : Prop :=
  match r.body with
  | .plain trailing =>
    looksChunked (r.header ++ headerEnd) = false ∧
      (seesChunked r.header = true →
        parseStatusFrame r.frame = if (cut crlf (r.frame ++ trailing)).isSome then .error else .more)
  | .chunked c _ next _ =>
    looksChunked (r.header ++ headerEnd) = true ∧ c.Plain ∧
      if seesChunked r.header = true then
        parseStatusFrame r.frame = .more → parseChunks next.length next = .more
      else parseStatusFrame r.frame = .more

variable {r : Response} {flag : UInt8} {message t : Bytes} {responseCap : Nat}

/-! ## Frames -/

/-- A data frame is no trailer. -/
lemma flag_top (flags : flag = 0 ∨ flag = 1) : ¬flag &&& 0x80 ≠ 0 := by
  rcases flags with rfl | rfl <;> decide

/-- The header of the frame, byte by byte. -/
lemma flaggedFrame_append (flag : UInt8) (message t : Bytes) :
    flaggedFrame flag message ++ t = flag :: UInt8.ofNat (message.length >>> 24) ::
      UInt8.ofNat (message.length >>> 16) :: UInt8.ofNat (message.length >>> 8) ::
      UInt8.ofNat message.length :: (message ++ t) := rfl

/-- A frame that fits has a NUL behind its flag. -/
lemma cstr_flaggedFrame (small : message.length < 2 ^ 24) :
    cstr (flaggedFrame flag message ++ t) = cstr [flag] := by
  have high : UInt8.ofNat (message.length >>> 24) = 0 := by
    rw [Nat.shiftRight_eq_div_pow, Nat.div_eq_of_lt small]
    rfl
  rw [flaggedFrame_append, high]
  simp [cstr, List.takeWhile_cons]

/-- The first frame is found, if it fits. -/
lemma firstFrame_flaggedFrame (flags : flag = 0 ∨ flag = 1) (small : message.length < 2 ^ 32)
    (fits : (flaggedFrame flag message).length ≤ responseCap) :
    firstFrame responseCap (flaggedFrame flag message ++ t) = .done (flaggedFrame flag message) := by
  have length : (flaggedFrame flag message).length = message.length + 5 := by
    simp only [flaggedFrame, lengthBytes, List.length_cons, List.length_append, List.length_nil]
    omega
  have enough : ¬(message ++ t).length < message.length := by
    rw [List.length_append]
    omega
  rw [flaggedFrame_append, firstFrame, if_neg (flag_top flags)]
  dsimp only
  rw [messageLen_lengthBytes small, if_neg (by omega), if_neg enough, ← flaggedFrame_append, ← length,
    List.take_left]

/-! ## Chunks -/

/-- Both readers make the same of a chunk, if they make anything of it. -/
lemma firstChunk_done_iff {body chunk : Bytes} :
    firstChunk body = .done chunk ↔ ∃ next, readChunk body = .done (chunk, next) := by
  rw [firstChunk, readChunk]
  cases cut crlf body with
  | none => simp
  | some p =>
    obtain ⟨line, rest⟩ := p
    dsimp only
    split
    · simp
    · by_cases number : (strtoul16 (cstr line)).2 = []
      · by_cases zero : (strtoul16 (cstr line)).1 = 0
        · simp [number, zero]
        · by_cases short : rest.length < (strtoul16 (cstr line)).1
          · simp [number, zero, short]
          · simp [number, zero, short]
      · simp [number]

/-- The line that a frame begins with is no number. -/
lemma strtoul16_flag (flags : flag = 0 ∨ flag = 1) (line : Bytes) :
    ∃ endptr, strtoul16 (cstr (flag :: line)) = (0, endptr) := by
  rcases flags with rfl | rfl
  · have nul : cstr (0 :: line) = [] := by simp [cstr]
    exact ⟨[], by rw [nul]; decide⟩
  · have text : cstr (1 :: line) = 1 :: cstr line := by simp [cstr]
    exact ⟨_, by rw [text, strtoul16_of_plain (by decide) (by decide) (by decide) (by decide)]⟩

/-- So it is no chunk, and is waited for as long as it has no line end. -/
lemma readChunk_flag {rest : Bytes} (flags : flag = 0 ∨ flag = 1) :
    readChunk (flag :: rest) = if (cut crlf (flag :: rest)).isSome then .error else .more := by
  rw [readChunk]
  cases found : cut crlf (flag :: rest) with
  | none => rfl
  | some p =>
    obtain ⟨line, after⟩ := p
    obtain ⟨line, rfl⟩ := cut_crlf_cons (by rcases flags with rfl | rfl <;> decide) found
    obtain ⟨endptr, number⟩ := strtoul16_flag flags line
    dsimp only
    rw [number]
    simp

/-- A chunk taken for a frame: its second byte is not zero, and so its length is beyond the buffer. -/
lemma chunk_bytes (c : Chunk) (next : Bytes) :
    ∃ d b rest, c.encode ++ next = d :: b :: rest ∧ d &&& 0x80 = 0 ∧ b ≠ 0 := by
  obtain ⟨d, ds, size⟩ := List.exists_cons_of_ne_nil c.size_ne_nil
  have digit : (hexVal d).isSome = true := c.digits d (by rw [size]; exact List.mem_cons_self)
  have low : d &&& 0x80 = 0 := by
    by_contra high
    rw [(plain_of_high high).2.2.2.1] at digit
    cases digit
  cases ds with
  | cons d2 ds =>
    obtain ⟨-, -, -, -, -, nonzero, -⟩ := plain_of_digit (c.digits d2 (by rw [size]; simp))
    exact ⟨d, d2, ds ++ c.ext ++ crlf ++ c.data ++ crlf ++ next, by simp [Chunk.encode, size], low, nonzero⟩
  | nil =>
    cases ext : c.ext with
    | nil =>
      exact ⟨d, 13, 10 :: (c.data ++ crlf ++ next), by simp [Chunk.encode, size, ext, crlf], low, by decide⟩
    | cons b ext' =>
      refine ⟨d, b, ext' ++ crlf ++ c.data ++ crlf ++ next, by simp [Chunk.encode, size, ext], low, ?_⟩
      rcases c.extBegins b (by rw [ext]; rfl) with rfl | rfl | rfl <;> decide

/-- Neither reader finds a frame there. -/
lemma chunk_as_frame {c : Chunk} {next : Bytes} (long : 5 ≤ c.data.length)
    (short : (c.encode ++ next).length ≤ statusBufferSize) :
    parseStatusFrame (c.encode ++ next) = .more ∧
      ∀ frame, firstFrame responseCap (c.encode ++ next) ≠ .done frame := by
  obtain ⟨d, b1, rest, whole, low, nonzero⟩ := chunk_bytes c next
  have length : 5 ≤ (c.encode ++ next).length := by
    simp only [Chunk.encode, List.length_append]
    omega
  rw [whole] at length short ⊢
  obtain few | ⟨_, _, b2, b3, b4, rest, same⟩ := frame_bytes (d :: b1 :: rest)
  · exact absurd few (Nat.not_lt.mpr length)
  cases same
  have pos : b1.toNat ≠ 0 := fun zero => nonzero (UInt8.toNat_inj.mp zero)
  have large : rest.length < messageLen b1 b2 b3 b4 := by
    simp only [statusBufferSize, List.length_cons] at short
    simp only [messageLen]
    omega
  have data : ¬d &&& 0x80 ≠ 0 := fun high => high low
  refine ⟨?_, fun frame found => ?_⟩
  · rw [parseStatusFrame, if_neg data]
    exact if_pos large
  · rw [firstFrame, if_neg data] at found
    dsimp only at found
    rw [if_pos large] at found
    split at found <;> cases found

/-! ## Headers -/

/-- The header block is text. -/
lemma Response.text_block (r : Response) : 0 ∉ r.header ++ headerEnd := by
  intro mem
  rcases List.mem_append.mp mem with mem | mem
  · exact r.text mem
  · revert mem
    decide

/-- What the one reader makes of a response. -/
lemma Response.readResponse_done_iff (r : Response) {frame : Bytes} :
    readResponse responseCap r.bytes = .done frame ↔
      if looksChunked (r.header ++ headerEnd) = true then
        ∃ chunk, firstChunk r.body.bytes = .done chunk ∧ firstFrame responseCap chunk = .done frame
      else firstFrame responseCap r.body.bytes = .done frame := by
  have found := cut_append r.block r.body.bytes
  have length : r.header.length + 4 = (r.header ++ headerEnd).length := by simp [headerEnd]
  rw [readResponse, Response.bytes, found, List.nil_append]
  dsimp only
  rw [length, List.take_left]
  split
  · cases firstChunk r.body.bytes <;> simp
  · rfl

/-- And the other. -/
lemma Response.parseGrpcWebResponse_eq (r : Response) :
    parseGrpcWebResponse r.bytes =
      if isChunked r.bytes then parseChunks r.body.bytes.length r.body.bytes
      else parseStatusFrame r.body.bytes := by
  have found := cut_append r.block (cstr r.body.bytes)
  have length : r.header.length + 4 = (r.header ++ headerEnd).length := by simp [headerEnd]
  have behind : r.bytes.drop (r.header.length + 4) = r.body.bytes := by
    rw [Response.bytes, length, List.drop_left]
  rw [parseGrpcWebResponse, Response.bytes, cstr_append_of_notMem r.text_block, found]
  dsimp only
  rw [← Response.bytes, behind]

/-- The mark is looked for in the body too, up to the first NUL; a `t` is needed for it. -/
lemma Response.isChunked_eq (r : Response) (clean : 116 ∉ (cstr r.body.bytes).map toLower) :
    isChunked r.bytes = seesChunked r.header := by
  have lower : (cstr r.bytes).map toLower =
      r.header.map toLower ++ 13 :: ([10, 13, 10] ++ (cstr r.body.bytes).map toLower) := by
    rw [Response.bytes, cstr_append_of_notMem r.text_block, List.map_append, List.map_append,
      List.append_assoc]
    rfl
  have missing : 116 ∉ [10, 13, 10] ++ (cstr r.body.bytes).map toLower := by
    intro mem
    rcases List.mem_append.mp mem with mem | mem
    · revert mem
      decide
    · exact clean mem
  rw [isChunked, seesChunked, lower, Bool.eq_iff_iff, cut_isSome_iff, cut_isSome_iff]
  have marked : 116 ∈ ascii "transfer-encoding: chunked" := by decide
  exact infix_append_cons_iff (by decide) marked missing

/-! ## The agreement -/

/-- The receive loop with one piece. -/
lemma receiveFrame_eq_some_iff {buf frame : Bytes} (nonempty : buf ≠ [])
    (short : buf.length ≤ unaryBufferSize) :
    receiveFrame responseCap [buf] = some frame ↔ readResponse responseCap buf = .done frame := by
  have whole : buf.take unaryBufferSize = buf := List.take_of_length_le short
  have room : ([] : Bytes).length < unaryBufferSize ∧ buf ≠ [] := ⟨by decide, nonempty⟩
  rw [receiveFrame, scan, if_pos room, List.length_nil, Nat.sub_zero, whole, List.nil_append]
  cases readResponse responseCap buf <;> simp [scan]

/-- Agreement, from the frame that the unary reader hands on. -/
lemma Response.agrees_iff (r : Response) (short : r.bytes.length ≤ statusBufferSize) :
    r.Agrees responseCap ↔ ∃ frame, readResponse responseCap r.bytes = .done frame ∧
      parseStatusFrame frame = parseGrpcWebResponse r.bytes := by
  have nonempty : r.bytes ≠ [] := by
    intro empty
    have length := congrArg List.length empty
    simp [Response.bytes, headerEnd] at length
  have fits : r.bytes.length ≤ unaryBufferSize := Nat.le_trans short (by decide)
  simp only [Response.Agrees, receiveFrame_eq_some_iff nonempty fits]

/-- The body is no longer than the response. -/
lemma Response.body_length (r : Response) (short : r.bytes.length ≤ statusBufferSize) :
    r.body.bytes.length ≤ statusBufferSize := by
  rw [Response.bytes, List.length_append] at short
  omega

/-- The length of the message has a zero in front. -/
lemma message_length (short : (flaggedFrame flag message ++ t).length ≤ statusBufferSize) :
    message.length < 2 ^ 24 := by
  simp only [flaggedFrame, List.cons_append, List.length_cons, List.length_append, statusBufferSize] at short
  omega

/-- A flag is no `t`. -/
lemma cstr_flag (flags : flag = 0 ∨ flag = 1) : 116 ∉ (cstr [flag]).map toLower := by
  rcases flags with rfl | rfl <;> decide

/-- What stands behind the frame does not matter. -/
lemma Response.parse_frame (r : Response) (small : r.message.length < 2 ^ 24) :
    parseStatusFrame (r.frame ++ t) = parseStatusFrame r.frame := by
  have data := flag_top r.flags
  have alone := @parseStatusFrame_flaggedFrame r.message [] r.flag data (by omega)
  rw [List.append_nil] at alone
  rw [Response.frame, parseStatusFrame_flaggedFrame data (by omega), alone]

/-- A digit in lower case is no `t`. -/
lemma toLower_digit {b : UInt8} (digit : (hexVal b).isSome = true) : toLower b ≠ 116 := by
  have all : ∀ n : Fin 256, (hexVal (.ofFin n)).isSome = true → toLower (.ofFin n) ≠ 116 := by
    decide +kernel
  exact all b.toFin digit

/-- The text of a chunked body ends in the frame of its first chunk. -/
lemma chunk_cstr {c : Chunk} {more next : Bytes} (plain : c.Plain)
    (held : c.data = flaggedFrame flag message ++ more) (small : message.length < 2 ^ 24) :
    cstr (c.encode ++ next) = c.size ++ crlf ++ cstr [flag] := by
  have text : 0 ∉ c.size ++ crlf := by
    intro mem
    rcases List.mem_append.mp mem with mem | mem
    · exact (plain_of_digit (c.digits 0 mem)).2.2.2.2.2.1 rfl
    · revert mem
      decide
  have whole : c.encode ++ next = c.size ++ crlf ++ (flaggedFrame flag message ++ (more ++ crlf ++ next)) := by
    simp [Chunk.encode, plain.1, held]
  rw [whole, cstr_append_of_notMem text, cstr_flaggedFrame small]

/-- A plain body. -/
lemma plain_agrees_iff {trailing : Bytes} (plain : r.body = .plain trailing)
    (short : r.bytes.length ≤ statusBufferSize) (fits : r.frame.length ≤ responseCap) :
    r.Agrees responseCap ↔ r.Concord := by
  have body : r.body.bytes = r.frame ++ trailing := by rw [plain]; rfl
  have bodyShort := r.body_length short
  rw [body] at bodyShort
  have small := message_length bodyShort
  have clean : 116 ∉ (cstr r.body.bytes).map toLower := by
    rw [body, Response.frame, cstr_flaggedFrame small]
    exact cstr_flag r.flags
  -- the flag of the frame is no digit, so the frame is no chunk
  have chunk : readChunk (r.frame ++ trailing) =
      if (cut crlf (r.frame ++ trailing)).isSome then .error else .more := readChunk_flag r.flags
  have concord : r.Concord ↔ looksChunked (r.header ++ headerEnd) = false ∧
      (seesChunked r.header = true → parseStatusFrame r.frame =
        if (cut crlf (r.frame ++ trailing)).isSome then .error else .more) := by
    rw [Response.Concord, plain]
  simp only [r.agrees_iff short, r.parseGrpcWebResponse_eq, r.isChunked_eq clean,
    r.readResponse_done_iff, body, concord]
  -- the unary reader takes the body for chunks, or for frames
  cases looks : looksChunked (r.header ++ headerEnd) with
  | true =>
    refine iff_of_false ?_ (by simp)
    rintro ⟨frame, ⟨data, first, -⟩, -⟩
    obtain ⟨next, read⟩ := firstChunk_done_iff.mp first
    rw [chunk] at read
    split at read <;> cases read
  | false =>
    have first := @firstFrame_flaggedFrame _ _ trailing _ r.flags (by omega) fits
    have found : ∀ frame, firstFrame responseCap (r.frame ++ trailing) = .done frame ↔ frame = r.frame := by
      intro frame
      rw [Response.frame, first]
      exact ⟨fun same => (Verdict.done.inj same).symm, fun same => by rw [same]⟩
    simp only [Bool.false_eq_true, if_false, found, exists_eq_left, true_and]
    -- the stream reader has its own test
    cases sees : seesChunked r.header with
    | false => simp [r.parse_frame small]
    | true =>
      obtain ⟨k, length⟩ : ∃ k, (r.frame ++ trailing).length = k + 1 := ⟨_, rfl⟩
      have streamed : parseChunks (k + 1) (r.frame ++ trailing) =
          if (cut crlf (r.frame ++ trailing)).isSome then .error else .more := by
        rw [parseChunks, chunk]
        cases (cut crlf (r.frame ++ trailing)).isSome <;> rfl
      simp only [if_true, length, streamed, forall_const]

/-- A chunked body. -/
lemma chunked_agrees_iff {c : Chunk} {more next : Bytes} {held : c.data = r.frame ++ more}
    (chunked : r.body = .chunked c more next held)
    (short : r.bytes.length ≤ statusBufferSize) (fits : r.frame.length ≤ responseCap) :
    r.Agrees responseCap ↔ r.Concord := by
  have body : r.body.bytes = c.encode ++ next := by rw [chunked]; rfl
  have bodyShort := r.body_length short
  rw [body] at bodyShort
  have frameLength : r.frame.length = r.message.length + 5 := by
    simp only [Response.frame, flaggedFrame, lengthBytes, List.length_cons, List.length_append,
      List.length_nil]
    omega
  have dataLength : c.data.length ≤ (c.encode ++ next).length := by
    simp only [Chunk.encode, List.length_append]
    omega
  have dataSplit : c.data.length = r.frame.length + more.length := by rw [held, List.length_append]
  have small : r.message.length < 2 ^ 24 := by
    rw [statusBufferSize] at bodyShort
    omega
  have concord : r.Concord ↔ looksChunked (r.header ++ headerEnd) = true ∧ c.Plain ∧
      if seesChunked r.header = true then
        parseStatusFrame r.frame = .more → parseChunks next.length next = .more
      else parseStatusFrame r.frame = .more := by
    rw [Response.Concord, chunked]
  -- read as a plain body, the size line is where the flags should be
  obtain ⟨asFrame, noFrame⟩ :=
    @chunk_as_frame responseCap c next (by omega) bodyShort
  simp only [r.agrees_iff short, r.readResponse_done_iff, body, concord]
  cases looks : looksChunked (r.header ++ headerEnd) with
  | false =>
    -- the unary reader takes the chunk for a plain body
    refine iff_of_false ?_ (by simp)
    rintro ⟨frame, first, -⟩
    exact noFrame frame first
  | true =>
    by_cases plain : c.Plain
    · have read := readChunk_encode plain next
      have first := @firstFrame_flaggedFrame _ _ more _ r.flags (by omega) fits
      have chunk : firstChunk (c.encode ++ next) = .done c.data := firstChunk_done_iff.mpr ⟨next, read⟩
      -- and here it finds the frame in its chunk
      have found : ∀ frame, (∃ chunk, firstChunk (c.encode ++ next) = .done chunk ∧
          firstFrame responseCap chunk = .done frame) ↔ frame = r.frame := by
        intro frame
        simp only [chunk, Verdict.done.injEq, exists_eq_left', held]
        rw [Response.frame, first, Verdict.done.injEq, eq_comm]
      have clean : 116 ∉ (cstr r.body.bytes).map toLower := by
        rw [body, chunk_cstr plain held small, List.map_append, List.map_append]
        intro mem
        rcases List.mem_append.mp mem with mem | mem
        · rcases List.mem_append.mp mem with mem | mem
          · obtain ⟨b, digit, same⟩ := List.mem_map.mp mem
            exact toLower_digit (c.digits b digit) same
          · revert mem
            decide
        · exact cstr_flag r.flags mem
      simp only [if_true, found, exists_eq_left, true_and, plain, r.parseGrpcWebResponse_eq,
        r.isChunked_eq clean, body]
      -- what the streaming reader makes of the same bytes
      cases sees : seesChunked r.header with
      | false => simp [asFrame]
      | true =>
        obtain ⟨k, length⟩ : ∃ k, (c.encode ++ next).length = k + 1 :=
          ⟨(c.encode ++ next).length - 1, by omega⟩
        -- the rounds that the first chunk leaves over change nothing
        have rounds : parseChunks k next = parseChunks next.length next := by
          obtain ⟨j, rfl⟩ : ∃ j, k = next.length + j := by
            refine ⟨k - next.length, ?_⟩
            rw [List.length_append] at length
            have pos : c.data.length ≤ c.encode.length := by
              simp only [Chunk.encode, List.length_append]
              omega
            omega
          exact parseChunks_rounds (Nat.le_refl _) j
        have verdict : parseStatusFrame c.data = parseStatusFrame r.frame := by
          rw [held, r.parse_frame small]
        simp only [if_true, length, parseChunks, read, verdict]
        cases parseStatusFrame r.frame with
        | more => simp [rounds, eq_comm]
        | error => simp
        | done status => simp
    · refine iff_of_false ?_ (fun both => plain both.2.1)
      rintro ⟨frame, ⟨data, first, -⟩, -⟩
      obtain ⟨next', read⟩ := firstChunk_done_iff.mp first
      rw [readChunk_encode_error plain] at read
      cases read

/-- For every complete response of at most 4095 bytes with its first frame in its plain body or its first
chunk, and a buffer that the frame fits into: `grpc_web_unary_call` returns a frame on which
`parse_status_frame` has the verdict that `parse_grpc_web_response` has on the response, exactly if the
two are in concord. -/
theorem unary_agrees_iff (r : Response) (responseCap : Nat) (short : r.bytes.length ≤ 4095)
    (fits : r.frame.length ≤ responseCap) : r.Agrees responseCap ↔ r.Concord := by
  cases body : r.body with
  | plain trailing => exact plain_agrees_iff body short fits
  | chunked c more next held => exact chunked_agrees_iff body short fits

/-- A size of one digit. -/
lemma seven_digits : ∀ b ∈ ascii "7", (hexVal b).isSome := List.all_eq_true.mp (by decide)

/-- There is no extension to begin. -/
lemma nil_begins {p : UInt8 → Prop} (b : UInt8) (begins : ([] : Bytes).head? = some b) : p b :=
  absurd begins (Option.some_ne_none b).symm

/-- The frame is short. -/
lemma seven_ulong : (flaggedFrame 0 [16, 7]).length ≤ ulongMax := by decide

/-- Its size is the one on the line. -/
lemma seven_number : hexNumber (ascii "7") = (flaggedFrame 0 [16, 7]).length := by decide

/-- A chunk with seven goroutines. -/
def sevenChunk : Chunk where
  size := ascii "7"
  ext := []
  data := flaggedFrame 0 [16, 7]
  digits := seven_digits
  number := seven_number
  nonempty := List.cons_ne_nil _ _
  ulong := seven_ulong
  extBegins := nil_begins
  extLine := List.not_mem_nil

/-- A response that is chunked, with the mark in capitals. -/
def capitalResponse : Response where
  header := ascii "HTTP/1.1 200 OK\r\nTRANSFER-ENCODING: chunked"
  flag := 0
  message := [16, 7]
  body := .chunked sevenChunk [] (ascii "0\r\n\r\n") rfl
  text := by decide
  block := by decide
  flags := .inl rfl

/-- One reader finds seven goroutines in it, and the other no frame. -/
theorem capital_disagrees :
    capitalResponse.bytes.length ≤ 4095 ∧ capitalResponse.frame.length ≤ 2048 ∧
    parseGrpcWebResponse capitalResponse.bytes = .done { SingboxStatus.zero with goroutines := 7 } ∧
    receiveFrame 2048 [capitalResponse.bytes] = none := by
  decide +kernel

/-- The usual mark. -/
def usualHeader : Bytes := ascii "HTTP/1.1 200 OK\r\nTransfer-Encoding: chunked"

/-- The usual header is text. -/
lemma usualHeader_text : 0 ∉ usualHeader := by decide

/-- And ends where it should. -/
lemma usualHeader_block : cut headerEnd (usualHeader ++ headerEnd) = some (usualHeader, []) := by decide

/-- The same response with the usual mark. -/
def usualResponse : Response :=
  { capitalResponse with header := usualHeader, text := usualHeader_text, block := usualHeader_block }

/-- On the usual response both readers agree. -/
theorem unary_agrees_iff_usual : usualResponse.Agrees 2048 := by
  apply (unary_agrees_iff usualResponse 2048 (by decide +kernel) (by decide)).mpr
  refine ⟨by decide +kernel, ⟨rfl, by decide⟩, ?_⟩
  rw [if_pos (by decide +kernel)]
  intro more
  exact absurd more (by decide)

end Atpd.Api.Unary
