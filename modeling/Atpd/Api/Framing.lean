import Atpd.Api.GrpcWeb

/-!
# Segments and chunks

Two kinds of boundaries can fall into a status message. TCP may deliver the response in any pieces;
`get_status_of_segments` says that the pieces do not matter, because no prefix gets a verdict that a
longer one contradicts. The one place where the parser looks further as the buffer grows is the flag
for chunked transfer, which it searches for in the body too; a body that turns the flag on has no
frame in front of it, since the four bytes of a length that fits into the buffer begin with a NUL.

HTTP may cut the message into chunks. There the parser begins a new frame at each chunk, so a frame
in more than one chunk is lost, or taken for another: `parse_chunked_iff`.
-/

namespace Atpd.Api

open Atpd.Lib

variable {s t line rest : Bytes} {fuel : Nat} {status : SingboxStatus}

/-! ## Growing buffers -/

/-- A text that has ended is not continued. -/
lemma cstr_append_of_mem (nul : 0 ∈ s) : cstr (s ++ t) = cstr s := by
  induction s with
  | nil => cases nul
  | cons b s ih =>
    rw [cstr, cstr, List.cons_append, List.takeWhile_cons, List.takeWhile_cons]
    split
    · rename_i ne
      have tail : 0 ∈ s := by
        rcases List.mem_cons.mp nul with rfl | tail
        · simp at ne
        · exact tail
      rw [← cstr, ih tail, cstr]
    · rfl

/-- One that has not is. -/
lemma cstr_append_of_notMem (text : 0 ∉ s) : cstr (s ++ t) = s ++ cstr t := by
  apply List.takeWhile_append_of_pos
  intro b hb
  simp only [decide_eq_true_eq]
  rintro rfl
  exact text hb

/-- Without a NUL all of it is text. -/
lemma cstr_eq_self (text : 0 ∉ s) : cstr s = s := by
  have eq := cstr_append_of_notMem (t := []) text
  simpa [cstr] using eq

/-- The C string grows with the buffer. -/
lemma cstr_append (s t : Bytes) : ∃ u, cstr (s ++ t) = cstr s ++ u := by
  by_cases nul : 0 ∈ s
  · exact ⟨[], by rw [cstr_append_of_mem nul, List.append_nil]⟩
  · exact ⟨cstr t, by rw [cstr_append_of_notMem nul, cstr_eq_self nul]⟩

/-- A mark that was found stays. -/
lemma isChunked_append (chunked : isChunked s = true) : isChunked (s ++ t) = true := by
  obtain ⟨u, hu⟩ := cstr_append s t
  rw [isChunked, Option.isSome_iff_exists] at chunked ⊢
  obtain ⟨⟨before, after⟩, found⟩ := chunked
  rw [hu, List.map_append]
  exact ⟨_, cut_append found _⟩

/-- A frame that has a verdict keeps it. -/
lemma parseStatusFrame_append (settled : parseStatusFrame s ≠ .more) :
    parseStatusFrame (s ++ t) = parseStatusFrame s := by
  obtain few | ⟨flags, b1, b2, b3, b4, rest, rfl⟩ := frame_bytes s
  · exact absurd (parseStatusFrame_short few) settled
  · simp only [List.cons_append, parseStatusFrame] at settled ⊢
    by_cases trailers : flags &&& 0x80 ≠ 0
    · rw [if_pos trailers, if_pos trailers]
    · rw [if_neg trailers] at settled
      rw [if_neg trailers, if_neg trailers]
      by_cases short : rest.length < messageLen b1 b2 b3 b4
      · exact absurd (if_pos short) settled
      · have span := messageSpan_le (messageLen b1 b2 b3 b4)
        rw [if_neg short, if_neg (by rw [List.length_append]; omega),
          List.take_append_of_le_length (by omega)]

/-- A chunk that is complete stays the same; behind it stands what arrives. -/
lemma readChunk_append {chunk next : Bytes} (read : readChunk s = .done (chunk, next)) (t : Bytes) :
    ∃ next', readChunk (s ++ t) = .done (chunk, next') ∧ (next = [] ∨ next' = next ++ t) := by
  rw [readChunk] at read ⊢
  split at read
  · cases read
  · rename_i line rest found
    rw [cut_append found]
    dsimp only at read ⊢
    split at read
    · cases read
    · rename_i fits
      rw [if_neg fits]
      split at read
      · cases read
      · rename_i number
        rw [if_neg number]
        split at read
        · cases read
        · rename_i long
          cases read
          rw [if_neg (by rw [List.length_append]; omega), List.take_append_of_le_length (by omega)]
          refine ⟨_, rfl, ?_⟩
          by_cases le : (strtoul16 (cstr line)).1 + 2 ≤ rest.length
          · exact .inr (List.drop_append_of_le_length le)
          · exact .inl (List.drop_eq_nil_of_le (by omega))

/-- A chunk that is refused stays refused. -/
lemma readChunk_append_error (read : readChunk s = .error) (t : Bytes) :
    readChunk (s ++ t) = .error := by
  rw [readChunk] at read ⊢
  split at read
  · cases read
  · rename_i line rest found
    rw [cut_append found]
    dsimp only at read ⊢
    split at read
    · rename_i bad
      rw [if_pos bad]
    · rename_i fits
      rw [if_neg fits]
      split at read
      · rename_i bad
        rw [if_pos bad]
      · split at read <;> cases read

/-- Without a chunk there is nothing to parse yet. -/
lemma parseChunks_nil : parseChunks fuel [] = .more := by
  cases fuel <;> rfl

/-- Chunks that have a verdict keep it: by induction on the rounds. -/
lemma parseChunks_append {verdict : Verdict SingboxStatus} {fuel' : Nat}
    (parsed : parseChunks fuel s = verdict) (settled : verdict ≠ .more) (le : fuel ≤ fuel') :
    parseChunks fuel' (s ++ t) = verdict := by
  induction fuel generalizing s fuel' with
  | zero => exact absurd parsed.symm settled
  | succ fuel ih =>
    obtain ⟨fuel', rfl⟩ : ∃ k, fuel' = k + 1 := ⟨fuel' - 1, by omega⟩
    rw [parseChunks] at parsed ⊢
    cases read : readChunk s with
    | more =>
      rw [read] at parsed
      exact absurd parsed.symm settled
    | error =>
      rw [read] at parsed
      rw [readChunk_append_error read]
      exact parsed
    | done p =>
      obtain ⟨chunk, next⟩ := p
      -- a chunk that is complete is read as before
      obtain ⟨next', read', rest⟩ := readChunk_append read t
      rw [read] at parsed
      rw [read']
      dsimp only at parsed ⊢
      cases frame : parseStatusFrame chunk with
      | more =>
        rw [frame] at parsed
        rcases rest with rfl | rfl
        · -- nothing is left, so there is no verdict yet
          rw [parseChunks_nil] at parsed
          exact absurd parsed.symm settled
        · exact ih parsed (by omega)
      | error =>
        rw [frame] at parsed
        exact parsed
      | done status =>
        rw [frame] at parsed
        exact parsed

/-! ## The flag for chunked transfer -/

/-- Spaces, signs and hexadecimal digits are below 128. -/
lemma plain_of_high {b : UInt8} (high : b &&& 0x80 ≠ 0) :
    isSpace b = false ∧ b ≠ 43 ∧ b ≠ 45 ∧ hexVal b = none ∧ b ≠ 0 ∧ b ≠ 13 := by
  have all : ∀ n : Fin 256, UInt8.ofFin n &&& 0x80 ≠ 0 → isSpace (.ofFin n) = false ∧
      UInt8.ofFin n ≠ 43 ∧ UInt8.ofFin n ≠ 45 ∧ hexVal (.ofFin n) = none ∧ UInt8.ofFin n ≠ 0 ∧
      UInt8.ofFin n ≠ 13 := by
    decide +kernel
  exact all b.toFin high

/-- A digit is no sign. -/
lemma stripSign_cons {b : UInt8} (plus : b ≠ 43) (minus : b ≠ 45) (text : Bytes) :
    stripSign (b :: text) = (false, b :: text) := by
  rw [stripSign]
  · intro _ h
    cases h
    exact plus rfl
  · intro _ h
    cases h
    exact minus rfl

/-- `strtoul` makes no number of a text that does not begin with a space, a sign or a digit. -/
lemma strtoul16_of_plain {b : UInt8} (space : isSpace b = false) (plus : b ≠ 43) (minus : b ≠ 45)
    (digit : hexVal b = none) (text : Bytes) : strtoul16 (b :: text) = (0, b :: text) := by
  have drop : (b :: text).dropWhile isSpace = b :: text := by simp [space]
  have sign := stripSign_cons plus minus text
  have mark : stripHexMark (b :: text) = b :: text := by
    rw [stripHexMark]
    intro _ _ _ h
    cases h
    simp [hexVal] at digit
  simp [strtoul16, drop, sign, mark, digit]

/-- The first line begins with the first byte, if that is not its end. -/
lemma cut_crlf_cons {b : UInt8} (cr : b ≠ 13) (found : cut crlf (b :: s) = some (line, rest)) :
    ∃ line', line = b :: line' := by
  have whole := cut_eq_append found
  cases line with
  | nil =>
    cases whole
    exact absurd rfl cr
  | cons b' line' =>
    cases whole
    exact ⟨line', rfl⟩

/-- A body whose first byte has its top bit set is no chunk. -/
lemma parseChunks_of_high {b : UInt8} (high : b &&& 0x80 ≠ 0) :
    parseChunks fuel (b :: s) ≠ .done status := by
  obtain ⟨space, plus, minus, digit, nul, cr⟩ := plain_of_high high
  have refused : readChunk (b :: s) = .more ∨ readChunk (b :: s) = .error := by
    rw [readChunk]
    split
    · exact .inl rfl
    · rename_i line rest found
      right
      -- the line begins with this byte, which is neither the line end nor a number
      obtain ⟨line', rfl⟩ := cut_crlf_cons cr found
      have text : cstr (b :: line') = b :: cstr line' := by simp [cstr, nul]
      dsimp only
      split
      · rfl
      · rw [text, strtoul16_of_plain space plus minus digit]
        simp
  intro parsed
  cases fuel with
  | zero => cases parsed
  | succ fuel =>
    rw [parseChunks] at parsed
    rcases refused with read | read
    · rw [read] at parsed
      cases parsed
    · rw [read] at parsed
      cases parsed

/-- A frame in a text without NULs is no frame that fits into the buffer. -/
lemma parseStatusFrame_of_text (text : 0 ∉ s) (short : s.length ≤ statusBufferSize)
    (settled : parseStatusFrame s ≠ .more) :
    ∃ b s', s = b :: s' ∧ b &&& 0x80 ≠ 0 ∧ parseStatusFrame s = .error := by
  obtain few | ⟨flags, b1, b2, b3, b4, rest, rfl⟩ := frame_bytes s
  · exact absurd (parseStatusFrame_short few) settled
  · by_cases trailers : flags &&& 0x80 ≠ 0
    · exact ⟨flags, _, rfl, trailers, by rw [parseStatusFrame, if_pos trailers]⟩
    · have long : rest.length < messageLen b1 b2 b3 b4 := by
        have ne : b1.toNat ≠ 0 := by
          intro zero
          obtain rfl : b1 = 0 := UInt8.toNat_inj.mp zero
          exact text (by simp)
        simp only [statusBufferSize, List.length_cons] at short
        simp only [messageLen]
        omega
      rw [parseStatusFrame, if_neg trailers] at settled
      exact absurd (if_pos long) settled

/-! ## Segments -/

/-- The body of a response, as the buffer grows. -/
lemma headers_append {headers after : Bytes} (found : cut headerEnd (cstr s) = some (headers, after))
    (t : Bytes) : ∃ after', cut headerEnd (cstr (s ++ t)) = some (headers, after') ∧
      (s ++ t).drop (headers.length + 4) = s.drop (headers.length + 4) ++ t := by
  obtain ⟨u, hu⟩ := cstr_append s t
  refine ⟨after ++ u, by rw [hu]; exact cut_append found u, ?_⟩
  apply List.drop_append_of_le_length
  have le : (cstr s).length ≤ s.length := (List.takeWhile_prefix _).length_le
  have whole := congrArg List.length (cut_eq_append found)
  simp only [List.length_append, headerEnd, List.length_cons, List.length_nil] at whole
  omega

/-- The verdict on a prefix agrees with the verdict on the whole, or it is an error there and no
result here. -/
lemma parseGrpcWebResponse_append (short : (s ++ t).length ≤ statusBufferSize)
    (settled : parseGrpcWebResponse s ≠ .more) :
    parseGrpcWebResponse (s ++ t) = parseGrpcWebResponse s ∨
      parseGrpcWebResponse s = .error ∧ ∀ status, parseGrpcWebResponse (s ++ t) ≠ .done status := by
  cases found : cut headerEnd (cstr s) with
  | none => simp [parseGrpcWebResponse, found] at settled
  | some p =>
    obtain ⟨headers, after⟩ := p
    obtain ⟨after', found', body⟩ := headers_append found t
    simp only [parseGrpcWebResponse, found, found'] at settled ⊢
    rw [body]
    cases flag : isChunked s with
    | true =>
      left
      rw [flag, if_pos rfl] at settled
      rw [isChunked_append flag, if_pos rfl, if_pos rfl]
      exact parseChunks_append rfl settled (by simp)
    | false =>
      rw [flag, if_neg Bool.false_ne_true] at settled
      rw [if_neg Bool.false_ne_true]
      cases flag' : isChunked (s ++ t) with
      | false =>
        left
        rw [if_neg Bool.false_ne_true]
        exact parseStatusFrame_append settled
      | true =>
        -- the flag was found in the body, so the buffer so far is a text
        right
        have text : 0 ∉ s := by
          intro nul
          have same : isChunked (s ++ t) = isChunked s := by
            rw [isChunked, isChunked, cstr_append_of_mem nul]
          rw [flag, flag'] at same
          cases same
        have textBody : 0 ∉ s.drop (headers.length + 4) := fun h => text (List.mem_of_mem_drop h)
        have shortBody : (s.drop (headers.length + 4)).length ≤ statusBufferSize := by
          rw [List.length_append] at short
          rw [List.length_drop]
          omega
        obtain ⟨b, rest, heq, high, failed⟩ := parseStatusFrame_of_text textBody shortBody settled
        refine ⟨failed, fun status => ?_⟩
        rw [if_pos rfl, heq]
        exact parseChunks_of_high high

/-- What was decided of a response stays decided. -/
lemma parseGrpcWebResponse_settles : Settles parseGrpcWebResponse statusBufferSize where
  done s t r short parsed := by
    rcases parseGrpcWebResponse_append short (by rw [parsed]; nofun) with same | ⟨failed, -⟩
    · rw [same, parsed]
    · rw [parsed] at failed
      cases failed
  error s t r short parsed := by
    rcases parseGrpcWebResponse_append short (by rw [parsed]; nofun) with same | ⟨-, never⟩
    · rw [same, parsed]
      nofun
    · exact never r

/-- The reader gets what the parser makes of the whole response. -/
lemma singboxApiGetStatus_eq_some_iff {segs : List Bytes} (full : ∀ seg ∈ segs, seg ≠ [])
    (short : segs.flatten.length ≤ statusBufferSize) :
    singboxApiGetStatus segs = some status ↔ parseGrpcWebResponse segs.flatten = .done status := by
  have rule : scan parseGrpcWebResponse statusBufferSize [] segs = .done status ↔
      parseGrpcWebResponse ([] ++ segs.flatten) = .done status :=
    scan_done_iff parseGrpcWebResponse_settles full short rfl
  rw [List.nil_append] at rule
  rw [← rule, singboxApiGetStatus]
  cases scan parseGrpcWebResponse statusBufferSize [] segs <;> simp

/-- TCP segmentation does not matter: two ways of cutting a stream of at most 4095 bytes into
nonempty segments give the same status, or none. -/
theorem get_status_of_segments (segs segs' : List Bytes) (full : ∀ seg ∈ segs, seg ≠ [])
    (full' : ∀ seg ∈ segs', seg ≠ []) (same : segs.flatten = segs'.flatten)
    (short : segs.flatten.length ≤ 4095) :
    singboxApiGetStatus segs = singboxApiGetStatus segs' := by
  apply Option.ext
  intro status
  rw [singboxApiGetStatus_eq_some_iff full short,
    singboxApiGetStatus_eq_some_iff full' (same ▸ short), same]

/-- A response that is not chunked: seven goroutines. -/
def plainResponse : Bytes := ascii "HTTP/1.1 200 OK\r\n\r\n" ++ [0, 0, 0, 0, 2, 16, 7]

/-- A response in two segments. -/
theorem get_status_of_segments_plainResponse :
    singboxApiGetStatus [plainResponse.take 20, plainResponse.drop 20] =
        singboxApiGetStatus [plainResponse] ∧
      singboxApiGetStatus [plainResponse] = some { SingboxStatus.zero with goroutines := 7 } :=
  ⟨get_status_of_segments _ _ (by decide) (by decide) (by decide) (by decide), by decide⟩

/-! ## Chunks -/

/-- A nonempty chunk of HTTP/1.1: the digits of its size, an extension, and its data. -/
structure Chunk where
  size : Bytes
  ext : Bytes
  data : Bytes
  digits : ∀ b ∈ size, (hexVal b).isSome
  number : hexNumber size = data.length
  nonempty : data ≠ []
  ulong : data.length ≤ ulongMax
  extBegins : ∀ b, ext.head? = some b → b = 59 ∨ b = 32 ∨ b = 9
  extLine : 13 ∉ ext

/-- The chunk on the wire. -/
def Chunk.encode (c : Chunk) : Bytes := c.size ++ c.ext ++ crlf ++ c.data ++ crlf

/-- The size line is a number alone, and fits into `size_text`. -/
def Chunk.Plain (c : Chunk) : Prop := c.ext = [] ∧ c.size.length < 32

/-- A chunked response: its frame, cut into chunks, is one that `parse_status_frame` accepts. Behind
the chunks comes nothing yet, or the last chunk. -/
structure ChunkedResponse where
  header : Bytes
  chunks : List Chunk
  tail : Bytes
  status : SingboxStatus
  text : 0 ∉ header
  block : cut headerEnd (header ++ headerEnd) = some (header, [])
  chunked : (cut (ascii "transfer-encoding: chunked") (header.map toLower)).isSome = true
  ends : tail = [] ∨ ∃ trailers, tail = ascii "0\r\n" ++ trailers
  accepted : parseStatusFrame (chunks.flatMap Chunk.data) = .done status

/-- The bytes of the response. -/
def ChunkedResponse.bytes (r : ChunkedResponse) : Bytes :=
  r.header ++ headerEnd ++ (r.chunks.flatMap Chunk.encode ++ r.tail)

/-- The first chunk that is a frame of its own, complete or wrong, is complete and has this status;
up to it every size line is plain. -/
def Decodes (status : SingboxStatus) : List Chunk → Prop
  | [] => False
  | c :: chunks => c.Plain ∧
      (parseStatusFrame c.data = .done status ∨
        parseStatusFrame c.data = .more ∧ Decodes status chunks)

/-- A digit is no space, no sign, no NUL and no line end. -/
lemma plain_of_digit {b : UInt8} (digit : (hexVal b).isSome = true) :
    isSpace b = false ∧ b ≠ 43 ∧ b ≠ 45 ∧ b ≠ 120 ∧ b ≠ 88 ∧ b ≠ 0 ∧ b ≠ 13 := by
  have all : ∀ n : Fin 256, (hexVal (.ofFin n)).isSome = true → isSpace (.ofFin n) = false ∧
      UInt8.ofFin n ≠ 43 ∧ UInt8.ofFin n ≠ 45 ∧ UInt8.ofFin n ≠ 120 ∧ UInt8.ofFin n ≠ 88 ∧
      UInt8.ofFin n ≠ 0 ∧ UInt8.ofFin n ≠ 13 := by
    decide +kernel
  exact all b.toFin digit

/-- Without an `x` in the second place there is no mark to strip. -/
lemma stripHexMark_eq_self (second : ∀ b, s[1]? = some b → b ≠ 120 ∧ b ≠ 88) :
    stripHexMark s = s := by
  unfold stripHexMark
  split
  · rename_i x d text
    have hx := second x rfl
    simp [hx.1, hx.2]
  · rfl

/-- `strtoul` reads digits up to what is none. -/
lemma strtoul16_of_digits {digits : Bytes} (ne : digits ≠ [])
    (all : ∀ b ∈ digits, (hexVal b).isSome = true) (le : hexNumber digits ≤ ulongMax)
    (stop : ∀ b, t.head? = some b → hexVal b = none ∧ b ≠ 120 ∧ b ≠ 88) :
    strtoul16 (digits ++ t) = (hexNumber digits, t) := by
  obtain ⟨d, ds, rfl⟩ := List.exists_cons_of_ne_nil ne
  obtain ⟨space, plus, minus, -⟩ := plain_of_digit (all d (by simp))
  have drop : (d :: (ds ++ t)).dropWhile isSpace = d :: (ds ++ t) := by simp [space]
  have sign := stripSign_cons plus minus (ds ++ t)
  have mark : stripHexMark (d :: (ds ++ t)) = d :: (ds ++ t) := by
    apply stripHexMark_eq_self
    intro b hb
    cases ds with
    | nil =>
      have head : t.head? = some b := by simpa [List.head?_eq_getElem?] using hb
      exact (stop b head).2
    | cons d2 ds =>
      obtain rfl : d2 = b := by simpa using hb
      obtain ⟨-, -, -, x, X, -⟩ := plain_of_digit (all d2 (by simp))
      exact ⟨x, X⟩
  have none : t.takeWhile (fun b => (hexVal b).isSome) = [] ∧
      t.dropWhile (fun b => (hexVal b).isSome) = t := by
    cases t with
    | nil => exact ⟨rfl, rfl⟩
    | cons b t => simp [(stop b rfl).1]
  have taken : (d :: (ds ++ t)).takeWhile (fun b => (hexVal b).isSome) = d :: ds := by
    rw [← List.cons_append, List.takeWhile_append_of_pos all, none.1, List.append_nil]
  have left : (d :: (ds ++ t)).dropWhile (fun b => (hexVal b).isSome) = t := by
    rw [← List.cons_append, List.dropWhile_append_of_pos all, none.2]
  simp only [strtoul16, List.cons_append, drop, sign, mark, taken, left]
  simp [Nat.min_eq_left le]

/-- The number of a chunk has digits. -/
lemma Chunk.size_ne_nil (c : Chunk) : c.size ≠ [] := by
  intro nil
  have zero := c.number
  rw [nil] at zero
  exact c.nonempty (List.length_eq_zero_iff.mp zero.symm)

/-- An extension begins with a byte that ends the number. -/
lemma Chunk.cstr_ext (c : Chunk) : c.ext = [] ∨ ∃ b ext, cstr c.ext = b :: ext ∧
    hexVal b = none ∧ b ≠ 120 ∧ b ≠ 88 := by
  cases hext : c.ext with
  | nil => exact .inl rfl
  | cons b ext =>
    right
    have begins := c.extBegins b (by rw [hext]; rfl)
    refine ⟨b, cstr ext, ?_, ?_⟩
    · rcases begins with rfl | rfl | rfl <;> rfl
    · rcases begins with rfl | rfl | rfl <;> decide

/-- The size line of a chunk is found, and its number is the length of the data. -/
lemma Chunk.cut_encode (c : Chunk) (next : Bytes) :
    cut crlf (c.encode ++ next) = some (c.size ++ c.ext, c.data ++ (crlf ++ next)) := by
  have line : 13 ∉ c.size ++ c.ext := by
    intro h
    rcases List.mem_append.mp h with h | h
    · exact (plain_of_digit (c.digits 13 h)).2.2.2.2.2.2 rfl
    · exact c.extLine h
  have whole : c.encode ++ next = c.size ++ c.ext ++ crlf ++ (c.data ++ (crlf ++ next)) := by
    simp [Chunk.encode]
  rw [whole]
  exact cut_of_notMem line

/-- The number on the line is the size of the data. -/
lemma Chunk.strtoul16_line (c : Chunk) :
    strtoul16 (cstr (c.size ++ c.ext)) = (c.data.length, cstr c.ext) := by
  have text : 0 ∉ c.size := fun h => (plain_of_digit (c.digits 0 h)).2.2.2.2.2.1 rfl
  rw [cstr_append_of_notMem text, ← c.number]
  apply strtoul16_of_digits c.size_ne_nil c.digits (c.number ▸ c.ulong)
  intro b hb
  rcases c.cstr_ext with nil | ⟨b', ext, heq, stop⟩
  · rw [nil] at hb
    cases hb
  · rw [heq] at hb
    cases hb
    exact stop

/-- A chunk with a plain size line is read back. -/
lemma readChunk_encode {c : Chunk} (plain : c.Plain) (next : Bytes) :
    readChunk (c.encode ++ next) = .done (c.data, next) := by
  have pos : 0 < c.size.length := List.length_pos_iff.mpr c.size_ne_nil
  have dataPos : 0 < c.data.length := List.length_pos_iff.mpr c.nonempty
  have len : ¬((c.size ++ c.ext).length = 0 ∨ 32 ≤ (c.size ++ c.ext).length) := by
    rw [plain.1, List.append_nil]
    have lt := plain.2
    omega
  have number : ¬(cstr c.ext ≠ [] ∨ c.data.length = 0) := by
    rw [plain.1]
    rintro (h | h)
    · exact h rfl
    · omega
  simp only [readChunk, c.cut_encode, c.strtoul16_line, if_neg len, if_neg number]
  rw [if_neg (by rw [List.length_append]; omega), List.take_left', List.drop_append]
  · simp [crlf]
  · rfl

/-- A chunk with another size line is refused. -/
lemma readChunk_encode_error {c : Chunk} (plain : ¬c.Plain) (next : Bytes) :
    readChunk (c.encode ++ next) = .error := by
  simp only [readChunk, c.cut_encode, c.strtoul16_line]
  split
  · rfl
  · rename_i len
    have ext : cstr c.ext ≠ [] ∨ c.data.length = 0 := by
      left
      rcases c.cstr_ext with nil | ⟨b, ext, heq, -⟩
      · refine absurd ⟨nil, ?_⟩ plain
        rw [nil, List.append_nil] at len
        omega
      · rw [heq]
        exact List.cons_ne_nil b ext
    rw [if_pos ext]

/-- Behind the chunks of the frame there is no status. -/
lemma parseChunks_tail (ends : t = [] ∨ ∃ trailers, t = ascii "0\r\n" ++ trailers) :
    parseChunks fuel t ≠ .done status := by
  intro parsed
  cases fuel with
  | zero => cases parsed
  | succ fuel =>
    rcases ends with rfl | ⟨trailers, rfl⟩
    · rw [parseChunks_nil] at parsed
      cases parsed
    · have last : readChunk (ascii "0\r\n" ++ trailers) = .error :=
        readChunk_append_error (by decide) trailers
      rw [parseChunks, last] at parsed
      cases parsed

/-- The loop over the chunks: by induction on them. -/
lemma parseChunks_encode {chunks : List Chunk} (enough : chunks.length ≤ fuel)
    (ends : t = [] ∨ ∃ trailers, t = ascii "0\r\n" ++ trailers) :
    parseChunks fuel (chunks.flatMap Chunk.encode ++ t) = .done status ↔ Decodes status chunks := by
  induction chunks generalizing fuel with
  | nil => exact ⟨fun h => absurd h (parseChunks_tail ends), False.elim⟩
  | cons c chunks ih =>
    obtain ⟨fuel, rfl⟩ : ∃ k, fuel = k + 1 := ⟨fuel - 1, by simp at enough; omega⟩
    have rest : parseChunks fuel (chunks.flatMap Chunk.encode ++ t) = .done status ↔
        Decodes status chunks := ih (by simpa using enough)
    rw [List.flatMap_cons, List.append_assoc, parseChunks, Decodes]
    by_cases plain : c.Plain
    · rw [readChunk_encode plain]
      dsimp only
      cases frame : parseStatusFrame c.data with
      | more => simp [plain, rest]
      | error => simp
      | done status' => simp [plain]
    · rw [readChunk_encode_error plain]
      simp [plain]

/-- Where the body of the response begins. -/
lemma ChunkedResponse.parse_eq (r : ChunkedResponse) :
    parseGrpcWebResponse r.bytes =
      parseChunks (r.chunks.flatMap Chunk.encode ++ r.tail).length
        (r.chunks.flatMap Chunk.encode ++ r.tail) := by
  have text : 0 ∉ r.header ++ headerEnd := by
    intro h
    rcases List.mem_append.mp h with h | h
    · exact r.text h
    · revert h
      decide
  have found := cut_append r.block (cstr (r.chunks.flatMap Chunk.encode ++ r.tail))
  have flag : isChunked r.bytes = true := by
    obtain ⟨p, hp⟩ := Option.isSome_iff_exists.mp r.chunked
    rw [isChunked, ChunkedResponse.bytes, cstr_append_of_notMem text, List.append_assoc,
      List.map_append, cut_append hp]
    rfl
  have body : r.bytes.drop (r.header.length + 4) = r.chunks.flatMap Chunk.encode ++ r.tail := by
    have len : (r.header ++ headerEnd).length = r.header.length + 4 := by simp [headerEnd]
    rw [ChunkedResponse.bytes, ← len, List.drop_left]
  rw [parseGrpcWebResponse, ChunkedResponse.bytes, cstr_append_of_notMem text, found]
  dsimp only
  rw [← ChunkedResponse.bytes, flag, body, if_pos rfl]

/-- A chunked response is decoded to the status of its frame exactly when the first chunk that is a
frame of its own has that status. -/
theorem parse_chunked_iff (r : ChunkedResponse) :
    parseGrpcWebResponse r.bytes = .done r.status ↔ Decodes r.status r.chunks := by
  rw [r.parse_eq]
  refine parseChunks_encode ?_ r.ends
  -- a chunk takes up at least its line end
  have len : ∀ chunks : List Chunk, chunks.length ≤ (chunks.flatMap Chunk.encode).length := by
    intro chunks
    induction chunks with
    | nil => exact Nat.le_refl 0
    | cons c chunks ih =>
      simp only [List.flatMap_cons, List.length_append, List.length_cons, Chunk.encode, crlf,
        List.length_nil]
      omega
  rw [List.length_append]
  exact Nat.le_add_right_of_le (len r.chunks)

/-- A frame in one chunk is decoded, if its size line is plain. -/
lemma decodes_of_single {r : ChunkedResponse} {c : Chunk} (single : r.chunks = [c]) (plain : c.Plain) :
    Decodes r.status r.chunks := by
  have accepted := r.accepted
  rw [single] at accepted ⊢
  exact ⟨plain, .inl (by simpa using accepted)⟩

/-- Seven goroutines, and a field that the decoder skips. It is in a chunk of its own, which is a frame
with the same number of goroutines. -/
def nestedFrame : ChunkedResponse where
  header := ascii "HTTP/1.1 200 OK\r\nTransfer-Encoding: chunked"
  chunks :=
    [{ size := ascii "9", ext := [], data := [0, 0, 0, 0, 11, 16, 7, 122, 7],
       digits := List.all_eq_true.mp (by decide), number := by decide, nonempty := by decide,
       ulong := by decide, extBegins := by simp, extLine := by decide },
     { size := ascii "7", ext := [], data := [0, 0, 0, 0, 2, 16, 7], digits := List.all_eq_true.mp (by decide),
       number := by decide, nonempty := by decide, ulong := by decide, extBegins := by simp,
       extLine := by decide }]
  tail := ascii "0\r\n\r\n"
  status := { SingboxStatus.zero with goroutines := 7 }
  text := by decide
  block := by decide
  chunked := by decide
  ends := .inr ⟨ascii "\r\n", by decide⟩
  accepted := by decide

/-- The frame in two chunks is decoded: the first chunk is not yet a frame, the second is a frame of the
same status. -/
theorem parse_chunked_iff_nestedFrame :
    nestedFrame.chunks.length = 2 ∧ parseGrpcWebResponse nestedFrame.bytes = .done nestedFrame.status := by
  refine ⟨rfl, (parse_chunked_iff nestedFrame).mpr ?_⟩
  have first : parseStatusFrame [0, 0, 0, 0, 11, 16, 7, 122, 7] = .more := by decide
  have second : parseStatusFrame [0, 0, 0, 0, 2, 16, 7] = .done nestedFrame.status := by decide
  have short : 1 < 32 := by decide
  exact ⟨⟨rfl, short⟩, .inr ⟨first, ⟨rfl, short⟩, .inl second⟩⟩

/-- Seven goroutines, in a frame that is cut behind its prefix. -/
def cutFrame : ChunkedResponse where
  header := ascii "HTTP/1.1 200 OK\r\nTransfer-Encoding: chunked"
  chunks :=
    [{ size := ascii "5", ext := [], data := [0, 0, 0, 0, 2],
       digits := List.all_eq_true.mp (by decide), number := by decide, nonempty := by decide,
       ulong := by decide, extBegins := by simp, extLine := by decide },
     { size := ascii "2", ext := [], data := [16, 7], digits := List.all_eq_true.mp (by decide),
       number := by decide, nonempty := by decide, ulong := by decide, extBegins := by simp,
       extLine := by decide }]
  tail := ascii "0\r\n\r\n"
  status := { SingboxStatus.zero with goroutines := 7 }
  text := by decide
  block := by decide
  chunked := by decide
  ends := .inr ⟨ascii "\r\n", by decide⟩
  accepted := by decide

/-- Its status is lost. -/
theorem parse_cutFrame : parseGrpcWebResponse cutFrame.bytes = .error ∧
    ¬parseGrpcWebResponse cutFrame.bytes = .done cutFrame.status := by
  decide

end Atpd.Api
