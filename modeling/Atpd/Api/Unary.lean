import Atpd.Api.ClashMode

/-!
# Unary calls

`grpc_web_unary_call` of `src/singbox_api.c`: it connects, sends an HTTP header and a frame, and reads the
response until it has the first frame. The results of `send` are a trace, and those of `recv` the pieces
that arrive; a trace that does not fit gives `none`.

It looks for the same things in a response as `parse_grpc_web_response`, in its own way.
`unary_agrees_iff` says exactly on which responses the two agree.
-/

namespace Atpd.Api.Unary

open Atpd.Lib Atpd.Lib.Protobuf Atpd.Api.Clash

/-! ## The request -/

/-- What `send` returns; a result that is not positive counts as a failure unless it is `EINTR`. -/
inductive SendResult where
  | took (n : Nat)
  | eintr
  | fails
deriving DecidableEq, Repr

/-- The loops that send: what is left of `data`, and of the trace. -/
def sendLoop : List SendResult → Bytes → Option (Bytes × List SendResult)
  | trace, [] => some ([], trace)
  | [], _ :: _ => none
  | .eintr :: trace, byte :: data => sendLoop trace (byte :: data)
  | .fails :: trace, byte :: data => some (byte :: data, trace)
  | .took n :: trace, byte :: data =>
    if n = 0 then some (byte :: data, trace)
    else if n ≤ (byte :: data).length then sendLoop trace ((byte :: data).drop n)
    else none

/-- `singbox_api_ctx_t`, as far as a request needs it. -/
structure SingboxApiCtx where
  host : Bytes
  port : Int32
  secret : Bytes
  hostSize : host.length < 64
  secretSize : secret.length < 128

/-- `DEFAULT_API_PORT`. -/
def defaultApiPort : Nat := 9080

/-- `ctx && ctx->port > 0 ? ctx->port : DEFAULT_API_PORT`. -/
def portOf : Option SingboxApiCtx → Nat
  | some ctx => if 0 < ctx.port then ctx.port.toInt.toNat else defaultApiPort
  | none => defaultApiPort

/-- `ctx && ctx->host[0] ? ctx->host : "127.0.0.1"`. -/
def hostOf : Option SingboxApiCtx → Bytes
  | some ctx => if ctx.host ≠ [] then ctx.host else ascii "127.0.0.1"
  | none => ascii "127.0.0.1"

/-- `Authorization: Bearer %s`, if there is a secret. -/
def authorization : Option SingboxApiCtx → Bytes
  | some ctx => if ctx.secret ≠ [] then ascii "Authorization: Bearer " ++ ctx.secret ++ crlf else []
  | none => []

/-- `%zu` and `%d`. -/
def decimal (n : Nat) : Bytes := ascii (toString n)

/-- The header up to the number of `Content-Length`. -/
def headerBefore (ctx : Option SingboxApiCtx) (path : Bytes) : Bytes :=
  ascii "POST " ++ path ++ ascii " HTTP/1.1\r\nHost: " ++ hostOf ctx ++ ascii ":" ++ decimal (portOf ctx) ++
    ascii "\r\nContent-Type: application/grpc-web+proto\r\nX-Grpc-Web: 1\r\n" ++
    ascii "Accept: application/grpc-web+proto\r\n"

/-- The header behind it. -/
def headerAfter (ctx : Option SingboxApiCtx) : Bytes :=
  ascii "User-Agent: ATPd-Native/2.0\r\n" ++ authorization ctx ++ ascii "Connection: close\r\n\r\n"

/-- The header of a request. -/
def requestHeader (ctx : Option SingboxApiCtx) (path : Bytes) (contentLength : Nat) : Bytes :=
  headerBefore ctx path ++ ascii "Content-Length: " ++ decimal contentLength ++ crlf ++ headerAfter ctx

/-! ## The response -/

/-- `memmem(buf, body, .., 25)` with the two spellings, which have 26 letters. -/
def looksChunked (header : Bytes) : Bool :=
  (cut ((ascii "transfer-encoding: chunked").take 25) header).isSome ||
    (cut ((ascii "Transfer-Encoding: chunked").take 25) header).isSome

/-- The frame at the start of a body or a chunk, with its head. -/
def firstFrame (responseCap : Nat) : Bytes → Verdict Bytes
  | flags :: b1 :: b2 :: b3 :: b4 :: rest =>
    if flags &&& 0x80 ≠ 0 then .error
    else
      let len := messageLen b1 b2 b3 b4
      if responseCap < len + 5 then .error
      else if rest.length < len then .more
      else .done ((flags :: b1 :: b2 :: b3 :: b4 :: rest).take (len + 5))
  | _ => .more

/-- The data of the chunk at the start of a body. -/
def firstChunk (body : Bytes) : Verdict Bytes :=
  match cut crlf body with
  | none => .more
  | some (line, rest) =>
    if line.length = 0 ∨ 32 ≤ line.length then .error
    else
      let (chunkLen, endptr) := strtoul16 (cstr line)
      if endptr ≠ [] then .error
      -- the last chunk is waited for like one that is not complete
      else if chunkLen = 0 ∨ rest.length < chunkLen then .more
      else .done (rest.take chunkLen)

/-- One round of the receive loop, on what has arrived. -/
def readResponse (responseCap : Nat) (buf : Bytes) : Verdict Bytes :=
  match cut headerEnd buf with
  | none => .more
  | some (headers, body) =>
    if looksChunked (buf.take (headers.length + 4)) then
      match firstChunk body with
      | .more => .more
      | .error => .error
      | .done chunk => firstFrame responseCap chunk
    else firstFrame responseCap body

/-- `sizeof(buf)` in `grpc_web_unary_call`. -/
def unaryBufferSize : Nat := 8192

/-- The receive loop of `grpc_web_unary_call`: `segs` is what the calls of `recv` deliver, less those that
a signal interrupts. -/
def receiveFrame (responseCap : Nat) (segs : List Bytes) : Option Bytes :=
  match scan (readResponse responseCap) unaryBufferSize [] segs with
  | .done frame => some frame
  | _ => none

/-! ## The call -/

/-- What `grpc_web_unary_call` has sent, and the frame it returns, if it returns 0. -/
structure UnaryResult where
  wire : Bytes
  frame : Option Bytes
deriving DecidableEq, Repr

/-- `sizeof(req)`. -/
def headerSize : Nat := 1024

/-- `grpc_web_unary_call`; `connected` says that the socket could be made and connected. -/
def grpcWebUnaryCall (ctx : Option SingboxApiCtx) (path request : Bytes) (responseCap : Nat)
    (connected : Bool) (sends : List SendResult) (segs : List Bytes) : Option UnaryResult :=
  if 2 ^ 32 - 1 < request.length ∨ connected = false then some ⟨[], none⟩
  else
    let req := requestHeader ctx path (request.length + 5)
    if headerSize ≤ req.length then some ⟨[], none⟩
    else
      match sendLoop sends req with
      | none => none
      | some (unsent, sends) =>
        let wire := req.take (req.length - unsent.length)
        if 256 < request.length then some ⟨wire, none⟩
        else if unsent = [] then
          let frame := dataFrame request
          match sendLoop sends frame with
          | none => none
          | some (unsent, _) =>
            let wire := wire ++ frame.take (frame.length - unsent.length)
            if unsent = [] then some ⟨wire, receiveFrame responseCap segs⟩ else some ⟨wire, none⟩
        -- `sent` still counts the header, and is compared with the length of the frame
        else if wire.length = request.length + 5 then some ⟨wire, receiveFrame responseCap segs⟩
        else some ⟨wire, none⟩

/-- The length of a string as a varint: `while (length >= 0x80)`. -/
def putVarint (length : Nat) : Bytes :=
  if 0x80 ≤ length then UInt8.ofNat (length ||| 0x80) :: putVarint (length >>> 7)
  else [UInt8.ofNat length]
termination_by length
decreasing_by
  rw [Nat.shiftRight_eq_div_pow]
  omega

/-- The message of `singbox_api_set_clash_mode`. -/
def clashModeRequest (mode : Bytes) : Bytes := 0x1a :: (putVarint mode.length ++ mode)

/-- The path of the request. -/
def setClashModePath : Bytes := ascii "/daemon.StartedService/SetClashMode"

/-- `singbox_api_set_clash_mode`. -/
def singboxApiSetClashMode (ctx : Option SingboxApiCtx) (mode : Bytes) (connected : Bool)
    (sends : List SendResult) (segs : List Bytes) : Option UnaryResult :=
  if mode = [] ∨ 255 < mode.length then some ⟨[], none⟩
  else grpcWebUnaryCall ctx setClashModePath (clashModeRequest mode) 256 connected sends segs

/-! ## What is sent -/

variable {trace rest : List SendResult} {data unsent mode : Bytes} {n : Nat}

/-- No `send` fails, and each takes something. -/
def Reliable (trace : List SendResult) : Prop := ∀ r ∈ trace, r ≠ .fails ∧ r ≠ .took 0

instance (trace : List SendResult) : Decidable (Reliable trace) :=
  inferInstanceAs (Decidable (∀ r ∈ trace, r ≠ .fails ∧ r ≠ .took 0))

/-- A reliable trace sends everything. -/
lemma sendLoop_reliable (reliable : Reliable trace) (sent : sendLoop trace data = some (unsent, rest)) :
    unsent = [] ∧ Reliable rest := by
  fun_induction sendLoop trace data with
  | case1 trace =>
    cases sent
    exact ⟨rfl, reliable⟩
  | case2 => cases sent
  | case3 byte data trace ih =>
    exact ih (fun r mem => reliable r (List.mem_cons_of_mem _ mem)) sent
  | case4 byte data trace => exact absurd rfl (reliable .fails List.mem_cons_self).1
  | case5 trace byte data => exact absurd rfl (reliable (.took 0) List.mem_cons_self).2
  | case6 byte data trace n pos fits ih =>
    exact ih (fun r mem => reliable r (List.mem_cons_of_mem _ mem)) sent
  | case7 => cases sent

/-- The loop writes the number in the same way as protobuf does: by induction on its rounds. -/
lemma putVarint_varint (n : Nat) : Varint n (putVarint n) := by
  fun_induction putVarint n with
  | case1 n large ih =>
    have digit : UInt8.ofNat (n ||| 0x80) = UInt8.ofNat (n % 128 + 128) := by
      have all : ∀ k : Fin 256, k.val ||| 0x80 = k.val % 128 + 128 := by decide +kernel
      have low : n % 2 ^ 8 ||| 0x80 = n % 2 ^ 8 % 128 + 128 := all ⟨n % 2 ^ 8, Nat.mod_lt _ (by decide)⟩
      apply UInt8.toNat_inj.mp
      rw [UInt8.toNat_ofNat', UInt8.toNat_ofNat', Nat.or_mod_two_pow]
      show n % 2 ^ 8 ||| 0x80 = _
      rw [low]
      omega
    have parts : n % 128 + 128 * (n >>> 7) = n := by
      rw [Nat.shiftRight_eq_div_pow]
      omega
    have more := Varint.more (Nat.mod_lt n (by decide : 0 < 128)) ih
    rw [parts] at more
    rw [digit]
    exact more
  | case2 n small => exact .last (by omega)

/-- A length below 128 takes one byte. -/
lemma putVarint_length (small : n < 2 ^ 14) : (putVarint n).length = if n < 128 then 1 else 2 := by
  rw [putVarint]
  split
  · rename_i large
    have last : n >>> 7 < 128 := by
      rw [Nat.shiftRight_eq_div_pow]
      omega
    rw [putVarint, if_neg (by omega), if_neg (by omega)]
    rfl
  · rename_i small
    rw [if_pos (by omega)]
    rfl

/-- The message of a mode is one field. -/
lemma clashModeRequest_encoded (short : mode.length ≤ 255) :
    Field.Encoded ⟨3, .bytes mode⟩ (clashModeRequest mode) := by
  have length := @putVarint_length mode.length (by omega)
  have number : (putVarint mode.length).length ≤ 10 := by
    rw [length]
    split <;> omega
  exact Field.encoded_of_key_lt (show 26 < 128 by decide)
    (.bytes (putVarint_varint _) number (by omega))

/-- The length of the message. -/
lemma clashModeRequest_length (short : mode.length ≤ 255) :
    (clashModeRequest mode).length = mode.length + if mode.length < 128 then 2 else 3 := by
  have length := @putVarint_length mode.length (by omega)
  rw [clashModeRequest, List.length_cons, List.length_append, length]
  split <;> omega

/-- The mode is read back from its frame. -/
lemma parseStringField_clashModeRequest (short : mode.length ≤ 255) :
    parseStringField (dataFrame (clashModeRequest mode)) 3 256 = some mode := by
  have length := clashModeRequest_length short
  have small : (clashModeRequest mode).length < 2 ^ 32 - 5 := by
    rw [length]
    split <;> omega
  have framed := @frameMessage_dataFrame _ [] small
  rw [List.append_nil] at framed
  have read := @readField_encoded _ _ [] (clashModeRequest_encoded short)
  obtain ⟨byte, tail, whole⟩ : ∃ byte tail, clashModeRequest mode = byte :: tail := ⟨_, _, rfl⟩
  rw [parseStringField, if_neg (by decide), framed, Option.bind_some, whole, List.length_cons, findString,
    ← whole, ← List.append_nil (clashModeRequest mode), read]
  show (if (3 : UInt32) = 3 then some (mode.take 255) else _) = _
  rw [if_pos rfl, List.take_of_length_le short]

/-- A number has no more digits than its bound. -/
lemma decimal_length {e : Nat} (pos : 0 < e) (lt : n < 10 ^ e) : (decimal n).length ≤ e := by
  have short : n.repr.length ≤ e := (Nat.length_repr_le_iff pos).mpr lt
  rw [decimal, ascii, List.length_map]
  exact short

/-- A port has ten digits at most. -/
lemma portOf_lt (ctx : Option SingboxApiCtx) : portOf ctx < 10 ^ 10 := by
  cases ctx with
  | none => decide
  | some ctx =>
    rw [portOf]
    split
    · have lt := ctx.port.toInt_lt
      omega
    · decide

/-- A host name fits into its field. -/
lemma hostOf_length (ctx : Option SingboxApiCtx) : (hostOf ctx).length < 64 := by
  cases ctx with
  | none => decide
  | some ctx =>
    rw [hostOf]
    split
    · exact ctx.hostSize
    · decide

/-- So does the secret. -/
lemma authorization_length (ctx : Option SingboxApiCtx) : (authorization ctx).length ≤ 151 := by
  cases ctx with
  | none => exact Nat.zero_le _
  | some ctx =>
    have secret := ctx.secretSize
    have text : (ascii "Authorization: Bearer ").length + crlf.length = 24 := by decide
    rw [authorization]
    split
    · simp only [List.length_append]
      omega
    · exact Nat.zero_le _

/-- The longest header still fits into `req`. -/
lemma requestHeader_length (ctx : Option SingboxApiCtx) (few : n < 1000) :
    (requestHeader ctx setClashModePath n).length < headerSize := by
  have number := decimal_length (by decide : 0 < 3) few
  have port := decimal_length (by decide) (portOf_lt ctx)
  have host := hostOf_length ctx
  have bearer := authorization_length ctx
  have texts : (ascii "POST ").length + setClashModePath.length +
      (ascii " HTTP/1.1\r\nHost: ").length + (ascii ":").length +
      (ascii "\r\nContent-Type: application/grpc-web+proto\r\nX-Grpc-Web: 1\r\n").length +
      (ascii "Accept: application/grpc-web+proto\r\n").length + (ascii "Content-Length: ").length +
      crlf.length + (ascii "User-Agent: ATPd-Native/2.0\r\n").length +
      (ascii "Connection: close\r\n\r\n").length ≤ 300 := by decide
  simp only [requestHeader, headerBefore, headerAfter, List.length_append, headerSize]
  omega

/-- The frame for a mode. -/
def clashModeFrame (mode : Bytes) : Bytes := dataFrame (clashModeRequest mode)

/-- For every mode of 1 to 255 bytes, and a connected socket that takes all bytes: the header, with the
length of the frame in it, and then the whole frame are sent, the frame announces the length of its message,
and the mode can be read back from it; exactly if the mode has no more than 253 bytes. -/
theorem set_clash_mode_sent_iff (ctx : Option SingboxApiCtx) (mode : Bytes) (sends : List SendResult)
    (segs : List Bytes) (result : UnaryResult) (nonempty : mode ≠ []) (short : mode.length ≤ 255)
    (reliable : Reliable sends)
    (call : singboxApiSetClashMode ctx mode true sends segs = some result) :
    (result.wire = requestHeader ctx setClashModePath (clashModeFrame mode).length ++ clashModeFrame mode ∧
      frameMessage (clashModeFrame mode) = some (clashModeRequest mode) ∧
      parseStringField (clashModeFrame mode) 3 256 = some mode) ↔
    mode.length ≤ 253 := by
  have length := clashModeRequest_length short
  have framed : (clashModeFrame mode).length = (clashModeRequest mode).length + 5 := by
    simp only [clashModeFrame, dataFrame, flaggedFrame, lengthBytes, List.length_cons, List.length_append,
      List.length_nil]
    omega
  -- so the length fits into the header, and the frame announces it
  have small : (clashModeRequest mode).length < 1000 - 5 := by
    rw [length]
    split <;> omega
  have parsed := parseStringField_clashModeRequest short
  have announced := @frameMessage_dataFrame (clashModeRequest mode) [] (by omega)
  rw [List.append_nil] at announced
  rw [and_iff_left ⟨announced, parsed⟩, framed]
  rw [singboxApiSetClashMode, if_neg (by simp [nonempty, short]), grpcWebUnaryCall,
    if_neg (by simp; omega)] at call
  have fits := requestHeader_length ctx (show (clashModeRequest mode).length + 5 < 1000 by omega)
  dsimp only at call
  rw [if_neg (Nat.not_le.mpr fits)] at call
  split at call
  · cases call
  · rename_i unsent rest sent
    obtain ⟨rfl, reliable⟩ := sendLoop_reliable reliable sent
    rw [List.length_nil, Nat.sub_zero, List.take_length] at call
    split at call
    · -- the frame does not fit into the buffer of 256 bytes: the header was sent, and nothing else
      rename_i large
      cases call
      refine iff_of_false (fun whole => ?_) ?_
      · -- the lengths differ already
        have same := congrArg List.length whole
        rw [List.length_append, framed] at same
        dsimp only at same
        omega
      · intro fine
        rw [length] at large
        split at large <;> omega
    · rename_i little
      rw [if_pos rfl] at call
      split at call
      · cases call
      · rename_i unsent rest sent
        obtain ⟨rfl, -⟩ := sendLoop_reliable reliable sent
        rw [if_pos rfl, List.length_nil, Nat.sub_zero, List.take_length] at call
        cases call
        refine iff_of_true rfl ?_
        rw [length] at little
        split at little <;> omega

/-- A mode of 254 bytes is accepted, and the header with the length of its frame is sent; the frame is
not. -/
theorem long_mode_not_sent :
    singboxApiSetClashMode none (List.replicate 254 97) true [.took 237] [] =
      some ⟨requestHeader none setClashModePath 262, none⟩ := by
  have size : (List.replicate 254 (97 : UInt8)).length = 254 := List.length_replicate
  generalize List.replicate 254 (97 : UInt8) = mode at size
  have accepted : ¬(mode = [] ∨ 255 < mode.length) := by
    rw [← List.length_eq_zero_iff, size]
    decide
  have length : (clashModeRequest mode).length = 257 := by
    rw [clashModeRequest_length (by omega), size]
    rfl
  have sent : sendLoop [.took 237] (requestHeader none setClashModePath 262) = some ([], []) := by
    decide +kernel
  have fits := Nat.not_le.mpr (requestHeader_length none (by decide : 262 < 1000))
  rw [singboxApiSetClashMode, if_neg accepted, grpcWebUnaryCall, length, if_neg (by decide), if_neg fits,
    sent]
  dsimp only
  rw [if_pos (by decide), List.length_nil, Nat.sub_zero, List.take_length]

/-- The request for `Rule` is sent whole. -/
theorem set_clash_mode_sent_iff_rule : ∃ result,
    singboxApiSetClashMode none (ascii "Rule") true [.took 100, .eintr, .took 136, .took 11] [] =
      some result ∧
    result.wire = requestHeader none setClashModePath (clashModeFrame (ascii "Rule")).length ++
      clashModeFrame (ascii "Rule") ∧
    parseStringField (clashModeFrame (ascii "Rule")) 3 256 = some (ascii "Rule") := by
  have request : clashModeRequest (ascii "Rule") = [26, 4, 82, 117, 108, 101] := by
    rw [clashModeRequest, putVarint, if_neg (by decide)]
    decide
  have call : singboxApiSetClashMode none (ascii "Rule") true
      [.took 100, .eintr, .took 136, .took 11] [] =
      some ⟨requestHeader none setClashModePath 11 ++ dataFrame [26, 4, 82, 117, 108, 101], none⟩ := by
    rw [singboxApiSetClashMode, request]
    decide +kernel
  obtain ⟨wire, -, parsed⟩ := (set_clash_mode_sent_iff none (ascii "Rule") _ [] _ (by decide) (by decide)
    (by decide) call).mpr (by decide)
  exact ⟨_, call, wire, parsed⟩

end Atpd.Api.Unary
