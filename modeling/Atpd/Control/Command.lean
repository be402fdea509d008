import Mathlib.Data.List.DropRight
import Mathlib.Tactic.Common

/-!
# Commands of the control socket

`process_command` of `src/uds.c` and the handlers it calls. A command is a line of bytes; the function
looks at it with the functions for C strings, so a NUL ends it, too. A handler queues its reply in the
`output` of the client. What a handler asks the rest of the daemon is in an `Env`, with the outcomes of
the allocations.
-/

namespace Atpd.Control.Clients

/-- `UDS_BUFFER_SIZE`. -/
def udsBufferSize : Nat := 4096

/-- `UDS_RESPONSE_SIZE`. -/
def udsResponseSize : Nat := 8192

/-- `UDS_MAX_RESPONSE_SIZE`. -/
def udsMaxResponseSize : Nat := 64 * 1024

/-- The bytes of a text in ASCII. -/
def ascii (text : String) : List UInt8 := text.toList.map fun ch => UInt8.ofNat ch.toNat

def newline : UInt8 := 10

def carriageReturn : UInt8 := 13

/-- `uds_client_state_t`. -/
inductive ClientState where
  | reading
  | writing
deriving DecidableEq, Repr

/-- `uds_client_t`; `input` and `output` are the first `input_len` and `output_len` bytes of the two
buffers. -/
structure UdsClient where
  fd : Nat
  state : ClientState
  input : List UInt8
  output : List UInt8
  outputOff : Nat
  lastActivityMs : UInt64
  stopAfterWrite : Bool
  next : Option Nat
deriving DecidableEq, Repr

/-- What a handler gets from elsewhere: whether `open_memstream` and the calls of `malloc` work, and
what the daemon has to report. -/
structure Env where
  memstream : Bool
  alloc : Bool
  allocAgain : Bool
  /-- The rendered status for a width; empty if no snapshot could be collected. -/
  status : Int → List UInt8
  statusSummary : List UInt8
  activeSessions : Int
  fullVersion : List UInt8
  commit : List UInt8
  /-- `events_processed`, `timers_fired` and `signals_received`, if there are statistics. -/
  stats : Option (UInt64 × UInt64 × UInt64)
  errors : UInt64

/-! ## Responses -/

/-- `append_response`, on what is in the buffer; `none` says that the offset is at its end. -/
def appendResponse (size : Nat) (response : Option (List UInt8)) (text : List UInt8) :
    Option (List UInt8) :=
  match response with
  | none => none
  | some before => if size - before.length ≤ text.length then none else some (before ++ text)

/-- `client_queue_response`. Nothing is queued twice, so the buffer is empty and the allocation is that
of `malloc`. -/
def clientQueueResponse (client : UdsClient) (data : List UInt8) (alloc : Bool) : UdsClient × Bool :=
  if data.length = 0 ∨ udsMaxResponseSize < client.output.length ∨
      udsMaxResponseSize - client.output.length < data.length then (client, false)
  else if alloc then ({ client with output := client.output ++ data }, true)
  else (client, false)

/-- `client_queue_string`. -/
def clientQueueString (client : UdsClient) (text : String) (alloc : Bool) : UdsClient :=
  (clientQueueResponse client (ascii text) alloc).1

/-- The end of the handlers that build their response in a buffer. -/
def queueBuilt (client : UdsClient) (response : Option (List UInt8)) (alloc : Bool) : UdsClient :=
  match response with
  | none => clientQueueString client "ERROR: response too large\n" alloc
  | some data => (clientQueueResponse client data alloc).1

/-! ## Handlers -/

/-- What a line asks for. -/
inductive Request where
  | tooLong
  | status (width : Int)
  | invalidWidth
  | statusSummary
  | stop
  | ping
  | sessions
  | version
  | stats
  | help
  | unknown
deriving DecidableEq, Repr

/-- `handle_status`, with the text that is rendered. -/
def handleStatus (env : Env) (client : UdsClient) (text : List UInt8) : UdsClient :=
  if env.memstream then
    if 0 < text.length then
      match clientQueueResponse client text env.alloc with
      | (client, true) => client
      | (client, false) => clientQueueString client "ERROR: response too large\n" env.allocAgain
    else client
  else clientQueueString client "ERROR: failed to generate status\n" env.alloc

/-- `handle_stop`. -/
def handleStop (env : Env) (client : UdsClient) : UdsClient :=
  { clientQueueString client "Stopping ATPd...\n" env.alloc with stopAfterWrite := true }

/-- `handle_ping`. -/
def handlePing (env : Env) (client : UdsClient) : UdsClient :=
  clientQueueString client "pong\n" env.alloc

/-- `handle_sessions`. -/
def handleSessions (env : Env) (client : UdsClient) : UdsClient :=
  let response := appendResponse udsResponseSize (some [])
    (ascii "Active Sessions: " ++ ascii (toString env.activeSessions) ++ ascii "\n")
  queueBuilt client response env.alloc

/-- `handle_version`. -/
def handleVersion (env : Env) (client : UdsClient) : UdsClient :=
  let response := appendResponse udsResponseSize (some [])
    (ascii "ATPd Version: " ++ env.fullVersion ++ ascii "\n")
  let response := appendResponse udsResponseSize response
    (ascii "Git Commit: " ++ env.commit ++ ascii "\n")
  queueBuilt client response env.alloc

/-- `handle_stats`. -/
def handleStats (env : Env) (client : UdsClient) : UdsClient :=
  let line (label : String) (value : UInt64) : List UInt8 :=
    ascii label ++ ascii (toString value.toNat) ++ ascii "\n"
  let (events, timers, signals) := env.stats.getD (0, 0, 0)
  let response := appendResponse udsResponseSize (some []) (ascii "=== Statistics ===\n")
  let response := appendResponse udsResponseSize response (line "Events Processed: " events)
  let response := appendResponse udsResponseSize response (line "Timers Fired: " timers)
  let response := appendResponse udsResponseSize response (line "Signals Received: " signals)
  let response := appendResponse udsResponseSize response (line "Errors: " env.errors)
  queueBuilt client response env.alloc

/-- `handle_help`. -/
def handleHelp (env : Env) (client : UdsClient) : UdsClient :=
  clientQueueString client
    ("Available commands:\n" ++
      "  status          - Show runtime status\n" ++
      "  status-summary  - Show concise runtime status\n" ++
      "  stop            - Shutdown ATPd\n" ++
      "  ping      - Check if ATPd is alive\n" ++
      "  sessions  - Show active sessions\n" ++
      "  version   - Show version information\n" ++
      "  stats     - Show statistics\n" ++
      "  help      - Show this help\n") env.alloc

/-- The branches of `process_command`. -/
def handle (env : Env) (client : UdsClient) : Request → UdsClient
  | .tooLong => clientQueueString client "ERROR: command too long\n" env.alloc
  | .status width => handleStatus env client (env.status width)
  | .invalidWidth => clientQueueString client "ERROR: invalid status width\n" env.alloc
  | .statusSummary => handleStatus env client env.statusSummary
  | .stop => handleStop env client
  | .ping => handlePing env client
  | .sessions => handleSessions env client
  | .version => handleVersion env client
  | .stats => handleStats env client
  | .help => handleHelp env client
  | .unknown =>
    clientQueueString client "Unknown command. Type 'help' for available commands.\n" env.alloc

/-! ## Parsing -/

/-- `isspace`. -/
def isSpace (b : UInt8) : Bool := b = 32 || (9 ≤ b && b ≤ 13)

/-- `isdigit`. -/
def isDigit (b : UInt8) : Bool := 48 ≤ b && b ≤ 57

/-- `strtol(s, &endptr, 10)`, with the text at `endptr`. A value out of the range of `long` is not
clamped; it is out of every range that is asked for. -/
def strtol (s : List UInt8) : Int × List UInt8 :=
  let t := s.dropWhile isSpace
  let (negative, t) :=
    match t with
    | 45 :: t => (true, t)
    | 43 :: t => (false, t)
    | t => (false, t)
  let digits := t.takeWhile isDigit
  let value : Nat := digits.foldl (fun acc b => 10 * acc + (b.toNat - 48)) 0
  if digits = [] then (0, s) else (if negative then -value else value, t.dropWhile isDigit)

/-- What `process_command` makes of its copy of the command: it ends at a NUL, at a newline and at a
carriage return, and has no blanks at its end. -/
def commandText (cmd : List UInt8) : List UInt8 :=
  let buf := cmd.takeWhile (· ≠ 0)
  let buf := buf.takeWhile (· ≠ newline)
  let buf := buf.takeWhile (· ≠ carriageReturn)
  buf.rdropWhile fun b => b = 32 || b = 9

/-- The comparisons of `process_command`. -/
def request (buf : List UInt8) : Request :=
  if buf = ascii "status" then .status 0
  else if ascii "status " <+: buf then
    let (width, rest) := strtol (buf.drop 7)
    if rest ≠ [] ∨ width < 30 ∨ 200 < width then .invalidWidth else .status width
  else if buf = ascii "status-summary" then .statusSummary
  else if buf = ascii "stop" then .stop
  else if buf = ascii "ping" then .ping
  else if buf = ascii "sessions" then .sessions
  else if buf = ascii "version" then .version
  else if buf = ascii "stats" then .stats
  else if buf = ascii "help" ∨ buf = ascii "?" then .help
  else .unknown

/-- What `process_command` does with a command; `none` if it returns before that. -/
def parseCommand (cmd : List UInt8) : Option Request :=
  if cmd.length = 0 then none
  else if udsBufferSize - 1 ≤ cmd.length then some .tooLong
  else if commandText cmd = [] then none
  else some (request (commandText cmd))

/-- `process_command`. -/
def processCommand (env : Env) (client : UdsClient) (cmd : List UInt8) : UdsClient :=
  match parseCommand cmd with
  | none => client
  | some r => handle env client r

example : parseCommand (ascii "status 80 \r") = some (.status 80) ∧
    parseCommand (ascii "status 8o") = some .invalidWidth ∧ parseCommand (ascii " \t") = none := by
  decide

/-! ## Replies -/

/-- A client to which nothing was said yet. -/
def UdsClient.blank : UdsClient := ⟨0, .reading, [], [], 0, 0, false, none⟩

/-- The reply of a handler. -/
def reply (env : Env) (r : Request) : List UInt8 := (handle env .blank r).output

/-- What is queued depends on what is queued already, and nothing else of the client changes. -/
lemma clientQueueResponse_uniform (before data : List UInt8) (alloc : Bool) :
    ∃ out ok, ∀ x : UdsClient, x.output = before →
      clientQueueResponse x data alloc = ({ x with output := out }, ok) := by
  by_cases bad : data.length = 0 ∨ udsMaxResponseSize < before.length ∨
      udsMaxResponseSize - before.length < data.length
  · refine ⟨before, false, fun x eq => ?_⟩
    subst eq
    rw [clientQueueResponse, if_pos bad]
  · cases alloc with
    | true =>
      refine ⟨before ++ data, true, fun x eq => ?_⟩
      subst eq
      rw [clientQueueResponse, if_neg bad, if_pos rfl]
    | false =>
      refine ⟨before, false, fun x eq => ?_⟩
      subst eq
      rw [clientQueueResponse, if_neg bad]
      rfl

/-- What is queued depends on the output only, not on the rest of the client. -/
lemma clientQueueString_uniform (before : List UInt8) (text : String) (alloc : Bool) :
    ∃ out, ∀ x : UdsClient, x.output = before →
      clientQueueString x text alloc = { x with output := out } := by
  obtain ⟨out, ok, queued⟩ := clientQueueResponse_uniform before (ascii text) alloc
  exact ⟨out, fun x eq => by rw [clientQueueString, queued x eq]⟩

/-- The same for a reply that was built, or could not be. -/
lemma queueBuilt_uniform (before : List UInt8) (response : Option (List UInt8)) (alloc : Bool) :
    ∃ out, ∀ x : UdsClient, x.output = before →
      queueBuilt x response alloc = { x with output := out } := by
  cases response with
  | none => exact clientQueueString_uniform before _ alloc
  | some data =>
    obtain ⟨out, ok, queued⟩ := clientQueueResponse_uniform before data alloc
    exact ⟨out, fun x eq => by rw [queueBuilt, queued x eq]⟩

/-- The same for the reply to a status request. -/
lemma handleStatus_uniform (env : Env) (before text : List UInt8) :
    ∃ out, ∀ x : UdsClient, x.output = before → handleStatus env x text = { x with output := out } := by
  by_cases mem : env.memstream = true
  · by_cases some' : 0 < text.length
    · obtain ⟨out, ok, queued⟩ := clientQueueResponse_uniform before text env.alloc
      cases ok with
      | true => exact ⟨out, fun x eq => by rw [handleStatus, if_pos mem, if_pos some', queued x eq]⟩
      | false =>
        obtain ⟨out', again⟩ :=
          clientQueueString_uniform out "ERROR: response too large\n" env.allocAgain
        refine ⟨out', fun x eq => ?_⟩
        rw [handleStatus, if_pos mem, if_pos some', queued x eq]
        exact again { x with output := out } rfl
    · refine ⟨before, fun x eq => ?_⟩
      subst eq
      rw [handleStatus, if_pos mem, if_neg some']
  · obtain ⟨out, queued⟩ :=
      clientQueueString_uniform before "ERROR: failed to generate status\n" env.alloc
    exact ⟨out, fun x eq => by rw [handleStatus, if_neg mem, queued x eq]⟩

/-- A handler writes its reply, and `handle_stop` one thing more. -/
lemma handle_uniform (env : Env) (before : List UInt8) (r : Request) :
    ∃ out, ∀ x : UdsClient, x.output = before → handle env x r =
      { x with output := out, stopAfterWrite := x.stopAfterWrite || decide (r = .stop) } := by
  cases r with
  | status width =>
    obtain ⟨out, queued⟩ := handleStatus_uniform env before (env.status width)
    exact ⟨out, fun x eq => (queued x eq).trans (by simp)⟩
  | statusSummary =>
    obtain ⟨out, queued⟩ := handleStatus_uniform env before env.statusSummary
    exact ⟨out, fun x eq => (queued x eq).trans (by simp)⟩
  | stop =>
    obtain ⟨out, queued⟩ := clientQueueString_uniform before "Stopping ATPd...\n" env.alloc
    exact ⟨out, fun x eq => by rw [handle, handleStop, queued x eq]; simp⟩
  | sessions | version | stats =>
    obtain ⟨out, queued⟩ := queueBuilt_uniform before _ env.alloc
    exact ⟨out, fun x eq => (queued x eq).trans (by simp)⟩
  | tooLong | invalidWidth | ping | help | unknown =>
    obtain ⟨out, queued⟩ := clientQueueString_uniform before _ env.alloc
    exact ⟨out, fun x eq => (queued x eq).trans (by simp)⟩

/-- A handler of a client with nothing queued. -/
lemma handle_eq (env : Env) (x : UdsClient) (r : Request) (empty : x.output = []) : handle env x r =
    { x with output := reply env r, stopAfterWrite := x.stopAfterWrite || decide (r = .stop) } := by
  obtain ⟨out, uniform⟩ := handle_uniform env [] r
  have same : reply env r = out := by rw [reply, uniform .blank rfl]
  rw [same]
  exact uniform x empty

/-- Handling a command changes the output and the stop flag, nothing else of the client. -/
lemma processCommand_frame (env : Env) (x : UdsClient) (cmd : List UInt8) :
    ∃ out stop, processCommand env x cmd = { x with output := out, stopAfterWrite := stop } := by
  rw [processCommand]
  split
  · exact ⟨x.output, x.stopAfterWrite, rfl⟩
  · rename_i r _
    obtain ⟨out, uniform⟩ := handle_uniform env x.output r
    exact ⟨out, _, uniform x rfl⟩

end Atpd.Control.Clients
