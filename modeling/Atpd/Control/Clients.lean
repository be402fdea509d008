import Atpd.Lib.Chain
import Atpd.Reactor.Table
import Atpd.Control.Command

/-!
# Clients of the control socket

The callbacks of `src/uds.c` that serve the clients of the control socket, and the part of `uds_cleanup`
that ends them. The clients are nodes in memory: `heap c` is the client `c`, or `none` if it was freed,
and an address is not used twice. Reading or writing a client that was freed is the fault `freed`, and a
loop over the list that does not end is the fault `endless`. A callback is given the results of the
functions it calls as a script; a script that these functions cannot produce, or that ends before the
callback returns, is the fault `script`, and says nothing about the code.

The reactor has a handler for a descriptor or none; a handler of a client holds the client, and frees
it with `uds_client_free` when it is removed. `closed`, `freed` and `conn` are history. The states of the
daemon and of its sessions, which a stop changes too, are not part of the table.
-/

namespace Atpd.Control.Clients

open Atpd.Lib
open Atpd.Reactor (reactorMaxFd)

/-- `UDS_MAX_CLIENTS`. -/
def udsMaxClients : Nat := 32

/-- `UDS_IDLE_TIMEOUT_MS`. -/
def udsIdleTimeoutMs : UInt64 := 5000

inductive Fault where
  | freed
  | endless
  | script
deriving DecidableEq, Repr

/-- Why a client was closed. -/
inductive Cause where
  /-- All that was queued for it is sent. -/
  | answered
  /-- It has sent no line, and sends no more. -/
  | eof
  /-- The connection, or a function that deals with it, has failed. -/
  | failed
  | idle
  | cleanup
deriving DecidableEq, Repr

/-- What went over a connection: the bytes read from it, the bytes sent, and the requests that were
answered, with what the handler got from elsewhere. -/
structure Conn where
  received : List UInt8
  sent : List UInt8
  handled : List (Request × Env)
  closedBy : Option Cause

def Conn.new : Conn := ⟨[], [], [], none⟩

/-- The globals of `uds.c` that deal with the clients, and the memory. -/
structure Globals where
  heap : Nat → Option UdsClient
  made : Nat
  clients : Option Nat
  activeClients : Nat
  reactor : Bool
  /-- `g_uds_fd` is registered with the reactor. -/
  listening : Bool
  handlers : Nat → Option Nat
  isOpen : Nat → Bool
  stopRequested : Bool
  shutdownRequested : Bool
  closed : List Nat
  freed : List Nat
  conn : Nat → Conn

/-- After `uds_init`. -/
def Globals.start : Globals where
  heap := fun _ => none
  made := 0
  clients := none
  activeClients := 0
  reactor := true
  listening := true
  handlers := fun _ => none
  isOpen := fun _ => false
  stopRequested := false
  shutdownRequested := false
  closed := []
  freed := []
  conn := fun _ => .new

namespace Globals

/-- `*client`. -/
def deref (g : Globals) (c : Nat) : Except Fault UdsClient :=
  match g.heap c with
  | some client => .ok client
  | none => .error .freed

/-- `client->..`, as the pointers of the list. -/
def nexts (g : Globals) (c : Nat) : Option (Option Nat) := (g.heap c).map UdsClient.next

/-- A client is written. -/
def modify (g : Globals) (c : Nat) (f : UdsClient → UdsClient) : Except Fault Globals := do
  let client ← g.deref c
  .ok { g with heap := Function.update g.heap c (some (f client)) }

def log (g : Globals) (c : Nat) (f : Conn → Conn) : Globals :=
  { g with conn := Function.update g.conn c (f (g.conn c)) }

/-- `*link = client->next`, and the counter. -/
def unlink (g : Globals) (slot : Slot Nat) (c : Nat) : Except Fault Globals := do
  let client ← g.deref c
  let g ←
    match slot with
    | .head => .ok { g with clients := client.next }
    | .next p => g.modify p fun before => { before with next := client.next }
  .ok { g with activeClients := g.activeClients - 1 }

end Globals

/-! ## Closing -/

/-- `uds_client_free`. -/
def udsClientFree (g : Globals) (c : Nat) : Except Fault Globals :=
  match seek g.nexts c (g.made + 1) .head g.clients with
  | .freed => .error .freed
  | .endless => .error .endless
  | .found slot ptr => do
    let g ← if ptr = some c then g.unlink slot c else .ok g
    let client ← g.deref c
    .ok { g with
      isOpen := Function.update g.isOpen client.fd false
      closed := c :: g.closed
      heap := Function.update g.heap c none
      freed := c :: g.freed }

/-- `reactor_remove_fd`. -/
def reactorRemoveFd (g : Globals) (fd : Nat) : Except Fault Globals :=
  if reactorMaxFd ≤ fd then .ok g
  else
    match g.handlers fd with
    | none => .ok g
    | some c => do
      let g ← udsClientFree g c
      .ok { g with handlers := Function.update g.handlers fd none }

/-- `reactor_modify_fd`: whether it works; `ok` is the outcome of `epoll_ctl`. -/
def reactorModifyFd (g : Globals) (fd : Nat) (ok : Bool) : Bool :=
  decide (fd < reactorMaxFd) && (g.handlers fd).isSome && ok

/-- `uds_client_close`; `r` says that there is a reactor. -/
def udsClientClose (g : Globals) (r : Bool) (c : Nat) (cause : Cause) : Except Fault Globals := do
  let client ← g.deref c
  if r then reactorRemoveFd (g.log c fun conn => { conn with closedBy := some cause }) client.fd
  else .ok g

/-! ## Writing -/

/-- What `send` returns. -/
inductive Sent where
  | sent (n : Nat) (now : UInt64)
  | zero
  | eintr
  /-- `modifyOk` is the outcome of the `epoll_ctl` that follows. -/
  | eagain (modifyOk : Bool)
  /-- Any other error. -/
  | failed
deriving DecidableEq, Repr

/-- `n` bytes were sent. -/
def Globals.send (g : Globals) (c : Nat) (n : Nat) (now : UInt64) : Except Fault Globals := do
  let client ← g.deref c
  let bytes := (client.output.drop client.outputOff).take n
  let g := g.log c fun conn => { conn with sent := conn.sent ++ bytes }
  g.modify c fun client =>
    { client with outputOff := client.outputOff + n, lastActivityMs := now }

/-- `uds_client_flush` behind its loop. -/
def flushDone (g : Globals) (c : Nat) : Except Fault (Globals × Int) := do
  let client ← g.deref c
  let g :=
    if client.stopAfterWrite then { g with stopRequested := true, shutdownRequested := true } else g
  let g ← udsClientClose g true c .answered
  .ok (g, 1)

/-- The exits of `uds_client_flush` that give up. -/
def flushFailed (g : Globals) (c : Nat) : Except Fault (Globals × Int) := do
  let g ← udsClientClose g true c .failed
  .ok (g, -1)

/-- `uds_client_flush`. -/
def udsClientFlush (c : Nat) : List Sent → Globals → Except Fault (Globals × Int)
  | [], g => do
    let client ← g.deref c
    if client.outputOff < client.output.length then .error .script else flushDone g c
  | s :: sends, g => do
    let client ← g.deref c
    if client.outputOff < client.output.length then
      match s with
      | .sent n now =>
        if 0 < n ∧ n ≤ client.output.length - client.outputOff then do
          let g ← g.send c n now
          udsClientFlush c sends g
        else .error .script
      | .eintr => udsClientFlush c sends g
      | .eagain modifyOk =>
        if reactorModifyFd g client.fd modifyOk then .ok (g, 0) else flushFailed g c
      | .zero | .failed => flushFailed g c
    else flushDone g c

/-! ## Reading -/

/-- What `read` returns. -/
inductive Read where
  | got (bytes : List UInt8) (now : UInt64)
  | eof
  | eintr
  | eagain
  /-- Any other error. -/
  | failed
deriving DecidableEq, Repr

/-- The events of a callback. -/
structure Events where
  read : Bool
  write : Bool
  error : Bool
  hangup : Bool
deriving DecidableEq, Repr

/-- The results of the functions that a callback calls. -/
structure Script where
  reads : List Read
  env : Env
  modifyOk : Bool
  sends : List Sent

/-- Bytes were read. -/
def Globals.receive (g : Globals) (c : Nat) (bytes : List UInt8) (now : UInt64) :
    Except Fault Globals :=
  (g.log c fun conn => { conn with received := conn.received ++ bytes }).modify c fun client =>
    { client with input := client.input ++ bytes, lastActivityMs := now }

/-- `process_command`, and `client->state = UDS_CLIENT_WRITING`. -/
def Globals.answer (g : Globals) (c : Nat) (env : Env) (cmd : List UInt8) : Except Fault Globals :=
  let handled := (parseCommand cmd).toList.map fun r => (r, env)
  (g.log c fun conn => { conn with handled := conn.handled ++ handled }).modify c fun client =>
    { processCommand env client cmd with state := .writing }

/-- The command does not fit into the buffer. -/
def Globals.refuse (g : Globals) (c : Nat) (env : Env) : Except Fault Globals :=
  (g.log c fun conn => { conn with handled := conn.handled ++ [(.tooLong, env)] }).modify c fun client =>
    { clientQueueString client "ERROR: command too long\n" env.alloc with state := .writing }

/-- `uds_client_cb` behind its loop. -/
def afterLoop (g : Globals) (c fd : Nat) (script : Script) : Except Fault Globals := do
  let client ← g.deref c
  if newline ∈ client.input then
    let g ← g.answer c script.env (client.input.takeWhile (· ≠ newline))
    if reactorModifyFd g fd script.modifyOk then
      let (g, _) ← udsClientFlush c script.sends g
      .ok g
    else udsClientClose g true c .failed
  else .ok g

/-- The loop of `uds_client_cb`. -/
def readLoop (c fd : Nat) (script : Script) : List Read → Globals → Except Fault Globals
  | [], _ => .error .script
  | .got bytes now :: reads, g => do
    let client ← g.deref c
    if bytes ≠ [] ∧ bytes.length ≤ udsBufferSize - client.input.length - 1 then
      let g ← g.receive c bytes now
      let client ← g.deref c
      if newline ∈ client.input then afterLoop g c fd script
      else if client.input.length = udsBufferSize - 1 then
        let g ← g.refuse c script.env
        if reactorModifyFd g fd script.modifyOk then .ok g else udsClientClose g true c .failed
      else readLoop c fd script reads g
    else .error .script
  | .eof :: _, g => do
    let client ← g.deref c
    if newline ∈ client.input then
      let g ← g.answer c script.env client.input
      let (g, _) ← udsClientFlush c script.sends g
      .ok g
    else udsClientClose g true c .eof
  | .eintr :: reads, g => readLoop c fd script reads g
  | .eagain :: _, g => afterLoop g c fd script
  | .failed :: _, g => udsClientClose g true c .failed

/-- `uds_client_cb`. -/
def udsClientCb (g : Globals) (fd : Nat) (events : Events) (c : Nat) (script : Script) :
    Except Fault Globals := do
  let client ← g.deref c
  if client.fd ≠ fd then .ok g
  else if (events.error || events.hangup) && !events.read then udsClientClose g true c .failed
  else if client.state = .writing then
    if events.write then
      let (g, _) ← udsClientFlush c script.sends g
      .ok g
    else if events.error || events.hangup then udsClientClose g true c .failed
    else .ok g
  else if !events.read then .ok g
  else readLoop c fd script script.reads g

/-! ## The other callbacks -/

/-- What `accept4` returns, with the outcomes of what follows. -/
inductive Accepted where
  | conn (fd : Nat) (uidOk alloc addOk : Bool) (now : UInt64)
  | failed
deriving DecidableEq, Repr

/-- `reactor_add_fd_ex`: whether it works; `ok` is the outcome of `malloc` and `epoll_ctl`. A handler
that was there is replaced, and frees its client. -/
def reactorAddFdEx (g : Globals) (fd c : Nat) (ok : Bool) : Except Fault (Globals × Bool) :=
  if fd < reactorMaxFd ∧ ok then
    match g.handlers fd with
    | none => .ok ({ g with handlers := Function.update g.handlers fd (some c) }, true)
    | some old => do
      let g ← udsClientFree { g with handlers := Function.update g.handlers fd (some c) } old
      .ok (g, true)
  else .ok (g, false)

/-- The new client of `uds_accept_cb`, in front of the list. -/
def Globals.push (g : Globals) (fd : Nat) (now : UInt64) : Globals :=
  let client : UdsClient :=
    { fd := fd, state := .reading, input := [], output := [], outputOff := 0, lastActivityMs := now,
      stopAfterWrite := false, next := g.clients }
  { g with
    heap := Function.update g.heap g.made (some client)
    made := g.made + 1
    clients := some g.made
    activeClients := g.activeClients + 1
    isOpen := Function.update g.isOpen fd true }

/-- `uds_accept_cb` for a connection. -/
def acceptOne (g : Globals) (fd : Nat) (uidOk alloc addOk : Bool) (now : UInt64) :
    Except Fault Globals :=
  -- a descriptor that is closed again leaves nothing behind
  if uidOk = false ∨ udsMaxClients ≤ g.activeClients then .ok g
  else if alloc = false then .ok g
  else do
    let client := g.made
    let g := g.push fd now
    let (g, added) ← reactorAddFdEx g fd client addOk
    if added then .ok g
    else udsClientFree (g.log client fun conn => { conn with closedBy := some .failed }) client

/-- The loop of `uds_accept_cb`. -/
def udsAcceptCb : List Accepted → Globals → Except Fault Globals
  | [], _ => .error .script
  | .failed :: _, g => .ok g
  | .conn fd uidOk alloc addOk now :: results, g =>
    -- the kernel gives out a descriptor that is not open
    if g.isOpen fd then .error .script
    else do
      let g ← acceptOne g fd uidOk alloc addOk now
      udsAcceptCb results g

/-- The loop of `uds_idle_timer_cb`. -/
def idleScan (now : UInt64) : Nat → Option Nat → Globals → Except Fault Globals
  | _, none, g => .ok g
  | 0, some _, _ => .error .endless
  | fuel + 1, some c, g => do
    let client ← g.deref c
    let next := client.next
    let g ← if udsIdleTimeoutMs ≤ now - client.lastActivityMs then udsClientClose g true c .idle else .ok g
    idleScan now fuel next g

/-- `uds_idle_timer_cb`. -/
def udsIdleTimerCb (g : Globals) (now : UInt64) : Except Fault Globals :=
  idleScan now g.made g.clients g

/-- `while (g_uds_clients) uds_client_close(g_uds_reactor, g_uds_clients)`. -/
def closeAll (fuel : Nat) (g : Globals) : Except Fault Globals :=
  match g.clients, fuel with
  | none, _ => .ok g
  | some _, 0 => .error .endless
  | some c, fuel + 1 => do
    let g ← udsClientClose g g.reactor c .cleanup
    closeAll fuel g

/-- `uds_cleanup`, less the path. -/
def udsCleanup (g : Globals) : Except Fault Globals := do
  let g ← closeAll g.made g
  .ok { g with listening := false, reactor := false, stopRequested := false }

/-- A call of the reactor, or of the daemon. -/
inductive Label where
  | accept (readable : Bool) (results : List Accepted)
  | client (fd : Nat) (events : Events) (script : Script)
  | idle (now : UInt64)
  | cleanup

def exec (g : Globals) : Label → Except Fault Globals
  | .accept readable results =>
    if g.listening then if readable then udsAcceptCb results g else .ok g else .error .script
  | .client fd events script =>
    match g.handlers fd with
    | some c => udsClientCb g fd events c script
    | none => .error .script
  | .idle now => udsIdleTimerCb g now
  | .cleanup => udsCleanup g

/-- A call that returns. -/
def step (g : Globals) (l : Label) : Option Globals := (exec g l).toOption

end Atpd.Control.Clients
