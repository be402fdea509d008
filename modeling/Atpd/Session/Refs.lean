import Atpd.Session.Datapath

/-!
# Session references

The lifetime of sessions in `src/session.c`: who takes and drops references, the registry, the reactor
handlers of `src/reactor.c` that carry a session, and the GC queue.

A call that is under way is the list of what it still has to do. A `put` in that list is a reference
that the call holds, so the references of the calls in progress can be read off. Any number of calls
may be under way, and any of them may take the next step: calls that are nested, and calls of other
threads. What stands between two accesses to shared data is one step.

Somebody who holds a reference is a call, too: it has a `put` left to do, and may call functions on the
session before that. A callback may change the state and close the session as often as it likes, which
is more than the datapath does.
-/

namespace Atpd.Session.Refs

open Atpd.Lib

/-- `REACTOR_MAX_FD`. -/
def reactorMaxFd : Int := 1024

/-- `atpd_session_t`, as far as its lifetime goes. `destroyRuns` and `activated` are history: how often
`atpd_session_destroy_internal` has been called, and whether `atpd_session_register` has succeeded. -/
structure AtpdSession where
  fdIn : Int
  fdOut : Int
  pipeRead : Int
  pipeWrite : Int
  state : SessionState
  destroyStarted : Bool
  gcEnqueued : Bool
  emergencyDrained : Bool
  refCount : Nat
  reactor : Option Nat
  registryRegistered : Bool
  destroyRuns : Nat
  activated : Bool
deriving DecidableEq, Repr

/-- Memory that is not a session yet. -/
def AtpdSession.unborn : AtpdSession where
  fdIn := -1
  fdOut := -1
  pipeRead := -1
  pipeWrite := -1
  state := .idle
  destroyStarted := false
  gcEnqueued := false
  emergencyDrained := false
  refCount := 0
  reactor := none
  registryRegistered := false
  destroyRuns := 0
  activated := false

/-- `reactor_handler_t` of a session: `userdata` is the session, `free_cb` is `session_free_cb`. -/
structure Handler where
  reactor : Nat
  fd : Int
  session : Nat
deriving DecidableEq, Repr

/-- What a call has still to do. -/
inductive Op where
  /-- The creator puts the reference it got from `atpd_session_create`. -/
  | creatorPut (s : Nat)
  | put (s : Nat)
  /-- `atpd_session_mark_closing`; behind its `get`; and its parts. -/
  | markClosing (s : Nat)
  | closing (s : Nat)
  | registryRemove (s : Nat)
  | detach (s : Nat)
  /-- `reactor_remove_fd`, called for the session `s`. -/
  | removeFd (s reactor : Nat) (fd : Int)
  /-- `atpd_session_gc_enqueue`; behind its `get`. -/
  | gcEnqueue (s : Nat)
  | gcLink (s : Nat)
  /-- `atpd_session_register`; with the reference for the handler of `fd_in`; behind that; with the
  reference for the handler of `fd_out`; behind that. -/
  | register (s reactor : Nat)
  | addIn (s reactor : Nat)
  | getOut (s reactor : Nat)
  | addOut (s reactor : Nat)
  | activate (s : Nat)
  /-- In `session_in_cb` or `session_out_cb`, behind the `get`. -/
  | callback (s : Nat)
  | emergencyDrain (s : Nat)
  /-- `atpd_session_emergency_drain_all`: before its snapshot; one session of it. -/
  | snapshot (count : Nat)
  | drainOne (s : Nat)
deriving DecidableEq, Repr

/-- The sessions, by the order of their creation; the handlers; `g_gc_queue`; and the calls. -/
structure Pool where
  next : Nat
  sess : Nat → AtpdSession
  handlers : List Handler
  gc : List Nat
  calls : List (List Op)

def Pool.init : Pool := ⟨0, fun _ => .unborn, [], [], []⟩

/-- Changes one session. -/
def Pool.modify (p : Pool) (s : Nat) (f : AtpdSession → AtpdSession) : Pool :=
  { p with sess := fun t => if t = s then f (p.sess t) else p.sess t }

/-! ## References -/

/-- `safe_close`: the descriptor after it. -/
def safeClose (fd : Int) : Int := if 0 ≤ fd then -1 else fd

/-- `atpd_session_destroy_internal`; the memory that it frees stays readable here. -/
def destroyInternal (x : AtpdSession) : AtpdSession :=
  if x.destroyStarted then { x with destroyRuns := x.destroyRuns + 1 }
  else
    { x with
      destroyStarted := true
      state := .destroyed
      pipeRead := safeClose x.pipeRead
      pipeWrite := safeClose x.pipeWrite
      fdIn := safeClose x.fdIn
      fdOut := safeClose x.fdOut
      reactor := none
      destroyRuns := x.destroyRuns + 1 }

/-- `atpd_session_get`. -/
def atpdSessionGet (x : AtpdSession) : AtpdSession :=
  if x.refCount = 0 then x else { x with refCount := x.refCount + 1 }

/-- `atpd_session_put`. -/
def atpdSessionPut (x : AtpdSession) : AtpdSession :=
  if x.refCount = 0 then x
  else if x.refCount = 1 then destroyInternal { x with refCount := 0 }
  else { x with refCount := x.refCount - 1 }

def Pool.get (p : Pool) (s : Nat) : Pool := p.modify s atpdSessionGet

def Pool.put (p : Pool) (s : Nat) : Pool := p.modify s atpdSessionPut

/-- `session_set_state`. -/
def sessionSetState (x : AtpdSession) (desired : SessionState) : AtpdSession × Bool :=
  if x.state.isClosing && !desired.isClosing then (x, false) else ({ x with state := desired }, true)

/-- `atpd_session_mark_closing` has won the exchange of the state. -/
def toClosing (x : AtpdSession) : AtpdSession := { x with state := .closing }

/-- `session_registry_remove` has unlinked the session. -/
def unlink (x : AtpdSession) : AtpdSession := { x with registryRegistered := false }

/-- `atpd_session_gc_enqueue` has won the exchange of its flag. -/
def flagEnqueued (x : AtpdSession) : AtpdSession := { x with gcEnqueued := true }

/-- `atpd_session_register` has succeeded. -/
def toActive (x : AtpdSession) : AtpdSession := { (sessionSetState x .active).1 with activated := true }

/-- What `emergency_drain` does to the session before it marks it closing. -/
def drainPipes (x : AtpdSession) : AtpdSession :=
  { x with
    emergencyDrained := true
    pipeRead := safeClose x.pipeRead
    pipeWrite := safeClose x.pipeWrite }

/-! ## Handlers -/

/-- `priv->handlers[fd]`. -/
def Pool.handler (p : Pool) (reactor : Nat) (fd : Int) : Option Handler :=
  p.handlers.find? fun h => h.reactor == reactor && h.fd == fd

/-- `reactor_remove_fd`: `free_cb` puts the session that the handler carries. -/
def reactorRemoveFd (p : Pool) (reactor : Nat) (fd : Int) : Pool :=
  match p.handler reactor fd with
  | none => p
  | some h =>
    let p := p.put h.session
    { p with handlers := p.handlers.erase h }

/-- `reactor_add_fd_ex`; `ok` says whether the handler can be allocated and `epoll_ctl` works. A handler
that was there before is replaced, and its `free_cb` called. -/
def reactorAddFdEx (p : Pool) (reactor : Nat) (fd : Int) (s : Nat) (ok : Bool) : Option Pool :=
  if fd < 0 ∨ reactorMaxFd ≤ fd ∨ ok = false then none
  else
    match p.handler reactor fd with
    | none => some { p with handlers := ⟨reactor, fd, s⟩ :: p.handlers }
    | some old =>
      let p := { p with handlers := ⟨reactor, fd, s⟩ :: p.handlers.erase old }
      some (p.put old.session)

/-! ## The registry -/

/-- The list of `g_session_head`: the newest session first. -/
def Pool.registry (p : Pool) : List Nat :=
  (List.range p.next).reverse.filter fun s => (p.sess s).registryRegistered

/-! ## Calls -/

/-- One step of a call: what it does, and what is put in front of the rest of the call. -/
def exec (p : Pool) (ok : Bool) : Op → Pool × List Op
  | .creatorPut s => (p.put s, [])
  | .put s => (p.put s, [])
  | .markClosing s => (p.get s, [.closing s, .put s])
  | .closing s =>
    if (p.sess s).state.isClosing then (p, [])
    else (p.modify s toClosing, [.registryRemove s, .detach s, .gcEnqueue s])
  | .registryRemove s =>
    if (p.sess s).registryRegistered then (p.modify s unlink, [.put s]) else (p, [])
  | .detach s =>
    match (p.sess s).reactor with
    | some r => (p, [.removeFd s r (p.sess s).fdIn, .removeFd s r (p.sess s).fdOut])
    | none => (p, [])
  | .removeFd _ r fd => (reactorRemoveFd p r fd, [])
  | .gcEnqueue s =>
    if (p.sess s).gcEnqueued then (p, [])
    else ((p.modify s flagEnqueued).get s, [.gcLink s])
  | .gcLink s =>
    -- DESTROY_PENDING is never refused, so the error path is not taken
    let p := p.modify s fun x => (sessionSetState x .destroyPending).1
    ({ p with gc := p.gc ++ [s] }, [])
  | .register s r => (p.get s, [.addIn s r])
  | .addIn s r =>
    match reactorAddFdEx p r (p.sess s).fdIn s ok with
    | some p => (p, [.getOut s r])
    | none => (p, [.put s])
  | .getOut s r => (p.get s, [.addOut s r])
  | .addOut s r =>
    match reactorAddFdEx p r (p.sess s).fdOut s ok with
    | some p => (p, [.activate s])
    | none => (p, [.removeFd s r (p.sess s).fdIn, .put s])
  | .activate s =>
    if (sessionSetState (p.sess s) .active).2 then (p.modify s toActive, []) else (p, [.markClosing s])
  | .callback _ => (p, [])
  | .emergencyDrain s =>
    if (p.sess s).emergencyDrained then (p, [])
    else (p.modify s drainPipes, if (p.sess s).state.isClosing then [] else [.markClosing s])
  | .snapshot count =>
    ((p.registry.take count).foldl Pool.get p,
      (p.registry.take count).flatMap fun s => [.drainOne s, .put s])
  | .drainOne s => (p, if (p.sess s).state.isClosing then [] else [.emergencyDrain s])

/-- What a callback may do to its session. -/
inductive Act where
  | setState (desired : SessionState)
  | markClosing
  | emergencyDrain
deriving DecidableEq, Repr

/-- What somebody who holds a reference may call. -/
inductive Api where
  | register (reactor : Nat)
  | destroy
deriving DecidableEq, Repr

/-- What can happen. -/
inductive Event where
  /-- `atpd_session_create`, with the pipe it has made. -/
  | create (reactor : Option Nat) (fdIn fdOut pipeRead pipeWrite : Int)
  /-- `atpd_session_get` by somebody who will put. -/
  | get (s : Nat)
  /-- The holder of a reference, which is the call `i`, makes a call on its session. -/
  | api (i : Nat) (f : Api)
  /-- `atpd_session_mark_closing`, or `atpd_session_destroy`, from any place. -/
  | destroy (s : Nat)
  /-- The reactor calls the callback of a handler. -/
  | dispatch (reactor : Nat) (fd : Int)
  /-- The call `i` is a callback, and does something. -/
  | act (i : Nat) (a : Act)
  /-- `atpd_session_emergency_drain_all`; `alloc` says whether it gets its memory. -/
  | emergencyDrainAll (alloc : Bool)
  | gcProcess
  /-- The call `i` takes its next step. -/
  | run (i : Nat) (ok : Bool)
deriving DecidableEq, Repr

/-- `atpd_session_create`: the reference of the creator, and that of the registry. -/
def atpdSessionCreate (reactor : Option Nat) (fdIn fdOut pipeRead pipeWrite : Int) : AtpdSession :=
  { AtpdSession.unborn with
    fdIn := fdIn
    fdOut := fdOut
    pipeRead := pipeRead
    pipeWrite := pipeWrite
    refCount := 2
    reactor := reactor
    registryRegistered := true }

/-- A call begins. -/
def Pool.begin (p : Pool) (ops : List Op) : Pool := { p with calls := p.calls ++ [ops] }

/-- The call `i` goes on with `ops`. -/
def Pool.goOn (p : Pool) (i : Nat) (ops : List Op) : Pool := { p with calls := p.calls.set i ops }

/-- The session whose reference the call will put next. -/
def holder : List Op → Option Nat
  | .creatorPut s :: _ | .put s :: _ => some s
  | _ => none

/-- What a callback does. -/
def Act.exec (p : Pool) (s : Nat) : Act → Pool × List Op
  | .setState desired =>
    -- the datapath goes to ACTIVE, PIPE_DIRTY and DRAINING
    (if desired.isClosing then p else p.modify s fun x => (sessionSetState x desired).1, [])
  | .markClosing => (p, [.markClosing s])
  | .emergencyDrain => (p, [.emergencyDrain s])

def Api.ops (s : Nat) : Api → List Op
  | .register r => [.register s r]
  | .destroy => [.markClosing s]

def step (p : Pool) : Event → Option Pool
  | .create reactor fdIn fdOut pipeRead pipeWrite =>
    let x := Refs.atpdSessionCreate reactor fdIn fdOut pipeRead pipeWrite
    some { (p.modify p.next fun _ => x).begin [.creatorPut p.next] with next := p.next + 1 }
  | .get s => if (p.sess s).refCount = 0 then none else some ((p.get s).begin [.put s])
  | .api i f =>
    match p.calls[i]? with
    | some ops => (holder ops).map fun s => p.goOn i (f.ops s ++ ops)
    | none => none
  | .destroy s =>
    if (p.sess s).refCount = 0 then none else some ((p.get s).begin [.closing s, .put s])
  | .dispatch reactor fd =>
    (p.handler reactor fd).map fun h => (p.get h.session).begin [.callback h.session, .put h.session]
  | .act i a =>
    match p.calls[i]? with
    | some (.callback s :: rest) =>
      let (p, ops) := a.exec p s
      some (p.goOn i (ops ++ .callback s :: rest))
    | _ => none
  | .emergencyDrainAll alloc =>
    if p.registry = [] ∨ alloc = false then some p else some (p.begin [.snapshot p.registry.length])
  | .gcProcess => some ({ p with gc := [] }.begin (p.gc.map .put))
  | .run i ok =>
    match p.calls[i]? with
    | some (op :: rest) =>
      let (p, ops) := exec p ok op
      some (p.goOn i (ops ++ rest))
    | _ => none

end Atpd.Session.Refs
