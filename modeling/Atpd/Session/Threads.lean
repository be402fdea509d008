import Mathlib.Algebra.BigOperators.Group.List.Basic
import Mathlib.Logic.Function.Basic
import Mathlib.Tactic.Common
import Atpd.Lib.Run
import Atpd.Session.Datapath

/-!
# Closing a session from several threads

`session_set_state`, `atpd_session_mark_closing`, `emergency_drain` and `atpd_session_gc_enqueue` of
`src/session.c`, one atomic access at a time. Any number of threads run them on any number of sessions.
A thread holds one reference to its session, makes one call after the other, and may leave in the end;
`Code` is what its call has still to do. A weak compare-and-swap may fail though the value is the
expected one.

`atpd_session_get` and `atpd_session_put` are one step each: their loops have no effect until the
exchange succeeds. What `atpd_session_destroy_internal` writes besides the state is freed with the
session, and left out. `done` is history: the closing actions so far, with the thread that took them.
-/

namespace Atpd.Session.Threads

open Atpd.Lib

/-- The order of `atpd_session_state_t`. -/
def rank : SessionState → Nat
  | .idle => 0
  | .active => 1
  | .pipeDirty => 2
  | .draining => 3
  | .closing => 4
  | .destroyPending => 5
  | .destroyed => 6

/-- What `atpd_session_mark_closing` does once it has won. -/
inductive Action where
  | registryRemove
  | removeIn
  | removeOut
  | gcEnqueue
deriving DecidableEq, Repr

/-- `atpd_session_t`, as far as these functions use it. -/
structure AtpdSession where
  state : SessionState
  gcEnqueued : Bool
  emergencyDrained : Bool
  destroyStarted : Bool
  refCount : Nat
  pipePending : Nat
  pipesOpen : Bool
  /-- `s->reactor` is set. -/
  reactor : Bool
  /-- The reactor has a handler for `fd_in`, and one for `fd_out`. -/
  handlerIn : Bool
  handlerOut : Bool
  registryRegistered : Bool
  done : List (Nat × Action)
deriving DecidableEq, Repr

/-- What a thread has still to do. -/
inductive Code where
  /-- The thread has put its reference. -/
  | gone
  /-- Between two calls. -/
  | idle
  | put (k : Code)
  /-- `session_set_state`: the load, and the loop. -/
  | setLoad (desired : SessionState)
  | setLoop (desired current : SessionState)
  /-- `atpd_session_mark_closing`, up to the exchange. -/
  | closeGet
  | closeLoad
  | closeCas (state : SessionState)
  /-- The closing actions. -/
  | registryRemove
  | removeIn
  | removeOut
  /-- `atpd_session_gc_enqueue`; the load and the loop are those of `session_set_state`. -/
  | gcFlag
  | gcGet
  | gcLoad
  | gcLoop (current : SessionState)
  | gcUndo
  | gcAppend
  /-- `emergency_drain`. -/
  | drainFlag
  | drainPipes
  | drainPending
  | drainLoad
deriving DecidableEq, Repr

/-- One round of the loop of `session_set_state`: it is left with an answer, or goes on with the value
that the exchange has found. -/
def setLoop (x : AtpdSession) (desired current : SessionState) (spurious : Bool) :
    AtpdSession × (Bool ⊕ SessionState) :=
  if current.isClosing && !desired.isClosing then (x, .inl false)
  else if x.state = current ∧ !spurious then ({ x with state := desired }, .inl true)
  else (x, .inr x.state)

/-- `atpd_session_get`. -/
def atpdSessionGet (x : AtpdSession) : AtpdSession :=
  if x.refCount = 0 then x else { x with refCount := x.refCount + 1 }

/-- `atpd_session_destroy_internal`. -/
def destroyInternal (x : AtpdSession) : AtpdSession :=
  if x.destroyStarted then x else { x with destroyStarted := true, state := .destroyed }

/-- `atpd_session_put`. -/
def atpdSessionPut (x : AtpdSession) : AtpdSession :=
  if x.refCount = 0 then x
  else if x.refCount = 1 then destroyInternal { x with refCount := 0 }
  else { x with refCount := x.refCount - 1 }

/-- The thread `i` takes a closing action. -/
def AtpdSession.log (x : AtpdSession) (i : Nat) (a : Action) : AtpdSession :=
  { x with done := x.done ++ [(i, a)] }

/-- The next step of the thread `i`: its session, what it goes on with, and whether the session is put
on the GC queue. -/
def exec (x : AtpdSession) (i : Nat) (spurious : Bool) : Code → Option (AtpdSession × Code × Bool)
  | .gone | .idle => none
  | .put k => some (atpdSessionPut x, k, false)
  | .setLoad desired => some (x, .setLoop desired x.state, false)
  | .setLoop desired current =>
    match setLoop x desired current spurious with
    | (x, .inl _) => some (x, .idle, false)
    | (x, .inr current) => some (x, .setLoop desired current, false)
  | .closeGet => some (atpdSessionGet x, .closeLoad, false)
  | .closeLoad =>
    if x.state.isClosing then some (x, .put .idle, false) else some (x, .closeCas x.state, false)
  | .closeCas state =>
    if x.state = state ∧ !spurious then some ({ x with state := .closing }, .registryRemove, false)
    else some (x, .closeLoad, false)
  | .registryRemove =>
    -- the lock of the registry is held
    let next := if x.reactor then Code.removeIn else .gcFlag
    some ({ x with registryRegistered := false }.log i .registryRemove,
      if x.registryRegistered then .put next else next, false)
  | .removeIn =>
    -- `reactor_remove_fd` calls `session_free_cb`
    some ({ x with handlerIn := false }.log i .removeIn,
      if x.handlerIn then .put .removeOut else .removeOut, false)
  | .removeOut =>
    some ({ x with handlerOut := false }.log i .removeOut,
      if x.handlerOut then .put .gcFlag else .gcFlag, false)
  | .gcFlag =>
    if x.gcEnqueued then some (x, .put .idle, false)
    else some ({ x with gcEnqueued := true }, .gcGet, false)
  | .gcGet => some (atpdSessionGet x, .gcLoad, false)
  | .gcLoad => some (x, .gcLoop x.state, false)
  | .gcLoop current =>
    match setLoop x .destroyPending current spurious with
    | (x, .inl true) => some (x, .gcAppend, false)
    | (x, .inl false) => some (x, .gcUndo, false)
    | (x, .inr current) => some (x, .gcLoop current, false)
  | .gcUndo => some ({ x with gcEnqueued := false }, .put (.put .idle), false)
  | .gcAppend =>
    -- the lock of the queue is held
    some (x.log i .gcEnqueue, .put .idle, true)
  | .drainFlag =>
    if x.emergencyDrained then some (x, .idle, false)
    else some ({ x with emergencyDrained := true }, .drainPipes, false)
  | .drainPipes => some ({ x with pipesOpen := false }, .drainPending, false)
  | .drainPending => some ({ x with pipePending := 0 }, .drainLoad, false)
  | .drainLoad => some (x, if x.state.isClosing then .idle else .closeGet, false)

/-- The sessions; the threads, each with its session; and `g_gc_queue`. -/
structure Pool where
  sess : Nat → AtpdSession
  threads : List (Nat × Code)
  gc : List Nat

/-- A function that a thread calls. -/
inductive Call where
  | setState (desired : SessionState)
  | markClosing
  | emergencyDrain
deriving DecidableEq, Repr

def Call.code : Call → Code
  | .setState desired => .setLoad desired
  | .markClosing => .closeGet
  | .emergencyDrain => .drainFlag

/-- `session_set_state` is called for ACTIVE, PIPE_DIRTY and DRAINING, apart from
`atpd_session_gc_enqueue`. -/
def Call.allowed : Call → Bool
  | .setState desired => !desired.isClosing
  | .markClosing | .emergencyDrain => true

/-- What can happen. -/
inductive Label where
  /-- Somebody gets a reference to a session. -/
  | join (s : Nat)
  /-- The thread `i` puts its reference. -/
  | leave (i : Nat)
  | call (i : Nat) (f : Call)
  /-- The thread `i` takes its next step. -/
  | run (i : Nat) (spurious : Bool)
  /-- `atpd_session_gc_process` takes the queue, and will put the sessions in it. -/
  | gcProcess
deriving DecidableEq, Repr

def step (p : Pool) : Label → Option Pool
  | .join s =>
    if (p.sess s).refCount = 0 then none
    else some { p with
      sess := Function.update p.sess s (atpdSessionGet (p.sess s))
      threads := p.threads ++ [(s, .idle)] }
  | .leave i =>
    match p.threads[i]? with
    | some (s, .idle) => some { p with threads := p.threads.set i (s, .put .gone) }
    | _ => none
  | .call i f =>
    match p.threads[i]? with
    | some (s, .idle) =>
      if f.allowed then some { p with threads := p.threads.set i (s, f.code) } else none
    | _ => none
  | .run i spurious =>
    match p.threads[i]? with
    | some (s, code) =>
      (exec (p.sess s) i spurious code).map fun (x, code, queued) =>
        { sess := Function.update p.sess s x
          threads := p.threads.set i (s, code)
          gc := if queued then p.gc ++ [s] else p.gc }
    | none => none
  | .gcProcess => some { p with gc := [], threads := p.threads ++ p.gc.map (·, .put .gone) }

end Atpd.Session.Threads
