import Mathlib.Data.Finset.Card
import Mathlib.Data.Finset.Range
import Mathlib.Logic.Function.Basic
import Mathlib.Tactic.Common
import Atpd.Lib.Run

/-!
# Registrations of the reactor

The descriptor half of `src/reactor.c`: the table `handlers`, the interest set of the kernel, and the
loop of `reactor_run` over one batch of events. The callbacks are not part of the reactor. A callback
runs between the call and the return of the function that calls it, and may itself call the reactor,
so the machine has an explicit `stack`: a frame says which function is waiting for which callback, and
what that function still has to do. A label is a call of a public function, made by whoever is
running, or the return of the callback on top of the stack.

Each registration has a number `reg` of its own. That, `made`, `freed`, `mark` and `delivered` are
history, read by statements only. `active` of a handler is 1 from its creation on and is left out.
-/

namespace Atpd.Reactor

variable {κ : Type*}

/-- `REACTOR_MAX_FD`. -/
def reactorMaxFd : Nat := 1024

/-- `REACTOR_MAX_EVENTS`. -/
def reactorMaxEvents : Nat := 128

/-- `REACTOR_EVENT_READ`. -/
def reactorEventRead : Nat := 1

/-- `reactor_handler_t`; the callbacks come with their userdata, `none` for NULL. -/
structure Handler (κ : Type*) where
  events : Nat
  callback : Option κ
  freeCb : Option κ
  reg : Nat
deriving DecidableEq, Repr

/-- An entry of the kernel's interest set, with the registration that made it. -/
structure Interest where
  events : Nat
  reg : Nat
deriving DecidableEq, Repr

/-- An event that `epoll_wait` has returned, with the registration it was generated for. -/
structure Ready where
  fd : Nat
  events : Nat
  reg : Nat
deriving DecidableEq, Repr

/-- A function of the reactor that waits for a callback. -/
inductive Frame (κ : Type*) where
  /-- `reactor_remove_fd` waits for the `free_cb` of the handler; `reactor_watch_signal` closes the
  descriptor after that. -/
  | remove (fd : Nat) (close : Bool)
  /-- `reactor_add_fd` waits for the `free_cb` of the handler it has replaced; `reactor_add_fd_ex`
  then sets the new `free_cb`. -/
  | replace (fd : Nat) (freeCb : Option κ)
  /-- `reactor_run` waits for an I/O callback or a signal callback. -/
  | callback
deriving DecidableEq, Repr

/-- The descriptor half of `reactor_t` and `reactor_private_t`, with what the kernel knows. -/
structure Io (κ : Type*) where
  handlers : Nat → Option (Handler κ)
  interest : Nat → Option Interest
  activeHandlers : Nat
  signalFd : Nat
  eventFd : Nat
  sigmask : List Int
  stack : List (Frame κ)
  batch : List Ready
  nextReg : Nat
  mark : Nat
  made : List Nat
  freed : List Nat
  delivered : List (Nat × Nat)

variable {io io' : Io κ} {fd n : Nat}

namespace Io

/-- `epoll_ctl(EPOLL_CTL_ADD)` fails on a descriptor that is there. -/
def canAdd (io : Io κ) (fd : Nat) (ok : Bool) : Bool := ok && (io.interest fd).isNone

/-- `epoll_ctl(EPOLL_CTL_MOD)` fails on a descriptor that is not there. -/
def canMod (io : Io κ) (fd : Nat) (ok : Bool) : Bool := ok && (io.interest fd).isSome

/-- A new handler is in the table and in the interest set. -/
def install (io : Io κ) (fd events : Nat) (cb : Option κ) : Io κ :=
  { io with
    handlers := Function.update io.handlers fd (some ⟨events, cb, none, io.nextReg⟩)
    interest := Function.update io.interest fd (some ⟨events, io.nextReg⟩)
    nextReg := io.nextReg + 1 }

/-- The end of `reactor_add_fd_ex`: `if (h) h->free_cb = free_cb`. -/
def adopt (io : Io κ) (fd : Nat) (freeCb : Option κ) : Io κ :=
  match freeCb, io.handlers fd with
  | some f, some h =>
    { io with
      handlers := Function.update io.handlers fd (some { h with freeCb := some f })
      made := h.reg :: io.made }
  | _, _ => io

/-- The end of `reactor_remove_fd`, and the `close` that may follow it. -/
def finishRemove (io : Io κ) (fd : Nat) (close : Bool) : Io κ :=
  { io with
    handlers := Function.update io.handlers fd none
    activeHandlers := io.activeHandlers - 1
    interest := if close then Function.update io.interest fd none else io.interest }

/-- `free_cb(userdata)` is called for a handler; `frame` is the function that waits for it. -/
def enterFree (io : Io κ) (h : Handler κ) (frame : Frame κ) : Io κ :=
  { io with stack := frame :: io.stack, freed := h.reg :: io.freed }

end Io

/-- `reactor_add_fd`, and with a `freeCb` `reactor_add_fd_ex`. `alloc` and `ok` are the outcomes of
`malloc` and of `epoll_ctl`. The status is that of the return, which may come after a `free_cb`. -/
def reactorAddFd (io : Io κ) (fd : Int) (events : Nat) (cb freeCb : Option κ) (alloc ok : Bool) :
    Io κ × Bool :=
  if 0 ≤ fd ∧ fd < reactorMaxFd ∧ alloc then
    match io.handlers fd.toNat with
    | some old =>
      if io.canMod fd.toNat ok then
        let io := io.install fd.toNat events cb
        if old.freeCb.isSome then (io.enterFree old (.replace fd.toNat freeCb), true)
        else (io.adopt fd.toNat freeCb, true)
      else (io, false)
    | none =>
      if io.canAdd fd.toNat ok then
        let io := io.install fd.toNat events cb
        (({ io with activeHandlers := io.activeHandlers + 1 }).adopt fd.toNat freeCb, true)
      else (io, false)
  else (io, false)

/-- `reactor_modify_fd`. -/
def reactorModifyFd (io : Io κ) (fd : Int) (events : Nat) (ok : Bool) : Io κ × Bool :=
  if 0 ≤ fd ∧ fd < reactorMaxFd then
    match io.handlers fd.toNat, io.interest fd.toNat with
    | some h, some i =>
      if ok then
        ({ io with
          handlers := Function.update io.handlers fd.toNat (some { h with events := events })
          interest := Function.update io.interest fd.toNat (some { i with events := events }) }, true)
      else (io, false)
    | _, _ => (io, false)
  else (io, false)

/-- `reactor_remove_fd`; with `close` the caller closes the descriptor next. -/
def reactorRemoveFd (io : Io κ) (fd : Int) (close : Bool) : Io κ × Bool :=
  if 0 ≤ fd ∧ fd < reactorMaxFd then
    match io.handlers fd.toNat with
    | none => (io, true)
    | some h =>
      -- the handler stays in the table until its `free_cb` has returned
      let io := { io with interest := Function.update io.interest fd.toNat none }
      if h.freeCb.isSome then (io.enterFree h (.remove fd.toNat close), true)
      else (io.finishRemove fd.toNat close, true)
  else (io, false)

/-- `close(fd)`: the kernel forgets the descriptor. -/
def Io.close (io : Io κ) (fd : Nat) : Io κ :=
  { io with interest := Function.update io.interest fd none }

/-- The outcomes of the calls that `reactor_watch_signal` makes: `sigaddset`, `signalfd`, those of
`reactor_add_fd`, and `sigprocmask`. -/
structure WatchOs where
  valid : Bool
  signalfd : Option Nat
  alloc : Bool
  ok : Bool
  procmask : Bool
deriving DecidableEq, Repr

/-- `reactor_watch_signal`. -/
def reactorWatchSignal (io : Io κ) (signo : Int) (os : WatchOs) : Io κ × Bool :=
  if 0 < signo ∧ os.valid then
    match os.signalfd with
    | none => (io, false)
    | some newFd =>
      match reactorAddFd io newFd reactorEventRead none none os.alloc os.ok with
      | (io, false) => (io.close newFd, false)
      | (io, true) =>
        if os.procmask then
          let oldFd := io.signalFd
          let io := { io with signalFd := newFd, sigmask := signo :: io.sigmask }
          ((reactorRemoveFd io oldFd true).1, true)
        else ((reactorRemoveFd io newFd true).1, false)
  else (io, false)

/-- A call of a public function. -/
inductive Op (κ : Type*) where
  | add (fd : Int) (events : Nat) (cb freeCb : Option κ) (alloc ok : Bool)
  | modify (fd : Int) (events : Nat) (ok : Bool)
  | remove (fd : Int)
  | watchSignal (signo : Int) (os : WatchOs)
deriving DecidableEq

/-- The result of an operation, and whether it works. -/
def perform (io : Io κ) : Op κ → Io κ × Bool
  | .add fd events cb freeCb alloc ok => reactorAddFd io fd events cb freeCb alloc ok
  | .modify fd events ok => reactorModifyFd io fd events ok
  | .remove fd => reactorRemoveFd io fd false
  | .watchSignal signo os => reactorWatchSignal io signo os

/-- The callback on top of the stack returns. -/
def Io.ret (io : Io κ) : Option (Io κ) :=
  match io.stack with
  | [] => none
  | .remove fd close :: stack => some ({ io with stack := stack }.finishRemove fd close)
  | .replace fd freeCb :: stack => some ({ io with stack := stack }.adopt fd freeCb)
  | .callback :: stack => some { io with stack := stack }

/-- The event that the kernel has for a descriptor of its interest set. -/
def Io.ready (io : Io κ) (event : Nat × Nat) : Option Ready :=
  (io.interest event.1).map fun i => ⟨event.1, event.2, i.reg⟩

/-- `epoll_wait` returns these events, at most one for a descriptor. -/
def Io.wait (io : Io κ) (events : List (Nat × Nat)) : Option (Io κ) :=
  if io.stack = [] ∧ io.batch = [] ∧ events.length ≤ reactorMaxEvents ∧
      (events.map Prod.fst).Nodup then
    (events.mapM io.ready).map fun batch => { io with batch := batch, mark := io.nextReg }
  else none

/-- The handler whose callback `reactor_run` calls for an event. -/
def Io.target (io : Io κ) (e : Ready) : Option (Handler κ) :=
  if e.fd = io.signalFd ∨ e.fd = io.eventFd ∨ reactorMaxFd ≤ e.fd then none
  else (io.handlers e.fd).filter fun h => h.callback.isSome

/-- The next iteration of the loop of `reactor_run` over the batch. -/
def Io.next (io : Io κ) : Option (Io κ) :=
  match io.stack, io.batch with
  | [], e :: batch =>
    let io := { io with batch := batch }
    -- `reactor_signal_handle` calls the signal callback
    if e.fd = io.signalFd then some { io with stack := [.callback] }
    else
      match io.target e with
      | some h => some { io with stack := [.callback], delivered := (h.reg, e.reg) :: io.delivered }
      | none => some io
  | _, _ => none

/-- What happens at the reactor. -/
inductive IoLabel (κ : Type*) where
  | op (o : Op κ)
  | ret
  | close (fd : Nat)
  | wait (events : List (Nat × Nat))
  | next
deriving DecidableEq

/-- Between two iterations over a batch nobody calls the reactor. -/
def Io.callable (io : Io κ) : Bool := !io.stack.isEmpty || io.batch.isEmpty

/-- `signalfd` returns a descriptor that was not open, so that the kernel has nothing for it. -/
def Op.possible (io : Io κ) : Op κ → Bool
  | .watchSignal _ os => os.signalfd.all fun fd => (io.interest fd).isNone
  | _ => true

/-- One step: an operation, a return, or the next event. -/
def ioStep (io : Io κ) : IoLabel κ → Option (Io κ)
  | .op o => if io.callable ∧ o.possible io then some (perform io o).1 else none
  | .ret => io.ret
  | .close fd => if io.callable then some (io.close fd) else none
  | .wait events => io.wait events
  | .next => io.next

/-- A reactor without a registration. -/
def Io.empty (signalFd eventFd : Nat) : Io κ where
  handlers := fun _ => none
  interest := fun _ => none
  activeHandlers := 0
  signalFd := signalFd
  eventFd := eventFd
  sigmask := []
  stack := []
  batch := []
  nextReg := 0
  mark := 0
  made := []
  freed := []
  delivered := []

/-- `reactor_create`: the signal descriptor and the event descriptor are registered. -/
def ioCreate (signalFd eventFd : Nat) (alloc1 ok1 alloc2 ok2 : Bool) : Option (Io κ) :=
  match reactorAddFd (Io.empty signalFd eventFd) signalFd reactorEventRead none none alloc1 ok1 with
  | (io, true) =>
    match reactorAddFd io eventFd reactorEventRead none none alloc2 ok2 with
    | (io, true) => some io
    | (_, false) => none
  | (_, false) => none

/-- `reactor_create` adds the signal descriptor, and then the other one. -/
lemma ioCreate_eq {signalFd eventFd : Nat} {alloc1 ok1 alloc2 ok2 : Bool}
    (create : ioCreate signalFd eventFd alloc1 ok1 alloc2 ok2 = some io) :
    ∃ io1, reactorAddFd (Io.empty signalFd eventFd) signalFd reactorEventRead none none alloc1 ok1 =
        (io1, true) ∧
      reactorAddFd io1 eventFd reactorEventRead none none alloc2 ok2 = (io, true) := by
  unfold ioCreate at create
  generalize reactorAddFd (Io.empty signalFd eventFd) signalFd reactorEventRead none none alloc1
    ok1 = first at create ⊢
  obtain ⟨io1, ok1⟩ := first
  cases ok1 with
  | false => cases create
  | true =>
    refine ⟨io1, rfl, ?_⟩
    dsimp only at create
    generalize reactorAddFd io1 eventFd reactorEventRead none none alloc2 ok2 = second at create ⊢
    obtain ⟨io2, ok2⟩ := second
    cases ok2 with
    | false => cases create
    | true =>
      cases create
      rfl

end Atpd.Reactor
