import Atpd.Lib.Custody

/-!
# What the daemon holds

The descriptors, heap blocks, mutexes and threads that the components of the daemon hold from their start
to their end: the reactor, the netlink sockets, the supervisor's context and the API client. Each function
is translated with the outcomes of its system calls; closing or freeing what is not held, or calling the
reactor after it was destroyed, is a fault.

`handlers` are the descriptors that are registered with the reactor. What lives and dies inside a component
while the daemon runs (timers, clients, sessions, the connections of the API client) has a model of its own.

The log is no component: every message opens its file if it is not open, and nothing closes it at the end.
-/

namespace Atpd.Daemon.Lifetime

open Atpd.Lib

/-- What is held, and the descriptors that are registered; with the variables of the logger: `logFile` says
that `g_log_config` has a path, and `logFp` is the stream that is open with its descriptor. -/
structure Sys where
  custody : Custody
  handlers : List Nat
  logFile : Bool
  logFp : Option Nat

namespace Sys

/-- A call that opens or allocates, if it succeeds. -/
def acquire (s : Sys) (ok : Bool) : Sys × Option Nat :=
  if ok then ({ s with custody := s.custody.acquire }, some s.custody.next) else (s, none)

/-- `close`, `free`, `pthread_mutex_destroy`, `pthread_join`. -/
def release (s : Sys) (id : Nat) : Option Sys := (s.custody.release id).map fun c => { s with custody := c }

/-- The same for several, from left to right. -/
def releaseAll (s : Sys) (ids : List Nat) : Option Sys :=
  (Custody.releaseAll ids s.custody).map fun c => { s with custody := c }

/-- A call of the reactor. -/
def use (s : Sys) (r : Nat) : Option Sys := (s.custody.use r).map fun c => { s with custody := c }

/-- `reactor_add_fd`. -/
def addFd (s : Sys) (r fd : Nat) (ok : Bool) : Option (Sys × Bool) := do
  let s ← s.use r
  let s ← s.use fd
  some (if ok then { s with handlers := fd :: s.handlers } else s, ok)

/-- `reactor_remove_fd`. -/
def removeFd (s : Sys) (r fd : Nat) : Option Sys := do
  let s ← s.use r
  some { s with handlers := s.handlers.filter (· ≠ fd) }

end Sys

/-! ## The log -/

/-- The calls of `log_open_file_unlocked` that succeed; `regular` is the check of the file behind `open`. -/
structure LogOpen where
  openFile : Bool
  regular : Bool
  stream : Bool
deriving DecidableEq, Repr

/-- A message that is not below the level of the log: the calls that it makes if the file is not open,
whether it fills the file, and the calls that the rotation makes then. -/
structure LogWrite where
  first : LogOpen
  fills : Bool
  again : LogOpen
deriving DecidableEq, Repr

/-- `log_close_file_unlocked`. -/
def logCloseFileUnlocked (s : Sys) : Option Sys :=
  match s.logFp with
  | some fd => (s.release fd).map fun s => { s with logFp := none }
  | none => some s

/-- `log_open_file_unlocked`. -/
def logOpenFileUnlocked (os : LogOpen) (s : Sys) : Option Sys :=
  if !s.logFile || s.logFp.isSome then some s
  else
    match s.acquire os.openFile with
    | (s, none) => some s
    | (s, some fd) => if os.regular && os.stream then some { s with logFp := some fd } else s.release fd

/-- `log_rotate_file_unlocked`, less its renames. -/
def logRotateFileUnlocked (os : LogOpen) (s : Sys) : Option Sys :=
  (logCloseFileUnlocked s).bind (logOpenFileUnlocked os)

/-- `log_write_file_unlocked`; the target `LOG_TARGET_FILE` is never taken away. -/
def logWriteFileUnlocked (w : LogWrite) (s : Sys) : Option Sys := do
  let s ← logOpenFileUnlocked w.first s
  if s.logFp.isSome && w.fills then logRotateFileUnlocked w.again s else some s

/-- Messages, one after the other. -/
def logWrites : List LogWrite → Sys → Option Sys
  | [], s => some s
  | w :: ws, s => (logWriteFileUnlocked w s).bind (logWrites ws)

/-- `log_init` and `log_set_file`: a path is set, and its file takes the place of the one that is open. -/
def logSetFile (os : LogOpen) (s : Sys) : Option Sys :=
  (logCloseFileUnlocked { s with logFile := true }).bind (logOpenFileUnlocked os)

/-! ## The reactor -/

/-- `reactor_t` with its private part; a descriptor that was not opened is -1. -/
structure Reactor where
  object : Nat
  privateData : Nat
  epollFd : Option Nat
  eventFd : Option Nat
  signalFd : Option Nat
deriving DecidableEq, Repr

/-- What the reactor holds, in the order in which `reactor_cleanup_internal` gives it back. -/
def Reactor.refs (r : Reactor) : List Nat :=
  r.signalFd.toList ++ r.eventFd.toList ++ r.epollFd.toList ++ [r.privateData, r.object]

/-- The calls of `reactor_create` that succeed. -/
structure ReactorOs where
  object : Bool
  privateData : Bool
  epoll : Bool
  eventfd : Bool
  signalfd : Bool
  addSignal : Bool
  addEvent : Bool
deriving DecidableEq, Repr

/-- `reactor_cleanup_internal`; the handlers and timers are freed with it. -/
def reactorCleanupInternal (s : Sys) (r : Reactor) : Option Sys :=
  Sys.releaseAll { s with handlers := [] } r.refs

/-- `reactor_destroy`, outside of the loop. -/
def reactorDestroy (s : Sys) (r : Reactor) : Option Sys := do
  let s ← s.use r.object
  reactorCleanupInternal s r

/-- `reactor_create`. -/
def reactorCreate (os : ReactorOs) (s : Sys) : Option (Sys × Option Reactor) := do
  let (s, object) := s.acquire os.object
  let (s, privateData) := s.acquire os.privateData
  match object, privateData with
  | some object, some privateData =>
    let fail (s : Sys) (r : Reactor) : Option (Sys × Option Reactor) :=
      (reactorCleanupInternal s r).map fun s => (s, none)
    match s.acquire os.epoll with
    | (s, none) => fail s ⟨object, privateData, none, none, none⟩
    | (s, some epoll) =>
      match s.acquire os.eventfd with
      | (s, none) => fail s ⟨object, privateData, some epoll, none, none⟩
      | (s, some event) =>
        match s.acquire os.signalfd with
        | (s, none) => fail s ⟨object, privateData, some epoll, some event, none⟩
        | (s, some signal) =>
          let r : Reactor := ⟨object, privateData, some epoll, some event, some signal⟩
          let (s, added) ← s.addFd object signal os.addSignal
          if !added then fail s r
          else
            let (s, added) ← s.addFd object event os.addEvent
            if !added then fail s r else some (s, some r)
  | object, privateData => (s.releaseAll (object.toList ++ privateData.toList)).map fun s => (s, none)

/-! ## The netlink sockets -/

/-- The variables of `src/netlink.c`; a pointer to the reactor is its object. -/
structure Netlink where
  syncFd : Option Nat
  asyncFd : Option Nat
  xfrmFd : Option Nat
  xfrmRegistered : Bool
  xfrmReactor : Option Nat
  debounceReactor : Option Nat
  debounceTimer : Bool
deriving DecidableEq, Repr

/-- What the netlink sockets hold. -/
def Netlink.refs (n : Netlink) : List Nat := n.xfrmFd.toList ++ n.syncFd.toList ++ n.asyncFd.toList

/-- Before `netlink_init`, and after `netlink_cleanup`. -/
def Netlink.closed : Netlink := ⟨none, none, none, false, none, none, false⟩

/-- The calls that succeed. -/
structure NetlinkOs where
  syncSocket : Bool
  syncBind : Bool
  asyncSocket : Bool
  asyncBind : Bool
  xfrmSocket : Bool
  xfrmBind : Bool
  addXfrm : Bool
deriving DecidableEq, Repr

/-- `open_netlink_socket`. -/
def openNetlinkSocket (s : Sys) (socket bind : Bool) : Option (Sys × Option Nat) :=
  match s.acquire socket with
  | (s, none) => some (s, none)
  | (s, some fd) => if bind then some (s, some fd) else (s.release fd).map fun s => (s, none)

/-- `netlink_init`. -/
def netlinkInit (os : NetlinkOs) (s : Sys) (n : Netlink) : Option (Sys × Netlink × Bool) := do
  let (s, sync) ← openNetlinkSocket s os.syncSocket os.syncBind
  let n := { n with syncFd := sync }
  match sync with
  | none => some (s, n, false)
  | some fd =>
    let (s, async) ← openNetlinkSocket s os.asyncSocket os.asyncBind
    let n := { n with asyncFd := async }
    match async with
    | none =>
      let s ← s.release fd
      some (s, { n with syncFd := none }, false)
    | some _ => some (s, n, true)

/-- `netlink_set_reactor`, with a reactor. -/
def netlinkSetReactor (os : NetlinkOs) (s : Sys) (n : Netlink) (r : Nat) : Option (Sys × Netlink) :=
  let n := { n with debounceReactor := some r }
  match n.xfrmFd with
  | none => some (s, n)
  | some fd =>
    if n.xfrmRegistered then some (s, n)
    else do
      let (s, added) ← s.addFd r fd os.addXfrm
      some (s, if added then { n with xfrmReactor := some r, xfrmRegistered := true } else n)

/-- `netlink_xfrm_init`, with a reactor. -/
def netlinkXfrmInit (os : NetlinkOs) (s : Sys) (n : Netlink) (r : Nat) : Option (Sys × Netlink × Bool) :=
  match n.xfrmFd with
  | some fd =>
    if n.xfrmRegistered then some (s, n, true)
    else do
      let (s, added) ← s.addFd r fd os.addXfrm
      some (s, if added then { n with xfrmReactor := some r, xfrmRegistered := true } else n, added)
  | none => do
    let (s, fd) ← openNetlinkSocket s os.xfrmSocket os.xfrmBind
    match fd with
    | none => some (s, n, false)
    | some fd =>
      let (s, added) ← s.addFd r fd os.addXfrm
      if added then
        some (s, { n with xfrmFd := some fd, xfrmReactor := some r, xfrmRegistered := true }, true)
      else
        let s ← s.release fd
        some (s, { n with xfrmFd := none }, false)

/-- The timer is cancelled in the reactor that it was added to. -/
def Netlink.cancelTimer (n : Netlink) (s : Sys) : Option Sys :=
  match n.debounceTimer, n.debounceReactor with
  | true, some r => s.use r
  | _, _ => some s

/-- The XFRM listener is taken out of its reactor, and closed. -/
def Netlink.closeXfrm (n : Netlink) (s : Sys) : Option Sys :=
  match n.xfrmFd, n.xfrmReactor with
  | some fd, some r => (s.removeFd r fd).bind fun s => s.release fd
  | some fd, none => s.release fd
  | none, _ => some s

/-- `netlink_cleanup`. -/
def netlinkCleanup (s : Sys) (n : Netlink) : Option (Sys × Netlink) := do
  let s ← n.cancelTimer s
  let s ← n.closeXfrm s
  let s ← s.releaseAll (n.syncFd.toList ++ n.asyncFd.toList)
  -- the handle of the timer is cleared with the reactor of the timer only
  some (s, { Netlink.closed with debounceTimer := n.debounceTimer && n.debounceReactor.isNone })

/-! ## The supervisor -/

/-- `service_ctx_t`, as far as its own life goes. -/
structure Service where
  object : Nat
  reactor : Option Nat
  api : Bool
deriving DecidableEq, Repr

/-- What the service holds. -/
def serviceRefs (service : Option Service) : List Nat := service.toList.map Service.object

/-- `service_destroy`: `service_stop_sync` cancels timers in the reactor. -/
def serviceDestroy (s : Sys) (service : Service) : Option Sys :=
  match service.reactor with
  | some r => (s.use r).bind fun s => s.release service.object
  | none => s.release service.object

/-! ## The API client -/

/-- `api_ctx_t`. -/
structure Api where
  initialized : Bool
  nativeLock : Option Nat
  requestLock : Option Nat
  result0 : Option Nat
  result1 : Option Nat
  wakeFd : Option Nat
  reactor : Option Nat
  resultRegistered : Bool
  worker : Option Nat
deriving DecidableEq, Repr

/-- After `memset`, with -1 in the descriptors. -/
def Api.zero : Api := ⟨false, none, none, none, none, none, none, false, none⟩

/-- What the API holds. -/
def Api.refs (a : Api) : List Nat :=
  a.worker.toList ++ (a.result0.toList ++ a.result1.toList ++ a.wakeFd.toList ++
    (a.nativeLock.toList ++ a.requestLock.toList))

/-- The calls that succeed. -/
structure ApiOs where
  nativeLock : Bool
  requestLock : Bool
  pipe : Bool
  eventfd : Bool
  addResult : Bool
  block : Bool
  thread : Bool
  restore : Bool
deriving DecidableEq, Repr

/-- `api_init`; `singbox_api_init` does not fail on a context. -/
def apiInit (os : ApiOs) (s : Sys) : Option (Sys × Api × Bool) := do
  let (s, native) := s.acquire os.nativeLock
  match native with
  | none => some (s, .zero, false)
  | some native =>
    let (s, request) := s.acquire os.requestLock
    match request with
    | none =>
      let s ← s.release native
      some (s, .zero, false)
    | some request =>
      some (s,
        { Api.zero with initialized := true, nativeLock := some native, requestLock := some request }, true)

/-- `reactor_remove_fd` of the result pipe, if it is registered. -/
def Api.unregister (a : Api) (s : Sys) : Option (Sys × Api) :=
  match a.resultRegistered, a.reactor, a.result0 with
  | true, some r, some fd => (s.removeFd r fd).map fun s => (s, { a with resultRegistered := false })
  | _, _, _ => some (s, a)

/-- `api_cleanup`. -/
def apiCleanup (s : Sys) (a : Api) : Option (Sys × Api) :=
  if !a.initialized then some (s, a)
  else do
    -- the worker is joined first
    let s ← s.releaseAll a.worker.toList
    let (s, a) ← a.unregister s
    let s ← s.releaseAll (a.result0.toList ++ a.result1.toList ++ a.wakeFd.toList)
    let s ← s.releaseAll (a.nativeLock.toList ++ a.requestLock.toList)
    some (s, .zero)

/-- The label `fail` of `api_start_with_reactor`. -/
def Api.fail (a : Api) (s : Sys) : Option (Sys × Api × Bool) := do
  let (s, a) ← a.unregister s
  let s ← s.releaseAll (a.result0.toList ++ a.result1.toList ++ a.wakeFd.toList)
  some (s, { a with result0 := none, result1 := none, wakeFd := none, reactor := none }, false)

/-- `api_start_with_reactor`, with a reactor. -/
def apiStartWithReactor (os : ApiOs) (s : Sys) (a : Api) (r : Nat) : Option (Sys × Api × Bool) :=
  if !a.initialized || a.worker.isSome then some (s, a, false)
  else
    match s.acquire os.pipe with
    | (s, none) => some (s, a, false)
    | (s, some result0) =>
      let (s, result1) := s.acquire true
      let a := { a with result0 := some result0, result1 := result1 }
      match s.acquire os.eventfd with
      | (s, none) => a.fail s
      | (s, some wake) => do
        let a := { a with wakeFd := some wake, reactor := some r }
        let (s, added) ← s.addFd r result0 os.addResult
        if !added then a.fail s
        else
          let a := { a with resultRegistered := true }
          if !os.block then a.fail s
          else
            match s.acquire os.thread with
            | (s, none) => a.fail s
            | (s, some worker) =>
              let a := { a with worker := some worker }
              if os.restore then some (s, a, true)
              else
                let (s, a) ← apiCleanup s a
                some (s, a, false)

/-! ## What is kept -/

variable {s : Sys} {own own' regs frame live : List Nat} {ids : List Nat} {id r fd : Nat} {ok : Bool}

/-- What is held is `own`, and the file of the log if it is open; what is registered is among `regs`. -/
structure Sys.Keeps (s : Sys) (own regs : List Nat) : Prop where
  holds : s.custody.Holds (s.logFp.toList ++ own)
  registered : ∀ fd ∈ s.handlers, fd ∈ regs

namespace Sys.Keeps

/-- The order does not matter. -/
lemma perm (ke : s.Keeps own regs) (same : own.Perm own') : s.Keeps own' regs :=
  ⟨ke.holds.perm (same.append_left _), ke.registered⟩

/-- More may be registered than is. -/
lemma weaken {regs' : List Nat} (ke : s.Keeps own regs) (sub : ∀ fd ∈ regs, fd ∈ regs') : s.Keeps own regs' :=
  ⟨ke.holds, fun fd mem => sub fd (ke.registered fd mem)⟩

/-- Without a registration there is no handler. -/
lemma unregistered (ke : s.Keeps own []) : s.handlers = [] :=
  List.eq_nil_iff_forall_not_mem.mpr fun fd mem => absurd (ke.registered fd mem) List.not_mem_nil

/-- A call that may fail hands out a token, or nothing changes. -/
lemma acquire (ke : s.Keeps own regs) (ok : Bool) :
    ok = false ∧ s.acquire ok = (s, none) ∨
      ∃ s' id, ok = true ∧ s.acquire ok = (s', some id) ∧ s'.Keeps (id :: own) regs := by
  cases ok with
  | false => exact .inl ⟨rfl, rfl⟩
  | true =>
    exact .inr ⟨_, _, rfl, rfl, ke.holds.acquire.perm List.perm_middle.symm, ke.registered⟩

/-- What is owned is given back, and what was in front of it stays. -/
lemma release (ke : s.Keeps (id :: own) regs) : ∃ s', s.release id = some s' ∧ s'.Keeps own regs := by
  obtain ⟨c, eq, ho⟩ := (ke.holds.perm List.perm_middle).release
  exact ⟨{ s with custody := c }, by rw [Sys.release, eq, Option.map_some], ho, ke.registered⟩

/-- Everything of a list is given back. -/
lemma releaseAll (ke : s.Keeps (ids ++ own) regs) :
    ∃ s', s.releaseAll ids = some s' ∧ s'.Keeps own regs := by
  obtain ⟨c, eq, ho⟩ := (ke.holds.perm (List.perm_append_comm_assoc ..)).releaseAll
  exact ⟨{ s with custody := c }, by rw [Sys.releaseAll, eq, Option.map_some], ho, ke.registered⟩

/-- What is held can be used. -/
lemma use (ke : s.Keeps own regs) (mem : r ∈ own) : s.use r = some s := by
  rw [Sys.use, ke.holds.use (List.mem_append_right _ mem), Option.map_some]

/-- A descriptor that is held is registered, or not. -/
lemma addFd (ke : s.Keeps own regs) (reactor : r ∈ own) (mem : fd ∈ own) (ok : Bool) :
    ∃ s', s.addFd r fd ok = some (s', ok) ∧
      s'.Keeps own (if ok then fd :: regs else regs) := by
  refine ⟨_, by rw [Sys.addFd, ke.use reactor, Option.bind_eq_bind, Option.bind_some, ke.use mem]; rfl, ?_⟩
  cases ok with
  | false => exact ke
  | true =>
    refine ⟨ke.holds, fun fd' mem => ?_⟩
    rcases List.mem_cons.mp mem with rfl | mem
    · exact List.mem_cons_self
    · exact List.mem_cons_of_mem _ (ke.registered fd' mem)

/-- One that is registered is taken out. -/
lemma removeFd (ke : s.Keeps own (fd :: regs)) (reactor : r ∈ own) :
    ∃ s', s.removeFd r fd = some s' ∧ s'.Keeps own regs := by
  refine ⟨{ s with handlers := s.handlers.filter (· ≠ fd) }, by rw [Sys.removeFd, ke.use reactor]; rfl,
    ke.holds, fun fd' mem => ?_⟩
  obtain ⟨mem, ne⟩ := List.mem_filter.mp mem
  rcases List.mem_cons.mp (ke.registered fd' mem) with rfl | mem
  · simp at ne
  · exact mem

end Sys.Keeps

/-! ## The log -/

namespace Sys.Keeps

/-- The log is closed, if it was open. -/
lemma logClose (ke : s.Keeps own regs) :
    ∃ s', logCloseFileUnlocked s = some s' ∧ s'.logFp = none ∧ s'.Keeps own regs := by
  rw [logCloseFileUnlocked]
  cases found : s.logFp with
  | none => exact ⟨s, rfl, found, ke⟩
  | some fd =>
    have holds : s.custody.Holds (fd :: own) := by
      have holds := ke.holds
      rw [found] at holds
      exact holds
    obtain ⟨c, eq, ho⟩ := holds.release
    exact ⟨{ s with custody := c, logFp := none }, by simp only [Sys.release, eq, Option.map_some], rfl, ho,
      ke.registered⟩

/-- Whether or not the log can be opened, nothing else is held. -/
lemma logOpen (ke : s.Keeps own regs) (os : LogOpen) :
    ∃ s', logOpenFileUnlocked os s = some s' ∧ s'.Keeps own regs := by
  rw [logOpenFileUnlocked]
  split
  · exact ⟨s, rfl, ke⟩
  · rename_i wanted
    have closed : s.logFp = none := by
      simp only [Bool.or_eq_true, not_or, Bool.not_eq_true, Option.isSome_eq_false_iff,
        Option.isNone_iff_eq_none] at wanted
      exact wanted.2
    rcases ke.acquire os.openFile with ⟨-, eq⟩ | ⟨s1, fd, ok, eq, ke1⟩
    · rw [eq]
      exact ⟨s, rfl, ke⟩
    · rw [eq]
      dsimp only
      split
      · have still : s1.logFp = none := by
          rw [Sys.acquire, if_pos ok] at eq
          cases eq
          exact closed
        have holds := ke1.holds
        rw [still] at holds
        exact ⟨_, rfl, holds, ke1.registered⟩
      · exact ke1.release

/-- Rotating closes the log, and opens it again. -/
lemma logRotate (ke : s.Keeps own regs) (os : LogOpen) :
    ∃ s', logRotateFileUnlocked os s = some s' ∧ s'.Keeps own regs := by
  obtain ⟨s1, eq1, -, ke1⟩ := ke.logClose
  rw [logRotateFileUnlocked, eq1, Option.bind_some]
  exact ke1.logOpen os

/-- A message leaves what is held as it is, but for the log. -/
lemma logWrite (ke : s.Keeps own regs) (w : LogWrite) :
    ∃ s', logWriteFileUnlocked w s = some s' ∧ s'.Keeps own regs := by
  obtain ⟨s1, eq1, ke1⟩ := ke.logOpen w.first
  simp only [logWriteFileUnlocked, eq1, Option.bind_eq_bind, Option.bind_some]
  split
  · exact ke1.logRotate w.again
  · exact ⟨s1, rfl, ke1⟩

/-- By induction on the messages. -/
lemma logWrites (ke : s.Keeps own regs) (ws : List LogWrite) :
    ∃ s', Lifetime.logWrites ws s = some s' ∧ s'.Keeps own regs := by
  induction ws generalizing s with
  | nil => exact ⟨s, rfl, ke⟩
  | cons w ws ih =>
    obtain ⟨s1, eq1, ke1⟩ := ke.logWrite w
    obtain ⟨s2, eq2, ke2⟩ := ih ke1
    exact ⟨s2, by rw [Lifetime.logWrites, eq1, Option.bind_some, eq2], ke2⟩

/-- Another file takes the place of the one that was open. -/
lemma logSetFile (ke : s.Keeps own regs) (os : LogOpen) :
    ∃ s', Lifetime.logSetFile os s = some s' ∧ s'.Keeps own regs := by
  have ke : ({ s with logFile := true } : Sys).Keeps own regs := ⟨ke.holds, ke.registered⟩
  obtain ⟨s1, eq1, -, ke1⟩ := ke.logClose
  rw [Lifetime.logSetFile, eq1, Option.bind_some]
  exact ke1.logOpen os

end Sys.Keeps

/-- The rules for one descriptor in front of the others. -/
lemma released (ke : s.Keeps ([id] ++ own) regs) : ∃ s', s.release id = some s' ∧ s'.Keeps own regs :=
  ke.release

/-- The same for the list of a phase. -/
lemma removed (ke : s.Keeps own ([fd] ++ regs)) (reactor : r ∈ own) :
    ∃ s', s.removeFd r fd = some s' ∧ s'.Keeps own regs :=
  ke.removeFd reactor

/-! ## The reactor gives everything back -/

/-- The descriptors of the reactor that it registers with itself. -/
def Reactor.ownFds (r : Reactor) : List Nat := r.eventFd.toList ++ r.signalFd.toList

/-- The reactor is among what it holds. -/
lemma Reactor.object_mem (r : Reactor) : r.object ∈ r.refs := by simp [Reactor.refs]

/-- `reactor_cleanup_internal` gives everything back. -/
lemma reactorCleanupInternal_spec {r : Reactor} (ke : s.Keeps (r.refs ++ frame) regs) :
    ∃ s', reactorCleanupInternal s r = some s' ∧ s'.Keeps frame [] := by
  have ke : ({ s with handlers := [] } : Sys).Keeps (r.refs ++ frame) [] := ⟨ke.holds, nofun⟩
  exact ke.releaseAll

/-- So does `reactor_destroy`. -/
lemma reactorDestroy_spec {r : Reactor} (ke : s.Keeps (r.refs ++ frame) regs) :
    ∃ s', reactorDestroy s r = some s' ∧ s'.Keeps frame [] := by
  obtain ⟨s', eq, ke'⟩ := reactorCleanupInternal_spec ke
  refine ⟨s', ?_, ke'⟩
  rw [reactorDestroy, ke.use (List.mem_append_left _ r.object_mem)]
  exact eq

/-- `reactor_create` takes all that it needs, or nothing. -/
lemma reactorCreate_spec (os : ReactorOs) (ke : s.Keeps frame []) :
    ∃ s' r, reactorCreate os s = some (s', r) ∧
      s'.Keeps (r.elim [] Reactor.refs ++ frame) (r.elim [] Reactor.ownFds) := by
  simp only [reactorCreate]
  rcases ke.acquire os.object with ⟨-, eq⟩ | ⟨s1, object, -, eq, ke1⟩
  · rw [eq]
    rcases ke.acquire os.privateData with ⟨-, eq⟩ | ⟨s2, privateData, -, eq, ke2⟩
    · rw [eq]
      exact ⟨s, none, rfl, ke⟩
    · rw [eq]
      have ke2 : s2.Keeps ([privateData] ++ frame) [] := ke2
      obtain ⟨s3, eq, ke3⟩ := ke2.releaseAll
      exact ⟨s3, none, by simp [eq], ke3⟩
  · rw [eq]
    rcases ke1.acquire os.privateData with ⟨-, eq⟩ | ⟨s2, privateData, -, eq, ke2⟩
    · rw [eq]
      have ke1 : s1.Keeps ([object] ++ frame) [] := ke1
      obtain ⟨s3, eq, ke3⟩ := ke1.releaseAll
      exact ⟨s3, none, by simp [eq], ke3⟩
    · rw [eq]
      -- from here on every failure goes through `reactor_cleanup_internal`
      have fail : ∀ {s : Sys} {r : Reactor} {regs : List Nat}, s.Keeps (r.refs ++ frame) regs →
          ∃ s' r', (reactorCleanupInternal s r).map (fun s => (s, (none : Option Reactor))) = some (s', r') ∧
            s'.Keeps (r'.elim [] Reactor.refs ++ frame) (r'.elim [] Reactor.ownFds) := by
        intro s r regs ke
        obtain ⟨s', eq, ke'⟩ := reactorCleanupInternal_spec ke
        exact ⟨s', none, by rw [eq, Option.map_some], ke'⟩
      dsimp only
      rcases ke2.acquire os.epoll with ⟨-, eq⟩ | ⟨s3, epoll, -, eq, ke3⟩
      · rw [eq]
        exact fail (ke2.perm (by simp [Reactor.refs]))
      · rw [eq]
        dsimp only
        rcases ke3.acquire os.eventfd with ⟨-, eq⟩ | ⟨s4, event, -, eq, ke4⟩
        · rw [eq]
          exact fail (ke3.perm (by simp [Reactor.refs]))
        · rw [eq]
          dsimp only
          rcases ke4.acquire os.signalfd with ⟨-, eq⟩ | ⟨s5, signal, -, eq, ke5⟩
          · rw [eq]
            exact fail (ke4.perm (by simp [Reactor.refs]))
          · rw [eq]
            have ke5 : s5.Keeps
                ((⟨object, privateData, some epoll, some event, some signal⟩ : Reactor).refs ++ frame) [] := ke5
            have held : ∀ x ∈ [object, signal, event],
                x ∈ (⟨object, privateData, some epoll, some event, some signal⟩ : Reactor).refs ++ frame := by
              simp [Reactor.refs]
            obtain ⟨s6, eq6, ke6⟩ := ke5.addFd (held object (by simp)) (held signal (by simp)) os.addSignal
            simp only [eq6, Option.bind_eq_bind, Option.bind_some]
            cases added : os.addSignal with
            | false => exact fail ke6
            | true =>
              obtain ⟨s7, eq7, ke7⟩ := ke6.addFd (held object (by simp)) (held event (by simp)) os.addEvent
              simp only [Bool.not_true, Bool.false_eq_true, ↓reduceIte, eq7, Option.bind_some]
              cases added' : os.addEvent with
              | false => exact fail ke7
              | true =>
                rw [added, added'] at ke7
                exact ⟨s7, _, rfl, ke7⟩

/-! ## The netlink sockets -/

variable {n n' : Netlink}

/-- The descriptors that netlink has registered. -/
def Netlink.ownFds (n : Netlink) : List Nat := if n.xfrmRegistered then n.xfrmFd.toList else []

/-- The pointers are to what is among `live`, and the flags tell what they say. -/
structure Netlink.Attached (n : Netlink) (live : List Nat) : Prop where
  xfrm : ∀ x ∈ n.xfrmReactor, x ∈ live
  debounce : ∀ x ∈ n.debounceReactor, x ∈ live
  registered : n.xfrmRegistered = n.xfrmReactor.isSome
  timer : n.debounceTimer = true → n.debounceReactor.isSome

/-- Without sockets nothing is attached. -/
lemma Netlink.Attached.closed (live : List Nat) : Netlink.closed.Attached live := ⟨nofun, nofun, rfl, nofun⟩

/-- What is attached stays so with more at hand. -/
lemma Netlink.Attached.mono (at' : n.Attached live) (sub : ∀ x ∈ live, x ∈ own) : n.Attached own :=
  ⟨fun x mem => sub x (at'.xfrm x mem), fun x mem => sub x (at'.debounce x mem), at'.registered, at'.timer⟩

/-- A socket that cannot be bound is closed again. -/
lemma openNetlinkSocket_spec (ke : s.Keeps own regs) (socket bind : Bool) :
    ∃ s' fd, openNetlinkSocket s socket bind = some (s', fd) ∧ s'.Keeps (fd.toList ++ own) regs := by
  rw [openNetlinkSocket]
  rcases ke.acquire socket with ⟨-, eq⟩ | ⟨s1, fd, -, eq, ke1⟩
  · rw [eq]
    exact ⟨s, none, rfl, ke⟩
  · rw [eq]
    cases bind with
    | true => exact ⟨s1, some fd, rfl, ke1⟩
    | false =>
      obtain ⟨s2, eq2, ke2⟩ := ke1.release
      exact ⟨s2, none, by simp [eq2], ke2⟩

/-- Both sockets are open, or none is. -/
lemma netlinkInit_spec (os : NetlinkOs) (ke : s.Keeps frame regs) :
    ∃ s' n' ok, netlinkInit os s .closed = some (s', n', ok) ∧ s'.Keeps (n'.refs ++ frame) regs ∧
      n' = { Netlink.closed with syncFd := n'.syncFd, asyncFd := n'.asyncFd } ∧
      (if ok then n'.syncFd.isSome ∧ n'.asyncFd.isSome else n' = .closed) := by
  obtain ⟨s1, sync, eq1, ke1⟩ := openNetlinkSocket_spec ke os.syncSocket os.syncBind
  simp only [netlinkInit, eq1, Option.bind_eq_bind, Option.bind_some]
  cases sync with
  | none => exact ⟨s1, .closed, false, rfl, ke1, rfl, rfl⟩
  | some fd =>
    obtain ⟨s2, async, eq2, ke2⟩ := openNetlinkSocket_spec ke1 os.asyncSocket os.asyncBind
    simp only [eq2, Option.bind_some]
    cases async with
    | none =>
      obtain ⟨s3, eq3, ke3⟩ := released ke2
      simp only [eq3, Option.bind_some]
      exact ⟨s3, .closed, false, rfl, ke3, rfl, rfl⟩
    | some fd' =>
      refine ⟨s2, _, true, rfl, ke2.perm ?_, rfl, rfl, rfl⟩
      exact List.Perm.swap fd fd' frame

/-- The timer is cancelled while the reactor is there. -/
lemma Netlink.Attached.cancelTimer (at' : n.Attached own) (ke : s.Keeps own regs) :
    n.cancelTimer s = some s := by
  rw [Netlink.cancelTimer]
  split
  · rename_i x _ found
    exact ke.use (at'.debounce x found)
  · rfl

/-- The XFRM socket is closed with its handler. -/
lemma Netlink.Attached.closeXfrm (at' : n.Attached own)
    (ke : s.Keeps (n.xfrmFd.toList ++ own) (n.ownFds ++ regs)) :
    ∃ s', n.closeXfrm s = some s' ∧ s'.Keeps own regs := by
  rw [Netlink.ownFds, at'.registered] at ke
  rw [Netlink.closeXfrm]
  cases listener : n.xfrmFd with
  | none =>
    rw [listener] at ke
    refine ⟨s, by cases n.xfrmReactor <;> rfl, ke.holds, ?_⟩
    simpa using ke.registered
  | some fd =>
    rw [listener] at ke
    cases reactor : n.xfrmReactor with
    | none =>
      rw [reactor] at ke
      exact released ke
    | some x =>
      rw [reactor] at ke
      have mem : x ∈ [fd] ++ own := List.mem_append_right [fd] (at'.xfrm x reactor)
      obtain ⟨s1, eq1, ke1⟩ := removed ke mem
      obtain ⟨s2, eq2, ke2⟩ := released ke1
      exact ⟨s2, by simp only [eq1, Option.bind_some, eq2], ke2⟩

/-- Nothing is open behind it, whatever was. -/
lemma netlinkCleanup_spec (at' : n.Attached frame)
    (ke : s.Keeps (n.refs ++ frame) (n.ownFds ++ regs)) :
    ∃ s', netlinkCleanup s n = some (s', .closed) ∧ s'.Keeps frame regs := by
  have handle : (n.debounceTimer && n.debounceReactor.isNone) = false := by
    cases timer : n.debounceTimer with
    | false => rfl
    | true => simp [← Option.not_isSome, at'.timer timer]
  have ke : s.Keeps (n.xfrmFd.toList ++ (n.syncFd.toList ++ n.asyncFd.toList ++ frame))
      (n.ownFds ++ regs) := ke.perm (by simp [Netlink.refs])
  have at1 : n.Attached (n.syncFd.toList ++ n.asyncFd.toList ++ frame) :=
    at'.mono fun _ mem => List.mem_append_right _ mem
  have cancelled := (at1.mono fun _ mem => List.mem_append_right n.xfrmFd.toList mem).cancelTimer ke
  obtain ⟨s1, eq1, ke1⟩ := at1.closeXfrm ke
  obtain ⟨s2, eq2, ke2⟩ := ke1.releaseAll
  refine ⟨s2, ?_, ke2⟩
  simp only [netlinkCleanup, cancelled, eq1, eq2, handle, Option.bind_eq_bind, Option.bind_some]
  rfl

/-- The sockets are open, and the listener is registered. -/
structure Netlink.Listening (n : Netlink) : Prop where
  sync : n.syncFd.isSome
  async : n.asyncFd.isSome
  xfrm : n.xfrmFd.isSome
  registered : n.xfrmRegistered = true

/-- The two steps that attach the sockets to the reactor `r`: if they fail, `netlink_cleanup` can still
give everything back. -/
lemma netlinkAttach_spec (os : NetlinkOs) (mem : r ∈ frame) (sync : n.syncFd.isSome) (async : n.asyncFd.isSome)
    (fresh : n = { Netlink.closed with syncFd := n.syncFd, asyncFd := n.asyncFd })
    (ke : s.Keeps (n.refs ++ frame) regs) :
    ∃ n1 s' n' ok, netlinkSetReactor os s n r = some (s, n1) ∧
      netlinkXfrmInit os s n1 r = some (s', n', ok) ∧ s'.Keeps (n'.refs ++ frame) (n'.ownFds ++ regs) ∧
      n'.Attached [r] ∧ (ok = true → n'.Listening) := by
  generalize n.syncFd = fd0, n.asyncFd = fd1 at fresh sync async
  subst fresh
  refine ⟨{ Netlink.closed with syncFd := fd0, asyncFd := fd1, debounceReactor := some r }, ?_⟩
  have here : ∀ x ∈ some r, x ∈ [r] := fun x hx => List.mem_singleton.mpr (Option.some.inj hx).symm
  obtain ⟨s1, fd, eq1, ke1⟩ := openNetlinkSocket_spec ke os.xfrmSocket os.xfrmBind
  simp only [netlinkXfrmInit, Netlink.closed, eq1, Option.bind_eq_bind, Option.bind_some]
  cases fd with
  | none => exact ⟨s1, _, false, rfl, rfl, ke1, ⟨nofun, here, rfl, nofun⟩, nofun⟩
  | some fd =>
    have held : r ∈ (some fd).toList ++
        ((⟨fd0, fd1, none, false, none, none, false⟩ : Netlink).refs ++ frame) :=
      List.mem_append_right _ (List.mem_append_right _ mem)
    obtain ⟨s2, eq2, ke2⟩ := ke1.addFd held List.mem_cons_self os.addXfrm
    simp only [eq2, Option.bind_some]
    cases added : os.addXfrm with
    | false =>
      rw [added] at ke2
      obtain ⟨s3, eq3, ke3⟩ := released ke2
      simp only [eq3, Option.bind_some, Bool.false_eq_true, ↓reduceIte]
      exact ⟨s3, _, false, rfl, rfl, ke3, ⟨nofun, here, rfl, nofun⟩, nofun⟩
    | true =>
      rw [added] at ke2
      exact ⟨s2, _, true, rfl, rfl, ke2, ⟨here, here, rfl, nofun⟩, fun _ => ⟨sync, async, rfl, rfl⟩⟩

/-- `service_destroy` gives back the service. -/
lemma serviceDestroy_spec {service : Service} (at' : ∀ x ∈ service.reactor, x ∈ frame)
    (ke : s.Keeps (service.object :: frame) regs) :
    ∃ s', serviceDestroy s service = some s' ∧ s'.Keeps frame regs := by
  rw [serviceDestroy]
  cases reactor : service.reactor with
  | none => exact ke.release
  | some x =>
    simp only [ke.use (List.mem_cons_of_mem _ (at' x reactor)), Option.bind_some]
    exact ke.release

/-! ## The API client -/

variable {a a' : Api}

/-- The descriptor that the API client has registered. -/
def Api.ownFds (a : Api) : List Nat := if a.resultRegistered then a.result0.toList else []

/-- The flags of the context tell what it holds, and its pointer is to what is among `live`. -/
structure Api.Attached (a : Api) (live : List Nat) : Prop where
  reactor : ∀ x ∈ a.reactor, x ∈ live
  registered : a.resultRegistered = true → a.reactor.isSome ∧ a.result0.isSome
  zero : a.initialized = false → a = .zero

/-- An API that was not started is not attached. -/
lemma Api.Attached.ofZero (live : List Nat) : Api.zero.Attached live := ⟨nofun, nofun, fun _ => rfl⟩

/-- What is attached stays so with more at hand. -/
lemma Api.Attached.mono (at' : a.Attached live) (sub : ∀ x ∈ live, x ∈ own) : a.Attached own :=
  ⟨fun x mem => sub x (at'.reactor x mem), at'.registered, at'.zero⟩

/-- `api_init` takes its lock, or nothing. -/
lemma apiInit_spec (os : ApiOs) (ke : s.Keeps frame regs) :
    ∃ s' a ok, apiInit os s = some (s', a, ok) ∧ s'.Keeps (a.refs ++ frame) regs ∧
      a = { Api.zero with initialized := ok, nativeLock := a.nativeLock, requestLock := a.requestLock } ∧
      (ok = false → a = .zero) := by
  simp only [apiInit]
  rcases ke.acquire os.nativeLock with ⟨-, eq⟩ | ⟨s1, native, -, eq, ke1⟩
  · rw [eq]
    exact ⟨s, .zero, false, rfl, ke, rfl, fun _ => rfl⟩
  · rw [eq]
    rcases ke1.acquire os.requestLock with ⟨-, eq⟩ | ⟨s2, request, -, eq, ke2⟩
    · obtain ⟨s2, eq2, ke2⟩ := ke1.release
      simp only [eq, eq2, Option.bind_eq_bind, Option.bind_some]
      exact ⟨s2, .zero, false, rfl, ke2, rfl, fun _ => rfl⟩
    · simp only [eq]
      exact ⟨s2, _, true, rfl, ke2.perm (.swap native request frame), rfl, nofun⟩

/-- The result pipe is taken out of the reactor. -/
lemma Api.Attached.unregister (at' : a.Attached own) (ke : s.Keeps own (a.ownFds ++ regs)) :
    ∃ s', a.unregister s = some (s', { a with resultRegistered := false }) ∧ s'.Keeps own regs := by
  obtain ⟨initialized, native, request, result0, result1, wake, reactor, registered, worker⟩ := a
  cases registered with
  | false => exact ⟨s, rfl, ke⟩
  | true =>
    obtain ⟨attached, piped⟩ := at'.registered rfl
    obtain ⟨x, rfl⟩ := Option.isSome_iff_exists.mp attached
    obtain ⟨fd, rfl⟩ := Option.isSome_iff_exists.mp piped
    obtain ⟨s1, eq1, ke1⟩ := removed ke (at'.reactor x rfl)
    exact ⟨s1, by simp [Api.unregister, eq1], ke1⟩

/-- Nothing is left of the client, and doing it twice is harmless. -/
lemma apiCleanup_spec (at' : a.Attached frame) (ke : s.Keeps (a.refs ++ frame) (a.ownFds ++ regs)) :
    ∃ s', apiCleanup s a = some (s', .zero) ∧ s'.Keeps frame regs := by
  cases initialized : a.initialized with
  | false =>
    obtain rfl := at'.zero initialized
    exact ⟨s, rfl, ke⟩
  | true =>
    rw [Api.refs, List.append_assoc] at ke
    obtain ⟨s1, eq1, ke1⟩ := ke.releaseAll
    obtain ⟨s2, eq2, ke2⟩ := (at'.mono fun _ mem => List.mem_append_right _ mem).unregister ke1
    rw [List.append_assoc] at ke2
    obtain ⟨s3, eq3, ke3⟩ := ke2.releaseAll
    obtain ⟨s4, eq4, ke4⟩ := ke3.releaseAll
    refine ⟨s4, ?_, ke4⟩
    simp only [apiCleanup, initialized, Bool.not_true, Bool.false_eq_true, ↓reduceIte, eq1, eq2, eq3, eq4,
      Option.bind_eq_bind, Option.bind_some]

/-- A client whose worker does not run is left without pipe and event descriptor. -/
lemma Api.Attached.fail (at' : a.Attached live) (sub : ∀ x ∈ live, x ∈ frame) (idle : a.worker = none)
    (ke : s.Keeps (a.refs ++ frame) (a.ownFds ++ regs)) :
    ∃ s' a', a.fail s = some (s', a', false) ∧ s'.Keeps (a'.refs ++ frame) (a'.ownFds ++ regs) ∧
      (a.initialized = true → a'.Attached live) := by
  rw [Api.refs, List.append_assoc, idle] at ke
  have at1 : a.Attached (a.result0.toList ++ a.result1.toList ++ a.wakeFd.toList ++
      (a.nativeLock.toList ++ a.requestLock.toList) ++ frame) :=
    at'.mono fun x mem => List.mem_append_right _ (sub x mem)
  obtain ⟨s1, eq1, ke1⟩ := at1.unregister ke
  rw [List.append_assoc] at ke1
  obtain ⟨s2, eq2, ke2⟩ := ke1.releaseAll
  refine ⟨s2,
    { a with result0 := none, result1 := none, wakeFd := none, reactor := none, resultRegistered := false },
    ?_, ?_, fun live => ?_⟩
  · simp only [Api.fail, eq1, eq2, Option.bind_eq_bind, Option.bind_some]
  · rw [Api.refs, idle]
    exact ke2
  · exact ⟨nofun, nofun, fun dead => absurd (live.symm.trans dead) (by simp)⟩

/-- The worker runs, and its result pipe is registered. -/
structure Api.Running (a : Api) : Prop where
  initialized : a.initialized = true
  worker : a.worker.isSome
  registered : a.resultRegistered = true

/-- Whether or not the start succeeds, `api_cleanup` gives everything back. -/
lemma apiStartWithReactor_spec (os : ApiOs) (mem : r ∈ frame)
    (fresh : a =
      { Api.zero with initialized := true, nativeLock := a.nativeLock, requestLock := a.requestLock })
    (ke : s.Keeps (a.refs ++ frame) regs) :
    ∃ s' a' ok, apiStartWithReactor os s a r = some (s', a', ok) ∧
      s'.Keeps (a'.refs ++ frame) (a'.ownFds ++ regs) ∧ a'.Attached [r] ∧ (ok = true → a'.Running) := by
  generalize a.nativeLock = native, a.requestLock = request at fresh
  subst fresh
  have sub : ∀ x ∈ [r], x ∈ frame := fun x hx => List.mem_singleton.mp hx ▸ mem
  simp only [apiStartWithReactor, Api.zero, Bool.not_true, Option.isSome_none, Bool.or_self,
    Bool.false_eq_true, ↓reduceIte]
  rcases ke.acquire os.pipe with ⟨-, eq⟩ | ⟨s1, result0, -, eq, ke1⟩
  · rw [eq]
    exact ⟨s, _, false, rfl, ke, ⟨nofun, nofun, nofun⟩, nofun⟩
  · rw [eq]
    rcases ke1.acquire true with ⟨no, -⟩ | ⟨s2, result1, -, eq, ke2⟩
    · cases no
    · simp only [eq]
      -- the failure path from here on
      have fail : ∀ {s : Sys} {a : Api}, a.Attached [r] → a.initialized = true → a.worker = none →
          s.Keeps (a.refs ++ frame) (a.ownFds ++ regs) → ∃ s' a' ok, a.fail s = some (s', a', ok) ∧
            s'.Keeps (a'.refs ++ frame) (a'.ownFds ++ regs) ∧ a'.Attached [r] ∧ (ok = true → a'.Running) := by
        intro s a at' live idle ke
        obtain ⟨s', a', eq, ke', at''⟩ := at'.fail sub idle ke
        exact ⟨s', a', false, eq, ke', at'' live, nofun⟩
      rcases ke2.acquire os.eventfd with ⟨-, eq⟩ | ⟨s3, wake, -, eq, ke3⟩
      · rw [eq]
        exact fail ⟨nofun, nofun, nofun⟩ rfl rfl (ke2.perm (.swap result0 result1 _))
      · rw [eq]
        have ke3 : s3.Keeps (result0 :: result1 :: wake :: (native.toList ++ request.toList ++ frame)) regs :=
          ke3.perm ((List.Perm.swap result1 wake _).trans (.trans (.cons _ (.swap result0 wake _))
            (.swap result0 result1 _)))
        have held : r ∈ result0 :: result1 :: wake :: (native.toList ++ request.toList ++ frame) := by
          simp [mem]
        obtain ⟨s4, eq4, ke4⟩ := ke3.addFd held List.mem_cons_self os.addResult
        simp only [eq4, Option.bind_eq_bind, Option.bind_some]
        cases added : os.addResult with
        | false =>
          rw [added] at ke4
          refine fail ⟨fun x hx => ?_, nofun, nofun⟩ rfl rfl ke4
          exact List.mem_singleton.mpr (Option.some.inj hx).symm
        | true =>
          rw [added] at ke4
          have at' : Api.Attached
              ⟨true, native, request, some result0, some result1, some wake, some r, true, none⟩ [r] :=
            ⟨fun x hx => List.mem_singleton.mpr (Option.some.inj hx).symm, fun _ => ⟨rfl, rfl⟩, nofun⟩
          simp only [Bool.not_true, Bool.false_eq_true, ↓reduceIte]
          cases os.block with
          | false => exact fail at' rfl rfl ke4
          | true =>
            simp only [Bool.not_true, Bool.false_eq_true, ↓reduceIte]
            rcases ke4.acquire os.thread with ⟨-, eq⟩ | ⟨s5, worker, -, eq, ke5⟩
            · rw [eq]
              exact fail at' rfl rfl ke4
            · rw [eq]
              have at'' : Api.Attached
                  ⟨true, native, request, some result0, some result1, some wake, some r, true, some worker⟩
                  [r] :=
                ⟨at'.reactor, at'.registered, nofun⟩
              dsimp only
              split
              · exact ⟨s5, _, true, rfl, ke5, at'', fun _ => ⟨rfl, rfl, rfl⟩⟩
              · -- the signal mask could not be restored: the worker is stopped again
                obtain ⟨s6, eq6, ke6⟩ := apiCleanup_spec (at''.mono sub) ke5
                simp only [eq6, Option.bind_some]
                exact ⟨s6, .zero, false, rfl, ke6, Api.Attached.ofZero [r], nofun⟩

end Atpd.Daemon.Lifetime
