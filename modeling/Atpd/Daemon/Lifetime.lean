import Atpd.Daemon.Context
import Atpd.Daemon.Init

/-!
# The life of the daemon

`do_start` of `src/main.c` behind `daemonize`, with `run_event_loop`: the lock on the PID file, the phases,
the control socket, the event loop for as long as it runs, and the way down. Every call may fail, and from
every failure the code goes to one of its two cleanups.

`log` is what can be seen from outside, the first entry first: the PID file, the message to the process that
waits for the start, and the event loop.
-/

namespace Atpd.Daemon.Lifetime

open Atpd.Lib

/-- What is seen from outside. -/
inductive Entry where
  /-- The PID file is locked and has the identity of the process. -/
  | locked
  | unlinked
  /-- The supervised service has reached READY. -/
  | ready
  /-- `notify_startup` has written its message. -/
  | notified (success : Bool)
  | loop
deriving DecidableEq, Repr

/-- The variables of `src/uds.c`; a client is its descriptor and its context. -/
structure Uds where
  fd : Option Nat
  path : Bool
  reactor : Option Nat
  idleTimer : Bool
  clients : List (Nat × Nat)
deriving DecidableEq, Repr

/-- No control socket. -/
def Uds.closed : Uds := ⟨none, false, none, false, []⟩

/-- The daemon behind `daemonize`; in the foreground there is no descriptor to notify. -/
structure Process where
  ctx : InitContext
  uds : Uds
  pidFd : Option Nat
  notifyFd : Option Nat
  startupNotified : Bool
  contextInitialized : Bool
  runtime : RuntimeState
  log : List Entry

namespace Process

/-- What is held, with another record. -/
def setSys (d : Process) (s : Sys) : Process := { d with ctx := { d.ctx with sys := s } }

/-- An entry of the log. -/
def tell (d : Process) (e : Entry) : Process := { d with log := d.log ++ [e] }

/-- `LOG_INFO`, `LOG_WARN` and `LOG_ERROR`. -/
def write (d : Process) (ws : List LogWrite) : Option Process := (logWrites ws d.ctx.sys).map d.setSys

/-- `atpd_runtime_state_transition`. -/
def transition (d : Process) (new : RuntimeState) : Process × Bool :=
  if d.runtime = new then (d, true)
  else if runtimeTransitionAllowed d.runtime new then ({ d with runtime := new }, true)
  else (d, false)

end Process

/-- `notify_startup`. -/
def notifyStartup (d : Process) (success : Bool) : Option Process :=
  match d.startupNotified, d.notifyFd with
  | false, some fd =>
    (d.ctx.sys.release fd).map fun s =>
      { (d.setSys s).tell (.notified success) with notifyFd := none, startupNotified := true }
  | _, _ => some d

/-! ## The PID file -/

/-- The calls of `write_pid_file` that succeed. -/
structure PidOs where
  identity : Bool
  pathFits : Bool
  directory : Bool
  openFile : Bool
  lock : Bool
  write : Bool
deriving DecidableEq, Repr

/-- The process gets the lock on the file. -/
def PidOs.locks (os : PidOs) : Bool := os.identity && os.pathFits && os.directory && os.openFile && os.lock

/-- `write_pid_file`. -/
def writePidFile (os : PidOs) (d : Process) : Option (Process × Bool) :=
  if !os.identity || !os.pathFits || !os.directory then some (d, false)
  else
    match d.ctx.sys.acquire os.openFile with
    | (s, none) => some (d.setSys s, false)
    | (s, some fd) =>
      if !os.lock then (s.release fd).map fun s => (d.setSys s, false)
      else if !os.write then (s.release fd).map fun s => ((d.setSys s).tell .unlinked, false)
      else some ({ (d.setSys s).tell .locked with pidFd := some fd }, true)

/-- The label `cleanup_return` of `do_start`, once the PID file is written. -/
def cleanupReturn (d : Process) : Option Process :=
  (d.ctx.sys.releaseAll d.pidFd.toList).map fun s => { (d.setSys s).tell .unlinked with pidFd := none }

/-! ## The control socket -/

/-- The calls of `uds_init` that succeed. -/
structure UdsOs where
  pathFits : Bool
  prepare : Bool
  socket : Bool
  bind : Bool
  chmod : Bool
  listen : Bool
  add : Bool
  timer : Bool
deriving DecidableEq, Repr

/-- `uds_init`. -/
def udsInit (os : UdsOs) (s : Sys) (u : Uds) (r : Nat) : Option (Sys × Uds × Bool) :=
  if !os.pathFits then some (s, u, false)
  else
    let u := { u with reactor := some r, path := true }
    if !os.prepare then some (s, u, false)
    else
      match s.acquire os.socket with
      | (s, none) => some (s, { u with fd := none }, false)
      | (s, some fd) =>
        if !os.bind || !os.chmod || !os.listen then
          (s.release fd).map fun s => (s, { u with fd := none }, false)
        else
          (s.addFd r fd os.add).bind fun (s, added) =>
            if !added then (s.release fd).map fun s => (s, { u with fd := none }, false)
            else if os.timer then some (s, { u with fd := some fd, idleTimer := true }, true)
            else
              (s.removeFd r fd).bind fun s =>
                (s.release fd).map fun s => (s, { u with fd := none, idleTimer := false }, false)

/-- `reactor_remove_fd` on a client, which calls `uds_client_free`. -/
def udsClientClose (s : Sys) (r : Nat) (client : Nat × Nat) : Option Sys :=
  (s.removeFd r client.1).bind fun s => s.releaseAll [client.1, client.2]

/-- `uds_client_close` on each client. -/
def closeClients (r : Nat) : List (Nat × Nat) → Sys → Option Sys
  | [], s => some s
  | client :: clients, s => (udsClientClose s r client).bind (closeClients r clients)

/-- The idle timer is cancelled. -/
def Uds.cancelTimer (u : Uds) (s : Sys) (r : Nat) : Option Sys := if u.idleTimer then s.use r else some s

/-- The listening socket is closed, with its handler. -/
def Uds.closeListener (u : Uds) (s : Sys) (r : Nat) : Option Sys :=
  match u.fd with
  | some fd => (s.removeFd r fd).bind fun s => s.release fd
  | none => some s

/-- `uds_cleanup`. -/
def udsCleanup (s : Sys) (u : Uds) : Option (Sys × Uds) :=
  match u.reactor with
  | some r => do
    let s ← u.cancelTimer s r
    let s ← closeClients r u.clients s
    let s ← u.closeListener s r
    some (s, .closed)
  | none =>
    -- without a reactor there are no clients
    (s.releaseAll u.fd.toList).map fun s =>
      (s, { Uds.closed with idleTimer := u.idleTimer, clients := u.clients })

/-! ## The event loop -/

/-- What the loop does with what is held. -/
inductive LoopEvent where
  /-- `uds_accept_cb`, for one connection. -/
  | accept (allowed alloc add : Bool)
  /-- `uds_client_close`, on the client at this place of the list. -/
  | close (i : Nat)
  /-- The debounce timer is armed, or has fired. -/
  | debounce (armed : Bool)
  /-- Any callback writes a message. -/
  | message (w : LogWrite)
deriving DecidableEq, Repr

/-- The control socket, with what it holds. -/
def Process.setUds (d : Process) (s : Sys) (u : Uds) : Process := { d.setSys s with uds := u }

/-- One callback, with the reactor `r`. -/
def loopStep (r : Nat) (d : Process) : LoopEvent → Option Process
  | .accept allowed alloc add =>
    match d.ctx.sys.acquire true with
    | (s, none) => some (d.setSys s)
    | (s, some fd) =>
      if !allowed then (s.release fd).map d.setSys
      else
        match s.acquire alloc with
        | (s, none) => (s.release fd).map d.setSys
        | (s, some client) =>
          (s.addFd r fd add).bind fun (s, added) =>
            if added then some (d.setUds s { d.uds with clients := (fd, client) :: d.uds.clients })
            else (s.releaseAll [fd, client]).map d.setSys
  | .close i =>
    match d.uds.clients[i]? with
    | none => some d
    | some client =>
      (udsClientClose d.ctx.sys r client).map fun s =>
        d.setUds s { d.uds with clients := d.uds.clients.eraseIdx i }
  | .debounce armed =>
    match d.ctx.netlink.debounceReactor with
    | none => some d
    | some r =>
      (d.ctx.sys.use r).map fun _ =>
        { d with ctx := { d.ctx with netlink := { d.ctx.netlink with debounceTimer := armed } } }
  | .message w => d.write [w]

/-- What happens in the loop, one after the other. -/
def loopRun (r : Nat) : List LoopEvent → Process → Option Process
  | [], d => some d
  | e :: es, d => (loopStep r d e).bind (loopRun r es)

/-- The outcomes of `run_event_loop`, with what happens in the loop, and the messages before and behind
it. -/
structure LoopOs where
  before : List LogWrite
  signals : Bool
  addNetlink : Bool
  uds : UdsOs
  start : Bool
  ready : Bool
  events : List LoopEvent
  /-- The loop is left in STOPPING. -/
  stopping : Bool
  behind : List LogWrite

/-- The socket for link events, if there is one, is registered. -/
def attachNetlink (s : Sys) (n : Netlink) (r : Nat) (ok : Bool) : Option (Sys × Bool) :=
  match n.asyncFd with
  | some fd => s.addFd r fd ok
  | none => some (s, true)

/-- `run_event_loop` up to `service_start_async`. -/
def eventLoopSetup (os : LoopOs) (d : Process) (r : Nat) : Option (Process × Bool) :=
  if !os.signals then some (d, false)
  else
    (attachNetlink d.ctx.sys d.ctx.netlink r os.addNetlink).bind fun (s, added) =>
      if !added || d.ctx.service.isNone then some (d.setSys s, false)
      else (udsInit os.uds s d.uds r).map fun (s, u, ok) => (d.setUds s u, ok && os.start)

/-- `run_event_loop` from the label `cleanup`. -/
def eventLoopCleanup (os : LoopOs) (d : Process) (result : Bool) : Option (Process × Bool) := do
  let d := if !result && d.runtime = .running then (d.transition .stopping).1 else d
  let d ← d.write os.behind
  let (s, u) ← udsCleanup d.ctx.sys d.uds
  let c ← cleanupService { d.ctx with sys := s }
  let (s, a) ← apiCleanup c.sys c.api
  let (s, n) ← netlinkCleanup s c.netlink
  let c ← cleanupReactor { c with sys := s, api := a, netlink := n, vpnModeCallback := false }
  let (d, published) := { d with ctx := c, uds := u }.transition .stopped
  let d ← notifyStartup d (result && published)
  some (d, result && published)

/-- `run_event_loop`. -/
def runEventLoop (os : LoopOs) (d : Process) : Option (Process × Bool) := do
  let d ← d.write os.before
  match d.ctx.reactor with
  | none => eventLoopCleanup os d false
  | some r =>
    let (d, ok) ← eventLoopSetup os d r.object
    if !ok then eventLoopCleanup os d false
    else if !os.ready then
      let d ← notifyStartup d false
      eventLoopCleanup os d false
    else
      let d ← notifyStartup (d.tell .ready) true
      let d ← loopRun r.object os.events (d.tell .loop)
      eventLoopCleanup os (if os.stopping then (d.transition .stopping).1 else d) true

/-! ## `do_start` -/

/-- The outcomes of `do_start`. -/
structure StartOs where
  pid : PidOs
  init : InitOs
  loop : LoopOs

/-- A failure behind `write_pid_file`. -/
def startFail (d : Process) : Option (Process × Bool) := do
  let d ← notifyStartup d false
  let d ← cleanupReturn d
  some (d, false)

/-- `do_start` behind the transition to INITIALIZING. -/
def startComponents (os : StartOs) (d : Process) : Option (Process × Bool) := do
  let (g, ok) ← atpdInitRun os.init d.ctx
  let d := { d with ctx := g.state }
  if !ok then startFail (d.transition .failed).1
  else
    let (d, result) ← runEventLoop os.loop (d.transition .running).1
    let d ← cleanupReturn d
    some (d, result)

/-- `do_start` behind `write_pid_file`. -/
def startLocked (os : StartOs) (d : Process) : Option (Process × Bool) :=
  if d.contextInitialized then startFail d
  else
    match { d with contextInitialized := true, runtime := .uninitialized }.transition .initializing with
    | (d, false) => startFail d
    | (d, true) => startComponents os d

/-- `do_start` behind `daemonize`; `true` for the status 0. -/
def doStart (os : StartOs) (d : Process) : Option (Process × Bool) :=
  match writePidFile os.pid d with
  | none => none
  | some (d, false) => (notifyStartup d false).map fun d => (d, false)
  | some (d, true) => startLocked os d

/-! ## The small steps -/

variable {d d' : Process} {s : Sys} {u : Uds} {own frame regs : List Nat} {r : Nat}

/-- The message of `notify_startup`, if somebody waits for it. -/
def told (d : Process) (success : Bool) : List Entry := d.notifyFd.toList.map fun _ => .notified success

/-- Somebody is notified once. -/
def Process.Pending (d : Process) : Prop := d.startupNotified = true → d.notifyFd = none

/-- The waiting process is told, and its pipe is closed. -/
lemma notifyStartup_spec (success : Bool) (pe : d.Pending)
    (ke : d.ctx.sys.Keeps (d.notifyFd.toList ++ own) regs) :
    ∃ s n, notifyStartup d success =
        some { d.setSys s with notifyFd := none, startupNotified := n, log := d.log ++ told d success } ∧
      s.Keeps own regs := by
  cases fd : d.notifyFd with
  | none =>
    rw [fd] at ke
    refine ⟨d.ctx.sys, d.startupNotified, ?_, ke⟩
    obtain ⟨ctx, uds, pidFd, notifyFd, notified, initialized, runtime, log⟩ := d
    cases fd
    simp [notifyStartup, told, Process.setSys]
  | some fd' =>
    rw [fd] at ke
    obtain ⟨s, eq, ke'⟩ := released ke
    have fresh : d.startupNotified = false := Bool.eq_false_iff.mpr fun yes => by simp [pe yes] at fd
    refine ⟨s, true, ?_, ke'⟩
    rw [notifyStartup, fresh, fd]
    simp only [eq, Option.map_some, told, fd]
    rfl

/-- What `write_pid_file` leaves to be seen: a file that it has locked and cannot write is unlinked. -/
inductive PidStory (os : PidOs) : List Entry → Bool → Prop where
  | refused (lock : os.locks = false) : PidStory os [] false
  | unwritten (lock : os.locks = true) (write : os.write = false) : PidStory os [.unlinked] false
  | written (lock : os.locks = true) (write : os.write = true) : PidStory os [.locked] true

/-- The file is locked and written, or nothing is open. -/
lemma writePidFile_spec (os : PidOs) (fresh : d.pidFd = none) (ke : d.ctx.sys.Keeps own regs) :
    ∃ s fd e, writePidFile os d = some ({ d.setSys s with pidFd := fd, log := d.log ++ e }, fd.isSome) ∧
      s.Keeps (fd.toList ++ own) regs ∧ PidStory os e fd.isSome := by
  obtain ⟨ctx, uds, pidFd, notifyFd, notified, initialized, runtime, log⟩ := d
  subst fresh
  rw [writePidFile]
  split
  · rename_i early
    have no : os.locks = false := by
      by_contra yes
      simp only [PidOs.locks, Bool.not_eq_false, Bool.and_eq_true] at yes
      simp [yes] at early
    exact ⟨ctx.sys, none, [], by simp [Process.setSys], ke, .refused no⟩
  · rename_i late
    simp only [Bool.or_eq_true, Bool.not_eq_true', not_or, Bool.not_eq_false] at late
    rcases ke.acquire os.openFile with ⟨closed, eq⟩ | ⟨s1, fd, opened, eq, ke1⟩
    · rw [eq]
      exact ⟨ctx.sys, none, [], by simp [Process.setSys], ke, .refused (by simp [PidOs.locks, closed])⟩
    · rw [eq]
      have locks : os.locks = os.lock := by simp [PidOs.locks, late, opened]
      obtain ⟨s2, eq2, ke2⟩ := ke1.release
      simp only [eq2, Option.map_some]
      cases lock : os.lock with
      | false => exact ⟨s2, none, [], by simp [Process.setSys], ke2, .refused (locks.trans lock)⟩
      | true =>
        cases write : os.write with
        | false => exact ⟨s2, none, [.unlinked], rfl, ke2, .unwritten (locks.trans lock) write⟩
        | true => exact ⟨s1, some fd, [.locked], rfl, ke1, .written (locks.trans lock) write⟩

/-- The PID file is closed. -/
lemma cleanupReturn_spec (ke : d.ctx.sys.Keeps (d.pidFd.toList ++ own) regs) :
    ∃ s, cleanupReturn d = some { d.setSys s with pidFd := none, log := d.log ++ [.unlinked] } ∧
      s.Keeps own regs := by
  obtain ⟨s, eq, ke'⟩ := ke.releaseAll
  exact ⟨s, by rw [cleanupReturn, eq]; rfl, ke'⟩

/-- A start that fails tells so, and unlinks the PID file. -/
lemma startFail_spec (pe : d.Pending)
    (ke : d.ctx.sys.Keeps (d.notifyFd.toList ++ (d.pidFd.toList ++ own)) regs) :
    ∃ d', startFail d = some (d', false) ∧ d'.ctx.sys.Keeps own regs ∧
      d'.log = d.log ++ (told d false ++ [.unlinked]) := by
  obtain ⟨s1, n, eq1, ke1⟩ := notifyStartup_spec false pe ke
  obtain ⟨s2, eq2, ke2⟩ := cleanupReturn_spec
    (d := { d.setSys s1 with notifyFd := none, startupNotified := n, log := d.log ++ told d false }) ke1
  refine ⟨_, by rw [startFail, eq1, Option.bind_eq_bind, Option.bind_some, eq2]; rfl, ke2, ?_⟩
  exact List.append_assoc ..

/-! ## The control socket -/

/-- The descriptors and contexts of the control socket. -/
def Uds.refs (u : Uds) : List Nat := u.clients.flatMap (fun c => [c.1, c.2]) ++ u.fd.toList

/-- Its registered descriptors. -/
def Uds.fds (u : Uds) : List Nat := u.clients.map Prod.fst ++ u.fd.toList

/-- The pointer is to what is among `live`, and without it there is nothing. -/
structure Uds.Attached (u : Uds) (live : List Nat) : Prop where
  reactor : ∀ x ∈ u.reactor, x ∈ live
  none : u.reactor = none → u.fd = none ∧ u.idleTimer = false ∧ u.clients = []

/-- `uds_init` has the socket listen, or leaves nothing. -/
lemma udsInit_spec (os : UdsOs) (mem : r ∈ frame) (ke : s.Keeps frame regs) :
    ∃ s' u ok, udsInit os s .closed r = some (s', u, ok) ∧ s'.Keeps (u.refs ++ frame) (u.fds ++ regs) ∧
      u.Attached [r] ∧ (ok = true → u.reactor.isSome) := by
  have here : ∀ x ∈ some r, x ∈ [r] := fun x hx => List.mem_singleton.mpr (Option.some.inj hx).symm
  rw [udsInit]
  split
  · exact ⟨s, _, false, rfl, ke, ⟨nofun, fun _ => ⟨rfl, rfl, rfl⟩⟩, nofun⟩
  · dsimp only
    split
    · exact ⟨s, _, false, rfl, ke, ⟨here, nofun⟩, nofun⟩
    · rcases ke.acquire os.socket with ⟨-, eq⟩ | ⟨s1, fd, -, eq, ke1⟩
      · rw [eq]
        exact ⟨s, _, false, rfl, ke, ⟨here, nofun⟩, nofun⟩
      · rw [eq]
        dsimp only
        split
        · obtain ⟨s2, eq2, ke2⟩ := ke1.release
          rw [eq2]
          exact ⟨s2, _, false, rfl, ke2, ⟨here, nofun⟩, nofun⟩
        · obtain ⟨s2, eq2, ke2⟩ := ke1.addFd (List.mem_cons_of_mem fd mem) List.mem_cons_self os.add
          rw [eq2, Option.bind_some]
          dsimp only
          cases added : os.add with
          | false =>
            rw [added] at ke2
            obtain ⟨s3, eq3, ke3⟩ := ke2.release
            simp only [Bool.not_false, ↓reduceIte, eq3]
            exact ⟨s3, _, false, rfl, ke3, ⟨here, nofun⟩, nofun⟩
          | true =>
            rw [added] at ke2
            simp only [Bool.not_true, Bool.false_eq_true, ↓reduceIte]
            split
            · exact ⟨s2, _, true, rfl, ke2, ⟨here, nofun⟩, fun _ => rfl⟩
            · obtain ⟨s3, eq3, ke3⟩ := ke2.removeFd (List.mem_cons_of_mem fd mem)
              obtain ⟨s4, eq4, ke4⟩ := ke3.release
              simp only [eq3, Option.bind_some, eq4]
              exact ⟨s4, _, false, rfl, ke4, ⟨here, nofun⟩, nofun⟩

/-- A client is given back with its handler. -/
lemma udsClientClose_spec {client : Nat × Nat} (mem : r ∈ own)
    (ke : s.Keeps (client.1 :: client.2 :: own) (client.1 :: regs)) :
    ∃ s', udsClientClose s r client = some s' ∧ s'.Keeps own regs := by
  obtain ⟨s1, eq1, ke1⟩ := ke.removeFd (List.mem_cons_of_mem _ (List.mem_cons_of_mem _ mem))
  have ke1 : s1.Keeps ([client.1, client.2] ++ own) regs := ke1
  obtain ⟨s2, eq2, ke2⟩ := ke1.releaseAll
  exact ⟨s2, by rw [udsClientClose, eq1, Option.bind_some, eq2], ke2⟩

/-- By induction on the clients. -/
lemma closeClients_spec {clients : List (Nat × Nat)} (mem : r ∈ own)
    (ke : s.Keeps (clients.flatMap (fun c => [c.1, c.2]) ++ own) (clients.map Prod.fst ++ regs)) :
    ∃ s', closeClients r clients s = some s' ∧ s'.Keeps own regs := by
  induction clients generalizing s with
  | nil => exact ⟨s, rfl, ke⟩
  | cons client clients ih =>
    obtain ⟨s1, eq1, ke1⟩ := udsClientClose_spec
      (List.mem_append_right (clients.flatMap fun c => [c.1, c.2]) mem) ke
    obtain ⟨s2, eq2, ke2⟩ := ih ke1
    exact ⟨s2, by rw [closeClients, eq1, Option.bind_some, eq2], ke2⟩

/-- `uds_cleanup` gives back what `uds_init` and the clients have taken. -/
lemma udsCleanup_spec (at' : u.Attached frame) (ke : s.Keeps (u.refs ++ frame) (u.fds ++ regs)) :
    ∃ s', udsCleanup s u = some (s', .closed) ∧ s'.Keeps frame regs := by
  rw [Uds.refs, Uds.fds, List.append_assoc, List.append_assoc] at ke
  obtain ⟨fd, path, reactor, timer, clients⟩ := u
  cases reactor with
  | none =>
    obtain ⟨rfl, rfl, rfl⟩ := at'.none rfl
    exact ⟨s, rfl, ke⟩
  | some r =>
    have mem : r ∈ frame := at'.reactor r rfl
    have cancelled : Uds.cancelTimer ⟨fd, path, some r, timer, clients⟩ s r = some s := by
      rw [Uds.cancelTimer]
      split
      · exact ke.use (List.mem_append_right _ (List.mem_append_right _ mem))
      · rfl
    obtain ⟨s1, eq1, ke1⟩ := closeClients_spec (List.mem_append_right _ mem) ke
    simp only [udsCleanup, cancelled, eq1, Option.bind_eq_bind, Option.bind_some]
    cases fd with
    | none => exact ⟨s1, rfl, ke1⟩
    | some fd =>
      obtain ⟨s2, eq2, ke2⟩ := removed ke1 (List.mem_append_right _ mem)
      obtain ⟨s3, eq3, ke3⟩ := released ke2
      simp only [Uds.closeListener, eq2, eq3, Option.bind_some]
      exact ⟨s3, rfl, ke3⟩

/-! ## Inside `run_event_loop` -/

/-- The reactor is `R`; what is held are the components, the clients, who waits for the start, and `own`. -/
structure Process.Up (R : Reactor) (own : List Nat) (d : Process) : Prop where
  reactor : d.ctx.reactor = some R
  keeps : ∃ regs, d.ctx.sys.Keeps (d.uds.refs ++ (d.ctx.refs ++ (d.notifyFd.toList ++ own)))
    (d.uds.fds ++ (d.ctx.api.ownFds ++ (d.ctx.netlink.ownFds ++ regs)))
  pending : d.Pending
  udsAt : d.uds.Attached [R.object]
  netlinkAt : d.ctx.netlink.Attached d.ctx.reactorRefs
  serviceAt : ∀ x ∈ d.ctx.service, ∀ r ∈ x.reactor, r ∈ d.ctx.reactorRefs
  apiAt : d.ctx.api.Attached d.ctx.reactorRefs

/-- What the loop leaves alone. -/
structure Process.Same (d d' : Process) : Prop where
  log : d'.log = d.log
  notifyFd : d'.notifyFd = d.notifyFd
  pidFd : d'.pidFd = d.pidFd
  runtime : d'.runtime = d.runtime

variable {R : Reactor}

/-- The reactor is held as long as the daemon is up. -/
lemma Process.Up.mem_refs (up : d.Up R own) : R.object ∈ d.ctx.refs := by
  have mem : R.object ∈ d.ctx.reactorRefs := by
    rw [InitContext.reactorRefs, up.reactor]
    exact R.object_mem
  exact List.mem_append_right _ (List.mem_append_right _ (List.mem_append_right _ mem))

/-- A message does not change what is held, but for the log. -/
lemma Process.Up.write (up : d.Up R own) (ws : List LogWrite) :
    ∃ s, d.write ws = some (d.setSys s) ∧ (d.setSys s).Up R own := by
  obtain ⟨regs, ke⟩ := up.keeps
  obtain ⟨s, eq, ke'⟩ := ke.logWrites ws
  exact ⟨s, by rw [Process.write, eq, Option.map_some], up.reactor, ⟨regs, ke'⟩, up.pending, up.udsAt,
    up.netlinkAt, up.serviceAt, up.apiAt⟩

/-- The control socket and what is held change. -/
lemma Process.Up.setUds (up : d.Up R own) (at' : u.Attached [R.object])
    (ke : ∃ regs, s.Keeps (u.refs ++ (d.ctx.refs ++ (d.notifyFd.toList ++ own)))
      (u.fds ++ (d.ctx.api.ownFds ++ (d.ctx.netlink.ownFds ++ regs)))) : (d.setUds s u).Up R own :=
  ⟨up.reactor, ke, up.pending, at', up.netlinkAt, up.serviceAt, up.apiAt⟩

/-- The netlink sockets are registered, as far as that works. -/
lemma attachNetlink_spec {n : Netlink} (ok : Bool) (mem : r ∈ own) (sub : ∀ x ∈ n.asyncFd, x ∈ own)
    (ke : s.Keeps own regs) : ∃ s' added regs', attachNetlink s n r ok = some (s', added) ∧
      s'.Keeps own (regs' ++ regs) := by
  rw [attachNetlink]
  split
  · rename_i fd found
    obtain ⟨s1, eq1, ke1⟩ := ke.addFd mem (sub fd found) ok
    cases ok with
    | false => exact ⟨s1, _, [], eq1, ke1⟩
    | true => exact ⟨s1, _, [fd], eq1, ke1⟩
  · exact ⟨s, true, [], rfl, ke⟩

/-- The preparation of the loop. -/
lemma Process.Up.setup (up : d.Up R own) (closed : d.uds = .closed) (os : LoopOs) :
    ∃ d' ok, eventLoopSetup os d R.object = some (d', ok) ∧ d'.Up R own ∧ d.Same d' ∧
      (ok = true → d'.uds.reactor.isSome) := by
  obtain ⟨regs, ke⟩ := up.keeps
  rw [closed] at ke
  have ke : d.ctx.sys.Keeps (d.ctx.refs ++ (d.notifyFd.toList ++ own))
      (d.ctx.api.ownFds ++ (d.ctx.netlink.ownFds ++ regs)) := ke
  have mem : R.object ∈ d.ctx.refs ++ (d.notifyFd.toList ++ own) := List.mem_append_left _ up.mem_refs
  have sub : ∀ x ∈ d.ctx.netlink.asyncFd, x ∈ d.ctx.refs ++ (d.notifyFd.toList ++ own) := by
    intro x found
    have inside : x ∈ d.ctx.netlink.refs := by simp [Netlink.refs, Option.mem_def.mp found]
    exact List.mem_append_left _ (List.mem_append_right _ (List.mem_append_right _
      (List.mem_append_left _ inside)))
  rw [eventLoopSetup]
  split
  · exact ⟨d, false, rfl, up, ⟨rfl, rfl, rfl, rfl⟩, fun no => absurd no Bool.false_ne_true⟩
  · obtain ⟨s1, added, regs1, eq1, ke1⟩ := attachNetlink_spec os.addNetlink mem sub ke
    have ke1 : s1.Keeps (d.ctx.refs ++ (d.notifyFd.toList ++ own))
        (d.ctx.api.ownFds ++ (d.ctx.netlink.ownFds ++ (regs1 ++ regs))) := by
      refine ke1.weaken fun x hx => ?_
      simp only [List.mem_append] at hx ⊢
      tauto
    rw [eq1, Option.bind_some]
    dsimp only
    split
    · refine ⟨_, false, rfl, up.setUds up.udsAt ⟨regs1 ++ regs, ?_⟩, ⟨rfl, rfl, rfl, rfl⟩,
        fun no => absurd no Bool.false_ne_true⟩
      rw [closed]
      exact ke1
    · obtain ⟨s2, u, ok, eq2, ke2, at2, socket⟩ := udsInit_spec os.uds mem ke1
      rw [closed, eq2]
      refine ⟨_, _, rfl, up.setUds at2 ⟨_, ke2⟩, ⟨rfl, rfl, rfl, rfl⟩, fun yes => socket ?_⟩
      exact (Bool.and_eq_true_iff.mp yes).1

/-- The notification from within the loop. -/
lemma Process.Up.notify (up : d.Up R own) (success : Bool) :
    ∃ d', notifyStartup d success = some d' ∧ d'.Up R own ∧ d'.log = d.log ++ told d success ∧
      d'.notifyFd = none ∧ d'.pidFd = d.pidFd ∧ d'.uds = d.uds ∧ d'.runtime = d.runtime := by
  obtain ⟨regs, ke⟩ := up.keeps
  have ke : d.ctx.sys.Keeps (d.notifyFd.toList ++ (d.uds.refs ++ (d.ctx.refs ++ own)))
      (d.uds.fds ++ (d.ctx.api.ownFds ++ (d.ctx.netlink.ownFds ++ regs))) := by
    exact ke.perm ((List.Perm.append_left _ (List.perm_append_comm_assoc ..)).trans
      (List.perm_append_comm_assoc ..))
  obtain ⟨s, n, eq, ke'⟩ := notifyStartup_spec success up.pending ke
  exact ⟨_, eq, ⟨up.reactor, ⟨regs, ke'⟩, fun _ => rfl, up.udsAt, up.netlinkAt, up.serviceAt, up.apiAt⟩, rfl,
    rfl, rfl, rfl, rfl⟩

/-- A client that goes takes its two references. -/
lemma Uds.refs_erase (u : Uds) {i : Nat} (inside : i < u.clients.length) :
    u.refs.Perm (u.clients[i].1 :: u.clients[i].2 :: { u with clients := u.clients.eraseIdx i }.refs) := by
  have first := (List.getElem_cons_eraseIdx_perm inside).symm.flatMap_right fun c : Nat × Nat => [c.1, c.2]
  exact first.append_right u.fd.toList

/-- And its descriptor. -/
lemma Uds.fds_erase (u : Uds) {i : Nat} (inside : i < u.clients.length) :
    u.fds.Perm (u.clients[i].1 :: { u with clients := u.clients.eraseIdx i }.fds) :=
  List.Perm.append_right u.fd.toList ((List.getElem_cons_eraseIdx_perm inside).symm.map Prod.fst)

/-- A callback of the loop does not fault, and the components stay. -/
lemma Process.Up.step (up : d.Up R own) (socket : d.uds.reactor.isSome) (e : LoopEvent) :
    ∃ d', loopStep R.object d e = some d' ∧ d'.Up R own ∧ d'.uds.reactor.isSome ∧ d.Same d' := by
  obtain ⟨regs, ke⟩ := up.keeps
  have mem : R.object ∈ d.ctx.refs ++ (d.notifyFd.toList ++ own) := List.mem_append_left _ up.mem_refs
  have at' : ∀ clients, ({ d.uds with clients := clients } : Uds).Attached [R.object] := fun clients =>
    ⟨up.udsAt.reactor, fun absent => absurd (Option.isSome_iff_ne_none.mp socket) (not_not_intro absent)⟩
  cases e with
  | accept allowed alloc add =>
    rw [loopStep]
    -- the descriptor of the connection is given back on every path that fails
    rcases ke.acquire true with ⟨no, -⟩ | ⟨s1, fd, -, eq1, ke1⟩
    · cases no
    · rw [eq1]
      obtain ⟨s2, eq2, ke2⟩ := ke1.release
      dsimp only
      split
      · rw [eq2]
        exact ⟨_, rfl, up.setUds up.udsAt ⟨_, ke2⟩, socket, rfl, rfl, rfl, rfl⟩
      · rcases ke1.acquire alloc with ⟨-, eq3⟩ | ⟨s3, client, -, eq3, ke3⟩
        · rw [eq3]
          simp only [eq2, Option.map_some]
          exact ⟨_, rfl, up.setUds up.udsAt ⟨_, ke2⟩, socket, rfl, rfl, rfl, rfl⟩
        · rw [eq3]
          have ke3 : s3.Keeps (fd :: client :: (d.uds.refs ++ (d.ctx.refs ++ (d.notifyFd.toList ++ own))))
              (d.uds.fds ++ (d.ctx.api.ownFds ++ (d.ctx.netlink.ownFds ++ regs))) :=
            ke3.perm (.swap fd client _)
          obtain ⟨s4, eq4, ke4⟩ := ke3.addFd
            (List.mem_cons_of_mem _ (List.mem_cons_of_mem _ (List.mem_append_right _ mem)))
            List.mem_cons_self add
          dsimp only
          rw [eq4, Option.bind_some]
          cases add with
          | true => exact ⟨_, rfl, up.setUds (at' _) ⟨_, ke4⟩, socket, rfl, rfl, rfl, rfl⟩
          | false =>
            have ke4 : s4.Keeps ([fd, client] ++ (d.uds.refs ++ (d.ctx.refs ++ (d.notifyFd.toList ++ own))))
              (d.uds.fds ++ (d.ctx.api.ownFds ++ (d.ctx.netlink.ownFds ++ regs))) := ke4
            obtain ⟨s5, eq5, ke5⟩ := ke4.releaseAll
            simp only [Bool.false_eq_true, ↓reduceIte, eq5, Option.map_some]
            exact ⟨_, rfl, up.setUds up.udsAt ⟨_, ke5⟩, socket, rfl, rfl, rfl, rfl⟩
  | close i =>
    rw [loopStep]
    split
    · exact ⟨d, rfl, up, socket, rfl, rfl, rfl, rfl⟩
    · rename_i client found
      obtain ⟨inside, rfl⟩ := List.getElem?_eq_some_iff.mp found
      have ke := (ke.perm (List.Perm.append_right _ (d.uds.refs_erase inside))).weaken fun x hx => by
        rw [List.mem_append, (d.uds.fds_erase inside).mem_iff, ← List.mem_append] at hx
        exact hx
      obtain ⟨s1, eq1, ke1⟩ := udsClientClose_spec (List.mem_append_right _ mem) ke
      rw [eq1]
      exact ⟨_, rfl, up.setUds (at' _) ⟨_, ke1⟩, socket, rfl, rfl, rfl, rfl⟩
  | debounce armed =>
    rw [loopStep]
    split
    · exact ⟨d, rfl, up, socket, rfl, rfl, rfl, rfl⟩
    · rename_i x found
      -- the netlink callbacks use the reactor, which is held
      have live := up.netlinkAt.debounce x found
      have held : x ∈ d.uds.refs ++ (d.ctx.refs ++ (d.notifyFd.toList ++ own)) :=
        List.mem_append_right _ (List.mem_append_left _ (List.mem_append_right _ (List.mem_append_right _
          (List.mem_append_right _ live))))
      rw [ke.use held]
      refine ⟨_, rfl, ⟨up.reactor, ⟨regs, ke⟩, up.pending, up.udsAt, ?_, up.serviceAt, up.apiAt⟩, socket,
        rfl, rfl, rfl, rfl⟩
      exact ⟨up.netlinkAt.xfrm, up.netlinkAt.debounce, up.netlinkAt.registered, fun _ => by rw [found]; rfl⟩
  | message w =>
    obtain ⟨s, eq, up'⟩ := up.write [w]
    exact ⟨_, eq, up', socket, rfl, rfl, rfl, rfl⟩

/-- Nor does the loop, for as long as it runs. -/
lemma Process.Up.run (up : d.Up R own) (socket : d.uds.reactor.isSome) (es : List LoopEvent) :
    ∃ d', loopRun R.object es d = some d' ∧ d'.Up R own ∧ d.Same d' := by
  induction es generalizing d with
  | nil => exact ⟨d, rfl, up, rfl, rfl, rfl, rfl⟩
  | cons e es ih =>
    obtain ⟨d1, eq1, up1, socket1, same1⟩ := up.step socket e
    obtain ⟨d2, eq2, up2, same2⟩ := ih up1 socket1
    refine ⟨d2, by rw [loopRun, eq1, Option.bind_some, eq2], up2, ?_, ?_, ?_, ?_⟩
    · rw [same2.log, same1.log]
    · rw [same2.notifyFd, same1.notifyFd]
    · rw [same2.pidFd, same1.pidFd]
    · rw [same2.runtime, same1.runtime]

/-! ## The way down -/

/-- A transition changes the runtime state only. -/
lemma transition_runtime (d : Process) (new : RuntimeState) :
    ∃ rt, (d.transition new).1 = { d with runtime := rt } := by
  rw [Process.transition]
  split
  · exact ⟨d.runtime, rfl⟩
  · split
    · exact ⟨new, rfl⟩
    · exact ⟨d.runtime, rfl⟩

/-- And that is not held. -/
lemma Process.Up.setRuntime (up : d.Up R own) (rt : RuntimeState) : { d with runtime := rt }.Up R own :=
  ⟨up.reactor, up.keeps, up.pending, up.udsAt, up.netlinkAt, up.serviceAt, up.apiAt⟩

/-- The supervisor is destroyed, whatever else is there. -/
lemma cleanupService_takes {c : InitContext} (at' : ∀ x ∈ c.service, ∀ r ∈ x.reactor, r ∈ own)
    (ke : c.sys.Keeps (serviceRefs c.service ++ own) regs) :
    ∃ s', cleanupService c = some { c with sys := s', service := none } ∧ s'.Keeps own regs := by
  obtain ⟨sys, loaded, reactor, n, sv, a, callback⟩ := c
  cases sv with
  | none => exact ⟨sys, rfl, ke⟩
  | some sv =>
    obtain ⟨s, eq, ke'⟩ := serviceDestroy_spec (at' sv rfl) ke
    exact ⟨s, by simp only [cleanupService, eq, Option.map_some], ke'⟩

/-- The components are taken back: the supervisor before the API client, the netlink sockets behind it, and
the reactor at the end. -/
lemma Process.Up.components (up : d.Up R own) :
    ∃ s1 c2 s3 s4 c5, udsCleanup d.ctx.sys d.uds = some (s1, .closed) ∧
      cleanupService { d.ctx with sys := s1 } = some c2 ∧ apiCleanup c2.sys c2.api = some (s3, .zero) ∧
      netlinkCleanup s3 c2.netlink = some (s4, .closed) ∧
      cleanupReactor { c2 with sys := s4, api := .zero, netlink := .closed, vpnModeCallback := false } =
        some c5 ∧
      c5.sys.Keeps (d.notifyFd.toList ++ own) [] := by
  obtain ⟨regs, ke⟩ := up.keeps
  have live : ∀ x ∈ [R.object], x ∈ d.ctx.refs ++ (d.notifyFd.toList ++ own) := fun x hx =>
    List.mem_singleton.mp hx ▸ List.mem_append_left _ up.mem_refs
  obtain ⟨s1, eq1, ke1⟩ := udsCleanup_spec
    ⟨fun x hx => live x (up.udsAt.reactor x hx), up.udsAt.none⟩ ke
  generalize d.notifyFd.toList ++ own = rest at ke1 ⊢
  have order : (d.ctx.refs ++ rest).Perm (serviceRefs d.ctx.service ++
      (d.ctx.api.refs ++ (d.ctx.netlink.refs ++ (d.ctx.reactorRefs ++ rest)))) := by
    rw [InitContext.refs, List.append_assoc, List.append_assoc, List.append_assoc]
    exact List.perm_append_comm_assoc ..
  have inner : ∀ x ∈ d.ctx.reactorRefs, x ∈ d.ctx.netlink.refs ++ (d.ctx.reactorRefs ++ rest) := fun x hx =>
    List.mem_append_right _ (List.mem_append_left _ hx)
  obtain ⟨s2, eq2, ke2⟩ := cleanupService_takes (c := { d.ctx with sys := s1 })
    (fun x hx r hr => List.mem_append_right _ (inner r (up.serviceAt x hx r hr))) (ke1.perm order)
  obtain ⟨s3, eq3, ke3⟩ := apiCleanup_spec (up.apiAt.mono inner) ke2
  obtain ⟨s4, eq4, ke4⟩ := netlinkCleanup_spec (up.netlinkAt.mono fun x hx => List.mem_append_left rest hx) ke3
  rw [InitContext.reactorRefs, up.reactor] at ke4
  obtain ⟨s5, eq5, ke5⟩ := reactorDestroy_spec ke4
  refine ⟨s1, _, s3, s4, ⟨s5, d.ctx.configLoaded, none, .closed, none, .zero, false⟩, eq1, eq2, eq3, eq4, ?_,
    ke5⟩
  simp only [cleanupReactor, up.reactor, eq5, Option.map_some]

/-- Whatever is the result, nothing of the daemon is left behind `run_event_loop`, and who waits for the
start was notified. -/
lemma Process.Up.cleanup (up : d.Up R own) (os : LoopOs) (result : Bool) :
    ∃ d' ok, eventLoopCleanup os d result = some (d', ok) ∧ d'.ctx.sys.Keeps own [] ∧
      d'.log = d.log ++ told d ok ∧ d'.notifyFd = none ∧ d'.pidFd = d.pidFd ∧ (result = false → ok = false) ∧
      (result = true → d.runtime = .running → ok = false) ∧
      (result = true → d.runtime = .stopping → ok = true) := by
  have step : ∃ rt, (if !result && d.runtime = .running then (d.transition .stopping).1 else d) =
      { d with runtime := rt } := by
    split
    · exact transition_runtime d .stopping
    · exact ⟨d.runtime, rfl⟩
  obtain ⟨rt, eq0⟩ := step
  have same : result = true → rt = d.runtime := by
    rintro rfl
    exact (congrArg Process.runtime eq0).symm
  obtain ⟨s0, eqw, up⟩ := (up.setRuntime rt).write os.behind
  obtain ⟨s1, c2, s3, s4, c5, eq1, eq2, eq3, eq4, eq5, ke5⟩ := up.components
  obtain ⟨rt', eq6⟩ := transition_runtime { d with ctx := c5, uds := .closed, runtime := rt } .stopped
  simp only [Process.setSys] at eqw eq1 eq2
  simp only [eventLoopCleanup, eq0, eqw, eq1, eq2, eq3, eq4, eq5, eq6, Option.bind_eq_bind, Option.bind_some]
  obtain ⟨s7, n, eq7, ke7⟩ := notifyStartup_spec _
    (d := { d with ctx := c5, uds := .closed, runtime := rt' }) up.pending ke5
  rw [eq7]
  refine ⟨_, _, rfl, ke7, rfl, rfl, rfl, fun no => ?_, fun yes running => ?_, fun yes stopping => ?_⟩
  · rw [no, Bool.false_and]
  · rw [yes, same yes, running]
    rfl
  · rw [yes, same yes, stopping]
    rfl

/-- What is seen of the event loop: a failure is notified, or the loop runs after the success was. -/
inductive LoopStory (waiting stopping : Bool) : List Entry → Bool → Prop where
  | failed : LoopStory waiting stopping (if waiting then [.notified false] else []) false
  | ran : LoopStory waiting stopping
      ([.ready] ++ (if waiting then [.notified true] else []) ++ [.loop]) stopping

/-- Who waits is told. -/
lemma told_eq (d : Process) (success : Bool) :
    told d success = if d.notifyFd.isSome then [.notified success] else [] := by
  rw [told]
  cases d.notifyFd <;> rfl

/-- `run_event_loop` leaves nothing, and its result is 0 exactly if the loop ran and was left in STOPPING. -/
theorem Process.Up.eventLoop (up : d.Up R own) (closed : d.uds = .closed) (running : d.runtime = .running)
    (os : LoopOs) :
    ∃ d' ok e, runEventLoop os d = some (d', ok) ∧ d'.ctx.sys.Keeps own [] ∧ d'.log = d.log ++ e ∧
      LoopStory d.notifyFd.isSome os.stopping e ok ∧ d'.pidFd = d.pidFd := by
  obtain ⟨s0, eq0, up0⟩ := up.write os.before
  obtain ⟨d1, ok, eq1, up1, same, socket⟩ := up0.setup closed os
  have same1 : d.Same d1 := ⟨same.log, same.notifyFd, same.pidFd, same.runtime⟩
  simp only [runEventLoop, eq0, up0.reactor, eq1, Option.bind_eq_bind, Option.bind_some]
  cases ok with
  | false =>
    -- the preparation has failed
    obtain ⟨d2, ok, eq2, ke2, log2, -, pid2, result, -⟩ := up1.cleanup os false
    obtain rfl : ok = false := result rfl
    refine ⟨d2, false, _, eq2, ke2, ?_, .failed, pid2.trans same1.pidFd⟩
    rw [log2, same1.log, told_eq, same1.notifyFd]
  | true =>
    simp only [Bool.not_true, Bool.false_eq_true, ↓reduceIte]
    split
    · -- the service does not get READY
      obtain ⟨d2, eq2, up2, log2, done2, pid2, -⟩ := up1.notify false
      obtain ⟨d3, ok, eq3, ke3, log3, -, pid3, result, -⟩ := up2.cleanup os false
      obtain rfl : ok = false := result rfl
      simp only [eq2, Option.bind_some]
      refine ⟨d3, false, _, eq3, ke3, ?_, .failed, pid3.trans (pid2.trans same1.pidFd)⟩
      rw [log3, told_eq d2, done2, log2, same1.log, told_eq, same1.notifyFd]
      exact List.append_nil _
    · -- READY: the waiting process is told before the loop is entered
      have up1' : (d1.tell .ready).Up R own :=
        ⟨up1.reactor, up1.keeps, up1.pending, up1.udsAt, up1.netlinkAt, up1.serviceAt, up1.apiAt⟩
      obtain ⟨d2, eq2, up2, log2, done2, pid2, uds2, runtime2⟩ := up1'.notify true
      have up2' : (d2.tell .loop).Up R own :=
        ⟨up2.reactor, up2.keeps, up2.pending, up2.udsAt, up2.netlinkAt, up2.serviceAt, up2.apiAt⟩
      have socket2 : d2.uds.reactor.isSome := by
        rw [uds2]
        exact socket rfl
      obtain ⟨d3, eq3, up3, same3⟩ := up2'.run socket2 os.events
      have running3 : d3.runtime = .running :=
        same3.runtime.trans (runtime2.trans (same1.runtime.trans running))
      have left : ∃ rt, (if os.stopping then (d3.transition .stopping).1 else d3) = { d3 with runtime := rt } ∧
          rt = if os.stopping then .stopping else .running := by
        cases os.stopping with
        | true => exact ⟨.stopping, by simp [Process.transition, running3, runtimeTransitionAllowed], rfl⟩
        | false => exact ⟨d3.runtime, rfl, running3⟩
      -- whoever was told is not told again by the cleanup
      obtain ⟨rt, eq4, isRt⟩ := left
      obtain ⟨d5, ok, eq5, ke5, log5, -, pid5, -, no, yes⟩ := (up3.setRuntime rt).cleanup os true
      have result : ok = os.stopping := by
        cases stopping : os.stopping with
        | true => exact yes rfl (by rw [isRt, stopping]; rfl)
        | false => exact no rfl (by rw [isRt, stopping]; rfl)
      subst result
      simp only [eq2, Option.bind_some, eq3, eq4]
      refine ⟨d5, _, _, eq5, ke5, ?_, .ran, ?_⟩
      · have silent : told { d3 with runtime := rt } os.stopping = [] := by
          rw [told_eq]
          simp [same3.notifyFd.trans done2]
        have log4 : d3.log = d2.log ++ [.loop] := same3.log
        rw [log5, silent, List.append_nil, log4, log2, Process.tell, same1.log, told_eq, same1.notifyFd]
        simp only [List.append_assoc]
      · exact pid5.trans (same3.pidFd.trans (pid2.trans same1.pidFd))

/-! ## From the start to the end -/

/-- The process behind `daemonize`; somebody is waiting for its start if it is in the background. -/
def Process.start (c : Custody) (waiting : Bool) : Process where
  ctx := ⟨⟨if waiting then c.acquire else c, [], false, none⟩, true, none, .closed, none, .zero, false⟩
  uds := .closed
  pidFd := none
  notifyFd := if waiting then some c.next else none
  startupNotified := false
  contextInitialized := false
  runtime := .uninitialized
  log := []

/-- What is seen of the daemon: the lock was refused, the file could not be written, the start failed behind
it, or the loop ran. -/
inductive Story (os : PidOs) (waiting stopping : Bool) : List Entry → Bool → Prop where
  | refused (lock : os.locks = false) :
    Story os waiting stopping (if waiting then [.notified false] else []) false
  | unwritten (lock : os.locks = true) (write : os.write = false) :
    Story os waiting stopping ([.unlinked] ++ if waiting then [.notified false] else []) false
  | failed (lock : os.locks = true) (write : os.write = true) : Story os waiting stopping
      ([.locked] ++ (if waiting then [.notified false] else []) ++ [.unlinked]) false
  | ran (lock : os.locks = true) (write : os.write = true) : Story os waiting stopping
      ([.locked] ++ ([.ready] ++ (if waiting then [.notified true] else []) ++ [.loop]) ++ [.unlinked]) stopping

/-- Before the first phase, in INITIALIZING. -/
structure Process.Locked (own : List Nat) (d : Process) : Prop where
  ctx : d.ctx = ⟨d.ctx.sys, true, none, .closed, none, .zero, false⟩
  keeps : d.ctx.sys.Keeps (d.notifyFd.toList ++ (d.pidFd.toList ++ own)) []
  uds : d.uds = .closed
  pending : d.Pending
  runtime : d.runtime = .initializing

/-- The phases, and the event loop behind them. -/
lemma Process.Locked.start (lo : d.Locked own) (os : StartOs) :
    ∃ d' result e, startComponents os d = some (d', result) ∧ d'.ctx.sys.Keeps own [] ∧ d'.log = d.log ++ e ∧
      ((∃ e', e = e' ++ [.unlinked] ∧ LoopStory d.notifyFd.isSome os.loop.stopping e' result)) := by
  have started : d.ctx.Started (d.notifyFd.toList ++ (d.pidFd.toList ++ own)) fun _ => false := by
    rw [lo.ctx]
    exact .fresh true lo.keeps
  obtain ⟨g, ok, eq1, st, all, failed⟩ := atpdInitRun_spec os.init started
  simp only [startComponents, eq1, Option.bind_eq_bind, Option.bind_some]
  cases ok with
  | false =>
    -- a phase failed, and `atpd_init_run` has undone the others
    obtain ⟨-, ke, -⟩ := failed rfl
    obtain ⟨rt, eq2⟩ := transition_runtime { d with ctx := g.state } .failed
    obtain ⟨d3, eq3, ke3, log3⟩ := startFail_spec (d := { d with ctx := g.state, runtime := rt }) lo.pending ke
    simp only [Bool.not_false, ↓reduceIte, eq2, eq3]
    refine ⟨d3, false, _, rfl, ke3, log3, _, rfl, ?_⟩
    rw [told_eq]
    exact .failed
  | true =>
    obtain ⟨mandatory, -, -⟩ := all rfl
    obtain ⟨R, reactor⟩ := Option.isSome_iff_exists.mp (st.reactor.trans (mandatory .reactor nofun))
    -- all phases succeeded, and the event loop runs
    have running : ({ d with ctx := g.state } : Process).transition .running =
        ({ d with ctx := g.state, runtime := .running }, true) := by
      rw [Process.transition, lo.runtime]
      rfl
    have up : { d with ctx := g.state, runtime := .running }.Up R (d.pidFd.toList ++ own) := by
      refine ⟨reactor, ⟨R.ownFds, ?_⟩, lo.pending, ?_, st.netlinkAt, st.serviceAt, st.apiAt⟩
      · have ke := st.keeps
        rw [InitContext.fds, reactor] at ke
        rw [lo.uds]
        exact ke
      · rw [lo.uds]
        exact ⟨nofun, fun _ => ⟨rfl, rfl, rfl⟩⟩
    obtain ⟨d3, ok, e, eq3, ke3, log3, story, pid3⟩ := up.eventLoop lo.uds rfl os.loop
    have ke3 : d3.ctx.sys.Keeps (d3.pidFd.toList ++ own) [] := by
      rw [pid3]
      exact ke3
    obtain ⟨s4, eq4, ke4⟩ := cleanupReturn_spec ke3
    simp only [Bool.not_true, Bool.false_eq_true, ↓reduceIte, running, eq3, Option.bind_some, eq4]
    refine ⟨_, ok, _, rfl, ke4, ?_, e, rfl, story⟩
    rw [log3, List.append_assoc]

/-- The process before the first step of `do_start`. -/
structure Process.Fresh (d : Process) : Prop where
  ctx : d.ctx = ⟨d.ctx.sys, true, none, .closed, none, .zero, false⟩
  uds : d.uds = .closed
  pidFd : d.pidFd = none
  pending : d.Pending
  context : d.contextInitialized = false

/-- `do_start`, by how far it comes. -/
lemma doStart_spec (os : StartOs) {d : Process} (fr : d.Fresh)
    (ke : d.ctx.sys.Keeps (d.notifyFd.toList ++ own) []) :
    ∃ d' result e, doStart os d = some (d', result) ∧ d'.ctx.sys.Keeps own [] ∧ d'.log = d.log ++ e ∧
      Story os.pid d.notifyFd.isSome os.loop.stopping e result := by
  obtain ⟨s1, pid, e1, eq1, ke1, shape⟩ := writePidFile_spec os.pid fr.pidFd ke
  rw [doStart, eq1]
  -- without the PID file nothing was started
  cases pid with
  | none =>
    obtain ⟨s2, n, eq2, ke2⟩ := notifyStartup_spec false
      (d := { d.setSys s1 with pidFd := none, log := d.log ++ e1 }) fr.pending ke1
    simp only [Option.isSome_none, eq2, Option.map_some]
    refine ⟨_, false, e1 ++ told d false, rfl, ke2, ?_, ?_⟩
    · exact List.append_assoc ..
    · rw [told_eq]
      cases shape with
      | refused lock => exact .refused lock
      | unwritten lock write => exact .unwritten lock write
  | some pid =>
    obtain ⟨lock, write⟩ : os.pid.locks = true ∧ os.pid.write = true := by
      cases shape with
      | written lock write => exact ⟨lock, write⟩
    obtain rfl : e1 = [.locked] := by
      cases shape
      rfl
    have lo : Process.Locked own { d.setSys s1 with
        pidFd := some pid, log := d.log ++ [.locked], contextInitialized := true,
        runtime := .initializing } := by
      refine ⟨?_, ke1.perm (List.perm_append_comm_assoc ..), fr.uds, fr.pending, rfl⟩
      have ctx := fr.ctx
      rw [Process.setSys, ctx]
    obtain ⟨d3, result, e, eq3, ke3, log3, e', rfl, story⟩ := lo.start os
    refine ⟨d3, result, [.locked] ++ (e' ++ [.unlinked]), ?_, ke3, ?_, ?_⟩
    · have context : (d.setSys s1).contextInitialized = false := fr.context
      simp only [startLocked, context]
      exact eq3
    · rw [log3, List.append_assoc]
    · cases story with
      | failed => exact .failed lock write
      | ran => exact .ran lock write

/-- A process that begins is fresh. -/
lemma Process.start_fresh (c : Custody) (waiting : Bool) : (Process.start c waiting).Fresh :=
  ⟨rfl, rfl, rfl, fun no => absurd no Bool.false_ne_true, rfl⟩

/-- It holds what it was given. -/
lemma Process.start_keeps (c : Custody) (waiting : Bool) :
    (Process.start c waiting).ctx.sys.Keeps ((Process.start c waiting).notifyFd.toList ++ c.held) [] := by
  cases waiting with
  | true => exact ⟨.refl _, fun _ mem => absurd mem List.not_mem_nil⟩
  | false => exact ⟨.refl _, fun _ mem => absurd mem List.not_mem_nil⟩

end Atpd.Daemon.Lifetime
