import Atpd.Config.Basic
import Mathlib.Tactic.Common

/-!
# Asynchronous validation

`src/async_validate.c` runs a checker as a child, reads its output through a pipe, and gives up after
five seconds. The end of the pipe, the exit of the child and the timeout come in any order, and each
may find that another was first. `validate_cleanup` is where they meet.

The descriptors are the open files themselves, so a number that the system gives away again is no
matter. The answers of the system are inputs: `Os` has those of one callback, `StartOs` those of
`async_validate_config`. The child exits when a call of `waitpid` finds it so; a call that blocks comes
back when it has. Nobody else reaps it. `log` is the history, newest first; it is read by statements
only.
-/

namespace Atpd.Service.Validate

open Atpd.Config

/-! ## State -/

/-- The descriptors. -/
inductive Fd where
  | pipe
  | pipeWrite
  | timer
deriving DecidableEq, Repr

/-- The child: not forked, running or a zombie, or reaped with this status word. -/
inductive Child where
  | absent
  | unreaped
  | reaped (status : Nat)
deriving DecidableEq, Repr

/-- The outcome of `kill`. -/
inductive Kill where
  | ok
  | esrch
  | fails
deriving DecidableEq, Repr

/-- What happened. -/
inductive Obs where
  | registered (fd : Fd)
  | unregistered (fd : Fd)
  | closed (fd : Fd)
  | signalled (outcome : Kill)
  | reaped (status : Nat)
  | callback (result : Int) (output : Str)
deriving DecidableEq, Repr

/-- `async_validate_ctx_t`, less the callback with its userdata, which are set once. A descriptor that
is -1 is `none`; `reactor` says whether the pointer is set. -/
structure Ctx where
  reactor : Bool
  childPid : Int
  pipeFd : Option Fd
  timerFd : Option Fd
  output : Str
  outputTruncated : Bool
  completed : Bool
  childReaped : Bool
  childStatus : Nat
  childStatusValid : Bool
deriving DecidableEq, Repr

/-- The context, the child, the descriptors that are open, and those that the reactor watches. -/
structure World where
  ctx : Ctx
  child : Child
  opened : List Fd
  registered : List Fd
  log : List Obs
deriving DecidableEq, Repr

/-- What the system answers in one callback: `waitpid` with `WNOHANG` (`none` while the child runs),
`kill`, and the status that a blocking `waitpid` comes back with; first those of the callback itself,
then those of `validate_cleanup`. -/
structure Os where
  poll : Option Nat
  kill : Kill
  wait : Nat
  cleanupPoll : Option Nat
  cleanupKill : Kill
  cleanupWait : Nat
deriving DecidableEq, Repr

/-- A descriptor is opened. -/
def World.openFd (w : World) (fd : Fd) : World := { w with opened := fd :: w.opened }

/-- `close`. -/
def World.closeFd (w : World) (fd : Fd) : World :=
  { w with opened := w.opened.erase fd, log := .closed fd :: w.log }

/-- A successful `reactor_add_fd`. -/
def World.addFd (w : World) (fd : Fd) : World :=
  { w with registered := fd :: w.registered, log := .registered fd :: w.log }

/-- `reactor_remove_fd`; the handlers have no `free_cb`. -/
def World.removeFd (w : World) (fd : Fd) : World :=
  { w with registered := w.registered.erase fd, log := .unregistered fd :: w.log }

/-- `kill(ctx->child_pid, SIGKILL)`. -/
def World.signal (w : World) (outcome : Kill) : World :=
  { w with log := .signalled outcome :: w.log }

/-- `WIFEXITED(status) && WEXITSTATUS(status) == 0`. -/
def exitedZero (status : Nat) : Bool := status % 128 == 0 && status / 256 % 256 == 0

/-- `memcpy` of what was read into `output`, as far as there is room. -/
def Ctx.append (ctx : Ctx) (bytes : Str) : Ctx :=
  let room := 4096 - 1 - ctx.output.length
  let copyLen := if bytes.length < room then bytes.length else room
  { ctx with
    output := ctx.output ++ bytes.take copyLen
    outputTruncated := ctx.outputTruncated || decide (copyLen < bytes.length) }

/-! ## The code -/

/-- `reap_child`: its result, and `*status_out` afterwards (`none` for a `NULL` pointer). `answer` is
what `waitpid` finds, when it is not `EINTR`; a call that blocks does not find the child running. -/
def reapChild (w : World) (answer statusOut : Option Nat) : World × Int × Option Nat :=
  if w.ctx.childPid ≤ 0 then (w, -1, statusOut)
  else if w.ctx.childReaped then
    (w, w.ctx.childPid,
      if w.ctx.childStatusValid then statusOut.map fun _ => w.ctx.childStatus else statusOut)
  else
    match w.child with
    | .unreaped =>
      match answer with
      | none => (w, 0, statusOut)
      | some status =>
        ({ w with
          ctx :=
            { w.ctx with
              childReaped := true
              childStatus := if statusOut.isSome then status else w.ctx.childStatus
              childStatusValid := statusOut.isSome || w.ctx.childStatusValid }
          child := .reaped status
          log := .reaped status :: w.log }, w.ctx.childPid, statusOut.map fun _ => status)
    -- ECHILD
    | _ => ({ w with ctx := { w.ctx with childReaped := true } }, -1, statusOut)

/-- `validate_cleanup`: `reactor_remove_fd` of the two descriptors. -/
def unregister (w : World) : World :=
  if w.ctx.reactor then
    let w := match w.ctx.pipeFd with
      | some fd => w.removeFd fd
      | none => w
    match w.ctx.timerFd with
    | some fd => w.removeFd fd
    | none => w
  else w

/-- Both `close`s, as in `validate_cleanup` and behind `fail`. -/
def closeFds (w : World) : World :=
  let w := match w.ctx.pipeFd with
    | some fd => { w.closeFd fd with ctx := { w.ctx with pipeFd := none } }
    | none => w
  match w.ctx.timerFd with
  | some fd => { w.closeFd fd with ctx := { w.ctx with timerFd := none } }
  | none => w

/-- `validate_cleanup`: the child is killed if it still runs. -/
def endChild (w : World) (os : Os) : World :=
  if 0 < w.ctx.childPid ∧ w.ctx.childReaped = false then
    let polled := reapChild w os.cleanupPoll none
    let w :=
      if polled.2.1 = 0 then (reapChild (polled.1.signal os.cleanupKill) (some os.cleanupWait) none).1
      else polled.1
    { w with ctx := { w.ctx with childPid := -1 } }
  else w

/-- `validate_cleanup`. -/
def validateCleanup (w : World) (os : Os) (result : Int) (output : Str) : World :=
  if w.ctx.completed then w
  else
    let w := { w with ctx := { w.ctx with completed := true } }
    let w := endChild (closeFds (unregister w)) os
    { w with ctx := { w.ctx with reactor := false }, log := .callback result output :: w.log }

/-- The last `read` of `validate_io_cb`. -/
inductive ReadEnd where
  | again
  | eof
  | error
deriving DecidableEq, Repr

/-- The reads of `validate_io_cb` before the last one: bytes, or `none` for `EINTR`. -/
def World.readAll (w : World) (reads : List (Option Str)) : World :=
  { w with ctx := reads.foldl (fun ctx bytes => bytes.elim ctx ctx.append) w.ctx }

/-- `validate_io_cb`. -/
def validateIoCb (w : World) (reads : List (Option Str)) (last : ReadEnd) (os : Os) : World :=
  if w.ctx.completed then w
  else
    let w := w.readAll reads
    match last with
    | .again => w
    | .eof =>
      let (w, wr, status) := reapChild w os.poll (some 0)
      if wr = 0 then w
      else if wr < 0 then validateCleanup w os 0 "waitpid error".toList
      else
        let status := if w.ctx.childStatusValid then w.ctx.childStatus else status.getD 0
        validateCleanup w os (if exitedZero status then 1 else 0) w.ctx.output
    | .error => validateCleanup w os 0 "read error".toList

/-- `validate_timeout_cb`; `readOk` says whether `read` gives a count of expirations. -/
def validateTimeoutCb (w : World) (readOk : Bool) (os : Os) : World :=
  if w.ctx.completed then w
  else if !readOk then validateCleanup w os 0 "timerfd read error".toList
  else
    let (w, wr, status) := reapChild w os.poll (some 0)
    if wr = w.ctx.childPid then w
    else
      let w := w.signal os.kill
      if os.kill = .fails then validateCleanup w os 0 "timeout kill error".toList
      else validateCleanup (reapChild w (some os.wait) status).1 os 0 "timeout".toList

/-- `async_validate_cleanup`. -/
def asyncValidateCleanup (w : World) (os : Os) : World :=
  validateCleanup w os (-1) "manual cleanup".toList

/-! ## The start -/

/-- What the system answers in `async_validate_config`, and whether the arguments are given. -/
structure StartOs where
  args : Bool
  pipe : Bool
  fork : Option { pid : Int // 0 < pid }
  timerfd : Bool
  settime : Bool
  addPipe : Bool
  addTimer : Bool
  kill : Kill
  wait : Nat

/-- The context as `async_validate_config` sets it up, with nothing else there. -/
def fresh : World where
  ctx :=
    { reactor := true
      childPid := -1
      pipeFd := none
      timerFd := none
      output := []
      outputTruncated := false
      completed := false
      childReaped := false
      childStatus := 0
      childStatusValid := false }
  child := .absent
  opened := []
  registered := []
  log := []

/-- `async_validate_config`, behind `fail`. -/
def startFail (w : World) (os : StartOs) : World × Int :=
  let w := closeFds w
  if 0 < w.ctx.childPid then
    let w := (reapChild (w.signal os.kill) (some os.wait) none).1
    ({ w with ctx := { w.ctx with childPid := -1 } }, -1)
  else (w, -1)

/-- `async_validate_config`: the parent, and its result. -/
def asyncValidateConfig (os : StartOs) : World × Int :=
  if !os.args then (fresh, -1)
  else if !os.pipe then (fresh, -1)
  else
    let w := (fresh.openFd .pipe).openFd .pipeWrite
    match os.fork with
    | none => ((w.closeFd .pipe).closeFd .pipeWrite, -1)
    | some pid =>
      let w := { w with child := .unreaped }.closeFd .pipeWrite
      let w := { w with ctx := { w.ctx with childPid := pid, pipeFd := some .pipe } }
      if !os.timerfd then startFail w os
      else
        let w := w.openFd .timer
        if !os.settime then startFail (w.closeFd .timer) os
        else
          let w := { w with ctx := { w.ctx with timerFd := some .timer } }
          if !os.addPipe then startFail w os
          else
            let w := w.addFd .pipe
            if !os.addTimer then startFail (w.removeFd .pipe) os
            else (w.addFd .timer, 0)

/-! ## Runs -/

/-- What can happen after the start. -/
inductive Event where
  | pipe (reads : List (Option Str)) (last : ReadEnd) (os : Os)
  | timer (readOk : Bool) (os : Os)
  | cleanup (os : Os)
deriving DecidableEq, Repr

/-- What is done then. -/
def handle (w : World) : Event → World
  | .pipe reads last os => validateIoCb w reads last os
  | .timer readOk os => validateTimeoutCb w readOk os
  | .cleanup os => asyncValidateCleanup w os

/-- The world after the start and these events. -/
def runEvents (w : World) (es : List Event) : World := es.foldl handle w

/-! ## What is to hold -/

/-- The child was reaped. -/
def Obs.isReap : Obs → Bool
  | .reaped _ => true
  | _ => false

/-- A signal was sent. -/
def Obs.isSignal : Obs → Bool
  | .signalled _ => true
  | _ => false

/-- The caller was told. -/
def Obs.isCallback : Obs → Bool
  | .callback _ _ => true
  | _ => false

/-- What holds in every state of a run. -/
structure CompletesOnce (w : World) : Prop where
  /-- The callback has been called exactly when `completed` is set, and once. -/
  callbacks : w.log.countP Obs.isCallback = if w.ctx.completed then 1 else 0
  /-- From then on both descriptors are unregistered, and closed once. -/
  released : w.ctx.completed = true → ∀ fd, fd = .pipe ∨ fd = .timer →
    fd ∉ w.registered ∧ fd ∉ w.opened ∧ w.log.count (.closed fd) = 1
  /-- The child is reaped at most once. -/
  reapedOnce : w.log.countP Obs.isReap ≤ 1
  /-- It is reaped when the callback runs. -/
  reapedBefore : ∀ after result output before, w.log = after ++ .callback result output :: before →
    ∃ status, .reaped status ∈ before
  /-- No signal comes after the reaping. -/
  quiet : w.log.Pairwise fun later earlier => later.isSignal = true → earlier.isReap = false
  /-- Success is reported only of a child that exited with 0. -/
  honest : ∀ output, .callback 1 output ∈ w.log → ∃ status, w.child = .reaped status ∧
    exitedZero status = true

/-- Nothing is left: no registration, no descriptor, no child that is not reaped. -/
structure LeavesNothing (w : World) : Prop where
  registered : w.registered = []
  opened : w.opened = []
  child : w.child ≠ .unreaped

/-! ## The child -/

/-- How often a child in this state has been reaped. -/
def Child.reaps : Child → Nat
  | .reaped _ => 1
  | _ => 0

/-- A child is reaped at most once. -/
lemma Child.reaps_le (child : Child) : child.reaps ≤ 1 := by
  cases child <;> simp [reaps]

/-- The history knows what has become of the child. -/
structure Orderly (child : Child) (log : List Obs) : Prop where
  reaps : log.countP Obs.isReap = child.reaps
  noted : ∀ status, child = .reaped status → .reaped status ∈ log
  quiet : log.Pairwise fun later earlier => later.isSignal = true → earlier.isReap = false

/-- `child_reaped` says what has become of the child. -/
def Tracked (w : World) : Prop :=
  w.child = .unreaped ∧ w.ctx.childReaped = false ∨
    ∃ status, w.child = .reaped status ∧ w.ctx.childReaped = true

variable {w w' : World} {os : Os} {answer : Option Nat} {status : Nat} {result : Int} {output : Str}

/-- An observation that is about something else. -/
lemma Orderly.cons {child : Child} {log : List Obs} (ord : Orderly child log) {o : Obs}
    (noReap : o.isReap = false) (noSignal : o.isSignal = false) : Orderly child (o :: log) where
  reaps := by
    rw [List.countP_cons_of_neg (by simp [noReap])]
    exact ord.reaps
  noted status reaped := List.mem_cons_of_mem _ (ord.noted status reaped)
  quiet := List.pairwise_cons.mpr ⟨fun _ _ signal => by simp [noSignal] at signal, ord.quiet⟩

/-- A signal to a child that is not reaped. -/
lemma Orderly.signal {log : List Obs} (ord : Orderly .unreaped log) (outcome : Kill) :
    Orderly .unreaped (.signalled outcome :: log) where
  reaps := ord.reaps
  noted status reaped := List.mem_cons_of_mem _ (ord.noted status reaped)
  quiet := by
    refine List.pairwise_cons.mpr ⟨fun earlier inside _ => ?_, ord.quiet⟩
    simpa using List.countP_eq_zero.mp ord.reaps earlier inside

/-- The child is reaped. -/
lemma Orderly.reap {log : List Obs} (ord : Orderly .unreaped log) (status : Nat) :
    Orderly (.reaped status) (.reaped status :: log) where
  reaps := by
    rw [List.countP_cons_of_pos rfl, ord.reaps]
    rfl
  noted status' reaped := by
    cases reaped
    exact List.mem_cons_self
  quiet := List.pairwise_cons.mpr ⟨fun _ _ signal => by simp [Obs.isSignal] at signal, ord.quiet⟩

/-- The child as `reap_child` leaves it. -/
def World.reap (w : World) (status : Nat) (wanted : Bool) : World :=
  { w with
    ctx :=
      { w.ctx with
        childReaped := true
        childStatus := if wanted then status else w.ctx.childStatus
        childStatusValid := wanted || w.ctx.childStatusValid }
    child := .reaped status
    log := .reaped status :: w.log }

/-- `reap_child` on a child that is not reaped: it still runs, or it is reaped. -/
lemma reapChild_unreaped (pid : 0 < w.ctx.childPid) (unreaped : w.child = .unreaped)
    (flag : w.ctx.childReaped = false) (answer statusOut : Option Nat) :
    reapChild w answer statusOut =
      answer.elim (w, 0, statusOut)
        fun status => (w.reap status statusOut.isSome, w.ctx.childPid, statusOut.map fun _ => status) := by
  unfold reapChild
  rw [if_neg (by omega), flag, unreaped]
  cases answer <;> rfl

/-- `reap_child` on a child that is reaped. -/
lemma reapChild_reaped (pid : 0 < w.ctx.childPid) (flag : w.ctx.childReaped = true)
    (answer statusOut : Option Nat) :
    ∃ status, reapChild w answer statusOut = (w, w.ctx.childPid, status) := by
  unfold reapChild
  rw [if_neg (by omega), if_pos flag]
  exact ⟨_, rfl⟩

/-- `ctx->child_pid = -1`. -/
def World.forget (w : World) : World := { w with ctx := { w.ctx with childPid := -1 } }

/-- The child has exited when `validate_cleanup` looks. -/
lemma endChild_polled (pid : 0 < w.ctx.childPid) (unreaped : w.child = .unreaped)
    (flag : w.ctx.childReaped = false) (found : os.cleanupPoll = some status) :
    endChild w os = (w.reap status false).forget := by
  have running : w.ctx.childPid ≠ 0 := by omega
  have polled := reapChild_unreaped pid unreaped flag os.cleanupPoll none
  rw [found, Option.elim_some] at polled
  rw [endChild, if_pos ⟨pid, flag⟩, found, polled]
  simp only [if_neg running]
  rfl

/-- It has not: it is killed. -/
lemma endChild_killed (pid : 0 < w.ctx.childPid) (unreaped : w.child = .unreaped)
    (flag : w.ctx.childReaped = false) (found : os.cleanupPoll = none) :
    endChild w os = ((w.signal os.cleanupKill).reap os.cleanupWait false).forget := by
  have polled := reapChild_unreaped pid unreaped flag os.cleanupPoll none
  have killed := reapChild_unreaped (w := w.signal os.cleanupKill) pid unreaped flag
    (some os.cleanupWait) none
  rw [found, Option.elim_none] at polled
  rw [endChild, if_pos ⟨pid, flag⟩, found, polled]
  simp only [if_true, killed, Option.elim_some]
  rfl

/-- What `endChild` does to a child that may still run: it is reaped afterwards, and nothing but that
and a signal is added to the history. -/
structure Ended (w w' : World) (status : Nat) : Prop where
  child : w'.child = .reaped status
  same : ∀ status', w.child = .reaped status' → status' = status
  opened : w'.opened = w.opened
  registered : w'.registered = w.registered
  completed : w'.ctx.completed = w.ctx.completed
  added : ∃ new, w'.log = new ++ w.log ∧ ∀ o ∈ new, o.isReap = true ∨ o.isSignal = true
  orderly : Orderly w'.child w'.log

/-- The child is killed and reaped, unless it was reaped before. -/
lemma endChild_ended (pid : 0 < w.ctx.childPid) (tracked : Tracked w) (ord : Orderly w.child w.log)
    (os : Os) : ∃ status, Ended w (endChild w os) status := by
  obtain ⟨unreaped, flag⟩ | ⟨status, reaped, flag⟩ := tracked
  · have fresh : ∀ status' status, w.child = .reaped status' → status' = status := by
      simp [unreaped]
    rw [unreaped] at ord
    cases found : os.cleanupPoll with
    | some status =>
      rw [endChild_polled pid unreaped flag found]
      exact ⟨status, rfl, (fresh · status), rfl, rfl, rfl, ⟨[.reaped status], rfl, by simp [Obs.isReap]⟩,
        ord.reap status⟩
    | none =>
      rw [endChild_killed pid unreaped flag found]
      exact ⟨os.cleanupWait, rfl, (fresh · os.cleanupWait), rfl, rfl, rfl,
        ⟨[.reaped os.cleanupWait, .signalled os.cleanupKill], rfl, by simp [Obs.isReap, Obs.isSignal]⟩,
        (ord.signal os.cleanupKill).reap os.cleanupWait⟩
  · rw [endChild, if_neg (by simp [flag])]
    refine ⟨status, reaped, fun status' reaped' => ?_, rfl, rfl, rfl, ⟨[], rfl, by simp⟩, ord⟩
    rw [reaped] at reaped'
    cases reaped'
    rfl

/-! ## The states of a run -/

/-- The validation goes on. -/
structure Live (w : World) : Prop where
  pending : w.ctx.completed = false
  reactor : w.ctx.reactor = true
  pid : 0 < w.ctx.childPid
  pipe : w.ctx.pipeFd = some .pipe
  timer : w.ctx.timerFd = some .timer
  opened : w.opened = [.timer, .pipe]
  registered : w.registered = [.timer, .pipe]
  unclosed : ∀ fd, fd = .pipe ∨ fd = .timer → .closed fd ∉ w.log
  uncalled : ∀ o ∈ w.log, o.isCallback = false
  tracked : Tracked w
  valid : ∀ status, w.child = .reaped status →
    w.ctx.childStatusValid = true ∧ w.ctx.childStatus = status
  orderly : Orderly w.child w.log

/-- The validation is over. -/
structure Done (w : World) : Prop where
  completed : w.ctx.completed = true
  opened : w.opened = []
  registered : w.registered = []
  closed : ∀ fd, fd = .pipe ∨ fd = .timer → w.log.count (.closed fd) = 1
  called : ∃ result output before, w.log = .callback result output :: before ∧
    (∀ o ∈ before, o.isCallback = false) ∧
      (result = 1 → ∃ status, w.child = .reaped status ∧ exitedZero status = true)
  child : ∃ status, w.child = .reaped status
  orderly : Orderly w.child w.log

/-- A reaping or a signal is no call. -/
lemma not_callback {o : Obs} (other : o.isReap = true ∨ o.isSignal = true) : o.isCallback = false := by
  cases o with
  | callback => simp [Obs.isReap, Obs.isSignal] at other
  | _ => rfl

/-- The descriptors of a live validation, given back. -/
def World.released (w : World) : World :=
  { w with
    ctx := { w.ctx with completed := true, pipeFd := none, timerFd := none }
    opened := []
    registered := []
    log := .closed .timer :: .closed .pipe :: .unregistered .timer :: .unregistered .pipe :: w.log }

/-- The handlers and the descriptors are given back. -/
lemma Live.release (live : Live w) :
    closeFds (unregister { w with ctx := { w.ctx with completed := true } }) = w.released := by
  obtain ⟨ctx, child, opened, registered, log⟩ := w
  obtain ⟨-, reactor, -, pipe, timer, rfl, rfl, -, -, -, -, -⟩ := live
  dsimp only at reactor pipe timer
  simp only [unregister, reactor, pipe, timer, if_true, World.removeFd, closeFds, World.closeFd,
    World.released]
  rfl

/-- The call of the callback, at the end of `validate_cleanup`. -/
def World.report (w : World) (result : Int) (output : Str) : World :=
  { w with ctx := { w.ctx with reactor := false }, log := .callback result output :: w.log }

/-- `validate_cleanup` gives everything back before it reports. -/
lemma Live.validateCleanup_eq (live : Live w) (os : Os) (result : Int) (output : Str) :
    validateCleanup w os result output = (endChild w.released os).report result output := by
  rw [validateCleanup, if_neg (by simp [live.pending])]
  show (endChild (closeFds (unregister _)) os).report result output = _
  rw [live.release]

/-- `validate_cleanup` ends a live validation. -/
lemma Live.cleanup (live : Live w) (os : Os) (output : Str)
    (honest : result = 1 → ∃ status, w.child = .reaped status ∧ exitedZero status = true) :
    Done (validateCleanup w os result output) := by
  have ord : Orderly w.released.child w.released.log :=
    (((live.orderly.cons rfl rfl).cons rfl rfl).cons rfl rfl).cons rfl rfl
  obtain ⟨status, ended⟩ := endChild_ended (w := w.released) live.pid live.tracked ord os
  obtain ⟨new, log, added⟩ := ended.added
  rw [live.validateCleanup_eq]
  refine ⟨ended.completed, ended.opened, ended.registered, fun fd which => ?_,
    ⟨result, output, _, rfl, fun o inside => ?_, fun success => ?_⟩, ⟨status, ended.child⟩,
    ended.orderly.cons rfl rfl⟩
  · have fresh : .closed fd ∉ new := fun inside => by simpa [Obs.isReap, Obs.isSignal] using added _ inside
    show (Obs.callback result output :: (endChild w.released os).log).count (.closed fd) = 1
    rw [log, List.count_cons, List.count_append, List.count_eq_zero_of_not_mem fresh]
    have before := List.count_eq_zero_of_not_mem (live.unclosed fd which)
    obtain rfl | rfl := which <;> simp [World.released, before]
  · rw [log, List.mem_append] at inside
    obtain inside | inside := inside
    · exact not_callback (added o inside)
    · simp only [World.released, List.mem_cons] at inside
      obtain rfl | rfl | rfl | rfl | inside := inside
      all_goals first | rfl | exact live.uncalled o inside
  · obtain ⟨status', reaped, zero⟩ := honest success
    obtain rfl := ended.same status' reaped
    exact ⟨status', ended.child, zero⟩

/-! ## The callbacks -/

/-- Output is collected. -/
lemma Live.append (live : Live w) (bytes : Str) : Live { w with ctx := w.ctx.append bytes } :=
  ⟨live.pending, live.reactor, live.pid, live.pipe, live.timer, live.opened, live.registered,
    live.unclosed, live.uncalled, live.tracked, live.valid, live.orderly⟩

/-- Reading changes nothing but the output. -/
lemma Live.readAll (live : Live w) (reads : List (Option Str)) : Live (w.readAll reads) := by
  induction reads generalizing w with
  | nil => exact live
  | cons bytes reads ih =>
    cases bytes with
    | none => exact ih live
    | some bytes => exact ih (live.append bytes)

/-- An unreaped child can be signalled. -/
lemma Live.signal (live : Live w) (unreaped : w.child = .unreaped) (outcome : Kill) :
    Live (w.signal outcome) where
  __ := live
  unclosed fd which := by
    simpa [World.signal] using live.unclosed fd which
  uncalled := List.forall_mem_cons.mpr ⟨rfl, live.uncalled⟩
  orderly := by
    have ord := live.orderly
    rw [unreaped] at ord
    show Orderly w.child _
    rw [unreaped]
    exact ord.signal outcome

/-- It is reaped once. -/
lemma Live.reap (live : Live w) (unreaped : w.child = .unreaped) (status : Nat) :
    Live (w.reap status true) where
  __ := live
  unclosed fd which := by
    simpa [World.reap] using live.unclosed fd which
  uncalled := List.forall_mem_cons.mpr ⟨rfl, live.uncalled⟩
  tracked := .inr ⟨status, rfl, rfl⟩
  valid status' reaped := by
    cases reaped
    exact ⟨rfl, rfl⟩
  orderly := by
    have ord := live.orderly
    rw [unreaped] at ord
    exact ord.reap status

/-- A call of `reap_child` with a pointer finds the child running, or has its status afterwards. -/
lemma Live.reapChild (live : Live w) (answer : Option Nat) (before : Nat) :
    (reapChild w answer (some before) = (w, 0, some before) ∧ w.child = .unreaped ∧ answer = none) ∨
      ∃ w' status after, reapChild w answer (some before) = (w', w.ctx.childPid, after) ∧ Live w' ∧
        w'.child = .reaped status ∧ w'.ctx.childPid = w.ctx.childPid := by
  obtain ⟨unreaped, flag⟩ | ⟨status, reaped, flag⟩ := live.tracked
  · rw [reapChild_unreaped live.pid unreaped flag]
    cases answer with
    | none => exact .inl ⟨rfl, unreaped, rfl⟩
    | some status => exact .inr ⟨_, status, _, rfl, live.reap unreaped status, rfl, rfl⟩
  · obtain ⟨after, found⟩ := reapChild_reaped live.pid flag answer (some before)
    exact .inr ⟨w, status, after, found, live, reaped, rfl⟩

/-- No failure is success. -/
lemma Live.failed (live : Live w) (os : Os) (negative : result ≠ 1) (output : Str) :
    Done (validateCleanup w os result output) :=
  live.cleanup os output fun success => absurd success negative

/-- `validate_io_cb` goes on, or is done. -/
lemma Live.io (live : Live w) (reads : List (Option Str)) (last : ReadEnd) (os : Os) :
    Live (validateIoCb w reads last os) ∨ Done (validateIoCb w reads last os) := by
  have live' := live.readAll reads
  rw [validateIoCb, if_neg (by simp [live.pending])]
  cases last with
  | again => exact .inl live'
  | error => exact .inr (live'.failed os (by decide) _)
  | eof =>
    dsimp only
    obtain ⟨found, -, -⟩ | ⟨w2, status, after, found, live2, reaped, -⟩ := live'.reapChild os.poll 0
    · rw [found]
      exact .inl live'
    · have pid := live'.pid
      have valid := live2.valid status reaped
      rw [found]
      dsimp only
      rw [if_neg (by omega), if_neg (by omega), if_pos valid.1, valid.2]
      refine .inr (live2.cleanup os _ fun success => ⟨status, reaped, ?_⟩)
      by_contra failed
      simp [failed] at success

/-- So does the timeout. -/
lemma Live.timeout (live : Live w) (readOk : Bool) (os : Os) :
    Live (validateTimeoutCb w readOk os) ∨ Done (validateTimeoutCb w readOk os) := by
  rw [validateTimeoutCb, if_neg (by simp [live.pending])]
  cases readOk with
  | false => exact .inr (live.failed os (by decide) _)
  | true =>
    rw [if_neg (by decide)]
    obtain ⟨found, unreaped, -⟩ | ⟨w', status, after, found, live', reaped, same⟩ :=
      live.reapChild os.poll 0
    · have pid := live.pid
      have killed := live.signal unreaped os.kill
      rw [found]
      dsimp only
      rw [if_neg (by omega)]
      split
      · exact .inr (killed.failed os (by decide) _)
      · obtain ⟨-, -, never⟩ | ⟨w', status, after, found, live', -, -⟩ :=
          killed.reapChild (some os.wait) 0
        · cases never
        · rw [found]
          exact .inr (live'.failed os (by decide) _)
    · rw [found]
      dsimp only
      rw [if_pos same.symm]
      exact .inl live'

/-! ## Runs of the validation -/

/-- One step of a validation that goes on. -/
lemma Live.handle (live : Live w) (e : Event) : Live (handle w e) ∨ Done (handle w e) := by
  cases e with
  | pipe reads last os => exact live.io reads last os
  | timer readOk os => exact live.timeout readOk os
  | cleanup os => exact .inr (live.failed os (by decide) _)

/-- A validation that is over stays as it is. -/
lemma Done.handle_eq (done : Done w) (e : Event) : handle w e = w := by
  cases e with
  | pipe reads last os => rw [handle, validateIoCb, if_pos done.completed]
  | timer readOk os => rw [handle, validateTimeoutCb, if_pos done.completed]
  | cleanup os => rw [handle, asyncValidateCleanup, validateCleanup, if_pos done.completed]

/-- By induction on the events. -/
lemma runEvents_live_or_done (start : Live w ∨ Done w) (es : List Event) :
    Live (runEvents w es) ∨ Done (runEvents w es) := by
  induction es generalizing w with
  | nil => exact start
  | cons e es ih =>
    obtain live | done := start
    · exact ih (live.handle e)
    · have still : runEvents w (e :: es) = runEvents w es := congrArg (runEvents · es) (done.handle_eq e)
      rw [still]
      exact ih (.inr done)

/-- As long as it goes on the caller was not told. -/
lemma Live.completesOnce (live : Live w) : CompletesOnce w where
  callbacks := by
    rw [live.pending, List.countP_eq_zero.mpr fun o inside => by simp [live.uncalled o inside]]
    rfl
  released completed := by
    rw [live.pending] at completed
    cases completed
  reapedOnce := by
    rw [live.orderly.reaps]
    exact w.child.reaps_le
  reapedBefore after result output before log := by
    have called := live.uncalled (.callback result output) (by simp [log])
    cases called
  quiet := live.orderly.quiet
  honest output called := by
    have called := live.uncalled _ called
    cases called

/-- Behind the end it was told once. -/
lemma Done.completesOnce (done : Done w) : CompletesOnce w := by
  obtain ⟨result, output, before, log, others, success⟩ := done.called
  obtain ⟨status, reaped⟩ := done.child
  constructor
  · rw [done.completed, log, List.countP_cons_of_pos rfl,
      List.countP_eq_zero.mpr fun o inside => by simp [others o inside]]
    rfl
  · intro _ fd which
    exact ⟨by simp [done.registered], by simp [done.opened], done.closed fd which⟩
  · rw [done.orderly.reaps]
    exact w.child.reaps_le
  · intro after result' output' before' split
    rw [log] at split
    -- the only call is the newest observation
    cases after with
    | nil =>
      obtain ⟨-, rfl⟩ := List.cons_eq_cons.mp split
      have noted := done.orderly.noted status reaped
      rw [log] at noted
      exact ⟨status, by simpa using noted⟩
    | cons o after =>
      obtain ⟨-, rfl⟩ := List.cons_eq_cons.mp split
      have other := others (.callback result' output') (by simp)
      cases other
  · exact done.orderly.quiet
  · intro output' called
    rw [log, List.mem_cons] at called
    obtain here | earlier := called
    · cases here
      exact success rfl
    · have other := others _ earlier
      cases other

/-- Closing the descriptors touches nothing else. -/
lemma closeFds_keeps (w : World) : (closeFds w).child = w.child ∧
    (closeFds w).registered = w.registered ∧ (closeFds w).ctx.childPid = w.ctx.childPid ∧
      (closeFds w).ctx.childReaped = w.ctx.childReaped := by
  rw [closeFds]
  cases w.ctx.pipeFd <;> cases w.ctx.timerFd <;> exact ⟨rfl, rfl, rfl, rfl⟩

/-- What `fail` leaves: the child is killed and reaped, and the descriptors are closed. -/
lemma startFail_leaves (os : StartOs) (pid : 0 < w.ctx.childPid) (unreaped : w.child = .unreaped)
    (flag : w.ctx.childReaped = false) (registered : w.registered = [])
    (opened : (closeFds w).opened = []) :
    (startFail w os).2 = -1 ∧ LeavesNothing (startFail w os).1 := by
  obtain ⟨child, watched, childPid, childReaped⟩ := closeFds_keeps w
  have killed := reapChild_unreaped (w := (closeFds w).signal os.kill) (childPid ▸ pid)
    (child.trans unreaped) (childReaped.trans flag) (some os.wait) none
  have value : startFail w os = ((((closeFds w).signal os.kill).reap os.wait false).forget, -1) := by
    rw [startFail, if_pos (by rw [childPid]; exact pid), killed]
    rfl
  rw [value]
  exact ⟨rfl, watched.trans registered, opened, by simp [World.forget, World.reap]⟩

/-- A start that succeeds leaves a live validation, and one that fails leaves nothing. -/
lemma asyncValidateConfig_cases (os : StartOs) :
    (asyncValidateConfig os).2 = 0 ∧ Live (asyncValidateConfig os).1 ∨
      (asyncValidateConfig os).2 = -1 ∧ LeavesNothing (asyncValidateConfig os).1 := by
  have nothing : LeavesNothing fresh := ⟨rfl, rfl, by simp [fresh]⟩
  unfold asyncValidateConfig
  cases os.args with
  | false => exact .inr ⟨rfl, nothing⟩
  | true =>
  cases os.pipe with
  | false => exact .inr ⟨rfl, nothing⟩
  | true =>
  cases os.fork with
  | none => exact .inr ⟨rfl, rfl, rfl, by simp [World.closeFd, World.openFd, fresh]⟩
  | some pid =>
  -- from here on there is a child, and `start_fail` kills and reaps it
  cases os.timerfd with
  | false => exact .inr (startFail_leaves os pid.2 rfl rfl rfl rfl)
  | true =>
  cases os.settime with
  | false => exact .inr (startFail_leaves os pid.2 rfl rfl rfl rfl)
  | true =>
  cases os.addPipe with
  | false => exact .inr (startFail_leaves os pid.2 rfl rfl rfl rfl)
  | true =>
  cases os.addTimer with
  | false => exact .inr (startFail_leaves os pid.2 rfl rfl rfl rfl)
  | true =>
    -- everything is set up, and nothing has been heard yet
    have ord : Orderly .unreaped [.registered .timer, .registered .pipe, .closed .pipeWrite] := by
      refine ⟨rfl, by simp, ?_⟩
      simp [Obs.isReap]
    refine .inl ⟨rfl, rfl, rfl, pid.2, rfl, rfl, rfl, rfl, ?_, ?_, .inl ⟨rfl, rfl⟩, ?_, ord⟩
    · show ∀ fd, _ → Obs.closed fd ∉ [.registered .timer, .registered .pipe, .closed .pipeWrite]
      rintro fd (rfl | rfl) <;> simp
    · show ∀ o ∈ [Obs.registered .timer, .registered .pipe, .closed .pipeWrite], o.isCallback = false
      simp [Obs.isCallback]
    · intro status reaped
      have never : Child.unreaped = .reaped status := reaped
      cases never

/-- A validation that was started completes once, in every run, and one that was not leaves nothing
behind. -/
theorem validation_completes_once (os : StartOs) :
    ((asyncValidateConfig os).2 = 0 →
      ∀ es, CompletesOnce (runEvents (asyncValidateConfig os).1 es)) ∧
      ((asyncValidateConfig os).2 = -1 → LeavesNothing (asyncValidateConfig os).1) := by
  obtain ⟨ok, live⟩ | ⟨failed, leaves⟩ := asyncValidateConfig_cases os
  · refine ⟨fun _ es => ?_, fun failed => absurd (ok.symm.trans failed) (by decide)⟩
    obtain live | done := runEvents_live_or_done (.inl live) es
    · exact live.completesOnce
    · exact done.completesOnce
  · exact ⟨fun ok => absurd (ok.symm.trans failed) (by decide), fun _ => leaves⟩

/-- Everything works, except the timer if `timerfd` says so. -/
def startWith (timerfd : Bool) : StartOs :=
  ⟨true, true, some ⟨77, by decide⟩, timerfd, true, true, true, .ok, 9⟩

/-- The child still runs when the timer fires, is killed, and the pipe ends afterwards. -/
def timedOut : List Event :=
  [.pipe [some "ok".toList, none] .again ⟨none, .ok, 0, none, .ok, 0⟩,
    .timer true ⟨none, .ok, 9, none, .ok, 0⟩, .pipe [] .eof ⟨some 0, .ok, 0, none, .ok, 0⟩,
    .cleanup ⟨none, .ok, 0, none, .ok, 0⟩]

/-- A validation that takes too long, and one that cannot be set up. -/
theorem validation_completes_once_timedOut :
    CompletesOnce (runEvents (asyncValidateConfig (startWith true)).1 timedOut) ∧
      LeavesNothing (asyncValidateConfig (startWith false)).1 :=
  ⟨(validation_completes_once (startWith true)).1 rfl timedOut,
    (validation_completes_once (startWith false)).2 rfl⟩

end Atpd.Service.Validate
