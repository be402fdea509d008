import Atpd.Daemon.PidFile
import Atpd.Daemon.Reload

/-!
# The event loop

`run_event_loop` of `src/main.c` around `reactor_run` of `src/reactor.c`, from the entry with the
runtime state RUNNING to the return. An iteration of the loop is a pass over the expired timers and
one outcome of `epoll_wait`; the outcome carries what the ready descriptors deliver. The move to
STOPPING is made by the signal callback, by the control socket and by `on_idle`, and the move to
STOPPED by `run_event_loop` itself.

The sessions, the VPN state and the clients of the control socket do not occur: no callback of theirs
reads or writes the runtime state, except the end of a stop command, which is an event here.
-/

namespace Atpd.Daemon.EventLoop

open Atpd.Config Atpd.Reactor Atpd.Lib

/-- The daemon inside `run_event_loop`; `reactorStopped` of the daemon is `!r->running`. `requests` is
the history of `atpd_runtime_state_transition`, newest first: the state that was asked for, and
whether the request was accepted. -/
structure Loop where
  daemon : State
  requests : List (RuntimeState × Bool)

/-- `atpd_runtime_state_transition`, on record. -/
def Loop.transition (l : Loop) (new : RuntimeState) : Loop × Bool :=
  let (d, accepted) := atpdRuntimeStateTransition l.daemon new
  (⟨d, (new, accepted) :: l.requests⟩, accepted)

/-- `shutdown_requested = 1`. -/
def Loop.requestShutdown (l : Loop) : Loop :=
  { l with daemon := { l.daemon with shutdownRequested := true } }

/-- `r->running = 0`. -/
def Loop.stop (l : Loop) : Loop := { l with daemon := { l.daemon with reactorStopped := true } }

/-- The supervisor moves on. -/
def Loop.setWorld (l : Loop) (w : Service.World) : Loop :=
  { l with daemon := { l.daemon with world := w } }

/-! ## Callbacks -/

/-- The signals that `run_event_loop` watches. -/
inductive Signal where
  | sigterm
  | sigint
  | sighup
  | sigusr1
  | sigchld (os : Service.Os)

/-- `on_signal`. -/
def onSignal (l : Loop) : Signal → Loop
  | .sigchld os => l.setWorld (Service.serviceSigchldCb l.daemon.world os)
  | .sighup => { l with daemon := { l.daemon with reloadRequested := true } }
  | .sigusr1 => { l with daemon := { l.daemon with statusRequested := true } }
  | .sigterm => (l.requestShutdown.transition .stopping).1.stop
  | .sigint => (l.requestShutdown.transition .stopping).1.stop

/-- `reactor_signal_handle`: every signal that can be read, in order. -/
def reactorSignalHandle (l : Loop) : List Signal → Loop
  | [] => l
  | .sigterm :: rest => reactorSignalHandle (onSignal l.stop .sigterm) rest
  | .sigint :: rest => reactorSignalHandle (onSignal l.stop .sigint) rest
  | sig :: rest => reactorSignalHandle (onSignal l sig) rest

/-- `uds_client_flush`: the response to a stop command has been sent. -/
def stopAfterWrite (l : Loop) : Loop := (l.transition .stopping).1.requestShutdown.stop

/-- `reload_return_to_running_or_shutdown`. -/
def reloadReturnToRunningOrShutdown (l : Loop) : Loop :=
  match l.transition .running with
  | (l, true) => l
  | (l, false) => l.requestShutdown.stop

/-- `on_idle`: the reload request, if there is one. -/
def idleReload (l : Loop) (defaults : AtpConfig) (file : CandidateFile) (os : Service.Os) : Loop :=
  if l.daemon.reloadRequested then
    let l := { l with daemon := { l.daemon with reloadRequested := false } }
    if !l.daemon.shutdownRequested && l.daemon.runtime = .running then
      match l.transition .reloading with
      | (l, false) => l
      | (l, true) =>
        reloadReturnToRunningOrShutdown { l with daemon := (reload l.daemon defaults file os).1 }
    else l
  else l

/-- `on_idle`: the end. -/
def idleShutdown (l : Loop) : Loop :=
  let l :=
    if l.daemon.statusRequested && !l.daemon.shutdownRequested then
      { l with daemon := { l.daemon with statusRequested := false } }
    else l
  if l.daemon.shutdownRequested then (l.transition .stopping).1.stop else l

/-- `on_idle`. -/
def onIdle (l : Loop) (defaults : AtpConfig) (file : CandidateFile) (os : Service.Os) : Loop :=
  idleShutdown (idleReload l defaults file os)

/-! ## `reactor_run` -/

/-- One ready descriptor: the signal descriptor with what can be read from it, a client of the
control socket whose stop command is answered by this callback, and any other descriptor. -/
inductive Event where
  | signals (sigs : List Signal)
  | stopCommand
  | other

/-- The body of the loop over the ready descriptors. -/
def handle (l : Loop) : Event → Loop
  | .signals sigs => reactorSignalHandle l sigs
  | .stopCommand => stopAfterWrite l
  | .other => l

/-- The outcome of `epoll_wait`: an interruption, an error, nothing ready before the next timer, or at
least one ready descriptor. -/
inductive Epoll where
  | eintr
  | error
  | timeout (defaults : AtpConfig) (file : CandidateFile) (os : Service.Os)
  | ready (first : Event) (rest : List Event)

/-- What happens to the supervisor while the timers are processed: its timers fire, its children
exit. -/
def inPass : Service.Event → Bool
  | .timer _ _ _ => true
  | .exit _ => true
  | _ => false

/-- One iteration of the loop. -/
structure Iteration where
  timers : List Service.Event
  wait : Epoll

/-- `process_expired_timers`. -/
def processExpiredTimers (l : Loop) (es : List Service.Event) : Option Loop :=
  if es.all inPass then (run Service.step l.daemon.world es).map l.setWorld else none

/-- What `reactor_run` does with the outcome of `epoll_wait`. -/
def afterWait (l : Loop) : Epoll → Loop
  | .eintr => l
  | .error => l.stop
  | .timeout defaults file os => onIdle l defaults file os
  | .ready first rest => (first :: rest).foldl handle l

/-- One iteration of `while (r->running)`. -/
def iterate (l : Loop) (it : Iteration) : Option Loop :=
  if l.daemon.reactorStopped then none
  else (processExpiredTimers l it.timers).map fun l => afterWait l it.wait

/-- `reactor_run` on the iterations `its`, if these are the ones it makes: it returns when
`r->running` is 0, and then always with 0. -/
def reactorRun (l : Loop) (its : List Iteration) : Option Loop :=
  (run iterate { l with daemon := { l.daemon with reactorStopped := false } } its).filter
    fun l => l.daemon.reactorStopped

/-! ## `run_event_loop` -/

/-- The outcomes of what `run_event_loop` does before the loop: whether the reactor and the service
are there, the callback is set, each signal watched, netlink attached (`none` without a netlink
descriptor) and the control socket opened; then the calls that start the service and poll it until it
is ready, `final` being the poll after the deadline. -/
structure Setup where
  reactor : Bool
  signalCb : Bool
  watched : List Bool
  netlink : Option Bool
  service : Bool
  uds : Bool
  start : Service.Os
  polls : List Service.Os
  final : Service.Os

/-- `service_is_running`. -/
def serviceIsRunning (w : Service.World) (stat : Bool) : Bool :=
  decide (w.ctx.state = .running) && Service.serviceIsAlive w stat

/-- `service_wait_ready`. -/
def serviceWaitReady (final : Service.Os) (w : Service.World) :
    List Service.Os → Service.World × Bool
  | [] =>
    let w := Service.serviceMonitorCb w final
    (w, serviceIsRunning w final.alive2.stat)
  | os :: polls =>
    let w := Service.serviceMonitorCb w os
    if serviceIsRunning w os.alive2.stat then (w, true)
    else if w.ctx.state = .failed ∨ w.ctx.childPid ≤ 0 then (w, false)
    else serviceWaitReady final w polls

/-- `run_event_loop` up to the loop; `false` for one of the `goto cleanup`. -/
def startup (l : Loop) (s : Setup) : Loop × Bool :=
  if s.reactor && s.signalCb && s.watched.all id && s.netlink.all id && s.service && s.uds then
    match Service.serviceStartAsync l.daemon.world s.start with
    | (w, false) => (l.setWorld w, false)
    | (w, true) =>
      let (w, ready) := serviceWaitReady s.final w s.polls
      (l.setWorld w, ready)
  else (l, false)

/-- `run_event_loop` from the label `cleanup`; `ok` is `result == 0`. -/
def cleanup (l : Loop) (ok service : Bool) (os : Service.Os) : Loop × Bool :=
  let l := if !ok && l.daemon.runtime = .running then (l.transition .stopping).1 else l
  let l := if service then l.setWorld (Startup.serviceDestroy l.daemon.world os) else l
  let (l, published) := l.transition .stopped
  (l, ok && published)

/-- `run_event_loop`, if `its` are the iterations that its `reactor_run` makes. -/
def runEventLoop (l : Loop) (s : Setup) (its : List Iteration) (os : Service.Os) :
    Option (Loop × Bool) :=
  match startup l s with
  | (l, false) => if its.isEmpty then some (cleanup l false s.service os) else none
  | (l, true) =>
    let l := { l with daemon := { l.daemon with shutdownRequested := false } }
    (reactorRun l its).map fun l => cleanup l true s.service os

/-! ## What the callbacks leave -/

variable {l l' : Loop} {it : Iteration} {its : List Iteration}

/-- The transitions on record were all accepted. -/
def Accepted (l : Loop) : Prop := ∀ r ∈ l.requests, r.2 = true

/-- A request for a state that the table allows, or that is the present one. -/
lemma transition_eq (l : Loop) (new : RuntimeState)
    (allowed : l.daemon.runtime = new ∨ runtimeTransitionAllowed l.daemon.runtime new = true) :
    l.transition new =
      (⟨{ l.daemon with runtime := new }, (new, true) :: l.requests⟩, true) := by
  by_cases same : l.daemon.runtime = new
  · subst same
    simp [Loop.transition, atpdRuntimeStateTransition]
  · obtain allowed | allowed := allowed
    · exact absurd allowed same
    · simp [Loop.transition, atpdRuntimeStateTransition, same, allowed]

/-- A request for a state that the table does not allow leaves the daemon as it is. -/
lemma transition_rejected (l : Loop) (new : RuntimeState) (differs : l.daemon.runtime ≠ new)
    (rejected : runtimeTransitionAllowed l.daemon.runtime new = false) :
    l.transition new = (⟨l.daemon, (new, false) :: l.requests⟩, false) := by
  simp [Loop.transition, atpdRuntimeStateTransition, differs, rejected]

/-- The two situations of the loop: it goes on in RUNNING without a request to shut down, or it was
stopped and is in STOPPING. -/
inductive Phase (l : Loop) : Prop where
  | up (runtime : l.daemon.runtime = .running) (calm : l.daemon.shutdownRequested = false)
      (going : l.daemon.reactorStopped = false)
  | down (runtime : l.daemon.runtime = .stopping) (stopped : l.daemon.reactorStopped = true)

/-- The invariant of the loop. -/
structure Sound (l : Loop) : Prop where
  accepted : Accepted l
  phase : Phase l

/-- STOPPING is accepted in both situations. -/
lemma Sound.stopping (so : Sound l) :
    l.daemon.runtime = .stopping ∨ runtimeTransitionAllowed l.daemon.runtime .stopping = true := by
  obtain runtime | runtime := so.phase
  · exact .inr (by rw [runtime]; rfl)
  · exact .inl runtime

/-- The daemon changes outside of what the situation is about. -/
lemma Sound.aside {d : State} (so : Sound l) (runtime : d.runtime = l.daemon.runtime)
    (shutdown : d.shutdownRequested = l.daemon.shutdownRequested)
    (stopped : d.reactorStopped = l.daemon.reactorStopped) : Sound { l with daemon := d } := by
  refine ⟨so.accepted, ?_⟩
  obtain ⟨up, calm, going⟩ | ⟨down, halted⟩ := so.phase
  · exact .up (runtime.trans up) (shutdown.trans calm) (stopped.trans going)
  · exact .down (runtime.trans down) (stopped.trans halted)

/-- The three ways to stop: the flag, the reactor and the runtime state, in any order. -/
lemma Sound.halt {d : State} {requests : List (RuntimeState × Bool)} (so : Sound l)
    (runtime : d.runtime = .stopping) (stopped : d.reactorStopped = true)
    (recorded : requests = (.stopping, true) :: l.requests) : Sound ⟨d, requests⟩ := by
  refine ⟨?_, .down runtime stopped⟩
  subst recorded
  intro r hr
  obtain rfl | hr := List.mem_cons.mp hr
  · rfl
  · exact so.accepted r hr

/-- A signal that ends the daemon: `reactor_signal_handle` clears `r->running` before the callback,
which clears it again. -/
lemma Sound.terminated (so : Sound l) : Sound (onSignal l.stop .sigterm) := by
  have moved := transition_eq l.stop.requestShutdown .stopping so.stopping
  simp only [onSignal, moved]
  exact so.halt rfl rfl rfl

/-- A signal asks for something, or is not handled. -/
lemma Sound.signals (so : Sound l) (sigs : List Signal) : Sound (reactorSignalHandle l sigs) := by
  induction sigs generalizing l with
  | nil => exact so
  | cons sig rest ih =>
    cases sig with
    | sigterm => exact ih so.terminated
    | sigint => exact ih so.terminated
    | sighup => exact ih (so.aside rfl rfl rfl)
    | sigusr1 => exact ih (so.aside rfl rfl rfl)
    | sigchld os => exact ih (so.aside rfl rfl rfl)

/-- A stop is requested by a client. -/
lemma Sound.stopAfterWrite (so : Sound l) : Sound (stopAfterWrite l) := by
  simp only [EventLoop.stopAfterWrite, transition_eq _ _ so.stopping]
  exact so.halt rfl rfl rfl

/-- By cases on the event. -/
lemma Sound.handle (so : Sound l) (ev : Event) : Sound (handle l ev) := by
  cases ev with
  | signals sigs => exact so.signals sigs
  | stopCommand => exact so.stopAfterWrite
  | other => exact so

/-- By induction on the batch. -/
lemma Sound.batch (so : Sound l) (evs : List Event) : Sound (evs.foldl EventLoop.handle l) := by
  induction evs generalizing l with
  | nil => exact so
  | cons ev rest ih => exact ih (so.handle ev)

/-- The reload itself leaves the runtime state and the flags. -/
lemma reload_flags (d : State) (defaults : AtpConfig) (file : CandidateFile) (os : Service.Os) :
    (reload d defaults file os).1.runtime = d.runtime ∧
    (reload d defaults file os).1.shutdownRequested = d.shutdownRequested ∧
    (reload d defaults file os).1.reactorStopped = d.reactorStopped := by
  rw [reload]
  split
  · exact ⟨rfl, rfl, rfl⟩
  · dsimp only
    split
    · exact ⟨rfl, rfl, rfl⟩
    · split <;> exact ⟨rfl, rfl, rfl⟩

/-- A reload goes to RELOADING and comes back to RUNNING. -/
lemma Sound.idleReload (so : Sound l) (defaults : AtpConfig) (file : CandidateFile)
    (os : Service.Os) : Sound (idleReload l defaults file os) := by
  rw [EventLoop.idleReload]
  split
  · dsimp only
    split
    · rename_i may
      obtain ⟨calm, runtime⟩ : l.daemon.shutdownRequested = false ∧ l.daemon.runtime = .running := by
        simpa using may
      have begun := transition_eq { l with daemon := { l.daemon with reloadRequested := false } }
        .reloading (.inr (by simp only [runtime]; rfl))
      simp only [begun]
      generalize hr : reload { l.daemon with reloadRequested := false, runtime := .reloading } defaults
        file os = r
      obtain ⟨reloading, shutdown, stopped⟩ := hr ▸ reload_flags
        { l.daemon with reloadRequested := false, runtime := .reloading } defaults file os
      have back := transition_eq ⟨r.1, (.reloading, true) :: l.requests⟩ .running
        (.inr (by simp only [reloading]; rfl))
      simp only [reloadReturnToRunningOrShutdown, back]
      refine ⟨?_, .up rfl (shutdown.trans calm) (stopped.trans ?_)⟩
      · intro r hr
        simp only [List.mem_cons] at hr
        obtain rfl | rfl | hr := hr
        · rfl
        · rfl
        · exact so.accepted r hr
      · obtain ⟨-, -, going⟩ | ⟨down, -⟩ := so.phase
        · exact going
        · exact absurd (runtime.symm.trans down) (by decide)
    · exact so.aside rfl rfl rfl
  · exact so

/-- A shutdown that was asked for is begun once. -/
lemma Sound.idleShutdown (so : Sound l) : Sound (idleShutdown l) := by
  have shown : Sound (if l.daemon.statusRequested && !l.daemon.shutdownRequested then
      { l with daemon := { l.daemon with statusRequested := false } } else l) := by
    split
    · exact so.aside rfl rfl rfl
    · exact so
  rw [EventLoop.idleShutdown]
  dsimp only
  generalize (if l.daemon.statusRequested && !l.daemon.shutdownRequested then
    { l with daemon := { l.daemon with statusRequested := false } } else l) = l1 at shown ⊢
  split
  · simp only [transition_eq _ _ shown.stopping]
    exact shown.halt rfl rfl rfl
  · exact shown

/-- The work between two passes: reload, and then shutdown. -/
lemma Sound.onIdle (so : Sound l) (defaults : AtpConfig) (file : CandidateFile) (os : Service.Os) :
    Sound (onIdle l defaults file os) :=
  (so.idleReload defaults file os).idleShutdown

/-! ## Without the record -/

/-- Behind a reload the daemon goes back to RUNNING. -/
lemma reloadReturn_daemon (l : Loop) : (reloadReturnToRunningOrShutdown l).daemon =
    Daemon.reloadReturnToRunningOrShutdown l.daemon := by
  simp only [reloadReturnToRunningOrShutdown, Daemon.reloadReturnToRunningOrShutdown,
    Loop.transition]
  cases atpdRuntimeStateTransition l.daemon .running with
  | mk d accepted => cases accepted <;> rfl

/-- The reload of the loop is the daemon's. -/
lemma idleReload_daemon (l : Loop) (defaults : AtpConfig) (file : CandidateFile) (os : Service.Os) :
    (idleReload l defaults file os).daemon = (Daemon.idleReload l.daemon defaults file os).1 := by
  simp only [idleReload, Daemon.idleReload]
  split
  · split
    · simp only [Loop.transition]
      cases atpdRuntimeStateTransition { l.daemon with reloadRequested := false } .reloading with
      | mk d accepted =>
        cases accepted with
        | false => rfl
        | true => exact reloadReturn_daemon _
    · rfl
  · rfl

/-- So is its shutdown. -/
lemma idleShutdown_daemon (l : Loop) : (idleShutdown l).daemon = Daemon.idleShutdown l.daemon := by
  simp only [idleShutdown, Daemon.idleShutdown]
  cases shutdown : l.daemon.shutdownRequested with
  | true => simp only [Bool.not_true, Bool.and_false, Bool.false_eq_true, if_false, shutdown, if_true]; rfl
  | false => cases status : l.daemon.statusRequested <;> simp [shutdown]

/-- The loop's `on_idle` is the one that the reloads are proved about. -/
theorem onIdle_daemon (l : Loop) (defaults : AtpConfig) (file : CandidateFile) (os : Service.Os) :
    (onIdle l defaults file os).daemon = (Daemon.onIdle l.daemon defaults file os).1 := by
  rw [onIdle, idleShutdown_daemon, idleReload_daemon]
  rfl

/-! ## The loop and its end -/

/-- What an error of `epoll_wait` leaves: the loop is over and the runtime state still RUNNING. -/
structure Broken (l : Loop) : Prop where
  accepted : Accepted l
  runtime : l.daemon.runtime = .running
  stopped : l.daemon.reactorStopped = true

/-- The timers do not stop the reactor. -/
lemma Sound.timers {es : List Service.Event} (so : Sound l)
    (passed : processExpiredTimers l es = some l') :
    Sound l' ∧ l'.daemon.reactorStopped = l.daemon.reactorStopped := by
  simp only [processExpiredTimers, Option.ite_none_right_eq_some, Option.map_eq_some_iff] at passed
  obtain ⟨-, w, -, rfl⟩ := passed
  exact ⟨so.aside rfl rfl rfl, rfl⟩

/-- One iteration keeps the invariant, unless `epoll_wait` fails. -/
lemma Sound.iterate (so : Sound l) (st : iterate l it = some l') :
    (it.wait ≠ .error → Sound l') ∧ (it.wait = .error → Broken l') := by
  simp only [EventLoop.iterate, Option.ite_none_left_eq_some, Option.map_eq_some_iff] at st
  obtain ⟨going, l1, passed, rfl⟩ := st
  obtain ⟨so1, same⟩ := so.timers passed
  cases it.wait with
  | eintr => exact ⟨fun _ => so1, nofun⟩
  | error =>
    refine ⟨fun failed => absurd rfl failed, fun _ => ?_⟩
    obtain ⟨runtime, -, -⟩ | ⟨-, stopped⟩ := so1.phase
    · exact ⟨so1.accepted, runtime, rfl⟩
    · exact absurd (same.symm.trans stopped) going
  | timeout defaults file os => exact ⟨fun _ => so1.onIdle defaults file os, nofun⟩
  | ready first rest => exact ⟨fun _ => so1.batch (first :: rest), nofun⟩

/-- A loop that was left by an error makes no further iteration. -/
lemma Broken.run (br : Broken l) (rn : run EventLoop.iterate l its = some l') : its = [] ∧ l' = l := by
  cases its with
  | nil =>
    cases rn
    exact ⟨rfl, rfl⟩
  | cons it its =>
    obtain ⟨l1, st, -⟩ := run_cons.mp rn
    simp [EventLoop.iterate, br.stopped] at st

/-- The whole loop: it ends as it should, or by an error of `epoll_wait`. -/
lemma Sound.run (so : Sound l) (rn : run EventLoop.iterate l its = some l') :
    (∀ it ∈ its, it.wait ≠ .error) ∧ Sound l' ∨ (∃ it ∈ its, it.wait = .error) ∧ Broken l' := by
  induction its generalizing l with
  | nil =>
    cases rn
    exact .inl ⟨List.forall_mem_nil _, so⟩
  | cons it its ih =>
    obtain ⟨l1, st, rest⟩ := run_cons.mp rn
    obtain ⟨goesOn, breaks⟩ := so.iterate st
    by_cases failed : it.wait = .error
    · obtain ⟨rfl, rfl⟩ := (breaks failed).run rest
      exact .inr ⟨⟨it, by simp, failed⟩, breaks failed⟩
    · obtain ⟨none, so1⟩ | ⟨⟨it1, mem, failed1⟩, br⟩ := ih (goesOn failed) rest
      · exact .inl ⟨List.forall_mem_cons.mpr ⟨failed, none⟩, so1⟩
      · exact .inr ⟨⟨it1, by simp [mem], failed1⟩, br⟩

/-- What `run_event_loop` should leave: STOPPED, and no request that was rejected. -/
structure EndsStopped (l : Loop) : Prop where
  runtime : l.daemon.runtime = .stopped
  accepted : Accepted l

/-- A transition that was accepted. -/
lemma Accepted.cons (ac : Accepted l) (d : State) (new : RuntimeState) :
    Accepted ⟨d, (new, true) :: l.requests⟩ := by
  intro r hr
  obtain rfl | hr := List.mem_cons.mp hr
  · rfl
  · exact ac r hr

/-- At the end of `cleanup` the supervisor is destroyed, and STOPPED requested. -/
lemma cleanup_eq (l : Loop) (ok service : Bool) (os : Service.Os) : ∃ w,
    (cleanup l ok service os).1 =
      (((if !ok && l.daemon.runtime = .running then (l.transition .stopping).1 else l).setWorld
        w).transition .stopped).1 := by
  cases service with
  | true => exact ⟨_, rfl⟩
  | false => exact ⟨_, rfl⟩

/-- The label `cleanup` in STOPPING, or in RUNNING after a failed start. -/
lemma cleanup_endsStopped (ok service : Bool) (os : Service.Os) (ac : Accepted l)
    (leaves : l.daemon.runtime = .stopping ∨ l.daemon.runtime = .running ∧ ok = false) :
    EndsStopped (cleanup l ok service os).1 := by
  obtain ⟨w, hw⟩ := cleanup_eq l ok service os
  rw [hw]
  obtain stopping | ⟨running, rfl⟩ := leaves
  · have stays : (!ok && decide (l.daemon.runtime = .running)) = false := by simp [stopping]
    have moved := transition_eq (l.setWorld w) .stopped
      (.inr (by rw [show (l.setWorld w).daemon.runtime = .stopping from stopping]; rfl))
    simp only [stays, Bool.false_eq_true, if_false, moved]
    exact ⟨rfl, ac.cons _ _⟩
  · have first := transition_eq l .stopping (.inr (by rw [running]; rfl))
    simp only [running, Bool.not_false, decide_true, Bool.and_self, if_true, first]
    exact ⟨rfl, (ac.cons _ _).cons _ _⟩

/-- The label `cleanup` after an error of `epoll_wait`: the result is 0, so STOPPING is skipped, and
STOPPED is rejected. -/
lemma Broken.cleanup (br : Broken l) (service : Bool) (os : Service.Os) :
    (EventLoop.cleanup l true service os).1.daemon.runtime = .running ∧
    (.stopped, false) ∈ (EventLoop.cleanup l true service os).1.requests := by
  obtain ⟨w, hw⟩ := cleanup_eq l true service os
  have running : (l.setWorld w).daemon.runtime = .running := br.runtime
  have rejected := transition_rejected (l.setWorld w) .stopped
    (by rw [running]; decide) (by rw [running]; rfl)
  rw [hw]
  simp only [Bool.not_true, Bool.false_and, Bool.false_eq_true, if_false, rejected]
  exact ⟨running, by simp⟩

/-- What precedes the loop concerns the supervisor only. -/
lemma startup_setWorld (l : Loop) (s : Setup) : ∃ w, (startup l s).1 = l.setWorld w := by
  rw [startup]
  split
  · split
    · exact ⟨_, rfl⟩
    · exact ⟨_, rfl⟩
  · exact ⟨l.daemon.world, rfl⟩

/-- For every run of `run_event_loop` from RUNNING to its return: the runtime state is STOPPED and
every transition on the way was accepted exactly if `epoll_wait` never failed with an error. -/
theorem endsStopped_iff_noError (l : Loop) (s : Setup) (its : List Iteration) (os : Service.Os)
    (ok : Bool) (running : l.daemon.runtime = .running) (fresh : l.requests = [])
    (returns : runEventLoop l s its os = some (l', ok)) :
    EndsStopped l' ↔ ∀ it ∈ its, it.wait ≠ .error := by
  -- no transition was asked for before
  have accepted : ∀ w, Accepted (l.setWorld w) := by
    intro w r hr
    simp [Loop.setWorld, fresh] at hr
  obtain ⟨w, hw⟩ := startup_setWorld l s
  rw [runEventLoop] at returns
  split at returns
  · rename_i heq
    obtain rfl : _ = l.setWorld w := by rw [← hw, heq]
    simp only [Option.ite_none_right_eq_some, Option.some.injEq] at returns
    obtain ⟨none, ended⟩ := returns
    obtain rfl := List.isEmpty_iff.mp none
    have ends := cleanup_endsStopped false s.service os (accepted w)
      (.inr ⟨running, rfl⟩)
    rw [ended] at ends
    exact ⟨fun _ => List.forall_mem_nil _, fun _ => ends⟩
  · rename_i heq
    obtain rfl : _ = l.setWorld w := by rw [← hw, heq]
    simp only [reactorRun, Option.map_eq_some_iff, Option.filter_eq_some_iff] at returns
    obtain ⟨l1, ⟨rn, stopped⟩, ended⟩ := returns
    have so : Sound ⟨{ (l.setWorld w).daemon with shutdownRequested := false, reactorStopped := false },
        l.requests⟩ := ⟨accepted w, .up running rfl rfl⟩
    -- the loop was asked to stop, or it broke off
    obtain ⟨none, so1⟩ | ⟨⟨it, mem, failed⟩, br⟩ := so.run rn
    · obtain ⟨-, -, going⟩ | ⟨stopping, -⟩ := so1.phase
      · exact absurd (going.symm.trans stopped) (by decide)
      · have ends := cleanup_endsStopped true s.service os so1.accepted (.inl stopping)
        rw [ended] at ends
        exact ⟨fun _ => none, fun _ => ends⟩
    · -- RUNNING to STOPPED is not a transition, so it is rejected
      obtain ⟨-, rejected⟩ := br.cleanup s.service os
      rw [ended] at rejected
      constructor
      · intro ends
        exact absurd (ends.accepted _ rejected) (by decide)
      · intro none
        exact absurd failed (none it mem)

/-- The daemon with the default configuration when `do_start` calls `run_event_loop`: the supervisor
is attached to the reactor and the runtime state is RUNNING. -/
def entered : Loop where
  daemon := .init defaultConfig "atp.conf".toList
    (Service.serviceSetReactor (.init Service.defaultCtx none 1000) (.calm 1000 100)).1
  requests := []

/-- Every step before the loop works, and the API answers at the first poll. -/
def smoothStart : Setup where
  reactor := true
  signalCb := true
  watched := [true, true, true, true, true]
  netlink := some true
  service := true
  uds := true
  start := .calm 1000 100
  polls := [{ Service.Os.calm 1100 100 with apiStatus := true }]
  final := .calm 31000 100

/-- `epoll_wait` fails in the first iteration: `run_event_loop` returns with the runtime state
RUNNING, the request for STOPPED having been rejected. -/
theorem epollError_leaves_running : entered.daemon.runtime = .running ∧ entered.requests = [] ∧
    ∃ l', runEventLoop entered smoothStart [⟨[], .error⟩] (.calm 2000 100) = some (l', false) ∧
      l'.daemon.runtime = .running ∧ l'.requests = [(.stopped, false)] ∧ ¬EndsStopped l' := by
  have seen : (runEventLoop entered smoothStart [⟨[], .error⟩] (.calm 2000 100)).map
      (fun r => (r.1.daemon.runtime, r.1.requests, r.2)) =
        some (.running, [(.stopped, false)], false) := by decide +kernel
  obtain ⟨⟨l', ok⟩, returns, seen⟩ := Option.map_eq_some_iff.mp seen
  simp only [Prod.mk.injEq] at seen
  obtain ⟨running, recorded, rfl⟩ := seen
  refine ⟨rfl, rfl, l', returns, running, recorded, ?_⟩
  intro ends
  exact absurd (running.symm.trans ends.runtime) (by decide)

/-- An interruption, a reload, then SIGTERM together with a stop command. -/
def reloadThenStop : List Iteration :=
  [⟨[], .eintr⟩, ⟨[], .ready (.signals [.sighup]) [.other]⟩,
    ⟨[], .timeout defaultConfig quarterSecond (.calm 2000 100)⟩,
    ⟨[], .ready (.signals [.sigterm]) [.stopCommand]⟩]

/-- A reload, and then a stop: the daemon ends STOPPED. -/
theorem endsStopped_iff_noError_reloadThenStop :
    ∃ l' ok, runEventLoop entered smoothStart reloadThenStop (.calm 3000 100) = some (l', ok) ∧
      l'.requests.length = 5 ∧ EndsStopped l' := by
  have seen : (runEventLoop entered smoothStart reloadThenStop (.calm 3000 100)).map
      (fun r => r.1.requests.length) = some 5 := by decide +kernel
  obtain ⟨⟨l', ok⟩, returns, five⟩ := Option.map_eq_some_iff.mp seen
  refine ⟨l', ok, returns, five, ?_⟩
  have ends := endsStopped_iff_noError entered smoothStart reloadThenStop (.calm 3000 100) ok rfl rfl
    returns
  refine ends.mpr ?_
  intro it mem
  simp only [reloadThenStop, List.mem_cons, List.not_mem_nil, or_false] at mem
  obtain rfl | rfl | rfl | rfl := mem <;> simp

end Atpd.Daemon.EventLoop
