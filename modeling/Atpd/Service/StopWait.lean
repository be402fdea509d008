import Atpd.Service.Handles
import Atpd.Service.Stop

/-!
# The end of an asynchronous stop

`service_stop_async` leaves the rest of the stop to a chain of one-shot timers: each tick looks
whether the child is still alive and either ends the stop or arms the next tick. This file follows the
chain from the call to the tick that ends it, with everything that can come in between except a start
or another stop. The chain ends well exactly if no tick takes a child that is still there for dead,
and no tick fails to arm the next one.
-/

namespace Atpd.Service

open Atpd.Config Atpd.Reactor Atpd.Lib

variable {w w' : World} {os : Os} {pid : Int}

/-- A tick of `service_stop_async`. -/
def IsTick (x : PublicTimer Callback) : Prop := ∃ s, x.callback = some (.stopWait s)

/-- The calls of a `done_cb`. -/
def doneCount (log : List Obs) : Nat := log.count .doneCb

/-- Events other than a start or a stop. -/
def Event.isMeanwhile : Event → Bool
  | .start _ | .stopAsync _ _ | .stopSync _ => false
  | _ => true

/-- The child of the context has not been reaped. -/
def ChildThere (w : World) : Prop := 0 < w.ctx.childPid ∧ (w.proc w.ctx.childPid).isSome = true

/-- A tick finds a child that is there alive, and can arm the next tick if there is to be one. -/
def tickOk (w : World) (s : StopState) (os : Os) : Prop :=
  ChildThere w → serviceIsAlive w os.alive1.stat = true ∧
    (os.timerAlloc = true ∨ s.maxAttempts ≤ s.attempts + 1)

instance (w : World) (s : StopState) (os : Os) : Decidable (tickOk w s os) :=
  inferInstanceAs (Decidable (0 < w.ctx.childPid ∧ (w.proc w.ctx.childPid).isSome = true →
    serviceIsAlive w os.alive1.stat = true ∧
      (os.timerAlloc = true ∨ s.maxAttempts ≤ s.attempts + 1)))

/-- The stop that a timer is a tick of, unless the timer was cancelled. -/
def tickState (t : Timer Callback) : Option StopState :=
  match t.pendingDelete, t.callback with
  | false, some (.stopWait s) => some s
  | _, _ => none

/-- A tick is a live timer of the wait. -/
lemma tickState_eq_some {t : Timer Callback} {s : StopState} :
    tickState t = some s ↔ t.pendingDelete = false ∧ t.callback = some (.stopWait s) := by
  unfold tickState
  split
  · rename_i live hcb
    simp [live, hcb]
  · rename_i other
    constructor
    · intro h
      cases h
    · rintro ⟨live, hcb⟩
      exact absurd hcb (other s live)

/-- The tick that this event is, if it is one, goes well. -/
def TickOk (w : World) : Event → Prop
  | .timer id nowMs os => ∀ s ∈ (w.due id nowMs).bind tickState, tickOk w s os
  | _ => True

instance (w : World) (e : Event) : Decidable (TickOk w e) :=
  match e with
  | .timer id nowMs os =>
    inferInstanceAs (Decidable (∀ s ∈ (w.due id nowMs).bind tickState, tickOk w s os))
  | .setReactor _ | .start _ | .monitor _ | .sigchld _ | .health _ | .exit _ | .stopAsync _ _
  | .stopSync _ | .applyConfig _ _ => isTrue trivial

/-! ## Children -/

/-- A child that ends stays in the table. -/
lemma isSome_exit (w : World) (pid q : Int) :
    ((w.exit pid).proc q).isSome = (w.proc q).isSome := by
  by_cases same : q = pid
  · subst same
    rw [proc_exit, Option.isSome_map]
  · rw [proc_exit_ne same]

/-- So does one that may end. -/
lemma isSome_mayExit (w : World) (pid q : Int) (dies : Bool) :
    ((w.mayExit pid dies).proc q).isSome = (w.proc q).isSome := by
  rw [World.mayExit]
  split
  · exact isSome_exit w pid q
  · rfl

/-- A child that is reaped is gone, and the others are still there. -/
lemma proc_reap (w : World) (pid q : Int) :
    (w.reap pid).proc q = if q = pid then none else w.proc q := by
  cases hp : w.proc pid with
  | none =>
    simp only [World.reap, hp]
    split
    · rename_i same
      rw [same]
      exact hp
    · rfl
  | some p =>
    simp only [World.reap, hp]
    rw [World.proc, World.proc, List.find?_filter]
    split
    · rename_i same
      subst same
      refine List.find?_eq_none.mpr ?_
      simp
    · rename_i ne
      congr 1
      funext r
      by_cases same : r.pid = q
      · simp [same, ne]
      · simp [same]

/-- `waitpid` that is retried reaps. -/
lemma proc_waitpid_self (w : World) (pid : Int) : (w.waitpid pid).proc pid = none := by
  rw [World.waitpid, proc_reap, if_pos rfl]

/-- What becomes of the child alone calls no `done_cb`. -/
lemma doneCount_childOnly (co : ChildOnly w w') : doneCount w'.log = doneCount w.log := by
  obtain ⟨l, hl, child⟩ := co.log
  rw [doneCount, hl, List.count_append, List.count_eq_zero_of_not_mem, Nat.zero_add]
  · rfl
  · intro mem
    exact absurd (child _ mem) (by decide)

/-! ## What is not a tick -/

/-- Between `w` and `w'` no tick has run: the child may have been reaped, and nothing else that
concerns the stop has changed. -/
structure Unticked (w w' : World) : Prop where
  state : w'.ctx.state = w.ctx.state
  ticks : ∀ x, IsTick x → (x ∈ w'.priv.live ↔ x ∈ w.priv.live)
  child : w'.ctx.childPid = w.ctx.childPid ∨
    w'.ctx.childPid = -1 ∧ 0 < w.ctx.childPid ∧ w'.proc w.ctx.childPid = none
  others : ∀ pid, pid ≠ w.ctx.childPid → (w'.proc pid).isSome = (w.proc pid).isSome
  gone : w.proc w.ctx.childPid = none → w'.proc w.ctx.childPid = none
  done : doneCount w'.log = doneCount w.log

/-- Nothing that concerns the child or the history has changed. -/
lemma Unticked.of_eq (state : w'.ctx.state = w.ctx.state)
    (ticks : ∀ x, IsTick x → (x ∈ w'.priv.live ↔ x ∈ w.priv.live))
    (childPid : w'.ctx.childPid = w.ctx.childPid) (procs : w'.procs = w.procs)
    (log : w'.log = w.log) : Unticked w w' where
  state := state
  ticks := ticks
  child := .inl childPid
  others pid _ := by rw [World.proc, procs]; rfl
  gone none := by rw [World.proc, procs]; exact none
  done := by rw [log]

/-- Nothing happens. -/
lemma Unticked.refl : Unticked w w := .of_eq rfl (fun _ _ => .rfl) rfl rfl rfl

/-- The child may end between two ticks. -/
lemma Unticked.exit : Unticked w (w.exit pid) where
  state := ChildOnly.exit.state
  ticks x _ := by rw [ChildOnly.exit.priv]
  child := .inl (by rw [exit_ctx])
  others q _ := isSome_exit w pid q
  gone none := by simpa [none] using isSome_exit w pid w.ctx.childPid
  done := doneCount_childOnly .exit

/-- `waitpid` without waiting: only the child itself can be reaped. -/
lemma isSome_waitpidNohang (w : World) (pid : Int) (dies : Bool) :
    (∀ q, q ≠ pid → ((waitpidNohang w pid dies).1.proc q).isSome = (w.proc q).isSome) ∧
    ((waitpidNohang w pid dies).2 = .reaped → (waitpidNohang w pid dies).1.proc pid = none) ∧
    (w.proc pid = none → (waitpidNohang w pid dies).1.proc pid = none) := by
  have exited : ∀ q, (((w.note (.waited pid)).mayExit pid dies).proc q).isSome = (w.proc q).isSome :=
    fun q => isSome_mayExit (w.note (.waited pid)) pid q dies
  simp only [waitpidNohang]
  split
  · rename_i p found
    have there : (w.proc pid).isSome = true := by rw [← exited pid, found]; rfl
    split
    · refine ⟨fun q ne => ?_, fun _ => ?_, fun _ => ?_⟩
      · rw [proc_reap, if_neg ne]
        exact exited q
      · rw [proc_reap, if_pos rfl]
      · rw [proc_reap, if_pos rfl]
    · refine ⟨fun q _ => exited q, by simp, fun none => ?_⟩
      simp [none] at there
  · rename_i gone
    exact ⟨fun q _ => exited q, by simp, fun _ => gone⟩

/-- `service_sigchld_cb` of a service that is down: the child may be reaped. -/
lemma Unticked.sigchld (qu : Quiet w) (os : Os) : Unticked w (serviceSigchldCb w os) := by
  obtain ⟨others, reaped, gone⟩ := isSome_waitpidNohang w w.ctx.childPid os.alive1.dies
  have waited := ChildOnly.waitpidNohang w w.ctx.childPid os.alive1.dies
  have pid := waitpidNohang_ctx w w.ctx.childPid os.alive1.dies
  rw [serviceSigchldCb]
  split
  · rename_i pos
    split
    · exact ⟨rfl, fun _ _ => .rfl, .inl rfl, fun _ _ => rfl, id, doneCount_childOnly (.note rfl)⟩
    · split
      · rename_i w1 heq
        rw [heq] at others reaped gone waited
        have down : ¬((serviceUnlinkPid (w1.clearChild.setHealthy false)).ctx.state = .running ∨
            (serviceUnlinkPid (w1.clearChild.setHealthy false)).ctx.state = .starting) := by
          show ¬(w1.ctx.state = .running ∨ w1.ctx.state = .starting)
          rw [waited.state]
          exact qu.not_up
        rw [Service.sigchldFailed, if_neg down]
        exact ⟨waited.state, fun x _ => by show x ∈ w1.priv.live ↔ _; rw [waited.priv],
          .inr ⟨rfl, pos, reaped rfl⟩, others, gone, (doneCount_childOnly waited : doneCount w1.log = _)⟩
      · rename_i w1 _ _ heq
        rw [heq] at others gone waited pid
        exact ⟨waited.state, fun x _ => by rw [waited.priv], .inl (by rw [pid]), others, gone,
          doneCount_childOnly waited⟩
  · exact .refl

/-- A quiet service is not monitored. -/
lemma Unticked.monitor (qu : Quiet w) (os : Os) : Unticked w (serviceMonitorCb w os) := by
  have same : serviceMonitorCb w os = w := by
    obtain h | h := qu.down <;> simp [serviceMonitorCb, h]
  rw [same]
  exact .refl

/-- Nor is its health checked. -/
lemma Unticked.health (qu : Quiet w) (os : Os) : Unticked w (serviceHealthCheckCb w os) := by
  have same : serviceHealthCheckCb w os = w := by
    obtain h | h := qu.down <;> simp [serviceHealthCheckCb, h]
  rw [same]
  exact .refl

/-- A new configuration does not touch the wait. -/
lemma Unticked.applyConfig (qu : Quiet w) (cfg : AtpConfig) (os : Os) :
    Unticked w (serviceApplyConfig w cfg os).1 := by
  have down : w.ctx.state ≠ .running := fun h => qu.not_up (.inl h)
  simp only [serviceApplyConfig, down, and_false, ↓reduceIte]
  exact .of_eq rfl (fun _ _ => .rfl) rfl rfl rfl

/-- A tick is never one of the timers that a handle is kept for. -/
lemma Listed.tick_unkept {out : Bool} {x : PublicTimer Callback} (ac : Listed out w)
    (hx : x ∈ w.priv.live) (tick : IsTick x) : PublicTimer.unkept x = true := by
  obtain ⟨st, hcb⟩ := tick
  refine (ac.kept x hx).resolve_right ?_
  rintro ⟨-, s, hs⟩
  have own := ((ac.named s x.id hs).2 x hx rfl).1
  rw [hcb] at own
  cases s <;> cases own

/-- `service_set_reactor` replaces the monitor timer. -/
lemma Unticked.setReactor (ac : Listed true w) (os : Os) : Unticked w (serviceSetReactor w os).1 := by
  have kept := ChildKept.serviceSetReactor w os
  have attached : Listed true (w.setReactor true) := ac.moved .attach
  have cancelled : ∀ x, IsTick x →
      (x ∈ (w.setReactor true).cancelMonitor.priv.live ↔ x ∈ w.priv.live) := by
    intro x tick
    show x ∈ ((w.setReactor true).cancelCtxTimer w.ctx.monitorTimer).priv.live ↔ _
    rw [mem_live_cancelCtxTimer attached.sound.wf]
    refine ⟨fun h => h.1, fun hx => ⟨hx, fun _ => ?_⟩⟩
    exact ac.not_named hx (ac.tick_unkept hx tick) .monitor
  refine .of_eq ?_ ?_ kept.childPid kept.procs ?_
  · simp [serviceSetReactor, World.setMonitor, World.cancelMonitor, World.setReactor]
  · intro x tick
    rw [← cancelled x tick]
    show x ∈ ((w.setReactor true).cancelMonitor.addCtxTimer os 100 1000 .monitor).1.priv.live ↔ _
    rw [World.addCtxTimer]
    split
    · obtain h | ⟨priv, h, added⟩ := addTimer_cases (w.setReactor true).cancelMonitor os 100 1000 .monitor
      · rw [h]
      · rw [h]
        refine (added.live x).trans ⟨fun hx => hx.resolve_left ?_, .inr⟩
        rintro rfl
        obtain ⟨s, hs⟩ := tick
        cases hs
    · rfl
  · simp [serviceSetReactor, World.setMonitor, World.cancelMonitor, World.setReactor]

/-! ## Timers -/

/-- The timer `id`, which fires once, is running. -/
def RunsOnce (id : Nat) (r : Priv Callback) : Prop :=
  ∃ u, r.running = some u ∧ u.id = id ∧ u.intervalMs = 0

/-- Cancelling makes no second timer. -/
lemma RunsOnce.cancel {id h : Nat} {r : Priv Callback} (ro : RunsOnce id r) :
    RunsOnce id (reactorCancelTimer r h) := by
  obtain ⟨u, hu, hid, once⟩ := ro
  rw [reactorCancelTimer]
  cases hrun : findLive r.running.toList h with
  | some t =>
    obtain ⟨ht, -, -⟩ := findLive_some hrun
    have same : u = t := Option.some.inj (hu.symm.trans (by simpa using ht))
    subst same
    exact ⟨u.cancelled, rfl, hid, once⟩
  | none =>
    cases hl : findLive r.timers h with
    | some t => exact ⟨u, hu, hid, once⟩
    | none => exact ⟨u, hu, hid, once⟩

lemma RunsOnce.cancelCtxTimer {id : Nat} {h : Option Nat} (ro : RunsOnce id w.priv) :
    RunsOnce id (w.cancelCtxTimer h).priv := by
  cases h with
  | none => exact ro
  | some h =>
    simp only [World.cancelCtxTimer]
    split
    · exact ro.cancel
    · exact ro

/-- A new timer has a new number. -/
lemma RunsOnce.addTimer {id timeout interval : Nat} {cb : Callback} (ro : RunsOnce id w.priv) :
    RunsOnce id (w.addTimer os timeout interval cb).1.priv := by
  obtain h | ⟨priv, h, added⟩ := addTimer_cases w os timeout interval cb
  · rw [h]
    exact ro
  · rw [h]
    obtain ⟨u, hu, rest⟩ := ro
    exact ⟨u, added.running.trans hu, rest⟩

/-- Whatever its callback does, the timer is still the one that is running. -/
lemma RunsOnce.moved {id : Nat} (mv : Moved w w') (ro : RunsOnce id w.priv) : RunsOnce id w'.priv := by
  induction mv with
  | same priv _ _ => exact priv ▸ ro
  | cancel s =>
    rw [World.cancelSlot, setHandle_priv]
    exact ro.cancelCtxTimer
  | schedule s os timeout interval _ _ =>
    rw [setHandle_priv, World.addCtxTimer]
    split
    · exact ro.addTimer
    · exact ro
  | replace os interval _ _ _ => exact ro.addTimer.cancelCtxTimer
  | unkept os timeout _ => exact ro.addTimer
  | attach => exact ro
  | release _ => exact ro
  | trans _ _ ih1 ih2 => exact ih2 (ih1 ro)

/-- A timer that fires once is freed after its callback, and nothing else is. -/
lemma RunsOnce.mem_live_endTimer {id nowMs : Nat} {r : Priv Callback} {x : PublicTimer Callback}
    (ro : RunsOnce id r) (wf : r.Wf) : x ∈ (r.endTimer nowMs).live ↔ x ∈ r.live ∧ x.id ≠ id := by
  obtain ⟨u, hu, rfl, once⟩ := ro
  have freed : u.rearms = false := by simp [Timer.rearms, once]
  rw [Reactor.mem_live_endTimer hu, freed]
  constructor
  · rintro (⟨rearms, -⟩ | ⟨t, ht, live, rfl⟩)
    · cases rearms
    · exact ⟨mem_live.mpr ⟨t, .inr ht, live, rfl⟩, wf.unlinked u hu t ht⟩
  · rintro ⟨hx, ne⟩
    obtain ⟨t, ht | ht, live, rfl⟩ := mem_live.mp hx
    · cases hu.symm.trans ht
      exact absurd rfl ne
    · exact .inr ⟨t, ht, live, rfl⟩

/-- A timer that is no tick fires; its callback does nothing that concerns the stop. -/
lemma Unticked.fire {t : Timer Callback} {nowMs : Nat} (ac : Listed true w) (ht : t ∈ w.priv.timers)
    (other : ∀ s, t.pendingDelete = false → t.callback ≠ some (.stopWait s))
    (same : t.pendingDelete = false → (w.beginTimer t nowMs).runTimer t os = w.beginTimer t nowMs) :
    Unticked w (w.fire t nowMs os) := by
  have so := ac.sound.tick nowMs
  rw [World.fire]
  split
  · rename_i mark
    refine .of_eq rfl (fun x _ => ⟨live_of_freeTimer, ?_⟩) rfl rfl rfl
    exact so.live_freeTimer ht mark
  · rename_i mark
    have live : t.pendingDelete = false := by simpa using mark
    rw [same live]
    refine .of_eq rfl (fun x tick => ?_) rfl rfl rfl
    show x ∈ (({ w.priv with currentTimeMs := nowMs }.beginTimer t).endTimer nowMs).live ↔ _
    have begun : x ∈ ({ w.priv with currentTimeMs := nowMs }.beginTimer t).live ↔ x ∈ w.priv.live :=
      mem_live_beginTimer so.wf ht (so.idle rfl)
    refine ⟨fun hx => begun.mp (live_of_endTimer hx), fun hx => ?_⟩
    rw [Reactor.mem_live_endTimer rfl]
    obtain ⟨u, hu | hu, unmarked, rfl⟩ := mem_live.mp (begun.mpr hx)
    · -- the running timer is no tick
      cases hu
      obtain ⟨s, hs⟩ := tick
      exact absurd hs (other s live)
    · exact .inr ⟨u, hu, unmarked, rfl⟩

/-! ## One tick -/

/-- The callback of a tick: which ticks are live afterwards, when the timer itself is freed. -/
lemma mem_live_tick {t : Timer Callback} {s : StopState} (nowMs : Nat) (os : Os) (x : PublicTimer Callback)
    (ac : Listed true w) (ht : t ∈ w.priv.timers) (live : t.pendingDelete = false)
    (hcb : t.callback = some (.stopWait s)) :
    w.fire t nowMs os = (serviceStopWaitCb (w.beginTimer t nowMs) s os).endTimer nowMs ∧
    (x ∈ (w.fire t nowMs os).priv.live ↔
      x ∈ (serviceStopWaitCb (w.beginTimer t nowMs) s os).priv.live ∧ x.id ≠ t.id) := by
  have active : t.active = true := by rw [ac.sound.active t (.inr ht), live]; rfl
  have fires : w.fire t nowMs os =
      (serviceStopWaitCb (w.beginTimer t nowMs) s os).endTimer nowMs := by
    simp [World.fire, live, World.runTimer, hcb, active, dispatch]
  have tick : PublicTimer.unkept t.toPublic = true :=
    ac.tick_unkept (mem_live.mpr ⟨t, .inr ht, live, rfl⟩) ⟨s, hcb⟩
  have once : t.intervalMs = 0 := by
    simp only [PublicTimer.unkept, Timer.toPublic, Bool.and_eq_true, beq_iff_eq] at tick
    exact tick.1
  have begun : RunsOnce t.id (w.beginTimer t nowMs).priv := ⟨t, rfl, rfl, once⟩
  have ended := begun.moved (.stopWait (w.beginTimer t nowMs) s os)
  have listed := (ac.beginTimer ht nowMs).moved (.stopWait (w.beginTimer t nowMs) s os)
  refine ⟨fires, ?_⟩
  rw [fires]
  exact ended.mem_live_endTimer listed.sound.wf

variable {base : Nat} {c : Int}

/-- The stop of the child `c` is under way: one tick is live, and `done_cb` has not been called; `base`
counts the calls before the stop. -/
structure Waiting (base : Nat) (c : Int) (w : World) : Prop where
  state : w.ctx.state = .stopping
  one : ∃ id s, s.doneCb = true ∧
    ∀ x, IsTick x → (x ∈ w.priv.live ↔ x = ⟨id, 0, some (.stopWait s)⟩)
  child : w.ctx.childPid = c ∨ w.ctx.childPid = -1 ∧ w.proc c = none
  silent : doneCount w.log = base

/-- The stop has completed. -/
structure Completed (base : Nat) (c : Int) (w : World) : Prop where
  state : w.ctx.state = .stopped
  childPid : w.ctx.childPid = -1
  reaped : 0 < c → w.proc c = none
  once : doneCount w.log = base + 1

/-- The stop has ended without `done_cb`, or without the child being reaped. -/
def Abandoned (base : Nat) (c : Int) (w : World) : Prop :=
  doneCount w.log = base ∨ w.ctx.childPid = -1 ∧ 0 < c ∧ (w.proc c).isSome = true

/-- No tick is live. -/
def NoTick (w : World) : Prop := ∀ x ∈ w.priv.live, ¬IsTick x

/-- A stop that was abandoned is not completed. -/
lemma Abandoned.not_completed (ab : Abandoned base c w) : ¬Completed base c w := by
  intro co
  obtain lost | ⟨-, pos, there⟩ := ab
  · exact absurd (lost.symm.trans co.once) (by omega)
  · rw [co.reaped pos] at there
    cases there

/-- Between two ticks none is added. -/
lemma NoTick.unticked (nt : NoTick w) (un : Unticked w w') : NoTick w' := by
  intro x hx tick
  exact nt x ((un.ticks x tick).mp hx) tick

/-- The stop goes on waiting. -/
lemma Waiting.unticked (wa : Waiting base c w) (un : Unticked w w') : Waiting base c w' where
  state := un.state.trans wa.state
  one := by
    obtain ⟨id, s, callback, one⟩ := wa.one
    exact ⟨id, s, callback, fun x tick => (un.ticks x tick).trans (one x tick)⟩
  child := by
    obtain own | ⟨cleared, gone⟩ := wa.child
    · obtain same | ⟨reaped, -, gone⟩ := un.child
      · exact .inl (same.trans own)
      · exact .inr ⟨reaped, own ▸ gone⟩
    · have kept : w'.proc c = none := by
        by_cases same : c = w.ctx.childPid
        · rw [same]
          exact un.gone (same ▸ gone)
        · simpa [gone] using un.others c same
      obtain same | ⟨reaped, -, -⟩ := un.child
      · exact .inr ⟨same.trans cleared, kept⟩
      · exact .inr ⟨reaped, kept⟩
  silent := un.done.trans wa.silent

/-- Without a child nobody is reaped. -/
lemma Unticked.cleared (un : Unticked w w') (cleared : w.ctx.childPid = -1) (pos : 0 < c) :
    w'.ctx.childPid = -1 ∧ (w'.proc c).isSome = (w.proc c).isSome := by
  refine ⟨?_, un.others c (by omega)⟩
  obtain same | ⟨reaped, -, -⟩ := un.child
  · exact same.trans cleared
  · exact reaped

/-- A stop that is completed stays so. -/
lemma Completed.unticked (co : Completed base c w) (un : Unticked w w') : Completed base c w' where
  state := un.state.trans co.state
  childPid := by
    obtain same | ⟨reaped, -, -⟩ := un.child
    · exact same.trans co.childPid
    · exact reaped
  reaped pos := by simpa [co.reaped pos] using (un.cleared co.childPid pos).2
  once := un.done.trans co.once

/-- So does one that was abandoned. -/
lemma Abandoned.unticked (ab : Abandoned base c w) (un : Unticked w w') : Abandoned base c w' := by
  obtain lost | ⟨cleared, pos, there⟩ := ab
  · exact .inl (un.done.trans lost)
  · obtain ⟨cleared', same⟩ := un.cleared cleared pos
    exact .inr ⟨cleared', pos, same.trans there⟩

/-- `service_stop_sync` calls no `done_cb`. -/
lemma doneCount_stopSync (w : World) (os : Os) :
    doneCount (serviceStopSync w os).1.log = doneCount w.log := by
  have detached : (w.setState .stopping).detach.log = w.log := by
    rw [World.detach]
    split
    · show (w.setState .stopping).cancelMonitor.cancelRetry.cancelHealth.log = w.log
      rw [cancelHealth_log, cancelRetry_log, cancelMonitor_log]
      rfl
    · rfl
  have stopped := doneCount_childOnly (.stopChild (w.setState .stopping).detach os)
  rw [stopSync_log, doneCount, List.count_cons_of_ne (by decide), ← detached]
  exact stopped

/-- The end of the last tick, for a child that was reaped or was never there. -/
lemma completed_stopWaitDone {s : StopState} (callback : s.doneCb = true)
    (reaped : 0 < c → w.proc c = none) (silent : doneCount w.log = base) :
    Completed base c (stopWaitDone w s) := by
  rw [stopWaitDone, World.done, if_pos callback]
  refine ⟨rfl, rfl, reaped, ?_⟩
  rw [doneCount, World.note, List.count_cons_self]
  exact congrArg (· + 1) silent

/-- A child that is alive is there. -/
lemma childThere_of_alive {stat : Bool} (alive : serviceIsAlive w stat = true) : ChildThere w := by
  rw [serviceIsAlive] at alive
  simp only [Bool.and_eq_true, decide_eq_true_eq] at alive
  refine ⟨alive.1, ?_⟩
  cases found : w.proc w.ctx.childPid with
  | some p => rfl
  | none => simp [found] at alive

/-- The callback of a tick, before its timer is freed: either the next tick is armed, or none is and
the stop has ended, as it should exactly if the tick goes well. -/
lemma Waiting.stopWait {s : StopState} (wa : Waiting base c w) (callback : s.doneCb = true) (os : Os) :
    (tickOk w s os ∧ (∃ priv s', s'.doneCb = true ∧
        serviceStopWaitCb w s os = { w with priv := priv } ∧
        Added w.priv priv ⟨w.priv.nextId, 0, some (.stopWait s')⟩)) ∨
    (tickOk w s os ∧ (serviceStopWaitCb w s os).priv = w.priv ∧
        Completed base c (serviceStopWaitCb w s os)) ∨
    (¬tickOk w s os ∧ ((serviceStopWaitCb w s os).priv = w.priv ∨
        (serviceStopWaitCb w s os) = (serviceStopSync w os).1) ∧
        Abandoned base c (serviceStopWaitCb w s os)) := by
  have doneTimers : ∀ (w : World) (s : StopState), (stopWaitDone w s).priv = w.priv := by
    intro w s
    rw [stopWaitDone, World.done]
    split <;> rfl
  rw [serviceStopWaitCb]
  split
  · rename_i alive
    have there := childThere_of_alive alive
    -- the child that is alive is the one that was stopped
    have own : w.ctx.childPid = c := by
      refine wa.child.resolve_right ?_
      rintro ⟨cleared, -⟩
      exact absurd there.1 (by rw [cleared]; decide)
    dsimp only
    split
    · -- the attempts are used up: the child is killed and waited for
      rename_i last
      refine .inr (.inl ⟨fun _ => ⟨alive, .inr last⟩, ?_, ?_⟩)
      · rw [doneTimers]
        exact (ChildOnly.kill.trans .waitpid).priv
      · refine completed_stopWaitDone callback (fun _ => ?_) ?_
        · rw [own]
          exact proc_waitpid_self _ c
        · exact (doneCount_childOnly (ChildOnly.kill.trans .waitpid)).trans wa.silent
    · -- another tick is needed, for which there may be no memory
      rename_i more
      obtain h | ⟨priv, h, added⟩ := addTimer_cases w os 100 0
        (.stopWait { s with attempts := s.attempts + 1 })
      · have failed : os.timerAlloc = false := by
          cases alloc : os.timerAlloc with
          | false => rfl
          | true => simp [World.addTimer, alloc] at h
        rw [h]
        refine .inr (.inr ⟨fun ok => ?_, .inr rfl, .inl ?_⟩)
        · obtain ⟨-, alloc | last⟩ := ok there
          · exact absurd (failed.symm.trans alloc) (by decide)
          · exact more last
        · exact (doneCount_stopSync w os).trans wa.silent
      · have ok : os.timerAlloc = true := by
          cases alloc : os.timerAlloc with
          | true => rfl
          | false => simp [World.addTimer, alloc] at h
        rw [h]
        exact .inl ⟨fun _ => ⟨alive, .inl ok⟩, priv, { s with attempts := s.attempts + 1 }, callback,
          rfl, added⟩
  · rename_i dead
    by_cases there : ChildThere w
    · -- a child that is there is taken for dead, and nobody will reap it
      have own : w.ctx.childPid = c := by
        refine wa.child.resolve_right ?_
        rintro ⟨cleared, -⟩
        exact absurd there.1 (by rw [cleared]; decide)
      refine .inr (.inr ⟨fun ok => dead (ok there).1, .inl (doneTimers w s), .inr ?_⟩)
      rw [stopWaitDone, World.done, if_pos callback]
      exact ⟨rfl, own ▸ there.1, own ▸ there.2⟩
    · refine .inr (.inl ⟨fun h => absurd h there, doneTimers w s, ?_⟩)
      refine completed_stopWaitDone callback (fun pos => ?_) wa.silent
      obtain own | ⟨-, gone⟩ := wa.child
      · subst own
        by_contra some
        exact there ⟨pos, Option.isSome_iff_ne_none.mpr some⟩
      · exact gone

/-- A tick fires. -/
lemma Waiting.fire {t : Timer Callback} {s : StopState} (wa : Waiting base c w) (nowMs : Nat)
    (ac : Listed true w) (ht : t ∈ w.priv.timers) (live : t.pendingDelete = false)
    (hcb : t.callback = some (.stopWait s)) (os : Os) :
    (tickOk w s os ∧ (Waiting base c (w.fire t nowMs os) ∨
      NoTick (w.fire t nowMs os) ∧ Completed base c (w.fire t nowMs os))) ∨
    (¬tickOk w s os ∧ NoTick (w.fire t nowMs os) ∧ Abandoned base c (w.fire t nowMs os)) := by
  obtain ⟨id, s', callback, one⟩ := wa.one
  -- the tick that fires is the one of the stop
  have hx : t.toPublic ∈ w.priv.live := mem_live.mpr ⟨t, .inr ht, live, rfl⟩
  have own := (one t.toPublic ⟨s, hcb⟩).mp hx
  have same : s' = s := by
    have callbacks := congrArg PublicTimer.callback own
    rw [show t.toPublic.callback = some (.stopWait s) from hcb] at callbacks
    cases callbacks
    rfl
  subst same
  have tid : id = t.id := (congrArg PublicTimer.id own).symm
  subst tid
  have begunLive : ∀ x, x ∈ (w.beginTimer t nowMs).priv.live ↔ x ∈ w.priv.live :=
    fun x => mem_live_beginTimer (ac.sound.tick nowMs).wf ht (ac.sound.idle rfl)
  have begun : Waiting base c (w.beginTimer t nowMs) := by
    refine ⟨wa.state, ⟨t.id, s', callback, fun x tick => ?_⟩, wa.child, wa.silent⟩
    exact (begunLive x).trans (one x tick)
  have only : ∀ x, IsTick x → x ∈ (w.beginTimer t nowMs).priv.live → x.id = t.id :=
    fun x tick hx => congrArg PublicTimer.id ((one x tick).mp ((begunLive x).mp hx))
  -- no tick is left unless a new one was armed
  have ends : ∀ w1 : World, serviceStopWaitCb (w.beginTimer t nowMs) s' os = w1 →
      (∀ x ∈ w1.priv.live, x ∈ (w.beginTimer t nowMs).priv.live) → NoTick (w.fire t nowMs os) := by
    intro w1 called sub x hx tick
    obtain ⟨hx, ne⟩ := (mem_live_tick nowMs os x ac ht live hcb).2.mp hx
    rw [called] at hx
    exact ne (only x tick (sub x hx))
  have fires := (mem_live_tick nowMs os t.toPublic ac ht live hcb).1
  have asks : tickOk (w.beginTimer t nowMs) s' os ↔ tickOk w s' os := .rfl
  obtain ⟨ok, priv, s2, callback2, armed, added⟩ | ⟨ok, priv, co⟩ | ⟨bad, priv, ab⟩ :=
    begun.stopWait callback os
  · refine .inl ⟨asks.mp ok, .inl ?_⟩
    refine ⟨?_, ⟨(w.beginTimer t nowMs).priv.nextId, s2, callback2, fun x tick => ?_⟩, ?_, ?_⟩
    · rw [fires, armed]
      exact wa.state
    · rw [(mem_live_tick nowMs os x ac ht live hcb).2, armed]
      rw [added.live x]
      constructor
      · rintro ⟨rfl | hx, ne⟩
        · rfl
        · exact absurd (only x tick hx) ne
      · rintro rfl
        exact ⟨.inl rfl, Nat.ne_of_gt (ac.sound.wf.fresh t ht)⟩
    · rw [fires, armed]
      exact wa.child
    · rw [fires, armed]
      exact wa.silent
  · refine .inl ⟨asks.mp ok, .inr ⟨ends _ rfl (by rw [priv]; exact fun x hx => hx), ?_⟩⟩
    rw [fires]
    exact ⟨co.state, co.childPid, co.reaped, co.once⟩
  · refine .inr ⟨fun ok => bad (asks.mpr ok), ?_, ?_⟩
    · obtain priv | stopped := priv
      · exact ends _ rfl (by rw [priv]; exact fun x hx => hx)
      · refine ends _ stopped fun x hx => ?_
        exact (((ac.beginTimer ht nowMs).mem_live_stopSync os).mp hx).1
    · rw [fires]
      exact ab

/-! ## The whole chain -/

/-- The event fires a tick. -/
def FiresTick (w : World) (e : Event) : Prop :=
  ∃ id nowMs os t s, e = .timer id nowMs os ∧ w.due id nowMs = some t ∧ t.pendingDelete = false ∧
    t.callback = some (.stopWait s)

/-- The condition is about ticks only. -/
lemma tickOk_of_not_fires {e : Event} (other : ¬FiresTick w e) : TickOk w e := by
  cases e with
  | timer id nowMs os =>
    intro s fired
    obtain ⟨t, due, state⟩ := Option.bind_eq_some_iff.mp fired
    obtain ⟨live, hcb⟩ := tickState_eq_some.mp state
    exact absurd ⟨id, nowMs, os, t, s, rfl, due, live, hcb⟩ other
  | _ => trivial

/-- Every event but a start, a stop and a tick. -/
lemma step_unticked {e : Event} (ac : Listed true w) (qu : Quiet w) (mean : e.isMeanwhile = true)
    (other : ¬FiresTick w e) (st : step w e = some w') : Unticked w w' := by
  cases e with
  | setReactor os => cases st; exact .setReactor ac os
  | start os => cases mean
  | monitor os => cases st; exact .monitor qu os
  | timer id nowMs os =>
    obtain ⟨t, due, rfl⟩ := Option.map_eq_some_iff.mp st
    have ht := World.due_mem due
    refine .fire ac ht (fun s live hcb => other ⟨id, nowMs, os, t, s, rfl, due, live, hcb⟩) ?_
    intro live
    have begun : Quiet (w.beginTimer t nowMs) :=
      qu.mono ((ac.sound.tick nowMs).begin ht).wf fun x hx => live_of_beginTimer ht hx
    rw [World.runTimer]
    split
    · rename_i cb hcb
      split
      · cases cb with
        | monitor => obtain h | h := begun.down <;> simp [dispatch, serviceMonitorCb, h]
        | healthCheck => obtain h | h := begun.down <;> simp [dispatch, serviceHealthCheckCb, h]
        | delayedSpawn =>
          have hx : t.toPublic ∈ w.priv.live := mem_live.mpr ⟨t, .inr ht, live, rfl⟩
          exact absurd (qu.none _ hx hcb) (by simp)
        | stopWait s => exact absurd ⟨id, nowMs, os, t, s, rfl, due, live, hcb⟩ other
      · rfl
    · rfl
  | sigchld os => cases st; exact .sigchld qu os
  | health os => cases st; exact .health qu os
  | exit pid => cases st; exact .exit
  | stopAsync d os => cases mean
  | stopSync os => cases mean
  | applyConfig cfg os => cases st; exact .applyConfig qu cfg os

/-- The stop is under way or has completed. -/
def Going (base : Nat) (c : Int) (w : World) : Prop :=
  Waiting base c w ∨ NoTick w ∧ Completed base c w

/-- Without a live tick none can fire. -/
lemma NoTick.not_fires {e : Event} (nt : NoTick w) : ¬FiresTick w e := by
  rintro ⟨id, nowMs, os, t, s, rfl, due, live, hcb⟩
  exact nt t.toPublic (mem_live.mpr ⟨t, .inr (World.due_mem due), live, rfl⟩) ⟨s, hcb⟩

/-- One event: the stop goes on or completes if its tick goes well, and is abandoned otherwise. -/
lemma Going.step {e : Event} (go : Going base c w) (ac : Listed true w) (qu : Quiet w)
    (mean : e.isMeanwhile = true) (st : step w e = some w') :
    TickOk w e ∧ Going base c w' ∨ ¬TickOk w e ∧ NoTick w' ∧ Abandoned base c w' := by
  obtain wa | ⟨nt, co⟩ := go
  · by_cases fires : FiresTick w e
    · obtain ⟨id, nowMs, os, t, s, rfl, due, live, hcb⟩ := fires
      obtain rfl : w.fire t nowMs os = w' := by
        simpa only [Service.step, due, Option.map_some, Option.some.injEq] using st
      have asks : TickOk w (.timer id nowMs os) ↔ tickOk w s os := by
        have fired : (w.due id nowMs).bind tickState = some s :=
          Option.bind_eq_some_iff.mpr ⟨t, due, tickState_eq_some.mpr ⟨live, hcb⟩⟩
        constructor
        · intro ok
          exact ok s fired
        · intro ok s1 fired1
          cases fired.symm.trans fired1
          exact ok
      obtain ⟨ok, rest⟩ | ⟨bad, rest⟩ :=
        wa.fire nowMs ac (World.due_mem due) live hcb os
      · exact .inl ⟨asks.mpr ok, rest⟩
      · exact .inr ⟨fun ok => bad (asks.mp ok), rest⟩
    · exact .inl ⟨tickOk_of_not_fires fires, .inl (wa.unticked (step_unticked ac qu mean fires st))⟩
  · have un := step_unticked ac qu mean nt.not_fires st
    exact .inl ⟨tickOk_of_not_fires nt.not_fires, .inr ⟨nt.unticked un, co.unticked un⟩⟩

/-- An event that is no start. -/
lemma Event.isMeanwhile.not_start {e : Event} (mean : e.isMeanwhile = true) : ∀ os, e ≠ .start os := by
  rintro os rfl
  cases mean

/-- A stop that was abandoned stays so. -/
lemma Abandoned.run {es : List Event} (ab : Abandoned base c w) (nt : NoTick w) (ac : Listed true w)
    (qu : Quiet w) (mean : ∀ e ∈ es, e.isMeanwhile = true) (rn : run Service.step w es = some w') :
    Abandoned base c w' := by
  induction es generalizing w with
  | nil =>
    cases rn
    exact ab
  | cons e es ih =>
    obtain ⟨w1, st, rn⟩ := run_cons.mp rn
    obtain ⟨here, later⟩ := List.forall_mem_cons.mp mean
    have un := step_unticked ac qu here nt.not_fires st
    exact ih (ab.unticked un) (nt.unticked un) (ac.step st)
      (qu.step (Event.isMeanwhile.not_start here) st) later rn

/-- The whole run: the stop is abandoned exactly if one of its ticks does not go well. -/
lemma Going.run {es : List Event} (go : Going base c w) (ac : Listed true w) (qu : Quiet w)
    (mean : ∀ e ∈ es, e.isMeanwhile = true) (rn : run Service.step w es = some w') :
    Along Service.step TickOk w es ∧ Going base c w' ∨
      ¬Along Service.step TickOk w es ∧ Abandoned base c w' := by
  induction es generalizing w with
  | nil =>
    cases rn
    exact .inl ⟨trivial, go⟩
  | cons e es ih =>
    obtain ⟨w1, st, rn⟩ := run_cons.mp rn
    obtain ⟨here, later⟩ := List.forall_mem_cons.mp mean
    have ac1 := ac.step st
    have qu1 := qu.step (Event.isMeanwhile.not_start here) st
    obtain ⟨ok, go1⟩ | ⟨bad, nt, ab⟩ := go.step ac qu here st
    · obtain ⟨al, go2⟩ | ⟨not, ab⟩ := ih go1 ac1 qu1 later rn
      · refine .inl ⟨⟨ok, fun w2 st2 => ?_⟩, go2⟩
        cases st.symm.trans st2
        exact al
      · exact .inr ⟨fun al => not (al.2 w1 st), ab⟩
    · exact .inr ⟨fun al => bad al.1, ab.run nt ac1 qu1 later rn⟩

/-- Before the first tick is armed: what `service_stop_async` has done to the context. -/
lemma beginStop_terminate (w : World) (ac : Listed true w) :
    Listed true w.beginStop.terminate ∧
    w.beginStop.terminate.ctx.childPid = w.ctx.childPid ∧
    w.beginStop.terminate.ctx.reactor = w.ctx.reactor ∧
    (∀ x ∈ w.beginStop.terminate.priv.live, x ∈ w.priv.live) ∧
    doneCount w.beginStop.terminate.log = doneCount w.log := by
  have terminated := ChildOnly.terminate (w := w.beginStop)
  have stopping : Listed true (w.setState .stopping) := ac.moved (.setState .stopping)
  have pid : w.beginStop.terminate.ctx.childPid = w.ctx.childPid := by
    rw [World.terminate]
    split
    · exact ChildKept.beginStop.childPid
    · exact ChildKept.beginStop.childPid
  have begun : Listed true w.beginStop ∧ w.beginStop.ctx.reactor = w.ctx.reactor ∧
      (∀ x ∈ w.beginStop.priv.live, x ∈ w.priv.live) ∧ w.beginStop.log = w.log := by
    simp only [World.beginStop]
    split
    · refine ⟨stopping.moved .cancelHealth, ?_, fun x hx => ?_, ?_⟩
      · simp [World.cancelHealth, World.setHealth, World.setState]
      · exact ((mem_live_cancelCtxTimer stopping.sound.wf).mp hx).1
      · exact cancelHealth_log
    · exact ⟨stopping, rfl, fun x hx => hx, rfl⟩
  obtain ⟨listed, reactor, live, log⟩ := begun
  refine ⟨listed.moved (.aside .terminate), pid, terminated.reactor.trans reactor, fun x hx => ?_, ?_⟩
  · rw [terminated.priv] at hx
    exact live x hx
  · rw [doneCount_childOnly terminated, log]

/-- `service_stop_async` that returns 0 with a reactor: the first tick is armed. -/
lemma waiting_stopAsync (ac : Listed true w) (inv : StopInv w) (attached : w.ctx.reactor = true)
    (alone : NoTick w) (ok : (serviceStopAsync w true os).2 = true) :
    Waiting (doneCount w.log) w.ctx.childPid (serviceStopAsync w true os).1 ∧
      Quiet (serviceStopAsync w true os).1 := by
  obtain ⟨listed, pid, reactor, live, done⟩ := beginStop_terminate w ac
  have killed := inv.beginStop.1.aside .terminate
  have down : w.beginStop.terminate.ctx.state = .stopping :=
    Aside.terminate.state.trans inv.beginStop.2
  simp only [serviceStopAsync] at ok ⊢
  split at ok
  · cases ok
  · rename_i sent
    -- no SIGTERM has failed, and there is a reactor, so it waits for the child
    rw [if_neg sent, if_pos (reactor.trans attached)]
    rw [if_pos (reactor.trans attached)] at ok
    refine ⟨?_, killed.tracked.stopAsyncWait down true os⟩
    generalize w.beginStop.terminate = w1 at *
    -- the two timers that are cancelled touch neither the reactor nor the state
    have reactor2 : w1.cancelMonitor.cancelRetry.ctx.reactor = true := by
      have same : w1.cancelMonitor.cancelRetry.ctx.reactor = w1.ctx.reactor := by
        simp [World.cancelMonitor, World.cancelRetry, World.setMonitor, World.setRetry]
      rw [same, reactor, attached]
    have state2 : w1.cancelMonitor.cancelRetry.ctx.state = .stopping := by
      simpa [World.cancelMonitor, World.cancelRetry, World.setMonitor, World.setRetry] using down
    have kept2 : ChildKept w1 w1.cancelMonitor.cancelRetry :=
      ChildKept.cancelMonitor.trans .cancelRetry
    have live2 : ∀ x ∈ w1.cancelMonitor.cancelRetry.priv.live, x ∈ w.priv.live := by
      intro x hx
      have wf := (listed.moved .cancelMonitor).sound.wf
      have hx := ((mem_live_cancelCtxTimer wf).mp hx).1
      exact live x ((mem_live_cancelCtxTimer listed.sound.wf).mp hx).1
    have log2 : w1.cancelMonitor.cancelRetry.log = w1.log := by
      rw [cancelRetry_log, cancelMonitor_log]
    simp only [stopAsyncWait] at ok ⊢
    split at ok
    · rename_i alloc
      rw [if_pos alloc]
      simp only [World.addCtxTimer, reactor2, if_true] at ok ⊢
      -- without the tick the call would return -1
      obtain h | ⟨priv, h, added⟩ := addTimer_cases w1.cancelMonitor.cancelRetry os 100 0
        (.stopWait ⟨0, w1.cancelMonitor.cancelRetry.ctx.stopTimeoutSec * 10, true⟩)
      · simp [h] at ok
      · simp only [h, reduceCtorEq, if_false]
        refine ⟨state2, ⟨w1.cancelMonitor.cancelRetry.priv.nextId,
          ⟨0, w1.cancelMonitor.cancelRetry.ctx.stopTimeoutSec * 10, true⟩, rfl, fun x tick => ?_⟩,
          .inl (kept2.childPid.trans pid), ?_⟩
        · refine (added.live x).trans ⟨fun hx => hx.resolve_right fun hx => ?_, .inl⟩
          exact alone x (live2 x hx) tick
        · show doneCount (.stopReturned :: w1.cancelMonitor.cancelRetry.log) = _
          rw [log2]
          exact done
    · cases ok

/-- For every call of `service_stop_async` with a `done_cb` that returns 0 on a context with a reactor,
in every run of the supervisor in which no other stop is under way at the call and neither a start nor
a stop follows: once no tick is live any more, the service is STOPPED without a child, the child was
reaped and `done_cb` was called exactly once, exactly if every tick found a child that was there alive
and could arm the next tick. -/
theorem stopAsync_completes_iff {w0 : World} (cfg : AtpConfig) (alloc : Bool) (ctx : ServiceCtx)
    (pidFile : Option Int) (nowMs : Nat) (before : List Event) (os : Os) (es : List Event)
    (init : serviceInit cfg alloc = some ctx)
    (rn0 : run Service.step (World.init ctx pidFile nowMs) before = some w0)
    (attached : w0.ctx.reactor = true) (alone : NoTick w0)
    (ok : (serviceStopAsync w0 true os).2 = true) (mean : ∀ e ∈ es, e.isMeanwhile = true)
    (rn : run Service.step (serviceStopAsync w0 true os).1 es = some w) (ended : NoTick w) :
    (w.ctx.state = .stopped ∧ w.ctx.childPid = -1 ∧
      (0 < w0.ctx.childPid → w.proc w0.ctx.childPid = none) ∧
      doneCount w.log = doneCount w0.log + 1) ↔
    Along Service.step TickOk (serviceStopAsync w0 true os).1 es := by
  have ac : Listed true w0 :=
    run_preserves (fun _ _ _ ac st => ac.step st) (World.init_listed init pidFile nowMs) rn0
  have inv : StopInv w0 :=
    run_preserves (fun _ _ _ inv st => inv.step st) (World.init_stopInv ctx pidFile nowMs) rn0
  obtain ⟨wa, qu⟩ := waiting_stopAsync ac inv attached alone ok
  have ac1 : Listed true (serviceStopAsync w0 true os).1 := ac.moved (.stopAsync w0 true os)
  obtain ⟨al, go⟩ | ⟨not, ab⟩ := Going.run (.inl wa) ac1 qu mean rn
  · obtain wa | ⟨-, co⟩ := go
    · -- a stop that is under way has a tick
      obtain ⟨id, s, -, one⟩ := wa.one
      exact absurd ⟨s, rfl⟩ (ended _ ((one ⟨id, 0, some (.stopWait s)⟩ ⟨s, rfl⟩).mpr rfl))
    · exact ⟨fun _ => al, fun _ => ⟨co.state, co.childPid, co.reaped, co.once⟩⟩
  · constructor
    · rintro ⟨state, pid, reaped, once⟩
      exact absurd ⟨state, pid, reaped, once⟩ ab.not_completed
    · intro al
      exact absurd al not

/-- A child has been started. -/
def childStarted : List Event := [.setReactor (.calm 1000 100), .start (.calm 1000 100)]

/-- The world when the stop is called. -/
def startedWorld : World := (run Service.step (World.init defaultCtx none 1000) childStarted).get (by decide)

/-- At the start nobody waits. -/
lemma startedWorld_noTick : NoTick startedWorld := by
  intro x hx tick
  obtain ⟨s, hs⟩ := tick
  have live : startedWorld.priv.live = [⟨0, 1000, some .monitor⟩] := by decide
  rw [live, List.mem_singleton] at hx
  subst hx
  cases hs

/-- Without timers there is no tick. -/
lemma NoTick.of_nil (none : w.priv.live = []) : NoTick w := by
  intro x hx
  rw [none] at hx
  cases hx

/-- The first tick finds the child alive and cannot arm the second one. -/
def unarmedTick : List Event := [.timer 1 2100 { Os.calm 2100 100 with timerAlloc := false }]

/-- The stop ends in `service_stop_sync`: the child is reaped, and `done_cb` never called. -/
theorem unarmedTick_never_done :
    run Service.step (World.init defaultCtx none 1000) childStarted = some startedWorld ∧
    startedWorld.ctx.reactor = true ∧ NoTick startedWorld ∧
    (serviceStopAsync startedWorld true (.calm 2000 100)).2 = true ∧
    ∃ w, run Service.step (serviceStopAsync startedWorld true (.calm 2000 100)).1 unarmedTick = some w ∧
      NoTick w ∧ w.ctx.state = .stopped ∧ w.procs = [] ∧ doneCount w.log = 0 := by
  refine ⟨rfl, by decide, startedWorld_noTick, by decide, ?_⟩
  have seen : (run Service.step (serviceStopAsync startedWorld true (.calm 2000 100)).1 unarmedTick).map
      (fun w => (w.priv.live, w.ctx.state, w.procs, doneCount w.log)) =
        some ([], .stopped, [], 0) := by decide +kernel
  obtain ⟨w, rn, seen⟩ := Option.map_eq_some_iff.mp seen
  simp only [Prod.mk.injEq] at seen
  obtain ⟨none, state, procs, done⟩ := seen
  exact ⟨w, rn, .of_nil none, state, procs, done⟩

/-- The child survives the first tick, exits, is reaped on SIGCHLD, and the second tick ends the
stop. -/
def reapedBetween : List Event :=
  [.timer 1 2100 (.calm 2100 100), .exit 100, .sigchld (.calm 2150 100), .timer 2 2200 (.calm 2200 100)]

/-- The child is reaped between two ticks, and the stop is completed. -/
theorem stopAsync_completes_iff_reapedBetween :
    ∃ w, run Service.step (serviceStopAsync startedWorld true (.calm 2000 100)).1 reapedBetween = some w ∧
      w.ctx.state = .stopped ∧ w.ctx.childPid = -1 ∧ w.proc 100 = none ∧ doneCount w.log = 1 := by
  have seen : (run Service.step (serviceStopAsync startedWorld true (.calm 2000 100)).1
      reapedBetween).map (fun w => w.priv.live) = some [] := by decide +kernel
  obtain ⟨w, rn, ended⟩ := Option.map_eq_some_iff.mp seen
  have completes := stopAsync_completes_iff (configSetDefaults "/data/adb/atp".toList false) true
    defaultCtx none 1000 childStarted (.calm 2000 100) reapedBetween (by decide) rfl (by decide)
    startedWorld_noTick (by decide) (by decide) rn (.of_nil ended)
  obtain ⟨state, pid, reaped, once⟩ := completes.mpr (by decide +kernel)
  exact ⟨w, rn, state, pid, reaped (by decide), once⟩

end Atpd.Service
