import Atpd.Api.GrpcWeb
import Atpd.Api.VpnMode
import Atpd.Service.Tenure

/-!
# The API snapshot and the child it speaks of

`api_refresh_worker` of `src/api.c` asks sing-box for its status, and for more, on a thread of its own;
what it has goes through a pipe to `api_result_cb`, which publishes it on the reactor thread;
`service_health_check_cb` reads what is published. A child may die and be replaced between any two of
these steps. The machine of this file interleaves them freely with the supervisor of
`Atpd.Service.Step`.

A sample carries the number of forks before its status RPC was started, which is history. The health
check compares the time at which the sample was published with the start of the child, so a sample
that was taken from the child before and published after the new one was started counts as its own.
`ForksQuiet` says which steps are free of that.
-/

namespace Atpd.Api.Refresh

open Atpd.Config Atpd.Service Atpd.Lib

/-- `api_snapshot_t`. -/
structure Snapshot where
  valid : Bool
  versionValid : Bool
  clashModeValid : Bool
  generation : Nat
  updatedAtMs : Nat
  status : SingboxStatus
  version : Str
  clashMode : ModeBuf
deriving DecidableEq

/-- `memset(next, 0, sizeof(*next))`. -/
def Snapshot.zero : Snapshot := ⟨false, false, false, 0, 0, .zero, [], .empty⟩

/-- A snapshot, with the number of children that had been forked when its status RPC was started. -/
structure Sample where
  snap : Snapshot
  since : Nat
deriving DecidableEq

/-- `api_refresh_candidate` behind its status RPC: what the two other RPCs have returned. -/
def apiRefreshCandidate (status : Option SingboxStatus) (version : Option Str)
    (mode : Option ModeBuf) : Snapshot :=
  match status with
  | none => .zero
  | some status =>
    let text := version.getD []
    let current := mode.getD .empty
    { Snapshot.zero with
      valid := true
      status := status
      version := text
      versionValid := version.isSome && decide (text ≠ [])
      clashModeValid := mode.isSome && decide (current.1 ≠ [])
      clashMode := current }

/-- Where `api_refresh_worker` is in its round. -/
inductive Worker where
  /-- Outside `api_refresh_candidate`. -/
  | idle
  /-- In the status RPC. -/
  | sampling (since : Nat)
  /-- Behind the status RPC. -/
  | sampled (since : Nat) (status : Option SingboxStatus)
  /-- Before the write to the pipe. -/
  | ready (sample : Sample)
deriving DecidableEq

/-- `API_SNAPSHOT_STALE_MS`. -/
def apiSnapshotStaleMs : Nat := 1000 + (3 + 2) * 2000 + 1000

/-- `api_get_snapshot` of a context that is initialised. -/
def apiGetSnapshot (snap : Snapshot) (nowMs : Nat) : Snapshot :=
  if snap.valid ∧ (nowMs < snap.updatedAtMs ∨ apiSnapshotStaleMs < nowMs - snap.updatedAtMs) then
    { snap with valid := false, versionValid := false, clashModeValid := false }
  else snap

/-- `api_result_cb`: the last of what is in the pipe is published. -/
def apiResultCb (published : Sample) (pipe : List Sample) (nowMs : Nat) : Sample :=
  match pipe.getLast? with
  | none => published
  | some next =>
    { next with
      snap :=
        { next.snap with generation := published.snap.generation + 1, updatedAtMs := nowMs } }

/-- The supervisor, the worker, the pipe with the oldest sample first, and `ctx->snapshot`. -/
structure State where
  world : World
  worker : Worker
  pipe : List Sample
  published : Sample

/-- What can happen. -/
inductive Event where
  /-- An event of the supervisor; `nowMs` is what `api_get_snapshot` reads. -/
  | service (e : Service.Event) (nowMs : Nat)
  /-- The worker starts its status RPC. -/
  | begin
  /-- The lock of the native context cannot be taken. -/
  | unlocked
  /-- The status RPC is over: the segments that it has received. -/
  | answer (segs : List Bytes)
  /-- The other RPCs are over. -/
  | complete (version : Option Str) (mode : Option ModeBuf)
  /-- The worker writes to the pipe, which may be full. -/
  | write (ok : Bool)
  /-- The reactor calls `api_result_cb`. -/
  | publish (nowMs : Nat)

/-- The health check of an event sees the snapshot. -/
def readsSnapshot (snap : Snapshot) : Service.Event → Service.Event
  | .health os => .health { os with snapshotValid := snap.valid, snapshotMs := snap.updatedAtMs }
  | .timer id nowMs os =>
    .timer id nowMs { os with snapshotValid := snap.valid, snapshotMs := snap.updatedAtMs }
  | e => e

/-- The event as the supervisor sees it. -/
def State.serviceEvent (s : State) (e : Service.Event) (nowMs : Nat) : Service.Event :=
  readsSnapshot (apiGetSnapshot s.published.snap nowMs) e

/-- One step of the worker. -/
def workerStep (s : State) : Event → Option (Worker × List Sample)
  | .begin =>
    match s.worker with
    | .idle => some (.sampling (forkCount s.world.log), s.pipe)
    | _ => none
  | .unlocked =>
    match s.worker with
    | .idle => some (.ready ⟨.zero, forkCount s.world.log⟩, s.pipe)
    | _ => none
  | .answer segs =>
    match s.worker with
    | .sampling since => some (.sampled since (singboxApiGetStatus segs), s.pipe)
    | _ => none
  | .complete version mode =>
    match s.worker with
    | .sampled since status =>
      some (.ready ⟨apiRefreshCandidate status version mode, since⟩, s.pipe)
    | _ => none
  | .write ok =>
    match s.worker with
    | .ready sample => some (.idle, if ok then s.pipe ++ [sample] else s.pipe)
    | _ => none
  | _ => none

/-- A step of the service, or of the worker. -/
def step (s : State) : Event → Option State
  | .service e nowMs =>
    (Service.step s.world (s.serviceEvent e nowMs)).map fun w => { s with world := w }
  | .publish nowMs => some { s with pipe := [], published := apiResultCb s.published s.pipe nowMs }
  | e => (workerStep s e).map fun (worker, pipe) => { s with worker := worker, pipe := pipe }

/-! ## The property -/

/-- The call of `service_health_check_cb` that an event makes. -/
def healthCall (w : World) : Service.Event → Option (World × Os)
  | .health os => some (w, os)
  | .timer id nowMs os =>
    match w.due id nowMs with
    | some t =>
      if !t.pendingDelete && t.active && decide (t.callback = some .healthCheck) then
        some (w.beginTimer t nowMs, os)
      else none
    | none => none
  | _ => none

/-- `service_health_check_cb` sets `running_healthy` to 1, whatever it was before. -/
def setsHealthy (w : World) (os : Os) : Bool :=
  (serviceHealthCheckCb (w.setHealthy false) os).ctx.runningHealthy

/-- When the event makes the service healthy, the status RPC behind that was started after the last
fork, which is that of the current child. -/
def Attributed (s : State) : Event → Prop
  | .service e nowMs => ∀ w os, healthCall s.world (s.serviceEvent e nowMs) = some (w, os) →
      setsHealthy w os = true → s.published.since = forkCount s.world.log
  | _ => True

/-- What the worker has under way that may become a valid snapshot. -/
def Worker.pending : Worker → Option Nat
  | .idle => none
  | .sampling since => some since
  | .sampled since status => status.map fun _ => since
  | .ready sample => if sample.snap.valid then some sample.since else none

/-- What the pipe holds that may become a valid snapshot. -/
def pipePending (pipe : List Sample) : Option Nat :=
  (pipe.getLast?.filter (·.snap.valid)).map Sample.since

/-- The event forks a child. -/
def forksChild (w : World) (e : Service.Event) : Bool :=
  match Service.step w e with
  | some w' => decide (forkCount w'.log ≠ forkCount w.log)
  | none => false

/-- A step that forks finds no sample on its way, and the start of the child that it reads from the
clock is later than the time at which a valid snapshot was published. -/
def ForksQuiet (s : State) : Event → Prop
  | .service e nowMs => forksChild s.world (s.serviceEvent e nowMs) = true →
      s.worker.pending = none ∧ pipePending s.pipe = none ∧
        (s.published.snap.valid = true → s.published.snap.updatedAtMs < e.startMs)
  | _ => True

variable {s s' : State} {w w' : World} {os : Os} {snap : Snapshot} {nowMs : Nat}

/-! ## The invariant -/

/-- Every sample on its way is one of the last child, and so is the published one, unless the health
check of the present child turns it down. -/
structure Fresh (s : State) : Prop where
  worker : ∀ since ∈ s.worker.pending, since = forkCount s.world.log
  pipe : ∀ since ∈ pipePending s.pipe, since = forkCount s.world.log
  published : s.published.snap.valid = true → 0 < s.world.ctx.childPid →
    s.world.ctx.startTimeMs ≤ s.published.snap.updatedAtMs →
      s.published.since = forkCount s.world.log

@[simp] lemma startMs_readsSnapshot (e : Service.Event) : (readsSnapshot snap e).startMs = e.startMs := by
  cases e <;> rfl

/-- The sample that was written last is in the pipe. -/
lemma pipePending_concat {pipe : List Sample} {sample : Sample} :
    pipePending (pipe ++ [sample]) = (Worker.ready sample).pending := by
  rw [pipePending, List.getLast?_concat, Worker.pending, Option.filter]
  split <;> rfl

/-- What may become a valid snapshot after a step of the worker may have become one before, or is a
status RPC that has just been started. -/
lemma pending_of_workerStep {e : Event} {worker : Worker} {pipe : List Sample}
    (st : workerStep s e = some (worker, pipe)) :
    (∀ since ∈ worker.pending, since ∈ s.worker.pending ∨ since = forkCount s.world.log) ∧
      ∀ since ∈ pipePending pipe, since ∈ pipePending s.pipe ∨ since ∈ s.worker.pending := by
  cases e with
  | service e nowMs => cases st
  | publish nowMs => cases st
  | begin =>
    simp only [workerStep] at st
    split at st
    · cases st
      refine ⟨?_, fun _ => .inl⟩
      rintro since ⟨⟩
      exact .inr rfl
    · cases st
  | unlocked =>
    simp only [workerStep] at st
    split at st
    · cases st
      exact ⟨nofun, fun _ => .inl⟩
    · cases st
  | answer segs =>
    simp only [workerStep] at st
    split at st
    · rename_i since here
      cases st
      refine ⟨fun n hn => .inl ?_, fun _ => .inl⟩
      obtain ⟨status, -, rfl⟩ := Option.map_eq_some_iff.mp hn
      rw [here]
      rfl
    · cases st
  -- the modes may fail, but the status alone makes a valid sample
  | complete version mode =>
    simp only [workerStep] at st
    split at st
    · rename_i since status here
      cases st
      refine ⟨fun n hn => .inl ?_, fun _ => .inl⟩
      rw [here]
      cases status with
      | none => cases hn
      | some status => exact hn
    · cases st
  | write ok =>
    simp only [workerStep] at st
    split at st
    · rename_i sample here
      cases st
      refine ⟨nofun, fun n hn => ?_⟩
      -- only what was written into the pipe gets to the service
      cases ok with
      | false => exact .inl hn
      | true =>
        right
        rw [here]
        simp only [↓reduceIte, pipePending_concat] at hn
        exact hn
    · cases st

/-- The worker samples a child that is there. -/
lemma Fresh.workerStep {e : Event} {worker : Worker} {pipe : List Sample} (fr : Fresh s)
    (st : workerStep s e = some (worker, pipe)) :
    Fresh { s with worker := worker, pipe := pipe } := by
  obtain ⟨fromWorker, fromPipe⟩ := pending_of_workerStep st
  refine ⟨fun n hn => ?_, fun n hn => ?_, fr.published⟩
  · rcases fromWorker n hn with old | now
    · exact fr.worker n old
    · exact now
  · rcases fromPipe n hn with old | mine
    · exact fr.pipe n old
    · exact fr.worker n mine

/-- What is published was on its way. -/
lemma Fresh.publish (fr : Fresh s) (nowMs : Nat) :
    Fresh { s with pipe := [], published := apiResultCb s.published s.pipe nowMs } := by
  refine ⟨fr.worker, nofun, ?_⟩
  simp only [apiResultCb]
  cases last : s.pipe.getLast? with
  | none => exact fr.published
  | some next =>
    intro valid _ _
    exact fr.pipe next.since (by simpa [pipePending, last, Option.filter] using valid)

/-- An event of the supervisor: nothing of an earlier child is on its way when a new one is forked. -/
lemma Fresh.service {e : Service.Event} (fr : Fresh s) (quiet : ForksQuiet s (.service e nowMs))
    (st : Service.step s.world (s.serviceEvent e nowMs) = some w) : Fresh { s with world := w } := by
  rcases step_tenure st with ⟨same, -⟩ | renewed
  · refine ⟨fun n hn => ?_, fun n hn => ?_, fun valid pos le => ?_⟩
    · exact (fr.worker n hn).trans same.forks.symm
    · exact (fr.pipe n hn).trans same.forks.symm
    · have pid := same.child pos
      have start := same.start
      dsimp only at le pos ⊢
      rw [same.forks]
      exact fr.published valid (pid ▸ pos) (start ▸ le)
  · have forks : forksChild s.world (s.serviceEvent e nowMs) = true := by
      simp [forksChild, st, renewed.forks]
    obtain ⟨worker, pipe, older⟩ := quiet forks
    refine ⟨fun n hn => ?_, fun n hn => ?_, fun valid pos le => ?_⟩
    · rw [worker] at hn
      cases hn
    · rw [pipe] at hn
      cases hn
    · have start := renewed.start pos
      rw [State.serviceEvent, startMs_readsSnapshot] at start
      have lt := older valid
      dsimp only at le
      omega

/-- By cases on the event. -/
lemma Fresh.step {e : Event} (fr : Fresh s) (quiet : ForksQuiet s e) (st : step s e = some s') :
    Fresh s' := by
  cases e with
  | service e nowMs =>
    obtain ⟨w, stw, rfl⟩ := Option.map_eq_some_iff.mp st
    exact fr.service quiet stw
  | publish nowMs =>
    cases st
    exact fr.publish nowMs
  | _ =>
    obtain ⟨⟨worker, pipe⟩, stw, rfl⟩ := Option.map_eq_some_iff.mp st
    exact fr.workerStep stw

/-! ## The health check -/

/-- A snapshot that `api_get_snapshot` calls valid is the published one. -/
lemma apiGetSnapshot_valid (valid : (apiGetSnapshot snap nowMs).valid = true) :
    apiGetSnapshot snap nowMs = snap ∧ snap.valid = true := by
  rw [apiGetSnapshot] at valid ⊢
  split at valid
  · cases valid
  · rename_i h
    rw [if_neg h]
    exact ⟨rfl, valid⟩

/-- What a health check that makes the service healthy has seen. -/
lemma of_setsHealthy (sets : setsHealthy w os = true) :
    0 < w.ctx.childPid ∧ os.snapshotValid = true ∧ w.ctx.startTimeMs ≤ os.snapshotMs := by
  simp only [setsHealthy, serviceHealthCheckCb] at sets
  split at sets
  · split at sets
    · rename_i alive
      have pos : 0 < w.ctx.childPid := pos_of_alive alive
      split at sets
      · rename_i healthy
        simp only [Bool.and_eq_true, decide_eq_true_eq] at healthy
        exact ⟨pos, healthy⟩
      · rename_i unhealthy
        exact absurd sets unhealthy
    · cases sets
  · cases sets

/-- The health check of an event reads the world of the event, and the snapshot. -/
lemma of_healthCall {e : Service.Event} (call : healthCall w (readsSnapshot snap e) = some (w', os)) :
    w'.ctx = w.ctx ∧ os.snapshotValid = snap.valid ∧ os.snapshotMs = snap.updatedAtMs := by
  cases e with
  | health os1 =>
    cases call
    exact ⟨rfl, rfl, rfl⟩
  | timer id nowMs os1 =>
    simp only [readsSnapshot, healthCall] at call
    split at call
    · split at call
      · cases call
        exact ⟨rfl, rfl, rfl⟩
      · cases call
    · cases call
  | _ => cases call

/-- What is published belongs to the child. -/
lemma Fresh.attributed {e : Event} (fr : Fresh s) : Attributed s e := by
  cases e with
  | service e nowMs =>
    intro w os call sets
    obtain ⟨ctx, valid, stamp⟩ := of_healthCall call
    obtain ⟨pos, seen, le⟩ := of_setsHealthy sets
    obtain ⟨same, isValid⟩ := apiGetSnapshot_valid (valid ▸ seen)
    rw [ctx] at pos le
    rw [stamp, same] at le
    exact fr.published isValid pos le
  | _ => trivial

/-! ## Runs -/

/-- The daemon once `service_init` has built its context and `api_init` has cleared the rest. -/
def State.init (ctx : ServiceCtx) (pidFile : Option Int) (nowMs : Nat) : State where
  world := World.init ctx pidFile nowMs
  worker := .idle
  pipe := []
  published := ⟨.zero, 0⟩

/-- Before the first event nothing was sampled. -/
lemma State.init_fresh (ctx : ServiceCtx) (pidFile : Option Int) (nowMs : Nat) :
    Fresh (.init ctx pidFile nowMs) :=
  ⟨nofun, nofun, nofun⟩

instance (s : State) (e : Event) : Decidable (ForksQuiet s e) :=
  match e with
  | .service e nowMs => inferInstanceAs (Decidable
      (forksChild s.world (s.serviceEvent e nowMs) = true →
        s.worker.pending = none ∧ pipePending s.pipe = none ∧
          (s.published.snap.valid = true → s.published.snap.updatedAtMs < e.startMs)))
  | .begin | .unlocked | .answer _ | .complete _ _ | .write _ | .publish _ =>
    inferInstanceAs (Decidable True)

/-- In every run of the worker, the reactor and the supervisor whose forks find no sample on its way
and a clock that has moved on since the last publication, health is attributed to the right child. -/
theorem attributed_of_forksQuiet (ctx : ServiceCtx) (pidFile : Option Int) (nowMs : Nat)
    (es : List Event) (quiet : Along step ForksQuiet (.init ctx pidFile nowMs) es) :
    Along step Attributed (.init ctx pidFile nowMs) es :=
  along_of_invariant (fun _ _ _ fr quiet st => fr.step quiet st) (fun _ _ fr _ => fr.attributed)
    (State.init_fresh ctx pidFile nowMs) quiet

/-- A status response: seven goroutines. -/
def statusReply : List Bytes := [ascii "HTTP/1.1 200 OK\r\n\r\n" ++ [0, 0, 0, 0, 2, 16, 7]]

/-- The API answers the monitor, too. -/
def answering (nowMs : Nat) (pid : Int) : Os := { Os.calm nowMs pid with apiStatus := true }

/-- The first child is started and comes up. -/
def firstChild : List Event :=
  [.service (.setReactor (.calm 1000 100)) 1000, .service (.start (.calm 1000 100)) 1000,
    .service (.monitor (answering 1200 100)) 1200]

/-- It is replaced, and the new child comes up. -/
def secondChild : List Event :=
  [.service (.exit 100) 2000, .service (.sigchld (.calm 2000 100)) 2000,
    .service (.timer 2 3100 (.calm 3100 101)) 3100,
    .service (.monitor (answering 3200 101)) 3200]

/-- One round of the worker, which ends with the publication at `nowMs`. -/
def refreshRound (nowMs : Nat) : List Event :=
  [.begin, .answer statusReply, .complete none none, .write true, .publish nowMs]

/-- Each child is sampled while it runs. -/
def sampledInTime : List Event :=
  firstChild ++ refreshRound 1500 ++ secondChild ++ refreshRound 3500 ++
    [.service (.health (.calm 4000 101)) 4000]

/-- A sample is taken, written and published, and belongs to its child. -/
theorem attributed_of_forksQuiet_sampledInTime :
    ∃ s, run step (.init defaultCtx none 1000) sampledInTime = some s ∧
      s.world.ctx.runningHealthy = true ∧ s.published.since = 2 ∧
        Along step Attributed (.init defaultCtx none 1000) sampledInTime :=
  ⟨_, rfl, by decide, by decide,
    attributed_of_forksQuiet defaultCtx none 1000 sampledInTime (by decide)⟩

/-- The first child answers, and is replaced before its answer is published. -/
def publishedLate : List Event :=
  firstChild ++ [.begin, .answer statusReply, .complete none none] ++ secondChild ++
    [.write true, .publish 3500]

/-- The answer of the first child makes the second one healthy. -/
theorem publishedLate_misattributed :
    ∃ s, run step (.init defaultCtx none 1000) publishedLate = some s ∧
      forkCount s.world.log = 2 ∧ s.published.since = 1 ∧
        ¬Attributed s (.service (.health (.calm 4000 101)) 4000) := by
  refine ⟨_, rfl, by decide, by decide, fun right => ?_⟩
  have same := right _ _ rfl (by decide)
  revert same
  decide

end Atpd.Api.Refresh
