import Atpd.Lib.Words
import Atpd.Service.Tenure

/-!
# The PID file of sing-box

`service_spawn` leaves the PID of its child in a file of the run directory. A further `atpd start`
that is given the same directory fails at the lock of the daemon, but before that `preflight_startup`
of `src/main.c` builds a service context of its own, to validate the configuration, and destroys it.
`service_destroy` stops what it is given as it would stop the supervisor, and unlinks the PID file:
the file of the daemon's child.

The machine interleaves the daemon, as in `Atpd.Service.Step`, with any number of such invocations.
Two paths name one file if they lead to the same entry of a directory, however they are spelled:
`entry` is the lookup of a path from the working directory of a process, and stays as it is during a run.
`do_start` itself is careful with the PID file of the daemon: it unlinks what it has written only.
-/

namespace Atpd.Daemon.Startup

open Atpd.Config Atpd.Service Atpd.Lib

/-- `service_destroy`, less the memory it frees. -/
def serviceDestroy (w : World) (os : Os) : World := (serviceStopSync w os).1

/-- A further `atpd start`. -/
inductive Invocation (Dir : Type) where
  /-- In `preflight_startup`, with its working directory and the context it has built.
  `service_validate_config` runs a checker and does not touch the context. -/
  | preflight (cwd : Dir) (ctx : ServiceCtx)
  /-- Behind `preflight_startup`. -/
  | passed
  | exited
deriving DecidableEq, Repr

/-- The daemon with its working directory, which `daemonize` keeps, and the invocations that came after
it. -/
structure System (Dir : Type) where
  cwd : Dir
  daemon : World
  invocations : List (Invocation Dir)
deriving DecidableEq, Repr

/-- What can happen. -/
inductive Event (Dir : Type) where
  | daemon (e : Service.Event)
  /-- `do_start` begins in a working directory, with its configuration. -/
  | invoke (cwd : Dir) (cfg : AtpConfig) (alloc : Bool)
  /-- The invocation `i` has validated its configuration and destroys its context. -/
  | destroy (i : Nat) (valid : Bool) (os : Os)
  /-- The invocation `i` comes to the lock, which the daemon holds. -/
  | lock (i : Nat)
deriving DecidableEq

/-- `preflight_startup` up to its validation. -/
def preflightBegin {Dir : Type} (cwd : Dir) (cfg : AtpConfig) (alloc : Bool) : Invocation Dir :=
  match serviceInit cfg alloc with
  | some ctx => .preflight cwd ctx
  | none => .exited

section Lookup

variable {Dir Entry : Type} [DecidableEq Entry] (entry : Dir → Str → Entry)

/-- The context of the invocation `i`, while it is in `preflight_startup`, and its working directory. -/
def System.preflight (s : System Dir) (i : Nat) : Option (Dir × ServiceCtx) :=
  match s.invocations[i]? with
  | some (.preflight cwd ctx) => some (cwd, ctx)
  | _ => none

/-- A context that was built for validation in `cwd` names the PID file of the daemon's child. -/
def System.Shares (s : System Dir) (cwd : Dir) (ctx : ServiceCtx) : Prop :=
  entry cwd ctx.pidPath = entry s.cwd s.daemon.ctx.pidPath

instance (s : System Dir) (cwd : Dir) (ctx : ServiceCtx) : Decidable (s.Shares entry cwd ctx) :=
  inferInstanceAs (Decidable (entry cwd ctx.pidPath = entry s.cwd s.daemon.ctx.pidPath))

/-- The file of the daemon's child, once a context that was built for validation is destroyed. -/
def System.destroyPreflight (s : System Dir) (cwd : Dir) (ctx : ServiceCtx) (os : Os) : World :=
  if s.Shares entry cwd ctx then
    { s.daemon with
      pidFile := (serviceDestroy (World.init ctx s.daemon.pidFile os.timerMs) os).pidFile }
  else s.daemon

/-- An event of the daemon, or a second start of the program. -/
def step (s : System Dir) : Event Dir → Option (System Dir)
  | .daemon e => (Service.step s.daemon e).map fun w => { s with daemon := w }
  | .invoke cwd cfg alloc =>
    some { s with invocations := s.invocations ++ [preflightBegin cwd cfg alloc] }
  | .destroy i valid os =>
    (s.preflight i).map fun p =>
      { s with
        daemon := s.destroyPreflight entry p.1 p.2 os
        invocations := s.invocations.set i (if valid then .passed else .exited) }
  | .lock i =>
    match s.invocations[i]? with
    | some .passed => some { s with invocations := s.invocations.set i .exited }
    | _ => none

/-- The daemon has a child that is alive. -/
def Supervises (w : World) : Prop := 0 < w.ctx.childPid ∧ w.Live w.ctx.childPid

/-- A live child of the daemon has its PID file. -/
def Filed (s : System Dir) : Prop :=
  Supervises s.daemon → s.daemon.pidFile = some s.daemon.ctx.childPid

/-- No context that shares the PID file is destroyed while the daemon has a live child, and the daemon
itself does not unlink the file of a child it lets live. -/
def Respects (s : System Dir) : Event Dir → Prop
  | .daemon e => KeepsFile s.daemon e
  | .destroy i _ _ => ∀ p ∈ s.preflight i, s.Shares entry p.1 p.2 → ¬Supervises s.daemon
  | _ => True

instance (w : World) : Decidable (Supervises w) :=
  inferInstanceAs (Decidable (0 < w.ctx.childPid ∧ w.Live w.ctx.childPid))

instance (s : System Dir) : Decidable (Filed s) :=
  inferInstanceAs (Decidable (Supervises s.daemon → s.daemon.pidFile = some s.daemon.ctx.childPid))

instance (s : System Dir) (e : Event Dir) : Decidable (Respects entry s e) :=
  match e with
  | .daemon e => inferInstanceAs (Decidable (KeepsFile s.daemon e))
  | .destroy i _ _ => inferInstanceAs (Decidable (∀ p ∈ s.preflight i,
      s.Shares entry p.1 p.2 → ¬Supervises s.daemon))
  | .invoke _ _ _ | .lock _ => inferInstanceAs (Decidable True)

variable {entry} {s s' : System Dir} {w w' : World} {os : Os}

/-! ## A context that goes -/

@[simp] lemma serviceDestroy_pidFile (w : World) (os : Os) : (serviceDestroy w os).pidFile = none := rfl

/-- A preflight in the same directory takes the PID file away. -/
lemma destroyPreflight_pidFile {cwd : Dir} {ctx : ServiceCtx} (shared : s.Shares entry cwd ctx) :
    (s.destroyPreflight entry cwd ctx os).pidFile = none := by
  rw [System.destroyPreflight, if_pos shared]
  rfl

/-- Another process does not touch the child. -/
lemma destroyPreflight_supervises {cwd : Dir} {ctx : ServiceCtx} :
    Supervises (s.destroyPreflight entry cwd ctx os) ↔ Supervises s.daemon := by
  rw [System.destroyPreflight]
  split <;> rfl

/-! ## Steps -/

/-- A step of the daemon keeps the property if the file of a live child stays. -/
lemma filed_of_daemon {e : Service.Event} (filed : Filed s) (keeps : KeepsFile s.daemon e)
    (st : Service.step s.daemon e = some w) : Filed { s with daemon := w } := by
  intro ⟨pos, live⟩
  rcases step_tenure st with ⟨same, kept⟩ | renewed
  · have pid := same.child pos
    have before : Supervises s.daemon := ⟨pid ▸ pos, same.live pos live⟩
    show w.pidFile = some w.ctx.childPid
    rw [kept keeps pos live, pid]
    exact filed before
  · exact renewed.file pos live

/-- A step of the daemon that lets the child live and unlinks its file breaks the property. -/
lemma keepsFile_of_filed {e : Service.Event}
    (filed : ∀ w, Service.step s.daemon e = some w → Filed { s with daemon := w }) :
    KeepsFile s.daemon e := by
  cases e with
  | stopAsync d os =>
    intro resets pos live
    obtain ⟨view, unlinked⟩ := stopAsync_unlinks (w := s.daemon) d resets
    have pid := childPid_of_view view
    have procs : (serviceStopAsync s.daemon d os).1.procs = s.daemon.procs :=
      congrArg ChildView.procs view
    have supervises : Supervises (serviceStopAsync s.daemon d os).1 := by
      rw [Supervises, World.Live, pid, procs]
      exact ⟨pos, live⟩
    have here := filed _ rfl supervises
    rw [show ({ s with daemon := (serviceStopAsync s.daemon d os).1 } : System Dir).daemon.pidFile = none
      from unlinked] at here
    cases here
  | _ => trivial

/-- `Respects` says exactly which steps keep the property. -/
lemma respects_iff_filed (s : System Dir) (e : Event Dir) (filed : Filed s) :
    Respects entry s e ↔ ∀ s', step entry s e = some s' → Filed s' := by
  cases e with
  | daemon e =>
    constructor
    · intro keeps s' st
      obtain ⟨w, stw, rfl⟩ := Option.map_eq_some_iff.mp st
      exact filed_of_daemon filed keeps stw
    · intro kept
      refine keepsFile_of_filed fun w st => kept _ ?_
      simp only [step, st, Option.map_some]
  | invoke cwd cfg alloc =>
    refine ⟨fun _ s' st => ?_, fun _ => trivial⟩
    cases st
    exact filed
  | destroy i valid os =>
    constructor
    · intro spares s' st
      obtain ⟨⟨cwd, ctx⟩, here, rfl⟩ := Option.map_eq_some_iff.mp st
      intro supervises
      have before := destroyPreflight_supervises.mp supervises
      -- only a context whose path is the same file removes it
      by_cases shared : s.Shares entry cwd ctx
      · exact absurd before (spares (cwd, ctx) here shared)
      · simp only [System.destroyPreflight, if_neg shared]
        exact filed before
    · rintro kept ⟨cwd, ctx⟩ here shared supervises
      have file := kept _ (Option.map_eq_some_iff.mpr ⟨(cwd, ctx), here, rfl⟩)
        (destroyPreflight_supervises.mpr supervises)
      rw [destroyPreflight_pidFile shared] at file
      cases file
  | lock i =>
    refine ⟨fun _ s' st => ?_, fun _ => trivial⟩
    simp only [step] at st
    split at st
    · cases st
      exact filed
    · cases st

/-! ## Runs -/

/-- The daemon once `service_init` has built its context, before any further invocation. -/
def System.init (cwd : Dir) (ctx : ServiceCtx) (pidFile : Option Int) (nowMs : Nat) : System Dir :=
  ⟨cwd, World.init ctx pidFile nowMs, []⟩

/-- Before the first event there is no child. -/
lemma System.init_filed {cfg : AtpConfig} {alloc : Bool} {ctx : ServiceCtx}
    (init : serviceInit cfg alloc = some ctx) (cwd : Dir) (pidFile : Option Int) (nowMs : Nat) :
    Filed (.init cwd ctx pidFile nowMs) := by
  obtain ⟨_, _, _, _, _, rfl⟩ := serviceInit_eq init
  intro ⟨pos, _⟩
  exact absurd pos (by decide : ¬(0 : Int) < -1)

/-- `service_destroy` leaves the PID file unchanged only where there is none, whether or not the
context has spawned a child; and in the runs of the daemon with further invocations, exactly the steps
that respect the file leave it to a live child, whatever the paths lead to. -/
theorem pidFile_of_live_child_iff (w : World) (os : Os) (entry : Dir → Str → Entry) (cwd : Dir)
    (cfg : AtpConfig) (alloc : Bool) (ctx : ServiceCtx) (pidFile : Option Int) (nowMs : Nat)
    (es : List (Event Dir)) (init : serviceInit cfg alloc = some ctx) :
    ((serviceDestroy w os).pidFile = w.pidFile ↔ w.pidFile = none) ∧
      (Along (step entry) (fun s e => ∀ s', step entry s e = some s' → Filed s')
          (.init cwd ctx pidFile nowMs) es ↔
        Along (step entry) (Respects entry) (.init cwd ctx pidFile nowMs) es) := by
  constructor
  · rw [serviceDestroy_pidFile]
    exact eq_comm
  · exact (along_iff_keeps respects_iff_filed (System.init_filed init cwd pidFile nowMs)).symm

end Lookup

/-- The names on a path; an empty one and `.` lead nowhere else. -/
def pathNames (path : Str) : List Str := (words '/' path).filter (· ≠ ['.'])

/-- The lookup in a file system without links, for paths without `..`. -/
def plainEntry (cwd : List Str) (path : Str) : List Str :=
  match path with
  | '/' :: _ => pathNames path
  | _ => cwd ++ pathNames path

/-- The configuration of the daemon and of the invocations that share its directory. -/
def sharedConfig : AtpConfig := configSetDefaults "/data/adb/atp".toList false

/-- An invocation is through with its context before the daemon starts its service. -/
def startAfterPreflight : List (Event (List Str)) :=
  [.invoke [] sharedConfig true, .destroy 0 true (.calm 900 50), .lock 0,
    .daemon (.setReactor (.calm 1000 100)), .daemon (.start (.calm 1000 100))]

/-- A preflight that comes before the start does no harm. -/
theorem pidFile_of_live_child_iff_startAfterPreflight :
    Along (step plainEntry) (Respects plainEntry) (.init [] defaultCtx none 900) startAfterPreflight ∧
      Along (step plainEntry) (fun s e => ∀ s', step plainEntry s e = some s' → Filed s')
        (.init [] defaultCtx none 900) startAfterPreflight :=
  ⟨by decide, (pidFile_of_live_child_iff (.init defaultCtx none 900) (.calm 900 50) plainEntry []
    sharedConfig true defaultCtx none 900 startAfterPreflight (by decide)).2.mpr (by decide)⟩

/-- The daemon has started its service, and `atpd start` is called again. -/
def startTwice (cfg : AtpConfig) : List (Event (List Str)) :=
  [.daemon (.setReactor (.calm 1000 100)), .daemon (.start (.calm 1000 100)),
    .invoke [] cfg true, .destroy 0 true (.calm 2000 200), .lock 0]

/-- The second call takes the PID file of a child that is alive. -/
theorem startTwice_unlinks :
    ∃ s, run (step plainEntry) (.init [] defaultCtx none 900) (startTwice sharedConfig) = some s ∧
      s.daemon.ctx.childPid = 100 ∧ s.daemon.Live 100 ∧ s.daemon.pidFile = none ∧ ¬Filed s :=
  ⟨_, rfl, rfl, by decide, rfl, by decide⟩

/-- The same directory under another name. -/
def respelledConfig : AtpConfig :=
  { sharedConfig with core := { sharedConfig.core with runDir := "/data/adb/./atp/run/".toList } }

example : ¬Along (step plainEntry) (Respects plainEntry) (.init [] defaultCtx none 900)
    (startTwice respelledConfig) := by decide

end Atpd.Daemon.Startup
