import Atpd.Config.Basic
import Atpd.Daemon.Lifetime
import Atpd.Lib.Run

/-!
# The start in the background

`daemonize` of `src/main.c`: the process that was called waits at a pipe, its child makes a session and
forks once more, and the grandchild is the daemon, which runs `do_start`. The three run as they like, and
each of them may be killed at any time. A read of the pipe blocks while it is empty and somebody holds its
write end; a write without a reader kills the writer, as `SIGPIPE` is not ignored.

When the process has read of a success, `do_start` looks once more whether the daemon runs: it has to be
there, and its binary has to be called `atpd`. Then it asks the daemon for its status to print it, with a
bound on the time and no use of the result, which is left out.

The daemon is the list of what `do_start` does to be seen, one entry a step. The process that supervises
sing-box inherits the write end for the time between `fork` and `exec` only, and is left out.
-/

namespace Atpd.Daemon.Launch

open Atpd.Config Atpd.Daemon.Lifetime Atpd.Lib

/-- `startup_notify_msg_t`. -/
structure NotifyMsg where
  success : Bool
  pid : Nat
deriving DecidableEq, Repr

/-- The process that was called, in `daemonize` and behind it. -/
inductive Parent where
  | forked
  /-- The write end is closed. -/
  | reading
  /-- `DAEMON_PARENT_SUCCESS`, before the daemon is looked for. -/
  | told (pid : Nat)
  | success (pid : Nat)
  /-- "Daemon process is not running after startup". -/
  | notRunning (pid : Nat)
  | failure
  | killed
deriving DecidableEq, Repr

/-- It has not returned from `do_start` yet. -/
def Parent.waits : Parent → Bool
  | .forked | .reading | .told _ => true
  | _ => false

/-- The daemon that it has read of. -/
def Parent.heard : Parent → Option Nat
  | .told pid | .success pid | .notRunning pid => some pid
  | _ => none

/-- Its child. -/
inductive Child where
  | born
  /-- The read end is closed. -/
  | detached
  /-- Behind `setsid`. -/
  | leader
  /-- Behind the second `fork`, before `_exit`. -/
  | parting
  | gone
deriving DecidableEq, Repr

/-- The daemon: what it has done and what it will do. -/
structure Grandchild where
  pid : Nat
  log : List Entry
  todo : List Entry
  alive : Bool
deriving DecidableEq, Repr

/-- The three processes and the pipe; `exe` is where `/proc` says that the binary of the daemon is, if that
can be read. -/
structure Processes where
  parent : Parent
  child : Child
  childPid : Nat
  daemon : Option Grandchild
  pipe : List NotifyMsg
  exe : Option Str
deriving DecidableEq, Repr

/-- Behind the first `fork`. -/
def Processes.init (childPid : Nat) (exe : Option Str) : Processes := ⟨.forked, .born, childPid, none, [], exe⟩

/-- `basename`, of a path that does not end in a slash. -/
def basename (path : Str) : Str := (path.reverse.takeWhile (· ≠ '/')).reverse

/-- `process_is_atpd`, behind its `readlink`. -/
def processIsAtpd (exe : Option Str) : Bool :=
  exe.any fun path =>
    path ≠ [] && (basename path = "atpd".toList || basename path = "atpd (deleted)".toList)

/-- `kill(pid, 0) == 0 && process_is_atpd(pid)`; when the daemon is dead, `other` is what its remains, or
another process of its number, make of it. -/
def Processes.runs (s : Processes) (pid : Nat) (other : Bool) : Bool :=
  match s.daemon with
  | some d => if d.pid = pid && d.alive then processIsAtpd s.exe else other
  | none => other

/-- `notify_startup` closes the write end. -/
def Entry.isNotified : Entry → Bool
  | .notified _ => true
  | _ => false

/-- The daemon holds the writing end of the pipe. -/
def Grandchild.holds (d : Grandchild) : Bool := d.alive && !d.log.any Entry.isNotified

/-- Somebody has the write end. -/
def Processes.writers (s : Processes) : Bool :=
  s.parent = .forked || s.child ≠ .gone || s.daemon.any Grandchild.holds

/-- Somebody has the read end. -/
def Processes.readers (s : Processes) : Bool := s.parent = .forked || s.parent = .reading || s.child = .born

/-- What `do_start` does in the daemon. -/
def program (os : StartOs) (c : Custody) : List Entry :=
  match doStart os (.start c true) with
  | some (d, _) => d.log
  | none => []

/-- Who makes a step, and how its calls go. -/
inductive Label where
  | parentClose
  | parentRead
  /-- `do_start` looks for the daemon. -/
  | parentCheck (other : Bool)
  | childClose
  | childSession (ok : Bool)
  | childFork (daemon : Option (Nat × StartOs × Custody))
  | childExit
  | daemonStep
  | killParent
  | killChild
  | killDaemon

/-- Somebody is killed. -/
def Label.isKill : Label → Bool
  | .killParent | .killChild | .killDaemon => true
  | _ => false

/-- A message is written, if there is a reader. -/
def Processes.write (s : Processes) (m : NotifyMsg) : Processes :=
  if s.readers then { s with pipe := s.pipe ++ [m] } else s

/-- `notify_startup(1)` and `_exit(1)` of the child. -/
def Processes.childFail (s : Processes) : Processes := { s.write ⟨false, s.childPid⟩ with child := .gone }

/-- The parent behind its `read`. -/
def parentRead (s : Processes) : Option Processes :=
  match s.pipe with
  | m :: rest =>
    some { s with parent := if m.success && 0 < m.pid then .told m.pid else .failure, pipe := rest }
  | [] => if s.writers then none else some { s with parent := .failure }

/-- The daemon at its next entry. -/
def daemonStep (s : Processes) (d : Grandchild) : Processes :=
  match d.todo with
  | [] => { s with daemon := some { d with alive := false } }
  | .notified b :: todo =>
    if s.readers then
      { s.write ⟨b, d.pid⟩ with daemon := some { d with log := d.log ++ [.notified b], todo := todo } }
    else { s with daemon := some { d with alive := false } }
  | e :: todo => { s with daemon := some { d with log := d.log ++ [e], todo := todo } }

/-- One step of one process. -/
def step (s : Processes) : Label → Option Processes
  | .parentClose => if s.parent = .forked then some { s with parent := .reading } else none
  | .parentRead => if s.parent = .reading then parentRead s else none
  | .parentCheck other =>
    match s.parent with
    | .told pid =>
      some { s with parent := if 0 < pid && s.runs pid other then .success pid else .notRunning pid }
    | _ => none
  | .childClose => if s.child = .born then some { s with child := .detached } else none
  | .childSession ok =>
    if s.child = .detached then some (if ok then { s with child := .leader } else s.childFail) else none
  | .childFork daemon =>
    if s.child = .leader then
      match daemon with
      | none => some s.childFail
      | some (pid, os, c) =>
        if 0 < pid then
          some { s with child := .parting, daemon := some ⟨pid, [], program os c, true⟩ }
        else none
    else none
  | .childExit => if s.child = .parting then some { s with child := .gone } else none
  | .daemonStep =>
    match s.daemon with
    | none => none
    | some d => if d.alive then some (daemonStep s d) else none
  | .killParent => if s.parent.waits then some { s with parent := .killed } else none
  | .killChild => if s.child ≠ .gone then some { s with child := .gone } else none
  | .killDaemon =>
    match s.daemon with
    | none => none
    | some d => if d.alive then some { s with daemon := some { d with alive := false } } else none

/-! ## What a step can do -/

variable {s s' : Processes} {d : Grandchild} {l : Label} {ls : List Label} {stopping result : Bool}
  {e : Entry} {done todo : List Entry}

/-- The steps from `s`, each with what it finds there. -/
inductive Step (s : Processes) : Label → Processes → Prop where
  | parentClose (forked : s.parent = .forked) : Step s .parentClose { s with parent := .reading }
  | parentRead {s' : Processes} (reading : s.parent = .reading) (read : Launch.parentRead s = some s') :
    Step s .parentRead s'
  | parentCheck {pid : Nat} {other : Bool} (told : s.parent = .told pid) : Step s (.parentCheck other)
      { s with parent := if 0 < pid && s.runs pid other then .success pid else .notRunning pid }
  | childClose (born : s.child = .born) : Step s .childClose { s with child := .detached }
  | session (detached : s.child = .detached) : Step s (.childSession true) { s with child := .leader }
  | noSession (detached : s.child = .detached) : Step s (.childSession false) s.childFail
  | fork {pid : Nat} {os : StartOs} {c : Custody} (leader : s.child = .leader) (positive : 0 < pid) :
    Step s (.childFork (some (pid, os, c)))
      { s with child := .parting, daemon := some ⟨pid, [], program os c, true⟩ }
  | noFork (leader : s.child = .leader) : Step s (.childFork none) s.childFail
  | childExit (parting : s.child = .parting) : Step s .childExit { s with child := .gone }
  | daemonStep {d : Grandchild} (found : s.daemon = some d) (alive : d.alive = true) :
    Step s .daemonStep (Launch.daemonStep s d)
  | killParent (waits : s.parent.waits = true) : Step s .killParent { s with parent := .killed }
  | killChild (there : s.child ≠ .gone) : Step s .killChild { s with child := .gone }
  | killDaemon {d : Grandchild} (found : s.daemon = some d) (alive : d.alive = true) :
    Step s .killDaemon { s with daemon := some { d with alive := false } }

/-- What a step does, by its label. -/
lemma step_cases (st : step s l = some s') : Step s l s' := by
  cases l with
  | parentClose =>
    simp only [step, Option.ite_none_right_eq_some, Option.some.injEq] at st
    obtain ⟨forked, rfl⟩ := st
    exact .parentClose forked
  | parentRead =>
    simp only [step, Option.ite_none_right_eq_some] at st
    exact .parentRead st.1 st.2
  | parentCheck other =>
    simp only [step] at st
    split at st
    · rename_i pid told
      cases st
      exact .parentCheck told
    · cases st
  | childClose =>
    simp only [step, Option.ite_none_right_eq_some, Option.some.injEq] at st
    obtain ⟨born, rfl⟩ := st
    exact .childClose born
  | childSession ok =>
    simp only [step, Option.ite_none_right_eq_some, Option.some.injEq] at st
    obtain ⟨detached, rfl⟩ := st
    cases ok with
    | true => exact .session detached
    | false => exact .noSession detached
  | childFork daemon =>
    simp only [step, Option.ite_none_right_eq_some] at st
    obtain ⟨leader, st⟩ := st
    cases daemon with
    | none =>
      cases st
      exact .noFork leader
    | some x =>
      obtain ⟨pid, os, c⟩ := x
      simp only [Option.ite_none_right_eq_some, Option.some.injEq] at st
      obtain ⟨positive, rfl⟩ := st
      exact .fork leader positive
  | childExit =>
    simp only [step, Option.ite_none_right_eq_some, Option.some.injEq] at st
    obtain ⟨parting, rfl⟩ := st
    exact .childExit parting
  | daemonStep =>
    simp only [step] at st
    split at st
    · cases st
    · rename_i d found
      simp only [Option.ite_none_right_eq_some, Option.some.injEq] at st
      obtain ⟨alive, rfl⟩ := st
      exact .daemonStep found alive
  | killParent =>
    simp only [step, Option.ite_none_right_eq_some, Option.some.injEq] at st
    obtain ⟨waits, rfl⟩ := st
    exact .killParent waits
  | killChild =>
    simp only [step, Option.ite_none_right_eq_some, Option.some.injEq] at st
    obtain ⟨there, rfl⟩ := st
    exact .killChild there
  | killDaemon =>
    simp only [step] at st
    split at st
    · cases st
    · rename_i d found
      simp only [Option.ite_none_right_eq_some, Option.some.injEq] at st
      obtain ⟨alive, rfl⟩ := st
      exact .killDaemon found alive

/-! ## What the daemon does -/

/-- The program of the daemon is one of those of `do_start`. -/
def Tells (l : List Entry) : Prop := ∃ os stopping result, Story os true stopping l result

/-- The program of the daemon tells once, before its loop. -/
lemma program_tells (os : StartOs) (c : Custody) : Tells (program os c) := by
  obtain ⟨d, result, e, eq, -, log, story⟩ :=
    doStart_spec os (Process.start_fresh c true) (Process.start_keeps c true)
  have log : program os c = e := by
    rw [program, eq]
    exact log
  exact ⟨os.pid, os.loop.stopping, result, log ▸ story⟩

/-- The shapes, one by one. -/
lemma Tells.cases {l : List Entry} (te : Tells l) :
    l = [.notified false] ∨ l = [.unlinked, .notified false] ∨ l = [.locked, .notified false, .unlinked] ∨
      l = [.locked, .ready, .notified true, .loop, .unlinked] := by
  obtain ⟨os, stopping, result, story⟩ := te
  cases story with
  | refused => exact .inl rfl
  | unwritten => exact .inr (.inl rfl)
  | failed => exact .inr (.inr (.inl rfl))
  | ran => exact .inr (.inr (.inr rfl))

/-- What has been done is a part of one of them: nothing is told of a success without what comes before it,
and not both are told. -/
lemma Tells.part (te : Tells (done ++ todo)) :
    (.notified true ∉ done ∧ .loop ∉ done) ∨
      [.locked, .ready, .notified true] <+: done ∧ .notified false ∉ done := by
  -- the first three tell of no success at all
  have silent : ∀ {l : List Entry}, done ++ todo = l → .notified true ∉ l ∧ .loop ∉ l →
      .notified true ∉ done ∧ .loop ∉ done := by
    rintro l rfl ⟨noSuccess, noLoop⟩
    exact ⟨fun mem => noSuccess (List.mem_append_left _ mem), fun mem => noLoop (List.mem_append_left _ mem)⟩
  rcases te.cases with eq | eq | eq | eq
  · exact .inl (silent eq (by decide))
  · exact .inl (silent eq (by decide))
  · exact .inl (silent eq (by decide))
  · have part : done <+: [.locked, .ready, .notified true, .loop, .unlinked] := ⟨todo, eq⟩
    rcases Nat.lt_or_ge done.length 3 with short | long
    · left
      have early : done <+: [.locked, .ready] :=
        List.prefix_of_prefix_length_le part ⟨[.notified true, .loop, .unlinked], rfl⟩ (Nat.le_of_lt_succ short)
      exact ⟨fun mem => absurd (early.subset mem) (by decide), fun mem => absurd (early.subset mem) (by decide)⟩
    · right
      exact ⟨List.prefix_of_prefix_length_le ⟨[.loop, .unlinked], rfl⟩ part long,
        fun mem => absurd (part.subset mem) (by decide)⟩

/-- Behind a success are the lock and READY. -/
lemma Tells.first (te : Tells (done ++ todo)) (told : .notified true ∈ done) :
    [.locked, .ready, .notified true] <+: done := by
  rcases te.part with ⟨silent, -⟩ | ⟨first, -⟩
  · exact absurd told silent
  · exact first

/-- A success is not followed by a refusal, nor preceded by one. -/
lemma Tells.not_refused (te : Tells (done ++ todo)) (told : .notified true ∈ done) : .notified false ∉ done := by
  rcases te.part with ⟨silent, -⟩ | ⟨-, once⟩
  · exact absurd told silent
  · exact once

/-- The event loop is entered behind a success. -/
lemma Tells.told_of_loop (te : Tells (done ++ todo)) (loop : .loop ∈ done) : .notified true ∈ done := by
  rcases te.part with ⟨-, noLoop⟩ | ⟨first, -⟩
  · exact absurd loop noLoop
  · exact first.subset (by simp)

/-! ## The invariant -/

/-- What is in the pipe, and what the calling process has made of it, is what the log of the daemon says. -/
structure Sound (s : Processes) : Prop where
  program : ∀ d ∈ s.daemon, Tells (d.log ++ d.todo) ∧ 0 < d.pid
  single : s.child = .born ∨ s.child = .detached ∨ s.child = .leader → s.daemon = none
  parted : s.child = .parting → s.daemon.isSome
  announced : ∀ m ∈ s.pipe, m.success = true → ∃ d ∈ s.daemon, d.pid = m.pid ∧ .notified true ∈ d.log
  refused : ∀ m ∈ s.pipe, m.success = false →
    s.child = .gone ∧ s.daemon = none ∨ ∃ d ∈ s.daemon, .notified false ∈ d.log
  delivered : ∀ d ∈ s.daemon, .notified true ∈ d.log →
    ⟨true, d.pid⟩ ∈ s.pipe ∨ s.parent.heard = some d.pid ∨ s.parent = .killed
  heard : ∀ pid, s.parent.heard = some pid → ∃ d ∈ s.daemon, d.pid = pid ∧ .notified true ∈ d.log
  checked : ∀ pid, s.parent = .notRunning pid →
    processIsAtpd s.exe = false ∨ ∀ d ∈ s.daemon, d.alive = false
  failure : s.parent = .failure → (s.child = .parting ∨ s.child = .gone) ∧
    ∀ d ∈ s.daemon, .notified true ∉ d.log ∧ (.notified false ∈ d.log ∨ d.alive = false)

namespace Sound

/-- Nothing was said yet. -/
lemma quiet (daemon : s.daemon = none) (pipe : s.pipe = []) (child : s.child ≠ .parting)
    (unheard : s.parent.heard = none) (failure : s.parent ≠ .failure) : Sound s where
  program d hd := by simp [daemon] at hd
  single _ := daemon
  parted parting := absurd parting child
  announced m hm := by simp [pipe] at hm
  refused m hm := by simp [pipe] at hm
  delivered d hd := by simp [daemon] at hd
  heard pid eq := by simp [unheard] at eq
  checked pid eq := by simp [eq, Parent.heard] at unheard
  failure eq := absurd eq failure

/-- At the start only the calling process and its child are there. -/
lemma init (childPid : Nat) (exe : Option Str) : Sound (.init childPid exe) := quiet rfl rfl nofun rfl nofun

/-- Where there is a daemon, the child is behind the second `fork`. -/
lemma late (so : Sound s) (found : s.daemon = some d) : s.child = .parting ∨ s.child = .gone := by
  cases child : s.child with
  | parting => exact .inl rfl
  | gone => exact .inr rfl
  | born => exact absurd (found.symm.trans (so.single (.inl child))) nofun
  | detached => exact absurd (found.symm.trans (so.single (.inr (.inl child)))) nofun
  | leader => exact absurd (found.symm.trans (so.single (.inr (.inr child)))) nofun

/-- Before the second `fork` the pipe is empty, and the parent waits or was killed. -/
lemma early (so : Sound s) (child : s.child = .born ∨ s.child = .detached ∨ s.child = .leader) :
    s.daemon = none ∧ s.pipe = [] ∧ s.parent.heard = none ∧ s.parent ≠ .failure := by
  have none := so.single child
  refine ⟨none, ?_, Option.eq_none_iff_forall_not_mem.mpr fun pid eq => ?_, fun eq => ?_⟩
  · refine List.eq_nil_iff_forall_not_mem.mpr fun m hm => ?_
    cases success : m.success with
    | true =>
      obtain ⟨d, hd, -⟩ := so.announced m hm success
      simp [none] at hd
    | false =>
      rcases so.refused m hm success with ⟨gone, -⟩ | ⟨d, hd, -⟩
      · simp [gone] at child
      · simp [none] at hd
  · obtain ⟨d, hd, -⟩ := so.heard pid eq
    simp [none] at hd
  · rcases (so.failure eq).1 with late | late <;> simp [late] at child

/-- The child fails: its message is the only one. -/
lemma childFail (so : Sound s) (child : s.child = .born ∨ s.child = .detached ∨ s.child = .leader) :
    Sound s.childFail := by
  obtain ⟨daemon, pipe, unheard, failure⟩ := so.early child
  rw [Processes.childFail, Processes.write]
  split
  · refine ⟨fun d hd => ?_, nofun, nofun, fun m hm yes => ?_, fun m hm no => .inl ⟨rfl, daemon⟩, fun d hd => ?_,
      fun pid eq => absurd (unheard.symm.trans eq) nofun, fun pid eq => ?_, fun eq => absurd eq failure⟩
    · simp [daemon] at hd
    · simp only [pipe, List.nil_append, List.mem_singleton] at hm
      simp [hm] at yes
    · simp [daemon] at hd
    · exact .inr fun d hd => absurd (daemon.symm.trans hd) nofun
  · exact quiet daemon pipe nofun unheard failure

/-- The child is gone behind the second `fork`. -/
lemma childGone (so : Sound s) (child : s.child = .parting) : Sound { s with child := .gone } :=
  { so with
    single := nofun
    parted := nofun
    refused := fun m hm no => .inr ((so.refused m hm no).resolve_left fun early => by simp [child] at early)
    failure := fun eq => ⟨.inr rfl, (so.failure eq).2⟩ }

/-- The parent goes on to wait, or is killed. -/
lemma parentMoves (so : Sound s) {parent : Parent}
    (next : s.parent = .forked ∧ parent = .reading ∨ parent = .killed) : Sound { s with parent := parent } :=
  { so with
    delivered := fun d hd told => by
      rcases next with ⟨forked, rfl⟩ | rfl
      · rcases so.delivered d hd told with inPipe | heard | killed
        · exact .inl inPipe
        · rw [forked] at heard
          cases heard
        · rw [forked] at killed
          cases killed
      · exact .inr (.inr rfl)
    heard := fun pid eq => by rcases next with ⟨-, rfl⟩ | rfl <;> cases eq
    checked := fun pid eq => by rcases next with ⟨-, rfl⟩ | rfl <;> cases eq
    failure := fun eq => by rcases next with ⟨-, rfl⟩ | rfl <;> cases eq }

/-- The daemon is looked for: if it is alive, what is found is its binary. -/
lemma parentChecks (so : Sound s) {pid : Nat} {other : Bool} (told : s.parent = .told pid) :
    Sound { s with parent := if 0 < pid && s.runs pid other then .success pid else .notRunning pid } := by
  have heard : s.parent.heard = some pid := by rw [told, Parent.heard]
  have same : (if 0 < pid && s.runs pid other then Parent.success pid else .notRunning pid).heard = some pid := by
    split <;> rfl
  obtain ⟨d, found, isPid, -⟩ := so.heard pid heard
  refine { so with
    delivered := fun x hx tells => ?_
    heard := fun n eq => so.heard n (heard.trans (same.symm.trans eq))
    checked := fun n eq => ?_
    failure := fun eq => ?_ }
  · rcases so.delivered x hx tells with inPipe | heard' | killed
    · exact .inl inPipe
    · exact .inr (.inl (same.trans (heard.symm.trans heard')))
    · rw [told] at killed
      cases killed
  · dsimp only at eq
    split at eq
    · cases eq
    · rename_i missing
      cases alive : d.alive with
      | false =>
        refine .inr fun x hx => ?_
        cases found.symm.trans hx
        exact alive
      | true =>
        -- it is there, so it was its name
        have positive : 0 < pid := isPid ▸ (so.program d found).2
        refine .inl (Bool.eq_false_iff.mpr fun named => missing ?_)
        simp [positive, Processes.runs, Option.mem_def.mp found, isPid, alive, named]
  · dsimp only at eq
    split at eq <;> cases eq

/-- The daemon moves on, and tells nothing. -/
lemma daemonMoves (so : Sound s) (found : s.daemon = some d) {d' : Grandchild} (pid : d'.pid = d.pid)
    (tells : Tells (d'.log ++ d'.todo)) (same : ∀ b, .notified b ∈ d'.log ↔ .notified b ∈ d.log)
    (dead : d.alive = false → d'.alive = false) : Sound { s with daemon := some d' } := by
  have mine : ∀ x ∈ some d', x = d' := fun x hx => (Option.some.inj hx).symm
  refine ⟨fun x hx => ?_, fun early => ?_, fun _ => rfl, fun m hm yes => ?_, fun m hm no => ?_,
    fun x hx told => ?_, fun n eq => ?_, fun n eq => ?_, fun eq => ⟨(so.failure eq).1, fun x hx => ?_⟩⟩
  · rw [mine x hx, pid]
    exact ⟨tells, (so.program d found).2⟩
  · exact absurd (found.symm.trans (so.single early)) nofun
  · obtain ⟨x, hx, eq, told⟩ := so.announced m hm yes
    cases found.symm.trans hx
    exact ⟨d', rfl, pid.trans eq, (same true).mpr told⟩
  · rcases so.refused m hm no with ⟨-, none⟩ | ⟨x, hx, told⟩
    · exact absurd (found.symm.trans none) nofun
    · cases found.symm.trans hx
      exact .inr ⟨d', rfl, (same false).mpr told⟩
  · rw [mine x hx] at told ⊢
    rw [pid]
    exact so.delivered d found ((same true).mp told)
  · obtain ⟨x, hx, eq', told⟩ := so.heard n eq
    cases found.symm.trans hx
    exact ⟨d', rfl, pid.trans eq', (same true).mpr told⟩
  · refine (so.checked n eq).imp_right fun gone x hx => ?_
    rw [mine x hx]
    exact dead (gone d found)
  · rw [mine x hx]
    obtain ⟨notTrue, either⟩ := (so.failure eq).2 d found
    exact ⟨fun told => notTrue ((same true).mp told), either.imp (same false).mpr dead⟩

/-- The daemon ends, in one way or the other. -/
lemma daemonEnds (so : Sound s) (found : s.daemon = some d) :
    Sound { s with daemon := some { d with alive := false } } :=
  so.daemonMoves found rfl (so.program d found).1 (fun _ => .rfl) fun _ => rfl

/-- The daemon writes its message. -/
lemma daemonTells (so : Sound s) (found : s.daemon = some d) {b : Bool} (next : d.todo = .notified b :: todo)
    (alive : d.alive = true) :
    Sound { s with
      pipe := s.pipe ++ [⟨b, d.pid⟩]
      daemon := some { d with log := d.log ++ [.notified b], todo := todo } } := by
  -- the message moves from what is still to be done into the log, the program is the same
  have tells : Tells ((d.log ++ [.notified b]) ++ todo) := by
    rw [List.append_assoc, List.singleton_append, ← next]
    exact (so.program d found).1
  have keeps : ∀ {x}, x ∈ d.log → x ∈ d.log ++ [.notified b] := fun mem => List.mem_append_left _ mem
  refine ⟨fun x hx => ?_, fun early => ?_, fun _ => rfl, fun m hm yes => ?_, fun m hm no => ?_,
    fun x hx told => ?_, fun n eq => ?_, fun n eq => ?_, fun eq => ⟨(so.failure eq).1, fun x hx => ?_⟩⟩
  · cases hx
    exact ⟨tells, (so.program d found).2⟩
  · exact absurd (found.symm.trans (so.single early)) nofun
  · -- a success in the pipe is an old one or this one, and both are in the log
    rcases List.mem_append.mp hm with hm | hm
    · obtain ⟨x, hx, eq, told⟩ := so.announced m hm yes
      cases found.symm.trans hx
      exact ⟨_, rfl, eq, keeps told⟩
    · cases List.mem_singleton.mp hm
      cases yes
      exact ⟨_, rfl, rfl, List.mem_append_right _ List.mem_cons_self⟩
  · rcases List.mem_append.mp hm with hm | hm
    · rcases so.refused m hm no with ⟨-, none⟩ | ⟨x, hx, told⟩
      · exact absurd (found.symm.trans none) nofun
      · cases found.symm.trans hx
        exact .inr ⟨_, rfl, keeps told⟩
    · cases List.mem_singleton.mp hm
      cases no
      exact .inr ⟨_, rfl, List.mem_append_right _ List.mem_cons_self⟩
  · cases hx
    rcases List.mem_append.mp told with told | new
    · exact (so.delivered d found told).imp_left fun mem => List.mem_append_left _ mem
    · cases List.mem_singleton.mp new
      exact .inl (List.mem_append_right _ List.mem_cons_self)
  · obtain ⟨x, hx, eq', told⟩ := so.heard n eq
    cases found.symm.trans hx
    exact ⟨_, rfl, eq', keeps told⟩
  · exact .inl ((so.checked n eq).resolve_right fun gone => by simp [gone d found] at alive)
  · cases hx
    obtain ⟨-, either⟩ := (so.failure eq).2 d found
    have refused : .notified false ∈ d.log := either.resolve_right (by simp [alive])
    exact ⟨fun told => tells.not_refused told (keeps refused), .inl (keeps refused)⟩

/-- A step of the daemon. -/
lemma daemonStep (so : Sound s) (found : s.daemon = some d) (alive : d.alive = true) :
    Sound (daemonStep s d) := by
  rw [Launch.daemonStep]
  have moves : ∀ {e todo}, d.todo = e :: todo → (∀ b, e ≠ .notified b) →
      Sound { s with daemon := some { d with log := d.log ++ [e], todo := todo } } := by
    intro e todo next other
    refine so.daemonMoves found rfl ?_ (fun b => ?_) fun dead => dead
    · rw [List.append_assoc, List.singleton_append, ← next]
      exact (so.program d found).1
    · rw [List.mem_append, List.mem_singleton]
      exact or_iff_left fun eq => other b eq.symm
  split
  · exact so.daemonEnds found
  · rename_i b todo next
    split
    · rename_i readers
      rw [Processes.write, if_pos readers]
      exact so.daemonTells found next alive
    · exact so.daemonEnds found
  · rename_i e todo other next
    exact moves next fun b eq => other b eq

/-- The parent reads of a success, which only the daemon writes. -/
lemma readSuccess (so : Sound s) {m : NotifyMsg} {rest : List NotifyMsg}
    (next : s.pipe = m :: rest) (yes : m.success = true) :
    0 < m.pid ∧ Sound { s with parent := .told m.pid, pipe := rest } := by
  have sub : ∀ x ∈ rest, x ∈ s.pipe := fun x hx => next ▸ List.mem_cons_of_mem m hx
  obtain ⟨d, found, pid, told⟩ := so.announced m (next ▸ List.mem_cons_self) yes
  refine ⟨pid ▸ (so.program d found).2, ?_⟩
  refine ⟨so.program, so.single, so.parted, fun x hx => so.announced x (sub x hx),
    fun x hx => so.refused x (sub x hx), fun x hx _ => ?_, fun n eq => ?_, nofun, nofun⟩
  · cases found.symm.trans hx
    exact .inr (.inl (congrArg some pid.symm))
  · cases eq
    exact ⟨d, found, pid, told⟩

/-- The parent fails: the daemon was refused, or there is none and will be none. -/
lemma readFailure (so : Sound s) (child : s.child = .parting ∨ s.child = .gone) {rest : List NotifyMsg}
    (sub : ∀ x ∈ rest, x ∈ s.pipe)
    (refused : ∀ d ∈ s.daemon, .notified true ∉ d.log ∧ (.notified false ∈ d.log ∨ d.alive = false)) :
    Sound { s with parent := .failure, pipe := rest } :=
  ⟨so.program, so.single, so.parted, fun x hx => so.announced x (sub x hx), fun x hx => so.refused x (sub x hx),
    fun d hd told => absurd told (refused d hd).1, nofun, nofun, fun _ => ⟨child, refused⟩⟩

/-- The parent reads a message, or the end of the pipe. -/
lemma parentRead (so : Sound s) (reading : s.parent = .reading) (st : parentRead s = some s') : Sound s' := by
  rw [Launch.parentRead] at st
  split at st
  · rename_i m rest next
    cases st
    -- the first message in the pipe decides
    cases success : m.success with
    | true =>
      obtain ⟨positive, so'⟩ := so.readSuccess next success
      simpa [positive] using so'
    | false =>
      have sub : ∀ x ∈ rest, x ∈ s.pipe := fun x hx => next ▸ List.mem_cons_of_mem m hx
      -- a refusal comes from the child, whose daemon was never forked, or from the daemon itself
      rcases so.refused m (next ▸ List.mem_cons_self) success with ⟨gone, none⟩ | ⟨d, found, told⟩
      · exact so.readFailure (.inr gone) sub fun d hd => absurd (none.symm.trans hd) nofun
      · refine so.readFailure (so.late found) sub fun x hx => ?_
        cases found.symm.trans hx
        exact ⟨fun both => (so.program d found).1.not_refused both told, .inl told⟩
  · -- an empty pipe is its end only if nobody holds the write end
    rename_i empty
    split at st
    · cases st
    · rename_i writers
      cases st
      simp only [Processes.writers, Bool.or_eq_true, decide_eq_true_eq, not_or, not_not] at writers
      obtain ⟨⟨-, gone⟩, holders⟩ := writers
      have so' := so.readFailure (.inr gone) (fun _ hx => hx) fun d hd => ?_
      · exact so'
      -- a success that was written is still in the pipe, or was read, and neither is so here
      have told : .notified true ∉ d.log := fun told => by
        rcases so.delivered d hd told with inPipe | heard | killed
        · simp [empty] at inPipe
        · rw [reading] at heard
          cases heard
        · rw [reading] at killed
          cases killed
      refine ⟨told, ?_⟩
      have closed : d.holds = false := by simpa [Option.mem_def.mp hd] using holders
      -- a daemon that lives has closed the pipe, so it has told, and that was no success
      cases alive : d.alive with
      | false => exact .inr rfl
      | true =>
        rw [Grandchild.holds, alive, Bool.true_and, Bool.not_eq_false', List.any_eq_true] at closed
        obtain ⟨e, mem, notified⟩ := closed
        cases e with
        | notified b =>
          cases b with
          | true => exact absurd mem told
          | false => exact .inl mem
        | _ => cases notified

/-- What every step keeps. -/
lemma step (so : Sound s) (st : step s l = some s') : Sound s' := by
  cases step_cases st with
  | parentClose forked => exact so.parentMoves (.inl ⟨forked, rfl⟩)
  | parentRead reading read => exact so.parentRead reading read
  | parentCheck told => exact so.parentChecks told
  | childClose born =>
    obtain ⟨daemon, pipe, unheard, failure⟩ := so.early (.inl born)
    exact quiet daemon pipe nofun unheard failure
  | session detached =>
    obtain ⟨daemon, pipe, unheard, failure⟩ := so.early (.inr (.inl detached))
    exact quiet daemon pipe nofun unheard failure
  | noSession detached => exact so.childFail (.inr (.inl detached))
  | @fork pid os c leader positive =>
    obtain ⟨-, pipe, unheard, failure⟩ := so.early (.inr (.inr leader))
    -- the pipe is still empty, and the new daemon has told nothing
    refine ⟨fun d hd => ?_, nofun, fun _ => rfl, fun m hm => ?_, fun m hm => ?_, fun d hd told => ?_,
      fun n eq => absurd (unheard.symm.trans eq) nofun, fun n eq => ?_, fun eq => absurd eq failure⟩
    · cases hd
      exact ⟨program_tells os c, positive⟩
    · simp [pipe] at hm
    · simp [pipe] at hm
    · cases hd
      cases told
    · rw [show s.parent = .notRunning n from eq] at unheard
      cases unheard
  | noFork leader => exact so.childFail (.inr (.inr leader))
  | childExit parting => exact so.childGone parting
  | daemonStep found alive => exact so.daemonStep found alive
  | killParent _ => exact so.parentMoves (.inr rfl)
  | killChild there =>
    -- before it forked, the child leaves an empty pipe behind
    cases child : s.child with
    | parting => exact so.childGone child
    | gone => exact absurd child there
    | born =>
      obtain ⟨daemon, pipe, unheard, failure⟩ := so.early (.inl child)
      exact quiet daemon pipe nofun unheard failure
    | detached =>
      obtain ⟨daemon, pipe, unheard, failure⟩ := so.early (.inr (.inl child))
      exact quiet daemon pipe nofun unheard failure
    | leader =>
      obtain ⟨daemon, pipe, unheard, failure⟩ := so.early (.inr (.inr child))
      exact quiet daemon pipe nofun unheard failure
  | killDaemon found alive => exact so.daemonEnds found

end Sound

/-! ## What the two ends agree on -/

/-- Every call succeeds. -/
def everyCall : StartOs where
  pid := ⟨true, true, true, true, true, true⟩
  init :=
    { messages := fun _ => ⟨[], [], []⟩
      config := ⟨true, true, true, true⟩
      logger := ⟨⟨true, true, true⟩, true, true, true, ⟨true, true, true⟩⟩
      reactor := ⟨true, true, true, true, true, true, true⟩
      netlink := ⟨true, true, true, true, true, true, true⟩
      serviceAlloc := true
      serviceInit := true
      serviceTimer := true
      api := ⟨true, true, true, true, true, true, true, true⟩ }
  loop := ⟨[], true, true, ⟨true, true, true, true, true, true, true, true⟩, true, true, [], true, []⟩

/-- The daemon is installed under its name. -/
def installed : Option Str := some "/data/adb/atp/bin/atpd".toList

/-- The child leaves, and the daemon is in the event loop before the process reads. -/
def backgroundRun : List Label :=
  [.parentClose, .childClose, .childSession true, .childFork (some (42, everyCall, .empty)), .childExit,
    .daemonStep, .daemonStep, .daemonStep, .daemonStep, .parentRead, .parentCheck false]

/-- Under another name the same run ends with an error, and with the daemon in its event loop. -/
example : (run step (.init 7 (some "/data/local/tmp/atpd-dev".toList)) backgroundRun).map
    (fun s => (s.parent, s.daemon.any fun d => d.alive && d.log.contains .loop)) =
      some (.notRunning 42, true) := rfl

/-! ## Nobody waits for ever -/

/-- The steps that are left to each. -/
def Parent.left : Parent → Nat
  | .forked => 3
  | .reading => 2
  | .told _ => 1
  | _ => 0

/-- Those of the child, and of what it may fork. -/
def Child.left : Child → Nat
  | .born => 10
  | .detached => 9
  | .leader => 8
  | .parting => 1
  | .gone => 0

/-- Those of the daemon. -/
def Grandchild.left (d : Grandchild) : Nat := if d.alive then d.todo.length + 1 else 0

/-- And all together. -/
def Processes.left (s : Processes) : Nat := s.parent.left + s.child.left + s.daemon.elim 0 Grandchild.left

/-- The daemon has five steps at most. -/
lemma program_length (os : StartOs) (c : Custody) : (program os c).length ≤ 5 := by
  rcases (program_tells os c).cases with eq | eq | eq | eq <;> simp [eq]

/-- A child that fails has no steps left. -/
lemma childFail_left (s : Processes) :
    s.childFail.left = s.parent.left + s.daemon.elim 0 Grandchild.left := by
  rw [Processes.childFail, Processes.write]
  split <;> simp [Processes.left, Child.left]

/-- A step of the daemon is one less. -/
lemma daemonStep_left (found : s.daemon = some d) (alive : d.alive = true) :
    (daemonStep s d).left < s.left := by
  have before : s.left = s.parent.left + s.child.left + (d.todo.length + 1) := by
    simp [Processes.left, found, Grandchild.left, alive]
  rw [before, daemonStep]
  split
  · simp [Processes.left, Grandchild.left]
  · rename_i next
    rw [next]
    split
    · rename_i readers
      simp [Processes.left, Processes.write, readers, Grandchild.left, alive]
    · simp [Processes.left, Grandchild.left]
  · rename_i next
    rw [next]
    simp [Processes.left, Grandchild.left, alive]

/-- The parent has only to look for the daemon behind its `read`. -/
lemma parentRead_left (reading : s.parent = .reading) (read : parentRead s = some s') : s'.left < s.left := by
  have ends : ∀ {parent : Parent} {rest : List NotifyMsg}, parent.left ≤ 1 →
      ({ s with parent := parent, pipe := rest } : Processes).left < s.left := by
    intro parent rest final
    have before : s.parent.left = 2 := by
      rw [reading]
      rfl
    simp only [Processes.left, before]
    omega
  rw [parentRead] at read
  split at read
  · cases read
    refine ends ?_
    split
    · exact Nat.le_refl 1
    · exact Nat.zero_le 1
  · split at read
    · cases read
    · cases read
      exact ends (Nat.zero_le 1)

/-- Every step brings the end nearer. -/
lemma step_left (st : step s l = some s') : s'.left < s.left := by
  cases step_cases st with
  | parentClose forked => simp [Processes.left, forked, Parent.left]
  | parentRead reading read => exact parentRead_left reading read
  | @parentCheck pid other told =>
    have before : s.parent.left = 1 := by
      rw [told]
      rfl
    have final : (if 0 < pid && s.runs pid other then Parent.success pid else .notRunning pid).left = 0 := by
      split <;> rfl
    simp only [Processes.left, before, final]
    omega
  | childClose born => simp [Processes.left, born, Child.left]
  | session detached => simp [Processes.left, detached, Child.left]
  | noSession detached =>
    rw [childFail_left]
    simp [Processes.left, detached, Child.left]
  | @fork pid os c leader positive =>
    have short := program_length os c
    simp only [Processes.left, leader, Child.left, Grandchild.left, Option.elim_some, ↓reduceIte]
    omega
  | noFork leader =>
    rw [childFail_left]
    simp [Processes.left, leader, Child.left]
  | childExit parting => simp [Processes.left, parting, Child.left]
  | daemonStep found alive => exact daemonStep_left found alive
  | killParent waits =>
    cases parent : s.parent <;> simp [Parent.waits, parent] at waits <;>
      simp [Processes.left, parent, Parent.left]
  | killChild there => cases child : s.child <;> simp [Processes.left, child, Child.left] at there ⊢
  | killDaemon found alive => simp [Processes.left, found, Grandchild.left, alive]

/-- By induction on the run. -/
lemma run_left (rn : run step s ls = some s') : ls.length + s'.left ≤ s.left := by
  induction ls generalizing s with
  | nil =>
    cases rn
    simp
  | cons l ls ih =>
    obtain ⟨s1, st, rn⟩ := run_cons.mp rn
    have here := step_left st
    have later := ih rn
    rw [List.length_cons]
    omega

/-- While the process waits, it can go on, or somebody who holds the write end can: its child, or the daemon
before the event loop. -/
lemma Sound.progress (so : Sound s) (waits : s.parent.waits = true) :
    ∃ l, l.isKill = false ∧ (Launch.step s l).isSome ∧ (l = .daemonStep → ∀ d ∈ s.daemon, .loop ∉ d.log) := by
  cases parent : s.parent with
  | success | notRunning | failure | killed => simp [parent, Parent.waits] at waits
  | forked => exact ⟨.parentClose, rfl, by simp [Launch.step, parent], nofun⟩
  | told pid => exact ⟨.parentCheck true, rfl, by simp [Launch.step, parent], nofun⟩
  | reading =>
    -- `read` blocks exactly while the pipe is empty and somebody holds its write end
    by_cases blocked : s.pipe = [] ∧ s.writers = true
    · have writers := blocked.2
      simp only [Processes.writers, parent, reduceCtorEq, decide_false, Bool.false_or, Bool.or_eq_true,
        decide_eq_true_eq] at writers
      -- whoever holds it can go on
      rcases writers with there | holds
      · cases child : s.child with
        | born => exact ⟨.childClose, rfl, by simp [Launch.step, child], nofun⟩
        | detached => exact ⟨.childSession true, rfl, by simp [Launch.step, child], nofun⟩
        | leader => exact ⟨.childFork none, rfl, by simp [Launch.step, child], nofun⟩
        | parting => exact ⟨.childExit, rfl, by simp [Launch.step, child], nofun⟩
        | gone => exact absurd child there
      · obtain ⟨d, found, holds⟩ := (Option.any_eq_true _ _).mp holds
        rw [Grandchild.holds, Bool.and_eq_true] at holds
        obtain ⟨alive, silent⟩ := holds
        refine ⟨.daemonStep, rfl, by simp [Launch.step, found, alive], fun _ x hx loop => ?_⟩
        cases found.symm.trans hx
        -- in the loop it would have told, and closed the pipe
        have told : .notified true ∈ d.log := (so.program d found).1.told_of_loop loop
        have any : d.log.any Entry.isNotified = true := List.any_eq_true.mpr ⟨_, told, rfl⟩
        rw [any] at silent
        cases silent
    · refine ⟨.parentRead, rfl, ?_, nofun⟩
      rw [Launch.step, if_pos parent, Launch.parentRead]
      split
      · rfl
      · rename_i empty
        rw [if_neg fun writers => blocked ⟨empty, writers⟩]
        rfl

/-- The start in the background takes at most thirteen steps of the three processes, and it does not end
before the process that was called has its result, or was killed: as long as it waits somebody can go on, and
that is not the daemon in the event loop. -/
theorem launch_progress {childPid : Nat} {exe : Option Str} (rn : run step (.init childPid exe) ls = some s) :
    ls.length ≤ 13 ∧ (s.parent.waits = true →
      ∃ l, l.isKill = false ∧ (step s l).isSome ∧ (l = .daemonStep → ∀ d ∈ s.daemon, .loop ∉ d.log)) := by
  have so : Sound s := run_preserves (fun _ _ _ so st => so.step st) (Sound.init childPid exe) rn
  have bound : ls.length + s.left ≤ 13 := run_left rn
  exact ⟨by omega, so.progress⟩

/-- The process waits at the pipe, and the daemon can go on. -/
theorem launch_progress_backgroundRun :
    ∃ s, run step (.init 7 installed) (backgroundRun.take 5) = some s ∧ s.parent = .reading ∧
      ∃ l, l.isKill = false ∧ (step s l).isSome ∧ (l = .daemonStep → ∀ d ∈ s.daemon, .loop ∉ d.log) := by
  obtain ⟨s, rn⟩ : ∃ s, run step (.init 7 installed) (backgroundRun.take 5) = some s := ⟨_, rfl⟩
  have reading : (run step (.init 7 installed) (backgroundRun.take 5)).map Processes.parent = some .reading := rfl
  rw [rn, Option.map_some, Option.some.injEq] at reading
  exact ⟨s, rn, reading, (launch_progress rn).2 (by rw [reading]; rfl)⟩

end Atpd.Daemon.Launch
