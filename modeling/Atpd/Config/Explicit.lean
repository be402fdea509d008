import Atpd.Config.Accepted

/-!
# Explicit settings

What `atp.conf` says explicitly is meant to survive the loading. The pass over the paths after the loop is
to move only what was left at its default, but it looks at the values: a `PID_FILE` or `LOG_FILE` that is
given its default explicitly is moved too. `explicit_settings_iff` says when all settings survive.
-/

namespace Atpd.Config

open Atpd.Lib

variable {s : Setting} {canonical : String} {cfg : AtpConfig}

/-- The field of the key has the value of the text. -/
def Holds (cfg : AtpConfig) (spec : KeySpec) (v : Str) : Prop :=
  ∃ s, settingOf spec.canonicalName = some s ∧ Denotes s.kind v (Setting.get cfg s)

/-- The directory that `RUN_DIR` is in the end: what a line gives, else what it was. -/
def RunDirIs (texts : List Str) (cfg : AtpConfig) (dir : Str) : Prop :=
  Given texts "RUN_DIR" dir ∨ (∀ v, ¬Given texts "RUN_DIR" v) ∧ dir = cfg.core.runDir

/-- The pass over the paths writes no other setting. -/
lemma get_paths {pidFile logFile : Str} (notPid : s ≠ .pidFile) (notLog : s ≠ .logFile) :
    Setting.get { cfg with core := { cfg.core with pidFile := pidFile, logFile := logFile } } s =
      Setting.get cfg s := by
  cases s with
  | pidFile => exact absurd rfl notPid
  | logFile => exact absurd rfl notLog
  | _ => rfl

/-- A path is moved exactly if it is the default. -/
lemma moveDefault_eq {runDir path default name path' : Str}
    (moved : moveDefault runDir path default name = some path') :
    path' = if path = default then runDir ++ name else path := by
  rw [moveDefault] at moved
  split at moved
  · rename_i same
    rw [if_pos same]
    split at moved
    · exact (Option.some.inj moved).symm
    · cases moved
  · rename_i other
    rw [if_neg other]
    exact (Option.some.inj moved).symm

/-- One of the two paths keeps what it is given unless that is the default. -/
lemma moved_path_iff {texts : List Str} {dir base path name path' : Str} (away : dir ≠ base)
    (given : ∀ v, Given texts canonical v → Denotes (.str pathMax) v path)
    (moved : moveDefault dir path (base ++ name) name = some path') :
    (∀ v, Given texts canonical v → Denotes (.str pathMax) v path') ↔ ¬Given texts canonical (base ++ name) := by
  have put := moveDefault_eq moved
  constructor
  · intro holds there
    rw [if_pos (given _ there).str_eq] at put
    have same := (holds _ there).str_eq
    rw [put] at same
    exact away (List.append_cancel_right same)
  · intro other v there
    have kept : path ≠ base ++ name := by
      rw [(given v there).str_eq]
      rintro rfl
      exact other there
    rw [if_neg kept] at put
    rw [put]
    exact given v there

/-- Setting by setting. -/
lemma holds_iff {texts : List Str} : (∀ line ∈ texts, ∀ spec v, Sets line spec v → Holds cfg spec v) ↔
    ∀ (s : Setting) v, Given texts s.name v → Denotes s.kind v (Setting.get cfg s) := by
  constructor
  · rintro holds s v ⟨line, mem, spec, sets, named⟩
    obtain ⟨t, set, denotes⟩ := holds line mem spec v sets
    obtain rfl : t = s := Setting.name_inj ((settingOf_name set).trans named)
    exact denotes
  · intro holds line mem spec v sets
    obtain ⟨s, set, named, -⟩ := settingOf_spec sets.known
    exact ⟨s, set, holds s v ⟨line, mem, spec, sets, named.symm⟩⟩

/-- `run/atpd.pid` and `run/atp.log`. -/
lemma default_paths : "run/atpd.pid".toList = "run".toList ++ "/atpd.pid".toList ∧
    "run/atp.log".toList = "run".toList ++ "/atp.log".toList := by decide

/-- For every file that `config_load_file` accepts, from any configuration on: the keys that occur in it
have in the end the values that it gives them, exactly if `RUN_DIR` stays where it is by default, or
neither `PID_FILE` nor `LOG_FILE` is given its default explicitly. -/
theorem explicit_settings_iff (file : ConfFile) (cfg cfg1 : AtpConfig) (p : Presence)
    (ok : configLoadFileInternal file cfg = .ok (cfg1, p)) :
    (∀ line ∈ texts (fgetsAll 1024 [] file.text), ∀ spec v, Sets line spec v → Holds cfg1 spec v) ↔
    ∀ dir, RunDirIs (texts (fgetsAll 1024 [] file.text)) cfg dir → dir ≠ [] → dir ≠ "run".toList →
      ¬Given (texts (fgetsAll 1024 [] file.text)) "PID_FILE" "run/atpd.pid".toList ∧
      ¬Given (texts (fgetsAll 1024 [] file.text)) "LOG_FILE" "run/atp.log".toList := by
  obtain ⟨-, well, moved, -⟩ := configLoadFileInternal_ok_iff.mp ok
  generalize fgetsAll 1024 [] file.text = lines at well moved ⊢
  have given := fun s v => @WellFormed.overlay_given v lines s (Setting.get cfg) well
  have absent := fun s => @WellFormed.overlay_not_given lines s (Setting.get cfg) well
  rw [holds_iff]
  generalize held : ((Loading.start cfg).after (settingsOf lines)).cfg = cfg2 at moved
  have values : overlay (Setting.get cfg) (settingsOf lines) = Setting.get cfg2 := by
    rw [← held]
    exact (Setting.get_build _).symm
  rw [values] at given absent
  -- the directory in the end is the one that the file and the configuration before it determine
  have dirIs : ∀ dir, RunDirIs (texts lines) cfg dir ↔ dir = cfg2.core.runDir := by
    intro dir
    constructor
    · rintro (there | ⟨none, rfl⟩)
      · exact (given .runDir dir there).str_eq.symm
      · exact (absent .runDir none).symm
    · rintro rfl
      by_cases there : ∃ v, Given (texts lines) "RUN_DIR" v
      · obtain ⟨v, there⟩ := there
        rw [show cfg2.core.runDir = v from (given .runDir v there).str_eq]
        exact .inl there
      · exact .inr ⟨not_exists.mp there, absent .runDir (not_exists.mp there)⟩
  simp only [dirIs, forall_eq]
  rw [configApplyRunDirDefaults] at moved
  split at moved
  · rename_i stays
    cases moved
    refine iff_of_true given fun nonempty other => absurd stays ?_
    exact not_or.mpr ⟨nonempty, other⟩
  · rename_i moves
    obtain ⟨nonempty, away⟩ := not_or.mp moves
    simp only [Option.bind_eq_bind, Option.bind_eq_some_iff, Option.some.injEq] at moved
    obtain ⟨pidFile, pidMoved, logFile, logMoved, rfl⟩ := moved
    obtain ⟨pidDefault, logDefault⟩ := default_paths
    rw [pidDefault] at pidMoved
    rw [logDefault] at logMoved
    have pid := moved_path_iff away (given .pidFile) pidMoved
    have log := moved_path_iff away (given .logFile) logMoved
    rw [pidDefault, logDefault]
    simp only [nonempty, away, ne_eq, not_false_eq_true, forall_const]
    constructor
    · intro holds
      exact ⟨pid.mp (holds .pidFile), log.mp (holds .logFile)⟩
    · rintro ⟨otherPid, otherLog⟩ s v there
      by_cases isPid : s = .pidFile
      · subst isPid
        exact pid.mpr otherPid v there
      · by_cases isLog : s = .logFile
        · subst isLog
          exact log.mpr otherLog v there
        · rw [get_paths isPid isLog]
          exact given s v there

/-- A file that moves `RUN_DIR` and says that the PID file stays. -/
def stayingPidFile : ConfFile := ⟨true, "RUN_DIR=/x\nPID_FILE=run/atpd.pid\n".toList, true, true⟩

/-- The PID file is moved all the same. -/
theorem staying_pidFile_moved : ∃ cfg1 p,
    configLoadFileInternal stayingPidFile (configSetDefaults "/data".toList false) = .ok (cfg1, p) ∧
    "PID_FILE=run/atpd.pid\n".toList ∈ texts (fgetsAll 1024 [] stayingPidFile.text) ∧
    Sets "PID_FILE=run/atpd.pid\n".toList ⟨"PID_FILE", .string, "PID_FILE", false⟩ "run/atpd.pid".toList ∧
    cfg1.core.pidFile = "/x/atpd.pid".toList := by
  have sets : Sets "PID_FILE=run/atpd.pid\n".toList ⟨"PID_FILE", .string, "PID_FILE", false⟩
      "run/atpd.pid".toList :=
    ⟨by decide, "PID_FILE".toList, "run/atpd.pid".toList, by decide, by decide, by decide,
      unquote_iff.mp (by decide)⟩
  exact ⟨_, _, rfl, by decide, sets, by decide⟩

/-- A file that moves `RUN_DIR` and gives another PID file. -/
def ownPidFile : ConfFile := ⟨true, "RUN_DIR=/x\nPID_FILE=/y/p\n".toList, true, true⟩

/-- A PID file of one's own stays where it is. -/
theorem explicit_settings_iff_own : ∃ cfg1 p,
    configLoadFileInternal ownPidFile (configSetDefaults "/data".toList false) = .ok (cfg1, p) ∧
    Holds cfg1 ⟨"PID_FILE", .string, "PID_FILE", false⟩ "/y/p".toList := by
  have lines : texts (fgetsAll 1024 [] ownPidFile.text) =
      ["RUN_DIR=/x\n".toList, "PID_FILE=/y/p\n".toList] := by decide
  have runDir : Sets "RUN_DIR=/x\n".toList ⟨"RUN_DIR", .string, "RUN_DIR", false⟩ "/x".toList :=
    ⟨by decide, "RUN_DIR".toList, "/x".toList, by decide, by decide, by decide, unquote_iff.mp (by decide)⟩
  have pidFile : Sets "PID_FILE=/y/p\n".toList ⟨"PID_FILE", .string, "PID_FILE", false⟩ "/y/p".toList :=
    ⟨by decide, "PID_FILE".toList, "/y/p".toList, by decide, by decide, by decide, unquote_iff.mp (by decide)⟩
  refine ⟨_, _, rfl, ?_⟩
  refine (explicit_settings_iff ownPidFile (configSetDefaults "/data".toList false) _ _ rfl).mpr ?_
    "PID_FILE=/y/p\n".toList (by rw [lines]; decide) _ _ pidFile
  rw [lines]
  intro dir _ _ _
  constructor
  · rintro ⟨line, mem, spec, sets, named⟩
    rcases List.mem_pair.mp mem with rfl | rfl
    · obtain ⟨rfl, -⟩ := runDir.unique sets
      exact absurd named (by decide)
    · exact absurd (pidFile.unique sets).2 (by decide)
  · rintro ⟨line, mem, spec, sets, named⟩
    rcases List.mem_pair.mp mem with rfl | rfl
    · obtain ⟨rfl, -⟩ := runDir.unique sets
      exact absurd named (by decide)
    · obtain ⟨rfl, -⟩ := pidFile.unique sets
      exact absurd named (by decide)

end Atpd.Config
