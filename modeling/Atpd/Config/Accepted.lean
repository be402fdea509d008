import Atpd.Config.Grammar

/-!
# Accepted files

The files that `config_load_file` is meant to accept: every line follows the grammar of a line, no setting
is given twice, and the paths that follow `RUN_DIR` fit. `accepted_iff_grammar` says that it accepts these
files and no others.
-/

namespace Atpd.Config

open Atpd.Lib

variable {v w line buf : Str} {atEof : Bool} {spec spec' : KeySpec}

/-! ## Files -/

/-- Among the lines there is one that gives `v` to the key, or an alias of it. -/
def Given (lines : List Str) (canonical : String) (v : Str) : Prop :=
  ∃ line ∈ lines, ∃ spec, Sets line spec v ∧ spec.canonicalName = canonical

/-- The path that follows `RUN_DIR` fits, where the file does not give another one. -/
def PathFits (lines : List Str) (dir : Str) (canonical : String) (default name : Str) : Prop :=
  (∀ v, Given lines canonical v → v = default) → (dir ++ name).length < pathMax

/-- The files that are meant to be accepted. -/
structure Grammar (lines : List Str) : Prop where
  form : ∀ line ∈ lines, Blank line ∨ ∃ spec v, Sets line spec v ∧ spec.Takes v
  distinct : lines.Pairwise fun line line' => ∀ spec v spec' v', Sets line spec v → Sets line' spec' v' →
    spec.canonicalName ≠ spec'.canonicalName
  paths : ∀ dir, Given lines "RUN_DIR" dir → dir ≠ "run".toList →
    PathFits lines dir "PID_FILE" "run/atpd.pid".toList "/atpd.pid".toList ∧
    PathFits lines dir "LOG_FILE" "run/atp.log".toList "/atp.log".toList

variable {lines : List (Str × Bool)} {s : Setting} {x : s.Value} {canonical : String}

/-- The lines that `fgets` has read, as C strings. -/
def texts (lines : List (Str × Bool)) : List Str := lines.map fun line => cString line.1

/-- A text is one of a line that was read. -/
lemma mem_texts : line ∈ texts lines ↔ ∃ read ∈ lines, cString read.1 = line := List.mem_map

/-- A line has one key and one value. -/
lemma Sets.unique (sets : Sets line spec v) (sets' : Sets line spec' w) : spec = spec' ∧ v = w := by
  obtain ⟨left, right, whole, free, named, unquotes⟩ := sets.form
  obtain ⟨left', right', whole', free', named', unquotes'⟩ := sets'.form
  obtain ⟨taken, dropped⟩ := split_at_iff.mp ⟨whole, free⟩
  obtain ⟨taken', dropped'⟩ := split_at_iff.mp ⟨whole', free'⟩
  obtain rfl := taken.symm.trans taken'
  cases dropped.symm.trans dropped'
  have found := configSchemaFind_iff.mpr ⟨sets.known, named⟩
  have found' := configSchemaFind_iff.mpr ⟨sets'.known, named'⟩
  cases found.symm.trans found'
  cases (unquote_iff.mpr unquotes).symm.trans (unquote_iff.mpr unquotes')
  exact ⟨rfl, rfl⟩

/-- A line that is cut off is not accepted. -/
lemma Whole.of_valid (valid : (entryOf (buf, atEof)).isSome) : Whole buf atEof := by
  by_contra cut
  obtain ⟨none, more⟩ := not_or.mp cut
  have long : readLine buf atEof = .error ([], .lineTooLong) := by
    rw [readLine]
    exact if_pos ⟨none, by simpa using more⟩
  rw [entryOf, long] at valid
  cases valid

/-- A line that is accepted sets what it gives. -/
lemma Sets.entry (sets : Sets (cString buf) spec v) (valid : (entryOf (buf, atEof)).isSome) :
    ∃ (s : Setting) (x : s.Value), entryOf (buf, atEof) = some (some ⟨s, x⟩) ∧
      s.name = spec.canonicalName ∧ Denotes s.kind v x := by
  have whole := Whole.of_valid valid
  obtain ⟨s, set, named, same⟩ := settingOf_spec sets.known
  have accepted := (entryOf_isSome_iff whole).mp valid
  obtain ⟨spec', v', sets', nonempty, takes⟩ := accepted.resolve_left sets.not_blank
  obtain ⟨rfl, rfl⟩ := sets.unique sets'
  rw [← same] at takes
  obtain ⟨x, denotes⟩ := takes
  exact ⟨s, x, (entryOf_sets_iff whole).mpr ⟨spec, v, sets, set, nonempty, denotes⟩, named, denotes⟩

/-- A setting of the file. -/
lemma mem_settingsOf_iff (whole : ∀ line ∈ lines, Whole line.1 line.2) :
    ⟨s, x⟩ ∈ settingsOf lines ↔ ∃ line ∈ texts lines, ∃ spec v, Sets line spec v ∧
      settingOf spec.canonicalName = some s ∧ (v = [] → spec.allowEmpty = true) ∧ Denotes s.kind v x := by
  rw [settingsOf, List.mem_filterMap]
  constructor
  · rintro ⟨line, mem, sets⟩
    exact ⟨_, mem_texts.mpr ⟨line, mem, rfl⟩,
      (entryOf_sets_iff (whole line mem)).mp (Option.join_eq_some_iff.mp sets)⟩
  · rintro ⟨line, mem, sets⟩
    obtain ⟨read, memRead, rfl⟩ := mem_texts.mp mem
    exact ⟨read, memRead, Option.join_eq_some_iff.mpr ((entryOf_sets_iff (whole read memRead)).mpr sets)⟩

/-- The lines are read whole. -/
lemma WellFormed.whole (well : WellFormed lines) : ∀ line ∈ lines, Whole line.1 line.2 :=
  fun line mem => .of_valid (well.valid line mem)

/-- What a line gives is set to the value of the text. -/
lemma WellFormed.mem_of_given (well : WellFormed lines) (given : Given (texts lines) s.name v) :
    ∃ x, ⟨s, x⟩ ∈ settingsOf lines ∧ Denotes s.kind v x := by
  obtain ⟨line, mem, spec, sets, named⟩ := given
  obtain ⟨read, memRead, rfl⟩ := mem_texts.mp mem
  obtain ⟨s', x, entry, named', denotes⟩ := sets.entry (well.valid read memRead)
  obtain rfl : s' = s := Setting.name_inj (named'.trans named)
  exact ⟨x, List.mem_filterMap.mpr ⟨read, memRead, Option.join_eq_some_iff.mpr entry⟩, denotes⟩

/-- What is set was given by a line. -/
lemma WellFormed.given_of_mem (well : WellFormed lines) (mem : ⟨s, x⟩ ∈ settingsOf lines) :
    ∃ v, Given (texts lines) s.name v ∧ Denotes s.kind v x := by
  obtain ⟨line, mem, spec, v, sets, set, -, denotes⟩ := (mem_settingsOf_iff well.whole).mp mem
  exact ⟨v, ⟨line, mem, spec, sets, (settingOf_name set).symm⟩, denotes⟩

/-- The lines are well formed if each has the form and no two set the same. -/
lemma wellFormed_iff (whole : ∀ line ∈ lines, Whole line.1 line.2) : WellFormed lines ↔
    (∀ line ∈ texts lines, Blank line ∨ ∃ spec v, Sets line spec v ∧ spec.Takes v) ∧
    (texts lines).Pairwise fun line line' => ∀ spec v spec' v', Sets line spec v → Sets line' spec' v' →
      spec.canonicalName ≠ spec'.canonicalName := by
  have form : (∀ line ∈ lines, (entryOf line).isSome) ↔
      ∀ line ∈ texts lines, Blank line ∨ ∃ spec v, Sets line spec v ∧ spec.Takes v := by
    rw [texts, List.forall_mem_map]
    exact forall₂_congr fun line mem => entryOf_isSome_iff (whole line mem)
  have pairs : (∀ line ∈ lines, (entryOf line).isSome) → ((settingsOf lines).NodupKeys ↔
      (texts lines).Pairwise fun line line' => ∀ spec v spec' v', Sets line spec v → Sets line' spec' v' →
        spec.canonicalName ≠ spec'.canonicalName) := by
    intro valid
    rw [List.nodupKeys_iff_pairwise, settingsOf, List.pairwise_filterMap, texts, List.pairwise_map]
    apply List.Pairwise.iff_of_mem
    intro line line' mem mem'
    constructor
    · intro distinct spec v spec' v' sets sets' same
      obtain ⟨s, x, entry, named, -⟩ := sets.entry (valid line mem)
      obtain ⟨s', x', entry', named', -⟩ := sets'.entry (valid line' mem')
      refine distinct ⟨s, x⟩ (by rw [entry]; rfl) ⟨s', x'⟩ (by rw [entry']; rfl) ?_
      exact Setting.name_inj (named.trans (same.trans named'.symm))
    · rintro distinct ⟨s, x⟩ entry ⟨s', x'⟩ entry' rfl
      obtain ⟨spec, v, sets, set, -⟩ :=
        (entryOf_sets_iff (whole line mem)).mp (Option.join_eq_some_iff.mp entry)
      obtain ⟨spec', v', sets', set', -⟩ :=
        (entryOf_sets_iff (whole line' mem')).mp (Option.join_eq_some_iff.mp entry')
      exact distinct spec v spec' v' sets sets' ((settingOf_name set).symm.trans (settingOf_name set'))
  constructor
  · rintro ⟨valid, nodup⟩
    exact ⟨form.mp valid, (pairs valid).mp nodup⟩
  · rintro ⟨accepted, distinct⟩
    exact ⟨form.mpr accepted, (pairs (form.mpr accepted)).mpr distinct⟩

/-! ## The values in the end -/

variable {f : ∀ s : Setting, s.Value} {cfg cfg1 : AtpConfig}

/-- A setting that is given has the value of its text. -/
lemma WellFormed.overlay_given (well : WellFormed lines) (given : Given (texts lines) s.name v) :
    Denotes s.kind v (overlay f (settingsOf lines) s) := by
  obtain ⟨x, mem, denotes⟩ := well.mem_of_given given
  rw [overlay_of_mem well.nodup mem]
  exact denotes

/-- What was not given is not set. -/
lemma WellFormed.overlay_not_given (well : WellFormed lines)
    (none : ∀ v, ¬Given (texts lines) s.name v) : overlay f (settingsOf lines) s = f s := by
  apply overlay_of_notMem
  intro key
  obtain ⟨⟨t, x⟩, mem, rfl⟩ := List.mem_map.mp key
  obtain ⟨v, given, -⟩ := well.given_of_mem mem
  exact none v given

/-- A string denotes itself. -/
lemma Denotes.str_eq {size : Nat} {x : Str} (denotes : Denotes (.str size) v x) : x = v := by
  cases denotes
  rfl

/-- A path is at its default if it is given no other value. -/
lemma eq_default_iff {texts : List Str} {size : Nat} {path default : Str}
    (given : ∀ v, Given texts canonical v → Denotes (.str size) v path)
    (absent : (∀ v, ¬Given texts canonical v) → path = default) :
    path = default ↔ ∀ v, Given texts canonical v → v = default := by
  constructor
  · rintro rfl v there
    exact (given v there).str_eq.symm
  · intro only
    by_cases there : ∃ v, Given texts canonical v
    · obtain ⟨v, there⟩ := there
      rw [(given v there).str_eq]
      exact only v there
    · exact absent (not_exists.mp there)

/-- Only an untouched default has to fit behind RUN_DIR. -/
lemma moveDefault_isSome_iff {runDir path default name : Str} :
    (moveDefault runDir path default name).isSome ↔ (path = default → (runDir ++ name).length < pathMax) := by
  rw [moveDefault]
  split
  · rename_i same
    split <;> simp_all
  · rename_i other
    simp [other]

/-- Both have to work. -/
lemma isSome_both {α β γ : Type} {a : Option α} {b : Option β} {f : α → β → γ} :
    (a.bind fun x => b.bind fun y => some (f x y)).isSome ↔ a.isSome ∧ b.isSome := by
  cases a <;> cases b <;> simp

/-- The pass over the paths succeeds. -/
lemma runDirDefaults_isSome_iff : (configApplyRunDirDefaults cfg).isSome ↔
    cfg.core.runDir = [] ∨ cfg.core.runDir = "run".toList ∨
      (cfg.core.pidFile = "run/atpd.pid".toList → (cfg.core.runDir ++ "/atpd.pid".toList).length < pathMax) ∧
      (cfg.core.logFile = "run/atp.log".toList → (cfg.core.runDir ++ "/atp.log".toList).length < pathMax) := by
  rw [configApplyRunDirDefaults, ← moveDefault_isSome_iff, ← moveDefault_isSome_iff]
  split
  · rename_i stays
    simp only [Option.isSome_some, true_iff]
    exact stays.elim .inl fun same => .inr (.inl same)
  · rename_i moves
    obtain ⟨nonempty, other⟩ := not_or.mp moves
    simp only [nonempty, other, false_or, Option.bind_eq_bind]
    exact isSome_both

/-- From the defaults on, the pass succeeds if the paths that follow `RUN_DIR` fit. -/
lemma WellFormed.paths_iff {appDir : Str} {netAdmin : Bool} (well : WellFormed lines) :
    (configApplyRunDirDefaults
      ((Loading.start (configSetDefaults appDir netAdmin)).after (settingsOf lines)).cfg).isSome ↔
    ∀ dir, Given (texts lines) "RUN_DIR" dir → dir ≠ "run".toList →
      PathFits (texts lines) dir "PID_FILE" "run/atpd.pid".toList "/atpd.pid".toList ∧
      PathFits (texts lines) dir "LOG_FILE" "run/atp.log".toList "/atp.log".toList := by
  have given := fun s v => @WellFormed.overlay_given v lines s
    (Setting.get (configSetDefaults appDir netAdmin)) well
  have absent := fun s => @WellFormed.overlay_not_given lines s
    (Setting.get (configSetDefaults appDir netAdmin)) well
  generalize held : overlay (Setting.get (configSetDefaults appDir netAdmin)) (settingsOf lines) = values
    at given absent
  -- a path moves under `RUN_DIR` exactly while it has its default value
  have pid : values .pidFile = "run/atpd.pid".toList ↔
      ∀ v, Given (texts lines) "PID_FILE" v → v = "run/atpd.pid".toList :=
    eq_default_iff (given .pidFile) (absent .pidFile)
  have log : values .logFile = "run/atp.log".toList ↔
      ∀ v, Given (texts lines) "LOG_FILE" v → v = "run/atp.log".toList :=
    eq_default_iff (given .logFile) (absent .logFile)
  rw [runDirDefaults_isSome_iff, Loading.after, Loading.start, held]
  show values .runDir = [] ∨ values .runDir = _ ∨
    (values .pidFile = _ → (values .runDir ++ _).length < _) ∧
    (values .logFile = _ → (values .runDir ++ _).length < _) ↔ _
  rw [pid, log]
  by_cases there : ∃ dir, Given (texts lines) "RUN_DIR" dir
  · obtain ⟨dir, there⟩ := there
    -- `RUN_DIR` is given once
    have own : ∀ dir', Given (texts lines) "RUN_DIR" dir' → dir' = dir := by
      intro dir' there'
      exact (given .runDir _ there').str_eq.symm.trans (given .runDir _ there).str_eq
    rw [show values .runDir = dir from (given .runDir _ there).str_eq]
    constructor
    · rintro fits dir' there' other
      obtain rfl := own dir' there'
      rcases fits with rfl | same | fits
      · exact ⟨fun _ => by decide, fun _ => by decide⟩
      · exact absurd same other
      · exact fits
    · intro fits
      by_cases same : dir = "run".toList
      · exact .inr (.inl same)
      · exact .inr (.inr (fits dir there same))
  · have none := not_exists.mp there
    rw [show values .runDir = "run".toList from absent .runDir none]
    exact iff_of_true (.inr (.inl rfl)) fun dir there => absurd there (none dir)

/-! ## Acceptance -/

/-- The line end is trimmed. -/
lemma trim_newline (line : Str) : trim (line ++ ['\n']) = trim line := by
  rw [trim, trim, List.dropWhile_append]
  split
  · rename_i empty
    rw [List.isEmpty_iff.mp empty]
    rfl
  · rw [List.reverse_append, List.reverse_singleton, List.singleton_append, List.dropWhile_cons_of_pos rfl]

/-- With or without a newline, a line says the same. -/
lemma entryOf_newline (text : '\x00' ∉ line) : entryOf (line ++ ['\n'], false) = entryOf (line, true) := by
  have text' : '\x00' ∉ line ++ ['\n'] := by
    rw [List.mem_append, not_or]
    exact ⟨text, by decide⟩
  have same : readLine (line ++ ['\n']) false = readLine line true := by
    rw [readLine, readLine, cString_eq text, cString_eq text', trim_newline]
    simp
  rw [entryOf, entryOf, same]

/-- Only what the lines say counts. -/
lemma wellFormed_congr {lines' : List (Str × Bool)} (same : lines.map entryOf = lines'.map entryOf) :
    (WellFormed lines ↔ WellFormed lines') ∧ settingsOf lines = settingsOf lines' := by
  have read : ∀ lines, settingsOf lines = (lines.map entryOf).filterMap Option.join := by
    intro lines
    rw [List.filterMap_map]
    rfl
  have valid : ∀ lines : List (Str × Bool), (∀ line ∈ lines, (entryOf line).isSome) ↔
      ∀ entry ∈ lines.map entryOf, entry.isSome := by
    intro lines
    rw [List.forall_mem_map]
  have settings : settingsOf lines = settingsOf lines' := by rw [read, read, same]
  refine ⟨⟨fun well => ⟨?_, settings ▸ well.nodup⟩, fun well => ⟨?_, settings.symm ▸ well.nodup⟩⟩, settings⟩
  · rw [valid, ← same, ← valid]
    exact well.valid
  · rw [valid, same, ← valid]
    exact well.valid

/-- A blank line at the end makes no difference. -/
lemma wellFormed_append_blank {last : Str × Bool} (blank : entryOf last = some none) :
    (WellFormed (lines ++ [last]) ↔ WellFormed lines) ∧ settingsOf (lines ++ [last]) = settingsOf lines := by
  have settings : settingsOf (lines ++ [last]) = settingsOf lines := by
    rw [settingsOf, List.filterMap_append, ← settingsOf, ← settingsOf]
    rw [settingsOf_cons_none (by rw [blank]; rfl)]
    exact List.append_nil _
  refine ⟨⟨fun well => ⟨fun line mem => ?_, settings ▸ well.nodup⟩, fun well => ⟨fun line mem => ?_, ?_⟩⟩,
    settings⟩
  · exact well.valid line (List.mem_append_left _ mem)
  · rcases List.mem_append.mp mem with mem | mem
    · exact well.valid line mem
    · rw [List.mem_singleton.mp mem, blank]
      rfl
  · rw [settings]
    exact well.nodup

/-- `fgets` at the end of a file. -/
lemma fgetsAll_last (oneLine : '\n' ∉ line) (short : line.length < 1023) :
    fgetsAll 1024 [] line = if line = [] then [] else [(line, true)] := by
  have gathered := @fgetsAll_gather 1024 line [] [] oneLine (by rw [List.length_nil]; omega)
  rw [List.append_nil, List.append_nil] at gathered
  rw [gathered, fgetsAll]
  simp

/-- The lines of a file, the last one without a newline, as if they were read one by one. -/
lemma wellFormed_fgetsAll {lines : List Str} {last : Str}
    (short : ∀ line ∈ lines ++ [last], '\n' ∉ line ∧ '\x00' ∉ line ∧ line.length < 1023) :
    (WellFormed (fgetsAll 1024 [] (unlines lines ++ last)) ↔
      WellFormed ((lines ++ [last]).map (·, true))) ∧
    settingsOf (fgetsAll 1024 [] (unlines lines ++ last)) = settingsOf ((lines ++ [last]).map (·, true)) := by
  obtain ⟨oneLine, text, bound⟩ := short last (List.mem_append_right _ (List.mem_singleton_self _))
  have bodies : ∀ line ∈ lines, '\n' ∉ line ∧ line.length < 1023 := by
    intro line mem
    obtain ⟨oneLine, -, bound⟩ := short line (List.mem_append_left _ mem)
    exact ⟨oneLine, bound⟩
  have same : ∀ tail : List (Str × Bool),
      (lines.map (fun line => (line ++ ['\n'], false)) ++ tail).map entryOf =
        (lines.map (·, true) ++ tail).map entryOf := by
    intro tail
    rw [List.map_append, List.map_append, List.map_map, List.map_map]
    congr 1
    apply List.map_congr_left
    intro line mem
    exact entryOf_newline (short line (List.mem_append_left _ mem)).2.1
  rw [fgetsAll_unlines bodies, fgetsAll_last oneLine bound, List.map_append]
  by_cases empty : last = []
  · subst empty
    obtain ⟨well, settings⟩ := @wellFormed_append_blank (lines.map (·, true)) ([], true) rfl
    obtain ⟨well', settings'⟩ := wellFormed_congr (same [])
    rw [List.append_nil, List.append_nil] at well' settings'
    simp only [List.append_nil, if_true, List.map_cons, List.map_nil]
    rw [well, settings, well', settings']
    exact ⟨.rfl, rfl⟩
  · rw [if_neg (by simpa using empty)]
    exact wellFormed_congr (same [(last, true)])

/-- A key of the schema takes the values that `parse_key_value` accepts. -/
lemma parseKeyValue_isSome_iff (known : spec ∈ configSchema) :
    (parseKeyValue spec spec.name.toList v cfg).isSome ↔ spec.Takes v := by
  obtain ⟨s, set, -, parsed⟩ := parseKeyValue_eq (configSchemaFind_iff.mpr ⟨known, rfl⟩)
  obtain ⟨s', set', -, same⟩ := settingOf_spec known
  cases set.symm.trans set'
  have denotes : (s.kind.convert v).isSome ↔ ∃ x, Denotes s.kind v x := by
    rw [Option.isSome_iff_exists]
    exact exists_congr fun x => convert_iff
  rw [parsed, KeySpec.Takes, ← same, ← denotes]
  cases v with
  | nil => cases spec.allowEmpty <;> simp
  | cons c v => simp

/-- For every file of lines without NUL and shorter than 1023 bytes: `config_load_file`, from the defaults
on, accepts it exactly if it can be read and its lines follow the grammar. And every key of the schema is
handled by `parse_key_value` under its type. -/
theorem accepted_iff_grammar (appDir : Str) (netAdmin opens readOk closeOk : Bool) (lines : List Str)
    (last : Str)
    (short : ∀ line ∈ lines ++ [last], '\n' ∉ line ∧ '\x00' ∉ line ∧ line.length < 1023) :
    ((∃ r, configLoadFileInternal ⟨opens, unlines lines ++ last, readOk, closeOk⟩
        (configSetDefaults appDir netAdmin) = .ok r) ↔
      (opens = true ∧ readOk = true ∧ closeOk = true) ∧ Grammar (lines ++ [last])) ∧
    ∀ spec ∈ configSchema, ∀ v cfg,
      (parseKeyValue spec spec.name.toList v cfg).isSome ↔ spec.Takes v := by
  refine ⟨?_, fun spec known v cfg => parseKeyValue_isSome_iff known⟩
  obtain ⟨well, settings⟩ := wellFormed_fgetsAll short
  -- lines that are short enough are never cut by `fgets`
  have whole : ∀ line ∈ (lines ++ [last]).map (·, true), Whole line.1 line.2 := by
    rw [List.forall_mem_map]
    exact fun line _ => .inr rfl
  -- and without NUL a line is the whole C string
  have read : texts ((lines ++ [last]).map (·, true)) = lines ++ [last] := by
    rw [texts, List.map_map]
    refine (List.map_congr_left fun line mem => ?_).trans (List.map_id _)
    exact cString_eq (short line mem).2.1
  have accepts : (∃ r, configLoadFileInternal ⟨opens, unlines lines ++ last, readOk, closeOk⟩
      (configSetDefaults appDir netAdmin) = .ok r) ↔ (opens = true ∧ readOk = true ∧ closeOk = true) ∧
        WellFormed ((lines ++ [last]).map (·, true)) ∧
        (configApplyRunDirDefaults ((Loading.start (configSetDefaults appDir netAdmin)).after
          (settingsOf ((lines ++ [last]).map (·, true)))).cfg).isSome := by
    rw [Option.isSome_iff_exists, ← well, ← settings]
    constructor
    · rintro ⟨⟨cfg, p⟩, ok⟩
      obtain ⟨works, well, moved, -⟩ := configLoadFileInternal_ok_iff.mp ok
      exact ⟨works, well, cfg, moved⟩
    · rintro ⟨works, well, cfg, moved⟩
      exact ⟨(cfg, _), configLoadFileInternal_ok_iff.mpr ⟨works, well, moved, rfl⟩⟩
  -- what is left is line by line, and about the paths
  rw [accepts]
  refine and_congr_right fun _ => ?_
  constructor
  · rintro ⟨well, moved⟩
    obtain ⟨form, distinct⟩ := (wellFormed_iff whole).mp well
    have paths := well.paths_iff.mp moved
    rw [read] at form distinct paths
    exact ⟨form, distinct, paths⟩
  · rintro ⟨form, distinct, paths⟩
    rw [← read] at form distinct paths
    have well := (wellFormed_iff whole).mpr ⟨form, distinct⟩
    exact ⟨well, well.paths_iff.mpr paths⟩

/-- Comments, an alias, quotes, a signed number, a user with a group, and no newline at the end. -/
def sampleLines : List Str :=
  ["# sample".toList, "".toList, " CLASH_SECRET = \"a b\" ".toList, "API_PORT=+9091".toList,
    "CORE_USER_GROUP=root:net_admin".toList]

/-- A sample file is of the grammar. -/
theorem accepted_iff_grammar_sample : Grammar (sampleLines ++ ["VPN_AUTO_MODE=0".toList]) :=
  ((accepted_iff_grammar "/data".toList false true true true sampleLines "VPN_AUTO_MODE=0".toList
    (by decide)).1.mp ⟨_, rfl⟩).2

end Atpd.Config
