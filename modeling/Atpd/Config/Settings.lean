import Atpd.Lib.Overlay
import Atpd.Config.Precedence

/-!
# Settings

What `atp.conf` can set: a setting is a canonical name of the schema, and a configuration is a value for
each setting. `parse_key_value` is read as the assignment of one setting, and the loop of
`config_load_file_internal` as the assignments of a list of settings over what was there before.

So the order of the lines does not matter, and a setting has in the end what its line gives it. The pass
over the paths after the loop is the exception: it goes by the values of `PID_FILE` and `LOG_FILE`, not
by whether they were set.
-/

namespace Atpd.Config

open Atpd.Lib

/-! ## Settings -/

/-- What a key takes; a string has to fit into a buffer. -/
inductive Kind where
  | int
  | bool
  | str (size : Nat)
  | userGroup
deriving DecidableEq, Repr

/-- The values of a kind. -/
@[reducible] def Kind.Value : Kind → Type
  | .int => Int
  | .bool => Bool
  | .str _ => Str
  | .userGroup => Str × Str

/-- `USER:GROUP` in two. -/
def splitUserGroup (v : Str) : Option (Str × Str) :=
  let user := v.takeWhile (· != ':')
  match v.dropWhile (· != ':') with
  | [] => none
  | _ :: group =>
    if user ≠ [] ∧ group ≠ [] ∧ ':' ∉ group ∧ user.length < 64 ∧ group.length < 64 then some (user, group)
    else none

/-- The value of a text. -/
def Kind.convert : (κ : Kind) → Str → Option κ.Value
  | .int => configParseInt
  | .bool => configParseBool
  | .str size => configCopyString size
  | .userGroup => splitUserGroup

/-- The canonical names of the schema. -/
inductive Setting where
  | dataDir
  | runDir
  | pidFile
  | logFile
  | logTimestamp
  | restartDelay
  | apiSecret
  | apiPort
  | apiHost
  | uiEmojiEnabled
  | coreUserGroup
  | serviceStartTimeout
  | serviceStopTimeout
  | serviceGracePeriod
  | serviceMaxFailures
  | serviceCircuitThreshold
  | serviceCircuitCooldown
  | serviceHealthCheckInterval
  | serviceArgs
  | serviceEnv
  | vpnAutoMode
  | vpnTargetMode
  | vpnFallbackMode
deriving DecidableEq, Repr

namespace Setting

/-- The canonical name. -/
def name : Setting → String
  | dataDir => "DATA_DIR"
  | runDir => "RUN_DIR"
  | pidFile => "PID_FILE"
  | logFile => "LOG_FILE"
  | logTimestamp => "LOG_TIMESTAMP"
  | restartDelay => "RESTART_DELAY"
  | apiSecret => "API_SECRET"
  | apiPort => "API_PORT"
  | apiHost => "API_HOST"
  | uiEmojiEnabled => "UI_EMOJI_ENABLED"
  | coreUserGroup => "CORE_USER_GROUP"
  | serviceStartTimeout => "SERVICE_START_TIMEOUT"
  | serviceStopTimeout => "SERVICE_STOP_TIMEOUT"
  | serviceGracePeriod => "SERVICE_GRACE_PERIOD"
  | serviceMaxFailures => "SERVICE_MAX_FAILURES"
  | serviceCircuitThreshold => "SERVICE_CIRCUIT_THRESHOLD"
  | serviceCircuitCooldown => "SERVICE_CIRCUIT_COOLDOWN"
  | serviceHealthCheckInterval => "SERVICE_HEALTH_CHECK_INTERVAL"
  | serviceArgs => "SERVICE_ARGS"
  | serviceEnv => "SERVICE_ENV"
  | vpnAutoMode => "VPN_AUTO_MODE"
  | vpnTargetMode => "VPN_TARGET_MODE"
  | vpnFallbackMode => "VPN_FALLBACK_MODE"

/-- The kind of a setting, with the size of its field. -/
@[reducible] def kind : Setting → Kind
  | dataDir | runDir | pidFile | logFile => .str pathMax
  | apiSecret => .str 128
  | apiHost | vpnTargetMode | vpnFallbackMode => .str 64
  | serviceArgs | serviceEnv => .str 256
  | logTimestamp | uiEmojiEnabled | vpnAutoMode => .bool
  | coreUserGroup => .userGroup
  | restartDelay | apiPort | serviceStartTimeout | serviceStopTimeout | serviceGracePeriod
  | serviceMaxFailures | serviceCircuitThreshold | serviceCircuitCooldown | serviceHealthCheckInterval => .int

/-- The values of a setting. -/
abbrev Value (s : Setting) : Type := s.kind.Value

/-- The value of a setting in a configuration. -/
def get (cfg : AtpConfig) : (s : Setting) → s.Value
  | dataDir => cfg.core.dataDir
  | runDir => cfg.core.runDir
  | pidFile => cfg.core.pidFile
  | logFile => cfg.core.logFile
  | logTimestamp => cfg.core.logTimestamp
  | restartDelay => cfg.service.restartDelaySec
  | apiSecret => cfg.api.secret
  | apiPort => cfg.api.port
  | apiHost => cfg.api.host
  | uiEmojiEnabled => cfg.core.uiEmojiEnabled
  | coreUserGroup => (cfg.core.coreUser, cfg.core.coreGroup)
  | serviceStartTimeout => cfg.service.startTimeoutSec
  | serviceStopTimeout => cfg.service.stopTimeoutSec
  | serviceGracePeriod => cfg.service.gracePeriodSec
  | serviceMaxFailures => cfg.service.maxFailures
  | serviceCircuitThreshold => cfg.service.circuitThreshold
  | serviceCircuitCooldown => cfg.service.circuitCooldownSec
  | serviceHealthCheckInterval => cfg.service.healthCheckIntervalMs
  | serviceArgs => cfg.service.args
  | serviceEnv => cfg.service.env
  | vpnAutoMode => cfg.interface.vpnAutoMode
  | vpnTargetMode => cfg.interface.vpnTargetMode
  | vpnFallbackMode => cfg.interface.vpnFallbackMode

/-- The configuration with these values. -/
def build (f : ∀ s : Setting, s.Value) : AtpConfig where
  core :=
    { uiEmojiEnabled := f uiEmojiEnabled
      logTimestamp := f logTimestamp
      dataDir := f dataDir
      runDir := f runDir
      coreUser := (f coreUserGroup).1
      coreGroup := (f coreUserGroup).2
      pidFile := f pidFile
      logFile := f logFile }
  interface :=
    { vpnAutoMode := f vpnAutoMode
      vpnTargetMode := f vpnTargetMode
      vpnFallbackMode := f vpnFallbackMode }
  service :=
    { restartDelaySec := f restartDelay
      startTimeoutSec := f serviceStartTimeout
      stopTimeoutSec := f serviceStopTimeout
      gracePeriodSec := f serviceGracePeriod
      maxFailures := f serviceMaxFailures
      circuitThreshold := f serviceCircuitThreshold
      circuitCooldownSec := f serviceCircuitCooldown
      healthCheckIntervalMs := f serviceHealthCheckInterval
      args := f serviceArgs
      env := f serviceEnv }
  api :=
    { port := f apiPort
      host := f apiHost
      secret := f apiSecret }

/-- A configuration is its settings. -/
lemma build_get (cfg : AtpConfig) : build (get cfg) = cfg := rfl

/-- And any settings are a configuration. -/
lemma get_build (f : ∀ s : Setting, s.Value) : get (build f) = f := by
  funext s
  cases s <;> rfl

/-- One setting is given a value. -/
def put (s : Setting) (x : s.Value) (cfg : AtpConfig) : AtpConfig := build (Function.update (get cfg) s x)

/-- No two settings share a name. -/
lemma name_inj {s t : Setting} (same : s.name = t.name) : s = t := by
  cases s <;> cases t <;> first | rfl | simp [name] at same

end Setting

/-- The setting of a canonical name. -/
def settingOf (canonical : String) : Option Setting :=
  [.dataDir, .runDir, .pidFile, .logFile, .logTimestamp, .restartDelay, .apiSecret, .apiPort, .apiHost,
    .uiEmojiEnabled, .coreUserGroup, .serviceStartTimeout, .serviceStopTimeout, .serviceGracePeriod,
    .serviceMaxFailures, .serviceCircuitThreshold, .serviceCircuitCooldown, .serviceHealthCheckInterval,
    .serviceArgs, .serviceEnv, .vpnAutoMode, .vpnTargetMode,
    .vpnFallbackMode].find? fun s : Setting => s.name == canonical

/-! ## Keys -/

variable {k v : Str} {spec : KeySpec} {cfg : AtpConfig}

/-- User and group are one setting. -/
lemma storeUserGroup_eq : storeUserGroup v cfg =
    (splitUserGroup v).map fun x => Setting.coreUserGroup.put x cfg := by
  rw [storeUserGroup, splitUserGroup]
  cases v.dropWhile (· != ':') with
  | nil => rfl
  | cons c group =>
    by_cases fits : v.takeWhile (· != ':') ≠ [] ∧ group ≠ [] ∧ ':' ∉ group ∧
        (v.takeWhile (· != ':')).length < 64 ∧ group.length < 64
    · simp only [if_pos fits]
      rfl
    · simp only [if_neg fits]
      rfl

/-- Every key of the schema is handled, as the setting of its canonical name. -/
lemma parseKeyValue_eq (found : configSchemaFind k = some spec) :
    ∃ s : Setting, settingOf spec.canonicalName = some s ∧ s.name = spec.canonicalName ∧
      ∀ v cfg, parseKeyValue spec k v cfg =
        if !spec.allowEmpty && v.isEmpty then none
        else (s.kind.convert v).map fun x => s.put x cfg := by
  obtain ⟨mem, named⟩ := configSchemaFind_mem found
  simp only [configSchema, List.mem_cons, List.not_mem_nil, or_false] at mem
  rcases mem with rfl | rfl | rfl | rfl | rfl | rfl | rfl | rfl | rfl | rfl | rfl | rfl | rfl | rfl |
    rfl | rfl | rfl | rfl | rfl | rfl | rfl | rfl | rfl | rfl | rfl | rfl | rfl | rfl
  all_goals refine ⟨_, rfl, rfl, fun v cfg => ?_⟩
  all_goals simp only [parseKeyValue, storeInt, storeBool, storeString, storeUserGroup_eq, named,
    Option.map_eq_bind]
  all_goals rfl

/-! ## Lines -/

/-- What a key with a value sets. -/
def assignmentOf (k v : Str) : Option (Sigma Setting.Value) := do
  let spec ← configSchemaFind k
  let s ← settingOf spec.canonicalName
  if !spec.allowEmpty && v.isEmpty then none else (s.kind.convert v).map fun x => ⟨s, x⟩

/-- What a line sets: nothing, or a setting, or the line is malformed. -/
def entryOf (line : Str × Bool) : Option (Option (Sigma Setting.Value)) :=
  match readLine line.1 line.2 with
  | .error _ => none
  | .ok .skip => some none
  | .ok (.assign k v) => (assignmentOf k v).map some

/-- The settings in the lines that are well formed. -/
def settingsOf (lines : List (Str × Bool)) : List (Sigma Setting.Value) :=
  lines.filterMap fun line => (entryOf line).join

variable {st st' : Loading} {e : Sigma Setting.Value} {es es' : List (Sigma Setting.Value)}
  {lines lines' : List (Str × Bool)} {lineNo : Nat}

/-- The state of the loop after these settings. -/
def Loading.after (st : Loading) (es : List (Sigma Setting.Value)) : Loading where
  cfg := Setting.build (overlay (Setting.get st.cfg) es)
  presence := es.foldl (fun p e => p.mark e.1.name) st.presence
  seenKeys := st.seenKeys ++ es.map (·.1.name)

/-- Without an entry nothing is loaded. -/
lemma Loading.after_nil : st.after [] = st := by
  rw [Loading.after, overlay_nil, Setting.build_get, List.map_nil, List.append_nil]
  rfl

/-- One entry, and then the others. -/
lemma Loading.after_after (fresh : e.1 ∉ es.keys) : (st.after [e]).after es = st.after (e :: es) := by
  have values : overlay (overlay (Setting.get st.cfg) [e]) es = overlay (Setting.get st.cfg) (e :: es) := by
    rw [← overlay_cons List.not_mem_nil, overlay_nil]
    exact overlay_cons fresh
  simp only [Loading.after, Setting.get_build, values, List.append_assoc]
  rfl

/-- A line with a key is accepted if it sets something that was not set yet. -/
lemma assign_ok_iff (ro : Room st) : assign st k v = .ok st' ↔
    ∃ e, assignmentOf k v = some e ∧ e.1.name ∉ st.seenKeys ∧ st' = st.after [e] := by
  rw [assign, assignmentOf]
  cases found : configSchemaFind k with
  | none => simp
  | some spec =>
    obtain ⟨s, set, named, parsed⟩ := parseKeyValue_eq found
    simp only [Option.bind_eq_bind, Option.bind_some, set, parsed, if_pos ro.length_lt]
    rw [← named]
    by_cases seen : s.name ∈ st.seenKeys
    · rw [if_pos seen]
      refine iff_of_false (by simp) ?_
      rintro ⟨e, given, fresh, -⟩
      split at given
      · cases given
      · obtain ⟨x, -, rfl⟩ := Option.map_eq_some_iff.mp given
        exact fresh seen
    · rw [if_neg seen]
      cases !spec.allowEmpty && v.isEmpty with
      | true => simp
      | false =>
        cases s.kind.convert v with
        | none => simp
        | some x =>
          have put : Setting.put s x st.cfg = Setting.build (overlay (Setting.get st.cfg) [⟨s, x⟩]) := by
            rw [← overlay_cons List.not_mem_nil, overlay_nil]
            rfl
          simp [seen, Loading.after, put, eq_comm]

/-- With each key there is one place less, and one key less to come. -/
lemma Room.after (ro : Room st) (ok : assign st k v = .ok st') : Room st' := by
  obtain ⟨-, -, -, -, -, -, ro'⟩ := assign_ok ro ok
  exact ro'

/-- A line that assigns is an entry. -/
lemma entryOf_assign {buf : Str} {atEof : Bool} (read : readLine buf atEof = .ok (.assign k v)) :
    entryOf (buf, atEof) = (assignmentOf k v).map some := by
  rw [entryOf, read]

/-- A line without an entry sets nothing. -/
lemma settingsOf_cons_none {line : Str × Bool} (none : (entryOf line).join = none) :
    settingsOf (line :: lines) = settingsOf lines := List.filterMap_cons_none none

/-- A line with one sets it first. -/
lemma settingsOf_cons_some {line : Str × Bool} (sets : (entryOf line).join = some e) :
    settingsOf (line :: lines) = e :: settingsOf lines := List.filterMap_cons_some sets

/-- A setting is new, if no entry has its name. -/
lemma not_mem_keys_iff {s : Setting} : s ∉ es.keys ↔ ∀ e ∈ es, e.1.name ≠ s.name := by
  rw [List.keys, List.mem_map]
  constructor
  · intro absent e mem same
    exact absent ⟨e, mem, Setting.name_inj same⟩
  · rintro distinct ⟨e, mem, rfl⟩
    exact distinct e mem rfl

/-- The loop accepts the lines if each of them is well formed and no setting occurs twice, and it leaves
what the settings make of the state. By induction on the lines: a setting of the rest is not among the
keys that were seen exactly if it was not seen before and is not the one of the first line. -/
lemma loadLines_ok_iff (ro : Room st) : loadLines lineNo st lines = .ok st' ↔
    (∀ line ∈ lines, (entryOf line).isSome) ∧ (settingsOf lines).NodupKeys ∧
      (∀ e ∈ settingsOf lines, e.1.name ∉ st.seenKeys) ∧ st' = st.after (settingsOf lines) := by
  -- by induction on the lines: what was seen before grows with each of them
  induction lines generalizing st lineNo with
  | nil =>
    have none : settingsOf [] = [] := rfl
    rw [loadLines, none, Loading.after_nil, Except.ok.injEq]
    refine ⟨fun same => ⟨List.forall_mem_nil _, List.nodupKeys_nil, List.forall_mem_nil _, same.symm⟩, ?_⟩
    rintro ⟨-, -, -, rfl⟩
    rfl
  | cons line lines ih =>
    obtain ⟨buf, atEof⟩ := line
    rw [loadLines, List.forall_mem_cons]
    cases read : readLine buf atEof with
    | error err =>
      have bad : entryOf (buf, atEof) = none := by rw [entryOf, read]
      simp [bad]
    | ok line =>
      cases line with
      | skip =>
        have blank : entryOf (buf, atEof) = some none := by rw [entryOf, read]
        have same : settingsOf ((buf, atEof) :: lines) = settingsOf lines :=
          settingsOf_cons_none (by rw [blank]; rfl)
        dsimp only
        rw [ih ro, same, blank]
        simp
      | assign k v =>
        dsimp only
        cases assigned : assign st k v with
        | error reason =>
          refine iff_of_false (by simp) ?_
          rintro ⟨⟨valid, -⟩, nodup, fresh, -⟩
          rw [entryOf_assign read, Option.isSome_map] at valid
          obtain ⟨e, given⟩ := Option.isSome_iff_exists.mp valid
          have split : settingsOf ((buf, atEof) :: lines) = e :: settingsOf lines :=
            settingsOf_cons_some (by rw [entryOf_assign read, given]; rfl)
          -- a line that would set something fails only if its key was seen
          have own := fresh e (split ▸ List.mem_cons_self)
          have ok := (assign_ok_iff ro).mpr ⟨e, given, own, rfl⟩
          rw [assigned] at ok
          cases ok
        | ok st1 =>
          obtain ⟨e, given, own, rfl⟩ := (assign_ok_iff ro).mp assigned
          have sets : entryOf (buf, atEof) = some (some e) := by
            rw [entryOf_assign read, given]
            rfl
          have split : settingsOf ((buf, atEof) :: lines) = e :: settingsOf lines :=
            settingsOf_cons_some (by rw [sets]; rfl)
          dsimp only
          rw [ih (ro.after assigned), split, sets, List.nodupKeys_cons, List.forall_mem_cons]
          -- no key twice, and none that was seen before
          have seen : (∀ e' ∈ settingsOf lines, e'.1.name ∉ (st.after [e]).seenKeys) ↔
              (∀ e' ∈ settingsOf lines, e'.1.name ∉ st.seenKeys) ∧ e.1 ∉ (settingsOf lines).keys := by
            rw [not_mem_keys_iff, ← forall₂_and]
            simp [Loading.after, not_or]
          rw [seen]
          constructor
          · rintro ⟨valid, nodup, ⟨fresh, new⟩, rfl⟩
            exact ⟨⟨rfl, valid⟩, ⟨new, nodup⟩, ⟨own, fresh⟩, Loading.after_after new⟩
          · rintro ⟨⟨-, valid⟩, ⟨new, nodup⟩, ⟨-, fresh⟩, rfl⟩
            exact ⟨valid, nodup, ⟨fresh, new⟩, (Loading.after_after new).symm⟩

/-! ## The file -/

variable {file : ConfFile} {cfg1 : AtpConfig} {p : Presence}

/-- Before the first line. -/
def Loading.start (cfg : AtpConfig) : Loading := ⟨cfg, ⟨false, false, false⟩, []⟩

/-- At first there is room for all. -/
lemma room_start : Room (Loading.start cfg) := ⟨List.nodup_nil, List.nil_subset _⟩

/-- The lines are well formed, and no setting occurs twice. -/
structure WellFormed (lines : List (Str × Bool)) : Prop where
  valid : ∀ line ∈ lines, (entryOf line).isSome
  nodup : (settingsOf lines).NodupKeys

/-- A file is accepted if its lines are well formed and the paths that follow `RUN_DIR` fit. -/
lemma configLoadFileInternal_ok_iff : configLoadFileInternal file cfg = .ok (cfg1, p) ↔
    (file.opens = true ∧ file.readOk = true ∧ file.closeOk = true) ∧
      WellFormed (fgetsAll 1024 [] file.text) ∧
      configApplyRunDirDefaults ((Loading.start cfg).after (settingsOf (fgetsAll 1024 [] file.text))).cfg =
        some cfg1 ∧
      p = ((Loading.start cfg).after (settingsOf (fgetsAll 1024 [] file.text))).presence := by
  have loop := fun st' => @loadLines_ok_iff _ st' (fgetsAll 1024 [] file.text) 1 (@room_start cfg)
  have start : (⟨cfg, ⟨false, false, false⟩, []⟩ : Loading) = Loading.start cfg := rfl
  rw [configLoadFileInternal, start]
  obtain ⟨opens, text, readOk, closeOk⟩ := file
  cases opens with
  | false => simp
  | true =>
    cases loaded : loadLines 1 (Loading.start cfg) (fgetsAll 1024 [] text) with
    | error err =>
      refine iff_of_false (by simp) ?_
      rintro ⟨-, well, -⟩
      have ok := (loop _).mpr ⟨well.valid, well.nodup, by simp [Loading.start], rfl⟩
      rw [loaded] at ok
      cases ok
    | ok st =>
      obtain ⟨valid, nodup, -, rfl⟩ := (loop st).mp loaded
      have well : WellFormed (fgetsAll 1024 [] text) := ⟨valid, nodup⟩
      rw [and_iff_right well]
      cases moved : configApplyRunDirDefaults
          ((Loading.start cfg).after (settingsOf (fgetsAll 1024 [] text))).cfg with
      | none => cases readOk <;> cases closeOk <;> simp [moved]
      | some cfg2 => cases readOk <;> cases closeOk <;> simp [moved, eq_comm]

/-- `fgets` goes on as long as there is room and no newline. -/
lemma fgetsAll_gather {size : Nat} {line buf rest : Str} (oneLine : '\n' ∉ line)
    (short : buf.length + line.length + 1 < size) :
    fgetsAll size buf (line ++ rest) = fgetsAll size (line.reverse ++ buf) rest := by
  induction line generalizing buf with
  | nil => rfl
  | cons c line ih =>
    obtain ⟨other, oneLine⟩ := not_or.mp (mt List.mem_cons.mpr oneLine)
    rw [List.length_cons] at short
    rw [List.cons_append, fgetsAll, if_neg, ih oneLine (by rw [List.length_cons]; omega)]
    · simp
    · rintro (rfl | full)
      · exact other rfl
      · omega

/-- `fgets` reads a short line with its newline. -/
lemma fgetsAll_line {line rest : Str} (oneLine : '\n' ∉ line) (short : line.length < 1023) :
    fgetsAll 1024 [] (line ++ '\n' :: rest) = (line ++ ['\n'], false) :: fgetsAll 1024 [] rest := by
  rw [fgetsAll_gather oneLine (by rw [List.length_nil]; omega), fgetsAll, if_pos (.inl rfl)]
  simp

/-- A file of lines, each with its newline. -/
def unlines (lines : List Str) : Str := lines.flatMap (· ++ ['\n'])

/-- Short lines are read one by one. -/
lemma fgetsAll_unlines {lines : List Str} {rest : Str}
    (short : ∀ line ∈ lines, '\n' ∉ line ∧ line.length < 1023) :
    fgetsAll 1024 [] (unlines lines ++ rest) =
      lines.map (fun line => (line ++ ['\n'], false)) ++ fgetsAll 1024 [] rest := by
  induction lines with
  | nil => rfl
  | cons line lines ih =>
    obtain ⟨⟨oneLine, bound⟩, short⟩ := List.forall_mem_cons.mp short
    have split : unlines (line :: lines) ++ rest = line ++ '\n' :: (unlines lines ++ rest) := by
      simp [unlines]
    rw [split, fgetsAll_line oneLine bound, ih short]
    rfl

/-! ## The order of the lines -/

/-- The order of the lines does not matter. -/
lemma WellFormed.perm (well : WellFormed lines) (perm : lines.Perm lines') : WellFormed lines' where
  valid line mem := well.valid line (perm.mem_iff.mpr mem)
  nodup := (List.perm_nodupKeys (perm.filterMap _)).mp well.nodup

/-- Nor does it for what was present. -/
lemma Presence.mark_mark (canonical canonical' : String) :
    (p.mark canonical).mark canonical' = (p.mark canonical').mark canonical := by
  simp only [Presence.mark, Bool.or_assoc]
  rw [Bool.or_comm (canonical == "API_PORT"), Bool.or_comm (canonical == "API_HOST"),
    Bool.or_comm (canonical == "API_SECRET")]

/-- The settings leave the same in any order. -/
lemma Loading.after_perm (nodup : es.NodupKeys) (perm : es.Perm es') :
    (st.after es).cfg = (st.after es').cfg ∧ (st.after es).presence = (st.after es').presence := by
  constructor
  · rw [Loading.after, Loading.after, overlay_perm nodup perm]
  · apply perm.foldl_eq'
    intro e _ e' _ p
    exact Presence.mark_mark _ _

/-- Nor for the configuration that is loaded. -/
lemma configLoadFileInternal_perm {opens readOk closeOk : Bool} {text text' : Str}
    (perm : (fgetsAll 1024 [] text).Perm (fgetsAll 1024 [] text'))
    (ok : configLoadFileInternal ⟨opens, text, readOk, closeOk⟩ cfg = .ok (cfg1, p)) :
    configLoadFileInternal ⟨opens, text', readOk, closeOk⟩ cfg = .ok (cfg1, p) := by
  obtain ⟨works, well, moved, rfl⟩ := configLoadFileInternal_ok_iff.mp ok
  obtain ⟨sameCfg, samePresence⟩ := @Loading.after_perm (Loading.start cfg) _ _ well.nodup
    (perm.filterMap fun line => (entryOf line).join)
  exact configLoadFileInternal_ok_iff.mpr ⟨works, well.perm perm, sameCfg ▸ moved, samePresence⟩

/-- For every file of newline-terminated lines, every permutation of them and every configuration to start
from: `config_load_file` accepts both files or none, and gives the same configuration and the same
presence flags. -/
theorem line_order_irrelevant (opens readOk closeOk : Bool) (cfg : AtpConfig) (lines lines' : List Str)
    (perm : lines.Perm lines') (short : ∀ line ∈ lines, '\n' ∉ line ∧ line.length < 1023) :
    (configLoadFileInternal ⟨opens, unlines lines, readOk, closeOk⟩ cfg).toOption =
      (configLoadFileInternal ⟨opens, unlines lines', readOk, closeOk⟩ cfg).toOption := by
  have read : ∀ lines : List Str, (∀ line ∈ lines, '\n' ∉ line ∧ line.length < 1023) →
      fgetsAll 1024 [] (unlines lines) = lines.map fun line => (line ++ ['\n'], false) := by
    intro lines short
    have all := @fgetsAll_unlines lines [] short
    rw [List.append_nil] at all
    rw [all]
    exact List.append_nil _
  have short' : ∀ line ∈ lines', '\n' ∉ line ∧ line.length < 1023 :=
    fun line mem => short line (perm.mem_iff.mpr mem)
  have same : (fgetsAll 1024 [] (unlines lines)).Perm (fgetsAll 1024 [] (unlines lines')) := by
    rw [read lines short, read lines' short']
    exact perm.map _
  cases loaded : configLoadFileInternal ⟨opens, unlines lines, readOk, closeOk⟩ cfg with
  | ok r => rw [configLoadFileInternal_perm same loaded]
  | error err =>
    cases loaded' : configLoadFileInternal ⟨opens, unlines lines', readOk, closeOk⟩ cfg with
    | ok r =>
      rw [configLoadFileInternal_perm same.symm loaded'] at loaded
      cases loaded
    | error err' => rfl

/-- `RUN_DIR` before and behind `PID_FILE`, and an alias in between. -/
theorem line_order_irrelevant_runDir :
    (configLoadFileInternal ⟨true, unlines ["RUN_DIR=/run/atp".toList, "WORK_DIR = /data".toList,
      "PID_FILE='/run/p'".toList], true, true⟩ (configSetDefaults "/app".toList false)).toOption =
    (configLoadFileInternal ⟨true, unlines ["PID_FILE='/run/p'".toList, "WORK_DIR = /data".toList,
      "RUN_DIR=/run/atp".toList], true, true⟩ (configSetDefaults "/app".toList false)).toOption :=
  line_order_irrelevant true true true _ _ _ (List.reverse_perm _).symm (by decide)

end Atpd.Config
