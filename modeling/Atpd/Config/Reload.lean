import Atpd.Config.Basic

/-!
# Candidates of a reload

A reload reads a candidate configuration (`config_prepare_reload`) and compares it with the current
one (`config_classify_reload`), both in `src/config.c`. What the parser and the sing-box file make of
the defaults is arbitrary here; what they deliver is validated.
-/

namespace Atpd.Config

/-- `atp_result_t`, its errors. -/
inductive AtpError where
  | general
  | nomem
  | noent
  | perm
  | timeout
  | busy
  | inval
  | io
  | config
  | notsup
deriving DecidableEq, Repr

/-- The files of a reload: whether the configuration file exists, what `config_prepare` makes of the
defaults, and what `config_sync_from_singbox_json` makes of that. -/
structure CandidateFile where
  present : Bool
  prepare : AtpConfig → Except AtpError AtpConfig
  sync : AtpConfig → Except AtpError AtpConfig

/-- `config_prepare_reload`; `defaults` is what `config_set_defaults` leaves. -/
def configPrepareReload (sourcePath : Str) (defaults : AtpConfig) (file : CandidateFile) :
    Except AtpError AtpConfig :=
  if sourcePath = [] then .error .inval
  else if !file.present then .error .noent
  else
    match file.prepare defaults with
    | .error e => .error e
    | .ok new =>
      match file.sync new with
      | .error _ => .error .config
      | .ok new => if configValidateValues new then .ok new else .error .config

/-- `config_record_changed_field`, on a buffer of `size` bytes. -/
def configRecordChangedField (size : Nat) (fields name : Str) : Str :=
  if size = 0 ∨ size - 1 ≤ fields.length then fields
  else
    let text := if fields ≠ [] then ", ".toList ++ name else name
    fields ++ text.take (size - fields.length - 1)

/-- `config_reload_changes_t`: its bits. -/
structure ReloadChanges where
  hot : Bool
  static : Bool
  requiresRestart : Bool
deriving DecidableEq, Repr

/-- `HOT_IF_CHANGED`. -/
def hotChecks (current candidate : AtpConfig) : List Bool :=
  [ current.core.uiEmojiEnabled != candidate.core.uiEmojiEnabled,
    current.service.startTimeoutSec != candidate.service.startTimeoutSec,
    current.service.stopTimeoutSec != candidate.service.stopTimeoutSec,
    current.service.maxFailures != candidate.service.maxFailures,
    current.service.healthCheckIntervalMs != candidate.service.healthCheckIntervalMs ]

/-- `STATIC_IF_CHANGED`. -/
def staticChecks (current candidate : AtpConfig) : List Bool :=
  [ current.core.logTimestamp != candidate.core.logTimestamp,
    current.service.restartDelaySec != candidate.service.restartDelaySec,
    current.service.gracePeriodSec != candidate.service.gracePeriodSec ]

/-- `RESTART_IF_CHANGED`, with the names that are recorded. -/
def restartChecks (current candidate : AtpConfig) : List (Bool × String) :=
  [ (current.core.dataDir != candidate.core.dataDir, "DATA_DIR"),
    (current.core.runDir != candidate.core.runDir, "RUN_DIR"),
    (current.core.pidFile != candidate.core.pidFile, "PID_FILE"),
    (current.core.logFile != candidate.core.logFile, "LOG_FILE"),
    (current.core.coreUser != candidate.core.coreUser ||
      current.core.coreGroup != candidate.core.coreGroup, "CORE_USER_GROUP"),
    (current.service.args != candidate.service.args, "SERVICE_ARGS"),
    (current.service.env != candidate.service.env, "SERVICE_ENV"),
    (current.api.host != candidate.api.host, "API_HOST"),
    (current.api.port != candidate.api.port, "API_PORT"),
    (current.api.secret != candidate.api.secret, "API_SECRET"),
    (current.interface.vpnAutoMode != candidate.interface.vpnAutoMode, "VPN_AUTO_MODE"),
    (current.interface.vpnTargetMode != candidate.interface.vpnTargetMode, "VPN_TARGET_MODE"),
    (current.interface.vpnFallbackMode != candidate.interface.vpnFallbackMode, "VPN_FALLBACK_MODE"),
    (current.service.circuitThreshold != candidate.service.circuitThreshold,
      "SERVICE_CIRCUIT_THRESHOLD"),
    (current.service.circuitCooldownSec != candidate.service.circuitCooldownSec,
      "SERVICE_CIRCUIT_COOLDOWN") ]

/-- `config_classify_reload`: the changes, and the text in `changed_fields`. -/
def configClassifyReload (current candidate : AtpConfig) (size : Nat) : ReloadChanges × Str :=
  let restart := restartChecks current candidate
  let changes : ReloadChanges :=
    { hot := (hotChecks current candidate).any id
      static := (staticChecks current candidate).any id
      requiresRestart := restart.any (·.1) }
  let names := (restart.filter (·.1)).map (·.2.toList)
  (changes, names.foldl (configRecordChangedField size) [])

/-- The restart-required fields of a configuration. -/
structure RestartFields where
  dataDir : Str
  runDir : Str
  pidFile : Str
  logFile : Str
  coreUser : Str
  coreGroup : Str
  args : Str
  env : Str
  host : Str
  port : Int
  secret : Str
  vpnAutoMode : Bool
  vpnTargetMode : Str
  vpnFallbackMode : Str
  circuitThreshold : Int
  circuitCooldownSec : Int
deriving DecidableEq, Repr

/-- The restart-required fields of `cfg`. -/
def AtpConfig.restartFields (cfg : AtpConfig) : RestartFields where
  dataDir := cfg.core.dataDir
  runDir := cfg.core.runDir
  pidFile := cfg.core.pidFile
  logFile := cfg.core.logFile
  coreUser := cfg.core.coreUser
  coreGroup := cfg.core.coreGroup
  args := cfg.service.args
  env := cfg.service.env
  host := cfg.api.host
  port := cfg.api.port
  secret := cfg.api.secret
  vpnAutoMode := cfg.interface.vpnAutoMode
  vpnTargetMode := cfg.interface.vpnTargetMode
  vpnFallbackMode := cfg.interface.vpnFallbackMode
  circuitThreshold := cfg.service.circuitThreshold
  circuitCooldownSec := cfg.service.circuitCooldownSec

variable {sourcePath : Str} {current candidate defaults : AtpConfig} {file : CandidateFile} {size : Nat}

/-- A candidate is validated. -/
lemma configPrepareReload_valid
    (ok : configPrepareReload sourcePath defaults file = .ok candidate) :
    configValidateValues candidate = true := by
  rw [configPrepareReload] at ok
  split at ok
  · cases ok
  · split at ok
    · cases ok
    · split at ok
      · cases ok
      · split at ok
        · cases ok
        · split at ok
          · cases ok
            assumption
          · cases ok

/-- A restart is required exactly when a restart-required field changes. -/
lemma requiresRestart_eq_false :
    (configClassifyReload current candidate size).1.requiresRestart = false ↔
      current.restartFields = candidate.restartFields := by
  simp [configClassifyReload, restartChecks, AtpConfig.restartFields, and_assoc]

/-- The classification covers every field: nothing has changed exactly when the configurations are
the same. -/
lemma configClassifyReload_none :
    (configClassifyReload current candidate size).1 = ⟨false, false, false⟩ ↔
      current = candidate := by
  constructor
  · intro same
    obtain ⟨⟨_, _, _, _, _, _, _, _⟩, ⟨_, _, _⟩, ⟨_, _, _, _, _, _, _, _, _, _⟩, ⟨_, _, _⟩⟩ := current
    obtain ⟨⟨_, _, _, _, _, _, _, _⟩, ⟨_, _, _⟩, ⟨_, _, _, _, _, _, _, _, _, _⟩, ⟨_, _, _⟩⟩ := candidate
    simp only [configClassifyReload, hotChecks, staticChecks, restartChecks, ReloadChanges.mk.injEq,
      List.any_cons, List.any_nil, Bool.or_false, Bool.or_eq_false_iff, bne_eq_false_iff_eq, id] at same
    simp_all
  · rintro rfl
    simp [configClassifyReload, hotChecks, staticChecks, restartChecks]

end Atpd.Config
