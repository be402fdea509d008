import Atpd.Config.Reload

/-!
# The configuration file

`atp.conf` as `config_load_file_internal` of `src/config.c` reads it: line by line with `fgets`, one
`KEY=VALUE` a line, the keys looked up in the schema of `src/config_validator.c`. Which of the API
keys occur is kept for the merge with sing-box's own file.

A text is a list of bytes, each written as the character of that code. `fgets` and the string
functions see a line up to its first NUL.
-/

namespace Atpd.Config

/-! ## Strings and values -/

/-- The C string in a buffer: what precedes the first NUL. -/
def cString (buf : Str) : Str := buf.takeWhile (· != '\x00')

/-- `isspace`. -/
def isspace (c : Char) : Bool :=
  c == ' ' || c == '\t' || c == '\n' || c == '\x0b' || c == '\x0c' || c == '\r'

/-- `trim`. -/
def trim (str : Str) : Str := ((str.dropWhile isspace).reverse.dropWhile isspace).reverse

/-- The value of a string of decimal digits. -/
def decimal (digits : Str) : Int := digits.foldl (fun n c => n * 10 + (c.toNat - '0'.toNat : Nat)) 0

/-- The sign that `strtol` reads, and what follows it. -/
def strtolSign : Str → Int × Str
  | '-' :: rest => (-1, rest)
  | '+' :: rest => (1, rest)
  | rest => (1, rest)

/-- `config_parse_int`: `strtol` over the whole string, into the range of `int`. -/
def configParseInt (str : Str) : Option Int :=
  let (sign, digits) := strtolSign (str.dropWhile isspace)
  if digits ≠ [] ∧ digits.all Char.isDigit then
    let val := sign * decimal digits
    if -2147483648 ≤ val ∧ val ≤ 2147483647 then some val else none
  else none

/-- `config_parse_bool`. -/
def configParseBool (str : Str) : Option Bool :=
  match configParseInt str with
  | some 0 => some false
  | some 1 => some true
  | _ => none

/-- `config_copy_string` into a buffer of `size` bytes: what the buffer holds then. -/
def configCopyString (size : Nat) (value : Str) : Option Str :=
  if value.length < size then some value else none

/-! ## Schema -/

/-- `config_value_type_t`. -/
inductive ValueType where
  | bool
  | int
  | string
deriving DecidableEq, Repr

/-- `config_key_spec_t`, less `deprecated`, which only a warning depends on. -/
structure KeySpec where
  name : String
  type : ValueType
  canonicalName : String
  allowEmpty : Bool
deriving DecidableEq, Repr

/-- `CONFIG_SCHEMA`. -/
def configSchema : List KeySpec :=
  [ ⟨"DATA_DIR", .string, "DATA_DIR", false⟩,
    ⟨"WORK_DIR", .string, "DATA_DIR", false⟩,
    ⟨"RUN_DIR", .string, "RUN_DIR", false⟩,
    ⟨"PID_FILE", .string, "PID_FILE", false⟩,
    ⟨"LOG_FILE", .string, "LOG_FILE", false⟩,
    ⟨"LOG_TIMESTAMP", .bool, "LOG_TIMESTAMP", false⟩,
    ⟨"RESTART_DELAY", .int, "RESTART_DELAY", false⟩,
    ⟨"API_SECRET", .string, "API_SECRET", true⟩,
    ⟨"CLASH_SECRET", .string, "API_SECRET", true⟩,
    ⟨"API_PORT", .int, "API_PORT", false⟩,
    ⟨"API_HOST", .string, "API_HOST", false⟩,
    ⟨"UI_EMOJI_ENABLED", .bool, "UI_EMOJI_ENABLED", false⟩,
    ⟨"CORE_USER_GROUP", .string, "CORE_USER_GROUP", false⟩,
    ⟨"SERVICE_START_TIMEOUT", .int, "SERVICE_START_TIMEOUT", false⟩,
    ⟨"SERVICE_STOP_TIMEOUT", .int, "SERVICE_STOP_TIMEOUT", false⟩,
    ⟨"SERVICE_GRACE_PERIOD", .int, "SERVICE_GRACE_PERIOD", false⟩,
    ⟨"SERVICE_MAX_FAILURES", .int, "SERVICE_MAX_FAILURES", false⟩,
    ⟨"SERVICE_CIRCUIT_THRESHOLD", .int, "SERVICE_CIRCUIT_THRESHOLD", false⟩,
    ⟨"SERVICE_CIRCUIT_COOLDOWN", .int, "SERVICE_CIRCUIT_COOLDOWN", false⟩,
    ⟨"SERVICE_HEALTH_CHECK_INTERVAL", .int, "SERVICE_HEALTH_CHECK_INTERVAL", false⟩,
    ⟨"SERVICE_ARGS", .string, "SERVICE_ARGS", true⟩,
    ⟨"SERVICE_ENV", .string, "SERVICE_ENV", true⟩,
    ⟨"VPN_AUTO_CLASH_MODE", .bool, "VPN_AUTO_MODE", false⟩,
    ⟨"VPN_AUTO_MODE", .bool, "VPN_AUTO_MODE", false⟩,
    ⟨"VPN_TARGET_MODE", .string, "VPN_TARGET_MODE", false⟩,
    ⟨"VPN_CLASH_MODE", .string, "VPN_TARGET_MODE", false⟩,
    ⟨"VPN_FALLBACK_MODE", .string, "VPN_FALLBACK_MODE", false⟩,
    ⟨"VPN_DEFAULT_MODE", .string, "VPN_FALLBACK_MODE", false⟩ ]

/-- `config_schema_find`. -/
def configSchemaFind (key : Str) : Option KeySpec :=
  configSchema.find? fun spec => spec.name == String.ofList key

/-! ## Values -/

/-- `parse_key_value`, `CONFIG_VALUE_INT`. -/
def storeInt (k : Str) (value : Int) (cfg : AtpConfig) : Option AtpConfig :=
  match String.ofList k with
  | "RESTART_DELAY" => some { cfg with service := { cfg.service with restartDelaySec := value } }
  | "API_PORT" => some { cfg with api := { cfg.api with port := value } }
  | "SERVICE_START_TIMEOUT" =>
    some { cfg with service := { cfg.service with startTimeoutSec := value } }
  | "SERVICE_STOP_TIMEOUT" =>
    some { cfg with service := { cfg.service with stopTimeoutSec := value } }
  | "SERVICE_GRACE_PERIOD" =>
    some { cfg with service := { cfg.service with gracePeriodSec := value } }
  | "SERVICE_MAX_FAILURES" => some { cfg with service := { cfg.service with maxFailures := value } }
  | "SERVICE_CIRCUIT_THRESHOLD" =>
    some { cfg with service := { cfg.service with circuitThreshold := value } }
  | "SERVICE_CIRCUIT_COOLDOWN" =>
    some { cfg with service := { cfg.service with circuitCooldownSec := value } }
  | "SERVICE_HEALTH_CHECK_INTERVAL" =>
    some { cfg with service := { cfg.service with healthCheckIntervalMs := value } }
  | _ => none

/-- `parse_key_value`, `CONFIG_VALUE_BOOL`. -/
def storeBool (k : Str) (value : Bool) (cfg : AtpConfig) : Option AtpConfig :=
  match String.ofList k with
  | "LOG_TIMESTAMP" => some { cfg with core := { cfg.core with logTimestamp := value } }
  | "UI_EMOJI_ENABLED" => some { cfg with core := { cfg.core with uiEmojiEnabled := value } }
  | "VPN_AUTO_CLASH_MODE" => some { cfg with interface := { cfg.interface with vpnAutoMode := value } }
  | "VPN_AUTO_MODE" => some { cfg with interface := { cfg.interface with vpnAutoMode := value } }
  | _ => none

/-- `parse_key_value`, `CORE_USER_GROUP`: `user:group`, both nonempty, with one colon. -/
def storeUserGroup (v : Str) (cfg : AtpConfig) : Option AtpConfig :=
  let user := v.takeWhile (· != ':')
  match v.dropWhile (· != ':') with
  | [] => none
  | _ :: group =>
    if user ≠ [] ∧ group ≠ [] ∧ ':' ∉ group ∧ user.length < 64 ∧ group.length < 64 then
      some { cfg with core := { cfg.core with coreUser := user, coreGroup := group } }
    else none

/-- `parse_key_value`, the strings. -/
def storeString (k v : Str) (cfg : AtpConfig) : Option AtpConfig :=
  match String.ofList k with
  | "API_SECRET" => (configCopyString 128 v).map fun s => { cfg with api := { cfg.api with secret := s } }
  | "CLASH_SECRET" =>
    (configCopyString 128 v).map fun s => { cfg with api := { cfg.api with secret := s } }
  | "API_HOST" => (configCopyString 64 v).map fun s => { cfg with api := { cfg.api with host := s } }
  | "VPN_TARGET_MODE" =>
    (configCopyString 64 v).map fun s =>
      { cfg with interface := { cfg.interface with vpnTargetMode := s } }
  | "VPN_CLASH_MODE" =>
    (configCopyString 64 v).map fun s =>
      { cfg with interface := { cfg.interface with vpnTargetMode := s } }
  | "VPN_FALLBACK_MODE" =>
    (configCopyString 64 v).map fun s =>
      { cfg with interface := { cfg.interface with vpnFallbackMode := s } }
  | "VPN_DEFAULT_MODE" =>
    (configCopyString 64 v).map fun s =>
      { cfg with interface := { cfg.interface with vpnFallbackMode := s } }
  | "DATA_DIR" =>
    (configCopyString pathMax v).map fun s => { cfg with core := { cfg.core with dataDir := s } }
  | "WORK_DIR" =>
    (configCopyString pathMax v).map fun s => { cfg with core := { cfg.core with dataDir := s } }
  | "RUN_DIR" =>
    (configCopyString pathMax v).map fun s => { cfg with core := { cfg.core with runDir := s } }
  | "PID_FILE" =>
    (configCopyString pathMax v).map fun s => { cfg with core := { cfg.core with pidFile := s } }
  | "LOG_FILE" =>
    (configCopyString pathMax v).map fun s => { cfg with core := { cfg.core with logFile := s } }
  | "CORE_USER_GROUP" => storeUserGroup v cfg
  | "SERVICE_ARGS" =>
    (configCopyString 256 v).map fun s => { cfg with service := { cfg.service with args := s } }
  | "SERVICE_ENV" =>
    (configCopyString 256 v).map fun s => { cfg with service := { cfg.service with env := s } }
  | _ => none

/-- `parse_key_value`. -/
def parseKeyValue (spec : KeySpec) (k v : Str) (cfg : AtpConfig) : Option AtpConfig :=
  if !spec.allowEmpty && v.isEmpty then none
  else
    match spec.type with
    | .int => (configParseInt v).bind fun value => storeInt k value cfg
    | .bool => (configParseBool v).bind fun value => storeBool k value cfg
    | .string => storeString k v cfg

/-! ## Lines -/

/-- The reasons of `config_parse_error`. -/
inductive Reason where
  | lineTooLong
  | noEquals
  | emptyKey
  | unterminatedQuote
  | unknownKey
  | duplicateKey
  | invalidValue
deriving DecidableEq, Repr

/-- What `config_parse_error` reports; without a key the key is empty. -/
structure ParseError where
  lineNo : Nat
  key : Str
  reason : Reason
deriving DecidableEq, Repr

/-- `fgets` with a buffer of `size` bytes until the end of the file: each line with its newline if it
has one, and whether the end of the file was met. `line` is what is in the buffer, backwards. -/
def fgetsAll (size : Nat) (line : Str) : Str → List (Str × Bool)
  | [] => if line.isEmpty then [] else [(line.reverse, true)]
  | c :: rest =>
    if c = '\n' ∨ size ≤ line.length + 2 then ((c :: line).reverse, false) :: fgetsAll size [] rest
    else fgetsAll size (c :: line) rest

/-- The quotes around a value, if there are any, are removed. -/
def unquote (v : Str) : Option Str :=
  match v with
  | q :: rest =>
    if q = '"' ∨ q = '\'' then
      if rest.getLast? = some q then some rest.dropLast else none
    else some v
  | [] => some v

/-- One line, less its key: blank or a comment, or a key with its value. -/
inductive Line where
  | skip
  | assign (key value : Str)
deriving DecidableEq, Repr

/-- A line of the file as `config_load_file_internal` takes it apart; `atEof` is `feof` after the line
was read. -/
def readLine (buf : Str) (atEof : Bool) : Except (Str × Reason) Line :=
  let line := cString buf
  if '\n' ∉ line ∧ !atEof then .error ([], .lineTooLong)
  else
    let line := trim line
    if line.head? = some '#' ∨ line = [] then .ok .skip
    else
      match line.dropWhile (· != '=') with
      | [] => .error ([], .noEquals)
      | _ :: right =>
        let k := trim (line.takeWhile (· != '='))
        if k = [] then .error ([], .emptyKey)
        else
          match unquote (trim right) with
          | none => .error (k, .unterminatedQuote)
          | some v => .ok (.assign k v)

/-! ## The file -/

/-- `config_presence_t`. -/
structure Presence where
  apiPort : Bool
  apiHost : Bool
  apiSecret : Bool
deriving DecidableEq, Repr

/-- The state of the loop of `config_load_file_internal`. -/
structure Loading where
  cfg : AtpConfig
  presence : Presence
  seenKeys : List String
deriving DecidableEq, Repr

/-- The API keys are marked present by their canonical names. -/
def Presence.mark (p : Presence) (canonical : String) : Presence where
  apiPort := p.apiPort || canonical == "API_PORT"
  apiHost := p.apiHost || canonical == "API_HOST"
  apiSecret := p.apiSecret || canonical == "API_SECRET"

/-- The body of the loop for a line with a key. -/
def assign (st : Loading) (k v : Str) : Except Reason Loading :=
  match configSchemaFind k with
  | none => .error .unknownKey
  | some spec =>
    if spec.canonicalName ∈ st.seenKeys then .error .duplicateKey
    else
      let seen :=
        if st.seenKeys.length < 64 then st.seenKeys ++ [spec.canonicalName] else st.seenKeys
      match parseKeyValue spec k v st.cfg with
      | none => .error .invalidValue
      | some cfg => .ok ⟨cfg, st.presence.mark spec.canonicalName, seen⟩

/-- The loop of `config_load_file_internal`. -/
def loadLines (lineNo : Nat) (st : Loading) : List (Str × Bool) → Except ParseError Loading
  | [] => .ok st
  | (buf, atEof) :: rest =>
    match readLine buf atEof with
    | .error (key, reason) => .error ⟨lineNo, key, reason⟩
    | .ok .skip => loadLines (lineNo + 1) st rest
    | .ok (.assign k v) =>
      match assign st k v with
      | .error reason => .error ⟨lineNo, k, reason⟩
      | .ok st => loadLines (lineNo + 1) st rest

/-- `config_apply_run_dir_defaults`, for one of the two paths. -/
def moveDefault (runDir path default file : Str) : Option Str :=
  if path = default then
    if (runDir ++ file).length < pathMax then some (runDir ++ file) else none
  else some path

/-- `config_apply_run_dir_defaults`. -/
def configApplyRunDirDefaults (cfg : AtpConfig) : Option AtpConfig :=
  if cfg.core.runDir = [] ∨ cfg.core.runDir = "run".toList then some cfg
  else do
    let pidFile ← moveDefault cfg.core.runDir cfg.core.pidFile "run/atpd.pid".toList "/atpd.pid".toList
    let logFile ← moveDefault cfg.core.runDir cfg.core.logFile "run/atp.log".toList "/atp.log".toList
    some { cfg with core := { cfg.core with pidFile := pidFile, logFile := logFile } }

/-- `atp.conf`: whether it can be opened, what can be read from it, and whether the reading and the
closing went well. -/
structure ConfFile where
  opens : Bool
  text : Str
  readOk : Bool
  closeOk : Bool
deriving DecidableEq, Repr

/-- `config_load_file_internal`, which `config_prepare` calls. -/
def configLoadFileInternal (file : ConfFile) (cfg : AtpConfig) :
    Except AtpError (AtpConfig × Presence) :=
  if !file.opens then .error .noent
  else
    match loadLines 1 ⟨cfg, ⟨false, false, false⟩, []⟩ (fgetsAll 1024 [] file.text) with
    | .error _ => .error .config
    | .ok st =>
      if !file.readOk || !file.closeOk then .error .io
      else
        match configApplyRunDirDefaults st.cfg with
        | none => .error .config
        | some cfg => .ok (cfg, st.presence)

end Atpd.Config
