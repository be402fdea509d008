import Mathlib.Tactic.Common

/-!
# Configuration values

`atp_config_t` (`include/atp_config.h`), its defaults (`config_set_defaults` in `src/config.c`) and
its validation (`src/config_validator.c`). A `char` array that holds a C string is the list of the
bytes before its NUL, each written as the character of that code, so `strcmp` is equality. A C `int`
is an integer.
-/

namespace Atpd.Config

/-- A C string. -/
abbrev Str := List Char

/-- `PATH_MAX`. -/
def pathMax : Nat := 4096

/-- `core_config_t`. -/
structure CoreConfig where
  uiEmojiEnabled : Bool
  logTimestamp : Bool
  dataDir : Str
  runDir : Str
  coreUser : Str
  coreGroup : Str
  pidFile : Str
  logFile : Str
deriving DecidableEq, Repr

/-- `interface_config_t`. -/
structure InterfaceConfig where
  vpnAutoMode : Bool
  vpnTargetMode : Str
  vpnFallbackMode : Str
deriving DecidableEq, Repr

/-- `service_config_t`. -/
structure ServiceConfig where
  restartDelaySec : Int
  startTimeoutSec : Int
  stopTimeoutSec : Int
  gracePeriodSec : Int
  maxFailures : Int
  circuitThreshold : Int
  circuitCooldownSec : Int
  healthCheckIntervalMs : Int
  args : Str
  env : Str
deriving DecidableEq, Repr

/-- `api_config_t`. -/
structure ApiConfig where
  port : Int
  host : Str
  secret : Str
deriving DecidableEq, Repr

/-- `atp_config_t`. -/
structure AtpConfig where
  core : CoreConfig
  interface : InterfaceConfig
  service : ServiceConfig
  api : ApiConfig
deriving DecidableEq, Repr

/-- `config_set_defaults`; `appDir` is what `get_app_dir` finds, `netAdmin` whether the group
`net_admin` exists. -/
def configSetDefaults (appDir : Str) (netAdmin : Bool) : AtpConfig where
  core :=
    { uiEmojiEnabled := true
      logTimestamp := true
      dataDir := appDir
      runDir := "run".toList
      coreUser := "root".toList
      coreGroup := if netAdmin then "net_admin".toList else "root".toList
      pidFile := "run/atpd.pid".toList
      logFile := "run/atp.log".toList }
  interface :=
    { vpnAutoMode := true
      vpnTargetMode := "Google VPN".toList
      vpnFallbackMode := "Rule".toList }
  service :=
    { restartDelaySec := 2
      startTimeoutSec := 30
      stopTimeoutSec := 10
      gracePeriodSec := 3
      maxFailures := 5
      circuitThreshold := 5
      circuitCooldownSec := 60
      healthCheckIntervalMs := 5000
      args := []
      env := [] }
  api :=
    { port := 9080
      host := "127.0.0.1".toList
      secret := [] }

/-! ## Validation -/

/-- `validate_port` of `config_validator.c`. -/
def validatePort (port : Int) : Bool := decide (1 ≤ port ∧ port ≤ 65535)

/-- The loop of `inet_pton` for `AF_INET`: `octet` is the value of the octet being read. -/
def inetPtonLoop (sawDigit : Bool) (octets octet : Nat) : Str → Bool
  | [] => 4 ≤ octets
  | ch :: rest =>
    if ch.isDigit then
      let new := octet * 10 + (ch.toNat - '0'.toNat)
      if sawDigit && octet == 0 then false
      else if 255 < new then false
      else if sawDigit then inetPtonLoop true octets new rest
      else if 4 ≤ octets then false
      else inetPtonLoop true (octets + 1) new rest
    else if ch == '.' && sawDigit then
      if octets == 4 then false else inetPtonLoop false octets 0 rest
    else false

/-- `inet_pton(AF_INET, ..) == 1`: a dotted quad of decimal octets without leading zeros. -/
def inetPton (host : Str) : Bool := inetPtonLoop false 0 0 host

/-- One range check of `validate_service_params`: 1 if the value is out of range. -/
def rangeError (lo hi value : Int) : Nat := if value < lo ∨ hi < value then 1 else 0

/-- `validate_service_params`: the number of errors. -/
def validateServiceParams (cfg : AtpConfig) : Nat :=
  rangeError 1 3600 cfg.service.startTimeoutSec +
  rangeError 1 3600 cfg.service.stopTimeoutSec +
  rangeError 0 3600 cfg.service.gracePeriodSec +
  rangeError 1 1000 cfg.service.maxFailures +
  rangeError 1 1000 cfg.service.circuitThreshold +
  rangeError 1 86400 cfg.service.circuitCooldownSec +
  rangeError 100 3600000 cfg.service.healthCheckIntervalMs

/-- `config_validate_values(cfg) == 0`. -/
def configValidateValues (cfg : AtpConfig) : Bool :=
  (if validatePort cfg.api.port then 0 else 1) +
  (if inetPton cfg.api.host then 0 else 1) +
  validateServiceParams cfg +
  rangeError 0 3600 cfg.service.restartDelaySec == 0

/-- A value without a range error is in range. -/
lemma rangeError_eq_zero {lo hi value : Int} : rangeError lo hi value = 0 ↔ lo ≤ value ∧ value ≤ hi := by
  rw [rangeError]
  split <;> omega

/-- The supervisor settings of a validated configuration are in their ranges. -/
lemma configValidateValues_service {cfg : AtpConfig} (ok : configValidateValues cfg = true) :
    0 < cfg.service.startTimeoutSec ∧ 0 < cfg.service.stopTimeoutSec ∧
      0 < cfg.service.maxFailures ∧ 0 < cfg.service.healthCheckIntervalMs := by
  simp only [configValidateValues, validateServiceParams, beq_iff_eq, Nat.add_eq_zero_iff,
    rangeError_eq_zero] at ok
  omega

/-- The defaults pass their own validation. -/
theorem configSetDefaults_valid {appDir : Str} {netAdmin : Bool} :
    configValidateValues (configSetDefaults appDir netAdmin) = true := by
  rfl

end Atpd.Config
