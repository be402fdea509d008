import Mathlib.Algebra.Group.Int.Defs
import Atpd.Config.Precedence

/-!
# The port in `config.json`

A port in `config.json` may be any integer that yyjson stores in 64 bits. `config_sync_from_singbox_json`
takes it as an `int` before it is checked, so an integer that is a port modulo 2^32 passes for that port.
`json_port_iff` says which integers are treated as they should be.
-/

namespace Atpd.Config

variable {p : Presence} {cfg cfg1 : AtpConfig} {n : Int}

/-- The conversion to `int` finds a port in the low 32 bits. -/
lemma validatePort_getInt : validatePort (getInt n) = true ↔ 1 ≤ n % 2 ^ 32 ∧ n % 2 ^ 32 ≤ 65535 := by
  rw [validatePort, decide_eq_true_iff, getInt, Int.bmod]
  split <;> omega

/-- A port is not cut. -/
lemma getInt_port (low : 1 ≤ n) (high : n ≤ 65535) : getInt n = n := by
  rw [getInt, Int.bmod]
  split <;> omega

/-- A port that `atp.conf` does not give is taken from `config.json`. -/
lemma applyPort_int (absent : p.apiPort = false) : applyPort p cfg (some (.int n)) =
    if validatePort (getInt n) then some { cfg with api := { cfg.api with port := getInt n } } else none := by
  rw [applyPort, absent]
  cases validatePort (getInt n) <;> rfl

/-- Whether the secret is accepted does not depend on the rest, and it does not touch the port. -/
lemma applySecret_port {value : Option Json} (valid : (applySecret p cfg value).isSome) :
    ∃ cfg2, applySecret p cfg1 value = some cfg2 ∧ cfg2.api.port = cfg1.api.port := by
  unfold applySecret at valid ⊢
  split at valid
  · exact ⟨cfg1, rfl, rfl⟩
  · split at valid
    · rename_i guard
      rw [if_pos guard]
      rw [Option.isSome_map] at valid
      obtain ⟨secret, copied⟩ := Option.isSome_iff_exists.mp valid
      rw [copied]
      exact ⟨_, rfl, rfl⟩
    · rename_i guard
      rw [if_neg guard]
      exact ⟨cfg1, rfl, rfl⟩
  · cases valid

/-- What becomes of an integer as the port, where nothing else is invalid. -/
lemma configSync_port {root service : Json} (absent : p.apiPort = false)
    (fits : (cfg.core.dataDir ++ "/config.json".toList).length < pathMax)
    (api : apiService root = some service)
    (port : (service.get "listen_port" <|> service.get "port") = some (.int n))
    (listen : (applyListen p cfg (service.get "listen")).isSome)
    (secret : (applySecret p cfg (service.get "secret")).isSome) :
    (∃ cfg1, configSyncFromSingboxJson (.parsed root) cfg p = .ok cfg1 ∧ cfg1.api.port = getInt n ∧
      validatePort (getInt n) = true) ∨
    (configSyncFromSingboxJson (.parsed root) cfg p = .error .config ∧ validatePort (getInt n) = false) := by
  obtain ⟨cfg1, listened⟩ := Option.isSome_iff_exists.mp listen
  rw [configSyncFromSingboxJson, if_neg (Nat.not_le.mpr fits)]
  simp only [api, applyService, listened, port, applyPort_int absent, Option.bind_eq_bind, Option.bind_some]
  cases valid : validatePort (getInt n) with
  | false => exact .inr ⟨rfl, rfl⟩
  | true =>
    obtain ⟨cfg2, stored, same⟩ := @applySecret_port p cfg
      { cfg1 with api := { cfg1.api with port := getInt n } } _ secret
    simp only [if_true, Option.bind_some, stored]
    exact .inl ⟨cfg2, rfl, same, trivial⟩

/-- For every integer in `config.json` as the port of the API service, where `atp.conf` gives none and
nothing else is invalid: it is accepted exactly if it is a port, and then it is the port of the
configuration; exactly if it is a port, or its low 32 bits are none. -/
theorem json_port_iff (cfg : AtpConfig) (p : Presence) (root service : Json) (n : Int)
    (absent : p.apiPort = false) (fits : (cfg.core.dataDir ++ "/config.json".toList).length < pathMax)
    (api : apiService root = some service)
    (port : (service.get "listen_port" <|> service.get "port") = some (.int n))
    (listen : (applyListen p cfg (service.get "listen")).isSome)
    (secret : (applySecret p cfg (service.get "secret")).isSome) :
    (((∃ cfg1, configSyncFromSingboxJson (.parsed root) cfg p = .ok cfg1) ↔ 1 ≤ n ∧ n ≤ 65535) ∧
      ∀ cfg1, configSyncFromSingboxJson (.parsed root) cfg p = .ok cfg1 → cfg1.api.port = n) ↔
    (1 ≤ n ∧ n ≤ 65535) ∨ ¬(1 ≤ n % 2 ^ 32 ∧ n % 2 ^ 32 ≤ 65535) := by
  rw [← validatePort_getInt]
  obtain ⟨cfg1, ok, stored, valid⟩ | ⟨failed, invalid⟩ :=
    configSync_port absent fits api port listen secret
  · rw [ok]
    constructor
    · rintro ⟨accepted, -⟩
      exact .inl (accepted.mp ⟨cfg1, rfl⟩)
    · rintro (range | none)
      · refine ⟨iff_of_true ⟨cfg1, rfl⟩ range, ?_⟩
        rintro _ ⟨rfl⟩
        rw [stored, getInt_port range.1 range.2]
      · exact absurd valid none
  · rw [failed]
    have outside : ¬(1 ≤ n ∧ n ≤ 65535) := by
      rintro ⟨low, high⟩
      rw [getInt_port low high] at invalid
      simp [validatePort, low, high] at invalid
    refine iff_of_true ⟨iff_of_false (by simp) outside, by simp⟩ (.inr ?_)
    simp [invalid]

/-- An API service with this port. -/
def portService (n : Int) : Json :=
  .obj [("services".toList, .arr [.obj [("type".toList, .str "api".toList),
    ("listen_port".toList, .int n)]])]

/-- 2^32 + 80 passes for the port 80. -/
theorem json_port_wraps : ∃ cfg1,
    configSyncFromSingboxJson (.parsed (portService 4294967376)) (configSetDefaults "/data".toList false)
      ⟨false, false, false⟩ = .ok cfg1 ∧ cfg1.api.port = 80 ∧ ¬(4294967376 : Int) ≤ 65535 :=
  ⟨_, rfl, by decide, by decide⟩

/-- Port 9090 is taken as it is. -/
theorem json_port_iff_9090 : ∃ cfg1,
    configSyncFromSingboxJson (.parsed (portService 9090)) (configSetDefaults "/data".toList false)
      ⟨false, false, false⟩ = .ok cfg1 ∧ cfg1.api.port = 9090 := by
  obtain ⟨accepted, stored⟩ := (json_port_iff (configSetDefaults "/data".toList false) ⟨false, false, false⟩
    (portService 9090) _ 9090 rfl (by decide) rfl rfl rfl rfl).mpr (.inl (by decide))
  obtain ⟨cfg1, ok⟩ := accepted.mpr (by decide)
  exact ⟨cfg1, ok, stored cfg1 ok⟩

end Atpd.Config
