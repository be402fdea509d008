import Atpd.Config.File
import Mathlib.Algebra.Group.Nat.Defs
import Mathlib.Data.List.Nodup
import Mathlib.Data.List.Perm.Subperm

/-!
# `atp.conf` before `config.json`

`config_load` and `config_prepare_reload` of `src/config.c` read `atp.conf` over the defaults and then
complete the API section from sing-box's own `config.json`. The JSON text itself is read by yyjson:
the file is given by what yyjson makes of it.

The main result compares two loads of the same `atp.conf` with different JSON files.
-/

namespace Atpd.Config

/-! ## JSON values -/

/-- A JSON value as yyjson delivers it. A string may contain NUL; the value of a real number is never
read. -/
inductive Json where
  | null
  | bool (b : Bool)
  | int (n : Int)
  | real
  | str (s : Str)
  | arr (items : List Json)
  | obj (members : List (Str × Json))

/-- `yyjson_obj_get`: the first member of that name, if the value is an object. -/
def Json.get (name : String) : Json → Option Json
  | .obj members => (members.find? fun m => m.1 == name.toList).map (·.2)
  | _ => none

/-- `yyjson_is_obj`. -/
def Json.isObj : Json → Bool
  | .obj _ => true
  | _ => false

/-- `yyjson_get_int`: the low 32 bits of an integer of at most 64. -/
def getInt (n : Int) : Int := n.bmod (2 ^ 32)

/-! ## The API section -/

/-- An item of `services` with the type `api`. -/
def isApiService (item : Json) : Bool :=
  match item.get "type" with
  | some (.str type) => cString type == "api".toList
  | _ => false

/-- The API object: in the array `services`, else the member `api`, else `experimental.api`. -/
def apiService (root : Json) : Option Json :=
  let listed :=
    match root.get "services" with
    | some (.arr items) => items.find? isApiService
    | _ => none
  let top := (root.get "api").filter Json.isObj
  let experimental := ((root.get "experimental").bind (Json.get "api")).filter Json.isObj
  listed <|> top <|> experimental

/-- `strrchr(s, ':')`: what precedes the last colon, and what follows it. -/
def lastColon (s : Str) : Option (Str × Str) :=
  match s.reverse.dropWhile (· != ':') with
  | [] => none
  | _ :: host => some (host.reverse, (s.reverse.takeWhile (· != ':')).reverse)

/-- The text of `listen`: `host:port`, `:port` or `host`. -/
def applyAddress (p : Presence) (cfg : AtpConfig) (listen : Str) : Option AtpConfig :=
  if listen = [] then some cfg
  else
    match lastColon listen with
    | some (host, text) => do
      let port ← configParseInt text
      if !validatePort port then none
      else
        let cfg := if p.apiPort then cfg else { cfg with api := { cfg.api with port := port } }
        if host ≠ [] ∧ !p.apiHost then
          if host.length < 64 then some { cfg with api := { cfg.api with host := host } } else none
        else some cfg
    | none =>
      if p.apiHost then some cfg
      else (configCopyString 64 listen).map fun s => { cfg with api := { cfg.api with host := s } }

/-- The member `listen`; a value that is not a string is ignored. -/
def applyListen (p : Presence) (cfg : AtpConfig) : Option Json → Option AtpConfig
  | some (.str listen) => applyAddress p cfg (cString listen)
  | _ => some cfg

/-- The member `listen_port` or `port`. -/
def applyPort (p : Presence) (cfg : AtpConfig) : Option Json → Option AtpConfig
  | none => some cfg
  | some (.int n) =>
    if !validatePort (getInt n) then none
    else if p.apiPort then some cfg
    else some { cfg with api := { cfg.api with port := getInt n } }
  | some _ => none

/-- The member `secret`. -/
def applySecret (p : Presence) (cfg : AtpConfig) : Option Json → Option AtpConfig
  | none => some cfg
  | some (.str s) =>
    if cString s ≠ [] ∧ !p.apiSecret then
      (configCopyString 128 (cString s)).map fun s => { cfg with api := { cfg.api with secret := s } }
    else some cfg
  | some _ => none

/-- The API object is merged into the configuration. -/
def applyService (p : Presence) (cfg : AtpConfig) (service : Json) : Option AtpConfig := do
  let cfg ← applyListen p cfg (service.get "listen")
  let cfg ← applyPort p cfg (service.get "listen_port" <|> service.get "port")
  applySecret p cfg (service.get "secret")

/-- `config.json`: it cannot be read, or yyjson rejects it, or it holds a value. -/
inductive JsonFile where
  | absent
  | malformed
  | parsed (root : Json)

/-- `config_sync_from_singbox_json`. -/
def configSyncFromSingboxJson (file : JsonFile) (cfg : AtpConfig) (p : Presence) :
    Except AtpError AtpConfig :=
  if pathMax ≤ (cfg.core.dataDir ++ "/config.json".toList).length then .error .config
  else
    match file with
    | .absent => .ok cfg
    | .malformed => .error .config
    | .parsed root =>
      match apiService root with
      | none => .ok cfg
      | some service =>
        match applyService p cfg service with
        | none => .error .config
        | some cfg => .ok cfg

/-! ## Loading -/

/-- The two files as `config_load` and `config_prepare_reload` combine them: the presence that the
JSON file is merged under is the one that `config_prepare` has found on the way. -/
def candidateFile (conf : ConfFile) (json : JsonFile) (defaults : AtpConfig) : CandidateFile where
  present := conf.opens
  prepare cfg := (configLoadFileInternal conf cfg).map (·.1)
  sync cfg :=
    match configLoadFileInternal conf defaults with
    | .ok (_, p) => configSyncFromSingboxJson json cfg p
    | .error e => .error e

/-- `config_load`. -/
def configLoad (defaults : AtpConfig) (file : CandidateFile) : Except AtpError AtpConfig :=
  match file.prepare defaults with
  | .error e => .error e
  | .ok tmp =>
    match file.sync tmp with
    | .error _ => .error .config
    | .ok tmp => if configValidateValues tmp then .ok tmp else .error .config

/-- The two functions that load a configuration. -/
inductive Loader where
  | configLoad
  | configPrepareReload (sourcePath : Str)

/-- What a loader makes of the two files; the defaults depend on the environment only. -/
def Loader.load (loader : Loader) (appDir : Str) (netAdmin : Bool) (conf : ConfFile)
    (json : JsonFile) : Except AtpError AtpConfig :=
  let defaults := configSetDefaults appDir netAdmin
  match loader with
  | .configLoad => Config.configLoad defaults (candidateFile conf json defaults)
  | .configPrepareReload sourcePath =>
    Config.configPrepareReload sourcePath defaults (candidateFile conf json defaults)

/-! ## What the JSON file can change -/

variable {p : Presence} {cfg cfg1 cfg2 cfg3 : AtpConfig}

/-- The JSON file has been merged: only fields of the API section that are not present may differ. -/
structure Merged (p : Presence) (cfg cfg' : AtpConfig) : Prop where
  core : cfg'.core = cfg.core
  interface : cfg'.interface = cfg.interface
  service : cfg'.service = cfg.service
  port : p.apiPort = true → cfg'.api.port = cfg.api.port
  host : p.apiHost = true → cfg'.api.host = cfg.api.host
  secret : p.apiSecret = true → cfg'.api.secret = cfg.api.secret

/-- Nothing is merged. -/
lemma Merged.refl : Merged p cfg cfg := ⟨rfl, rfl, rfl, fun _ => rfl, fun _ => rfl, fun _ => rfl⟩

/-- One part of the merge behind another. -/
lemma Merged.trans (h1 : Merged p cfg1 cfg2) (h2 : Merged p cfg2 cfg3) : Merged p cfg1 cfg3 where
  core := h2.core.trans h1.core
  interface := h2.interface.trans h1.interface
  service := h2.service.trans h1.service
  port present := (h2.port present).trans (h1.port present)
  host present := (h2.host present).trans (h1.host present)
  secret present := (h2.secret present).trans (h1.secret present)

/-- The three writes of the merge, each under its guard. -/
lemma Merged.setPort (port : Int) :
    Merged p cfg (if p.apiPort then cfg else { cfg with api := { cfg.api with port := port } }) := by
  split
  · exact .refl
  · rename_i absent
    exact ⟨rfl, rfl, rfl, fun present => absurd present absent, fun _ => rfl, fun _ => rfl⟩

/-- A host is taken from the JSON, if none was given. -/
lemma Merged.setHost {host : Str} (absent : p.apiHost = false) :
    Merged p cfg { cfg with api := { cfg.api with host := host } } :=
  ⟨rfl, rfl, rfl, fun _ => rfl, fun present => by simp [absent] at present, fun _ => rfl⟩

/-- So is a secret. -/
lemma Merged.setSecret {secret : Str} (absent : p.apiSecret = false) :
    Merged p cfg { cfg with api := { cfg.api with secret := secret } } :=
  ⟨rfl, rfl, rfl, fun _ => rfl, fun _ => rfl, fun present => by simp [absent] at present⟩

/-- The address goes to the host. -/
lemma Merged.applyAddress {listen : Str} (ok : applyAddress p cfg listen = some cfg1) :
    Merged p cfg cfg1 := by
  rw [Config.applyAddress] at ok
  split at ok
  · cases ok
    exact .refl
  · split at ok
    · rename_i host text _
      simp only [Option.bind_eq_bind, Option.bind_eq_some_iff] at ok
      obtain ⟨port, -, ok⟩ := ok
      split at ok
      · cases ok
      · split at ok
        · rename_i guard
          split at ok
          · cases ok
            exact (Merged.setPort port).trans (.setHost (by simpa using guard.2))
          · cases ok
        · cases ok
          exact .setPort port
    · split at ok
      · cases ok
        exact .refl
      · rename_i absent
        obtain ⟨host, -, rfl⟩ := Option.map_eq_some_iff.mp ok
        exact .setHost (by simpa using absent)

/-- The listen address, if it is there. -/
lemma Merged.applyListen {value : Option Json} (ok : applyListen p cfg value = some cfg1) :
    Merged p cfg cfg1 := by
  unfold Config.applyListen at ok
  split at ok
  · exact .applyAddress ok
  · cases ok
    exact .refl

/-- The port, if it is there. -/
lemma Merged.applyPort {value : Option Json} (ok : applyPort p cfg value = some cfg1) :
    Merged p cfg cfg1 := by
  unfold Config.applyPort at ok
  split at ok
  · cases ok
    exact .refl
  · rename_i n
    split at ok
    · cases ok
    · have stored : (if p.apiPort then cfg else { cfg with api := { cfg.api with port := getInt n } }) =
          cfg1 := by
        split at ok <;> simp_all
      exact stored ▸ .setPort (getInt n)
  · cases ok

/-- The secret, if it is there. -/
lemma Merged.applySecret {value : Option Json} (ok : applySecret p cfg value = some cfg1) :
    Merged p cfg cfg1 := by
  unfold Config.applySecret at ok
  split at ok
  · cases ok
    exact .refl
  · split at ok
    · rename_i guard
      obtain ⟨secret, -, rfl⟩ := Option.map_eq_some_iff.mp ok
      exact .setSecret (by simpa using guard.2)
    · cases ok
      exact .refl
  · cases ok

/-- All three of a service. -/
lemma Merged.applyService {service : Json} (ok : applyService p cfg service = some cfg1) :
    Merged p cfg cfg1 := by
  simp only [Config.applyService, Option.bind_eq_bind, Option.bind_eq_some_iff] at ok
  obtain ⟨cfg2, listened, cfg3, ported, ok⟩ := ok
  exact ((Merged.applyListen listened).trans (.applyPort ported)).trans (.applySecret ok)

/-- Whatever `config.json` holds, the merge respects what is present. -/
lemma configSync_merged {json : JsonFile} (ok : configSyncFromSingboxJson json cfg p = .ok cfg1) :
    Merged p cfg cfg1 := by
  unfold configSyncFromSingboxJson at ok
  split at ok
  · cases ok
  · split at ok
    · cases ok
      exact .refl
    · cases ok
    · split at ok
      · cases ok
        exact .refl
      · split at ok
        · cases ok
        · rename_i applied
          cases ok
          exact .applyService applied

/-- A load that succeeds: what `config_prepare` reads, and the merge over it. -/
lemma Loader.load_ok {loader : Loader} {appDir : Str} {netAdmin : Bool} {conf : ConfFile}
    {json : JsonFile} (ok : loader.load appDir netAdmin conf json = .ok cfg1) :
    ∃ cfg p, configLoadFileInternal conf (configSetDefaults appDir netAdmin) = .ok (cfg, p) ∧
      Merged p cfg cfg1 := by
  -- both loaders read the file twice, and the second reading is the one that counts
  have read : ∀ cfg, (candidateFile conf json (configSetDefaults appDir netAdmin)).prepare
      (configSetDefaults appDir netAdmin) = .ok cfg →
      (candidateFile conf json (configSetDefaults appDir netAdmin)).sync cfg = .ok cfg1 →
      ∃ cfg p, configLoadFileInternal conf (configSetDefaults appDir netAdmin) = .ok (cfg, p) ∧
        Merged p cfg cfg1 := by
    intro cfg prepared synced
    simp only [candidateFile] at prepared synced
    cases loaded : configLoadFileInternal conf (configSetDefaults appDir netAdmin) with
    | error e => simp [loaded, Except.map] at prepared
    | ok read =>
      obtain ⟨cfg', p⟩ := read
      simp only [loaded, Except.map, Except.ok.injEq] at prepared synced
      subst prepared
      exact ⟨cfg', p, rfl, configSync_merged synced⟩
  cases loader with
  | configLoad =>
    simp only [Loader.load, Config.configLoad] at ok
    split at ok
    · cases ok
    · rename_i prepared
      split at ok
      · cases ok
      · rename_i synced
        split at ok
        · cases ok
          exact read _ prepared synced
        · cases ok
  | configPrepareReload sourcePath =>
    simp only [Loader.load, Config.configPrepareReload] at ok
    split at ok
    · cases ok
    · split at ok
      · cases ok
      · split at ok
        · cases ok
        · rename_i prepared
          split at ok
          · cases ok
          · rename_i synced
            split at ok
            · cases ok
              exact read _ prepared synced
            · cases ok

/-! ## What `atp.conf` gives -/

/-- Among the lines there is one that gives `v` to the key, or an alias of it. -/
def AssignsIn (lines : List (Str × Bool)) (canonical : String) (v : Str) : Prop :=
  ∃ line ∈ lines, ∃ k spec, readLine line.1 line.2 = .ok (.assign k v) ∧
    configSchemaFind k = some spec ∧ spec.canonicalName = canonical

/-- The text gives `v` to the key, or an alias of it. -/
def Assigns (text : Str) (canonical : String) (v : Str) : Prop :=
  AssignsIn (fgetsAll 1024 [] text) canonical v

variable {k v : Str} {spec : KeySpec} {st st' : Loading} {lines : List (Str × Bool)} {lineNo : Nat}

/-- A key that is found is in the schema, under its name. -/
lemma configSchemaFind_mem (found : configSchemaFind k = some spec) :
    spec ∈ configSchema ∧ String.ofList k = spec.name := by
  have named := List.find?_some found
  exact ⟨List.mem_of_find?_eq_some found, (beq_iff_eq.mp named).symm⟩

/-- The three API fields change under their own keys only. -/
lemma storeInt_api {value : Int} (ok : storeInt k value cfg = some cfg1) :
    (String.ofList k ≠ "API_PORT" → cfg1.api.port = cfg.api.port) ∧
    cfg1.api.host = cfg.api.host ∧ cfg1.api.secret = cfg.api.secret := by
  unfold storeInt at ok
  split at ok <;> cases ok <;> simp_all

/-- No switch is part of the API. -/
lemma storeBool_api {value : Bool} (ok : storeBool k value cfg = some cfg1) : cfg1.api = cfg.api := by
  unfold storeBool at ok
  split at ok <;> cases ok <;> rfl

/-- Nor are user and group. -/
lemma storeUserGroup_api (ok : storeUserGroup v cfg = some cfg1) : cfg1.api = cfg.api := by
  unfold storeUserGroup at ok
  dsimp only at ok
  split at ok
  · cases ok
  · split at ok <;> cases ok
    rfl

/-- Of the strings, host and secret are. -/
lemma storeString_api (ok : storeString k v cfg = some cfg1) :
    cfg1.api.port = cfg.api.port ∧
    (String.ofList k ≠ "API_HOST" → cfg1.api.host = cfg.api.host) ∧
    (String.ofList k ≠ "API_SECRET" → String.ofList k ≠ "CLASH_SECRET" →
      cfg1.api.secret = cfg.api.secret) := by
  unfold storeString at ok
  split at ok
  all_goals first
    | (rw [storeUserGroup_api ok]; exact ⟨rfl, fun _ => rfl, fun _ _ => rfl⟩)
    | (obtain ⟨s, -, rfl⟩ := Option.map_eq_some_iff.mp ok; simp_all)
    | cases ok

/-- An assignment changes the field of its own key. -/
lemma parseKeyValue_api (ok : parseKeyValue spec k v cfg = some cfg1) :
    (String.ofList k ≠ "API_PORT" → cfg1.api.port = cfg.api.port) ∧
    (String.ofList k ≠ "API_HOST" → cfg1.api.host = cfg.api.host) ∧
    (String.ofList k ≠ "API_SECRET" → String.ofList k ≠ "CLASH_SECRET" →
      cfg1.api.secret = cfg.api.secret) := by
  rw [parseKeyValue] at ok
  split at ok
  · cases ok
  · split at ok
    · obtain ⟨value, -, stored⟩ := Option.bind_eq_some_iff.mp ok
      obtain ⟨port, host, secret⟩ := storeInt_api stored
      exact ⟨port, fun _ => host, fun _ _ => secret⟩
    · obtain ⟨value, -, stored⟩ := Option.bind_eq_some_iff.mp ok
      rw [storeBool_api stored]
      exact ⟨fun _ => rfl, fun _ => rfl, fun _ _ => rfl⟩
    · obtain ⟨port, host, secret⟩ := storeString_api ok
      exact ⟨fun _ => port, host, secret⟩

/-- A field of the API section: its canonical name, the values that a text can give it, and the mark
that says that it is present. -/
structure Field (α : Type) where
  canonical : String
  get : AtpConfig → α
  value : Str → Option α
  mark : Presence → Bool

/-- What `config_load_file_internal` does with a field: its keys store the value that they give, the
other keys leave it alone, and the mark is set by its keys. -/
structure Field.Lawful {α : Type} (f : Field α) : Prop where
  writes : ∀ {k v spec cfg cfg1}, configSchemaFind k = some spec →
    parseKeyValue spec k v cfg = some cfg1 → spec.canonicalName = f.canonical →
    f.value v = some (f.get cfg1)
  frame : ∀ {k v spec cfg cfg1}, configSchemaFind k = some spec →
    parseKeyValue spec k v cfg = some cfg1 → spec.canonicalName ≠ f.canonical →
    f.get cfg1 = f.get cfg
  marks : ∀ p canonical, f.mark (p.mark canonical) = (f.mark p || canonical == f.canonical)

/-- `api.port`, `api.host` and `api.secret`. -/
def portField : Field Int := ⟨"API_PORT", (·.api.port), configParseInt, (·.apiPort)⟩

/-- The host of the API. -/
def hostField : Field Str := ⟨"API_HOST", (·.api.host), some, (·.apiHost)⟩

/-- Its secret. -/
def secretField : Field Str := ⟨"API_SECRET", (·.api.secret), some, (·.apiSecret)⟩

/-- A key that stands for another setting has another name. -/
lemma name_ne_of_canonical {name canonical : String}
    (own : ∀ spec ∈ configSchema, spec.name = name → spec.canonicalName = canonical)
    (found : configSchemaFind k = some spec) (other : spec.canonicalName ≠ canonical) :
    String.ofList k ≠ name := by
  obtain ⟨mem, named⟩ := configSchemaFind_mem found
  exact fun same => other (own spec mem (named ▸ same))

/-- Only API_PORT writes the port. -/
lemma portField_lawful : portField.Lawful where
  writes := by
    intro k v spec cfg cfg1 found ok canonical
    obtain ⟨mem, named⟩ := configSchemaFind_mem found
    have only : ∀ spec ∈ configSchema, spec.canonicalName = "API_PORT" →
        spec = ⟨"API_PORT", .int, "API_PORT", false⟩ := by decide +kernel
    rw [only spec mem canonical] at ok named
    rw [parseKeyValue] at ok
    split at ok
    · cases ok
    · obtain ⟨value, parsed, stored⟩ := Option.bind_eq_some_iff.mp ok
      simp only [storeInt, named, Option.some.injEq] at stored
      subst stored
      exact parsed
  frame := by
    intro k v spec cfg cfg1 found ok other
    exact (parseKeyValue_api ok).1 (name_ne_of_canonical (by decide) found other)
  marks _ _ := rfl

/-- Only API_HOST writes the host. -/
lemma hostField_lawful : hostField.Lawful where
  writes := by
    intro k v spec cfg cfg1 found ok canonical
    obtain ⟨mem, named⟩ := configSchemaFind_mem found
    have only : ∀ spec ∈ configSchema, spec.canonicalName = "API_HOST" →
        spec = ⟨"API_HOST", .string, "API_HOST", false⟩ := by decide +kernel
    rw [only spec mem canonical] at ok named
    rw [parseKeyValue] at ok
    split at ok
    · cases ok
    · simp only [storeString, named, configCopyString] at ok
      split at ok <;> cases ok
      rfl
  frame := by
    intro k v spec cfg cfg1 found ok other
    exact (parseKeyValue_api ok).2.1 (name_ne_of_canonical (by decide) found other)
  marks _ _ := rfl

/-- The secret has an alias. -/
lemma secretField_lawful : secretField.Lawful where
  writes := by
    intro k v spec cfg cfg1 found ok canonical
    obtain ⟨mem, named⟩ := configSchemaFind_mem found
    have only : ∀ spec ∈ configSchema, spec.canonicalName = "API_SECRET" →
        spec = ⟨"API_SECRET", .string, "API_SECRET", true⟩ ∨
        spec = ⟨"CLASH_SECRET", .string, "API_SECRET", true⟩ := by decide +kernel
    obtain rfl | rfl := only spec mem canonical <;>
    · simp only [parseKeyValue, storeString, named, configCopyString, Bool.not_true, Bool.false_and,
        Bool.false_eq_true, if_false] at ok
      split at ok <;> cases ok
      rfl
  frame := by
    intro k v spec cfg cfg1 found ok other
    exact (parseKeyValue_api ok).2.2 (name_ne_of_canonical (by decide) found other)
      (name_ne_of_canonical (by decide) found other)
  marks _ _ := rfl

/-- The list of the keys that were seen has room for every name of the schema. -/
structure Room (st : Loading) : Prop where
  nodup : st.seenKeys.Nodup
  names : st.seenKeys ⊆ configSchema.map (·.canonicalName)

/-- There is room for every key of the table. -/
lemma Room.length_lt (ro : Room st) : st.seenKeys.length < 64 := by
  have bound := (List.Nodup.subperm ro.nodup ro.names).length_le
  rw [List.length_map] at bound
  exact Nat.lt_of_le_of_lt bound (by decide)

/-- A line with a key that is accepted. -/
lemma assign_ok (ro : Room st) (ok : assign st k v = .ok st') :
    ∃ spec, configSchemaFind k = some spec ∧ parseKeyValue spec k v st.cfg = some st'.cfg ∧
      spec.canonicalName ∉ st.seenKeys ∧ st'.seenKeys = st.seenKeys ++ [spec.canonicalName] ∧
      st'.presence = st.presence.mark spec.canonicalName ∧ Room st' := by
  rw [assign] at ok
  split at ok
  · cases ok
  · rename_i spec found
    split at ok
    · cases ok
    · rename_i fresh
      dsimp only at ok
      split at ok
      · cases ok
      · rename_i cfg parsed
        cases ok
        have grown : (if st.seenKeys.length < 64 then st.seenKeys ++ [spec.canonicalName]
            else st.seenKeys) = st.seenKeys ++ [spec.canonicalName] := if_pos ro.length_lt
        refine ⟨spec, found, parsed, fresh, grown, rfl, ?_, ?_⟩
        · rw [grown]
          refine List.Nodup.append ro.nodup (List.nodup_singleton _) ?_
          simpa using fresh
        · rw [grown]
          refine List.append_subset.mpr ⟨ro.names, ?_⟩
          simpa using ⟨spec, (configSchemaFind_mem found).1, rfl⟩

/-- The whole file: a field keeps what it has once its key was seen, and has in the end what a line
gives it. -/
lemma Field.Lawful.loadLines {α : Type} {f : Field α} (lf : f.Lawful) (ro : Room st)
    (ok : loadLines lineNo st lines = .ok st') :
    (f.canonical ∈ st.seenKeys → f.get st'.cfg = f.get st.cfg) ∧
    (f.mark st.presence = true → f.mark st'.presence = true) ∧
    ∀ v, AssignsIn lines f.canonical v → f.mark st'.presence = true ∧ f.value v = some (f.get st'.cfg) := by
  induction lines generalizing st lineNo with
  | nil =>
    cases ok
    exact ⟨fun _ => rfl, id, by rintro v ⟨line, mem, -⟩; cases mem⟩
  | cons line lines ih =>
    obtain ⟨buf, atEof⟩ := line
    rw [Config.loadLines] at ok
    split at ok
    · cases ok
    · rename_i skipped
      obtain ⟨kept, marked, given⟩ := ih ro ok
      refine ⟨kept, marked, ?_⟩
      rintro v ⟨line, mem, k, spec, read, rest⟩
      obtain rfl | mem := List.mem_cons.mp mem
      · cases skipped.symm.trans read
      · exact given v ⟨line, mem, k, spec, read, rest⟩
    · rename_i k v read
      split at ok
      · cases ok
      · rename_i st1 assigned
        -- a key that was seen before would be refused as a duplicate
        obtain ⟨spec, found, parsed, fresh, seen, presence, ro1⟩ := assign_ok ro assigned
        obtain ⟨kept, marked, given⟩ := ih ro1 ok
        have marks := lf.marks st.presence spec.canonicalName
        rw [← presence] at marks
        refine ⟨?_, ?_, ?_⟩
        · intro mem
          -- so this line is about another field
          have other : spec.canonicalName ≠ f.canonical := fun same => fresh (same ▸ mem)
          exact (kept (by simp [seen, mem])).trans (lf.frame found parsed other)
        · intro mark
          exact marked (by simp [marks, mark])
        · rintro v1 ⟨line, mem, k1, spec1, read1, found1, canonical⟩
          obtain rfl | mem := List.mem_cons.mp mem
          · cases read.symm.trans read1
            cases found.symm.trans found1
            rw [lf.writes found parsed canonical, kept (by simp [seen, canonical])]
            exact ⟨marked (by simp [marks, canonical]), rfl⟩
          · exact given v1 ⟨line, mem, k1, spec1, read1, found1, canonical⟩

/-- RUN_DIR has nothing to do with the API. -/
lemma configApplyRunDirDefaults_api (ok : configApplyRunDirDefaults cfg = some cfg1) :
    cfg1.api = cfg.api := by
  rw [configApplyRunDirDefaults] at ok
  split at ok
  · cases ok
    rfl
  · simp only [Option.bind_eq_bind, Option.bind_eq_some_iff, Option.some.injEq] at ok
    obtain ⟨pidFile, -, logFile, -, rfl⟩ := ok
    rfl

/-- A field that the file gives a value is present and has that value. -/
lemma configLoadFileInternal_gives {α : Type} {f : Field α} {conf : ConfFile} (lf : f.Lawful)
    (api : ∀ cfg cfg1 : AtpConfig, cfg1.api = cfg.api → f.get cfg1 = f.get cfg)
    (ok : configLoadFileInternal conf cfg = .ok (cfg1, p)) (given : Assigns conf.text f.canonical v) :
    f.mark p = true ∧ f.value v = some (f.get cfg1) := by
  rw [configLoadFileInternal] at ok
  split at ok
  · cases ok
  · split at ok
    · cases ok
    · rename_i st loaded
      split at ok
      · cases ok
      · split at ok
        · cases ok
        · rename_i moved
          cases ok
          obtain ⟨-, -, gives⟩ := lf.loadLines ⟨List.nodup_nil, List.nil_subset _⟩ loaded
          rw [api _ _ (configApplyRunDirDefaults_api moved)]
          exact gives v given

/-- `atp.conf` has precedence over `config.json`: for every text of `atp.conf` and any two contents of
`config.json` with which a loader succeeds in the same environment, the core, interface and service
sections of the results are the same, and a field of the API section that `atp.conf` gives a value has
that value in both. -/
theorem atpConf_precedence (loader : Loader) (appDir : Str) (netAdmin : Bool) (conf : ConfFile)
    (json1 json2 : JsonFile) (ok1 : loader.load appDir netAdmin conf json1 = .ok cfg1)
    (ok2 : loader.load appDir netAdmin conf json2 = .ok cfg2) :
    cfg1.core = cfg2.core ∧ cfg1.interface = cfg2.interface ∧ cfg1.service = cfg2.service ∧
    (∀ v, Assigns conf.text "API_PORT" v →
      configParseInt v = some cfg1.api.port ∧ configParseInt v = some cfg2.api.port) ∧
    (∀ v, Assigns conf.text "API_HOST" v → cfg1.api.host = v ∧ cfg2.api.host = v) ∧
    (∀ v, Assigns conf.text "API_SECRET" v → cfg1.api.secret = v ∧ cfg2.api.secret = v) := by
  obtain ⟨cfg, p, read, merged1⟩ := Loader.load_ok ok1
  obtain ⟨cfg', p', read', merged2⟩ := Loader.load_ok ok2
  obtain ⟨rfl, rfl⟩ : cfg' = cfg ∧ p' = p := by
    rw [read] at read'
    cases read'
    exact ⟨rfl, rfl⟩
  refine ⟨merged1.core.trans merged2.core.symm, merged1.interface.trans merged2.interface.symm,
    merged1.service.trans merged2.service.symm, ?_, ?_, ?_⟩
  · intro v given
    obtain ⟨present, value⟩ := configLoadFileInternal_gives portField_lawful
      (fun _ _ api => congrArg ApiConfig.port api) read given
    rw [merged1.port present, merged2.port present]
    exact ⟨value, value⟩
  · intro v given
    obtain ⟨present, value⟩ := configLoadFileInternal_gives hostField_lawful
      (fun _ _ api => congrArg ApiConfig.host api) read given
    rw [merged1.host present, merged2.host present]
    exact ⟨(Option.some.inj value).symm, (Option.some.inj value).symm⟩
  · intro v given
    obtain ⟨present, value⟩ := configLoadFileInternal_gives secretField_lawful
      (fun _ _ api => congrArg ApiConfig.secret api) read given
    rw [merged1.secret present, merged2.secret present]
    exact ⟨(Option.some.inj value).symm, (Option.some.inj value).symm⟩

/-- A file that gives the port and, by its alias, the secret. -/
def portAndSecret : ConfFile :=
  ⟨true, "# API\nAPI_PORT = 9091\nCLASH_SECRET='s3cret'\n".toList, true, true⟩

/-- A file that listens elsewhere, with another secret. -/
def listening : JsonFile :=
  .parsed (.obj [("services".toList, .arr [.obj [("type".toList, .str "api".toList),
    ("listen".toList, .str "10.0.0.1:7777".toList), ("secret".toList, .str "other".toList)]])])

/-- Port and secret of the file stay, whatever the service listens on. -/
theorem atpConf_precedence_listening : ∃ cfg1 cfg2,
    Loader.configLoad.load "/data".toList false portAndSecret .absent = .ok cfg1 ∧
    Loader.configLoad.load "/data".toList false portAndSecret listening = .ok cfg2 ∧
    cfg1.core = cfg2.core ∧ cfg1.api.host ≠ cfg2.api.host ∧
    some cfg2.api.port = configParseInt "9091".toList ∧ cfg2.api.secret = "s3cret".toList := by
  have port : Assigns portAndSecret.text "API_PORT" "9091".toList :=
    ⟨("API_PORT = 9091\n".toList, false), by decide +kernel, "API_PORT".toList,
      ⟨"API_PORT", .int, "API_PORT", false⟩, rfl, rfl, rfl⟩
  have secret : Assigns portAndSecret.text "API_SECRET" "s3cret".toList :=
    ⟨("CLASH_SECRET='s3cret'\n".toList, false), by decide +kernel, "CLASH_SECRET".toList,
      ⟨"CLASH_SECRET", .string, "API_SECRET", true⟩, rfl, rfl, rfl⟩
  obtain ⟨cfg1, ok1, host1⟩ : ∃ cfg1,
      Loader.configLoad.load "/data".toList false portAndSecret .absent = .ok cfg1 ∧
        cfg1.api.host = "127.0.0.1".toList := ⟨_, rfl, by decide +kernel⟩
  obtain ⟨cfg2, ok2, host2⟩ : ∃ cfg2,
      Loader.configLoad.load "/data".toList false portAndSecret listening = .ok cfg2 ∧
        cfg2.api.host = "10.0.0.1".toList := ⟨_, rfl, by decide +kernel⟩
  obtain ⟨core, -, -, ports, -, secrets⟩ := atpConf_precedence .configLoad "/data".toList false
    portAndSecret .absent listening ok1 ok2
  refine ⟨cfg1, cfg2, ok1, ok2, core, ?_, (ports _ port).2.symm, (secrets _ secret).2⟩
  rw [host1, host2]
  decide

end Atpd.Config
