import Atpd.Config.File
import Atpd.Lib.Words
import Atpd.Service.Types

/-!
# Arguments of the child

`build_service_args`: the vector that the child is executed with. It starts with the binary, `run`, the
working directory and, unless the user's arguments are taken to name a configuration, the default one;
the space-separated words of `SERVICE_ARGS` follow while there are slots.

Both decisions are taken on something else than the words: the configuration is searched for in the
whole string, and the loop stops at a slot. `default_config_iff` and `user_args_kept_iff` say when this
makes no difference.
-/

namespace Atpd.Service

open Atpd.Config
open Atpd.Lib

variable {ctx : ServiceCtx} {alloc : Nat → Bool} {args : List Str} {text token : Str} {slots : Nat}

/-! ## The vector -/

/-- `strdup(text)` into `args[idx++]`, or `NULL`. `alloc n` says whether the `n`-th allocation of the
call succeeds; the vector itself is the first one, with the number 0. -/
def push (alloc : Nat → Bool) (args : List Str) (text : Str) : Option (List Str) :=
  if alloc (args.length + 1) then some (args ++ [text]) else none

/-- `has_custom_c`. -/
def hasCustomC (ctx : ServiceCtx) : Bool :=
  !ctx.serviceArgs.isEmpty &&
    ((cut "-c".toList ctx.serviceArgs).isSome || (cut "-C".toList ctx.serviceArgs).isSome)

/-- `build_service_args`, up to the user's arguments. -/
def headArgs (ctx : ServiceCtx) (alloc : Nat → Bool) : Option (List Str) := do
  let args ← push alloc [] ctx.binPath
  let args ← push alloc args "run".toList
  let args ←
    if ctx.workDir.isEmpty then some args
    else do
      let args ← push alloc args "-D".toList
      push alloc args ctx.workDir
  if !hasCustomC ctx && !ctx.confPath.isEmpty then do
    let args ← push alloc args "-c".toList
    push alloc args ctx.confPath
  else some args

/-- `while (token && idx < 28)`, with `28 - idx` slots left and `token` the last answer of `strtok_r`:
a token and what is left behind it. -/
def pushTokens (alloc : Nat → Bool) : Nat → List Str → Option (Str × Str) → Option (List Str)
  | slots + 1, args, some (token, saved) => do
    let args ← push alloc args token
    pushTokens alloc slots args (nextWord ' ' saved)
  | _, args, _ => some args

/-- `build_service_args`: what stands in the vector before the `NULL`. -/
def buildServiceArgs (ctx : ServiceCtx) (alloc : Nat → Bool) : Option (List Str) := do
  if alloc 0 then
    let args ← headArgs ctx alloc
    if ctx.serviceArgs.isEmpty then some args
    else pushTokens alloc (28 - args.length) args (nextWord ' ' (truncate 512 ctx.serviceArgs))
  else none

/-! ## What is built -/

/-- The arguments that are there whatever the user gives. -/
def baseArgs (ctx : ServiceCtx) : List Str :=
  [ctx.binPath, "run".toList] ++ if ctx.workDir.isEmpty then [] else ["-D".toList, ctx.workDir]

/-- The pair that names the default configuration. -/
def defaultConfig (ctx : ServiceCtx) : List Str := ["-c".toList, ctx.confPath]

/-- How many arguments stand before the user's. -/
def headCount (ctx : ServiceCtx) : Nat :=
  2 + (if ctx.workDir = [] then 0 else 2) +
    if hasCustomC ctx = false ∧ ctx.confPath ≠ [] then 2 else 0

/-- With memory for it, the text is appended. -/
lemma push_eq (ok : ∀ n, alloc n = true) : push alloc args text = some (args ++ [text]) := by
  rw [push, if_pos (ok _)]

/-- The arguments in front of the user's. -/
lemma headArgs_eq (ok : ∀ n, alloc n = true) :
    headArgs ctx alloc = some (baseArgs ctx ++
      if !hasCustomC ctx && !ctx.confPath.isEmpty then defaultConfig ctx else []) := by
  simp only [headArgs, push_eq ok, Option.bind_eq_bind, Option.bind_some, baseArgs, defaultConfig]
  cases ctx.workDir.isEmpty <;> cases !hasCustomC ctx && !ctx.confPath.isEmpty <;> rfl

/-- Their number. -/
lemma length_headArgs (ok : ∀ n, alloc n = true) (head : headArgs ctx alloc = some args) :
    args.length = headCount ctx := by
  rw [headArgs_eq ok, Option.some.injEq] at head
  rw [← head, headCount, baseArgs, defaultConfig]
  cases hasCustomC ctx <;> cases ctx.workDir <;> cases ctx.confPath <;> rfl

/-- The loop takes words until the slots are used up. -/
lemma pushTokens_eq (ok : ∀ n, alloc n = true) (s : Str) :
    pushTokens alloc slots args (nextWord ' ' s) = some (args ++ (words ' ' s).take slots) := by
  induction slots generalizing args s with
  | zero => simp [pushTokens]
  | succ slots ih =>
    rw [words_eq_nextWord]
    cases nextWord ' ' s with
    | none => simp [pushTokens]
    | some found =>
      obtain ⟨token, saved⟩ := found
      simp only [pushTokens, push_eq ok, Option.bind_eq_bind, Option.bind_some]
      rw [ih]
      simp

/-- The words of the user come behind them, as far as there is room. -/
lemma buildServiceArgs_eq (ok : ∀ n, alloc n = true) (head : headArgs ctx alloc = some args) :
    buildServiceArgs ctx alloc =
      some (args ++ (words ' ' (truncate 512 ctx.serviceArgs)).take (28 - args.length)) := by
  rw [buildServiceArgs, if_pos (ok 0), head]
  cases empty : ctx.serviceArgs.isEmpty with
  | true =>
    rw [List.isEmpty_iff.mp empty]
    simp [truncate]
  | false => simp [pushTokens_eq ok]

/-! ## The default configuration -/

/-- The token names a configuration. -/
def IsConfigOption (token : Str) : Prop :=
  "-c".toList <+: token ∨ "-C".toList <+: token ∨ "--config".toList <+: token

/-- The token has the letters that `has_custom_c` looks for, anywhere. -/
def MentionsC (token : Str) : Prop := "-c".toList <:+: token ∨ "-C".toList <:+: token

/-- The vector has the default configuration before the user's arguments. -/
def HasDefaultConfig (ctx : ServiceCtx) (alloc : Nat → Bool) : Prop :=
  headArgs ctx alloc = some (baseArgs ctx ++ defaultConfig ctx) ∧
    ∃ user, buildServiceArgs ctx alloc = some (baseArgs ctx ++ defaultConfig ctx ++ user)

/-- An option for the configuration contains `-c` or `-C`. -/
lemma IsConfigOption.mentionsC (option : IsConfigOption token) : MentionsC token := by
  obtain lower | upper | long := option
  · exact .inl lower.isInfix
  · exact .inr upper.isInfix
  · exact .inl (List.IsInfix.trans ⟨"-".toList, "onfig".toList, rfl⟩ long.isInfix)

/-- The search in the string is a search in every word. -/
lemma hasCustomC_iff :
    hasCustomC ctx = true ↔ ∃ token ∈ words ' ' ctx.serviceArgs, MentionsC token := by
  have lower : "-c".toList <:+: ctx.serviceArgs ↔
      ∃ token ∈ words ' ' ctx.serviceArgs, "-c".toList <:+: token :=
    infix_iff_word (by decide) (by decide)
  have upper : "-C".toList <:+: ctx.serviceArgs ↔
      ∃ token ∈ words ' ' ctx.serviceArgs, "-C".toList <:+: token :=
    infix_iff_word (by decide) (by decide)
  have found : hasCustomC ctx = true ↔
      "-c".toList <:+: ctx.serviceArgs ∨ "-C".toList <:+: ctx.serviceArgs := by
    rw [hasCustomC, Bool.and_eq_true, Bool.or_eq_true, cut_isSome_iff, cut_isSome_iff]
    refine and_iff_right_of_imp fun occurs => ?_
    cases empty : ctx.serviceArgs with
    | nil => simp [empty] at occurs
    | cons _ _ => rfl
  rw [found, lower, upper, ← exists_or]
  simp only [MentionsC, and_or_left]

/-- The default is given exactly if the text contains neither. -/
lemma hasDefaultConfig_iff (ok : ∀ n, alloc n = true) (conf : ctx.confPath ≠ []) :
    HasDefaultConfig ctx alloc ↔ hasCustomC ctx = false := by
  have head : headArgs ctx alloc = _ := headArgs_eq ok
  have given : ctx.confPath.isEmpty = false := by simpa using conf
  cases custom : hasCustomC ctx with
  | true =>
    constructor
    · rintro ⟨pair, -⟩
      simp [head, custom, defaultConfig] at pair
    · simp
  | false =>
    simp only [custom, given, Bool.not_false, Bool.and_self, if_true] at head
    exact ⟨fun _ => rfl, fun _ => ⟨head, _, buildServiceArgs_eq ok head⟩⟩

/-- The default configuration is passed exactly when no token names one, unless the letters that are
looked for stand inside a token and no token is an option: then it is left out all the same. -/
theorem default_config_iff (ctx : ServiceCtx) (alloc : Nat → Bool) (ok : ∀ n, alloc n = true)
    (conf : ctx.confPath ≠ []) :
    (HasDefaultConfig ctx alloc ↔ ∀ token ∈ words ' ' ctx.serviceArgs, ¬IsConfigOption token) ↔
      (∃ token ∈ words ' ' ctx.serviceArgs, IsConfigOption token) ∨
        ∀ token ∈ words ' ' ctx.serviceArgs, ¬MentionsC token := by
  have mentioned : hasCustomC ctx = false ↔
      ∀ token ∈ words ' ' ctx.serviceArgs, ¬MentionsC token := by
    rw [← Bool.not_eq_true, hasCustomC_iff]
    push Not
    rfl
  rw [hasDefaultConfig_iff ok conf, mentioned]
  have less : (∀ token ∈ words ' ' ctx.serviceArgs, ¬MentionsC token) →
      ∀ token ∈ words ' ' ctx.serviceArgs, ¬IsConfigOption token :=
    fun none token mem option => none token mem option.mentionsC
  constructor
  · intro agree
    by_cases some : ∃ token ∈ words ' ' ctx.serviceArgs, IsConfigOption token
    · exact .inl some
    · push Not at some
      exact .inr (agree.mpr some)
  · rintro (⟨token, mem, option⟩ | none)
    · refine ⟨less, fun no => absurd option (no token mem)⟩
    · exact ⟨less, fun _ => none⟩

/-- A context under `/data` with these arguments. -/
def ctxWithArgs (serviceArgs : String) : ServiceCtx :=
  { initCtx (configSetDefaults "/data".toList false) "/data".toList "/data/bin/sing-box".toList
      "/data/config.json".toList "/data/sing-box.log".toList "/data/run/sing-box.pid".toList with
    serviceArgs := serviceArgs.toList }

/-- With `-c own.json` it is not. -/
theorem default_config_iff_own :
    HasDefaultConfig (ctxWithArgs "-c own.json") (fun _ => true) ↔
      ∀ token ∈ words ' ' "-c own.json".toList, ¬IsConfigOption token :=
  (default_config_iff (ctxWithArgs "-c own.json") (fun _ => true) (fun _ => rfl)
    (by decide)).mpr
    (.inl ⟨"-c".toList, by decide, .inl (List.prefix_refl _)⟩)

/-- `--disable-color` is no configuration option, and the child is started without a configuration. -/
theorem default_config_missing :
    ¬(HasDefaultConfig (ctxWithArgs "--disable-color") (fun _ => true) ↔
      ∀ token ∈ words ' ' "--disable-color".toList, ¬IsConfigOption token) := by
  have custom : hasCustomC (ctxWithArgs "--disable-color") = true := by decide
  have one : words ' ' "--disable-color".toList = ["--disable-color".toList] := by decide
  have none : ∀ token ∈ words ' ' "--disable-color".toList, ¬IsConfigOption token := by
    rw [one]
    simp [IsConfigOption]
  intro agree
  have built := (hasDefaultConfig_iff (fun _ => rfl) (by decide)).mp (agree.mpr none)
  rw [custom] at built
  cases built

/-! ## The user's arguments -/

/-- The vector ends with all words of `value`, each as it is, and leaves a slot for the `NULL`. -/
def KeepsArgs (ctx : ServiceCtx) (alloc : Nat → Bool) (value : Str) : Prop :=
  ∃ head, headArgs ctx alloc = some head ∧
    buildServiceArgs ctx alloc = some (head ++ words ' ' value) ∧
    (head ++ words ' ' value).length < 30

/-- What the parser accepts reaches the context unchanged. -/
lemma serviceArgs_eq {spec : KeySpec} {cfg cfg' : AtpConfig} {value : Str} {probe : Bool}
    (found : configSchemaFind "SERVICE_ARGS".toList = some spec)
    (accepted : parseKeyValue spec "SERVICE_ARGS".toList value cfg = some cfg')
    (init : serviceInit cfg' probe = some ctx) :
    ctx.serviceArgs = value ∧ value.length < 512 := by
  have schema : configSchemaFind "SERVICE_ARGS".toList =
      some ⟨"SERVICE_ARGS", .string, "SERVICE_ARGS", true⟩ := by decide
  obtain rfl := Option.some.inj (schema.symm.trans found)
  have stored : value.length < 256 ∧
      { cfg with service := { cfg.service with args := value } } = cfg' := by
    simpa [parseKeyValue, storeString, configCopyString] using accepted
  obtain ⟨fits, rfl⟩ := stored
  obtain ⟨_, _, _, _, _, rfl⟩ := serviceInit_eq init
  refine ⟨?_, by omega⟩
  show value.take 511 = value
  exact List.take_of_length_le (by omega)

/-- All words are kept exactly if there are places for them. -/
lemma keepsArgs_iff (ok : ∀ n, alloc n = true) (fits : ctx.serviceArgs.length < 512) :
    KeepsArgs ctx alloc ctx.serviceArgs ↔
      (words ' ' ctx.serviceArgs).length + headCount ctx ≤ 28 := by
  have copied : truncate 512 ctx.serviceArgs = ctx.serviceArgs :=
    List.take_of_length_le (Nat.le_sub_one_of_lt fits)
  have head : headArgs ctx alloc = _ := headArgs_eq ok
  have built : buildServiceArgs ctx alloc = _ := buildServiceArgs_eq ok head
  have count := length_headArgs ok head
  rw [count, copied] at built
  constructor
  · rintro ⟨head', head'_eq, built', -⟩
    obtain rfl := Option.some.inj (head.symm.trans head'_eq)
    have whole := List.append_cancel_left (Option.some.inj (built.symm.trans built'))
    have taken := congrArg List.length whole
    rw [List.length_take] at taken
    have small : headCount ctx ≤ 6 := by
      rw [headCount]
      split <;> split <;> omega
    omega
  · intro room
    refine ⟨_, head, ?_, ?_⟩
    · rw [built, List.take_of_length_le (by omega)]
    · rw [List.length_append, count]
      omega

/-- Every argument that the parser accepts reaches the child, unless the words and what stands before
them are more than the 28 that the loop fills. -/
theorem user_args_kept_iff (spec : KeySpec) (cfg cfg' : AtpConfig) (probe : Bool) (ctx : ServiceCtx)
    (alloc : Nat → Bool) (value workDir confPath : Str)
    (found : configSchemaFind "SERVICE_ARGS".toList = some spec)
    (accepted : parseKeyValue spec "SERVICE_ARGS".toList value cfg = some cfg')
    (init : serviceInit cfg' probe = some ctx) (ok : ∀ n, alloc n = true) :
    KeepsArgs { ctx with workDir := workDir, confPath := confPath } alloc value ↔
      (words ' ' value).length +
        headCount { ctx with workDir := workDir, confPath := confPath } ≤ 28 := by
  obtain ⟨rfl, fits⟩ := serviceArgs_eq found accepted init
  exact keepsArgs_iff ok fits

/-- Three words are kept. -/
theorem user_args_kept_iff_log :
    ∃ cfg' ctx, parseKeyValue ⟨"SERVICE_ARGS", .string, "SERVICE_ARGS", true⟩ "SERVICE_ARGS".toList
        "--disable-color  -c own.json ".toList (configSetDefaults "/data".toList false) = some cfg' ∧
      serviceInit cfg' true = some ctx ∧
      KeepsArgs { ctx with workDir := [], confPath := "c.json".toList } (fun _ => true)
        "--disable-color  -c own.json ".toList :=
  ⟨_, _, rfl, rfl, (user_args_kept_iff ⟨"SERVICE_ARGS", .string, "SERVICE_ARGS", true⟩
    (configSetDefaults "/data".toList false) _ true _ (fun _ => true)
    "--disable-color  -c own.json ".toList [] "c.json".toList rfl rfl rfl (fun _ => rfl)).mpr
      (by decide)⟩

/-- Twenty-three words. -/
def manyArgs : Str := (List.replicate 23 "v ".toList).flatten

/-- Twenty-three words are accepted, and the last one is lost. -/
theorem user_args_lost :
    ∃ spec cfg' ctx, configSchemaFind "SERVICE_ARGS".toList = some spec ∧
      parseKeyValue spec "SERVICE_ARGS".toList manyArgs (configSetDefaults "/data".toList false) =
        some cfg' ∧
      serviceInit cfg' true = some ctx ∧ ¬KeepsArgs ctx (fun _ => true) manyArgs := by
  refine ⟨_, _, _, rfl, rfl, rfl, ?_⟩
  intro kept
  have room := (keepsArgs_iff (fun _ => rfl) (by decide)).mp kept
  revert room
  decide

end Atpd.Service
