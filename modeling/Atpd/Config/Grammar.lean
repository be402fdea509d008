import Mathlib.Data.List.TakeWhile
import Atpd.Config.Settings

/-!
# The grammar of a line

What a line of `atp.conf` may be, without reference to the parser: blank, a comment, or `KEY=VALUE` with a
key of the schema and a value of the type of the key, bare or in quotes. The functions of the parser are
then shown to read these lines and no others.
-/

namespace Atpd.Config

open Atpd.Lib

/-! ## Values -/

/-- A text that `strtol` reads to its end: space, at most one sign, digits. -/
inductive Reads : Str → Int → Prop where
  | plain {space digits} (spaces : ∀ c ∈ space, isspace c) (some : digits ≠ [])
      (all : ∀ c ∈ digits, c.isDigit) : Reads (space ++ digits) (decimal digits)
  | plus {space digits} (spaces : ∀ c ∈ space, isspace c) (some : digits ≠ [])
      (all : ∀ c ∈ digits, c.isDigit) : Reads (space ++ '+' :: digits) (decimal digits)
  | minus {space digits} (spaces : ∀ c ∈ space, isspace c) (some : digits ≠ [])
      (all : ∀ c ∈ digits, c.isDigit) : Reads (space ++ '-' :: digits) (-decimal digits)

/-- The text has a value of the kind: a decimal in the range of `int`, 0 or 1, a string that fits, or
`USER:GROUP`. -/
inductive Denotes : (κ : Kind) → Str → κ.Value → Prop where
  | int {v n} (reads : Reads v n) (low : -2147483648 ≤ n) (high : n ≤ 2147483647) : Denotes .int v n
  | false {v} (reads : Reads v 0) : Denotes .bool v false
  | true {v} (reads : Reads v 1) : Denotes .bool v true
  | str {v size} (fits : v.length < size) : Denotes (.str size) v v
  | userGroup {user group} (someUser : user ≠ []) (someGroup : group ≠ []) (user_colon : ':' ∉ user)
      (group_colon : ':' ∉ group) (userFits : user.length < 64) (groupFits : group.length < 64) :
      Denotes .userGroup (user ++ ':' :: group) (user, group)

variable {v w line : Str} {n : Int} {c : Char}

/-- The six spaces. -/
lemma isspace_cases (space : isspace c = true) :
    c = ' ' ∨ c = '\t' ∨ c = '\n' ∨ c = '\x0b' ∨ c = '\x0c' ∨ c = '\r' := by
  simpa only [isspace, Bool.or_eq_true, beq_iff_eq, or_assoc] using space

/-- A digit is no space. -/
lemma isspace_of_isDigit (digit : c.isDigit) : isspace c = false := by
  cases space : isspace c with
  | false => rfl
  | true =>
    rcases isspace_cases space with rfl | rfl | rfl | rfl | rfl | rfl <;> cases digit

/-- Nor is it a sign. -/
lemma strtolSign_digit (digit : c.isDigit) : strtolSign (c :: v) = (1, c :: v) := by
  unfold strtolSign
  split
  · rename_i same
    cases same
    cases digit
  · rename_i same
    cases same
    cases digit
  · rfl

/-- `strtol` skips the space. -/
lemma dropWhile_space {space rest : Str} (spaces : ∀ c ∈ space, isspace c)
    (ends : ∀ c ∈ rest.head?, isspace c = false) : (space ++ rest).dropWhile isspace = rest := by
  rw [List.dropWhile_append_of_pos spaces]
  cases rest with
  | nil => rfl
  | cons c rest => exact List.dropWhile_cons_of_neg (by simp [ends c rfl])

/-- All digits, as a test. -/
lemma digits_all {digits : Str} : digits.all Char.isDigit = true ↔ ∀ c ∈ digits, c.isDigit :=
  List.all_eq_true

/-- `config_parse_int`, by the parts that `strtol` sees. -/
lemma configParseInt_of_sign {sign : Int} {digits rest space : Str} (spaces : ∀ c ∈ space, isspace c)
    (ends : ∀ c ∈ rest.head?, isspace c = false) (signed : strtolSign rest = (sign, digits)) :
    configParseInt (space ++ rest) =
      if digits ≠ [] ∧ digits.all Char.isDigit then
        if -2147483648 ≤ sign * decimal digits ∧ sign * decimal digits ≤ 2147483647 then
          some (sign * decimal digits)
        else none
      else none := by
  rw [configParseInt, dropWhile_space spaces ends, signed]

/-- Spaces, a sign and digits are a number. -/
lemma Reads.of_sign {sign : Int} {digits rest space : Str} (spaces : ∀ c ∈ space, isspace c)
    (some : digits ≠ []) (all : ∀ c ∈ digits, c.isDigit) (signed : strtolSign rest = (sign, digits)) :
    Reads (space ++ rest) (sign * decimal digits) := by
  unfold strtolSign at signed
  split at signed
  · cases signed
    rw [Int.neg_one_mul]
    exact .minus spaces some all
  · cases signed
    rw [Int.one_mul]
    exact .plus spaces some all
  · cases signed
    rw [Int.one_mul]
    exact .plain spaces some all

/-- `config_parse_int` reads the decimals in the range of `int`. -/
lemma configParseInt_iff :
    configParseInt v = some n ↔ Reads v n ∧ -2147483648 ≤ n ∧ n ≤ 2147483647 := by
  constructor
  · intro parsed
    obtain ⟨space, rest, rfl, spaces, ends⟩ : ∃ space rest, v = space ++ rest ∧
        (∀ c ∈ space, isspace c) ∧ ∀ c ∈ rest.head?, isspace c = false := by
      refine ⟨v.takeWhile isspace, v.dropWhile isspace, List.takeWhile_append_dropWhile.symm,
        fun c mem => List.mem_takeWhile_imp mem, fun c head => ?_⟩
      have stops := List.head?_dropWhile_not isspace v
      rw [head] at stops
      simpa using stops
    obtain ⟨sign, digits, signed⟩ : ∃ sign digits, strtolSign rest = (sign, digits) := ⟨_, _, rfl⟩
    rw [configParseInt_of_sign spaces ends signed, Option.ite_none_right_eq_some,
      Option.ite_none_right_eq_some, Option.some.injEq] at parsed
    obtain ⟨⟨some, all⟩, range, rfl⟩ := parsed
    exact ⟨.of_sign spaces some (digits_all.mp all) signed, range⟩
  · rintro ⟨reads, range⟩
    cases reads with
    | @plain space digits spaces some all =>
      obtain ⟨d, ds, rfl⟩ := List.exists_cons_of_ne_nil some
      have digit := all d List.mem_cons_self
      have ends : ∀ c ∈ (d :: ds).head?, isspace c = false := by
        intro c head
        cases head
        exact isspace_of_isDigit digit
      rw [configParseInt_of_sign spaces ends (strtolSign_digit digit), if_pos ⟨some, digits_all.mpr all⟩]
      simp [range]
    | @plus space digits spaces some all =>
      have ends : ∀ c ∈ ('+' :: digits).head?, isspace c = false := by
        rintro c ⟨rfl⟩
        rfl
      rw [configParseInt_of_sign spaces ends rfl, if_pos ⟨some, digits_all.mpr all⟩]
      simp [range]
    | @minus space digits spaces some all =>
      have ends : ∀ c ∈ ('-' :: digits).head?, isspace c = false := by
        rintro c ⟨rfl⟩
        rfl
      rw [configParseInt_of_sign spaces ends rfl, if_pos ⟨some, digits_all.mpr all⟩]
      simp [range]

/-- What precedes the first separator, and what follows it. -/
lemma split_at_iff {sep : Char} {left right : Str} : w = left ++ sep :: right ∧ sep ∉ left ↔
    w.takeWhile (· != sep) = left ∧ w.dropWhile (· != sep) = sep :: right := by
  constructor
  · rintro ⟨rfl, free⟩
    have before : ∀ c ∈ left, (c != sep) = true := by
      intro c mem
      simpa using fun same : c = sep => free (same ▸ mem)
    rw [List.takeWhile_append_of_pos before, List.dropWhile_append_of_pos before]
    simp
  · rintro ⟨rfl, dropped⟩
    rw [← dropped, List.takeWhile_append_dropWhile]
    exact ⟨rfl, fun mem => by simpa using List.mem_takeWhile_imp mem⟩

/-- What comes behind is the separator. -/
lemma dropWhile_sep {sep : Char} {right : Str} (dropped : w.dropWhile (· != sep) = c :: right) :
    c = sep := by
  have stops := List.head?_dropWhile_not (· != sep) w
  rw [dropped] at stops
  simpa using stops

/-- A user and a group are split at the colon. -/
lemma splitUserGroup_iff {user group : Str} :
    splitUserGroup v = some (user, group) ↔ Denotes .userGroup v (user, group) := by
  rw [splitUserGroup]
  constructor
  · intro split
    cases found : v.dropWhile (· != ':') with
    | nil => simp [found] at split
    | cons c rest =>
      simp only [found, Option.ite_none_right_eq_some, Option.some.injEq, Prod.mk.injEq] at split
      obtain ⟨⟨someUser, someGroup, oneColon, userFits, groupFits⟩, taken, rfl⟩ := split
      rw [taken] at someUser userFits
      obtain rfl := dropWhile_sep found
      obtain ⟨rfl, free⟩ := split_at_iff.mpr ⟨taken, found⟩
      exact .userGroup someUser someGroup free oneColon userFits groupFits
  · intro denotes
    cases denotes with
    | userGroup someUser someGroup free oneColon userFits groupFits =>
      obtain ⟨taken, dropped⟩ := split_at_iff.mp ⟨rfl, free⟩
      rw [taken, dropped]
      exact if_pos ⟨someUser, someGroup, oneColon, userFits, groupFits⟩

/-- The conversions of the parser give the values of the texts. -/
lemma convert_iff {κ : Kind} {x : κ.Value} : κ.convert v = some x ↔ Denotes κ v x := by
  cases κ with
  | int =>
    refine configParseInt_iff.trans ⟨?_, ?_⟩
    · rintro ⟨reads, low, high⟩
      exact .int reads low high
    · rintro ⟨reads, low, high⟩
      exact ⟨reads, low, high⟩
  | bool =>
    -- `config_parse_bool` reads its digit as a number
    have digit : ∀ n : Int, n = 0 ∨ n = 1 → (configParseInt v = some n ↔ Reads v n) := by
      rintro n (rfl | rfl) <;> rw [configParseInt_iff] <;> simp
    show configParseBool v = some x ↔ _
    constructor
    · intro parsed
      rw [configParseBool] at parsed
      split at parsed
      · rename_i zero
        cases parsed
        exact .false ((digit 0 (.inl rfl)).mp zero)
      · rename_i one
        cases parsed
        exact .true ((digit 1 (.inr rfl)).mp one)
      · cases parsed
    · intro denotes
      cases denotes with
      | false reads =>
        rw [configParseBool, (digit 0 (.inl rfl)).mpr reads]
        rfl
      | true reads =>
        rw [configParseBool, (digit 1 (.inr rfl)).mpr reads]
        rfl
  | str size =>
    show configCopyString size v = some x ↔ _
    rw [configCopyString, Option.ite_none_right_eq_some, Option.some.injEq]
    constructor
    · rintro ⟨fits, rfl⟩
      exact .str fits
    · intro denotes
      cases denotes with
      | str fits => exact ⟨fits, rfl⟩
  | userGroup => exact splitUserGroup_iff

/-! ## Lines -/

/-- A value, bare or in quotes of one kind. -/
inductive Unquotes : Str → Str → Prop where
  | bare {v : Str} (plain : ∀ c ∈ v.head?, c ≠ '"' ∧ c ≠ '\'') : Unquotes v v
  | quoted {q : Char} {v : Str} (quote : q = '"' ∨ q = '\'') : Unquotes (q :: (v ++ [q])) v

/-- The quotes are taken off. -/
lemma unquote_iff : unquote w = some v ↔ Unquotes w v := by
  constructor
  · intro taken
    cases w with
    | nil =>
      cases taken
      exact .bare (by simp)
    | cons q rest =>
      rw [unquote] at taken
      split at taken
      · rename_i quote
        rw [Option.ite_none_right_eq_some, Option.some.injEq] at taken
        obtain ⟨last, rfl⟩ := taken
        have whole := List.dropLast_append_getLast? q last
        have quoted := @Unquotes.quoted q rest.dropLast quote
        rw [whole] at quoted
        exact quoted
      · rename_i plain
        cases taken
        refine .bare ?_
        rintro c ⟨rfl⟩
        exact not_or.mp plain
  · intro unquotes
    cases unquotes with
    | bare plain =>
      cases v with
      | nil => rfl
      | cons c rest => rw [unquote, if_neg (not_or.mpr (plain c rfl))]
    | @quoted q v quote => rw [unquote, if_pos quote, if_pos (by simp), List.dropLast_concat]

/-- A line of space, or a comment. -/
def Blank (line : Str) : Prop := trim line = [] ∨ ∃ text, trim line = '#' :: text

/-- `KEY=VALUE`, with a key of the schema. -/
structure Sets (line : Str) (spec : KeySpec) (v : Str) : Prop where
  known : spec ∈ configSchema
  form : ∃ left right, trim line = left ++ '=' :: right ∧ '=' ∉ left ∧ trim left = spec.name.toList ∧
    Unquotes (trim right) v

variable {k : Str} {spec spec' : KeySpec}

/-- The keys of the schema are found. -/
lemma configSchemaFind_iff : configSchemaFind k = some spec ↔ spec ∈ configSchema ∧ k = spec.name.toList := by
  constructor
  · intro found
    obtain ⟨mem, named⟩ := configSchemaFind_mem found
    exact ⟨mem, by rw [← named, String.toList_ofList]⟩
  · rintro ⟨mem, rfl⟩
    have all : ∀ spec ∈ configSchema, configSchemaFind spec.name.toList = some spec := by decide +kernel
    exact all spec mem

/-- A text that does not begin with space begins the same when it is trimmed. -/
lemma trim_cons (solid : isspace c = false) (rest : Str) : ∃ rest', trim (c :: rest) = c :: rest' := by
  rw [trim, List.dropWhile_cons_of_neg (by simp [solid]), List.reverse_cons]
  cases empty : rest.reverse.dropWhile isspace with
  | nil =>
    rw [List.dropWhile_append, empty]
    exact ⟨[], by simp [solid]⟩
  | cons d ds =>
    rw [List.dropWhile_append, empty]
    exact ⟨(d :: ds).reverse, by simp⟩

/-- A line with a key is neither blank nor a comment: no key is empty or begins with `#`. -/
lemma Sets.not_blank (sets : Sets line spec v) : ¬Blank line := by
  obtain ⟨left, right, whole, -, named, -⟩ := sets.form
  have begins : ∀ spec ∈ configSchema, spec.name.toList ≠ [] ∧ spec.name.toList.head? ≠ some '#' := by decide +kernel
  obtain ⟨nonempty, letter⟩ := begins spec sets.known
  rw [Blank, whole]
  rintro (none | ⟨text, comment⟩)
  · simp at none
  · cases left with
    | nil => cases comment
    | cons d left =>
      cases comment
      obtain ⟨rest, trimmed⟩ := @trim_cons '#' (by decide) left
      rw [← named, trimmed] at letter
      exact letter rfl

variable {buf : Str} {atEof : Bool}

/-- Without a NUL all of it is text. -/
lemma cString_eq (text : '\x00' ∉ line) : cString line = line := by
  rw [cString, List.takeWhile_eq_self_iff]
  intro c mem
  simpa using fun nul : c = '\x00' => text (nul ▸ mem)

/-- `line` holds a whole line. -/
def Whole (buf : Str) (atEof : Bool) : Prop := '\n' ∈ cString buf ∨ atEof = true

/-- A line that was read whole is not refused as too long. -/
lemma Whole.fits (whole : Whole buf atEof) : ¬('\n' ∉ cString buf ∧ (!atEof) = true) := by
  rintro ⟨none, more⟩
  rcases whole with mem | eof
  · exact none mem
  · simp [eof] at more

/-- A blank line is empty, or a comment. -/
lemma blank_iff : Blank line ↔ (trim line).head? = some '#' ∨ trim line = [] := by
  rw [Blank, List.head?_eq_some_iff, or_comm]

/-- And skipped for that. -/
lemma readLine_skip_iff (whole : Whole buf atEof) :
    readLine buf atEof = .ok .skip ↔ Blank (cString buf) := by
  rw [readLine, blank_iff]
  dsimp only
  rw [if_neg whole.fits]
  split
  · rename_i skipped
    simp [skipped]
  · rename_i key
    refine iff_of_false ?_ key
    intro read
    split at read
    · cases read
    · split at read
      · cases read
      · split at read <;> cases read

/-- A key of the schema and its value are read off a line that sets it. -/
lemma readLine_assign_iff (whole : Whole buf atEof) :
    (readLine buf atEof = .ok (.assign k v) ∧ configSchemaFind k = some spec) ↔
      k = spec.name.toList ∧ Sets (cString buf) spec v := by
  rw [configSchemaFind_iff]
  -- a line that is skipped sets nothing
  by_cases blank : Blank (cString buf)
  · rw [(readLine_skip_iff whole).mpr blank]
    refine iff_of_false (by simp) ?_
    rintro ⟨-, sets⟩
    exact sets.not_blank blank
  · rw [readLine]
    dsimp only
    rw [if_neg whole.fits, if_neg (mt blank_iff.mpr blank)]
    -- without a separator there is no key
    cases found : (trim (cString buf)).dropWhile (· != '=') with
    | nil =>
      refine iff_of_false (by simp) ?_
      rintro ⟨-, -, left, right, parts, free, -⟩
      have dropped := (split_at_iff.mp ⟨parts, free⟩).2
      rw [found] at dropped
      cases dropped
    | cons c right =>
      obtain rfl := dropWhile_sep found
      obtain ⟨parts, free⟩ := split_at_iff.mpr ⟨rfl, found⟩
      generalize (trim (cString buf)).takeWhile (· != '=') = left at parts free
      have sets : Sets (cString buf) spec v ↔ spec ∈ configSchema ∧ trim left = spec.name.toList ∧
          unquote (trim right) = some v := by
        rw [unquote_iff]
        constructor
        · rintro ⟨known, left', right', parts', free', named, unquotes⟩
          obtain ⟨taken', dropped'⟩ := split_at_iff.mp ⟨parts', free'⟩
          obtain ⟨taken, dropped⟩ := split_at_iff.mp ⟨parts, free⟩
          -- the first separator splits a line in one way only
          obtain rfl := taken.symm.trans taken'
          cases dropped.symm.trans dropped'
          exact ⟨known, named, unquotes⟩
        · rintro ⟨known, named, unquotes⟩
          exact ⟨known, left, right, parts, free, named, unquotes⟩
      rw [sets]
      dsimp only
      by_cases empty : trim left = []
      · rw [if_pos empty, empty]
        refine iff_of_false (by simp) ?_
        rintro ⟨-, known, named, -⟩
        -- no key of the schema is empty
        have some : ∀ spec ∈ configSchema, [] ≠ spec.name.toList := by decide +kernel
        exact some spec known named
      · rw [if_neg empty]
        cases unquote (trim right) with
        | none => simp
        | some v' =>
          constructor
          · rintro ⟨read, known, rfl⟩
            rw [Except.ok.injEq, Line.assign.injEq] at read
            obtain ⟨named, rfl⟩ := read
            exact ⟨rfl, known, named, rfl⟩
          · rintro ⟨rfl, known, named, same⟩
            cases same
            rw [named]
            exact ⟨rfl, known, rfl⟩

/-- The kind of a key: its type, and the size of the field that it fills. -/
def KeySpec.kind (spec : KeySpec) : Kind :=
  match spec.type with
  | .int => .int
  | .bool => .bool
  | .string =>
    match spec.canonicalName with
    | "CORE_USER_GROUP" => .userGroup
    | "API_SECRET" => .str 128
    | "API_HOST" | "VPN_TARGET_MODE" | "VPN_FALLBACK_MODE" => .str 64
    | "SERVICE_ARGS" | "SERVICE_ENV" => .str 256
    | _ => .str pathMax

/-- The key takes the value: it is empty only where it may be, and has the type of the key. -/
def KeySpec.Takes (spec : KeySpec) (v : Str) : Prop :=
  (v = [] → spec.allowEmpty = true) ∧ ∃ x, Denotes spec.kind v x

/-- Every key of the schema has a setting, with its type. -/
lemma settingOf_spec (known : spec ∈ configSchema) :
    ∃ s : Setting, settingOf spec.canonicalName = some s ∧ s.name = spec.canonicalName ∧ s.kind = spec.kind := by
  have all : ∀ spec ∈ configSchema, ∃ s ∈ settingOf spec.canonicalName, s.name = spec.canonicalName ∧
      s.kind = spec.kind := by decide +kernel
  obtain ⟨s, set, named, same⟩ := all spec known
  exact ⟨s, set, named, same⟩

/-- The setting of a name has that name. -/
lemma settingOf_name {s : Setting} {canonical : String} (set : settingOf canonical = some s) :
    s.name = canonical := by
  have named := List.find?_some set
  exact beq_iff_eq.mp named

/-- What a key with a value sets. -/
lemma assignmentOf_iff {s : Setting} {x : s.Value} : assignmentOf k v = some ⟨s, x⟩ ↔
    ∃ spec, configSchemaFind k = some spec ∧ settingOf spec.canonicalName = some s ∧
      (v = [] → spec.allowEmpty = true) ∧ Denotes s.kind v x := by
  simp only [assignmentOf, Option.bind_eq_bind, Option.bind_eq_some_iff, ← convert_iff]
  constructor
  · rintro ⟨spec, found, t, set, given⟩
    rw [Option.ite_none_left_eq_some, Option.map_eq_some_iff] at given
    obtain ⟨nonempty, y, converted, same⟩ := given
    cases same
    refine ⟨spec, found, set, ?_, converted⟩
    rintro rfl
    simpa using nonempty
  · rintro ⟨spec, found, set, nonempty, converted⟩
    refine ⟨spec, found, s, set, ?_⟩
    rw [if_neg, converted]
    · rfl
    · cases v with
      | nil => simp [nonempty rfl]
      | cons c v => simp

/-- A blank line sets nothing. -/
lemma entryOf_blank_iff (whole : Whole buf atEof) : entryOf (buf, atEof) = some none ↔ Blank (cString buf) := by
  rw [← readLine_skip_iff whole, entryOf]
  cases readLine buf atEof with
  | error err => simp
  | ok line =>
    cases line with
    | skip => simp
    | assign k v => cases assignmentOf k v <;> simp

/-- What a line sets. -/
lemma entryOf_sets_iff {s : Setting} {x : s.Value} (whole : Whole buf atEof) :
    entryOf (buf, atEof) = some (some ⟨s, x⟩) ↔ ∃ spec v, Sets (cString buf) spec v ∧
      settingOf spec.canonicalName = some s ∧ (v = [] → spec.allowEmpty = true) ∧ Denotes s.kind v x := by
  constructor
  · intro entry
    rw [entryOf] at entry
    split at entry
    · cases entry
    · cases entry
    · rename_i k v read
      rw [Option.map_eq_some_iff] at entry
      obtain ⟨e, given, same⟩ := entry
      cases same
      obtain ⟨spec, found, rest⟩ := assignmentOf_iff.mp given
      exact ⟨spec, v, ((readLine_assign_iff whole).mp ⟨read, found⟩).2, rest⟩
  · rintro ⟨spec, v, sets, rest⟩
    obtain ⟨read, found⟩ := (readLine_assign_iff whole).mpr ⟨rfl, sets⟩
    rw [entryOf_assign read, assignmentOf_iff.mpr ⟨spec, found, rest⟩]
    rfl

/-- A line that is accepted by itself. -/
lemma entryOf_isSome_iff (whole : Whole buf atEof) : (entryOf (buf, atEof)).isSome ↔
    Blank (cString buf) ∨ ∃ spec v, Sets (cString buf) spec v ∧ spec.Takes v := by
  rw [← entryOf_blank_iff whole]
  constructor
  · intro valid
    obtain ⟨entry, found⟩ := Option.isSome_iff_exists.mp valid
    cases entry with
    | none => exact .inl found
    | some e =>
      obtain ⟨s, x⟩ := e
      obtain ⟨spec, v, sets, set, nonempty, denotes⟩ := (entryOf_sets_iff whole).mp found
      obtain ⟨s', set', -, same⟩ := settingOf_spec sets.known
      cases set.symm.trans set'
      exact .inr ⟨spec, v, sets, nonempty, same ▸ ⟨x, denotes⟩⟩
  · rintro (blank | ⟨spec, v, sets, nonempty, takes⟩)
    · rw [blank]
      rfl
    · obtain ⟨s, set, -, same⟩ := settingOf_spec sets.known
      rw [← same] at takes
      obtain ⟨x, denotes⟩ := takes
      rw [(entryOf_sets_iff whole).mpr ⟨spec, v, sets, set, nonempty, denotes⟩]
      rfl

end Atpd.Config
