import Atpd.Config.Grammar
import Atpd.Netlink.Stats

/-!
# The identity of a process

`read_proc_stat` of `src/utils.c` takes the start time of a process from the line `/proc/<pid>/stat`. The
name of the command is the second field of that line, in parentheses. The process chooses it, so it may
hold spaces and parentheses itself, and look like the rest of a line.
-/

namespace Atpd.Service.ProcStat

open Atpd.Config

/-- `strrchr(s, c)`: the string from the last `c` on. -/
def strrchr (c : Char) : Str → Option Str
  | [] => none
  | d :: s =>
    match strrchr c s with
    | some found => some found
    | none => if d = c then some (d :: s) else none

/-- `strtoull(cursor, &end, 10)`, as `%llu` reads a number: the value and the string at `end`, if that is
not `cursor`. -/
def strtoull (cursor : Str) : Option (Nat × Str) := Netlink.scanUnsigned cursor

/-- What `read_proc_stat` returns with 0. -/
structure Times where
  utime : Nat
  stime : Nat
  starttime : Nat
deriving DecidableEq, Repr

/-- The assignments in the loop of `read_proc_stat`. -/
def Times.assign (times : Times) (field value : Nat) : Times :=
  if field = 14 then { times with utime := value }
  else if field = 15 then { times with stime := value }
  else if field = 22 then { times with starttime := value }
  else times

/-- The loop of `read_proc_stat`, with the number of the rounds that are left. -/
def readFields (cursor : Str) (times : Times) : Nat → Option Times
  | 0 => some times
  | left + 1 =>
    match cursor.dropWhile (· == ' ') with
    | [] => none
    | c :: rest =>
      match strtoull (c :: rest) with
      | none => none
      | some (value, stop) => readFields stop (times.assign (22 - left) value) left

/-- `read_proc_stat` behind the last parenthesis. -/
def readBehindComm (cursor : Str) : Option Times :=
  match cursor.dropWhile (· == ' ') with
  | [] => none
  | state :: cursor =>
    if isspace state then none
    else if cursor.head?.any (!isspace ·) then none
    else readFields cursor ⟨0, 0, 0⟩ 19

/-- The text of a number, as `%d` and `%llu` write it. -/
def decimalText : Int → Str
  | .ofNat n => Nat.toDigits 10 n
  | .negSucc n => '-' :: Nat.toDigits 10 (n + 1)

/-- `/proc/<pid>/stat`. -/
def statPath (pid : Int) : Str := "/proc/".toList ++ decimalText pid ++ "/stat".toList

/-- `read_proc_stat`, or `none` for -1. `fopen` says which files can be opened, and what is in them. -/
def readProcStat (fopen : Str → Option Str) (pid : Int) : Option Times := do
  let text ← fopen (statPath pid)
  let line ← (fgetsAll 4096 [] text).head?
  let closeComm ← strrchr ')' (cString line.1)
  readBehindComm (closeComm.drop 1)

variable {c d : Char} {s t line buf rest tail more comm : Str} {z : Int} {n left k before size : Nat}
  {fields : List Int} {times : Times}

/-! ## The last parenthesis -/

/-- `strrchr` of a character that does not occur. -/
lemma strrchr_absent (absent : c ∉ s) : strrchr c s = none := by
  induction s with
  | nil => rfl
  | cons d s ih =>
    obtain ⟨other, absent⟩ := not_or.mp (mt List.mem_cons.mpr absent)
    rw [strrchr, ih absent]
    exact if_neg fun same => other same.symm

/-- And of one that does not occur behind it. -/
lemma strrchr_last (absent : c ∉ t) : strrchr c (s ++ c :: t) = some (c :: t) := by
  induction s with
  | nil =>
    rw [List.nil_append, strrchr, strrchr_absent absent]
    exact if_pos rfl
  | cons d s ih => rw [List.cons_append, strrchr, ih]

/-! ## Numbers -/

/-- The value of a text for `strtoull`. -/
def strtoullValue (z : Int) : Nat :=
  if 2 ^ 64 ≤ z.natAbs then 2 ^ 64 - 1 else if z < 0 then (2 ^ 64 - z.natAbs) % 2 ^ 64 else z.natAbs

/-- A number below 2^64 is read as it is. -/
lemma strtoullValue_of_lt (small : n < 2 ^ 64) : strtoullValue n = n := by
  rw [strtoullValue, Int.natAbs_natCast, if_neg (Nat.not_le.mpr small), if_neg (by omega)]

/-- The digits are summed up as `Nat.ofDigitChars` does. -/
lemma foldl_decimal (digits : Str) (v : Nat) :
    digits.foldl (fun m c => m * 10 + ((c.toNat - '0'.toNat : Nat) : Int)) (v : Int) =
      (Nat.ofDigitChars 10 digits v : Nat) := by
  induction digits generalizing v with
  | nil => rw [Nat.ofDigitChars_nil, List.foldl_nil]
  | cons c digits ih =>
    rw [Nat.ofDigitChars_cons, List.foldl_cons, ← ih, Nat.mul_comm 10 v]
    rfl

/-- A number that was written is read back. -/
lemma decimal_toDigits (n : Nat) : decimal (Nat.toDigits 10 n) = n := by
  have value := foldl_decimal (Nat.toDigits 10 n) 0
  rw [Nat.ofDigitChars_ten_toDigits] at value
  exact value

/-- It is written in digits. -/
lemma isDigit_toDigits (mem : c ∈ Nat.toDigits 10 n) : c.isDigit :=
  Nat.isDigit_of_mem_toDigits (by decide) (by decide) mem

/-- The digits of a number, and where they end. -/
lemma span_toDigits (stops : ∀ c ∈ rest.head?, c.isDigit = false) :
    (Nat.toDigits 10 n ++ rest).takeWhile Char.isDigit = Nat.toDigits 10 n ∧
      (Nat.toDigits 10 n ++ rest).dropWhile Char.isDigit = rest := by
  have digits : ∀ c ∈ Nat.toDigits 10 n, c.isDigit = true := fun c => isDigit_toDigits
  rw [List.takeWhile_append_of_pos digits, List.dropWhile_append_of_pos digits]
  cases rest with
  | nil => exact ⟨List.append_nil _, rfl⟩
  | cons c rest =>
    have stop : ¬c.isDigit = true := by
      rw [stops c rfl]
      exact Bool.false_ne_true
    rw [List.takeWhile_cons_of_neg stop, List.dropWhile_cons_of_neg stop, List.append_nil]
    exact ⟨rfl, rfl⟩

/-- At least one. -/
lemma exists_toDigits (n : Nat) : ∃ d ds, Nat.toDigits 10 n = d :: ds ∧ d.isDigit := by
  obtain ⟨d, ds, digits⟩ := List.exists_cons_of_ne_nil (Nat.toDigits_ne_nil (n := n) (b := 10))
  exact ⟨d, ds, digits, isDigit_toDigits (digits ▸ List.mem_cons_self)⟩

/-- `strtoull`, by the sign that it sees. -/
lemma strtoull_of_sign {sign : Int} (stops : ∀ c ∈ rest.head?, c.isDigit = false)
    (signed : strtolSign (s.dropWhile isspace) = (sign, Nat.toDigits 10 n ++ rest)) :
    strtoull s =
      some (if 2 ^ 64 ≤ n then 2 ^ 64 - 1 else if sign < 0 then (2 ^ 64 - n) % 2 ^ 64 else n, rest) := by
  obtain ⟨span, behind⟩ := span_toDigits (n := n) stops
  rw [strtoull, Netlink.scanUnsigned, signed]
  dsimp only
  rw [span, behind, decimal_toDigits, Int.toNat_natCast, if_neg]
  rw [List.isEmpty_iff]
  exact Nat.toDigits_ne_nil

/-- `strtoull` reads a number that stands at the begin, and stops behind it. -/
lemma strtoull_decimalText (stops : ∀ c ∈ rest.head?, c.isDigit = false) :
    strtoull (decimalText z ++ rest) = some (strtoullValue z, rest) := by
  cases z with
  | ofNat n =>
    obtain ⟨d, ds, digits, digit⟩ := exists_toDigits n
    have space : ¬isspace d = true := by
      rw [isspace_of_isDigit digit]
      exact Bool.false_ne_true
    have signed : strtolSign ((Nat.toDigits 10 n ++ rest).dropWhile isspace) =
        (1, Nat.toDigits 10 n ++ rest) := by
      rw [digits, List.cons_append, List.dropWhile_cons_of_neg space, strtolSign_digit digit]
    rw [decimalText, strtoull_of_sign stops signed]
    rfl
  | negSucc n =>
    have signed : strtolSign (('-' :: Nat.toDigits 10 (n + 1) ++ rest).dropWhile isspace) =
        (-1, Nat.toDigits 10 (n + 1) ++ rest) := rfl
    have below : (-1 : Int) < 0 := by decide
    rw [decimalText, strtoull_of_sign stops signed, if_pos below, strtoullValue,
      if_pos (Int.negSucc_lt_zero n)]
    rfl

/-! ## The fields -/

/-- The fields from the fourth on, as they stand in the line. -/
def fieldsText (fields : List Int) : Str := fields.flatMap fun z => ' ' :: decimalText z

/-- The line of a process. -/
def statLine (pid : Int) (comm : Str) (state : Char) (fields : List Int) : Str :=
  decimalText pid ++ " (".toList ++ comm ++ ") ".toList ++ state :: fieldsText fields

/-- Field `k` of the line. -/
def fieldNo (fields : List Int) (k : Nat) : Option Int := fields[k - 4]?

/-- Characters that a state may be; the kernel has letters only. -/
def IsState (c : Char) : Prop := isspace c = false ∧ c ≠ '\x00' ∧ c ≠ ')'

/-- Every letter may be a state. -/
lemma isState_of_isAlpha (letter : c.isAlpha) : IsState c := by
  refine ⟨?_, ?_, ?_⟩
  · cases space : isspace c with
    | false => rfl
    | true =>
      rcases isspace_cases space with rfl | rfl | rfl | rfl | rfl | rfl <;> cases letter
  · rintro rfl
    cases letter
  · rintro rfl
    cases letter

/-- What can follow the last field. -/
def IsTail (tail : Str) : Prop := tail = [] ∨ tail = ['\n']

/-- What follows a field does not begin with a digit. -/
lemma IsTail.stops (ends : IsTail tail) : ∀ c ∈ (fieldsText fields ++ tail).head?, c.isDigit = false := by
  intro c head
  cases fields with
  | nil =>
    rcases ends with rfl | rfl
    · cases head
    · cases head
      rfl
  | cons z fields =>
    cases head
    rfl

/-- A field begins with no space. -/
lemma decimalText_head (z : Int) : ∃ c s, decimalText z = c :: s ∧ isspace c = false := by
  cases z with
  | ofNat n =>
    obtain ⟨d, ds, digits, digit⟩ := exists_toDigits n
    exact ⟨d, ds, digits, isspace_of_isDigit digit⟩
  | negSucc n => exact ⟨'-', _, rfl, rfl⟩

/-- Spaces are skipped. -/
lemma skip_spaces (solid : isspace c = false) : (' ' :: c :: s).dropWhile (· == ' ') = c :: s := by
  have stop : ¬(c == ' ') = true := by
    intro same
    rw [beq_iff_eq.mp same] at solid
    cases solid
  have skip : (' ' :: c :: s).dropWhile (· == ' ') = (c :: s).dropWhile (· == ' ') := rfl
  rw [skip]
  exact List.dropWhile_cons_of_neg stop

/-- One round. -/
lemma readFields_cons (ends : IsTail tail) :
    readFields (fieldsText (z :: fields) ++ tail) times (left + 1) =
      readFields (fieldsText fields ++ tail) (times.assign (22 - left) (strtoullValue z)) left := by
  obtain ⟨c, s, text, solid⟩ := decimalText_head z
  have split : fieldsText (z :: fields) ++ tail = ' ' :: c :: (s ++ (fieldsText fields ++ tail)) := by
    rw [← List.cons_append, ← text, fieldsText, fieldsText, List.flatMap_cons, List.cons_append,
      List.cons_append, List.append_assoc]
  have value : strtoull (c :: (s ++ (fieldsText fields ++ tail))) = _ :=
    text ▸ strtoull_decimalText ends.stops
  rw [readFields, split, skip_spaces solid]
  dsimp only
  rw [value]

/-- The line is at its end before the loop is. -/
lemma readFields_end (ends : IsTail tail) : readFields tail times (left + 1) = none := by
  rcases ends with rfl | rfl
  · rfl
  · rfl

/-- Too few fields are not accepted. -/
lemma readFields_few (ends : IsTail tail) (few : fields.length < left) :
    readFields (fieldsText fields ++ tail) times left = none := by
  induction fields generalizing left times with
  | nil =>
    cases left with
    | zero => cases few
    | succ left => exact readFields_end ends
  | cons z fields ih =>
    cases left with
    | zero => cases few
    | succ left =>
      rw [readFields_cons ends]
      exact ih (Nat.lt_of_succ_lt_succ few)

/-- The value for the field that is read when `k` rounds are left, where `left` rounds are. -/
def column (k left : Nat) (fields : List Int) (before : Nat) : Nat :=
  if k ≤ left then strtoullValue (fields.getD (left - k) 0) else before

/-- A column of the fields that are left. -/
lemma column_cons :
    column (k + 1) (left + 1) (z :: fields) before =
      column (k + 1) left fields (if left = k then strtoullValue z else before) := by
  unfold column
  rcases Nat.lt_trichotomy left k with lt | rfl | gt
  · rw [if_neg (by omega), if_neg (by omega), if_neg (Nat.ne_of_lt lt)]
  · rw [if_pos (Nat.le_refl _), if_neg (by omega), if_pos rfl, Nat.sub_self, List.getD_cons_zero]
  · have one : left + 1 - (k + 1) = left - (k + 1) + 1 := by omega
    rw [if_pos (by omega), if_pos (by omega), one, List.getD_cons_succ]

/-- One of the assignments at most is made in a round. -/
lemma Times.assign_eq (le : left ≤ 18) (value : Nat) :
    times.assign (22 - left) value =
      ⟨if left = 8 then value else times.utime, if left = 7 then value else times.stime,
        if left = 0 then value else times.starttime⟩ := by
  by_cases utime : left = 8
  · subst utime
    rfl
  · by_cases stime : left = 7
    · subst stime
      rfl
    · by_cases starttime : left = 0
      · subst starttime
        rfl
      · rw [assign, if_neg (by omega), if_neg (by omega), if_neg (by omega), if_neg utime, if_neg stime,
          if_neg starttime]

/-- With enough fields each column is read. -/
lemma readFields_enough (ends : IsTail tail) (le : left ≤ 19) (enough : left ≤ fields.length) :
    readFields (fieldsText fields ++ tail) times left =
      some ⟨column 9 left fields times.utime, column 8 left fields times.stime,
        column 1 left fields times.starttime⟩ := by
  induction left generalizing fields times with
  | zero => rfl
  | succ left ih =>
    cases fields with
    | nil => cases enough
    | cons z fields =>
      rw [readFields_cons ends, ih (by omega) (Nat.le_of_succ_le_succ enough),
        Times.assign_eq (Nat.le_of_succ_le_succ le), column_cons, column_cons, column_cons]

/-! ## The line -/

/-- `fgets` reads a line that fits into the buffer, whatever follows it. -/
lemma fgetsAll_first (oneLine : '\n' ∉ line) (some : line ≠ []) (fits : line.length < size)
    (ends : more = [] ∨ ∃ rest, more = '\n' :: rest) :
    ∃ tail atEof, IsTail tail ∧
      (fgetsAll size [] (line ++ more)).head? = Option.some (line ++ tail, atEof) := by
  obtain ⟨before, c, rfl⟩ := (List.eq_nil_or_concat' line).resolve_left some
  have oneLine := mt (List.mem_append_left [c]) oneLine
  rw [List.length_append, List.length_singleton] at fits
  rw [List.append_assoc, List.singleton_append, fgetsAll_gather oneLine (by rw [List.length_nil]; omega),
    List.append_nil, fgetsAll]
  split
  · -- the last character fills the buffer
    refine ⟨[], false, .inl rfl, ?_⟩
    rw [List.append_nil, List.reverse_cons, List.reverse_reverse]
    rfl
  · rcases ends with rfl | ⟨rest, rfl⟩
    · refine ⟨[], true, .inl rfl, ?_⟩
      rw [List.append_nil, fgetsAll, List.reverse_cons, List.reverse_reverse]
      rfl
    · refine ⟨['\n'], false, .inr rfl, ?_⟩
      rw [fgetsAll, if_pos (.inl rfl), List.reverse_cons, List.reverse_cons, List.reverse_reverse]
      rfl

/-- The characters of the numbers and of what is between them. -/
def IsPlain (c : Char) : Prop := c.isDigit ∨ c = '-' ∨ c = ' '

/-- A number is plain text. -/
lemma isPlain_decimalText (mem : c ∈ decimalText z) : IsPlain c := by
  cases z with
  | ofNat n => exact .inl (isDigit_toDigits mem)
  | negSucc n =>
    rcases List.mem_cons.mp mem with same | mem
    · exact .inr (.inl same)
    · exact .inl (isDigit_toDigits mem)

/-- So are all of them. -/
lemma isPlain_fieldsText (mem : c ∈ fieldsText fields) : IsPlain c := by
  obtain ⟨z, -, mem⟩ := List.mem_flatMap.mp mem
  rcases List.mem_cons.mp mem with same | mem
  · exact .inr (.inr same)
  · exact isPlain_decimalText mem

/-- The only other characters of a line are in the name, and around it. -/
lemma not_mem_statLine {pid : Int} {state : Char} (plain : ¬IsPlain c) (parens : c ≠ '(' ∧ c ≠ ')')
    (absent : c ∉ comm) (other : c ≠ state) : c ∉ statLine pid comm state fields := by
  have space : c ≠ ' ' := fun same => plain (.inr (.inr same))
  have number : c ∉ decimalText pid := mt isPlain_decimalText plain
  have numbers : c ∉ fieldsText fields := mt isPlain_fieldsText plain
  simp [statLine, space, parens, absent, other, number, numbers]

/-- Behind the fields there is neither a NUL nor a closing parenthesis. -/
lemma isPlain_of_isTail (ends : IsTail tail) : '\x00' ∉ tail ∧ ')' ∉ tail := by
  rcases ends with rfl | rfl
  · exact ⟨List.not_mem_nil, List.not_mem_nil⟩
  · decide

/-- What is not plain. -/
lemma not_isPlain : ¬IsPlain '\x00' ∧ ¬IsPlain '\n' ∧ ¬IsPlain ')' := by
  unfold IsPlain
  decide

/-- What `read_proc_stat` finds behind the name. -/
lemma readBehindComm_eq {state : Char} (isState : IsState state) (ends : IsTail tail) :
    readBehindComm (' ' :: state :: (fieldsText fields ++ tail)) =
      readFields (fieldsText fields ++ tail) ⟨0, 0, 0⟩ 19 := by
  have next : (fieldsText fields ++ tail).head?.any (!isspace ·) = false := by
    cases fields with
    | nil => rcases ends with rfl | rfl <;> rfl
    | cons z fields => rfl
  rw [readBehindComm, skip_spaces isState.1]
  dsimp only
  rw [isState.1, next]
  rfl

/-- The name does not matter: the line is read from the parenthesis behind it. -/
lemma readProcStat_line {fopen : Str → Option Str} {pid : Int} {state : Char}
    (content : fopen (statPath pid) = some (statLine pid comm state fields ++ more))
    (ends : more = [] ∨ ∃ rest, more = '\n' :: rest)
    (fits : (statLine pid comm state fields).length < 4096) (oneLine : '\n' ∉ comm)
    (nul : '\x00' ∉ comm) (isState : IsState state) :
    ∃ tail, IsTail tail ∧
      readProcStat fopen pid = readFields (fieldsText fields ++ tail) ⟨0, 0, 0⟩ 19 := by
  have newline : '\n' ≠ state := by
    rintro rfl
    cases isState.1
  have whole : '\n' ∉ statLine pid comm state fields :=
    not_mem_statLine not_isPlain.2.1 (by decide) oneLine newline
  have filled : statLine pid comm state fields ≠ [] := by simp [statLine]
  obtain ⟨tail, atEof, ends, read⟩ := fgetsAll_first whole filled fits ends
  refine ⟨tail, ends, ?_⟩
  have text : '\x00' ∉ statLine pid comm state fields ++ tail := by
    intro mem
    rcases List.mem_append.mp mem with mem | mem
    · exact not_mem_statLine not_isPlain.1 (by decide) nul isState.2.1.symm mem
    · exact (isPlain_of_isTail ends).1 mem
  have behind : ')' ∉ ' ' :: state :: (fieldsText fields ++ tail) := by
    have numbers : ')' ∉ fieldsText fields := mt isPlain_fieldsText not_isPlain.2.2
    simp [isState.2.2.symm, numbers, (isPlain_of_isTail ends).2]
  have split : statLine pid comm state fields ++ tail = (decimalText pid ++ " (".toList ++ comm) ++
      ')' :: ' ' :: state :: (fieldsText fields ++ tail) := by
    simp [statLine]
  rw [readProcStat, content]
  simp only [bind, Option.bind]
  rw [read]
  dsimp only
  rw [cString_eq text, split, strrchr_last behind]
  exact readBehindComm_eq isState ends

/-- For every name without a newline, every state and all fields from the fourth on: if the line has
twenty-two fields or more, then the result is field 14, field 15 and field 22, where these are values below
2^64; if it has fewer, then there is no result. -/
theorem readProcStat_fields (fopen : Str → Option Str) (pid : Int) (comm : Str) (state : Char)
    (fields : List Int) (more : Str)
    (content : fopen (statPath pid) = some (statLine pid comm state fields ++ more))
    (ends : more = [] ∨ ∃ rest, more = '\n' :: rest)
    (fits : (statLine pid comm state fields).length < 4096) (oneLine : '\n' ∉ comm)
    (nul : '\x00' ∉ comm) (isState : IsState state) :
    (22 ≤ fields.length + 3 →
      ∃ times, readProcStat fopen pid = some times ∧ ∀ n : Nat, n < 2 ^ 64 →
        (fieldNo fields 14 = some (n : Int) → times.utime = n) ∧
        (fieldNo fields 15 = some (n : Int) → times.stime = n) ∧
        (fieldNo fields 22 = some (n : Int) → times.starttime = n)) ∧
    (fields.length + 3 < 22 → readProcStat fopen pid = none) := by
  obtain ⟨tail, ends, eq⟩ := readProcStat_line content ends fits oneLine nul isState
  rw [eq]
  refine ⟨fun enough => ?_, fun few => readFields_few ends (Nat.lt_of_add_lt_add_right few)⟩
  have enough : 19 ≤ fields.length := by omega
  refine ⟨_, readFields_enough ends (Nat.le_refl 19) enough, fun n small => ?_⟩
  have value : ∀ k, fieldNo fields k = some (n : Int) → strtoullValue (fields.getD (k - 4) 0) = n := by
    intro k found
    rw [List.getD_eq_getElem?_getD, ← fieldNo, found, Option.getD_some, strtoullValue_of_lt small]
  exact ⟨value 14, value 15, value 22⟩

/-- A process whose name looks like the rest of a line. -/
def forgedComm : Str := "a) S 1 2 3 (b".toList

/-- Fields with a negative one among them. -/
def forgedFields : List Int := [1, 42, 42, 0, -1, 4194304, 10, 0, 0, 0, 700, 30, 0, 0, 20, 0, 1, 0, 98765]

/-- A file system with that process. -/
def forgedProc (path : Str) : Option Str :=
  if path = statPath 42 then some (statLine 42 forgedComm 'S' forgedFields ++ ['\n']) else none

/-- A `comm` that looks like more fields does not forge the start time. -/
theorem readProcStat_fields_forged :
    ∃ times, readProcStat forgedProc 42 = some times ∧ times.starttime = 98765 := by
  obtain ⟨times, read, values⟩ := (readProcStat_fields forgedProc 42 forgedComm 'S' forgedFields ['\n']
    (if_pos rfl) (.inr ⟨[], rfl⟩) (by decide) (by decide) (by decide)
    (isState_of_isAlpha (by decide))).1 (by decide)
  exact ⟨times, read, (values 98765 (by decide)).2.2 rfl⟩

end Atpd.Service.ProcStat
