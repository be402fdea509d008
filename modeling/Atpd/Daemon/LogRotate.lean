import Atpd.Config.File
import Atpd.Lib.Directory

/-!
# Rotation of the log

`log_rotate_file_unlocked` of `src/logger.c`, with the closing and the opening of the log around it. Every
name is moved up by one with `rename`, which takes the new name from the file that has it. A file is a
number here, apart from its names: an open stream stays with its file when that is renamed, and what is
buffered is written there.
-/

namespace Atpd.Daemon.LogRotate

open Atpd.Config Atpd.Lib

/-! ## Files -/

/-- The files by their names, and what is in them. A file that is created gets the number `next`. -/
structure Disk where
  names : Str → Option Nat
  content : Nat → Str
  next : Nat
  below : ∀ name file, names name = some file → file < next
  nameless : names [] = none

/-- `rename`. -/
def Disk.rename (d : Disk) (old new : Str) : Disk :=
  if nameless : new = [] then d
  else
    { d with
      names := Directory.rename d.names old new
      below := by
        intro _ file entry
        obtain ⟨name, entry⟩ := Directory.mem_rename entry
        exact d.below name file entry
      nameless := by
        cases old with
        | nil => rw [Directory.rename, if_pos (.inl d.nameless), d.nameless]
        | cons c old => rw [Directory.rename_other (List.cons_ne_nil c old).symm (Ne.symm nameless), d.nameless] }

/-- What is written at the end of a file. -/
def Disk.append (d : Disk) (file : Nat) (bytes : Str) : Disk :=
  { d with content := Function.update d.content file (d.content file ++ bytes) }

/-- `open` with `O_CREAT`: the disk then, and the file. -/
def Disk.openCreate (d : Disk) (name : Str) : Disk × Option Nat :=
  if nameless : name = [] then (d, none)
  else
    match d.names name with
    | some file => (d, some file)
    | none =>
      ({ names := Function.update d.names name (some d.next)
         content := Function.update d.content d.next []
         next := d.next + 1
         below := by
          intro name' file entry
          by_cases here : name' = name
          · rw [here, Function.update_self] at entry
            cases entry
            exact Nat.lt_succ_self _
          · rw [Function.update_of_ne here] at entry
            exact Nat.lt_succ_of_lt (d.below name' file entry)
         nameless := by rw [Function.update_of_ne (Ne.symm nameless), d.nameless] }, some d.next)

/-! ## The logger -/

/-- `g_log_fp`: the file, and what is buffered for it. -/
structure Stream where
  file : Nat
  buffer : Str

/-- The variables of the logger and the files around it. -/
structure Logger where
  disk : Disk
  logFile : Str
  rotateCount : Int
  fp : Option Stream
  currentLogSize : Nat

/-- What the system says: how much of the buffer is written before the stream is closed, which of the
renames succeed, whether the log can be opened, and whether it passes the checks behind that. -/
structure Os where
  flushed : Nat
  renamed : Nat → Bool
  opens : Bool
  accepted : Bool

/-- `log_close_file_unlocked`. -/
def logCloseFileUnlocked (os : Os) (l : Logger) : Logger :=
  match l.fp with
  | none => { l with currentLogSize := 0 }
  | some s =>
    { l with disk := l.disk.append s.file (s.buffer.take os.flushed), fp := none, currentLogSize := 0 }

/-- `log_open_file_unlocked`. -/
def logOpenFileUnlocked (os : Os) (l : Logger) : Logger :=
  if l.logFile = [] ∨ l.fp.isSome ∨ !os.opens then l
  else
    match l.disk.openCreate l.logFile with
    | (disk, none) => { l with disk := disk }
    | (disk, some file) =>
      if os.accepted then
        { l with disk := disk, fp := some ⟨file, []⟩, currentLogSize := (disk.content file).length }
      else { l with disk := disk }

/-- `"%s.%d"`. -/
def numbered (path : Str) (i : Nat) : Str := path ++ '.' :: Nat.toDigits 10 i

/-- `snprintf` into a buffer of `PATH_MAX` bytes. -/
def snprintf (text : Str) : Str := text.take (pathMax - 1)

/-- The loop of `log_rotate_file_unlocked`, from `i` down. -/
def rotateFrom (os : Os) (path : Str) : Nat → Disk → Disk
  | 0, d => d
  | 1, d => if os.renamed 1 then d.rename path (snprintf (numbered path 1)) else d
  | i + 2, d =>
    let oldPath := snprintf (numbered path (i + 1))
    let newPath := snprintf (numbered path (i + 2))
    let d := if (d.names oldPath).isSome ∧ os.renamed (i + 2) then d.rename oldPath newPath else d
    rotateFrom os path (i + 1) d

/-- `log_rotate_file_unlocked`. -/
def logRotateFileUnlocked (os : Os) (path : Str) (l : Logger) : Logger :=
  if path = [] then l
  else
    let l := logCloseFileUnlocked os l
    logOpenFileUnlocked os { l with disk := rotateFrom os path (l.rotateCount - 1).toNat l.disk }

variable {os : Os} {l : Logger} {d : Disk} {path name old new : Str} {i j file : Nat}

/-! ## Names -/

/-- The names that the log has one after the other. -/
def generation (path : Str) : Nat → Str
  | 0 => path
  | i + 1 => numbered path (i + 1)

/-- A numbered file is not the log. -/
lemma numbered_ne_path : numbered path i ≠ path := by
  intro same
  have length := congrArg List.length same
  rw [numbered, List.length_append, List.length_cons] at length
  omega

/-- Two numbers are two files. -/
lemma numbered_injective (path : Str) : Function.Injective (numbered path) := by
  intro i j same
  have digits := List.tail_eq_of_cons_eq (List.append_cancel_left same)
  have value := congrArg (fun digits => Nat.ofDigitChars 10 digits 0) digits
  simp only [Nat.ofDigitChars_ten_toDigits] at value
  exact value

/-- So are two generations. -/
lemma generation_injective (path : Str) : Function.Injective (generation path) := by
  intro i j same
  cases i with
  | zero =>
    cases j with
    | zero => rfl
    | succ j => exact absurd same.symm numbered_ne_path
  | succ i =>
    cases j with
    | zero => exact absurd same numbered_ne_path
    | succ j => exact numbered_injective path same

/-- `snprintf` writes the whole name. -/
lemma snprintf_eq (fits : name.length < pathMax) : snprintf name = name :=
  List.take_of_length_le (Nat.le_sub_one_of_lt fits)

/-! ## The loop -/

/-- Renaming moves a name. -/
lemma Disk.rename_names (some : new ≠ []) :
    (d.rename old new).names = Directory.rename d.names old new := by
  rw [rename, dif_neg some]

/-- And no file. -/
lemma Disk.rename_files (d : Disk) (old new : Str) :
    (d.rename old new).content = d.content ∧ (d.rename old new).next = d.next := by
  rw [rename]
  split <;> exact ⟨rfl, rfl⟩

/-- The loop changes names only. -/
lemma rotateFrom_files (os : Os) (path : Str) (i : Nat) (d : Disk) :
    (rotateFrom os path i d).content = d.content ∧ (rotateFrom os path i d).next = d.next := by
  induction i generalizing d with
  | zero => exact ⟨rfl, rfl⟩
  | succ i ih =>
    cases i with
    | zero =>
      rw [rotateFrom]
      split
      · exact d.rename_files _ _
      · exact ⟨rfl, rfl⟩
    | succ i =>
      rw [rotateFrom]
      split
      · obtain ⟨content, next⟩ := ih (d.rename (snprintf (numbered path (i + 1)))
          (snprintf (numbered path (i + 2))))
        obtain ⟨content', next'⟩ := d.rename_files (snprintf (numbered path (i + 1)))
          (snprintf (numbered path (i + 2)))
        exact ⟨content.trans content', next.trans next'⟩
      · exact ih d

/-- A numbered name is not empty. -/
lemma numbered_ne_nil : numbered path i ≠ [] := List.append_ne_nil_of_right_ne_nil _ (List.cons_ne_nil _ _)

/-- The loop moves the generations up by one. -/
lemma rotateFrom_names (succeed : ∀ i, os.renamed i = true)
    (fit : ∀ j, 1 ≤ j → j ≤ i → (numbered path j).length < pathMax) :
    (rotateFrom os path i d).names = Directory.moveUp (generation path) i d.names := by
  induction i generalizing d with
  | zero => rfl
  | succ i ih =>
    have ih := fun d => @ih d fun j pos le => fit j pos (Nat.le_succ_of_le le)
    have top := snprintf_eq (fit (i + 1) (Nat.succ_pos i) (Nat.le_refl _))
    cases i with
    | zero =>
      rw [rotateFrom, if_pos (succeed 1), top, Disk.rename_names numbered_ne_nil]
      rfl
    | succ i =>
      have below := snprintf_eq (fit (i + 1) (Nat.succ_pos i) (Nat.le_succ _))
      rw [rotateFrom, top, below, ih]
      refine congrArg (Directory.moveUp (generation path) (i + 1)) ?_
      by_cases there : (d.names (numbered path (i + 1))).isSome
      · rw [if_pos ⟨there, succeed _⟩, Disk.rename_names numbered_ne_nil]
        rfl
      · rw [if_neg fun both => there both.1]
        have absent : d.names (generation path (i + 1)) = none := Option.not_isSome_iff_eq_none.mp there
        rw [Directory.rename, if_pos (.inl absent)]

/-! ## Closing and opening -/

/-- What is written to a file when the log is closed. -/
def Logger.pending (l : Logger) (os : Os) (file : Nat) : Str :=
  match l.fp with
  | some s => if s.file = file then s.buffer.take os.flushed else []
  | none => []

/-- Closing the log renames nothing. -/
lemma close_names (os : Os) (l : Logger) : (logCloseFileUnlocked os l).disk.names = l.disk.names := by
  unfold logCloseFileUnlocked
  split <;> rfl

/-- It makes no file. -/
lemma close_next (os : Os) (l : Logger) : (logCloseFileUnlocked os l).disk.next = l.disk.next := by
  unfold logCloseFileUnlocked
  split <;> rfl

/-- It writes what was buffered. -/
lemma close_content (os : Os) (l : Logger) (file : Nat) :
    (logCloseFileUnlocked os l).disk.content file = l.disk.content file ++ l.pending os file := by
  unfold logCloseFileUnlocked Logger.pending
  split
  · rename_i none
    rw [none]
    exact (List.append_nil _).symm
  · rename_i s open'
    rw [open']
    dsimp only [Disk.append]
    by_cases here : s.file = file
    · rw [if_pos here, ← here, Function.update_self]
    · rw [if_neg here, Function.update_of_ne (Ne.symm here), List.append_nil]

/-- What the opening does to the disk: a name that has no file may be given a new one. -/
structure Opened (name : Str) (d d' : Disk) : Prop where
  entry : ∀ {other file}, d.names other = some file → d'.names other = some file
  others : ∀ {other}, other ≠ name → d'.names other = d.names other
  content : ∀ {file}, file < d.next → d'.content file = d.content file

lemma Opened.refl (name : Str) (d : Disk) : Opened name d d := ⟨id, fun _ => rfl, fun _ => rfl⟩

/-- Opening makes a file, if there is none. -/
lemma openCreate_opened (d : Disk) (name : Str) : Opened name d (d.openCreate name).1 := by
  unfold Disk.openCreate
  split
  · exact .refl name d
  · split
    · exact .refl name d
    · rename_i absent
      refine ⟨fun {other file} entry => ?_, fun ne => Function.update_of_ne ne _ _,
        fun lt => Function.update_of_ne (Nat.ne_of_lt lt) _ _⟩
      have ne : other ≠ name := by
        rintro rfl
        rw [absent] at entry
        cases entry
      exact (Function.update_of_ne ne _ _).trans entry

/-- So does `log_open_file_unlocked`. -/
lemma open_opened (os : Os) (l : Logger) : Opened l.logFile l.disk (logOpenFileUnlocked os l).disk := by
  have opened := openCreate_opened l.disk l.logFile
  unfold logOpenFileUnlocked
  split
  · exact .refl _ _
  · split
    · rename_i result
      rw [result] at opened
      exact opened
    · rename_i result
      rw [result] at opened
      split <;> exact opened

/-! ## The rotation -/

/-- At the end the log is opened again. -/
lemma rotate_opened (someName : l.logFile ≠ []) :
    Opened l.logFile (rotateFrom os l.logFile (l.rotateCount - 1).toNat (logCloseFileUnlocked os l).disk)
      (logRotateFileUnlocked os l.logFile l).disk := by
  have opened := open_opened os { logCloseFileUnlocked os l with
    disk := rotateFrom os l.logFile (l.rotateCount - 1).toNat (logCloseFileUnlocked os l).disk }
  rw [logRotateFileUnlocked, if_neg someName]
  obtain ⟨disk, logFile, rotateCount, fp, size⟩ := l
  cases fp <;> exact opened

/-- The generations after a rotation, and all that has not changed. -/
structure Rotated (os : Os) (l l' : Logger) : Prop where
  newest : l'.disk.names (numbered l.logFile 1) = l.disk.names l.logFile
  moved : ∀ (i : Nat) file, 1 ≤ i → i ≤ l.rotateCount - 2 →
    l.disk.names (numbered l.logFile i) = some file → l'.disk.names (numbered l.logFile (i + 1)) = some file
  kept : ∀ name file, l.disk.names name = some file →
    name ≠ numbered l.logFile (l.rotateCount - 1).toNat → ∃ name', l'.disk.names name' = some file
  content : ∀ name file, l.disk.names name = some file →
    l'.disk.content file = l.disk.content file ++ l.pending os file
  others : ∀ name, name ≠ l.logFile →
    (∀ i : Nat, 1 ≤ i → i ≤ l.rotateCount - 1 → name ≠ numbered l.logFile i) →
    l'.disk.names name = l.disk.names name

/-- For every number of generations from two on, and any that there are: the log gets the number one, each
generation gets the next number, and only the file of the last one may have no name afterwards. Nothing is
written but what was buffered, and the other names stay with their files. -/
theorem logRotateFileUnlocked_rotated (os : Os) (l : Logger) (file : Nat)
    (entry : l.disk.names l.logFile = some file) (two : 2 ≤ l.rotateCount)
    (succeed : ∀ i, os.renamed i = true)
    (fit : ∀ i : Nat, 1 ≤ i → i ≤ l.rotateCount - 1 → (numbered l.logFile i).length < pathMax) :
    Rotated os l (logRotateFileUnlocked os l.logFile l) := by
  have someName : l.logFile ≠ [] := by
    intro none
    rw [none, l.disk.nameless] at entry
    cases entry
  obtain ⟨count, rounds⟩ : ∃ count : Nat, (l.rotateCount - 1).toNat = count + 1 :=
    ⟨(l.rotateCount - 2).toNat, by omega⟩
  have opened := @rotate_opened os l someName
  -- the renames move every generation up by one
  have names := @rotateFrom_names os (logCloseFileUnlocked os l).disk l.logFile (count + 1) succeed
    fun j pos le => fit j pos (by omega)
  rw [close_names] at names
  obtain ⟨content, next⟩ := rotateFrom_files os l.logFile (count + 1) (logCloseFileUnlocked os l).disk
  rw [close_next] at next
  rw [rounds] at opened
  have inj := generation_injective l.logFile
  refine ⟨?_, fun i file pos le entry => ?_, fun name file entry ne => ?_, fun name file entry => ?_,
    fun name ne other => ?_⟩
  · -- the log itself, and then the generations
    rw [entry]
    apply opened.entry
    rw [names]
    exact @Directory.moveUp_moved _ _ _ _ _ file _ 0 _ inj (Nat.succ_pos _) entry
  · apply opened.entry
    rw [names]
    obtain ⟨i, rfl⟩ : ∃ k, i = k + 1 := ⟨i - 1, by omega⟩
    exact @Directory.moveUp_moved _ _ _ _ _ file _ (i + 1) _ inj (by omega) entry
  · rw [rounds] at ne
    have ne : name ≠ generation l.logFile (count + 1) := ne
    obtain ⟨name', kept⟩ := Directory.moveUp_kept inj entry ne
    exact ⟨name', opened.entry (names ▸ kept)⟩
  · rw [opened.content (next ▸ l.disk.below name file entry), content, close_content]
  · rw [opened.others ne, names]
    apply Directory.moveUp_other
    intro i le
    cases i with
    | zero => exact ne
    | succ i => exact other (i + 1) (Nat.succ_pos i) (by omega)

/-- A log with its first and its third generation. -/
def gapNames (name : Str) : Option Nat :=
  if name = "atp.log".toList then some 0
  else if name = "atp.log.1".toList then some 1
  else if name = "atp.log.3".toList then some 2
  else none

/-- Three files on a disk with a gap. -/
lemma gapNames_below (name : Str) (file : Nat) (entry : gapNames name = some file) : file < 3 := by
  unfold gapNames at entry
  split_ifs at entry <;> cases entry <;> decide

/-- The disk. -/
def gapDisk : Disk := ⟨gapNames, fun file => [Char.ofNat (65 + file)], 3, gapNames_below, rfl⟩

/-- The logger has five files, and something in its buffer. -/
def gapLogger : Logger := ⟨gapDisk, "atp.log".toList, 5, some ⟨0, ['b']⟩, 1⟩

/-- A gap stays where it is. -/
theorem logRotateFileUnlocked_rotated_gap :
    Rotated ⟨1, fun _ => true, true, true⟩ gapLogger
      (logRotateFileUnlocked ⟨1, fun _ => true, true, true⟩ "atp.log".toList gapLogger) := by
  have fit : ∀ i ≤ 4, (numbered "atp.log".toList i).length < pathMax := by decide
  exact logRotateFileUnlocked_rotated ⟨1, fun _ => true, true, true⟩ gapLogger 0 (by decide) (by decide)
    (fun _ => rfl) fun i _ le => fit i (Int.ofNat_le.mp le)

end Atpd.Daemon.LogRotate
