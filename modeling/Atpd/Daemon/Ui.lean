import Atpd.Lib.Buffer
import Atpd.Lib.Utf8

/-!
# Truncation of text

`truncate_utf8` of `src/ui.c`, through which every value goes before it is printed in a row of a table. It
works on memory: `src` is read up to its NUL, and `dst` has at least `dst_size` bytes. Every access is
checked.
-/

namespace Atpd.Daemon.Ui

open Atpd.Lib Atpd.Lib.Utf8

/-- `strlen(s + i) + i`. -/
def strlen (s : Buffer UInt8) : Nat → Nat → Checked Nat
  | 0, _ => .error .endless
  | fuel + 1, i => do
    let c ← s.load i
    if c = 0 then .ok i else strlen s fuel (i + 1)

/-- The bytes of a codepoint, by its first byte; a byte that cannot be the first counts for itself. -/
def sequenceBytes (c : UInt8) : Nat :=
  if c < 0x80 then 1
  else if c &&& 0xe0 = 0xc0 then 2
  else if c &&& 0xf0 = 0xe0 then 3
  else if c &&& 0xf8 = 0xf0 then 4
  else 1

/-- The loop of `truncate_utf8`: how many bytes of `src` are kept. -/
def keptBytes (src : Buffer UInt8) (keep len : Nat) : Nat → Nat → Checked Nat
  | 0, _ => .error .endless
  | fuel + 1, used =>
    if used < keep then do
      let c ← src.load used
      if c = 0 then .ok used
      else
        let bytes := sequenceBytes c
        if keep < used + bytes ∨ len < used + bytes then .ok used
        else keptBytes src keep len fuel (used + bytes)
    else .ok used

/-- The dots fit into memory. -/
lemma dots_small : [46, 46, 46, (0 : UInt8)].length < sizeMax := by
  rw [sizeMax]
  decide

/-- `"..."`. -/
def dots : Buffer UInt8 := ⟨[46, 46, 46, 0], 4, Nat.le_refl _, dots_small⟩

/-- `truncate_utf8` behind its first check. -/
def writeTruncated (src : Option (Buffer UInt8)) (dst : List UInt8) (dstSize : Nat) (maxBytes : Int) :
    Checked (List UInt8) := do
  let dst ← store dst 0 0
  match src with
  | none => .ok dst
  | some src =>
    if maxBytes ≤ 0 then .ok dst
    else
      let len ← strlen src (src.len + 1) 0
      let limit := if dstSize ≤ maxBytes.toNat then dstSize - 1 else maxBytes.toNat
      if len ≤ limit then memcpy src (len + 1) 0 0 dst
      else if limit ≤ 3 then .ok dst
      else
        -- each round of the loop takes a byte or more
        let used ← keptBytes src (limit - 3) len (limit - 2) 0
        let dst ← memcpy src used 0 0 dst
        memcpy dots 4 0 used dst

/-- `truncate_utf8`: the memory at `dst` afterwards. -/
def truncateUtf8 (src : Option (Buffer UInt8)) (dst : Option (List UInt8)) (dstSize : Nat)
    (maxBytes : Int) : Checked (Option (List UInt8)) :=
  match dst with
  | none => .ok none
  | some dst => if dstSize = 0 then .ok (some dst) else some <$> writeTruncated src dst dstSize maxBytes

variable {src : Buffer UInt8} {dst text s : List UInt8} {cs : List Char} {c : Char} {b : UInt8}
  {keep len stop pos used fuel i n dstSize : Nat} {maxBytes : Int}

/-! ## Reading -/

/-- The memory at `src` holds the string. -/
def HoldsString (src : Buffer UInt8) (text : List UInt8) : Prop :=
  0 ∉ text ∧ ∃ rest, src.items.take src.len = text ++ 0 :: rest

/-- The string with its NUL. -/
lemma HoldsString.at_nul (holds : HoldsString src text) : At src (text.length + 1) 0 (text ++ [0]) := by
  obtain ⟨-, rest, items⟩ := holds
  have total := congrArg List.length items
  rw [List.length_take, List.length_append, List.length_cons] at total
  have within : text.length + 1 ≤ src.len := by omega
  refine ⟨within, Nat.zero_le _, ?_⟩
  have shorter : src.items.take (text.length + 1) = (src.items.take src.len).take (text.length + 1) := by
    rw [List.take_take, Nat.min_eq_left within]
  have split : text ++ 0 :: rest = (text ++ [0]) ++ rest := by rw [List.append_assoc, List.singleton_append]
  have size : text.length + 1 = (text ++ [0]).length := by rw [List.length_append, List.length_singleton]
  rw [List.drop_zero, shorter, items, split, size, List.take_left]

/-- And without. -/
lemma HoldsString.at_text (holds : HoldsString src text) : At src text.length 0 text := by
  have part := holds.at_nul.restrict (Nat.le_succ text.length) (Nat.zero_le _)
  rw [Nat.sub_zero, List.take_left] at part
  exact part

/-- By induction on the text: `strlen` stops at the NUL. -/
lemma strlen_eq (at' : At src stop i (s ++ [0])) (nul : 0 ∉ s) (enough : s.length < fuel) :
    strlen src fuel i = .ok (i + s.length) := by
  induction s generalizing i fuel with
  | nil =>
    obtain ⟨fuel, rfl⟩ : ∃ k, fuel = k + 1 := ⟨fuel - 1, by omega⟩
    rw [strlen, at'.load.1]
    rfl
  | cons b s ih =>
    obtain ⟨fuel, rfl⟩ : ∃ k, fuel = k + 1 := ⟨fuel - 1, by omega⟩
    have here : b ≠ 0 := fun zero => nul (zero ▸ List.mem_cons_self)
    obtain ⟨load, next⟩ := at'.load
    have later := ih next (fun mem => nul (List.mem_cons_of_mem b mem)) (Nat.lt_of_succ_lt_succ enough)
    rw [strlen, load]
    simp only [bind, Except.bind, if_neg here, later, List.length_cons]
    rw [Nat.add_assoc, Nat.add_comm 1]

/-- So it finds the length. -/
lemma HoldsString.strlen_eq (holds : HoldsString src text) :
    strlen src (src.len + 1) 0 = .ok text.length := by
  have within := holds.at_nul.within
  have found := Ui.strlen_eq holds.at_nul holds.1 (Nat.lt_succ_of_lt within)
  rwa [Nat.zero_add] at found

/-- The first byte of a codepoint is read right. -/
lemma sequenceBytes_eq (lead : Announces b n) : sequenceBytes b = n := by
  have all : ∀ k : Fin 256, ∀ n : Fin 5, Announces (UInt8.ofNat k) n → sequenceBytes (UInt8.ofNat k) = n := by
    unfold Announces
    decide +kernel
  have small : n < 5 := by
    rcases lead with h | h | h | h <;> omega
  have here := all ⟨b.toNat, b.toNat_lt⟩ ⟨n, small⟩
  rw [UInt8.ofNat_toNat] at here
  exact here lead

/-- The loop keeps the codepoints that fit. -/
lemma keptBytes_eq (at' : At src len used (encode cs)) (nul : 0 ∉ encode cs) (below : keep < len)
    (le : used ≤ keep) (enough : keep - used < fuel) :
    keptBytes src keep len fuel used = .ok (used + (encode (fitting (keep - used) cs)).length) := by
  induction fuel generalizing used cs with
  | zero => omega
  | succ fuel ih =>
    rw [keptBytes]
    split
    · rename_i more
      cases cs with
      | nil =>
        have length := at'.length
        rw [encode_nil, List.length_nil] at length
        omega
      | cons c cs =>
        -- the first byte of a codepoint gives its length
        obtain ⟨b, tail, bytes, lead⟩ := lead_encodeChar c
        have size := sequenceBytes_eq lead
        have whole : (encode (c :: cs)) = b :: (tail ++ encode cs) := by
          rw [encode_cons, bytes, List.cons_append]
        have length := at'.length
        rw [length_encode_cons] at length
        have load := (whole ▸ at').load.1
        have here : b ≠ 0 := by
          rintro rfl
          exact nul (whole ▸ List.mem_cons_self)
        rw [load]
        simp only [bind, Except.bind, if_neg here, size]
        rw [fitting]
        -- a codepoint that does not fit is left out, with all behind it
        by_cases fits : c.utf8Size ≤ keep - used
        · have next : At src len (used + c.utf8Size) (encode cs) := by
            have skipped := at'.drop (n := c.utf8Size) (by rw [length_encode_cons]; omega)
            rw [encode_cons, ← String.length_utf8EncodeChar, List.drop_left] at skipped
            rwa [String.length_utf8EncodeChar] at skipped
          have pos := c.utf8Size_pos
          have later := ih next (fun mem => nul (List.mem_append_right _ mem)) (by omega) (by omega)
          rw [if_neg (by omega), later, if_pos fits, length_encode_cons, Nat.sub_sub, Nat.add_assoc]
        · rw [if_pos (by omega), if_neg fits]
          rfl
    · rename_i full
      have none : keep - used = 0 := by omega
      rw [none, fitting_zero]
      rfl

/-! ## Writing -/

/-- The limit on the bytes of the text. -/
def limitOf (dstSize : Nat) (maxBytes : Int) : Nat := min maxBytes.toNat (dstSize - 1)

/-- The bound that is in effect. -/
lemma limit_eq (pos : 1 ≤ dstSize) :
    (if dstSize ≤ maxBytes.toNat then dstSize - 1 else maxBytes.toNat) = limitOf dstSize maxBytes := by
  rw [limitOf]
  split <;> omega

/-- The first byte is cleared. -/
lemma store_zero (room : 0 < dst.length) : store dst 0 0 = .ok (0 :: dst.drop 1) := by
  rw [store, if_pos room]
  cases dst with
  | nil => cases room
  | cons b dst => rfl

/-- The dots in memory. -/
lemma at_dots : At dots 4 0 [46, 46, 46, 0] := ⟨Nat.le_refl _, Nat.zero_le _, rfl⟩

/-- The part that is kept, and the dots behind it. -/
lemma write_dots {part : List UInt8} (at' : At src len 0 (part ++ s))
    (room : part.length + 4 ≤ dst.length) :
    (memcpy src part.length 0 0 dst >>= memcpy dots 4 0 part.length) =
      .ok (part ++ [46, 46, 46] ++ 0 :: dst.drop (part.length + 4)) := by
  have copied : memcpy src part.length 0 0 dst =
      .ok (dst.take 0 ++ (part ++ s).take part.length ++ dst.drop (0 + part.length)) :=
    at'.memcpy (by rw [List.length_append]; omega) (by omega)
  rw [List.take_zero, List.nil_append, List.take_left, Nat.zero_add] at copied
  have fit : part.length + 4 ≤ (part ++ dst.drop part.length).length := by
    rw [List.length_append, List.length_drop]
    omega
  have dotted := at_dots.memcpy (Nat.le_refl 4) fit
  rw [copied]
  simp only [bind, Except.bind, dotted]
  rw [List.take_left, List.drop_length_add_append, List.drop_drop, List.append_assoc, List.append_assoc]
  rfl

/-! ## The text -/

/-- What is to become of a text, where `limit` bytes are to be written. -/
structure Truncation (limit : Nat) (cs ds : List Char) : Prop where
  nul : 0 ∉ encode ds
  short : (encode ds).length ≤ limit
  whole : (encode cs).length ≤ limit → ds = cs
  empty : limit < (encode cs).length → limit ≤ 3 → ds = []
  cut : limit < (encode cs).length → 3 < limit → ∃ part, ds = part ++ ['.', '.', '.'] ∧
    part <+: cs ∧ (encode part).length ≤ limit - 3 ∧
    ∀ other, other <+: cs → (encode other).length ≤ limit - 3 → other <+: part

/-- A text that fits is not cut. -/
lemma truncation_whole (nul : 0 ∉ encode cs) (fits : (encode cs).length ≤ n) : Truncation n cs cs where
  nul := nul
  short := fits
  whole _ := rfl
  empty long := absurd fits (Nat.not_le.mpr long)
  cut long := absurd fits (Nat.not_le.mpr long)

/-- In less than four bytes there is no room for the dots. -/
lemma truncation_empty (long : n = 0 ∨ n < (encode cs).length) (tiny : n ≤ 3) : Truncation n cs [] where
  nul := List.not_mem_nil
  short := Nat.zero_le n
  whole fits := by
    have none : (encode cs).length = 0 := by omega
    exact (eq_nil_of_length_encode none).symm
  empty _ _ := rfl
  cut _ wide := absurd tiny (Nat.not_le.mpr wide)

/-- A dot is one byte. -/
lemma encode_dots : encode ['.', '.', '.'] = [46, 46, 46] := by decide

/-- What is cut ends with the dots. -/
lemma truncation_cut (nul : 0 ∉ encode cs) (long : n < (encode cs).length) (wide : 3 < n) :
    Truncation n cs (fitting (n - 3) cs ++ ['.', '.', '.']) where
  nul := by
    obtain ⟨rest, split⟩ := fitting_prefix (n - 3) cs
    rw [encode_append, encode_dots]
    intro mem
    rcases List.mem_append.mp mem with mem | mem
    · refine nul ?_
      rw [← split, encode_append]
      exact List.mem_append_left _ mem
    · exact absurd mem (by decide)
  short := by
    have kept := length_fitting (n - 3) cs
    rw [encode_append, encode_dots, List.length_append, List.length_cons, List.length_cons,
      List.length_singleton]
    omega
  whole fits := absurd fits (Nat.not_le.mpr long)
  empty _ tiny := absurd tiny (Nat.not_le.mpr wide)
  cut _ _ := ⟨_, rfl, fitting_prefix _ cs, length_fitting _ cs, fun _ => fitting_longest⟩

/-- The limit is zero, or the string is too long for it: nothing is written but the NUL. -/
lemma writeTruncated_empty (holds : HoldsString src (encode cs)) (room : 0 < dst.length)
    (pos : 1 ≤ dstSize) (tiny : limitOf dstSize maxBytes ≤ 3)
    (long : maxBytes ≤ 0 ∨ limitOf dstSize maxBytes < (encode cs).length) :
    writeTruncated (some src) dst dstSize maxBytes = .ok (0 :: dst.drop 1) := by
  have len := holds.strlen_eq
  rw [writeTruncated, store_zero room]
  simp only [bind, Except.bind]
  split
  · rfl
  · rename_i more
    have long := long.resolve_left more
    rw [len, limit_eq pos]
    dsimp only
    rw [if_neg (Nat.not_le.mpr long), if_pos tiny]

/-- A text that fits is copied. -/
lemma writeTruncated_whole (holds : HoldsString src (encode cs)) (room : dstSize ≤ dst.length)
    (pos : 1 ≤ dstSize) (some' : ¬maxBytes ≤ 0) (fits : (encode cs).length ≤ limitOf dstSize maxBytes) :
    writeTruncated (some src) dst dstSize maxBytes =
      .ok (encode cs ++ 0 :: dst.drop ((encode cs).length + 1)) := by
  have len := holds.strlen_eq
  have inside : (encode cs).length + 1 ≤ dst.length := by
    rw [limitOf] at fits
    omega
  have size : (encode cs ++ [0]).length = (encode cs).length + 1 := by
    rw [List.length_append, List.length_singleton]
  have fit : 0 + ((encode cs).length + 1) ≤ (0 :: dst.drop 1).length := by
    rw [List.length_cons, List.length_drop]
    omega
  have copied := holds.at_nul.memcpy (Nat.le_of_eq size.symm) fit
  rw [writeTruncated, store_zero (by omega)]
  simp only [bind, Except.bind]
  rw [if_neg some', len, limit_eq pos]
  dsimp only
  rw [if_pos fits, copied, List.take_zero, List.nil_append, ← size, List.take_length, size, Nat.zero_add,
    List.drop_succ_cons, List.drop_drop, List.append_assoc, Nat.add_comm 1]
  rfl

/-- The loop has found the part that is kept. -/
lemma writeTruncated_cut (holds : HoldsString src (encode cs)) (room : dstSize ≤ dst.length)
    (pos : 1 ≤ dstSize) (some' : ¬maxBytes ≤ 0) (long : limitOf dstSize maxBytes < (encode cs).length)
    (wide : 3 < limitOf dstSize maxBytes) :
    writeTruncated (some src) dst dstSize maxBytes =
      .ok (encode (fitting (limitOf dstSize maxBytes - 3) cs ++ ['.', '.', '.']) ++
        0 :: dst.drop ((encode (fitting (limitOf dstSize maxBytes - 3) cs)).length + 4)) := by
  have len := holds.strlen_eq
  have inside : limitOf dstSize maxBytes + 1 ≤ dst.length := by
    rw [limitOf]
    omega
  have rounds : limitOf dstSize maxBytes - 3 - 0 < limitOf dstSize maxBytes - 2 := by omega
  have kept := keptBytes_eq holds.at_text holds.1 (by omega) (Nat.zero_le _) rounds
  rw [Nat.sub_zero, Nat.zero_add] at kept
  have fits := length_fitting (limitOf dstSize maxBytes - 3) cs
  have text := holds.at_text
  obtain ⟨rest, split⟩ := fitting_prefix (limitOf dstSize maxBytes - 3) cs
  generalize fitting (limitOf dstSize maxBytes - 3) cs = part at kept fits split ⊢
  rw [← split, encode_append] at text
  have fit : (encode part).length + 4 ≤ (0 :: dst.drop 1).length := by
    rw [List.length_cons, List.length_drop]
    omega
  have written := write_dots text fit
  rw [writeTruncated, store_zero (by omega)]
  simp only [bind, Except.bind] at written ⊢
  rw [if_neg some', len, limit_eq pos]
  dsimp only
  rw [if_neg (Nat.not_le.mpr long), if_neg (Nat.not_le.mpr wide), kept]
  dsimp only
  rw [written, encode_append, encode_dots, List.drop_succ_cons, List.drop_drop, Nat.add_comm 1]

/-- For every UTF-8 string at `src`, and every `dst` with room for `dst_size` bytes, at least one: what is
written is a NUL-terminated UTF-8 string within the limit, and nothing behind it. It is the string itself if
that fits, else it is empty for a limit of three, and otherwise the longest part of whole codepoints that
leaves room for three dots, with the dots. -/
theorem truncate_utf8_codepoints (src : Buffer UInt8) (cs : List Char)
    (holds : HoldsString src (encode cs)) (dst : List UInt8) (dstSize : Nat) (pos : 1 ≤ dstSize)
    (room : dstSize ≤ dst.length) (maxBytes : Int) :
    ∃ ds, truncateUtf8 (some src) (some dst) dstSize maxBytes =
        .ok (some (encode ds ++ 0 :: dst.drop ((encode ds).length + 1))) ∧
      Truncation (limitOf dstSize maxBytes) cs ds := by
  rw [truncateUtf8]
  simp only [if_neg (Nat.ne_of_gt pos)]
  have none : maxBytes ≤ 0 → limitOf dstSize maxBytes = 0 := by
    intro none
    rw [limitOf]
    omega
  by_cases empty : maxBytes ≤ 0 ∨
      limitOf dstSize maxBytes < (encode cs).length ∧ limitOf dstSize maxBytes ≤ 3
  · have tiny : limitOf dstSize maxBytes ≤ 3 := by
      rcases empty with h | h
      · rw [none h]
        exact Nat.zero_le 3
      · exact h.2
    rw [writeTruncated_empty holds (by omega) pos tiny (empty.imp id And.left)]
    exact ⟨[], rfl, truncation_empty (empty.imp none And.left) tiny⟩
  · obtain ⟨some', wide⟩ := not_or.mp empty
    by_cases fits : (encode cs).length ≤ limitOf dstSize maxBytes
    · rw [writeTruncated_whole holds room pos some' fits]
      exact ⟨cs, rfl, truncation_whole holds.1 fits⟩
    · have long := Nat.not_le.mp fits
      have wide : 3 < limitOf dstSize maxBytes := by
        by_contra tiny
        exact wide ⟨long, Nat.not_lt.mp tiny⟩
      rw [writeTruncated_cut holds room pos some' long wide]
      refine ⟨_, ?_, truncation_cut holds.1 long wide⟩
      have size : (encode ['.', '.', '.']).length = 3 := by rw [encode_dots]; rfl
      rw [encode_append, List.length_append, size]
      rfl

/-- A text of one, two and three bytes. -/
lemma accented_small : [0x61, 0xc3, 0xa9, 0xe2, 0x82, 0xac, 0x62, 0x63, (0 : UInt8)].length < sizeMax := by
  rw [sizeMax]
  decide

/-- A text with codepoints of one, two and three bytes, and its NUL. -/
def accented : Buffer UInt8 :=
  ⟨[0x61, 0xc3, 0xa9, 0xe2, 0x82, 0xac, 0x62, 0x63, 0], 9, Nat.le_refl _, accented_small⟩

/-- There is no room for the third codepoint. -/
theorem truncate_utf8_codepoints_accented :
    truncateUtf8 (some accented) (some (List.replicate 8 0xff)) 8 20 =
        .ok (some [0x61, 0xc3, 0xa9, 0x2e, 0x2e, 0x2e, 0, 0xff]) ∧
      ∃ ds, truncateUtf8 (some accented) (some (List.replicate 8 0xff)) 8 20 =
          .ok (some (encode ds ++ 0 :: (List.replicate 8 0xff).drop ((encode ds).length + 1))) ∧
        Truncation (limitOf 8 20) ['a', 'é', '€', 'b', 'c'] ds :=
  ⟨by decide, truncate_utf8_codepoints accented ['a', 'é', '€', 'b', 'c'] ⟨by decide, [], by decide⟩
    (List.replicate 8 0xff) 8 (by decide) (by decide) 20⟩

end Atpd.Daemon.Ui
