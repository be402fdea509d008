import Mathlib.Tactic.Common

/-!
# Parsers of a growing buffer

A receiver that does not know where a message ends runs its parser on what it has so far, each time
more arrives. This file has such a parser as a function from a byte list to a `Verdict`, the loop
that feeds it, and the rule under which the pieces do not matter: a result must not change when more
arrives, and an error must not turn into a result. It also has `cut`, the search for a separator,
with what it does when the text grows. Nothing here names the modelled program.

* `cut pat text`: the text before and after the first occurrence of `pat`.
* `scan parse cap buf segs`: the loop, with a buffer for at most `cap` bytes.
* `scan_done_iff`: a loop over all pieces has the result of the whole.
-/

namespace Atpd.Lib

/-- What a parser says about a prefix: more is needed, it is no message, or it is one. -/
inductive Verdict (ρ : Type*) where
  | more
  | error
  | done (result : ρ)
deriving DecidableEq, Repr

variable {α ρ : Type*}

/-! ## Search -/

section Cut

variable [DecidableEq α] {pat s t before after : List α}

/-- The text before and after the first occurrence of `pat`. -/
def cut (pat : List α) : List α → Option (List α × List α)
  | [] => if pat = [] then some ([], []) else none
  | x :: xs =>
    if pat.isPrefixOf (x :: xs) then some ([], (x :: xs).drop pat.length)
    else (cut pat xs).map fun p => (x :: p.1, p.2)

/-- What was cut is put together again. -/
lemma cut_eq_append (found : cut pat s = some (before, after)) : s = before ++ pat ++ after := by
  induction s generalizing before after with
  | nil =>
    simp only [cut, Option.ite_none_right_eq_some, Option.some.injEq, Prod.mk.injEq] at found
    obtain ⟨rfl, rfl, rfl⟩ := found
    rfl
  | cons x xs ih =>
    rw [cut] at found
    split at found
    · rename_i pre
      cases found
      obtain ⟨rest, hrest⟩ := List.isPrefixOf_iff_prefix.mp pre
      rw [← hrest]
      simp
    · obtain ⟨⟨b, a⟩, rest, heq⟩ := Option.map_eq_some_iff.mp found
      cases heq
      rw [ih rest]
      simp

/-- The first occurrence stays the first when the text grows. -/
lemma cut_append (found : cut pat s = some (before, after)) (t : List α) :
    cut pat (s ++ t) = some (before, after ++ t) := by
  induction s generalizing before after with
  | nil =>
    simp only [cut, Option.ite_none_right_eq_some, Option.some.injEq, Prod.mk.injEq] at found
    obtain ⟨rfl, rfl, rfl⟩ := found
    cases t with
    | nil => rfl
    | cons y ys => simp [cut]
  | cons x xs ih =>
    rw [cut] at found
    split at found
    · rename_i pre
      cases found
      have pre := List.isPrefixOf_iff_prefix.mp pre
      have longer : pat.isPrefixOf (x :: (xs ++ t)) = true :=
        List.isPrefixOf_iff_prefix.mpr (pre.trans (List.prefix_append (x :: xs) t))
      rw [List.cons_append, cut, if_pos longer, ← List.cons_append,
        List.drop_append_of_le_length pre.length_le]
    · rename_i pre
      obtain ⟨⟨b, a⟩, rest, heq⟩ := Option.map_eq_some_iff.mp found
      cases heq
      have longer : ¬pat.isPrefixOf (x :: (xs ++ t)) = true := by
        intro h
        -- `pat` fits into the shorter text, where it was looked for
        have fits : pat.length ≤ (x :: xs).length := by
          have len := congrArg List.length (cut_eq_append rest)
          simp only [List.length_append, List.length_cons] at len ⊢
          omega
        have h := List.isPrefixOf_iff_prefix.mp h
        exact pre (List.isPrefixOf_iff_prefix.mpr
          (List.prefix_of_prefix_length_le h (List.prefix_append (x :: xs) t) fits))
      rw [List.cons_append, cut, if_neg longer, ih rest]
      rfl

/-- A text without the first letter of the separator is what stands before it. -/
lemma cut_of_notMem {p : α} {ps : List α} (clean : p ∉ s) :
    cut (p :: ps) (s ++ (p :: ps) ++ t) = some (s, t) := by
  induction s with
  | nil =>
    have pre : (p :: ps).isPrefixOf (p :: (ps ++ t)) = true :=
      List.isPrefixOf_iff_prefix.mpr ⟨t, rfl⟩
    simp only [List.nil_append, List.cons_append, cut, if_pos pre]
    simp
  | cons x xs ih =>
    simp only [List.mem_cons, not_or] at clean
    have pre : ¬(p :: ps).isPrefixOf (x :: (xs ++ (p :: ps) ++ t)) = true := by
      simp [List.isPrefixOf, clean.1]
    rw [List.cons_append, List.cons_append, cut, if_neg pre, ih clean.2]
    rfl

/-- The separator is found exactly if it occurs. -/
lemma cut_isSome_iff : (cut pat s).isSome = true ↔ pat <:+: s := by
  constructor
  · intro found
    obtain ⟨⟨before, after⟩, found⟩ := Option.isSome_iff_exists.mp found
    exact ⟨before, after, (cut_eq_append found).symm⟩
  · intro occurs
    induction s with
    | nil => simp [cut, List.infix_nil.mp occurs]
    | cons x xs ih =>
      rw [cut]
      split
      · rfl
      · rename_i pre
        obtain here | later := List.infix_cons_iff.mp occurs
        · exact absurd (List.isPrefixOf_iff_prefix.mpr here) pre
        · rw [Option.isSome_map]
          exact ih later

omit [DecidableEq α] in
/-- Around a letter that is not in it, a pattern occurs before the letter or behind it. -/
lemma infix_append_cons {x : α} (clean : x ∉ pat) (ne : pat ≠ []) :
    pat <:+: s ++ x :: t ↔ pat <:+: s ∨ pat <:+: t := by
  constructor
  · intro occurs
    induction s with
    | nil =>
      obtain here | later := List.infix_cons_iff.mp occurs
      · obtain ⟨y, ys, rfl⟩ := List.exists_cons_of_ne_nil ne
        obtain ⟨rest, eq⟩ := here
        obtain ⟨rfl, -⟩ := List.cons_eq_cons.mp eq
        exact absurd List.mem_cons_self clean
      · exact .inr later
    | cons y s ih =>
      rw [List.cons_append, List.infix_cons_iff] at occurs
      obtain here | later := occurs
      · have upTo : y :: s ++ [x] <+: y :: (s ++ x :: t) := ⟨t, by simp⟩
        obtain short | long := List.prefix_or_prefix_of_prefix here upTo
        · obtain rfl | short := List.prefix_concat_iff.mp short
          · exact absurd (by simp) clean
          · exact .inl short.isInfix
        · exact absurd (long.subset (by simp)) clean
      · exact (ih later).imp_left fun found => found.trans (List.suffix_cons y s).isInfix
  · rintro (before | behind)
    · exact List.infix_append_of_infix_left before
    · exact List.infix_append_of_infix_right (List.infix_cons_iff.mpr (.inr behind))

omit [DecidableEq α] in
/-- Behind a letter that is not in the separator, nothing is found if a letter of it is missing. -/
lemma infix_append_cons_iff {x p : α} (clean : x ∉ pat) (has : p ∈ pat) (missing : p ∉ t) :
    pat <:+: s ++ x :: t ↔ pat <:+: s := by
  rw [infix_append_cons clean (List.ne_nil_of_mem has)]
  exact or_iff_left fun behind => missing (behind.subset has)

end Cut

/-! ## The loop -/

/-- The loop of a receiver: `buf` is what it has, `segs` is what the next reads deliver. It ends at
the first verdict, at a read that delivers nothing, and when the buffer is full. -/
def scan (parse : List α → Verdict ρ) (cap : Nat) : List α → List (List α) → Verdict ρ
  | _, [] => .more
  | buf, seg :: segs =>
    if buf.length < cap ∧ seg ≠ [] then
      match parse (buf ++ seg.take (cap - buf.length)) with
      | .more => scan parse cap (buf ++ seg.take (cap - buf.length)) segs
      | verdict => verdict
    else .more

/-- What a parser keeps when more arrives, as long as it fits into `cap`: a result stays, and an
error does not become a result. -/
structure Settles (parse : List α → Verdict ρ) (cap : Nat) : Prop where
  done : ∀ s t r, (s ++ t).length ≤ cap → parse s = .done r → parse (s ++ t) = .done r
  error : ∀ s t r, (s ++ t).length ≤ cap → parse s = .error → parse (s ++ t) ≠ .done r

/-- The loop has the result of the whole: by induction on the pieces, with the buffer so far. -/
theorem scan_done_iff {parse : List α → Verdict ρ} {cap : Nat} (se : Settles parse cap)
    {buf : List α} {segs : List (List α)} {r : ρ} (full : ∀ seg ∈ segs, seg ≠ [])
    (fits : (buf ++ segs.flatten).length ≤ cap) (sofar : parse buf = .more) :
    scan parse cap buf segs = .done r ↔ parse (buf ++ segs.flatten) = .done r := by
  induction segs generalizing buf with
  | nil => simp [scan, sofar]
  | cons seg segs ih =>
    have ne : seg ≠ [] := full seg (by simp)
    have pos : 0 < seg.length := List.length_pos_iff.mpr ne
    have len : buf.length + (seg.length + segs.flatten.length) ≤ cap := by simpa using fits
    have whole : seg.take (cap - buf.length) = seg := List.take_of_length_le (by omega)
    have rest : (buf ++ seg ++ segs.flatten).length ≤ cap := by
      simp only [List.length_append]
      omega
    have join : buf ++ (seg :: segs).flatten = buf ++ seg ++ segs.flatten := by simp
    rw [join, scan, if_pos ⟨by omega, ne⟩, whole]
    cases parsed : parse (buf ++ seg) with
    | more => exact ih (fun seg' h => full seg' (by simp [h])) rest parsed
    | error =>
      have never := se.error (buf ++ seg) segs.flatten r rest parsed
      exact ⟨nofun, fun result => absurd result never⟩
    | done r' =>
      rw [se.done (buf ++ seg) segs.flatten r' rest parsed]

end Atpd.Lib
