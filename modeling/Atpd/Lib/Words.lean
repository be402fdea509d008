import Atpd.Lib.Stream

/-!
# Words of a text

A text is cut at every occurrence of a separator, and the nonempty pieces are its words. `nextWord`
takes the first word off a text, as `strtok_r` does with one delimiter. Nothing here names the
modelled program.

* `words_eq_nextWord`: taking words off one at a time gives all of them, in order.
* `infix_iff_word`: a pattern without the separator occurs in a text exactly if it occurs in a word.
-/

namespace Atpd.Lib

variable {α : Type*} [DecidableEq α] {sep : α} {s t w pat rest : List α}

/-- The nonempty pieces of `s` between occurrences of `sep`. -/
def words (sep : α) (s : List α) : List (List α) := (s.splitOn sep).filter (· ≠ [])

/-- The first word of `s`, and what stands behind the separator that ends it. -/
def nextWord (sep : α) (s : List α) : Option (List α × List α) :=
  let start := s.dropWhile (· == sep)
  if start = [] then none
  else some (start.takeWhile (· != sep), (start.dropWhile (· != sep)).drop 1)

/-- In no text there is no word. -/
@[simp]
lemma words_nil : words sep ([] : List α) = [] := by
  simp [words]

/-- A separator ends a word. -/
lemma words_append_sep (s t : List α) : words sep (s ++ sep :: t) = words sep s ++ words sep t := by
  rw [words, List.splitOn_append_cons_self, List.filter_append]
  rfl

/-- In front of the first word it does nothing. -/
@[simp]
lemma words_sep_cons (t : List α) : words sep (sep :: t) = words sep t := by
  simpa using words_append_sep [] t

/-- A text without separators is one word. -/
lemma words_of_notMem (ne : w ≠ []) (clean : sep ∉ w) : words sep w = [w] := by
  rw [words, List.splitOn_eq_singleton clean]
  simp [ne]

/-- Separators at the front belong to no word. -/
lemma words_dropWhile (s : List α) : words sep (s.dropWhile (· == sep)) = words sep s := by
  induction s with
  | nil => rfl
  | cons x s ih =>
    by_cases eq : x = sep
    · subst eq
      rw [List.dropWhile_cons_of_pos (by simp), words_sep_cons]
      exact ih
    · rw [List.dropWhile_cons_of_neg (by simpa using eq)]

/-- A text that does not start with the separator starts with a word. -/
lemma words_takeWhile (ne : s ≠ []) (front : s.head? ≠ some sep) :
    words sep s = s.takeWhile (· != sep) :: words sep ((s.dropWhile (· != sep)).drop 1) := by
  have clean : sep ∉ s.takeWhile (· != sep) := by
    intro mem
    simpa using List.all_eq_true.mp List.all_takeWhile _ mem
  have word : s.takeWhile (· != sep) ≠ [] := by
    obtain ⟨x, xs, rfl⟩ := List.exists_cons_of_ne_nil ne
    rw [List.takeWhile_cons_of_pos (by simpa using front)]
    simp
  have pieces : s.takeWhile (· != sep) ++ s.dropWhile (· != sep) = s :=
    List.takeWhile_append_dropWhile
  cases tail : s.dropWhile (· != sep) with
  | nil =>
    rw [tail, List.append_nil] at pieces
    rw [pieces] at clean ⊢
    rw [words_of_notMem ne clean, List.drop_nil, words_nil]
  | cons x xs =>
    have stop : x = sep := by simpa [tail] using List.head?_dropWhile_not (· != sep) s
    rw [tail, stop] at pieces
    calc words sep s
      _ = words sep (s.takeWhile (· != sep) ++ sep :: xs) := by rw [pieces]
      _ = s.takeWhile (· != sep) :: words sep ((x :: xs).drop 1) := by
        rw [words_append_sep, words_of_notMem word clean]
        rfl

/-- Taking the first word off leaves the others. -/
theorem words_eq_nextWord (sep : α) (s : List α) :
    words sep s = match nextWord sep s with
      | none => []
      | some (w, rest) => w :: words sep rest := by
  rw [← words_dropWhile, nextWord]
  by_cases empty : s.dropWhile (· == sep) = []
  · simp [empty]
  · have front : (s.dropWhile (· == sep)).head? ≠ some sep := by
      intro head
      simpa [head] using List.head?_dropWhile_not (· == sep) s
    simpa [empty] using words_takeWhile empty front

/-- A pattern without the separator occurs in a text exactly if it occurs in a word of it. -/
theorem infix_iff_word (ne : pat ≠ []) (clean : sep ∉ pat) :
    pat <:+: s ↔ ∃ w ∈ words sep s, pat <:+: w := by
  induction h : s.length using Nat.strongRecOn generalizing s with
  | ind n ih =>
  by_cases inside : sep ∈ s
  · obtain ⟨front, back, rfl, frontClean⟩ := List.eq_append_cons_of_mem inside
    have left := ih front.length (by simp at h; omega) rfl
    have right := ih back.length (by simp at h; omega) rfl
    rw [infix_append_cons clean ne, left, right, words_append_sep]
    simp only [List.mem_append, or_and_right, exists_or]
  · by_cases empty : s = []
    · simp [empty, ne]
    · simp [words_of_notMem empty inside]

end Atpd.Lib
