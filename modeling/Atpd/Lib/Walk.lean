import Mathlib.Tactic.Common

/-!
# Walks over records with a length

A buffer of records, each with a length in its header, is walked with a position and a count of what
is left: the loop looks at the header if there is room for one, at the record if its length says that
it fits, and steps over it. How the count is seen by the test, `room`, and how far a step goes,
`advance`, are parameters, since that is where such loops go wrong. Every read is on record.

This file names nothing of the modelled program.

* `Walk.run`: the loop, with fuel; `none` says that it has not ended.
* `Walk.Comes`: the positions that the loop comes to.
* `Walk.run_within` / `Walk.within_of_run`: when the loop ends and reads nothing outside.
* `Walk.Chain`: the same positions for a test that sees the true count.
* `Walk.run_fills`: over records that fill the buffer, the loop is its body on one after the other.
-/

namespace Atpd.Lib

variable {σ : Type*}

/-- A range of bytes. -/
structure Span where
  start : Nat
  size : Nat
deriving DecidableEq, Repr

/-- The range ends at `cap` at the latest. -/
def Span.Within (cap : Nat) (s : Span) : Prop := s.start + s.size ≤ cap

/-- Everything that was read lies in front of `cap`. -/
def Inside (cap : Nat) (reads : List Span) : Prop := ∀ s ∈ reads, s.Within cap

instance (cap : Nat) (reads : List Span) : Decidable (Inside cap reads) :=
  inferInstanceAs (Decidable (∀ s ∈ reads, s.start + s.size ≤ cap))

@[simp] lemma inside_nil {cap : Nat} : Inside cap [] := nofun

@[simp] lemma inside_cons {cap : Nat} {s : Span} {reads : List Span} :
    Inside cap (s :: reads) ↔ s.start + s.size ≤ cap ∧ Inside cap reads := by
  simp [Inside, Span.Within]

@[simp] lemma inside_append {cap : Nat} {l l' : List Span} :
    Inside cap (l ++ l') ↔ Inside cap l ∧ Inside cap l' := by
  simp [Inside, or_imp, forall_and]

/-- A loop over records, less its body. -/
structure Walk where
  /-- The size of a header, all of which is read. -/
  header : Nat
  /-- The length that the header at a position gives. -/
  size : Nat → Nat
  /-- How far the loop steps from a position. -/
  advance : Nat → Nat
  /-- What the test makes of the count. -/
  room : Int → Int
  /-- The loop is left at this record. -/
  stops : Nat → Bool

/-- How a walk ends. -/
structure Walked (σ : Type*) where
  reads : List Span
  state : σ
  /-- The loop was left from its body. -/
  stopped : Bool

namespace Walk

variable {W : Walk} {visit : Nat → σ → Option (List Span × σ)} {fuel start lim cap o : Nat}
  {st : σ} {r : Walked σ}

/-- The loop, at the position `off` with the count `rem`. The body `visit` says what it reads besides
the header, and is `none` if it does not end. -/
def run (W : Walk) (visit : Nat → σ → Option (List Span × σ)) :
    Nat → Nat → Int → σ → Option (Walked σ)
  | 0, _, _, _ => none
  | fuel + 1, off, rem, st =>
    if W.room rem < W.header then some ⟨[], st, false⟩
    else if W.size off < W.header ∨ W.room rem < W.size off then
      some ⟨[⟨off, W.header⟩], st, false⟩
    else
      match visit off st with
      | none => none
      | some (reads, st) =>
        if W.stops off then some ⟨⟨off, W.header⟩ :: reads, st, true⟩
        else
          (W.run visit fuel (off + W.advance off) (rem - W.advance off) st).map fun r =>
            { r with reads := ⟨off, W.header⟩ :: reads ++ r.reads }

/-- The record at `o` passes the test of a walk that ends at `lim`. -/
def Passes (W : Walk) (lim o : Nat) : Prop :=
  W.header ≤ W.room (lim - o) ∧ W.header ≤ W.size o ∧ W.size o ≤ W.room (lim - o)

/-- The positions that the walk comes to. -/
inductive Comes (W : Walk) (lim start : Nat) : Nat → Prop where
  | first : Comes W lim start start
  | next {o : Nat} : Comes W lim start o → W.Passes lim o → W.stops o = false →
      Comes W lim start (o + W.advance o)

/-- What the walk comes to from the next item. -/
lemma Comes.from (passes : W.Passes lim start) (goes : W.stops start = false)
    (co : W.Comes lim (start + W.advance start) o) : W.Comes lim start o := by
  induction co with
  | first => exact .next .first passes goes
  | next _ hp hs ih => exact .next ih hp hs

/-- A walk that comes to a position besides its first one steps there from the first one. -/
lemma Comes.eq_or (co : W.Comes lim start o) : o = start ∨
    W.Passes lim start ∧ W.stops start = false ∧ W.Comes lim (start + W.advance start) o := by
  induction co with
  | first => exact .inl rfl
  | next _ hp hs ih =>
    rcases ih with rfl | ⟨hp', hs', co⟩
    · exact .inr ⟨hp, hs, .first⟩
    · exact .inr ⟨hp', hs', .next co hp hs⟩

/-! ### One iteration -/

/-- There is no room for a header. -/
lemma run_short (short : W.room (lim - start) < W.header) :
    W.run visit (fuel + 1) start (lim - start) st = some ⟨[], st, false⟩ := by
  rw [run, if_pos short]

/-- An item does not fit. -/
lemma run_misfit (long : W.header ≤ W.room (lim - start)) (misfit : ¬W.Passes lim start) :
    W.run visit (fuel + 1) start (lim - start) st = some ⟨[⟨start, W.header⟩], st, false⟩ := by
  rw [run, if_neg (by omega), if_pos]
  by_contra fits
  exact misfit ⟨long, by omega, by omega⟩

/-- An item is visited, and the walk goes on or stops. -/
lemma run_passes (passes : W.Passes lim start) :
    W.run visit (fuel + 1) start (lim - start) st =
      match visit start st with
      | none => none
      | some (reads, st) =>
        if W.stops start then some ⟨⟨start, W.header⟩ :: reads, st, true⟩
        else
          (W.run visit fuel (start + W.advance start) (lim - (start + W.advance start : Nat)) st).map
            fun r => { r with reads := ⟨start, W.header⟩ :: reads ++ r.reads } := by
  obtain ⟨long, header, size⟩ := passes
  rw [run, if_neg (by omega), if_neg (by omega)]
  simp only [Int.natCast_add, Int.sub_sub]

/-- What every visit keeps of the state, the walk keeps. -/
lemma run_keeps {P : σ → Prop} {rem : Int} (keeps : ∀ o st v, P st → visit o st = some v → P v.2)
    (holds : P st) (rn : W.run visit fuel start rem st = some r) : P r.state := by
  induction fuel generalizing start rem st r with
  | zero => cases rn
  | succ fuel ih =>
    rw [run] at rn
    split at rn
    · cases rn
      exact holds
    · split at rn
      · cases rn
        exact holds
      · split at rn
        · cases rn
        · rename_i reads st' visited
          have holds' : P st' := keeps start st (reads, st') holds visited
          split at rn
          · cases rn
            exact holds'
          · obtain ⟨r', rn', rfl⟩ := Option.map_eq_some_iff.mp rn
            have kept : P r'.state := ih holds' rn'
            exact kept

/-! ### A walk that ends and stays inside -/

/-- A walk that has ended has visited what passes its test. -/
lemma visit_of_run (rn : W.run visit fuel start (lim - start) st = some r) (ins : Inside cap r.reads)
    (passes : W.Passes lim start) :
    ∃ reads st', visit start st = some (reads, st') ∧ Inside cap reads ∧
      (W.stops start = false → ∃ fuel' r', Inside cap r'.reads ∧
        W.run visit fuel' (start + W.advance start) (lim - (start + W.advance start : Nat)) st' = some r') := by
  cases fuel with
  | zero => cases rn
  | succ fuel =>
    rw [run_passes passes] at rn
    split at rn
    · cases rn
    · rename_i reads st' visited
      split at rn
      · rename_i stops
        cases rn
        refine ⟨reads, st', visited, (inside_cons.mp ins).2, fun goes => ?_⟩
        rw [stops] at goes
        cases goes
      · obtain ⟨r', rn', rfl⟩ := Option.map_eq_some_iff.mp rn
        simp only [List.cons_append, inside_cons, inside_append] at ins
        exact ⟨reads, st', visited, ins.2.1, fun _ => ⟨fuel, r', ins.2.2, rn'⟩⟩

/-- Wherever a walk comes that ends and stays inside, a walk from there does. -/
lemma run_of_comes (rn : W.run visit fuel start (lim - start) st = some r) (ins : Inside cap r.reads)
    (co : W.Comes lim start o) :
    ∃ fuel' st' r', W.run visit fuel' o (lim - o) st' = some r' ∧ Inside cap r'.reads := by
  induction co with
  | first => exact ⟨fuel, st, r, rn, ins⟩
  | next _ passes goes ih =>
    obtain ⟨fuel', st', r', rn', ins'⟩ := ih
    obtain ⟨_, st'', -, -, rest⟩ := visit_of_run rn' ins' passes
    obtain ⟨fuel'', r'', ins'', rn''⟩ := rest goes
    exact ⟨fuel'', st'', r'', rn'', ins''⟩

/-- A walk that ends and stays inside looks at no header outside, and its visits stay inside. -/
theorem within_of_run (rn : W.run visit fuel start (lim - start) st = some r) (ins : Inside cap r.reads)
    (co : W.Comes lim start o) :
    (W.header ≤ W.room (lim - o) → o + W.header ≤ cap) ∧
      (W.Passes lim o → ∃ st v, visit o st = some v ∧ Inside cap v.1) := by
  obtain ⟨fuel', st', r', rn', ins'⟩ := run_of_comes rn ins co
  constructor
  · intro long
    cases fuel' with
    | zero => cases rn'
    | succ fuel' =>
      by_cases passes : W.Passes lim o
      · rw [run_passes passes] at rn'
        split at rn'
        · cases rn'
        · split at rn'
          · cases rn'
            exact (inside_cons.mp ins').1
          · obtain ⟨r'', -, rfl⟩ := Option.map_eq_some_iff.mp rn'
            exact (inside_cons.mp ins').1
      · rw [run_misfit long passes] at rn'
        cases rn'
        exact (inside_cons.mp ins').1
  · intro passes
    obtain ⟨reads, st'', visited, inside, -⟩ := visit_of_run rn' ins' passes
    exact ⟨st', (reads, st''), visited, inside⟩

/-- A walk whose headers and visits stay inside ends. -/
theorem run_within (pos : 0 < W.header)
    (held : ∀ o, W.Comes lim start o → W.header ≤ W.room (lim - o) → o + W.header ≤ cap)
    (visits : ∀ o, W.Comes lim start o → W.Passes lim o →
      0 < W.advance o ∧ ∀ st, ∃ v, visit o st = some v ∧ Inside cap v.1)
    (enough : cap - start < fuel) (st : σ) :
    ∃ r, W.run visit fuel start (lim - start) st = some r ∧ Inside cap r.reads := by
  -- every step leads on towards `cap`, and no header is looked at behind it
  induction fuel generalizing start st with
  | zero => omega
  | succ fuel ih =>
    by_cases long : W.header ≤ W.room (lim - start)
    · have here := held start .first long
      by_cases passes : W.Passes lim start
      · obtain ⟨ahead, ends⟩ := visits start .first passes
        obtain ⟨⟨reads, st'⟩, visited, inside⟩ := ends st
        rw [run_passes passes, visited]
        dsimp only
        split
        · exact ⟨_, rfl, inside_cons.mpr ⟨here, inside⟩⟩
        · rename_i goes
          have goes : W.stops start = false := by simpa using goes
          obtain ⟨r, rn, ins⟩ := ih (fun o co => held o (co.from passes goes))
            (fun o co => visits o (co.from passes goes)) (by omega) st'
          rw [rn]
          refine ⟨_, rfl, ?_⟩
          simp only [List.cons_append, inside_cons, inside_append]
          exact ⟨here, inside, ins⟩
      · exact ⟨_, run_misfit long passes, by simpa using here⟩
    · exact ⟨_, run_short (by omega), inside_nil⟩

/-- A walk is left from its body if it comes to a record at which it stops. -/
theorem stopped_iff (rn : W.run visit fuel start (lim - start) st = some r) :
    r.stopped = true ↔ ∃ o, W.Comes lim start o ∧ W.Passes lim o ∧ W.stops o = true := by
  induction fuel generalizing start st r with
  | zero => cases rn
  | succ fuel ih =>
    by_cases passes : W.Passes lim start
    · rw [run_passes passes] at rn
      split at rn
      · cases rn
      · split at rn
        · rename_i stops
          cases rn
          exact iff_of_true rfl ⟨start, .first, passes, stops⟩
        · rename_i goes
          have goes : W.stops start = false := by simpa using goes
          obtain ⟨r', rn', rfl⟩ := Option.map_eq_some_iff.mp rn
          refine (ih rn').trans ⟨?_, ?_⟩
          · rintro ⟨o, co, hp, hs⟩
            exact ⟨o, co.from passes goes, hp, hs⟩
          · rintro ⟨o, co, hp, hs⟩
            rcases co.eq_or with rfl | ⟨-, -, co⟩
            · rw [goes] at hs
              cases hs
            · exact ⟨o, co, hp, hs⟩
    · have still : r.stopped = false := by
        by_cases long : W.header ≤ W.room (lim - start)
        · rw [run_misfit long passes] at rn
          cases rn
          rfl
        · rw [run_short (by omega)] at rn
          cases rn
          rfl
      refine iff_of_false (by simp [still]) ?_
      rintro ⟨o, co, hp, hs⟩
      rcases co.eq_or with rfl | ⟨hp', -⟩
      · exact passes hp
      · exact passes hp'

/-! ### The records that are there -/

/-- A record lies at `o`, in front of `lim`. -/
def Sits (W : Walk) (lim o : Nat) : Prop :=
  W.header ≤ W.size o ∧ o + W.size o ≤ lim

/-- The positions that a walk with a true count comes to. -/
inductive Chain (W : Walk) (lim start : Nat) : Nat → Prop where
  | first : Chain W lim start start
  | next {o : Nat} : Chain W lim start o → W.Sits lim o → W.stops o = false →
      Chain W lim start (o + W.advance o)

/-- If the room is what is left, an item passes exactly if it sits inside. -/
lemma passes_iff_sits (true : W.room (lim - o) = lim - o) : W.Passes lim o ↔ W.Sits lim o := by
  rw [Passes, Sits, true]
  omega

/-- A test that sees the true count comes to the records that are there. -/
lemma comes_iff_chain (true : ∀ x, W.room x = x) : W.Comes lim start o ↔ W.Chain lim start o := by
  constructor
  · intro co
    induction co with
    | first => exact .first
    | next _ hp hs ih => exact .next ih ((passes_iff_sits (true _)).mp hp) hs
  · intro ch
    induction ch with
    | first => exact .first
    | next _ hp hs ih => exact .next ih ((passes_iff_sits (true _)).mpr hp) hs

/-! ### Records that fill the buffer -/

/-- The records at `os` fill the buffer from a position to `lim`. -/
inductive Fills (W : Walk) (lim : Nat) : Nat → List Nat → Prop where
  | nil : Fills W lim lim []
  | cons {o : Nat} {os : List Nat} : W.Sits lim o → Fills W lim (o + W.advance o) os →
      Fills W lim o (o :: os)

/-- The body of a loop on one record after the other, up to one at which it stops. -/
def along (stops : Nat → Bool) (body : Nat → σ → σ) : List Nat → σ → σ × Bool
  | [], st => (st, false)
  | o :: os, st => if stops o then (body o st, true) else along stops body os (body o st)

variable {os : List Nat} {body : Nat → σ → σ}

/-- Each item of a buffer that they fill sits inside. -/
lemma Fills.sits (fills : W.Fills lim start os) (mem : o ∈ os) : W.Sits lim o := by
  induction fills with
  | nil => cases mem
  | cons sits _ ih =>
    obtain rfl | later := List.mem_cons.mp mem
    · exact sits
    · exact ih later

/-- There are no more records than bytes. -/
lemma Fills.length_le (ahead : ∀ o, W.Sits lim o → 0 < W.advance o)
    (fills : W.Fills lim start os) : start + os.length ≤ lim := by
  induction fills with
  | nil => exact Nat.le_refl _
  | cons sits _ ih =>
    have step := ahead _ sits
    rw [List.length_cons]
    omega

/-- Some items, and then the others. -/
lemma along_append {stops : Nat → Bool} {st st' : σ} (goes : along stops body os st = (st', false))
    (os' : List Nat) : along stops body (os ++ os') st = along stops body os' st' := by
  induction os generalizing st with
  | nil =>
    cases goes
    rfl
  | cons o os ih =>
    rw [along] at goes
    rw [List.cons_append, along]
    cases stop : stops o with
    | true =>
      rw [stop, if_pos rfl] at goes
      cases goes
    | false =>
      rw [stop, if_neg Bool.false_ne_true] at goes
      exact ih goes

/-- A loop over records that fill the buffer runs its body on one after the other. -/
theorem run_fills (true : ∀ o ≤ lim, W.room (lim - o) = lim - o) (pos : 0 < W.header)
    (visits : ∀ o ∈ os, ∀ st, ∃ reads, visit o st = some (reads, body o st))
    (fills : W.Fills lim start os) (enough : os.length < fuel) (st : σ) :
    ∃ r, W.run visit fuel start (lim - start) st = some r ∧
      (r.state, r.stopped) = along W.stops body os st := by
  induction fills generalizing fuel st with
  | nil =>
    obtain ⟨fuel, rfl⟩ := Nat.exists_eq_succ_of_ne_zero (Nat.ne_zero_of_lt enough)
    refine ⟨_, run_short ?_, rfl⟩
    rw [true lim (Nat.le_refl _)]
    omega
  | @cons o os sits rest ih =>
    obtain ⟨fuel, rfl⟩ := Nat.exists_eq_succ_of_ne_zero (Nat.ne_zero_of_lt enough)
    have le : o ≤ lim := Nat.le_trans (Nat.le_add_right _ _) sits.2
    obtain ⟨reads, visited⟩ := visits o List.mem_cons_self st
    rw [run_passes ((passes_iff_sits (true o le)).mpr sits), visited, along]
    cases stops : W.stops o with
    | true => exact ⟨_, rfl, rfl⟩
    | false =>
      obtain ⟨r, rn, state⟩ := ih (fun o' mem => visits o' (List.mem_cons_of_mem _ mem))
        (Nat.lt_of_succ_lt_succ enough) (body o st)
      simp only [Bool.false_eq_true, if_false, rn, Option.map_some]
      exact ⟨_, rfl, state⟩

end Walk

end Atpd.Lib
