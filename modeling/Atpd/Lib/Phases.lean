import Mathlib.Data.List.Induction
import Mathlib.Logic.Function.Basic
import Mathlib.Tactic.Common

/-!
# Start-up in phases

A table of phases, each with a handler that starts something and a cleanup that undoes it. The run goes
through the table until a required phase fails; then the rollback goes back through the table and cleans up
what is completed. Faults of the handlers are `none`. Nothing here names the modelled program.

`I c s` is an invariant of the state for the set `c` of completed phases. `Law` says that a handler
completes its phase or leaves no trace, and that a cleanup takes back its phase if none that comes later in
the table is completed. From these, `run_spec`: a run completes all required phases, or it ends with the
invariant of the empty set.
-/

namespace Atpd.Lib.Phases

variable {π σ : Type*} [DecidableEq π]

/-- A phase of the table. -/
structure Phase (π σ : Type*) where
  id : π
  handler : σ → Option (σ × Bool)
  cleanup : Option (σ → Option σ)
  required : Bool

/-- How far a run has come: the phases that are completed, those that have failed but are not required,
and, the latest first, those that were cleaned up. -/
structure Progress (π σ : Type*) where
  state : σ
  completed : π → Bool
  degraded : π → Bool
  cleaned : List π

namespace Progress

/-- A phase is completed, or taken back. -/
def setCompleted (g : Progress π σ) (p : π) (b : Bool) : Progress π σ :=
  { g with completed := Function.update g.completed p b }

/-- A phase has failed that may. -/
def setDegraded (g : Progress π σ) (p : π) : Progress π σ :=
  { g with degraded := Function.update g.degraded p true }

end Progress

/-- The handlers in the order of the table; the Boolean says that no required phase has failed. -/
def runPhases : List (Phase π σ) → Progress π σ → Option (Progress π σ × Bool)
  | [], g => some (g, true)
  | p :: ps, g =>
    match p.handler g.state with
    | none => none
    | some (s, true) => runPhases ps ({ g with state := s }.setCompleted p.id true)
    | some (s, false) =>
      if p.required then some ({ g with state := s }, false)
      else runPhases ps ({ g with state := s }.setDegraded p.id)

/-- The cleanups of what is completed, in the order of the list. -/
def rollbackPhases : List (Phase π σ) → Progress π σ → Option (Progress π σ)
  | [], g => some g
  | p :: ps, g =>
    if !g.completed p.id then rollbackPhases ps g
    else
      match p.cleanup with
      | none => rollbackPhases ps (g.setCompleted p.id false)
      | some cleanup =>
        match cleanup g.state with
        | none => none
        | some s =>
          rollbackPhases ps
            ({ g with state := s, cleaned := p.id :: g.cleaned }.setCompleted p.id false)

/-- The run from the state `s`, with the rollback. -/
def run (table : List (Phase π σ)) (s : σ) : Option (Progress π σ × Bool) :=
  match runPhases table ⟨s, fun _ => false, fun _ => false, []⟩ with
  | none => none
  | some (g, true) => some (g, true)
  | some (g, false) => (rollbackPhases table.reverse g).map fun g => (g, false)

/-- What is asked of a phase that comes behind the phases `earlier`. -/
structure Law (I : (π → Bool) → σ → Prop) (earlier : List π) (p : Phase π σ) : Prop where
  fresh : p.id ∉ earlier
  handler : ∀ c s, (∀ q, c q = true → q ∈ earlier) → I c s →
    ∃ s' ok, p.handler s = some (s', ok) ∧ I (Function.update c p.id ok) s'
  silent : p.cleanup = none → ∀ c s, I c s → I (Function.update c p.id false) s
  cleanup : ∀ f, p.cleanup = some f → ∀ c s, (∀ q, c q = true → q = p.id ∨ q ∈ earlier) →
    c p.id = true → I c s → ∃ s', f s = some s' ∧ I (Function.update c p.id false) s'

/-- Every phase of the table obeys the law. -/
def Lawful (I : (π → Bool) → σ → Prop) (table : List (Phase π σ)) : Prop :=
  ∀ pre p post, table = pre ++ p :: post → Law I (pre.map Phase.id) p

/-- The same, along the table. -/
def LawfulFrom (I : (π → Bool) → σ → Prop) : List π → List (Phase π σ) → Prop
  | _, [] => True
  | earlier, p :: ps => Law I earlier p ∧ LawfulFrom I (earlier ++ [p.id]) ps

variable {I : (π → Bool) → σ → Prop} {earlier : List π} {table ps pre : List (Phase π σ)} {p : Phase π σ}
  {g : Progress π σ}
  {s : σ} {q : π}

/-- Nothing outside of the table is completed. -/
def Within (table : List (Phase π σ)) (c : π → Bool) : Prop := ∀ q, c q = true → q ∈ table.map Phase.id

/-- The law of one phase of the table. -/
lemma LawfulFrom.law (law : LawfulFrom I earlier table) {post : List (Phase π σ)}
    (split : table = pre ++ p :: post) : Law I (earlier ++ pre.map Phase.id) p := by
  induction pre generalizing earlier table with
  | nil =>
    subst split
    rw [List.map_nil, List.append_nil]
    exact law.1
  | cons q pre ih =>
    subst split
    have law := ih law.2 rfl
    rwa [List.append_assoc] at law

/-- A table of which each phase has its law. -/
lemma LawfulFrom.lawful (law : LawfulFrom I [] table) : Lawful I table := fun _ _ _ split => law.law split

/-- The table without its last phase. -/
lemma Lawful.init (law : Lawful I (table ++ [p])) : Lawful I table := by
  intro pre q post eq
  refine law pre q (post ++ [p]) ?_
  rw [eq, List.append_assoc, List.cons_append]

/-- Without the last phase the others are left. -/
lemma Within.update (within : Within (table ++ [p]) g.completed) :
    Within table (Function.update g.completed p.id false) := by
  intro q completed
  by_cases same : q = p.id
  · rw [same, Function.update_self] at completed
    cases completed
  · rw [Function.update_of_ne same] at completed
    simpa [same] using within q completed

/-- What the rollback calls. -/
def undone (table : List (Phase π σ)) (c : π → Bool) : List π :=
  (table.filter fun p => c p.id && p.cleanup.isSome).map Phase.id

/-- A phase outside of the table does not matter. -/
lemma undone_update {c : π → Bool} {b : Bool} (fresh : q ∉ table.map Phase.id) :
    undone table (Function.update c q b) = undone table c := by
  refine congrArg (List.map Phase.id) (List.filter_congr fun x mem => ?_)
  rw [Function.update_of_ne]
  rintro rfl
  exact fresh (List.mem_map_of_mem mem)

/-- The rollback takes back everything that is completed, the latest phase first. -/
theorem rollback_spec (law : Lawful I table) (within : Within table g.completed)
    (holds : I g.completed g.state) :
    ∃ g', rollbackPhases table.reverse g = some g' ∧ I (fun _ => false) g'.state ∧
      g'.completed = (fun _ => false) ∧ g'.degraded = g.degraded ∧
      g'.cleaned = undone table g.completed ++ g.cleaned := by
  -- the table from its end: its last phase is the first to be looked at
  induction table using List.reverseRecOn generalizing g with
  | nil =>
    have none : g.completed = fun _ => false := by
      funext q
      by_contra completed
      exact absurd (within q (by simpa using completed)) List.not_mem_nil
    exact ⟨g, rfl, none ▸ holds, none, rfl, rfl⟩
  | append_singleton ps p ih =>
    have mine : Law I (ps.map Phase.id) p := law ps p [] rfl
    rw [List.reverse_append, List.reverse_singleton, List.singleton_append, rollbackPhases]
    cases completed : g.completed p.id with
    | false =>
      have same : Function.update g.completed p.id false = g.completed := by
        rw [← completed, Function.update_eq_self]
      obtain ⟨g', eq, holds', none, degraded, cleaned⟩ := ih law.init (same ▸ within.update) holds
      refine ⟨g', eq, holds', none, degraded, ?_⟩
      rw [cleaned]
      simp [undone, List.filter_append, completed]
    | true =>
      cases cleanup : p.cleanup with
      | none =>
        obtain ⟨g', eq, holds', none, degraded, cleaned⟩ := ih (g := g.setCompleted p.id false) law.init
          within.update (mine.silent cleanup _ _ holds)
        refine ⟨g', eq, holds', none, degraded, ?_⟩
        rw [cleaned, Progress.setCompleted, undone_update mine.fresh]
        simp [undone, List.filter_append, cleanup]
      | some f =>
        have earlier : ∀ q, g.completed q = true → q = p.id ∨ q ∈ ps.map Phase.id := by
          intro q completed
          simpa [or_comm] using within q completed
        obtain ⟨s, taken, holds1⟩ := mine.cleanup f cleanup _ _ earlier completed holds
        obtain ⟨g', eq, holds', none, degraded, cleaned⟩ :=
          ih (g := { g with state := s, cleaned := p.id :: g.cleaned }.setCompleted p.id false) law.init
            within.update holds1
        refine ⟨g', ?_, holds', none, degraded, ?_⟩
        · simp only [taken]
          exact eq
        · rw [cleaned, Progress.setCompleted, undone_update mine.fresh]
          simp [undone, List.filter_append, completed, cleanup]

/-- Behind the phases `pre`: each of them is completed, or it has failed and is not required. -/
structure Settled (pre : List (Phase π σ)) (g : Progress π σ) : Prop where
  within : Within pre g.completed
  degraded : ∀ q, g.degraded q = true ↔ q ∈ pre.map Phase.id ∧ g.completed q = false
  required : ∀ p ∈ pre, p.required = true → g.completed p.id = true

omit [DecidableEq π] in
/-- The phases of a longer table. -/
lemma mem_ids_append : q ∈ (pre ++ [p]).map Phase.id ↔ q ∈ pre.map Phase.id ∨ q = p.id := by simp

/-- One phase more is completed. -/
lemma Settled.completed (se : Settled pre g) (fresh : p.id ∉ pre.map Phase.id) :
    Settled (pre ++ [p]) (({ g with state := s } : Progress π σ).setCompleted p.id true) := by
  refine ⟨fun q done => ?_, fun q => ?_, fun x mem need => ?_⟩
  · by_cases same : q = p.id
    · exact mem_ids_append.mpr (.inr same)
    · exact mem_ids_append.mpr (.inl (se.within q (by simpa [Progress.setCompleted, same] using done)))
  · rw [mem_ids_append]
    by_cases same : q = p.id
    · have before : g.degraded p.id = false :=
        Bool.eq_false_iff.mpr fun deg => fresh ((se.degraded p.id).mp deg).1
      simp [Progress.setCompleted, same, before]
    · simp [Progress.setCompleted, same, se.degraded q]
  · by_cases same : x.id = p.id
    · simp [Progress.setCompleted, same]
    · rcases List.mem_append.mp mem with mem | mem
      · simpa [Progress.setCompleted, same] using se.required x mem need
      · cases List.mem_singleton.mp mem
        exact absurd rfl same

/-- Or it has failed, and need not work. -/
lemma Settled.failed (se : Settled pre g) (fresh : p.id ∉ pre.map Phase.id) (optional : p.required = false) :
    Settled (pre ++ [p]) (({ g with state := s } : Progress π σ).setDegraded p.id) := by
  have before : g.completed p.id = false := Bool.eq_false_iff.mpr fun done => fresh (se.within p.id done)
  refine ⟨fun q done => mem_ids_append.mpr (.inl (se.within q done)), fun q => ?_, fun x mem need => ?_⟩
  · rw [mem_ids_append]
    by_cases same : q = p.id
    · simp [Progress.setDegraded, same, before]
    · simp [Progress.setDegraded, same, se.degraded q]
  · rcases List.mem_append.mp mem with mem | mem
    · exact se.required x mem need
    · cases List.mem_singleton.mp mem
      rw [optional] at need
      cases need

/-- The handlers settle the table, or they settle what comes before a required phase that fails. -/
theorem runPhases_spec (law : Lawful I (pre ++ ps)) (se : Settled pre g) (holds : I g.completed g.state) :
    ∃ g' ok, runPhases ps g = some (g', ok) ∧ I g'.completed g'.state ∧ g'.cleaned = g.cleaned ∧
      (ok = true → Settled (pre ++ ps) g') ∧
      (ok = false → ∃ done p rest, pre ++ ps = done ++ p :: rest ∧ p.required = true ∧
        (∃ s s', p.handler s = some (s', false)) ∧ Settled done g') := by
  induction ps generalizing pre g with
  | nil => exact ⟨g, true, rfl, holds, rfl, fun _ => by rwa [List.append_nil], nofun⟩
  | cons p ps ih =>
    have mine : Law I (pre.map Phase.id) p := law pre p ps rfl
    have eq : pre ++ p :: ps = (pre ++ [p]) ++ ps := by rw [List.append_assoc, List.singleton_append]
    obtain ⟨s, ok, run, holds1⟩ := mine.handler g.completed g.state se.within holds
    simp only [runPhases, run]
    cases ok with
    | true =>
      rw [eq] at law ⊢
      exact ih law (se.completed mine.fresh) holds1
    | false =>
      have same : Function.update g.completed p.id false = g.completed := by
        rw [← Bool.eq_false_iff.mpr fun done => mine.fresh (se.within p.id done), Function.update_eq_self]
      rw [same] at holds1
      cases required : p.required with
      | true => exact ⟨_, false, rfl, holds1, rfl, nofun, fun _ => ⟨pre, p, ps, rfl, required,
        ⟨g.state, s, run⟩, se.within, se.degraded, se.required⟩⟩
      | false =>
        rw [eq] at law ⊢
        exact ih law (se.failed mine.fresh required) holds1

/-- What comes behind the phases that are settled has no cleanup to be called. -/
lemma Settled.undone_eq (se : Settled pre g) (law : Lawful I (pre ++ ps)) :
    undone (pre ++ ps) g.completed = undone pre fun q => !g.degraded q := by
  have mine : ∀ x ∈ pre, g.completed x.id = !g.degraded x.id := by
    intro x mem
    have deg := se.degraded x.id
    cases done : g.completed x.id <;> simp_all [List.mem_map_of_mem]
  have later : ∀ x ∈ ps, g.completed x.id = false := by
    intro x mem
    obtain ⟨before, after, rfl⟩ := List.append_of_mem mem
    have fresh := (law (pre ++ before) x after (List.append_assoc ..).symm).fresh
    refine Bool.eq_false_iff.mpr fun done => fresh ?_
    rw [List.map_append]
    exact List.mem_append_left _ (se.within x.id done)
  have nothing : (ps.filter fun x => g.completed x.id && x.cleanup.isSome) = [] :=
    List.filter_eq_nil_iff.mpr fun x mem => by simp [later x mem]
  rw [undone, undone, List.filter_append, nothing, List.append_nil]
  exact congrArg (List.map Phase.id) (List.filter_congr fun x mem => by rw [mine x mem])

/-- No handler and no cleanup faults. The run ends with all required phases completed and the others
completed or degraded; or a required phase has failed, and what was completed before it is cleaned up once,
from the latest to the first, and nothing of it is left. -/
theorem run_spec (law : Lawful I table) (start : I (fun _ => false) s) :
    ∃ g ok, run table s = some (g, ok) ∧ I g.completed g.state ∧
      (ok = true → Settled table g ∧ g.cleaned = []) ∧
      (ok = false → g.completed = (fun _ => false) ∧
        ∃ done p rest, table = done ++ p :: rest ∧ p.required = true ∧
          (∃ s s', p.handler s = some (s', false)) ∧
          (∀ q ∈ done, q.required = true → g.degraded q.id = false) ∧
          g.cleaned = undone done fun q => !g.degraded q) := by
  have none : Settled ([] : List (Phase π σ)) ⟨s, fun _ => false, fun _ => false, []⟩ :=
    ⟨nofun, fun q => by simp, nofun⟩
  have law' : Lawful I ([] ++ table) := law
  obtain ⟨g, ok, eq, holds, cleaned, all, failed⟩ := runPhases_spec law' none start
  rw [run, eq]
  cases ok with
  | true => exact ⟨g, true, rfl, holds, fun _ => ⟨all rfl, cleaned⟩, nofun⟩
  | false =>
    obtain ⟨done, p, rest, rfl, required, fails, se⟩ := failed rfl
    have within : Within (done ++ p :: rest) g.completed := by
      intro q done
      rw [List.map_append]
      exact List.mem_append_left _ (se.within q done)
    obtain ⟨g', back, holds', none, degraded, undid⟩ := rollback_spec law within holds
    refine ⟨g', false, by simp only [back, Option.map_some], none ▸ holds', nofun, fun _ => ⟨none, done, p,
      rest, rfl, required, fails, fun q mem need => ?_, ?_⟩⟩
    · rw [degraded]
      refine Bool.eq_false_iff.mpr fun deg => ?_
      have undone := ((se.degraded q.id).mp deg).2
      rw [se.required q mem need] at undone
      cases undone
    · rw [undid, cleaned, degraded, List.append_nil, se.undone_eq law]

end Atpd.Lib.Phases
