import Mathlib.Tactic.Common

/-!
# Runs of a labelled transition function

A machine is a partial step function `step : σ → ε → Option σ`: the label carries every choice the
environment makes, and `none` says that the label is not enabled in that state. A run is a list of
labels. This file has the induction rules that the invariant proofs of the development use; it names
nothing of the modelled program.

* `run step s es`: the state after the labels `es`, if each of them is enabled.
* `Along step P s es`: each label of the run is taken in a state for which `P` holds.
* `run_preserves` / `run_preserves_along`: what every step keeps, every run keeps.
* `along_of_invariant`: what the invariant gives for one step holds along the run.
* `along_iff_keeps`: what exactly the steps that meet a condition keep.
* `prefixes_iff`: the same, for a condition on the labels, over the states of a run.
* `run_simulates`: if each step of a machine is one of another machine, each run is.
* `along_congr`: two conditions that agree where the invariant holds agree along the run.
-/

namespace Atpd.Lib

variable {σ ε : Type*} {step : σ → ε → Option σ} {s s' : σ} {e : ε} {es : List ε}

/-- The state reached from `s` by the labels `es`, taken from left to right. -/
def run (step : σ → ε → Option σ) : σ → List ε → Option σ
  | s, [] => some s
  | s, e :: es => (step s e).bind (fun s' => run step s' es)

/-- Every label of the run from `s` meets the condition `P` in the state it is taken in. -/
def Along (step : σ → ε → Option σ) (P : σ → ε → Prop) : σ → List ε → Prop
  | _, [] => True
  | s, e :: es => P s e ∧ ∀ s', step s e = some s' → Along step P s' es

/-- A decidable condition can be checked along a run. -/
instance Along.decidable {P : σ → ε → Prop} [∀ s e, Decidable (P s e)] :
    ∀ s es, Decidable (Along step P s es)
  | _, [] => isTrue trivial
  | s, e :: es =>
    match h : step s e with
    | none => decidable_of_iff (P s e) (by simp [Along, h])
    | some s' =>
      have : Decidable (Along step P s' es) := Along.decidable s' es
      decidable_of_iff (P s e ∧ Along step P s' es) (by simp [Along, h])

/-- A nonempty run is its first step followed by the rest. -/
lemma run_cons : run step s (e :: es) = some s' ↔
    ∃ s1, step s e = some s1 ∧ run step s1 es = some s' := by
  simp only [run, Option.bind_eq_some_iff]

/-- An invariant of the steps that meet `P` is an invariant of the runs whose steps meet `P`. -/
theorem run_preserves_along {P : σ → ε → Prop} {I : σ → Prop}
    (keep : ∀ s e s', I s → P s e → step s e = some s' → I s')
    (hI : I s) (al : Along step P s es) (rn : run step s es = some s') : I s' := by
  induction es generalizing s with
  | nil =>
    cases rn
    exact hI
  | cons e es ih =>
    obtain ⟨s1, st, rn1⟩ := run_cons.mp rn
    exact ih (keep s e s1 hI al.1 st) (al.2 s1 st) rn1

/-- What an invariant of the steps that meet `P` gives for such a step holds along the run. -/
theorem along_of_invariant {P Q : σ → ε → Prop} {I : σ → Prop}
    (keep : ∀ s e s', I s → P s e → step s e = some s' → I s')
    (gives : ∀ s e, I s → P s e → Q s e) (hI : I s) (al : Along step P s es) :
    Along step Q s es := by
  induction es generalizing s with
  | nil => trivial
  | cons e es ih =>
    exact ⟨gives s e hI al.1, fun s1 st => ih (keep s e s1 hI al.1 st) (al.2 s1 st)⟩

/-- Two conditions that agree wherever the invariant of the first holds are met along the same
runs. -/
theorem along_congr {P Q : σ → ε → Prop} {I : σ → Prop}
    (keep : ∀ s e s', I s → P s e → step s e = some s' → I s')
    (agree : ∀ s e, I s → (P s e ↔ Q s e)) (hI : I s) : Along step P s es ↔ Along step Q s es := by
  induction es generalizing s with
  | nil => exact .rfl
  | cons e es ih =>
    constructor
    · intro ⟨meets, rest⟩
      exact ⟨(agree s e hI).mp meets, fun s1 st => (ih (keep s e s1 hI meets st)).mp (rest s1 st)⟩
    · intro ⟨meets, rest⟩
      have first := (agree s e hI).mpr meets
      exact ⟨first, fun s1 st => (ih (keep s e s1 hI first st)).mpr (rest s1 st)⟩

/-- If `P` says exactly which steps keep `I`, then it is met along a run that starts with `I` exactly
if every state of the run has `I`. -/
theorem along_iff_keeps {P : σ → ε → Prop} {I : σ → Prop}
    (precise : ∀ s e, I s → (P s e ↔ ∀ s', step s e = some s' → I s')) (hI : I s) :
    Along step P s es ↔ Along step (fun s e => ∀ s', step s e = some s' → I s') s es :=
  along_congr (fun s e s' hI meets st => (precise s e hI).mp meets s' st) precise hI

/-- A condition that every label meets in every state is met along every run. -/
lemma Along.of_forall {P : σ → ε → Prop} (h : ∀ s, ∀ e ∈ es, P s e) : Along step P s es := by
  induction es generalizing s with
  | nil => trivial
  | cons e es ih =>
    exact ⟨h s e (by simp), fun s1 _ => ih (fun s2 e' he => h s2 e' (by simp [he]))⟩

/-- Two conditions are met along a run together. -/
lemma Along.and {P Q : σ → ε → Prop} (h1 : Along step P s es) (h2 : Along step Q s es) :
    Along step (fun s e => P s e ∧ Q s e) s es := by
  induction es generalizing s with
  | nil => trivial
  | cons e es ih => exact ⟨⟨h1.1, h2.1⟩, fun s1 st => ih (h1.2 s1 st) (h2.2 s1 st)⟩

/-- If `P` says exactly which steps keep `I`, then every state of a run that starts with `I` has it
exactly if every label meets `P`. -/
theorem prefixes_iff {P : ε → Prop} {I : σ → Prop}
    (precise : ∀ s e s', I s → step s e = some s' → (I s' ↔ P e)) (hI : I s)
    (rn : run step s es = some s') :
    (∀ ds s1, ds <+: es → run step s ds = some s1 → I s1) ↔ ∀ e ∈ es, P e := by
  induction es generalizing s with
  | nil =>
    refine ⟨fun _ => nofun, fun _ ds s1 pre rn1 => ?_⟩
    obtain rfl := List.prefix_nil.mp pre
    cases rn1
    exact hI
  | cons e es ih =>
    obtain ⟨s2, st, later⟩ := run_cons.mp rn
    constructor
    · intro every
      have first : I s2 := every [e] s2 ⟨es, rfl⟩ (run_cons.mpr ⟨s2, st, rfl⟩)
      have rest := (ih first later).mp fun ds s1 pre rn1 =>
        every (e :: ds) s1 (List.cons_prefix_cons.mpr ⟨rfl, pre⟩) (run_cons.mpr ⟨s2, st, rn1⟩)
      exact List.forall_mem_cons.mpr ⟨(precise s e s2 hI st).mp first, rest⟩
    · intro meets ds s1 pre rn1
      obtain ⟨here, rest⟩ := List.forall_mem_cons.mp meets
      cases ds with
      | nil =>
        cases rn1
        exact hI
      | cons d ds =>
        obtain ⟨rfl, inner⟩ := List.cons_prefix_cons.mp pre
        obtain ⟨s3, st3, rn3⟩ := run_cons.mp rn1
        cases st.symm.trans st3
        exact (ih ((precise s d s2 hI st).mpr here) later).mpr rest ds s1 inner rn3

/-- What every step preserves, every run preserves. -/
theorem run_preserves {I : σ → Prop}
    (keep : ∀ s e s', I s → step s e = some s' → I s')
    (hI : I s) (rn : run step s es = some s') : I s' :=
  run_preserves_along (P := fun _ _ => True) (fun s e s' hI _ st => keep s e s' hI st) hI
    (Along.of_forall fun _ _ _ => trivial) rn

/-- If each step from related states is one of the other machine, wherever that meets `P`, then each run
is. -/
theorem run_simulates {τ ι : Type*} {step' : τ → ι → Option τ} {f : ε → ι} {P : τ → ι → Prop}
    {R : σ → τ → Prop} {t : τ}
    (keep : ∀ s t e s', R s t → P t (f e) → step s e = some s' → ∃ t', step' t (f e) = some t' ∧ R s' t')
    (hR : R s t) (al : Along step' P t (es.map f)) (rn : run step s es = some s') :
    ∃ t', run step' t (es.map f) = some t' ∧ R s' t' := by
  induction es generalizing s t with
  | nil =>
    cases rn
    exact ⟨t, rfl, hR⟩
  | cons e es ih =>
    obtain ⟨s1, st, rn1⟩ := run_cons.mp rn
    obtain ⟨t1, st', hR1⟩ := keep s t e s1 hR al.1 st
    obtain ⟨t', rn', hR'⟩ := ih hR1 (al.2 t1 st') rn1
    exact ⟨t', run_cons.mpr ⟨t1, st', rn'⟩, hR'⟩

end Atpd.Lib
