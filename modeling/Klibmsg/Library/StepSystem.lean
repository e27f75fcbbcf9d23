import Mathlib.Data.List.Basic

/-!
# Labelled step systems

A step system is a partial function from a state and a label to a state.  A label that is not
enabled, or on which the modelled program stops, has no successor.  This file gives finite runs
and the rules by which a property of one step becomes a property of every state of a run.
-/

/-- A deterministic labelled transition system with partial steps. -/
structure StepSystem (σ ι : Type*) where
  /-- Successor of a state under a label, when the label is enabled. -/
  step : σ → ι → Option σ

namespace StepSystem

/-- Execute a finite list of labels. -/
def run {σ ι : Type*} (system : StepSystem σ ι) : σ → List ι → Option σ
  | state, [] => some state
  | state, label :: labels => system.step state label >>= fun next => system.run next labels

@[simp]
theorem run_nil {σ ι : Type*} (system : StepSystem σ ι) (state : σ) :
    system.run state [] = some state := rfl

theorem run_cons {σ ι : Type*} (system : StepSystem σ ι) (state : σ) (label : ι)
    (labels : List ι) :
    system.run state (label :: labels) =
      system.step state label >>= fun next => system.run next labels := rfl

theorem run_cons_eq_some {σ ι : Type*} {system : StepSystem σ ι} {state final : σ} {label : ι}
    {labels : List ι} :
    system.run state (label :: labels) = some final ↔
      ∃ next, system.step state label = some next ∧ system.run next labels = some final := by
  simp [run_cons, Option.bind_eq_some_iff]

theorem run_append {σ ι : Type*} (system : StepSystem σ ι) (state : σ) (left right : List ι) :
    system.run state (left ++ right) =
      system.run state left >>= fun middle => system.run middle right := by
  induction left generalizing state with
  | nil => simp [run]
  | cons label left ih =>
      simp only [List.cons_append, run]
      cases system.step state label with
      | none => rfl
      | some next => exact ih next

theorem run_concat_eq_some {σ ι : Type*} {system : StepSystem σ ι} {state final : σ}
    {label : ι} {labels : List ι} :
    system.run state (labels ++ [label]) = some final ↔
      ∃ before, system.run state labels = some before ∧
        system.step before label = some final := by
  simp [run_append, run, Option.bind_eq_some_iff]

/-- Every label of the run satisfies `guard` in the state in which it is taken. -/
def Guarded {σ ι : Type*} (system : StepSystem σ ι) (guard : σ → ι → Prop) :
    σ → List ι → Prop
  | _, [] => True
  | state, label :: labels =>
      guard state label ∧
        ∀ next, system.step state label = some next → system.Guarded guard next labels

/-- A guard that can be decided can be checked along a run. -/
instance decidableGuarded {σ ι : Type*} (system : StepSystem σ ι) (guard : σ → ι → Prop)
    [decide : ∀ state label, Decidable (guard state label)] :
    ∀ state labels, Decidable (system.Guarded guard state labels)
  | _, [] => isTrue trivial
  | state, label :: labels =>
      match stepped : system.step state label with
      | none =>
          decidable_of_iff (guard state label)
            ⟨fun allowed => ⟨allowed, fun _ enabled => nomatch stepped.symm.trans enabled⟩,
              And.left⟩
      | some next =>
          have := decidableGuarded system guard next labels
          decidable_of_iff (guard state label ∧ system.Guarded guard next labels)
            ⟨fun both => ⟨both.1, fun _ enabled =>
              Option.some.inj (stepped.symm.trans enabled) ▸ both.2⟩,
              fun guarded => ⟨guarded.1, guarded.2 next stepped⟩⟩

/-- A property kept by every guarded step holds at the end of every guarded run. -/
theorem run_invariant_of_guarded {σ ι : Type*} {system : StepSystem σ ι}
    {guard : σ → ι → Prop} {property : σ → Prop}
    (preserved : ∀ before label after, property before → guard before label →
      system.step before label = some after → property after)
    {initial final : σ} {labels : List ι} (start : property initial)
    (guarded : system.Guarded guard initial labels)
    (execution : system.run initial labels = some final) : property final := by
  induction labels generalizing initial with
  | nil =>
      have initial_eq : initial = final := by simpa [run] using execution
      exact initial_eq ▸ start
  | cons label labels ih =>
      obtain ⟨next, stepped, remaining⟩ := run_cons_eq_some.mp execution
      exact ih (preserved initial label next start guarded.1 stepped)
        (guarded.2 next stepped) remaining

/-- A property kept by every step holds at the end of every run. -/
theorem run_invariant {σ ι : Type*} {system : StepSystem σ ι} {property : σ → Prop}
    (preserved : ∀ before label after, property before →
      system.step before label = some after → property after)
    {initial final : σ} {labels : List ι} (start : property initial)
    (execution : system.run initial labels = some final) : property final := by
  induction labels generalizing initial with
  | nil =>
      have initial_eq : initial = final := by simpa [run] using execution
      exact initial_eq ▸ start
  | cons label labels ih =>
      obtain ⟨next, stepped, remaining⟩ := run_cons_eq_some.mp execution
      exact ih (preserved initial label next start stepped) remaining

/-- A guarded run has guarded prefixes. -/
theorem Guarded.left {σ ι : Type*} {system : StepSystem σ ι} {guard : σ → ι → Prop}
    {state : σ} {left right : List ι} (guarded : system.Guarded guard state (left ++ right)) :
    system.Guarded guard state left := by
  induction left generalizing state with
  | nil => trivial
  | cons label left ih => exact ⟨guarded.1, fun next stepped => ih (guarded.2 next stepped)⟩

theorem Guarded.and {σ ι : Type*} {system : StepSystem σ ι} {first second : σ → ι → Prop}
    {state : σ} {labels : List ι} (left : system.Guarded first state labels)
    (right : system.Guarded second state labels) :
    system.Guarded (fun s l => first s l ∧ second s l) state labels := by
  induction labels generalizing state with
  | nil => trivial
  | cons label labels ih =>
      exact ⟨⟨left.1, right.1⟩, fun next stepped =>
        ih (left.2 next stepped) (right.2 next stepped)⟩

theorem guarded_true {σ ι : Type*} (system : StepSystem σ ι) (state : σ) (labels : List ι) :
    system.Guarded (fun _ _ => True) state labels := by
  induction labels generalizing state with
  | nil => trivial
  | cons label labels ih => exact ⟨trivial, fun next _ => ih next⟩

/-- A guard that holds of the labels of a run in every state. -/
theorem guarded_of_forall {σ ι : Type*} {system : StepSystem σ ι} {guard : σ → ι → Prop}
    {labels : List ι} (all : ∀ label ∈ labels, ∀ state, guard state label) (state : σ) :
    system.Guarded guard state labels := by
  induction labels generalizing state with
  | nil => trivial
  | cons label labels ih =>
      rw [List.forall_mem_cons] at all
      exact ⟨all.1 state, fun next _ => ih all.2 next⟩

/-- A property of every state that the run passes through. -/
def Always {σ ι : Type*} (system : StepSystem σ ι) (property : σ → Prop) (initial : σ)
    (labels : List ι) : Prop :=
  ∀ earlier state, earlier <+: labels → system.run initial earlier = some state → property state

theorem Always.next {σ ι : Type*} {system : StepSystem σ ι} {property : σ → Prop}
    {initial next : σ} {label : ι} {labels : List ι}
    (always : system.Always property initial (label :: labels))
    (stepped : system.step initial label = some next) : system.Always property next labels := by
  intro earlier state before execution
  exact always (label :: earlier) state ((List.prefix_cons_inj label).mpr before)
    (run_cons_eq_some.mpr ⟨next, stepped, execution⟩)

theorem always_of_guarded {σ ι : Type*} {system : StepSystem σ ι}
    {guard : σ → ι → Prop} {property : σ → Prop}
    (preserved : ∀ before label after, property before → guard before label →
      system.step before label = some after → property after)
    {initial : σ} {labels : List ι} (start : property initial)
    (guarded : system.Guarded guard initial labels) : system.Always property initial labels := by
  rintro earlier state ⟨later, rfl⟩ execution
  exact run_invariant_of_guarded preserved start guarded.left execution

/-- In a run of lawful steps, when an invariant is kept by the guarded ones and a property fails
right after any other, the property holds all along exactly when the run is guarded. -/
theorem always_iff_guarded_of_lawful {σ ι : Type*} {system : StepSystem σ ι}
    {lawful guard : σ → ι → Prop} {invariant property : σ → Prop}
    (sound : ∀ state, invariant state → property state)
    (preserved : ∀ before label after, invariant before → lawful before label →
      system.step before label = some after →
        (guard before label → invariant after) ∧ (property after → guard before label))
    {initial final : σ} {labels : List ι} (start : invariant initial)
    (run_lawful : system.Guarded lawful initial labels)
    (execution : system.run initial labels = some final) :
    system.Always property initial labels ↔ system.Guarded guard initial labels := by
  constructor
  · intro always
    induction labels generalizing initial with
    | nil => trivial
    | cons label labels ih =>
        obtain ⟨next, stepped, remaining⟩ := run_cons_eq_some.mp execution
        have holds : property next := always [label] next (by simp) (by simp [run, stepped])
        have kept := preserved initial label next start run_lawful.1 stepped
        have allowed := kept.2 holds
        refine ⟨allowed, fun other again => ?_⟩
        cases stepped.symm.trans again
        exact ih (kept.1 allowed) (run_lawful.2 next stepped) remaining (always.next stepped)
  · intro guarded earlier state before reached
    have both : system.Guarded (fun s l => lawful s l ∧ guard s l) initial labels :=
      run_lawful.and guarded
    have kept : system.Always invariant initial labels :=
      always_of_guarded (fun before label after holds allowed stepped =>
        (preserved before label after holds allowed.1 stepped).1 allowed.2) start both
    exact sound state (kept earlier state before reached)

/-- When an invariant is kept by the guarded steps and a property fails right after any other step,
the property holds all along a run exactly when the run is guarded. -/
theorem always_iff_guarded {σ ι : Type*} {system : StepSystem σ ι}
    {guard : σ → ι → Prop} {invariant property : σ → Prop}
    (sound : ∀ state, invariant state → property state)
    (preserved : ∀ before label after, invariant before →
      system.step before label = some after →
        (guard before label → invariant after) ∧ (property after → guard before label))
    {initial final : σ} {labels : List ι} (start : invariant initial)
    (execution : system.run initial labels = some final) :
    system.Always property initial labels ↔ system.Guarded guard initial labels :=
  always_iff_guarded_of_lawful sound
    (fun before label after holds _ => preserved before label after holds) start
    (guarded_true system initial labels) execution

/-- What is observed at the steps of a run, in order. -/
def observed {σ ι α : Type*} (system : StepSystem σ ι) (observe : σ → ι → List α) :
    σ → List ι → List α
  | _, [] => []
  | state, label :: labels =>
      observe state label ++
        match system.step state label with
        | none => []
        | some next => system.observed observe next labels

theorem observed_cons {σ ι α : Type*} {system : StepSystem σ ι} {observe : σ → ι → List α}
    {state next : σ} {label : ι} (labels : List ι)
    (stepped : system.step state label = some next) :
    system.observed observe state (label :: labels) =
      observe state label ++ system.observed observe next labels := by
  rw [observed, stepped]

end StepSystem
