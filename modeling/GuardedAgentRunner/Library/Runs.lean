/-
This file collects the induction rules for machines: a total step function on a
state type, its runs over lists of inputs, and the three ways a fact about one step
becomes a fact about every run. An invariant is kept by every step; a reflexive and
transitive relation between the ends of a step relates the ends of a run; and a
property that a step keeps exactly under a condition holds all along a run exactly
when every step meets the condition.
-/

import Mathlib.Logic.Basic

namespace Runs

variable {State Input : Type} (step : State → Input → State)

/-- The state a list of inputs leads to. -/
def run (start : State) (inputs : List Input) : State := inputs.foldl step start

@[simp] theorem run_nil (start : State) : run step start [] = start := rfl

@[simp] theorem run_cons (start : State) (input : Input) (inputs : List Input) :
    run step start (input :: inputs) = run step (step start input) inputs := rfl

theorem run_append (start : State) (first second : List Input) :
    run step start (first ++ second) = run step (run step start first) second :=
  List.foldl_append

variable {step} {start : State} {inputs : List Input} {invariant : State → Prop}

/-- What every step with an allowed input keeps holds after every run with allowed inputs. -/
theorem invariant_run_of_allowed (invariant : State → Prop) {allowed : Input → Prop}
    (preserved : ∀ state input, allowed input → invariant state → invariant (step state input))
    (holds : invariant start) (all : ∀ input ∈ inputs, allowed input) :
    invariant (run step start inputs) := by
  induction inputs generalizing start with
  | nil => exact holds
  | cons input inputs hypothesis =>
    exact hypothesis (preserved start input (all input List.mem_cons_self) holds)
      fun other member => all other (List.mem_cons_of_mem _ member)

/-- What every step keeps holds after every run. -/
theorem invariant_run (invariant : State → Prop)
    (preserved : ∀ state input, invariant state → invariant (step state input))
    (holds : invariant start) (inputs : List Input) :
    invariant (run step start inputs) :=
  invariant_run_of_allowed invariant (fun state input _ => preserved state input) holds
    fun _ _ => trivial

/-- A preorder that relates the two ends of every step from a state with the invariant relates
the two ends of every run. -/
theorem relation_run (relation : State → State → Prop)
    (preserved : ∀ state input, invariant state → invariant (step state input))
    (reflexive : ∀ state, relation state state)
    (transitive : ∀ {first second third}, relation first second → relation second third →
      relation first third)
    (related : ∀ state input, invariant state → relation state (step state input))
    (holds : invariant start) (inputs : List Input) :
    relation start (run step start inputs) := by
  induction inputs generalizing start with
  | nil => exact reflexive start
  | cons input inputs hypothesis =>
    exact transitive (related start input holds)
      (hypothesis (preserved start input holds))

variable (step)

/-- Every step of the run meets the condition in the state it is taken from. -/
def Along (condition : State → Input → Prop) : State → List Input → Prop
  | _, [] => True
  | state, input :: inputs => condition state input ∧ Along condition (step state input) inputs

instance decidableAlong {condition : State → Input → Prop}
    [∀ state input, Decidable (condition state input)] :
    (start : State) → (inputs : List Input) → Decidable (Along step condition start inputs)
  | _, [] => .isTrue trivial
  | state, input :: inputs =>
    @instDecidableAnd _ _ _ (decidableAlong (step state input) inputs)

variable {step} {condition : State → Input → Prop}

theorem along_append (condition : State → Input → Prop) (start : State)
    (first second : List Input) :
    Along step condition start (first ++ second) ↔
      Along step condition start first ∧ Along step condition (run step start first) second := by
  induction first generalizing start with
  | nil => exact ⟨fun along => ⟨trivial, along⟩, fun along => along.2⟩
  | cons input inputs hypothesis =>
    have rest := hypothesis (step start input)
    constructor
    · rintro ⟨met, along⟩
      obtain ⟨early, late⟩ := rest.mp along
      exact ⟨⟨met, early⟩, late⟩
    · rintro ⟨⟨met, early⟩, late⟩
      exact ⟨met, rest.mpr ⟨early, late⟩⟩

theorem along_of_forall (always : ∀ input ∈ inputs, ∀ state, condition state input)
    (start : State) :
    Along step condition start inputs := by
  induction inputs generalizing start with
  | nil => trivial
  | cons input inputs hypothesis =>
    exact ⟨always input List.mem_cons_self start,
      hypothesis (fun other listed => always other (List.mem_cons_of_mem _ listed)) _⟩

/-- What every step that meets the condition keeps holds after every run along it. -/
theorem invariant_along (invariant : State → Prop)
    (preserved : ∀ state input, condition state input → invariant state →
      invariant (step state input)) (holds : invariant start)
    (along : Along step condition start inputs) : invariant (run step start inputs) := by
  induction inputs generalizing start with
  | nil => exact holds
  | cons input inputs hypothesis =>
    exact hypothesis (preserved start input along.1 holds) along.2

/-- If a condition on a step is exactly what keeps a property, the runs along the condition are
exactly the runs that have the property in every state they pass. -/
theorem along_iff {property : State → Prop}
    (preserved : ∀ state input, invariant state → invariant (step state input))
    (exactly : ∀ state input, invariant state → property state →
      (condition state input ↔ property (step state input))) (holds : invariant start)
    (initially : property start) (inputs : List Input) :
    Along step condition start inputs ↔
      ∀ earlier, earlier <+: inputs → property (run step start earlier) := by
  induction inputs generalizing start with
  | nil =>
    refine ⟨fun _ earlier isPrefix => ?_, fun _ => trivial⟩
    rw [List.prefix_nil.mp isPrefix]
    exact initially
  | cons input inputs hypothesis =>
    have next := preserved start input holds
    constructor
    · rintro ⟨met, along⟩ earlier isPrefix
      have kept := (exactly start input holds initially).mp met
      cases earlier with
      | nil => exact initially
      | cons first rest =>
        obtain ⟨rfl, restPrefix⟩ := List.cons_prefix_cons.mp isPrefix
        exact (hypothesis next kept).mp along rest restPrefix
    · intro always
      have kept : property (step start input) :=
        always [input] (List.cons_prefix_cons.mpr ⟨rfl, List.nil_prefix⟩)
      refine ⟨(exactly start input holds initially).mpr kept,
        (hypothesis next kept).mpr ?_⟩
      intro rest restPrefix
      exact always (input :: rest) (List.cons_prefix_cons.mpr ⟨rfl, restPrefix⟩)

end Runs
