/-
This file collects the few facts about computations that may stop with an
error which a transcribed imperative function needs: a guard that stops when
its condition holds, and the inversion of sequencing, so that a successful run
is peeled apart one statement at a time.
-/

import Mathlib.Logic.Basic

namespace Fallible

variable {Failure First Second : Type} {rest : First → Except Failure Second}
  {first : Except Failure First} {result : Second}

/-- Stop with `failure` when `bad` holds: `if bad { return failure }`. -/
def refuse (bad : Prop) [Decidable bad] (failure : Failure) : Except Failure Unit :=
  if bad then .error failure else .ok ()

@[simp] theorem refuse_eq_ok (bad : Prop) [Decidable bad] (failure : Failure) (result : Unit) :
    refuse bad failure = .ok result ↔ ¬ bad := by
  unfold refuse
  by_cases holds : bad <;> simp [holds]

@[simp] theorem refuse_eq_error (bad : Prop) [Decidable bad] (failure other : Failure) :
    refuse bad failure = .error other ↔ bad ∧ failure = other := by
  unfold refuse
  by_cases holds : bad <;> simp [holds]

/-- Stop with `failure` when a value is absent. -/
def demand (value : Option First) (failure : Failure) : Except Failure First :=
  match value with
  | some present => .ok present
  | none => .error failure

@[simp] theorem demand_eq_ok (value : Option First) (failure : Failure) (result : First) :
    demand value failure = .ok result ↔ value = some result := by
  cases value <;> simp [demand]

@[simp] theorem demand_eq_error (value : Option First) (failure other : Failure) :
    demand value failure = .error other ↔ value = none ∧ failure = other := by
  cases value <;> simp [demand]

theorem bind_eq_ok :
    (first >>= rest) = .ok result ↔ ∃ value, first = .ok value ∧ rest value = .ok result := by
  cases first with
  | error failure => exact ⟨nofun, fun ⟨_, contradiction, _⟩ => nomatch contradiction⟩
  | ok value => exact ⟨fun run => ⟨value, rfl, run⟩, fun ⟨_, same, run⟩ => by cases same; exact run⟩

theorem refuse_bind_eq_ok (bad : Prop) [Decidable bad] (failure : Failure)
    {rest : Unit → Except Failure Second} :
    (refuse bad failure >>= rest) = .ok result ↔ ¬ bad ∧ rest () = .ok result := by
  rw [bind_eq_ok]
  constructor
  · rintro ⟨_, passed, run⟩
    exact ⟨(refuse_eq_ok bad failure _).mp passed, run⟩
  · rintro ⟨passed, run⟩
    exact ⟨(), (refuse_eq_ok bad failure _).mpr passed, run⟩

theorem then_eq_ok {first rest : Except Failure Unit} :
    (first >>= fun _ => rest) = .ok () ↔ first = .ok () ∧ rest = .ok () :=
  bind_eq_ok.trans ⟨fun ⟨_, both⟩ => both, fun both => ⟨(), both⟩⟩

@[simp] theorem pure_eq_ok (value result : First) :
    (pure value : Except Failure First) = .ok result ↔ value = result := by
  exact ⟨fun same => Except.ok.inj same, fun same => congrArg Except.ok same⟩

/-- Check every value of a list in turn: `for _, value := range values`. -/
def each (check : First → Except Failure Unit) : List First → Except Failure Unit
  | [] => .ok ()
  | value :: values => do
    check value
    each check values

@[simp] theorem each_eq_ok (check : First → Except Failure Unit) (values : List First)
    (result : Unit) : each check values = .ok result ↔ ∀ value ∈ values, check value = .ok () := by
  induction values with
  | nil => exact ⟨fun _ _ member => absurd member List.not_mem_nil, fun _ => rfl⟩
  | cons value values hypothesis =>
    rw [each, bind_eq_ok, List.forall_mem_cons]
    constructor
    · rintro ⟨_, passed, rest⟩
      exact ⟨passed, hypothesis.mp rest⟩
    · rintro ⟨passed, rest⟩
      exact ⟨(), passed, hypothesis.mpr rest⟩

/-! ### The failures of a computation -/

/-- Every failure of the computation is an allowed one. -/
def Fails (allowed : Failure → Prop) (run : Except Failure First) : Prop :=
  ∀ failure, run = .error failure → allowed failure

section Fails

variable {allowed : Failure → Prop} {failure : Failure}

theorem fails_ok (value : First) : Fails allowed (.ok value) :=
  fun _ contradiction => nomatch contradiction

theorem fails_refuse {bad : Prop} [Decidable bad] (fails : bad → allowed failure) :
    Fails allowed (refuse bad failure) := by
  intro other refused
  obtain ⟨holds, rfl⟩ := (refuse_eq_error _ _ _).mp refused
  exact fails holds

theorem fails_demand {value : Option First} (fails : value = none → allowed failure) :
    Fails allowed (demand value failure) := by
  intro other absent
  obtain ⟨none, rfl⟩ := (demand_eq_error _ _ _).mp absent
  exact fails none

theorem Fails.bind (firstFails : Fails allowed first)
    (restFails : ∀ value, Fails allowed (rest value)) :
    Fails allowed (first >>= rest) := by
  intro failure failed
  cases first with
  | error other => exact firstFails failure (congrArg Except.error (Except.error.inj failed))
  | ok value => exact restFails value failure failed

theorem Fails.relax {weaker : Failure → Prop} {run : Except Failure First}
    (fails : Fails allowed run) (relaxes : ∀ failure, allowed failure → weaker failure) :
    Fails weaker run :=
  fun failure failed => relaxes failure (fails failure failed)

end Fails

end Fallible
