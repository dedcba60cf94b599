/-
This file models the runs of the legacy Python runner and the repository that
stores them. A saved run replaces the stored one only if its scope is intact and
a subset of the stored scope. Over any history of save calls the scopes of one
run therefore form a chain, and a decision of the policy engine under a later
scope is never more permissive than its decision under an earlier one.
-/

import GuardedAgentRunner.Capability
import GuardedAgentRunner.Library.Runs
import GuardedAgentRunner.Time
import Mathlib.Logic.Function.Basic

namespace GuardedAgentRunner

namespace Legacy

open Fallible

/-! ### Runs -/

inductive RunStatus where
  | created
  | planned
  | running
  | waitingApproval
  | approved
  | rejected
  | completed
  | failed
  | stale
  | expired
  | cancelled
deriving DecidableEq, Repr

/-- The value of the enumeration. -/
def RunStatus.text : RunStatus → String
  | .created => "CREATED"
  | .planned => "PLANNED"
  | .running => "RUNNING"
  | .waitingApproval => "WAITING_APPROVAL"
  | .approved => "APPROVED"
  | .rejected => "REJECTED"
  | .completed => "COMPLETED"
  | .failed => "FAILED"
  | .stale => "STALE"
  | .expired => "EXPIRED"
  | .cancelled => "CANCELLED"

structure Run where
  id : String
  userId : String
  request : String
  status : RunStatus
  scope : CapabilityScope
  plan : List ToolCall
  currentStep : Nat
  createdAt : Time
  expiresAt : Time
  userAuthorizationValid : Bool
  lastError : Option String
  version : Int

/-- `pending_action`. -/
def Run.pendingAction (run : Run) : Option ToolCall := run.plan[run.currentStep]?

/-- `ALLOWED_TRANSITIONS`. -/
def allowedTransitions : RunStatus → List RunStatus
  | .created => [.planned, .failed, .cancelled]
  | .planned => [.running, .failed, .expired, .cancelled]
  | .running => [.waitingApproval, .completed, .failed, .expired, .cancelled]
  | .waitingApproval => [.approved, .rejected, .failed, .expired, .cancelled]
  | .approved => [.running, .failed, .stale, .expired, .cancelled]
  | .rejected | .completed | .failed | .stale | .expired | .cancelled => []

/-- `transition_run`. -/
def transitionRun (run : Run) (target : RunStatus) : Except Error Run := do
  refuse (target ∉ allowedTransitions run.status) (.invalidRunTransition
    ("Invalid run transition: " ++ run.status.text ++ " -> " ++ target.text))
  pure { run with status := target, version := run.version + 1 }

/-! ### The repository -/

/-- The stored runs. -/
structure Repository where
  runs : String → Option Run

namespace Repository

variable (runtime : Runtime) (repository : Repository)

/-- `save_run`. -/
def saveRun (run : Run) : Except Error Repository :=
  let saved := { repository with runs := Function.update repository.runs run.id (some run) }
  match repository.runs run.id with
  | none => pure saved
  | some previous => do
    assertNoScopeExpansion runtime run.scope previous.scope
    pure saved

/-- A call of `save_run`: one that raises leaves the repository as it is. -/
def save (run : Run) : Repository :=
  match repository.saveRun runtime run with
  | .ok next => next
  | .error _ => repository

end Repository

/-! ### The scopes of a run -/

variable {runtime : Runtime} {engine : PolicyEngine} {call : ToolCall} {repository : Repository}
  {run : Run}

/-- The later scope is intact if the earlier one is, and permits no call that the earlier one does
not permit with a mode that is no stronger. -/
structure Narrows (runtime : Runtime) (earlier later : CapabilityScope) : Prop where
  intact : assertScopeIntegrity runtime earlier = .ok () →
    assertScopeIntegrity runtime later = .ok ()
  permitted : ∀ call mode, Permitted call later mode →
    ∃ old : ApprovalMode, old.strength ≤ mode.strength ∧ Permitted call earlier old

theorem Narrows.refl (scope : CapabilityScope) : Narrows runtime scope scope :=
  ⟨id, fun _ mode permitted => ⟨mode, le_refl _, permitted⟩⟩

theorem Narrows.trans {first second third : CapabilityScope} (early : Narrows runtime first second)
    (late : Narrows runtime second third) : Narrows runtime first third := by
  refine ⟨late.intact ∘ early.intact, fun call mode permitted => ?_⟩
  obtain ⟨middle, weaker, permittedMiddle⟩ := late.permitted call mode permitted
  obtain ⟨first, weakest, permittedFirst⟩ := early.permitted call middle permittedMiddle
  exact ⟨first, weakest.trans weaker, permittedFirst⟩

theorem narrows_of_assertNoScopeExpansion {newScope oldScope : CapabilityScope}
    (accepted : assertNoScopeExpansion runtime newScope oldScope = .ok ()) :
    Narrows runtime oldScope newScope := by
  obtain ⟨_, intact, subset⟩ := bind_eq_ok.mp accepted
  rw [refuse_eq_ok, Bool.not_eq_false] at subset
  exact ⟨fun _ => intact, fun _ _ permitted => permitted.of_subset subset⟩

theorem saveRun_eq_ok {next : Repository} (saved : repository.saveRun runtime run = .ok next) :
    next.runs = Function.update repository.runs run.id (some run) ∧
      ∀ previous, repository.runs run.id = some previous →
        Narrows runtime previous.scope run.scope := by
  unfold Repository.saveRun at saved
  cases isStored : repository.runs run.id with
  | none =>
    rw [isStored] at saved
    obtain rfl := Except.ok.inj saved
    exact ⟨rfl, fun _ isPrevious => nomatch isPrevious⟩
  | some stored =>
    rw [isStored] at saved
    obtain ⟨_, accepted, isNext⟩ := bind_eq_ok.mp saved
    obtain rfl := Except.ok.inj isNext
    refine ⟨rfl, fun previous isPrevious => ?_⟩
    obtain rfl := Option.some.inj isPrevious
    exact narrows_of_assertNoScopeExpansion accepted

/-- The stored run stays, with a scope that narrows. -/
def StoredNarrows (runtime : Runtime) (id : String) (before after : Repository) : Prop :=
  ∀ old, before.runs id = some old →
    ∃ new, after.runs id = some new ∧ Narrows runtime old.scope new.scope

theorem storedNarrows_save (runtime : Runtime) (id : String) (repository : Repository) (run : Run) :
    StoredNarrows runtime id repository (repository.save runtime run) := by
  intro old isOld
  unfold Repository.save
  split
  · rename_i next saved
    obtain ⟨runs, narrows⟩ := saveRun_eq_ok saved
    rw [runs]
    by_cases same : id = run.id
    · subst same
      exact ⟨run, Function.update_self .., narrows old isOld⟩
    · exact ⟨old, (Function.update_of_ne same ..).trans isOld, Narrows.refl _⟩
  · exact ⟨old, isOld, Narrows.refl _⟩

/-- Along every history of save calls the scope of a stored run narrows. -/
theorem storedNarrows_run (runtime : Runtime) (id : String) (repository : Repository)
    (saves : List Run) :
    StoredNarrows runtime id repository (Runs.run (Repository.save runtime) repository saves) := by
  have always : ∀ (repository : Repository) (run : Run), True →
      StoredNarrows runtime id repository (repository.save runtime run) :=
    fun repository run _ => storedNarrows_save runtime id repository run
  refine Runs.relation_run (StoredNarrows runtime id) (fun _ _ _ => trivial)
    (fun repository old isOld => ⟨old, isOld, Narrows.refl _⟩) ?_ always trivial saves
  intro first second third early late old isOld
  obtain ⟨middle, isMiddle, narrows⟩ := early old isOld
  obtain ⟨last, isLast, further⟩ := late middle isMiddle
  exact ⟨last, isLast, narrows.trans further⟩

/-- The engine evaluates the call under the scope to the decision. -/
def Decides (runtime : Runtime) (engine : PolicyEngine) (call : ToolCall)
    (scope : CapabilityScope) (decision : PolicyDecision) : Prop :=
  ∃ result, engine.evaluate runtime call (some scope) = .ok result ∧ result.decision = decision

/-- Under an intact earlier scope the engine decides with a mode that is no stronger. -/
theorem Narrows.decides {earlier later : CapabilityScope} (mode : ApprovalMode)
    (narrows : Narrows runtime earlier later)
    (intact : assertScopeIntegrity runtime earlier = .ok ())
    (decides : Decides runtime engine call later mode.decision) :
    ∃ old : ApprovalMode, old.strength ≤ mode.strength ∧
      Decides runtime engine call earlier old.decision := by
  obtain ⟨working, -, permitted⟩ := evaluate_eq_iff.mp decides
  obtain ⟨old, weaker, permittedEarlier⟩ := narrows.permitted call mode permitted
  exact ⟨old, weaker, evaluate_eq_iff.mpr ⟨working, intact, permittedEarlier⟩⟩

/-- Authority only shrinks: in every history of save calls that starts with an intact scope of a
run, what the policy engine allows under a later stored scope of the run it allows under every
earlier one. -/
theorem authority_only_shrinks (runtime : Runtime) (repository : Repository) (first : Run)
    (absent : repository.runs first.id = none)
    (intact : assertScopeIntegrity runtime first.scope = .ok ()) (before after : List Run)
    (earlier later : Run)
    (isEarlier : (Runs.run (Repository.save runtime) repository (first :: before)).runs first.id =
      some earlier)
    (isLater : (Runs.run (Repository.save runtime) repository
      (first :: (before ++ after))).runs first.id = some later)
    (engine : PolicyEngine) (call : ToolCall) :
    (Decides runtime engine call later.scope .allowAuto →
      Decides runtime engine call earlier.scope .allowAuto) ∧
    (Decides runtime engine call later.scope .requireApproval →
      Decides runtime engine call earlier.scope .allowAuto ∨
        Decides runtime engine call earlier.scope .requireApproval) := by
  have stored : (repository.save runtime first).runs first.id = some first := by
    unfold Repository.save Repository.saveRun
    rw [absent]
    exact Function.update_self ..
  obtain ⟨_, sameEarlier, fromFirst⟩ :=
    storedNarrows_run runtime first.id (repository.save runtime first) before first
      stored
  obtain rfl := Option.mem_unique sameEarlier isEarlier
  rw [Runs.run_cons, Runs.run_append] at isLater
  obtain ⟨_, sameLater, narrows⟩ :=
    storedNarrows_run runtime first.id _ after _ isEarlier
  obtain rfl := Option.mem_unique sameLater isLater
  have intactEarlier := fromFirst.intact intact
  constructor
  · intro decides
    obtain ⟨old, weaker, decidesEarlier⟩ := narrows.decides .auto intactEarlier decides
    cases old with
    | auto => exact decidesEarlier
    | required => exact absurd weaker (by decide)
  · intro decides
    obtain ⟨old, -, decidesEarlier⟩ := narrows.decides .required intactEarlier decides
    cases old with
    | auto => exact Or.inl decidesEarlier
    | required => exact Or.inr decidesEarlier

theorem Repository.runs_save_of_shrinks {runtime : Runtime} {repository : Repository}
    {run previous : Run} (stored : repository.runs run.id = some previous)
    (shrinks : assertNoScopeExpansion runtime run.scope previous.scope = .ok ()) :
    (repository.save runtime run).runs run.id = some run := by
  unfold Repository.save Repository.saveRun
  rw [stored]
  dsimp only
  rw [shrinks]
  exact Function.update_self ..

/-- A run without a plan under a sealed scope. -/
def restartRun (mode : ApprovalMode) : Run where
  id := "run_a"
  userId := "alex"
  request := "Restart"
  status := .created
  scope := ruledScope [mode]
  plan := []
  currentStep := 0
  createdAt := 0
  expiresAt := 900 * Duration.second
  userAuthorizationValid := true
  lastError := none
  version := 1

def restartCall : ToolCall where
  id := "call_a"
  action := "restart_service"
  args := [("service", .string "postgresql")]
  purpose := none
  status := .pending
  result := .null
  failureReason := none

/-- Strengthening the approval requirement of a run takes the automatic decision away. -/
theorem strengthened_restart_shrinks :
    Decides markedRuntime ⟨false⟩ restartCall (ruledScope [.required]) .requireApproval ∧
      (Decides markedRuntime ⟨false⟩ restartCall (ruledScope [.auto]) .allowAuto ∨
        Decides markedRuntime ⟨false⟩ restartCall (ruledScope [.auto]) .requireApproval) := by
  have decides : Decides markedRuntime ⟨false⟩ restartCall (ruledScope [.required])
      .requireApproval := by
    refine ⟨PolicyEngine.judge restartCall (ruledScope [.required]), ?_, by decide +kernel⟩
    rw [PolicyEngine.evaluate, ruledScope_intact]
    rfl
  have shrinks : assertNoScopeExpansion markedRuntime (ruledScope [.required])
      (ruledScope [.auto]) = .ok () := by
    rw [assertNoScopeExpansion, ruledScope_intact]
    decide +kernel
  have saved : (Runs.run (Repository.save markedRuntime) ⟨fun _ => none⟩
      [restartRun .auto, restartRun .required]).runs "run_a" = some (restartRun .required) :=
    Repository.runs_save_of_shrinks (rfl : _ = some (restartRun .auto)) shrinks
  refine ⟨decides, (authority_only_shrinks markedRuntime ⟨fun _ => none⟩ (restartRun .auto) rfl
    (ruledScope_intact _) [] [restartRun .required] (restartRun .auto) (restartRun .required)
    rfl saved ⟨false⟩ restartCall).2 decides⟩

end Legacy

end GuardedAgentRunner
