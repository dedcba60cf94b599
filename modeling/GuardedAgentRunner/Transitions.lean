/-
This file proves which changes of an operation's status the store commits. An
explicit transition and the surrender of an outcome consult the table of the state
machine, and a revocation aborts queued operations only, which the table allows. An
observation consults nothing: an unknown effect makes the operation `UNKNOWN` and a
foreign one makes it `NEEDS_INTERVENTION`, whatever its status was.
-/

import GuardedAgentRunner.Refinement

namespace GuardedAgentRunner

open Store Ledger

variable {codec : Codec} {before after : Ledger} {call : StoreCall} {operation next : Operation}

/-! ### Terminal statuses -/

theorem canTransitionOperation_of_terminal {status : OperationStatus}
    (terminal : isTerminalOperation status = true) (successor : OperationStatus) :
    canTransitionOperation status successor = false := by
  cases status <;> first | rfl | cases terminal

/-! ### The status an observation imposes -/

/-- The status an observed effect imposes on the operation, if any. -/
def EffectState.imposedStatus : EffectState → Option OperationStatus
  | .unknown => some .unknown
  | .otherObserved => some .needsIntervention
  | _ => none

theorem settleStatus_imposed (attempt : StepAttempt) (operation : Operation) :
    (settleStatus .observed attempt operation).status =
      attempt.effectState.imposedStatus.getD operation.status := by
  unfold settleStatus
  cases attempt.effectState <;> rfl

/-- The call observes an effect that imposes a status which the table does not allow from the
status the operation has. -/
def Overrides (ledger : Ledger) : StoreCall → Prop
  | .recordStepObservation operationID _ effect _ _ _ =>
    ∃ operation status, ledger.operations operationID = some operation ∧
      effect.imposedStatus = some status ∧ status ≠ operation.status ∧
      canTransitionOperation operation.status status = false
  | _ => False

/-! ### One move -/

/-- The status is kept or changes along the table. -/
def LegalChange (status next : OperationStatus) : Prop :=
  next = status ∨ canTransitionOperation status next = true

theorem Ledger.OperationMove.legalChange (move : OperationMove codec before call operation next)
    (found : before.operations operation.operationID = some operation)
    (obeys : ¬ Overrides before call) : LegalChange operation.status next.status := by
  cases move with
  | aborted unstarted =>
    refine Or.inr ?_
    rw [unstarted.1]
    rfl
  | prepared | dispatched | completed => exact Or.inl rfl
  | @observed _ stepID index current effect attribution evidence now =>
    rw [settleStatus_imposed]
    show LegalChange operation.status (effect.imposedStatus.getD operation.status)
    cases imposed : effect.imposedStatus with
    | none => exact Or.inl rfl
    | some status =>
      by_cases same : status = operation.status
      · exact Or.inl same
      · refine Or.inr ?_
        by_contra refused
        exact obeys ⟨operation, status, found, imposed, same, Bool.not_eq_true _ ▸ refused⟩
  | gaveUp allowed => exact Or.inr allowed
  | transitioned allowed => exact Or.inr allowed

theorem Overrides.not_legalChange (overrides : Overrides before call)
    (found : before.operations operation.operationID = some operation)
    (move : OperationMove codec before call operation next) :
    ¬ LegalChange operation.status next.status := by
  cases move with
  | @observed _ stepID index current effect attribution evidence now =>
    obtain ⟨stored, status, present, imposed, differs, refused⟩ := overrides
    rw [found] at present
    cases present
    rw [settleStatus_imposed]
    show ¬ LegalChange operation.status (effect.imposedStatus.getD operation.status)
    rw [imposed]
    rintro (same | allowed)
    · exact differs same
    · rw [Option.getD_some, refused] at allowed
      cases allowed
  | aborted | prepared | dispatched | gaveUp | transitioned | completed => exact overrides.elim

/-! ### One transaction -/

theorem Overrides.moves (overrides : Overrides before call) (step : Step codec before call after) :
    ∃ operation next, before.operations operation.operationID = some operation ∧
      after.operations operation.operationID = some next ∧
      OperationMove codec before call operation next := by
  cases step with
  | @moved _ operation next _ opened move =>
    exact ⟨operation, next, opened, Function.update_self .., move⟩
  | answered answers =>
    cases call with
    | recordStepObservation => cases answers
    | _ => exact overrides.elim
  | proposed | approved | rejected | revoked | aborted | reserved | advanced | completed =>
    exact overrides.elim

/-- Every operation of the first ledger is in the second one with a legal change of status. -/
def LegalStep (before after : Ledger) : Prop :=
  ∀ id operation later, before.operations id = some operation →
    after.operations id = some later → LegalChange operation.status later.status

theorem Ledger.Step.legal_iff (step : Step codec before call after) :
    LegalStep before after ↔ ¬ Overrides before call := by
  constructor
  · intro legal overrides
    obtain ⟨operation, next, found, now, move⟩ := overrides.moves step
    exact overrides.not_legalChange found move (legal _ operation next found now)
  · intro obeys id operation later found now
    rcases step.operation_cases id with same | ⟨stored, moved, present, rfl, movedNow, move⟩ |
      ⟨_, _, _, _, _, _, _, -, rfl, approves, -⟩
    · rw [same, found] at now
      cases now
      exact Or.inl rfl
    · rw [found] at present
      cases present
      rw [now] at movedNow
      cases movedNow
      exact move.legalChange found obeys
    · rw [approves.fresh] at found
      cases found

/-- Between the two databases, the status of every operation was kept or changed along the table;
in particular a terminal one was kept. -/
structure LegalChanges (database next : Database) : Prop where
  legal : ∀ row ∈ database.operations.rows, ∀ later ∈ next.operations.rows,
    later.operationID = row.operationID → later.status ≠ row.status →
      canTransitionOperation row.status later.status = true
  terminal : ∀ row ∈ database.operations.rows, ∀ later ∈ next.operations.rows,
    later.operationID = row.operationID → isTerminalOperation row.status = true →
      later.status = row.status

theorem legalChanges_iff {database next : Database} (coherent : database.Coherent)
    (nextCoherent : next.Coherent) :
    LegalChanges database next ↔ LegalStep database.ledger next.ledger := by
  constructor
  · intro changes id operation later found now
    obtain ⟨member, rfl⟩ := coherent.operation_eq_some.mp found
    obtain ⟨laterIn, sameID⟩ := nextCoherent.operation_eq_some.mp now
    refine or_iff_not_imp_left.mpr fun differs => ?_
    exact changes.legal _ member _ laterIn sameID differs
  · intro legal
    have changed : ∀ row ∈ database.operations.rows, ∀ later ∈ next.operations.rows,
        later.operationID = row.operationID → LegalChange row.status later.status := by
      intro row member later laterIn sameID
      obtain ⟨operation, rfl, found⟩ := coherent.operation_row member
      obtain ⟨successor, rfl, now⟩ := nextCoherent.operation_row laterIn
      refine legal operation.operationID operation successor found ?_
      rw [← show successor.operationID = operation.operationID from sameID]
      exact now
    refine ⟨fun row member later laterIn sameID differs => ?_,
      fun row member later laterIn sameID terminal => ?_⟩
    · exact (changed row member later laterIn sameID).resolve_left differs
    · rcases changed row member later laterIn sameID with same | allowed
      · exact same
      · rw [canTransitionOperation_of_terminal terminal] at allowed
        cases allowed

/-- From every database that is reached, a committed transaction changes statuses along the table
and keeps the terminal ones exactly when it is not an observation that imposes a status the table
does not allow. -/
theorem status_changes_legal_iff (codec : Codec) (log : List Transaction)
    (transaction : Transaction) (next : Database)
    (commits : Commits codec (replay codec log) transaction next) :
    LegalChanges (replay codec log) next ↔
      ¬ Overrides (replay codec log).ledger transaction.call := by
  have coherent : (replay codec log).Coherent := replay_coherent log
  obtain ⟨nextCoherent, step⟩ := commits_refines coherent commits
  rw [legalChanges_iff coherent nextCoherent]
  exact step.legal_iff

/-- The claim of the first operation: its move from `QUEUED` to `PREPARING`. -/
def claimFirst : Transaction :=
  ⟨fixtureIDs "0", .transitionOperation "operation_a" .preparing .notStarted false fixtureNow⟩

/-- Claiming an operation is a legal change. -/
theorem claimFirst_legal :
    LegalChanges (replay fixtureCodec openFirst) (replay fixtureCodec (openFirst ++ [claimFirst])) ∧
      ((replay fixtureCodec (openFirst ++ [claimFirst])).operation "operation_a").map (·.status) =
        some .preparing := by
  have claimed : ((replay fixtureCodec (openFirst ++ [claimFirst])).operation "operation_a").map
      (·.status) = some .preparing := by
    decide
  have commits : Commits fixtureCodec (replay fixtureCodec openFirst) claimFirst
      (replay fixtureCodec (openFirst ++ [claimFirst])) := by
    rcases perform_cases (replay fixtureCodec openFirst) claimFirst with commits | same
    · exact commits
    · have unclaimed : ((perform fixtureCodec (replay fixtureCodec openFirst) claimFirst).operation
          "operation_a").map (·.status) = some .preparing := claimed
      rw [same] at unclaimed
      exact absurd unclaimed (by decide)
  exact ⟨(status_changes_legal_iff fixtureCodec openFirst claimFirst _ commits).mpr id, claimed⟩

/-- The first operation dispatches a step and fails; the step is observed afterwards. -/
def failedDispatch : List Transaction :=
  openFirst ++
    [⟨fixtureIDs "0", .prepareStep "operation_a" .claimOperation fixtureNow⟩,
      ⟨fixtureIDs "0", .markDispatchPossible "operation_a" "step_0" fixtureNow⟩,
      claimFirst,
      ⟨fixtureIDs "0", .transitionOperation "operation_a" .executing .notStarted false fixtureNow⟩,
      ⟨fixtureIDs "0", .transitionOperation "operation_a" .failed .notStarted false fixtureNow⟩]

/-- The observation of an unknown effect takes the failed operation out of its terminal status. -/
theorem failedDispatch_reopens :
    ((replay fixtureCodec failedDispatch).operation "operation_a").map (·.status) =
        some .failed ∧
      isTerminalOperation .failed = true ∧ canTransitionOperation .failed .unknown = false ∧
      ((replay fixtureCodec (failedDispatch ++
        [⟨fixtureIDs "0", .recordStepObservation "operation_a" "step_0" .unknown .unattributed
          ["late observation"] fixtureNow⟩])).operation "operation_a").map (·.status) =
        some .unknown := by
  decide

end GuardedAgentRunner
