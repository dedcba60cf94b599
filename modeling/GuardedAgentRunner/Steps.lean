/-
This file models the store's transactions on operations: preparing the next
step, marking it possibly dispatched, recording what was observed, giving the
outcome up as unknown, and moving the operation along its state machine.
-/

import GuardedAgentRunner.Intents

namespace GuardedAgentRunner

open Fallible Database

namespace Store

/-- `GetOperation`. -/
def getOperation (operationID : String) (database : Database) : Except Failure Operation :=
  database.getOperationTx operationID

/-! ### Preparing a step -/

/-- The steps beyond the review boundary. -/
def disabledSteps : List StepKind :=
  [.replaceArtifact, .prepareLaunchAndStart, .verifyUnderMaintenance, .releaseMaintenance,
    .finalize]

/-- The number of the next attempt of a step kind. -/
def nextAttemptNo (attempts : List StepAttempt) (stepKind : StepKind) : Nat :=
  attempts.foldl (fun attemptNo attempt =>
    if attempt.stepKind = stepKind ∧ attempt.attemptNo ≥ attemptNo then attempt.attemptNo + 1
    else attemptNo) 1

/-- The attempt a preparation appends. -/
def newAttempt (stepID : String) (stepKind : StepKind) (attempts : List StepAttempt) (now : Time) :
    StepAttempt where
  stepID := stepID
  stepKind := stepKind
  attemptNo := nextAttemptNo attempts stepKind
  dispatchState := .notDispatched
  effectState := .provenNotApplied
  attribution := .unattributed
  preparedAt := now
  updatedAt := now
  evidence := []

/-- The operation with one more attempt. -/
def appendAttempt (operation : Operation) (attempt : StepAttempt) (now : Time) : Operation :=
  { operation with attempts := operation.attempts ++ [attempt], updatedAt := now }

/-- `PrepareStep`. -/
def prepareStep (codec : Codec) (ids : NewIDs) (operationID : String) (stepKind : StepKind)
    (now : Time) (database : Database) : Except Failure (StepAttempt × Database) := do
  refuse (stepKind ∈ disabledSteps)
    (newError .unsupportedEnvironment
      "S05 is the current review boundary; S06-S10 remain disabled")
  let operation ← database.getOperationTx operationID
  refuse (operation.status = .unknown ∨ operation.status = .needsIntervention)
    (newError .targetBlockedUnknown "unknown operation cannot prepare another forward step")
  let record ← demand (database.intent operation.intentID) .noRows
  record.intent.validateDigest codec
  refuse (record.status ≠ .consumed ∨ operation.ownershipReleased ∨
      isTerminalOperation operation.status ∨
      operation.intentDigest ≠ record.intent.intentDigest)
    (newError .approvalRevoked "operation no longer holds an executable approval")
  refuse (record.intent.steps.items[operation.attempts.length]? ≠ some stepKind)
    (newError .scopeDenied "step kind is not the next step in the approved frozen workflow")
  refuse (∃ previous ∈ operation.attempts, ¬ previous.Complete)
    (newError .dispatchOutcomeUnknown "previous step effect is not correlated and acknowledged")
  let attempt ← marshal (newAttempt ids.step stepKind operation.attempts now)
  let steps ← insertRow database.steps (StepRow.of operation.operationID attempt)
  let saved ← saveOperationTx { database with steps := steps } (appendAttempt operation attempt now)
  pure (attempt, saved)

/-! ### Changing an attempt -/

/-- The operation with one attempt replaced. -/
def replaceAttempt (operation : Operation) (index : Nat) (attempt : StepAttempt) (now : Time) :
    Operation :=
  { operation with attempts := operation.attempts.set index attempt, updatedAt := now }

/-- The attempt with the time of its last change. -/
def touchAttempt (attempt : StepAttempt) (now : Time) : StepAttempt :=
  { attempt with updatedAt := now }

/-- The two events `updateAttempt` serves. -/
inductive AttemptEvent where
  | dispatchPossible
  | observed
  deriving DecidableEq, Repr

/-- The status an observed or dispatched attempt leaves the operation with. -/
def settleStatus (event : AttemptEvent) (attempt : StepAttempt) (operation : Operation) :
    Operation :=
  let operation :=
    if attempt.effectState = .unknown ∧ event = .observed then
      { operation with status := .unknown, lastError := some .dispatchOutcomeUnknown }
    else operation
  if attempt.effectState = .otherObserved then
    { operation with status := .needsIntervention, lastError := some .externalIntervention }
  else operation

/-- What `updateAttempt` checks before a dispatch; the intent's status is read from its column. -/
def checkDispatch (event : AttemptEvent) (operation : Operation) (database : Database) :
    Except Failure Unit :=
  match event with
  | .observed => pure ()
  | .dispatchPossible => do
    refuse (operation.ownershipReleased ∨ isTerminalOperation operation.status ∨
        operation.status = .unknown)
      (newError .targetBlockedUnknown "operation cannot dispatch")
    let intent ← demand (database.intents.lookup (·.intentID) operation.intentID) .noRows
    refuse (intent.status ≠ .consumed)
      (newError .approvalRevoked "approval was revoked before dispatch")

/-- `updateAttempt`. -/
def updateAttempt (operationID stepID : String) (now : Time)
    (mutate : StepAttempt → Except Failure StepAttempt) (event : AttemptEvent)
    (database : Database) : Except Failure (Unit × Database) := do
  let operation ← database.getOperationTx operationID
  checkDispatch event operation database
  let index ← demand (operation.attempts.findIdx? fun attempt => attempt.stepID = stepID)
    (newError .notFound "step attempt not found in operation")
  let current ← demand operation.attempts[index]?
    (newError .notFound "step attempt not found in operation")
  let mutated ← mutate current
  let attempt ← marshal (touchAttempt mutated now)
  let saved ← saveOperationTx
    (database.writeStep (fun row => row.stepID = stepID ∧ row.operationID = operationID) attempt)
    (settleStatus event attempt (replaceAttempt operation index attempt now))
  pure ((), saved)

/-- The attempt that may have been dispatched. -/
def dispatchedAttempt (attempt : StepAttempt) : StepAttempt :=
  { attempt with
    dispatchState := .dispatchPossible
    effectState := .unknown
    attribution := .unattributed }

/-- What `MarkDispatchPossible` does to the attempt. -/
def dispatchAttempt (attempt : StepAttempt) : Except Failure StepAttempt := do
  refuse (attempt.dispatchState ≠ .notDispatched ∨ attempt.effectState ≠ .provenNotApplied)
    (newError .dispatchOutcomeUnknown "step is not in a proven-not-dispatched state")
  pure (dispatchedAttempt attempt)

/-- `MarkDispatchPossible`. -/
def markDispatchPossible (operationID stepID : String) (now : Time) (database : Database) :
    Except Failure (Unit × Database) :=
  updateAttempt operationID stepID now dispatchAttempt .dispatchPossible database

/-- The attempt with what was observed of it. -/
def observedAttempt (effect : EffectState) (attribution : Attribution) (evidence : List String)
    (attempt : StepAttempt) : StepAttempt :=
  { attempt with
    effectState := effect
    attribution := attribution
    evidence := evidence
    dispatchState := if attribution = .correlated then .acknowledged else attempt.dispatchState }

/-- The effects `RecordStepObservation` accepts. -/
def recordableEffects : List EffectState :=
  [.provenNotApplied, .expectedObserved, .otherObserved, .unknown]

/-- What `RecordStepObservation` does to the attempt. -/
def observeAttempt (effect : EffectState) (attribution : Attribution) (evidence : List String)
    (attempt : StepAttempt) : Except Failure StepAttempt := do
  refuse (attempt.dispatchState ≠ .dispatchPossible ∧ attempt.dispatchState ≠ .acknowledged)
    (newError .dispatchOutcomeUnknown
      "step observation cannot be attributed before durable dispatch state")
  refuse (effect ∉ recordableEffects) (newError .invalidRequest "invalid step effect state")
  pure (observedAttempt effect attribution evidence attempt)

/-- `RecordStepObservation`. -/
def recordStepObservation (operationID stepID : String) (effect : EffectState)
    (attribution : Attribution) (evidence : List String) (now : Time) (database : Database) :
    Except Failure (Unit × Database) :=
  updateAttempt operationID stepID now (observeAttempt effect attribution evidence) .observed
    database

/-! ### Changing the status -/

/-- The operation given up as unknown. -/
def giveUp (operation : Operation) (now : Time) : Operation :=
  { operation with
    status := .unknown
    ownershipReleased := false
    lastError := some .dispatchOutcomeUnknown
    updatedAt := now }

/-- `MarkUnknown`. -/
def markUnknown (operationID : String) (now : Time) (database : Database) :
    Except Failure (Unit × Database) := do
  let operation ← database.getOperationTx operationID
  refuse (¬ canTransitionOperation operation.status .unknown)
    (newError .scopeDenied "operation cannot transition to UNKNOWN")
  let saved ← saveOperationTx database (giveUp operation now)
  pure ((), saved)

/-- The statuses that release the writer. -/
def releasingStatuses : List OperationStatus := [.succeeded, .failed, .aborted, .rolledBack]

/-- The operation moved to another status. -/
def moveTo (operation : Operation) (next : OperationStatus) (verification : VerificationStatus)
    (now : Time) : Operation :=
  { operation with
    status := next
    verification := verification
    updatedAt := now
    ownershipReleased := if next ∈ releasingStatuses then true else operation.ownershipReleased }

/-- `TransitionOperation`. -/
def transitionOperation (operationID : String) (next : OperationStatus)
    (verification : VerificationStatus) (maintenanceReleased : Bool) (now : Time)
    (database : Database) : Except Failure (Unit × Database) := do
  let operation ← database.getOperationTx operationID
  refuse (¬ canTransitionOperation operation.status next)
    (newError .scopeDenied "operation state transition is not allowed")
  refuse (next = .succeeded ∧ ¬ verificationAllowsSuccess verification maintenanceReleased)
    (newError .verificationInconclusive
      "SUCCEEDED requires verification PASS and confirmed maintenance release")
  let saved ← saveOperationTx database (moveTo operation next verification now)
  pure ((), saved)

/-! ### Inversion -/

variable {codec : Codec} {ids : NewIDs} {operationID stepID : String} {now : Time}
  {database next : Database} {done : Unit}

/-- What an operation and its intent must satisfy for the next step to be prepared. -/
structure Preparable (codec : Codec) (record : IntentRecord) (operation : Operation)
    (stepKind : StepKind) : Prop where
  enabled : stepKind ∉ disabledSteps
  resolved : ¬ operation.status.Unresolved
  sealedIntent : record.intent.Sealed codec
  consumed : record.status = .consumed
  owned : operation.ownershipReleased = false
  live : isTerminalOperation operation.status = false
  digest : operation.intentDigest = record.intent.intentDigest
  nextStep : record.intent.steps.items[operation.attempts.length]? = some stepKind
  complete : ∀ previous ∈ operation.attempts, previous.Complete

theorem prepareStep_eq_ok {stepKind : StepKind} {attempt : StepAttempt}
    (run : prepareStep codec ids operationID stepKind now database = .ok (attempt, next)) :
    ∃ operation record steps, database.operation operationID = some operation ∧
      database.intent operation.intentID = some record ∧
      Preparable codec record operation stepKind ∧
      attempt = newAttempt ids.step stepKind operation.attempts now ∧
      database.steps.insert (StepRow.of operation.operationID attempt) = some steps ∧
      database.operation operation.operationID ≠ none ∧
      next = { database with steps := steps }.writeOperation
        (appendAttempt operation attempt now) := by
  simp only [prepareStep, bind_eq_ok, refuse_eq_ok, getOperationTx_eq_ok, demand_eq_ok,
    marshal_eq_ok, insertRow_eq_ok, saveOperationTx_eq_ok, pure_eq_ok, Prod.mk.injEq, not_or,
    not_not, not_exists, not_and, Bool.not_eq_true] at run
  obtain ⟨_, enabled, operation, found, _, resolved, record, intent, _, isSealed, _,
    ⟨consumed, owned, live, digest⟩, _, nextStep, _, complete, _, ⟨-, rfl⟩, steps, inserted, _,
    ⟨-, present, rfl⟩, rfl, same⟩ := run
  exact ⟨operation, record, steps, found, intent,
    ⟨enabled, not_or.mpr resolved, isSealed, consumed, owned, live, digest, nextStep, complete⟩,
    rfl, inserted, present, same.symm⟩

/-- The first attempt with a step identifier, and its position. -/
def Located (attempts : List StepAttempt) (stepID : String) (index : Nat)
    (attempt : StepAttempt) : Prop :=
  attempts.findIdx? (fun attempt => attempt.stepID = stepID) = some index ∧
    attempts[index]? = some attempt

theorem Located.names {attempts : List StepAttempt} {index : Nat} {attempt : StepAttempt}
    (located : Located attempts stepID index attempt) : attempt.stepID = stepID := by
  obtain ⟨found, at_⟩ := located
  obtain ⟨inside, matched, -⟩ := List.findIdx?_eq_some_iff_getElem.mp found
  rw [List.getElem?_eq_getElem inside] at at_
  cases at_
  simpa using matched

/-- A call of `updateAttempt` succeeds exactly when its checks pass, and then replaces the
located attempt. -/
theorem updateAttempt_eq_ok {mutate : StepAttempt → Except Failure StepAttempt}
    {event : AttemptEvent} :
    updateAttempt operationID stepID now mutate event database = .ok (done, next) ↔
      ∃ operation index current mutated, database.operation operationID = some operation ∧
        checkDispatch event operation database = .ok () ∧
        Located operation.attempts stepID index current ∧ mutate current = .ok mutated ∧
        Storable (touchAttempt mutated now) ∧
        Storable (settleStatus event (touchAttempt mutated now)
          (replaceAttempt operation index (touchAttempt mutated now) now)) ∧
        database.operation (settleStatus event (touchAttempt mutated now)
          (replaceAttempt operation index (touchAttempt mutated now) now)).operationID ≠ none ∧
        next = (database.writeStep
            (fun row => row.stepID = stepID ∧ row.operationID = operationID)
            (touchAttempt mutated now)).writeOperation
          (settleStatus event (touchAttempt mutated now)
            (replaceAttempt operation index (touchAttempt mutated now) now)) := by
  simp only [updateAttempt, bind_eq_ok, getOperationTx_eq_ok, demand_eq_ok, marshal_eq_ok,
    saveOperationTx_eq_ok, pure_eq_ok, Prod.mk.injEq]
  constructor
  · rintro ⟨operation, found, _, checked, index, position, current, at_, mutated, changed, _,
      ⟨storable, rfl⟩, _, ⟨stored, present, rfl⟩, -, same⟩
    exact ⟨operation, index, current, mutated, found, checked, ⟨position, at_⟩, changed, storable,
      stored, present, same.symm⟩
  · rintro ⟨operation, index, current, mutated, found, checked, ⟨position, at_⟩, changed, storable,
      stored, present, same⟩
    exact ⟨operation, found, (), checked, index, position, current, at_, mutated, changed, _,
      ⟨storable, rfl⟩, _, ⟨stored, present, rfl⟩, trivial, same.symm⟩

/-- What an operation and the status column of its intent must satisfy for a dispatch. -/
structure Dispatchable (status : IntentStatus) (operation : Operation) : Prop where
  owned : operation.ownershipReleased = false
  live : isTerminalOperation operation.status = false
  resolved : operation.status ≠ .unknown
  consumed : status = .consumed

theorem Dispatchable.not_unresolved {status : IntentStatus} {operation : Operation}
    (dispatchable : Dispatchable status operation) : ¬ operation.status.Unresolved := by
  rintro (unknown | intervention)
  · exact dispatchable.resolved unknown
  · have live := dispatchable.live
    rw [intervention] at live
    cases live

theorem checkDispatch_eq_ok {operation : Operation} :
    checkDispatch .dispatchPossible operation database = .ok () ↔
      ∃ intent, database.intents.lookup (·.intentID) operation.intentID = some intent ∧
        Dispatchable intent.status operation := by
  simp only [checkDispatch, bind_eq_ok, refuse_eq_ok, demand_eq_ok, not_or, not_not,
    Bool.not_eq_true]
  constructor
  · rintro ⟨_, ⟨owned, live, resolved⟩, intent, found, consumed⟩
    exact ⟨intent, found, owned, live, resolved, consumed⟩
  · rintro ⟨intent, found, owned, live, resolved, consumed⟩
    exact ⟨(), ⟨owned, live, resolved⟩, intent, found, consumed⟩

theorem dispatchAttempt_eq_ok {attempt dispatched : StepAttempt} :
    dispatchAttempt attempt = .ok dispatched ↔
      attempt.dispatchState = .notDispatched ∧ attempt.effectState = .provenNotApplied ∧
        dispatchedAttempt attempt = dispatched := by
  simp only [dispatchAttempt, refuse_bind_eq_ok, pure_eq_ok, not_or, not_not, and_assoc]

theorem observeAttempt_eq_ok {effect : EffectState} {attribution : Attribution}
    {evidence : List String} {attempt observed : StepAttempt} :
    observeAttempt effect attribution evidence attempt = .ok observed ↔
      (attempt.dispatchState = .dispatchPossible ∨ attempt.dispatchState = .acknowledged) ∧
        effect ∈ recordableEffects ∧
        observedAttempt effect attribution evidence attempt = observed := by
  simp only [observeAttempt, refuse_bind_eq_ok, pure_eq_ok, not_and_or, not_not]

theorem markUnknown_eq_ok :
    markUnknown operationID now database = .ok (done, next) ↔
      ∃ operation, database.operation operationID = some operation ∧
        canTransitionOperation operation.status .unknown = true ∧
        Storable (giveUp operation now) ∧ database.operation operation.operationID ≠ none ∧
        next = database.writeOperation (giveUp operation now) := by
  simp only [markUnknown, bind_eq_ok, getOperationTx_eq_ok, refuse_eq_ok, saveOperationTx_eq_ok,
    pure_eq_ok, Prod.mk.injEq, not_not]
  constructor
  · rintro ⟨operation, found, _, allowed, _, ⟨storable, present, rfl⟩, -, same⟩
    exact ⟨operation, found, allowed, storable, present, same.symm⟩
  · rintro ⟨operation, found, allowed, storable, present, same⟩
    exact ⟨operation, found, (), allowed, _, ⟨storable, present, rfl⟩, trivial, same.symm⟩

theorem transitionOperation_eq_ok {status : OperationStatus} {verification : VerificationStatus}
    {maintenanceReleased : Bool}
    (run : transitionOperation operationID status verification maintenanceReleased now database =
      .ok (done, next)) :
    ∃ operation, database.operation operationID = some operation ∧
      canTransitionOperation operation.status status = true ∧
      (status = .succeeded → verificationAllowsSuccess verification maintenanceReleased = true) ∧
      database.operation operation.operationID ≠ none ∧
      next = database.writeOperation (moveTo operation status verification now) := by
  simp only [transitionOperation, bind_eq_ok, getOperationTx_eq_ok, refuse_eq_ok,
    saveOperationTx_eq_ok, pure_eq_ok, Prod.mk.injEq, not_not, not_and] at run
  obtain ⟨operation, found, _, allowed, _, verified, _, ⟨-, present, rfl⟩, -, same⟩ := run
  exact ⟨operation, found, allowed, verified, present, same.symm⟩

/-! ### The operation an attempt leaves -/

variable {event : AttemptEvent} {attempt : StepAttempt} {operation : Operation}

@[simp] theorem settleStatus_operationID :
    (settleStatus event attempt operation).operationID = operation.operationID := by
  unfold settleStatus
  split <;> split <;> rfl

@[simp] theorem settleStatus_intentID :
    (settleStatus event attempt operation).intentID = operation.intentID := by
  unfold settleStatus
  split <;> split <;> rfl

@[simp] theorem settleStatus_enrollmentID :
    (settleStatus event attempt operation).enrollmentID = operation.enrollmentID := by
  unfold settleStatus
  split <;> split <;> rfl

@[simp] theorem settleStatus_attempts :
    (settleStatus event attempt operation).attempts = operation.attempts := by
  unfold settleStatus
  split <;> split <;> rfl

@[simp] theorem settleStatus_ownershipReleased :
    (settleStatus event attempt operation).ownershipReleased = operation.ownershipReleased := by
  unfold settleStatus
  split <;> split <;> rfl

theorem settleStatus_dispatched (attempt : StepAttempt) (now : Time) (operation : Operation) :
    settleStatus .dispatchPossible (touchAttempt (dispatchedAttempt attempt) now) operation =
      operation := by
  simp [settleStatus, touchAttempt, dispatchedAttempt]

theorem settleStatus_status :
    (settleStatus event attempt operation).status = operation.status ∨
      (settleStatus event attempt operation).status.Unresolved := by
  unfold settleStatus OperationStatus.Unresolved
  split <;> split <;> simp

theorem settleStatus_unresolved (unresolved : operation.status.Unresolved) :
    (settleStatus event attempt operation).status.Unresolved := by
  have cases : (settleStatus event attempt operation).status = operation.status ∨
      (settleStatus event attempt operation).status.Unresolved := settleStatus_status
  exact cases.elim (fun same => same ▸ unresolved) id

end Store

end GuardedAgentRunner
