/-
This file states what the store is for, without tables, columns or texts: a
ledger of intents, decisions, operations and backups, each a partial function of
an identifier, and one relation that says everything a transaction may do to it.
Every invariant of the store is proved from this relation; the refinement proof
shows that each committed transaction of the store is a step of the ledger.
-/

import GuardedAgentRunner.Journal
import GuardedAgentRunner.Library.Positions

namespace GuardedAgentRunner

open Store Function

/-- The journal as its users see it. -/
@[ext]
structure Ledger where
  intents : String → Option IntentRecord
  approvals : String → Option Approval
  operations : String → Option Operation
  backups : String → Option BackupRecord

/-- The ledger a database stands for. -/
def Database.ledger (database : Database) : Ledger :=
  ⟨database.intent, database.approval, database.operation, database.backup⟩

/-- The calls that may answer from what is already there. -/
def StoreCall.answersFromJournal : StoreCall → Bool
  | .putIntent .. | .approveIntent .. | .rejectIntent .. | .getIntent .. | .getOperation ..
  | .getBackup .. => true
  | _ => false

/-- The calls that change one operation and nothing else. -/
def StoreCall.changesOperation : StoreCall → Bool
  | .prepareStep .. | .markDispatchPossible .. | .recordStepObservation .. | .markUnknown ..
  | .transitionOperation .. => true
  | _ => false

namespace Ledger

variable (codec : Codec)

/-- The way one call may change one operation. -/
inductive OperationMove (before : Ledger) : StoreCall → Operation → Operation → Prop
  | aborted {operation : Operation} {expectedDigest actor : String} {osUID : Int} {now : Time}
      (unstarted : Unstarted operation) :
      OperationMove before
        (.revokeIntent operation.intentID expectedDigest actor osUID now) operation
        (abort operation now)
  | prepared {operation : Operation} {record : IntentRecord} {stepKind : StepKind}
      {stepID : String} {now : Time}
      (found : before.intents operation.intentID = some record)
      (preparable : Preparable codec record operation stepKind)
      (fresh : ∀ id other, before.operations id = some other →
        ∀ attempt ∈ other.attempts, attempt.stepID ≠ stepID) :
      OperationMove before (.prepareStep operation.operationID stepKind now) operation
        (appendAttempt operation (newAttempt stepID stepKind operation.attempts now) now)
  | dispatched {operation : Operation} {record : IntentRecord} {stepID : String} {index : Nat}
      {current : StepAttempt} {now : Time}
      (found : before.intents operation.intentID = some record)
      (dispatchable : Dispatchable record.status operation)
      (located : Located operation.attempts stepID index current)
      (undispatched : current.dispatchState = .notDispatched)
      (unapplied : current.effectState = .provenNotApplied) :
      OperationMove before (.markDispatchPossible operation.operationID stepID now) operation
        (replaceAttempt operation index (touchAttempt (dispatchedAttempt current) now) now)
  | observed {operation : Operation} {stepID : String} {index : Nat} {current : StepAttempt}
      {effect : EffectState} {attribution : Attribution} {evidence : List String} {now : Time}
      (located : Located operation.attempts stepID index current)
      (dispatched : current.dispatchState = .dispatchPossible ∨
        current.dispatchState = .acknowledged)
      (recordable : effect ∈ recordableEffects) :
      OperationMove before
        (.recordStepObservation operation.operationID stepID effect attribution evidence now)
        operation
        (settleStatus .observed
          (touchAttempt (observedAttempt effect attribution evidence current) now)
          (replaceAttempt operation index
            (touchAttempt (observedAttempt effect attribution evidence current) now) now))
  | gaveUp {operation : Operation} {now : Time}
      (allowed : canTransitionOperation operation.status .unknown = true) :
      OperationMove before (.markUnknown operation.operationID now) operation
        (giveUp operation now)
  | transitioned {operation : Operation} {status : OperationStatus}
      {verification : VerificationStatus} {maintenanceReleased : Bool} {now : Time}
      (allowed : canTransitionOperation operation.status status = true)
      (verified : status = .succeeded →
        verificationAllowsSuccess verification maintenanceReleased = true) :
      OperationMove before
        (.transitionOperation operation.operationID status verification maintenanceReleased now)
        operation (moveTo operation status verification now)
  | completed {operation : Operation} {record : BackupRecord} {intent : IntentRecord}
      {step : StepAttempt} {backupID digest : String} {size : Int}
      {ready : BackupReadyEvidence} {now : Time}
      (backup : before.backups backupID = some record)
      (owner : record.operationID = operation.operationID)
      (found : before.intents operation.intentID = some intent)
      (completable : Completable codec record digest size ready intent.intent operation step now) :
      OperationMove before (.completeBackup backupID digest size ready now) operation
        (replaceAttempt operation 5 (completedAttempt step backupID digest now) now)

/-- What an approval that takes the writer relies on. -/
structure Approves (before : Ledger) (ids : NewIDs) (intentID expectedDigest : String)
    (now : Time) (record : IntentRecord) : Prop where
  found : before.intents intentID = some record
  undecided : before.approvals intentID = none
  approvable : Approvable codec record expectedDigest now
  free : ∀ id operation, before.operations id = some operation →
    operation.enrollmentID = record.intent.enrollmentID → operation.ownershipReleased = true
  unopened : ∀ id operation, before.operations id = some operation →
    operation.intentID ≠ intentID
  fresh : before.operations ids.operation = none

/-- Everything a committed call may do to the ledger. -/
inductive Step (before : Ledger) : StoreCall → Ledger → Prop
  | answered {call : StoreCall} (answers : call.answersFromJournal = true) :
      Step before call before
  | proposed {record : IntentRecord}
      (fresh : before.intents record.intent.intentID = none) :
      Step before (.putIntent record)
        { before with
          intents := update before.intents record.intent.intentID (some record) }
  | approved {record : IntentRecord} {ids : NewIDs} {intentID expectedDigest approver : String}
      {osUID : Int} {now : Time}
      (approves : Approves codec before ids intentID expectedDigest now record) :
      Step before (.approveIntent intentID expectedDigest approver osUID now)
        { before with
          intents := update before.intents intentID
            (some (settle record .consumed now))
          approvals := update before.approvals intentID
            (some (newApproval ids intentID expectedDigest approver osUID .approved now))
          operations := update before.operations ids.operation
            (some (newOperation ids intentID expectedDigest record.intent.enrollmentID now)) }
  | rejected {record : IntentRecord} {ids : NewIDs} {intentID expectedDigest approver : String}
      {osUID : Int} {now : Time}
      (found : before.intents intentID = some record)
      (undecided : before.approvals intentID = none)
      (awaiting : record.status = .awaitingApproval) :
      Step before (.rejectIntent intentID expectedDigest approver osUID now)
        { before with
          intents := update before.intents intentID
            (some (settle record .rejected now))
          approvals := update before.approvals intentID
            (some (newApproval ids intentID expectedDigest approver osUID .rejected now)) }
  | revoked {record : IntentRecord} {intentID expectedDigest actor : String} {osUID : Int}
      {now : Time}
      (found : before.intents intentID = some record)
      (revocable : ¬ IrrevocableStatus record.status)
      (started : ∀ id operation, before.operations id = some operation →
        operation.intentID = intentID → ¬ Unstarted operation) :
      Step before (.revokeIntent intentID expectedDigest actor osUID now)
        { before with
          intents := update before.intents intentID
            (some (settle record .revoked now)) }
  | aborted {record : IntentRecord} {operation : Operation}
      {intentID expectedDigest actor : String} {osUID : Int} {now : Time}
      (found : before.intents intentID = some record)
      (revocable : ¬ IrrevocableStatus record.status)
      (opened : before.operations operation.operationID = some operation)
      (owner : operation.intentID = intentID)
      (unstarted : Unstarted operation) :
      Step before (.revokeIntent intentID expectedDigest actor osUID now)
        { before with
          intents := update before.intents intentID
            (some (settle record .revoked now))
          operations := update before.operations operation.operationID
            (some (abort operation now)) }
  | moved {call : StoreCall} {operation next : Operation}
      (alone : call.changesOperation = true)
      (opened : before.operations operation.operationID = some operation)
      (move : OperationMove codec before call operation next) :
      Step before call
        { before with
          operations := update before.operations operation.operationID (some next) }
  | reserved {record : BackupRecord} {operation : Operation} {intent : IntentRecord} {now : Time}
      (opened : before.operations record.operationID = some operation)
      (found : before.intents operation.intentID = some intent)
      (reservable : Reservable codec record intent.intent operation now)
      (fresh : before.backups record.backupID = none)
      (first : ∀ id other, before.backups id = some other →
        other.operationID ≠ record.operationID) :
      Step before (.reserveBackup record now)
        { before with
          backups := update before.backups record.backupID (some record) }
  | advanced {record : BackupRecord} {backupID : String} {status : BackupStatus} {now : Time}
      (backup : before.backups backupID = some record)
      (allowed : allowedTransition record.status status = true) :
      Step before (.transitionBackupStatus backupID status now)
        { before with
          backups := update before.backups backupID
            (some { record with status := status }) }
  | completed {record : BackupRecord} {operation : Operation} {intent : IntentRecord}
      {step : StepAttempt} {backupID digest : String} {size : Int}
      {ready : BackupReadyEvidence} {now : Time}
      (backup : before.backups backupID = some record)
      (opened : before.operations operation.operationID = some operation)
      (owner : record.operationID = operation.operationID)
      (found : before.intents operation.intentID = some intent)
      (completable : Completable codec record digest size ready intent.intent operation step now) :
      Step before (.completeBackup backupID digest size ready now)
        { before with
          operations := update before.operations operation.operationID
            (some (replaceAttempt operation 5 (completedAttempt step backupID digest now) now))
          backups := update before.backups backupID
            (some (completedRecord record digest size ready now)) }

/-! ### The effect of a step on one record -/

variable {codec} {before after : Ledger} {call : StoreCall} {now : Time}

/-- What a step does to the operation under one identifier: nothing, one move, or the opening
of a new operation by an approval. -/
theorem Step.operation_cases (step : Step codec before call after) (id : String) :
    after.operations id = before.operations id ∨
      (∃ operation next, before.operations id = some operation ∧ operation.operationID = id ∧
        after.operations id = some next ∧ OperationMove codec before call operation next) ∨
      ∃ ids intentID expectedDigest approver osUID now record,
        call = .approveIntent intentID expectedDigest approver osUID now ∧ id = ids.operation ∧
        Approves codec before ids intentID expectedDigest now record ∧
        after.operations id =
          some (newOperation ids intentID expectedDigest record.intent.enrollmentID now) := by
  cases step with
  | answered | proposed | rejected | revoked | reserved | advanced => exact Or.inl rfl
  | @approved record ids intentID expectedDigest approver osUID now approves =>
    by_cases same : id = ids.operation
    · refine Or.inr (Or.inr ⟨ids, intentID, expectedDigest, approver, osUID, now, record, rfl, same,
        approves, ?_⟩)
      rw [same]
      exact update_self ..
    · exact Or.inl (update_of_ne same ..)
  | @aborted record operation intentID expectedDigest actor osUID now _ _ opened owner unstarted =>
    by_cases same : id = operation.operationID
    · subst same owner
      exact Or.inr (Or.inl ⟨operation, _, opened, rfl, update_self .., .aborted unstarted⟩)
    · exact Or.inl (update_of_ne same ..)
  | @moved _ operation next _ opened move =>
    by_cases same : id = operation.operationID
    · subst same
      exact Or.inr (Or.inl ⟨operation, next, opened, rfl, update_self .., move⟩)
    · exact Or.inl (update_of_ne same ..)
  | @completed record operation intent step backupID digest size ready now backup opened owner
      found completable =>
    by_cases same : id = operation.operationID
    · subst same
      exact Or.inr (Or.inl ⟨operation, _, opened, rfl, update_self ..,
        .completed backup owner found completable⟩)
    · exact Or.inl (update_of_ne same ..)

/-- The way one call may change one intent. -/
inductive IntentMove (codec : Codec) (before : Ledger) :
    String → StoreCall → IntentRecord → IntentRecord → Prop
  | consumed {record : IntentRecord} {ids : NewIDs} {intentID expectedDigest approver : String}
      {osUID : Int} {now : Time}
      (approves : Approves codec before ids intentID expectedDigest now record) :
      IntentMove codec before intentID
        (.approveIntent intentID expectedDigest approver osUID now) record
        (settle record .consumed now)
  | rejected {record : IntentRecord} {intentID expectedDigest approver : String} {osUID : Int}
      {now : Time} (awaiting : record.status = .awaitingApproval) :
      IntentMove codec before intentID
        (.rejectIntent intentID expectedDigest approver osUID now) record
        (settle record .rejected now)
  | revoked {record : IntentRecord} {intentID expectedDigest actor : String} {osUID : Int}
      {now : Time} (revocable : ¬ IrrevocableStatus record.status) :
      IntentMove codec before intentID
        (.revokeIntent intentID expectedDigest actor osUID now) record
        (settle record .revoked now)

/-- What a step does to one intent: nothing, one decision, or its proposal. -/
theorem Step.intent_cases (step : Step codec before call after) (id : String) :
    after.intents id = before.intents id ∨
      (∃ record next, before.intents id = some record ∧ after.intents id = some next ∧
        IntentMove codec before id call record next) ∨
      ∃ record, call = .putIntent record ∧ id = record.intent.intentID ∧
        before.intents id = none ∧ after.intents id = some record := by
  cases step with
  | answered | moved | reserved | advanced | completed => exact Or.inl rfl
  | @proposed record fresh =>
    by_cases same : id = record.intent.intentID
    · subst same
      exact Or.inr (Or.inr ⟨record, rfl, rfl, fresh, update_self ..⟩)
    · exact Or.inl (update_of_ne same ..)
  | @approved record ids intentID _ _ _ _ approves =>
    by_cases same : id = intentID
    · subst same
      exact Or.inr (Or.inl ⟨record, _, approves.found, update_self .., .consumed approves⟩)
    · exact Or.inl (update_of_ne same ..)
  | @rejected record ids intentID _ _ _ _ found _ awaiting =>
    by_cases same : id = intentID
    · subst same
      exact Or.inr (Or.inl ⟨record, _, found, update_self .., .rejected awaiting⟩)
    · exact Or.inl (update_of_ne same ..)
  | @revoked record intentID _ _ _ _ found revocable
  | @aborted record _ intentID _ _ _ _ found revocable =>
    by_cases same : id = intentID
    · subst same
      exact Or.inr (Or.inl ⟨record, _, found, update_self .., .revoked revocable⟩)
    · exact Or.inl (update_of_ne same ..)

/-- The way one call may change one backup. -/
inductive BackupMove (codec : Codec) (before : Ledger) :
    String → StoreCall → BackupRecord → BackupRecord → Prop
  | advanced {record : BackupRecord} {backupID : String} {status : BackupStatus} {now : Time}
      (allowed : allowedTransition record.status status = true) :
      BackupMove codec before backupID (.transitionBackupStatus backupID status now) record
        { record with status := status }
  | completed {record : BackupRecord} {operation : Operation} {intent : IntentRecord}
      {step : StepAttempt} {backupID digest : String} {size : Int}
      {ready : BackupReadyEvidence} {now : Time}
      (opened : before.operations operation.operationID = some operation)
      (owner : record.operationID = operation.operationID)
      (found : before.intents operation.intentID = some intent)
      (completable : Completable codec record digest size ready intent.intent operation step now) :
      BackupMove codec before backupID (.completeBackup backupID digest size ready now) record
        (completedRecord record digest size ready now)

/-- What a reservation relies on. -/
structure Reserves (codec : Codec) (before : Ledger) (record : BackupRecord)
    (operation : Operation) (intent : IntentRecord) (now : Time) : Prop where
  opened : before.operations record.operationID = some operation
  found : before.intents operation.intentID = some intent
  reservable : Reservable codec record intent.intent operation now
  fresh : before.backups record.backupID = none
  first : ∀ id other, before.backups id = some other → other.operationID ≠ record.operationID

/-- What a step does to one backup: nothing, one move, or its reservation. -/
theorem Step.backup_cases (step : Step codec before call after) (id : String) :
    after.backups id = before.backups id ∨
      (∃ record next, before.backups id = some record ∧ after.backups id = some next ∧
        BackupMove codec before id call record next) ∨
      ∃ record operation intent now, call = .reserveBackup record now ∧ id = record.backupID ∧
        after.backups id = some record ∧ Reserves codec before record operation intent now := by
  cases step with
  | answered | proposed | approved | rejected | revoked | aborted | moved => exact Or.inl rfl
  | @reserved record operation intent now opened found reservable fresh first =>
    by_cases same : id = record.backupID
    · subst same
      exact Or.inr (Or.inr ⟨record, operation, intent, now, rfl, rfl, update_self ..,
        ⟨opened, found, reservable, fresh, first⟩⟩)
    · exact Or.inl (update_of_ne same ..)
  | @advanced record backupID status now backup allowed =>
    by_cases same : id = backupID
    · subst same
      exact Or.inr (Or.inl ⟨record, _, backup, update_self .., .advanced allowed⟩)
    · exact Or.inl (update_of_ne same ..)
  | @completed record operation intent step backupID _ _ _ _ backup opened owner found
      completable =>
    by_cases same : id = backupID
    · subst same
      exact Or.inr (Or.inl ⟨record, _, backup, update_self ..,
        .completed opened owner found completable⟩)
    · exact Or.inl (update_of_ne same ..)

theorem Step.reserved_backup {record : BackupRecord}
    (step : Step codec before (.reserveBackup record now) after) :
    before.backups record.backupID = none ∧ after.backups record.backupID = some record := by
  cases step with
  | answered answers => cases answers
  | moved alone => cases alone
  | reserved _ _ _ fresh => exact ⟨fresh, update_self ..⟩

theorem Step.opened_unique (step : Step codec before call after) {firstID secondID : String}
    (firstNew : before.operations firstID = none) (secondNew : before.operations secondID = none)
    (firstOpened : after.operations firstID ≠ none)
    (secondOpened : after.operations secondID ≠ none) : firstID = secondID := by
  have rewriting : ∀ {id : String} {operation successor : Operation},
      before.operations operation.operationID = some operation → before.operations id = none →
      update before.operations operation.operationID (some successor) id = none := by
    intro id operation successor present absent
    rw [update_of_ne, absent]
    rintro rfl
    rw [present] at absent
    cases absent
  cases step with
  | answered | proposed | rejected | revoked | reserved | advanced =>
    exact absurd firstNew firstOpened
  | aborted _ _ opened | moved _ opened | completed _ opened =>
    exact absurd (rewriting opened firstNew) firstOpened
  | @approved record ids =>
    have isNew : ∀ id opened, before.operations id = none →
        update before.operations ids.operation opened id ≠ none →
          id = ids.operation := by
      intro id opened absent present
      by_contra other
      exact present (by rw [update_of_ne other, absent])
    rw [isNew firstID _ firstNew firstOpened, isNew secondID _ secondNew secondOpened]

/-! ### What no move changes -/

variable {operation next : Operation}

/-- The fields of an operation that are fixed when it is opened. -/
structure SameIdentity (operation next : Operation) : Prop where
  operationID : next.operationID = operation.operationID
  intentID : next.intentID = operation.intentID
  intentDigest : next.intentDigest = operation.intentDigest
  enrollmentID : next.enrollmentID = operation.enrollmentID

variable {attempt : StepAttempt} {position : Nat} {record : IntentRecord} {id : String}

theorem settleStatus_identity {event : AttemptEvent} :
    SameIdentity operation (settleStatus event attempt operation) := by
  unfold settleStatus
  split <;> split <;> exact ⟨rfl, rfl, rfl, rfl⟩

theorem OperationMove.sameIdentity (move : OperationMove codec before call operation next) :
    SameIdentity operation next := by
  cases move with
  | aborted | prepared | dispatched | gaveUp | transitioned | completed =>
    exact ⟨rfl, rfl, rfl, rfl⟩
  | observed located =>
    obtain ⟨operationID, intentID, intentDigest, enrollmentID⟩ := settleStatus_identity
    exact ⟨operationID, intentID, intentDigest, enrollmentID⟩

/-- What an attempt keeps: the fields that are fixed when it is prepared, and that it may have
been dispatched. -/
structure SameStep (attempt next : StepAttempt) : Prop where
  stepID : next.stepID = attempt.stepID
  stepKind : next.stepKind = attempt.stepKind
  attemptNo : next.attemptNo = attempt.attemptNo
  preparedAt : next.preparedAt = attempt.preparedAt
  dispatched : attempt.dispatchState ≠ .notDispatched → next.dispatchState ≠ .notDispatched

theorem SameStep.refl (attempt : StepAttempt) : SameStep attempt attempt :=
  ⟨rfl, rfl, rfl, rfl, id⟩

theorem SameStep.trans {first second third : StepAttempt} (early : SameStep first second)
    (late : SameStep second third) : SameStep first third :=
  ⟨late.stepID.trans early.stepID, late.stepKind.trans early.stepKind,
    late.attemptNo.trans early.attemptNo, late.preparedAt.trans early.preparedAt,
    late.dispatched ∘ early.dispatched⟩

theorem sameStep_replace {index : Nat} {current replacement : StepAttempt}
    (found : operation.attempts[index]? = some current) (same : SameStep current replacement)
    (present : operation.attempts[position]? = some attempt) :
    ∃ later, (replaceAttempt operation index replacement now).attempts[position]? = some later ∧
      SameStep attempt later := by
  by_cases here : index = position
  · subst here
    obtain rfl := Option.mem_unique found present
    exact ⟨replacement, Positions.set_of_present present, same⟩
  · exact ⟨attempt, (List.getElem?_set_ne here).trans present, .refl attempt⟩

/-- No move removes, reorders or renames an attempt. -/
theorem OperationMove.sameStep (move : OperationMove codec before call operation next)
    (present : operation.attempts[position]? = some attempt) :
    ∃ later, next.attempts[position]? = some later ∧ SameStep attempt later := by
  cases move with
  | aborted | gaveUp | transitioned => exact ⟨attempt, present, .refl attempt⟩
  | prepared => exact ⟨attempt, Positions.concat_of_present present, .refl attempt⟩
  | dispatched _ _ located =>
    refine sameStep_replace located.2 ?_ present
    exact ⟨rfl, rfl, rfl, rfl, fun _ => nofun⟩
  | observed located =>
    rw [settleStatus_attempts]
    refine sameStep_replace located.2 ?_ present
    refine ⟨rfl, rfl, rfl, rfl, fun possible => ?_⟩
    dsimp only [touchAttempt, observedAttempt]
    split
    · nofun
    · exact possible
  | completed _ _ _ completable =>
    refine sameStep_replace completable.writer.sixth ?_ present
    exact ⟨rfl, rfl, rfl, rfl, fun _ => nofun⟩

/-- The later version of an operation keeps its identity and every attempt's step. -/
structure Continues (operation later : Operation) : Prop where
  identity : SameIdentity operation later
  steps : ∀ (position : Nat) (attempt : StepAttempt),
    operation.attempts[position]? = some attempt →
      ∃ next, later.attempts[position]? = some next ∧ SameStep attempt next

theorem Continues.refl (operation : Operation) : Continues operation operation :=
  ⟨⟨rfl, rfl, rfl, rfl⟩, fun _ attempt present => ⟨attempt, present, .refl attempt⟩⟩

theorem Step.operation_continues (step : Step codec before call after)
    (found : before.operations id = some operation) :
    ∃ later, after.operations id = some later ∧ Continues operation later := by
  rcases step.operation_cases id with same | ⟨stored, next, present, -, now, move⟩ |
    ⟨_, _, _, _, _, _, _, -, rfl, approves, -⟩
  · exact ⟨operation, same.trans found, .refl operation⟩
  · rw [found] at present
    cases present
    exact ⟨next, now, move.sameIdentity, fun _ _ present => move.sameStep present⟩
  · have fresh := approves.fresh
    rw [found] at fresh
    cases fresh

/-- No step removes an intent or changes its sealed contents. -/
theorem Step.intent_continues (step : Step codec before call after)
    (found : before.intents id = some record) :
    ∃ later, after.intents id = some later ∧ later.intent = record.intent := by
  rcases step.intent_cases id with same | ⟨stored, next, present, now, move⟩ |
    ⟨_, -, -, absent, -⟩
  · exact ⟨record, same.trans found, rfl⟩
  · rw [found] at present
    cases present
    cases move <;> exact ⟨_, now, rfl⟩
  · rw [found] at absent
    cases absent

theorem Continues.trans {first second third : Operation} (early : Continues first second)
    (late : Continues second third) : Continues first third where
  identity := ⟨late.identity.operationID.trans early.identity.operationID,
    late.identity.intentID.trans early.identity.intentID,
    late.identity.intentDigest.trans early.identity.intentDigest,
    late.identity.enrollmentID.trans early.identity.enrollmentID⟩
  steps position attempt present := by
    obtain ⟨middle, middlePresent, first⟩ := early.steps position attempt present
    obtain ⟨last, lastPresent, second⟩ := late.steps position middle middlePresent
    exact ⟨last, lastPresent, first.trans second⟩

/-- Nothing was removed, and what is fixed when it is created is as it was. -/
structure Persists (before after : Ledger) : Prop where
  operations : ∀ id operation, before.operations id = some operation →
    ∃ later, after.operations id = some later ∧ Continues operation later
  intents : ∀ id record, before.intents id = some record →
    ∃ later, after.intents id = some later ∧ later.intent = record.intent

theorem Persists.refl (ledger : Ledger) : Persists ledger ledger :=
  ⟨fun _ operation found => ⟨operation, found, .refl operation⟩,
    fun _ record found => ⟨record, found, rfl⟩⟩

theorem Persists.trans {first second third : Ledger} (early : Persists first second)
    (late : Persists second third) : Persists first third where
  operations id operation found := by
    obtain ⟨middle, middleFound, continues⟩ := early.operations id operation found
    obtain ⟨later, laterFound, continuesLater⟩ := late.operations id middle middleFound
    exact ⟨later, laterFound, continues.trans continuesLater⟩
  intents id record found := by
    obtain ⟨middle, middleFound, same⟩ := early.intents id record found
    obtain ⟨later, laterFound, sameLater⟩ := late.intents id middle middleFound
    exact ⟨later, laterFound, sameLater.trans same⟩

theorem Step.persists (step : Step codec before call after) : Persists before after :=
  ⟨fun _ _ => step.operation_continues, fun _ _ => step.intent_continues⟩

/-- The attempts of every operation follow the steps of its sealed intent. -/
def FollowsIntents (ledger : Ledger) : Prop :=
  ∀ id operation, ledger.operations id = some operation →
    ∃ record, ledger.intents operation.intentID = some record ∧
      ∀ (position : Nat) (attempt : StepAttempt), operation.attempts[position]? = some attempt →
        record.intent.steps.items[position]? = some attempt.stepKind

theorem OperationMove.attempts_cases (move : OperationMove codec before call operation next) :
    next.attempts.length = operation.attempts.length ∨
      ∃ record stepKind stepID now, before.intents operation.intentID = some record ∧
        Preparable codec record operation stepKind ∧
        next.attempts =
          operation.attempts ++ [newAttempt stepID stepKind operation.attempts now] := by
  cases move with
  | aborted | gaveUp | transitioned => exact Or.inl rfl
  | @prepared _ record stepKind stepID now found preparable =>
    exact Or.inr ⟨record, stepKind, stepID, now, found, preparable, rfl⟩
  | dispatched | completed => exact Or.inl List.length_set
  | observed =>
    rw [settleStatus_attempts]
    exact Or.inl List.length_set

theorem OperationMove.followsIntent (move : OperationMove codec before call operation next)
    (found : before.intents operation.intentID = some record)
    (follows : ∀ (position : Nat) (attempt : StepAttempt),
      operation.attempts[position]? = some attempt →
        record.intent.steps.items[position]? = some attempt.stepKind)
    (present : next.attempts[position]? = some attempt) :
    record.intent.steps.items[position]? = some attempt.stepKind := by
  have kept : ∀ {earlier : StepAttempt}, operation.attempts[position]? = some earlier →
      record.intent.steps.items[position]? = some attempt.stepKind := by
    intro earlier earlierPresent
    obtain ⟨later, laterPresent, same⟩ := move.sameStep earlierPresent
    rw [present] at laterPresent
    cases laterPresent
    rw [same.stepKind]
    exact follows position earlier earlierPresent
  rcases move.attempts_cases with length |
    ⟨stored, stepKind, stepID, now, isStored, preparable, appended⟩
  · have inside := (List.getElem?_eq_some_iff.mp present).1
    rw [length] at inside
    exact kept (List.getElem?_eq_getElem inside)
  · obtain rfl := Option.mem_unique isStored found
    rw [appended] at present
    rcases Positions.concat_eq_some.mp present with earlier | ⟨rfl, rfl⟩
    · exact kept earlier
    · exact preparable.nextStep

/-- What every operation has in common with its intent stays so where a move keeps it and the
operation that an approval opens has it. -/
theorem Step.operations_agree (agrees : ChangeIntent → Operation → Prop)
    (step : Step codec before call after)
    (agree : ∀ id operation, before.operations id = some operation →
      ∃ record, before.intents operation.intentID = some record ∧ agrees record.intent operation)
    (moves : ∀ {operation next : Operation} {record : IntentRecord},
      OperationMove codec before call operation next →
      before.intents operation.intentID = some record → agrees record.intent operation →
        agrees record.intent next)
    (opens : ∀ {ids intentID expectedDigest now record},
      Approves codec before ids intentID expectedDigest now record → agrees record.intent
        (newOperation ids intentID expectedDigest record.intent.enrollmentID now)) :
    ∀ id operation, after.operations id = some operation →
      ∃ record, after.intents operation.intentID = some record ∧
        agrees record.intent operation := by
  intro id operation present
  rcases step.operation_cases id with same | ⟨stored, moved, earlier, -, now, move⟩ |
    ⟨ids, intentID, _, _, _, _, record, -, -, approves, now⟩
  · obtain ⟨record, found, holds⟩ := agree id operation (same.symm.trans present)
    obtain ⟨later, laterFound, kept⟩ := step.intent_continues found
    exact ⟨later, laterFound, kept ▸ holds⟩
  · obtain rfl : moved = operation := Option.mem_unique now present
    obtain ⟨record, found, holds⟩ := agree id stored earlier
    obtain ⟨later, laterFound, kept⟩ := step.intent_continues found
    refine ⟨later, ?_, kept ▸ moves move found holds⟩
    rw [move.sameIdentity.intentID]
    exact laterFound
  · obtain rfl := Option.mem_unique now present
    obtain ⟨later, laterFound, kept⟩ := step.intent_continues approves.found
    refine ⟨later, laterFound, ?_⟩
    rw [kept]
    exact opens approves

theorem FollowsIntents.step (follows : FollowsIntents before)
    (step : Step codec before call after) : FollowsIntents after :=
  step.operations_agree (fun intent operation => ∀ (position : Nat) (attempt : StepAttempt),
      operation.attempts[position]? = some attempt →
        intent.steps.items[position]? = some attempt.stepKind) follows
    (fun move found steps _ _ here => move.followsIntent found steps here)
    fun _ _ _ here => nomatch here

end Ledger

end GuardedAgentRunner
