/-
This file models the store's transactions on intents: freezing a proposal, and
the operator's three decisions on it. Each is a function from the database at
the start of the transaction to its result and the database it commits; an
error is a rolled-back transaction. Identifiers are drawn by the caller. Every
transaction comes with the inversion of a successful run.
-/

import GuardedAgentRunner.Schema

namespace GuardedAgentRunner

open Fallible Database

/-- The identifiers `NewID` returns during one transaction. -/
structure NewIDs where
  approval : String
  operation : String
  step : String
  deriving DecidableEq, Repr

namespace Store

/-! ### Proposals -/

/-- `GetIntent`. -/
def getIntent (intentID : String) (database : Database) : Except Failure IntentRecord :=
  demand (database.intent intentID) (newError .notFound "intent not found")

/-- `GetIntentByClientKey`. -/
def getIntentByClientKey (principalID enrollmentID key : String) (database : Database) :
    Except Failure IntentRecord :=
  demand
    ((database.intents.find fun row => row.principalID = principalID ∧
      row.enrollmentID = enrollmentID ∧ row.clientRequestID = key).map (·.payload))
    (newError .notFound "intent not found")

/-- The answer for a key that already identifies an intent. -/
def replayProposal (existing record : IntentRecord) (database : Database) :
    Except Failure ((IntentRecord × Bool) × Database) := do
  refuse (existing.proposalDigest ≠ record.proposalDigest)
    (newError .idempotencyConflict "client_request_id already identifies different proposal bytes")
  pure ((existing, false), database)

/-- `PutIntent`. -/
def putIntent (record : IntentRecord) (database : Database) :
    Except Failure ((IntentRecord × Bool) × Database) :=
  match getIntentByClientKey record.intent.principalID record.intent.enrollmentID
      record.intent.clientRequestID database with
  | .ok existing => replayProposal existing record database
  | .error failure => do
    refuse (failure.codeOf ≠ .notFound) failure
    let payload ← marshal record
    match insertRow database.intents (IntentRow.of payload) with
    | .ok intents => pure ((record, true), { database with intents := intents })
    | .error failure =>
      match getIntentByClientKey record.intent.principalID record.intent.enrollmentID
          record.intent.clientRequestID database with
      | .ok existing => replayProposal existing record database
      | .error _ => .error failure

/-! ### Decisions -/

/-- `activeOwner`: the error code that a busy enrollment answers with. -/
def activeOwner (enrollmentID : String) (database : Database) : Option ErrorCode :=
  (database.operations.find fun row =>
      row.enrollmentID = enrollmentID ∧ row.ownershipReleased = false).map fun row =>
    if row.status.Unresolved then .targetBlockedUnknown else .targetBusy

/-- `lookupExistingApproval`. -/
def lookupExistingApproval (intentID : String) (database : Database) :
    Except Failure (Option (Approval × Operation)) :=
  match database.approval intentID with
  | none => pure none
  | some approval => do
    refuse (approval.decision ≠ .approved)
      (newError .approvalRevoked "intent already has a non-approved operator decision")
    let operation ← demand (database.operationFor intentID) .noRows
    pure (some (approval, operation))

variable (codec : Codec)

/-- `intentForDecision`. -/
def intentForDecision (intentID expectedDigest : String) (database : Database) :
    Except Failure IntentRecord := do
  let record ← getIntent intentID database
  refuse (¬ record.intent.Sealed codec ∨ record.intent.intentDigest ≠ expectedDigest)
    (newError .invalidIntentDigest "operator supplied digest does not match frozen intent")
  pure record

/-- The approval a decision creates. -/
def newApproval (ids : NewIDs) (intentID expectedDigest approver : String) (osUID : Int)
    (decision : Decision) (now : Time) : Approval where
  approvalID := ids.approval
  intentID := intentID
  intentDigest := expectedDigest
  approverPrincipal := approver
  approverOSUID := osUID
  decision := decision
  decidedAt := now

/-- The operation an approval creates. -/
def newOperation (ids : NewIDs) (intentID expectedDigest enrollmentID : String) (now : Time) :
    Operation where
  operationID := ids.operation
  intentID := intentID
  intentDigest := expectedDigest
  enrollmentID := enrollmentID
  executionEpoch := now.unixNano
  status := .queued
  verification := .notStarted
  ownershipReleased := false
  createdAt := now
  updatedAt := now
  attempts := []
  lastError := none

/-- The record of an intent after a decision. -/
def settle (record : IntentRecord) (status : IntentStatus) (now : Time) : IntentRecord :=
  { record with status := status, updatedAt := now }

/-- `ApproveIntent`. -/
def approveIntent (ids : NewIDs) (intentID expectedDigest approver : String) (osUID : Int)
    (now : Time) (database : Database) : Except Failure ((Approval × Operation) × Database) := do
  match ← lookupExistingApproval intentID database with
  | some (approval, operation) =>
    refuse (approval.intentDigest ≠ expectedDigest)
      (newError .invalidIntentDigest "existing approval is bound to a different digest")
    pure ((approval, operation), database)
  | none =>
    let record ← intentForDecision codec intentID expectedDigest database
    refuse (¬ now.Before record.intent.approvalDeadline ∨ ¬ now.Before record.intent.startBefore)
      (newError .approvalExpired "approval or start deadline has elapsed")
    refuse (record.status ≠ .awaitingApproval)
      (newError .approvalRevoked "intent is not awaiting approval")
    match activeOwner record.intent.enrollmentID database with
    | some code =>
      .error (newError code "target ownership is held by another unresolved operation")
    | none =>
      let approval := newApproval ids intentID expectedDigest approver osUID .approved now
      let operation := newOperation ids intentID expectedDigest record.intent.enrollmentID now
      let approvals ← insertRow database.approvals (ApprovalRow.of approval)
      let operations ← insertRow database.operations (OperationRow.of operation)
      let inserted := { database with approvals := approvals, operations := operations }
      appendAuditTx approval
      pure ((approval, operation),
        inserted.writeIntent intentID (settle record .consumed now))

/-- `RejectIntent`. -/
def rejectIntent (ids : NewIDs) (intentID expectedDigest approver : String) (osUID : Int)
    (now : Time) (database : Database) : Except Failure (Approval × Database) :=
  match database.approval intentID with
  | some existing => do
    refuse (existing.intentDigest ≠ expectedDigest ∨ existing.decision ≠ .rejected)
      (newError .approvalRevoked "intent already has a different operator decision")
    pure (existing, database)
  | none => do
    let record ← intentForDecision codec intentID expectedDigest database
    refuse (record.status ≠ .awaitingApproval)
      (newError .approvalRevoked "intent is not awaiting approval")
    let approval := newApproval ids intentID expectedDigest approver osUID .rejected now
    let approvals ← insertRow database.approvals (ApprovalRow.of approval)
    let updated ← updateIntentTx { database with approvals := approvals }
      (settle record .rejected now)
    appendAuditTx approval
    pure (approval, updated)

/-- An operation that never started, aborted. -/
def abort (operation : Operation) (now : Time) : Operation :=
  { operation with status := .aborted, ownershipReleased := true, updatedAt := now }

/-- `RevokeIntent`; the actor and the user identity go to the audit entry only. -/
def revokeIntent (intentID expectedDigest : String) (now : Time) (database : Database) :
    Except Failure (Unit × Database) := do
  let record ← intentForDecision codec intentID expectedDigest database
  refuse (record.status = .rejected ∨ record.status = .expired ∨ record.status = .revoked ∨
      record.status = .cancelled)
    (newError .approvalRevoked "intent is already terminal or revoked")
  let revoked ← updateIntentTx database (settle record .revoked now)
  match revoked.operationFor intentID with
  | none => pure ((), revoked)
  | some operation =>
    if operation.status = .queued ∧ operation.attempts.length = 0 then do
      let saved ← saveOperationTx revoked (abort operation now)
      pure ((), saved)
    else pure ((), revoked)

/-! ### Inversion -/

variable {codec} {ids : NewIDs} {intentID expectedDigest approver : String} {osUID : Int}
  {now : Time} {database next : Database} {result : IntentRecord × Bool} {record : IntentRecord}

theorem replayProposal_eq_ok {existing : IntentRecord}
    (run : replayProposal existing record database = .ok (result, next)) : database = next := by
  simp only [replayProposal, bind_eq_ok, pure_eq_ok, Prod.mk.injEq] at run
  obtain ⟨_, -, -, same⟩ := run
  exact same

/-- In one transaction the second lookup of `PutIntent` finds what the first one found. -/
theorem putIntent_eq (record : IntentRecord) (database : Database) :
    putIntent record database =
      (match getIntentByClientKey record.intent.principalID record.intent.enrollmentID
          record.intent.clientRequestID database with
      | .ok existing => replayProposal existing record database
      | .error _ => do
        let payload ← marshal record
        let intents ← insertRow database.intents (IntentRow.of payload)
        pure ((record, true), { database with intents := intents })) := by
  unfold putIntent
  split
  · rfl
  · rename_i failure missing
    have code : ¬ failure.codeOf ≠ .notFound := by
      obtain ⟨-, rfl⟩ := (demand_eq_error _ _ _).mp missing
      exact not_not.mpr rfl
    rw [refuse, if_neg code]
    cases marshal record with
    | error failure => rfl
    | ok payload =>
      show (match insertRow database.intents (IntentRow.of payload) with
          | .ok _ => _
          | .error _ => _) = (insertRow database.intents (IntentRow.of payload) >>= _)
      cases insertRow database.intents (IntentRow.of payload) with
      | error failure => rfl
      | ok intents => rfl

theorem putIntent_eq_stored {stored : IntentRecord}
    (run : putIntent record database = .ok ((stored, true), next)) :
    stored = record ∧ Storable record ∧
      ∃ intents, database.intents.insert (IntentRow.of record) = some intents ∧
        next = { database with intents := intents } := by
  rw [putIntent_eq] at run
  split at run
  · simp only [replayProposal, bind_eq_ok, pure_eq_ok, Prod.mk.injEq, Bool.false_eq_true, and_false,
      false_and, exists_false] at run
  · simp only [bind_eq_ok, marshal_eq_ok, pure_eq_ok, Prod.mk.injEq] at run
    obtain ⟨_, ⟨storable, rfl⟩, intents, inserted, ⟨rfl, -⟩, rfl⟩ := run
    exact ⟨rfl, storable, intents, (insertRow_eq_ok _ _ _).mp inserted, rfl⟩

theorem putIntent_eq_ok (run : putIntent record database = .ok (result, next)) :
    next = database ∨
      Storable record ∧ ∃ intents, database.intents.insert (IntentRow.of record) = some intents ∧
        next = { database with intents := intents } := by
  rw [putIntent_eq] at run
  split at run
  · exact Or.inl (replayProposal_eq_ok run).symm
  · simp only [bind_eq_ok, marshal_eq_ok, pure_eq_ok, Prod.mk.injEq] at run
    obtain ⟨_, ⟨storable, rfl⟩, intents, inserted, -, rfl⟩ := run
    exact Or.inr ⟨storable, intents, (insertRow_eq_ok _ _ _).mp inserted, rfl⟩

theorem intentForDecision_eq_ok :
    intentForDecision codec intentID expectedDigest database = .ok record ↔
      database.intent intentID = some record ∧ record.intent.Sealed codec ∧
        record.intent.intentDigest = expectedDigest := by
  simp only [intentForDecision, getIntent, bind_eq_ok, demand_eq_ok, refuse_eq_ok, pure_eq_ok,
    not_or, not_not]
  constructor
  · rintro ⟨_, found, _, ⟨isSealed, digest⟩, rfl⟩
    exact ⟨found, isSealed, digest⟩
  · rintro ⟨found, isSealed, digest⟩
    exact ⟨record, found, (), ⟨isSealed, digest⟩, rfl⟩

/-- What an intent must satisfy to be approved. -/
structure Approvable (codec : Codec) (record : IntentRecord) (expectedDigest : String)
    (now : Time) : Prop where
  sealedIntent : record.intent.Sealed codec
  digest : record.intent.intentDigest = expectedDigest
  beforeDeadline : now < record.intent.approvalDeadline
  beforeStart : now < record.intent.startBefore
  awaiting : record.status = .awaitingApproval

/-- A successful `ApproveIntent` replays the approval that exists or takes the writer. -/
theorem approveIntent_eq_ok {result : Approval × Operation}
    (run : approveIntent codec ids intentID expectedDigest approver osUID now database =
      .ok (result, next)) :
    database.approval intentID = some result.1 ∧ result.1.decision = .approved ∧
        database.operationFor intentID = some result.2 ∧ next = database ∨
      ∃ record approvals operations, database.approval intentID = none ∧
        database.intent intentID = some record ∧ Approvable codec record expectedDigest now ∧
        activeOwner record.intent.enrollmentID database = none ∧
        database.approvals.insert (ApprovalRow.of
          (newApproval ids intentID expectedDigest approver osUID .approved now)) =
            some approvals ∧
        database.operations.insert (OperationRow.of
          (newOperation ids intentID expectedDigest record.intent.enrollmentID now)) =
            some operations ∧
        result.2 = newOperation ids intentID expectedDigest record.intent.enrollmentID now ∧
        next = { database with approvals := approvals, operations := operations }.writeIntent
          intentID (settle record .consumed now) := by
  simp only [approveIntent, bind_eq_ok] at run
  obtain ⟨existing, looked, run⟩ := run
  cases existing with
  | some pair =>
    simp only [bind_eq_ok, pure_eq_ok, Prod.mk.injEq] at run
    obtain ⟨_, -, rfl, same⟩ := run
    unfold lookupExistingApproval at looked
    split at looked
    · cases looked
    · rename_i decided
      simp only [bind_eq_ok, refuse_eq_ok, not_not, demand_eq_ok, pure_eq_ok,
        Option.some.injEq] at looked
      obtain ⟨_, approved, _, opened, rfl⟩ := looked
      exact Or.inl ⟨decided, approved, opened, same.symm⟩
  | none =>
    have undecided : database.approval intentID = none := by
      unfold lookupExistingApproval at looked
      split at looked
      · assumption
      · simp only [bind_eq_ok, pure_eq_ok, reduceCtorEq, and_false, exists_false] at looked
    simp only [bind_eq_ok, intentForDecision_eq_ok, refuse_eq_ok, not_or, not_not] at run
    obtain ⟨record, ⟨found, isSealed, digest⟩, _, ⟨deadline, start⟩, _, awaiting, run⟩ := run
    split at run
    · cases run
    · rename_i free
      simp only [bind_eq_ok, insertRow_eq_ok, pure_eq_ok, Prod.mk.injEq] at run
      obtain ⟨approvals, approved, operations, opened, _, -, rfl, same⟩ := run
      exact Or.inr ⟨record, approvals, operations, undecided, found,
        ⟨isSealed, digest, deadline, start, awaiting⟩, free, approved, opened, rfl, same.symm⟩

theorem rejectIntent_eq_ok {result : Approval}
    (run : rejectIntent codec ids intentID expectedDigest approver osUID now database =
      .ok (result, next)) :
    next = database ∨
      ∃ record approvals, database.approval intentID = none ∧
        database.intent intentID = some record ∧ record.intent.intentDigest = expectedDigest ∧
        record.status = .awaitingApproval ∧
        database.approvals.insert (ApprovalRow.of
          (newApproval ids intentID expectedDigest approver osUID .rejected now)) =
            some approvals ∧
        next = { database with approvals := approvals }.writeIntent record.intent.intentID
          (settle record .rejected now) := by
  unfold rejectIntent at run
  split at run
  · simp only [bind_eq_ok, pure_eq_ok, Prod.mk.injEq] at run
    obtain ⟨_, -, -, same⟩ := run
    exact Or.inl same.symm
  · rename_i undecided
    simp only [bind_eq_ok, intentForDecision_eq_ok, refuse_eq_ok, insertRow_eq_ok,
      updateIntentTx_eq_ok, pure_eq_ok, Prod.mk.injEq, not_not] at run
    obtain ⟨record, ⟨found, -, digest⟩, _, awaiting, approvals, decided, _, ⟨-, rfl⟩, _, -, -,
      same⟩ := run
    exact Or.inr ⟨record, approvals, undecided, found, digest, awaiting, decided, same.symm⟩

/-- The statuses that can no longer be revoked. -/
def IrrevocableStatus (status : IntentStatus) : Prop :=
  status = .rejected ∨ status = .expired ∨ status = .revoked ∨ status = .cancelled

/-- The operation was claimed and no step of it was prepared. -/
def Unstarted (operation : Operation) : Prop :=
  operation.status = .queued ∧ operation.attempts = []

/-- A successful `RevokeIntent` revokes the intent and aborts its operation if it is not
started. -/
theorem revokeIntent_eq_ok {result : Unit}
    (run : revokeIntent codec intentID expectedDigest now database = .ok (result, next)) :
    ∃ record, database.intent intentID = some record ∧
      record.intent.intentDigest = expectedDigest ∧ ¬ IrrevocableStatus record.status ∧
      ((∃ operation, database.operationFor intentID = some operation ∧ Unstarted operation ∧
          database.operation operation.operationID ≠ none ∧
          next = (database.writeIntent record.intent.intentID
            (settle record .revoked now)).writeOperation (abort operation now)) ∨
        (∀ operation, database.operationFor intentID = some operation → ¬ Unstarted operation) ∧
          next = database.writeIntent record.intent.intentID (settle record .revoked now)) := by
  simp only [revokeIntent, bind_eq_ok, intentForDecision_eq_ok, refuse_eq_ok,
    updateIntentTx_eq_ok] at run
  obtain ⟨record, ⟨found, -, digest⟩, _, revocable, _, ⟨-, rfl⟩, run⟩ := run
  refine ⟨record, found, digest, revocable, ?_⟩
  have sameOperations : (database.writeIntent (settle record .revoked now).intent.intentID
      (settle record .revoked now)).operationFor = database.operationFor := rfl
  rw [sameOperations] at run
  split at run
  · rename_i absent
    simp only [pure_eq_ok, Prod.mk.injEq] at run
    refine Or.inr ⟨fun operation present => ?_, run.2.symm⟩
    rw [absent] at present
    cases present
  · rename_i operation present
    split at run
    · rename_i unstarted
      simp only [bind_eq_ok, saveOperationTx_eq_ok, pure_eq_ok, Prod.mk.injEq] at run
      obtain ⟨_, ⟨-, stored, rfl⟩, -, same⟩ := run
      exact Or.inl ⟨operation, present,
        ⟨unstarted.1, List.length_eq_zero_iff.mp unstarted.2⟩, stored, same.symm⟩
    · rename_i started
      simp only [pure_eq_ok, Prod.mk.injEq] at run
      refine Or.inr ⟨fun other otherPresent unstarted => started ?_, run.2.symm⟩
      rw [present] at otherPresent
      cases otherPresent
      exact ⟨unstarted.1, by rw [unstarted.2]; rfl⟩

end Store

end GuardedAgentRunner
