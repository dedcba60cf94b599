/-
This file models the store's transactions on backups: reserving the record of
the sixth step, recording its filesystem phases, and committing the verified
metadata together with the completed step.
-/

import GuardedAgentRunner.Evidence
import GuardedAgentRunner.Steps

namespace GuardedAgentRunner

open Fallible Database

namespace Store

/-- `GetBackup`. -/
def getBackup (backupID : String) (database : Database) : Except Failure BackupRecord :=
  demand (database.backup backupID) (newError .notFound "backup not found")

variable (codec : Codec) {status : BackupStatus}

/-! ### Reservation -/

/-- The record names exactly the source artifact of the intent. -/
def namesSource (artifacts : List ArtifactRecord) (intent : ChangeIntent) : Bool :=
  match artifacts with
  | [artifact] =>
    artifact.artifactID = intent.fromArtifactID && artifact.sha256 = intent.fromSHA256 &&
      artifact.pluginID = intent.pluginID
  | _ => false

/-- `ReserveBackup`. -/
def reserveBackup (record : BackupRecord) (now : Time) (database : Database) :
    Except Failure (Unit × Database) := do
  let operation ← database.getOperationTx record.operationID
  refuse (operation.ownershipReleased ∨ operation.status ≠ .executing ∨
      operation.attempts.length ≠ 6)
    (newError .scopeDenied "backup requires the active S05 writer")
  let step ← demand operation.attempts[5]?
    (newError .scopeDenied "backup requires the active S05 writer")
  refuse (step.stepID ≠ record.stepID ∨ step.stepKind ≠ .createBackup ∨
      step.dispatchState ≠ .dispatchPossible)
    (newError .dispatchOutcomeUnknown "backup dispatch not durably prepared")
  let intentRecord ← demand (database.intent operation.intentID) .noRows
  let intent := intentRecord.intent
  let enrollment := record.ready.offline.enrollment
  record.ready.validate codec enrollment intent operation now
  refuse ((record.evidenceLevel ≠ "FAKE_TARGET" ∧ record.evidenceLevel ≠ "LOCAL_PAPER") ∨
      record.backupID ≠ intent.reservedBackupID ∨ record.intentID ≠ intent.intentID ∨
      record.intentDigest ≠ intent.intentDigest ∨ record.enrollmentID ≠ intent.enrollmentID ∨
      record.containerIdentity ≠ intent.containerID ∨
      record.deploymentGeneration ≠ intent.deploymentGeneration ∨
      record.paperTuple ≠ intent.paperTuple ∨ record.targetID ≠ enrollment.targetID ∨
      record.dataRootIdentity ≠ enrollment.dataRootIdentity ∨
      record.bootIDBeforeStop ≠ intent.expectedBootID ∨
      record.sourceInventoryDigest ≠ intent.inventoryDigest ∨
      record.sourceConfigDigest ≠ intent.configDigest ∨
      ¬ namesSource record.sourceArtifacts intent ∨ record.backupRecipeID ≠ backupRecipeID ∨
      record.backupRecipeDigest ≠ intent.backupRecipeDigest ∨
      record.backupRecipeDigest ≠ offlineBackupRecipeDigest codec ∨
      record.status ≠ .reserved ∨ record.consistencyMode ≠ "OFFLINE" ∨
      record.schemaVersion ≠ "gar.backup.v1" ∨ ¬ record.completedAt.IsZero ∨
      ¬ record.digestVerifiedAt.IsZero ∨ record.archiveSHA256 ≠ "" ∨
      record.archiveSizeBytes ≠ 0 ∨ ¬ FreshEvidence record.createdAt now)
    (newError .invalidRequest "backup reservation differs from approved identity or recipe")
  let encoded ← marshal record
  let backups ← insertRow database.backups (BackupRow.of encoded)
  pure ((), { database with backups := backups })

/-! ### Filesystem phases -/

/-- The transitions `TransitionBackupStatus` allows. -/
def allowedTransition : BackupStatus → BackupStatus → Bool
  | .reserved, next => next ∈ [BackupStatus.writing, .failed, .unknown, .orphaned]
  | .writing, next => next ∈ [BackupStatus.finalizing, .failed, .unknown, .orphaned]
  | .finalizing, next => next ∈ [BackupStatus.verifying, .failed, .unknown, .orphaned]
  | .verifying, next => next ∈ [BackupStatus.failed, .unknown, .orphaned]
  | _, _ => false

theorem allowedTransition_ne_valid {successor : BackupStatus}
    (allowed : allowedTransition status successor = true) : successor ≠ .valid := by
  rintro rfl
  cases status <;> cases allowed

/-- `TransitionBackupStatus`. -/
def transitionBackupStatus (backupID : String) (next : BackupStatus) (now : Time)
    (database : Database) : Except Failure (Unit × Database) := do
  let record ← demand (database.backup backupID) .noRows
  refuse (¬ allowedTransition record.status next)
    (newError .invalidRequest "invalid backup lifecycle transition")
  let encoded ← marshal { record with status := next }
  appendAuditTx now
  pure ((), database.writeBackup backupID encoded)

/-! ### Completion -/

/-- The value of a hexadecimal digit. -/
def hexValue (digit : Char) : Option Nat :=
  if '0' ≤ digit ∧ digit ≤ '9' then some (digit.toNat - '0'.toNat)
  else if 'a' ≤ digit ∧ digit ≤ 'f' then some (digit.toNat - 'a'.toNat + 10)
  else if 'A' ≤ digit ∧ digit ≤ 'F' then some (digit.toNat - 'A'.toNat + 10)
  else none

/-- `hex.DecodeString`: the bytes of an even number of hexadecimal digits. -/
def hexDecode : List Char → Option (List Nat)
  | [] => some []
  | [_] => none
  | high :: low :: rest =>
    match hexValue high, hexValue low, hexDecode rest with
    | some highValue, some lowValue, some bytes => some ((16 * highValue + lowValue) :: bytes)
    | _, _, _ => none

theorem hexDecode_eq_some {digits : List Char} {bytes : List Nat}
    (decoded : hexDecode digits = some bytes) :
    digits.length = 2 * bytes.length ∧ ∀ digit ∈ digits, (hexValue digit).isSome := by
  fun_induction hexDecode digits generalizing bytes with
  | case1 =>
    cases decoded
    exact ⟨rfl, fun _ member => absurd member List.not_mem_nil⟩
  | case2 => cases decoded
  | case3 high low rest highValue lowValue tail tailFound lowFound highFound hypothesis =>
    cases decoded
    obtain ⟨length, digits⟩ := hypothesis tailFound
    refine ⟨by simp only [List.length_cons, length]; omega, fun digit member => ?_⟩
    rcases List.mem_cons.mp member with rfl | member
    · simp [highFound]
    rcases List.mem_cons.mp member with rfl | member
    · simp [lowFound]
    · exact digits digit member
  | case4 => cases decoded

/-- The record `CompleteBackup` stores. -/
def completedRecord (record : BackupRecord) (digest : String) (size : Int)
    (ready : BackupReadyEvidence) (now : Time) : BackupRecord :=
  { record with
    ready := ready
    status := .valid
    archiveSHA256 := digest
    archiveSizeBytes := size
    digestVerifiedAt := now
    completedAt := now }

/-- The attempt `CompleteBackup` stores. -/
def completedAttempt (attempt : StepAttempt) (backupID digest : String) (now : Time) :
    StepAttempt :=
  { attempt with
    dispatchState := .acknowledged
    effectState := .expectedObserved
    attribution := .correlated
    evidence := ["backup:" ++ backupID, "sha256:" ++ digest]
    updatedAt := now }

/-- `CompleteBackup`. -/
def completeBackup (backupID digest : String) (size : Int) (ready : BackupReadyEvidence)
    (now : Time) (database : Database) : Except Failure (Unit × Database) := do
  refuse ((hexDecode digest.toList).map List.length ≠ some 32 ∨ size ≤ 0)
    (newError .backupNotReady "invalid archive digest or size")
  let record ← demand (database.backup backupID) .noRows
  refuse (record.status ≠ .verifying)
    (newError .scopeDenied "completed backup metadata is immutable")
  let operation ← database.getOperationTx record.operationID
  refuse (operation.status ≠ .executing ∨ operation.ownershipReleased ∨
      operation.attempts.length ≠ 6)
    (newError .targetBlockedUnknown "backup writer is no longer executable")
  let current ← demand operation.attempts[5]?
    (newError .targetBlockedUnknown "backup writer is no longer executable")
  refuse (current.stepID ≠ record.stepID ∨ current.dispatchState ≠ .dispatchPossible ∨
      current.effectState ≠ .unknown)
    (newError .dispatchOutcomeUnknown "backup attempt cannot complete")
  let intentRecord ← demand (database.intent operation.intentID) .noRows
  ready.validate codec ready.offline.enrollment intentRecord.intent operation now
  let completed := completedRecord record digest size ready now
  completed.validateCompleted
  let encoded ← marshal completed
  let attempt ← marshal (completedAttempt current backupID digest now)
  let written := (database.writeBackup backupID encoded).writeStep
    (fun row => row.stepID = attempt.stepID) attempt
  let saved ← saveOperationTx written (replaceAttempt operation 5 attempt now)
  pure ((), saved)

/-! ### Inversion -/

variable {codec} {now : Time} {database next : Database}

/-- The operation is the active writer of its sixth step, which may have been dispatched. -/
structure WritesBackup (operation : Operation) (stepID : String) (step : StepAttempt) : Prop where
  owned : operation.ownershipReleased = false
  executing : operation.status = .executing
  six : operation.attempts.length = 6
  sixth : operation.attempts[5]? = some step
  names : step.stepID = stepID
  dispatched : step.dispatchState = .dispatchPossible

/-- The identity and the recipe of a backup are those of the sealed intent. -/
structure BoundTo (codec : Codec) (record : BackupRecord) (intent : ChangeIntent) : Prop where
  backupID : record.backupID = intent.reservedBackupID
  intentID : record.intentID = intent.intentID
  intentDigest : record.intentDigest = intent.intentDigest
  enrollmentID : record.enrollmentID = intent.enrollmentID
  container : record.containerIdentity = intent.containerID
  generation : record.deploymentGeneration = intent.deploymentGeneration
  paperTuple : record.paperTuple = intent.paperTuple
  boot : record.bootIDBeforeStop = intent.expectedBootID
  inventory : record.sourceInventoryDigest = intent.inventoryDigest
  config : record.sourceConfigDigest = intent.configDigest
  source : namesSource record.sourceArtifacts intent = true
  recipeID : record.backupRecipeID = backupRecipeID
  recipe : record.backupRecipeDigest = intent.backupRecipeDigest
  offlineRecipe : record.backupRecipeDigest = offlineBackupRecipeDigest codec

/-- What a record must satisfy to be reserved. -/
structure Reservable (codec : Codec) (record : BackupRecord) (intent : ChangeIntent)
    (operation : Operation) (now : Time) : Prop where
  writer : ∃ step, WritesBackup operation record.stepID step ∧ step.stepKind = .createBackup
  ready : ReadyFor codec record.ready intent operation now
  bound : BoundTo codec record intent
  target : record.targetID = record.ready.offline.enrollment.targetID
  dataRoot : record.dataRootIdentity = record.ready.offline.enrollment.dataRootIdentity
  status : record.status = .reserved
  schema : record.schemaVersion = "gar.backup.v1"
  consistency : record.consistencyMode = "OFFLINE"
  created : FreshEvidence record.createdAt now

variable {done : Unit} {backupID : String} {ready : BackupReadyEvidence} {digest : String}
  {size : Int}

theorem reserveBackup_eq_ok {record : BackupRecord}
    (run : reserveBackup codec record now database = .ok (done, next)) :
    ∃ operation intent backups, database.operation record.operationID = some operation ∧
      database.intent operation.intentID = some intent ∧
      Reservable codec record intent.intent operation now ∧
      database.backups.insert (BackupRow.of record) = some backups ∧
      next = { database with backups := backups } := by
  simp only [reserveBackup, bind_eq_ok, getOperationTx_eq_ok, refuse_eq_ok, demand_eq_ok,
    marshal_eq_ok, insertRow_eq_ok, pure_eq_ok, Prod.mk.injEq, not_or, not_not,
    Bool.not_eq_true] at run
  obtain ⟨operation, found, _, ⟨owned, executing, six⟩, step, sixth, _,
    ⟨names, kind, dispatched⟩, intent, intentFound, _, valid, _,
    ⟨-, backupID, intentID, digest, enrollmentID, container, generation, tuple, target, dataRoot,
      boot, inventory, config, source, recipeID, recipe, offlineRecipe, status, consistency,
      schema, -, -, -, -, created⟩, _, ⟨-, rfl⟩, backups, inserted, -, same⟩ := run
  exact ⟨operation, intent, backups, found, intentFound,
    { writer := ⟨step, ⟨owned, executing, six, sixth, names, dispatched⟩, kind⟩
      ready := BackupReadyEvidence.validate_eq_ok codec valid
      bound := ⟨backupID, intentID, digest, enrollmentID, container, generation, tuple, boot,
        inventory, config, by simpa using source, recipeID, recipe, offlineRecipe⟩
      target := target, dataRoot := dataRoot, status := status, schema := schema
      consistency := consistency, created := created }, inserted, same.symm⟩

theorem transitionBackupStatus_eq_ok
    (run : transitionBackupStatus backupID status now database = .ok (done, next)) :
    ∃ record, database.backup backupID = some record ∧
      allowedTransition record.status status = true ∧
      next = database.writeBackup backupID { record with status := status } := by
  simp only [transitionBackupStatus, bind_eq_ok, demand_eq_ok, refuse_eq_ok, marshal_eq_ok,
    pure_eq_ok, Prod.mk.injEq, not_not] at run
  obtain ⟨record, found, _, allowed, _, ⟨-, rfl⟩, _, -, -, same⟩ := run
  exact ⟨record, found, allowed, same.symm⟩

/-- What a record and its operation must satisfy for the backup to be completed. -/
structure Completable (codec : Codec) (record : BackupRecord) (digest : String) (size : Int)
    (ready : BackupReadyEvidence) (intent : ChangeIntent) (operation : Operation)
    (step : StepAttempt) (now : Time) : Prop where
  digest : (hexDecode digest.toList).map List.length = some 32
  size : 0 < size
  verifying : record.status = .verifying
  writer : WritesBackup operation record.stepID step
  unknown : step.effectState = .unknown
  ready : ReadyFor codec ready intent operation now
  created : record.createdAt ≤ now

theorem completeBackup_eq_ok
    (run : completeBackup codec backupID digest size ready now database = .ok (done, next)) :
    ∃ record operation intent step, database.backup backupID = some record ∧
      database.operation record.operationID = some operation ∧
      database.intent operation.intentID = some intent ∧
      Completable codec record digest size ready intent.intent operation step now ∧
      database.operation operation.operationID ≠ none ∧
      next = ((database.writeBackup backupID
          (completedRecord record digest size ready now)).writeStep
            (fun row => row.stepID = step.stepID)
            (completedAttempt step backupID digest now)).writeOperation
        (replaceAttempt operation 5 (completedAttempt step backupID digest now) now) := by
  simp only [completeBackup, bind_eq_ok, refuse_eq_ok, demand_eq_ok, getOperationTx_eq_ok,
    marshal_eq_ok, saveOperationTx_eq_ok, pure_eq_ok, Prod.mk.injEq, not_or, not_not, not_le,
    Bool.not_eq_true] at run
  obtain ⟨_, ⟨hex, positive⟩, record, found, _, verifying, operation, operationFound, _,
    ⟨executing, owned, six⟩, step, sixth, _, ⟨names, dispatched, unknown⟩, intent, intentFound, _,
    valid, _, complete, _, ⟨-, rfl⟩, _, ⟨-, rfl⟩, _, ⟨-, present, rfl⟩, -, same⟩ := run
  exact ⟨record, operation, intent, step, found, operationFound, intentFound,
    { digest := hex, size := positive, verifying := verifying
      writer := ⟨owned, executing, six, sixth, names, dispatched⟩, unknown := unknown
      ready := BackupReadyEvidence.validate_eq_ok codec valid
      created := (BackupRecord.validateCompleted_eq_ok complete).2 }, present, same.symm⟩

/-- The evidence of a completed backup is about the enrollment it names itself. -/
theorem completeBackup_enrolled
    (run : completeBackup codec backupID digest size ready now database = .ok (done, next)) :
    ∃ record operation intent, database.backup backupID = some record ∧
      database.operation record.operationID = some operation ∧
      database.intent operation.intentID = some intent ∧
      EnrolledAs codec ready.beforeStop ready.offline.enrollment intent.intent := by
  simp only [completeBackup, bind_eq_ok, demand_eq_ok, getOperationTx_eq_ok] at run
  obtain ⟨_, -, record, found, _, -, operation, opened, _, -, _, -, _, -, intent, intentFound, _,
    valid, -⟩ := run
  exact ⟨record, operation, intent, found, opened, intentFound,
    BackupReadyEvidence.validate_enrolled codec valid⟩

end Store

end GuardedAgentRunner
