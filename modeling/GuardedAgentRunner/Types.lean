/-
This file models the records of the runner: the statuses of intents, operations,
step attempts and backups, the frozen change intent, its approval, the operation
that executes it with its step attempts, the evidence gathered about the target,
and the backup record. The Go enumerations are string types, so each has a
constructor for the texts outside its constants.
-/

import Mathlib.Data.List.Basic
import GuardedAgentRunner.Time
import GuardedAgentRunner.Errors

namespace GuardedAgentRunner

/-- A Go slice in a record that is digested as JSON, where an absent slice and an empty one
have different texts. -/
inductive Slice (Item : Type) where
  | absent
  | of (items : List Item)
  deriving DecidableEq, Repr

/-- The items of a slice. -/
def Slice.items {Item : Type} : Slice Item → List Item
  | .absent => []
  | .of items => items

/-- The slice with every item changed. -/
def Slice.map {Item Other : Type} (change : Item → Other) : Slice Item → Slice Other
  | .absent => .absent
  | .of items => .of (items.map change)

/-! ### Statuses -/

inductive IntentStatus where
  | proposed
  | awaitingApproval
  | approved
  | consumed
  | rejected
  | expired
  | revoked
  | cancelled
  | stale
  | other (text : String)
  deriving DecidableEq, Repr

/-- The text of an intent status. -/
def IntentStatus.text : IntentStatus → String
  | .proposed => "PROPOSED"
  | .awaitingApproval => "AWAITING_APPROVAL"
  | .approved => "APPROVED"
  | .consumed => "CONSUMED"
  | .rejected => "REJECTED"
  | .expired => "EXPIRED"
  | .revoked => "REVOKED"
  | .cancelled => "CANCELLED"
  | .stale => "STALE"
  | .other text => text

inductive OperationStatus where
  | queued
  | preparing
  | executing
  | verifying
  | succeeded
  | failed
  | aborted
  | unknown
  | rollbackRequired
  | rollingBack
  | rolledBack
  | rollbackFailed
  | needsIntervention
  | other (text : String)
  deriving DecidableEq, Repr

inductive VerificationStatus where
  | notStarted
  | running
  | pass
  | fail
  | inconclusive
  | other (text : String)
  deriving DecidableEq, Repr

inductive DispatchState where
  | notDispatched
  | dispatchPossible
  | acknowledged
  | other (text : String)
  deriving DecidableEq, Repr

inductive EffectState where
  | provenNotApplied
  | expectedObserved
  | otherObserved
  | unknown
  | other (text : String)
  deriving DecidableEq, Repr

inductive Attribution where
  | correlated
  | unattributed
  | conflicting
  | other (text : String)
  deriving DecidableEq, Repr

inductive StopState where
  | notRequested
  | dispatchPossible
  | stopping
  | confirmed
  | failed
  | unknown
  | other (text : String)
  deriving DecidableEq, Repr

inductive BackupStatus where
  | reserved
  | writing
  | finalizing
  | verifying
  | valid
  | failed
  | unknown
  | orphaned
  | other (text : String)
  deriving DecidableEq, Repr

/-- The decision of an approval. -/
inductive Decision where
  | approved
  | rejected
  deriving DecidableEq, Repr

/-- The step kinds of the fixed workflow. -/
inductive StepKind where
  | claimOperation
  | revalidate
  | acquireMaintenance
  | gracefulStop
  | offlineRevalidation
  | createBackup
  | replaceArtifact
  | prepareLaunchAndStart
  | verifyUnderMaintenance
  | releaseMaintenance
  | finalize
  | other (text : String)
  deriving DecidableEq, Repr

/-- The text of a step kind. -/
def StepKind.text : StepKind → String
  | .claimOperation => "S00_CLAIM_OPERATION"
  | .revalidate => "S01_REVALIDATE"
  | .acquireMaintenance => "S02_ACQUIRE_MAINTENANCE"
  | .gracefulStop => "S03_GRACEFUL_STOP"
  | .offlineRevalidation => "S04_OFFLINE_REVALIDATION"
  | .createBackup => "S05_CREATE_BACKUP"
  | .replaceArtifact => "S06_REPLACE_ARTIFACT"
  | .prepareLaunchAndStart => "S07_PREPARE_LAUNCH_AND_START"
  | .verifyUnderMaintenance => "S08_VERIFY_UNDER_MAINTENANCE"
  | .releaseMaintenance => "S09_RELEASE_MAINTENANCE"
  | .finalize => "S10_FINALIZE"
  | .other text => text

/-- `FixedWorkflowSteps`. -/
def fixedWorkflowSteps : List StepKind :=
  [.claimOperation, .revalidate, .acquireMaintenance, .gracefulStop, .offlineRevalidation,
    .createBackup, .replaceArtifact, .prepareLaunchAndStart, .verifyUnderMaintenance,
    .releaseMaintenance, .finalize]

theorem fixedWorkflowSteps_nodup : fixedWorkflowSteps.Nodup := by decide

/-! ### Enrollment, intents and approvals -/

structure Enrollment where
  targetID : String
  enrollmentID : String
  deploymentGeneration : Int
  containerID : String
  imageDigest : String
  dataRootIdentity : String
  gameEndpoint : String
  runtimeGuardPairing : String
  bootstrapFingerprint : String
  policyID : String
  policyRevision : String
  policyDigest : String
  supportProfileID : String
  paperTuple : String
  allowedPlugins : Slice String
  deriving DecidableEq, Repr

structure ArtifactRecord where
  artifactID : String
  sha256 : String
  size : Int := 0
  sourceDescription : String := ""
  acquiredAt : Time := 0
  pluginID : String
  descriptorDigest : String := ""
  ownerTrustConfirmed : Bool := false
  compatibilityEvidence : String := ""
  deriving DecidableEq, Repr

structure Predicate where
  name : String
  phase : String
  expected : String
  freshnessSeconds : Int
  onFailure : ErrorCode
  deriving DecidableEq, Repr

/-- The change an agent proposed, frozen by its digest. -/
structure ChangeIntent where
  schemaVersion : String
  intentID : String
  clientRequestID : String
  principalID : String
  sessionID : String
  createdAt : Time
  enrollmentID : String
  deploymentGeneration : Int
  containerID : String
  paperTuple : String
  expectedBootID : String
  workflowKind : String
  workflowVersion : String
  pluginID : String
  fromArtifactID : String
  fromSHA256 : String
  toArtifactID : String
  toSHA256 : String
  profileDigest : String
  scopeDigest : String
  policyRevision : String
  policyDigest : String
  capabilitySnapshot : Slice String
  observationBundleID : String
  inventoryDigest : String
  configDigest : String
  evidenceReferences : Slice String
  predicates : Slice Predicate
  steps : Slice StepKind
  reservedBackupID : String
  backupRecipeDigest : String
  verificationProfileID : String
  verificationDigest : String
  recoveryContractID : String
  recoveryDigest : String
  approvalDeadline : Time
  startBefore : Time
  executionBudgetSeconds : Int
  recoveryBudgetSeconds : Int
  rationale : String
  intentDigest : String
  deriving DecidableEq, Repr

structure IntentRecord where
  intent : ChangeIntent
  status : IntentStatus
  proposalDigest : String
  updatedAt : Time
  deriving DecidableEq, Repr

structure Approval where
  approvalID : String
  intentID : String
  intentDigest : String
  approverPrincipal : String
  approverOSUID : Int
  decision : Decision
  decidedAt : Time
  deriving DecidableEq, Repr

/-! ### Operations -/

structure StepAttempt where
  stepID : String
  stepKind : StepKind
  attemptNo : Nat
  dispatchState : DispatchState
  effectState : EffectState
  attribution : Attribution
  preparedAt : Time
  updatedAt : Time
  evidence : List String
  deriving DecidableEq, Repr

structure Operation where
  operationID : String
  intentID : String
  intentDigest : String
  enrollmentID : String
  executionEpoch : Int
  status : OperationStatus
  verification : VerificationStatus
  ownershipReleased : Bool
  createdAt : Time
  updatedAt : Time
  attempts : List StepAttempt
  lastError : Option ErrorCode
  deriving DecidableEq, Repr

/-- The step is acknowledged, its expected effect was observed and it is correlated to this
operation. -/
def StepAttempt.Complete (attempt : StepAttempt) : Prop :=
  attempt.dispatchState = .acknowledged ∧ attempt.effectState = .expectedObserved ∧
    attempt.attribution = .correlated
deriving Decidable

/-! ### Evidence and backups -/

structure StopEvidence where
  state : StopState
  operationID : String
  stepID : String
  containerID : String
  bootID : String
  requestedAt : Time
  observedAt : Time
  finishedAt : Time
  lifecycleAvailable : Bool
  running : Bool
  exitCode : Int
  oomKilled : Bool
  runtimeTerminal : Bool
  gracefulTermination : Bool
  attribution : Attribution
  references : List String
  deriving DecidableEq, Repr

/-- What a target is asked to stop. -/
structure StopRequest where
  operationID : String
  stepID : String
  containerID : String
  bootID : String
  requestedAt : Time
  deriving DecidableEq, Repr

/-- What a target answers when it has closed admission. -/
structure MaintenanceReceipt where
  operationID : String
  stepID : String
  closedAt : Time
  references : List String
  deriving DecidableEq, Repr

structure SafetyObservation where
  available : Bool
  observedAt : Time
  enrollment : Enrollment
  bootID : String
  inventoryDigest : String
  configDigest : String
  sourceArtifactID : String
  sourceSHA256 : String
  admissionClosed : Bool
  maintenance : Bool
  players : Int
  processStopped : Bool
  filesystemRootExists : Bool
  noConflictingWriter : Bool
  references : List String
  deriving DecidableEq, Repr

structure BackupReadyEvidence where
  beforeStop : SafetyObservation
  offline : SafetyObservation
  stop : StopEvidence
  deriving DecidableEq, Repr

structure BackupRecord where
  evidenceLevel : String
  backupID : String
  schemaVersion : String
  targetID : String
  enrollmentID : String
  deploymentGeneration : Int
  containerIdentity : String
  dataRootIdentity : String
  paperTuple : String
  bootIDBeforeStop : String
  intentID : String
  intentDigest : String
  operationID : String
  stepID : String
  sourceInventoryDigest : String
  sourceConfigDigest : String
  sourceArtifacts : List ArtifactRecord
  backupRecipeID : String
  backupRecipeDigest : String
  createdAt : Time
  completedAt : Time
  consistencyMode : String
  archiveSizeBytes : Int
  archiveSHA256 : String
  digestVerifiedAt : Time
  status : BackupStatus
  ready : BackupReadyEvidence
  deriving DecidableEq, Repr

/-! ### The operation state machine -/

/-- `CanTransitionOperation`: the table `operationTransitions`. -/
def canTransitionOperation : OperationStatus → OperationStatus → Bool
  | .queued, next =>
    next ∈ [OperationStatus.preparing, .aborted, .unknown, .needsIntervention]
  | .preparing, next =>
    next ∈ [OperationStatus.executing, .aborted, .unknown, .needsIntervention]
  | .executing, next =>
    next ∈ [OperationStatus.verifying, .failed, .unknown, .rollbackRequired, .needsIntervention]
  | .verifying, next =>
    next ∈ [OperationStatus.succeeded, .failed, .unknown, .rollbackRequired, .needsIntervention]
  | .rollbackRequired, next =>
    next ∈ [OperationStatus.rollingBack, .needsIntervention]
  | .rollingBack, next =>
    next ∈ [OperationStatus.rolledBack, .rollbackFailed, .unknown, .needsIntervention]
  | _, _ => false

/-- `IsTerminalOperation`. -/
def isTerminalOperation : OperationStatus → Bool
  | .succeeded | .failed | .aborted | .rolledBack | .rollbackFailed | .needsIntervention => true
  | _ => false

/-- `VerificationAllowsSuccess`. -/
def verificationAllowsSuccess (status : VerificationStatus) (maintenanceReleased : Bool) : Bool :=
  status = .pass && maintenanceReleased

/-- The statuses of an operation whose outcome is not known. -/
def OperationStatus.Unresolved (status : OperationStatus) : Prop :=
  status = .unknown ∨ status = .needsIntervention
deriving Decidable

theorem canTransitionOperation_of_unresolved {status : OperationStatus}
    (unresolved : status.Unresolved) (next : OperationStatus) :
    canTransitionOperation status next = false := by
  rcases unresolved with rfl | rfl <;> rfl

end GuardedAgentRunner
