/-
This file puts the methods of the store behind one interface: a call of a method
with its arguments, its execution as one serialisable transaction, and the
database any sequence of transactions leads to. A call that returns an error is
rolled back and leaves the database as it was.
-/

import GuardedAgentRunner.Backups
import GuardedAgentRunner.Library.Runs

namespace GuardedAgentRunner

/-- A call of a store method. -/
inductive StoreCall where
  | putIntent (record : IntentRecord)
  | approveIntent (intentID expectedDigest approver : String) (osUID : Int) (now : Time)
  | rejectIntent (intentID expectedDigest approver : String) (osUID : Int) (now : Time)
  | revokeIntent (intentID expectedDigest actor : String) (osUID : Int) (now : Time)
  | prepareStep (operationID : String) (stepKind : StepKind) (now : Time)
  | markDispatchPossible (operationID stepID : String) (now : Time)
  | recordStepObservation (operationID stepID : String) (effect : EffectState)
      (attribution : Attribution) (evidence : List String) (now : Time)
  | markUnknown (operationID : String) (now : Time)
  | transitionOperation (operationID : String) (status : OperationStatus)
      (verification : VerificationStatus) (maintenanceReleased : Bool) (now : Time)
  | reserveBackup (record : BackupRecord) (now : Time)
  | transitionBackupStatus (backupID : String) (status : BackupStatus) (now : Time)
  | completeBackup (backupID digest : String) (size : Int) (ready : BackupReadyEvidence)
      (now : Time)
  | getIntent (intentID : String)
  | getOperation (operationID : String)
  | getBackup (backupID : String)
  deriving DecidableEq

/-- What a store method returns besides an error. -/
abbrev StoreCall.Result : StoreCall → Type
  | .putIntent _ => IntentRecord × Bool
  | .approveIntent .. => Approval × Operation
  | .rejectIntent .. => Approval
  | .prepareStep .. => StepAttempt
  | .getIntent _ => IntentRecord
  | .getOperation _ => Operation
  | .getBackup _ => BackupRecord
  | _ => Unit

/-- A read returns the database it read. -/
def reading {Value : Type} (database : Database) (value : Except Failure Value) :
    Except Failure (Value × Database) :=
  value.map fun result => (result, database)

variable (codec : Codec)

/-- One transaction of the store. -/
def exec (ids : NewIDs) (database : Database) :
    (call : StoreCall) → Except Failure (call.Result × Database)
  | .putIntent record => Store.putIntent record database
  | .approveIntent intentID expectedDigest approver osUID now =>
    Store.approveIntent codec ids intentID expectedDigest approver osUID now database
  | .rejectIntent intentID expectedDigest approver osUID now =>
    Store.rejectIntent codec ids intentID expectedDigest approver osUID now database
  | .revokeIntent intentID expectedDigest _ _ now =>
    Store.revokeIntent codec intentID expectedDigest now database
  | .prepareStep operationID stepKind now =>
    Store.prepareStep codec ids operationID stepKind now database
  | .markDispatchPossible operationID stepID now =>
    Store.markDispatchPossible operationID stepID now database
  | .recordStepObservation operationID stepID effect attribution evidence now =>
    Store.recordStepObservation operationID stepID effect attribution evidence now database
  | .markUnknown operationID now => Store.markUnknown operationID now database
  | .transitionOperation operationID status verification maintenanceReleased now =>
    Store.transitionOperation operationID status verification maintenanceReleased now database
  | .reserveBackup record now => Store.reserveBackup codec record now database
  | .transitionBackupStatus backupID status now =>
    Store.transitionBackupStatus backupID status now database
  | .completeBackup backupID digest size ready now =>
    Store.completeBackup codec backupID digest size ready now database
  | .getIntent intentID => reading database (Store.getIntent intentID database)
  | .getOperation operationID => reading database (Store.getOperation operationID database)
  | .getBackup backupID => reading database (Store.getBackup backupID database)

/-- A call together with the identifiers drawn while it runs. -/
structure Transaction where
  ids : NewIDs
  call : StoreCall

/-- The transaction commits and leaves the database `next`. -/
def Commits (database : Database) (transaction : Transaction) (next : Database) : Prop :=
  ∃ result, exec codec transaction.ids database transaction.call = .ok (result, next)

/-- The database after a transaction, committed or rolled back. -/
def perform (database : Database) (transaction : Transaction) : Database :=
  match exec codec transaction.ids database transaction.call with
  | .ok (_, next) => next
  | .error _ => database

/-- The database a sequence of transactions leads to from an empty file. -/
def replay (log : List Transaction) : Database := Runs.run (perform codec) .empty log

variable {codec}

theorem replay_append (log continuation : List Transaction) :
    replay codec (log ++ continuation) =
      Runs.run (perform codec) (replay codec log) continuation :=
  Runs.run_append (perform codec) .empty log continuation

theorem perform_of_commits {database next : Database} {transaction : Transaction}
    (commits : Commits codec database transaction next) :
    perform codec database transaction = next := by
  obtain ⟨result, run⟩ := commits
  rw [perform, run]

theorem perform_cases (database : Database) (transaction : Transaction) :
    Commits codec database transaction (perform codec database transaction) ∨
      perform codec database transaction = database := by
  unfold perform Commits
  split
  · rename_i result next run
    exact Or.inl ⟨result, run⟩
  · exact Or.inr rfl

/-- What holds of the empty database and is kept by every committed transaction holds of every
database that is reached. -/
theorem replay_invariant (invariant : Database → Prop) (initial : invariant .empty)
    (preserved : ∀ database transaction next, invariant database →
      Commits codec database transaction next → invariant next) (log : List Transaction) :
    invariant (replay codec log) := by
  refine Runs.invariant_run invariant (fun database transaction holds => ?_) initial log
  rcases perform_cases database transaction with commits | same
  · exact preserved database transaction _ holds commits
  · rw [same]
    exact holds

@[simp] theorem reading_eq_ok {Value : Type} {database next : Database}
    {value : Except Failure Value} {result : Value} :
    reading database value = .ok (result, next) ↔ value = .ok result ∧ database = next := by
  cases value <;> simp [reading, Except.map]

/-! ### The fixture of the tests -/

/-- 8 September 2026, 12:34:56 UTC. -/
def fixtureNow : Time := 63924467696 * Duration.second

def fixtureEnrollment : Enrollment where
  targetID := "paper-a"
  enrollmentID := "enrollment-a"
  deploymentGeneration := 3
  containerID := "sha256:container-a"
  imageDigest := "sha256:image-a"
  dataRootIdentity := "dev:1/inode:2"
  gameEndpoint := "127.0.0.1:25565"
  runtimeGuardPairing := "guard-a"
  bootstrapFingerprint := "bootstrap-a"
  policyID := "policy-a"
  policyRevision := "7"
  policyDigest := "policy-digest-a"
  supportProfileID := "m1-fake"
  paperTuple := "paper-test/java-test/itzg-test"
  allowedPlugins := .of ["example"]

def fixtureEnrollmentDigest : String :=
  "4fed81d4ec226e1bf090a98626ab58cb36d0b60e4d0ca30fdedaf87512e5822c"

/-- The digest of the offline backup recipe. -/
def fixtureRecipeDigest : String :=
  "c5e670f9daae5f4bf32e6cf4c94cf932099e0ea8f234ea1062b8a43dc0412c2d"

/-- The intent `Propose` freezes for the fixture. -/
def fixtureIntent (intentID clientRequestID backupID digest : String) : ChangeIntent where
  schemaVersion := "gar.change-intent.v1"
  intentID := intentID
  clientRequestID := clientRequestID
  principalID := "agent-a"
  sessionID := "session-a"
  createdAt := fixtureNow
  enrollmentID := fixtureEnrollment.enrollmentID
  deploymentGeneration := fixtureEnrollment.deploymentGeneration
  containerID := fixtureEnrollment.containerID
  paperTuple := fixtureEnrollment.paperTuple
  expectedBootID := "boot-a"
  workflowKind := "UPDATE_PLUGIN_ARTIFACT"
  workflowVersion := "gar.paper-plugin-change.v1"
  pluginID := "example"
  fromArtifactID := "artifact-a"
  fromSHA256 := "aaaaaaaaaaaaaaaaaaaaaaaaaaaaaaaaaaaaaaaaaaaaaaaaaaaaaaaaaaaaaaaa"
  toArtifactID := "artifact-b"
  toSHA256 := "bbbbbbbbbbbbbbbbbbbbbbbbbbbbbbbbbbbbbbbbbbbbbbbbbbbbbbbbbbbbbbbb"
  profileDigest := "profile-digest-a-b"
  scopeDigest := "scope-digest-a"
  policyRevision := fixtureEnrollment.policyRevision
  policyDigest := fixtureEnrollment.policyDigest
  capabilitySnapshot := .of ["propose_plugin_change"]
  observationBundleID := "observation-a"
  inventoryDigest := "inventory-a"
  configDigest := "config-a"
  evidenceReferences := .of ["observation:observation-a"]
  predicates := .of [
    ⟨"target_identity", "PREPARE", fixtureEnrollment.containerID, 30, .intentStale⟩,
    ⟨"active_artifact", "OFFLINE_BEFORE_REPLACE",
      "aaaaaaaaaaaaaaaaaaaaaaaaaaaaaaaaaaaaaaaaaaaaaaaaaaaaaaaaaaaaaaaa", 0, .intentStale⟩,
    ⟨"players_zero", "MAINTENANCE_BARRIER", "0", 5, .intentStale⟩]
  steps := .of fixedWorkflowSteps
  reservedBackupID := backupID
  backupRecipeDigest := fixtureRecipeDigest
  verificationProfileID := "verify-a-b"
  verificationDigest := "verify-digest-a-b"
  recoveryContractID := "recover-b-a"
  recoveryDigest := "recover-digest-b-a"
  approvalDeadline := fixtureNow.add (15 * Duration.minute)
  startBefore := fixtureNow.add (20 * Duration.minute)
  executionBudgetSeconds := 900
  recoveryBudgetSeconds := 900
  rationale := "FAKE_TARGET only"
  intentDigest := digest

/-- The record of the first proposal of the fixture. -/
def firstProposal : IntentRecord where
  intent := fixtureIntent "intent_a" "request-a" "backup_a"
    "f9229c21c64642850305f64cd8433e63de8670522bf8e90cdafa095aa4871a82"
  status := .awaitingApproval
  proposalDigest := "proposal-a"
  updatedAt := fixtureNow

/-- The record of a second proposal for the same enrollment. -/
def secondProposal : IntentRecord where
  intent := fixtureIntent "intent_b" "request-b" "backup_b"
    "23b7c9304b1f111f75a39c2ed60fc69b5453d43b78baeded555211f3da2b4958"
  status := .awaitingApproval
  proposalDigest := "proposal-b"
  updatedAt := fixtureNow

/-- What the fixture's target reports before and during the stop of the first operation. -/
def fixtureObservation (processStopped : Bool) : SafetyObservation where
  available := true
  observedAt := fixtureNow
  enrollment := fixtureEnrollment
  bootID := "boot-a"
  inventoryDigest := "inventory-a"
  configDigest := "config-a"
  sourceArtifactID := "artifact-a"
  sourceSHA256 := "aaaaaaaaaaaaaaaaaaaaaaaaaaaaaaaaaaaaaaaaaaaaaaaaaaaaaaaaaaaaaaaa"
  admissionClosed := true
  maintenance := true
  players := 0
  processStopped := processStopped
  filesystemRootExists := true
  noConflictingWriter := true
  references := ["FAKE_TARGET safety snapshot"]

/-- The evidence of the fixture's stop of the first operation. -/
def fixtureStop : StopEvidence where
  state := .confirmed
  operationID := "operation_a"
  stepID := "step_3"
  containerID := fixtureEnrollment.containerID
  bootID := "boot-a"
  requestedAt := fixtureNow
  observedAt := fixtureNow
  finishedAt := fixtureNow
  lifecycleAvailable := true
  running := false
  exitCode := 0
  oomKilled := false
  runtimeTerminal := true
  gracefulTermination := true
  attribution := .correlated
  references := ["FAKE_TARGET: process exit and runtime terminal receipt"]

def fixtureReady : BackupReadyEvidence where
  beforeStop := fixtureObservation false
  offline := fixtureObservation true
  stop := fixtureStop

/-- The encoders on the values of the fixture: the digests are those of the two proposals, the
recipe and the enrollment, and the only evidence that is decoded is that of the stop. -/
def fixtureCodec : Codec where
  digest value :=
    match value.member "intent_id", value.member "target_id" with
    | some (.string "intent_a"), _ => .ok firstProposal.intent.intentDigest
    | some (.string "intent_b"), _ => .ok secondProposal.intent.intentDigest
    | _, some _ => .ok fixtureEnrollmentDigest
    | _, none => .ok fixtureRecipeDigest
  encode _ := .ok "fixture evidence"
  decode _ := .ok fixtureReady

/-- The identifiers drawn in the fixture. -/
def fixtureIDs (name : String) : NewIDs :=
  ⟨"approval_" ++ name, "operation_" ++ name, "step_" ++ name⟩

/-- The first proposal is sealed. -/
example : firstProposal.intent.Sealed fixtureCodec := by decide

/-- The transactions that propose and approve the first proposal. -/
def openFirst : List Transaction :=
  [⟨fixtureIDs "a", .putIntent firstProposal⟩,
    ⟨fixtureIDs "a", .approveIntent "intent_a" firstProposal.intent.intentDigest "owner" 1000
      fixtureNow⟩]

example : (replay fixtureCodec openFirst).operation "operation_a" =
    some (Store.newOperation (fixtureIDs "a") "intent_a" firstProposal.intent.intentDigest
      "enrollment-a" fixtureNow) := by decide

end GuardedAgentRunner
