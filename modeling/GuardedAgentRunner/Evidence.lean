/-
This file models the checks on the evidence a backup rests on: the
classification of a stop, the freshness window, the validation of one safety
observation against the sealed intent, the validation of the evidence that the
target is offline, and the validation of a completed backup record. Each check
comes with the facts it establishes.
-/

import GuardedAgentRunner.Canonical

namespace GuardedAgentRunner

open Fallible

/-- `FreshEvidence`: present, not in the future, at most five seconds old. -/
def FreshEvidence (observed now : Time) : Prop :=
  ¬ observed.IsZero ∧ ¬ observed.After now ∧ now.sub observed ≤ 5 * Duration.second
deriving Decidable

/-- `ClassifyStop`. -/
def classifyStop (dispatch : DispatchState) (stop : StopEvidence) (now : Time) : StopState :=
  if dispatch = .notDispatched then .notRequested
  else if dispatch ≠ .dispatchPossible ∧ dispatch ≠ .acknowledged then .unknown
  else if ¬ stop.lifecycleAvailable ∨ ¬ FreshEvidence stop.observedAt now then .unknown
  else if stop.running then .stopping
  else if stop.oomKilled ∨ stop.exitCode ≠ 0 then .failed
  else if stop.requestedAt.IsZero ∨ stop.requestedAt.After stop.finishedAt ∨
      stop.finishedAt.After stop.observedAt ∨ ¬ stop.runtimeTerminal ∨
      ¬ stop.gracefulTermination ∨ stop.attribution ≠ .correlated ∨ stop.operationID = "" ∨
      stop.stepID = "" ∨ stop.containerID = "" ∨ stop.bootID = "" ∨
      stop.references.length = 0 then .unknown
  else .confirmed

variable (codec : Codec)

/-- `SafetyObservation.Validate`. -/
def SafetyObservation.validate (observation : SafetyObservation) (enrollment : Enrollment)
    (intent : ChangeIntent) (now : Time) : Except Failure Unit := do
  refuse (¬ observation.available ∨ ¬ FreshEvidence observation.observedAt now ∨
      observation.references.length = 0 ∨ observation.inventoryDigest = "" ∨
      observation.configDigest = "" ∨ observation.sourceArtifactID = "" ∨
      observation.sourceSHA256 = "" ∨ observation.bootID = "" ∨
      observation.enrollment.targetID = "" ∨ observation.enrollment.enrollmentID = "" ∨
      observation.enrollment.containerID = "" ∨ observation.enrollment.dataRootIdentity = "")
    (newError .preconditionUnavailable "fresh authoritative safety evidence is incomplete")
  refuse (codec.digestOrEmpty observation.enrollment.toJson ≠
        codec.digestOrEmpty enrollment.toJson ∨
      intent.enrollmentID ≠ enrollment.enrollmentID ∨
      intent.deploymentGeneration ≠ enrollment.deploymentGeneration ∨
      intent.containerID ≠ enrollment.containerID ∨ intent.paperTuple ≠ enrollment.paperTuple ∨
      intent.policyDigest ≠ enrollment.policyDigest ∨
      intent.policyRevision ≠ enrollment.policyRevision ∨
      observation.bootID ≠ intent.expectedBootID ∨
      observation.inventoryDigest ≠ intent.inventoryDigest ∨
      observation.configDigest ≠ intent.configDigest ∨
      observation.sourceArtifactID ≠ intent.fromArtifactID ∨
      observation.sourceSHA256 ≠ intent.fromSHA256)
    (newError .intentStale "approved target, generation, policy or source state changed")
  refuse (¬ observation.noConflictingWriter)
    (newError .targetBusy "conflicting writer observed")
  refuse (¬ observation.filesystemRootExists)
    (newError .preconditionUnavailable "enrolled filesystem root is unavailable")

/-- The stop step of the operation is durably acknowledged and carries the given identity. -/
def AcknowledgedStop (operation : Operation) (stepID : String) : Prop :=
  ∃ attempt, operation.attempts[3]? = some attempt ∧ attempt.stepID = stepID ∧
    attempt.stepKind = .gracefulStop ∧ attempt.Complete

instance (operation : Operation) (stepID : String) :
    Decidable (AcknowledgedStop operation stepID) :=
  inferInstanceAs (Decidable (∃ attempt ∈ operation.attempts[3]?, _ ∧ _ ∧ _))

/-- `BackupReadyEvidence.Validate`. -/
def BackupReadyEvidence.validate (ready : BackupReadyEvidence) (enrollment : Enrollment)
    (intent : ChangeIntent) (operation : Operation) (now : Time) : Except Failure Unit := do
  intent.validateDigest codec
  refuse (operation.intentID ≠ intent.intentID ∨ operation.intentDigest ≠ intent.intentDigest ∨
      operation.enrollmentID ≠ intent.enrollmentID)
    (newError .invalidIntentDigest "backup operation does not own this intent")
  refuse (operation.ownershipReleased ∨ operation.status ≠ .executing)
    (newError .targetBlockedUnknown "backup operation no longer owns an executable writer")
  refuse (¬ AcknowledgedStop operation ready.stop.stepID)
    (newError .preconditionUnavailable "stop evidence does not match the durable acknowledged S03")
  ready.beforeStop.validate codec enrollment intent ready.stop.requestedAt
  ready.offline.validate codec enrollment intent now
  refuse (¬ ready.beforeStop.admissionClosed ∨ ¬ ready.beforeStop.maintenance ∨
      ready.beforeStop.players ≠ 0 ∨ ready.beforeStop.processStopped ∨
      ¬ ready.offline.admissionClosed ∨ ¬ ready.offline.processStopped)
    (newError .intentStale "isolation or offline predicate changed")
  refuse (ready.stop.operationID ≠ operation.operationID ∨
      ready.stop.containerID ≠ intent.containerID ∨ ready.stop.bootID ≠ intent.expectedBootID ∨
      ready.stop.state ≠ .confirmed ∨
      classifyStop .acknowledged ready.stop ready.stop.observedAt ≠ .confirmed)
    (newError .preconditionUnavailable "correlated graceful stop evidence is unavailable")
  refuse (ready.offline.observedAt.Before ready.stop.finishedAt)
    (newError .preconditionUnavailable "offline evidence predates stop")

/-- `BackupRecipeID`. -/
def backupRecipeID : String := "gar.offline-tar.v1"

/-- `ValidateCompleted`. -/
def BackupRecord.validateCompleted (record : BackupRecord) : Except Failure Unit :=
  refuse (record.status ≠ .valid ∨ record.schemaVersion ≠ "gar.backup.v1" ∨
      record.consistencyMode ≠ "OFFLINE" ∨ record.archiveSizeBytes ≤ 0 ∨
      record.archiveSHA256.utf8ByteSize ≠ 64 ∨
      record.digestVerifiedAt.Before record.createdAt ∨
      record.completedAt.Before record.digestVerifiedAt ∨ record.completedAt.IsZero)
    (newError .backupNotReady
      ("backup " ++ record.backupID ++ " is not a completed verified artifact"))

/-! ### What the checks establish -/

variable {now : Time} {enrollment : Enrollment} {intent : ChangeIntent}
  {observation : SafetyObservation} {ready : BackupReadyEvidence} {operation : Operation}

theorem FreshEvidence.window {observed : Time} (fresh : FreshEvidence observed now) :
    observed ≤ now ∧ now - observed ≤ 5 * Duration.second := by
  obtain ⟨-, notAfter, recent⟩ := fresh
  refine ⟨not_lt.mp notAfter, ?_⟩
  exact (Time.sub_le_iff now observed (5 * Duration.second) (by decide) (by decide)).mp recent

/-- The facts a confirmed stop carries. -/
structure ConfirmedStop (stop : StopEvidence) : Prop where
  exited : stop.exitCode = 0
  notKilled : stop.oomKilled = false
  stopped : stop.running = false
  requestedFinished : stop.requestedAt ≤ stop.finishedAt
  finishedObserved : stop.finishedAt ≤ stop.observedAt
  correlated : stop.attribution = .correlated

theorem classifyStop_confirmed {dispatch : DispatchState} {stop : StopEvidence}
    (confirmed : classifyStop dispatch stop now = .confirmed) :
    ConfirmedStop stop ∧ FreshEvidence stop.observedAt now ∧ stop.runtimeTerminal = true ∧
      stop.gracefulTermination = true := by
  unfold classifyStop at confirmed
  split at confirmed
  · cases confirmed
  split at confirmed
  · cases confirmed
  split at confirmed
  · cases confirmed
  split at confirmed
  · cases confirmed
  split at confirmed
  · cases confirmed
  split at confirmed
  · cases confirmed
  rename_i _ _ available running exit chain
  simp only [not_or, not_not] at available running exit chain
  simp only [Time.After, not_lt] at chain
  exact ⟨⟨exit.2, by simpa using exit.1, by simpa using running, chain.2.1, chain.2.2.1,
    chain.2.2.2.2.2.1⟩, available.2, chain.2.2.2.1, chain.2.2.2.2.1⟩

/-- The sealed intent and the observation agree on what is observed. -/
structure ObservationMatches (observation : SafetyObservation) (intent : ChangeIntent) : Prop where
  bootID : observation.bootID = intent.expectedBootID
  inventoryDigest : observation.inventoryDigest = intent.inventoryDigest
  configDigest : observation.configDigest = intent.configDigest
  sourceArtifactID : observation.sourceArtifactID = intent.fromArtifactID
  sourceSHA256 : observation.sourceSHA256 = intent.fromSHA256

theorem SafetyObservation.validate_eq_ok
    (valid : observation.validate codec enrollment intent now = .ok ()) :
    FreshEvidence observation.observedAt now ∧ ObservationMatches observation intent := by
  unfold SafetyObservation.validate at valid
  simp only [refuse_bind_eq_ok, refuse_eq_ok, not_or, not_not] at valid
  obtain ⟨⟨-, fresh, -⟩, ⟨-, -, -, -, -, -, -, boot, inventory, config, artifact, hash⟩, -⟩ := valid
  exact ⟨fresh, ⟨boot, inventory, config, artifact, hash⟩⟩

/-- The sealed intent is about the enrollment, and the observation was made of an enrollment with
the same digest. -/
structure EnrolledAs (observation : SafetyObservation) (enrollment : Enrollment)
    (intent : ChangeIntent) : Prop where
  digest : codec.digestOrEmpty observation.enrollment.toJson =
    codec.digestOrEmpty enrollment.toJson
  enrollmentID : intent.enrollmentID = enrollment.enrollmentID
  generation : intent.deploymentGeneration = enrollment.deploymentGeneration
  container : intent.containerID = enrollment.containerID
  paperTuple : intent.paperTuple = enrollment.paperTuple

theorem SafetyObservation.validate_enrolled
    (valid : observation.validate codec enrollment intent now = .ok ()) :
    EnrolledAs codec observation enrollment intent := by
  unfold SafetyObservation.validate at valid
  simp only [refuse_bind_eq_ok, refuse_eq_ok, not_or, not_not] at valid
  obtain ⟨-, ⟨digest, enrollmentID, generation, container, paperTuple, -⟩, -⟩ := valid
  exact ⟨digest, enrollmentID, generation, container, paperTuple⟩

theorem BackupReadyEvidence.validate_enrolled
    (valid : ready.validate codec enrollment intent operation now = .ok ()) :
    EnrolledAs codec ready.beforeStop enrollment intent := by
  unfold BackupReadyEvidence.validate at valid
  simp only [bind_eq_ok] at valid
  obtain ⟨_, -, _, -, _, -, _, -, _, before, -⟩ := valid
  exact SafetyObservation.validate_enrolled codec before

theorem BackupRecord.validateCompleted_eq_ok {record : BackupRecord} {done : Unit}
    (valid : record.validateCompleted = .ok done) :
    record.status = .valid ∧ record.createdAt ≤ record.digestVerifiedAt := by
  unfold BackupRecord.validateCompleted at valid
  simp only [refuse_eq_ok, not_or, not_not] at valid
  exact ⟨valid.1, not_lt.mp valid.2.2.2.2.2.1⟩

/-- The facts validated evidence of an offline target carries. -/
structure ReadyFor (ready : BackupReadyEvidence) (intent : ChangeIntent) (operation : Operation)
    (now : Time) : Prop where
  sealedIntent : intent.Sealed codec
  ownsIntent : operation.intentID = intent.intentID
  ownsDigest : operation.intentDigest = intent.intentDigest
  ownsEnrollment : operation.enrollmentID = intent.enrollmentID
  stopStep : AcknowledgedStop operation ready.stop.stepID
  stopOperation : ready.stop.operationID = operation.operationID
  stopContainer : ready.stop.containerID = intent.containerID
  stopBoot : ready.stop.bootID = intent.expectedBootID
  stopState : ready.stop.state = .confirmed
  stop : ConfirmedStop ready.stop
  beforeFresh : FreshEvidence ready.beforeStop.observedAt ready.stop.requestedAt
  beforeMatches : ObservationMatches ready.beforeStop intent
  beforeClosed : ready.beforeStop.admissionClosed = true
  beforeMaintenance : ready.beforeStop.maintenance = true
  beforePlayers : ready.beforeStop.players = 0
  beforeRunning : ready.beforeStop.processStopped = false
  offlineFresh : FreshEvidence ready.offline.observedAt now
  offlineMatches : ObservationMatches ready.offline intent
  offlineClosed : ready.offline.admissionClosed = true
  offlineStopped : ready.offline.processStopped = true
  finishedOffline : ready.stop.finishedAt ≤ ready.offline.observedAt

theorem BackupReadyEvidence.validate_eq_ok
    (valid : ready.validate codec enrollment intent operation now = .ok ()) :
    ReadyFor codec ready intent operation now := by
  unfold BackupReadyEvidence.validate at valid
  simp only [bind_eq_ok, refuse_eq_ok, not_or, not_not] at valid
  obtain ⟨_, isSealed, _, ⟨intentID, digest, enrollmentID⟩, _, -, _, stopStep, _, before,
    _, offline, _, ⟨closed, maintenance, players, running, offlineClosed, offlineStopped⟩,
    _, ⟨stopOperation, container, boot, state, confirmed⟩, finished⟩ := valid
  obtain ⟨beforeFresh, beforeMatches⟩ := SafetyObservation.validate_eq_ok codec before
  obtain ⟨offlineFresh, offlineMatches⟩ := SafetyObservation.validate_eq_ok codec offline
  exact {
    sealedIntent := isSealed, ownsIntent := intentID, ownsDigest := digest,
    ownsEnrollment := enrollmentID, stopStep := stopStep, stopOperation := stopOperation,
    stopContainer := container, stopBoot := boot, stopState := state,
    stop := (classifyStop_confirmed confirmed).1, beforeFresh := beforeFresh,
    beforeMatches := beforeMatches, beforeClosed := closed, beforeMaintenance := maintenance,
    beforePlayers := players, beforeRunning := by simpa using running,
    offlineFresh := offlineFresh, offlineMatches := offlineMatches,
    offlineClosed := offlineClosed, offlineStopped := offlineStopped,
    finishedOffline := not_lt.mp finished }

end GuardedAgentRunner
