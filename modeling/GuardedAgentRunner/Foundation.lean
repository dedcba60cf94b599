/-
This file models `Foundation.Run`, the coordinator of the steps S00 to S05: the
checks at its entry, the loop that resumes each step from the journal, the
read-only checks before a step is marked possibly dispatched, the target calls of
each step with their waiting loops, and the path that makes an uncertain outcome
durable even when the execution budget has expired.
-/

import GuardedAgentRunner.Engine

namespace GuardedAgentRunner

open Fallible Program

/-! ### The enrolled target -/

namespace Target

/-- `Target.ObserveSafety`. -/
def observeSafety (offline : Bool) : Flow SafetyObservation :=
  ExceptT.mk (ask (Effect.observeSafety offline))

/-- `Target.CloseAdmission`. -/
def closeAdmission (operationID stepID : String) : Flow MaintenanceReceipt :=
  ExceptT.mk (ask (Effect.closeAdmission operationID stepID))

/-- `Target.DispatchGracefulStop`. -/
def dispatchGracefulStop (request : StopRequest) : Flow Unit :=
  ExceptT.mk (ask (Effect.dispatchGracefulStop request))

/-- `Target.ObserveStop`. -/
def observeStop (request : StopRequest) : Flow (StopEvidence × Option Failure) :=
  ExceptT.lift (ask (Effect.observeStop request))

end Target

/-- The zero value of a safety observation. -/
def SafetyObservation.zero : SafetyObservation where
  available := false
  observedAt := 0
  enrollment := {
    targetID := "", enrollmentID := "", deploymentGeneration := 0, containerID := ""
    imageDigest := "", dataRootIdentity := "", gameEndpoint := "", runtimeGuardPairing := ""
    bootstrapFingerprint := "", policyID := "", policyRevision := "", policyDigest := ""
    supportProfileID := "", paperTuple := "", allowedPlugins := .absent }
  bootID := ""
  inventoryDigest := ""
  configDigest := ""
  sourceArtifactID := ""
  sourceSHA256 := ""
  admissionClosed := false
  maintenance := false
  players := 0
  processStopped := false
  filesystemRootExists := false
  noConflictingWriter := false
  references := []

/-- The coordinator: whether its adapters are set, its enrollment, the evidence level it claims,
its backup engine, and whether a test hook is set. -/
structure Foundation where
  configured : Bool
  enrollment : Enrollment
  level : String
  engine : Engine
  boundary : Bool

namespace Foundation

variable (codec : Codec) (foundation : Foundation) (operationID : String) (intent : ChangeIntent)
  (operation : Operation) (attempt : StepAttempt)

/-- `evidenceLevel`. -/
def evidenceLevel : String := if foundation.level = "" then "FAKE_TARGET" else foundation.level

/-! ### Evidence -/

/-- `observe`. -/
def observe (offline : Bool) : Flow SafetyObservation := do
  match ← reify (Target.observeSafety offline) with
  | .error failure => throw (newError .preconditionUnavailable failure.text)
  | .ok observation => do
    observation.validate codec foundation.enrollment intent (← now)
    pure observation

/-- The evidence text of the durable stop of an operation, with its step. -/
def stopEvidence : Except Failure (String × String) :=
  match operation.attempts[3]? with
  | some stop =>
    match stop.attribution, stop.evidence with
    | .correlated, [text] => .ok (stop.stepID, text)
    | _, _ => .error (newError .preconditionUnavailable "durable stop evidence is absent")
  | none => .error (newError .preconditionUnavailable "durable stop evidence is absent")

/-- `offline`. -/
def offline : Flow BackupReadyEvidence := do
  let (stepID, text) ← stopEvidence operation
  let ready ← codec.decode text
  refuse (ready.stop.stepID ≠ stepID)
    (newError .preconditionUnavailable "stop step attribution mismatch")
  let observation ← foundation.observe codec intent true
  let ready := { ready with offline := observation }
  ready.validate codec foundation.enrollment intent operation (← now)
  pure ready

/-- One look of `waitMaintenance`. -/
def lookMaintenance : Flow (Unit ⊕ SafetyObservation) := do
  match ← reify (foundation.observe codec intent false) with
  | .ok observation =>
    if observation.admissionClosed ∧ observation.maintenance ∧ observation.players = 0 then
      pure (.inr observation)
    else pure (.inl ())
  | .error failure =>
    if failure.codeOf = .intentStale then throw failure else pure (.inl ())

/-- `waitMaintenance`. -/
def waitMaintenance : Flow SafetyObservation := do
  let (ticks, ended) ← ExceptT.lift (ask Effect.polls)
  poll (foundation.lookMaintenance codec intent) (fun _ => throw ended) ticks

/-- The evidence is for the requested stop. -/
def AnswersRequest (request : StopRequest) (stop : StopEvidence) : Prop :=
  stop.operationID = request.operationID ∧ stop.stepID = request.stepID ∧
    stop.containerID = request.containerID ∧ stop.bootID = request.bootID ∧
    stop.requestedAt = request.requestedAt
deriving Decidable

/-- What one reading of the requested stop says: keep waiting, or the evidence with the error
that ends the wait, if any. -/
def judgeStop (stop : StopEvidence) (now : Time) :
    StopEvidence ⊕ (StopEvidence × Option Failure) :=
  let stop := { stop with state := classifyStop .dispatchPossible stop now }
  if stop.state = .confirmed then .inr (stop, none)
  else if stop.state = .failed then
    .inr (stop, some (.other "graceful termination failed; backup forbidden"))
  else if stop.state = .unknown then
    .inr (stop, some (.other "stop completion or attribution is unknown"))
  else .inl stop

/-- One look of `waitStopped`. -/
def lookStopped (request : StopRequest) :
    Flow (StopEvidence ⊕ (StopEvidence × Option Failure)) := do
  let (stop, failure) ← Target.observeStop request
  match failure with
  | some _ => pure (.inl stop)
  | none =>
    if AnswersRequest request stop then pure (judgeStop stop (← now))
    else
      pure (.inr ({ stop with state := .unknown },
        some (.other "stop observation belongs to another dispatch or target")))

/-- `waitStopped`. -/
def waitStopped (request : StopRequest) : Flow (StopEvidence × Option Failure) := do
  let (ticks, ended) ← ExceptT.lift (ask Effect.polls)
  poll (lookStopped request) (fun stop => pure (stop, some ended)) ticks

/-! ### Recording -/

/-- `RecordStepObservation` at the current time. -/
def record (context : Context) (stepID : String) (effect : EffectState)
    (attribution : Attribution) (evidence : List String) : Flow Unit := do
  store context
    (.recordStepObservation operationID stepID effect attribution evidence (← now))

/-- `unknown`. -/
def unknown {Result : Type} (operation : Operation) (attempt : StepAttempt) (reason : String) :
    Flow Result := do
  record operation.operationID .detached attempt.stepID .unknown .unattributed [reason]
  throw (newError .dispatchOutcomeUnknown reason)

/-- Mark the attempt possibly dispatched; its time is the time of the request. -/
def dispatch : Flow Time := do
  let requestedAt ← now
  store .bounded (.markDispatchPossible operationID attempt.stepID requestedAt)
  checkpoint foundation.boundary ("dispatch_possible:" ++ attempt.stepKind.text)
  pure requestedAt

/-- Record the evidence of a completed step. -/
def complete (evidence : Evidence) : Flow Unit := do
  match codec.encode evidence with
  | .error failure => unknown operation attempt failure.text
  | .ok text => do
    record operationID .bounded attempt.stepID .expectedObserved .correlated [text]
    checkpoint foundation.boundary ("completed:" ++ attempt.stepKind.text)

/-! ### The steps -/

/-- The read-only checks before S01, S02 and S03. -/
def checkTarget (n : Nat) : Flow SafetyObservation := do
  let before ← foundation.observe codec intent false
  refuse before.processStopped
    (newError .intentStale "Paper is already stopped without this operation's stop evidence")
  refuse (n ≥ 2 ∧ before.players ≠ 0)
    (newError .intentStale "players_zero predicate is false")
  refuse (n = 3 ∧ (¬ before.admissionClosed ∨ ¬ before.maintenance))
    (newError .preconditionUnavailable "maintenance acknowledgement is unavailable")
  pure before

/-- S00. -/
def claimOperation : Flow Unit := do
  let _ ← foundation.dispatch operationID attempt
  foundation.complete codec operationID operation attempt
    (.claim operation.operationID intent.intentDigest operation.executionEpoch)

/-- S01. -/
def revalidate : Flow Unit := do
  let before ← foundation.checkTarget codec intent 1
  let _ ← foundation.dispatch operationID attempt
  foundation.complete codec operationID operation attempt (.revalidated before)

/-- The receipt is for this step and fresh; the clock is read only for a receipt of this step. -/
def receipted (receipt : MaintenanceReceipt) (stepID : String) (requestedAt : Time) : Flow Bool :=
  if receipt.operationID = operationID ∧ receipt.stepID = stepID ∧
      ¬ receipt.closedAt.Before requestedAt then do
    pure (FreshEvidence receipt.closedAt (← now) ∧ receipt.references.length ≠ 0)
  else pure false

/-- S02. -/
def acquireMaintenance : Flow Unit := do
  let _ ← foundation.checkTarget codec intent 2
  let requestedAt ← foundation.dispatch operationID attempt
  match ← reify (Target.closeAdmission operationID attempt.stepID) with
  | .error failure => unknown operation attempt failure.text
  | .ok receipt => do
    if ← receipted operationID receipt attempt.stepID requestedAt then
      match ← reify (foundation.waitMaintenance codec intent) with
      | .error failure => unknown operation attempt failure.text
      | .ok closed =>
        foundation.complete codec operationID operation attempt (.maintenance receipt closed)
    else unknown operation attempt "maintenance receipt is not correlated"

/-- The path of S03 when the stop was not confirmed. -/
def unconfirmedStop {Result : Type} (operation : Operation) (attempt : StepAttempt)
    (request : StopRequest) (stop : StopEvidence) (failure : Failure) : Flow Result := do
  if stop.state = .failed then do
    record operationID .detached attempt.stepID .otherObserved stop.attribution stop.references
    throw (newError .externalIntervention failure.text)
  else if stop.containerID = request.containerID ∧ stop.bootID = request.bootID ∧
      stop.lifecycleAvailable ∧ ¬ stop.running then do
    if FreshEvidence stop.observedAt (← now) ∧ stop.attribution ≠ .correlated then do
      record operationID .detached attempt.stepID .expectedObserved .unattributed stop.references
      store .detached (.markUnknown operationID (← now))
      throw (newError .dispatchOutcomeUnknown failure.text)
    else unknown operation attempt failure.text
  else unknown operation attempt failure.text

/-- S03. -/
def gracefulStop : Flow Unit := do
  let before ← foundation.checkTarget codec intent 3
  let requestedAt ← foundation.dispatch operationID attempt
  let request : StopRequest :=
    ⟨operationID, attempt.stepID, intent.containerID, intent.expectedBootID, requestedAt⟩
  match ← reify (Target.dispatchGracefulStop request) with
  | .error failure => unknown operation attempt failure.text
  | .ok _ => do
    match ← waitStopped request with
    | (stop, some failure) => unconfirmedStop operationID operation attempt request stop failure
    | (stop, none) =>
      foundation.complete codec operationID operation attempt (.ready ⟨before, .zero, stop⟩)

/-- S04. -/
def offlineRevalidation : Flow Unit := do
  let ready ← foundation.offline codec intent operation
  let _ ← foundation.dispatch operationID attempt
  foundation.complete codec operationID operation attempt (.ready ready)

/-- `Backup.Create`: the call, then the body of the engine. -/
def callCreate (record : BackupRecord) (check : Flow BackupReadyEvidence) : Flow Unit := do
  ExceptT.lift (ask (Effect.createBackup record))
  foundation.engine.create record check

/-- The record S05 hands to the backup engine. -/
def backupRecord (ready : BackupReadyEvidence) (createdAt : Time) :
    BackupRecord where
  evidenceLevel := foundation.evidenceLevel
  backupID := intent.reservedBackupID
  schemaVersion := "gar.backup.v1"
  targetID := foundation.enrollment.targetID
  enrollmentID := intent.enrollmentID
  deploymentGeneration := intent.deploymentGeneration
  containerIdentity := intent.containerID
  dataRootIdentity := foundation.enrollment.dataRootIdentity
  paperTuple := intent.paperTuple
  bootIDBeforeStop := intent.expectedBootID
  intentID := intent.intentID
  intentDigest := intent.intentDigest
  operationID := operationID
  stepID := attempt.stepID
  sourceInventoryDigest := intent.inventoryDigest
  sourceConfigDigest := intent.configDigest
  sourceArtifacts :=
    [{ artifactID := intent.fromArtifactID, pluginID := intent.pluginID
       sha256 := intent.fromSHA256 }]
  backupRecipeID := backupRecipeID
  backupRecipeDigest := intent.backupRecipeDigest
  createdAt := createdAt
  completedAt := 0
  consistencyMode := "OFFLINE"
  archiveSizeBytes := 0
  archiveSHA256 := ""
  digestVerifiedAt := 0
  status := .reserved
  ready := ready

/-- The operation shows the sixth step completed. -/
def showsBackup : Bool :=
  match operation.attempts[5]? with
  | some attempt =>
    operation.attempts.length = 6 && attempt.effectState = .expectedObserved &&
      attempt.attribution = .correlated
  | none => false

/-- S05. -/
def createBackup : Flow Unit := do
  let ready ← foundation.offline codec intent operation
  let _ ← foundation.dispatch operationID attempt
  let createdAt ← now
  match ← reify (foundation.callCreate
      (foundation.backupRecord operationID intent attempt ready createdAt)
      (foundation.offline codec intent operation)) with
  | .ok _ => pure ()
  | .error failure => do
    match ← reify (store .bounded (.getOperation operationID)) with
    | .ok fresh =>
      if showsBackup fresh then throw failure
      else unknown operation attempt failure.text
    | .error _ => unknown operation attempt failure.text

/-- The kind of the step with a given number. -/
def stepKind (n : Nat) : StepKind := fixedWorkflowSteps.getD n .finalize

/-- The attempt the loop works on: none if the step is complete, the prepared one, or a new
one. An attempt that may have been dispatched is given up as unknown. -/
def resume (n : Nat) : Flow (Option StepAttempt) :=
  match operation.attempts[n]? with
  | some attempt =>
    if attempt.Complete then pure none
    else if attempt.dispatchState ≠ .notDispatched ∨ attempt.effectState ≠ .provenNotApplied then
      unknown operation attempt "interrupted dispatch cannot be repeated"
    else pure (some attempt)
  | none => do
    let attempt ← store .bounded (.prepareStep operationID (stepKind n) (← now))
    checkpoint foundation.boundary ("prepared:" ++ attempt.stepKind.text)
    pure (some attempt)

/-- The rest of the loop body for the attempt of one step. -/
def work : Nat → Flow Unit
  | 0 => foundation.claimOperation codec operationID intent operation attempt
  | 1 => foundation.revalidate codec operationID intent operation attempt
  | 2 => foundation.acquireMaintenance codec operationID intent operation attempt
  | 3 => foundation.gracefulStop codec operationID intent operation attempt
  | 4 => foundation.offlineRevalidation codec operationID intent operation attempt
  | _ => foundation.createBackup codec operationID intent operation attempt

/-- Move the operation along its state machine at the current time. -/
def transition (status : OperationStatus) : Flow Unit := do
  store .bounded (.transitionOperation operationID status .notStarted false (← now))

/-- S03 starts executing. -/
def startExecuting (n : Nat) : Flow Unit :=
  if n = 3 ∧ operation.status = .preparing then transition operationID .executing else pure ()

/-- The loop body of `Run`. -/
def iterate (n : Nat) : Flow Unit := do
  let operation ← store .bounded (.getOperation operationID)
  refuse (operation.status = .unknown ∨ operation.status = .needsIntervention)
    (newError .targetBlockedUnknown "operation is unresolved")
  match ← foundation.resume operationID operation n with
  | none => pure ()
  | some attempt => do
    startExecuting operationID operation n
    foundation.work codec operationID intent operation attempt n

/-! ### The entry -/

/-- The statuses `Run` continues from. -/
def runnableStatuses : List OperationStatus := [.queued, .preparing, .executing]

/-- What `Run` checks of the operation and its intent. -/
def checkEntry (record : IntentRecord) : Except Failure Unit := do
  record.intent.validateDigest codec
  refuse (operation.intentDigest ≠ record.intent.intentDigest ∨ record.status ≠ .consumed ∨
      operation.enrollmentID ≠ foundation.enrollment.enrollmentID)
    (newError .approvalRequired "foundation requires an independently approved exact intent")
  refuse (record.intent.steps.items ≠ fixedWorkflowSteps)
    (newError .scopeDenied "unrecognized workflow")
  refuse (operation.ownershipReleased ∨ operation.status ∉ runnableStatuses)
    (newError .targetBlockedUnknown "operation cannot continue")
  refuse (record.intent.executionBudgetSeconds ≤ 0 ∨ record.intent.executionBudgetSeconds > 900)
    (newError .invalidRequest "foundation requires a bounded approved execution budget")

/-- What `Run` checks of the clock before its first transaction; the last reading fixes when
the execution budget ends. -/
def checkClock : Flow Unit := do
  let reading ← now
  let started := (operation.attempts.head?.map (·.preparedAt)).getD reading
  let elapsed := newError .clockUnsafe "execution budget elapsed or clock moved backwards"
  refuse (started.After (← now)) elapsed
  refuse (¬ (← now).Before (started.add (intent.executionBudgetSeconds * Duration.second))) elapsed
  let _ ← now

/-- What `Run` checks of the deadline before the first durable step. -/
def checkStart : Flow Unit :=
  if (operation.attempts.head?.map (·.dispatchState)).getD .notDispatched = .notDispatched then do
    refuse (¬ (← now).Before intent.startBefore)
      (newError .approvalExpired "start deadline elapsed before first durable step")
  else pure ()

/-- A queued operation starts preparing. -/
def startPreparing : Flow Unit :=
  if operation.status = .queued then do
    refuse (¬ (← now).Before intent.startBefore)
      (newError .approvalExpired "start deadline elapsed")
    transition operationID .preparing
  else pure ()

/-- `Run`. -/
def run : Flow Unit := do
  refuse (¬ foundation.configured)
    (newError .preconditionUnavailable "foundation adapters are not configured")
  let operation ← store .bounded (.getOperation operationID)
  let record ← store .bounded (.getIntent operation.intentID)
  foundation.checkEntry codec operation record
  checkClock record.intent operation
  checkStart record.intent operation
  startPreparing operationID record.intent operation
  (List.range 6).forM (foundation.iterate codec operationID record.intent)
  foundation.engine.inspect record.intent.reservedBackupID

end Foundation

end GuardedAgentRunner
