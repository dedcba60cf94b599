/-
This file follows one backup through every run of the store. A record enters the
backup table as a reservation bound to the sealed intent of its operation, moves
along the filesystem phases, and becomes valid only by a completion whose
evidence forms one chain in time from the last look at the running target to the
commit. What the reservation fixed and what a final status says never change.
-/

import GuardedAgentRunner.Refinement

namespace GuardedAgentRunner

open Store Ledger

variable {codec : Codec} {before after : Ledger} {call : StoreCall} {status : BackupStatus}

/-! ### The phases of a backup -/

/-- The moves of a backup: forward through the phases, or from a phase to an abandoned status. -/
inductive BackupStatus.Advances : BackupStatus → BackupStatus → Prop
  | write : Advances .reserved .writing
  | finalize : Advances .writing .finalizing
  | verify : Advances .finalizing .verifying
  | complete : Advances .verifying .valid
  | abandon {status successor : BackupStatus}
      (unfinished : status ∈ [BackupStatus.reserved, .writing, .finalizing, .verifying])
      (abandoned : successor ∈ [BackupStatus.failed, .unknown, .orphaned]) :
      Advances status successor

/-- The statuses that end a backup. -/
def BackupStatus.Final (status : BackupStatus) : Prop :=
  status ∈ [BackupStatus.valid, .failed, .unknown, .orphaned]
deriving Decidable

theorem allowedTransition_advances {successor : BackupStatus}
    (allowed : allowedTransition status successor = true) : status.Advances successor := by
  have phases : ∀ {phase forward : BackupStatus},
      phase ∈ [BackupStatus.reserved, .writing, .finalizing, .verifying] →
      phase.Advances forward → successor ∈ [forward, .failed, .unknown, .orphaned] →
      phase.Advances successor := by
    intro phase forward unfinished advances reached
    rcases List.mem_cons.mp reached with rfl | abandoned
    · exact advances
    · exact .abandon unfinished abandoned
  cases status with
  | reserved => exact phases (by decide) .write (of_decide_eq_true allowed)
  | writing => exact phases (by decide) .finalize (of_decide_eq_true allowed)
  | finalizing => exact phases (by decide) .verify (of_decide_eq_true allowed)
  | verifying => exact .abandon (by decide) (of_decide_eq_true allowed)
  | valid | failed | unknown | orphaned | other => cases allowed

theorem allowedTransition_of_final (final : status.Final) (successor : BackupStatus) :
    allowedTransition status successor = false := by
  simp only [BackupStatus.Final, List.mem_cons, List.not_mem_nil, or_false] at final
  rcases final with rfl | rfl | rfl | rfl <;> rfl

variable {record : BackupRecord} {operation : Operation} {intent : ChangeIntent}
  {next : BackupRecord} {backupID : String}

theorem Ledger.BackupMove.advances (move : BackupMove codec before backupID call record next) :
    record.status.Advances next.status := by
  cases move with
  | advanced allowed => exact allowedTransition_advances allowed
  | completed _ _ _ completable =>
    rw [completable.verifying]
    exact .complete

/-! ### What the reservation fixes -/

/-- The later record differs at most in what completion fills in. -/
def KeepsReservation (record later : BackupRecord) : Prop :=
  later =
    { record with
      status := later.status
      archiveSHA256 := later.archiveSHA256
      archiveSizeBytes := later.archiveSizeBytes
      ready := later.ready
      digestVerifiedAt := later.digestVerifiedAt
      completedAt := later.completedAt }

theorem KeepsReservation.trans {middle later : BackupRecord}
    (first : KeepsReservation record middle) (second : KeepsReservation middle later) :
    KeepsReservation record later := by
  unfold KeepsReservation at first second
  rw [first] at second
  exact second

/-- Every backup is still there, with its reservation, and unchanged if it had ended. -/
def BackupsPersist (before after : Ledger) : Prop :=
  ∀ id record, before.backups id = some record →
    ∃ later, after.backups id = some later ∧ KeepsReservation record later ∧
      (record.status.Final → later = record)

theorem BackupsPersist.refl (ledger : Ledger) : BackupsPersist ledger ledger :=
  fun _ record found => ⟨record, found, rfl, fun _ => rfl⟩

theorem BackupsPersist.trans {first second third : Ledger} (early : BackupsPersist first second)
    (late : BackupsPersist second third) : BackupsPersist first third := by
  intro id record found
  obtain ⟨middle, middleFound, earlyKeeps, earlyFinal⟩ := early id record found
  obtain ⟨later, laterFound, lateKeeps, lateFinal⟩ := late id middle middleFound
  refine ⟨later, laterFound, earlyKeeps.trans lateKeeps, fun final => ?_⟩
  have same := earlyFinal final
  subst same
  exact lateFinal final

theorem Ledger.Step.backupsPersist (step : Step codec before call after) :
    BackupsPersist before after := by
  intro id record found
  rcases step.backup_cases id with same | ⟨stored, next, present, now, move⟩ |
    ⟨_, _, _, _, -, rfl, -, reserves⟩
  · exact ⟨record, same.trans found, rfl, fun _ => rfl⟩
  · rw [found] at present
    cases present
    cases move with
    | advanced allowed =>
      refine ⟨_, now, rfl, fun final => ?_⟩
      rw [allowedTransition_of_final final] at allowed
      cases allowed
    | completed _ _ _ completable =>
      refine ⟨_, now, rfl, fun final => ?_⟩
      rw [completable.verifying] at final
      exact absurd final (by decide)
  · have fresh := reserves.fresh
    rw [found] at fresh
    cases fresh

/-! ### The evidence behind a backup -/

/-- The evidence of a valid backup: one chain of readings from the running target to the commit,
made for the operation, its stop step and its sealed intent. -/
structure EvidenceChain (record : BackupRecord) (intent : ChangeIntent) (operation : Operation) :
    Prop where
  beforeRequested : record.ready.beforeStop.observedAt ≤ record.ready.stop.requestedAt
  requestedFinished : record.ready.stop.requestedAt ≤ record.ready.stop.finishedAt
  finishedOffline : record.ready.stop.finishedAt ≤ record.ready.offline.observedAt
  offlineCompleted : record.ready.offline.observedAt ≤ record.completedAt
  finishedObserved : record.ready.stop.finishedAt ≤ record.ready.stop.observedAt
  beforeRecent :
    record.ready.stop.requestedAt - record.ready.beforeStop.observedAt ≤ 5 * Duration.second
  offlineRecent : record.completedAt - record.ready.offline.observedAt ≤ 5 * Duration.second
  createdVerified : record.createdAt ≤ record.digestVerifiedAt
  verifiedCompleted : record.digestVerifiedAt = record.completedAt
  exited : record.ready.stop.exitCode = 0
  notKilled : record.ready.stop.oomKilled = false
  correlated : record.ready.stop.attribution = .correlated
  stopOperation : record.ready.stop.operationID = record.operationID
  stopStep : ∃ attempt, operation.attempts[3]? = some attempt ∧
    attempt.stepID = record.ready.stop.stepID ∧ attempt.stepKind = .gracefulStop
  beforePlayers : record.ready.beforeStop.players = 0
  beforeClosed : record.ready.beforeStop.admissionClosed = true
  beforeMaintenance : record.ready.beforeStop.maintenance = true
  beforeRunning : record.ready.beforeStop.processStopped = false
  offlineClosed : record.ready.offline.admissionClosed = true
  offlineStopped : record.ready.offline.processStopped = true
  beforeMatches : ObservationMatches record.ready.beforeStop intent
  offlineMatches : ObservationMatches record.ready.offline intent
  digestLength : record.archiveSHA256.length = 64
  digestHex : ∀ digit ∈ record.archiveSHA256.toList, (hexValue digit).isSome
  size : 0 < record.archiveSizeBytes

theorem Store.Completable.evidenceChain {digest : String} {size : Int}
    {ready : BackupReadyEvidence} {step : StepAttempt} {now : Time}
    (completable : Completable codec record digest size ready intent operation step now)
    (owner : record.operationID = operation.operationID) :
    EvidenceChain (completedRecord record digest size ready now) intent operation := by
  have valid := completable.ready
  obtain ⟨beforeRequested, beforeRecent⟩ := valid.beforeFresh.window
  obtain ⟨offlineCompleted, offlineRecent⟩ := valid.offlineFresh.window
  obtain ⟨attempt, fourth, names, kind, -⟩ := valid.stopStep
  obtain ⟨bytes, decoded, counted⟩ := Option.map_eq_some_iff.mp completable.digest
  obtain ⟨length, digits⟩ := hexDecode_eq_some decoded
  rw [counted] at length
  exact {
    beforeRequested := beforeRequested, requestedFinished := valid.stop.requestedFinished
    finishedOffline := valid.finishedOffline, offlineCompleted := offlineCompleted
    finishedObserved := valid.stop.finishedObserved, beforeRecent := beforeRecent
    offlineRecent := offlineRecent, createdVerified := completable.created
    verifiedCompleted := rfl, exited := valid.stop.exited, notKilled := valid.stop.notKilled
    correlated := valid.stop.correlated, stopOperation := valid.stopOperation.trans owner.symm
    stopStep := ⟨attempt, fourth, names, kind⟩, beforePlayers := valid.beforePlayers
    beforeClosed := valid.beforeClosed, beforeMaintenance := valid.beforeMaintenance
    beforeRunning := valid.beforeRunning, offlineClosed := valid.offlineClosed
    offlineStopped := valid.offlineStopped, beforeMatches := valid.beforeMatches
    offlineMatches := valid.offlineMatches, digestLength := length, digestHex := digits
    size := completable.size }

theorem EvidenceChain.continues {later : Operation}
    (chain : EvidenceChain record intent operation) (continues : Continues operation later) :
    EvidenceChain record intent later := by
  obtain ⟨attempt, fourth, names, kind⟩ := chain.stopStep
  obtain ⟨next, nextFourth, same⟩ := continues.steps 3 attempt fourth
  exact { chain with
    stopStep := ⟨next, nextFourth, same.stepID.trans names, same.stepKind.trans kind⟩ }

/-- The record is bound to the sealed intent of its operation, and its evidence is complete if
it is valid. -/
structure Justified (codec : Codec) (record : BackupRecord) (intent : ChangeIntent)
    (operation : Operation) : Prop where
  sealedIntent : intent.Sealed codec
  bound : BoundTo codec record intent
  chain : record.status = .valid → EvidenceChain record intent operation

/-- Every backup is justified by the stored operation and the stored intent it belongs to. -/
def BackupsJustified (codec : Codec) (ledger : Ledger) : Prop :=
  ∀ id record, ledger.backups id = some record →
    ∃ operation intent, ledger.operations record.operationID = some operation ∧
      ledger.intents operation.intentID = some intent ∧
      Justified codec record intent.intent operation

theorem Ledger.BackupMove.justified (move : BackupMove codec before backupID call record next)
    {intent : IntentRecord} (opened : before.operations record.operationID = some operation)
    (found : before.intents operation.intentID = some intent)
    (justified : Justified codec record intent.intent operation) :
    Justified codec next intent.intent operation := by
  cases move with
  | advanced allowed =>
    exact ⟨justified.sealedIntent, { justified.bound with },
      fun valid => absurd valid (allowedTransition_ne_valid allowed)⟩
  | completed writerOpened owner writerFound completable =>
    rw [← owner, opened] at writerOpened
    cases writerOpened
    rw [found] at writerFound
    cases writerFound
    exact ⟨justified.sealedIntent, { justified.bound with },
      fun _ => completable.evidenceChain owner⟩

theorem BackupsJustified.step (justified : BackupsJustified codec before)
    (step : Step codec before call after) : BackupsJustified codec after := by
  have continued : ∀ {record : BackupRecord} {operation : Operation} {intent : IntentRecord},
      before.operations record.operationID = some operation →
      before.intents operation.intentID = some intent →
      Justified codec record intent.intent operation →
      ∃ operation intent, after.operations record.operationID = some operation ∧
        after.intents operation.intentID = some intent ∧
        Justified codec record intent.intent operation := by
    intro record operation intent opened found justifies
    obtain ⟨laterOperation, laterOpened, continues⟩ := step.operation_continues opened
    obtain ⟨laterIntent, laterFound, same⟩ := step.intent_continues found
    refine ⟨laterOperation, laterIntent, laterOpened, ?_, ?_⟩
    · rw [continues.identity.intentID]
      exact laterFound
    · rw [same]
      exact { justifies with chain := fun valid => (justifies.chain valid).continues continues }
  intro id record present
  rcases step.backup_cases id with same | ⟨stored, next, earlier, now, move⟩ |
    ⟨reserved, operation, intent, _, -, rfl, now, reserves⟩
  · rw [same] at present
    obtain ⟨operation, intent, opened, found, justifies⟩ := justified id record present
    exact continued opened found justifies
  · obtain rfl : next = record := Option.mem_unique now present
    obtain ⟨operation, intent, opened, found, justifies⟩ := justified id stored earlier
    have sameOperation : next.operationID = stored.operationID := by cases move <;> rfl
    refine continued ?_ found (move.justified opened found justifies)
    rw [sameOperation]
    exact opened
  · rw [now] at present
    cases present
    refine continued reserves.opened reserves.found
      ⟨reserves.reservable.ready.sealedIntent, reserves.reservable.bound, fun valid => ?_⟩
    rw [reserves.reservable.status] at valid
    cases valid

theorem replay_backupsJustified (log : List Transaction) :
    BackupsJustified codec (replay codec log).ledger :=
  replay_ledger (fun _ _ present => nomatch present) (fun _ justified step => justified.step step)
    log

theorem justified_rows {log : List Transaction}
    (found : (replay codec log).backup record.backupID = some record) :
    ∃ operation ∈ (replay codec log).operations.rows, ∃ intent ∈ (replay codec log).intents.rows,
      operation.operationID = record.operationID ∧ intent.intentID = operation.intentID ∧
      Justified codec record intent.payload.intent operation.payload := by
  have coherent : (replay codec log).Coherent := replay_coherent log
  obtain ⟨operation, intent, opened, intentFound, justifies⟩ :=
    replay_backupsJustified log record.backupID record found
  obtain ⟨operationIn, operationID⟩ := coherent.operation_eq_some.mp opened
  obtain ⟨intentIn, intentID⟩ := coherent.intent_eq_some.mp intentFound
  exact ⟨_, operationIn, _, intentIn, operationID, intentID, justifies⟩

/-- In every database that is reached, the evidence of a valid backup is a chain made for the
stored operation and the sealed intent the backup belongs to. -/
theorem valid_backup_has_chain (log : List Transaction) (row : BackupRow)
    (member : row ∈ (replay codec log).backups.rows) (valid : row.status = .valid) :
    ∃ operation ∈ (replay codec log).operations.rows, ∃ intent ∈ (replay codec log).intents.rows,
      operation.operationID = row.operationID ∧ intent.intentID = operation.intentID ∧
      intent.payload.intent.Sealed codec ∧
      EvidenceChain row.payload intent.payload.intent operation.payload := by
  obtain ⟨record, rfl, found⟩ := (replay_coherent log).backup_row member
  obtain ⟨operation, operationIn, intent, intentIn, names, owner, justifies⟩ :=
    justified_rows found
  exact ⟨operation, operationIn, intent, intentIn, names, owner, justifies.sealedIntent,
    justifies.chain valid⟩

/-- A step of the fixture's operation is prepared, dispatched and acknowledged. -/
def fixtureStep (name : String) (stepKind : StepKind) : List Transaction :=
  [⟨fixtureIDs name, .prepareStep "operation_a" stepKind fixtureNow⟩,
    ⟨fixtureIDs name, .markDispatchPossible "operation_a" ("step_" ++ name) fixtureNow⟩,
    ⟨fixtureIDs name, .recordStepObservation "operation_a" ("step_" ++ name) .expectedObserved
      .correlated ["fixture evidence"] fixtureNow⟩]

/-- The reservation of the fixture's operation. -/
def fixtureReservation : BackupRecord where
  evidenceLevel := "FAKE_TARGET"
  backupID := "backup_a"
  schemaVersion := "gar.backup.v1"
  targetID := fixtureEnrollment.targetID
  enrollmentID := fixtureEnrollment.enrollmentID
  deploymentGeneration := fixtureEnrollment.deploymentGeneration
  containerIdentity := fixtureEnrollment.containerID
  dataRootIdentity := fixtureEnrollment.dataRootIdentity
  paperTuple := fixtureEnrollment.paperTuple
  bootIDBeforeStop := "boot-a"
  intentID := "intent_a"
  intentDigest := firstProposal.intent.intentDigest
  operationID := "operation_a"
  stepID := "step_5"
  sourceInventoryDigest := "inventory-a"
  sourceConfigDigest := "config-a"
  sourceArtifacts :=
    [{ artifactID := "artifact-a", sha256 := firstProposal.intent.fromSHA256
       pluginID := "example" }]
  backupRecipeID := backupRecipeID
  backupRecipeDigest := fixtureRecipeDigest
  createdAt := fixtureNow
  completedAt := 0
  consistencyMode := "OFFLINE"
  archiveSizeBytes := 0
  archiveSHA256 := ""
  digestVerifiedAt := 0
  status := .reserved
  ready := fixtureReady

/-- The transactions of the fixture's operation up to the reservation of its backup. -/
def reservedBackup : List Transaction :=
  openFirst ++
    [⟨fixtureIDs "0", .transitionOperation "operation_a" .preparing .notStarted false
      fixtureNow⟩] ++
    fixtureStep "0" .claimOperation ++ fixtureStep "1" .revalidate ++
    fixtureStep "2" .acquireMaintenance ++
    [⟨fixtureIDs "3", .transitionOperation "operation_a" .executing .notStarted false
      fixtureNow⟩] ++
    fixtureStep "3" .gracefulStop ++ fixtureStep "4" .offlineRevalidation ++
    [⟨fixtureIDs "5", .prepareStep "operation_a" .createBackup fixtureNow⟩,
      ⟨fixtureIDs "5", .markDispatchPossible "operation_a" "step_5" fixtureNow⟩,
      ⟨fixtureIDs "5", .reserveBackup fixtureReservation fixtureNow⟩]

/-- The transactions that take a reserved backup to its completion. -/
def completedPhases : List Transaction :=
  [⟨fixtureIDs "5", .transitionBackupStatus "backup_a" .writing fixtureNow⟩,
    ⟨fixtureIDs "5", .transitionBackupStatus "backup_a" .finalizing fixtureNow⟩,
    ⟨fixtureIDs "5", .transitionBackupStatus "backup_a" .verifying fixtureNow⟩,
    ⟨fixtureIDs "5", .completeBackup "backup_a" firstProposal.intent.fromSHA256 1024 fixtureReady
      fixtureNow⟩]

/-- The backup of the fixture is valid and its evidence is such a chain. -/
theorem completedPhases_have_chain :
    ∃ row ∈ (replay fixtureCodec (reservedBackup ++ completedPhases)).backups.rows,
      row.backupID = "backup_a" ∧ row.status = .valid ∧
      ∃ operation ∈ (replay fixtureCodec (reservedBackup ++ completedPhases)).operations.rows,
      ∃ intent ∈ (replay fixtureCodec (reservedBackup ++ completedPhases)).intents.rows,
        operation.operationID = row.operationID ∧ intent.intentID = operation.intentID ∧
        intent.payload.intent.Sealed fixtureCodec ∧
        EvidenceChain row.payload intent.payload.intent operation.payload := by
  have present : ∃ row ∈ (replay fixtureCodec (reservedBackup ++ completedPhases)).backups.rows,
      row.backupID = "backup_a" ∧ row.status = .valid := by decide +kernel
  obtain ⟨row, member, names, valid⟩ := present
  exact ⟨row, member, names, valid, valid_backup_has_chain _ row member valid⟩

/-! ### The life of a backup -/

/-- What a step does to the status of one backup. -/
def StatusMoves (before after : Ledger) : Prop :=
  ∀ id record, after.backups id = some record →
    (before.backups id = none ∧ record.status = .reserved) ∨
    ∃ earlier, before.backups id = some earlier ∧
      (record.status = earlier.status ∨ earlier.status.Advances record.status)

theorem StatusMoves.refl (ledger : Ledger) : StatusMoves ledger ledger :=
  fun _ record found => Or.inr ⟨record, found, Or.inl rfl⟩

theorem Ledger.Step.statusMoves (step : Step codec before call after) :
    StatusMoves before after := by
  intro id record present
  rcases step.backup_cases id with same | ⟨stored, next, earlier, now, move⟩ |
    ⟨reserved, _, _, _, -, rfl, now, reserves⟩
  · exact Or.inr ⟨record, same.symm.trans present, Or.inl rfl⟩
  · obtain rfl : next = record := Option.mem_unique now present
    exact Or.inr ⟨stored, earlier, Or.inr move.advances⟩
  · obtain rfl : reserved = record := Option.mem_unique now present
    exact Or.inl ⟨reserves.fresh, reserves.reservable.status⟩

theorem replay_statusMoves (log : List Transaction) (transaction : Transaction) :
    StatusMoves (replay codec log).ledger (replay codec (log ++ [transaction])).ledger := by
  rw [replay_append, Runs.run_cons, Runs.run_nil]
  rcases perform_cases (replay codec log) transaction with commits | same
  · exact (commits_refines (replay_coherent log) commits).2.statusMoves
  · rw [same]
    exact .refl _

/-- Over every run, an operation has at most one backup and a backup identifier at most one row;
each row repeats its status and is bound to the sealed intent of its operation; one transaction
enters a row as reserved or moves it along the phases; and every continuation keeps the row, with
everything its reservation fixed, unchanged once its status is final. -/
theorem backup_lifecycle (log : List Transaction) (transaction : Transaction)
    (continuation : List Transaction) :
    (∀ operationID, ((replay codec log).backups.rows.filter
      (·.operationID = operationID)).length ≤ 1) ∧
    (∀ backupID, ((replay codec log).backups.rows.filter (·.backupID = backupID)).length ≤ 1) ∧
    (∀ row ∈ (replay codec log).backups.rows, row.status = row.payload.status ∧
      ∃ operation ∈ (replay codec log).operations.rows,
      ∃ intent ∈ (replay codec log).intents.rows,
        operation.operationID = row.operationID ∧ intent.intentID = operation.intentID ∧
        intent.payload.intent.Sealed codec ∧ BoundTo codec row.payload intent.payload.intent) ∧
    (∀ row ∈ (replay codec (log ++ [transaction])).backups.rows,
      (row.status = .reserved ∧
        ∀ earlier ∈ (replay codec log).backups.rows, earlier.backupID ≠ row.backupID) ∨
      ∃ earlier ∈ (replay codec log).backups.rows, earlier.backupID = row.backupID ∧
        (row.status = earlier.status ∨ earlier.status.Advances row.status)) ∧
    ∀ row ∈ (replay codec log).backups.rows,
      ∃ later ∈ (replay codec (log ++ continuation)).backups.rows,
        later.backupID = row.backupID ∧ KeepsReservation row.payload later.payload ∧
        (row.status.Final → later = row) := by
  have coherent : (replay codec log).Coherent := replay_coherent log
  refine ⟨fun operationID => ?_, fun backupID => ?_, fun row member => ?_, fun row member => ?_,
    fun row member => ?_⟩
  · refine Table.length_filter_le_one _ _ fun first _ second _ firstOwner secondOwner => ?_
    simp only [decide_eq_true_eq] at firstOwner secondOwner
    exact BackupRow.exclusive_operationID first second (firstOwner.trans secondOwner.symm)
  · refine Table.length_filter_le_one _ _ fun first _ second _ firstNamed secondNamed => ?_
    simp only [decide_eq_true_eq] at firstNamed secondNamed
    exact BackupRow.exclusive_backupID first second (firstNamed.trans secondNamed.symm)
  · obtain ⟨record, rfl, found⟩ := coherent.backup_row member
    obtain ⟨operation, operationIn, intent, intentIn, names, owner, justifies⟩ :=
      justified_rows found
    exact ⟨rfl, operation, operationIn, intent, intentIn, names, owner, justifies.sealedIntent,
      justifies.bound⟩
  · obtain ⟨record, rfl, found⟩ := (replay_coherent _).backup_row member
    rcases replay_statusMoves log transaction _ record found with
      ⟨absent, reserved⟩ | ⟨earlier, earlierFound, moves⟩
    · refine Or.inl ⟨reserved, fun earlier earlierIn same => ?_⟩
      obtain ⟨stored, rfl, storedFound⟩ := coherent.backup_row earlierIn
      rw [show stored.backupID = record.backupID from same] at storedFound
      rw [show (replay codec log).backup record.backupID = none from absent] at storedFound
      cases storedFound
    · obtain ⟨earlierIn, names⟩ := coherent.backup_eq_some.mp earlierFound
      exact Or.inr ⟨BackupRow.of earlier, earlierIn, names, moves⟩
  · obtain ⟨record, rfl, found⟩ := coherent.backup_row member
    have persists : BackupsPersist (replay codec log).ledger
        (replay codec (log ++ continuation)).ledger := by
      rw [replay_append]
      exact replay_relation BackupsPersist BackupsPersist.refl BackupsPersist.trans
        (fun _ step => step.backupsPersist) coherent continuation
    obtain ⟨later, laterFound, keeps, final⟩ := persists _ record found
    obtain ⟨laterIn, names⟩ := (replay_coherent _).backup_eq_some.mp laterFound
    refine ⟨BackupRow.of later, laterIn, names, keeps, fun ended => ?_⟩
    rw [final ended]

/-- The fixture's backup goes through every phase and is then valid. -/
example : completedPhases.inits.map (fun phases =>
    ((replay fixtureCodec (reservedBackup ++ phases)).backup "backup_a").map (·.status)) =
    [some .reserved, some .writing, some .finalizing, some .verifying, some .valid] := by
  decide +kernel

end GuardedAgentRunner
