/-
This file settles when a valid backup and the completion of its step stay together.
`CompleteBackup` commits both in one transaction, and a completed attempt changes
only by `RecordStepObservation`, which accepts acknowledged attempts. There is a
history in which a second runner makes such a record, recovering from a reading
that is out of date.
-/

import GuardedAgentRunner.Dispatch

namespace GuardedAgentRunner

open Store Ledger

variable {codec : Codec} {before after : Ledger} {call : StoreCall}

/-! ### The step of a backup -/

/-- Every backup was reserved for the sixth attempt of its operation. -/
def BackupsPlaced (ledger : Ledger) : Prop :=
  ∀ id record, ledger.backups id = some record →
    ∃ operation attempt, ledger.operations record.operationID = some operation ∧
      operation.attempts[5]? = some attempt ∧ attempt.stepID = record.stepID ∧
      attempt.stepKind = .createBackup

theorem BackupsPlaced.step (placed : BackupsPlaced before) (step : Step codec before call after) :
    BackupsPlaced after := by
  have continued : ∀ {record : BackupRecord} {operation : Operation} {attempt : StepAttempt},
      before.operations record.operationID = some operation →
      operation.attempts[5]? = some attempt → attempt.stepID = record.stepID →
      attempt.stepKind = .createBackup →
      ∃ operation attempt, after.operations record.operationID = some operation ∧
        operation.attempts[5]? = some attempt ∧ attempt.stepID = record.stepID ∧
        attempt.stepKind = .createBackup := by
    intro record operation attempt opened sixth names kind
    obtain ⟨later, laterOpened, continues⟩ := step.operation_continues opened
    obtain ⟨next, nextSixth, same⟩ := continues.steps 5 attempt sixth
    exact ⟨later, next, laterOpened, nextSixth, same.stepID.trans names, same.stepKind.trans kind⟩
  intro id record present
  rcases step.backup_cases id with same | ⟨stored, next, earlier, now, move⟩ |
    ⟨reserved, operation, _, _, -, rfl, now, reserves⟩
  · obtain ⟨_, _, opened, sixth, names, kind⟩ := placed id record (same.symm.trans present)
    exact continued opened sixth names kind
  · obtain rfl : next = record := Option.mem_unique now present
    obtain ⟨_, _, opened, sixth, names, kind⟩ := placed id stored earlier
    cases move <;> exact continued opened sixth names kind
  · obtain rfl : reserved = record := Option.mem_unique now present
    obtain ⟨attempt, writer, kind⟩ := reserves.reservable.writer
    exact continued reserves.opened writer.sixth writer.names kind

theorem Chained.backupsPlaced {database : Database} {history : List Event}
    (chained : Chained codec database history) : BackupsPlaced database.ledger := by
  obtain ⟨log, rfl⟩ := chained.replayed
  exact replay_ledger (fun _ _ present => nomatch present) (fun _ placed step => placed.step step)
    log

/-! ### Valid backups and completed steps -/

/-- The attempt is the completed step of the backup. -/
structure CompletedBy (backupID : String) (record : BackupRecord) (attempt : StepAttempt) :
    Prop where
  stepID : attempt.stepID = record.stepID
  stepKind : attempt.stepKind = .createBackup
  complete : attempt.Complete
  evidence : attempt.evidence = ["backup:" ++ backupID, "sha256:" ++ record.archiveSHA256]

/-- The sixth attempt of the operation of every valid backup is its completed step. -/
def Ledger.Joined (ledger : Ledger) : Prop :=
  ∀ id record, ledger.backups id = some record → record.status = .valid →
    ∃ operation attempt, ledger.operations record.operationID = some operation ∧
      operation.attempts[5]? = some attempt ∧ CompletedBy id record attempt

theorem Ledger.OperationMove.complete_stays {operation next : Operation}
    (move : OperationMove codec before call operation next) {position : Nat}
    {attempt : StepAttempt} (present : operation.attempts[position]? = some attempt)
    (complete : attempt.Complete)
    (unrecorded : ∀ effect attribution evidence now, call ≠
      .recordStepObservation operation.operationID attempt.stepID effect attribution evidence
        now) :
    next.attempts[position]? = some attempt := by
  have kept : ∀ {index : Nat} {current replacement : StepAttempt},
      operation.attempts[index]? = some current → current ≠ attempt →
      (operation.attempts.set index replacement)[position]? = some attempt := by
    intro index current replacement found other
    by_cases here : index = position
    · subst here
      exact absurd (Option.mem_unique found present) other
    · exact (List.getElem?_set_ne here).trans present
  cases move with
  | aborted | gaveUp | transitioned => exact present
  | prepared =>
    exact Positions.concat_of_present present
  | dispatched _ _ located undispatched =>
    refine kept located.2 ?_
    rintro rfl
    exact absurd (undispatched.symm.trans complete.1) nofun
  | observed located =>
    rw [settleStatus_attempts]
    refine kept located.2 ?_
    rintro rfl
    rw [located.names] at unrecorded
    exact unrecorded _ _ _ _ rfl
  | completed _ _ _ completable =>
    refine kept completable.writer.sixth ?_
    rintro rfl
    exact absurd (completable.writer.dispatched.symm.trans complete.1) nofun

/-- The call records an observation for the step of a valid backup. -/
def Overwrites (before : Ledger) : StoreCall → Prop
  | .recordStepObservation operationID stepID _ _ _ _ =>
    ∃ id record, before.backups id = some record ∧ record.status = .valid ∧
      record.operationID = operationID ∧ record.stepID = stepID
  | _ => False

theorem Ledger.Joined.step (joined : before.Joined) (placed : BackupsPlaced before)
    (step : Step codec before call after) (quiet : ¬ Overwrites before call) : after.Joined := by
  intro id record present valid
  rcases step.backup_cases id with same | ⟨stored, next, earlier, now, move⟩ |
    ⟨reserved, _, _, _, -, rfl, now, reserves⟩
  · have earlier := same.symm.trans present
    obtain ⟨operation, attempt, opened, sixth, completed⟩ := joined id record earlier valid
    rcases step.operation_cases record.operationID with kept |
      ⟨moved, next, was, names, now, move⟩ | ⟨_, _, _, _, _, _, _, -, fresh, approves, -⟩
    · exact ⟨operation, attempt, kept.trans opened, sixth, completed⟩
    · obtain rfl : moved = operation := Option.mem_unique was opened
      refine ⟨next, attempt, now, move.complete_stays sixth completed.complete ?_, completed⟩
      rintro effect attribution evidence time rfl
      exact quiet ⟨id, record, earlier, valid, names.symm, completed.stepID.symm⟩
    · rw [fresh] at opened
      cases approves.fresh.symm.trans opened
  · obtain rfl : next = record := Option.mem_unique now present
    cases move with
    | advanced allowed => exact absurd valid (allowedTransition_ne_valid allowed)
    | completed =>
      obtain ⟨operation, attempt, opened, writer, completed⟩ := step.completed_attempt earlier
      obtain ⟨same, reserved, sameOpened, sixth, -, kind⟩ := placed id stored earlier
      obtain rfl : same = operation := Option.mem_unique sameOpened opened
      obtain rfl : reserved = attempt := Option.mem_unique sixth writer.sixth
      refine ⟨_, _, completed, List.getElem?_set_self ?_, writer.names, kind, ⟨rfl, rfl, rfl⟩, rfl⟩
      exact (List.getElem?_eq_some_iff.mp sixth).1
  · obtain rfl : reserved = record := Option.mem_unique now present
    rw [reserves.reservable.status] at valid
    cases valid

/-! ### Histories that keep the two together -/

/-- The event commits a record for the step of a valid backup. -/
def Event.Overwrites (codec : Codec) (event : Event) : Prop :=
  ∃ id record effect attribution evidence now, event.before.backup id = some record ∧
    record.status = .valid ∧
    event.Commits codec (.recordStepObservation record.operationID record.stepID effect
      attribution evidence now)

namespace System.Permitted

variable {system : System} {database : Database} {event : Event} {earlier : List Event}

section

variable (chained : Chained codec database (event :: earlier))
  (permitted : system.Permitted codec (event :: earlier))

include chained permitted

theorem recorded_unknown {context : Context}
    {operationID stepID : String} {effect : EffectState} {attribution : Attribution}
    {evidence : List String} {now : Time}
    (isRecord : event.occurrence.effect = .store context
      (.recordStepObservation operationID stepID effect attribution evidence now))
    (acknowledged : event.before.dispatchState operationID stepID = some .acknowledged) :
    effect = .unknown := by
  have first := permitted.1
  rw [isRecord] at first
  split at first
  · obtain ⟨foundation, id, owned, permits⟩ := first
    rcases permits with ⟨unknown, -⟩ | ⟨rfl, inHand⟩
    · exact unknown
    · have possible := permitted.2.holding_possible chained.2.2 owned inHand
      exact absurd (acknowledged.symm.trans possible) nofun
  · obtain ⟨_, same, command⟩ := first
    cases same
    cases command

theorem not_joined (joined : event.before.ledger.Joined)
    (overwrites : event.Overwrites codec) : ¬ event.after.ledger.Joined := by
  intro joinedAfter
  obtain ⟨id, record, effect, attribution, evidence, now, found, valid, context, ids, isRecord,
    commits⟩ := overwrites
  have reached : Chained codec event.before earlier := chained.2.2
  obtain ⟨operation, attempt, opened, sixth, completed⟩ := joined id record found valid
  have acknowledged := reached.coherent.dispatchState_eq_some.mpr
    ⟨operation, attempt, opened, List.mem_of_getElem? sixth, completed.stepID,
      completed.complete.1⟩
  obtain rfl := permitted.recorded_unknown chained isRecord acknowledged
  obtain ⟨same, index, current, sameOpened, located, backups, moved⟩ :=
    (commits_refines reached.coherent commits).2.observed
  obtain rfl : same = operation := Option.mem_unique sameOpened opened
  obtain rfl := reached.coherent.position_unique opened located.2 sixth
    (located.names.trans completed.stepID.symm)
  have foundAfter : event.after.ledger.backups id = some record := by
    rw [backups]
    exact found
  obtain ⟨later, overwritten, laterOpened, laterSixth, stillCompleted⟩ :=
    joinedAfter id record foundAfter valid
  obtain rfl := Option.mem_unique laterOpened moved
  rw [settleStatus_attempts] at laterSixth
  obtain rfl := Option.mem_unique laterSixth (Positions.set_of_present located.2)
  exact absurd stillCompleted.complete.2.1 nofun

/-- An event keeps the two together exactly if it is no record for the step of a valid
backup. -/
theorem joined_iff (joined : event.before.ledger.Joined) :
    ¬ event.Overwrites codec ↔ event.after.ledger.Joined := by
  refine ⟨fun quiet => ?_, fun joinedAfter overwrites =>
    permitted.not_joined chained joined overwrites joinedAfter⟩
  have reached : Chained codec event.before earlier := chained.2.2
  rcases chained.2.1.commits with same | ⟨context, ⟨ids, call⟩, isCall, commits⟩
  · rw [same]
    exact joined
  · refine joined.step reached.backupsPlaced (commits_refines reached.coherent commits).2
      fun overwrites => quiet ?_
    cases call with
    | recordStepObservation =>
      obtain ⟨id, record, found, valid, rfl, rfl⟩ := overwrites
      exact ⟨id, record, _, _, _, _, found, valid, context, ids, isCall, commits⟩
    | _ => exact overwrites.elim

end

end System.Permitted

/-- The step of the system commits no record for the step of a valid backup. -/
def Undisturbed (codec : Codec) (system : System) (choice : Choice) : Prop :=
  ∀ event, (system.step codec choice).history = event :: system.history →
    ¬ event.Overwrites codec

theorem undisturbed_iff {system : System} (lawful : system.Lawful codec)
    (joined : system.database.ledger.Joined) (choice : Choice) :
    Undisturbed codec system choice ↔ (system.step codec choice).database.ledger.Joined := by
  have transition : system.Transition codec (system.step codec choice) :=
    System.step_transition system choice
  have nextLawful := lawful.transition transition
  unfold Undisturbed
  generalize system.step codec choice = next at transition nextLawful
  have still : (∀ event, system.history = event :: system.history → ¬ event.Overwrites codec) ↔
      system.database.ledger.Joined := by
    refine ⟨fun _ => joined, fun _ event same => ?_⟩
    have length := congrArg List.length same
    rw [List.length_cons] at length
    omega
  cases transition with
  | idle | started | died => exact still
  | performed | commanded =>
    refine Iff.trans ?_ (nextLawful.permitted.joined_iff nextLawful.chained joined)
    refine ⟨fun quiet => quiet _ rfl, fun quiet event same => ?_⟩
    obtain ⟨rfl, -⟩ := List.cons.inj same
    exact quiet

/-- A valid backup and the completion of its step stay together all along a schedule exactly if
no step of the schedule commits a record for the step of a valid backup. -/
theorem joined_iff_undisturbed (codec : Codec) (schedule : List Choice) :
    Runs.Along (System.step codec) (Undisturbed codec) .initial schedule ↔
      ∀ earlier, earlier <+: schedule → (System.reach codec earlier).database.ledger.Joined :=
  Runs.along_iff
    (fun _ choice lawful => System.Lawful.transition lawful (System.step_transition _ choice))
    (fun _ choice lawful joined => undisturbed_iff lawful joined choice) System.initial_lawful
    (fun _ _ present => nomatch present) schedule

/-! ### A history that separates them -/

theorem not_joined_of_unknown {database : Database} {backupID operationID : String}
    (valid : (database.backup backupID).map (fun record => (record.status, record.operationID)) =
      some (.valid, operationID))
    (unknown : ((database.operation operationID).bind (·.attempts[5]?)).map (·.effectState) =
      some .unknown) : ¬ database.ledger.Joined := by
  intro joined
  obtain ⟨record, found, same⟩ := Option.map_eq_some_iff.mp valid
  obtain ⟨isValid, rfl⟩ := Prod.mk.inj same
  obtain ⟨attempt, sixth, effect⟩ := Option.map_eq_some_iff.mp unknown
  obtain ⟨operation, opened, present⟩ := Option.bind_eq_some_iff.mp sixth
  obtain ⟨stored, completed, isStored, isSixth, completedBy⟩ := joined backupID record found isValid
  obtain rfl : stored = operation := Option.mem_unique isStored opened
  obtain rfl : completed = attempt := Option.mem_unique isSixth present
  exact absurd (effect.symm.trans completedBy.complete.2.1) nofun

/-- A second process is started on the operation while the first one is in `Create`, and reads
S05 as possibly dispatched; the first one completes the backup; the second one then gives the
interrupted dispatch up as unknown. -/
def racedRecovery : List Choice :=
  fixtureStart ++ fixtureSteps ++ fixtureTurns 0 "5" 10 ++
    [.start fixtureFoundation "operation_a"] ++ fixtureTurns 1 "6" 12 ++ fixtureTurns 0 "5" 31 ++
    fixtureTurns 1 "6" 2

/-- The raced recovery leaves a valid backup whose step has an unknown effect. -/
theorem racedRecovery_separates :
    ((System.reach fixtureCodec racedRecovery).database.backup "backup_a").map
      (fun record => (record.status, record.operationID)) = some (.valid, "operation_a") ∧
    (((System.reach fixtureCodec racedRecovery).database.operation "operation_a").bind
      (·.attempts[5]?)).map (·.effectState) = some .unknown ∧
    ¬ (System.reach fixtureCodec racedRecovery).database.ledger.Joined := by
  have valid : ((System.reach fixtureCodec racedRecovery).database.backup "backup_a").map
      (fun record => (record.status, record.operationID)) = some (.valid, "operation_a") := by
    decide +kernel
  have unknown : (((System.reach fixtureCodec racedRecovery).database.operation "operation_a").bind
      (·.attempts[5]?)).map (·.effectState) = some .unknown := by
    decide +kernel
  exact ⟨valid, unknown, not_joined_of_unknown valid unknown⟩

end GuardedAgentRunner
