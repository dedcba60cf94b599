/-
This file connects the store to the ledger: every committed transaction on a
coherent database is a step of the ledger and leaves a coherent database. Hence
every database reached from an empty file is coherent, and what holds along the
steps of the ledger holds along the transactions of the store.
-/

import GuardedAgentRunner.Coherence

namespace GuardedAgentRunner

open Store Ledger Function

variable {codec : Codec} {database next : Database} {now : Time} {call : StoreCall}

/-- The transaction is a step of the ledger and keeps the database coherent. -/
def Refines (codec : Codec) (database : Database) (call : StoreCall) (next : Database) : Prop :=
  next.Coherent ∧ Step codec database.ledger call next.ledger

theorem refines_self (coherent : database.Coherent) (answers : call.answersFromJournal = true) :
    Refines codec database call database :=
  ⟨coherent, .answered answers⟩

/-! ### Intents -/

theorem putIntent_refines (coherent : database.Coherent) {record : IntentRecord}
    {result : IntentRecord × Bool} (run : putIntent record database = .ok (result, next)) :
    Refines codec database (.putIntent record) next := by
  rcases putIntent_eq_ok run with rfl | ⟨-, intents, inserted, rfl⟩
  · exact refines_self coherent rfl
  · have fresh : database.intent record.intent.intentID = none :=
      (Table.select_eq_none _ _).mpr (Table.insert_fresh IntentRow.exclusive_intentID inserted)
    refine ⟨⟨coherent.intents.insert rfl inserted, coherent.approvals, coherent.operations,
      coherent.backups, coherent.steps⟩, ?_⟩
    have view : ({ database with intents := intents } : Database).ledger =
        { database.ledger with
          intents := update database.intent record.intent.intentID (some record) } :=
      Ledger.ext (Table.select_insert IntentRow.exclusive_intentID inserted) rfl rfl rfl
    rw [view]
    exact .proposed fresh

theorem activeOwner_eq_none (coherent : database.Coherent) {enrollmentID : String} :
    activeOwner enrollmentID database = none ↔
      ∀ id operation, database.operation id = some operation →
        operation.enrollmentID = enrollmentID → operation.ownershipReleased = true := by
  simp only [activeOwner, Option.map_eq_none_iff, Table.find_eq_none, decide_eq_false_iff_not,
    not_and, Bool.not_eq_false]
  constructor
  · intro free id operation found enrolled
    exact free _ (coherent.operation_eq_some.mp found).1 enrolled
  · intro free row member enrolled
    obtain ⟨operation, rfl, found⟩ := coherent.operation_row member
    exact free _ operation found enrolled

variable {ids : NewIDs} {intentID expectedDigest operationID stepID : String} {osUID : Int}
  {operation : Operation} {done : Unit} {successor : Operation} {approver : String}

theorem approveIntent_refines (coherent : database.Coherent) {result : Approval × Operation}
    (run : approveIntent codec ids intentID expectedDigest approver osUID now database =
      .ok (result, next)) :
    Refines codec database (.approveIntent intentID expectedDigest approver osUID now) next := by
  rcases approveIntent_eq_ok run with ⟨-, -, -, rfl⟩ | ⟨record, approvals, operations, undecided,
    found, approvable, free, decided, opened, -, rfl⟩
  · exact refines_self coherent rfl
  have unopened : ∀ id operation, database.operation id = some operation →
      operation.intentID ≠ intentID := by
    intro id operation present
    exact Table.insert_fresh OperationRow.exclusive_intentID opened _
      (coherent.operation_eq_some.mp present).1
  have freshID : database.operation ids.operation = none :=
    (Table.select_eq_none _ _).mpr (Table.insert_fresh OperationRow.exclusive_operationID opened)
  have operationView : ({ database with operations := operations } : Database).operation =
      update database.operation ids.operation
        (some (newOperation ids intentID expectedDigest record.intent.enrollmentID now)) :=
    Table.select_insert OperationRow.exclusive_operationID opened
  have present : database.intent intentID ≠ none := by
    rw [found]
    exact Option.some_ne_none _
  refine ⟨⟨coherent.faithful_writeIntent found rfl rfl, coherent.approvals.insert rfl decided,
    coherent.operations.insert rfl opened, coherent.backups, ?_⟩, ?_⟩
  · show StepsAgree database.steps ({ database with operations := operations } : Database).operation
    rw [operationView]
    exact coherent.steps.add freshID rfl
  · have view : ((({ database with approvals := approvals, operations := operations } :
        Database).writeIntent intentID (settle record .consumed now))).ledger =
        { database.ledger with
          intents := update database.intent intentID
            (some (settle record .consumed now))
          approvals := update database.approval intentID
            (some (newApproval ids intentID expectedDigest approver osUID .approved now))
          operations := update database.operation ids.operation
            (some (newOperation ids intentID expectedDigest record.intent.enrollmentID now)) } :=
      Ledger.ext (Database.writeIntent_intent present)
        (Table.select_insert ApprovalRow.exclusive_intentID decided) operationView rfl
    rw [view]
    exact .approved
      ⟨found, undecided, approvable, (activeOwner_eq_none coherent).mp free, unopened, freshID⟩

theorem rejectIntent_refines (coherent : database.Coherent) {result : Approval}
    (run : rejectIntent codec ids intentID expectedDigest approver osUID now database =
      .ok (result, next)) :
    Refines codec database (.rejectIntent intentID expectedDigest approver osUID now) next := by
  rcases rejectIntent_eq_ok run with rfl | ⟨record, approvals, undecided, found, -, awaiting,
    decided, rfl⟩
  · exact refines_self coherent rfl
  obtain rfl := (coherent.intent_eq_some.mp found).2
  have present : database.intent record.intent.intentID ≠ none := by
    rw [found]
    exact Option.some_ne_none _
  refine ⟨⟨coherent.faithful_writeIntent found rfl rfl, coherent.approvals.insert rfl decided,
    coherent.operations, coherent.backups, coherent.steps⟩, ?_⟩
  have view : ((({ database with approvals := approvals } :
      Database).writeIntent record.intent.intentID (settle record .rejected now))).ledger =
      { database.ledger with
        intents := update database.intent record.intent.intentID
          (some (settle record .rejected now))
        approvals := update database.approval record.intent.intentID
          (some (newApproval ids record.intent.intentID expectedDigest approver osUID .rejected
            now)) } :=
    Ledger.ext (Database.writeIntent_intent present)
      (Table.select_insert ApprovalRow.exclusive_intentID decided) rfl rfl
  rw [view]
  exact .rejected found undecided awaiting

theorem revokeIntent_refines (coherent : database.Coherent) {actor : String} {result : Unit}
    (run : revokeIntent codec intentID expectedDigest now database = .ok (result, next)) :
    Refines codec database (.revokeIntent intentID expectedDigest actor osUID now) next := by
  obtain ⟨record, found, -, revocable, outcome⟩ := revokeIntent_eq_ok run
  obtain rfl := (coherent.intent_eq_some.mp found).2
  have present : database.intent record.intent.intentID ≠ none := by
    rw [found]
    exact Option.some_ne_none _
  have intents : (database.writeIntent record.intent.intentID (settle record .revoked now)).intent =
      update database.intent record.intent.intentID
        (some (settle record .revoked now)) :=
    Database.writeIntent_intent present
  have revoked : (database.writeIntent record.intent.intentID
      (settle record .revoked now)).Coherent :=
    ⟨coherent.faithful_writeIntent found rfl rfl, coherent.approvals, coherent.operations,
      coherent.backups, coherent.steps⟩
  rcases outcome with ⟨operation, opened, unstarted, stored, rfl⟩ | ⟨started, rfl⟩
  · obtain ⟨operationFound, owner⟩ := coherent.operation_of_operationFor opened
    refine ⟨revoked.writeOperation operationFound rfl rfl rfl, ?_⟩
    have view : ((database.writeIntent record.intent.intentID
        (settle record .revoked now)).writeOperation (abort operation now)).ledger =
        { database.ledger with
          intents := update database.intent record.intent.intentID
            (some (settle record .revoked now))
          operations := update database.operation operation.operationID
            (some (abort operation now)) } :=
      Ledger.ext intents rfl (Database.writeOperation_operation stored) rfl
    rw [view]
    exact .aborted found revocable operationFound owner unstarted
  · refine ⟨revoked, ?_⟩
    have view : (database.writeIntent record.intent.intentID
        (settle record .revoked now)).ledger =
        { database.ledger with
          intents := update database.intent record.intent.intentID
            (some (settle record .revoked now)) } :=
      Ledger.ext intents rfl rfl rfl
    rw [view]
    refine .revoked found revocable fun id operation operationFound owner => ?_
    exact started operation (coherent.operationFor_eq_some.mpr
      ⟨(coherent.operation_eq_some.mp operationFound).1, owner⟩)

/-! ### Operations -/

theorem ledger_writeOperation (found : database.operation operation.operationID = some operation)
    (sameID : successor.operationID = operation.operationID) :
    (database.writeOperation successor).ledger =
      { database.ledger with
        operations := update database.operation operation.operationID
          (some successor) } := by
  have present : database.operation successor.operationID ≠ none := by
    rw [sameID, found]
    exact Option.some_ne_none _
  rw [← sameID]
  exact Ledger.ext rfl rfl (Database.writeOperation_operation present) rfl

theorem step_writeOperation (found : database.operation operation.operationID = some operation)
    (sameID : successor.operationID = operation.operationID)
    (alone : call.changesOperation = true)
    (move : OperationMove codec database.ledger call operation successor) :
    Step codec database.ledger call (database.writeOperation successor).ledger := by
  rw [ledger_writeOperation found sameID]
  exact .moved alone found move

section

variable (coherent : database.Coherent) {attempt current : StepAttempt} {backupID : String}

include coherent

theorem prepareStep_refines {stepKind : StepKind}
    (run : prepareStep codec ids operationID stepKind now database = .ok (attempt, next)) :
    Refines codec database (.prepareStep operationID stepKind now) next := by
  obtain ⟨operation, record, steps, found, intentFound, preparable, rfl, inserted, present, rfl⟩ :=
    prepareStep_eq_ok run
  obtain rfl := (coherent.operation_eq_some.mp found).2
  refine ⟨⟨coherent.intents, coherent.approvals, coherent.faithful_writeOperation found rfl rfl,
    coherent.backups, ?_⟩, ?_⟩
  · have view : (({ database with steps := steps } : Database).writeOperation (appendAttempt
        operation (newAttempt ids.step stepKind operation.attempts now) now)).operation
        = _ := Database.writeOperation_operation present
    rw [view]
    exact coherent.steps.append found inserted rfl
  · have view : (({ database with steps := steps } : Database).writeOperation
        (appendAttempt operation (newAttempt ids.step stepKind operation.attempts now) now)).ledger
        = _ := ledger_writeOperation found rfl
    rw [view]
    exact .moved rfl found (.prepared intentFound preparable (coherent.steps.fresh inserted))

theorem coherent_replace {replaced : Operation} {index : Nat} {chosen : StepRow → Bool}
    (found : database.operation operationID = some operation)
    (located : operation.attempts[index]? = some current) (names : current.stepID = stepID)
    (sameID : attempt.stepID = current.stepID) (sameNo : attempt.attemptNo = current.attemptNo)
    (selects : ∀ row ∈ database.steps.rows, chosen row = true ↔ row.stepID = stepID)
    (sameOperation : replaced.operationID = operation.operationID)
    (sameIntent : replaced.intentID = operation.intentID)
    (sameEnrollment : replaced.enrollmentID = operation.enrollmentID)
    (attempts : replaced.attempts = operation.attempts.set index attempt) :
    ((database.writeStep chosen attempt).writeOperation replaced).Coherent := by
  obtain rfl := (coherent.operation_eq_some.mp found).2
  have foundReplaced : database.operation replaced.operationID = some operation := by
    rw [sameOperation]
    exact found
  refine ⟨coherent.intents, coherent.approvals,
    coherent.faithful_writeOperation foundReplaced sameIntent sameEnrollment, coherent.backups, ?_⟩
  have view : ((database.writeStep chosen attempt).writeOperation replaced).operation =
      update database.operation replaced.operationID (some replaced) :=
    Database.writeOperation_operation (by
      show database.operation replaced.operationID ≠ none
      rw [foundReplaced]
      exact Option.some_ne_none _)
  rw [view]
  refine coherent.steps.replace foundReplaced located sameID sameNo (fun row member => ?_) attempts
  rw [selects row member, sameID, names]

theorem selects_step (found : database.operation operationID = some operation)
    (member : current ∈ operation.attempts) (names : current.stepID = stepID) :
    ∀ row ∈ database.steps.rows,
      decide (row.stepID = stepID ∧ row.operationID = operationID) = true ↔
        row.stepID = stepID := by
  intro row rowIn
  rw [decide_eq_true_eq]
  refine ⟨fun selected => selected.1, fun same => ⟨same, ?_⟩⟩
  obtain ⟨id, other, attempt, present, attemptIn, rfl⟩ := (coherent.steps.rows row).mp rowIn
  exact (coherent.steps.unique present attemptIn found member (same.trans names.symm)).1

/-- A successful `updateAttempt` whose change keeps the identity of the attempt keeps the
database coherent and updates the ledger at the operation. -/
theorem updateAttempt_coherent
    {mutate : StepAttempt → Except Failure StepAttempt} {event : AttemptEvent}
    (keepsIdentity : ∀ old new, mutate old = .ok new →
      new.stepID = old.stepID ∧ new.attemptNo = old.attemptNo)
    (run : updateAttempt operationID stepID now mutate event database = .ok (done, next)) :
    next.Coherent ∧ ∃ operation index current mutated,
      operation.operationID = operationID ∧ database.operation operationID = some operation ∧
      checkDispatch event operation database = .ok () ∧
      Located operation.attempts stepID index current ∧ mutate current = .ok mutated ∧
      next.ledger = { database.ledger with
        operations := update database.operation operation.operationID
          (some (settleStatus event (touchAttempt mutated now)
            (replaceAttempt operation index (touchAttempt mutated now) now))) } := by
  obtain ⟨operation, index, current, mutated, found, checked, located, changed, -, -, -,
    rfl⟩ := updateAttempt_eq_ok.mp run
  obtain ⟨sameID, sameNo⟩ := keepsIdentity current mutated changed
  have member : current ∈ operation.attempts := List.mem_of_getElem? located.2
  refine ⟨?_, operation, index, current, mutated, (coherent.operation_eq_some.mp found).2, found,
    checked, located, changed, ?_⟩
  · exact coherent_replace coherent found located.2 located.names sameID sameNo
      (selects_step coherent found member located.names) settleStatus_operationID
      settleStatus_intentID settleStatus_enrollmentID settleStatus_attempts
  · obtain rfl := (coherent.operation_eq_some.mp found).2
    exact ledger_writeOperation found settleStatus_operationID

theorem markDispatchPossible_refines
    (run : markDispatchPossible operationID stepID now database = .ok (done, next)) :
    Refines codec database (.markDispatchPossible operationID stepID now) next := by
  obtain ⟨nextCoherent, operation, index, current, mutated, rfl, found, checked, located, changed,
    view⟩ := updateAttempt_coherent coherent (fun old new change => by
      obtain ⟨-, -, rfl⟩ := dispatchAttempt_eq_ok.mp change
      exact ⟨rfl, rfl⟩) run
  obtain ⟨undispatched, unapplied, rfl⟩ := dispatchAttempt_eq_ok.mp changed
  obtain ⟨row, looked, dispatchable⟩ := checkDispatch_eq_ok.mp checked
  obtain ⟨intentFound, status⟩ := coherent.lookup_intent looked
  rw [status] at dispatchable
  rw [settleStatus_dispatched] at view
  refine ⟨nextCoherent, ?_⟩
  rw [view]
  exact .moved rfl found
    (.dispatched intentFound dispatchable located undispatched unapplied)

theorem recordStepObservation_refines {effect : EffectState}
    {attribution : Attribution} {evidence : List String}
    (run : recordStepObservation operationID stepID effect attribution evidence now database =
      .ok (done, next)) :
    Refines codec database
      (.recordStepObservation operationID stepID effect attribution evidence now) next := by
  obtain ⟨nextCoherent, operation, index, current, mutated, rfl, found, -, located, changed,
    view⟩ := updateAttempt_coherent coherent (fun old new change => by
      obtain ⟨-, -, rfl⟩ := observeAttempt_eq_ok.mp change
      exact ⟨rfl, rfl⟩) run
  obtain ⟨dispatched, recordable, rfl⟩ := observeAttempt_eq_ok.mp changed
  refine ⟨nextCoherent, ?_⟩
  rw [view]
  exact .moved rfl found (.observed located dispatched recordable)

theorem markUnknown_refines
    (run : markUnknown operationID now database = .ok (done, next)) :
    Refines codec database (.markUnknown operationID now) next := by
  obtain ⟨operation, found, allowed, -, -, rfl⟩ := markUnknown_eq_ok.mp run
  obtain rfl := (coherent.operation_eq_some.mp found).2
  exact ⟨coherent.writeOperation found rfl rfl rfl,
    step_writeOperation found rfl rfl (.gaveUp allowed)⟩

theorem transitionOperation_refines {status : OperationStatus}
    {verification : VerificationStatus} {maintenanceReleased : Bool}
    (run : transitionOperation operationID status verification maintenanceReleased now database =
      .ok (done, next)) :
    Refines codec database
      (.transitionOperation operationID status verification maintenanceReleased now) next := by
  obtain ⟨operation, found, allowed, verified, -, rfl⟩ := transitionOperation_eq_ok run
  obtain rfl := (coherent.operation_eq_some.mp found).2
  exact ⟨coherent.writeOperation found rfl rfl rfl,
    step_writeOperation found rfl rfl (.transitioned allowed verified)⟩

/-! ### Backups -/

theorem reserveBackup_refines {record : BackupRecord}
    (run : reserveBackup codec record now database = .ok (done, next)) :
    Refines codec database (.reserveBackup record now) next := by
  obtain ⟨operation, intent, backups, opened, found, reservable, inserted, rfl⟩ :=
    reserveBackup_eq_ok run
  have fresh : database.backup record.backupID = none :=
    (Table.select_eq_none _ _).mpr (Table.insert_fresh BackupRow.exclusive_backupID inserted)
  have first : ∀ id other, database.backup id = some other →
      other.operationID ≠ record.operationID := by
    intro id other present
    exact Table.insert_fresh BackupRow.exclusive_operationID inserted _
      (coherent.backup_eq_some.mp present).1
  refine ⟨⟨coherent.intents, coherent.approvals, coherent.operations,
    coherent.backups.insert rfl inserted, coherent.steps⟩, ?_⟩
  have view : ({ database with backups := backups } : Database).ledger =
      { database.ledger with
        backups := update database.backup record.backupID (some record) } :=
    Ledger.ext rfl rfl rfl (Table.select_insert BackupRow.exclusive_backupID inserted)
  rw [view]
  exact .reserved opened found reservable fresh first

theorem transitionBackupStatus_refines {status : BackupStatus}
    (run : transitionBackupStatus backupID status now database = .ok (done, next)) :
    Refines codec database (.transitionBackupStatus backupID status now) next := by
  obtain ⟨record, found, allowed, rfl⟩ := transitionBackupStatus_eq_ok run
  refine ⟨⟨coherent.intents, coherent.approvals, coherent.operations,
    coherent.faithful_writeBackup found rfl rfl, coherent.steps⟩, ?_⟩
  have view : (database.writeBackup backupID { record with status := status }).ledger =
      { database.ledger with
        backups := update database.backup backupID
          (some { record with status := status }) } :=
    Ledger.ext rfl rfl rfl
      (Database.writeBackup_backup (by rw [found]; exact Option.some_ne_none _))
  rw [view]
  exact .advanced found allowed

theorem completeBackup_refines {digest : String} {size : Int} {ready : BackupReadyEvidence}
    (run : completeBackup codec backupID digest size ready now database = .ok (done, next)) :
    Refines codec database (.completeBackup backupID digest size ready now) next := by
  obtain ⟨record, operation, intent, step, backupFound, opened, found, completable, present,
    rfl⟩ := completeBackup_eq_ok run
  have owner := (coherent.operation_eq_some.mp opened).2
  have written : (database.writeBackup backupID
      (completedRecord record digest size ready now)).Coherent :=
    ⟨coherent.intents, coherent.approvals, coherent.operations,
      coherent.faithful_writeBackup backupFound rfl rfl, coherent.steps⟩
  refine ⟨coherent_replace written opened completable.writer.sixth rfl rfl rfl
    (fun row _ => decide_eq_true_iff) rfl rfl rfl rfl, ?_⟩
  have view : (((database.writeBackup backupID
        (completedRecord record digest size ready now)).writeStep
          (fun row => row.stepID = step.stepID)
          (completedAttempt step backupID digest now)).writeOperation
        (replaceAttempt operation 5 (completedAttempt step backupID digest now) now)).ledger =
      { database.ledger with
        operations := update database.operation operation.operationID
          (some (replaceAttempt operation 5 (completedAttempt step backupID digest now) now))
        backups := update database.backup backupID
          (some (completedRecord record digest size ready now)) } :=
    Ledger.ext rfl rfl (Database.writeOperation_operation present)
      (Database.writeBackup_backup (by rw [backupFound]; exact Option.some_ne_none _))
  rw [view]
  rw [← owner] at opened
  exact .completed backupFound opened owner.symm found completable

/-! ### Every transaction -/

/-- A committed transaction on a coherent database is a step of the ledger. -/
theorem commits_refines {transaction : Transaction}
    (commits : Commits codec database transaction next) :
    Refines codec database transaction.call next := by
  obtain ⟨ids, call⟩ := transaction
  obtain ⟨result, run⟩ := commits
  cases call with
  | putIntent => exact putIntent_refines coherent run
  | approveIntent => exact approveIntent_refines coherent run
  | rejectIntent => exact rejectIntent_refines coherent run
  | revokeIntent => exact revokeIntent_refines coherent run
  | prepareStep => exact prepareStep_refines coherent run
  | markDispatchPossible => exact markDispatchPossible_refines coherent run
  | recordStepObservation => exact recordStepObservation_refines coherent run
  | markUnknown => exact markUnknown_refines coherent run
  | transitionOperation => exact transitionOperation_refines coherent run
  | reserveBackup => exact reserveBackup_refines coherent run
  | transitionBackupStatus => exact transitionBackupStatus_refines coherent run
  | completeBackup => exact completeBackup_refines coherent run
  | getIntent | getOperation | getBackup =>
    obtain rfl := (reading_eq_ok.mp run).2
    exact refines_self coherent rfl

end

theorem empty_coherent : Database.empty.Coherent where
  intents := Table.Faithful.empty
  approvals := Table.Faithful.empty
  operations := Table.Faithful.empty
  backups := Table.Faithful.empty
  steps := by
    have absent : ∀ operationID, Database.empty.operation operationID = none := fun _ => rfl
    refine ⟨fun row => ?_, fun operationID operation present => ?_⟩
    · constructor
      · intro member
        exact absurd member List.not_mem_nil
      · rintro ⟨operationID, operation, _, present, -⟩
        rw [absent] at present
        cases present
    · rw [absent] at present
      cases present

/-- Every database reached from an empty file is coherent. -/
theorem replay_coherent (log : List Transaction) : (replay codec log).Coherent :=
  replay_invariant Database.Coherent empty_coherent
    (fun _ _ _ coherent commits => (commits_refines coherent commits).1) log

/-- What holds of the empty ledger and is kept by every step holds of every ledger that is
reached. -/
theorem replay_ledger {invariant : Ledger → Prop} (initial : invariant Database.empty.ledger)
    (preserved : ∀ {database next : Database} {call : StoreCall}, database.Coherent →
      invariant database.ledger → Step codec database.ledger call next.ledger →
        invariant next.ledger) (log : List Transaction) :
    invariant (replay codec log).ledger := by
  refine (replay_invariant (fun database => database.Coherent ∧ invariant database.ledger)
    ⟨empty_coherent, initial⟩ (fun database transaction next holds commits => ?_) log).2
  obtain ⟨nextCoherent, step⟩ := commits_refines holds.1 commits
  exact ⟨nextCoherent, preserved holds.1 holds.2 step⟩

/-- A preorder that every step from a coherent database respects relates the two ends of every
continuation. -/
theorem replay_relation (relation : Ledger → Ledger → Prop)
    (reflexive : ∀ ledger, relation ledger ledger)
    (transitive : ∀ {first second third}, relation first second → relation second third →
      relation first third)
    (related : ∀ {database next : Database} {call : StoreCall}, database.Coherent →
      Step codec database.ledger call next.ledger → relation database.ledger next.ledger)
    (coherent : database.Coherent) (continuation : List Transaction) :
    relation database.ledger (Runs.run (perform codec) database continuation).ledger := by
  have preserved : ∀ database transaction, Database.Coherent database →
      (perform codec database transaction).Coherent := by
    intro database transaction coherent
    rcases perform_cases database transaction with commits | same
    · exact (commits_refines coherent commits).1
    · rw [same]
      exact coherent
  refine Runs.relation_run (fun first second => relation first.ledger second.ledger)
    preserved (fun _ => reflexive _) transitive (fun database transaction coherent => ?_) coherent
    continuation
  rcases perform_cases database transaction with commits | same
  · exact related coherent (commits_refines coherent commits).2
  · rw [same]
    exact reflexive _

/-! ### Copies of a fact -/

/-- The copies of a fact never drift: columns repeat their payloads, and the step table repeats the
attempts of the operations. -/
theorem columns_repeat_payloads (codec : Codec) (log : List Transaction) :
    (∀ row ∈ (replay codec log).intents.rows, row.status = row.payload.status) ∧
    (∀ row ∈ (replay codec log).operations.rows, row.status = row.payload.status ∧
      row.ownershipReleased = row.payload.ownershipReleased ∧
      ((replay codec log).steps.rows.filter (·.operationID = row.operationID)).Perm
        (row.payload.attempts.map (StepRow.of row.operationID))) ∧
    (∀ step ∈ (replay codec log).steps.rows,
      ∃ row ∈ (replay codec log).operations.rows, row.operationID = step.operationID) := by
  have coherent : (replay codec log).Coherent := replay_coherent log
  refine ⟨fun row listed => ?_, fun row listed => ?_, fun step listed => ?_⟩
  · obtain ⟨record, rfl, -⟩ := coherent.intent_row listed
    rfl
  · obtain ⟨operation, rfl, found⟩ := coherent.operation_row listed
    exact ⟨rfl, rfl, coherent.steps.perm found⟩
  · obtain ⟨operationID, operation, attempt, found, -, rfl⟩ := (coherent.steps.rows step).mp listed
    obtain ⟨row, names⟩ := coherent.operation_eq_some.mp found
    exact ⟨_, row, names⟩
end GuardedAgentRunner
