/-
This file states what keeps the redundant parts of the database together: every
row has the columns of its payload, and the step table lists exactly the
attempts of the stored operations, with distinct identifiers. It proves that
each kind of write keeps this, so that a database that is coherent can be read
as a ledger.
-/

import GuardedAgentRunner.Ledger

namespace GuardedAgentRunner

open Store

/-! ### The step table -/

/-- The step table lists exactly the attempts of the operations, and no operation has two
attempts with one identifier. -/
structure StepsAgree (steps : Table StepRow) (operations : String → Option Operation) : Prop where
  rows : ∀ row, row ∈ steps.rows ↔ ∃ operationID operation attempt,
    operations operationID = some operation ∧ attempt ∈ operation.attempts ∧
      row = StepRow.of operationID attempt
  distinct : ∀ operationID operation, operations operationID = some operation →
    (operation.attempts.map (·.stepID)).Nodup

variable {attempt current : StepAttempt} {index : Nat} {attempts : List StepAttempt}

namespace StepsAgree

variable {steps : Table StepRow} {operations : String → Option Operation}
  {operationID : String} {operation next : Operation}

section

variable (agree : StepsAgree steps operations) {nextSteps : Table StepRow}

include agree

theorem unique {firstID secondID : String}
    {first second : Operation} {firstAttempt secondAttempt : StepAttempt}
    (firstFound : operations firstID = some first) (firstIn : firstAttempt ∈ first.attempts)
    (secondFound : operations secondID = some second) (secondIn : secondAttempt ∈ second.attempts)
    (same : firstAttempt.stepID = secondAttempt.stepID) :
    firstID = secondID ∧ firstAttempt = secondAttempt := by
  have firstRow := (agree.rows (StepRow.of firstID firstAttempt)).mpr
    ⟨firstID, first, firstAttempt, firstFound, firstIn, rfl⟩
  have secondRow := (agree.rows (StepRow.of secondID secondAttempt)).mpr
    ⟨secondID, second, secondAttempt, secondFound, secondIn, rfl⟩
  have rowsSame := steps.eq_of_clash firstRow secondRow (StepRow.exclusive_stepID _ _ same)
  exact ⟨congrArg StepRow.operationID rowsSame, congrArg StepRow.payload rowsSame⟩

theorem own_iff (found : operations operationID = some operation) (row : StepRow) :
    row ∈ steps.rows ∧ row.operationID = operationID ↔
      ∃ attempt ∈ operation.attempts, row = StepRow.of operationID attempt := by
  rw [agree.rows]
  constructor
  · rintro ⟨⟨id, other, attempt, present, member, rfl⟩, names⟩
    obtain rfl : id = operationID := names
    obtain rfl := Option.mem_unique found present
    exact ⟨attempt, member, rfl⟩
  · rintro ⟨attempt, member, rfl⟩
    exact ⟨⟨operationID, operation, attempt, found, member, rfl⟩, rfl⟩

/-- Writing an operation keeps the agreement when the rows of the other operations stay and the
operation's own rows become those of its attempts. -/
theorem write (listed : ∀ row, row ∈ nextSteps.rows ↔
      (∃ attempt ∈ next.attempts, row = StepRow.of operationID attempt) ∨
        row ∈ steps.rows ∧ row.operationID ≠ operationID)
    (distinct : (next.attempts.map (·.stepID)).Nodup) :
    StepsAgree nextSteps (Function.update operations operationID (some next)) := by
  constructor
  · intro row
    rw [listed, agree.rows]
    constructor
    · rintro (⟨attempt, member, rfl⟩ | ⟨⟨id, other, attempt, present, member, rfl⟩, otherID⟩)
      · exact ⟨operationID, next, attempt, Function.update_self .., member, rfl⟩
      · exact ⟨id, other, attempt, update_some_eq_some.mpr (Or.inr ⟨otherID, present⟩), member, rfl⟩
    · rintro ⟨id, other, attempt, present, member, rfl⟩
      rcases update_some_eq_some.mp present with ⟨rfl, rfl⟩ | ⟨otherID, present⟩
      · exact Or.inl ⟨attempt, member, rfl⟩
      · exact Or.inr ⟨⟨id, other, attempt, present, member, rfl⟩, otherID⟩
  · intro id other present
    rcases update_some_eq_some.mp present with ⟨rfl, rfl⟩ | ⟨-, present⟩
    · exact distinct
    · exact agree.distinct id other present

theorem keep
    (found : operations operationID = some operation) (same : next.attempts = operation.attempts) :
    StepsAgree steps (Function.update operations operationID (some next)) := by
  refine agree.write (fun row => ?_) (same ▸ agree.distinct operationID operation found)
  rw [same, ← agree.own_iff found row, ← and_or_left]
  exact (and_iff_left (em _)).symm

theorem add (fresh : operations operationID = none) (empty : next.attempts = []) :
    StepsAgree steps (Function.update operations operationID (some next)) := by
  refine agree.write (fun row => ?_) (by rw [empty]; exact List.nodup_nil)
  have elsewhere : row ∈ steps.rows → row.operationID ≠ operationID := by
    rintro rowIn rfl
    obtain ⟨id, other, attempt, present, -, rfl⟩ := (agree.rows row).mp rowIn
    rw [show operations id = none from fresh] at present
    cases present
  rw [empty]
  simpa using elsewhere

theorem fresh (inserted : steps.insert (StepRow.of operationID attempt) = some nextSteps) :
    ∀ id other, operations id = some other →
      ∀ old ∈ other.attempts, old.stepID ≠ attempt.stepID := by
  intro id other present old member same
  have row := (agree.rows (StepRow.of id old)).mpr ⟨id, other, old, present, member, rfl⟩
  exact Table.insert_fresh StepRow.exclusive_stepID inserted _ row same

theorem append (found : operations operationID = some operation)
    (inserted : steps.insert (StepRow.of operationID attempt) = some nextSteps)
    (appended : next.attempts = operation.attempts ++ [attempt]) :
    StepsAgree nextSteps (Function.update operations operationID (some next)) := by
  refine agree.write (fun row => ?_) ?_
  · simp only [Table.mem_insert inserted, appended, List.mem_append, List.mem_singleton,
      or_and_right, exists_or, exists_eq_left]
    rw [← agree.own_iff found row, or_right_comm, ← and_or_left, and_iff_left (em _)]
  · rw [appended, List.map_append, List.nodup_append]
    refine ⟨agree.distinct operationID operation found, List.nodup_singleton _, ?_⟩
    intro old oldIn new newIn same
    obtain ⟨attempted, member, rfl⟩ := List.mem_map.mp oldIn
    rw [List.map_singleton, List.mem_singleton] at newIn
    exact agree.fresh inserted operationID operation found attempted member (same.trans newIn)

end

end StepsAgree

/-! ### Replacing one attempt -/

theorem mem_set_attempt (distinct : (attempts.map (·.stepID)).Nodup)
    (found : attempts[index]? = some current) (same : attempt.stepID = current.stepID)
    (other : StepAttempt) :
    other ∈ attempts.set index attempt ↔
      other = attempt ∨ other ∈ attempts ∧ other.stepID ≠ attempt.stepID := by
  obtain ⟨inside, atIndex⟩ := List.getElem?_eq_some_iff.mp found
  have position : ∀ other ∈ attempts, other.stepID = current.stepID →
      ∀ (i : Nat) (bound : i < attempts.length), attempts[i] = other → i = index := by
    intro other _ sameID i bound here
    have injective := List.nodup_iff_injective_get.mp distinct
    have images : (attempts.map (·.stepID)).get ⟨i, by simpa using bound⟩ =
        (attempts.map (·.stepID)).get ⟨index, by simpa using inside⟩ := by
      simp [here, atIndex, sameID]
    exact congrArg Fin.val (injective images)
  rw [List.mem_iff_getElem]
  constructor
  · rintro ⟨i, bound, rfl⟩
    rw [List.length_set] at bound
    by_cases here : index = i
    · subst here
      exact Or.inl (List.getElem_set_self _)
    · rw [List.getElem_set_ne here]
      refine Or.inr ⟨List.getElem_mem _, fun sameID => here ?_⟩
      exact (position attempts[i] (List.getElem_mem _) (sameID.trans same) i bound rfl).symm
  · rintro (rfl | ⟨member, differs⟩)
    · exact ⟨index, by rwa [List.length_set], List.getElem_set_self _⟩
    · obtain ⟨i, bound, rfl⟩ := List.mem_iff_getElem.mp member
      have elsewhere : index ≠ i := by
        rintro rfl
        rw [atIndex] at differs
        exact differs same.symm
      exact ⟨i, by rwa [List.length_set], List.getElem_set_ne elsewhere _⟩

theorem map_stepID_set (found : attempts[index]? = some current)
    (same : attempt.stepID = current.stepID) :
    (attempts.set index attempt).map (·.stepID) = attempts.map (·.stepID) := by
  obtain ⟨inside, atIndex⟩ := List.getElem?_eq_some_iff.mp found
  rw [List.map_set, same, ← atIndex]
  have insideMap : index < (attempts.map (·.stepID)).length := by simpa using inside
  have unchanged := List.set_getElem_self insideMap
  rwa [List.getElem_map] at unchanged

theorem StepsAgree.replace {steps : Table StepRow} {operations : String → Option Operation}
    {operationID : String} {operation next : Operation} {chosen : StepRow → Bool}
    (agree : StepsAgree steps operations) (found : operations operationID = some operation)
    (at_ : operation.attempts[index]? = some current) (sameID : attempt.stepID = current.stepID)
    (sameNo : attempt.attemptNo = current.attemptNo)
    (selects : ∀ row ∈ steps.rows, chosen row = true ↔ row.stepID = attempt.stepID)
    (replaced : next.attempts = operation.attempts.set index attempt) :
    StepsAgree (steps.update chosen (StepRow.rewrite attempt) (StepRow.rewrite_keeps attempt))
      (Function.update operations operationID (some next)) := by
  have distinct := agree.distinct operationID operation found
  have own := agree.own_iff found
  have currentIn := (own (.of operationID current)).mpr ⟨current, List.mem_of_getElem? at_, rfl⟩
  have isCurrent : ∀ row ∈ steps.rows, chosen row = true → row = .of operationID current := by
    intro row rowIn isChosen
    refine steps.eq_of_clash rowIn currentIn.1 (StepRow.exclusive_stepID _ _ ?_)
    exact ((selects row rowIn).mp isChosen).trans sameID
  have rewritten : StepRow.rewrite attempt (StepRow.of operationID current) =
      StepRow.of operationID attempt := by
    simp only [StepRow.rewrite, StepRow.of, sameID, sameNo]
  have member := mem_set_attempt distinct at_ sameID
  rw [← replaced] at member
  refine agree.write (fun row => ?_) (by rwa [replaced, map_stepID_set at_ sameID])
  rw [Table.mem_update (StepRow.rewrite_keeps attempt)]
  constructor
  · rintro ⟨old, oldIn, rfl⟩
    split
    · rename_i isChosen
      rw [isCurrent old oldIn isChosen, rewritten]
      exact Or.inl ⟨attempt, (member attempt).mpr (Or.inl rfl), rfl⟩
    · rename_i notChosen
      by_cases isID : old.operationID = operationID
      · obtain ⟨oldAttempt, oldMember, rfl⟩ := (own old).mp ⟨oldIn, isID⟩
        have differs : oldAttempt.stepID ≠ attempt.stepID :=
          fun same => notChosen ((selects _ oldIn).mpr same)
        exact Or.inl ⟨oldAttempt, (member oldAttempt).mpr (Or.inr ⟨oldMember, differs⟩), rfl⟩
      · exact Or.inr ⟨oldIn, isID⟩
  · rintro (⟨newAttempt, newMember, rfl⟩ | ⟨rowIn, otherID⟩)
    · rcases (member newAttempt).mp newMember with rfl | ⟨oldMember, differs⟩
      · refine ⟨StepRow.of operationID current, currentIn.1, ?_⟩
        rw [if_pos ((selects _ currentIn.1).mpr sameID.symm), rewritten]
      · have oldIn := ((own (StepRow.of operationID newAttempt)).mpr ⟨newAttempt, oldMember, rfl⟩).1
        refine ⟨StepRow.of operationID newAttempt, oldIn, ?_⟩
        rw [if_neg fun isChosen => differs ((selects _ oldIn).mp isChosen)]
    · refine ⟨row, rowIn, ?_⟩
      rw [if_neg fun isChosen => otherID (by rw [isCurrent row rowIn isChosen]; rfl)]

theorem StepsAgree.perm {steps : Table StepRow} {operations : String → Option Operation}
    {operationID : String} {operation : Operation}
    (agree : StepsAgree steps operations) (found : operations operationID = some operation) :
    (steps.rows.filter (·.operationID = operationID)).Perm
      (operation.attempts.map (StepRow.of operationID)) := by
  have rowsDistinct : steps.rows.Nodup :=
    steps.distinct.imp fun apart same =>
      apart (StepRow.exclusive_stepID _ _ (congrArg StepRow.stepID same))
  have attemptsDistinct : (operation.attempts.map (StepRow.of operationID)).Nodup := by
    have identifiers := agree.distinct operationID operation found
    refine List.Nodup.of_map StepRow.stepID ?_
    rw [List.map_map]
    exact identifiers
  rw [List.perm_ext_iff_of_nodup (rowsDistinct.filter _) attemptsDistinct]
  intro row
  rw [List.mem_filter, decide_eq_true_eq, agree.own_iff found, List.mem_map]
  simp only [eq_comm]

/-! ### Coherent databases -/

/-- Columns repeat their payloads and the step table repeats the operations. -/
structure Database.Coherent (database : Database) : Prop where
  intents : database.intents.Faithful IntentRow.payload IntentRow.of
  approvals : database.approvals.Faithful ApprovalRow.payload ApprovalRow.of
  operations : database.operations.Faithful OperationRow.payload OperationRow.of
  backups : database.backups.Faithful BackupRow.payload BackupRow.of
  steps : StepsAgree database.steps database.operation

namespace Database.Coherent

variable {database : Database}

variable {intentID : String}

section

variable (coherent : database.Coherent) {backupID : String} {row : IntentRow}
  {record : IntentRecord}

include coherent

theorem intent_eq_some :
    database.intent intentID = some record ↔
      IntentRow.of record ∈ database.intents.rows ∧ record.intent.intentID = intentID :=
  coherent.intents.select_eq_some (fun _ => rfl) IntentRow.exclusive_intentID intentID record

theorem approval_eq_some {approval : Approval} :
    database.approval intentID = some approval ↔
      ApprovalRow.of approval ∈ database.approvals.rows ∧ approval.intentID = intentID :=
  coherent.approvals.select_eq_some (fun _ => rfl) ApprovalRow.exclusive_intentID intentID approval

theorem operation_eq_some {operationID : String}
    {operation : Operation} :
    database.operation operationID = some operation ↔
      OperationRow.of operation ∈ database.operations.rows ∧
        operation.operationID = operationID :=
  coherent.operations.select_eq_some (fun _ => rfl) OperationRow.exclusive_operationID
    operationID operation

theorem operationFor_eq_some {operation : Operation} :
    database.operationFor intentID = some operation ↔
      OperationRow.of operation ∈ database.operations.rows ∧ operation.intentID = intentID :=
  coherent.operations.select_eq_some (fun _ => rfl) OperationRow.exclusive_intentID
    intentID operation

theorem backup_eq_some {record : BackupRecord} :
    database.backup backupID = some record ↔
      BackupRow.of record ∈ database.backups.rows ∧ record.backupID = backupID :=
  coherent.backups.select_eq_some (fun _ => rfl) BackupRow.exclusive_backupID backupID record

theorem intent_row (member : row ∈ database.intents.rows) :
    ∃ record, row = IntentRow.of record ∧
      database.intent record.intent.intentID = some record := by
  have columns := coherent.intents row member
  exact ⟨row.payload, columns, coherent.intent_eq_some.mpr ⟨columns ▸ member, rfl⟩⟩

theorem operation_row {row : OperationRow}
    (member : row ∈ database.operations.rows) :
    ∃ operation, row = OperationRow.of operation ∧
      database.operation operation.operationID = some operation := by
  have columns := coherent.operations row member
  exact ⟨row.payload, columns, coherent.operation_eq_some.mpr ⟨columns ▸ member, rfl⟩⟩

theorem backup_row {row : BackupRow}
    (member : row ∈ database.backups.rows) :
    ∃ record, row = BackupRow.of record ∧ database.backup record.backupID = some record := by
  have columns := coherent.backups row member
  exact ⟨row.payload, columns, coherent.backup_eq_some.mpr ⟨columns ▸ member, rfl⟩⟩

theorem operation_of_operationFor {operation : Operation}
    (found : database.operationFor intentID = some operation) :
    database.operation operation.operationID = some operation ∧ operation.intentID = intentID := by
  obtain ⟨member, owner⟩ := coherent.operationFor_eq_some.mp found
  exact ⟨coherent.operation_eq_some.mpr ⟨member, rfl⟩, owner⟩

theorem lookup_intent (found : database.intents.lookup (·.intentID) intentID = some row) :
    database.intent intentID = some row.payload ∧ row.status = row.payload.status := by
  have member := ((Table.lookup_eq_some IntentRow.exclusive_intentID _ _ _).mp found).1
  refine ⟨by rw [Database.intent, Table.select, found]; rfl, ?_⟩
  exact congrArg IntentRow.status (coherent.intents row member)

/-! ### Writes -/

theorem faithful_writeIntent {old : IntentRecord} (found : database.intent intentID = some old)
    (sameIntent : record.intent = old.intent)
    (sameProposal : record.proposalDigest = old.proposalDigest) :
    (database.writeIntent intentID record).intents.Faithful IntentRow.payload IntentRow.of :=
  coherent.intents.update (IntentRow.rewrite_keeps record) record IntentRow.exclusive_intentID
    found rfl
    (by simp only [IntentRow.rewrite, IntentRow.of, sameIntent, sameProposal])

theorem faithful_writeOperation {operation next : Operation}
    (found : database.operation next.operationID = some operation)
    (sameIntent : next.intentID = operation.intentID)
    (sameEnrollment : next.enrollmentID = operation.enrollmentID) :
    (database.writeOperation next).operations.Faithful OperationRow.payload OperationRow.of := by
  have sameID := (coherent.operation_eq_some.mp found).2
  exact coherent.operations.update (OperationRow.rewrite_keeps next) next
    OperationRow.exclusive_operationID found rfl
    (by simp only [OperationRow.rewrite, OperationRow.of, sameIntent, sameEnrollment, sameID])

theorem faithful_writeBackup {old record : BackupRecord}
    (found : database.backup backupID = some old) (sameBackup : record.backupID = old.backupID)
    (sameOperation : record.operationID = old.operationID) :
    (database.writeBackup backupID record).backups.Faithful BackupRow.payload BackupRow.of :=
  coherent.backups.update (BackupRow.rewrite_keeps record) record BackupRow.exclusive_backupID
    found rfl
    (by simp only [BackupRow.rewrite, BackupRow.of, sameBackup, sameOperation])

theorem writeOperation {operation next : Operation}
    (found : database.operation next.operationID = some operation)
    (sameIntent : next.intentID = operation.intentID)
    (sameEnrollment : next.enrollmentID = operation.enrollmentID)
    (sameAttempts : next.attempts = operation.attempts) :
    (database.writeOperation next).Coherent where
  intents := coherent.intents
  approvals := coherent.approvals
  operations := coherent.faithful_writeOperation found sameIntent sameEnrollment
  backups := coherent.backups
  steps := by
    rw [writeOperation_operation (by rw [found]; exact Option.some_ne_none _)]
    exact coherent.steps.keep found sameAttempts

end

end Database.Coherent

end GuardedAgentRunner
