/-
This file models the SQLite tables of the store and the three helpers every
transaction shares: reading an operation, saving an operation and saving an
intent. A row keeps the columns some query reads or some constraint names, and
the record its payload decodes to. The audit table, the session table and the
columns that only repeat a time are left out: no transaction reads them, and an
audit entry can stop a transaction only through an instant without a text.
-/

import GuardedAgentRunner.Canonical
import GuardedAgentRunner.Library.Table

namespace GuardedAgentRunner

open Fallible

/-! ### Tables -/

/-- A row of `v01_intents`. -/
structure IntentRow where
  intentID : String
  principalID : String
  enrollmentID : String
  clientRequestID : String
  proposalDigest : String
  intentDigest : String
  status : IntentStatus
  payload : IntentRecord
  updatedAt : String
  deriving DecidableEq, Repr

instance : Constrained IntentRow where
  Columns := List String
  unique := [fun row => [row.intentID],
    fun row => [row.principalID, row.enrollmentID, row.clientRequestID]]

/-- A row of `v01_approvals`. -/
structure ApprovalRow where
  approvalID : String
  intentID : String
  intentDigest : String
  payload : Approval
  deriving DecidableEq, Repr

instance : Constrained ApprovalRow where
  Columns := String ⊕ String
  unique := [fun row => .inl row.approvalID, fun row => .inr row.intentID]

/-- A row of `v01_operations`. -/
structure OperationRow where
  operationID : String
  intentID : String
  enrollmentID : String
  status : OperationStatus
  ownershipReleased : Bool
  payload : Operation
  deriving DecidableEq, Repr

instance : Constrained OperationRow where
  Columns := String ⊕ String
  unique := [fun row => .inl row.operationID, fun row => .inr row.intentID]

/-- A row of `v01_steps`. Its second constraint, over the operation, the step and the attempt
number, repeats the primary key. -/
structure StepRow where
  stepID : String
  operationID : String
  attemptNo : Nat
  payload : StepAttempt
  deriving DecidableEq, Repr

instance : Constrained StepRow where
  Columns := String
  unique := [fun row => row.stepID]

/-- A row of `v01_backups`. -/
structure BackupRow where
  backupID : String
  operationID : String
  status : BackupStatus
  payload : BackupRecord
  deriving DecidableEq, Repr

instance : Constrained BackupRow where
  Columns := String ⊕ String
  unique := [fun row => .inl row.backupID, fun row => .inr row.operationID]

/-- The content of the SQLite file. -/
structure Database where
  backups : Table BackupRow
  intents : Table IntentRow
  approvals : Table ApprovalRow
  operations : Table OperationRow
  steps : Table StepRow

/-- The file as `initialize` leaves it. -/
def Database.empty : Database := ⟨.empty, .empty, .empty, .empty, .empty⟩

/-! ### The keys of the tables -/

theorem IntentRow.exclusive_intentID : Table.Exclusive IntentRow.intentID := by
  intro first second same
  exact ⟨_, .head _, by rw [same]⟩

theorem IntentRow.clash_of_key {first second : IntentRow} {principalID enrollmentID key : String}
    (firstKey : first.principalID = principalID ∧ first.enrollmentID = enrollmentID ∧
      first.clientRequestID = key)
    (secondKey : second.principalID = principalID ∧ second.enrollmentID = enrollmentID ∧
      second.clientRequestID = key) : Constrained.Clash first second := by
  obtain ⟨rfl, rfl, rfl⟩ := firstKey
  obtain ⟨samePrincipal, sameEnrollment, sameKey⟩ := secondKey
  exact ⟨_, .tail _ (.head _), by rw [samePrincipal, sameEnrollment, sameKey]⟩

theorem ApprovalRow.exclusive_intentID : Table.Exclusive ApprovalRow.intentID := by
  intro first second same
  exact ⟨_, .tail _ (.head _), by rw [same]⟩

theorem OperationRow.exclusive_operationID : Table.Exclusive OperationRow.operationID := by
  intro first second same
  exact ⟨_, .head _, by rw [same]⟩

theorem OperationRow.exclusive_intentID : Table.Exclusive OperationRow.intentID := by
  intro first second same
  exact ⟨_, .tail _ (.head _), by rw [same]⟩

theorem StepRow.exclusive_stepID : Table.Exclusive StepRow.stepID := by
  intro first second same
  exact ⟨_, .head _, by rw [same]⟩

theorem BackupRow.exclusive_backupID : Table.Exclusive BackupRow.backupID := by
  intro first second same
  exact ⟨_, .head _, by rw [same]⟩

theorem BackupRow.exclusive_operationID : Table.Exclusive BackupRow.operationID := by
  intro first second same
  exact ⟨_, .tail _ (.head _), by rw [same]⟩

/-! ### The rows of records -/

/-- The columns `PutIntent` writes for a record. -/
def IntentRow.of (record : IntentRecord) : IntentRow where
  intentID := record.intent.intentID
  principalID := record.intent.principalID
  enrollmentID := record.intent.enrollmentID
  clientRequestID := record.intent.clientRequestID
  proposalDigest := record.proposalDigest
  intentDigest := record.intent.intentDigest
  status := record.status
  payload := record
  updatedAt := record.updatedAt.formatRFC3339Nano

/-- The columns an approval is stored with. -/
def ApprovalRow.of (approval : Approval) : ApprovalRow where
  approvalID := approval.approvalID
  intentID := approval.intentID
  intentDigest := approval.intentDigest
  payload := approval

/-- The columns an operation is stored with. -/
def OperationRow.of (operation : Operation) : OperationRow where
  operationID := operation.operationID
  intentID := operation.intentID
  enrollmentID := operation.enrollmentID
  status := operation.status
  ownershipReleased := operation.ownershipReleased
  payload := operation

/-- The columns a step attempt is stored with. -/
def StepRow.of (operationID : String) (attempt : StepAttempt) : StepRow where
  stepID := attempt.stepID
  operationID := operationID
  attemptNo := attempt.attemptNo
  payload := attempt

/-- The columns a backup is stored with. -/
def BackupRow.of (record : BackupRecord) : BackupRow where
  backupID := record.backupID
  operationID := record.operationID
  status := record.status
  payload := record

/-! ### The rows updates leave -/

/-- The columns a decision rewrites. -/
def IntentRow.rewrite (record : IntentRecord) (row : IntentRow) : IntentRow :=
  { row with
    status := record.status
    payload := record
    updatedAt := record.updatedAt.formatRFC3339Nano }

theorem IntentRow.rewrite_keeps (record : IntentRecord) (row : IntentRow) :
    ∀ columns ∈ Constrained.unique, columns (row.rewrite record) = columns row := by
  simp [Constrained.unique, rewrite]

/-- The columns `saveOperationTx` rewrites. -/
def OperationRow.rewrite (operation : Operation) (row : OperationRow) : OperationRow :=
  { row with
    status := operation.status
    ownershipReleased := operation.ownershipReleased
    payload := operation }

theorem OperationRow.rewrite_keeps (operation : Operation) (row : OperationRow) :
    ∀ columns ∈ Constrained.unique, columns (row.rewrite operation) = columns row := by
  simp [Constrained.unique, rewrite]

/-- The column a changed attempt rewrites. -/
def StepRow.rewrite (attempt : StepAttempt) (row : StepRow) : StepRow :=
  { row with payload := attempt }

theorem StepRow.rewrite_keeps (attempt : StepAttempt) (row : StepRow) :
    ∀ columns ∈ Constrained.unique, columns (row.rewrite attempt) = columns row := by
  simp [Constrained.unique, rewrite]

/-- The columns a backup's progress rewrites. -/
def BackupRow.rewrite (record : BackupRecord) (row : BackupRow) : BackupRow :=
  { row with status := record.status, payload := record }

theorem BackupRow.rewrite_keeps (record : BackupRecord) (row : BackupRow) :
    ∀ columns ∈ Constrained.unique, columns (row.rewrite record) = columns row := by
  simp [Constrained.unique, rewrite]

/-! ### Reading -/

namespace Database

variable (database : Database)

/-- The record stored for an intent. -/
def intent (intentID : String) : Option IntentRecord :=
  database.intents.select (·.intentID) (·.payload) intentID

/-- The decision stored for an intent. -/
def approval (intentID : String) : Option Approval :=
  database.approvals.select (·.intentID) (·.payload) intentID

/-- The operation stored under an identifier. -/
def operation (operationID : String) : Option Operation :=
  database.operations.select (·.operationID) (·.payload) operationID

/-- The operation stored for an intent. -/
def operationFor (intentID : String) : Option Operation :=
  database.operations.select (·.intentID) (·.payload) intentID

/-- The backup stored under an identifier. -/
def backup (backupID : String) : Option BackupRecord :=
  database.backups.select (·.backupID) (·.payload) backupID

/-- `getOperationTx`. -/
def getOperationTx (operationID : String) : Except Failure Operation :=
  demand (database.operation operationID) (newError .notFound "operation not found")

/-! ### Writing -/

/-- `INSERT`: a violated constraint is a write error. -/
def insertRow {Row : Type} [Constrained Row] (table : Table Row) (row : Row) :
    Except Failure (Table Row) :=
  demand (table.insert row) Failure.constraintFailed.translateWriteError

/-- The update of `v01_operations` by `saveOperationTx`. -/
def writeOperation (operation : Operation) : Database :=
  { database with
    operations := database.operations.update (fun row => row.operationID = operation.operationID)
      (OperationRow.rewrite operation) (OperationRow.rewrite_keeps operation) }

/-- `saveOperationTx`: exactly one row must be affected. -/
def saveOperationTx (operation : Operation) : Except Failure Database := do
  let payload ← marshal operation
  refuse (database.operation operation.operationID = none)
    (newError .notFound "operation not found")
  pure (database.writeOperation payload)

/-- The update of `v01_intents` by a decision on the intent. -/
def writeIntent (intentID : String) (record : IntentRecord) : Database :=
  { database with
    intents := database.intents.update (fun row => row.intentID = intentID)
      (IntentRow.rewrite record) (IntentRow.rewrite_keeps record) }

/-- `updateIntentTx`. -/
def updateIntentTx (record : IntentRecord) : Except Failure Database := do
  let payload ← marshal record
  pure (database.writeIntent record.intent.intentID payload)

/-- The update of `v01_steps` on the chosen rows. -/
def writeStep (chosen : StepRow → Bool) (attempt : StepAttempt) : Database :=
  { database with
    steps := database.steps.update chosen (StepRow.rewrite attempt)
      (StepRow.rewrite_keeps attempt) }

/-- The update of `v01_backups`. -/
def writeBackup (backupID : String) (record : BackupRecord) : Database :=
  { database with
    backups := database.backups.update (fun row => row.backupID = backupID)
      (BackupRow.rewrite record) (BackupRow.rewrite_keeps record) }

/-- `appendAuditTx`: the entry is written if its payload has a text. -/
def appendAuditTx {Record : Type} [Stored Record] (payload : Record) : Except Failure Unit := do
  let _ ← marshal payload
  pure ()

/-! ### Inversion -/

@[simp] theorem getOperationTx_eq_ok (database : Database) (operationID : String)
    (operation : Operation) :
    database.getOperationTx operationID = .ok operation ↔
      database.operation operationID = some operation :=
  demand_eq_ok _ _ _

@[simp] theorem insertRow_eq_ok {Row : Type} [Constrained Row] (table next : Table Row)
    (row : Row) : insertRow table row = .ok next ↔ table.insert row = some next :=
  demand_eq_ok _ _ _

variable {database} {record : IntentRecord} {next : Database}

theorem saveOperationTx_eq_ok {operation : Operation} :
    database.saveOperationTx operation = .ok next ↔
      Storable operation ∧ database.operation operation.operationID ≠ none ∧
        database.writeOperation operation = next := by
  simp only [saveOperationTx, bind_eq_ok, marshal_eq_ok, refuse_eq_ok, pure_eq_ok]
  constructor
  · rintro ⟨_, ⟨storable, rfl⟩, _, present, written⟩
    exact ⟨storable, present, written⟩
  · rintro ⟨storable, present, written⟩
    exact ⟨operation, ⟨storable, rfl⟩, (), present, written⟩

theorem updateIntentTx_eq_ok :
    database.updateIntentTx record = .ok next ↔
      Storable record ∧ database.writeIntent record.intent.intentID record = next := by
  simp only [updateIntentTx, bind_eq_ok, marshal_eq_ok, pure_eq_ok]
  constructor
  · rintro ⟨_, ⟨storable, rfl⟩, written⟩
    exact ⟨storable, written⟩
  · rintro ⟨storable, written⟩
    exact ⟨record, ⟨storable, rfl⟩, written⟩

theorem appendAuditTx_eq_ok {Record : Type} [Stored Record] {payload : Record} {done : Unit} :
    appendAuditTx payload = .ok done ↔ Storable payload := by
  simp only [appendAuditTx, bind_eq_ok, marshal_eq_ok, pure_eq_ok]
  constructor
  · rintro ⟨_, ⟨storable, -⟩, -⟩
    exact storable
  · exact fun storable => ⟨payload, ⟨storable, rfl⟩, trivial⟩

/-! ### What a write changes -/

theorem writeOperation_operation {operation : Operation}
    (present : database.operation operation.operationID ≠ none) :
    (database.writeOperation operation).operation =
      Function.update database.operation operation.operationID (some operation) :=
  Table.select_update (OperationRow.rewrite_keeps operation) (fun _ => rfl) (fun _ => rfl) present

theorem writeIntent_intent {intentID : String} (present : database.intent intentID ≠ none) :
    (database.writeIntent intentID record).intent =
      Function.update database.intent intentID (some record) :=
  Table.select_update (IntentRow.rewrite_keeps record) (fun _ => rfl) (fun _ => rfl) present

theorem writeBackup_backup {backupID : String} {record : BackupRecord}
    (present : database.backup backupID ≠ none) :
    (database.writeBackup backupID record).backup =
      Function.update database.backup backupID (some record) :=
  Table.select_update (BackupRow.rewrite_keeps record) (fun _ => rfl) (fun _ => rfl) present

end Database

end GuardedAgentRunner
