/-
This file models what an agent can read of the journal: `GetOwnOperation`, which
tries one reference as an intent, an operation, a step and a client request and
swallows the errors of the earlier lookups, and `ListIntentSummaries`, which
pages through the intents of a principal and an enrollment. Whatever is found
belongs to the session, and two journals that agree on the records of the
session never give two different answers.
-/

import Mathlib.Data.String.Basic
import Mathlib.Data.List.Sort
import GuardedAgentRunner.Refinement
import GuardedAgentRunner.Service

namespace GuardedAgentRunner

open Fallible Store

/-! ### Lookups -/

namespace Store

/-- `OperationForIntent`. -/
def operationForIntent (intentID : String) (database : Database) : Except Failure Operation :=
  demand (database.operationFor intentID) (newError .notFound "operation not found")

/-- The operation of the step with an identifier: the step table joined with the operations. -/
def operationOfStep (database : Database) (stepID : String) : Option Operation :=
  (database.steps.lookup (·.stepID) stepID).bind fun row => database.operation row.operationID

/-- `OperationForStep`. -/
def operationForStep (stepID : String) (database : Database) : Except Failure Operation :=
  demand (operationOfStep database stepID) (newError .notFound "step not found")

end Store

/-- The reads of one call of `GetOwnOperation`. -/
inductive OwnRead where
  | intent
  | operation
  | step
  | clientKey
  | operationOfIntent
  | intentOfOperation

/-- The reads that fail for a reason outside the journal, with the message of the driver. -/
abbrev ReadFaults := OwnRead → Option String

/-- A read of the journal, unless it fails. -/
def ReadFaults.guard {Value : Type} (faults : ReadFaults) (read : OwnRead)
    (value : Except Failure Value) : Except Failure Value :=
  match faults read with
  | some message => .error (.other message)
  | none => value

/-- `if value, err := lookup; err == nil { return found(value) }` and then the rest. -/
def whenFound {Value Result : Type} (lookup : Except Failure Value)
    (found : Value → Except Failure Result) (rest : Except Failure Result) :
    Except Failure Result :=
  match lookup with
  | .ok value => found value
  | .error _ => rest

/-! ### `GetOwnOperation` -/

/-- The intent of a session: it has the session's principal and enrollment. -/
def AgentSessionScope.Owns (scope : AgentSessionScope) (record : IntentRecord) : Prop :=
  record.intent.principalID = scope.principalID ∧ record.intent.enrollmentID = scope.enrollmentID
deriving Decidable

/-- The intent and its operation, `nil` if there is none. -/
def withOperation (faults : ReadFaults) (database : Database) (intent : IntentRecord) :
    Except Failure (IntentRecord × Option Operation) :=
  match faults.guard .operationOfIntent (operationForIntent intent.intent.intentID database) with
  | .ok operation => .ok (intent, some operation)
  | .error failure => if failure.codeOf = .notFound then .ok (intent, none) else .error failure

/-- An intent that belongs to another principal or target is refused. -/
def demandOwn (scope : AgentSessionScope) (intent : IntentRecord) : Except Failure Unit :=
  refuse (¬ scope.Owns intent)
    (newError .scopeDenied "reference belongs to another principal or target")

/-- `ownOperationResult`. -/
def ownOperationResult (faults : ReadFaults) (scope : AgentSessionScope) (database : Database)
    (operation : Operation) : Except Failure (IntentRecord × Option Operation) := do
  let intent ← faults.guard .intentOfOperation (getIntent operation.intentID database)
  demandOwn scope intent
  pure (intent, some operation)

/-- The lookups of `GetOwnOperation`, in their order. -/
def findOwn (faults : ReadFaults) (scope : AgentSessionScope) (reference : String)
    (database : Database) : Except Failure (IntentRecord × Option Operation) :=
  whenFound (faults.guard .intent (getIntent reference database))
    (fun intent => do
      demandOwn scope intent
      withOperation faults database intent) <|
  whenFound (faults.guard .operation (getOperation reference database))
    (ownOperationResult faults scope database) <|
  whenFound (faults.guard .step (operationForStep reference database))
    (ownOperationResult faults scope database) <| do
  let intent ← faults.guard .clientKey
    (getIntentByClientKey scope.principalID scope.enrollmentID reference database)
  withOperation faults database intent

/-- `GetOwnOperation`. -/
def getOwnOperation (codec : Codec) (service : Service) (now : Time) (faults : ReadFaults)
    (scope : AgentSessionScope) (reference : String) (database : Database) :
    Except Failure (IntentRecord × Option Operation) := do
  service.authorize codec now scope "get_operation" "" ""
  findOwn faults scope reference database

/-! ### `ListIntentSummaries` -/

structure IntentSummary where
  intentID : String
  clientRequestID : String
  status : IntentStatus
  intentDigest : String
  updatedAt : Time
  deriving DecidableEq, Repr

/-- The two parts of a cursor, around the last bar: a time and an identifier. -/
def splitCursor (cursor : String) : Option (String × String) :=
  let time := String.ofList ((cursor.toList.reverse.dropWhile (· ≠ '|')).drop 1).reverse
  let id := String.ofList (cursor.toList.reverse.takeWhile (· ≠ '|')).reverse
  if '|' ∈ cursor.toList ∧ time ≠ "" ∧ id ≠ "" ∧ (Time.parse time).isSome then some (time, id)
  else none

/-- The start of a page: everything, or what comes after a cursor. -/
def readCursor (cursor : String) : Except Failure (Option (String × String)) :=
  if cursor = "" then .ok none
  else (demand (splitCursor cursor)
    (newError .invalidRequest "recent-changes cursor is invalid")).map some

/-- The rows of a principal and an enrollment that come after a cursor. -/
def inPage (principalID enrollmentID : String) (start : Option (String × String))
    (row : IntentRow) : Bool :=
  row.principalID = principalID && row.enrollmentID = enrollmentID &&
    match start with
    | none => true
    | some (time, id) => row.updatedAt < time || row.updatedAt = time && row.intentID < id

/-- `ORDER BY updated_at DESC, intent_id DESC`. -/
def newestFirst (first second : IntentRow) : Bool :=
  second.updatedAt < first.updatedAt ||
    second.updatedAt = first.updatedAt && second.intentID ≤ first.intentID

/-- One row as it is scanned. -/
def summarize (row : IntentRow) : Except Failure IntentSummary := do
  let updatedAt ← demand (Time.parse row.updatedAt) (.other "parsing time of an intent")
  pure { intentID := row.intentID, clientRequestID := row.clientRequestID, status := row.status,
         intentDigest := row.intentDigest, updatedAt }

/-- The cursor after a page: a full page can have a next one. -/
def nextCursor (limit : Nat) (results : List IntentSummary) : String :=
  match results.getLast? with
  | some last =>
    if results.length = limit then last.updatedAt.formatRFC3339Nano ++ "|" ++ last.intentID else ""
  | none => ""

/-- `ListIntentSummaries`. -/
def listIntentSummaries (principalID enrollmentID cursor : String) (limit : Int)
    (database : Database) : Except Failure (List IntentSummary × String) := do
  refuse (limit < 1 ∨ 200 < limit)
    (newError .invalidRequest "intent summary limit must be from 1 through 200")
  let start ← readCursor cursor
  let rows := database.intents.rows.filter (inPage principalID enrollmentID start)
  let results ← ((rows.mergeSort newestFirst).take limit.toNat).mapM summarize
  pure (results, nextCursor limit.toNat results)

/-! ### Journals that agree on the records of a session -/

section Agree

variable (principalID enrollmentID : String)

/-- A row of an intent of the principal and the enrollment. -/
def OwnIntent (database : Database) (row : IntentRow) : Prop :=
  row ∈ database.intents.rows ∧ row.principalID = principalID ∧ row.enrollmentID = enrollmentID

/-- A row of an operation of such an intent. -/
def OwnOperation (database : Database) (row : OperationRow) : Prop :=
  row ∈ database.operations.rows ∧
    ∃ intent, OwnIntent principalID enrollmentID database intent ∧ intent.intentID = row.intentID

/-- A row of a step of such an operation. -/
def OwnStep (database : Database) (row : StepRow) : Prop :=
  row ∈ database.steps.rows ∧ ∃ operation,
    OwnOperation principalID enrollmentID database operation ∧
      operation.operationID = row.operationID

/-- The journals have the same records of the principal and the enrollment. -/
structure Agree (first second : Database) : Prop where
  intents : ∀ row, OwnIntent principalID enrollmentID first row ↔
    OwnIntent principalID enrollmentID second row
  operations : ∀ row, OwnOperation principalID enrollmentID first row ↔
    OwnOperation principalID enrollmentID second row
  steps : ∀ row, OwnStep principalID enrollmentID first row ↔
    OwnStep principalID enrollmentID second row

end Agree

theorem Agree.symm {principalID enrollmentID : String} {first second : Database}
    (agree : Agree principalID enrollmentID first second) :
    Agree principalID enrollmentID second first :=
  ⟨fun row => (agree.intents row).symm, fun row => (agree.operations row).symm,
    fun row => (agree.steps row).symm⟩

theorem Agree.of_rows {principalID enrollmentID : String} {first second : Database}
    (intents : first.intents.rows.filter (inPage principalID enrollmentID none) =
      second.intents.rows.filter (inPage principalID enrollmentID none))
    (operations : first.operations.rows = second.operations.rows)
    (steps : first.steps.rows = second.steps.rows) :
    Agree principalID enrollmentID first second := by
  have own : ∀ database row, OwnIntent principalID enrollmentID database row ↔
      row ∈ database.intents.rows.filter (inPage principalID enrollmentID none) := by
    simp [OwnIntent, inPage]
  have ownIntents : ∀ row, OwnIntent principalID enrollmentID first row ↔
      OwnIntent principalID enrollmentID second row := by
    intro row
    rw [own, own, intents]
  have ownOperations : ∀ row, OwnOperation principalID enrollmentID first row ↔
      OwnOperation principalID enrollmentID second row := by
    simp only [OwnOperation, operations, ownIntents, implies_true]
  refine ⟨ownIntents, ownOperations, ?_⟩
  simp only [OwnStep, steps, ownOperations, implies_true]

/-! ### Whose records are found -/

/-- Every operation is enrolled where its intent is. -/
def Ledger.Enrolled (ledger : Ledger) : Prop :=
  ∀ id operation, ledger.operations id = some operation →
    ∃ record, ledger.intents operation.intentID = some record ∧
      record.intent.enrollmentID = operation.enrollmentID

variable {codec : Codec}

theorem Ledger.Enrolled.step {before after : Ledger} {call : StoreCall}
    (enrolled : before.Enrolled) (step : Ledger.Step codec before call after) : after.Enrolled :=
  step.operations_agree (fun intent operation => intent.enrollmentID = operation.enrollmentID)
    enrolled (fun move _ same => same.trans move.sameIdentity.enrollmentID.symm) fun _ => rfl

theorem replay_enrolled (log : List Transaction) :
    (replay codec log).ledger.Enrolled :=
  replay_ledger (fun _ _ present => nomatch present) (fun _ enrolled step => enrolled.step step) log

variable {faults : ReadFaults} {scope : AgentSessionScope} {database : Database} {Value : Type}

theorem ReadFaults.guard_eq_ok {read : OwnRead} {value : Except Failure Value} {result : Value} :
    faults.guard read value = .ok result ↔ faults read = none ∧ value = .ok result := by
  unfold ReadFaults.guard
  cases faults read with
  | none => exact ⟨fun same => ⟨rfl, same⟩, fun same => same.2⟩
  | some message => exact ⟨nofun, fun same => nomatch same.1⟩

theorem whenFound_eq_ok {Result : Type} {lookup : Except Failure Value}
    {found : Value → Except Failure Result} {rest : Except Failure Result} {result : Result}
    (run : whenFound lookup found rest = .ok result) :
    (∃ value, lookup = .ok value ∧ found value = .ok result) ∨ rest = .ok result := by
  cases lookup with
  | ok value => exact Or.inl ⟨value, rfl, run⟩
  | error failure => exact Or.inr run

variable {intent record : IntentRecord} {answer : IntentRecord × Option Operation}
  {operation : Operation} {stepID : String}

theorem demandOwn_eq_ok {done : Unit} : demandOwn scope intent = .ok done ↔ scope.Owns intent := by
  rw [demandOwn, refuse_eq_ok, not_not]

/-- What is stored and belongs to the session. -/
structure OwnAnswer (scope : AgentSessionScope) (database : Database)
    (answer : IntentRecord × Option Operation) : Prop where
  owns : scope.Owns answer.1
  stored : database.intent answer.1.intent.intentID = some answer.1
  operation : ∀ operation ∈ answer.2, database.operation operation.operationID = some operation ∧
    operation.intentID = answer.1.intent.intentID ∧ operation.enrollmentID = scope.enrollmentID

theorem ownAnswer_withOperation (coherent : database.Coherent) (enrolled : database.ledger.Enrolled)
    (owns : scope.Owns intent) (stored : database.intent intent.intent.intentID = some intent)
    (run : withOperation faults database intent = .ok answer) :
    OwnAnswer scope database answer := by
  unfold withOperation at run
  split at run
  · rename_i operation read
    obtain rfl := Except.ok.inj run
    refine ⟨owns, stored, fun other listed => ?_⟩
    obtain rfl := Option.some.inj listed
    have found : database.operationFor intent.intent.intentID = some operation :=
      (demand_eq_ok _ _ _).mp (ReadFaults.guard_eq_ok.mp read).2
    obtain ⟨row, names⟩ := coherent.operationFor_eq_some.mp found
    have present : database.operation operation.operationID = some operation :=
      coherent.operation_eq_some.mpr ⟨row, rfl⟩
    obtain ⟨record, recordFound, sameEnrollment⟩ := enrolled _ operation present
    rw [names] at recordFound
    obtain rfl := Option.mem_unique stored recordFound
    exact ⟨present, names, sameEnrollment.symm.trans owns.2⟩
  · split at run
    · obtain rfl := Except.ok.inj run
      exact ⟨owns, stored, fun _ listed => (Option.some_ne_none _ listed.symm).elim⟩
    · exact nomatch run

theorem ownAnswer_ownOperationResult (coherent : database.Coherent)
    (enrolled : database.ledger.Enrolled)
    (present : database.operation operation.operationID = some operation)
    (run : ownOperationResult faults scope database operation = .ok answer) :
    OwnAnswer scope database answer := by
  unfold ownOperationResult at run
  obtain ⟨intent, read, run⟩ := bind_eq_ok.mp run
  obtain ⟨_, own, run⟩ := bind_eq_ok.mp run
  obtain rfl := (pure_eq_ok _ _).mp run
  have owns := demandOwn_eq_ok.mp own
  have found : database.intent operation.intentID = some intent :=
    (demand_eq_ok _ _ _).mp (ReadFaults.guard_eq_ok.mp read).2
  obtain ⟨row, names⟩ := coherent.intent_eq_some.mp found
  refine ⟨owns, coherent.intent_eq_some.mpr ⟨row, rfl⟩, fun other listed => ?_⟩
  obtain rfl := Option.some.inj listed
  obtain ⟨record, recordFound, sameEnrollment⟩ := enrolled _ operation present
  obtain rfl := Option.mem_unique found recordFound
  exact ⟨present, names.symm, sameEnrollment.symm.trans owns.2⟩

theorem clientKey_eq_ok (coherent : database.Coherent) {principalID enrollmentID key : String} :
    getIntentByClientKey principalID enrollmentID key database = .ok record ↔
      IntentRow.of record ∈ database.intents.rows ∧ record.intent.principalID = principalID ∧
        record.intent.enrollmentID = enrollmentID ∧ record.intent.clientRequestID = key := by
  have clash : ∀ first second : IntentRow,
      decide (first.principalID = principalID ∧ first.enrollmentID = enrollmentID ∧
        first.clientRequestID = key) = true →
      decide (second.principalID = principalID ∧ second.enrollmentID = enrollmentID ∧
        second.clientRequestID = key) = true → Constrained.Clash first second :=
    fun _ _ firstKey secondKey =>
      IntentRow.clash_of_key (of_decide_eq_true firstKey) (of_decide_eq_true secondKey)
  unfold getIntentByClientKey
  rw [demand_eq_ok, Option.map_eq_some_iff]
  constructor
  · rintro ⟨row, found, rfl⟩
    obtain ⟨member, passes⟩ := (Table.find_eq_some clash).mp found
    obtain ⟨record, rfl, -⟩ := coherent.intent_row member
    exact ⟨member, of_decide_eq_true passes⟩
  · rintro ⟨member, key⟩
    exact ⟨_, (Table.find_eq_some clash).mpr ⟨member, decide_eq_true key⟩, rfl⟩

theorem operationOfStep_eq_some :
    operationOfStep database stepID = some operation ↔
      ∃ row ∈ database.steps.rows, row.stepID = stepID ∧
        database.operation row.operationID = some operation := by
  unfold operationOfStep
  rw [Option.bind_eq_some_iff]
  constructor
  · rintro ⟨row, found, present⟩
    obtain ⟨member, names⟩ := (Table.lookup_eq_some StepRow.exclusive_stepID _ _ _).mp found
    exact ⟨row, member, names, present⟩
  · rintro ⟨row, member, names, present⟩
    exact ⟨row, (Table.lookup_eq_some StepRow.exclusive_stepID _ _ _).mpr ⟨member, names⟩, present⟩

theorem ownAnswer_findOwn (coherent : database.Coherent) (enrolled : database.ledger.Enrolled)
    {reference : String} (run : findOwn faults scope reference database = .ok answer) :
    OwnAnswer scope database answer := by
  unfold findOwn at run
  rcases whenFound_eq_ok run with ⟨intent, read, run⟩ | run
  · obtain ⟨_, own, run⟩ := bind_eq_ok.mp run
    have found : database.intent reference = some intent :=
      (demand_eq_ok _ _ _).mp (ReadFaults.guard_eq_ok.mp read).2
    obtain ⟨row, -⟩ := coherent.intent_eq_some.mp found
    exact ownAnswer_withOperation coherent enrolled (demandOwn_eq_ok.mp own)
      (coherent.intent_eq_some.mpr ⟨row, rfl⟩) run
  rcases whenFound_eq_ok run with ⟨operation, read, run⟩ | run
  · have found := (Database.getOperationTx_eq_ok _ _ _).mp (ReadFaults.guard_eq_ok.mp read).2
    obtain ⟨row, -⟩ := coherent.operation_eq_some.mp found
    exact ownAnswer_ownOperationResult coherent enrolled
      (coherent.operation_eq_some.mpr ⟨row, rfl⟩) run
  rcases whenFound_eq_ok run with ⟨operation, read, run⟩ | run
  · have found : operationOfStep database reference = some operation :=
      (demand_eq_ok _ _ _).mp (ReadFaults.guard_eq_ok.mp read).2
    obtain ⟨_, -, -, present⟩ := operationOfStep_eq_some.mp found
    obtain ⟨row, -⟩ := coherent.operation_eq_some.mp present
    exact ownAnswer_ownOperationResult coherent enrolled
      (coherent.operation_eq_some.mpr ⟨row, rfl⟩) run
  · obtain ⟨intent, read, run⟩ := bind_eq_ok.mp run
    obtain ⟨row, principal, enrollment, -⟩ :=
      (clientKey_eq_ok coherent).mp (ReadFaults.guard_eq_ok.mp read).2
    exact ownAnswer_withOperation coherent enrolled ⟨principal, enrollment⟩
      (coherent.intent_eq_some.mpr ⟨row, rfl⟩) run

/-! ### Two journals -/

section Journals

variable {first second : Database} (firstCoherent : first.Coherent)
  (secondCoherent : second.Coherent)
  (agree : Agree scope.principalID scope.enrollmentID first second) {id : String}

include firstCoherent secondCoherent agree

theorem own_intent (found : first.intent id = some record) (owns : scope.Owns record) :
    second.intent id = some record := by
  obtain ⟨row, names⟩ := firstCoherent.intent_eq_some.mp found
  exact secondCoherent.intent_eq_some.mpr
    ⟨((agree.intents _).mp ⟨row, owns.1, owns.2⟩).1, names⟩

omit secondCoherent in
theorem own_operation_row (row : OperationRow.of operation ∈ first.operations.rows)
    (found : first.intent operation.intentID = some record) (owns : scope.Owns record) :
    OwnOperation scope.principalID scope.enrollmentID first (OperationRow.of operation) ∧
      OperationRow.of operation ∈ second.operations.rows := by
  obtain ⟨intentRow, names⟩ := firstCoherent.intent_eq_some.mp found
  have own : OwnOperation scope.principalID scope.enrollmentID first (OperationRow.of operation) :=
    ⟨row, _, ⟨intentRow, owns.1, owns.2⟩, names⟩
  exact ⟨own, ((agree.operations _).mp own).1⟩

theorem own_operation (present : first.operation id = some operation)
    (found : first.intent operation.intentID = some record) (owns : scope.Owns record) :
    second.operation id = some operation := by
  obtain ⟨row, names⟩ := firstCoherent.operation_eq_some.mp present
  exact secondCoherent.operation_eq_some.mpr
    ⟨(own_operation_row firstCoherent agree row found owns).2, names⟩

theorem own_operationFor (found : first.intent record.intent.intentID = some record)
    (owns : scope.Owns record)
    (present : first.operationFor record.intent.intentID = some operation) :
    second.operationFor record.intent.intentID = some operation := by
  obtain ⟨row, names⟩ := firstCoherent.operationFor_eq_some.mp present
  rw [← names] at found
  exact secondCoherent.operationFor_eq_some.mpr
    ⟨(own_operation_row firstCoherent agree row found owns).2, names⟩

theorem own_operationOfStep (present : operationOfStep first stepID = some operation)
    (found : first.intent operation.intentID = some record) (owns : scope.Owns record) :
    operationOfStep second stepID = some operation := by
  obtain ⟨row, member, names, opened⟩ := operationOfStep_eq_some.mp present
  obtain ⟨operationRow, operationNames⟩ := firstCoherent.operation_eq_some.mp opened
  obtain ⟨own, -⟩ := own_operation_row firstCoherent agree operationRow found owns
  have step : OwnStep scope.principalID scope.enrollmentID first row :=
    ⟨member, _, own, operationNames⟩
  exact operationOfStep_eq_some.mpr ⟨row, ((agree.steps row).mp step).1, names,
    own_operation firstCoherent secondCoherent agree opened found owns⟩

theorem withOperation_agree (found : first.intent record.intent.intentID = some record)
    (owns : scope.Owns record) :
    withOperation faults first record = withOperation faults second record := by
  have same : first.operationFor record.intent.intentID =
      second.operationFor record.intent.intentID := by
    refine Option.ext fun operation => ⟨fun present => ?_, fun present => ?_⟩
    · exact own_operationFor firstCoherent secondCoherent agree found owns present
    · exact own_operationFor secondCoherent firstCoherent agree.symm
        (own_intent firstCoherent secondCoherent agree found owns) owns present
  unfold withOperation operationForIntent
  rw [same]

theorem ownOperationResult_agree
    (run : ownOperationResult faults scope first operation = .ok answer) :
    ownOperationResult faults scope second operation = .ok answer ∧
      ∃ record, first.intent operation.intentID = some record ∧ scope.Owns record := by
  unfold ownOperationResult at run ⊢
  obtain ⟨intent, read, run⟩ := bind_eq_ok.mp run
  obtain ⟨done, own, run⟩ := bind_eq_ok.mp run
  obtain ⟨works, read⟩ := ReadFaults.guard_eq_ok.mp read
  have owns := demandOwn_eq_ok.mp own
  have found : first.intent operation.intentID = some intent := (demand_eq_ok _ _ _).mp read
  have also := own_intent firstCoherent secondCoherent agree found owns
  refine ⟨bind_eq_ok.mpr ⟨intent, ReadFaults.guard_eq_ok.mpr ⟨works, ?_⟩, ?_⟩, intent, found, owns⟩
  · exact (demand_eq_ok _ _ _).mpr also
  · exact bind_eq_ok.mpr ⟨done, own, run⟩

end Journals

/-- Two computations that both succeed give the same result. -/
def Concur {Result : Type} (first second : Except Failure Result) : Prop :=
  ∀ result other, first = .ok result → second = .ok other → result = other

/-- If what one lookup makes of what it finds, the other makes of what it finds, only the rest can
differ. -/
theorem whenFound_concur {Result : Type} {lookup other : Except Failure Value}
    {found alsoFound : Value → Except Failure Result} {rest others : Except Failure Result}
    (forth : ∀ value result, lookup = .ok value → found value = .ok result →
      other = .ok value ∧ alsoFound value = .ok result)
    (back : ∀ value result, other = .ok value → alsoFound value = .ok result →
      lookup = .ok value ∧ found value = .ok result) (rests : Concur rest others) :
    Concur (whenFound lookup found rest) (whenFound other alsoFound others) := by
  intro result another firstRun secondRun
  cases first : lookup with
  | ok value =>
    rw [first] at firstRun
    obtain ⟨same, alsoRun⟩ := forth value result first firstRun
    rw [same] at secondRun
    exact Except.ok.inj (alsoRun.symm.trans secondRun)
  | error failure =>
    cases second : other with
    | ok value =>
      rw [second] at secondRun
      exact nomatch first.symm.trans (back value another second secondRun).1
    | error failure =>
      rw [first] at firstRun
      rw [second] at secondRun
      exact rests result another firstRun secondRun

section Lookups

variable {first second : Database} {reference : String}

section

variable (firstCoherent : first.Coherent) (secondCoherent : second.Coherent)
  (agree : Agree scope.principalID scope.enrollmentID first second)

include firstCoherent secondCoherent agree

theorem intent_lookup_agree (intent : IntentRecord)
    (answer : IntentRecord × Option Operation)
    (read : faults.guard .intent (getIntent reference first) = .ok intent)
    (run : (do demandOwn scope intent; withOperation faults first intent) = .ok answer) :
    faults.guard .intent (getIntent reference second) = .ok intent ∧
      (do demandOwn scope intent; withOperation faults second intent) = .ok answer := by
  obtain ⟨done, own, run⟩ := bind_eq_ok.mp run
  obtain ⟨works, read⟩ := ReadFaults.guard_eq_ok.mp read
  have owns := demandOwn_eq_ok.mp own
  have found : first.intent reference = some intent := (demand_eq_ok _ _ _).mp read
  obtain ⟨row, -⟩ := firstCoherent.intent_eq_some.mp found
  have stored := firstCoherent.intent_eq_some.mpr ⟨row, rfl⟩
  constructor
  · exact ReadFaults.guard_eq_ok.mpr ⟨works, (demand_eq_ok _ _ _).mpr
      (own_intent firstCoherent secondCoherent agree found owns)⟩
  · rw [withOperation_agree firstCoherent secondCoherent agree stored owns] at run
    exact bind_eq_ok.mpr ⟨done, own, run⟩

theorem operation_lookup_agree (operation : Operation)
    (answer : IntentRecord × Option Operation)
    (read : faults.guard .operation (getOperation reference first) = .ok operation)
    (run : ownOperationResult faults scope first operation = .ok answer) :
    faults.guard .operation (getOperation reference second) = .ok operation ∧
      ownOperationResult faults scope second operation = .ok answer := by
  obtain ⟨also, record, found, owns⟩ :=
    ownOperationResult_agree firstCoherent secondCoherent agree run
  obtain ⟨works, read⟩ := ReadFaults.guard_eq_ok.mp read
  have present : first.operation reference = some operation :=
    (Database.getOperationTx_eq_ok _ _ _).mp read
  exact ⟨ReadFaults.guard_eq_ok.mpr ⟨works, (Database.getOperationTx_eq_ok _ _ _).mpr
    (own_operation firstCoherent secondCoherent agree present found owns)⟩, also⟩

theorem step_lookup_agree (operation : Operation)
    (answer : IntentRecord × Option Operation)
    (read : faults.guard .step (operationForStep reference first) = .ok operation)
    (run : ownOperationResult faults scope first operation = .ok answer) :
    faults.guard .step (operationForStep reference second) = .ok operation ∧
      ownOperationResult faults scope second operation = .ok answer := by
  obtain ⟨also, record, found, owns⟩ :=
    ownOperationResult_agree firstCoherent secondCoherent agree run
  obtain ⟨works, read⟩ := ReadFaults.guard_eq_ok.mp read
  have present : operationOfStep first reference = some operation :=
    (demand_eq_ok _ _ _).mp read
  exact ⟨ReadFaults.guard_eq_ok.mpr ⟨works, (demand_eq_ok _ _ _).mpr
    (own_operationOfStep firstCoherent secondCoherent agree present found owns)⟩, also⟩

theorem clientKey_lookup_agree
    (read : getIntentByClientKey scope.principalID scope.enrollmentID reference first = .ok intent) :
    getIntentByClientKey scope.principalID scope.enrollmentID reference second = .ok intent := by
  obtain ⟨row, principal, enrollment, key⟩ := (clientKey_eq_ok firstCoherent).mp read
  exact (clientKey_eq_ok secondCoherent).mpr
    ⟨((agree.intents _).mp ⟨row, principal, enrollment⟩).1, principal, enrollment, key⟩

theorem findOwn_concur :
    Concur (findOwn faults scope reference first) (findOwn faults scope reference second) := by
  unfold findOwn
  refine whenFound_concur (intent_lookup_agree firstCoherent secondCoherent agree)
    (intent_lookup_agree secondCoherent firstCoherent agree.symm) ?_
  refine whenFound_concur (operation_lookup_agree firstCoherent secondCoherent agree)
    (operation_lookup_agree secondCoherent firstCoherent agree.symm) ?_
  refine whenFound_concur (step_lookup_agree firstCoherent secondCoherent agree)
    (step_lookup_agree secondCoherent firstCoherent agree.symm) ?_
  intro answer other firstRun secondRun
  obtain ⟨intent, firstRead, firstRun⟩ := bind_eq_ok.mp firstRun
  obtain ⟨another, secondRead, secondRun⟩ := bind_eq_ok.mp secondRun
  have read := (ReadFaults.guard_eq_ok.mp firstRead).2
  have also := clientKey_lookup_agree firstCoherent secondCoherent agree read
  obtain rfl := Except.ok.inj (also.symm.trans (ReadFaults.guard_eq_ok.mp secondRead).2)
  obtain ⟨row, principal, enrollment, -⟩ := (clientKey_eq_ok firstCoherent).mp read
  rw [withOperation_agree firstCoherent secondCoherent agree
    (firstCoherent.intent_eq_some.mpr ⟨row, rfl⟩) ⟨principal, enrollment⟩] at firstRun
  exact Except.ok.inj (firstRun.symm.trans secondRun)

end

end Lookups

/-! ### Pages -/

theorem newestFirst_iff {first second : IntentRow} : newestFirst first second = true ↔
    second.updatedAt < first.updatedAt ∨
      second.updatedAt = first.updatedAt ∧ second.intentID ≤ first.intentID := by
  simp [newestFirst]

theorem newestFirst_trans (first second third : IntentRow)
    (early : newestFirst first second = true) (late : newestFirst second third = true) :
    newestFirst first third = true := by
  rw [newestFirst_iff] at *
  rcases early with before | ⟨same, id⟩
  · rcases late with earlier | ⟨alsoSame, -⟩
    · exact Or.inl (lt_trans earlier before)
    · exact Or.inl (alsoSame ▸ before)
  · rcases late with earlier | ⟨alsoSame, alsoID⟩
    · exact Or.inl (same ▸ earlier)
    · exact Or.inr ⟨alsoSame.trans same, le_trans alsoID id⟩

theorem newestFirst_total (first second : IntentRow) :
    (newestFirst first second || newestFirst second first) = true := by
  rw [Bool.or_eq_true, newestFirst_iff, newestFirst_iff]
  rcases lt_trichotomy first.updatedAt second.updatedAt with before | same | after
  · exact Or.inr (Or.inl before)
  · rcases le_total first.intentID second.intentID with before | after
    · exact Or.inr (Or.inr ⟨same, before⟩)
    · exact Or.inl (Or.inr ⟨same.symm, after⟩)
  · exact Or.inl (Or.inl after)

/-- Rows of one page, listed in any two orders, are sorted in one way. -/
theorem mergeSort_agree {principalID enrollmentID : String} {first second : Database}
    (agree : Agree principalID enrollmentID first second) (start : Option (String × String)) :
    (first.intents.rows.filter (inPage principalID enrollmentID start)).mergeSort newestFirst =
      (second.intents.rows.filter (inPage principalID enrollmentID start)).mergeSort
        newestFirst := by
  have distinct : ∀ table : Table IntentRow, table.rows.Nodup := fun table =>
    table.distinct.imp fun apart same =>
      apart (IntentRow.exclusive_intentID _ _ (congrArg IntentRow.intentID same))
  have sameRows : (first.intents.rows.filter (inPage principalID enrollmentID start)).Perm
      (second.intents.rows.filter (inPage principalID enrollmentID start)) := by
    rw [List.perm_ext_iff_of_nodup ((distinct _).filter _) ((distinct _).filter _)]
    intro row
    rw [List.mem_filter, List.mem_filter]
    refine and_congr_left fun passes => ?_
    obtain ⟨principal, enrollment⟩ : row.principalID = principalID ∧
        row.enrollmentID = enrollmentID := by
      simp only [inPage, Bool.and_eq_true, decide_eq_true_eq] at passes
      exact passes.1
    have own := agree.intents row
    exact ⟨fun member => (own.mp ⟨member, principal, enrollment⟩).1,
      fun member => (own.mpr ⟨member, principal, enrollment⟩).1⟩
  have sorted := List.mergeSort_perm (first.intents.rows.filter
    (inPage principalID enrollmentID start)) newestFirst
  have alsoSorted := List.mergeSort_perm (second.intents.rows.filter
    (inPage principalID enrollmentID start)) newestFirst
  refine List.Perm.eq_of_pairwise ?_
    (List.pairwise_mergeSort newestFirst_trans newestFirst_total _)
    (List.pairwise_mergeSort newestFirst_trans newestFirst_total _)
    (sorted.trans (sameRows.trans alsoSorted.symm))
  intro row other listed otherListed forth back
  have member := (List.mem_filter.mp ((sorted.trans sameRows).mem_iff.mp listed)).1
  have otherMember := (List.mem_filter.mp (alsoSorted.mem_iff.mp otherListed)).1
  rw [newestFirst_iff] at forth back
  have names : row.intentID = other.intentID := by
    rcases forth with before | ⟨same, id⟩
    · rcases back with after | ⟨same, -⟩
      · exact absurd before (lt_asymm after)
      · exact absurd same (ne_of_gt before)
    · rcases back with after | ⟨-, otherID⟩
      · exact absurd same (ne_of_gt after)
      · exact le_antisymm otherID id
  exact second.intents.eq_of_clash member otherMember (IntentRow.exclusive_intentID _ _ names)

/-- Agents read their own records only: an answer belongs to the session, and journals that agree
on the records of the session give the same answers and the same pages. -/
theorem own_records_only (codec : Codec) (service : Service) (now : Time) (faults : ReadFaults)
    (scope : AgentSessionScope) (reference : String) (log : List Transaction) :
    (∀ answer, getOwnOperation codec service now faults scope reference (replay codec log) =
      .ok answer → OwnAnswer scope (replay codec log) answer) ∧
    ∀ other : List Transaction,
      Agree scope.principalID scope.enrollmentID (replay codec log) (replay codec other) →
      Concur (getOwnOperation codec service now faults scope reference (replay codec log))
        (getOwnOperation codec service now faults scope reference (replay codec other)) ∧
      ∀ cursor limit,
        listIntentSummaries scope.principalID scope.enrollmentID cursor limit
            (replay codec log) =
          listIntentSummaries scope.principalID scope.enrollmentID cursor limit
            (replay codec other) := by
  refine ⟨fun answer run => ?_, fun other agree => ⟨?_, fun cursor limit => ?_⟩⟩
  · obtain ⟨_, -, run⟩ := bind_eq_ok.mp run
    exact ownAnswer_findOwn (replay_coherent log) (replay_enrolled log) run
  · intro answer another firstRun secondRun
    obtain ⟨_, -, firstRun⟩ := bind_eq_ok.mp firstRun
    obtain ⟨_, -, secondRun⟩ := bind_eq_ok.mp secondRun
    exact findOwn_concur (replay_coherent log) (replay_coherent other) agree answer another firstRun
      secondRun
  · unfold listIntentSummaries
    simp only [mergeSort_agree agree]

/-- A proposal of another principal comes before the first one. -/
def foreignFirst : List Transaction :=
  ⟨fixtureIDs "b", .putIntent { secondProposal with
    intent := { secondProposal.intent with principalID := "agent-b" } }⟩ :: openFirst

/-- The session of the fixture, with the digest the fixture's codec computes. -/
def ownSession : AgentSessionScope := { fixtureScope with scopeDigest := fixtureRecipeDigest }

/-- What the session reads of the first operation after some transactions. -/
def readFirst (log : List Transaction) : Except Failure (IntentRecord × Option Operation) :=
  getOwnOperation fixtureCodec fixtureConfig.service fixtureNow (fun _ => none) ownSession
    "operation_a" (replay fixtureCodec log)

/-- The proposal of the other principal makes no difference to what the session reads. -/
theorem foreignFirst_unseen :
    (replay fixtureCodec openFirst).intents.rows.length = 1 ∧
    (replay fixtureCodec foreignFirst).intents.rows.length = 2 ∧
    (∃ answer, OwnAnswer ownSession (replay fixtureCodec openFirst) answer ∧
      readFirst openFirst = .ok answer ∧ readFirst foreignFirst = .ok answer) ∧
    ∀ cursor limit,
      listIntentSummaries "agent-a" "enrollment-a" cursor limit (replay fixtureCodec openFirst) =
        listIntentSummaries "agent-a" "enrollment-a" cursor limit
          (replay fixtureCodec foreignFirst) := by
  obtain ⟨owned, alike⟩ := own_records_only fixtureCodec fixtureConfig.service fixtureNow
    (fun _ => none) ownSession "operation_a" openFirst
  obtain ⟨concur, pages⟩ := alike foreignFirst
    (.of_rows (by decide +kernel) (by decide +kernel) (by decide +kernel))
  have answered : (readFirst openFirst).isOk = true ∧ (readFirst foreignFirst).isOk = true := by
    decide +kernel
  refine ⟨by decide +kernel, by decide +kernel, ?_, pages⟩
  rcases first : readFirst openFirst with failure | answer
  · rw [first] at answered
    exact nomatch answered.1
  · rcases second : readFirst foreignFirst with failure | other
    · rw [second] at answered
      exact nomatch answered.2
    · exact ⟨answer, owned answer first, rfl,
        congrArg Except.ok (concur answer other first second).symm⟩

end GuardedAgentRunner
