/-
This file proves the bookkeeping of authority. The ledger holds, for each
intent, a status, at most one decision and at most one operation; the standing
of an intent says which combinations of the three occur, and every step keeps
it. The decisions look the three up in different orders, so the invariant is
proved from the account of one intent: what a step does to its record, its
decision and its operation together.
-/

import GuardedAgentRunner.Refinement

namespace GuardedAgentRunner

open Store Ledger Function

variable {codec : Codec} {before after : Ledger} {call : StoreCall} {id : String}
  {operation : Operation}

/-! ### The account of an intent -/

/-- An operation with the given identifier works for the intent under the given digest. -/
def Ledger.Works (ledger : Ledger) (intentID operationID digest : String) : Prop :=
  ∃ operation, ledger.operations operationID = some operation ∧ operation.intentID = intentID ∧
    operation.intentDigest = digest

/-- The same operations work for the intent. -/
def SameWork (before after : Ledger) (intentID : String) : Prop :=
  ∀ operationID digest,
    after.Works intentID operationID digest ↔ before.Works intentID operationID digest

theorem SameWork.of_eq (same : after.operations = before.operations) :
    SameWork before after id := by
  intro operationID digest
  rw [Works, Works, same]

theorem SameWork.of_update {next : Operation}
    (found : before.operations operation.operationID = some operation)
    (updated : after.operations =
      update before.operations operation.operationID (some next))
    (identity : SameIdentity operation next) : SameWork before after id := by
  intro operationID digest
  unfold Works
  rw [updated]
  constructor
  · rintro ⟨other, present, owner, same⟩
    rcases update_some_eq_some.mp present with ⟨rfl, rfl⟩ | ⟨-, present⟩
    · exact ⟨operation, found, identity.intentID.symm.trans owner,
        identity.intentDigest.symm.trans same⟩
    · exact ⟨other, present, owner, same⟩
  · rintro ⟨other, present, owner, same⟩
    by_cases here : operationID = operation.operationID
    · subst here
      rw [found] at present
      cases present
      exact ⟨next, update_self .., identity.intentID.trans owner,
        identity.intentDigest.trans same⟩
    · exact ⟨other, update_some_eq_some.mpr (Or.inr ⟨here, present⟩), owner, same⟩

/-- What a call may do to the account of one intent. -/
inductive AccountMove (codec : Codec) (before after : Ledger) (id : String) : StoreCall → Prop
  | kept {call : StoreCall} (intent : after.intents id = before.intents id)
      (decision : after.approvals id = before.approvals id) (work : SameWork before after id) :
      AccountMove codec before after id call
  | proposed {record : IntentRecord} (fresh : before.intents id = none)
      (intent : after.intents id = some record)
      (decision : after.approvals id = before.approvals id) (work : SameWork before after id) :
      AccountMove codec before after id (.putIntent record)
  | approved {record : IntentRecord} {ids : NewIDs} {expectedDigest approver : String}
      {osUID : Int} {now : Time}
      (approves : Approves codec before ids id expectedDigest now record)
      (intent : after.intents id = some (settle record .consumed now))
      (decision : after.approvals id =
        some (newApproval ids id expectedDigest approver osUID .approved now))
      (work : ∀ operationID digest, after.Works id operationID digest ↔
        operationID = ids.operation ∧ expectedDigest = digest) :
      AccountMove codec before after id (.approveIntent id expectedDigest approver osUID now)
  | rejected {record : IntentRecord} {ids : NewIDs} {expectedDigest approver : String}
      {osUID : Int} {now : Time} (found : before.intents id = some record)
      (undecided : before.approvals id = none)
      (intent : after.intents id = some (settle record .rejected now))
      (decision : after.approvals id =
        some (newApproval ids id expectedDigest approver osUID .rejected now))
      (work : SameWork before after id) :
      AccountMove codec before after id (.rejectIntent id expectedDigest approver osUID now)
  | revoked {record : IntentRecord} {expectedDigest actor : String} {osUID : Int} {now : Time}
      (found : before.intents id = some record) (revocable : ¬ IrrevocableStatus record.status)
      (intent : after.intents id = some (settle record .revoked now))
      (decision : after.approvals id = before.approvals id) (work : SameWork before after id) :
      AccountMove codec before after id (.revokeIntent id expectedDigest actor osUID now)

variable {record : IntentRecord} {intentID : String} {expectedDigest : String} {ids : NewIDs}
  {now : Time}

theorem Ledger.Approves.works (approves : Approves codec before ids id expectedDigest now record)
    (opened : after.operations = update before.operations ids.operation
      (some (newOperation ids id expectedDigest record.intent.enrollmentID now)))
    (operationID digest : String) :
    after.Works id operationID digest ↔ operationID = ids.operation ∧ expectedDigest = digest := by
  unfold Works
  rw [opened]
  constructor
  · rintro ⟨operation, present, owner, same⟩
    rcases update_some_eq_some.mp present with ⟨rfl, rfl⟩ | ⟨-, present⟩
    · exact ⟨rfl, same⟩
    · exact absurd owner (approves.unopened operationID operation present)
  · rintro ⟨rfl, rfl⟩
    exact ⟨_, update_self .., rfl, rfl⟩

theorem Ledger.Approves.sameWork
    (approves : Approves codec before ids intentID expectedDigest now record)
    (opened : after.operations = update before.operations ids.operation
      (some (newOperation ids intentID expectedDigest record.intent.enrollmentID now)))
    (other : id ≠ intentID) : SameWork before after id := by
  intro operationID digest
  unfold Works
  rw [opened]
  constructor
  · rintro ⟨operation, present, owner, same⟩
    rcases update_some_eq_some.mp present with ⟨-, rfl⟩ | ⟨-, present⟩
    · exact absurd owner.symm other
    · exact ⟨operation, present, owner, same⟩
  · rintro ⟨operation, present, owner, same⟩
    have here : operationID ≠ ids.operation := by
      rintro rfl
      rw [approves.fresh] at present
      cases present
    exact ⟨operation, update_some_eq_some.mpr (Or.inr ⟨here, present⟩), owner, same⟩

theorem Ledger.Step.account (step : Step codec before call after) (id : String) :
    AccountMove codec before after id call := by
  cases step with
  | answered | reserved | advanced => exact .kept rfl rfl (.of_eq rfl)
  | @proposed record fresh =>
    by_cases here : id = record.intent.intentID
    · subst here
      exact .proposed fresh (update_self ..) rfl (.of_eq rfl)
    · exact .kept (update_of_ne here ..) rfl (.of_eq rfl)
  | @approved record ids intentID expectedDigest approver osUID now approves =>
    by_cases here : id = intentID
    · subst here
      exact .approved approves (update_self ..) (update_self ..)
        (approves.works rfl)
    · exact .kept (update_of_ne here ..) (update_of_ne here ..)
        (approves.sameWork rfl here)
  | @rejected record ids intentID expectedDigest approver osUID now found undecided =>
    by_cases here : id = intentID
    · subst here
      exact .rejected found undecided (update_self ..) (update_self ..)
        (.of_eq rfl)
    · exact .kept (update_of_ne here ..) (update_of_ne here ..) (.of_eq rfl)
  | @revoked record intentID expectedDigest actor osUID now found revocable =>
    by_cases here : id = intentID
    · subst here
      exact .revoked found revocable (update_self ..) rfl (.of_eq rfl)
    · exact .kept (update_of_ne here ..) rfl (.of_eq rfl)
  | @aborted record operation intentID expectedDigest actor osUID now found revocable opened =>
    have work : ∀ {after : Ledger}, after.operations = update before.operations
        operation.operationID (some (abort operation now)) → SameWork before after id :=
      fun updated => .of_update opened updated ⟨rfl, rfl, rfl, rfl⟩
    by_cases here : id = intentID
    · subst here
      exact .revoked found revocable (update_self ..) rfl (work rfl)
    · exact .kept (update_of_ne here ..) rfl (work rfl)
  | moved _ opened move => exact .kept rfl rfl (.of_update opened rfl move.sameIdentity)
  | completed _ opened => exact .kept rfl rfl (.of_update opened rfl ⟨rfl, rfl, rfl, rfl⟩)

/-! ### Decisions and operations -/

/-- Decisions are about stored intents, an approved one names the digest of its intent, and
operations are opened exactly by approved decisions, under the same digest. -/
structure Accounted (ledger : Ledger) (id : String) : Prop where
  decided : ∀ approval, ledger.approvals id = some approval → ∃ record,
    ledger.intents id = some record ∧
      (approval.decision = .approved → approval.intentDigest = record.intent.intentDigest)
  worked : ∀ operationID digest, ledger.Works id operationID digest → ∃ record approval,
    ledger.intents id = some record ∧ digest = record.intent.intentDigest ∧
      ledger.approvals id = some approval ∧ approval.decision = .approved
  opened : ∀ approval, ledger.approvals id = some approval → approval.decision = .approved →
    ∃ operationID digest, ledger.Works id operationID digest

theorem Accounted.relabel (accounted : Accounted before id) {later : IntentRecord}
    (found : before.intents id = some record) (intent : after.intents id = some later)
    (same : later.intent = record.intent) (decision : after.approvals id = before.approvals id)
    (work : SameWork before after id) : Accounted after id := by
  constructor
  · intro approval present
    rw [decision] at present
    obtain ⟨stored, isStored, digest⟩ := accounted.decided approval present
    rw [found] at isStored
    cases isStored
    exact ⟨later, intent, fun approved => (digest approved).trans (by rw [same])⟩
  · intro operationID digest works
    obtain ⟨stored, approval, isStored, isDigest, decided, approved⟩ :=
      accounted.worked operationID digest ((work operationID digest).mp works)
    rw [found] at isStored
    cases isStored
    exact ⟨later, approval, intent, isDigest.trans (by rw [same]), decision.trans decided, approved⟩
  · intro approval present approved
    rw [decision] at present
    obtain ⟨operationID, digest, works⟩ := accounted.opened approval present approved
    exact ⟨operationID, digest, (work operationID digest).mpr works⟩

theorem Accounted.of_idle (undecided : after.approvals id = none)
    (idle : ∀ operationID digest, ¬ after.Works id operationID digest) : Accounted after id := by
  refine ⟨fun approval present => ?_, fun operationID digest works => ?_,
    fun approval present => ?_⟩
  · rw [undecided] at present
    cases present
  · exact absurd works (idle operationID digest)
  · rw [undecided] at present
    cases present

theorem Accounted.undecided (accounted : Accounted before id)
    (absent : before.intents id = none) : before.approvals id = none := by
  cases present : before.approvals id with
  | none => rfl
  | some approval =>
    obtain ⟨record, found, -⟩ := accounted.decided approval present
    rw [absent] at found
    cases found

theorem Accounted.idle (accounted : Accounted before id) (undecided : before.approvals id = none)
    (operationID digest : String) : ¬ before.Works id operationID digest := by
  intro works
  obtain ⟨_, approval, -, -, decided, -⟩ := accounted.worked operationID digest works
  rw [undecided] at decided
  cases decided

theorem Accounted.keep_absent (accounted : Accounted before id)
    (absent : before.intents id = none) (decision : after.approvals id = before.approvals id)
    (work : SameWork before after id) : Accounted after id := by
  have undecided := accounted.undecided absent
  refine .of_idle (decision.trans undecided) fun operationID digest works => ?_
  exact accounted.idle undecided operationID digest ((work operationID digest).mp works)

theorem Accounted.move (accounted : Accounted before id)
    (move : AccountMove codec before after id call) : Accounted after id := by
  cases move with
  | kept intent decision work =>
    cases found : before.intents id with
    | some record => exact accounted.relabel found (intent.trans found) rfl decision work
    | none => exact accounted.keep_absent found decision work
  | proposed fresh _ decision work => exact accounted.keep_absent fresh decision work
  | @approved record ids expectedDigest approver osUID now approves intent decision work =>
    have digest : expectedDigest = record.intent.intentDigest := approves.approvable.digest.symm
    refine ⟨fun approval present => ?_, fun operationID other works => ?_,
      fun approval present _ => ?_⟩
    · rw [decision] at present
      cases present
      exact ⟨_, intent, fun _ => digest⟩
    · obtain ⟨-, rfl⟩ := (work operationID other).mp works
      exact ⟨_, _, intent, digest, decision, rfl⟩
    · exact ⟨ids.operation, expectedDigest, (work _ _).mpr ⟨rfl, rfl⟩⟩
  | rejected found undecided intent decision work =>
    refine ⟨fun approval present => ?_, fun operationID digest works => ?_,
      fun approval present approved => ?_⟩
    · rw [decision] at present
      cases present
      exact ⟨_, intent, nofun⟩
    · exact absurd ((work operationID digest).mp works)
        (accounted.idle undecided operationID digest)
    · rw [decision] at present
      cases present
      cases approved
  | revoked found revocable intent decision work =>
    exact accounted.relabel found intent rfl decision work

/-! ### The standing of an intent -/

/-- The statuses of an intent and the decisions they go with. -/
inductive Standing : IntentStatus → Option Decision → Prop
  | awaiting : Standing .awaitingApproval none
  | consumed : Standing .consumed (some .approved)
  | rejected : Standing .rejected (some .rejected)
  | revokedUndecided : Standing .revoked none
  | revokedApproved : Standing .revoked (some .approved)

section Standing

variable {status : IntentStatus} {decision : Option Decision}

theorem Standing.undecided (standing : Standing .awaitingApproval decision) : decision = none := by
  cases standing
  rfl

theorem Standing.approved (standing : Standing .consumed decision) :
    decision = some .approved := by
  cases standing
  rfl

theorem Standing.rejected_iff (standing : Standing status decision) :
    status = .rejected ↔ decision = some .rejected := by
  cases standing <;> simp

theorem Standing.approved_of_revoked {made : Decision} (standing : Standing .revoked (some made)) :
    made = .approved := by
  cases standing
  rfl

theorem Standing.status_mem (standing : Standing status decision) :
    status ∈ [IntentStatus.awaitingApproval, .consumed, .rejected, .revoked] := by
  cases standing <;> simp

theorem Standing.revoke (standing : Standing status decision)
    (revocable : ¬ IrrevocableStatus status) : Standing .revoked decision := by
  cases standing with
  | awaiting => exact .revokedUndecided
  | consumed => exact .revokedApproved
  | rejected => exact absurd (Or.inl rfl) revocable
  | revokedUndecided | revokedApproved => exact absurd (Or.inr (Or.inr (Or.inl rfl))) revocable

end Standing

/-- The decision on an intent. -/
def Ledger.decision (ledger : Ledger) (id : String) : Option Decision :=
  (ledger.approvals id).map (·.decision)

/-- A stored intent stands with the decision on it. -/
def Stands (ledger : Ledger) (id : String) : Prop :=
  ∀ record, ledger.intents id = some record → Standing record.status (ledger.decision id)

/-- The call freezes intents that await their approval only. -/
def StoreCall.FreezesAwaiting : StoreCall → Prop
  | .putIntent record => record.status = .awaitingApproval
  | _ => True

instance (call : StoreCall) : Decidable call.FreezesAwaiting := by
  cases call <;> unfold StoreCall.FreezesAwaiting <;> infer_instance

theorem Stands.move (stands : Stands before id) (accounted : Accounted before id)
    (move : AccountMove codec before after id call) (freezes : call.FreezesAwaiting) :
    Stands after id := by
  intro record found
  unfold decision
  cases move with
  | kept intent decision =>
    rw [decision]
    exact stands record (intent.symm.trans found)
  | proposed fresh intent decision =>
    rw [intent] at found
    cases found
    rw [decision, accounted.undecided fresh, show record.status = .awaitingApproval from freezes]
    exact .awaiting
  | approved _ intent decision =>
    rw [intent] at found
    cases found
    rw [decision]
    exact .consumed
  | rejected _ _ intent decision =>
    rw [intent] at found
    cases found
    rw [decision]
    exact .rejected
  | revoked stored revocable intent decision =>
    rw [intent] at found
    cases found
    rw [decision]
    exact (stands _ stored).revoke revocable

/-! ### Every run -/

theorem empty_accounted (id : String) : Accounted Database.empty.ledger id :=
  .of_idle rfl fun _ _ ⟨_, present, _⟩ => nomatch present

theorem replay_accounted (log : List Transaction) (id : String) :
    Accounted (replay codec log).ledger id :=
  @replay_ledger codec (fun ledger => Accounted ledger id) (empty_accounted id)
    (fun _ accounted step => accounted.move (step.account id)) log

/-- Where only intents that await their approval are frozen, every stored intent stands with the
decision on it. -/
theorem replay_stands {log : List Transaction}
    (freezes : ∀ transaction ∈ log, transaction.call.FreezesAwaiting) (id : String) :
    Stands (replay codec log).ledger id := by
  let invariant (database : Database) : Prop :=
    database.Coherent ∧ Accounted database.ledger id ∧ Stands database.ledger id
  have initially : invariant .empty :=
    ⟨empty_coherent, empty_accounted id, fun _ present => nomatch present⟩
  have holds : invariant (replay codec log) := by
    refine Runs.invariant_run_of_allowed invariant ?_ initially freezes
    rintro database transaction awaiting ⟨coherent, accounted, stands⟩
    rcases perform_cases database transaction with commits | same
    · obtain ⟨nextCoherent, step⟩ := commits_refines coherent commits
      exact ⟨nextCoherent, accounted.move (step.account id),
        stands.move accounted (step.account id) awaiting⟩
    · rw [same]
      exact ⟨coherent, accounted, stands⟩
  exact holds.2.2

/-- No intent is removed, and its sealed contents and its proposal stay. -/
def Frozen (before after : Ledger) : Prop :=
  ∀ id record, before.intents id = some record → ∃ later, after.intents id = some later ∧
    later.intent = record.intent ∧ later.proposalDigest = record.proposalDigest

theorem Frozen.refl (ledger : Ledger) : Frozen ledger ledger :=
  fun _ record found => ⟨record, found, rfl, rfl⟩

theorem Frozen.trans {first second third : Ledger} (early : Frozen first second)
    (late : Frozen second third) : Frozen first third := by
  intro id record found
  obtain ⟨middle, middleFound, sameIntent, sameProposal⟩ := early id record found
  obtain ⟨later, laterFound, laterIntent, laterProposal⟩ := late id middle middleFound
  exact ⟨later, laterFound, laterIntent.trans sameIntent, laterProposal.trans sameProposal⟩

theorem Ledger.Step.frozen (step : Step codec before call after) : Frozen before after := by
  intro id record found
  rcases step.intent_cases id with same | ⟨stored, next, present, now, move⟩ |
    ⟨_, -, -, absent, -⟩
  · exact ⟨record, same.trans found, rfl, rfl⟩
  · rw [found] at present
    cases present
    cases move <;> exact ⟨_, now, rfl, rfl⟩
  · rw [found] at absent
    cases absent

theorem replay_frozen (log continuation : List Transaction) :
    Frozen (replay codec log).ledger (replay codec (log ++ continuation)).ledger := by
  rw [replay_append]
  exact replay_relation Frozen Frozen.refl Frozen.trans (fun _ step => step.frozen)
    (replay_coherent log) continuation

/-! ### The tables -/

/-- The bookkeeping of authority in the tables. -/
structure Bookkeeping (database : Database) : Prop where
  oneApproval : ∀ intentID,
    (database.approvals.rows.filter fun approval => approval.intentID = intentID).length ≤ 1
  oneOperation : ∀ intentID,
    (database.operations.rows.filter fun operation => operation.intentID = intentID).length ≤ 1
  executed : ∀ intentID,
    (∃ operation ∈ database.operations.rows, operation.intentID = intentID) ↔
      ∃ approval ∈ database.approvals.rows, approval.intentID = intentID ∧
        approval.payload.decision = .approved
  operationDigest : ∀ operation ∈ database.operations.rows, ∃ intent ∈ database.intents.rows,
    intent.intentID = operation.intentID ∧ operation.payload.intentDigest = intent.intentDigest
  approvalDigest : ∀ approval ∈ database.approvals.rows, approval.payload.decision = .approved →
    ∃ intent ∈ database.intents.rows, intent.intentID = approval.intentID ∧
      approval.intentDigest = intent.intentDigest
  awaiting : ∀ intent ∈ database.intents.rows, intent.status = .awaitingApproval →
    (∀ approval ∈ database.approvals.rows, approval.intentID ≠ intent.intentID) ∧
      ∀ operation ∈ database.operations.rows, operation.intentID ≠ intent.intentID
  consumed : ∀ intent ∈ database.intents.rows, intent.status = .consumed →
    (∃ approval ∈ database.approvals.rows, approval.intentID = intent.intentID) ∧
      ∃ operation ∈ database.operations.rows, operation.intentID = intent.intentID
  rejected : ∀ intent ∈ database.intents.rows, intent.status = .rejected ↔
    ∃ approval ∈ database.approvals.rows, approval.intentID = intent.intentID ∧
      approval.payload.decision = .rejected
  revoked : ∀ intent ∈ database.intents.rows, intent.status = .revoked →
    ∀ approval ∈ database.approvals.rows, approval.intentID = intent.intentID →
      approval.payload.decision = .approved
  statuses : ∀ intent ∈ database.intents.rows,
    intent.status ∈ [IntentStatus.awaitingApproval, .consumed, .rejected, .revoked]

section Tables

variable {database : Database}

theorem Database.Coherent.decision_iff (coherent : database.Coherent) {decision : Decision} :
    database.ledger.decision intentID = some decision ↔
      ∃ approval ∈ database.approvals.rows, approval.intentID = intentID ∧
        approval.payload.decision = decision := by
  simp only [Ledger.decision, Option.map_eq_some_iff]
  constructor
  · rintro ⟨approval, found, decided⟩
    obtain ⟨member, owner⟩ := coherent.approval_eq_some.mp found
    exact ⟨_, member, owner, decided⟩
  · rintro ⟨row, member, owner, decided⟩
    have columns := coherent.approvals row member
    refine ⟨row.payload, coherent.approval_eq_some.mpr ⟨columns ▸ member, ?_⟩, decided⟩
    rw [← owner, columns]
    rfl

theorem Database.Coherent.decision_none (coherent : database.Coherent)
    (undecided : database.ledger.decision intentID = none) :
    ∀ approval ∈ database.approvals.rows, approval.intentID ≠ intentID := by
  intro approval member owner
  have decided := coherent.decision_iff.mpr ⟨approval, member, owner, rfl⟩
  rw [undecided] at decided
  cases decided

theorem Database.Coherent.works_iff (coherent : database.Coherent) :
    (∃ operationID digest, database.ledger.Works intentID operationID digest) ↔
      ∃ operation ∈ database.operations.rows, operation.intentID = intentID := by
  constructor
  · rintro ⟨operationID, digest, operation, found, owner, -⟩
    exact ⟨_, (coherent.operation_eq_some.mp found).1, owner⟩
  · rintro ⟨row, member, owner⟩
    obtain ⟨operation, rfl, found⟩ := coherent.operation_row member
    exact ⟨operation.operationID, operation.intentDigest, operation, found, owner, rfl⟩

theorem Accounted.works_iff {ledger : Ledger} (accounted : Accounted ledger id) :
    (∃ operationID digest, ledger.Works id operationID digest) ↔
      ledger.decision id = some .approved := by
  simp only [Ledger.decision, Option.map_eq_some_iff]
  constructor
  · rintro ⟨operationID, digest, works⟩
    obtain ⟨_, approval, -, -, decided, approved⟩ := accounted.worked operationID digest works
    exact ⟨approval, decided, approved⟩
  · rintro ⟨approval, decided, approved⟩
    exact accounted.opened approval decided approved

/-- A coherent database whose intents are accounted for and stand is in order. -/
theorem bookkeeping_of_stands (coherent : database.Coherent)
    (accounted : ∀ id, Accounted database.ledger id) (stands : ∀ id, Stands database.ledger id) :
    Bookkeeping database := by
  have executed : ∀ intentID, (∃ operation ∈ database.operations.rows,
      operation.intentID = intentID) ↔ database.ledger.decision intentID = some .approved := by
    intro intentID
    rw [← coherent.works_iff]
    exact (accounted intentID).works_iff
  have standing : ∀ intent ∈ database.intents.rows,
      Standing intent.status (database.ledger.decision intent.intentID) := by
    intro intent member
    obtain ⟨record, rfl, found⟩ := coherent.intent_row member
    exact stands _ record found
  refine
    { oneApproval := fun intentID => database.approvals.length_filter_le_one _ ?_
      oneOperation := fun intentID => database.operations.length_filter_le_one _ ?_
      executed := fun intentID => (executed intentID).trans coherent.decision_iff
      operationDigest := fun row member => ?_
      approvalDigest := fun row member approved => ?_
      awaiting := fun intent member status => ?_
      consumed := fun intent member status => ?_
      rejected := fun intent member => ?_
      revoked := fun intent member status row rowIn owner => ?_
      statuses := fun intent member => ?_ }
  · intro first _ second _ firstOwner secondOwner
    refine ApprovalRow.exclusive_intentID _ _ ?_
    exact (of_decide_eq_true firstOwner).trans (of_decide_eq_true secondOwner).symm
  · intro first _ second _ firstOwner secondOwner
    refine OperationRow.exclusive_intentID _ _ ?_
    exact (of_decide_eq_true firstOwner).trans (of_decide_eq_true secondOwner).symm
  · obtain ⟨operation, rfl, found⟩ := coherent.operation_row member
    obtain ⟨record, _, intentFound, digest, -⟩ := (accounted operation.intentID).worked
      operation.operationID operation.intentDigest ⟨operation, found, rfl, rfl⟩
    obtain ⟨intentIn, sameID⟩ := coherent.intent_eq_some.mp intentFound
    exact ⟨_, intentIn, sameID, digest⟩
  · have columns := coherent.approvals row member
    have found := coherent.approval_eq_some.mpr ⟨columns ▸ member, rfl⟩
    obtain ⟨record, intentFound, digest⟩ := (accounted _).decided row.payload found
    obtain ⟨intentIn, sameID⟩ := coherent.intent_eq_some.mp intentFound
    refine ⟨_, intentIn, ?_, ?_⟩
    · rw [columns]
      exact sameID
    · rw [columns]
      exact digest approved
  · have undecided := (status ▸ standing intent member).undecided
    refine ⟨coherent.decision_none undecided, fun operation operationIn owner => ?_⟩
    have decided := (executed intent.intentID).mp ⟨operation, operationIn, owner⟩
    rw [undecided] at decided
    cases decided
  · have approved := (status ▸ standing intent member).approved
    obtain ⟨approval, approvalIn, owner, -⟩ := coherent.decision_iff.mp approved
    exact ⟨⟨approval, approvalIn, owner⟩, (executed intent.intentID).mpr approved⟩
  · rw [← coherent.decision_iff]
    exact (standing intent member).rejected_iff
  · have decided := coherent.decision_iff.mpr ⟨row, rowIn, owner, rfl⟩
    have stance := standing intent member
    rw [status, decided] at stance
    exact stance.approved_of_revoked
  · exact (standing intent member).status_mem

end Tables

/-- Where only intents that await their approval are frozen, the tables keep the books of
authority in every database that is reached, and every continuation keeps the sealed contents
and the proposal digest of every intent. -/
theorem authority_bookkeeping (codec : Codec) (log continuation : List Transaction)
    (freezes : ∀ transaction ∈ log, transaction.call.FreezesAwaiting) :
    Bookkeeping (replay codec log) ∧
      ∀ intent ∈ (replay codec log).intents.rows,
        ∃ later ∈ (replay codec (log ++ continuation)).intents.rows,
          later.intentID = intent.intentID ∧ later.payload.intent = intent.payload.intent ∧
          later.proposalDigest = intent.proposalDigest ∧
          later.payload.proposalDigest = intent.payload.proposalDigest := by
  have coherent : (replay codec log).Coherent := replay_coherent log
  have laterCoherent : (replay codec (log ++ continuation)).Coherent := replay_coherent _
  refine ⟨bookkeeping_of_stands coherent (replay_accounted log) (replay_stands freezes),
    fun intent member => ?_⟩
  obtain ⟨record, rfl, found⟩ := coherent.intent_row member
  obtain ⟨later, laterFound, sameIntent, sameProposal⟩ :=
    replay_frozen log continuation _ record found
  obtain ⟨laterIn, sameID⟩ := laterCoherent.intent_eq_some.mp laterFound
  exact ⟨_, laterIn, sameID, sameIntent, sameProposal, sameProposal⟩

/-- Two proposals, of which the first is approved and then revoked and the second is rejected. -/
def decidedProposals : List Transaction :=
  openFirst ++
    [⟨fixtureIDs "b", .putIntent secondProposal⟩,
      ⟨fixtureIDs "b", .rejectIntent "intent_b" secondProposal.intent.intentDigest "owner" 1000
        fixtureNow⟩,
      ⟨fixtureIDs "c", .revokeIntent "intent_a" firstProposal.intent.intentDigest "owner" 1000
        fixtureNow⟩]

/-- The books of the two decided proposals are in order. -/
theorem decidedProposals_bookkeeping :
    Bookkeeping (replay fixtureCodec decidedProposals) ∧
      (replay fixtureCodec decidedProposals).intents.rows.map (·.status) = [.revoked, .rejected] :=
  ⟨(authority_bookkeeping fixtureCodec decidedProposals [] (by decide)).1, by decide⟩

/-! ### Repeated approvals -/

/-- An approved intent is consumed, or it was revoked afterwards. -/
def ApprovalStands (ledger : Ledger) (id : String) : Prop :=
  ∀ record, ledger.intents id = some record → ledger.decision id = some .approved →
    record.status = .consumed ∨ record.status = .revoked

theorem ApprovalStands.move (stands : ApprovalStands before id) (accounted : Accounted before id)
    (move : AccountMove codec before after id call) : ApprovalStands after id := by
  intro record found approved
  unfold decision at approved
  cases move with
  | kept intent decision =>
    rw [decision] at approved
    exact stands record (intent.symm.trans found) approved
  | proposed fresh intent decision =>
    rw [decision, accounted.undecided fresh] at approved
    cases approved
  | approved _ intent decision =>
    rw [intent] at found
    cases found
    exact Or.inl rfl
  | rejected _ _ intent decision =>
    rw [decision] at approved
    cases approved
  | revoked stored revocable intent decision =>
    rw [intent] at found
    cases found
    exact Or.inr rfl

theorem replay_approvalStands (log : List Transaction) (id : String) :
    ApprovalStands (replay codec log).ledger id :=
  (@replay_ledger codec (fun ledger => Accounted ledger id ∧ ApprovalStands ledger id)
    ⟨empty_accounted id, fun _ absent => nomatch absent⟩
    (fun _ holds step =>
      ⟨holds.1.move (step.account id), holds.2.move holds.1 (step.account id)⟩) log).2

theorem Database.Coherent.only_operation {database : Database} (coherent : database.Coherent)
    (found : database.operationFor intentID = some operation) :
    database.operations.rows.filter (·.intentID = intentID) = [OperationRow.of operation] := by
  obtain ⟨member, owner⟩ := coherent.operationFor_eq_some.mp found
  have listed : OperationRow.of operation ∈
      database.operations.rows.filter (·.intentID = intentID) :=
    List.mem_filter.mpr ⟨member, decide_eq_true owner⟩
  have single : (database.operations.rows.filter (·.intentID = intentID)).length ≤ 1 := by
    refine database.operations.length_filter_le_one _ fun first _ second _ isFirst isSecond => ?_
    exact OperationRow.exclusive_intentID _ _
      ((of_decide_eq_true isFirst).trans (of_decide_eq_true isSecond).symm)
  obtain ⟨row, isRow⟩ := List.length_eq_one_iff.mp
    (le_antisymm single (List.length_pos_of_mem listed))
  rw [isRow] at listed ⊢
  rw [List.mem_singleton.mp listed]

theorem Database.Coherent.status_iff {database : Database} (coherent : database.Coherent)
    (found : database.intent intentID = some record) (status : IntentStatus) :
    (∃ row ∈ database.intents.rows, row.intentID = intentID ∧ row.status = status) ↔
      record.status = status := by
  constructor
  · rintro ⟨row, member, owner, same⟩
    obtain ⟨stored, rfl, isStored⟩ := coherent.intent_row member
    obtain rfl : stored.intent.intentID = intentID := owner
    obtain rfl := Option.mem_unique found isStored
    exact same
  · intro same
    obtain ⟨member, owner⟩ := coherent.intent_eq_some.mp found
    exact ⟨_, member, owner, same⟩

/-- An approval that succeeds returns the only operation of its intent. It leaves the intent
consumed exactly if the intent had not been revoked: the replay of an approval does not look at
the intent. -/
theorem approval_consumed_iff_not_revoked (codec : Codec) (log : List Transaction) (ids : NewIDs)
    (intentID expectedDigest approver : String) (osUID : Int) (now : Time)
    (result : Approval × Operation) (next : Database)
    (run : exec codec ids (replay codec log)
      (.approveIntent intentID expectedDigest approver osUID now) = .ok (result, next)) :
    next.operations.rows.filter (·.intentID = intentID) = [OperationRow.of result.2] ∧
    ((∃ row ∈ next.intents.rows, row.intentID = intentID ∧ row.status = .consumed) ↔
      ¬ ∃ row ∈ (replay codec log).intents.rows,
        row.intentID = intentID ∧ row.status = .revoked) := by
  have coherent : (replay codec log).Coherent := replay_coherent log
  have nextCoherent : next.Coherent :=
    (commits_refines coherent
      (⟨result, run⟩ : Commits codec _ ⟨ids, .approveIntent ..⟩ next)).1
  rcases approveIntent_eq_ok run with ⟨decided, approved, opened, rfl⟩ | ⟨record, approvals,
    operations, -, found, approvable, -, -, inserted, opened, rfl⟩
  · obtain ⟨record, found, -⟩ := (replay_accounted log intentID).decided _ decided
    have decision := Option.map_eq_some_iff.mpr ⟨_, decided, approved⟩
    refine ⟨coherent.only_operation opened, ?_⟩
    rw [coherent.status_iff found, coherent.status_iff found]
    rcases replay_approvalStands log intentID record found decision with consumed | revoked
    · rw [consumed]
      decide
    · rw [revoked]
      decide
  · have present : (replay codec log).intent intentID ≠ none := by
      rw [found]
      exact Option.some_ne_none _
    have intentNow : (({ replay codec log with approvals := approvals, operations := operations } :
        Database).writeIntent intentID (settle record .consumed now)).intent intentID =
          some (settle record .consumed now) :=
      (congrFun (Database.writeIntent_intent (show Database.intent _ intentID ≠ none from present))
        intentID).trans (Function.update_self ..)
    refine ⟨nextCoherent.only_operation (nextCoherent.operationFor_eq_some.mpr ⟨?_, ?_⟩), ?_⟩
    · rw [opened]
      exact (Table.mem_insert inserted _).mpr (Or.inr rfl)
    · rw [opened]
      rfl
    · rw [nextCoherent.status_iff intentNow, coherent.status_iff found, approvable.awaiting]
      exact ⟨fun _ => nofun, fun _ => rfl⟩

/-- The first approval of the fixture. -/
theorem firstApproval_consumes : ∃ row ∈ (replay fixtureCodec openFirst).intents.rows,
    row.intentID = "intent_a" ∧ row.status = .consumed :=
  (approval_consumed_iff_not_revoked fixtureCodec
    [⟨fixtureIDs "a", .putIntent firstProposal⟩] (fixtureIDs "a") "intent_a"
    firstProposal.intent.intentDigest "owner" 1000 fixtureNow _ _ rfl).2.mpr (by decide)

/-- An approved proposal that is revoked. -/
def revokedFirst : List Transaction :=
  openFirst ++ [⟨fixtureIDs "b", .revokeIntent "intent_a" firstProposal.intent.intentDigest
    "owner" 1000 fixtureNow⟩]

/-- The revoked intent is approved once more: the call succeeds, and the intent stays revoked. -/
theorem revokedFirst_approved_again : ∃ result next,
    exec fixtureCodec (fixtureIDs "c") (replay fixtureCodec revokedFirst)
      (.approveIntent "intent_a" firstProposal.intent.intentDigest "owner" 1000 fixtureNow) =
        .ok (result, next) ∧
    next.intents.rows.map (fun row => (row.intentID, row.status)) = [("intent_a", .revoked)] ∧
    result.1.decision = .approved ∧ result.2.status = .aborted :=
  ⟨_, _, rfl, by decide, by decide, by decide⟩

end GuardedAgentRunner
