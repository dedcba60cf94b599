/-
This file proves when a revocation frees the target. An intent may be revoked
while its operation has no attempts; the writer is released with it exactly when
the operation is still queued. A run moves its operation out of the queue before
it prepares the first step, and a revocation that commits in between leaves the
operation without attempts and with the writer.
-/

import GuardedAgentRunner.Authority
import GuardedAgentRunner.Revocation
import GuardedAgentRunner.Writer

namespace GuardedAgentRunner

open Store Ledger Fallible

variable {codec : Codec} {before after : Ledger} {call : StoreCall} {database next : Database}

/-! ### Approvals that succeed -/

/-- The identifiers drawn for an approval are not in use. -/
structure NewIDs.Fresh (ids : NewIDs) (database : Database) : Prop where
  approval : ∀ row ∈ database.approvals.rows, row.approvalID ≠ ids.approval
  operation : ∀ row ∈ database.operations.rows, row.operationID ≠ ids.operation

variable {now : Time} {operation : Operation} {ids : NewIDs} {expectedDigest : String}
  {osUID : Int}

theorem approveIntent_of_free {intentID approver : String} {record : IntentRecord}
    (undecided : database.approval intentID = none)
    (unopened : database.operationFor intentID = none)
    (found : database.intent intentID = some record)
    (approvable : Approvable codec record expectedDigest now)
    (free : activeOwner record.intent.enrollmentID database = none) (fresh : ids.Fresh database)
    (encodable : now.Encodable) :
    ∃ outcome, approveIntent codec ids intentID expectedDigest approver osUID now database =
      .ok outcome := by
  obtain ⟨approvals, decided⟩ : ∃ approvals, database.approvals.insert (ApprovalRow.of
      (newApproval ids intentID expectedDigest approver osUID .approved now)) = some approvals := by
    refine Table.insert_of_fresh fun row member => ?_
    rintro ⟨columns, column, same⟩
    simp only [Constrained.unique, List.mem_cons, List.not_mem_nil, or_false] at column
    rcases column with rfl | rfl
    · exact fresh.approval row member (Sum.inl.inj same)
    · exact (Table.select_eq_none _ _).mp undecided row member (Sum.inr.inj same)
  obtain ⟨operations, opened⟩ : ∃ operations, database.operations.insert (OperationRow.of
      (newOperation ids intentID expectedDigest record.intent.enrollmentID now)) =
        some operations := by
    refine Table.insert_of_fresh fun row member => ?_
    rintro ⟨columns, column, same⟩
    simp only [Constrained.unique, List.mem_cons, List.not_mem_nil, or_false] at column
    rcases column with rfl | rfl
    · exact fresh.operation row member (Sum.inl.inj same)
    · exact (Table.select_eq_none _ _).mp unopened row member (Sum.inr.inj same)
  have storable : Storable (newApproval ids intentID expectedDigest approver osUID .approved now) :=
    fun time member => List.mem_singleton.mp member ▸ encodable
  refine ⟨((newApproval ids intentID expectedDigest approver osUID .approved now,
    newOperation ids intentID expectedDigest record.intent.enrollmentID now),
    ({ database with approvals := approvals, operations := operations } : Database).writeIntent
      intentID (settle record .consumed now)), ?_⟩
  simp only [approveIntent, bind_eq_ok, lookupExistingApproval, undecided, pure_eq_ok]
  refine ⟨none, rfl, ?_⟩
  simp only [bind_eq_ok, intentForDecision_eq_ok, refuse_eq_ok, not_or, not_not]
  refine ⟨record, ⟨found, approvable.sealedIntent, approvable.digest⟩, (),
    ⟨approvable.beforeDeadline, approvable.beforeStart⟩, (), approvable.awaiting, ?_⟩
  rw [free]
  simp only [bind_eq_ok, Database.insertRow_eq_ok, pure_eq_ok]
  exact ⟨approvals, decided, operations, opened, (), Database.appendAuditTx_eq_ok.mpr storable, rfl⟩

/-! ### Aborted operations -/

/-- Every aborted operation is that of a revoked intent. -/
def AbortsRevoked (ledger : Ledger) : Prop :=
  ∀ id operation, ledger.operations id = some operation → operation.status = .aborted →
    ledger.Revoked operation.intentID

/-- The call does not abort an operation by an explicit transition. -/
def StoreCall.SparesOperations : StoreCall → Prop
  | .transitionOperation _ status _ _ _ => status ≠ .aborted
  | _ => True

theorem Ledger.OperationMove.aborted_cases {later : Operation}
    (move : OperationMove codec before call operation later) (spares : call.SparesOperations)
    (aborted : later.status = .aborted) :
    operation.status = .aborted ∨ ∃ expectedDigest actor osUID now,
      call = .revokeIntent operation.intentID expectedDigest actor osUID now := by
  cases move with
  | @aborted _ expectedDigest actor osUID now =>
    exact Or.inr ⟨expectedDigest, actor, osUID, now, rfl⟩
  | prepared | dispatched | completed => exact Or.inl aborted
  | observed =>
    rcases settleStatus_status with same | unresolved
    · rw [same] at aborted
      exact Or.inl aborted
    · rw [aborted] at unresolved
      exact absurd unresolved (by decide)
  | gaveUp => cases aborted
  | transitioned => exact absurd aborted spares

theorem AbortsRevoked.step (revoked : AbortsRevoked before) (step : Step codec before call after)
    (spares : call.SparesOperations) : AbortsRevoked after := by
  intro id later found aborted
  rcases step.operation_cases id with same | ⟨operation, moved, present, -, now, move⟩ |
    ⟨_, _, _, _, _, _, _, -, -, -, opened⟩
  · rw [same] at found
    exact step.keeps_revoked (revoked id later found aborted)
  · rw [found] at now
    cases now
    rw [move.sameIdentity.intentID]
    rcases move.aborted_cases spares aborted with already | ⟨_, _, _, _, rfl⟩
    · exact step.keeps_revoked (revoked id operation present already)
    · exact step.revokes
  · rw [found] at opened
    cases opened
    cases aborted

/-- No run and no command aborts an operation by an explicit transition. -/
theorem sparesOperations_of_permits {enrollment : Enrollment} {operationID : String}
    {trace : Trace} {context : Context}
    (permits : Permits codec enrollment operationID trace (.store context call)) :
    call.SparesOperations := by
  cases call with
  | transitionOperation =>
    rcases permits with rfl | rfl <;> nofun
  | _ => trivial

theorem sparesOperations_of_isCommand (command : call.isCommand = true) :
    call.SparesOperations := by
  cases call with
  | transitionOperation => cases command
  | _ => trivial

theorem reach_abortsRevoked (codec : Codec) (schedule : List Choice) :
    AbortsRevoked (System.reach codec schedule).database.ledger := by
  refine System.reach_invariant (fun system => AbortsRevoked system.database.ledger)
    (fun _ _ present => nomatch present) (fun system next lawful revoked transition => ?_) schedule
  have stepped : ∀ {effect : Effect} {answer : effect.Answer} {later : Database},
      Reacts codec system.database effect answer later →
      (∀ context call, effect = .store context call → call.SparesOperations) →
      AbortsRevoked later.ledger := by
    intro effect answer later reacts spares
    rcases reacts.commits with same | ⟨context, transaction, isStore, commits⟩
    · rw [same]
      exact revoked
    · exact revoked.step (commits_refines lawful.chained.coherent commits).2
        (spares context transaction.call isStore)
  cases transition with
  | idle | started | died => exact revoked
  | @performed pid process effect answer rest later present alive calls reacts =>
    have safe := lawful.safe pid process present alive
    rw [calls] at safe
    refine stepped reacts fun context call isStore => ?_
    exact sparesOperations_of_permits (isStore ▸ safe.1)
  | commanded command reacts =>
    refine stepped reacts fun context call isStore => ?_
    cases isStore
    exact sparesOperations_of_isCommand command

/-! ### What a revocation frees -/

/-- The operation of the row was aborted and released, and every approvable intent of its
enrollment that is not decided yet is approved when it is asked for. -/
structure Freed (codec : Codec) (row : OperationRow) (database : Database) : Prop where
  aborted : ∃ later ∈ database.operations.rows, later.operationID = row.operationID ∧
    later.status = .aborted ∧ later.ownershipReleased = true
  approves : ∀ intent ∈ database.intents.rows, intent.enrollmentID = row.enrollmentID →
    (∀ approval ∈ database.approvals.rows, approval.intentID ≠ intent.intentID) →
    ∀ ids expectedDigest approver osUID now, Approvable codec intent.payload expectedDigest now →
      now.Encodable → ids.Fresh database →
      ∃ outcome, exec codec ids database
        (.approveIntent intent.intentID expectedDigest approver osUID now) = .ok outcome

theorem approves_of_free {enrollmentID : String} (coherent : database.Coherent)
    (accounted : ∀ id, Accounted database.ledger id)
    (free : activeOwner enrollmentID database = none) {intent : IntentRow}
    (member : intent ∈ database.intents.rows) (enrolled : intent.enrollmentID = enrollmentID)
    (undecided : ∀ approval ∈ database.approvals.rows, approval.intentID ≠ intent.intentID)
    {approver : String} (approvable : Approvable codec intent.payload expectedDigest now)
    (encodable : now.Encodable) (fresh : ids.Fresh database) :
    ∃ outcome, exec codec ids database
      (.approveIntent intent.intentID expectedDigest approver osUID now) = .ok outcome := by
  obtain ⟨record, rfl, found⟩ := coherent.intent_row member
  have absent : database.approval record.intent.intentID = none :=
    (Table.select_eq_none _ _).mpr undecided
  refine approveIntent_of_free absent ?_ found approvable ?_ fresh encodable
  · refine (Table.select_eq_none _ _).mpr fun row rowIn owner => ?_
    obtain ⟨operationID, digest, works⟩ := coherent.works_iff.mpr ⟨row, rowIn, owner⟩
    exact (accounted record.intent.intentID).idle absent operationID digest works
  · rw [show record.intent.enrollmentID = enrollmentID from enrolled]
    exact free

theorem unreleased_of_queued (single : SingleWriter before) {id : String}
    (found : before.operations id = some operation) (queued : operation.status = .queued) :
    operation.ownershipReleased = false := by
  by_contra released
  have settled := single.settled id operation found (Bool.not_eq_false _ ▸ released)
  rw [queued] at settled
  exact absurd settled (by simp [OperationStatus.Settled, releasingStatuses,
    OperationStatus.Unresolved])

theorem free_of_aborted (single : SingleWriter database.ledger) (nextCoherent : next.Coherent)
    (found : database.operation operation.operationID = some operation)
    (queued : operation.status = .queued)
    (aborted : next.operation = Function.update database.operation operation.operationID
      (some (abort operation now))) : activeOwner operation.enrollmentID next = none := by
  refine (activeOwner_eq_none nextCoherent).mpr fun id other present enrolled => ?_
  rw [aborted] at present
  rcases update_some_eq_some.mp present with ⟨-, rfl⟩ | ⟨elsewhere, present⟩
  · rfl
  · by_contra released
    exact elsewhere (single.unique id other _ operation present found enrolled
      (Bool.not_eq_true _ ▸ released) (unreleased_of_queued single found queued))

/-- In every database the system reaches, a committed revocation of an intent whose operation has
no attempts aborts and releases the operation, so that another intent of the enrollment can be
approved, exactly when the operation is still queued. -/
theorem revocation_frees_iff_queued (codec : Codec) (schedule : List Choice) (ids : NewIDs)
    (intentID expectedDigest actor : String) (osUID : Int) (now : Time) (next : Database)
    (row : OperationRow)
    (commits : Commits codec (System.reach codec schedule).database
      ⟨ids, .revokeIntent intentID expectedDigest actor osUID now⟩ next)
    (member : row ∈ (System.reach codec schedule).database.operations.rows)
    (owner : row.intentID = intentID) (unprepared : row.payload.attempts = []) :
    Freed codec row next ↔ row.status = .queued := by
  have lawful : (System.reach codec schedule).Lawful codec := System.reach_lawful schedule
  have abortsRevoked := reach_abortsRevoked codec schedule
  obtain ⟨log, same⟩ := lawful.chained.replayed
  rw [same] at commits member abortsRevoked
  have coherent : (replay codec log).Coherent := replay_coherent log
  obtain ⟨nextCoherent, step⟩ := commits_refines coherent commits
  obtain ⟨result, run⟩ := commits
  obtain ⟨record, intentFound, -, revocable, outcome⟩ := revokeIntent_eq_ok run
  obtain ⟨operation, rfl, found⟩ := coherent.operation_row member
  have opened := coherent.operationFor_eq_some.mpr ⟨member, owner⟩
  rw [opened] at outcome
  constructor
  · intro freed
    rcases outcome with ⟨other, sameOperation, unstarted, -⟩ | ⟨-, rfl⟩
    · cases sameOperation
      exact unstarted.1
    · obtain ⟨later, laterIn, sameID, aborted, -⟩ := freed.aborted
      have unchanged : later = OperationRow.of operation :=
        (replay codec log).operations.eq_of_clash laterIn member
          (OperationRow.exclusive_operationID _ _ sameID)
      rw [unchanged] at aborted
      obtain ⟨stored, isStored, revoked⟩ :=
        abortsRevoked operation.operationID operation found aborted
      rw [show operation.intentID = intentID from owner] at isStored
      obtain rfl := Option.mem_unique isStored intentFound
      exact absurd (Or.inr (Or.inr (Or.inl revoked))) revocable
  · intro queued
    have unstarted : Unstarted operation := ⟨queued, unprepared⟩
    rcases outcome with ⟨other, sameOperation, -, present, isNext⟩ | ⟨started, -⟩
    · cases sameOperation
      have aborted : next.operation = Function.update (replay codec log).operation
          operation.operationID (some (abort operation now)) := by
        rw [isNext]
        exact Database.writeOperation_operation present
      have free := free_of_aborted (replay_singleWriter log) nextCoherent found queued aborted
      have accounted : ∀ id, Accounted next.ledger id :=
        fun id => (replay_accounted log id).move (step.account id)
      have abortedNow : next.operation operation.operationID = some (abort operation now) := by
        rw [aborted, Function.update_self]
      refine ⟨⟨_, (nextCoherent.operation_eq_some.mp abortedNow).1, rfl, rfl, rfl⟩, ?_⟩
      intro intent intentIn enrolled undecided ids expectedDigest approver osUID time approvable
        encodable fresh
      exact approves_of_free nextCoherent accounted free intentIn enrolled undecided approvable
        encodable fresh
    · exact absurd unstarted (started operation rfl)

/-- The revocation of the first intent of the fixture. -/
def revokeFirst : StoreCall :=
  .revokeIntent "intent_a" firstProposal.intent.intentDigest "owner" 1000 fixtureNow

/-- Revoking the intent of a queued operation frees its enrollment. -/
theorem queuedRevocation_frees :
    ∃ row ∈ (System.reach fixtureCodec fixtureStart).database.operations.rows,
      row.operationID = "operation_a" ∧ Freed fixtureCodec row
        (perform fixtureCodec (System.reach fixtureCodec fixtureStart).database
          ⟨fixtureIDs "r", revokeFirst⟩) := by
  have opened : ∃ row ∈ (System.reach fixtureCodec fixtureStart).database.operations.rows,
      row.operationID = "operation_a" ∧ row.intentID = "intent_a" ∧ row.payload.attempts = [] ∧
        row.status = .queued := by
    decide +kernel
  obtain ⟨row, member, named, owner, unprepared, queued⟩ := opened
  refine ⟨row, member, named, ?_⟩
  have commits : Commits fixtureCodec (System.reach fixtureCodec fixtureStart).database
      ⟨fixtureIDs "r", revokeFirst⟩ (perform fixtureCodec
        (System.reach fixtureCodec fixtureStart).database ⟨fixtureIDs "r", revokeFirst⟩) := by
    refine (perform_cases _ _).resolve_right fun same => ?_
    have revoked : ((perform fixtureCodec (System.reach fixtureCodec fixtureStart).database
        ⟨fixtureIDs "r", revokeFirst⟩).intent "intent_a").map (·.status) = some .revoked := by
      decide +kernel
    rw [same] at revoked
    exact absurd revoked (by decide +kernel)
  exact (revocation_frees_iff_queued fixtureCodec fixtureStart (fixtureIDs "r") "intent_a"
    firstProposal.intent.intentDigest "owner" 1000 fixtureNow _ row commits member owner
    unprepared).mpr queued

/-- The process has claimed its operation and has not prepared a step; then the intent is
revoked, while another intent of the enrollment is waiting. -/
def claimedRevocation : List Choice :=
  fixtureStart ++ fixtureTurns 0 "0" 10 ++
    [.command (.delivered (fixtureIDs "b")) (.putIntent secondProposal),
      .command (.delivered (fixtureIDs "r")) revokeFirst]

/-- The revocation succeeds and leaves the operation without attempts in `PREPARING`, not
released, and the waiting intent is refused. -/
theorem claimedRevocation_keeps_writer :
    ((System.reach fixtureCodec claimedRevocation).database.intent "intent_a").map (·.status) =
        some .revoked ∧
      ((System.reach fixtureCodec claimedRevocation).database.operation "operation_a").map
        (fun operation => (operation.status, operation.ownershipReleased, operation.attempts)) =
        some (.preparing, false, []) ∧
      ((exec fixtureCodec (fixtureIDs "b") (System.reach fixtureCodec claimedRevocation).database
        (.approveIntent "intent_b" secondProposal.intent.intentDigest "owner" 1000 fixtureNow)).map
          fun _ => ()) =
        .error (newError .targetBusy
          "target ownership is held by another unresolved operation") := by
  decide +kernel

end GuardedAgentRunner
