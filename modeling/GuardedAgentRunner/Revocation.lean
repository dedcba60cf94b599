/-
This file proves that a revocation is final. Once `RevokeIntent` has committed, the
intent stays revoked, no step of its operation is prepared or marked any more, and
neither its decision nor its operation is replaced. A run may still make the call
of a step that it had marked before.
-/

import GuardedAgentRunner.Dispatch

namespace GuardedAgentRunner

open Store Ledger

variable {codec : Codec} {intentID operationID stepID : String} {database : Database}

/-! ### Revoked intents in the ledger -/

/-- The intent is revoked. -/
def Ledger.Revoked (ledger : Ledger) (intentID : String) : Prop :=
  ∃ record, ledger.intents intentID = some record ∧ record.status = .revoked

/-- The operation was opened for the intent. -/
def Ledger.Opened (ledger : Ledger) (intentID operationID : String) : Prop :=
  ∃ operation, ledger.operations operationID = some operation ∧ operation.intentID = intentID

variable {now : Time} {earlier : List Event} {middle : List Event} {event : Event}

section

variable {before after : Ledger} {call : StoreCall}

variable {expectedDigest : String} {actor : String} {osUID : Int}

theorem Ledger.Revoked.not_approves (revoked : before.Revoked intentID) {ids : NewIDs}
    {record : IntentRecord} : ¬ Approves codec before ids intentID expectedDigest now record := by
  intro approves
  obtain ⟨stored, found, status⟩ := revoked
  obtain rfl : stored = record := Option.mem_unique found approves.found
  rw [approves.approvable.awaiting] at status
  cases status

theorem Ledger.Step.revokes
    (step : Step codec before (.revokeIntent intentID expectedDigest actor osUID now) after) :
    after.Revoked intentID := by
  cases step with
  | answered answers => cases answers
  | moved alone => cases alone
  | revoked | aborted => exact ⟨_, Function.update_self .., rfl⟩

section

variable (step : Step codec before call after) (revoked : before.Revoked intentID)

include step revoked

theorem Ledger.Step.keeps_revoked : after.Revoked intentID := by
  obtain ⟨record, found, status⟩ := revoked
  rcases step.intent_cases intentID with same | ⟨stored, next, present, now, move⟩ |
    ⟨_, -, -, absent, -⟩
  · exact ⟨record, same.trans found, status⟩
  · obtain rfl : stored = record := Option.mem_unique present found
    cases move with
    | consumed approves => exact absurd approves (Revoked.not_approves ⟨stored, found, status⟩)
    | rejected awaiting =>
      rw [awaiting] at status
      cases status
    | revoked => exact ⟨_, now, rfl⟩
  · exact absurd (absent.symm.trans found) nofun

theorem Ledger.Step.keeps_approval : after.approvals intentID = before.approvals intentID := by
  cases step with
  | approved approves =>
    refine Function.update_of_ne ?_ ..
    rintro rfl
    exact revoked.not_approves approves
  | rejected found _ awaiting =>
    refine Function.update_of_ne ?_ ..
    rintro rfl
    obtain ⟨record, stored, status⟩ := revoked
    obtain rfl := Option.mem_unique stored found
    rw [awaiting] at status
    cases status
  | _ => rfl

theorem Ledger.Step.keeps_opened (operationID : String) :
    after.Opened intentID operationID ↔ before.Opened intentID operationID := by
  rcases step.operation_cases operationID with same | ⟨stored, next, present, -, now, move⟩ |
    ⟨_, id, _, _, _, _, _, -, rfl, approves, now⟩
  · rw [Opened, Opened, same]
  · simp only [Opened, present, now, Option.some.injEq, exists_eq_left', move.sameIdentity.intentID]
  · have other : id ≠ intentID := by
      rintro rfl
      exact revoked.not_approves approves
    simp only [Opened, approves.fresh, now, Option.some.injEq, exists_eq_left', reduceCtorEq,
      false_and, exists_false, iff_false]
    exact other

end

/-- What holds from a revocation on. -/
structure KeepsRevoked (intentID : String) (before after : Ledger) : Prop where
  revoked : after.Revoked intentID
  approval : after.approvals intentID = before.approvals intentID
  opened : ∀ operationID, after.Opened intentID operationID ↔ before.Opened intentID operationID

theorem Ledger.Step.keepsRevoked (step : Step codec before call after)
    (revoked : before.Revoked intentID) : KeepsRevoked intentID before after :=
  ⟨step.keeps_revoked revoked, step.keeps_approval revoked, step.keeps_opened revoked⟩

theorem Ledger.Step.revocation_keepsRevoked
    (step : Step codec before (.revokeIntent intentID expectedDigest actor osUID now) after) :
    KeepsRevoked intentID before after := by
  refine ⟨step.revokes, ?_, fun operationID => ?_⟩
  · cases step <;> rfl
  · rcases step.operation_cases operationID with same | ⟨_, _, present, -, now, move⟩ |
      ⟨_, _, _, _, _, _, _, impossible, -⟩
    · rw [Opened, Opened, same]
    · simp only [Opened, present, now, Option.some.injEq, exists_eq_left',
        move.sameIdentity.intentID]
    · cases impossible

theorem Ledger.Revoked.not_prepared (revoked : before.Revoked intentID) {stepKind : StepKind}
    (opened : before.Opened intentID operationID) :
    ¬ Step codec before (.prepareStep operationID stepKind now) after := by
  intro step
  obtain ⟨record, found, status⟩ := revoked
  obtain ⟨operation, present, rfl⟩ := opened
  cases step with
  | answered answers => cases answers
  | moved alone stored move =>
    cases move with
    | prepared isFound preparable =>
      obtain rfl := Option.mem_unique present stored
      obtain rfl := Option.mem_unique found isFound
      rw [preparable.consumed] at status
      cases status

theorem Ledger.Revoked.not_marked (revoked : before.Revoked intentID)
    (opened : before.Opened intentID operationID) :
    ¬ Step codec before (.markDispatchPossible operationID stepID now) after := by
  intro step
  obtain ⟨record, found, status⟩ := revoked
  obtain ⟨operation, present, rfl⟩ := opened
  obtain ⟨stored, _, _, _, isStored, isFound, dispatchable, -⟩ := step.marked
  obtain rfl := Option.mem_unique present isStored
  obtain rfl := Option.mem_unique found isFound
  rw [dispatchable.consumed] at status
  cases status

end

/-! ### Revoked intents in the store -/

theorem continuation_keepsRevoked (coherent : database.Coherent)
    (revoked : database.ledger.Revoked intentID) (continuation : List Transaction) :
    KeepsRevoked intentID database.ledger
      (Runs.run (perform codec) database continuation).ledger := by
  refine replay_relation
    (fun before after => before.Revoked intentID → KeepsRevoked intentID before after)
    (fun _ revoked => ⟨revoked, rfl, fun _ => Iff.rfl⟩) (fun early late revoked => ?_)
    (fun _ step => step.keepsRevoked) coherent continuation revoked
  have first := early revoked
  have second := late first.revoked
  exact ⟨second.revoked, second.approval.trans first.approval,
    fun operationID => (second.opened operationID).trans (first.opened operationID)⟩

/-- The intent, revoked between the two databases, is revoked in its column and in its payload,
its decision and its operation are those it had, and no step of its operation can be prepared
or marked. -/
structure RevokedForGood (codec : Codec) (intentID : String) (before after : Database) : Prop where
  present : ∃ row ∈ after.intents.rows, row.intentID = intentID
  status : ∀ row ∈ after.intents.rows, row.intentID = intentID →
    row.status = .revoked ∧ row.payload.status = .revoked
  approval : after.approval intentID = before.approval intentID
  opened : ∀ operationID,
    after.ledger.Opened intentID operationID ↔ before.ledger.Opened intentID operationID
  unprepared : ∀ operationID ids stepKind now next, after.ledger.Opened intentID operationID →
    ¬ Commits codec after ⟨ids, .prepareStep operationID stepKind now⟩ next
  unmarked : ∀ operationID ids stepID now next, after.ledger.Opened intentID operationID →
    ¬ Commits codec after ⟨ids, .markDispatchPossible operationID stepID now⟩ next

theorem KeepsRevoked.forGood {before after : Database} (coherent : after.Coherent)
    (keeps : KeepsRevoked intentID before.ledger after.ledger) :
    RevokedForGood codec intentID before after where
  present := by
    obtain ⟨record, found, -⟩ := keeps.revoked
    obtain ⟨member, names⟩ := coherent.intent_eq_some.mp found
    exact ⟨_, member, names⟩
  status row member names := by
    obtain ⟨record, rfl, found⟩ := coherent.intent_row member
    obtain ⟨stored, isStored, status⟩ := keeps.revoked
    obtain rfl : record.intent.intentID = intentID := names
    obtain rfl : stored = record := Option.mem_unique isStored found
    exact ⟨status, status⟩
  approval := keeps.approval
  opened := keeps.opened
  unprepared _ _ _ _ _ opened commits :=
    keeps.revoked.not_prepared opened (commits_refines coherent commits).2
  unmarked _ _ _ _ _ opened commits :=
    keeps.revoked.not_marked opened (commits_refines coherent commits).2

/-! ### Revoked intents in the system -/

/-- The operation and the step a call of the target or of the backup engine is made for. -/
def Effect.stepCall : Effect → Option (String × String)
  | .closeAdmission operationID stepID => some (operationID, stepID)
  | .dispatchGracefulStop request | .observeStop request =>
    some (request.operationID, request.stepID)
  | .createBackup record => some (record.operationID, record.stepID)
  | _ => none

theorem Permits.stepCall {enrollment : Enrollment} {trace : Trace} {effect : Effect} {id : String}
    (permits : Permits codec enrollment id trace effect)
    (named : effect.stepCall = some (operationID, stepID)) :
    operationID = id ∧ holding trace = some stepID := by
  cases effect with
  | closeAdmission | dispatchGracefulStop | createBackup =>
    cases named
    exact ⟨permits.1, permits.2.inHand⟩
  | observeStop =>
    cases named
    exact permits
  | _ => cases named

theorem System.Permitted.stepCall {system : System}
    (permitted : system.Permitted codec (event :: earlier))
    (named : event.occurrence.effect.stepCall = some (operationID, stepID)) :
    ∃ pid foundation, system.owner pid = some (foundation, operationID) ∧
      holding (traceOf pid earlier) = some stepID := by
  have first := permitted.1
  split at first
  · obtain ⟨foundation, id, owned, permits⟩ := first
    obtain ⟨rfl, inHand⟩ := permits.stepCall named
    exact ⟨_, foundation, owned, inHand⟩
  · obtain ⟨call, isStore, -⟩ := first
    rw [isStore] at named
    cases named

theorem holding_of_unmarked {pid : Nat}
    (inHand : holding (traceOf pid (middle ++ earlier)) = some stepID)
    (unmarked : ∀ event ∈ middle, event.actor = some pid → ¬ event.occurrence.Marks stepID) :
    holding (traceOf pid earlier) = some stepID := by
  induction middle with
  | nil => exact inHand
  | cons event middle hypothesis =>
    rcases holding_event inHand with ⟨own, marks⟩ | ⟨held, -⟩
    · exact absurd marks (unmarked event List.mem_cons_self own)
    · exact hypothesis held fun other member =>
        unmarked other (List.mem_cons_of_mem _ member)

theorem Chained.unmarked_since {revoke : Event}
    (chained : Chained codec database (middle ++ revoke :: earlier))
    (revoked : revoke.after.ledger.Revoked intentID)
    (opened : database.ledger.Opened intentID operationID) (member : event ∈ middle)
    {context : Context} :
    event.occurrence ≠
      ⟨.store context (.markDispatchPossible operationID stepID now), .ok ()⟩ := by
  intro isMark
  have inHistory : event ∈ middle ++ revoke :: earlier := List.mem_append_left _ member
  obtain ⟨_, _, -, commits⟩ := chained.mark_commits inHistory isMark
  obtain ⟨coherent, step⟩ := commits_refines (chained.before_coherent inHistory) commits
  have stillRevoked : event.before.ledger.Revoked intentID := by
    obtain ⟨first, last, rfl⟩ := List.append_of_mem member
    rw [List.append_assoc, List.cons_append] at chained
    have reached := chained.split.1.2.2
    obtain ⟨revoking, continuation, same⟩ := reached.split
    rw [same]
    exact (continuation_keepsRevoked revoking.coherent revoked continuation).revoked
  obtain ⟨operation, _, _, _, found, -⟩ := step.marked
  obtain ⟨later, laterFound, continues⟩ :=
    (chained.persists_before inHistory).operations operationID operation found
  obtain ⟨stored, isStored, rfl⟩ := opened
  obtain rfl : stored = later := Option.mem_unique isStored laterFound
  exact stillRevoked.not_marked ⟨operation, found, continues.identity.intentID.symm⟩ step

/-- A revocation is final. In the store, from every reachable database on, whatever calls follow;
and in every history of the system, a call made for a step after the revocation is made for a
step that was possibly dispatched when the revocation committed. -/
theorem revocation_final (codec : Codec) (intentID expectedDigest actor : String) (osUID : Int)
    (now : Time) :
    (∀ log ids revoked continuation,
      Commits codec (replay codec log) ⟨ids, .revokeIntent intentID expectedDigest actor osUID now⟩
        revoked →
      RevokedForGood codec intentID (replay codec log)
        (Runs.run (perform codec) revoked continuation)) ∧
    ∀ schedule later call middle revoke earlier operationID stepID,
      (System.reach codec schedule).history = later ++ call :: (middle ++ revoke :: earlier) →
      revoke.Commits codec (.revokeIntent intentID expectedDigest actor osUID now) →
      call.occurrence.effect.stepCall = some (operationID, stepID) →
      call.before.ledger.Opened intentID operationID →
      revoke.after.dispatchState operationID stepID = some .dispatchPossible := by
  constructor
  · intro log ids revoked continuation commits
    obtain ⟨coherent, step⟩ := commits_refines (replay_coherent log) commits
    have first := step.revocation_keepsRevoked
    have second : KeepsRevoked intentID revoked.ledger
        (Runs.run (perform codec) revoked continuation).ledger :=
      continuation_keepsRevoked coherent first.revoked continuation
    refine KeepsRevoked.forGood ?_ ⟨second.revoked, second.approval.trans first.approval,
      fun operationID => (second.opened operationID).trans (first.opened operationID)⟩
    rw [← perform_of_commits commits, ← Runs.run_cons, ← replay_append]
    exact replay_coherent _
  · rintro schedule later call middle revoke earlier operationID stepID split
      ⟨_, ids, -, commits⟩ named opened
    have lawful : (System.reach codec schedule).Lawful codec := System.reach_lawful schedule
    have chained := lawful.chained
    have permitted := lawful.permitted
    rw [split] at chained permitted
    obtain ⟨pid, foundation, owned, inHand⟩ := permitted.split.stepCall named
    have reached : Chained codec call.before (middle ++ revoke :: earlier) := chained.split.1.2.2
    have revoking := reached.split.1
    have revoked : revoke.after.ledger.Revoked intentID :=
      (commits_refines (Chained.coherent revoking.2.2) commits).2.revokes
    refine permitted.split.2.split.holding_possible revoking owned
      (holding_of_unmarked inHand fun event member own => ?_)
    rintro ⟨context, id, time, isMark⟩
    obtain ⟨first, last, rfl⟩ := List.append_of_mem member
    have before := permitted.split.2
    rw [List.append_assoc, List.cons_append] at before
    obtain rfl := before.split.mark_own owned own isMark
    exact reached.unmarked_since revoked opened member isMark

/-- The revocation of the fixture's first intent. -/
def firstRevocation : StoreCall :=
  .revokeIntent "intent_a" firstProposal.intent.intentDigest "owner" 1000 fixtureNow

/-- A process marks S02, the intent is revoked, and the process closes admission. -/
def fixtureRevoking : List Choice :=
  fixtureStart ++ fixtureTurns 0 "0" 17 ++ fixtureTurns 0 "1" 9 ++ fixtureTurns 0 "2" 7 ++
    [.command (.delivered (fixtureIDs "r")) firstRevocation] ++ fixtureTurns 0 "2" 1

/-- The approved intent is revoked for good, whether it is proposed and approved again or a process
has a step in hand: the call the process still makes is for the step that was marked before. -/
theorem firstRevocation_final :
    RevokedForGood fixtureCodec "intent_a" (replay fixtureCodec openFirst)
      (Runs.run (perform fixtureCodec)
        (perform fixtureCodec (replay fixtureCodec openFirst) ⟨fixtureIDs "r", firstRevocation⟩)
        openFirst) ∧
    ∃ call revoke earlier,
      (System.reach fixtureCodec fixtureRevoking).history = call :: revoke :: earlier ∧
      call.occurrence.effect = .closeAdmission "operation_a" "step_2" ∧
      revoke.Commits fixtureCodec firstRevocation ∧
      revoke.after.dispatchState "operation_a" "step_2" = some .dispatchPossible := by
  have final := revocation_final fixtureCodec "intent_a" firstProposal.intent.intentDigest "owner"
    1000 fixtureNow
  constructor
  · have commits : Commits fixtureCodec (replay fixtureCodec openFirst)
        ⟨fixtureIDs "r", firstRevocation⟩ (perform fixtureCodec (replay fixtureCodec openFirst)
          ⟨fixtureIDs "r", firstRevocation⟩) := by
      refine (perform_cases _ _).resolve_right fun same => ?_
      exact absurd (congrArg (fun database => (database.intent "intent_a").map (·.status)) same)
        (by decide +kernel)
    exact final.1 openFirst (fixtureIDs "r") _ openFirst commits
  · have latest : ((System.reach fixtureCodec fixtureRevoking).history.take 2).map (fun event =>
        (event.occurrence.effect, (event.before.operation "operation_a").map (·.intentID),
          (event.before.intent "intent_a").map (·.status),
          (event.after.intent "intent_a").map (·.status))) =
        [(.closeAdmission "operation_a" "step_2", some "intent_a", some .revoked, some .revoked),
          (.store .bounded firstRevocation, some "intent_a", some .consumed, some .revoked)] := by
      decide +kernel
    have lawful : (System.reach fixtureCodec fixtureRevoking).Lawful fixtureCodec :=
      System.reach_lawful fixtureRevoking
    have justified := final.2 fixtureRevoking
    generalize System.reach fixtureCodec fixtureRevoking = system at latest lawful justified ⊢
    have chained := lawful.chained
    rcases split : system.history with _ | ⟨call, _ | ⟨revoke, earlier⟩⟩
    · simp [split] at latest
    · simp [split] at latest
    · rw [split] at latest chained
      simp only [List.take_succ_cons, List.take_zero, List.map_cons, List.map_nil,
        List.cons.injEq, Prod.mk.injEq, and_true] at latest
      obtain ⟨⟨isCall, opened, -⟩, isRevoke, -, before, after⟩ := latest
      have commits : revoke.Commits fixtureCodec firstRevocation := by
        have reacts := chained.2.2.2.1
        obtain ⟨actor, ⟨effect, answer⟩, database, next⟩ := revoke
        cases isRevoke
        rcases reacts.commits_or_fails with ⟨ids, commits⟩ | ⟨same, -⟩
        · exact ⟨.bounded, ids, rfl, commits⟩
        · rw [same] at after
          exact absurd (before.symm.trans after) (by decide)
      refine ⟨call, revoke, earlier, rfl, isCall, commits, ?_⟩
      obtain ⟨operation, found, isOpened⟩ := Option.map_eq_some_iff.mp opened
      exact justified [] call [] revoke earlier "operation_a" "step_2" split commits
        (by rw [isCall]; rfl) ⟨operation, found, isOpened⟩

end GuardedAgentRunner
