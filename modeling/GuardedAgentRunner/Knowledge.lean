/-
This file shows that what one run has learnt from the store stays true of the
store, whatever the other processes and the operators do in the meantime: the
operation it has read still has the same identity and the same steps in the same
places, the intent it has read is still the sealed intent of the operation, and
the step it has selected is the attempt with that number and that kind.
-/

import GuardedAgentRunner.BackupLifecycle
import GuardedAgentRunner.System

namespace GuardedAgentRunner

open Store Ledger

variable {codec : Codec} {database : Database} {history : List Event} {pid n : Nat}
  {operationID stepID : String} {intent : ChangeIntent}

namespace Chained

section

variable (chained : Chained codec database history) {event : Event} {now : Time}

include chained

theorem carried {call : StoreCall}
    {result : call.Result} (answered : Answered (traceOf pid history) call result) :
    ∃ event ∈ history, event.actor = some pid ∧
      ∃ ids, exec codec ids event.before call = .ok (result, event.after) := by
  obtain ⟨context, member⟩ := answered
  obtain ⟨⟨actor, occurrence, before, after⟩, inHistory, own, rfl⟩ := mem_traceOf.mp member
  exact ⟨_, inHistory, own, (chained.reacts inHistory).exec_of_ok⟩

theorem persists (member : event ∈ history) : Persists event.after.ledger database.ledger :=
  chained.relation Persists Persists.refl Persists.trans (fun _ step => step.persists) member

theorem before_coherent (member : event ∈ history) : event.before.Coherent := by
  obtain ⟨later, earlier, rfl⟩ := List.append_of_mem member
  exact Chained.coherent chained.split.1.2.2

theorem persists_before (member : event ∈ history) :
    Persists event.before.ledger database.ledger := by
  refine Persists.trans ?_ (chained.persists member)
  rcases (chained.reacts member).commits with same | ⟨_, transaction, -, commits⟩
  · rw [same]
    exact .refl _
  · exact (commits_refines (chained.before_coherent member) commits).2.persists

theorem follows : FollowsIntents database.ledger := by
  obtain ⟨log, rfl⟩ := chained.replayed
  exact replay_ledger (fun _ _ present => nomatch present) (fun _ follows step => follows.step step)
    log

theorem read_operation {operation : Operation}
    (answered : Answered (traceOf pid history) (.getOperation operationID) operation) :
    ∃ later, database.operation operationID = some later ∧ Continues operation later := by
  obtain ⟨event, member, -, ids, run⟩ := chained.carried answered
  obtain ⟨found, same⟩ := reading_eq_ok.mp run
  have present : event.after.operation operationID = some operation := by
    rw [← same]
    exact (Database.getOperationTx_eq_ok ..).mp found
  exact (chained.persists member).operations operationID operation present

theorem read_intent {intentID : String}
    {record : IntentRecord}
    (answered : Answered (traceOf pid history) (.getIntent intentID) record) :
    ∃ later, database.intent intentID = some later ∧ later.intent = record.intent := by
  obtain ⟨event, member, -, ids, run⟩ := chained.carried answered
  obtain ⟨found, same⟩ := reading_eq_ok.mp run
  have present : event.after.intent intentID = some record := by
    rw [← same]
    exact (Fallible.demand_eq_ok ..).mp found
  exact (chained.persists member).intents intentID record present

theorem read_prepared {stepKind : StepKind} {attempt : StepAttempt}
    (answered : Answered (traceOf pid history) (.prepareStep operationID stepKind now) attempt) :
    ∃ (position : Nat) (later : Operation), database.operation operationID = some later ∧
      ∃ next, later.attempts[position]? = some next ∧ next.stepID = attempt.stepID ∧
        next.stepKind = stepKind := by
  obtain ⟨event, member, -, ids, run⟩ := chained.carried answered
  obtain ⟨operation, _, steps, found, -, -, rfl, -, present, saved⟩ := Store.prepareStep_eq_ok run
  have sameID := ((chained.before_coherent member).operation_eq_some.mp found).2
  have appended : event.after.operation operationID = some (appendAttempt operation
      (newAttempt ids.step stepKind operation.attempts now) now) := by
    have view : (({ event.before with steps := steps } : Database).writeOperation
        (appendAttempt operation (newAttempt ids.step stepKind operation.attempts now)
          now)).operation = _ := Database.writeOperation_operation present
    rw [saved, view, ← sameID]
    exact Function.update_self ..
  obtain ⟨later, laterFound, continues⟩ :=
    (chained.persists member).operations operationID _ appended
  obtain ⟨next, nextPresent, same⟩ := continues.steps operation.attempts.length _
    List.getElem?_concat_length
  exact ⟨_, later, laterFound, next, nextPresent, same.stepID, same.stepKind⟩

theorem read_reserved {record : BackupRecord}
    (answered : Answered (traceOf pid history) (.reserveBackup record now) ()) :
    ∃ later, database.backup record.backupID = some later ∧ KeepsReservation record later := by
  obtain ⟨event, member, -, ids, run⟩ := chained.carried answered
  have commits : Commits codec event.before ⟨ids, .reserveBackup record now⟩ event.after :=
    ⟨(), run⟩
  have reserved := (commits_refines (chained.before_coherent member) commits).2.reserved_backup.2
  obtain ⟨later, found, keeps, -⟩ := chained.relation BackupsPersist BackupsPersist.refl
    BackupsPersist.trans (fun _ step => step.backupsPersist) member _ record reserved
  exact ⟨later, found, keeps⟩

/-- The intent a run has entered with is the sealed intent of its operation. -/
theorem entered
    (entered : Entered codec operationID (traceOf pid history) intent) :
    ∃ operation record, database.operation operationID = some operation ∧
      database.intent operation.intentID = some record ∧ record.intent = intent := by
  obtain ⟨operation, record, read, intentRead, rfl, -⟩ := entered
  obtain ⟨later, found, continues⟩ := chained.read_operation read
  obtain ⟨laterRecord, intentFound, same⟩ := chained.read_intent intentRead
  refine ⟨later, laterRecord, found, ?_, same⟩
  rw [continues.identity.intentID]
  exact intentFound

end

end Chained

/-- The attempt of the operation with the given number is the given step, of the kind the fixed
workflow has there. -/
def Places (database : Database) (operationID : String) (n : Nat) (stepID : String) : Prop :=
  ∃ operation attempt, database.operation operationID = some operation ∧
    operation.attempts[n]? = some attempt ∧ attempt.stepID = stepID ∧
    attempt.stepKind = Foundation.stepKind n

theorem Places.persists {before after : Database} (placed : Places before operationID n stepID)
    (persists : Persists before.ledger after.ledger) : Places after operationID n stepID := by
  obtain ⟨operation, attempt, found, present, rfl, kind⟩ := placed
  obtain ⟨later, laterFound, continues⟩ := persists.operations operationID operation found
  obtain ⟨next, nextPresent, same⟩ := continues.steps n attempt present
  exact ⟨later, next, laterFound, nextPresent, same.stepID, same.stepKind.trans kind⟩

theorem Places.unique {other : String} (placed : Places database operationID n stepID)
    (otherPlaced : Places database operationID n other) : stepID = other := by
  obtain ⟨operation, attempt, found, present, rfl, -⟩ := placed
  obtain ⟨same, also, sameFound, alsoPresent, rfl, -⟩ := otherPlaced
  obtain rfl : operation = same := Option.mem_unique found sameFound
  obtain rfl : attempt = also := Option.mem_unique present alsoPresent
  rfl

theorem stepKind_of_small (small : n < 6) :
    fixedWorkflowSteps[n]? = some (Foundation.stepKind n) := by
  have inside : n < fixedWorkflowSteps.length := Nat.lt_trans small (by decide)
  rw [Foundation.stepKind, List.getD_eq_getElem?_getD, List.getElem?_eq_getElem inside]
  rfl

theorem place_of_stepKind {position : Nat} (small : n < 6)
    (same : fixedWorkflowSteps[position]? = some (Foundation.stepKind n)) : position = n := by
  obtain ⟨inside, here⟩ := List.getElem?_eq_some_iff.mp same
  obtain ⟨insideToo, there⟩ := List.getElem?_eq_some_iff.mp (stepKind_of_small small)
  exact (fixedWorkflowSteps_nodup.getElem_inj_iff).mp (here.trans there.symm)

theorem Chained.places (chained : Chained codec database history) (small : n < 6)
    (entered : Entered codec operationID (traceOf pid history) intent)
    (selected : Selected operationID (traceOf pid history) n stepID) :
    Places database operationID n stepID := by
  obtain ⟨operation, record, found, intentFound, rfl⟩ := chained.entered entered
  obtain ⟨stored, isStored, kinds⟩ := chained.follows operationID operation found
  obtain rfl : stored = record := Option.mem_unique isStored intentFound
  obtain ⟨-, -, -, -, -, -, steps⟩ := entered
  rw [steps] at kinds
  rcases selected with ⟨read, attempt, answered, present, rfl⟩ | ⟨now, attempt, answered, rfl⟩
  · obtain ⟨later, laterFound, continues⟩ := chained.read_operation answered
    obtain rfl : later = operation := Option.mem_unique laterFound found
    obtain ⟨next, nextPresent, same⟩ := continues.steps n attempt present
    have kind := kinds n next nextPresent
    rw [stepKind_of_small small] at kind
    exact ⟨later, next, found, nextPresent, same.stepID, (Option.some.inj kind).symm⟩
  · obtain ⟨position, later, laterFound, next, nextPresent, same, kindSame⟩ :=
      chained.read_prepared answered
    obtain rfl : later = operation := Option.mem_unique laterFound found
    have kind := kinds position next nextPresent
    rw [kindSame] at kind
    obtain rfl := place_of_stepKind small kind
    exact ⟨later, next, found, nextPresent, same, kindSame⟩

end GuardedAgentRunner
