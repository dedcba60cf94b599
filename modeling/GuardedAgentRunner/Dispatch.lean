/-
This file proves that target calls are written ahead and made at most once. A
step can be marked possibly dispatched only once, whoever marks it, so at most
one process ever has it in hand or armed; a target call needs the armed step of
its process and uses it up; and only the process that has the step in hand can
acknowledge it.
-/

import GuardedAgentRunner.Knowledge

namespace GuardedAgentRunner

open Store Ledger

variable {codec : Codec} {database before after : Database} {history earlier : List Event}
  {pid n : Nat} {operationID stepID : String}

/-! ### The dispatch state of a step -/

/-- The dispatch state of a step of an operation. -/
def Database.dispatchState (database : Database) (operationID stepID : String) :
    Option DispatchState :=
  (database.operation operationID).bind fun operation =>
    (operation.attempts.find? fun attempt => attempt.stepID = stepID).map (·.dispatchState)

variable {state : DispatchState} {now : Time} {occurrence : Occurrence} {trace : Trace}
  {context : Context} {id : String} {call : StoreCall} {foundation : Foundation}
  {operation : Operation}

theorem Database.Coherent.dispatchState_eq_some (coherent : database.Coherent) :
    database.dispatchState operationID stepID = some state ↔
      ∃ operation attempt, database.operation operationID = some operation ∧
        attempt ∈ operation.attempts ∧ attempt.stepID = stepID ∧
        attempt.dispatchState = state := by
  simp only [Database.dispatchState, Option.bind_eq_some_iff, Option.map_eq_some_iff]
  constructor
  · rintro ⟨operation, found, attempt, first, same⟩
    exact ⟨operation, attempt, found, List.mem_of_find?_eq_some first,
      by simpa using List.find?_some first, same⟩
  · rintro ⟨operation, attempt, found, member, names, same⟩
    refine ⟨operation, found, attempt, ?_, same⟩
    have some : (operation.attempts.find? fun attempt => attempt.stepID = stepID).isSome :=
      List.find?_isSome.mpr ⟨attempt, member, by simpa using names⟩
    obtain ⟨first, isFirst⟩ := Option.isSome_iff_exists.mp some
    have firstNames : first.stepID = stepID := by simpa using List.find?_some isFirst
    rw [isFirst, (coherent.steps.unique found (List.mem_of_find?_eq_some isFirst) found member
      (firstNames.trans names.symm)).2]

theorem dispatchState_persists (persists : Persists before.ledger after.ledger)
    (coherent : before.Coherent) (coherentAfter : after.Coherent)
    (present : before.dispatchState operationID stepID = some state)
    (dispatched : state ≠ .notDispatched) :
    ∃ later, after.dispatchState operationID stepID = some later ∧ later ≠ .notDispatched := by
  obtain ⟨operation, attempt, found, member, names, rfl⟩ :=
    coherent.dispatchState_eq_some.mp present
  obtain ⟨position, here⟩ := List.getElem?_of_mem member
  obtain ⟨later, laterFound, continues⟩ := persists.operations operationID operation found
  obtain ⟨next, nextPresent, same⟩ := continues.steps position attempt here
  exact ⟨next.dispatchState, coherentAfter.dispatchState_eq_some.mpr
    ⟨later, next, laterFound, List.mem_of_getElem? nextPresent, same.stepID.trans names, rfl⟩,
    same.dispatched dispatched⟩

theorem Ledger.Step.marked {before after : Ledger}
    (step : Step codec before (.markDispatchPossible operationID stepID now) after) :
    ∃ operation record index current, before.operations operationID = some operation ∧
      before.intents operation.intentID = some record ∧
      Dispatchable record.status operation ∧ Located operation.attempts stepID index current ∧
      current.dispatchState = .notDispatched ∧
      after.operations operationID = some
        (replaceAttempt operation index (touchAttempt (dispatchedAttempt current) now) now) := by
  cases step with
  | answered answers => cases answers
  | moved alone opened move =>
    cases move with
    | dispatched found dispatchable located undispatched unapplied =>
      exact ⟨_, _, _, _, opened, found, dispatchable, located, undispatched,
        Function.update_self ..⟩

theorem Ledger.Step.observed {before after : Ledger} {effect : EffectState}
    {attribution : Attribution} {evidence : List String} (step : Step codec before
      (.recordStepObservation operationID stepID effect attribution evidence now) after) :
    ∃ operation index current, before.operations operationID = some operation ∧
      Located operation.attempts stepID index current ∧ after.backups = before.backups ∧
      after.operations operationID = some (settleStatus .observed
        (touchAttempt (observedAttempt effect attribution evidence current) now)
        (replaceAttempt operation index
          (touchAttempt (observedAttempt effect attribution evidence current) now) now)) := by
  cases step with
  | answered answers => cases answers
  | moved alone opened move =>
    cases move with
    | observed located => exact ⟨_, _, _, opened, located, rfl, Function.update_self ..⟩

theorem Ledger.Step.completed_attempt {before after : Ledger} {backupID digest : String}
    {size : Int} {ready : BackupReadyEvidence}
    (step : Step codec before (.completeBackup backupID digest size ready now) after)
    {record : BackupRecord} (backup : before.backups backupID = some record) :
    ∃ operation attempt, before.operations record.operationID = some operation ∧
      WritesBackup operation record.stepID attempt ∧
      after.operations record.operationID =
        some (replaceAttempt operation 5 (completedAttempt attempt backupID digest now) now) := by
  cases step with
  | answered answers => cases answers
  | moved alone => cases alone
  | completed stored opened owner found completable =>
    obtain rfl := Option.mem_unique stored backup
    rw [owner]
    exact ⟨_, _, opened, completable.writer, Function.update_self ..⟩

theorem mark_dispatchState (coherent : before.Coherent) {ids : NewIDs}
    (commits : Commits codec before ⟨ids, .markDispatchPossible operationID stepID now⟩ after) :
    before.dispatchState operationID stepID = some .notDispatched ∧
      after.dispatchState operationID stepID = some .dispatchPossible := by
  obtain ⟨coherentAfter, step⟩ := commits_refines coherent commits
  obtain ⟨operation, _, index, current, found, -, -, located, undispatched, replaced⟩ := step.marked
  have inside := (List.getElem?_eq_some_iff.mp located.2).1
  refine ⟨coherent.dispatchState_eq_some.mpr ⟨operation, current, found,
    List.mem_of_getElem? located.2, located.names, undispatched⟩,
    coherentAfter.dispatchState_eq_some.mpr ⟨_, _, replaced,
      List.mem_of_getElem? (List.getElem?_set_self inside), located.names, rfl⟩⟩

/-! ### Marks -/

/-- The occurrence is an answered mark of the step. -/
def Occurrence.Marks (occurrence : Occurrence) (stepID : String) : Prop :=
  ∃ context operationID now,
    occurrence = ⟨.store context (.markDispatchPossible operationID stepID now), .ok ()⟩

/-- The target call an effect makes: the number of its step, its operation and its step. -/
def Effect.targetCall : Effect → Option (Nat × String × String)
  | .closeAdmission operationID stepID => some (2, operationID, stepID)
  | .dispatchGracefulStop request => some (3, request.operationID, request.stepID)
  | .createBackup record => some (5, record.operationID, record.stepID)
  | _ => none

/-- The effects that try to record the outcome of a step. -/
def Effect.records : Effect → Bool
  | .store _ (.recordStepObservation ..) | .store _ (.completeBackup ..) => true
  | _ => false

theorem armed_cons (isArmed : armed (occurrence :: trace) = some stepID) :
    occurrence.Marks stepID ∨ armed trace = some stepID ∧ occurrence.effect.targetCall = none := by
  obtain ⟨effect, answer⟩ := occurrence
  cases effect with
  | store context call =>
    cases call with
    | markDispatchPossible id marked now =>
      cases answer with
      | ok done =>
        cases isArmed
        exact Or.inl ⟨context, id, now, rfl⟩
      | error failure => exact Or.inr ⟨isArmed, rfl⟩
    | _ => exact Or.inr ⟨isArmed, rfl⟩
  | closeAdmission | dispatchGracefulStop | createBackup => cases isArmed
  | _ => exact Or.inr ⟨isArmed, rfl⟩

theorem holding_cons (inHand : holding (occurrence :: trace) = some stepID) :
    occurrence.Marks stepID ∨ holding trace = some stepID ∧ occurrence.effect.records = false := by
  obtain ⟨effect, answer⟩ := occurrence
  cases effect with
  | store context call =>
    cases call with
    | markDispatchPossible id marked now =>
      cases answer with
      | ok done =>
        cases inHand
        exact Or.inl ⟨context, id, now, rfl⟩
      | error failure => exact Or.inr ⟨inHand, rfl⟩
    | recordStepObservation | completeBackup => cases inHand
    | _ => exact Or.inr ⟨inHand, rfl⟩
  | _ => exact Or.inr ⟨inHand, rfl⟩

theorem marked_of_noted {noted : Trace → Option String} (initially : noted [] = none)
    (step : ∀ occurrence trace, noted (occurrence :: trace) = some stepID →
      occurrence.Marks stepID ∨ noted trace = some stepID) (isNoted : noted trace = some stepID) :
    ∃ occurrence ∈ trace, occurrence.Marks stepID := by
  induction trace with
  | nil =>
    rw [initially] at isNoted
    cases isNoted
  | cons occurrence trace hypothesis =>
    rcases step occurrence trace isNoted with marks | isNoted
    · exact ⟨occurrence, List.mem_cons_self, marks⟩
    · obtain ⟨mark, member, marks⟩ := hypothesis isNoted
      exact ⟨mark, List.mem_cons_of_mem _ member, marks⟩

theorem marked_of_armed (isArmed : armed trace = some stepID) :
    ∃ occurrence ∈ trace, occurrence.Marks stepID :=
  marked_of_noted rfl (fun _ _ noted => (armed_cons noted).imp id And.left) isArmed

theorem marked_of_holding (inHand : holding trace = some stepID) :
    ∃ occurrence ∈ trace, occurrence.Marks stepID :=
  marked_of_noted rfl (fun _ _ noted => (holding_cons noted).imp id And.left) inHand

/-! ### One mark for every step -/

theorem Database.Coherent.dispatchState_unique (coherent : database.Coherent)
    {first second : String} {firstState secondState : DispatchState}
    (firstPresent : database.dispatchState first stepID = some firstState)
    (secondPresent : database.dispatchState second stepID = some secondState) :
    first = second ∧ firstState = secondState := by
  obtain ⟨_, _, firstFound, firstIn, firstNames, rfl⟩ :=
    coherent.dispatchState_eq_some.mp firstPresent
  obtain ⟨_, _, secondFound, secondIn, secondNames, rfl⟩ :=
    coherent.dispatchState_eq_some.mp secondPresent
  obtain ⟨sameID, rfl⟩ := coherent.steps.unique firstFound firstIn secondFound secondIn
    (firstNames.trans secondNames.symm)
  exact ⟨sameID, rfl⟩

namespace Chained

section

variable (chained : Chained codec database history)

include chained

theorem after_coherent {event : Event}
    (member : event ∈ history) : event.after.Coherent := by
  obtain ⟨later, earlier, rfl⟩ := List.append_of_mem member
  exact Chained.coherent chained.split.1

theorem mark_commits {event : Event}
    (member : event ∈ history) (isMark : event.occurrence =
      ⟨.store context (.markDispatchPossible operationID stepID now), .ok ()⟩) :
    event.Commits codec (.markDispatchPossible operationID stepID now) := by
  obtain ⟨actor, _, before, after⟩ := event
  obtain rfl := isMark
  obtain ⟨ids, run⟩ := (chained.reacts member).exec_of_ok
  exact ⟨context, ids, rfl, (), run⟩

theorem mark_committed {event : Event}
    (member : event ∈ history) (isMark : event.occurrence =
      ⟨.store context (.markDispatchPossible operationID stepID now), .ok ()⟩) :
    event.before.dispatchState operationID stepID = some .notDispatched ∧
      event.after.dispatchState operationID stepID = some .dispatchPossible := by
  obtain ⟨_, _, -, commits⟩ := chained.mark_commits member isMark
  exact mark_dispatchState (chained.before_coherent member) commits

theorem marked_dispatched {event : Event}
    (member : event ∈ history) (marks : event.occurrence.Marks stepID) :
    ∃ operationID state, database.dispatchState operationID stepID = some state ∧
      state ≠ .notDispatched := by
  obtain ⟨context, operationID, now, isMark⟩ := marks
  obtain ⟨-, possible⟩ := chained.mark_committed member isMark
  exact ⟨operationID, dispatchState_persists (chained.persists member)
    (chained.after_coherent member) chained.coherent possible nofun⟩

end

theorem unmarked_before {event : Event} (chained : Chained codec database (event :: earlier))
    (marks : event.occurrence.Marks stepID) {mark : Event} (member : mark ∈ earlier) :
    ¬ mark.occurrence.Marks stepID := by
  intro marked
  obtain ⟨_, _, _, isMark⟩ := marks
  obtain ⟨undispatched, -⟩ := chained.mark_committed List.mem_cons_self isMark
  obtain ⟨_, state, present, dispatched⟩ := Chained.marked_dispatched chained.2.2 member marked
  exact dispatched ((Chained.coherent chained.2.2).dispatchState_unique present undispatched).2

/-- One process marks a step. -/
theorem marker_unique (chained : Chained codec database history) {first second : Event}
    (firstIn : first ∈ history) (secondIn : second ∈ history)
    (firstMarks : first.occurrence.Marks stepID) (secondMarks : second.occurrence.Marks stepID) :
    first.actor = second.actor := by
  induction history generalizing database with
  | nil => cases firstIn
  | cons event earlier hypothesis =>
    rcases List.mem_cons.mp firstIn with rfl | firstEarlier
    · rcases List.mem_cons.mp secondIn with rfl | secondEarlier
      · rfl
      · exact absurd secondMarks (chained.unmarked_before firstMarks secondEarlier)
    · rcases List.mem_cons.mp secondIn with rfl | secondEarlier
      · exact absurd firstMarks (chained.unmarked_before secondMarks firstEarlier)
      · exact hypothesis chained.2.2 firstEarlier secondEarlier

theorem process_unique (chained : Chained codec database history) {first second : Nat}
    (firstMarked : ∃ occurrence ∈ traceOf first history, occurrence.Marks stepID)
    (secondMarked : ∃ occurrence ∈ traceOf second history, occurrence.Marks stepID) :
    first = second := by
  obtain ⟨_, firstIn, firstMarks⟩ := firstMarked
  obtain ⟨_, secondIn, secondMarks⟩ := secondMarked
  obtain ⟨firstEvent, firstMember, firstActor, rfl⟩ := mem_traceOf.mp firstIn
  obtain ⟨secondEvent, secondMember, secondActor, rfl⟩ := mem_traceOf.mp secondIn
  have same := chained.marker_unique firstMember secondMember firstMarks secondMarks
  rw [firstActor, secondActor] at same
  exact Option.some.inj same

end Chained

/-! ### One target call for every mark -/

theorem Permits.arms {enrollment : Enrollment} {effect : Effect}
    (permits : Permits codec enrollment id trace effect)
    (target : effect.targetCall = some (n, operationID, stepID)) :
    operationID = id ∧ Arms codec id trace n stepID := by
  cases effect with
  | closeAdmission | dispatchGracefulStop | createBackup =>
    cases target
    exact permits
  | _ => cases target

namespace System.Permitted

variable {system : System} {event : Event}

theorem arms (permitted : system.Permitted codec (event :: earlier))
    (target : event.occurrence.effect.targetCall = some (n, operationID, stepID)) :
    ∃ pid foundation, event.actor = some pid ∧
      system.owner pid = some (foundation, operationID) ∧
      Arms codec operationID (traceOf pid earlier) n stepID := by
  have first := permitted.1
  split at first
  · rename_i pid own
    obtain ⟨foundation, id, owned, permits⟩ := first
    obtain ⟨rfl, arms⟩ := permits.arms target
    exact ⟨pid, foundation, own, owned, arms⟩
  · obtain ⟨call, isStore, -⟩ := first
    rw [isStore] at target
    cases target

theorem armed_targetCall (target : occurrence.effect.targetCall ≠ none) :
    armed (occurrence :: trace) = none := by
  obtain ⟨effect, answer⟩ := occurrence
  cases effect with
  | closeAdmission | dispatchGracefulStop | createBackup => rfl
  | _ => exact absurd rfl target

theorem call_marked (permitted : system.Permitted codec (event :: earlier))
    (target : event.occurrence.effect.targetCall = some (n, operationID, stepID)) :
    ∃ mark ∈ earlier, mark.actor = event.actor ∧ mark.occurrence.Marks stepID := by
  obtain ⟨pid, _, own, -, arms⟩ := permitted.arms target
  obtain ⟨_, marked, marks⟩ := marked_of_armed arms.armed
  obtain ⟨mark, member, marker, rfl⟩ := mem_traceOf.mp marked
  exact ⟨mark, member, marker.trans own.symm, marks⟩

theorem not_armed (chained : Chained codec database history)
    (permitted : system.Permitted codec history) (member : event ∈ history)
    (target : event.occurrence.effect.targetCall = some (n, operationID, stepID)) (pid : Nat) :
    armed (traceOf pid history) ≠ some stepID := by
  induction history generalizing database with
  | nil => cases member
  | cons latest earlier hypothesis =>
    intro isArmed
    rcases List.mem_cons.mp member with rfl | before
    · obtain ⟨caller, _, own, -, arms⟩ := permitted.arms target
      by_cases same : event.actor = some pid
      · rw [traceOf_cons_self same, armed_targetCall (target ▸ Option.some_ne_none _)] at isArmed
        cases isArmed
      · rw [traceOf_cons_of_ne same] at isArmed
        refine same (own.trans (congrArg some ?_))
        exact Chained.process_unique chained.2.2 (marked_of_armed arms.armed)
          (marked_of_armed isArmed)
    · have unarmed := hypothesis chained.2.2 permitted.2 before
      by_cases same : latest.actor = some pid
      · rw [traceOf_cons_self same] at isArmed
        rcases armed_cons isArmed with marks | ⟨isArmed, -⟩
        · obtain ⟨later, first, rfl⟩ := List.append_of_mem before
          obtain ⟨mark, marked, -, alsoMarks⟩ := permitted.2.split.call_marked target
          exact chained.unmarked_before marks
            (List.mem_append_right _ (List.mem_cons_of_mem _ marked)) alsoMarks
        · exact unarmed isArmed
      · rw [traceOf_cons_of_ne same] at isArmed
        exact unarmed isArmed

theorem call_places (chained : Chained codec database (event :: earlier))
    (permitted : system.Permitted codec (event :: earlier))
    (target : event.occurrence.effect.targetCall = some (n, operationID, stepID)) :
    Places event.before operationID n stepID := by
  have small : n < 6 := by
    revert target
    cases event.occurrence.effect <;> intro target <;> cases target <;> decide
  obtain ⟨pid, _, -, -, arms⟩ := permitted.arms target
  obtain ⟨intent, entered⟩ := arms.entered
  exact Chained.places chained.2.2 small entered arms.selected

end System.Permitted

theorem Database.Coherent.position_unique (coherent : database.Coherent)
    (found : database.operation operationID = some operation) {first second : Nat}
    {firstAttempt secondAttempt : StepAttempt}
    (firstPresent : operation.attempts[first]? = some firstAttempt)
    (secondPresent : operation.attempts[second]? = some secondAttempt)
    (same : firstAttempt.stepID = secondAttempt.stepID) : first = second := by
  obtain ⟨-, rfl⟩ := coherent.steps.unique found (List.mem_of_getElem? firstPresent) found
    (List.mem_of_getElem? secondPresent) same
  have distinct := List.Nodup.of_map _ (coherent.steps.distinct operationID operation found)
  exact (List.getElem?_inj (List.getElem?_eq_some_iff.mp firstPresent).1 distinct).mp
    (firstPresent.trans secondPresent.symm)

theorem Places.since (placed : Places after operationID n stepID)
    (persists : Persists before.ledger after.ledger) (coherent : before.Coherent)
    (coherentAfter : after.Coherent) (present : before.dispatchState id stepID = some state) :
    id = operationID ∧ Places before operationID n stepID := by
  obtain ⟨operation, attempt, found, member, names, -⟩ :=
    coherent.dispatchState_eq_some.mp present
  obtain ⟨position, here⟩ := List.getElem?_of_mem member
  obtain ⟨later, laterFound, continues⟩ := persists.operations id operation found
  obtain ⟨next, nextPresent, same⟩ := continues.steps position attempt here
  obtain ⟨owner, placedAttempt, ownerFound, placedPresent, placedNames, kind⟩ := placed
  have sameName : next.stepID = placedAttempt.stepID :=
    (same.stepID.trans names).trans placedNames.symm
  obtain ⟨rfl, rfl⟩ := coherentAfter.steps.unique laterFound (List.mem_of_getElem? nextPresent)
    ownerFound (List.mem_of_getElem? placedPresent) sameName
  obtain rfl : later = owner := Option.mem_unique laterFound ownerFound
  obtain rfl := coherentAfter.position_unique laterFound nextPresent placedPresent rfl
  exact ⟨rfl, operation, attempt, found, here, names, same.stepKind.symm.trans kind⟩

/-- The event commits the mark of the attempt with the given number: not dispatched before it,
possibly dispatched after it. -/
structure Event.Dispatches (event : Event) (n : Nat) (operationID stepID : String) : Prop where
  marks : ∃ context now, event.occurrence =
    ⟨.store context (.markDispatchPossible operationID stepID now), .ok ()⟩
  places : Places event.before operationID n stepID
  before : event.before.dispatchState operationID stepID = some .notDispatched
  after : event.after.dispatchState operationID stepID = some .dispatchPossible

/-- A target call comes after the mark of its step. -/
theorem System.Permitted.call_dispatched {system : System} {event : Event}
    (chained : Chained codec database (event :: earlier))
    (permitted : system.Permitted codec (event :: earlier))
    (target : event.occurrence.effect.targetCall = some (n, operationID, stepID)) :
    ∃ mark ∈ earlier, mark.Dispatches n operationID stepID := by
  obtain ⟨mark, member, -, context, id, now, isMark⟩ := permitted.call_marked target
  have reached : Chained codec event.before earlier := chained.2.2
  obtain ⟨undispatched, possible⟩ := reached.mark_committed member isMark
  obtain ⟨rfl, places⟩ := (permitted.call_places chained target).since
    (reached.persists_before member) (reached.before_coherent member) reached.coherent undispatched
  exact ⟨mark, member, ⟨context, now, isMark⟩, places, undispatched, possible⟩

/-- The event is the target call of the operation for the step with the given number. -/
def Event.calls (event : Event) (n : Nat) (operationID : String) : Bool :=
  match event.occurrence.effect.targetCall with
  | some (number, id, _) => number = n ∧ id = operationID
  | none => false

theorem Event.calls_iff {event : Event} :
    event.calls n operationID = true ↔
      ∃ stepID, event.occurrence.effect.targetCall = some (n, operationID, stepID) := by
  unfold Event.calls
  split
  · rename_i number id stepID target
    rw [target]
    simp
  · rename_i target
    rw [target]
    simp

theorem System.Permitted.calls_le_one {system : System} (chained : Chained codec database history)
    (permitted : system.Permitted codec history) (n : Nat) (operationID : String) :
    history.countP (·.calls n operationID) ≤ 1 := by
  induction history generalizing database with
  | nil => exact Nat.zero_le _
  | cons event earlier hypothesis =>
    rw [List.countP_cons]
    split
    · rename_i calls
      suffices none : earlier.countP (·.calls n operationID) = 0 by omega
      refine List.countP_eq_zero.mpr fun other member alsoCalls => ?_
      obtain ⟨stepID, target⟩ := Event.calls_iff.mp calls
      obtain ⟨otherID, otherTarget⟩ := Event.calls_iff.mp alsoCalls
      obtain ⟨pid, _, -, -, arms⟩ := permitted.arms target
      have reached : Chained codec event.before earlier := chained.2.2
      have same : otherID = stepID := by
        obtain ⟨later, first, rfl⟩ := List.append_of_mem member
        have placed := permitted.2.split.call_places reached.split.1 otherTarget
        exact (placed.persists (reached.persists_before member)).unique
          (permitted.call_places chained target)
      subst same
      exact permitted.2.not_armed reached member otherTarget pid arms.armed
    · exact hypothesis chained.2.2 permitted.2

/-- Write-ahead dispatch: over every history of the system, the target calls of an operation are
each made at most once, and each only after a committed mark of exactly its own step. -/
theorem dispatch_at_most_once (codec : Codec) (schedule : List Choice) (operationID : String)
    (n : Nat) :
    (System.reach codec schedule).history.countP (·.calls n operationID) ≤ 1 ∧
      ∀ later call earlier stepID,
        (System.reach codec schedule).history = later ++ call :: earlier →
        call.occurrence.effect.targetCall = some (n, operationID, stepID) →
          ∃ mark ∈ earlier, mark.Dispatches n operationID stepID := by
  have lawful : (System.reach codec schedule).Lawful codec := System.reach_lawful schedule
  refine ⟨lawful.permitted.calls_le_one lawful.chained n operationID, ?_⟩
  intro later call earlier stepID split target
  have chained := lawful.chained
  have permitted := lawful.permitted
  rw [split] at chained permitted
  exact permitted.split.call_dispatched chained.split.1 target

/-- A complete run makes each of the target calls. -/
example : [2, 3, 5].map (fun n => (System.reach fixtureCodec fixtureRun).history.countP
    (·.calls n "operation_a")) = [1, 1, 1] := by
  decide +kernel

/-! ### Only the holder acknowledges -/

/-- The call acknowledges the step if it is carried out. -/
def Acknowledges (before : Ledger) (stepID : String) : StoreCall → Prop
  | .recordStepObservation _ id _ attribution _ _ => id = stepID ∧ attribution = .correlated
  | .completeBackup backupID _ _ _ _ =>
    ∃ record, before.backups backupID = some record ∧ record.stepID = stepID
  | _ => False

theorem Ledger.OperationMove.possible {before : Ledger} {next : Operation}
    (move : OperationMove codec before call operation next) {position : Nat}
    {attempt later : StepAttempt} (present : operation.attempts[position]? = some attempt)
    (laterPresent : next.attempts[position]? = some later)
    (possible : attempt.dispatchState = .dispatchPossible)
    (unacknowledged : ¬ Acknowledges before attempt.stepID call) :
    later.dispatchState = .dispatchPossible := by
  have kept : ∀ {index : Nat} {current replacement : StepAttempt},
      operation.attempts[index]? = some current →
      (operation.attempts.set index replacement)[position]? = some later →
      (current = attempt → replacement.dispatchState = .dispatchPossible) →
      later.dispatchState = .dispatchPossible := by
    intro index current replacement found replaced keeps
    rcases Positions.set_eq_some.mp replaced with ⟨rfl, -, rfl⟩ | ⟨-, replaced⟩
    · exact keeps (Option.mem_unique found present)
    · obtain rfl := Option.mem_unique present replaced
      exact possible
  cases move with
  | aborted | gaveUp | transitioned =>
    obtain rfl := Option.mem_unique present laterPresent
    exact possible
  | prepared =>
    obtain rfl := Option.mem_unique (Positions.concat_of_present present) laterPresent
    exact possible
  | dispatched _ _ located => exact kept located.2 laterPresent fun _ => rfl
  | observed located =>
    rw [settleStatus_attempts] at laterPresent
    refine kept located.2 laterPresent fun same => ?_
    subst same
    have uncorrelated := fun correlated => unacknowledged ⟨located.names.symm, correlated⟩
    exact (if_neg uncorrelated).trans possible
  | completed backup _ _ completable =>
    refine kept completable.writer.sixth laterPresent fun same => ?_
    subst same
    exact absurd ⟨_, backup, completable.writer.names.symm⟩ unacknowledged

theorem commits_possible (coherent : before.Coherent) {transaction : Transaction}
    (commits : Commits codec before transaction after)
    (unacknowledged : ¬ Acknowledges before.ledger stepID transaction.call)
    (possible : before.dispatchState operationID stepID = some .dispatchPossible) :
    after.dispatchState operationID stepID = some .dispatchPossible := by
  obtain ⟨coherentAfter, step⟩ := commits_refines coherent commits
  obtain ⟨operation, attempt, found, member, rfl, isPossible⟩ :=
    coherent.dispatchState_eq_some.mp possible
  rw [coherentAfter.dispatchState_eq_some]
  rcases step.operation_cases operationID with same | ⟨stored, next, earlier, -, now, move⟩ |
    ⟨_, _, _, _, _, _, _, -, rfl, approves, -⟩
  · exact ⟨operation, attempt, same.trans found, member, rfl, isPossible⟩
  · obtain rfl : stored = operation := Option.mem_unique earlier found
    obtain ⟨position, present⟩ := List.getElem?_of_mem member
    obtain ⟨later, laterPresent, same⟩ := move.sameStep present
    exact ⟨next, later, now, List.mem_of_getElem? laterPresent, same.stepID,
      move.possible present laterPresent isPossible unacknowledged⟩
  · exact absurd (approves.fresh.symm.trans found) nofun

/-- Only the process that has a step in hand acknowledges it. -/
theorem System.Permitted.acknowledged_by_holder {system : System} {event : Event}
    (chained : Chained codec database (event :: earlier))
    (permitted : system.Permitted codec (event :: earlier))
    (isCall : event.occurrence.effect = .store context call)
    (acknowledges : Acknowledges event.before.ledger stepID call) :
    ∃ pid, event.actor = some pid ∧ holding (traceOf pid earlier) = some stepID := by
  have first := permitted.1
  rw [isCall] at first
  split at first
  · rename_i pid own
    obtain ⟨foundation, id, owned, permits⟩ := first
    refine ⟨pid, own, ?_⟩
    cases call with
    | recordStepObservation =>
      obtain ⟨rfl, rfl⟩ := acknowledges
      rcases permits with ⟨-, impossible⟩ | ⟨-, inHand⟩
      · cases impossible
      · exact inHand
    | completeBackup =>
      obtain ⟨record, found, rfl⟩ := acknowledges
      obtain ⟨reserved, _, answered, rfl, -, inHand⟩ := permits
      obtain ⟨later, laterFound, keeps⟩ := Chained.read_reserved chained.2.2 answered
      obtain rfl : later = record := Option.mem_unique laterFound found
      rw [keeps]
      exact inHand
    | _ => exact acknowledges.elim
  · obtain ⟨_, same, command⟩ := first
    cases same
    cases call with
    | recordStepObservation | completeBackup => cases command
    | _ => exact acknowledges.elim

theorem Acknowledges.records {before : Ledger} (acknowledges : Acknowledges before stepID call) :
    (Effect.store context call).records = true := by
  cases call with
  | recordStepObservation | completeBackup => rfl
  | _ => exact acknowledges.elim

theorem holding_event {event : Event}
    (inHand : holding (traceOf pid (event :: earlier)) = some stepID) :
    event.actor = some pid ∧ event.occurrence.Marks stepID ∨
      holding (traceOf pid earlier) = some stepID ∧
        (event.actor = some pid → event.occurrence.effect.records = false) := by
  by_cases own : event.actor = some pid
  · rw [traceOf_cons_self own] at inHand
    rcases holding_cons inHand with marks | ⟨before, quiet⟩
    · exact Or.inl ⟨own, marks⟩
    · exact Or.inr ⟨before, fun _ => quiet⟩
  · rw [traceOf_cons_of_ne own] at inHand
    exact Or.inr ⟨inHand, fun same => absurd same own⟩

theorem System.Permitted.mark_own {system : System} {event : Event}
    (permitted : system.Permitted codec (event :: earlier))
    (owned : system.owner pid = some (foundation, operationID)) (own : event.actor = some pid)
    (isMark : event.occurrence = ⟨.store context (.markDispatchPossible id stepID now), .ok ()⟩) :
    id = operationID := by
  have first := permitted.1
  rw [own, isMark] at first
  obtain ⟨_, _, isOwner, same, -⟩ := first
  rw [same]
  exact (Prod.mk.inj (Option.mem_unique isOwner owned)).2

theorem System.Permitted.holding_possible {system : System}
    (chained : Chained codec database history) (permitted : system.Permitted codec history)
    (owned : system.owner pid = some (foundation, operationID))
    (inHand : holding (traceOf pid history) = some stepID) :
    database.dispatchState operationID stepID = some .dispatchPossible := by
  induction history generalizing database with
  | nil => cases inHand
  | cons event earlier hypothesis =>
    rcases holding_event inHand with ⟨own, context, id, now, isMark⟩ | ⟨held, quiet⟩
    · obtain rfl := permitted.mark_own owned own isMark
      rw [← chained.1]
      exact (chained.mark_committed List.mem_cons_self isMark).2
    · have possible := hypothesis chained.2.2 permitted.2 held
      rw [← chained.1]
      rcases chained.2.1.commits with same | ⟨context, transaction, isCall, commits⟩
      · rw [same]
        exact possible
      · refine commits_possible (Chained.coherent chained.2.2) commits (fun acknowledges => ?_)
          possible
        obtain ⟨holder, actor, holds⟩ :=
          permitted.acknowledged_by_holder chained isCall acknowledges
        obtain rfl := Chained.process_unique chained.2.2 (marked_of_holding holds)
          (marked_of_holding held)
        have recorded := quiet actor
        rw [isCall, acknowledges.records] at recorded
        cases recorded

end GuardedAgentRunner
