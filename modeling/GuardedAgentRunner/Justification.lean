/-
This file proves that effects are ordered and justified. Unless an operation is
unresolved, every attempt but its last is complete: another runner can overwrite a
completed attempt only with an unknown effect, which makes the operation unresolved,
because only the process that has the step in hand records an expected effect. So
when the mark of a step commits, every earlier step is complete; and the same run
has validated, before it, the observation or the evidence that the step asks for.
-/

import GuardedAgentRunner.Dispatch

namespace GuardedAgentRunner

open Store Ledger

variable {codec : Codec} {database : Database} {history earlier : List Event}
  {operationID stepID : String} {attempts : List StepAttempt} {index : Nat}

/-! ### Orderly operations -/

/-- Every attempt but the last is complete. -/
def Ordered (attempts : List StepAttempt) : Prop :=
  ∀ (position : Nat) (attempt : StepAttempt), attempts[position]? = some attempt →
    position + 1 < attempts.length → attempt.Complete

theorem Ordered.last (ordered : Ordered attempts) {position : Nat} {attempt : StepAttempt}
    (present : attempts[position]? = some attempt) (incomplete : ¬ attempt.Complete) :
    attempts.length = position + 1 := by
  have inside := (List.getElem?_eq_some_iff.mp present).1
  by_contra other
  exact incomplete (ordered position attempt present (by omega))

theorem Ordered.set (ordered : Ordered attempts) {replacement : StepAttempt}
    (keeps : attempts.length = index + 1 ∨ replacement.Complete) :
    Ordered (attempts.set index replacement) := by
  intro position attempt present inner
  rw [List.length_set] at inner
  rcases Positions.set_eq_some.mp present with ⟨rfl, -, rfl⟩ | ⟨-, present⟩
  · exact keeps.resolve_left (by omega)
  · exact ordered position attempt present inner

theorem ordered_append (complete : ∀ attempt ∈ attempts, attempt.Complete) (last : StepAttempt) :
    Ordered (attempts ++ [last]) := by
  intro position attempt present inner
  rw [List.length_append, List.length_singleton] at inner
  rw [List.getElem?_append_left (by omega)] at present
  exact complete attempt (List.mem_of_getElem? present)

/-- Every attempt but the last is complete, unless the operation is unresolved. -/
def Operation.Orderly (operation : Operation) : Prop :=
  operation.status.Unresolved ∨ Ordered operation.attempts

/-- A record of anything but an unknown effect is for a possibly dispatched attempt. -/
def RecordsInHand (operation : Operation) : StoreCall → Prop
  | .recordStepObservation _ stepID effect _ _ _ =>
    effect = .unknown ∨
      ∀ attempt ∈ operation.attempts, attempt.stepID = stepID →
        attempt.dispatchState = .dispatchPossible
  | _ => True

variable {operation : Operation} {intent : ChangeIntent} {enrollment : Enrollment}
  {call : StoreCall} {trace : Trace}

theorem Ledger.OperationMove.orderly {before : Ledger} {next : Operation}
    (move : OperationMove codec before call operation next) (orderly : operation.Orderly)
    (inHand : RecordsInHand operation call) : next.Orderly := by
  cases move with
  | aborted unstarted =>
    refine Or.inr (orderly.resolve_left fun unresolved => ?_)
    rw [unstarted.1] at unresolved
    exact absurd unresolved (by decide)
  | prepared _ preparable => exact Or.inr (ordered_append preparable.complete _)
  | dispatched _ dispatchable located undispatched =>
    have ordered := orderly.resolve_left dispatchable.not_unresolved
    refine Or.inr (ordered.set (Or.inl (ordered.last located.2 fun complete => ?_)))
    exact absurd (undispatched.symm.trans complete.1) nofun
  | @observed _ stepID index current effect attribution evidence now located =>
    rcases inHand with rfl | possible
    · exact Or.inl (Or.inl rfl)
    · rcases orderly with unresolved | ordered
      · exact Or.inl (settleStatus_unresolved unresolved)
      · refine Or.inr ?_
        rw [settleStatus_attempts]
        refine ordered.set (Or.inl (ordered.last located.2 fun complete => ?_))
        have state := possible current (List.mem_of_getElem? located.2) located.names
        exact absurd (state.symm.trans complete.1) nofun
  | gaveUp => exact Or.inl (Or.inl rfl)
  | transitioned allowed =>
    refine Or.inr (orderly.resolve_left fun unresolved => ?_)
    rw [canTransitionOperation_of_unresolved unresolved] at allowed
    cases allowed
  | completed _ _ _ completable =>
    have ordered := orderly.resolve_left fun unresolved => by
      rw [completable.writer.executing] at unresolved
      exact absurd unresolved (by decide)
    exact Or.inr (ordered.set (Or.inr ⟨rfl, rfl, rfl⟩))

theorem commits_orderly {before after : Database} (coherent : before.Coherent)
    {transaction : Transaction} (commits : Commits codec before transaction after)
    (orderly : ∀ operation, before.operation operationID = some operation → operation.Orderly)
    (inHand : ∀ operation next,
      before.operation operation.operationID = some operation →
      OperationMove codec before.ledger transaction.call operation next →
        RecordsInHand operation transaction.call)
    (found : after.operation operationID = some operation) : operation.Orderly := by
  have step := (commits_refines coherent commits).2
  rcases step.operation_cases operationID with same | ⟨stored, next, present, names, now, move⟩ |
    ⟨_, _, _, _, _, _, _, -, -, -, now⟩
  · exact orderly operation (same.symm.trans found)
  · obtain rfl : next = operation := Option.mem_unique now found
    subst names
    exact move.orderly (orderly stored present) (inHand stored next present move)
  · obtain rfl := Option.mem_unique now found
    exact Or.inr fun position attempt present => nomatch present

namespace System.Permitted

variable {system : System} {event : Event}

theorem recordsInHand (chained : Chained codec database (event :: earlier))
    (permitted : system.Permitted codec (event :: earlier)) {context : Context}
    (isCall : event.occurrence.effect = .store context call)
    (found : event.before.operation operation.operationID = some operation)
    (own : ∀ id stepID effect attribution evidence now,
      call = .recordStepObservation id stepID effect attribution evidence now →
        id = operation.operationID) : RecordsInHand operation call := by
  cases call with
  | recordStepObservation id stepID effect attribution evidence now =>
    obtain rfl := own _ _ _ _ _ _ rfl
    have first := permitted.1
    rw [isCall] at first
    split at first
    · obtain ⟨foundation, id, owned, permits⟩ := first
      rcases permits with ⟨unknown, -⟩ | ⟨rfl, inHand⟩
      · exact Or.inl unknown
      · refine Or.inr fun attempt member names => ?_
        have reached : Chained codec event.before earlier := chained.2.2
        have possible := permitted.2.holding_possible reached owned inHand
        have here := reached.coherent.dispatchState_eq_some.mpr
          ⟨operation, attempt, found, member, names, rfl⟩
        exact Option.mem_unique here possible
    · obtain ⟨_, same, command⟩ := first
      cases same
      cases command
  | _ => trivial

theorem orderly (chained : Chained codec database history)
    (permitted : system.Permitted codec history)
    (found : database.operation operationID = some operation) : operation.Orderly := by
  induction history generalizing database operation with
  | nil =>
    obtain rfl := chained
    cases found
  | cons event earlier hypothesis =>
    have reached : Chained codec event.before earlier := chained.2.2
    rw [← chained.1] at found
    rcases chained.2.1.commits with same | ⟨context, transaction, isCall, commits⟩
    · rw [same] at found
      exact hypothesis reached permitted.2 found
    · refine commits_orderly reached.coherent commits
        (fun _ present => hypothesis reached permitted.2 present)
        (fun stored next present move => ?_) found
      refine permitted.recordsInHand chained isCall present ?_
      rintro _ _ _ _ _ _ isRecord
      rw [isRecord] at move
      cases move
      rfl

end System.Permitted

/-! ### Justified marks -/

/-- What holds when the mark of a step commits: the step is the last attempt of its operation,
every attempt before it is complete, and the run with the given trace has validated against the
sealed intent of the operation what the step asks for. -/
structure JustifiedMark (codec : Codec) (enrollment : Enrollment) (trace : Trace)
    (before : Database) (operationID stepID : String) (n : Nat) (operation : Operation)
    (intent : ChangeIntent) : Prop where
  found : before.operation operationID = some operation
  approved : ∃ record, before.intent operation.intentID = some record ∧ record.intent = intent
  sealedIntent : intent.Sealed codec
  places : Places before operationID n stepID
  last : operation.attempts.length = n + 1
  complete : ∀ position < n, ∃ previous,
    operation.attempts[position]? = some previous ∧ previous.Complete
  online : 1 ≤ n → n ≤ 3 → ∃ observation,
    Observed codec enrollment trace intent false observation ∧
      ObservationMatches observation intent ∧ observation.processStopped = false ∧
      (2 ≤ n → observation.players = 0) ∧
      (n = 3 → observation.admissionClosed = true ∧ observation.maintenance = true)
  offline : 4 ≤ n → ∃ ready stopped, Offline codec enrollment operationID trace intent ready ∧
    ready.stop.state = .confirmed ∧ ready.stop.operationID = operationID ∧
    operation.attempts[3]? = some stopped ∧ stopped.stepKind = .gracefulStop ∧
    ready.stop.stepID = stopped.stepID ∧ ready.stop.containerID = intent.containerID ∧
    ready.stop.bootID = intent.expectedBootID

theorem Entered.sealedIntent (entered : Entered codec operationID trace intent) :
    intent.Sealed codec := by
  obtain ⟨_, _, -, -, -, isSealed, -⟩ := entered
  exact isSealed

theorem Observed.matches {offline : Bool} {observation : SafetyObservation}
    (observed : Observed codec enrollment trace intent offline observation) :
    ObservationMatches observation intent := by
  obtain ⟨_, -, -, valid⟩ := observed
  exact (SafetyObservation.validate_eq_ok codec valid).2

/-- The attempt a committed mark locates is the last one, and the others are complete. -/
theorem Operation.Orderly.marked (orderly : operation.Orderly) {status : IntentStatus}
    (dispatchable : Dispatchable status operation) {current : StepAttempt}
    (located : Located operation.attempts stepID index current)
    (undispatched : current.dispatchState = .notDispatched) :
    operation.attempts.length = index + 1 ∧ ∀ position < index, ∃ previous,
      operation.attempts[position]? = some previous ∧ previous.Complete := by
  have ordered := orderly.resolve_left dispatchable.not_unresolved
  have last := ordered.last located.2 fun complete =>
    absurd (undispatched.symm.trans complete.1) nofun
  refine ⟨last, fun position small => ?_⟩
  have inside : position < operation.attempts.length := by omega
  exact ⟨operation.attempts[position], List.getElem?_eq_getElem inside,
    ordered position _ (List.getElem?_eq_getElem inside) (by omega)⟩

/-- Validated evidence of an offline target is evidence of the operation's own stop. -/
theorem Chained.offline_stop {pid : Nat} {ready : BackupReadyEvidence}
    (chained : Chained codec database history)
    (offline : Offline codec enrollment operationID (traceOf pid history) intent ready)
    (found : database.operation operationID = some operation) :
    ∃ stopped, ready.stop.state = .confirmed ∧ ready.stop.operationID = operationID ∧
      operation.attempts[3]? = some stopped ∧ stopped.stepKind = .gracefulStop ∧
      ready.stop.stepID = stopped.stepID ∧ ready.stop.containerID = intent.containerID ∧
      ready.stop.bootID = intent.expectedBootID := by
  obtain ⟨-, read, time, answered, -, valid⟩ := offline
  have readyFor := BackupReadyEvidence.validate_eq_ok codec valid
  obtain ⟨attempt, third, names, kind, -⟩ := readyFor.stopStep
  obtain ⟨later, laterFound, continues⟩ := chained.read_operation answered
  obtain rfl : later = operation := Option.mem_unique laterFound found
  obtain ⟨stopped, present, same⟩ := continues.steps 3 attempt third
  have sameID := (chained.coherent.operation_eq_some.mp found).2
  refine ⟨stopped, readyFor.stopState, ?_, present, same.stepKind.trans kind, ?_,
    readyFor.stopContainer, readyFor.stopBoot⟩
  · rw [readyFor.stopOperation, ← continues.identity.operationID, sameID]
  · rw [same.stepID, names]

/-- Effects are ordered and justified: in every history of the system, when the mark of a step
commits, every earlier step of the operation is complete, and the run that makes the mark has
before it validated what the step asks for. -/
theorem effects_ordered_justified (codec : Codec) (schedule : List Choice)
    (later earlier : List Event) (mark : Event) (operationID stepID : String) (now : Time)
    (split : (System.reach codec schedule).history = later ++ mark :: earlier)
    (commits : mark.Commits codec (.markDispatchPossible operationID stepID now)) :
    ∃ pid foundation n operation intent, mark.actor = some pid ∧
      (System.reach codec schedule).owner pid = some (foundation, operationID) ∧
      mark.before.dispatchState operationID stepID = some .notDispatched ∧
      mark.after.dispatchState operationID stepID = some .dispatchPossible ∧
      JustifiedMark codec foundation.enrollment (traceOf pid earlier) mark.before operationID
        stepID n operation intent := by
  have lawful : (System.reach codec schedule).Lawful codec := System.reach_lawful schedule
  have chained := lawful.chained
  have permitted := lawful.permitted
  rw [split] at chained permitted
  have reached : Chained codec mark.before earlier := chained.split.1.2.2
  obtain ⟨context, ids, isMark, commits⟩ := commits
  obtain ⟨undispatched, possible⟩ := mark_dispatchState reached.coherent commits
  have first := permitted.split.1
  rw [isMark] at first
  split at first
  · rename_i pid own
    obtain ⟨foundation, id, owned, rfl, n, intent, small, entered, selected, justifies⟩ := first
    obtain ⟨operation, record, index, current, found, -, dispatchable, located, state, -⟩ :=
      (commits_refines reached.coherent commits).2.marked
    have places := reached.places small entered selected
    obtain rfl : index = n := by
      obtain ⟨stored, attempt, isStored, present, names, -⟩ := places
      obtain rfl : stored = operation := Option.mem_unique isStored found
      exact reached.coherent.position_unique found located.2 present
        (located.names.trans names.symm)
    obtain ⟨last, complete⟩ :=
      (permitted.split.2.orderly reached found).marked dispatchable located state
    obtain ⟨stored, approved, isStored, intentFound, same⟩ := reached.entered entered
    obtain rfl : stored = operation := Option.mem_unique isStored found
    refine ⟨pid, foundation, index, stored, intent, own, owned, undispatched, possible, found,
      ⟨approved, intentFound, same⟩, entered.sealedIntent, places, last, complete, ?_, ?_⟩
    · intro low high
      obtain ⟨observation, observed, facts⟩ := justifies.target low high
      exact ⟨observation, observed, observed.matches, facts⟩
    · intro far
      obtain ⟨ready, offline⟩ := justifies.offline far
      obtain ⟨stopped, facts⟩ := reached.offline_stop offline found
      exact ⟨ready, stopped, offline, facts⟩
  · obtain ⟨call, same, command⟩ := first
    cases same
    cases command

/-- The event is an answered mark of the step. -/
def Event.marks (event : Event) (operationID stepID : String) : Bool :=
  match event.occurrence with
  | ⟨.store _ (.markDispatchPossible id marked _), .ok _⟩ => id = operationID ∧ marked = stepID
  | _ => false

theorem Event.marks_eq {event : Event} (marks : event.marks operationID stepID = true) :
    ∃ context now, event.occurrence =
      ⟨.store context (.markDispatchPossible operationID stepID now), .ok ()⟩ := by
  unfold Event.marks at marks
  split at marks
  · rename_i context id marked now done same
    obtain ⟨rfl, rfl⟩ := of_decide_eq_true marks
    exact ⟨context, now, same⟩
  · cases marks

theorem exists_mark (codec : Codec) (schedule : List Choice) (operationID stepID : String)
    (marked : (System.reach codec schedule).history.any (·.marks operationID stepID) = true) :
    ∃ later mark earlier now,
      (System.reach codec schedule).history = later ++ mark :: earlier ∧
      mark.Commits codec (.markDispatchPossible operationID stepID now) := by
  obtain ⟨mark, member, marks⟩ := List.any_eq_true.mp marked
  obtain ⟨context, now, isMark⟩ := Event.marks_eq marks
  have lawful : (System.reach codec schedule).Lawful codec := System.reach_lawful schedule
  have commits := lawful.chained.mark_commits member isMark
  obtain ⟨later, earlier, split⟩ := List.append_of_mem member
  exact ⟨later, mark, earlier, now, split, commits⟩

/-- In the complete run the mark of S05 is justified by the evidence of the stop. -/
theorem fixtureRun_justified :
    ∃ later mark earlier now pid foundation n operation intent,
      (System.reach fixtureCodec fixtureRun).history = later ++ mark :: earlier ∧
      mark.Commits fixtureCodec (.markDispatchPossible "operation_a" "step_5" now) ∧
      mark.actor = some pid ∧
      (System.reach fixtureCodec fixtureRun).owner pid = some (foundation, "operation_a") ∧
      JustifiedMark fixtureCodec foundation.enrollment (traceOf pid earlier) mark.before
        "operation_a" "step_5" n operation intent := by
  obtain ⟨later, mark, earlier, now, split, commits⟩ :=
    exists_mark fixtureCodec fixtureRun "operation_a" "step_5" (by decide +kernel)
  obtain ⟨pid, foundation, n, operation, intent, own, owned, -, -, justified⟩ :=
    effects_ordered_justified fixtureCodec fixtureRun later earlier mark "operation_a" "step_5"
      now split commits
  exact ⟨later, mark, earlier, now, pid, foundation, n, operation, intent, split, commits, own,
    owned, justified⟩

end GuardedAgentRunner
