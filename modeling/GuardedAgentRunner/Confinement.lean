/-
This file confines a run to its own operation. Every call that may change an
operation names the operation of the run that makes it; its transitions go forward
and leave the verification alone; and the expected effect is recorded only for the
steps before S05, so that S05 is completed by the completion of its backup. A run
on one operation is of no concern to another.
-/

import GuardedAgentRunner.Exposure
import GuardedAgentRunner.Attempts

namespace GuardedAgentRunner

open Fallible Protocol Program Foundation Store Ledger

/-- The protocol of a run that is confined to its operation. -/
def confinement (codec : Codec) (operationID : String) : Protocol Effect Effect.Answer Trace :=
  recording fun trace effect => ReadsOwn operationID trace → Confined codec operationID trace effect

variable {codec : Codec} {foundation : Foundation} {operationID stepID : String}
  {intent : ChangeIntent} {trace : Trace} {n : Nat}

theorem run_confined (foundation : Foundation) (operationID : String) :
    (confinement codec operationID).Safe [] (foundation.run codec operationID).run
      fun _ _ => True :=
  Safe.relax (Safe.weaken (run_conducted codec foundation operationID) fun _ _ _ => trivial)
    (fun _ _ => And.right) fun _ _ _ _ _ => id

/-! ### Confined histories -/

theorem Chained.readsOwn {database : Database} {history : List Event}
    (chained : Chained codec database history) (pid : Nat) :
    ReadsOwn operationID (traceOf pid history) := by
  intro operation answered
  obtain ⟨event, member, -, ids, run⟩ := chained.carried answered
  obtain ⟨found, -⟩ := reading_eq_ok.mp run
  have present := (Database.getOperationTx_eq_ok ..).mp found
  exact ((chained.before_coherent member).operation_eq_some.mp present).2

/-- Every process goes on with its program as the guard and the postcondition ask. -/
def System.Follows (system : System) (guard : String → Trace → Effect → Prop)
    (post : String → Trace → Except Failure Unit → Prop) : Prop :=
  ∀ pid process, system.processes[pid]? = some process →
    (recording (guard process.operationID)).Safe (traceOf pid system.history) process.rest
      (post process.operationID)

/-- Every call of a process is about its own operation. -/
def System.KeepsTo (codec : Codec) (system : System) : List Event → Prop
  | [] => True
  | event :: earlier =>
    (∀ pid foundation operationID, event.actor = some pid →
      system.owner pid = some (foundation, operationID) →
        Confined codec operationID (traceOf pid earlier) event.occurrence.effect) ∧
    KeepsTo codec system earlier

/-- The history is confined, and every process goes on confined. -/
structure System.Confines (codec : Codec) (system : System) : Prop where
  keeps : system.KeepsTo codec system.history
  follows : system.Follows
    (fun operationID trace effect =>
      ReadsOwn operationID trace → Confined codec operationID trace effect)
    fun _ _ _ => True

namespace System

variable {system next : System} {history : List Event} {guard : String → Trace → Effect → Prop}
  {post : String → Trace → Except Failure Unit → Prop}

theorem Follows.transition (follows : system.Follows guard post)
    (holds : ∀ (foundation : Foundation) operationID, (recording (guard operationID)).Safe []
      (foundation.run codec operationID).run (post operationID))
    (lawful : system.Lawful codec) (transition : system.Transition codec next) :
    next.Follows guard post := by
  cases transition with
  | idle => exact follows
  | started foundation operationID =>
    intro pid process present
    rcases Positions.concat_eq_some.mp present with present | ⟨rfl, rfl⟩
    · exact follows pid process present
    · rw [lawful.unstarted _ (Nat.le_refl _)]
      exact holds foundation operationID
  | @died pid dead present =>
    intro other process found
    rcases Positions.set_eq_some.mp found with ⟨rfl, -, rfl⟩ | ⟨-, found⟩
    · exact follows pid dead present
    · exact follows other process found
  | @performed pid process effect answer next after present alive calls reacts =>
    have safe := follows pid process present
    rw [calls] at safe
    intro other found isFound
    rcases Positions.set_eq_some.mp isFound with ⟨rfl, -, rfl⟩ | ⟨away, isFound⟩
    · rw [traceOf_cons_self rfl]
      exact safe.2 answer _ rfl
    · rw [traceOf_cons_of_ne fun same => away (Option.some.inj same)]
      exact follows other found isFound
  | commanded =>
    intro pid process present
    have outside : (none : Option Nat) ≠ some pid := nofun
    rw [traceOf_cons_of_ne outside]
    exact follows pid process present

theorem KeepsTo.mono (keeps : system.KeepsTo codec history)
    (started : ∀ event ∈ history, ∀ pid, event.actor = some pid →
      ∃ owner, system.owner pid = some owner)
    (mono : ∀ {pid owner}, system.owner pid = some owner → next.owner pid = some owner) :
    next.KeepsTo codec history := by
  induction history with
  | nil => trivial
  | cons event earlier hypothesis =>
    refine ⟨fun pid foundation operationID own owned => ?_, hypothesis keeps.2
      fun event member => started event (List.mem_cons_of_mem _ member)⟩
    obtain ⟨owner, was⟩ := started event List.mem_cons_self pid own
    obtain rfl := Option.mem_unique (mono was) owned
    exact keeps.1 pid foundation operationID own was

theorem Permitted.started (permitted : system.Permitted codec history) :
    ∀ event ∈ history, ∀ pid, event.actor = some pid → ∃ owner, system.owner pid = some owner := by
  intro event member pid own
  obtain ⟨later, earlier, rfl⟩ := List.append_of_mem member
  have first := permitted.split.1
  rw [own] at first
  obtain ⟨foundation, operationID, owned, -⟩ := first
  exact ⟨_, owned⟩

theorem Confines.transition (confines : system.Confines codec) (lawful : system.Lawful codec)
    (transition : system.Transition codec next) : next.Confines codec := by
  refine ⟨?_, confines.follows.transition run_confined lawful transition⟩
  have keeps := confines.keeps.mono lawful.permitted.started transition.owner_mono
  cases transition with
  | idle | started | died => exact keeps
  | @performed pid process effect answer next after present alive calls reacts =>
    refine ⟨fun actor foundation operationID own isOwner => ?_, keeps⟩
    have safe := confines.follows pid process present
    rw [calls] at safe
    have owned := (owner_set present process.alive (next answer) pid).trans
      (owner_of_present present)
    obtain rfl := Option.some.inj own
    obtain ⟨rfl, rfl⟩ := Prod.mk.inj (Option.mem_unique owned isOwner)
    exact safe.1 (lawful.chained.readsOwn pid)
  | commanded => exact ⟨fun _ _ _ own => absurd own nofun, keeps⟩

end System

/-! ### What the journal of an operation shows -/

/-- What a call of the system that moves an operation satisfies. -/
def Conducted (before : Database) (operation : Operation) : StoreCall → Prop
  | .transitionOperation _ status verification _ _ =>
    (status = .preparing ∨ status = .executing) ∧ verification = .notStarted
  | .recordStepObservation _ stepID effect attribution _ _ =>
    effect = .expectedObserved → attribution = .correlated →
      ∃ n < 5, Places before operation.operationID n stepID
  | .markDispatchPossible .. =>
    ∃ record, before.intent operation.intentID = some record ∧
      record.intent.steps.items = fixedWorkflowSteps
  | _ => True

/-- The journal of an operation that only runs have moved. -/
structure Plain (database : Database) (operation : Operation) : Prop where
  unverified : operation.verification = .notStarted
  owned : operation.attempts ≠ [] → operation.ownershipReleased = false
  sixth : ∀ attempt, operation.attempts[5]? = some attempt → attempt.Complete →
    operation.status = .executing ∨ operation.status.Unresolved
  fixed : ∀ attempt ∈ operation.attempts, attempt.dispatchState ≠ .notDispatched →
    ∃ record, database.intent operation.intentID = some record ∧
      record.intent.steps.items = fixedWorkflowSteps

section Moves

variable {before after : Database} {call : StoreCall} {next : Operation}

theorem settleStatus_verification {event : AttemptEvent} :
    (settleStatus event attempt operation).verification = operation.verification := by
  unfold settleStatus
  split <;> split <;> rfl

theorem Plain.persists (plain : Plain before operation)
    (persists : Persists before.ledger after.ledger) : Plain after operation where
  unverified := plain.unverified
  owned := plain.owned
  sixth := plain.sixth
  fixed attempt member dispatched := by
    obtain ⟨record, found, steps⟩ := plain.fixed attempt member dispatched
    obtain ⟨later, laterFound, same⟩ := persists.intents _ record found
    exact ⟨later, laterFound, by rw [same]; exact steps⟩

section

variable (move : OperationMove codec before.ledger call operation next)
  (conducted : Conducted before operation call) {attempt : StepAttempt}

include move conducted

theorem Ledger.OperationMove.keepsUnverified :
    next.verification = .notStarted ∨ next.verification = operation.verification := by
  cases move with
  | transitioned => exact Or.inl conducted.2
  | observed => exact Or.inr settleStatus_verification
  | _ => exact Or.inr rfl

theorem Ledger.OperationMove.keepsOwned
    (owned : operation.attempts ≠ [] → operation.ownershipReleased = false)
    (started : next.attempts ≠ []) : next.ownershipReleased = false := by
  have kept : ∀ {index : Nat} {replacement : StepAttempt},
      operation.attempts.set index replacement ≠ [] → operation.ownershipReleased = false :=
    fun started => owned fun empty => started (by rw [empty, List.set_nil])
  cases move with
  | aborted unstarted => exact absurd unstarted.2 started
  | prepared _ preparable => exact preparable.owned
  | dispatched | completed => exact kept started
  | observed =>
    rw [settleStatus_attempts] at started
    rw [settleStatus_ownershipReleased]
    exact kept started
  | gaveUp => rfl
  | transitioned =>
    have staying : ∀ {status : OperationStatus}, status = .preparing ∨ status = .executing →
        status ∉ releasingStatuses := by
      rintro _ (rfl | rfl) <;> decide
    exact (if_neg (staying conducted.1)).trans (owned started)

/-- Only the completion of its backup completes the sixth attempt. -/
theorem Ledger.OperationMove.keepsSixth (coherent : before.Coherent)
    (found : before.operation operation.operationID = some operation)
    (sixth : ∀ attempt, operation.attempts[5]? = some attempt → attempt.Complete →
      operation.status = .executing ∨ operation.status.Unresolved)
    (present : next.attempts[5]? = some attempt) (complete : attempt.Complete) :
    next.status = .executing ∨ next.status.Unresolved := by
  have replaced : ∀ {index : Nat} {replacement : StepAttempt},
      (operation.attempts.set index replacement)[5]? = some attempt →
      index = 5 ∧ attempt = replacement ∨
        (operation.status = .executing ∨ operation.status.Unresolved) := by
    intro index replacement present
    rcases Positions.set_eq_some.mp present with ⟨rfl, -, rfl⟩ | ⟨-, present⟩
    · exact Or.inl ⟨rfl, rfl⟩
    · exact Or.inr (sixth attempt present complete)
  cases move with
  | aborted unstarted =>
    rw [show (abort operation _).attempts = operation.attempts from rfl, unstarted.2] at present
    cases present
  | prepared =>
    rcases Positions.concat_eq_some.mp present with present | ⟨-, rfl⟩
    · exact sixth attempt present complete
    · exact absurd complete.1 nofun
  | dispatched =>
    rcases replaced present with ⟨-, rfl⟩ | kept
    · exact absurd complete.1 nofun
    · exact kept
  | observed located =>
    rw [settleStatus_attempts] at present
    rcases replaced present with ⟨rfl, rfl⟩ | executing | unresolved
    · obtain ⟨n, small, _, placed, storedFound, placedAt, names, -⟩ :=
        conducted complete.2.1 complete.2.2
      obtain rfl := Option.mem_unique storedFound found
      have same := coherent.position_unique found placedAt located.2
        (names.trans located.names.symm)
      omega
    · rcases settleStatus_status with kept | unresolved
      · exact Or.inl (kept.trans executing)
      · exact Or.inr unresolved
    · exact Or.inr (settleStatus_unresolved unresolved)
  | gaveUp => exact Or.inr (Or.inl rfl)
  | @transitioned _ status _ _ _ allowed =>
    rcases sixth attempt present complete with executing | unresolved
    · rw [executing] at allowed
      rcases conducted.1 with rfl | rfl
      · cases allowed
      · exact Or.inl rfl
    · rw [canTransitionOperation_of_unresolved unresolved] at allowed
      cases allowed
  | completed _ _ _ completable => exact Or.inl completable.writer.executing

/-- Only a mark leads to a dispatched attempt. -/
theorem Ledger.OperationMove.keepsFixed
    (fixed : ∀ attempt ∈ operation.attempts, attempt.dispatchState ≠ .notDispatched →
      ∃ record, before.intent operation.intentID = some record ∧
        record.intent.steps.items = fixedWorkflowSteps) (member : attempt ∈ next.attempts)
    (dispatched : attempt.dispatchState ≠ .notDispatched) :
    ∃ record, before.intent operation.intentID = some record ∧
      record.intent.steps.items = fixedWorkflowSteps := by
  cases move with
  | aborted | gaveUp | transitioned => exact fixed attempt member dispatched
  | prepared =>
    rcases List.mem_append.mp member with old | new
    · exact fixed attempt old dispatched
    · obtain rfl := List.mem_singleton.mp new
      exact absurd rfl dispatched
  | dispatched => exact conducted
  | @observed _ _ _ current _ _ _ _ located possible =>
    refine fixed current (List.mem_of_getElem? located.2) fun undispatched => ?_
    rw [undispatched] at possible
    exact possible.elim nofun nofun
  | completed _ _ _ completable =>
    refine fixed _ (List.mem_of_getElem? completable.writer.sixth) fun undispatched => ?_
    exact absurd (completable.writer.dispatched.symm.trans undispatched) nofun

end

theorem Plain.move (plain : Plain before operation)
    (move : OperationMove codec before.ledger call operation next)
    (conducted : Conducted before operation call) (coherent : before.Coherent)
    (found : before.operation operation.operationID = some operation) : Plain before next where
  unverified := (move.keepsUnverified conducted).elim id fun same => same.trans plain.unverified
  owned := move.keepsOwned conducted plain.owned
  sixth _ := move.keepsSixth conducted coherent found plain.sixth
  fixed attempt member dispatched := by
    rw [move.sameIdentity.intentID]
    exact move.keepsFixed conducted plain.fixed member dispatched

end Moves

theorem Bystands.of_kept {before after : Database}
    (same : after.operation operationID = before.operation operationID)
    (backups : BackupsPersist before.ledger after.ledger)
    (persists : Persists before.ledger after.ledger) : Bystands operationID before after where
  unexposed unexposed := by
    rintro ⟨operation, found, exposed⟩
    exact unexposed ⟨operation, same.symm.trans found, exposed⟩
  orderly orderly operation found := orderly operation (same.symm.trans found)
  started operation found _ := same.trans found
  backups := backups
  persists := persists

namespace System

variable {system : System} {database : Database} {history earlier : List Event} {event : Event}

theorem Permitted.conducted (chained : Chained codec database (event :: earlier))
    (permitted : system.Permitted codec (event :: earlier))
    (keeps : system.KeepsTo codec (event :: earlier)) {context : Context} {call : StoreCall}
    (isCall : event.occurrence.effect = .store context call) {next : Operation}
    (found : event.before.operation operation.operationID = some operation)
    (move : OperationMove codec event.before.ledger call operation next) :
    Conducted event.before operation call := by
  have first := permitted.1
  have kept := keeps.1
  have reached : Chained codec event.before earlier := chained.2.2
  rw [isCall] at first kept
  split at first
  · rename_i pid own
    obtain ⟨foundation, id, owned, permits⟩ := first
    have confined := kept pid foundation id own owned
    cases move with
    | transitioned => exact confined.2
    | observed =>
      intro expected correlated
      obtain ⟨rfl, named⟩ := confined
      obtain ⟨n, intent, small, entered, selected⟩ := named expected correlated
      exact ⟨n, small, reached.places (by omega) entered selected⟩
    | dispatched =>
      obtain ⟨rfl, n, intent, -, entered, -⟩ := permits
      obtain ⟨stored, record, isStored, isRecord, rfl⟩ := reached.entered entered
      obtain rfl := Option.mem_unique isStored found
      obtain ⟨-, -, -, -, -, -, steps⟩ := entered
      exact ⟨record, isRecord, steps⟩
    | _ => trivial
  · obtain ⟨command, same, isCommand⟩ := first
    cases same
    cases call <;> trivial

theorem Permitted.plain (chained : Chained codec database history)
    (permitted : system.Permitted codec history) (keeps : system.KeepsTo codec history)
    (found : database.operation operationID = some operation) : Plain database operation := by
  induction history generalizing database operation with
  | nil =>
    obtain rfl := chained
    cases found
  | cons event earlier hypothesis =>
    have reached : Chained codec event.before earlier := chained.2.2
    have persists := Chained.persists_before chained List.mem_cons_self
    rw [← chained.1] at found
    rcases chained.2.1.commits with same | ⟨context, transaction, isCall, commits⟩
    · rw [same] at found
      exact (hypothesis reached permitted.2 keeps.2 found).persists persists
    · rcases (commits_refines reached.coherent commits).2.operation_cases operationID with
        same | ⟨stored, next, present, names, now, move⟩ | ⟨_, _, _, _, _, _, _, -, -, -, now⟩
      · have earlier := same.symm.trans found
        exact (hypothesis reached permitted.2 keeps.2 earlier).persists persists
      · obtain rfl : next = operation := Option.mem_unique now found
        subst names
        have plain := hypothesis reached permitted.2 keeps.2 present
        have conducted := permitted.conducted chained keeps isCall present move
        exact (plain.move move conducted reached.coherent present).persists persists
      · obtain rfl := Option.mem_unique now found
        exact ⟨rfl, fun _ => rfl, fun _ absent => absurd absent nofun,
          fun _ absent => absurd absent List.not_mem_nil⟩

theorem Permitted.bystands (chained : Chained codec database (event :: earlier))
    (permitted : system.Permitted codec (event :: earlier))
    (keeps : system.KeepsTo codec (event :: earlier))
    (apart : ∀ pid foundation, event.actor = some pid →
      system.owner pid ≠ some (foundation, operationID)) :
    Bystands operationID event.before event.after := by
  have reached : Chained codec event.before earlier := chained.2.2
  rcases chained.2.1.commits with same | ⟨context, ⟨ids, call⟩, isCall, commits⟩
  · rw [same]
    exact .refl _
  have first := permitted.1
  have kept := keeps.1
  rw [isCall] at first kept
  split at first
  · rename_i pid own
    obtain ⟨foundation, id, owned, permits⟩ := first
    have confined := kept pid foundation id own owned
    have other : id ≠ operationID := by
      rintro rfl
      exact apart pid foundation own owned
    rcases (commits_refines reached.coherent commits).2.operation_cases operationID with
      same | ⟨stored, next, present, names, now, move⟩ |
      ⟨_, _, _, _, _, _, _, rfl, -⟩
    · exact .of_kept same (commits_refines reached.coherent commits).2.backupsPersist
        (commits_refines reached.coherent commits).2.persists
    · cases move with
      | aborted => exact permits.elim
      | prepared | gaveUp => exact absurd (confined.symm.trans names) other
      | transitioned | observed => exact absurd (confined.1.symm.trans names) other
      | dispatched => exact absurd (permits.1.symm.trans names) other
      | completed backup owner =>
        obtain ⟨reserved, _, answered, rfl, rfl, -⟩ := permits
        obtain ⟨later, laterFound, keeps⟩ := reached.read_reserved answered
        obtain rfl := Option.mem_unique laterFound backup
        rw [keeps] at owner
        exact absurd (owner.trans names) other
    · exact permits.elim
  · obtain ⟨command, same, isCommand⟩ := first
    cases same
    exact commits_bystands reached.coherent commits (StoreCall.bystands_of_isCommand isCommand)

end System

end GuardedAgentRunner
