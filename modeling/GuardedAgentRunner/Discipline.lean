/-
This file states the discipline of one call of `Foundation.Run` in terms of its
own trace of answered calls: what it must have learnt before it marks a step
possibly dispatched, that every target call uses up the mark of its own step, that
an observed effect is recorded only for the step in hand, and that a backup is
completed only for a reservation made in hand. The program logic shows that every
call of `Run` keeps the discipline, whatever the world answers.
-/

import Mathlib.Data.List.Infix
import GuardedAgentRunner.Foundation

namespace GuardedAgentRunner

open Fallible Protocol Program

/-- The answered calls of one run, the latest first. -/
abbrev Trace := List Occurrence

/-! ### What a trace shows -/

/-- The store answered the call with a result. -/
def Answered (trace : Trace) (call : StoreCall) (result : call.Result) : Prop :=
  ∃ context, (⟨.store context call, .ok result⟩ : Occurrence) ∈ trace

/-- The step the run may make a target call for: marked, and not called for since. -/
def armed : Trace → Option String
  | [] => none
  | ⟨.store _ (.markDispatchPossible _ stepID _), .ok _⟩ :: _ => some stepID
  | ⟨.closeAdmission .., _⟩ :: _ => none
  | ⟨.dispatchGracefulStop _, _⟩ :: _ => none
  | ⟨.createBackup _, _⟩ :: _ => none
  | _ :: earlier => armed earlier

/-- The step the run has in hand: marked, with no recording tried since. -/
def holding : Trace → Option String
  | [] => none
  | ⟨.store _ (.markDispatchPossible _ stepID _), .ok _⟩ :: _ => some stepID
  | ⟨.store _ (.recordStepObservation ..), _⟩ :: _ => none
  | ⟨.store _ (.completeBackup ..), _⟩ :: _ => none
  | _ :: earlier => holding earlier

section Knowledge

variable (codec : Codec) (enrollment : Enrollment) (operationID : String) (trace : Trace)

/-- The run has read the sealed intent of its operation, and its steps are those of the fixed
workflow. -/
def Entered (intent : ChangeIntent) : Prop :=
  ∃ operation record, Answered trace (.getOperation operationID) operation ∧
    Answered trace (.getIntent operation.intentID) record ∧ record.intent = intent ∧
    intent.Sealed codec ∧ intent.steps.items = fixedWorkflowSteps

/-- The run has read or prepared the step as the attempt with the given number. -/
def Selected (n : Nat) (stepID : String) : Prop :=
  (∃ operation attempt, Answered trace (.getOperation operationID) operation ∧
    operation.attempts[n]? = some attempt ∧ attempt.stepID = stepID) ∨
  ∃ now attempt, Answered trace (.prepareStep operationID (Foundation.stepKind n) now) attempt ∧
    attempt.stepID = stepID

/-- The run has validated an observation of the target against the intent. -/
def Observed (intent : ChangeIntent) (offline : Bool) (observation : SafetyObservation) : Prop :=
  ∃ time, (⟨.observeSafety offline, .ok observation⟩ : Occurrence) ∈ trace ∧
    (⟨.now, time⟩ : Occurrence) ∈ trace ∧
    observation.validate codec enrollment intent time = .ok ()

/-- The run has validated evidence that its operation is offline. -/
def Offline (intent : ChangeIntent) (ready : BackupReadyEvidence) : Prop :=
  Observed codec enrollment trace intent true ready.offline ∧
    ∃ operation time, Answered trace (.getOperation operationID) operation ∧
      (⟨.now, time⟩ : Occurrence) ∈ trace ∧
      ready.validate codec enrollment intent operation time = .ok ()

/-- What the run has validated before it marks the step with the given number. -/
structure Justifies (intent : ChangeIntent) (n : Nat) : Prop where
  target : 1 ≤ n → n ≤ 3 → ∃ observation, Observed codec enrollment trace intent false observation ∧
    observation.processStopped = false ∧ (2 ≤ n → observation.players = 0) ∧
    (n = 3 → observation.admissionClosed = true ∧ observation.maintenance = true)
  offline : 4 ≤ n → ∃ ready, Offline codec enrollment operationID trace intent ready

/-- The run may make the target call of the step with the given number. -/
structure Arms (n : Nat) (stepID : String) : Prop where
  armed : armed trace = some stepID
  inHand : holding trace = some stepID
  entered : ∃ intent, Entered codec operationID trace intent
  selected : Selected operationID trace n stepID

/-- The calls a run with the given trace may make. -/
def Permits : Effect → Prop
  | .store _ (.markDispatchPossible id stepID _) =>
    id = operationID ∧ ∃ n intent, n < 6 ∧ Entered codec operationID trace intent ∧
      Selected operationID trace n stepID ∧
      Justifies codec enrollment operationID trace intent n
  | .store _ (.recordStepObservation id stepID effect attribution _ _) =>
    effect = .unknown ∧ attribution = .unattributed ∨
      id = operationID ∧ holding trace = some stepID
  | .store _ (.completeBackup backupID _ _ _ _) =>
    ∃ record now, Answered trace (.reserveBackup record now) () ∧ record.backupID = backupID ∧
      record.operationID = operationID ∧ holding trace = some record.stepID
  | .store _ (.transitionOperation _ status _ _ _) => status = .preparing ∨ status = .executing
  | .store _ (.putIntent _) | .store _ (.approveIntent ..) | .store _ (.rejectIntent ..)
  | .store _ (.revokeIntent ..) => False
  | .closeAdmission id stepID => id = operationID ∧ Arms codec operationID trace 2 stepID
  | .dispatchGracefulStop request =>
    request.operationID = operationID ∧ Arms codec operationID trace 3 request.stepID
  | .createBackup record =>
    record.operationID = operationID ∧ Arms codec operationID trace 5 record.stepID
  | .observeStop request =>
    request.operationID = operationID ∧ holding trace = some request.stepID
  | _ => True

end Knowledge

/-- The calls of a run with the given trace that are about its own operation. -/
def Confined (codec : Codec) (operationID : String) (trace : Trace) : Effect → Prop
  | .store _ (.prepareStep id _ _) | .store _ (.markUnknown id _) => id = operationID
  | .store _ (.transitionOperation id status verification _ _) =>
    id = operationID ∧ (status = .preparing ∨ status = .executing) ∧ verification = .notStarted
  | .store _ (.recordStepObservation id stepID effect attribution _ _) =>
    id = operationID ∧ (effect = .expectedObserved → attribution = .correlated →
      ∃ n intent, n < 5 ∧ Entered codec operationID trace intent ∧
        Selected operationID trace n stepID)
  | _ => True

/-- What the run has read as its operation is its operation. -/
def ReadsOwn (operationID : String) (trace : Trace) : Prop :=
  ∀ operation, Answered trace (.getOperation operationID) operation →
    operation.operationID = operationID

/-- The protocol whose states are traces: a guard on the next call, which is then recorded. -/
def recording (guard : Trace → Effect → Prop) : Protocol Effect Effect.Answer Trace where
  allowed := guard
  moves trace effect answer later := later = ⟨effect, answer⟩ :: trace

/-- The discipline of one run. -/
def discipline (codec : Codec) (foundation : Foundation) (operationID : String) :
    Protocol Effect Effect.Answer Trace :=
  recording (Permits codec foundation.enrollment operationID)

/-- The conduct of one run: it keeps the discipline and to its own operation. -/
def conduct (codec : Codec) (foundation : Foundation) (operationID : String) :
    Protocol Effect Effect.Answer Trace :=
  recording fun trace effect => Permits codec foundation.enrollment operationID trace effect ∧
    (ReadsOwn operationID trace → Confined codec operationID trace effect)

/-! ### Longer traces -/

variable {codec : Codec} {foundation : Foundation} {enrollment : Enrollment}
  {operationID stepID : String} {intent : ChangeIntent} {trace later : Trace} {n : Nat}

variable {Result : Type} {call : StoreCall} {program : Flow Result}
  {post : Trace → Except Failure Result → Prop}

theorem Answered.mono {result : call.Result} (answered : Answered trace call result)
    (suffix : trace <:+ later) : Answered later call result := by
  obtain ⟨context, member⟩ := answered
  exact ⟨context, suffix.mem member⟩

theorem Entered.mono (entered : Entered codec operationID trace intent) (suffix : trace <:+ later) :
    Entered codec operationID later intent := by
  obtain ⟨operation, record, read, intentRead, rest⟩ := entered
  exact ⟨operation, record, read.mono suffix, intentRead.mono suffix, rest⟩

theorem Selected.mono (selected : Selected operationID trace n stepID) (suffix : trace <:+ later) :
    Selected operationID later n stepID := by
  rcases selected with ⟨operation, attempt, read, rest⟩ | ⟨now, attempt, prepared, named⟩
  · exact Or.inl ⟨operation, attempt, read.mono suffix, rest⟩
  · exact Or.inr ⟨now, attempt, prepared.mono suffix, named⟩

theorem Observed.mono {offline : Bool} {observation : SafetyObservation}
    (observed : Observed codec enrollment trace intent offline observation)
    (suffix : trace <:+ later) : Observed codec enrollment later intent offline observation := by
  obtain ⟨time, seen, read, valid⟩ := observed
  exact ⟨time, suffix.mem seen, suffix.mem read, valid⟩

theorem Offline.mono {ready : BackupReadyEvidence}
    (offline : Offline codec enrollment operationID trace intent ready)
    (suffix : trace <:+ later) : Offline codec enrollment operationID later intent ready := by
  obtain ⟨observed, operation, time, read, clock, valid⟩ := offline
  exact ⟨observed.mono suffix, operation, time, read.mono suffix, suffix.mem clock, valid⟩

theorem Justifies.mono (justifies : Justifies codec enrollment operationID trace intent n)
    (suffix : trace <:+ later) : Justifies codec enrollment operationID later intent n where
  target low high := by
    obtain ⟨observation, observed, rest⟩ := justifies.target low high
    exact ⟨observation, observed.mono suffix, rest⟩
  offline low := by
    obtain ⟨ready, offline⟩ := justifies.offline low
    exact ⟨ready, offline.mono suffix⟩

/-- The effects that leave the step in hand, the armed step and every operation as they are. -/
def Effect.still : Effect → Bool
  | .store _ (.getIntent _) | .store _ (.getOperation _) | .store _ (.getBackup _)
  | .store _ (.reserveBackup ..) | .store _ (.transitionBackupStatus ..) => true
  | .store .. | .closeAdmission .. | .dispatchGracefulStop _ | .createBackup _ => false
  | _ => true

/-- The trace has grown without a change of the step in hand or the armed step. -/
structure Still (trace later : Trace) : Prop where
  suffix : trace <:+ later
  armed : armed later = armed trace
  holding : holding later = holding trace

theorem Still.refl (trace : Trace) : Still trace trace := ⟨List.suffix_rfl, rfl, rfl⟩

theorem Still.trans {middle : Trace} (first : Still trace middle) (second : Still middle later) :
    Still trace later :=
  ⟨first.suffix.trans second.suffix, second.armed.trans first.armed,
    second.holding.trans first.holding⟩

theorem still_cons {occurrence : Occurrence} (still : occurrence.effect.still = true) :
    Still trace (occurrence :: trace) := by
  obtain ⟨effect, answer⟩ := occurrence
  refine ⟨List.suffix_cons .., ?_, ?_⟩
  · cases effect with
    | store context call => cases call <;> first | rfl | cases still
    | closeAdmission | dispatchGracefulStop | createBackup => cases still
    | _ => rfl
  · cases effect with
    | store context call => cases call <;> first | rfl | cases still
    | closeAdmission | dispatchGracefulStop | createBackup => cases still
    | _ => rfl

/-! ### Parts that change neither -/

/-- The discipline of the parts of a run that leave the step in hand and the armed step as they
are. -/
def calm (codec : Codec) (foundation : Foundation) (operationID : String) :
    Protocol Effect Effect.Answer Trace :=
  recording fun trace effect =>
    effect.still = true ∧ Permits codec foundation.enrollment operationID trace effect

theorem Holds.still (holds : (calm codec foundation operationID).Holds trace program post) :
    (calm codec foundation operationID).Holds trace program fun later outcome =>
      Still trace later ∧ post later outcome := by
  refine Safe.remember holds Still.refl Still.trans ?_
  rintro trace effect answer _ ⟨still, -⟩ rfl
  exact still_cons still

theorem confined_of_still {effect : Effect} (still : effect.still = true) :
    Confined codec operationID trace effect := by
  cases effect with
  | store context call => cases call <;> trivial
  | _ => trivial

theorem Holds.conducted (holds : (calm codec foundation operationID).Holds trace program post) :
    (conduct codec foundation operationID).Holds trace program fun later outcome =>
      Still trace later ∧ post later outcome :=
  Safe.relax (Holds.still holds) (fun _ _ allowed => ⟨allowed.2, fun _ => confined_of_still allowed.1⟩)
    fun _ _ _ _ _ => id

theorem Ensures.conducted {post : Trace → Result → Prop}
    (ensures : (calm codec foundation operationID).Ensures trace program post) :
    (conduct codec foundation operationID).Ensures trace program fun later result =>
      Still trace later ∧ post later result :=
  Protocol.Holds.weaken (Holds.conducted ensures) fun _ _ reached result same =>
    ⟨reached.1, reached.2 result same⟩

theorem Holds.steady (holds : (calm codec foundation operationID).Holds trace program post) :
    (conduct codec foundation operationID).Ensures trace program fun later _ =>
      Still trace later :=
  Protocol.Holds.weaken (Holds.conducted holds) fun _ _ reached _ _ => reached.1

variable {guard : Trace → Effect → Prop}

theorem ensures_store {context : Context} (allowed : guard trace (.store context call)) :
    (recording guard).Ensures trace (store context call) fun later result =>
      later = ⟨.store context call, .ok result⟩ :: trace :=
  ⟨allowed, fun _ _ recorded _ same => by rw [recorded, same]⟩

theorem ensures_now (allowed : guard trace .now) :
    (recording guard).Ensures trace now fun later time => later = ⟨.now, time⟩ :: trace := by
  refine ⟨allowed, fun time _ recorded result same => ?_⟩
  cases same
  exact recorded

theorem Holds.grows (holds : (recording guard).Holds trace program post) :
    (recording guard).Holds trace program fun later outcome =>
      trace <:+ later ∧ post later outcome :=
  Safe.remember holds (fun _ => List.suffix_rfl) List.IsSuffix.trans
    fun _ _ _ _ _ recorded => recorded ▸ List.suffix_cons ..

theorem Ensures.grows {post : Trace → Result → Prop}
    (ensures : (recording guard).Ensures trace program post) :
    (recording guard).Ensures trace program fun later result =>
      trace <:+ later ∧ post later result :=
  Protocol.Holds.weaken (Holds.grows ensures) fun _ _ reached result same =>
    ⟨reached.1, reached.2 result same⟩

/-- A part of a run that is calm from every trace. -/
def Calm (codec : Codec) (foundation : Foundation) (operationID : String) {Result : Type}
    (program : Flow Result) : Prop :=
  ∀ trace, (calm codec foundation operationID).Holds trace program fun _ _ => True

namespace Calm

variable {Result First Second : Type}

theorem conducted (holds : Calm codec foundation operationID program) :
    (conduct codec foundation operationID).Ensures trace program fun later _ =>
      Still trace later :=
  Holds.steady (holds trace)

theorem pure (result : Result) : Calm codec foundation operationID (Pure.pure result) :=
  fun _ => trivial

theorem throw (failure : Failure) :
    Calm codec foundation operationID (MonadExcept.throw failure : Flow Result) :=
  fun _ => trivial

theorem lift (value : Except Failure Result) :
    Calm codec foundation operationID (liftM value : Flow Result) :=
  fun _ => trivial

theorem bind {first : Flow First} {rest : First → Flow Second}
    (calm : Calm codec foundation operationID first)
    (continues : ∀ result, Calm codec foundation operationID (rest result)) :
    Calm codec foundation operationID (first >>= rest) :=
  fun trace => (calm trace).bind (fun later result _ => continues result later) fun _ _ _ => trivial

theorem reify (calm : Calm codec foundation operationID program) :
    Calm codec foundation operationID (Program.reify program) :=
  fun trace => holds_reify.mpr (calm trace)

theorem now : Calm codec foundation operationID now :=
  fun _ => ⟨⟨rfl, trivial⟩, fun _ _ _ => trivial⟩

theorem file (action : FileAction) : Calm codec foundation operationID (file action) :=
  fun _ => ⟨⟨rfl, trivial⟩, fun _ _ _ => trivial⟩

theorem checkpoint (boundary : Bool) (name : String) :
    Calm codec foundation operationID (checkpoint boundary name) := by
  intro trace
  cases boundary
  · exact trivial
  · exact ⟨⟨rfl, trivial⟩, fun _ _ _ => trivial⟩

end Calm

end GuardedAgentRunner
