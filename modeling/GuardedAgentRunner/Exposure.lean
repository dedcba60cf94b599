/-
This file follows one run on an operation that no other run touches, while
operators and agents go on calling the store. An operation is exposed when an
attempt may have been dispatched and its status does not say so. A turn of the run
is a call with the database it finds, the clock and the delivery it gets; which
turns are faults, and what the turns must meet for a run to get to an attempt that
an earlier run left exposed, is said of these alone. The protocol keeps the
database and the turns of the run also for the parts that stop with an error.
-/

import GuardedAgentRunner.Justification

namespace GuardedAgentRunner

open Store Ledger Protocol

variable {codec : Codec} {before after : Database} {operationID stepID : String}

/-! ### Exposed operations -/

/-- An attempt may have been dispatched and the status does not say so. -/
def Operation.Exposed (operation : Operation) : Prop :=
  ¬ operation.status.Unresolved ∧
    ∃ attempt ∈ operation.attempts, attempt.dispatchState = .dispatchPossible
deriving Decidable

/-- The operation is stored and exposed. -/
def Database.Exposed (database : Database) (operationID : String) : Prop :=
  ∃ operation, database.operation operationID = some operation ∧ operation.Exposed

instance (database : Database) (operationID : String) :
    Decidable (database.Exposed operationID) :=
  inferInstanceAs (Decidable (∃ operation ∈ database.operation operationID, operation.Exposed))

/-- The uncertainty about the operation is durable: no attempt may have been dispatched, or the
operation is unknown or needs intervention. -/
def Database.UncertaintyDurable (database : Database) (operationID : String) : Prop :=
  ∀ operation, database.operation operationID = some operation →
    (∀ attempt ∈ operation.attempts, attempt.dispatchState ≠ .dispatchPossible) ∨
      operation.status = .unknown ∨ operation.status = .needsIntervention

theorem not_exposed_iff {database : Database} :
    ¬ database.Exposed operationID ↔ database.UncertaintyDurable operationID := by
  constructor
  · intro unexposed operation found
    by_cases unresolved : operation.status.Unresolved
    · exact Or.inr unresolved
    · refine Or.inl fun attempt member possible => unexposed ⟨operation, found, unresolved, ?_⟩
      exact ⟨attempt, member, possible⟩
  · rintro durable ⟨operation, found, resolved, attempt, member, possible⟩
    rcases durable operation found with none | unresolved
    · exact none attempt member possible
    · exact resolved unresolved

instance (database : Database) (operationID : String) :
    Decidable (database.UncertaintyDurable operationID) :=
  decidable_of_iff _ not_exposed_iff

variable {operation : Operation} {attempt : StepAttempt} {call : StoreCall} {index : Nat}
  {effect : Effect} {answer : effect.Answer} {transaction : Transaction}
  {replacement : StepAttempt} {context : Context} {next : Operation}

theorem not_possible_of_unexposed (unexposed : ¬ operation.Exposed)
    (resolved : ¬ operation.status.Unresolved) (member : attempt ∈ operation.attempts) :
    attempt.dispatchState ≠ .dispatchPossible :=
  fun possible => unexposed ⟨resolved, attempt, member, possible⟩

/-- Only a mark exposes an operation. -/
theorem Ledger.OperationMove.unexposed {before : Ledger}
    (move : OperationMove codec before call operation next) (unexposed : ¬ operation.Exposed)
    (unmarked : ∀ id stepID now, call ≠ .markDispatchPossible id stepID now) : ¬ next.Exposed := by
  rintro ⟨resolved, attempt, member, possible⟩
  cases move with
  | aborted unstarted =>
    rw [show (abort operation _).attempts = operation.attempts from rfl, unstarted.2] at member
    cases member
  | prepared _ preparable =>
    rcases List.mem_append.mp member with old | new
    · exact not_possible_of_unexposed unexposed preparable.resolved old possible
    · obtain rfl := List.mem_singleton.mp new
      cases possible
  | dispatched => exact unmarked _ _ _ rfl
  | @observed _ _ index current effect attribution evidence now located dispatched =>
    have resolvedBefore : ¬ operation.status.Unresolved :=
      fun unresolved => resolved (settleStatus_unresolved unresolved)
    have acknowledged : current.dispatchState = .acknowledged :=
      dispatched.resolve_left
        (not_possible_of_unexposed unexposed resolvedBefore (List.mem_of_getElem? located.2))
    rw [settleStatus_attempts] at member
    rcases List.mem_or_eq_of_mem_set member with old | rfl
    · exact not_possible_of_unexposed unexposed resolvedBefore old possible
    · dsimp only [touchAttempt, observedAttempt] at possible
      split at possible
      · cases possible
      · exact absurd (possible.symm.trans acknowledged) nofun
  | gaveUp => exact resolved (Or.inl rfl)
  | transitioned allowed =>
    refine not_possible_of_unexposed unexposed (fun unresolved => ?_) member possible
    rw [canTransitionOperation_of_unresolved unresolved] at allowed
    cases allowed
  | completed _ _ _ completable =>
    refine not_possible_of_unexposed unexposed (fun unresolved => ?_)
      (List.mem_of_getElem? completable.writer.sixth) completable.writer.dispatched
    rw [completable.writer.executing] at unresolved
    exact absurd unresolved (by decide)

theorem commits_unexposed (coherent : before.Coherent)
    (commits : Commits codec before transaction after)
    (unmarked : ∀ id stepID now, transaction.call ≠ .markDispatchPossible id stepID now)
    (unexposed : ¬ before.Exposed operationID) : ¬ after.Exposed operationID := by
  rintro ⟨operation, found, exposed⟩
  rcases (commits_refines coherent commits).2.operation_cases operationID with
    same | ⟨stored, next, present, -, now, move⟩ | ⟨_, _, _, _, _, _, _, -, -, -, now⟩
  · exact unexposed ⟨operation, same.symm.trans found, exposed⟩
  · obtain rfl : next = operation := Option.mem_unique now found
    exact move.unexposed (fun was => unexposed ⟨stored, present, was⟩) unmarked exposed
  · obtain rfl := Option.mem_unique now found
    obtain ⟨-, attempt, member, -⟩ := exposed
    cases member

theorem Ordered.none_possible {attempts : List StepAttempt} (ordered : Ordered attempts)
    (last : attempts.length = index + 1) (settled : replacement.dispatchState ≠ .dispatchPossible)
    (member : attempt ∈ attempts.set index replacement) :
    attempt.dispatchState ≠ .dispatchPossible := by
  obtain ⟨position, present⟩ := List.getElem?_of_mem member
  rcases Positions.set_eq_some.mp present with ⟨-, -, rfl⟩ | ⟨here, present⟩
  · exact settled
  · have inside := (List.getElem?_eq_some_iff.mp present).1
    have complete := ordered position attempt present (by omega)
    rw [complete.1]
    nofun

/-! ### Bystanders -/

/-- The calls that leave every started operation as it is. -/
def StoreCall.bystands : StoreCall → Bool
  | .prepareStep .. | .markDispatchPossible .. | .recordStepObservation .. | .markUnknown ..
  | .transitionOperation .. | .completeBackup .. => false
  | _ => true

def Effect.bystands : Effect → Bool
  | .store _ call => call.bystands
  | _ => true

theorem StoreCall.bystands_of_isCommand (command : call.isCommand = true) :
    call.bystands = true := by
  cases call <;> first | rfl | cases command

theorem Effect.bystands_of_still (still : effect.still = true) : effect.bystands = true := by
  cases effect with
  | store context call => cases call <;> first | rfl | cases still
  | _ => rfl

/-- What happened in between is of no concern to the operation. -/
structure Bystands (operationID : String) (before after : Database) : Prop where
  unexposed : ¬ before.Exposed operationID → ¬ after.Exposed operationID
  orderly : (∀ operation, before.operation operationID = some operation → operation.Orderly) →
    ∀ operation, after.operation operationID = some operation → operation.Orderly
  started : ∀ operation, before.operation operationID = some operation →
    operation.attempts ≠ [] → after.operation operationID = some operation
  backups : BackupsPersist before.ledger after.ledger
  persists : Persists before.ledger after.ledger

theorem Bystands.refl (database : Database) : Bystands operationID database database :=
  ⟨id, id, fun _ found _ => found, .refl _, .refl _⟩

theorem Bystands.trans {middle : Database} (early : Bystands operationID before middle)
    (late : Bystands operationID middle after) : Bystands operationID before after where
  unexposed := late.unexposed ∘ early.unexposed
  orderly := late.orderly ∘ early.orderly
  started operation found nonempty :=
    late.started operation (early.started operation found nonempty) nonempty
  backups := early.backups.trans late.backups
  persists := early.persists.trans late.persists

theorem Bystands.exposed_iff (bystands : Bystands operationID before after) :
    after.Exposed operationID ↔ before.Exposed operationID := by
  refine ⟨not_imp_not.mp bystands.unexposed, ?_⟩
  rintro ⟨operation, found, exposed⟩
  obtain ⟨-, attempt, member, -⟩ := id exposed
  exact ⟨operation, bystands.started operation found (List.ne_nil_of_mem member), exposed⟩

theorem commits_bystands (coherent : before.Coherent)
    (commits : Commits codec before transaction after)
    (bystands : transaction.call.bystands = true) : Bystands operationID before after where
  unexposed := by
    refine commits_unexposed coherent commits fun _ _ _ isMark => ?_
    rw [isMark] at bystands
    cases bystands
  orderly before operation found := by
    refine commits_orderly coherent commits before (fun _ _ _ _ => ?_) found
    generalize transaction.call = call at bystands
    cases call <;> trivial
  started operation found nonempty := by
    rcases (commits_refines coherent commits).2.operation_cases operationID with
      same | ⟨stored, next, present, -, -, move⟩ | ⟨_, _, _, _, _, _, _, -, rfl, approves, -⟩
    · exact same.trans found
    · obtain rfl := Option.mem_unique present found
      generalize transaction.call = call at move bystands
      cases move with
      | aborted unstarted => exact absurd unstarted.2 nonempty
      | prepared | dispatched | observed | gaveUp | transitioned | completed => cases bystands
    · exact absurd (approves.fresh.symm.trans found) nofun
  backups := (commits_refines coherent commits).2.backupsPersist
  persists := (commits_refines coherent commits).2.persists

theorem Reacts.bystands (coherent : before.Coherent)
    (reacts : Reacts codec before effect answer after) (quiet : effect.bystands = true) :
    Bystands operationID before after := by
  rcases reacts.commits with same | ⟨context, transaction, isCall, commits⟩
  · rw [same]
    exact .refl _
  · rw [isCall] at quiet
    exact commits_bystands coherent commits quiet

/-! ### Turns -/

/-- A call of a run: the database it finds, the clock, whether it gets to the store and is accepted
there, and whether the response arrives. -/
structure RunTurn where
  call : Effect
  database : Database
  clock : Time
  accepted : Bool
  arrives : Bool

/-- The call gets to the store and is accepted there. -/
def Delivery.accepts (codec : Codec) (database : Database) : Delivery → Effect → Bool
  | .delivered ids, .store _ call | .lost ids _, .store _ call => (exec codec ids database call).isOk
  | _, _ => false

def Delivery.arrives : Delivery → Bool
  | .delivered _ => true
  | _ => false

def RunTurn.of (codec : Codec) (call : Effect) (database : Database) (world : World)
    (delivery : Delivery) : RunTurn :=
  ⟨call, database, world .now, delivery.accepts codec database call, delivery.arrives⟩

/-- The step may have been dispatched and the status does not say so. -/
def Database.Pending (database : Database) (operationID stepID : String) : Prop :=
  ∃ operation ∈ database.operation operationID, ¬ operation.status.Unresolved ∧
    ∃ attempt ∈ operation.attempts, attempt.stepID = stepID ∧
      attempt.dispatchState = .dispatchPossible
deriving Decidable

/-- A record with this effect and attribution settles the step. -/
def Settles (effect : EffectState) (attribution : Attribution) : Prop :=
  effect = .unknown ∨ effect = .otherObserved ∨ attribution = .correlated
deriving Decidable

namespace RunTurn

/-- The store accepts the call and its response arrives. -/
def answered (turn : RunTurn) : Bool := turn.accepted && turn.arrives

/-- A mark is accepted and its response is lost; or a record of a pending step is not accepted, or
its response is lost and it does not settle the step; or a `MarkUnknown` is not accepted. -/
def faults (turn : RunTurn) : Bool :=
  match turn.call with
  | .store _ (.markDispatchPossible ..) => turn.accepted && !turn.arrives
  | .store _ (.recordStepObservation id stepID effect attribution _ _) =>
    decide (turn.database.Pending id stepID) &&
      !(turn.accepted && (turn.arrives || decide (Settles effect attribution)))
  | .store _ (.markUnknown ..) => !turn.accepted
  | _ => false

end RunTurn

/-- Some turn is a fault. -/
def Faulted (turns : List RunTurn) : Prop :=
  ∃ turn ∈ turns, turn.faults = true

variable {turns : List RunTurn} {turn : RunTurn}

theorem not_faulted_nil : ¬ Faulted [] := by
  rintro ⟨_, member, _⟩
  cases member

theorem faulted_concat :
    Faulted (turns ++ [turn]) ↔ Faulted turns ∨ turn.faults = true := by
  simp only [Faulted, List.mem_append, List.mem_singleton, or_and_right, exists_or,
    exists_eq_left]

theorem not_faulted_concat (unfaulted : ¬ Faulted turns)
    (faultless : turn.faults = false) : ¬ Faulted (turns ++ [turn]) := by
  rw [faulted_concat, faultless]
  exact not_or.mpr ⟨unfaulted, Bool.false_ne_true⟩

/-- The turns meet the demands, each its own; nothing is asked of a call that is not made. -/
def Meets : List (RunTurn → Bool) → List RunTurn → Bool
  | demand :: demands, turn :: turns => demand turn && Meets demands turns
  | _, _ => true

namespace Foundation

/-- The intent is read and passes the checks at the entry. -/
def entryDemand (codec : Codec) (foundation : Foundation) (operation : Operation)
    (turn : RunTurn) : Bool :=
  turn.answered && (turn.database.intent operation.intentID).any fun record =>
    (foundation.checkEntry codec operation record).isOk

/-- Of four readings of the clock the second is not before the start of the operation and the third
is within the execution budget from there. -/
def clockDemands (started : Time) (intent : ChangeIntent) : List (RunTurn → Bool) :=
  [fun _ => true, fun turn => ¬ started.After turn.clock,
    fun turn => turn.clock.Before (started.add (intent.executionBudgetSeconds * Duration.second)),
    fun _ => true]

/-- A queued operation is in time for its start, and starts preparing. -/
def startDemands (operation : Operation) (intent : ChangeIntent) : List (RunTurn → Bool) :=
  if operation.status = .queued then
    [fun turn => turn.clock.Before intent.startBefore, fun _ => true, RunTurn.answered]
  else []

/-- What a run must meet to get to the last attempt of an operation: it reads the operation and the
intent, passes the clock and the start, and reads the operation once for each attempt. -/
def recoveryDemands (codec : Codec) (foundation : Foundation) (operation : Operation)
    (intent : ChangeIntent) : List (RunTurn → Bool) :=
  RunTurn.answered :: foundation.entryDemand codec operation ::
    (clockDemands ((operation.attempts.head?.map (·.preparedAt)).getD 0) intent ++
      (startDemands operation intent ++ operation.attempts.map fun _ => RunTurn.answered))

/-- The foundation is configured and the turns of its run meet these demands. -/
def recovers (codec : Codec) (foundation : Foundation) (operation : Operation)
    (intent : ChangeIntent) (turns : List RunTurn) : Bool :=
  foundation.configured && Meets (foundation.recoveryDemands codec operation intent) turns

end Foundation

/-! ### One run on an operation -/

/-- The database and the turns of the run. -/
structure Progress where
  database : Database
  turns : List RunTurn

/-- The run makes a call, after whatever is of no concern to the operation. -/
def Advances (codec : Codec) (operationID : String) (state : Progress) (effect : Effect)
    (answer : effect.Answer) (later : Progress) : Prop :=
  ∃ middle world delivery, Bystands operationID state.database middle ∧ middle.Coherent ∧
    react codec world delivery middle effect = (answer, later.database) ∧
    later.turns = state.turns ++ [.of codec effect middle world delivery]

/-- The protocol of a run on an operation that no other run touches. -/
def solo (codec : Codec) (operationID : String) : Protocol Effect Effect.Answer Progress where
  allowed _ _ := True
  moves := Advances codec operationID

/-- What happened is of no concern to the operation, and no fault. -/
structure Unchanged (operationID : String) (state later : Progress) : Prop where
  database : Bystands operationID state.database later.database
  turns : state.turns <+: later.turns
  faulted_iff : Faulted later.turns ↔ Faulted state.turns

theorem Unchanged.refl (state : Progress) : Unchanged operationID state state :=
  ⟨.refl _, List.prefix_rfl, Iff.rfl⟩

theorem Unchanged.trans {first second third : Progress}
    (early : Unchanged operationID first second)
    (late : Unchanged operationID second third) :
    Unchanged operationID first third :=
  ⟨early.database.trans late.database, early.turns.trans late.turns,
    late.faulted_iff.trans early.faulted_iff⟩

/-- The transaction of a turn commits, or leaves the database as it found it. -/
def RunTurn.Leaves (codec : Codec) (turn : RunTurn) (call : StoreCall) (after : Database) : Prop :=
  turn.accepted = true ∧ (∃ ids, Commits codec turn.database ⟨ids, call⟩ after) ∨
    turn.accepted = false ∧ after = turn.database

theorem deliver_leaves (database : Database) (world : World) (delivery : Delivery) :
    (deliver codec database call delivery).1.isOk =
        (RunTurn.of codec (.store context call) database world delivery).answered ∧
      (RunTurn.of codec (.store context call) database world delivery).Leaves codec call
        (deliver codec database call delivery).2 := by
  cases delivery with
  | interrupted failure => exact ⟨rfl, Or.inr ⟨rfl, rfl⟩⟩
  | delivered ids =>
    simp only [deliver, carryOut, RunTurn.answered, RunTurn.Leaves, RunTurn.of, Delivery.accepts,
      Delivery.arrives]
    cases run : exec codec ids database call with
    | ok result => exact ⟨rfl, Or.inl ⟨rfl, ids, result.1, run⟩⟩
    | error failure => exact ⟨rfl, Or.inr ⟨rfl, rfl⟩⟩
  | lost ids failure =>
    simp only [deliver, perform, RunTurn.answered, RunTurn.Leaves, RunTurn.of, Delivery.accepts,
      Delivery.arrives]
    cases run : exec codec ids database call with
    | ok result => exact ⟨rfl, Or.inl ⟨rfl, ids, result.1, run⟩⟩
    | error failure => exact ⟨rfl, Or.inr ⟨rfl, rfl⟩⟩

namespace Advances

variable {state later : Progress}

section

variable (advances : Advances codec operationID state effect answer later)

include advances

theorem reacts : ∃ middle, Bystands operationID state.database middle ∧ middle.Coherent ∧
    Reacts codec middle effect answer later.database := by
  obtain ⟨middle, world, delivery, bystands, coherent, reaction, -⟩ := advances
  have reacts : Reacts codec middle effect _ _ := react_reacts world delivery effect
  rw [reaction] at reacts
  exact ⟨middle, bystands, coherent, reacts⟩

theorem unchanged (quiet : effect.bystands = true) : Unchanged operationID state later := by
  obtain ⟨_, bystands, coherent, reacts⟩ := advances.reacts
  obtain ⟨middle, world, delivery, -, -, -, turned⟩ := advances
  have faultless : (RunTurn.of codec effect middle world delivery).faults = false := by
    cases effect with
    | store context call => cases call <;> first | rfl | cases quiet
    | _ => rfl
  refine ⟨bystands.trans (reacts.bystands coherent quiet), turned ▸ List.prefix_append .., ?_⟩
  rw [turned, faulted_concat, faultless]
  exact or_iff_left Bool.false_ne_true

end

/-- A call of the store is answered or not, and commits or leaves the database as it found it. -/
theorem turned {answer : Except Failure call.Result}
    (advances : Advances codec operationID state (.store context call) answer later) :
    ∃ turn, later.turns = state.turns ++ [turn] ∧ turn.call = .store context call ∧
      Bystands operationID state.database turn.database ∧ turn.database.Coherent ∧
      answer.isOk = turn.answered ∧ turn.Leaves codec call later.database := by
  obtain ⟨middle, world, delivery, bystands, coherent, reaction, turned⟩ := advances
  obtain ⟨rfl, same⟩ := Prod.mk.inj reaction
  obtain ⟨answers, leaves⟩ := deliver_leaves middle world delivery
  refine ⟨_, turned, rfl, bystands, coherent, answers, ?_⟩
  rw [← same]
  exact leaves

theorem answered {result : call.Result}
    (advances : Advances codec operationID state (.store context call) (.ok result) later) :
    ∃ turn, later.turns = state.turns ++ [turn] ∧ turn.answered = true ∧
      Bystands operationID state.database turn.database ∧
      ∃ ids, exec codec ids turn.database call = .ok (result, later.database) := by
  obtain ⟨middle, world, delivery, bystands, -, reaction, turned⟩ := id advances
  obtain ⟨_, same, -, -, -, answers, -⟩ := advances.turned
  obtain rfl := List.singleton_injective (List.append_cancel_left (same.symm.trans turned))
  have reacts : Reacts codec middle (.store context call) _ _ :=
    deliver_reacts delivery context call
  rw [show deliver codec middle call delivery = _ from reaction] at reacts
  exact ⟨_, turned, answers.symm, bystands, reacts.exec_of_ok⟩

theorem commits {result : call.Result}
    (advances : Advances codec operationID state (.store context call) (.ok result) later) :
    ∃ middle, Bystands operationID state.database middle ∧ middle.Coherent ∧
      Step codec middle.ledger call later.database.ledger := by
  obtain ⟨middle, bystands, coherent, reacts⟩ := advances.reacts
  obtain ⟨ids, run⟩ := reacts.exec_of_ok
  have commits : Commits codec middle ⟨ids, call⟩ later.database := ⟨result, run⟩
  exact ⟨middle, bystands, coherent, (commits_refines coherent commits).2⟩

end Advances

/-! ### Where a run stands -/

/-- The operation is exposed exactly if there was a fault. -/
def Closed (operationID : String) (state : Progress) : Prop :=
  state.database.Exposed operationID ↔ Faulted state.turns

/-- The operation is orderly and not exposed, and there was no fault. -/
structure Clear (operationID : String) (state : Progress) : Prop where
  unfaulted : ¬ Faulted state.turns
  unexposed : ¬ state.database.Exposed operationID
  orderly : ∀ operation, state.database.operation operationID = some operation → operation.Orderly

/-- The operation is exposed by its last attempt and by no other. -/
structure ExposedLast (operation : Operation) (index : Nat) (attempt : StepAttempt) : Prop where
  resolved : ¬ operation.status.Unresolved
  ordered : Ordered operation.attempts
  last : operation.attempts.length = index + 1
  present : operation.attempts[index]? = some attempt
  possible : attempt.dispatchState = .dispatchPossible

/-- The operation is exposed by the step, of which nothing was recorded; there was no fault. -/
structure Held (operationID stepID : String) (state : Progress) : Prop where
  unfaulted : ¬ Faulted state.turns
  held : ∃ operation index attempt, state.database.operation operationID = some operation ∧
    ExposedLast operation index attempt ∧ attempt.stepID = stepID ∧ attempt.effectState = .unknown

/-- If the operation is exposed it is by the step; there was no fault. -/
structure Tells (operationID stepID : String) (state : Progress) : Prop where
  unfaulted : ¬ Faulted state.turns
  pending : state.database.Exposed operationID → state.database.Pending operationID stepID

/-- The operation is exposed by the attempt with the given number; there was no fault, and what
the turns so far leave of the condition are the given demands. -/
structure Facing (operationID : String) (index : Nat)
    (condition : List RunTurn → Bool) (rest : List (RunTurn → Bool)) (state : Progress) : Prop where
  unfaulted : ¬ Faulted state.turns
  interrupted : ∃ operation attempt, state.database.operation operationID = some operation ∧
    ExposedLast operation index attempt
  left : ∀ more, condition (state.turns ++ more) = Meets rest more

theorem ExposedLast.exposed (exposed : ExposedLast operation index attempt) : operation.Exposed :=
  ⟨exposed.resolved, attempt, List.mem_of_getElem? exposed.present, exposed.possible⟩

theorem ExposedLast.nonempty (exposed : ExposedLast operation index attempt) :
    operation.attempts ≠ [] :=
  List.ne_nil_of_mem (List.mem_of_getElem? exposed.present)

theorem Operation.Exposed.last (exposed : operation.Exposed) (orderly : operation.Orderly) :
    ∃ index attempt, ExposedLast operation index attempt := by
  obtain ⟨resolved, attempt, member, possible⟩ := exposed
  have ordered := orderly.resolve_left resolved
  obtain ⟨index, present⟩ := List.getElem?_of_mem member
  refine ⟨index, attempt, resolved, ordered, ordered.last present fun complete => ?_, present,
    possible⟩
  exact absurd (possible.symm.trans complete.1) nofun

theorem ExposedLast.settled (exposed : ExposedLast operation index attempt)
    (settled : replacement.dispatchState ≠ .dispatchPossible)
    (replaced : next.attempts = operation.attempts.set index replacement) :
    ¬ next.Exposed ∧ next.Orderly := by
  refine ⟨?_, Or.inr ?_⟩
  · rintro ⟨-, other, member, possible⟩
    rw [replaced] at member
    exact exposed.ordered.none_possible exposed.last settled member possible
  · rw [replaced]
    exact exposed.ordered.set (Or.inl exposed.last)

theorem Database.Pending.exposed {database : Database}
    (pending : database.Pending operationID stepID) : database.Exposed operationID := by
  obtain ⟨operation, found, resolved, attempt, member, -, possible⟩ := pending
  exact ⟨operation, found, resolved, attempt, member, possible⟩

theorem Bystands.pending (bystands : Bystands operationID before after)
    (pending : before.Pending operationID stepID) : after.Pending operationID stepID := by
  obtain ⟨operation, found, resolved, attempt, member, possible⟩ := pending
  exact ⟨operation, bystands.started operation found (List.ne_nil_of_mem member), resolved,
    attempt, member, possible⟩

section

variable {state later : Progress}

theorem Clear.closed (clear : Clear operationID state) : Closed operationID state :=
  iff_of_false clear.unexposed clear.unfaulted

theorem Clear.tells (clear : Clear operationID state) : Tells operationID stepID state :=
  ⟨clear.unfaulted, fun exposed => absurd exposed clear.unexposed⟩

theorem Held.pending (held : Held operationID stepID state) :
    state.database.Pending operationID stepID := by
  obtain ⟨operation, index, attempt, found, exposed, names, -⟩ := held.held
  exact ⟨operation, found, exposed.resolved, attempt, List.mem_of_getElem? exposed.present, names,
    exposed.possible⟩

theorem Held.tells (held : Held operationID stepID state) :
    Tells operationID stepID state :=
  ⟨held.unfaulted, fun _ => held.pending⟩

namespace Unchanged

variable (unchanged : Unchanged operationID state later)

include unchanged

theorem unfaulted (unfaulted : ¬ Faulted state.turns) : ¬ Faulted later.turns :=
  mt unchanged.faulted_iff.mp unfaulted

theorem closed (closed : Closed operationID state) : Closed operationID later :=
  unchanged.database.exposed_iff.trans (closed.trans unchanged.faulted_iff.symm)

theorem clear (clear : Clear operationID state) : Clear operationID later where
  unfaulted := unchanged.unfaulted clear.unfaulted
  unexposed := unchanged.database.unexposed clear.unexposed
  orderly := unchanged.database.orderly clear.orderly

theorem held (held : Held operationID stepID state) :
    Held operationID stepID later where
  unfaulted := unchanged.unfaulted held.unfaulted
  held := by
    obtain ⟨operation, index, attempt, found, exposed, rest⟩ := held.held
    exact ⟨operation, index, attempt, unchanged.database.started operation found exposed.nonempty,
      exposed, rest⟩

theorem tells (tells : Tells operationID stepID state) :
    Tells operationID stepID later where
  unfaulted := unchanged.unfaulted tells.unfaulted
  pending exposed :=
    unchanged.database.pending (tells.pending (unchanged.database.exposed_iff.mp exposed))

end Unchanged

end

end GuardedAgentRunner
