/-
This file settles when a run makes uncertainty durable. A run that starts on an
operation that is not exposed can return with the operation exposed only through a
fault: every step is marked, and then either completed or given up by a record. A
run that starts on an exposed operation gives the interrupted attempt up if it gets
there, and otherwise leaves the operation exposed.
-/

import GuardedAgentRunner.Exposure

namespace GuardedAgentRunner

open Fallible Protocol Program Foundation Store Ledger

variable {codec : Codec} {foundation : Foundation} {operationID stepID : String}
  {intent : ChangeIntent} {state later : Progress} {stop : Progress → Prop} {n : Nat}

/-! ### Parts that leave the operation alone -/

variable {Result : Type} {program : Flow Result} {trace : Trace} {context : Context}
  {operation : Operation}
  {attempt : StepAttempt} {index : Nat} {backupID : String}
  {post : Trace → Except Failure Result → Prop} {evidence : List String}
  {check : Flow BackupReadyEvidence} {answer : Except Failure Unit} {ready : BackupReadyEvidence}
  {attribution : Attribution} {effect : EffectState} {call : StoreCall} {digest : String}
  {size : Int}

theorem Holds.unchanged (holds : (calm codec foundation operationID).Holds trace program post) :
    (solo codec operationID).Holds state program fun later outcome =>
      ∃ trace, Unchanged operationID state later ∧ post trace outcome := by
  refine Safe.simulate holds (Unchanged.refl state) ?_
  refine fun trace image effect unchanged allowed => ⟨trivial, fun answer later moved => ?_⟩
  exact ⟨_, rfl, unchanged.trans (moved.unchanged (Effect.bystands_of_still allowed.1))⟩

theorem calm_yields (holds : (calm codec foundation operationID).Holds trace program post)
    (stops : ∀ later, Unchanged operationID state later → stop later) :
    (solo codec operationID).Yields stop state program fun later _ =>
      Unchanged operationID state later := by
  refine (Holds.unchanged holds).weaken fun later outcome reached => ?_
  obtain ⟨-, unchanged, -⟩ := reached
  cases outcome with
  | ok => exact unchanged
  | error => exact stops later unchanged

theorem sure_yields (sure : Sure codec foundation operationID trace program) :
    (solo codec operationID).Yields stop state program fun later _ =>
      Unchanged operationID state later := by
  refine (Holds.unchanged sure).weaken fun later outcome reached => ?_
  obtain ⟨-, unchanged, result, rfl⟩ := reached
  exact unchanged

/-- The program leaves the operation clear, and where it fails the operation is closed. -/
abbrev Clears (codec : Codec) (operationID : String) (state : Progress) (program : Flow Result) :
    Prop :=
  (solo codec operationID).Yields (Closed operationID) state program fun later _ =>
    Clear operationID later

theorem calm_clear (clear : Clear operationID state)
    (holds : (calm codec foundation operationID).Holds trace program post) :
    Clears codec operationID state program :=
  (calm_yields holds fun _ unchanged => (unchanged.clear clear).closed).weaken
    fun _ _ unchanged => unchanged.clear clear

theorem now_yields : (solo codec operationID).Yields stop state now fun later _ =>
    Unchanged operationID state later :=
  ⟨trivial, fun _ _ moved => moved.unchanged rfl⟩

theorem store_advances :
    (solo codec operationID).Holds state (store context call) fun later outcome =>
      Advances codec operationID state (.store context call) outcome later :=
  ⟨trivial, fun _ _ => id⟩

theorem Advances.read
    (advances : Advances codec operationID state (.store context (.getOperation operationID))
      (.ok operation) later) :
    later.database.operation operationID = some operation ∧
      operation.operationID = operationID := by
  obtain ⟨middle, -, coherent, reacts⟩ := advances.reacts
  obtain ⟨ids, run⟩ := reacts.exec_of_ok
  obtain ⟨found, same⟩ := reading_eq_ok.mp run
  have present := (Database.getOperationTx_eq_ok ..).mp found
  rw [← same]
  exact ⟨present, (coherent.operation_eq_some.mp present).2⟩

/-! ### Calls that change the operation -/

/-- A call that is no mark, no record and no `MarkUnknown` leaves a clear operation clear. -/
theorem Clear.advances (clear : Clear operationID state) {answer : Except Failure call.Result}
    (advances : Advances codec operationID state (.store context call) answer later)
    (faultless : ∀ turn : RunTurn, turn.call = .store context call → turn.faults = false)
    (unmarked : ∀ id stepID now, call ≠ .markDispatchPossible id stepID now)
    (unrecorded : ∀ operation, RecordsInHand operation call) : Clear operationID later := by
  obtain ⟨turn, turned, isCall, bystands, coherent, -, leaves⟩ := advances.turned
  have unfaulted : ¬ Faulted later.turns := by
    rw [turned]
    exact not_faulted_concat clear.unfaulted (faultless turn isCall)
  have unexposed := bystands.unexposed clear.unexposed
  have orderly := bystands.orderly clear.orderly
  rcases leaves with ⟨-, ids, commits⟩ | ⟨-, same⟩
  · exact ⟨unfaulted, commits_unexposed coherent commits unmarked unexposed,
      fun _ => commits_orderly coherent commits orderly fun operation _ _ _ => unrecorded operation⟩
  · refine ⟨unfaulted, ?_, ?_⟩
    · rwa [same]
    · rwa [same]

variable {before after : Database} {ids : NewIDs} {time : Time} {answer : Except Failure Unit}

theorem mark_exposes (coherent : before.Coherent)
    (orderly : ∀ operation, before.operation operationID = some operation → operation.Orderly)
    (commits : Commits codec before ⟨ids, .markDispatchPossible operationID stepID time⟩ after) :
    ∃ operation index attempt, after.operation operationID = some operation ∧
      ExposedLast operation index attempt ∧ attempt.stepID = stepID ∧
      attempt.effectState = .unknown := by
  obtain ⟨operation, record, index, current, found, -, dispatchable, located, undispatched,
    replaced⟩ := (commits_refines coherent commits).2.marked
  have resolved := dispatchable.not_unresolved
  have ordered := (orderly operation found).resolve_left resolved
  have last := ordered.last located.2 fun complete =>
    absurd (undispatched.symm.trans complete.1) nofun
  have inside := (List.getElem?_eq_some_iff.mp located.2).1
  exact ⟨_, index, _, replaced, ⟨resolved, ordered.set (Or.inl last),
    (List.length_set ..).trans last, List.getElem?_set_self inside, rfl⟩, located.names, rfl⟩

/-- A mark that is answered puts the step in hand, and one that is not is a fault exactly if it
exposes the operation. -/
theorem Clear.marked (clear : Clear operationID state)
    (advances : Advances codec operationID state
      (.store context (.markDispatchPossible operationID stepID time)) answer later) :
    if answer.isOk then Held operationID stepID later else Closed operationID later := by
  obtain ⟨turn, turned, isMark, bystands, coherent, answers, leaves⟩ := advances.turned
  have faults : turn.faults = (turn.accepted && !turn.arrives) := by rw [RunTurn.faults, isMark]
  rw [answers, RunTurn.answered]
  rcases leaves with ⟨accepted, ids, commits⟩ | ⟨rejected, same⟩
  · have held := mark_exposes coherent (bystands.orderly clear.orderly) commits
    rw [accepted, Bool.true_and] at faults ⊢
    split
    · rename_i arrives
      refine ⟨?_, held⟩
      rw [turned]
      exact not_faulted_concat clear.unfaulted (by rw [faults, arrives]; rfl)
    · rename_i lost
      obtain ⟨operation, index, attempt, found, exposed, -⟩ := held
      refine iff_of_true ⟨operation, found, exposed.exposed⟩ ?_
      rw [turned]
      exact faulted_concat.mpr (Or.inr (by rw [faults, eq_false_of_ne_true lost]; rfl))
  · rw [rejected, Bool.false_and] at faults ⊢
    refine iff_of_false ?_ ?_
    · rw [same]
      exact bystands.unexposed clear.unexposed
    · rw [turned]
      exact not_faulted_concat clear.unfaulted faults

theorem settleStatus_settled
    (settles : attempt.effectState = .unknown ∨ attempt.effectState = .otherObserved) :
    (settleStatus .observed attempt operation).status.Unresolved := by
  rcases settles with unknown | other
  · simp [settleStatus, unknown, OperationStatus.Unresolved]
  · simp [settleStatus, other, OperationStatus.Unresolved]

theorem record_resolves (coherent : before.Coherent)
    (settles : effect = .unknown ∨ effect = .otherObserved)
    (commits : Commits codec before
      ⟨ids, .recordStepObservation operationID stepID effect attribution evidence time⟩ after) :
    ¬ after.Exposed operationID := by
  rintro ⟨operation, found, resolved, -⟩
  obtain ⟨_, _, _, -, -, -, now⟩ := (commits_refines coherent commits).2.observed
  obtain rfl := Option.mem_unique now found
  exact resolved (settleStatus_settled settles)

/-- A record that settles the step commits, or is a fault exactly if the step was pending. -/
theorem Tells.recorded (tells : Tells operationID stepID state)
    (advances : Advances codec operationID state (.store context
      (.recordStepObservation operationID stepID effect attribution evidence time)) answer later)
    (settles : Settles effect attribution) :
    (¬ Faulted later.turns ∧ ∃ middle ids, Bystands operationID state.database middle ∧
      middle.Coherent ∧ Commits codec middle
        ⟨ids, .recordStepObservation operationID stepID effect attribution evidence time⟩
        later.database) ∨
      Closed operationID later ∧ answer.isOk = false := by
  obtain ⟨turn, turned, isRecord, bystands, coherent, answers, leaves⟩ := advances.turned
  have faults : turn.faults =
      (decide (turn.database.Pending operationID stepID) && !turn.accepted) := by
    rw [RunTurn.faults, isRecord]
    dsimp only
    rw [decide_eq_true settles, Bool.or_true, Bool.and_true]
  rcases leaves with ⟨accepted, ids, commits⟩ | ⟨rejected, same⟩
  · refine Or.inl ⟨?_, _, ids, bystands, coherent, commits⟩
    rw [turned]
    exact not_faulted_concat tells.unfaulted
      (by rw [faults, accepted, Bool.not_true, Bool.and_false])
  · refine Or.inr ⟨?_, by rw [answers, RunTurn.answered, rejected, Bool.false_and]⟩
    rw [Closed, turned, faulted_concat, faults, rejected, same, Bool.not_false, Bool.and_true,
      decide_eq_true_iff]
    refine ⟨fun exposed => Or.inr (bystands.pending (tells.pending ?_)), fun faulted => ?_⟩
    · exact bystands.exposed_iff.mp exposed
    · exact (faulted.resolve_left tells.unfaulted).exposed

theorem Ledger.Step.gaveUp {before after : Ledger}
    (step : Step codec before (.markUnknown operationID time) after) :
    ∃ operation, after.operations operationID = some (giveUp operation time) := by
  cases step with
  | answered answers => cases answers
  | moved alone opened move =>
    cases move with
    | gaveUp => exact ⟨_, Function.update_self ..⟩

/-- A `MarkUnknown` makes the operation unresolved, or is a fault. -/
theorem Advances.gaveUp
    (advances : Advances codec operationID state (.store context (.markUnknown operationID time))
      answer later) (unfaulted : ¬ Faulted state.turns)
    (exposed : state.database.Exposed operationID) : Closed operationID later := by
  obtain ⟨turn, turned, isMark, bystands, coherent, -, leaves⟩ := advances.turned
  rw [Closed, turned, faulted_concat, RunTurn.faults, isMark]
  rcases leaves with ⟨accepted, ids, commits⟩ | ⟨rejected, same⟩
  · rw [accepted]
    refine iff_of_false ?_ (not_or.mpr ⟨unfaulted, Bool.false_ne_true⟩)
    rintro ⟨operation, found, resolved, -⟩
    obtain ⟨_, given⟩ := (commits_refines coherent commits).2.gaveUp
    obtain rfl := Option.mem_unique given found
    exact resolved (Or.inl rfl)
  · rw [rejected, same]
    exact iff_of_true (bystands.exposed_iff.mpr exposed) (Or.inr rfl)

theorem ExposedLast.cleared {next : Operation} {replacement : StepAttempt}
    (exposed : ExposedLast operation index attempt)
    (settled : replacement.dispatchState ≠ .dispatchPossible)
    (replaced : next.attempts = operation.attempts.set index replacement)
    (found : after.operation operationID = some next) :
    ¬ after.Exposed operationID ∧
      ∀ operation, after.operation operationID = some operation → operation.Orderly := by
  obtain ⟨unexposed, orderly⟩ := exposed.settled settled replaced
  refine ⟨?_, fun other present => ?_⟩
  · rintro ⟨other, present, still⟩
    obtain rfl := Option.mem_unique found present
    exact unexposed still
  · obtain rfl := Option.mem_unique found present
    exact orderly

theorem Held.replaced (held : Held operationID stepID state)
    (bystands : Bystands operationID state.database before) (coherent : before.Coherent)
    (commits : Commits codec before
      ⟨ids, .recordStepObservation operationID stepID effect attribution evidence time⟩ after) :
    ∃ operation index attempt, ExposedLast operation index attempt ∧
      after.operation operationID = some (settleStatus .observed
        (touchAttempt (observedAttempt effect attribution evidence attempt) time)
        (replaceAttempt operation index
          (touchAttempt (observedAttempt effect attribution evidence attempt) time) time)) := by
  obtain ⟨operation, index, attempt, found, exposed, names, -⟩ := held.held
  obtain ⟨stored, position, current, storedFound, located, -, now⟩ :=
    (commits_refines coherent commits).2.observed
  have present := bystands.started operation found exposed.nonempty
  obtain rfl := Option.mem_unique storedFound present
  obtain rfl := coherent.position_unique present exposed.present located.2
    (names.trans located.names.symm)
  obtain rfl := Option.mem_unique located.2 exposed.present
  exact ⟨stored, index, current, exposed, now⟩

theorem Held.completed (held : Held operationID stepID state)
    (advances : Advances codec operationID state (.store context
      (.recordStepObservation operationID stepID .expectedObserved .correlated evidence time))
      answer later) :
    if answer.isOk then Clear operationID later else Closed operationID later := by
  rcases held.tells.recorded advances (Or.inr (Or.inr rfl)) with
    ⟨unfaulted, middle, ids, bystands, coherent, commits⟩ | ⟨closed, failed⟩
  · obtain ⟨operation, index, attempt, exposed, stored⟩ := held.replaced bystands coherent commits
    obtain ⟨unexposed, orderly⟩ :=
      exposed.cleared (by nofun) (settleStatus_attempts.trans rfl) stored
    have clear : Clear operationID later := ⟨unfaulted, unexposed, orderly⟩
    split
    · exact clear
    · exact clear.closed
  · rw [failed]
    exact closed

/-- A record of the expected effect without a cause leaves the operation exposed, and is a fault
unless it is answered. -/
theorem Held.unattributed (held : Held operationID stepID state)
    (advances : Advances codec operationID state (.store context
      (.recordStepObservation operationID stepID .expectedObserved .unattributed evidence time))
      answer later) :
    later.database.Exposed operationID ∧ (Faulted later.turns ↔ answer.isOk = false) := by
  obtain ⟨turn, turned, isRecord, bystands, coherent, answers, leaves⟩ := advances.turned
  constructor
  · rcases leaves with ⟨-, ids, commits⟩ | ⟨-, same⟩
    · obtain ⟨operation, index, attempt, exposed, stored⟩ := held.replaced bystands coherent commits
      have inside := (List.getElem?_eq_some_iff.mp exposed.present).1
      refine ⟨_, stored, exposed.resolved,
        touchAttempt (observedAttempt .expectedObserved .unattributed evidence attempt) time, ?_,
        exposed.possible⟩
      rw [settleStatus_attempts]
      exact List.mem_of_getElem? (List.getElem?_set_self inside)
    · rw [same]
      exact (bystands.pending held.pending).exposed
  · have pending := bystands.pending held.pending
    rw [answers, RunTurn.answered, turned, faulted_concat, RunTurn.faults, isRecord]
    cases turn.accepted <;> simp [held.unfaulted, pending, Settles]

/-- The backup is reserved for the operation. -/
def Reserved (operationID backupID : String) (state : Progress) : Prop :=
  ∃ record, state.database.backup backupID = some record ∧ record.operationID = operationID

theorem Reserved.unchanged (reserved : Reserved operationID backupID state)
    (unchanged : Unchanged operationID state later) : Reserved operationID backupID later := by
  obtain ⟨record, found, own⟩ := reserved
  obtain ⟨kept, present, keeps, -⟩ := unchanged.database.backups backupID record found
  exact ⟨kept, present, by rw [keeps]; exact own⟩

theorem Held.finished (held : Held operationID stepID state)
    (reserved : Reserved operationID backupID state) {now : Time}
    (advances : Advances codec operationID state
      (.store context (.completeBackup backupID digest size ready now)) answer later) :
    Clear operationID later ∨ Held operationID stepID later ∧ answer ≠ .ok () := by
  obtain ⟨turn, turned, isCall, bystands, coherent, answers, leaves⟩ := advances.turned
  have unfaulted : ¬ Faulted later.turns := by
    rw [turned]
    exact not_faulted_concat held.unfaulted (by rw [RunTurn.faults, isCall])
  obtain ⟨operation, index, attempt, found, exposed, rest⟩ := held.held
  obtain ⟨record, backup, rfl⟩ := reserved
  have present := bystands.started operation found exposed.nonempty
  obtain ⟨kept, keptFound, keeps, -⟩ := bystands.backups backupID record backup
  have own : kept.operationID = record.operationID := by rw [keeps]
  rcases leaves with ⟨-, ids, commits⟩ | ⟨rejected, same⟩
  · obtain ⟨stored, sixth, storedFound, writer, now⟩ :=
      (commits_refines coherent commits).2.completed_attempt keptFound
    rw [own] at storedFound now
    obtain rfl := Option.mem_unique storedFound present
    obtain rfl : index = 5 := Nat.succ_inj.mp (exposed.last.symm.trans writer.six)
    obtain ⟨unexposed, orderly⟩ := exposed.cleared (by nofun) rfl now
    exact Or.inl ⟨unfaulted, unexposed, orderly⟩
  · rw [← same] at present
    refine Or.inr ⟨⟨unfaulted, operation, index, attempt, present, exposed, rest⟩, ?_⟩
    rintro rfl
    rw [RunTurn.answered, rejected] at answers
    cases answers

/-! ### Recording -/

theorem record_holds {id : String} :
    (solo codec operationID).Holds state (record id context stepID effect attribution evidence)
      fun later outcome => ∃ clocked now, Unchanged operationID state clocked ∧
        Advances codec operationID clocked (.store context
          (.recordStepObservation id stepID effect attribution evidence now)) outcome later :=
  ⟨trivial, fun now clocked moved => ⟨trivial, fun _ _ advances => ⟨clocked, now,
    moved.unchanged rfl, advances⟩⟩⟩

theorem Tells.givesUp (tells : Tells operationID stepID state)
    (settles : effect = .unknown ∨ effect = .otherObserved) :
    (solo codec operationID).Holds state
      (record operationID context stepID effect attribution evidence) fun later _ =>
        Closed operationID later ∧ state.turns <+: later.turns := by
  refine record_holds.weaken fun later outcome reached => ?_
  obtain ⟨clocked, now, unchanged, advances⟩ := reached
  obtain ⟨turn, turned, -⟩ := advances.turned
  refine ⟨?_, unchanged.turns.trans (turned ▸ List.prefix_append ..)⟩
  rcases (unchanged.tells tells).recorded advances (settles.imp_right Or.inl) with
    ⟨unfaulted, middle, ids, -, coherent, commits⟩ | ⟨closed, -⟩
  · exact iff_of_false (record_resolves coherent settles commits) unfaulted
  · exact closed

/-- Giving an attempt up leaves the operation unresolved, or is a fault. -/
theorem unknown_yields {reason : String} {post : Progress → Result → Prop}
    (tells : Tells operationID attempt.stepID state) (own : operation.operationID = operationID)
    (stops : ∀ later, Closed operationID later → state.turns <+: later.turns → stop later) :
    (solo codec operationID).Yields stop state (unknown operation attempt reason) post := by
  rw [unknown, own]
  exact Holds.bind (tells.givesUp (Or.inl rfl)) (fun later _ ended => stops later ended.1 ended.2)
    fun later _ ended => stops later ended.1 ended.2

theorem dispatch_yields (unhooked : foundation.boundary = false)
    (clear : Clear operationID state) :
    (solo codec operationID).Yields (Closed operationID) state
      (foundation.dispatch operationID attempt) fun later _ =>
        Held operationID attempt.stepID later := by
  rw [dispatch, unhooked]
  refine now_yields.bind fun clocked time unchanged => ?_
  have marked : (solo codec operationID).Yields (Closed operationID) clocked
      (store .bounded (.markDispatchPossible operationID attempt.stepID time)) fun later _ =>
        Held operationID attempt.stepID later := by
    refine store_advances.weaken fun later outcome advances => ?_
    have marked := (unchanged.clear clear).marked advances
    cases outcome with
    | ok => exact marked
    | error => exact marked
  exact marked.bind fun later _ held => held

theorem complete_yields {evidence : Evidence} (unhooked : foundation.boundary = false)
    (own : operation.operationID = operationID)
    (held : Held operationID attempt.stepID state) :
    Clears codec operationID state
      (foundation.complete codec operationID operation attempt evidence) := by
  rw [complete, unhooked]
  split
  · exact unknown_yields held.tells own fun _ closed _ => closed
  · rename_i text encoded
    have recorded : Clears codec operationID state
        (record operationID .bounded attempt.stepID .expectedObserved .correlated [text]) := by
      refine record_holds.weaken fun later outcome reached => ?_
      obtain ⟨clocked, now, unchanged, advances⟩ := reached
      have completed := (unchanged.held held).completed advances
      cases outcome with
      | ok => exact completed
      | error => exact completed
    exact recorded.bind fun later _ clear => clear

theorem checkTarget_clear (n : Nat) (clear : Clear operationID state) :
    Clears codec operationID state (foundation.checkTarget codec intent n) := by
  have checked : (calm codec foundation operationID).Ensures []
      (foundation.checkTarget codec intent n) _ := checkTarget_ensures n
  exact calm_clear clear checked

theorem unconfirmedStop_yields {request : StopRequest} {evidence : StopEvidence}
    {failure : Failure} {post : Progress → Result → Prop}
    (own : operation.operationID = operationID)
    (held : Held operationID attempt.stepID state) :
    (solo codec operationID).Yields (Closed operationID) state
      (unconfirmedStop operationID operation attempt request evidence failure) post := by
  unfold unconfirmedStop
  split
  · exact Holds.bind (held.tells.givesUp (Or.inr rfl)) (fun _ _ ended => ended.1)
      fun _ _ ended => ended.1
  split
  · refine now_yields.bind fun clocked time unchanged => ?_
    have held := unchanged.held held
    split
    · refine Holds.bind record_holds (fun later _ recorded => ?_) fun later _ recorded => ?_
      · obtain ⟨read, now, reading, advances⟩ := recorded
        obtain ⟨exposed, faulted⟩ := (reading.held held).unattributed advances
        refine now_yields.bind fun clocked time unchanged => ?_
        have unfaulted := unchanged.unfaulted (mt faulted.mp nofun)
        have exposed := unchanged.database.exposed_iff.mpr exposed
        exact Holds.bind store_advances (fun _ _ advances => advances.gaveUp unfaulted exposed)
          fun _ _ advances => advances.gaveUp unfaulted exposed
      · obtain ⟨read, now, reading, advances⟩ := recorded
        obtain ⟨exposed, faulted⟩ := (reading.held held).unattributed advances
        exact iff_of_true exposed (faulted.mpr rfl)
    · exact unknown_yields held.tells own fun _ closed _ => closed
  · exact unknown_yields held.tells own fun _ closed _ => closed

theorem offline_unchanged :
    (calm codec foundation operationID).Holds
      [⟨.store .bounded (.getOperation operationID), .ok operation⟩]
      (foundation.offline codec intent operation) fun _ _ => True :=
  offline_calm ⟨.bounded, List.mem_cons_self⟩ List.suffix_rfl

/-- The step is in hand, or its backup was completed. -/
def Written (operationID stepID : String) (state : Progress) : Prop :=
  Held operationID stepID state ∨ Clear operationID state

theorem calm_held (held : Held operationID stepID state)
    (holds : (calm codec foundation operationID).Holds trace program fun _ _ => True) :
    (solo codec operationID).Yields (Written operationID stepID) state program fun later _ =>
      Unchanged operationID state later :=
  calm_yields holds fun _ unchanged => Or.inl (unchanged.held held)

theorem reserve_yields {record : BackupRecord} {now : Time} (own : record.operationID = operationID)
    (held : Held operationID stepID state) :
    (solo codec operationID).Yields (Written operationID stepID) state
      (store context (.reserveBackup record now)) fun later _ =>
        Held operationID stepID later ∧ Reserved operationID record.backupID later := by
  refine store_advances.weaken fun later outcome advances => ?_
  have unchanged := advances.unchanged rfl
  cases outcome with
  | error failure => exact Or.inl (unchanged.held held)
  | ok _ =>
    obtain ⟨middle, -, -, step⟩ := advances.commits
    exact ⟨unchanged.held held, record, step.reserved_backup.2, own⟩

theorem finish_yields {now : Time} (reserved : Reserved operationID backupID state)
    (held : Held operationID stepID state) :
    (solo codec operationID).Yields (Written operationID stepID) state
      (store context (.completeBackup backupID digest size ready now)) fun later _ =>
        Clear operationID later := by
  refine store_advances.weaken fun later outcome advances => ?_
  rcases held.finished reserved advances with clear | ⟨held, unanswered⟩
  · cases outcome with
    | ok => exact clear
    | error => exact Or.inr clear
  · cases outcome with
    | ok => exact absurd rfl unanswered
    | error => exact Or.inl held

/-- `Create` completes the backup of the step in hand, or stops with the step in hand, or stops
after the backup was completed. -/
theorem create_yields {engine : Engine} {record : BackupRecord}
    (checks : Checks codec foundation operationID trace check)
    (own : record.operationID = operationID) (held : Held operationID stepID state) :
    (solo codec operationID).Yields (Written operationID stepID) state
      (engine.create record check) fun later _ => Clear operationID later := by
  refine (calm_held held (checks trace List.suffix_rfl)).bind fun checked ready checking => ?_
  have held := checking.held held
  have prepares : Calm codec foundation operationID
      (engine.prepare { record with ready := ready }) := prepare_calm engine _
  refine (calm_held held (prepares [])).bind fun prepared named preparing => ?_
  have held := preparing.held held
  refine now_yields.bind fun clocked time clock => ?_
  have sameOwner : ({ record with ready := ready } : BackupRecord).operationID = operationID := own
  refine (reserve_yields sameOwner (clock.held held)).bind fun stored _ reached => ?_
  obtain ⟨held, reserved⟩ := reached
  have writes : Calm codec foundation operationID (engine.write record.backupID named.1) :=
    write_calm engine _ _
  refine (calm_held held (writes [])).bind fun written _ writing => ?_
  have held := writing.held held
  refine (calm_held held (reread_calm checks List.suffix_rfl)).bind fun reread _ rereading => ?_
  refine now_yields.bind fun finished time finishing => ?_
  have held := finishing.held (rereading.held held)
  have reserved := ((reserved.unchanged writing).unchanged rereading).unchanged finishing
  refine (finish_yields reserved held).bind fun completed _ clear => ?_
  have checkpoints : Calm codec foundation operationID
      (checkpoint engine.boundary "metadata_committed") := Calm.checkpoint _ _
  exact (calm_yields (checkpoints []) fun _ unchanged => Or.inr (unchanged.clear clear)).weaken
    fun _ _ unchanged => unchanged.clear clear

theorem callCreate_yields {record : BackupRecord}
    (checks : Checks codec foundation operationID trace check)
    (own : record.operationID = operationID) (held : Held operationID stepID state) :
    (solo codec operationID).Yields (Written operationID stepID) state
      (foundation.callCreate record check) fun later _ => Clear operationID later := by
  have called : (solo codec operationID).Yields (Written operationID stepID) state
      (ExceptT.lift (ask (Effect.createBackup record)) : Flow Unit)
      fun later _ => Unchanged operationID state later :=
    ⟨trivial, fun _ _ moved => moved.unchanged rfl⟩
  exact called.bind fun later _ unchanged => create_yields checks own (unchanged.held held)

theorem Held.not_showsBackup (held : Held operationID stepID state)
    (found : state.database.operation operationID = some operation) :
    showsBackup operation = false := by
  obtain ⟨stored, index, attempt, present, exposed, -, unknown⟩ := held.held
  obtain rfl := Option.mem_unique present found
  unfold showsBackup
  split
  · rename_i sixth isSixth
    by_cases six : stored.attempts.length = 6
    · obtain rfl : index = 5 := Nat.succ_inj.mp (exposed.last.symm.trans six)
      obtain rfl := Option.mem_unique isSixth exposed.present
      simp [unknown]
    · simp [six]
  · rfl

/-! ### The steps -/

section Clearing

variable (unhooked : foundation.boundary = false) (own : operation.operationID = operationID)
  (clear : Clear operationID state)

include unhooked own clear

theorem claimOperation_yields :
    Clears codec operationID state
      (foundation.claimOperation codec operationID intent operation attempt) :=
  (dispatch_yields unhooked clear).bind fun _ _ held => complete_yields unhooked own held

theorem revalidate_yields :
    Clears codec operationID state
      (foundation.revalidate codec operationID intent operation attempt) := by
  refine (checkTarget_clear 1 clear).bind fun checked _ clear => ?_
  exact (dispatch_yields unhooked clear).bind fun _ _ held => complete_yields unhooked own held

theorem acquireMaintenance_yields :
    Clears codec operationID state
      (foundation.acquireMaintenance codec operationID intent operation attempt) := by
  refine (checkTarget_clear 2 clear).bind fun checked _ clear => ?_
  refine (dispatch_yields unhooked clear).bind fun marked requestedAt held => ?_
  have called : (solo codec operationID).Holds marked
      (Target.closeAdmission operationID attempt.stepID)
      fun later _ => Unchanged operationID marked later :=
    ⟨trivial, fun _ _ moved => moved.unchanged rfl⟩
  refine (yields_reify called).bind fun answered outcome calling => ?_
  have held := calling.held held
  cases outcome with
  | error failure => exact unknown_yields held.tells own fun _ closed _ => closed
  | ok receipt =>
    have sure : Sure codec foundation operationID []
        (receipted operationID receipt attempt.stepID requestedAt) := receipted_sure _ _ _
    refine (sure_yields sure).bind fun judged accepted judging => ?_
    have held := judging.held held
    split
    · have waits : Calm codec foundation operationID (foundation.waitMaintenance codec intent) :=
        waitMaintenance_calm
      refine (yields_reify (Holds.unchanged (waits []))).bind fun waited outcome waiting => ?_
      obtain ⟨-, waiting, -⟩ := waiting
      have held := waiting.held held
      cases outcome with
      | error failure => exact unknown_yields held.tells own fun _ closed _ => closed
      | ok closed => exact complete_yields unhooked own held
    · exact unknown_yields held.tells own fun _ closed _ => closed

theorem gracefulStop_yields :
    Clears codec operationID state
      (foundation.gracefulStop codec operationID intent operation attempt) := by
  refine (checkTarget_clear 3 clear).bind fun checked before clear => ?_
  refine (dispatch_yields unhooked clear).bind fun marked requestedAt held => ?_
  have called : (solo codec operationID).Holds marked
      (Target.dispatchGracefulStop ⟨operationID, attempt.stepID, intent.containerID,
        intent.expectedBootID, requestedAt⟩)
      fun later _ => Unchanged operationID marked later :=
    ⟨trivial, fun _ _ moved => moved.unchanged rfl⟩
  refine (yields_reify called).bind fun answered outcome calling => ?_
  have held := calling.held held
  cases outcome with
  | error failure => exact unknown_yields held.tells own fun _ closed _ => closed
  | ok _ =>
    have sure : Sure codec foundation operationID
        [⟨.store .bounded (.markDispatchPossible operationID attempt.stepID requestedAt), .ok ()⟩]
        (waitStopped ⟨operationID, attempt.stepID, intent.containerID, intent.expectedBootID,
          requestedAt⟩) := waitStopped_sure _ rfl rfl
    refine (sure_yields sure).bind fun waited result waiting => ?_
    have held := waiting.held held
    obtain ⟨evidence, failure⟩ := result
    cases failure with
    | some failure => exact unconfirmedStop_yields own held
    | none => exact complete_yields unhooked own held

theorem offlineRevalidation_yields :
    Clears codec operationID state
      (foundation.offlineRevalidation codec operationID intent operation attempt) := by
  refine (calm_clear clear offline_unchanged).bind fun checked _ clear => ?_
  exact (dispatch_yields unhooked clear).bind fun _ _ held => complete_yields unhooked own held

theorem createBackup_yields :
    Clears codec operationID state
      (foundation.createBackup codec operationID intent operation attempt) := by
  refine (calm_clear clear offline_unchanged).bind fun checked ready clear => ?_
  refine (dispatch_yields unhooked clear).bind fun marked _ held => ?_
  refine now_yields.bind fun clocked createdAt clock => ?_
  have created : (solo codec operationID).Yields (Written operationID attempt.stepID) clocked
      (foundation.callCreate (foundation.backupRecord operationID intent attempt ready createdAt)
        (foundation.offline codec intent operation)) fun later _ => Clear operationID later :=
    callCreate_yields (fun later => offline_calm ⟨.bounded, List.mem_singleton_self _⟩) rfl
      (clock.held held)
  refine (yields_reify created).bind fun ended outcome written => ?_
  cases outcome with
  | ok _ => exact written
  | error failure =>
    refine (yields_reify store_advances).bind fun read fresh advances => ?_
    have unchanged := advances.unchanged rfl
    have written : Written operationID attempt.stepID read :=
      written.imp unchanged.held unchanged.clear
    have tells : Tells operationID attempt.stepID read := written.elim Held.tells Clear.tells
    cases fresh with
    | error _ => exact unknown_yields tells own fun _ closed _ => closed
    | ok fresh =>
      dsimp only
      split
      · rename_i shows
        rcases written with held | clear
        · exact absurd (shows.symm.trans (held.not_showsBackup advances.read.1)) nofun
        · exact clear.closed
      · exact unknown_yields tells own fun _ closed _ => closed

/-! ### The loop from a clear operation -/

theorem work_yields :
    Clears codec operationID state
      (foundation.work codec operationID intent operation attempt n) := by
  rcases n with _ | _ | _ | _ | _ | n
  · exact claimOperation_yields unhooked own clear
  · exact revalidate_yields unhooked own clear
  · exact acquireMaintenance_yields unhooked own clear
  · exact gracefulStop_yields unhooked own clear
  · exact offlineRevalidation_yields unhooked own clear
  · exact createBackup_yields unhooked own clear

theorem resume_yields :
    Clears codec operationID state (foundation.resume operationID operation n) := by
  rw [resume, unhooked]
  split
  · split
    · exact clear
    split
    · exact unknown_yields clear.tells own fun _ closed _ => closed
    · exact clear
  · refine now_yields.bind fun clocked time unchanged => ?_
    have prepared : ∀ later outcome, Advances codec operationID clocked
        (.store .bounded (.prepareStep operationID (stepKind n) time)) outcome later →
          Clear operationID later := fun later outcome advances =>
      (unchanged.clear clear).advances advances (fun _ isCall => by rw [RunTurn.faults, isCall])
        (fun _ _ _ => nofun) fun _ => trivial
    exact Holds.bind store_advances (fun later attempt advances => prepared later _ advances)
      fun later failure advances => (prepared later _ advances).closed

end Clearing

theorem transition_clear {status : OperationStatus} (clear : Clear operationID state) :
    Clears codec operationID state (transition operationID status) := by
  refine now_yields.bind fun clocked time unchanged => ?_
  refine store_advances.weaken fun later outcome advances => ?_
  have still : Clear operationID later := (unchanged.clear clear).advances advances
    (fun _ isCall => by rw [RunTurn.faults, isCall]) (fun _ _ _ => nofun) fun _ => trivial
  cases outcome with
  | ok => exact still
  | error => exact still.closed

theorem getOperation_yields (stops : ∀ later, Unchanged operationID state later → stop later) :
    (solo codec operationID).Yields stop state (store .bounded (.getOperation operationID))
      fun later operation => Unchanged operationID state later ∧
        later.database.operation operationID = some operation ∧
        operation.operationID = operationID := by
  refine store_advances.weaken fun later outcome advances => ?_
  have unchanged := advances.unchanged rfl
  cases outcome with
  | ok => exact ⟨unchanged, advances.read⟩
  | error => exact stops later unchanged

theorem iterate_clear (unhooked : foundation.boundary = false) (clear : Clear operationID state) :
    Clears codec operationID state (foundation.iterate codec operationID intent n) := by
  refine (getOperation_yields fun _ unchanged => (unchanged.clear clear).closed).bind
    fun loaded operation reached => ?_
  obtain ⟨unchanged, -, own⟩ := reached
  have clear := unchanged.clear clear
  refine yields_lift_bind (fun _ _ => clear.closed) fun _ _ => ?_
  refine (resume_yields unhooked own clear).bind fun resumed result clear => ?_
  cases result with
  | none => exact clear
  | some attempt =>
    have starts : Clears codec operationID resumed (startExecuting operationID operation n) := by
      unfold startExecuting
      split
      · exact transition_clear clear
      · exact clear
    exact starts.bind fun started _ clear => work_yields unhooked own clear

theorem loop_clear (unhooked : foundation.boundary = false) (numbers : List Nat)
    (clear : Clear operationID state) :
    Clears codec operationID state
      (numbers.forM (foundation.iterate codec operationID intent)) := by
  induction numbers generalizing state with
  | nil => exact clear
  | cons n numbers hypothesis =>
    exact (iterate_clear unhooked clear).bind fun later _ clear => hypothesis clear

/-! ### The loop from an interrupted operation -/

section Recovering

variable {condition : List RunTurn → Bool} {demand : RunTurn → Bool} {rest : List (RunTurn → Bool)}
  {turn : RunTurn}

/-- The run met what was asked of it and closed the operation, or it did not and left the operation
exposed; further turns change nothing about that. -/
def Ended (operationID : String) (condition : List RunTurn → Bool) (state : Progress) : Prop :=
  Closed operationID state ∧ (∀ more, condition (state.turns ++ more) = true) ∨
    state.database.Exposed operationID ∧ ∀ more, condition (state.turns ++ more) = false

theorem Ended.unchanged (ended : Ended operationID condition state)
    (unchanged : Unchanged operationID state later) : Ended operationID condition later := by
  obtain ⟨recent, same⟩ := unchanged.turns
  rw [Ended, ← same]
  simp only [List.append_assoc]
  exact ended.imp (And.imp unchanged.closed fun met more => met _)
    (And.imp unchanged.database.exposed_iff.mpr fun unmet more => unmet _)

/-- The program leads to the postcondition or to the end of the run. -/
abbrev Recovers (codec : Codec) (operationID : String) (condition : List RunTurn → Bool)
    (state : Progress) (program : Flow Result) (post : Progress → Result → Prop) : Prop :=
  (solo codec operationID).Yields (Ended operationID condition) state program post

namespace Facing

/-- A turn meets the next demand or ends the run. -/
theorem step (facing : Facing operationID index condition (demand :: rest) state)
    (turned : later.turns = state.turns ++ [turn]) (unfaulted : ¬ Faulted later.turns)
    (interrupted : ∃ operation attempt, later.database.operation operationID = some operation ∧
      ExposedLast operation index attempt) :
    if demand turn then Facing operationID index condition rest later
    else Ended operationID condition later := by
  have left : ∀ more, condition (later.turns ++ more) = (demand turn && Meets rest more) := by
    intro more
    rw [turned, List.append_assoc, facing.left]
    rfl
  split
  · rename_i met
    refine ⟨unfaulted, interrupted, fun more => ?_⟩
    rw [left, met, Bool.true_and]
  · rename_i unmet
    obtain ⟨operation, attempt, found, exposed⟩ := interrupted
    refine Or.inr ⟨⟨operation, found, exposed.exposed⟩, fun more => ?_⟩
    rw [left, eq_false_of_ne_true unmet, Bool.false_and]

theorem unchanged (facing : Facing operationID index condition (demand :: rest) state)
    (unchanged : Unchanged operationID state later)
    (turned : later.turns = state.turns ++ [turn]) :
    if demand turn then Facing operationID index condition rest later
    else Ended operationID condition later := by
  refine facing.step turned (unchanged.unfaulted facing.unfaulted) ?_
  obtain ⟨operation, attempt, found, exposed⟩ := facing.interrupted
  exact ⟨operation, attempt, unchanged.database.started operation found exposed.nonempty, exposed⟩

theorem clocked (facing : Facing operationID index condition (demand :: rest) state) :
    Recovers codec operationID condition state now fun later time =>
      ∃ turn : RunTurn, turn.clock = time ∧
        if demand turn then Facing operationID index condition rest later
        else Ended operationID condition later := by
  refine ⟨trivial, fun time later moved => ?_⟩
  have unchanged := moved.unchanged rfl
  obtain ⟨middle, world, delivery, -, -, reaction, turned⟩ := moved
  exact ⟨.of codec .now middle world delivery, (Prod.mk.inj reaction).1,
    facing.unchanged unchanged turned⟩

theorem ticked (facing : Facing operationID index condition ((fun _ => true) :: rest) state) :
    Recovers codec operationID condition state now fun later _ =>
      Facing operationID index condition rest later :=
  facing.clocked.weaken fun _ _ ⟨_, _, facing⟩ => facing

theorem checked {bad : Time → Prop} [DecidablePred bad] {failure : Failure} {program : Flow Result}
    {post : Progress → Result → Prop}
    (facing : Facing operationID index condition (demand :: rest) state)
    (meets : ∀ turn, demand turn = true ↔ ¬ bad turn.clock)
    (continues : ∀ later, Facing operationID index condition rest later →
      Recovers codec operationID condition later program post) :
    Recovers codec operationID condition state
      (do
        let time ← now
        refuse (bad time) failure
        program) post := by
  refine facing.clocked.bind fun later time reached => ?_
  obtain ⟨turn, rfl, reached⟩ := reached
  refine yields_lift_bind (fun _ refused => ?_) fun _ passed => ?_
  · rwa [if_neg fun met => (meets turn).mp met ((refuse_eq_error ..).mp refused).1] at reached
  · rw [if_pos ((meets turn).mpr ((refuse_eq_ok ..).mp passed))] at reached
    exact continues later reached

theorem read (facing : Facing operationID index condition (RunTurn.answered :: rest) state) :
    Recovers codec operationID condition state (store .bounded (.getOperation operationID))
      fun later operation => Facing operationID index condition rest later ∧
        Unchanged operationID state later ∧
        later.database.operation operationID = some operation ∧
        operation.operationID = operationID := by
  refine store_advances.weaken fun later outcome advances => ?_
  have unchanged := advances.unchanged rfl
  obtain ⟨turn, turned, -, -, -, answers, -⟩ := advances.turned
  have reached := facing.unchanged unchanged turned
  rw [← answers] at reached
  cases outcome with
  | ok => exact ⟨reached, unchanged, advances.read⟩
  | error => exact reached

/-- The attempts before the interrupted one are complete, and the loop passes them. -/
theorem resume (passing : n ≤ index) (own : operation.operationID = operationID)
    (found : state.database.operation operationID = some operation)
    (facing : Facing operationID index condition
      (List.replicate (index - n) RunTurn.answered) state) :
    Recovers codec operationID condition state
      (foundation.resume operationID operation n) fun later result =>
        result = none ∧ n < index ∧ later = state := by
  obtain ⟨stored, attempt, present, exposed⟩ := facing.interrupted
  obtain rfl := Option.mem_unique present found
  have inside : n < stored.attempts.length := by
    rw [exposed.last]
    omega
  unfold Foundation.resume
  split
  · rename_i current isCurrent
    rcases Nat.lt_or_eq_of_le passing with early | rfl
    · have inner : n + 1 < stored.attempts.length := by
        rw [exposed.last]
        omega
      rw [if_pos (exposed.ordered n current isCurrent inner)]
      exact ⟨rfl, early, rfl⟩
    · obtain rfl := Option.mem_unique isCurrent exposed.present
      have incomplete : ¬ current.Complete := fun complete =>
        absurd (exposed.possible.symm.trans complete.1) nofun
      rw [if_neg incomplete, if_pos (Or.inl (exposed.possible ▸ nofun))]
      have pending : state.database.Pending operationID current.stepID := ⟨stored, found,
        exposed.resolved, current, List.mem_of_getElem? exposed.present, rfl, exposed.possible⟩
      refine unknown_yields ⟨facing.unfaulted, fun _ => pending⟩ own fun later closed recent => ?_
      obtain ⟨recent, same⟩ := recent
      refine Or.inl ⟨closed, fun more => ?_⟩
      rw [← same, List.append_assoc, facing.left, Nat.sub_self]
      rfl
  · rename_i absent
    exact absurd inside (Nat.not_lt.mpr (List.getElem?_eq_none_iff.mp absent))

theorem iterate (passing : n ≤ index)
    (facing : Facing operationID index condition
      (List.replicate (index + 1 - n) RunTurn.answered) state) :
    Recovers codec operationID condition state
      (foundation.iterate codec operationID intent n) fun later _ => n < index ∧
        Facing operationID index condition
          (List.replicate (index - n) RunTurn.answered) later := by
  rw [Nat.succ_sub passing, List.replicate_succ] at facing
  refine facing.read.bind fun loaded operation reached => ?_
  obtain ⟨facing, -, found, own⟩ := reached
  obtain ⟨stored, attempt, present, exposed⟩ := facing.interrupted
  obtain rfl := Option.mem_unique present found
  refine yields_lift_bind (fun _ refused => ?_) fun _ _ => ?_
  · exact absurd ((refuse_eq_error ..).mp refused).1 exposed.resolved
  refine (facing.resume passing own found).bind fun resumed result reached => ?_
  obtain ⟨rfl, early, rfl⟩ := reached
  exact ⟨early, facing⟩

theorem loop (count : Nat) (passing : n ≤ index) (covered : index < n + count)
    (facing : Facing operationID index condition
      (List.replicate (index + 1 - n) RunTurn.answered) state) :
    Recovers codec operationID condition state
      ((List.range' n count).forM (foundation.iterate codec operationID intent))
      fun _ _ => False := by
  induction count generalizing state n with
  | zero => omega
  | succ count hypothesis =>
    refine (facing.iterate passing).bind fun later _ reached => ?_
    refine hypothesis reached.1 (by omega) ?_
    rw [Nat.add_sub_add_right]
    exact reached.2

end Facing

theorem Facing.prepares {verification : VerificationStatus} {released : Bool}
    (facing : Facing operationID index condition (RunTurn.answered :: rest) state)
    (advances : Advances codec operationID state (.store context
      (.transitionOperation operationID .preparing verification released time)) answer later) :
    if answer.isOk then Facing operationID index condition rest later
    else Ended operationID condition later := by
  obtain ⟨turn, turned, isCall, bystands, coherent, answers, leaves⟩ := advances.turned
  rw [answers]
  refine facing.step turned ?_ ?_
  · rw [turned]
    exact not_faulted_concat facing.unfaulted (by rw [RunTurn.faults, isCall])
  obtain ⟨operation, attempt, found, exposed⟩ := facing.interrupted
  have present := bystands.started operation found exposed.nonempty
  rcases leaves with ⟨-, ids, commits⟩ | ⟨-, same⟩
  · rcases (commits_refines coherent commits).2.operation_cases operationID with
      same | ⟨stored, next, isStored, -, isNext, move⟩ | ⟨_, _, _, _, _, _, _, impossible, -⟩
    · exact ⟨operation, attempt, same.trans present, exposed⟩
    · obtain rfl := Option.mem_unique isStored present
      cases move with
      | transitioned =>
        have resolved : ¬ OperationStatus.preparing.Unresolved := by decide
        exact ⟨_, attempt, isNext, resolved, exposed.ordered, exposed.last, exposed.present,
          exposed.possible⟩
    · cases impossible
  · rw [← same] at present
    exact ⟨operation, attempt, present, exposed⟩

end Recovering

/-! ### The run -/

theorem run_clear (unhooked : foundation.boundary = false) (clear : Clear operationID state) :
    (solo codec operationID).Holds state (foundation.run codec operationID) fun later _ =>
      Closed operationID later := by
  have yields : Clears codec operationID state (foundation.run codec operationID) := by
    refine yields_lift_bind (fun _ _ => clear.closed) fun _ _ => ?_
    refine (getOperation_yields fun _ unchanged => (unchanged.clear clear).closed).bind
      fun loaded operation reached => ?_
    have clear := reached.1.clear clear
    have reads : Calm codec foundation operationID
        (store .bounded (.getIntent operation.intentID)) := calm_store rfl fun _ => trivial
    refine (calm_clear clear (reads [])).bind fun opened record clear => ?_
    refine yields_lift_bind (fun _ _ => clear.closed) fun _ _ => ?_
    have clocks : Calm codec foundation operationID (checkClock record.intent operation) :=
      checkClock_calm operation
    refine (calm_clear clear (clocks [])).bind fun clocked _ clear => ?_
    have checks : Calm codec foundation operationID (checkStart record.intent operation) :=
      checkStart_calm operation
    refine (calm_clear clear (checks [])).bind fun checked _ clear => ?_
    have starts : Clears codec operationID checked
        (startPreparing operationID record.intent operation) := by
      unfold startPreparing
      split
      · refine now_yields.bind fun read time reading => ?_
        have clear := reading.clear clear
        exact yields_lift_bind (fun _ _ => clear.closed) fun _ _ => transition_clear clear
      · exact clear
    refine starts.bind fun started _ clear => ?_
    refine (loop_clear unhooked _ clear).bind fun looped _ clear => ?_
    have inspects : Calm codec foundation operationID
        (foundation.engine.inspect record.intent.reservedBackupID) := inspect_calm _ _
    exact calm_clear clear (inspects [])
  refine Holds.weaken yields fun later outcome reached => ?_
  cases outcome with
  | ok => exact reached.closed
  | error => exact reached

section Interrupted

variable {first : StepAttempt} {record : IntentRecord} {database : Database}
  {condition : List RunTurn → Bool} {rest : List (RunTurn → Bool)}

theorem ExposedLast.dispatched (exposed : ExposedLast operation index attempt) :
    ∃ first, operation.attempts.head? = some first ∧ first.dispatchState ≠ .notDispatched := by
  obtain ⟨first, attempts, same⟩ := List.exists_cons_of_ne_nil exposed.nonempty
  have present : operation.attempts[0]? = some first := by
    rw [same]
    rfl
  refine ⟨first, by rw [same]; rfl, fun undispatched => ?_⟩
  rcases Nat.eq_zero_or_pos index with rfl | later
  · obtain rfl := Option.mem_unique present exposed.present
    exact absurd (undispatched.symm.trans exposed.possible) nofun
  · have complete := exposed.ordered 0 first present (by rw [exposed.last]; omega)
    exact absurd (undispatched.symm.trans complete.1) nofun

theorem Facing.opened (found : state.database.intent operation.intentID = some record)
    (facing : Facing operationID index condition
      (foundation.entryDemand codec operation :: rest) state) :
    Recovers codec operationID condition state (store .bounded (.getIntent operation.intentID))
      fun later stored => stored.intent = record.intent ∧
        if (foundation.checkEntry codec operation stored).isOk then
          Facing operationID index condition rest later
        else Ended operationID condition later := by
  refine store_advances.weaken fun later outcome advances => ?_
  have unchanged := advances.unchanged rfl
  cases outcome with
  | error failure =>
    obtain ⟨turn, turned, -, -, -, answers, -⟩ := advances.turned
    have reached := facing.unchanged unchanged turned
    rw [entryDemand, ← answers] at reached
    exact reached
  | ok stored =>
    obtain ⟨turn, turned, answered, bystands, _, run⟩ := advances.answered
    have isStored := (demand_eq_ok ..).mp (reading_eq_ok.mp run).1
    obtain ⟨kept, isKept, same⟩ := bystands.persists.intents _ record found
    obtain rfl := Option.mem_unique isKept isStored
    have reached := facing.unchanged unchanged turned
    rw [entryDemand, answered, isStored] at reached
    exact ⟨same, reached⟩

theorem Facing.checkClock (starts : operation.attempts.head? = some first)
    (facing : Facing operationID index condition
      (clockDemands ((operation.attempts.head?.map (·.preparedAt)).getD 0) intent ++ rest) state) :
    Recovers codec operationID condition state (checkClock intent operation) fun later _ =>
      Facing operationID index condition rest later := by
  rw [starts] at facing
  rw [Foundation.checkClock, starts]
  refine facing.ticked.bind fun read _ facing => ?_
  refine facing.checked (fun _ => decide_eq_true_iff) fun second facing => ?_
  refine facing.checked (fun _ => decide_eq_true_iff.trans not_not.symm) fun third facing => ?_
  exact facing.ticked.bind fun last _ facing => facing

theorem Facing.startPreparing
    (facing : Facing operationID index condition (startDemands operation intent ++ rest) state) :
    Recovers codec operationID condition state (startPreparing operationID intent operation)
      fun later _ => Facing operationID index condition rest later := by
  unfold startDemands at facing
  unfold Foundation.startPreparing
  split
  · rename_i queued
    rw [if_pos queued] at facing
    refine facing.checked (fun _ => decide_eq_true_iff.trans not_not.symm) fun read facing => ?_
    refine facing.ticked.bind fun clocked time facing => ?_
    refine store_advances.weaken fun later outcome advances => ?_
    have reached := facing.prepares advances
    cases outcome with
    | ok => exact reached
    | error => exact reached
  · rename_i unqueued
    rwa [if_neg unqueued] at facing

/-- A run on an operation that an earlier run left exposed gives the interrupted attempt up exactly
if its turns meet what is asked of them. -/
theorem run_interrupted (found : database.operation operationID = some operation)
    (stored : database.intent operation.intentID = some record)
    (exposed : ExposedLast operation index attempt)
    (short : record.intent.steps.items = fixedWorkflowSteps → index < 6) :
    (solo codec operationID).Holds ⟨database, []⟩ (foundation.run codec operationID)
      fun later _ => Ended operationID
        (foundation.recovers codec operation record.intent) later := by
  obtain ⟨first, starts, dispatched⟩ := exposed.dispatched
  have yields : Recovers codec operationID (foundation.recovers codec operation record.intent)
      ⟨database, []⟩ (foundation.run codec operationID) fun _ _ => False := by
    refine yields_lift_bind (fun _ refused => ?_) fun _ passed => ?_
    · have unconfigured := ((refuse_eq_error ..).mp refused).1
      refine Or.inr ⟨⟨operation, found, exposed.exposed⟩, fun more => ?_⟩
      rw [recovers, eq_false_of_ne_true unconfigured, Bool.false_and]
    have configured := not_not.mp ((refuse_eq_ok ..).mp passed)
    have facing : Facing operationID index
        (foundation.recovers codec operation record.intent)
        (foundation.recoveryDemands codec operation record.intent) ⟨database, []⟩ := by
      refine ⟨not_faulted_nil, ⟨operation, attempt, found, exposed⟩, ?_⟩
      intro more
      rw [recovers, configured, Bool.true_and]
      rfl
    rw [recoveryDemands, List.map_const', exposed.last] at facing
    refine facing.read.bind fun loaded read reached => ?_
    obtain ⟨facing, unchanged, isRead, -⟩ := reached
    obtain rfl := Option.mem_unique
      (unchanged.database.started operation found exposed.nonempty) isRead
    obtain ⟨kept, isKept, sameIntent⟩ := unchanged.database.persists.intents _ record stored
    refine (facing.opened isKept).bind fun opened read reached => ?_
    obtain ⟨same, reached⟩ := reached
    rw [same, sameIntent]
    refine yields_lift_bind (fun _ refused => ?_) fun _ passed => ?_
    · rw [refused] at reached
      exact reached
    have fixed := (checkEntry_eq_ok passed).2
    rw [same, sameIntent] at fixed
    rw [passed] at reached
    refine (Facing.checkClock starts reached).bind fun clocked _ facing => ?_
    have started : Recovers codec operationID
        (foundation.recovers codec operation record.intent) clocked
        (checkStart record.intent operation) fun later _ => later = clocked := by
      rw [checkStart, starts]
      exact if_neg dispatched ▸ rfl
    refine started.bind fun _ _ same => ?_
    subst same
    refine facing.startPreparing.bind fun prepared _ facing => ?_
    rw [List.range_eq_range']
    exact (facing.loop 6 (Nat.zero_le _) (by rw [Nat.zero_add]; exact short fixed)).bind
      fun _ _ => False.elim
  refine Holds.weaken yields fun later outcome reached => ?_
  cases outcome with
  | ok => exact reached.elim
  | error => exact reached

end Interrupted

end GuardedAgentRunner
