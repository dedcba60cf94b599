/-
This file says what the success of a run means. A run that returns without an error
has left its operation with six complete attempts and the backup of its intent
valid, with an archive it has reread. No other run and no operator changes that,
and a further run of the operation only reads: it passes the six attempts, rereads
the archive and returns.
-/

import GuardedAgentRunner.Confinement
import GuardedAgentRunner.Recovery

namespace GuardedAgentRunner

open Fallible Protocol Program Foundation Store Ledger Positions

variable {codec : Codec} {foundation : Foundation} {operationID : String} {intent : ChangeIntent}
  {operation : Operation} {attempt : StepAttempt} {database : Database} {state later : Progress}
  {Result : Type} {program : Flow Result} {history : List Event}

/-! ### The journal of a completed operation -/

/-- The operation is resolved and its sixth attempt is complete. -/
def Database.Completes (database : Database) (operationID : String) : Prop :=
  ∃ operation attempt, database.operation operationID = some operation ∧
    ¬ operation.status.Unresolved ∧ operation.attempts[5]? = some attempt ∧ attempt.Complete

/-- The operation has exactly the attempts S00 to S05, all acknowledged with the expected effect
observed and correlated; it is executing, owns its target and has no verification. -/
structure Operation.Performed (operation : Operation) : Prop where
  kinds : operation.attempts.map (·.stepKind) = [.claimOperation, .revalidate, .acquireMaintenance,
    .gracefulStop, .offlineRevalidation, .createBackup]
  attempts : ∀ attempt ∈ operation.attempts, attempt.dispatchState = .acknowledged ∧
    attempt.effectState = .expectedObserved ∧ attempt.attribution = .correlated
  executing : operation.status = .executing
  owned : operation.ownershipReleased = false
  unverified : operation.verification = .notStarted

theorem kinds_eq {attempts : List StepAttempt} (shaped : Shaped intent attempts)
    (fixed : intent.steps.items = fixedWorkflowSteps) (six : 6 ≤ attempts.length) :
    attempts.map (·.stepKind) = fixedWorkflowSteps.take 6 := by
  have kinds := shaped.kinds
  rw [fixed] at kinds
  have short := shaped.length_le fixed
  have length : (attempts.map (·.stepKind)).length = 6 := by
    rw [List.length_map]
    omega
  rw [List.prefix_iff_eq_take.mp kinds, length]

theorem System.Lawful.performed {system : System} (lawful : system.Lawful codec)
    (confines : system.Confines codec) (completes : system.database.Completes operationID) :
    ∃ operation, system.database.operation operationID = some operation ∧
      operation.Performed := by
  obtain ⟨operation, last, found, resolved, sixth, complete⟩ := completes
  have plain := lawful.permitted.plain lawful.chained confines.keeps found
  have ordered := (lawful.permitted.orderly lawful.chained found).resolve_left resolved
  have inside := (List.getElem?_eq_some_iff.mp sixth).1
  have lastIn := List.mem_of_getElem? sixth
  obtain ⟨record, isRecord, fixed⟩ := plain.fixed last lastIn (by rw [complete.1]; nofun)
  obtain ⟨stored, isStored, -, shaped⟩ := lawful.chained.shaped operationID operation found
  obtain rfl : stored = record := Option.mem_unique isStored isRecord
  have kinds := kinds_eq shaped fixed inside
  have length : operation.attempts.length = 6 := by
    rw [← List.length_map (f := (·.stepKind)), kinds]
    rfl
  refine ⟨operation, found, kinds, fun attempt member => ?_,
    (plain.sixth last sixth complete).resolve_right resolved,
    plain.owned (List.ne_nil_of_mem lastIn), plain.unverified⟩
  obtain ⟨position, present⟩ := List.getElem?_of_mem member
  have bound := (List.getElem?_eq_some_iff.mp present).1
  by_cases here : position = 5
  · subst here
    obtain rfl := Option.mem_unique present sixth
    exact complete
  · exact ordered position attempt present (by omega)

theorem Bystands.completes {after : Database} (bystands : Bystands operationID database after)
    (completes : database.Completes operationID) : after.Completes operationID := by
  obtain ⟨operation, attempt, found, resolved, sixth, complete⟩ := completes
  exact ⟨operation, attempt, bystands.started operation found
    (List.ne_nil_of_mem (List.mem_of_getElem? sixth)), resolved, sixth, complete⟩

/-! ### A run that succeeds completes its operation -/

theorem solo_any (program : Flow Result) :
    (solo codec operationID).Yields (fun _ => True) state program fun _ _ => True := by
  refine Safe.weaken (safe_of_allowed (fun _ _ => trivial) program.run) fun _ outcome _ => ?_
  cases outcome <;> trivial

theorem unknown_stops {reason : String} {post : Progress → Result → Prop} :
    (solo codec operationID).Yields (fun _ => True) state (unknown operation attempt reason) post :=
  (solo_any _).bind fun _ _ _ => trivial

/-- The part of a run leaves the operation complete if it returns without an error. -/
abbrev Completing {Result : Type} (codec : Codec) (operationID : String) (state : Progress)
    (program : Flow Result) : Prop :=
  (solo codec operationID).Yields (fun _ => True) state program fun later _ =>
    later.database.Completes operationID

theorem Calm.completes (calm : Calm codec foundation operationID program)
    (completes : state.database.Completes operationID) :
    Completing codec operationID state program :=
  (calm_yields (calm []) fun _ _ => trivial).weaken fun _ _ unchanged =>
    unchanged.database.completes completes

variable {context : Context} {backupID : String} {effect : Effect} {process : Process}
  {answer : effect.Answer} {engine : Engine} {choice : Choice} {event : Event} {now : Time}

theorem reserve_reserves {record : BackupRecord} (own : record.operationID = operationID) :
    (solo codec operationID).Yields (fun _ => True) state
      (store context (.reserveBackup record now)) fun later _ =>
        Reserved operationID record.backupID later := by
  refine store_advances.weaken fun later outcome advances => ?_
  cases outcome with
  | error => trivial
  | ok =>
    obtain ⟨middle, -, -, step⟩ := advances.commits
    exact ⟨record, step.reserved_backup.2, own⟩

theorem finish_completes {digest : String} {size : Int} {ready : BackupReadyEvidence}
    (reserved : Reserved operationID backupID state) :
    Completing codec operationID state
      (store context (.completeBackup backupID digest size ready now)) := by
  refine store_advances.weaken fun later outcome advances => ?_
  cases outcome with
  | error => trivial
  | ok =>
    obtain ⟨record, backup, rfl⟩ := reserved
    obtain ⟨middle, bystands, -, step⟩ := advances.commits
    obtain ⟨kept, keptFound, keeps, -⟩ := bystands.backups backupID record backup
    obtain ⟨stored, sixth, -, writer, now⟩ := step.completed_attempt keptFound
    have own : kept.operationID = record.operationID := by rw [keeps]
    rw [own] at now
    have executing : ¬ stored.status.Unresolved := by
      rw [writer.executing]
      decide
    exact ⟨_, _, now, executing,
      List.getElem?_set_self (List.getElem?_eq_some_iff.mp writer.sixth).1, rfl, rfl, rfl⟩

theorem create_completes {record : BackupRecord} {check : Flow BackupReadyEvidence}
    {ghost : Trace} (checks : Checks codec foundation operationID ghost check)
    (own : record.operationID = operationID) :
    Completing codec operationID state (engine.create record check) := by
  refine (solo_any _).bind fun checked ready _ => ?_
  refine (solo_any _).bind fun prepared named _ => ?_
  refine (solo_any _).bind fun clocked time _ => ?_
  have sameOwner : ({ record with ready := ready } : BackupRecord).operationID = operationID := own
  refine (reserve_reserves sameOwner).bind fun stored _ reserved => ?_
  have writes : Calm codec foundation operationID (engine.write record.backupID named.1) :=
    write_calm engine _ _
  refine (calm_yields (writes []) fun _ _ => trivial).bind fun written _ writing => ?_
  refine (calm_yields (reread_calm checks List.suffix_rfl) fun _ _ => trivial).bind
    fun reread _ rereading => ?_
  refine now_yields.bind fun finished time finishing => ?_
  have reserved := ((reserved.unchanged writing).unchanged rereading).unchanged finishing
  refine (finish_completes reserved).bind fun completed _ completes => ?_
  have checkpoints : Calm codec foundation operationID
      (checkpoint engine.boundary "metadata_committed") := .checkpoint _ _
  exact checkpoints.completes completes

theorem createBackup_completes : Completing codec operationID state
    (foundation.createBackup codec operationID intent operation attempt) := by
  refine (solo_any _).bind fun checked ready _ => ?_
  refine (solo_any _).bind fun marked _ _ => ?_
  refine (solo_any _).bind fun clocked createdAt _ => ?_
  have created : Completing codec operationID clocked
      (foundation.callCreate (foundation.backupRecord operationID intent attempt ready createdAt)
        (foundation.offline codec intent operation)) := by
    refine (solo_any _).bind fun called _ _ => ?_
    exact create_completes (fun later => offline_calm ⟨.bounded, List.mem_singleton_self _⟩) rfl
  refine (yields_reify created).bind fun ended outcome written => ?_
  cases outcome with
  | ok _ => exact written
  | error failure =>
    refine (solo_any _).bind fun read fresh _ => ?_
    cases fresh with
    | error _ => exact unknown_stops
    | ok fresh =>
      dsimp only
      split
      · trivial
      · exact unknown_stops

theorem iterate_completes :
    Completing codec operationID state (foundation.iterate codec operationID intent 5) := by
  refine (getOperation_yields fun _ _ => trivial).bind fun loaded operation reached => ?_
  obtain ⟨-, found, -⟩ := reached
  refine yields_lift_bind (fun _ _ => trivial) fun _ accepted => ?_
  have resolved := (refuse_eq_ok _ _ _).mp accepted
  have works : ∀ {started : Progress} {attempt : StepAttempt},
      Completing codec operationID started (do
        startExecuting operationID operation 5
        foundation.work codec operationID intent operation attempt 5) :=
    (solo_any _).bind fun _ _ _ => createBackup_completes
  have resumes : (solo codec operationID).Yields (fun _ => True) loaded
      (foundation.resume operationID operation 5) fun later result =>
        result = none → later.database.Completes operationID := by
    unfold resume
    split
    · rename_i attempt present
      split
      · rename_i complete
        exact fun _ => ⟨operation, attempt, found, resolved, present, complete⟩
      split
      · exact unknown_stops
      · exact fun impossible => nomatch impossible
    · refine (solo_any _).bind fun clocked time _ => ?_
      refine (solo_any _).bind fun prepared attempt _ => ?_
      refine (solo_any _).bind fun checked _ _ => ?_
      exact fun impossible => nomatch impossible
  refine resumes.bind fun resumed result reached => ?_
  cases result with
  | none => exact reached rfl
  | some attempt => exact works

theorem loop_completes (numbers : List Nat) :
    Completing codec operationID state
      ((numbers ++ [5]).forM (foundation.iterate codec operationID intent)) := by
  induction numbers generalizing state with
  | nil => exact iterate_completes.bind fun _ _ completes => completes
  | cons n numbers hypothesis => exact (solo_any _).bind fun _ _ _ => hypothesis

theorem run_completes : Completing codec operationID state (foundation.run codec operationID) := by
  refine yields_lift_bind (fun _ _ => trivial) fun _ _ => ?_
  refine (solo_any _).bind fun loaded operation _ => ?_
  refine (solo_any _).bind fun opened record _ => ?_
  refine yields_lift_bind (fun _ _ => trivial) fun _ _ => ?_
  refine (solo_any _).bind fun clocked _ _ => ?_
  refine (solo_any _).bind fun checked _ _ => ?_
  refine (solo_any _).bind fun started _ _ => ?_
  have loops : Completing codec operationID started
      ((List.range 6).forM (foundation.iterate codec operationID record.intent)) :=
    loop_completes (List.range 5)
  refine loops.bind fun looped _ completes => ?_
  have inspects : Calm codec foundation operationID
      (foundation.engine.inspect record.intent.reservedBackupID) := inspect_calm _ _
  exact inspects.completes completes

/-! ### A run that succeeds has reread the archive -/

/-- The protocol that only records. -/
abbrev recorder : Protocol Effect Effect.Answer Trace := recording fun _ _ => True

theorem run_inspects (foundation : Foundation) (operationID : String) :
    recorder.Safe [] (foundation.run codec operationID).run fun later outcome =>
      outcome = .ok () → ∃ backupID backup, Inspected operationID later backupID backup :=
  Safe.relax (Safe.weaken (run_conducted codec foundation operationID)
    fun _ _ reached => reached ()) (fun _ _ _ => trivial) fun _ _ _ _ _ => id

/-! ### A further run only reads -/

/-- The operation has passed S05 and the backup reserved in its intent is complete. -/
structure Finished (operationID : String) (operation : Operation) (intent : ChangeIntent)
    (backup : BackupRecord) (database : Database) : Prop where
  opened : database.operation operationID = some operation
  performed : operation.Performed
  approved : ∃ record, database.intent operation.intentID = some record ∧ record.intent = intent
  stored : database.backup intent.reservedBackupID = some backup
  valid : backup.validateCompleted = .ok ()

/-- The calls that read the journal, the clock or the files. -/
def Effect.reads : Effect → Bool
  | .store _ (.getIntent _) | .store _ (.getOperation _) | .store _ (.getBackup _) | .now
  | .file _ => true
  | _ => false

/-- The protocol of a run that may only read. -/
def repeating (codec : Codec) (operationID : String) : Protocol Effect Effect.Answer Database where
  allowed _ effect := effect.reads = true
  moves database effect answer later := ∃ middle, Bystands operationID database middle ∧
    middle.Coherent ∧ Reacts codec middle effect answer later

theorem Reacts.same_of_reads {before after : Database}
    (reacts : Reacts codec before effect answer after) (reads : effect.reads = true) :
    after = before := by
  rcases reacts.commits with same | ⟨context, ⟨ids, call⟩, rfl, result, run⟩
  · exact same
  · cases call with
    | getIntent | getOperation | getBackup => exact (reading_eq_ok.mp run).2.symm
    | _ => cases reads

section Repeating

variable {backup : BackupRecord} {after : Database} {n : Nat}

theorem Operation.Performed.complete (performed : operation.Performed) (small : n < 6) :
    ∃ attempt, operation.attempts[n]? = some attempt ∧ attempt.Complete := by
  have length : operation.attempts.length = 6 := by
    rw [← List.length_map (f := (·.stepKind)), performed.kinds]
    rfl
  have inside : n < operation.attempts.length := by omega
  exact ⟨_, List.getElem?_eq_getElem inside, performed.attempts _ (List.getElem_mem inside)⟩

theorem checkClock_reads :
    (checkClock intent operation).run.Uses fun effect => effect.reads = true := by
  refine uses_bind ⟨rfl, fun _ => trivial⟩ fun _ => uses_bind ⟨rfl, fun _ => trivial⟩ fun _ => ?_
  refine uses_bind trivial fun _ => uses_bind ⟨rfl, fun _ => trivial⟩ fun _ => ?_
  exact uses_bind trivial fun _ => uses_bind ⟨rfl, fun _ => trivial⟩ fun _ => trivial

theorem checkStart_reads :
    (checkStart intent operation).run.Uses fun effect => effect.reads = true := by
  unfold checkStart
  split
  · exact uses_bind ⟨rfl, fun _ => trivial⟩ fun _ => trivial
  · exact trivial

variable (finished : Finished operationID operation intent backup database)
  {sealedIntent : ChangeIntent}

include finished

theorem Finished.elsewhere
    (elsewhere : Bystands operationID database after) :
    Finished operationID operation intent backup after where
  opened := by
    refine elsewhere.started operation finished.opened fun empty => ?_
    have kinds := finished.performed.kinds
    rw [empty] at kinds
    cases kinds
  performed := finished.performed
  approved := by
    obtain ⟨record, found, same⟩ := finished.approved
    obtain ⟨later, laterFound, kept⟩ := elsewhere.persists.intents _ record found
    exact ⟨later, laterFound, kept.trans same⟩
  stored := by
    obtain ⟨later, found, -, kept⟩ := elsewhere.backups _ backup finished.stored
    rw [kept ((BackupRecord.validateCompleted_eq_ok finished.valid).1 ▸ by decide)] at found
    exact found
  valid := finished.valid

theorem Finished.read (moved : (repeating codec operationID).moves database effect answer after)
    (reads : effect.reads = true) :
    Finished operationID operation intent backup after ∧
      Reacts codec after effect answer after := by
  obtain ⟨middle, elsewhere, -, reacts⟩ := moved
  have same := reacts.same_of_reads reads
  subst same
  exact ⟨finished.elsewhere elsewhere, reacts⟩

theorem reads_finished (uses : program.run.Uses fun effect => effect.reads = true) :
    (repeating codec operationID).Ensures database program fun later _ =>
      Finished operationID operation intent backup later := by
  have safe : (repeating codec operationID).Safe database program.run fun later _ =>
      Finished operationID operation intent backup later := by
    generalize program.run = rest at uses
    induction rest generalizing database with
    | done result => exact finished
    | call effect next hypothesis =>
      refine ⟨uses.1, fun answer later moved => ?_⟩
      exact hypothesis answer (finished.read moved uses.1).1 (uses.2 answer)
  exact Protocol.Holds.weaken safe fun _ _ finished _ _ => finished

theorem store_finished {call : StoreCall} (reads : (Effect.store context call).reads = true) :
    (repeating codec operationID).Ensures database (store context call) fun later result =>
      Finished operationID operation intent backup later ∧
        ∃ ids, exec codec ids later call = .ok (result, later) := by
  refine ⟨reads, fun answer later moved result same => ?_⟩
  obtain ⟨finished, reacts⟩ := finished.read moved reads
  cases same
  exact ⟨finished, reacts.exec_of_ok⟩

theorem getOperation_finished :
    (repeating codec operationID).Ensures database (store .bounded (.getOperation operationID))
      fun later read => Finished operationID operation intent backup later ∧ read = operation := by
  refine (store_finished finished rfl).weaken fun later read reached => ?_
  obtain ⟨finished, ids, run⟩ := reached
  have found := (Database.getOperationTx_eq_ok ..).mp (reading_eq_ok.mp run).1
  exact ⟨finished, Option.mem_unique found finished.opened⟩

theorem iterate_finished (small : n < 6) :
    (repeating codec operationID).Ensures database
      (foundation.iterate codec operationID sealedIntent n) fun later _ =>
        Finished operationID operation intent backup later := by
  refine (getOperation_finished finished).bind fun loaded read reached => ?_
  obtain ⟨finished, rfl⟩ := reached
  refine ensures_lift_bind fun _ _ => ?_
  obtain ⟨attempt, present, complete⟩ := finished.performed.complete small
  have resumes : foundation.resume operationID read n = pure none := by
    unfold resume
    rw [present]
    exact if_pos complete
  rw [resumes]
  exact ensures_pure.mpr finished

theorem loop_finished (numbers : List Nat) (small : ∀ n ∈ numbers, n < 6) :
    (repeating codec operationID).Ensures database
      (numbers.forM (foundation.iterate codec operationID sealedIntent)) fun later _ =>
        Finished operationID operation intent backup later := by
  induction numbers generalizing database with
  | nil => exact ensures_pure.mpr finished
  | cons n numbers hypothesis =>
    refine (iterate_finished finished (small n List.mem_cons_self)).bind fun later _ finished => ?_
    exact hypothesis finished fun n member => small n (List.mem_cons_of_mem _ member)

theorem inspect_finished :
    (repeating codec operationID).Ensures database (engine.inspect intent.reservedBackupID)
      fun _ _ => True := by
  refine (store_finished finished rfl).bind fun read record reached => ?_
  obtain ⟨finished, ids, run⟩ := reached
  have found := (demand_eq_ok ..).mp (reading_eq_ok.mp run).1
  obtain rfl := Option.mem_unique found finished.stored
  rw [finished.valid]
  refine ensures_lift_bind fun _ _ => ensures_lift_bind fun name _ => ?_
  have opens : Engine.checkDestination.run.Uses fun effect => effect.reads = true := by
    refine uses_bind ⟨rfl, fun _ => trivial⟩ fun _ => uses_bind ⟨rfl, fun _ => trivial⟩
      fun outcome => ?_
    split <;> trivial
  refine (reads_finished finished opens).bind fun opened _ finished => ?_
  have verifies : (file (.verify name)).run.Uses fun effect => effect.reads = true :=
    ⟨rfl, fun _ => trivial⟩
  exact (reads_finished finished verifies).bind fun _ _ _ => ensures_lift.mpr fun _ _ => trivial

theorem run_repeats (foundation : Foundation) :
    (repeating codec operationID).Safe database (foundation.run codec operationID).run
      fun _ _ => True := by
  have ensured : (repeating codec operationID).Ensures database
      (foundation.run codec operationID) fun _ _ => True := by
    refine ensures_lift_bind fun _ _ => ?_
    refine (getOperation_finished finished).bind fun loaded read reached => ?_
    obtain ⟨finished, rfl⟩ := reached
    refine (store_finished finished rfl).bind fun opened record reached => ?_
    obtain ⟨finished, ids, run⟩ := reached
    have found := (demand_eq_ok ..).mp (reading_eq_ok.mp run).1
    obtain ⟨stored, isStored, rfl⟩ := finished.approved
    obtain rfl := Option.mem_unique found isStored
    refine ensures_lift_bind fun _ _ => ?_
    refine (reads_finished finished checkClock_reads).bind fun clocked _ finished => ?_
    refine (reads_finished finished checkStart_reads).bind fun checked _ finished => ?_
    have starts : startPreparing operationID record.intent read = pure () := by
      refine if_neg ?_
      rw [finished.performed.executing]
      nofun
    have started : (repeating codec operationID).Ensures checked
        (startPreparing operationID record.intent read) fun later _ =>
          Finished operationID read record.intent backup later := by
      rw [starts]
      exact ensures_pure.mpr finished
    refine started.bind fun started _ finished => ?_
    refine (loop_finished finished (List.range 6) fun _ => List.mem_range.mp).bind
      fun looped _ finished => ?_
    exact inspect_finished finished
  exact Protocol.Holds.weaken ensured fun _ _ _ => trivial

end Repeating

/-! ### Runs in sequence -/

/-- The process has calls to make. -/
def Process.unfinished (process : Process) : Bool :=
  process.alive && match process.rest with
    | .call .. => true
    | .done _ => false

/-- No run of the operation is under way. -/
def System.idle (system : System) (operationID : String) : Bool :=
  system.processes.all fun process => process.operationID ≠ operationID || !process.unfinished

/-- A run of the operation is started only when no other run of it is under way. -/
def System.InTurn (operationID : String) (system : System) : Choice → Prop
  | .start _ id => id = operationID → system.idle operationID = true
  | _ => True

/-- The runs of the operation follow one another, each ended or cut off before the next one. -/
def Sequential (codec : Codec) (operationID : String) (schedule : List Choice) : Prop :=
  Runs.Along (System.step codec) (System.InTurn operationID) .initial schedule

instance (operationID : String) (system : System) :
    (choice : Choice) → Decidable (system.InTurn operationID choice)
  | .start .. => inferInstanceAs (Decidable (_ → _))
  | .perform .. | .command .. | .die _ => .isTrue trivial

instance (codec : Codec) (operationID : String) (schedule : List Choice) :
    Decidable (Sequential codec operationID schedule) :=
  inferInstanceAs (Decidable (Runs.Along _ _ _ _))

/-- The process is a run of the operation that has returned without an error. -/
def System.succeeded (system : System) (operationID : String) (pid : Nat) : Bool :=
  match system.processes[pid]? with
  | some ⟨_, id, _, .done (.ok _)⟩ => id = operationID
  | _ => false

/-- The system after a call of a process. -/
def System.proceed (system : System) (pid : Nat) (process : Process) {effect : Effect}
    (answer : effect.Answer) (rest : Program Effect Effect.Answer (Except Failure Unit))
    (after : Database) : System where
  database := after
  processes := system.processes.set pid { process with rest := rest }
  history := ⟨some pid, ⟨effect, answer⟩, system.database, after⟩ :: system.history

/-- The process is a run of the operation that is under way. -/
structure System.Running (system : System) (operationID : String) (pid : Nat) (process : Process) :
    Prop where
  present : system.processes[pid]? = some process
  own : process.operationID = operationID
  unfinished : process.unfinished = true

theorem Process.unfinished_calls (unfinished : process.unfinished = true) :
    ∃ effect next, process.rest = .call effect next := by
  obtain ⟨foundation, id, alive, rest⟩ := process
  cases rest with
  | done result =>
    rw [Process.unfinished, Bool.and_false] at unfinished
    cases unfinished
  | call effect next => exact ⟨effect, next, rfl⟩

namespace System

variable {system next : System} {pid : Nat}

theorem succeeded_iff : system.succeeded operationID pid = true ↔
    ∃ process, system.processes[pid]? = some process ∧ process.operationID = operationID ∧
      process.rest = .done (.ok ()) := by
  unfold succeeded
  constructor
  · intro succeeded
    split at succeeded
    · rename_i present
      exact ⟨_, present, of_decide_eq_true succeeded, rfl⟩
    · cases succeeded
  · rintro ⟨⟨foundation, id, alive, rest⟩, present, rfl, rfl⟩
    rw [present]
    exact decide_eq_true rfl

theorem idle_running (idle : system.idle operationID = true) :
    ¬ system.Running operationID pid process := by
  intro running
  have met := List.all_eq_true.mp idle process (List.mem_of_getElem? running.present)
  rw [running.unfinished, running.own] at met
  simp at met

end System

theorem Chained.read_backup {pid : Nat} {backup : BackupRecord}
    (chained : Chained codec database history)
    (answered : Answered (traceOf pid history) (.getBackup backupID) backup)
    (valid : backup.status = .valid) : database.backup backupID = some backup := by
  obtain ⟨event, member, -, ids, run⟩ := chained.carried answered
  obtain ⟨found, same⟩ := reading_eq_ok.mp run
  have present : event.after.ledger.backups backupID = some backup := by
    rw [← same]
    exact (demand_eq_ok ..).mp found
  obtain ⟨later, isLater, -, kept⟩ := chained.relation BackupsPersist BackupsPersist.refl
    BackupsPersist.trans (fun _ step => step.backupsPersist) member _ backup present
  rw [kept (valid ▸ by decide)] at isLater
  exact isLater

/-- A run that has completed its operation and reread the archive has finished. -/
theorem System.Lawful.finished {system : System} {pid : Nat} {backup : BackupRecord}
    (lawful : system.Lawful codec) (confines : system.Confines codec)
    (completes : system.database.Completes operationID)
    (inspected : Inspected operationID (traceOf pid system.history) backupID backup) :
    ∃ operation intent, intent.reservedBackupID = backupID ∧
      Finished operationID operation intent backup system.database := by
  obtain ⟨operation, found, performed⟩ := lawful.performed confines completes
  obtain ⟨read, record, name, answered, intentAnswered, rfl, backupAnswered, valid, -⟩ := inspected
  obtain ⟨later, isLater, continues⟩ := lawful.chained.read_operation answered
  obtain rfl := Option.mem_unique isLater found
  obtain ⟨stored, isStored, same⟩ := lawful.chained.read_intent intentAnswered
  refine ⟨later, record.intent, rfl, found, performed, ⟨stored, ?_, same⟩,
    lawful.chained.read_backup backupAnswered (BackupRecord.validateCompleted_eq_ok valid).1, valid⟩
  rw [continues.identity.intentID]
  exact isStored

/-- Every run that returns without an error has reread the archive. -/
abbrev System.Inspects (system : System) : Prop :=
  system.Follows (fun _ _ _ => True) fun operationID trace outcome =>
    outcome = .ok () → ∃ backupID backup, Inspected operationID trace backupID backup

theorem System.Inspects.finished {system : System} {pid : Nat} (inspects : system.Inspects)
    (lawful : system.Lawful codec) (confines : system.Confines codec)
    (present : system.processes[pid]? = some process) (ended : process.rest = .done (.ok ()))
    (completes : system.database.Completes process.operationID) :
    ∃ operation intent backup,
      Finished process.operationID operation intent backup system.database := by
  have inspected := inspects pid process present
  rw [ended] at inspected
  obtain ⟨backupID, backup, inspected⟩ := inspected rfl
  obtain ⟨operation, intent, -, finished⟩ := lawful.finished confines completes inspected
  exact ⟨operation, intent, backup, finished⟩

/-- What a run under way may leave. -/
def Leaves (operationID : String) (later : Progress) (outcome : Except Failure Unit) : Prop :=
  outcome = .ok () → later.database.Completes operationID

theorem run_leaves (foundation : Foundation) :
    (solo codec operationID).Safe state (foundation.run codec operationID).run
      (Leaves operationID) := by
  have completing : Completing codec operationID state (foundation.run codec operationID) :=
    run_completes
  refine Safe.weaken completing fun later outcome reached success => ?_
  subst success
  exact reached

/-- The runs of the operation are in sequence, and what they have achieved stands. -/
structure Sequenced (codec : Codec) (operationID : String) (system : System) : Prop where
  lawful : system.Lawful codec
  confines : system.Confines codec
  inspects : system.Follows (fun _ _ _ => True) fun operationID trace outcome =>
    outcome = .ok () → ∃ backupID backup, Inspected operationID trace backupID backup
  alone : ∀ {pid other process rival}, system.Running operationID pid process →
    system.Running operationID other rival → pid = other
  leaves : ∀ {pid process}, system.Running operationID pid process →
    ∃ turns, (solo codec operationID).Safe ⟨system.database, turns⟩ process.rest
      (Leaves operationID)
  finished : ∀ {pid}, system.succeeded operationID pid = true →
    ∃ operation intent backup, Finished operationID operation intent backup system.database
  repeats : ∀ {pid other process}, system.succeeded operationID pid = true →
    system.Running operationID other process →
      (repeating codec operationID).Safe system.database process.rest fun _ _ => True

namespace Sequenced

variable {system next : System}

theorem initial : Sequenced codec operationID .initial where
  lawful := System.initial_lawful
  confines := ⟨trivial, fun _ _ present => nomatch present⟩
  inspects := fun _ _ present => nomatch present
  alone running := nomatch running.present
  leaves running := nomatch running.present
  finished succeeded := nomatch (System.succeeded_iff.mp succeeded).choose_spec.1
  repeats _ running := nomatch running.present

/-- What happens elsewhere disturbs neither the run under way nor what was achieved. -/
theorem elsewhere (sequenced : Sequenced codec operationID system) (lawful : next.Lawful codec)
    (confines : next.Confines codec)
    (inspects : next.Inspects) (elsewhere : Bystands operationID system.database next.database)
    (running : ∀ {pid process}, next.Running operationID pid process →
      system.Running operationID pid process)
    (succeeded : ∀ {pid}, next.succeeded operationID pid = true →
      system.succeeded operationID pid = true) :
    Sequenced codec operationID next where
  lawful := lawful
  confines := confines
  inspects := inspects
  alone first second := sequenced.alone (running first) (running second)
  leaves isRunning := by
    obtain ⟨turns, safe⟩ := sequenced.leaves (running isRunning)
    obtain ⟨effect, rest, calls⟩ := Process.unfinished_calls isRunning.unfinished
    rw [calls] at safe ⊢
    refine ⟨turns, trivial, fun answer later moved => safe.2 answer later ?_⟩
    obtain ⟨middle, world, delivery, bystands, reached⟩ := moved
    exact ⟨middle, world, delivery, elsewhere.trans bystands, reached⟩
  finished isSucceeded := by
    obtain ⟨operation, intent, backup, finished⟩ := sequenced.finished (succeeded isSucceeded)
    exact ⟨operation, intent, backup, finished.elsewhere elsewhere⟩
  repeats isSucceeded isRunning := by
    have safe := sequenced.repeats (succeeded isSucceeded) (running isRunning)
    obtain ⟨effect, rest, calls⟩ := Process.unfinished_calls isRunning.unfinished
    rw [calls] at safe ⊢
    refine ⟨safe.1, fun answer later moved => safe.2 answer later ?_⟩
    obtain ⟨middle, further, reached⟩ := moved
    exact ⟨middle, elsewhere.trans further, reached⟩

theorem apart (lawful : next.Lawful codec) (confines : next.Confines codec)
    (latest : next.history = event :: system.history)
    (other : ∀ pid foundation, event.actor = some pid →
      next.owner pid ≠ some (foundation, operationID)) :
    Bystands operationID event.before event.after := by
  have chained := lawful.chained
  have permitted := lawful.permitted
  have keeps := confines.keeps
  rw [latest] at chained permitted keeps
  exact permitted.bystands chained keeps other

section

variable (sequenced : Sequenced codec operationID system)
  {rest : effect.Answer → Program Effect Effect.Answer (Except Failure Unit)}

include sequenced

theorem transition (transition : system.Transition codec next) :
    next.Lawful codec ∧ next.Confines codec ∧ next.Inspects :=
  ⟨sequenced.lawful.transition transition,
    sequenced.confines.transition sequenced.lawful transition,
    sequenced.inspects.transition run_inspects sequenced.lawful transition⟩

theorem performed_other {pid : Nat} {after : Database}
    (present : system.processes[pid]? = some process) (other : process.operationID ≠ operationID)
    (transition : system.Transition codec (system.proceed pid process answer (rest answer) after)) :
    Sequenced codec operationID (system.proceed pid process answer (rest answer) after) := by
  obtain ⟨lawful, confines, inspects⟩ := sequenced.transition transition
  have elsewhere : ∀ {place : Nat} {found : Process},
      (system.processes.set pid { process with rest := rest answer })[place]? = some found →
      found.operationID = operationID → system.processes[place]? = some found := by
    intro place found isFound own
    rcases set_eq_some.mp isFound with ⟨-, -, rfl⟩ | ⟨-, was⟩
    · exact absurd own other
    · exact was
  refine sequenced.elsewhere lawful confines inspects
    (apart lawful confines rfl fun actor foundation own owned => ?_)
    (fun running => ?_) fun succeeded => ?_
  · obtain rfl := Option.some.inj own
    have isOwner := (System.owner_set present process.alive (rest answer) pid).trans
      (System.owner_of_present present)
    exact other (Prod.mk.inj (Option.mem_unique isOwner owned)).2
  · have was := elsewhere running.present running.own
    exact ⟨was, running.own, running.unfinished⟩
  · obtain ⟨found, isFound, own, ended⟩ := System.succeeded_iff.mp succeeded
    exact System.succeeded_iff.mpr ⟨found, elsewhere isFound own, own, ended⟩

theorem performed_own {pid : Nat} {after : Database}
    (running : system.Running operationID pid process) (calls : process.rest = .call effect rest)
    {world : World} {delivery : Delivery}
    (reaction : react codec world delivery system.database effect = (answer, after))
    (transition : system.Transition codec (system.proceed pid process answer (rest answer) after)) :
    Sequenced codec operationID (system.proceed pid process answer (rest answer) after) := by
  obtain ⟨lawful, confines, inspects⟩ := sequenced.transition transition
  have reacts : Reacts codec system.database effect _ _ := react_reacts world delivery effect
  rw [reaction] at reacts
  obtain ⟨turns, safe⟩ := sequenced.leaves running
  rw [calls] at safe
  have goesOn := safe.2 answer ⟨after, turns ++ [.of codec effect system.database world delivery]⟩
    ⟨system.database, world, delivery, .refl _, sequenced.lawful.chained.coherent, reaction, rfl⟩
  have only : ∀ {place found},
      (system.proceed pid process answer (rest answer) after).Running operationID place found →
      place = pid ∧ found = { process with rest := rest answer } := by
    intro place found isRunning
    rcases set_eq_some.mp isRunning.present with ⟨rfl, -, rfl⟩ | ⟨away, was⟩
    · exact ⟨rfl, rfl⟩
    · have same := sequenced.alone ⟨was, isRunning.own, isRunning.unfinished⟩ running
      exact absurd same.symm away
  refine ⟨lawful, confines, inspects, fun first second => ?_, fun isRunning => ?_,
    fun {place} succeeded => ?_, fun {place other _} succeeded isRunning => ?_⟩
  · exact (only first).1.trans (only second).1.symm
  · obtain ⟨rfl, rfl⟩ := only isRunning
    exact ⟨_, goesOn⟩
  · obtain ⟨found, isFound, own, ended⟩ := System.succeeded_iff.mp succeeded
    rcases set_eq_some.mp isFound with ⟨rfl, -, rfl⟩ | ⟨-, was⟩
    · rw [show rest answer = .done (.ok ()) from ended] at goesOn
      rw [← own] at goesOn ⊢
      exact inspects.finished lawful confines isFound ended (goesOn rfl)
    · have was := System.succeeded_iff.mpr ⟨found, was, own, ended⟩
      have reading := sequenced.repeats was running
      rw [calls] at reading
      rw [show after = system.database from reacts.same_of_reads reading.1]
      exact sequenced.finished was
  · obtain ⟨rfl, rfl⟩ := only isRunning
    obtain ⟨found, isFound, own, ended⟩ := System.succeeded_iff.mp succeeded
    rcases set_eq_some.mp isFound with ⟨-, -, rfl⟩ | ⟨-, was⟩
    · obtain ⟨_, _, stillCalls⟩ := Process.unfinished_calls isRunning.unfinished
      rw [ended] at stillCalls
      cases stillCalls
    · have reading := sequenced.repeats (System.succeeded_iff.mpr ⟨found, was, own, ended⟩) running
      rw [calls] at reading
      exact reading.2 answer after
        ⟨system.database, .refl _, sequenced.lawful.chained.coherent, reacts⟩

theorem perform (pid : Nat) (world : World) (delivery : Delivery) :
    Sequenced codec operationID (system.perform codec pid world delivery) := by
  unfold System.perform
  split
  · rename_i foundation id effect next present
    have reacts : Reacts codec system.database effect _ _ := react_reacts world delivery effect
    have transition : system.Transition codec _ := .performed present rfl rfl reacts
    by_cases own : id = operationID
    · exact sequenced.performed_own ⟨present, own, rfl⟩ rfl rfl transition
    · exact sequenced.performed_other present own transition
  · exact sequenced

theorem command (delivery : Delivery) (call : StoreCall) :
    Sequenced codec operationID (system.command codec delivery call) := by
  unfold System.command
  split
  · rename_i isCommand
    have transition : system.Transition codec _ :=
      .commanded isCommand (deliver_reacts delivery .bounded call)
    obtain ⟨lawful, confines, inspects⟩ := sequenced.transition transition
    exact sequenced.elsewhere lawful confines inspects
      (apart lawful confines rfl fun _ _ own => absurd own nofun)
      (fun running => ⟨running.present, running.own, running.unfinished⟩) id
  · exact sequenced

theorem die (pid : Nat) : Sequenced codec operationID (system.die pid) := by
  unfold System.die
  split
  · rename_i dead present
    obtain ⟨lawful, confines, inspects⟩ := sequenced.transition (.died present)
    refine sequenced.elsewhere lawful confines inspects (.refl _)
      (fun {place process} running => ⟨?_, running.own, running.unfinished⟩)
      fun {place} succeeded => ?_
    · rcases set_eq_some.mp running.present with ⟨-, -, rfl⟩ | ⟨-, was⟩
      · exact absurd running.unfinished nofun
      · exact was
    · obtain ⟨process, found, own, ended⟩ := System.succeeded_iff.mp succeeded
      refine System.succeeded_iff.mpr ?_
      rcases set_eq_some.mp found with ⟨rfl, -, rfl⟩ | ⟨-, was⟩
      · exact ⟨dead, present, own, ended⟩
      · exact ⟨process, was, own, ended⟩
  · exact sequenced

theorem start (foundation : Foundation) (id : String)
    (inTurn : id = operationID → system.idle operationID = true) :
    Sequenced codec operationID (system.step codec (.start foundation id)) := by
  obtain ⟨lawful, confines, inspects⟩ :=
    sequenced.transition (system.step_transition (.start foundation id))
  by_cases own : id = operationID
  · subst own
    have idle : ∀ {place found}, ¬ system.Running id place found := System.idle_running (inTurn rfl)
    have only : ∀ {place found},
        (system.step codec (.start foundation id)).Running id place found →
        place = system.processes.length ∧ Process.start codec foundation id = found :=
      fun running => (concat_eq_some.mp running.present).resolve_left fun present =>
        idle ⟨present, running.own, running.unfinished⟩
    have finished : ∀ {place},
        (system.step codec (.start foundation id)).succeeded id place = true →
        ∃ operation intent backup, Finished id operation intent backup system.database := by
      intro place succeeded
      obtain ⟨found, present, own, ended⟩ := System.succeeded_iff.mp succeeded
      rcases concat_eq_some.mp present with was | ⟨-, rfl⟩
      · exact sequenced.finished (System.succeeded_iff.mpr ⟨found, was, own, ended⟩)
      · have starts : (solo codec id).Safe ⟨system.database, []⟩
            (foundation.run codec id).run (Leaves id) := run_leaves foundation
        rw [show (foundation.run codec id).run = .done (.ok ()) from ended] at starts
        exact inspects.finished lawful confines present ended (starts rfl)
    refine ⟨lawful, confines, inspects, fun first second => ?_, fun running => ?_, finished,
      fun succeeded running => ?_⟩
    · exact (only first).1.trans (only second).1.symm
    · obtain ⟨rfl, rfl⟩ := only running
      exact ⟨[], run_leaves foundation⟩
    · obtain ⟨rfl, rfl⟩ := only running
      obtain ⟨operation, intent, backup, isFinished⟩ := finished succeeded
      exact run_repeats isFinished foundation
  · refine sequenced.elsewhere lawful confines inspects (.refl _) (fun running => ?_)
      fun succeeded => ?_
    · rcases concat_eq_some.mp running.present with was | ⟨-, rfl⟩
      · exact ⟨was, running.own, running.unfinished⟩
      · exact absurd running.own own
    · obtain ⟨found, present, isOwn, ended⟩ := System.succeeded_iff.mp succeeded
      rcases concat_eq_some.mp present with was | ⟨-, rfl⟩
      · exact System.succeeded_iff.mpr ⟨found, was, isOwn, ended⟩
      · exact absurd isOwn own

theorem step (inTurn : system.InTurn operationID choice) :
    Sequenced codec operationID (system.step codec choice) := by
  cases choice with
  | start foundation id => exact sequenced.start foundation id inTurn
  | perform pid world delivery => exact sequenced.perform pid world delivery
  | command delivery call => exact sequenced.command delivery call
  | die pid => exact sequenced.die pid

end

end Sequenced

theorem Sequential.sequenced {schedule : List Choice}
    (sequential : Sequential codec operationID schedule) :
    Sequenced codec operationID (System.reach codec schedule) :=
  Runs.invariant_along (Sequenced codec operationID)
    (fun _ _ inTurn sequenced => sequenced.step inTurn) .initial sequential

/-! ### The meaning of success -/

theorem Effect.targetCall_of_reads (reads : effect.reads = true) : effect.targetCall = none := by
  cases effect with
  | closeAdmission | dispatchGracefulStop | createBackup => cases reads
  | _ => rfl

/-- A run of the operation has succeeded, and the process has only read. -/
structure Repeated (codec : Codec) (operationID : String) (pid : Nat) (system : System) :
    Prop where
  sequenced : Sequenced codec operationID system
  succeeded : ∃ earlier, system.succeeded operationID earlier = true
  own : ∀ process, system.processes[pid]? = some process → process.operationID = operationID
  reads : ∀ event ∈ system.history, event.actor = some pid →
    event.after = event.before ∧ event.occurrence.effect.reads = true

namespace Repeated

variable {system : System} {pid : Nat}

theorem succeeded_transition {next : System} {earlier : Nat}
    (succeeded : system.succeeded operationID earlier = true)
    (transition : system.Transition codec next) : next.succeeded operationID earlier = true := by
  obtain ⟨process, present, own, ended⟩ := System.succeeded_iff.mp succeeded
  refine System.succeeded_iff.mpr ?_
  cases transition with
  | idle | commanded => exact ⟨process, present, own, ended⟩
  | started => exact ⟨process, concat_of_present present, own, ended⟩
  | @died dead other isOther =>
    by_cases here : dead = earlier
    · subst here
      obtain rfl := Option.mem_unique isOther present
      exact ⟨_, set_of_present present, own, ended⟩
    · exact ⟨process, (List.getElem?_set_ne here).trans present, own, ended⟩
  | @performed actor other _ _ _ _ isOther _ calls =>
    have away : actor ≠ earlier := by
      rintro rfl
      obtain rfl := Option.mem_unique isOther present
      rw [ended] at calls
      cases calls
    exact ⟨process, (List.getElem?_set_ne away).trans present, own, ended⟩

theorem started (sequenced : Sequenced codec operationID system)
    (succeeded : system.succeeded operationID pid = true) (foundation : Foundation)
    (inTurn : system.InTurn operationID (.start foundation operationID)) :
    Repeated codec operationID system.nextPid
        (system.step codec (.start foundation operationID)) ∧
      system.nextPid < (system.step codec (.start foundation operationID)).processes.length := by
  have longer : (system.step codec (.start foundation operationID)).processes.length =
      system.processes.length + 1 := List.length_append
  refine ⟨⟨sequenced.start foundation operationID inTurn, ⟨pid, succeeded_transition succeeded
    (System.step_transition _ _)⟩, fun process present => ?_, fun event member own => ?_⟩, ?_⟩
  · obtain rfl := Option.some.inj (List.getElem?_concat_length.symm.trans present)
    rfl
  · have traced : event.occurrence ∈ traceOf system.processes.length system.history :=
      mem_traceOf.mpr ⟨event, member, own, rfl⟩
    rw [sequenced.lawful.unstarted _ (Nat.le_refl _)] at traced
    cases traced
  · rw [longer]
    exact Nat.lt_succ_self _

theorem step (repeated : Repeated codec operationID pid system)
    (inTurn : system.InTurn operationID choice) (known : pid < system.processes.length) :
    Repeated codec operationID pid (system.step codec choice) ∧
      pid < (system.step codec choice).processes.length := by
  have transition : system.Transition codec (system.step codec choice) :=
    system.step_transition choice
  have sequenced := repeated.sequenced.step inTurn
  obtain ⟨earlier, succeeded⟩ := repeated.succeeded
  have still := succeeded_transition succeeded transition
  generalize system.step codec choice = next at transition sequenced still
  cases transition with
  | idle => exact ⟨repeated, known⟩
  | started =>
    refine ⟨⟨sequenced, ⟨earlier, still⟩, fun process present => ?_, repeated.reads⟩, ?_⟩
    · exact repeated.own process ((List.getElem?_append_left known).symm.trans present)
    · rw [List.length_append]
      omega
  | @died dead other isOther =>
    refine ⟨⟨sequenced, ⟨earlier, still⟩, fun process present => ?_, repeated.reads⟩, ?_⟩
    · rcases set_eq_some.mp present with ⟨rfl, -, rfl⟩ | ⟨-, was⟩
      · exact repeated.own other isOther
      · exact repeated.own process was
    · rwa [List.length_set]
  | @performed actor other effect answer rest after isOther alive calls reacts =>
    refine ⟨⟨sequenced, ⟨earlier, still⟩, fun process present => ?_, fun event member own => ?_⟩,
      ?_⟩
    · rcases set_eq_some.mp present with ⟨rfl, -, rfl⟩ | ⟨-, was⟩
      · exact repeated.own other isOther
      · exact repeated.own process was
    · rcases List.mem_cons.mp member with rfl | old
      · obtain rfl := Option.some.inj own
        have unfinished : other.unfinished = true := by
          rw [Process.unfinished, alive, calls]
          rfl
        have safe := repeated.sequenced.repeats succeeded
          ⟨isOther, repeated.own other isOther, unfinished⟩
        rw [calls] at safe
        exact ⟨reacts.same_of_reads safe.1, safe.1⟩
      · exact repeated.reads event old own
    · rwa [List.length_set]
  | commanded =>
    refine ⟨⟨sequenced, ⟨earlier, still⟩, repeated.own, fun event member own => ?_⟩, known⟩
    rcases List.mem_cons.mp member with rfl | old
    · cases own
    · exact repeated.reads event old own

end Repeated

/-- The meaning of a successful run. The runs of an operation are in sequence, each ended or cut
off before the next one starts, while operators, agents and the runs of other operations go on. If
a run of the operation has returned without an error, then the operation has exactly the attempts
S00 to S05, complete; it is executing, owned and not verified; the backup reserved in its intent
is valid, and the run has reread the archive with the recorded digest and size. And a further run
changes nothing in the journal and makes no call of the target. -/
theorem successful_run_means (codec : Codec) (operationID : String) (schedule : List Choice)
    (sequential : Sequential codec operationID schedule) (pid : Nat)
    (succeeded : (System.reach codec schedule).succeeded operationID pid = true) :
    (∃ operation record backup name,
      (System.reach codec schedule).database.operation operationID = some operation ∧
      operation.Performed ∧
      (System.reach codec schedule).database.intent operation.intentID = some record ∧
      (System.reach codec schedule).database.backup record.intent.reservedBackupID = some backup ∧
      backup.status = .valid ∧ archiveName record.intent.reservedBackupID = .ok name ∧
      ∃ event ∈ (System.reach codec schedule).history, event.actor = some pid ∧
        event.occurrence =
          ⟨.file (.verify name), .ok (backup.archiveSHA256, backup.archiveSizeBytes)⟩) ∧
    ∀ foundation choices,
      Sequential codec operationID (schedule ++ .start foundation operationID :: choices) →
      ∀ event ∈ (System.afterRun codec schedule foundation operationID choices).history,
        event.actor = some (System.reach codec schedule).nextPid →
          event.after = event.before ∧ event.occurrence.effect.targetCall = none := by
  have sequenced := sequential.sequenced
  constructor
  · obtain ⟨process, present, own, ended⟩ := System.succeeded_iff.mp succeeded
    have inspected := sequenced.inspects pid process present
    rw [ended, own] at inspected
    obtain ⟨backupID, backup, inspected⟩ := inspected rfl
    obtain ⟨operation, intent, stored, finished⟩ := sequenced.finished succeeded
    have completes : (System.reach codec schedule).database.Completes operationID := by
      obtain ⟨attempt, sixth, complete⟩ := finished.performed.complete (n := 5) (by decide)
      refine ⟨operation, attempt, finished.opened, ?_, sixth, complete⟩
      rw [finished.performed.executing]
      decide
    obtain ⟨same, sealedIntent, rfl, finished⟩ :=
      sequenced.lawful.finished sequenced.confines completes inspected
    obtain ⟨record, isRecord, rfl⟩ := finished.approved
    obtain ⟨_, _, name, -, -, -, -, -, named, reread⟩ := inspected
    obtain ⟨event, member, actor, isReread⟩ := mem_traceOf.mp reread
    exact ⟨same, record, backup, name, finished.opened, finished.performed, isRecord,
      finished.stored, (BackupRecord.validateCompleted_eq_ok finished.valid).1, named, event, member,
      actor, isReread⟩
  · intro foundation choices whole event member actor
    obtain ⟨-, inTurn, rest⟩ := (Runs.along_append _ _ schedule _).mp whole
    have first := Repeated.started sequenced succeeded foundation inTurn
    have repeated := Runs.invariant_along
      (fun system => Repeated codec operationID (System.reach codec schedule).nextPid system ∧
        (System.reach codec schedule).nextPid < system.processes.length)
      (fun _ _ inTurn holds => holds.1.step inTurn holds.2) first rest
    have reached : System.afterRun codec schedule foundation operationID choices =
        Runs.run (System.step codec)
          ((System.reach codec schedule).step codec (.start foundation operationID)) choices :=
      Runs.run_append (System.step codec) .initial schedule _
    rw [reached] at member
    obtain ⟨same, reads⟩ := repeated.1.reads event member actor
    exact ⟨same, Effect.targetCall_of_reads reads⟩

/-- A process dies after S00, and a second one completes the steps. -/
def fixtureResumed : List Choice :=
  fixtureStart ++ fixtureTurns 0 "0" 17 ++ [.die 0, .start fixtureFoundation "operation_a"] ++
    fixtureTurns 1 "1" 16 ++ fixtureTurns 1 "2" 14 ++ fixtureTurns 1 "3" 15 ++
    fixtureTurns 1 "4" 10 ++ fixtureTurns 1 "5" 45

/-- The second run of the fixture succeeds after the first one was cut off. -/
theorem fixtureResumed_means :
    (System.reach fixtureCodec fixtureResumed).succeeded "operation_a" 1 = true ∧
    ∃ operation, (System.reach fixtureCodec fixtureResumed).database.operation "operation_a" =
      some operation ∧ operation.Performed := by
  have succeeded : (System.reach fixtureCodec fixtureResumed).succeeded "operation_a" 1 = true := by
    decide +kernel
  obtain ⟨⟨operation, _, _, _, found, performed, -⟩, -⟩ := successful_run_means fixtureCodec
    "operation_a" fixtureResumed (by decide +kernel) 1 succeeded
  exact ⟨succeeded, operation, found, performed⟩

end GuardedAgentRunner
