/-
This file carries the logic of one run over to the system: from the start of a run
until it returns no other run makes a call, while operators and agents go on. Three
runs of the fixture show what is missing where the uncertainty is not durable: the
success of a step is recorded under the execution budget, and the budget and the
approval are checked before the interrupted attempt is looked at.
-/

import GuardedAgentRunner.Attempts
import GuardedAgentRunner.Uncertainty

namespace GuardedAgentRunner

open Protocol Foundation

variable {codec : Codec} {operationID : String} {pid : Nat} {system : System}

/-! ### From the system to the run -/

/-- The process has returned. -/
def System.returned (system : System) (pid : Nat) : Bool :=
  match system.processes[pid]? with
  | some ⟨_, _, _, .done _⟩ => true
  | _ => false

/-- No process but the given one makes a call. -/
def Choice.keepsTo (pid : Nat) : Choice → Bool
  | .perform other _ _ => other = pid
  | _ => true

/-- The call the process makes next; a process that has died or returned makes none. -/
def System.nextCall (system : System) (pid : Nat) : Option Effect :=
  match system.processes[pid]? with
  | some ⟨_, _, true, .call effect _⟩ => some effect
  | _ => none

/-- The turn the process takes when the choice is made. -/
def System.turn (codec : Codec) (pid : Nat) (system : System) : Choice → Option RunTurn
  | .perform other world delivery =>
    if other = pid then
      (system.nextCall pid).map fun effect => .of codec effect system.database world delivery
    else none
  | .start .. | .command .. | .die _ => none

/-- The turns the process takes along the choices. -/
def System.turns (codec : Codec) (pid : Nat) : System → List Choice → List RunTurn
  | _, [] => []
  | system, choice :: choices =>
    (system.turn codec pid choice).toList ++ turns codec pid (system.step codec choice) choices

theorem safe_of_bystands {Result : Type} {rest : Program Effect Effect.Answer Result}
    {stop : Progress → Prop}
    (stable : ∀ {state later}, Unchanged operationID state later → stop state → stop later)
    {before after : Database} {turns : List RunTurn} (bystands : Bystands operationID before after)
    (safe : (solo codec operationID).Safe ⟨before, turns⟩ rest fun later _ => stop later) :
    (solo codec operationID).Safe ⟨after, turns⟩ rest fun later _ => stop later := by
  cases rest with
  | done result =>
    have unchanged : Unchanged operationID ⟨before, turns⟩ ⟨after, turns⟩ :=
      ⟨bystands, List.prefix_rfl, Iff.rfl⟩
    exact stable unchanged safe
  | call effect next =>
    refine ⟨trivial, fun answer later moved => safe.2 answer later ?_⟩
    obtain ⟨middle, world, delivery, further, moved⟩ := moved
    exact ⟨middle, world, delivery, bystands.trans further, moved⟩

/-- The process has taken the turns and goes on to the given end. -/
structure Underway (codec : Codec) (operationID : String) (stop : Progress → Prop) (pid : Nat)
    (system : System) (turns : List RunTurn) : Prop where
  lawful : system.Lawful codec
  going : ∃ process, system.processes[pid]? = some process ∧
    (solo codec operationID).Safe ⟨system.database, turns⟩ process.rest fun later _ => stop later

namespace Underway

variable {stop : Progress → Prop} {turns : List RunTurn}

theorem started {foundation : Foundation} (lawful : system.Lawful codec)
    (holds : (solo codec operationID).Holds ⟨system.database, []⟩
      (foundation.run codec operationID) fun later _ => stop later) :
    Underway codec operationID stop system.processes.length
      (system.step codec (.start foundation operationID)) [] :=
  ⟨lawful.transition (System.step_transition system _), Process.start codec foundation operationID,
    List.getElem?_concat_length, holds⟩

theorem perform (underway : Underway codec operationID stop pid system turns) (world : World)
    (delivery : Delivery) :
    Underway codec operationID stop pid (system.perform codec pid world delivery)
      (turns ++ (system.turn codec pid (.perform pid world delivery)).toList) := by
  refine ⟨underway.lawful.transition (system.perform_transition pid world delivery), ?_⟩
  obtain ⟨⟨foundation, id, alive, rest⟩, present, safe⟩ := underway.going
  rw [System.turn, if_pos rfl, System.nextCall, System.perform, present]
  cases alive with
  | false => exact ⟨_, present, (List.append_nil turns).symm ▸ safe⟩
  | true =>
    cases rest with
    | done result => exact ⟨_, present, (List.append_nil turns).symm ▸ safe⟩
    | call effect next =>
      refine ⟨_, Positions.set_of_present present, safe.2 _ _ ?_⟩
      exact ⟨system.database, world, delivery, .refl _, underway.lawful.chained.coherent, rfl, rfl⟩

theorem step
    (stable : ∀ {state later}, Unchanged operationID state later → stop state → stop later)
    (underway : Underway codec operationID stop pid system turns) {choice : Choice}
    (keeps : choice.keepsTo pid = true) :
    Underway codec operationID stop pid (system.step codec choice)
      (turns ++ (system.turn codec pid choice).toList) := by
  have lawful := underway.lawful.transition (System.step_transition system choice)
  obtain ⟨process, present, safe⟩ := underway.going
  have same : turns ++ Option.toList (none : Option RunTurn) = turns := List.append_nil turns
  cases choice with
  | start foundation id =>
    exact ⟨lawful, process, Positions.concat_of_present present, same.symm ▸ safe⟩
  | perform other world delivery =>
    obtain rfl := of_decide_eq_true keeps
    exact underway.perform world delivery
  | command delivery call =>
    refine ⟨lawful, ?_⟩
    rw [System.turn, same, System.step, System.command]
    split
    · rename_i command
      refine ⟨process, present, ?_⟩
      have reacts : Reacts codec system.database (.store .bounded call) _ _ :=
        deliver_reacts delivery .bounded call
      have bystands : Bystands operationID system.database _ :=
        reacts.bystands underway.lawful.chained.coherent
          (StoreCall.bystands_of_isCommand command)
      exact safe_of_bystands stable bystands safe
    · exact ⟨process, present, safe⟩
  | die other =>
    refine ⟨lawful, ?_⟩
    rw [System.turn, same, System.step, System.die]
    split
    · rename_i dead isDead
      by_cases here : other = pid
      · subst here
        obtain rfl := Option.mem_unique isDead present
        exact ⟨_, Positions.set_of_present present, safe⟩
      · exact ⟨process, (List.getElem?_set_ne here).trans present, safe⟩
    · exact ⟨process, present, safe⟩

theorem run
    (stable : ∀ {state later}, Unchanged operationID state later → stop state → stop later)
    {choices : List Choice} (underway : Underway codec operationID stop pid system turns)
    (alone : ∀ choice ∈ choices, choice.keepsTo pid = true) :
    Underway codec operationID stop pid (Runs.run (System.step codec) system choices)
      (turns ++ system.turns codec pid choices) := by
  induction choices generalizing system turns with
  | nil =>
    rw [System.turns, List.append_nil]
    exact underway
  | cons choice choices hypothesis =>
    rw [System.turns, ← List.append_assoc]
    exact hypothesis (underway.step stable (alone choice List.mem_cons_self))
      fun later member => alone later (List.mem_cons_of_mem _ member)

theorem returned (underway : Underway codec operationID stop pid system turns)
    (returned : system.returned pid = true) : stop ⟨system.database, turns⟩ := by
  obtain ⟨⟨foundation, id, alive, rest⟩, present, safe⟩ := underway.going
  rw [System.returned, present] at returned
  cases rest with
  | done result => exact safe
  | call effect next => cases returned

end Underway

/-! ### Uncertainty at the return of a run -/

/-- The system after a run was started and the choices were made. -/
def System.afterRun (codec : Codec) (schedule : List Choice) (foundation : Foundation)
    (operationID : String) (choices : List Choice) : System :=
  System.reach codec (schedule ++ .start foundation operationID :: choices)

/-- The number of the process that is started next. -/
def System.nextPid (system : System) : Nat := system.processes.length

/-- The turns of the run. -/
def System.turnsOfRun (codec : Codec) (schedule : List Choice) (foundation : Foundation)
    (operationID : String) (choices : List Choice) : List RunTurn :=
  ((System.reach codec schedule).step codec (.start foundation operationID)).turns codec
    (System.reach codec schedule).nextPid choices

theorem afterRun_stops {stop : Progress → Prop}
    (stable : ∀ {state later}, Unchanged operationID state later → stop state → stop later)
    {schedule choices : List Choice} {foundation : Foundation}
    (holds : (solo codec operationID).Holds ⟨(System.reach codec schedule).database, []⟩
      (foundation.run codec operationID) fun later _ => stop later)
    (alone : ∀ choice ∈ choices, choice.keepsTo (System.reach codec schedule).nextPid = true)
    (returned : (System.afterRun codec schedule foundation operationID choices).returned
      (System.reach codec schedule).nextPid = true) :
    stop ⟨(System.afterRun codec schedule foundation operationID choices).database,
      System.turnsOfRun codec schedule foundation operationID choices⟩ := by
  have reached : System.afterRun codec schedule foundation operationID choices =
      Runs.run (System.step codec)
        ((System.reach codec schedule).step codec (.start foundation operationID)) choices :=
    Runs.run_append (System.step codec) .initial schedule _
  have underway : Underway codec operationID stop (System.reach codec schedule).nextPid
      (System.afterRun codec schedule foundation operationID choices)
      (System.turnsOfRun codec schedule foundation operationID choices) := by
    rw [reached]
    exact (Underway.started (System.reach_lawful schedule) holds).run stable alone
  exact underway.returned returned

theorem Chained.shaped {database : Database} {history : List Event}
    (chained : Chained codec database history) : JournalShaped database.ledger := by
  obtain ⟨log, rfl⟩ := chained.replayed
  exact replay_ledger (fun _ _ absent => nomatch absent) (fun _ shaped step => shaped.step step) log

/-- From the start of a run on an operation until it returns no other run makes a call. Then the
uncertainty about the operation is durable exactly if none of the turns of the run is a fault and,
if the operation was exposed when the run started, the turns meet what a recovery of the operation
as it was then asks for. -/
theorem return_durable_iff (codec : Codec) (schedule : List Choice) (foundation : Foundation)
    (operationID : String) (choices : List Choice) (unhooked : foundation.boundary = false)
    (alone : ∀ choice ∈ choices, choice.keepsTo (System.reach codec schedule).nextPid = true)
    (returned : (System.afterRun codec schedule foundation operationID choices).returned
      (System.reach codec schedule).nextPid = true) :
    (System.afterRun codec schedule foundation operationID choices).database.UncertaintyDurable
        operationID ↔
      (∀ turn ∈ System.turnsOfRun codec schedule foundation operationID choices,
        turn.faults = false) ∧
      ∀ operation ∈ (System.reach codec schedule).database.operation operationID,
        operation.Exposed →
        ∀ record ∈ (System.reach codec schedule).database.intent operation.intentID,
          foundation.recovers codec operation record.intent
            (System.turnsOfRun codec schedule foundation operationID choices) = true := by
  have lawful : (System.reach codec schedule).Lawful codec := System.reach_lawful schedule
  have faultless : (∀ turn ∈ System.turnsOfRun codec schedule foundation operationID choices,
      turn.faults = false) ↔
      ¬ Faulted (System.turnsOfRun codec schedule foundation operationID choices) := by
    simp only [Faulted, not_exists, not_and, Bool.not_eq_true]
  rw [← not_exposed_iff, faultless]
  by_cases exposed : (System.reach codec schedule).database.Exposed operationID
  · obtain ⟨operation, found, isExposed⟩ := id exposed
    obtain ⟨index, attempt, last⟩ :=
      isExposed.last (lawful.permitted.orderly lawful.chained found)
    obtain ⟨record, stored, -, shaped⟩ := lawful.chained.shaped operationID operation found
    have short : record.intent.steps.items = fixedWorkflowSteps → index < 6 := by
      intro fixed
      have short := shaped.length_le fixed
      rw [last.last] at short
      omega
    have recovers : (∀ operation ∈ (System.reach codec schedule).database.operation operationID,
        operation.Exposed →
        ∀ record ∈ (System.reach codec schedule).database.intent operation.intentID,
          foundation.recovers codec operation record.intent
            (System.turnsOfRun codec schedule foundation operationID choices) = true) ↔
        foundation.recovers codec operation record.intent
          (System.turnsOfRun codec schedule foundation operationID choices) = true := by
      refine ⟨fun all => all operation found isExposed record stored, fun one => ?_⟩
      intro other isOther _ kept isKept
      obtain rfl := Option.mem_unique isOther found
      obtain rfl := Option.mem_unique isKept stored
      exact one
    rw [recovers]
    have ended := afterRun_stops (fun unchanged ended => Ended.unchanged ended unchanged)
      (run_interrupted found stored last short) alone returned
    rcases ended with ⟨closed, met⟩ | ⟨still, unmet⟩
    · have met := met []
      rw [List.append_nil] at met
      exact (not_congr closed).trans (and_iff_left met).symm
    · have unmet := unmet []
      rw [List.append_nil] at unmet
      refine iff_of_false (fun unexposed => unexposed still) fun all => ?_
      exact Bool.false_ne_true (unmet.symm.trans all.2)
  · have clear : Clear operationID ⟨(System.reach codec schedule).database, []⟩ :=
      ⟨not_faulted_nil, exposed, fun _ found => lawful.permitted.orderly lawful.chained found⟩
    have closed := afterRun_stops Unchanged.closed (run_clear unhooked clear) alone returned
    refine (not_congr closed).trans (and_iff_left fun operation found isExposed => ?_).symm
    exact absurd ⟨operation, found, isExposed⟩ exposed

/-- The proposal is approved, and a process makes the calls of the steps before S03. -/
def fixtureOnline : List Choice :=
  fixtureStart ++ fixtureTurns 0 "0" 17 ++ fixtureTurns 0 "1" 9 ++ fixtureTurns 0 "2" 14

/-- The process dies after it has asked for the stop. -/
def fixtureKilled : List Choice := fixtureOnline ++ fixtureTurns 0 "3" 10 ++ [.die 0]

/-- A second run finds the interrupted stop and gives it up. -/
theorem fixtureKilled_recovers :
    (System.reach fixtureCodec fixtureKilled).database.Exposed "operation_a" ∧
    (System.afterRun fixtureCodec fixtureKilled fixtureFoundation "operation_a"
      (fixtureTurns 1 "4" 12)).database.UncertaintyDurable "operation_a" :=
  ⟨by decide +kernel, (return_durable_iff fixtureCodec fixtureKilled fixtureFoundation "operation_a"
    (fixtureTurns 1 "4" 12) rfl (by decide +kernel) (by decide +kernel)).mpr
      (by decide +kernel)⟩

/-- The fixture's world a quarter of an hour later. -/
def lateWorld : World
  | .now => fixtureNow.add (900 * Duration.second)
  | effect => fixtureWorld effect

/-- A run in that world makes the calls before its check of the clock. -/
def elapsedBudget : List Choice :=
  List.replicate 5 (.perform 1 lateWorld (.delivered (fixtureIDs "4")))

/-- The proposal is approved. -/
def fixtureApproved : List Choice :=
  openFirst.map fun transaction => .command (.delivered transaction.ids) transaction.call

/-- The execution budget ends while the confirmed stop is recorded. -/
def expiredRecord : List Choice :=
  fixtureTurns 0 "0" 17 ++ fixtureTurns 0 "1" 9 ++ fixtureTurns 0 "2" 14 ++ fixtureTurns 0 "3" 14 ++
    [.perform 0 fixtureWorld (.interrupted (.other "context deadline exceeded"))]

/-- The intent is revoked after the process has died. -/
def fixtureRevoked : List Choice :=
  fixtureKilled ++ [.command (.delivered (fixtureIDs "4")) (.revokeIntent "intent_a"
    firstProposal.intent.intentDigest "owner" 1000 fixtureNow)]

/-- Three runs return with the stop possibly dispatched and the operation executing: the budget
ends while the confirmed stop is recorded; a second run starts after the budget of the killed one
has elapsed; and a second run starts after the intent was revoked. -/
theorem expiredRecord_exposes :
    (System.afterRun fixtureCodec fixtureApproved fixtureFoundation "operation_a"
      expiredRecord).returned 0 = true ∧
    ¬ (System.afterRun fixtureCodec fixtureApproved fixtureFoundation "operation_a"
      expiredRecord).database.UncertaintyDurable "operation_a" ∧
    (System.afterRun fixtureCodec fixtureKilled fixtureFoundation "operation_a"
      elapsedBudget).returned 1 = true ∧
    ¬ (System.afterRun fixtureCodec fixtureKilled fixtureFoundation "operation_a"
      elapsedBudget).database.UncertaintyDurable "operation_a" ∧
    (System.afterRun fixtureCodec fixtureRevoked fixtureFoundation "operation_a"
      (fixtureTurns 1 "4" 2)).returned 1 = true ∧
    ¬ (System.afterRun fixtureCodec fixtureRevoked fixtureFoundation "operation_a"
      (fixtureTurns 1 "4" 2)).database.UncertaintyDurable "operation_a" := by
  decide +kernel

end GuardedAgentRunner
