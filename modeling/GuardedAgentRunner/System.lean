/-
This file puts the runs together: any number of calls of `Foundation.Run` on one
store, each in its own process, interleaved with the commands of operators and
agents at the granularity of single calls. A process may die between any two of
its calls; a call of the store may be carried out, may fail before it commits, or
may commit and lose its response; every other answer is arbitrary. The system
keeps the history of all calls with the databases before and after them.
-/

import GuardedAgentRunner.Compliance
import GuardedAgentRunner.Refinement

namespace GuardedAgentRunner

open Protocol

/-! ### Answers of the world -/

/-- An answer to whatever is asked next. -/
abbrev World := (effect : Effect) → effect.Answer

/-- What becomes of a call of the store. -/
inductive Delivery where
  | delivered (ids : NewIDs)
  | interrupted (failure : Failure)
  | lost (ids : NewIDs) (failure : Failure)

variable (codec : Codec)

/-- The answer of a call of the store that is carried out, and the database it leaves. -/
def carryOut (ids : NewIDs) (database : Database) (call : StoreCall) :
    Except Failure call.Result × Database :=
  match exec codec ids database call with
  | .ok (result, next) => (.ok result, next)
  | .error failure => (.error failure, database)

/-- The answer to a call of the store and the database it leaves. -/
def deliver (database : Database) (call : StoreCall) : Delivery →
    Except Failure call.Result × Database
  | .delivered ids => carryOut codec ids database call
  | .interrupted failure => (.error failure, database)
  | .lost ids failure => (.error failure, perform codec database ⟨ids, call⟩)

/-- The answer to any call and the database it leaves. -/
def react (world : World) (delivery : Delivery) (database : Database) :
    (effect : Effect) → effect.Answer × Database
  | .store _ call => deliver codec database call delivery
  | effect => (world effect, database)

/-- The answers a call may get and the databases it may leave. -/
inductive Reacts (before : Database) : (effect : Effect) → effect.Answer → Database → Prop
  | answered {effect : Effect} (answer : effect.Answer)
      (outside : ∀ context call, effect ≠ .store context call) : Reacts before effect answer before
  | delivered {context : Context} {call : StoreCall} {ids : NewIDs} {result : call.Result}
      {after : Database} (run : exec codec ids before call = .ok (result, after)) :
      Reacts before (.store context call) (.ok result) after
  | failed {context : Context} {call : StoreCall} (failure : Failure) :
      Reacts before (.store context call) (.error failure) before
  | lost {context : Context} {call : StoreCall} {ids : NewIDs} {after : Database}
      (failure : Failure) (commits : Commits codec before ⟨ids, call⟩ after) :
      Reacts before (.store context call) (.error failure) after

variable {codec} {before after database : Database} {context : Context} {call : StoreCall}

theorem deliver_reacts (delivery : Delivery) (context : Context) (call : StoreCall) :
    Reacts codec database (.store context call) (deliver codec database call delivery).1
      (deliver codec database call delivery).2 := by
  cases delivery with
  | delivered ids =>
    unfold deliver carryOut
    dsimp only
    split
    · rename_i result next run
      exact .delivered run
    · exact .failed _
  | interrupted failure => exact .failed failure
  | lost ids failure =>
    rcases perform_cases database ⟨ids, call⟩ with commits | same
    · exact .lost failure commits
    · have kept : (deliver codec database call (.lost ids failure)).2 = database := same
      rw [kept]
      exact .failed failure

theorem react_reacts (world : World) (delivery : Delivery) (effect : Effect) :
    Reacts codec database effect (react codec world delivery database effect).1
      (react codec world delivery database effect).2 := by
  cases effect with
  | store context call => exact deliver_reacts delivery context call
  | now | observeSafety | closeAdmission | dispatchGracefulStop | observeStop | createBackup | polls
  | checkpoint | file =>
    exact .answered _ fun _ _ impossible => Effect.noConfusion impossible

theorem Reacts.commits {effect : Effect} {answer : effect.Answer}
    (reacts : Reacts codec before effect answer after) :
    after = before ∨ ∃ context transaction, effect = .store context transaction.call ∧
      Commits codec before transaction after := by
  match reacts with
  | .answered _ _ | .failed _ => exact Or.inl rfl
  | @Reacts.delivered _ _ context call ids result _ run =>
    have commits : Commits codec before ⟨ids, call⟩ after := ⟨result, run⟩
    exact Or.inr ⟨context, ⟨ids, call⟩, rfl, commits⟩
  | @Reacts.lost _ _ context call ids _ failure commits =>
    exact Or.inr ⟨context, ⟨ids, call⟩, rfl, commits⟩

theorem Reacts.exec_of_ok {result : call.Result}
    (reacts : Reacts codec before (.store context call) (.ok result) after) :
    ∃ ids, exec codec ids before call = .ok (result, after) := by
  match reacts with
  | .answered _ outside => exact absurd rfl (outside context call)
  | .delivered run => exact ⟨_, run⟩

theorem Reacts.commits_or_fails {answer : Except Failure call.Result}
    (reacts : Reacts codec before (.store context call) answer after) :
    (∃ ids, Commits codec before ⟨ids, call⟩ after) ∨
      after = before ∧ ∃ failure, answer = .error failure := by
  match reacts with
  | .answered _ outside => exact absurd rfl (outside context call)
  | @Reacts.delivered _ _ _ _ ids result _ run => exact Or.inl ⟨ids, result, run⟩
  | .failed failure => exact Or.inr ⟨rfl, failure, rfl⟩
  | @Reacts.lost _ _ _ _ ids _ _ commits => exact Or.inl ⟨ids, commits⟩

/-! ### Histories -/

/-- One call in the history: by the process with a number, or by an operator or agent. -/
structure Event where
  actor : Option Nat
  occurrence : Occurrence
  before : Database
  after : Database

/-- The event is a call of the store that committed, whether or not its response arrived. -/
def Event.Commits (codec : Codec) (event : Event) (call : StoreCall) : Prop :=
  ∃ context ids, event.occurrence.effect = .store context call ∧
    GuardedAgentRunner.Commits codec event.before ⟨ids, call⟩ event.after

/-- The trace of one process. -/
def traceOf (pid : Nat) (history : List Event) : Trace :=
  history.filterMap fun event => if event.actor = some pid then some event.occurrence else none

variable {pid : Nat}

theorem traceOf_cons_self {event : Event} {history : List Event} (own : event.actor = some pid) :
    traceOf pid (event :: history) = event.occurrence :: traceOf pid history :=
  List.filterMap_cons_some (by rw [if_pos own])

theorem traceOf_cons_of_ne {event : Event} {history : List Event} (other : event.actor ≠ some pid) :
    traceOf pid (event :: history) = traceOf pid history :=
  List.filterMap_cons_none (by rw [if_neg other])

theorem mem_traceOf {history : List Event} {occurrence : Occurrence} :
    occurrence ∈ traceOf pid history ↔
      ∃ event ∈ history, event.actor = some pid ∧ event.occurrence = occurrence := by
  simp only [traceOf, List.mem_filterMap, Option.ite_none_right_eq_some, Option.some.injEq]

/-- The history leads from the empty database to the given one, call by call. -/
def Chained (codec : Codec) : Database → List Event → Prop
  | database, [] => database = .empty
  | database, event :: earlier =>
    event.after = database ∧
      Reacts codec event.before event.occurrence.effect event.occurrence.answer event.after ∧
      Chained codec event.before earlier

namespace Chained

variable {history later earlier : List Event} {event : Event}

theorem replayed (chained : Chained codec database history) :
    ∃ log, database = replay codec log := by
  induction history generalizing database with
  | nil => exact ⟨[], chained⟩
  | cons event earlier hypothesis =>
    obtain ⟨rfl, reacts, chained⟩ := chained
    obtain ⟨log, same⟩ := hypothesis chained
    rcases reacts.commits with kept | ⟨_, transaction, -, commits⟩
    · exact ⟨log, kept.trans same⟩
    · refine ⟨log ++ [transaction], ?_⟩
      rw [replay_append, ← same]
      exact (perform_of_commits commits).symm

theorem coherent (chained : Chained codec database history) : database.Coherent := by
  obtain ⟨log, rfl⟩ := chained.replayed
  exact replay_coherent log

theorem split (chained : Chained codec database (later ++ event :: earlier)) :
    Chained codec event.after (event :: earlier) ∧
      ∃ continuation, database = Runs.run (perform codec) event.after continuation := by
  induction later generalizing database with
  | nil =>
    obtain ⟨rfl, rest⟩ := chained
    exact ⟨⟨rfl, rest⟩, [], rfl⟩
  | cons latest later hypothesis =>
    obtain ⟨rfl, reacts, chained⟩ := chained
    obtain ⟨reached, continuation, same⟩ := hypothesis chained
    refine ⟨reached, ?_⟩
    rcases reacts.commits with kept | ⟨_, transaction, -, commits⟩
    · exact ⟨continuation, kept.trans same⟩
    · refine ⟨continuation ++ [transaction], ?_⟩
      rw [Runs.run_append, ← same]
      exact (perform_of_commits commits).symm

theorem reacts (chained : Chained codec database history) (member : event ∈ history) :
    Reacts codec event.before event.occurrence.effect event.occurrence.answer event.after := by
  obtain ⟨later, earlier, rfl⟩ := List.append_of_mem member
  exact chained.split.1.2.1

/-- What every step of the ledger respects relates the database after an event to the last
one. -/
theorem relation (relation : Ledger → Ledger → Prop)
    (reflexive : ∀ ledger, relation ledger ledger)
    (transitive : ∀ {first second third}, relation first second → relation second third →
      relation first third)
    (related : ∀ {database next : Database} {call : StoreCall}, database.Coherent →
      Ledger.Step codec database.ledger call next.ledger → relation database.ledger next.ledger)
    (chained : Chained codec database history) (member : event ∈ history) :
    relation event.after.ledger database.ledger := by
  obtain ⟨later, earlier, rfl⟩ := List.append_of_mem member
  obtain ⟨reached, continuation, rfl⟩ := chained.split
  exact replay_relation relation reflexive transitive related reached.coherent continuation

end Chained

/-! ### The system -/

/-- A call of `Foundation.Run` in a process of its own, with the rest of its program. -/
structure Process where
  foundation : Foundation
  operationID : String
  alive : Bool
  rest : Program Effect Effect.Answer (Except Failure Unit)

/-- A process that has made no call yet. -/
def Process.start (codec : Codec) (foundation : Foundation) (operationID : String) : Process :=
  ⟨foundation, operationID, true, (foundation.run codec operationID).run⟩

/-- The store, the processes in the order they were started, and the history, the latest call
first. -/
structure System where
  database : Database
  processes : List Process
  history : List Event

def System.initial : System := ⟨.empty, [], []⟩

/-- The calls operators and agents make: proposals, decisions, revocations, and the inspection
of a backup, which may mark it as orphaned. -/
def StoreCall.isCommand : StoreCall → Bool
  | .putIntent _ | .approveIntent .. | .rejectIntent .. | .revokeIntent ..
  | .transitionBackupStatus _ .orphaned _ | .getIntent _ | .getOperation _ | .getBackup _ => true
  | _ => false

/-- What happens next. -/
inductive Choice where
  | start (foundation : Foundation) (operationID : String)
  | perform (pid : Nat) (world : World) (delivery : Delivery)
  | command (delivery : Delivery) (call : StoreCall)
  | die (pid : Nat)

namespace System

/-- A process makes its next call; a process that has died or returned makes none. -/
def perform (codec : Codec) (system : System) (pid : Nat) (world : World) (delivery : Delivery) :
    System :=
  match system.processes[pid]? with
  | some ⟨foundation, operationID, true, .call effect next⟩ =>
    let reaction := react codec world delivery system.database effect
    { database := reaction.2
      processes := system.processes.set pid ⟨foundation, operationID, true, next reaction.1⟩
      history := ⟨some pid, ⟨effect, reaction.1⟩, system.database, reaction.2⟩ :: system.history }
  | _ => system

/-- An operator or an agent calls the store. -/
def command (codec : Codec) (system : System) (delivery : Delivery) (call : StoreCall) : System :=
  if call.isCommand then
    let reaction := deliver codec system.database call delivery
    { system with
      database := reaction.2
      history := ⟨none, ⟨.store .bounded call, reaction.1⟩, system.database, reaction.2⟩ ::
        system.history }
  else system

/-- A process dies. -/
def die (system : System) (pid : Nat) : System :=
  match system.processes[pid]? with
  | some process =>
    { system with processes := system.processes.set pid { process with alive := false } }
  | none => system

/-- The next state of the system. A choice that does not fit changes nothing. -/
def step (codec : Codec) (system : System) : Choice → System
  | .start foundation operationID =>
    { system with
      processes := system.processes ++ [Process.start codec foundation operationID] }
  | .perform pid world delivery => system.perform codec pid world delivery
  | .command delivery call => system.command codec delivery call
  | .die pid => system.die pid

/-- The system a schedule leads to from an empty store. -/
def reach (codec : Codec) (schedule : List Choice) : System :=
  Runs.run (step codec) .initial schedule

/-- Everything one step of the system may do. -/
inductive Transition (codec : Codec) (system : System) : System → Prop
  | idle : Transition codec system system
  | started (foundation : Foundation) (operationID : String) :
      Transition codec system
        { system with
          processes := system.processes ++ [Process.start codec foundation operationID] }
  | died {pid : Nat} {process : Process} (present : system.processes[pid]? = some process) :
      Transition codec system
        { system with processes := system.processes.set pid { process with alive := false } }
  | performed {pid : Nat} {process : Process} {effect : Effect} {answer : effect.Answer}
      {next : effect.Answer → Program Effect Effect.Answer (Except Failure Unit)}
      {after : Database} (present : system.processes[pid]? = some process)
      (alive : process.alive = true) (calls : process.rest = .call effect next)
      (reacts : Reacts codec system.database effect answer after) :
      Transition codec system
        { database := after
          processes := system.processes.set pid { process with rest := next answer }
          history := ⟨some pid, ⟨effect, answer⟩, system.database, after⟩ :: system.history }
  | commanded {call : StoreCall} {answer : Except Failure call.Result} {after : Database}
      (command : call.isCommand = true)
      (reacts : Reacts codec system.database (.store .bounded call) answer after) :
      Transition codec system
        { system with
          database := after
          history := ⟨none, ⟨.store .bounded call, answer⟩, system.database, after⟩ ::
            system.history }

theorem perform_transition (system : System) (pid : Nat) (world : World) (delivery : Delivery) :
    system.Transition codec (system.perform codec pid world delivery) := by
  unfold perform
  split
  · rename_i foundation operationID effect next present
    exact .performed present rfl rfl (react_reacts world delivery effect)
  · exact .idle

theorem command_transition (system : System) (delivery : Delivery) (call : StoreCall) :
    system.Transition codec (system.command codec delivery call) := by
  unfold command
  split
  · rename_i isCommand
    exact .commanded isCommand (deliver_reacts delivery .bounded call)
  · exact .idle

theorem die_transition (system : System) (pid : Nat) :
    system.Transition codec (system.die pid) := by
  unfold die
  split
  · rename_i process present
    exact .died present
  · exact .idle

theorem step_transition (system : System) (choice : Choice) :
    system.Transition codec (system.step codec choice) := by
  cases choice with
  | start foundation operationID => exact .started foundation operationID
  | perform pid world delivery => exact system.perform_transition pid world delivery
  | command delivery call => exact system.command_transition delivery call
  | die pid => exact system.die_transition pid

/-! ### What every reached system satisfies -/

/-- The foundation and the operation of a process. -/
def owner (system : System) (pid : Nat) : Option (Foundation × String) :=
  system.processes[pid]?.map fun process => (process.foundation, process.operationID)

variable {system next : System} {process : Process}

theorem owner_of_present (present : system.processes[pid]? = some process) :
    system.owner pid = some (process.foundation, process.operationID) := by
  rw [owner, present]
  rfl

theorem owner_set (present : system.processes[pid]? = some process) (alive : Bool)
    (rest : Program Effect Effect.Answer (Except Failure Unit)) (other : Nat) :
    (system.processes.set pid ⟨process.foundation, process.operationID, alive, rest⟩)[other]?.map
        (fun process => (process.foundation, process.operationID)) =
      system.owner other := by
  by_cases here : pid = other
  · subst here
    rw [Positions.set_of_present present, owner, present]
    rfl
  · rw [List.getElem?_set_ne here, owner]

theorem Transition.owner_mono (transition : system.Transition codec next)
    {owner : Foundation × String} (owned : system.owner pid = some owner) :
    next.owner pid = some owner := by
  cases transition with
  | idle | commanded => exact owned
  | started =>
    obtain ⟨process, present, rfl⟩ := Option.map_eq_some_iff.mp owned
    exact owner_of_present (Positions.concat_of_present present)
  | died present => exact (owner_set present _ _ pid).trans owned
  | performed present => exact (owner_set present _ _ pid).trans owned

/-- Every event is by a started process that was permitted to make its call, or a command. -/
def Permitted (codec : Codec) (system : System) : List Event → Prop
  | [] => True
  | event :: earlier =>
    (match event.actor with
      | some pid => ∃ foundation operationID,
        system.owner pid = some (foundation, operationID) ∧
          Permits codec foundation.enrollment operationID (traceOf pid earlier)
            event.occurrence.effect
      | none => ∃ call, event.occurrence.effect = .store .bounded call ∧ call.isCommand = true) ∧
    Permitted codec system earlier

theorem Permitted.mono {history : List Event} (permitted : system.Permitted codec history)
    (mono : ∀ {pid owner}, system.owner pid = some owner → next.owner pid = some owner) :
    next.Permitted codec history := by
  induction history with
  | nil => trivial
  | cons event earlier hypothesis =>
    refine ⟨?_, hypothesis permitted.2⟩
    have first := permitted.1
    split at first
    · obtain ⟨foundation, operationID, owned, permits⟩ := first
      exact ⟨foundation, operationID, mono owned, permits⟩
    · exact first

theorem Permitted.split {later earlier : List Event} {event : Event}
    (permitted : system.Permitted codec (later ++ event :: earlier)) :
    system.Permitted codec (event :: earlier) := by
  induction later with
  | nil => exact permitted
  | cons latest later hypothesis => exact hypothesis permitted.2

/-- The history is chained and permitted, and every live process goes on in discipline. -/
structure Lawful (codec : Codec) (system : System) : Prop where
  chained : Chained codec system.database system.history
  permitted : system.Permitted codec system.history
  unstarted : ∀ pid, system.processes.length ≤ pid → traceOf pid system.history = []
  safe : ∀ pid process, system.processes[pid]? = some process → process.alive = true →
    (discipline codec process.foundation process.operationID).Safe (traceOf pid system.history)
      process.rest fun _ _ => True

theorem Lawful.transition (lawful : system.Lawful codec)
    (transition : system.Transition codec next) : next.Lawful codec := by
  have permitted := lawful.permitted.mono transition.owner_mono
  cases transition with
  | idle => exact lawful
  | started foundation operationID =>
    refine ⟨lawful.chained, permitted, fun pid far => lawful.unstarted pid ?_, ?_⟩
    · rw [List.length_append] at far
      omega
    · intro pid process present alive
      rcases Positions.concat_eq_some.mp present with present | ⟨rfl, rfl⟩
      · exact lawful.safe pid process present alive
      · rw [lawful.unstarted _ (Nat.le_refl _)]
        exact run_disciplined codec foundation operationID
  | @died pid dead present =>
    refine ⟨lawful.chained, permitted, fun other far => lawful.unstarted other ?_, ?_⟩
    · rwa [List.length_set] at far
    · intro other process found alive
      rcases Positions.set_eq_some.mp found with ⟨-, -, rfl⟩ | ⟨-, found⟩
      · cases alive
      · exact lawful.safe other process found alive
  | @performed pid process effect answer next after present alive calls reacts =>
    have safe := lawful.safe pid process present alive
    rw [calls] at safe
    refine ⟨⟨rfl, reacts, lawful.chained⟩, ⟨⟨process.foundation, process.operationID, ?_, safe.1⟩,
      permitted⟩, fun other far => ?_, fun other found isFound isAlive => ?_⟩
    · exact (owner_set present _ _ pid).trans (owner_of_present present)
    · have inside := (List.getElem?_eq_some_iff.mp present).1
      rw [List.length_set] at far
      rw [traceOf_cons_of_ne fun same => absurd (Option.some.inj same) (by omega)]
      exact lawful.unstarted other far
    · rcases Positions.set_eq_some.mp isFound with ⟨rfl, -, rfl⟩ | ⟨away, isFound⟩
      · rw [traceOf_cons_self rfl]
        exact safe.2 answer _ rfl
      · rw [traceOf_cons_of_ne fun same => away (Option.some.inj same)]
        exact lawful.safe other found isFound isAlive
  | @commanded call answer after command reacts =>
    have outside : ∀ pid, (none : Option Nat) ≠ some pid := fun _ => nofun
    refine ⟨⟨rfl, reacts, lawful.chained⟩, ⟨⟨call, rfl, command⟩, permitted⟩, fun pid far => ?_,
      fun pid process present alive => ?_⟩
    · rw [traceOf_cons_of_ne (outside pid)]
      exact lawful.unstarted pid far
    · rw [traceOf_cons_of_ne (outside pid)]
      exact lawful.safe pid process present alive

theorem initial_lawful : initial.Lawful codec :=
  ⟨rfl, trivial, fun _ _ => rfl, fun _ _ present => nomatch present⟩

theorem reach_lawful (schedule : List Choice) : (reach codec schedule).Lawful codec :=
  Runs.invariant_run (Lawful codec)
    (fun _ choice lawful => lawful.transition (step_transition _ choice)) initial_lawful schedule

/-- What every transition of a lawful system keeps holds of every system that is reached. -/
theorem reach_invariant (invariant : System → Prop) (initially : invariant initial)
    (preserved : ∀ system next, system.Lawful codec → invariant system →
      system.Transition codec next → invariant next) (schedule : List Choice) :
    invariant (reach codec schedule) := by
  refine (Runs.invariant_run (fun system => system.Lawful codec ∧ invariant system)
    (fun system choice holds => ?_) ⟨initial_lawful, initially⟩ schedule).2
  have transition : system.Transition codec (system.step codec choice) :=
    step_transition system choice
  exact ⟨holds.1.transition transition, preserved system _ holds.1 holds.2 transition⟩

end System

/-! ### A run of the fixture -/

/-- The foundation of the fixture, without hooks. -/
def fixtureFoundation : Foundation where
  configured := true
  enrollment := fixtureEnrollment
  level := ""
  engine := ⟨fixtureEnrollment, false⟩
  boundary := false

/-- A world in which the clock stands still, the target does what it is asked to do and every
file action succeeds. -/
def fixtureWorld : World
  | .now => fixtureNow
  | .store .. => .error (.other "no store")
  | .observeSafety offline => .ok (fixtureObservation offline)
  | .closeAdmission operationID stepID =>
    .ok ⟨operationID, stepID, fixtureNow, ["FAKE_TARGET admission receipt"]⟩
  | .dispatchGracefulStop _ => .ok ()
  | .observeStop request =>
    ({ fixtureStop with operationID := request.operationID, stepID := request.stepID }, none)
  | .createBackup _ => ()
  | .polls => (1, .other "context canceled")
  | .checkpoint _ => .ok ()
  | .file .sourceIdentity => .ok fixtureEnrollment.dataRootIdentity
  | .file .destinationIdentity => .ok true
  | .file .verifySourceArtifact => .ok (firstProposal.intent.fromSHA256, 512)
  | .file (.lstat _) => .ok false
  | .file .archive => .ok firstProposal.intent.fromSHA256
  | .file (.verify _) => .ok (firstProposal.intent.fromSHA256, 1024)
  | .file .openSource | .file .openDestination | .file (.createPartial _) | .file .syncPartial
  | .file .closePartial | .file .openDirectory | .file (.renamePartial _)
  | .file .syncDirectory => .ok ()

/-- A process makes a number of calls in that world, with one set of new identifiers. -/
def fixtureTurns (pid : Nat) (name : String) (count : Nat) : List Choice :=
  List.replicate count (.perform pid fixtureWorld (.delivered (fixtureIDs name)))

/-- The first proposal is approved and a process is started on its operation. -/
def fixtureStart : List Choice :=
  openFirst.map (fun transaction => .command (.delivered transaction.ids) transaction.call) ++
    [.start fixtureFoundation "operation_a"]

/-- The process makes the calls of the steps before S05. -/
def fixtureSteps : List Choice :=
  fixtureTurns 0 "0" 17 ++ fixtureTurns 0 "1" 9 ++ fixtureTurns 0 "2" 14 ++ fixtureTurns 0 "3" 15 ++
    fixtureTurns 0 "4" 10

/-- A complete run of the fixture. -/
def fixtureRun : List Choice := fixtureStart ++ fixtureSteps ++ fixtureTurns 0 "5" 45

/-- The complete run returns and leaves a valid backup. -/
example :
    ((System.reach fixtureCodec fixtureRun).database.backup "backup_a").map (·.status) =
      some .valid ∧
    (System.reach fixtureCodec fixtureRun).history.length = 112 ∧
    (System.reach fixtureCodec (fixtureRun ++ fixtureTurns 0 "6" 1)).history.length = 112 := by
  decide +kernel

end GuardedAgentRunner
