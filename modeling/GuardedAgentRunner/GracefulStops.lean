/-
This file models the stop boundary of the Paper target: the acknowledged request,
the lifecycle that Docker reports, the terminal snapshot of the plugin and the
markers in the container's log, and what `ObserveStop` composes from them. A wait
of the foundation for a stop that ends without an error has seen all of it in one
observation.
-/

import Mathlib.Data.List.Infix
import GuardedAgentRunner.Foundation
import GuardedAgentRunner.Instants

namespace GuardedAgentRunner

open Fallible Program

namespace Paper

/-! ### Lifecycle -/

/-- What `inspectContainer` returns of the container's state. -/
structure Inspection where
  id : String
  status : String
  running : Bool
  oomKilled : Bool
  exitCode : Int
  startedAt : String
  finishedAt : String

structure LifecycleEvidence where
  containerID : String
  status : String
  running : Bool
  oomKilled : Bool
  exitCode : Int
  startedAt : Time
  finishedAt : Time
  observedAt : Time

/-- `parseDockerTime`. -/
def parseDockerTime (value : String) : Option Time :=
  if value = "" ∨ "0001-01-01".toList <+: value.toList then some 0 else Time.parse value

/-- `ObserveLifecycle`, with the answer of Docker and the reading of the clock. -/
def observeLifecycle (containerID : String) (answer : Except Failure Inspection)
    (observedAt : Time) : Except Failure LifecycleEvidence := do
  let inspection ← answer
  refuse (inspection.id ≠ containerID) (.other "container ID mismatch")
  let started ← demand (parseDockerTime inspection.startedAt)
    (.other "invalid container start time")
  let finished ← demand (parseDockerTime inspection.finishedAt)
    (.other "invalid container finish time")
  pure { containerID := inspection.id, status := inspection.status, running := inspection.running,
         oomKilled := inspection.oomKilled, exitCode := inspection.exitCode, startedAt := started,
         finishedAt := finished, observedAt }

/-! ### Logs -/

/-- The frames of a log stream without a terminal, each with an eight-byte header. -/
def unframe : Nat → List UInt8 → Except Failure (List UInt8)
  | _, [] => pure []
  | 0, _ => throw (.other "invalid Docker log stream framing")
  | fuel + 1, payload => do
    refuse (payload.length < 8 ∨ (payload.drop 1).take 3 ≠ [0, 0, 0])
      (.other "invalid Docker log stream framing")
    let size := ((payload.drop 4).take 4).foldl (fun value byte => 256 * value + byte.toNat) 0
    refuse (payload.length - 8 < size) (.other "invalid Docker log frame size")
    let rest ← unframe fuel (payload.drop (8 + size))
    pure ((payload.drop 8).take size ++ rest)

/-- `dockerLogText`. -/
def dockerLogText (payload : List UInt8) : Except Failure (List UInt8) :=
  if payload.head? = some 1 ∨ payload.head? = some 2 then unframe payload.length payload
  else pure payload

/-- The lines of a `bufio.Scanner`: without the line feed and a carriage return before it, and
without an empty last line. -/
def scanLines (text : List UInt8) : List (List UInt8) :=
  let pieces := text.splitOn 10
  let lines := if pieces.getLast? = some [] then pieces.dropLast else pieces
  lines.map fun line => if line.getLast? = some 13 then line.dropLast else line

/-- The time stamp in front of the first space of a line, and the message after it. -/
def stamped (line : List UInt8) : Option (Time × List UInt8) := do
  let stamp := line.takeWhile (· ≠ 32)
  let _ ← if stamp ≠ [] ∧ 32 ∈ line then some () else none
  let time ← Time.parse (String.ofList (stamp.map fun byte => Char.ofNat byte.toNat))
  pure (time, line.drop (stamp.length + 1))

/-- The markers of a graceful stop: their names and the texts that are looked for. -/
def markers : List (String × String) :=
  [("paper-stop", "Stopping server"), ("worlds-saved", "All dimensions are saved"),
    ("runner-done", "mc-server-runner\tDone")]

/-- The bytes of an ASCII text. -/
def bytes (text : String) : List UInt8 := text.toList.map fun symbol => symbol.toNat.toUInt8

/-- The line has a time stamp that is not before the given time, and the text after it. -/
def marks (since : Time) (text : String) (line : List UInt8) : Bool :=
  match stamped line with
  | none => false
  | some (time, message) => ¬ time.Before since ∧ bytes text <:+: message

/-- `gracefulStopReferences`. The buffer holds a line with its carriage return. -/
def gracefulStopReferences (payload : List UInt8) (since : Time) :
    Except Failure (List String) := do
  let text ← dockerLogText payload
  let lines := scanLines text
  refuse (∃ line ∈ text.splitOn 10, 2 ^ 20 ≤ line.length)
    (.other "scan bounded shutdown logs: bufio.Scanner: token too long")
  each (fun marker : String × String =>
    refuse (¬ ∃ line ∈ lines, marks since marker.2 line = true)
      (.other ("shutdown log marker \"" ++ marker.1 ++ "\" unavailable"))) markers
  pure (markers.map fun marker => "docker-log:" ++ marker.1)

/-- `GracefulStopLogEvidence`, with the answer of Docker: a status and a body, if it could be
read. -/
def gracefulStopLogEvidence (answer : Except Failure (Int × Option (List UInt8))) (since : Time) :
    Except Failure (List String) := do
  let (status, body) ← answer
  refuse (status ≠ 200) (.other ("Docker logs returned status " ++ toString status))
  let payload ← demand body (.other "bounded shutdown logs unavailable")
  refuse (2 ^ 20 < payload.length) (.other "bounded shutdown logs unavailable")
  gracefulStopReferences payload since

/-! ### The target -/

/-- What `ReadSnapshot` returns of the plugin's snapshot. -/
structure Snapshot where
  ready : Bool
  bootID : String
  observedAt : Time

/-- The enrolled container, and that of the observer. -/
structure Target where
  containerID : String
  observed : String

/-- The answers that one call of `ObserveStop` gets: of Docker about the container, of the clock,
of the snapshot file with its digest, and of Docker about the log. -/
structure StopReadings where
  inspection : Except Failure Inspection
  observedAt : Time
  snapshot : Except Failure (Snapshot × String)
  logs : Except Failure (Int × Option (List UInt8))

namespace Target

variable (target : Target) (acknowledged : Option StopRequest) (request : StopRequest)

/-- `DispatchGracefulStop`, with the status that Docker answers the stop with. -/
def dispatchGracefulStop (answer : Except Failure Int) : Except Failure Unit := do
  refuse (request.containerID ≠ target.containerID ∨ request.operationID = "" ∨
      request.stepID = "" ∨ request.bootID = "")
    (.other "stop request does not match the fixed enrollment")
  let status ← answer
  refuse (status ≠ 204) (.other ("Docker stop returned status " ++ toString status))

/-- The acknowledged request after a call of `DispatchGracefulStop`. -/
def acknowledge (answer : Except Failure Int) : Option StopRequest :=
  match target.dispatchGracefulStop request answer with
  | .ok _ => some request
  | .error _ => acknowledged

/-- The snapshot is a terminal one of the requested boot, from between the request and the end of
the container. -/
def Terminal (finishedAt : Time) (snapshot : Snapshot) : Prop :=
  snapshot.ready = false ∧ snapshot.bootID = request.bootID ∧
    ¬ snapshot.observedAt.Before request.requestedAt ∧ ¬ snapshot.observedAt.After finishedAt
deriving Decidable

/-- The digest of the snapshot, if it is a terminal one. -/
def terminalDigest (finishedAt : Time) : Except Failure (Snapshot × String) → Option String
  | .ok (snapshot, digest) => if Terminal request finishedAt snapshot then some digest else none
  | .error _ => none

/-- The references to the log, if the snapshot is terminal and the log has the markers. -/
def logReferences (runtimeTerminal : Bool) (logs : Except Failure (Int × Option (List UInt8))) :
    Option (List String) :=
  match gracefulStopLogEvidence logs request.requestedAt with
  | .ok references => if runtimeTerminal then some references else none
  | .error _ => none

/-- The evidence of a container, while it is running. -/
def runningEvidence (lifecycle : LifecycleEvidence) : StopEvidence where
  state := if lifecycle.running then .stopping else .other ""
  operationID := request.operationID
  stepID := request.stepID
  containerID := lifecycle.containerID
  bootID := request.bootID
  requestedAt := request.requestedAt
  observedAt := lifecycle.observedAt
  finishedAt := lifecycle.finishedAt
  lifecycleAvailable := true
  running := lifecycle.running
  exitCode := lifecycle.exitCode
  oomKilled := lifecycle.oomKilled
  runtimeTerminal := false
  gracefulTermination := false
  attribution := .unattributed
  references := ["docker-lifecycle:" ++ lifecycle.status]

/-- The evidence of a container that is not running. -/
def stoppedEvidence (readings : StopReadings) (lifecycle : LifecycleEvidence) : StopEvidence :=
  let evidence := runningEvidence request lifecycle
  let terminal := terminalDigest request lifecycle.finishedAt readings.snapshot
  let log := logReferences request terminal.isSome readings.logs
  { evidence with
    runtimeTerminal := terminal.isSome
    gracefulTermination := log.isSome
    references := evidence.references ++
      (terminal.map ("paper-terminal:sha256:" ++ ·)).toList ++ log.getD []
    attribution :=
      if acknowledged = some request ∧ ¬ lifecycle.finishedAt.Before request.requestedAt then
        .correlated
      else .unattributed }

/-- The zero value of the evidence. -/
def noEvidence : StopEvidence where
  state := .other ""
  operationID := ""
  stepID := ""
  containerID := ""
  bootID := ""
  requestedAt := 0
  observedAt := 0
  finishedAt := 0
  lifecycleAvailable := false
  running := false
  exitCode := 0
  oomKilled := false
  runtimeTerminal := false
  gracefulTermination := false
  attribution := .other ""
  references := []

/-- `ObserveStop`. -/
def observeStop (readings : StopReadings) : StopEvidence × Option Failure :=
  match observeLifecycle target.observed readings.inspection readings.observedAt with
  | .error failure => (noEvidence, some failure)
  | .ok lifecycle =>
    if lifecycle.running then (runningEvidence request lifecycle, none)
    else (stoppedEvidence acknowledged request readings lifecycle, none)

end Target

/-! ### Calls of one process -/

/-- A call on the target in the process of the foundation, or a reading of the foundation: a
dispatch by any caller with Docker's answer, an observation with the answers it gets, a clock
reading, and the number of ticks that a waiting loop sees before its context ends. -/
inductive Call where
  | dispatch (request : StopRequest) (answer : Except Failure Int)
  | observe (request : StopRequest) (readings : StopReadings)
  | clock (now : Time)
  | polls (ticks : Nat) (ended : Failure)

/-- The acknowledged request after the calls. -/
def acknowledgedAfter (target : Target) (acknowledged : Option StopRequest) :
    List Call → Option StopRequest
  | [] => acknowledged
  | .dispatch request answer :: calls =>
    acknowledgedAfter target (target.acknowledge acknowledged request answer) calls
  | _ :: calls => acknowledgedAfter target acknowledged calls

/-- What the foundation sees of the calls: its observations as the target answers them, and its
readings. -/
def answers (target : Target) (acknowledged : Option StopRequest) :
    List Call → List ((effect : Effect) × effect.Answer)
  | [] => []
  | .dispatch request answer :: calls =>
    answers target (target.acknowledge acknowledged request answer) calls
  | .observe request readings :: calls =>
    ⟨.observeStop request, target.observeStop acknowledged request readings⟩ ::
      answers target acknowledged calls
  | .clock now :: calls => ⟨.now, now⟩ :: answers target acknowledged calls
  | .polls ticks ended :: calls => ⟨.polls, (ticks, ended)⟩ :: answers target acknowledged calls

/-! ### What an observation shows -/

variable {target : Target} {acknowledged : Option StopRequest} {request : StopRequest}
  {readings : StopReadings} {calls : List Call}
  {logs : Except Failure (Int × Option (List UInt8))}

/-- The container was stopped cleanly, between the request and the observation, which is at most
five seconds old; the snapshot is a terminal one of the boot, from before the end of the container;
and each marker stands in a line of the log that is not older than the request. -/
structure Graceful (target : Target) (request : StopRequest) (readings : StopReadings)
    (now : Time) : Prop where
  stopped : ∃ inspection finishedAt, readings.inspection = .ok inspection ∧
    inspection.id = target.observed ∧ inspection.running = false ∧ inspection.exitCode = 0 ∧
    inspection.oomKilled = false ∧ parseDockerTime inspection.finishedAt = some finishedAt ∧
    request.requestedAt ≤ finishedAt ∧ finishedAt ≤ readings.observedAt ∧
    ∃ snapshot digest, readings.snapshot = .ok (snapshot, digest) ∧ snapshot.ready = false ∧
      snapshot.bootID = request.bootID ∧ request.requestedAt ≤ snapshot.observedAt ∧
      snapshot.observedAt ≤ finishedAt
  fresh : readings.observedAt ≤ now ∧ now ≤ readings.observedAt + 5 * Duration.second
  marked : ∃ payload text, readings.logs = .ok (200, some payload) ∧
    dockerLogText payload = .ok text ∧
    ∀ marker ∈ markers, ∃ line ∈ scanLines text, ∃ time message,
      stamped line = some (time, message) ∧ request.requestedAt ≤ time ∧
        bytes marker.2 <:+: message

theorem gracefulStopLogEvidence_eq_ok {since : Time} {references : List String}
    (successful : gracefulStopLogEvidence logs since = .ok references) :
    ∃ payload text, logs = .ok (200, some payload) ∧ dockerLogText payload = .ok text ∧
      ∀ marker ∈ markers, ∃ line ∈ scanLines text, ∃ time message,
        stamped line = some (time, message) ∧ since ≤ time ∧ bytes marker.2 <:+: message := by
  obtain ⟨⟨status, body⟩, rfl, successful⟩ := bind_eq_ok.mp successful
  obtain ⟨ok, successful⟩ := (refuse_bind_eq_ok _ _).mp successful
  obtain ⟨payload, present, successful⟩ := bind_eq_ok.mp successful
  obtain rfl := (demand_eq_ok _ _ _).mp present
  obtain ⟨-, successful⟩ := (refuse_bind_eq_ok _ _).mp successful
  obtain ⟨text, unframed, successful⟩ := bind_eq_ok.mp successful
  obtain ⟨-, successful⟩ := (refuse_bind_eq_ok _ _).mp successful
  obtain ⟨_, found, -⟩ := bind_eq_ok.mp successful
  refine ⟨payload, text, by rw [not_not.mp ok], unframed, fun marker listed => ?_⟩
  have present := (each_eq_ok _ _ _).mp found marker listed
  obtain ⟨line, isLine, isMarked⟩ := not_not.mp ((refuse_eq_ok _ _ _).mp present)
  unfold marks at isMarked
  split at isMarked
  · exact nomatch isMarked
  · rename_i time message isStamped
    obtain ⟨late, contains⟩ := of_decide_eq_true isMarked
    exact ⟨line, isLine, time, message, isStamped, not_lt.mp late, contains⟩

variable {stop : StopEvidence} {now : Time} {trace : List ((effect : Effect) × effect.Answer)}
  {seen : StopEvidence}

theorem observeLifecycle_eq_ok {containerID : String} {answer : Except Failure Inspection}
    {observedAt : Time} {lifecycle : LifecycleEvidence}
    (successful : observeLifecycle containerID answer observedAt = .ok lifecycle) :
    ∃ inspection, answer = .ok inspection ∧ inspection.id = containerID ∧
      lifecycle.containerID = inspection.id ∧ lifecycle.running = inspection.running ∧
      lifecycle.oomKilled = inspection.oomKilled ∧ lifecycle.exitCode = inspection.exitCode ∧
      parseDockerTime inspection.finishedAt = some lifecycle.finishedAt ∧
      lifecycle.observedAt = observedAt := by
  obtain ⟨inspection, isAnswer, successful⟩ := bind_eq_ok.mp successful
  obtain ⟨same, successful⟩ := (refuse_bind_eq_ok _ _).mp successful
  obtain ⟨started, -, successful⟩ := bind_eq_ok.mp successful
  obtain ⟨finished, isFinished, successful⟩ := bind_eq_ok.mp successful
  obtain rfl := (pure_eq_ok _ _).mp successful
  exact ⟨inspection, isAnswer, not_not.mp same, rfl, rfl, rfl, rfl,
    (demand_eq_ok _ _ _).mp isFinished, rfl⟩

theorem terminalDigest_isSome {finishedAt : Time} {answer : Except Failure (Snapshot × String)}
    (terminal : (Target.terminalDigest request finishedAt answer).isSome = true) :
    ∃ snapshot digest, answer = .ok (snapshot, digest) ∧
      Target.Terminal request finishedAt snapshot := by
  unfold Target.terminalDigest at terminal
  split at terminal
  · rename_i snapshot digest
    split at terminal
    · rename_i isTerminal
      exact ⟨snapshot, digest, rfl, isTerminal⟩
    · exact nomatch terminal
  · exact nomatch terminal

theorem logReferences_isSome {runtimeTerminal : Bool}
    (logged : (Target.logReferences request runtimeTerminal logs).isSome = true) :
    ∃ references, gracefulStopLogEvidence logs request.requestedAt = .ok references := by
  unfold Target.logReferences at logged
  split at logged
  · rename_i references successful
    exact ⟨references, successful⟩
  · exact nomatch logged

/-- An observation whose evidence is confirmed shows a graceful stop by the acknowledged
request. -/
theorem graceful_of_confirmed
    (observed : target.observeStop acknowledged request readings = (seen, none))
    (confirmed : classifyStop .dispatchPossible seen now = .confirmed) :
    acknowledged = some request ∧ Graceful target request readings now := by
  unfold Target.observeStop at observed
  split at observed
  · exact nomatch congrArg Prod.snd observed
  rename_i lifecycle looked
  obtain ⟨inspection, isAnswer, isID, -, running, killed, exited, finished, observedAt⟩ :=
    observeLifecycle_eq_ok looked
  obtain ⟨stop, fresh, terminal, graceful⟩ := classifyStop_confirmed confirmed
  split at observed
  · rename_i isRunning
    obtain rfl := congrArg Prod.fst observed
    exact nomatch isRunning.symm.trans stop.stopped
  obtain rfl := congrArg Prod.fst observed
  obtain ⟨snapshot, digest, isSnapshot, notReady, boot, notBefore, notAfter⟩ :=
    terminalDigest_isSome terminal
  obtain ⟨references, logged⟩ := logReferences_isSome graceful
  have isAcknowledged : acknowledged = some request := by
    have correlated := stop.correlated
    by_contra other
    have unattributed : (Target.stoppedEvidence acknowledged request readings
        lifecycle).attribution = .unattributed := if_neg fun both => other both.1
    exact nomatch unattributed.symm.trans correlated
  have window : lifecycle.observedAt ≤ now ∧ now - lifecycle.observedAt ≤ 5 * Duration.second :=
    fresh.window
  rw [observedAt] at window
  refine ⟨isAcknowledged, ?_, ⟨window.1, ?_⟩, gracefulStopLogEvidence_eq_ok logged⟩
  · exact ⟨inspection, lifecycle.finishedAt, isAnswer, isID, running.symm.trans stop.stopped,
      exited.symm.trans stop.exited, killed.symm.trans stop.notKilled, finished,
      stop.requestedFinished, observedAt ▸ stop.finishedObserved, snapshot, digest, isSnapshot,
      notReady, boot, not_lt.mp notBefore, not_lt.mp notAfter⟩
  · exact sub_le_iff_le_add'.mp window.2

/-! ### The wait -/

theorem lookStopped_confirmed
    (ends : Ends (Foundation.lookStopped request).run trace (.ok (.inr (stop, none)))) :
    ∃ seen now, trace = [⟨.observeStop request, (seen, none)⟩, ⟨.now, now⟩] ∧
      classifyStop .dispatchPossible seen now = .confirmed := by
  obtain ⟨⟨seen, failure⟩, rest, isTrace, continues⟩ := Ends.of_call ends
  cases failure with
  | some failure =>
    obtain ⟨-, same⟩ := Ends.of_done continues
    exact nomatch Except.ok.inj same
  | none =>
    change Ends (ExceptT.run (if Foundation.AnswersRequest request seen then
        (do pure (Foundation.judgeStop seen (← now)) : Flow _)
      else pure (.inr ({ seen with state := .unknown },
        some (.other "stop observation belongs to another dispatch or target"))))) rest _
      at continues
    split at continues
    · obtain ⟨now, last, isRest, looked⟩ := Ends.of_call continues
      obtain ⟨isLast, same⟩ := Ends.of_done looked
      refine ⟨seen, now, ?_, ?_⟩
      · rw [isTrace, isRest, isLast]
      · unfold Foundation.judgeStop at same
        dsimp only at same
        split at same
        · assumption
        split at same
        · exact nomatch Except.ok.inj same
        split at same
        · exact nomatch Except.ok.inj same
        · exact nomatch Except.ok.inj same
    · obtain ⟨-, same⟩ := Ends.of_done continues
      exact nomatch Except.ok.inj same

/-- A wait that ends without an error ends with a look that confirms the stop. -/
theorem waitStopped_confirmed
    (ends : Ends (Foundation.waitStopped request).run trace (.ok (stop, none))) :
    ∃ early seen now, trace = early ++ [⟨.observeStop request, (seen, none)⟩, ⟨.now, now⟩] ∧
      classifyStop .dispatchPossible seen now = .confirmed := by
  obtain ⟨first, second, polls, rfl, -, ends⟩ := Ends.of_bind ends
  rcases Ends.of_poll ends with ⟨early, late, rfl, looked⟩ | ⟨last, late, settled⟩
  · obtain ⟨seen, now, rfl, confirmed⟩ := lookStopped_confirmed looked
    exact ⟨first ++ early, seen, now, (List.append_assoc ..).symm, confirmed⟩
  · obtain ⟨-, same⟩ := Ends.of_done settled
    exact nomatch congrArg Prod.snd (Except.ok.inj same)

/-! ### The calls behind the answers -/

theorem answers_split {early late : List ((effect : Effect) × effect.Answer)}
    {answer : StopEvidence × Option Failure}
    (split : answers target acknowledged calls = early ++ ⟨.observeStop request, answer⟩ :: late) :
    ∃ before readings after, calls = before ++ .observe request readings :: after ∧
      answer = target.observeStop (acknowledgedAfter target acknowledged before) request readings ∧
      late = answers target (acknowledgedAfter target acknowledged before) after := by
  induction calls generalizing acknowledged early with
  | nil => exact absurd split (List.append_ne_nil_of_right_ne_nil _ (List.cons_ne_nil _ _)).symm
  | cons call calls hypothesis =>
    cases call with
    | dispatch other answer =>
      obtain ⟨before, readings, after, rfl, rest⟩ := hypothesis split
      exact ⟨.dispatch other answer :: before, readings, after, rfl, rest⟩
    | observe other readings =>
      cases early with
      | nil =>
        obtain ⟨same, rfl⟩ := List.cons.inj split
        obtain ⟨isEffect, isAnswer⟩ := Sigma.mk.inj same
        cases isEffect
        exact ⟨[], readings, calls, rfl, (eq_of_heq isAnswer).symm, rfl⟩
      | cons first early =>
        obtain ⟨before, found, after, rfl, rest⟩ := hypothesis (List.cons.inj split).2
        exact ⟨.observe other readings :: before, found, after, rfl, rest⟩
    | clock now =>
      cases early with
      | nil => exact nomatch congrArg Sigma.fst (List.cons.inj split).1
      | cons first early =>
        obtain ⟨before, found, after, rfl, rest⟩ := hypothesis (List.cons.inj split).2
        exact ⟨.clock now :: before, found, after, rfl, rest⟩
    | polls ticks ended =>
      cases early with
      | nil => exact nomatch congrArg Sigma.fst (List.cons.inj split).1
      | cons first early =>
        obtain ⟨before, found, after, rfl, rest⟩ := hypothesis (List.cons.inj split).2
        exact ⟨.polls ticks ended :: before, found, after, rfl, rest⟩

theorem clock_mem_of_answers
    (read : (⟨.now, now⟩ : (effect : Effect) × effect.Answer) ∈ answers target acknowledged calls) :
    Call.clock now ∈ calls := by
  induction calls generalizing acknowledged with
  | nil => exact absurd read List.not_mem_nil
  | cons call calls hypothesis =>
    cases call with
    | dispatch other answer => exact List.mem_cons_of_mem _ (hypothesis read)
    | observe other readings =>
      rcases List.mem_cons.mp read with same | read
      · exact nomatch congrArg Sigma.fst same
      · exact List.mem_cons_of_mem _ (hypothesis read)
    | clock time =>
      rcases List.mem_cons.mp read with same | read
      · obtain rfl := eq_of_heq (Sigma.mk.inj same).2
        exact List.mem_cons_self
      · exact List.mem_cons_of_mem _ (hypothesis read)
    | polls ticks ended =>
      rcases List.mem_cons.mp read with same | read
      · exact nomatch congrArg Sigma.fst same
      · exact List.mem_cons_of_mem _ (hypothesis read)

theorem dispatched_of_acknowledged
    (isAcknowledged : acknowledgedAfter target acknowledged calls = some request) :
    acknowledged = some request ∨ ∃ answer, Call.dispatch request answer ∈ calls ∧
      target.dispatchGracefulStop request answer = .ok () := by
  have later : ∀ {call : Call} {calls : List Call},
      (∃ answer, Call.dispatch request answer ∈ calls ∧
        target.dispatchGracefulStop request answer = .ok ()) →
      ∃ answer, Call.dispatch request answer ∈ call :: calls ∧
        target.dispatchGracefulStop request answer = .ok () :=
    fun ⟨answer, member, successful⟩ => ⟨answer, List.mem_cons_of_mem _ member, successful⟩
  induction calls generalizing acknowledged with
  | nil => exact Or.inl isAcknowledged
  | cons call calls hypothesis =>
    cases call with
    | dispatch other answer =>
      rcases hypothesis isAcknowledged with first | dispatched
      · unfold Target.acknowledge at first
        split at first
        · rename_i successful
          obtain rfl := Option.some.inj first
          exact Or.inr ⟨answer, List.mem_cons_self, successful⟩
        · exact Or.inl first
      · exact Or.inr (later dispatched)
    | observe other readings => exact (hypothesis isAcknowledged).imp_right later
    | clock now => exact (hypothesis isAcknowledged).imp_right later
    | polls ticks ended => exact (hypothesis isAcknowledged).imp_right later

/-- A confirmed stop is a graceful stop caused by this dispatch: whatever the target is asked in
the process and whatever Docker, the plugin and the clocks answer, a wait that ends without an
error has made one observation that shows a graceful stop, after a dispatch of this very request
that succeeded. -/
theorem confirmed_stop_is_graceful (target : Target) (calls : List Call) (request : StopRequest)
    (stop : StopEvidence)
    (ends : Ends (Foundation.waitStopped request).run (answers target none calls)
      (.ok (stop, none))) :
    ∃ before readings after now, calls = before ++ .observe request readings :: after ∧
      Call.clock now ∈ after ∧ Graceful target request readings now ∧
      ∃ answer, Call.dispatch request answer ∈ before ∧
        target.dispatchGracefulStop request answer = .ok () := by
  obtain ⟨early, seen, now, split, confirmed⟩ := waitStopped_confirmed ends
  obtain ⟨before, readings, after, rfl, observed, rest⟩ := answers_split split
  obtain ⟨isAcknowledged, graceful⟩ := graceful_of_confirmed observed.symm confirmed
  have read : (⟨.now, now⟩ : (effect : Effect) × effect.Answer) ∈
      answers target (acknowledgedAfter target none before) after := rest ▸ List.mem_cons_self
  rcases dispatched_of_acknowledged isAcknowledged with impossible | dispatched
  · exact nomatch impossible
  · exact ⟨before, readings, after, now, rfl, clock_mem_of_answers read, graceful, dispatched⟩

theorem ends_waitStopped {ticks : Nat} {ended : Failure}
    (same : Foundation.AnswersRequest request seen)
    (confirmed : classifyStop .dispatchPossible seen now = .confirmed) :
    Ends (Foundation.waitStopped request).run
      [⟨.polls, (ticks, ended)⟩, ⟨.observeStop request, (seen, none)⟩, ⟨.now, now⟩]
      (.ok ({ seen with state := .confirmed }, none)) := by
  have judged : Foundation.judgeStop seen now =
      .inr ({ seen with state := .confirmed }, none) := by
    unfold Foundation.judgeStop
    rw [confirmed]
    rfl
  have looked : Ends (Foundation.lookStopped request).run
      [⟨.observeStop request, (seen, none)⟩, ⟨.now, now⟩]
      (.ok (.inr ({ seen with state := .confirmed }, none))) := by
    refine .call ?_
    show Ends (ExceptT.run (if Foundation.AnswersRequest request seen then
        (do pure (Foundation.judgeStop seen (← GuardedAgentRunner.now)) : Flow _)
      else _)) [⟨.now, now⟩] _
    rw [if_pos same, ← judged]
    exact .call (.done _)
  exact .call (looked.to_poll ticks)

/-- The enrolled container of the fixture. -/
def stopTarget : Target where
  containerID := "container-a"
  observed := "container-a"

def stopRequest : StopRequest where
  operationID := "operation_a"
  stepID := "step_3"
  containerID := "container-a"
  bootID := "boot-a"
  requestedAt := 63924467696 * Duration.second

/-- Answers that show a graceful stop one second after the request. -/
def stopReadings : StopReadings where
  inspection := .ok
    { id := "container-a", status := "exited", running := false, oomKilled := false, exitCode := 0,
      startedAt := "2026-09-08T10:00:00Z", finishedAt := "2026-09-08T12:34:57Z" }
  observedAt := 63924467698 * Duration.second
  snapshot := .ok (⟨false, "boot-a", 63924467697 * Duration.second⟩, "digest")
  logs := .ok (200, some (bytes ("2026-09-08T12:34:56Z Stopping server
" ++
    "2026-09-08T12:34:56Z All dimensions are saved
" ++
    "2026-09-08T12:34:57Z mc-server-runner	Done
")))

def stopCalls : List Call :=
  [.dispatch stopRequest (.ok 204), .polls 0 (.other "context deadline exceeded"),
    .observe stopRequest stopReadings, .clock (63924467699 * Duration.second)]

/-- The evidence of these answers. -/
def stopSeen : StopEvidence := (stopTarget.observeStop (some stopRequest) stopRequest stopReadings).1

theorem stopCalls_answers : answers stopTarget none stopCalls =
    [⟨.polls, (0, .other "context deadline exceeded")⟩,
      ⟨.observeStop stopRequest, (stopSeen, none)⟩, ⟨.now, 63924467699 * Duration.second⟩] := by
  have acknowledges : stopTarget.acknowledge none stopRequest (.ok 204) = some stopRequest := by
    decide +kernel
  have noError : stopTarget.observeStop (some stopRequest) stopRequest stopReadings =
      (stopSeen, none) := Prod.ext rfl (by decide +kernel)
  simp only [stopCalls, answers, acknowledges, noError]

/-- The wait over these answers confirms the stop. -/
theorem stopCalls_graceful :
    ∃ before readings after now, stopCalls = before ++ .observe stopRequest readings :: after ∧
      Call.clock now ∈ after ∧ Graceful stopTarget stopRequest readings now ∧
      ∃ answer, Call.dispatch stopRequest answer ∈ before ∧
        stopTarget.dispatchGracefulStop stopRequest answer = .ok () := by
  refine confirmed_stop_is_graceful stopTarget stopCalls stopRequest
    { stopSeen with state := .confirmed } ?_
  rw [stopCalls_answers]
  exact ends_waitStopped (by decide +kernel) (by decide +kernel)

end Paper

end GuardedAgentRunner
