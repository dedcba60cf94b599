/-
This file models the TCP gate: the goroutine of every accepted connection, the
monitor that polls the admission and drops all connections when it is closed, and
the table of connections they share. A client is registered before its session is
evaluated and removed only after its copy loops have lost it; so a monitor round
that finds admission closed drops every session evaluated before it, however the
goroutines interleave.
-/

import Mathlib.Data.Finset.Basic
import GuardedAgentRunner.Access

namespace GuardedAgentRunner

open JsonText

namespace Admission

/-! ### Sessions -/

/-- The connections of a handler. -/
inductive Conn where
  | client (id : Nat)
  | upstream (id : Nat)
deriving DecidableEq, Repr

/-- The statement of `handle` that comes next. -/
inductive Phase where
  /-- The connection has not been accepted. -/
  | absent
  /-- `startSession`. -/
  | accepted
  /-- `client.Close()` of a refused connection. -/
  | refused
  /-- `EvaluateAccess`. -/
  | registered
  /-- `DialContext`. -/
  | admitted
  /-- `track`. -/
  | dialed
  /-- `go copyStream(upstream, client)`. -/
  | tracked
  /-- `go copyStream(client, upstream)`. -/
  | uplinked
  /-- The `select` on the context and the copy loops. -/
  | copying
  /-- `client.Close()`. -/
  | woken
  /-- `upstream.Close()`. -/
  | clientClosed
  /-- The deferred `upstream.Close()`. -/
  | upstreamClosed
  /-- `untrack`. -/
  | deferredClosed
  /-- The part of `endSession` under the lock. -/
  | leaving
  /-- `connection.Close()` of `endSession`. -/
  | removed
  | finished
deriving DecidableEq, Repr

/-- The phases between a successful `startSession` and the removal in `endSession`. -/
def Phase.InSession (phase : Phase) : Prop :=
  phase ∈ [.registered, .admitted, .dialed, .tracked, .uplinked, .copying, .woken, .clientClosed,
    .upstreamClosed, .deferredClosed, .leaving]
deriving Decidable

/-- The two copy loops: from the client, and to the client. -/
inductive Direction where
  | up
  | down
deriving DecidableEq, Repr

/-- A copy loop. A loop that has stopped has signalled `done`. -/
inductive Loop where
  | idle
  | running
  | stopped
deriving DecidableEq, Repr

/-- What a handler has done. -/
inductive Event where
  | registered
  | evaluated (isOpen : Bool)
  | dialed
  | copied (direction : Direction)
deriving DecidableEq, Repr

structure Handler where
  phase : Phase
  clientClosed : Bool
  upstreamClosed : Bool
  uplink : Loop
  downlink : Loop
  /-- What the handler has done so far, in order. -/
  events : List Event
  /-- How often something was read from the client. -/
  received : Nat
deriving DecidableEq, Repr

namespace Handler

def initial : Handler where
  phase := .absent
  clientClosed := false
  upstreamClosed := false
  uplink := .idle
  downlink := .idle
  events := []
  received := 0

/-- The session has been evaluated. -/
def Evaluated (handler : Handler) : Prop := ∃ isOpen, Event.evaluated isOpen ∈ handler.events

/-- No copy loop was started. -/
def Idle (handler : Handler) : Prop := handler.uplink = .idle ∧ handler.downlink = .idle

/-- The client was registered and then admitted by an evaluation of its own. -/
def Admitted (handler : Handler) : Prop :=
  ∃ rest, handler.events = .registered :: .evaluated true :: rest

/-- Append an event and go on with a phase. -/
def enter (handler : Handler) (phase : Phase) (events : List Event) : Handler :=
  { handler with phase, events := handler.events ++ events }

/-- One pass of a copy loop: it reads from its source unless that is closed. -/
def copy (handler : Handler) : Direction → Handler
  | .up =>
    if handler.uplink = .running ∧ handler.clientClosed = false then
      { handler with received := handler.received + 1, events := handler.events ++ [.copied .up] }
    else handler
  | .down =>
    if handler.downlink = .running ∧ handler.upstreamClosed = false then
      { handler with events := handler.events ++ [.copied .down] }
    else handler

/-- A copy loop returns. -/
def stop (handler : Handler) : Direction → Handler
  | .up => if handler.uplink = .running then { handler with uplink := .stopped } else handler
  | .down => if handler.downlink = .running then { handler with downlink := .stopped } else handler

end Handler

/-! ### The gate -/

/-- The monitor: between two rounds, after an evaluation that was not open, or closing the
connections of its snapshot. -/
inductive Monitor where
  | waiting
  | judged
  | closing (pending : Finset Conn)
deriving DecidableEq

structure Gate where
  handlers : Nat → Handler
  connections : Finset Conn
  activeSessions : Int
  monitor : Monitor
  /-- The finished rounds of the monitor that dropped connections. -/
  rounds : Nat
  /-- What the other callers of `closeAll` have left to close. -/
  others : Finset Conn
  cancelled : Bool

namespace Gate

def initial : Gate where
  handlers := fun _ => .initial
  connections := ∅
  activeSessions := 0
  monitor := .waiting
  rounds := 0
  others := ∅
  cancelled := false

variable (gate : Gate)

def set (id : Nat) (handler : Handler) : Gate :=
  { gate with handlers := Function.update gate.handlers id handler }

/-- `Close` of a connection. -/
def close : Conn → Gate
  | .client id => gate.set id { gate.handlers id with clientClosed := true }
  | .upstream id => gate.set id { gate.handlers id with upstreamClosed := true }

/-- `startSession`. -/
def startSession (config : Config) (id : Nat) : Gate :=
  if config.maxConnections ≤ gate.activeSessions then
    gate.set id ((gate.handlers id).enter .refused [])
  else
    { gate.set id ((gate.handlers id).enter .registered [.registered]) with
      activeSessions := gate.activeSessions + 1
      connections := insert (.client id) gate.connections }

/-- The part of `endSession` under the lock. -/
def endSession (id : Nat) : Gate :=
  { gate.set id ((gate.handlers id).enter .removed []) with
    activeSessions := gate.activeSessions - 1
    connections := gate.connections.erase (.client id) }

/-- The next statement of a handler, unless its outcome is not in the hand of the gate. -/
def advance (config : Config) (id : Nat) : Gate :=
  let handler := gate.handlers id
  match handler.phase with
  | .accepted => gate.startSession config id
  | .refused => gate.set id { handler with phase := .finished, clientClosed := true }
  | .dialed =>
    { gate.set id (handler.enter .tracked []) with
      connections := insert (.upstream id) gate.connections }
  | .tracked => gate.set id { handler with phase := .uplinked, uplink := .running }
  | .uplinked => gate.set id { handler with phase := .copying, downlink := .running }
  | .copying =>
    if gate.cancelled = true ∨ handler.uplink = .stopped ∨ handler.downlink = .stopped then
      gate.set id (handler.enter .woken [])
    else gate
  | .woken => gate.set id { handler with phase := .clientClosed, clientClosed := true }
  | .clientClosed => gate.set id { handler with phase := .upstreamClosed, upstreamClosed := true }
  | .upstreamClosed =>
    gate.set id { handler with phase := .deferredClosed, upstreamClosed := true }
  | .deferredClosed =>
    { gate.set id (handler.enter .leaving []) with
      connections := gate.connections.erase (.upstream id) }
  | .leaving => gate.endSession id
  | .removed => gate.set id { handler with phase := .finished, clientClosed := true }
  | _ => gate

/-- `EvaluateAccess` of a handler. -/
def evaluate (config : Config) (id : Nat) (evidence : Evidence) : Gate :=
  let isOpen := (evaluateAccess config evidence).isOpen
  if (gate.handlers id).phase = .registered then
    gate.set id ((gate.handlers id).enter (if isOpen = true then .admitted else .leaving)
      [.evaluated isOpen])
  else gate

/-- `DialContext` of a handler, which succeeds or fails. -/
def dial (id : Nat) (succeeds : Bool) : Gate :=
  if (gate.handlers id).phase = .admitted then
    gate.set id ((gate.handlers id).enter (if succeeds = true then .dialed else .leaving) [.dialed])
  else gate

/-- `EvaluateAccess` of the monitor. -/
def monitorEvaluate (config : Config) (evidence : Evidence) : Gate :=
  if gate.monitor = .waiting ∧ (evaluateAccess config evidence).isOpen = false then
    { gate with monitor := .judged }
  else gate

/-- The snapshot of the monitor's `closeAll`. -/
def monitorSnapshot : Gate :=
  if gate.monitor = .judged then { gate with monitor := .closing gate.connections } else gate

/-- The monitor closes a connection of its snapshot. -/
def monitorClose (connection : Conn) : Gate :=
  match gate.monitor with
  | .closing pending =>
    if connection ∈ pending then
      { gate.close connection with monitor := .closing (pending.erase connection) }
    else gate
  | _ => gate

/-- The monitor has closed its snapshot. -/
def monitorReturn : Gate :=
  if gate.monitor = .closing ∅ then
    { gate with monitor := .waiting, rounds := gate.rounds + 1 }
  else gate

end Gate

/-- The steps of the goroutines and of their surroundings. -/
inductive Action where
  | accept (id : Nat)
  | advance (id : Nat)
  | evaluate (id : Nat) (evidence : Evidence)
  | dial (id : Nat) (succeeds : Bool)
  | copy (id : Nat) (direction : Direction)
  | stop (id : Nat) (direction : Direction)
  | cancel
  | monitorEvaluate (evidence : Evidence)
  | monitorSnapshot
  | monitorClose (connection : Conn)
  | monitorReturn
  | sweep
  | sweepClose (connection : Conn)

/-- One step. A step that is not the next one of its goroutine does nothing. -/
def Gate.step (config : Config) (gate : Gate) : Action → Gate
  | .accept id =>
    if (gate.handlers id).phase = .absent then
      gate.set id ((gate.handlers id).enter .accepted [])
    else gate
  | .advance id => gate.advance config id
  | .evaluate id evidence => gate.evaluate config id evidence
  | .dial id succeeds => gate.dial id succeeds
  | .copy id direction => gate.set id ((gate.handlers id).copy direction)
  | .stop id direction => gate.set id ((gate.handlers id).stop direction)
  | .cancel => { gate with cancelled := true }
  | .monitorEvaluate evidence => gate.monitorEvaluate config evidence
  | .monitorSnapshot => gate.monitorSnapshot
  | .monitorClose connection => gate.monitorClose connection
  | .monitorReturn => gate.monitorReturn
  | .sweep => { gate with others := gate.others ∪ gate.connections }
  | .sweepClose connection =>
    if connection ∈ gate.others then
      { gate.close connection with others := gate.others.erase connection }
    else gate

/-- The gate after a list of steps. -/
def runGate (config : Config) (actions : List Action) : Gate :=
  Runs.run (Gate.step config) .initial actions

theorem runGate_append (config : Config) (first second : List Action) :
    runGate config (first ++ second) =
      Runs.run (Gate.step config) (runGate config first) second :=
  Runs.run_append ..

/-! ### What a step does to a handler -/

/-- A handler, and whether its client is in the table. -/
def Gate.view (gate : Gate) (id : Nat) : Handler × Bool :=
  (gate.handlers id, decide (Conn.client id ∈ gate.connections))

/-- What one step of the gate can do to one handler and to its client's place in the table. -/
inductive Move : Handler × Bool → Handler × Bool → Prop where
  | stays (view : Handler × Bool) : Move view view
  | goesOn (handler : Handler) (listed : Bool) (next : Phase)
      (order : (handler.phase, next) ∈ [(.absent, .accepted), (.accepted, .refused),
        (.dialed, .tracked), (.copying, .woken), (.deferredClosed, .leaving)]) :
      Move (handler, listed) (handler.enter next [], listed)
  | registers (handler : Handler) (listed : Bool) (accepted : handler.phase = .accepted) :
      Move (handler, listed) (handler.enter .registered [.registered], true)
  | evaluates (handler : Handler) (listed isOpen : Bool) (registered : handler.phase = .registered) :
      Move (handler, listed)
        (handler.enter (if isOpen = true then .admitted else .leaving) [.evaluated isOpen], listed)
  | dials (handler : Handler) (listed succeeds : Bool) (admitted : handler.phase = .admitted) :
      Move (handler, listed)
        (handler.enter (if succeeds = true then .dialed else .leaving) [.dialed], listed)
  | uplinks (handler : Handler) (listed : Bool) (tracked : handler.phase = .tracked) :
      Move (handler, listed) ({ handler with phase := .uplinked, uplink := .running }, listed)
  | downlinks (handler : Handler) (listed : Bool) (uplinked : handler.phase = .uplinked) :
      Move (handler, listed) ({ handler with phase := .copying, downlink := .running }, listed)
  | closesClient (handler : Handler) (listed : Bool) (next : Phase)
      (order : (handler.phase, next) ∈ [(.refused, .finished), (.woken, .clientClosed),
        (.removed, .finished)]) :
      Move (handler, listed) ({ handler with phase := next, clientClosed := true }, listed)
  | closesUpstream (handler : Handler) (listed : Bool) (next : Phase)
      (order : (handler.phase, next) ∈ [(.clientClosed, .upstreamClosed),
        (.upstreamClosed, .deferredClosed)]) :
      Move (handler, listed) ({ handler with phase := next, upstreamClosed := true }, listed)
  | removes (handler : Handler) (listed : Bool) (leaving : handler.phase = .leaving) :
      Move (handler, listed) (handler.enter .removed [], false)
  | copies (handler : Handler) (listed : Bool) (direction : Direction) :
      Move (handler, listed) (handler.copy direction, listed)
  | stops (handler : Handler) (listed : Bool) (direction : Direction) :
      Move (handler, listed) (handler.stop direction, listed)
  | losesClient (handler : Handler) (listed : Bool) :
      Move (handler, listed) ({ handler with clientClosed := true }, listed)
  | losesUpstream (handler : Handler) (listed : Bool) :
      Move (handler, listed) ({ handler with upstreamClosed := true }, listed)

variable {id : Nat} {handler : Handler} {config : Config} {listed : Bool} {next : Phase}
  {before after : Handler × Bool} {other : Nat}

/-- A step that changes one handler and, in the table, at most its client. -/
theorem move_of_update {gate after : Gate}
    (handlers : after.handlers = Function.update gate.handlers id handler)
    (table : ∀ other, other ≠ id →
      (Conn.client other ∈ after.connections ↔ Conn.client other ∈ gate.connections))
    (moved : Move (gate.view id) (handler, decide (Conn.client id ∈ after.connections))) :
    Move (gate.view other) (after.view other) := by
  by_cases same : other = id
  · subst same
    rw [Gate.view.eq_def after, handlers, Function.update_self]
    exact moved
  · have unchanged : after.view other = gate.view other := by
      rw [Gate.view, Gate.view, handlers, Function.update_of_ne same]
      simp only [table other same]
    rw [unchanged]
    exact .stays _

theorem move_set {gate : Gate} (moved : Move (gate.view id) (handler, (gate.view id).2)) :
    Move (gate.view other) ((gate.set id handler).view other) :=
  @move_of_update id handler other gate (gate.set id handler) rfl (fun _ _ => Iff.rfl) moved

theorem move_close (gate : Gate) (connection : Conn) (id : Nat) :
    Move (gate.view id) ((gate.close connection).view id) := by
  cases connection with
  | client owner => exact move_set (.losesClient _ _)
  | upstream owner => exact move_set (.losesUpstream _ _)

theorem move_startSession {gate : Gate} (accepted : (gate.handlers id).phase = .accepted)
    (other : Nat) : Move (gate.view other) ((gate.startSession config id).view other) := by
  rw [Gate.startSession]
  split
  · exact move_set (.goesOn _ _ _ (by simp [accepted]))
  · refine move_of_update (by rfl) (fun owner different => ?_) ?_
    · simp [different]
    · simpa [Gate.view] using
        Move.registers (gate.handlers id) (decide (Conn.client id ∈ gate.connections)) accepted

theorem move_endSession {gate : Gate} (leaving : (gate.handlers id).phase = .leaving) (other : Nat) :
    Move (gate.view other) ((gate.endSession id).view other) := by
  refine move_of_update (by rfl) (fun owner different => ?_) ?_
  · simp [Gate.endSession, different]
  · simpa [Gate.view, Gate.endSession] using
      Move.removes (gate.handlers id) (decide (Conn.client id ∈ gate.connections)) leaving

theorem move_advance (gate : Gate) (config : Config) (id other : Nat) :
    Move (gate.view other) ((gate.advance config id).view other) := by
  rw [Gate.advance]
  dsimp only
  split <;> rename_i phase
  · exact move_startSession phase other
  · exact move_set (.closesClient _ _ _ (by simp [phase]))
  · refine move_of_update (by rfl) (fun owner different => by simp) ?_
    simpa [Gate.view] using Move.goesOn (gate.handlers id)
      (decide (Conn.client id ∈ gate.connections)) .tracked (by simp [phase])
  · exact move_set (.uplinks _ _ phase)
  · exact move_set (.downlinks _ _ phase)
  · split
    · exact move_set (.goesOn _ _ _ (by simp [phase]))
    · exact .stays _
  · exact move_set (.closesClient _ _ _ (by simp [phase]))
  · exact move_set (.closesUpstream _ _ _ (by simp [phase]))
  · exact move_set (.closesUpstream _ _ _ (by simp [phase]))
  · refine move_of_update (by rfl) (fun owner different => by simp) ?_
    simpa [Gate.view] using Move.goesOn (gate.handlers id)
      (decide (Conn.client id ∈ gate.connections)) .leaving (by simp [phase])
  · exact move_endSession phase other
  · exact move_set (.closesClient _ _ _ (by simp [phase]))
  · exact .stays _

/-- Every step does to every handler one of the moves. -/
theorem move_step (config : Config) (gate : Gate) (action : Action) (id : Nat) :
    Move (gate.view id) ((gate.step config action).view id) := by
  cases action with
  | accept owner =>
    rw [Gate.step]
    split
    case isTrue absent => exact move_set (.goesOn _ _ _ (by simp [absent]))
    case isFalse => exact .stays _
  | advance owner => exact move_advance gate config owner id
  | evaluate owner evidence =>
    rw [Gate.step, Gate.evaluate]
    split
    case isTrue registered => exact move_set (.evaluates _ _ _ registered)
    case isFalse => exact .stays _
  | dial owner succeeds =>
    rw [Gate.step, Gate.dial]
    split
    case isTrue admitted => exact move_set (.dials _ _ _ admitted)
    case isFalse => exact .stays _
  | copy owner direction => exact move_set (.copies _ _ direction)
  | stop owner direction => exact move_set (.stops _ _ direction)
  | cancel => exact .stays (gate.view id)
  | monitorEvaluate evidence =>
    rw [Gate.step, Gate.monitorEvaluate]
    split <;> exact .stays (gate.view id)
  | monitorSnapshot =>
    rw [Gate.step, Gate.monitorSnapshot]
    split <;> exact .stays (gate.view id)
  | monitorClose connection =>
    rw [Gate.step, Gate.monitorClose]
    split
    · split
      · exact move_close gate connection id
      · exact .stays _
    · exact .stays _
  | monitorReturn =>
    rw [Gate.step, Gate.monitorReturn]
    split <;> exact .stays (gate.view id)
  | sweep => exact .stays (gate.view id)
  | sweepClose connection =>
    rw [Gate.step]
    split
    · exact move_close gate connection id
    · exact .stays _

/-! ### Every session is admitted before it dials -/

/-- What holds of a handler in each of its phases. -/
def Handler.Valid (handler : Handler) : Prop :=
  match handler.phase with
  | .absent | .accepted | .refused => handler.events = [] ∧ handler.Idle
  | .registered => handler.events = [.registered] ∧ handler.Idle
  | .admitted | .dialed | .tracked => handler.Admitted ∧ handler.Idle
  | .uplinked | .copying | .woken => handler.Admitted
  | .clientClosed | .upstreamClosed | .deferredClosed =>
    handler.Admitted ∧ handler.clientClosed = true
  | .leaving | .removed | .finished =>
    handler.Idle ∧ (handler.events = [] ∨ handler.events = [.registered, .evaluated false]) ∨
      handler.Admitted ∧ (handler.Idle ∨ handler.clientClosed = true)

/-- A valid handler whose client is in the table exactly while its session lasts. -/
def Sound (view : Handler × Bool) : Prop :=
  view.1.Valid ∧ (view.2 = true ↔ view.1.phase.InSession)

theorem Handler.Admitted.append {after : Handler} (admitted : handler.Admitted)
    (events : List Event) (grown : after.events = handler.events ++ events) : after.Admitted := by
  obtain ⟨rest, listed⟩ := admitted
  exact ⟨rest ++ events, by rw [grown, listed]; rfl⟩

theorem Handler.Valid.admitted (valid : handler.Valid) (busy : ¬handler.Idle) : handler.Admitted := by
  cases phase : handler.phase <;> simp only [Handler.Valid, phase] at valid <;> grind

section

variable (sound : Sound (handler, listed))

include sound

/-- A handler stays sound where it stays in its phase and only closes connections, and, once its
loops were started, goes on with them and with its events. -/
theorem Sound.of_phase_eq {after : Handler}
    (phase : after.phase = handler.phase)
    (closed : handler.clientClosed = true → after.clientClosed = true)
    (idle : handler.Idle → after.Idle ∧ after.events = handler.events) (events : List Event)
    (grown : after.events = handler.events ++ events) : Sound (after, listed) := by
  obtain ⟨valid, table⟩ := sound
  have admitted : handler.Admitted → after.Admitted := fun before => before.append events grown
  have busy : ¬handler.Idle → handler.Admitted := valid.admitted
  refine ⟨?_, by rw [table, phase]⟩
  cases now : handler.phase <;> simp only [Handler.Valid, phase, now] at valid ⊢ <;> grind

theorem Sound.copy (direction : Direction) :
    Sound (handler.copy direction, listed) := by
  cases direction with
  | up =>
    rw [Handler.copy]
    split
    case isTrue running =>
      refine sound.of_phase_eq rfl id (fun idle => ?_) [.copied .up] rfl
      simp [idle.1] at running
    case isFalse => exact sound
  | down =>
    rw [Handler.copy]
    split
    case isTrue running =>
      refine sound.of_phase_eq rfl id (fun idle => ?_) [.copied .down] rfl
      simp [idle.2] at running
    case isFalse => exact sound

theorem Sound.stop (direction : Direction) :
    Sound (handler.stop direction, listed) := by
  cases direction with
  | up =>
    rw [Handler.stop]
    split
    case isTrue running =>
      refine sound.of_phase_eq rfl id (fun idle => ?_) [] (List.append_nil _).symm
      simp [idle.1] at running
    case isFalse => exact sound
  | down =>
    rw [Handler.stop]
    split
    case isTrue running =>
      refine sound.of_phase_eq rfl id (fun idle => ?_) [] (List.append_nil _).symm
      simp [idle.2] at running
    case isFalse => exact sound

theorem Sound.goesOn
    (order : (handler.phase, next) ∈ [(.absent, .accepted), (.accepted, .refused),
        (.dialed, .tracked), (.copying, .woken), (.deferredClosed, .leaving)]) :
    Sound (handler.enter next [], listed) := by
  simp only [List.mem_cons, Prod.mk.injEq, List.not_mem_nil, or_false] at order
  obtain ⟨now, rfl⟩ | ⟨now, rfl⟩ | ⟨now, rfl⟩ | ⟨now, rfl⟩ | ⟨now, rfl⟩ := order <;>
    simp_all [Sound, Handler.Valid, Handler.enter, Phase.InSession, Handler.Idle, Handler.Admitted]

theorem Sound.registers (accepted : handler.phase = .accepted) :
    Sound (handler.enter .registered [.registered], true) := by
  simp_all [Sound, Handler.Valid, Handler.enter, Phase.InSession, Handler.Idle]

theorem Sound.evaluates (registered : handler.phase = .registered)
    (isOpen : Bool) :
    Sound (handler.enter (if isOpen = true then .admitted else .leaving) [.evaluated isOpen],
      listed) := by
  cases isOpen <;>
    simp_all [Sound, Handler.Valid, Handler.enter, Phase.InSession, Handler.Idle, Handler.Admitted]

theorem Sound.dials (admitted : handler.phase = .admitted)
    (succeeds : Bool) :
    Sound (handler.enter (if succeeds = true then .dialed else .leaving) [.dialed], listed) := by
  obtain ⟨valid, table⟩ := sound
  simp only [Handler.Valid, admitted] at valid
  have still : (handler.enter (if succeeds = true then .dialed else .leaving) [.dialed]).Admitted :=
    valid.1.append [.dialed] rfl
  cases succeeds with
  | true => exact ⟨⟨still, valid.2⟩, by simp [table, admitted, Phase.InSession, Handler.enter]⟩
  | false =>
    exact ⟨.inr ⟨still, .inl valid.2⟩, by simp [table, admitted, Phase.InSession, Handler.enter]⟩

theorem Sound.closesClient
    (order : (handler.phase, next) ∈ [(.refused, .finished), (.woken, .clientClosed),
        (.removed, .finished)]) :
    Sound ({ handler with phase := next, clientClosed := true }, listed) := by
  simp only [List.mem_cons, Prod.mk.injEq, List.not_mem_nil, or_false] at order
  obtain ⟨now, rfl⟩ | ⟨now, rfl⟩ | ⟨now, rfl⟩ := order
  · simp_all [Sound, Handler.Valid, Phase.InSession, Handler.Idle]
  · simp_all [Sound, Handler.Valid, Phase.InSession, Handler.Admitted]
  · obtain ⟨valid, table⟩ := sound
    simp only [Handler.Valid, now] at valid
    exact ⟨valid.imp_right fun admitted => ⟨admitted.1, .inr rfl⟩,
      by simp [table, now, Phase.InSession]⟩

theorem Sound.closesUpstream
    (order : (handler.phase, next) ∈ [(.clientClosed, .upstreamClosed),
        (.upstreamClosed, .deferredClosed)]) :
    Sound ({ handler with phase := next, upstreamClosed := true }, listed) := by
  simp only [List.mem_cons, Prod.mk.injEq, List.not_mem_nil, or_false] at order
  obtain ⟨now, rfl⟩ | ⟨now, rfl⟩ := order <;>
    simp_all [Sound, Handler.Valid, Phase.InSession, Handler.Admitted]

end

theorem sound_move (move : Move before after) (sound : Sound before) :
    Sound after := by
  cases move with
  | stays => exact sound
  | goesOn handler listed next order => exact sound.goesOn order
  | registers handler listed accepted => exact sound.registers accepted
  | evaluates handler listed isOpen registered => exact sound.evaluates registered isOpen
  | dials handler listed succeeds admitted => exact sound.dials admitted succeeds
  | uplinks handler listed tracked =>
    simp_all [Sound, Handler.Valid, Phase.InSession, Handler.Admitted]
  | downlinks handler listed uplinked =>
    simp_all [Sound, Handler.Valid, Phase.InSession, Handler.Admitted]
  | closesClient handler listed next order => exact sound.closesClient order
  | closesUpstream handler listed next order => exact sound.closesUpstream order
  | removes handler listed leaving =>
    simp_all [Sound, Handler.Valid, Handler.enter, Phase.InSession, Handler.Idle, Handler.Admitted]
  | copies handler listed direction => exact sound.copy direction
  | stops handler listed direction => exact sound.stop direction
  | losesClient handler listed =>
    exact sound.of_phase_eq rfl (fun _ => rfl) (fun idle => ⟨idle, rfl⟩) [] (List.append_nil _).symm
  | losesUpstream handler listed =>
    exact sound.of_phase_eq rfl id (fun idle => ⟨idle, rfl⟩) [] (List.append_nil _).symm

theorem sound_runGate (config : Config) (actions : List Action) (id : Nat) :
    Sound ((runGate config actions).view id) := by
  refine Runs.invariant_run (fun gate : Gate => ∀ id, Sound (gate.view id))
    (fun gate action sound id => ?_) (fun id => ?_) actions id
  · exact sound_move (move_step config gate action id) (sound id)
  · exact ⟨⟨rfl, rfl, rfl⟩, by simp [Gate.view, Gate.initial, Handler.initial, Phase.InSession]⟩

theorem Handler.Valid.admitted_of_mem (valid : handler.Valid) {event : Event}
    (done : event ∈ handler.events)
    (acts : event = .dialed ∨ ∃ direction, event = .copied direction) : handler.Admitted := by
  have first : event ≠ .registered := by
    rintro rfl
    simp at acts
  have second : ∀ isOpen, event ≠ .evaluated isOpen := by
    rintro isOpen rfl
    simp at acts
  cases phase : handler.phase <;> simp only [Handler.Valid, phase] at valid <;> grind

/-! ### A closed round drops every session -/

/-- Nothing can be read from the client of the handler any more. -/
def Handler.Dropped (handler : Handler) : Prop :=
  handler.clientClosed = true ∨
    (handler.phase = .removed ∨ handler.phase = .finished) ∧ handler.Idle

theorem Handler.Dropped.closed (dropped : handler.Dropped) (removed : handler.phase ≠ .removed)
    (finished : handler.phase ≠ .finished) : handler.clientClosed = true :=
  dropped.resolve_right fun left => left.1.elim removed finished

theorem Handler.Dropped.copy (dropped : handler.Dropped) (direction : Direction) :
    (handler.copy direction).Dropped ∧ (handler.copy direction).received = handler.received := by
  cases direction with
  | up =>
    have blocked : ¬(handler.uplink = .running ∧ handler.clientClosed = false) := by
      rintro ⟨running, unclosed⟩
      rcases dropped with closed | ⟨-, idle, -⟩
      · simp [closed] at unclosed
      · simp [idle] at running
    rw [Handler.copy, if_neg blocked]
    exact ⟨dropped, rfl⟩
  | down =>
    rw [Handler.copy]
    split
    · exact ⟨dropped, rfl⟩
    · exact ⟨dropped, rfl⟩

theorem Handler.Dropped.stop (dropped : handler.Dropped) (direction : Direction) :
    (handler.stop direction).Dropped ∧ (handler.stop direction).received = handler.received := by
  rcases dropped with closed | ⟨left, idle⟩
  · cases direction <;> rw [Handler.stop] <;> split <;> exact ⟨.inl closed, rfl⟩
  · have unmoved : handler.stop direction = handler := by
      cases direction <;> simp [Handler.stop, idle.1, idle.2]
    rw [unmoved]
    exact ⟨.inr ⟨left, idle⟩, rfl⟩

theorem dropped_move (move : Move before after) (dropped : before.1.Dropped) :
    after.1.Dropped ∧ after.1.received = before.1.received := by
  cases move with
  | stays => exact ⟨dropped, rfl⟩
  | goesOn handler listed next order =>
    refine ⟨.inl (dropped.closed ?_ ?_), rfl⟩ <;> intro (now : handler.phase = _) <;>
      simp [now] at order
  | registers handler listed accepted =>
    exact ⟨.inl (dropped.closed (by simp [accepted]) (by simp [accepted])), rfl⟩
  | evaluates handler listed isOpen registered =>
    exact ⟨.inl (dropped.closed (by simp [registered]) (by simp [registered])), rfl⟩
  | dials handler listed succeeds admitted =>
    exact ⟨.inl (dropped.closed (by simp [admitted]) (by simp [admitted])), rfl⟩
  | uplinks handler listed tracked =>
    exact ⟨.inl (dropped.closed (by simp [tracked]) (by simp [tracked])), rfl⟩
  | downlinks handler listed uplinked =>
    exact ⟨.inl (dropped.closed (by simp [uplinked]) (by simp [uplinked])), rfl⟩
  | closesClient handler listed next order => exact ⟨.inl rfl, rfl⟩
  | closesUpstream handler listed next order =>
    refine ⟨.inl (dropped.closed ?_ ?_), rfl⟩ <;> intro (now : handler.phase = _) <;>
      simp [now] at order
  | removes handler listed leaving =>
    exact ⟨.inl (dropped.closed (by simp [leaving]) (by simp [leaving])), rfl⟩
  | copies handler listed direction => exact dropped.copy direction
  | stops handler listed direction => exact dropped.stop direction
  | losesClient handler listed => exact ⟨.inl rfl, rfl⟩
  | losesUpstream handler listed => exact ⟨dropped, rfl⟩

theorem dropped_run {gate : Gate} (dropped : (gate.handlers id).Dropped) (actions : List Action) :
    ((Runs.run (Gate.step config) gate actions).handlers id).Dropped ∧
      ((Runs.run (Gate.step config) gate actions).handlers id).received =
        (gate.handlers id).received := by
  refine Runs.invariant_run (fun later : Gate => (later.handlers id).Dropped ∧
    (later.handlers id).received = (gate.handlers id).received) (fun later action kept => ?_)
    ⟨dropped, rfl⟩ actions
  obtain ⟨still, nothing⟩ := dropped_move (move_step config later action id) kept.1
  exact ⟨still, nothing.trans kept.2⟩

theorem events_move (move : Move before after) :
    before.1.events <+: after.1.events := by
  cases move with
  | copies handler listed direction =>
    cases direction <;> rw [Handler.copy] <;> split <;> simp
  | stops handler listed direction =>
    cases direction <;> rw [Handler.stop] <;> split <;> exact List.prefix_rfl
  | _ => simp [Handler.enter]

theorem evaluated_step {gate : Gate} (evaluated : (gate.handlers id).Evaluated) (action : Action) :
    ((gate.step config action).handlers id).Evaluated := by
  obtain ⟨isOpen, member⟩ := evaluated
  exact ⟨isOpen, (events_move (move_step config gate action id)).subset member⟩

theorem Sound.listed_or_dropped {gate : Gate} (sound : Sound (gate.view id))
    (evaluated : (gate.handlers id).Evaluated) :
    (gate.handlers id).Dropped ∨ Conn.client id ∈ gate.connections := by
  obtain ⟨valid, table⟩ := sound
  obtain ⟨isOpen, member⟩ := evaluated
  by_cases inSession : (gate.handlers id).phase.InSession
  · exact .inr (of_decide_eq_true (table.mpr inSession))
  · refine .inl ?_
    change (gate.handlers id).Valid at valid
    cases phase : (gate.handlers id).phase <;>
      simp only [Handler.Valid, phase] at valid <;> simp [phase, Phase.InSession] at inSession
    case absent => simp [valid.1] at member
    case accepted => simp [valid.1] at member
    case refused => simp [valid.1] at member
    case removed =>
      rcases valid with ⟨idle, -⟩ | ⟨-, idle | closed⟩
      · exact .inr ⟨.inl phase, idle⟩
      · exact .inr ⟨.inl phase, idle⟩
      · exact .inl closed
    case finished =>
      rcases valid with ⟨idle, -⟩ | ⟨-, idle | closed⟩
      · exact .inr ⟨.inr phase, idle⟩
      · exact .inr ⟨.inr phase, idle⟩
      · exact .inl closed

/-- What one step can do to the monitor. -/
inductive Turn (gate after : Gate) : Prop where
  | stays (monitor : after.monitor = gate.monitor) (rounds : after.rounds = gate.rounds)
  | judges (before : gate.monitor = .waiting) (monitor : after.monitor = .judged)
      (rounds : after.rounds = gate.rounds)
  | snapshots (before : gate.monitor = .judged) (monitor : after.monitor = .closing gate.connections)
      (rounds : after.rounds = gate.rounds) (handlers : after.handlers = gate.handlers)
  | closes (pending : Finset Conn) (connection : Conn) (before : gate.monitor = .closing pending)
      (monitor : after.monitor = .closing (pending.erase connection))
      (rounds : after.rounds = gate.rounds)
      (handlers : after.handlers = (gate.close connection).handlers)
  | returns (before : gate.monitor = .closing ∅) (monitor : after.monitor = .waiting)
      (rounds : after.rounds = gate.rounds + 1) (handlers : after.handlers = gate.handlers)

theorem turn_advance (config : Config) (gate : Gate) (id : Nat) :
    Turn gate (gate.advance config id) := by
  rw [Gate.advance]
  dsimp only
  split
  case h_1 => rw [Gate.startSession]; split <;> exact .stays rfl rfl
  case h_6 => split <;> exact .stays rfl rfl
  all_goals exact .stays rfl rfl

theorem turn_step (config : Config) (gate : Gate) (action : Action) :
    Turn gate (gate.step config action) := by
  cases action with
  | accept id => rw [Gate.step]; split <;> exact .stays rfl rfl
  | advance id => exact turn_advance config gate id
  | evaluate id evidence => rw [Gate.step, Gate.evaluate]; split <;> exact .stays rfl rfl
  | dial id succeeds => rw [Gate.step, Gate.dial]; split <;> exact .stays rfl rfl
  | copy id direction => exact .stays rfl rfl
  | stop id direction => exact .stays rfl rfl
  | cancel => exact .stays rfl rfl
  | monitorEvaluate evidence =>
    rw [Gate.step, Gate.monitorEvaluate]
    split
    case isTrue closed => exact .judges closed.1 rfl rfl
    case isFalse => exact .stays rfl rfl
  | monitorSnapshot =>
    rw [Gate.step, Gate.monitorSnapshot]
    split
    case isTrue judged => exact .snapshots judged rfl rfl rfl
    case isFalse => exact .stays rfl rfl
  | monitorClose connection =>
    rw [Gate.step, Gate.monitorClose]
    split
    case h_1 pending closing =>
      split
      · exact .closes pending connection closing rfl (by cases connection <;> rfl) rfl
      · exact .stays rfl rfl
    case h_2 => exact .stays rfl rfl
  | monitorReturn =>
    rw [Gate.step, Gate.monitorReturn]
    split
    case isTrue empty => exact .returns empty rfl rfl rfl
    case isFalse => exact .stays rfl rfl
  | sweep => exact .stays rfl rfl
  | sweepClose connection =>
    rw [Gate.step]
    split
    · cases connection <;> exact .stays rfl rfl
    · exact .stays rfl rfl

/-- How far a closed round that began after `rounds` finished ones has come with a session that
was evaluated before it. -/
inductive Covered (rounds id : Nat) (gate : Gate) : Prop where
  | judged (current : gate.rounds = rounds) (monitor : gate.monitor = .judged)
      (evaluated : (gate.handlers id).Evaluated)
  | closing (current : gate.rounds = rounds) (pending : Finset Conn)
      (monitor : gate.monitor = .closing pending)
      (rest : (gate.handlers id).Dropped ∨ Conn.client id ∈ pending)
  | finished (past : rounds < gate.rounds) (dropped : (gate.handlers id).Dropped)

theorem dropped_close (gate : Gate) (id : Nat) :
    ((gate.close (.client id)).handlers id).Dropped := by
  exact .inl (by simp [Gate.close, Gate.set])

theorem covered_step {gate : Gate} {rounds : Nat} (sound : Sound (gate.view id))
    (covered : Covered rounds id gate) (action : Action) :
    Covered rounds id (gate.step config action) := by
  have kept : (gate.handlers id).Dropped → ((gate.step config action).handlers id).Dropped :=
    fun dropped => (dropped_move (move_step config gate action id) dropped).1
  have turn := turn_step config gate action
  cases covered with
  | judged current monitor evaluated =>
    cases turn with
    | stays monitor' rounds' =>
      exact .judged (rounds'.trans current) (monitor'.trans monitor) (evaluated_step evaluated action)
    | snapshots before monitor' rounds' handlers =>
      refine .closing (rounds'.trans current) _ monitor' ?_
      rw [handlers]
      exact sound.listed_or_dropped evaluated
    | judges before => simp [monitor] at before
    | closes pending connection before => simp [monitor] at before
    | returns before => simp [monitor] at before
  | closing current pending monitor rest =>
    cases turn with
    | stays monitor' rounds' =>
      exact .closing (rounds'.trans current) pending (monitor'.trans monitor) (rest.imp_left kept)
    | closes pending' connection before monitor' rounds' handlers =>
      obtain rfl : pending = pending' := by simpa [monitor] using before
      refine .closing (rounds'.trans current) _ monitor' ?_
      by_cases own : connection = .client id
      · subst own
        rw [handlers]
        exact .inl (dropped_close gate id)
      · exact rest.imp kept fun listed => Finset.mem_erase.mpr ⟨Ne.symm own, listed⟩
    | returns before monitor' rounds' handlers =>
      obtain rfl : pending = ∅ := by simpa [monitor] using before
      exact .finished (by omega) (kept (rest.resolve_right (Finset.notMem_empty _)))
    | judges before => simp [monitor] at before
    | snapshots before => simp [monitor] at before
  | finished past dropped =>
    refine .finished ?_ (kept dropped)
    cases turn with
    | stays monitor' rounds' => omega
    | judges before monitor' rounds' => omega
    | snapshots before monitor' rounds' => omega
    | closes pending connection before monitor' rounds' => omega
    | returns before monitor' rounds' => omega

/-- A round that finds admission closed covers every session evaluated before it. -/
theorem covered_run {start middle : List Action} {evidence : Evidence}
    (waiting : (runGate config start).monitor = .waiting)
    (closed : (evaluateAccess config evidence).isOpen = false)
    (evaluated : ((runGate config start).handlers id).Evaluated) :
    Covered (runGate config start).rounds id
      (runGate config (start ++ .monitorEvaluate evidence :: middle)) := by
  have begins : (runGate config start).step config (.monitorEvaluate evidence) =
      { runGate config start with monitor := .judged } := if_pos ⟨waiting, closed⟩
  have first : Covered (runGate config start).rounds id
      ((runGate config start).step config (.monitorEvaluate evidence)) := by
    rw [begins]
    exact .judged rfl rfl evaluated
  have sound : ∀ owner, Sound (((runGate config start).step config
      (.monitorEvaluate evidence)).view owner) :=
    fun owner => sound_move (move_step config _ _ owner) (sound_runGate config start owner)
  rw [runGate_append, Runs.run_cons]
  refine (Runs.invariant_run (fun gate : Gate => Sound (gate.view id) ∧ Covered _ id gate)
    (fun gate action holds => ?_) ⟨sound id, first⟩ middle).2
  exact ⟨sound_move (move_step config gate action id) holds.1,
    covered_step holds.1 holds.2 action⟩

/-- Closing drops every admitted session. When a monitor round that found admission closed has
returned, then of every session that was evaluated before the round began either the client is
closed, or its handler has removed it from the table and has no copy loop; and whatever happens
later, nothing more is read from that client. Moreover a handler has dialed or copied only if it
first registered its client and then found admission open itself. -/
theorem closed_round_drops_sessions (config : Config) :
    (∀ (start middle : List Action) (evidence : Evidence) (id : Nat),
      (runGate config start).monitor = .waiting →
      (evaluateAccess config evidence).isOpen = false →
      ((runGate config start).handlers id).Evaluated →
      let reached := runGate config (start ++ .monitorEvaluate evidence :: middle)
      (runGate config start).rounds < reached.rounds →
      ((reached.handlers id).clientClosed = true ∨
        ((reached.handlers id).phase = .removed ∨ (reached.handlers id).phase = .finished) ∧
          Conn.client id ∉ reached.connections ∧ (reached.handlers id).Idle) ∧
      ∀ later : List Action,
        ((runGate config (start ++ .monitorEvaluate evidence :: middle ++ later)).handlers
          id).received = (reached.handlers id).received) ∧
    ∀ (actions : List Action) (id : Nat) (event : Event),
      event ∈ ((runGate config actions).handlers id).events →
      (event = .dialed ∨ ∃ direction, event = .copied direction) →
      ∃ rest, ((runGate config actions).handlers id).events =
        .registered :: .evaluated true :: rest := by
  constructor
  · intro start middle evidence id waiting closed evaluated reached returned
    have dropped : (reached.handlers id).Dropped := by
      have covered : Covered (runGate config start).rounds id reached :=
        covered_run waiting closed evaluated
      cases covered with
      | judged current => exact absurd current returned.ne'
      | closing current => exact absurd current returned.ne'
      | finished past dropped => exact dropped
    refine ⟨?_, fun later => ?_⟩
    · refine dropped.imp_right fun left => ⟨left.1, fun listed => ?_, left.2⟩
      have inSession := (sound_runGate config _ id).2.mp (decide_eq_true listed)
      rcases left.1 with removed | finished
      · simp [Gate.view, reached, removed, Phase.InSession] at inSession
      · simp [Gate.view, reached, finished, Phase.InSession] at inSession
    · rw [runGate_append]
      exact (dropped_run dropped later).2
  · intro actions id event done acts
    exact (sound_runGate config actions id).1.admitted_of_mem done acts

/-- A lease of the sample gate that the plugin acknowledged at its issue. -/
def openEvidence : Evidence :=
  let file (members : List (String × Printed)) : List UInt8 := Utf8.encode (write html
    (.object (("pairing_id", .string "pair") :: members)))
  { stateFile := .regular (file [("schema_version", .string stateSchemaVersion),
      ("deployment_generation", .number (.ofInt 1)), ("mode", .string "OPEN"),
      ("issued_at", .string "2000-01-01T00:00:00Z"), ("expires_at", .string "2000-01-01T00:00:30Z")])
    snapshotFile := .regular (file [("schema_version", .string paperRuntimeSchemaVersion),
      ("boot_id", .string "boot"), ("observed_at", .string "2000-01-01T00:00:00Z"),
      ("ready", .bool true), ("admission_state", .string "OPEN_READ_ONLY_ALPHA")])
    now := 730119 * Time.day }

/-- A session that is admitted and copies is dropped by the next closed round. -/
theorem closed_round_drops_copying_session :
    let start : List Action := [.accept 0, .advance 0, .evaluate 0 openEvidence, .dial 0 true,
      .advance 0, .advance 0, .advance 0, .copy 0 .up]
    let round : List Action := [.monitorSnapshot, .monitorClose (.client 0),
      .monitorClose (.upstream 0), .monitorReturn]
    let closed : Evidence := { openEvidence with stateFile := .missing }
    ((runGate sampleConfig start).handlers 0).received = 1 ∧
    ∀ later, ((runGate sampleConfig (start ++ .monitorEvaluate closed :: round ++ later)).handlers
      0).received = 1 := by
  intro start round closed
  refine ⟨by decide +kernel, fun later => ?_⟩
  have dropped := (closed_round_drops_sessions sampleConfig).1 start round closed 0
    (by decide +kernel) (by decide +kernel) ⟨true, by decide +kernel⟩ (by decide +kernel)
  exact (dropped.2 later).trans (by decide +kernel)

end Admission

end GuardedAgentRunner
