/-
This file accounts for the sessions of the gate. The counter and the table of
connections are changed by different statements of a handler; after every step of
every interleaving the two are told by the phases of the handlers.
-/

import Mathlib.Data.Finset.Card
import GuardedAgentRunner.Gate

namespace GuardedAgentRunner

namespace Admission

/-- The phases in which the upstream of a handler is in the table. -/
def Phase.Tracks (phase : Phase) : Prop :=
  phase ∈ [.tracked, .uplinked, .copying, .woken, .clientClosed, .upstreamClosed, .deferredClosed]
deriving Decidable

theorem Phase.Tracks.inSession {phase : Phase} (tracks : phase.Tracks) : phase.InSession := by
  cases phase <;> revert tracks <;> decide

/-- The handlers in a session are counted within the limit, and only handlers that track their
upstream have it in the table. -/
structure Accounted (config : Config) (sessions : Finset Nat) (gate : Gate) : Prop where
  members : ∀ id, id ∈ sessions ↔ (gate.handlers id).phase.InSession
  counted : gate.activeSessions = sessions.card
  bounded : gate.activeSessions ≤ config.maxConnections
  upstreams : ∀ id, Conn.upstream id ∈ gate.connections → (gate.handlers id).phase.Tracks

variable {config : Config} {sessions : Finset Nat} {gate after : Gate} {id : Nat} {handler : Handler}

/-! ### Steps that leave the sessions as they are -/

section

variable (accounted : Accounted config sessions gate)

include accounted

theorem Accounted.of_eq
    (phases : ∀ id, (after.handlers id).phase = (gate.handlers id).phase)
    (count : after.activeSessions = gate.activeSessions)
    (table : after.connections = gate.connections) : Accounted config sessions after where
  members id := by rw [phases, accounted.members]
  counted := count.trans accounted.counted
  bounded := count.trans_le accounted.bounded
  upstreams id listed := by
    rw [phases]
    exact accounted.upstreams id (table ▸ listed)

/-- A step of one handler that neither starts nor ends its session. -/
theorem Accounted.of_update
    (handlers : after.handlers = Function.update gate.handlers id handler)
    (count : after.activeSessions = gate.activeSessions)
    (same : handler.phase.InSession ↔ (gate.handlers id).phase.InSession)
    (others : ∀ other ≠ id, Conn.upstream other ∈ after.connections →
      Conn.upstream other ∈ gate.connections)
    (own : Conn.upstream id ∈ after.connections → handler.phase.Tracks) :
    Accounted config sessions after where
  members other := by
    rw [accounted.members, handlers]
    by_cases isOwn : other = id
    · rw [isOwn, Function.update_self, same]
    · rw [Function.update_of_ne isOwn]
  counted := count.trans accounted.counted
  bounded := count.trans_le accounted.bounded
  upstreams other listed := by
    rw [handlers]
    by_cases isOwn : other = id
    · rw [isOwn, Function.update_self]
      exact own (isOwn ▸ listed)
    · rw [Function.update_of_ne isOwn]
      exact accounted.upstreams other (others other isOwn listed)

theorem Accounted.set
    (same : handler.phase.InSession ↔ (gate.handlers id).phase.InSession)
    (tracks : (gate.handlers id).phase.Tracks → handler.phase.Tracks) :
    Accounted config sessions (gate.set id handler) :=
  accounted.of_update rfl rfl same (fun _ _ listed => listed)
    fun listed => tracks (accounted.upstreams id listed)

theorem Accounted.close (connection : Conn) :
    Accounted config sessions (gate.close connection) := by
  cases connection <;> exact accounted.set Iff.rfl id

/-! ### The start and the end of a session -/

theorem Accounted.startSession
    (accepted : (gate.handlers id).phase = .accepted) :
    ∃ sessions, Accounted config sessions (gate.startSession config id) := by
  rw [Gate.startSession]
  split
  · exact ⟨sessions, accounted.set (by simp [accepted, Handler.enter, Phase.InSession])
      (by simp [accepted, Phase.Tracks])⟩
  · rename_i room
    have fresh : id ∉ sessions := by simp [accounted.members, accepted, Phase.InSession]
    refine ⟨insert id sessions, fun other => ?_, ?_, by dsimp only; omega, fun other listed => ?_⟩
    · by_cases isOwn : other = id
      · simp [isOwn, Gate.set, Handler.enter, Phase.InSession]
      · simp [isOwn, Gate.set, accounted.members]
    · rw [Finset.card_insert_of_notMem fresh, Nat.cast_add, ← accounted.counted]
      rfl
    · have tracks := accounted.upstreams other (by simpa using listed)
      have different : other ≠ id := by
        rintro rfl
        simp [accepted, Phase.Tracks] at tracks
      simpa [Gate.set, different] using tracks

theorem Accounted.endSession
    (leaving : (gate.handlers id).phase = .leaving) :
    Accounted config (sessions.erase id) (gate.endSession id) := by
  have listed : id ∈ sessions := by simp [accounted.members, leaving, Phase.InSession]
  have positive := Finset.card_pos.mpr ⟨id, listed⟩
  have counted := accounted.counted
  have bounded := accounted.bounded
  refine ⟨fun other => ?_, ?_, by dsimp only [Gate.endSession]; omega, fun other listed => ?_⟩
  · by_cases isOwn : other = id
    · simp [isOwn, Gate.endSession, Gate.set, Handler.enter, Phase.InSession]
    · simp [isOwn, Gate.endSession, Gate.set, accounted.members]
  · rw [Finset.card_erase_of_mem listed]
    dsimp only [Gate.endSession]
    omega
  · have tracks := accounted.upstreams other (by simpa [Gate.endSession] using listed)
    have different : other ≠ id := by
      rintro rfl
      simp [leaving, Phase.Tracks] at tracks
    simpa [Gate.endSession, Gate.set, different] using tracks

/-! ### Every step -/

theorem Accounted.advance (id : Nat) :
    ∃ sessions, Accounted config sessions (gate.advance config id) := by
  rw [Gate.advance]
  dsimp only
  split <;> rename_i phase
  case h_1 => exact accounted.startSession phase
  case h_3 =>
    refine ⟨sessions, accounted.of_update rfl rfl ?_ ?_ fun _ => ?_⟩ <;>
      simp +contextual [phase, Handler.enter, Phase.InSession, Phase.Tracks]
  case h_6 =>
    split
    · exact ⟨sessions, accounted.set (by simp [phase, Handler.enter, Phase.InSession])
        fun _ => by simp [Handler.enter, Phase.Tracks]⟩
    · exact ⟨sessions, accounted⟩
  case h_10 =>
    refine ⟨sessions, accounted.of_update rfl rfl ?_ ?_ ?_⟩ <;>
      simp [phase, Handler.enter, Phase.InSession]
  case h_11 => exact ⟨_, accounted.endSession phase⟩
  case h_13 => exact ⟨sessions, accounted⟩
  all_goals exact ⟨sessions, accounted.set (by simp [phase, Phase.InSession])
    (by simp [phase, Phase.Tracks])⟩

theorem Accounted.step (action : Action) :
    ∃ sessions, Accounted config sessions (gate.step config action) := by
  cases action with
  | accept id =>
    rw [Gate.step]
    split
    case isTrue absent => exact ⟨sessions, accounted.set
      (by simp [absent, Handler.enter, Phase.InSession]) (by simp [absent, Phase.Tracks])⟩
    case isFalse => exact ⟨sessions, accounted⟩
  | advance id => exact accounted.advance id
  | evaluate id evidence =>
    rw [Gate.step, Gate.evaluate]
    split
    case isTrue registered =>
      refine ⟨sessions, accounted.set ?_ (by simp [registered, Phase.Tracks])⟩
      cases (evaluateAccess config evidence).isOpen <;>
        simp [registered, Handler.enter, Phase.InSession]
    case isFalse => exact ⟨sessions, accounted⟩
  | dial id succeeds =>
    rw [Gate.step, Gate.dial]
    split
    case isTrue admitted =>
      refine ⟨sessions, accounted.set ?_ (by simp [admitted, Phase.Tracks])⟩
      cases succeeds <;> simp [admitted, Handler.enter, Phase.InSession]
    case isFalse => exact ⟨sessions, accounted⟩
  | copy id direction =>
    have phase : ((gate.handlers id).copy direction).phase = (gate.handlers id).phase := by
      cases direction <;> rw [Handler.copy] <;> split <;> rfl
    exact ⟨sessions, accounted.set (by rw [phase]) fun tracks => by rwa [phase]⟩
  | stop id direction =>
    have phase : ((gate.handlers id).stop direction).phase = (gate.handlers id).phase := by
      cases direction <;> rw [Handler.stop] <;> split <;> rfl
    exact ⟨sessions, accounted.set (by rw [phase]) fun tracks => by rwa [phase]⟩
  | cancel => exact ⟨sessions, accounted.of_eq (fun _ => rfl) rfl rfl⟩
  | monitorEvaluate evidence =>
    rw [Gate.step, Gate.monitorEvaluate]
    split <;> exact ⟨sessions, accounted.of_eq (fun _ => rfl) rfl rfl⟩
  | monitorSnapshot =>
    rw [Gate.step, Gate.monitorSnapshot]
    split <;> exact ⟨sessions, accounted.of_eq (fun _ => rfl) rfl rfl⟩
  | monitorClose connection =>
    rw [Gate.step, Gate.monitorClose]
    split
    · split
      · exact ⟨sessions, (accounted.close connection).of_eq (fun _ => rfl) rfl rfl⟩
      · exact ⟨sessions, accounted⟩
    · exact ⟨sessions, accounted⟩
  | monitorReturn =>
    rw [Gate.step, Gate.monitorReturn]
    split <;> exact ⟨sessions, accounted.of_eq (fun _ => rfl) rfl rfl⟩
  | sweep => exact ⟨sessions, accounted.of_eq (fun _ => rfl) rfl rfl⟩
  | sweepClose connection =>
    rw [Gate.step]
    split
    · exact ⟨sessions, (accounted.close connection).of_eq (fun _ => rfl) rfl rfl⟩
    · exact ⟨sessions, accounted⟩

end

theorem Config.maxConnections_nonneg (valid : config.validate = .ok ()) :
    0 ≤ config.maxConnections := by
  simp only [Config.validate, Fallible.bind_eq_ok, Fallible.refuse_eq_ok] at valid
  omega

theorem accounted_initial (room : 0 ≤ config.maxConnections) : Accounted config ∅ Gate.initial where
  members id := by simp [Gate.initial, Handler.initial, Phase.InSession]
  counted := rfl
  bounded := room
  upstreams id listed := absurd listed (Finset.notMem_empty _)

theorem accounted_runGate (room : 0 ≤ config.maxConnections) (actions : List Action) :
    ∃ sessions, Accounted config sessions (runGate config actions) :=
  Runs.invariant_run (fun gate => ∃ sessions, Accounted config sessions gate)
    (fun _ action holds => holds.choose_spec.step action) ⟨∅, accounted_initial room⟩ actions

/-- The accounts of the gate. In every state a valid configuration reaches, under any
interleaving, the counter is the number of the handlers between a successful `startSession` and
their `endSession` and lies between 0 and the limit; the table holds the client of every such
handler and only clients and upstreams of such handlers, and it is empty when the counter is 0. -/
theorem sessions_accounted (config : Config) (valid : config.validate = .ok ())
    (actions : List Action) :
    let gate := runGate config actions
    ∃ sessions : Finset Nat,
      (∀ id, id ∈ sessions ↔ (gate.handlers id).phase.InSession) ∧
      gate.activeSessions = sessions.card ∧
      0 ≤ gate.activeSessions ∧ gate.activeSessions ≤ config.maxConnections ∧
      (∀ id ∈ sessions, Conn.client id ∈ gate.connections) ∧
      (∀ connection ∈ gate.connections,
        ∃ id ∈ sessions, connection = .client id ∨ connection = .upstream id) ∧
      (gate.activeSessions = 0 → gate.connections = ∅) := by
  intro gate
  obtain ⟨sessions, accounted⟩ := accounted_runGate (Config.maxConnections_nonneg valid) actions
  have clients : ∀ id, Conn.client id ∈ gate.connections ↔ id ∈ sessions := by
    intro id
    rw [accounted.members]
    exact decide_eq_true_iff.symm.trans (sound_runGate config actions id).2
  have owned : ∀ connection ∈ gate.connections,
      ∃ id ∈ sessions, connection = .client id ∨ connection = .upstream id := by
    intro connection listed
    cases connection with
    | client id => exact ⟨id, (clients id).mp listed, .inl rfl⟩
    | upstream id =>
      have tracks := accounted.upstreams id listed
      exact ⟨id, (accounted.members id).mpr tracks.inSession, .inr rfl⟩
  have counted : gate.activeSessions = sessions.card := accounted.counted
  refine ⟨sessions, accounted.members, counted, by omega, accounted.bounded,
    fun id => (clients id).mpr, owned, fun none => Finset.eq_empty_of_forall_notMem ?_⟩
  intro connection listed
  obtain ⟨id, inSession, -⟩ := owned connection listed
  have positive := Finset.card_pos.mpr ⟨id, inSession⟩
  omega

theorem sessions_accounted_of_sample :
    ∃ sessions : Finset Nat,
      (runGate sampleConfig [.accept 1, .advance 1]).activeSessions = sessions.card ∧
      1 ∈ sessions := by
  obtain ⟨sessions, members, counted, -⟩ :=
    sessions_accounted sampleConfig sampleConfig_valid [.accept 1, .advance 1]
  exact ⟨sessions, counted, (members 1).mpr (by decide)⟩

end Admission

end GuardedAgentRunner
