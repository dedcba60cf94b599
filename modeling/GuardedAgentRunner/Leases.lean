/-
This file proves what a lease means. The bytes `WriteState` leaves behind are read
back as the state it built, because they are short enough, repeat no name and carry
instants that have a text; the state file after a history of writes is therefore
the last state, and its lease alone decides when `EvaluateState` is open.
-/

import GuardedAgentRunner.Admission

namespace GuardedAgentRunner

open Fallible JsonText StructDecode

namespace Admission

variable {config : Config} {call : WriteCall} {state : State} {payload : List UInt8}

/-! ### What a successful write leaves behind -/

/-- The two kinds of states that are written. -/
inductive Built (config : Config) (call : WriteCall) : State → Prop where
  | closed (mode : call.mode = .closed) : Built config call (call.state config 0)
  | opened (mode : call.mode = .opened) (positive : 0 < call.lease)
      (bounded : call.lease ≤ maxOpenLease) :
    Built config call (call.state config (call.now.add call.lease))

/-- What a successful call has checked and written. -/
structure Written (config : Config) (call : WriteCall) (state : State) (payload : List UInt8) :
    Prop where
  reason : call.reason.utf8ByteSize ≤ 256
  built : Built config call state
  issued : state.issuedAt.Encodable
  expires : state.expiresAt.Encodable
  bytes : payload = Utf8.encode (marshalRecord stateFields state.toData ++ ['\n'])

theorem written_of_writeState (written : writeState config call = .ok (state, payload)) :
    Written config call state payload := by
  unfold writeState State.marshal at written
  cases mode : call.mode with
  | closed =>
    simp only [mode, bind_eq_ok, refuse_eq_ok, not_not, not_or, not_lt, pure_eq_ok] at written
    obtain ⟨_, reason, _, -, _, rfl, _, ⟨_, ⟨issued, expires⟩, rfl⟩, same⟩ := written
    obtain ⟨rfl, rfl⟩ := Prod.mk.inj same
    exact ⟨reason, .closed mode, issued, expires, rfl⟩
  | opened =>
    simp only [mode, bind_eq_ok, refuse_eq_ok, not_not, not_or, not_le, not_lt, pure_eq_ok]
      at written
    obtain ⟨_, reason, _, ⟨positive, bounded⟩, _, rfl, _, ⟨_, ⟨issued, expires⟩, rfl⟩, same⟩ :=
      written
    obtain ⟨rfl, rfl⟩ := Prod.mk.inj same
    exact ⟨reason, .opened mode positive bounded, issued, expires, rfl⟩
  | other text =>
    simp only [mode, bind_eq_ok] at written
    obtain ⟨_, -, _, contradiction, -⟩ := written
    cases contradiction

namespace Written

variable (written : Written config call state payload)

include written

theorem fields : state.schemaVersion = stateSchemaVersion ∧ state.pairingID = config.pairingID ∧
    state.deploymentGeneration = config.deploymentGeneration ∧ state.mode = call.mode ∧
    state.reason = call.reason ∧ state.issuedAt = call.now := by
  cases written.built with
  | closed => exact ⟨rfl, rfl, rfl, rfl, rfl, rfl⟩
  | opened => exact ⟨rfl, rfl, rfl, rfl, rfl, rfl⟩

theorem mode_cases : call.mode = .closed ∨ call.mode = .opened := by
  cases written.built with
  | closed mode => exact Or.inl mode
  | opened mode => exact Or.inr mode

theorem ofData_toData : State.ofData state.toData = some state := by
  obtain ⟨-, -, -, mode, -, -⟩ := written.fields
  have text : Mode.ofText state.mode.text = state.mode := by
    rw [mode]
    rcases written.mode_cases with closed | opened
    · rw [closed]
      decide
    · rw [opened]
      decide
  show some { state with mode := Mode.ofText state.mode.text } = some state
  rw [text]

theorem length_le (valid : config.validate = .ok ()) : payload.length ≤ 65536 := by
  obtain ⟨schema, pairing, generation, mode, reason, -⟩ := written.fields
  have pairingSize : config.pairingID.utf8ByteSize ≤ 128 := by
    unfold Config.validate at valid
    obtain ⟨passed, -⟩ := (refuse_bind_eq_ok _ _).mp valid
    exact not_lt.mp fun large => passed (Or.inr (Or.inr (Or.inl large)))
  have modeSize : call.mode.text.utf8ByteSize ≤ 6 := by
    rcases written.mode_cases with closed | opened
    · rw [closed]
      decide
    · rw [opened]
      decide
  have schemaSize : stateSchemaVersion.utf8ByteSize ≤ 22 := by decide
  have member : ∀ name ∈ stateFields.map (·.1), ∀ value : String, value.utf8ByteSize ≤ 256 →
      byteLength (writeString html name) + byteLength (writeString html value) ≤ 2000 := by
    intro name listed value small
    have names : ∀ name ∈ stateFields.map (·.1), name.utf8ByteSize ≤ 21 := by decide
    have nameSize := names name listed
    have nameBound := byteLength_writeString_le html name
    have valueBound := byteLength_writeString_le html value
    omega
  have issuedSize := utf8ByteSize_formatRFC3339Nano_le written.issued
  have expiresSize := utf8ByteSize_formatRFC3339Nano_le written.expires
  have generationSize := byteLength_integer_le config.generationRange
  have generationName := byteLength_writeString_le html "deployment_generation"
  have printed : marshalRecord stateFields state.toData = write html (.object
      [("schema_version", .string state.schemaVersion), ("pairing_id", .string state.pairingID),
        ("deployment_generation", .number (.ofInt state.deploymentGeneration)),
        ("mode", .string state.mode.text), ("reason", .string state.reason),
        ("issued_at", .string state.issuedAt.formatRFC3339Nano),
        ("expires_at", .string state.expiresAt.formatRFC3339Nano)]) := rfl
  have bound : byteLength (marshalRecord stateFields state.toData) ≤ 7 * (2000 + 2) + 2 := by
    rw [printed, schema, pairing, generation, mode, reason]
    refine byteLength_object_le ?_
    rw [List.forall_mem_cons, List.forall_mem_cons, List.forall_mem_cons, List.forall_mem_cons,
      List.forall_mem_cons, List.forall_mem_cons, List.forall_mem_singleton]
    refine ⟨member "schema_version" (by decide) _ (by omega),
      member "pairing_id" (by decide) _ (by omega), ?_, member "mode" (by decide) _ (by omega),
      member "reason" (by decide) _ written.reason, member "issued_at" (by decide) _ (by omega),
      member "expires_at" (by decide) _ (by omega)⟩
    show byteLength (writeString html "deployment_generation") +
      byteLength (PrefixCode.integer config.deploymentGeneration) ≤ 2000
    have name : "deployment_generation".utf8ByteSize = 21 := by decide
    omega
  have line : '\n'.utf8Size = 1 := by decide
  rw [written.bytes]
  show byteLength (_ ++ ['\n']) ≤ _
  rw [byteLength_append, byteLength_cons, byteLength_nil, line]
  omega

theorem readState_eq (valid : config.validate = .ok ()) :
    readState (.regular payload) = .ok state := by
  obtain ⟨schema, -, generation, -⟩ := written.fields
  have range : Int64Range state.deploymentGeneration := by
    rw [generation]
    exact config.generationRange
  have kept : StructDecode.Kept leaves html state.toData (.struct stateFields) :=
    ⟨by decide, kept_string _, kept_string _, kept_int64 range, kept_string _, kept_string _,
      kept_time written.issued, kept_time written.expires, trivial⟩
  have shallow : StructDecode.depth (.struct stateFields) ≤ maxNestingDepth :=
    Nat.le_add_left 1 9999
  have decoded : strictDecode stateFields payload = some state.toData := by
    rw [written.bytes]
    exact strictDecode_marshalRecord kept shallow (by decide) (endsNumber_cons (by decide) [])
  have short : ¬ 65536 < payload.length := not_lt.mpr (written.length_le valid)
  refine (refuse_bind_eq_ok _ _).mpr ⟨short, ?_⟩
  refine bind_eq_ok.mpr ⟨_, (demand_eq_ok _ _ _).mpr decoded, ?_⟩
  refine bind_eq_ok.mpr ⟨_, (demand_eq_ok _ _ _).mpr written.ofData_toData, ?_⟩
  exact (refuse_bind_eq_ok _ _).mpr ⟨not_not.mpr schema, rfl⟩

theorem effective_iff (issued : 0 < call.now) (now : Time) :
    Effective config state now ↔ call.mode = .opened ∧
      call.now - 2 * Duration.second ≤ now ∧ now < call.now + call.lease := by
  obtain ⟨-, pairing, generation, mode, reason, issuedAt⟩ := written.fields
  have reasonSize : state.reason.utf8ByteSize ≤ 256 := reason ▸ written.reason
  have positive : (0 : Int) < state.issuedAt := issuedAt ▸ issued
  rw [← mode, ← issuedAt]
  cases written.built with
  | closed closed =>
    refine ⟨fun effective => ?_, fun ⟨opened, _⟩ => ?_⟩
    · exact nomatch closed.symm.trans effective.mode
    · exact nomatch closed.symm.trans opened
  | opened opened lasting bounded =>
    constructor
    · intro effective
      exact ⟨opened, Int.sub_right_le_of_le_add effective.started, effective.running⟩
    · rintro ⟨-, started, running⟩
      have forward : call.now < call.now + call.lease := Int.lt_add_of_pos_right _ lasting
      exact {
        pairing := pairing
        generation := generation
        dated := (ne_of_lt positive).symm
        started := Int.le_add_of_sub_right_le started
        reason := reasonSize
        mode := opened
        limited := (ne_of_lt (lt_trans positive forward)).symm
        running := running
        short := by
          show call.now + call.lease - call.now ≤ maxOpenLease
          rw [add_sub_cancel_left]
          exact bounded
        forward := forward }

theorem judge_closed (issued : 0 < call.now) {now : Time}
    (started : call.now - 2 * Duration.second ≤ now) (closed : call.mode = .closed) :
    (judge config state now).reasonCode = .admissionClosed := by
  obtain ⟨-, pairing, generation, mode, reason, issuedAt⟩ := written.fields
  have own := not_or.mpr ⟨not_not.mpr pairing, not_not.mpr generation⟩
  have valid : ¬ (state.issuedAt.IsZero ∨ state.issuedAt.After (now.add (2 * Duration.second)) ∨
      256 < state.reason.utf8ByteSize) := by
    rw [issuedAt, reason]
    rintro (zero | future | long)
    · exact absurd zero (ne_of_lt issued).symm
    · exact absurd future (not_lt.mpr (Int.le_add_of_sub_right_le started))
    · exact absurd long (not_lt.mpr written.reason)
  unfold judge
  rw [if_neg own, if_neg valid, mode, closed]
  rfl

end Written

/-! ### Histories -/

/-- After any history of successful writes the last one alone decides: admission is open exactly
from two seconds before its issue until its lease of at most thirty seconds is over, and a close
is reported as a close. -/
theorem evaluateState_after_history {config : Config} (valid : config.validate = .ok ())
    (file : StateFile) (history : List WriteCall) (last : WriteCall)
    (successful : ∀ call ∈ history ++ [last], ∃ written, writeState config call = .ok written)
    (years : ∀ call ∈ history ++ [last], 2 ≤ call.now.year ∧ call.now.year ≤ 9998) (now : Time) :
    let decision := evaluateState config (Runs.run (replace config) file (history ++ [last])) now
    (decision.isOpen = true ↔ last.mode = .opened ∧
      last.now - 2 * Duration.second ≤ now ∧ now < last.now + last.lease) ∧
    (last.mode = .opened → 0 < last.lease ∧ last.lease ≤ 30 * Duration.second) ∧
    (last.mode = .closed → last.now - 2 * Duration.second ≤ now →
      decision.reasonCode = .admissionClosed) ∧
    (last.mode = .closed → decision.isOpen = false) ∧
    (decision.isOpen = true → now < last.now + 30 * Duration.second) := by
  have listed : last ∈ history ++ [last] := List.mem_append_right _ List.mem_cons_self
  obtain ⟨⟨state, payload⟩, success⟩ := successful last listed
  have written := written_of_writeState success
  have issued : 0 < last.now := Time.pos_of_year (years last listed).1
  have decides : evaluateState config (Runs.run (replace config) file (history ++ [last])) now =
      judge config state now := by
    rw [Runs.run_append, Runs.run_cons, Runs.run_nil, replace, success, evaluateState,
      written.readState_eq valid]
  have opens := (judge_isOpen_iff config state now).trans (written.effective_iff issued now)
  have lease : last.mode = .opened → 0 < last.lease ∧ last.lease ≤ 30 * Duration.second := by
    intro opened
    cases written.built with
    | closed closed => exact nomatch closed.symm.trans opened
    | opened _ positive bounded => exact ⟨positive, bounded⟩
  rw [decides]
  refine ⟨opens, lease, fun closed started => written.judge_closed issued started closed, ?_, ?_⟩
  · intro closed
    rw [Bool.eq_false_iff]
    exact fun isOpen => nomatch closed.symm.trans (opens.mp isOpen).1
  · intro isOpen
    obtain ⟨opened, -, running⟩ := opens.mp isOpen
    exact lt_of_lt_of_le running (Int.add_le_add_left (lease opened).2 _)

/-- Admission opened for thirty seconds after it was closed. -/
theorem evaluateState_reopened :
    let opening : WriteCall :=
      { mode := .opened, reason := "", lease := 30 * Duration.second, now := 730000 * Time.day }
    let closing : WriteCall :=
      { mode := .closed, reason := "", lease := 0, now := 730000 * Time.day - 1 }
    let file := Runs.run (replace sampleConfig) .missing ([closing] ++ [opening])
    (evaluateState sampleConfig file (730000 * Time.day + 30 * Duration.second - 1)).isOpen = true
      ∧ (evaluateState sampleConfig file (730000 * Time.day + 30 * Duration.second)).isOpen =
        false := by
  intro opening closing file
  have successful : ∀ call ∈ [closing] ++ [opening],
      ∃ written, writeState sampleConfig call = .ok written := by
    intro call listed
    rcases List.mem_pair.mp listed with same | same
    · rw [same]
      exact ⟨_, rfl⟩
    · rw [same]
      exact ⟨_, rfl⟩
  have years : ∀ call ∈ [closing] ++ [opening], 2 ≤ call.now.year ∧ call.now.year ≤ 9998 := by
    intro call listed
    rcases List.mem_pair.mp listed with same | same
    · rw [same]
      decide
    · rw [same]
      decide
  have decides :=
    evaluateState_after_history sampleConfig_valid .missing [closing] opening successful years
  refine ⟨(decides _).1.mpr ⟨rfl, by decide, by decide⟩, ?_⟩
  rw [Bool.eq_false_iff]
  intro isOpen
  exact absurd ((decides _).1.mp isOpen).2.2 (by decide)

end Admission

end GuardedAgentRunner
