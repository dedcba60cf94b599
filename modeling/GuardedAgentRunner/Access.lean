/-
This file models `EvaluateAccess`: the lease of the state file is effective only
together with a runtime snapshot of the guard that is fresh, ready and reports
admission open. The snapshot is decoded strictly, with the readings the gate
does not use kept raw.
-/

import GuardedAgentRunner.Admission

namespace GuardedAgentRunner

open Fallible JsonText StructDecode

namespace Admission

/-! ### The runtime snapshot -/

/-- The fields of `runtimeAdmissionSnapshot`. -/
def runtimeSnapshotFields : List (String × Shape Kind) :=
  [("schema_version", .leaf .string), ("pairing_id", .leaf .string), ("boot_id", .leaf .string),
    ("observed_at", .leaf .time), ("ready", .leaf .bool), ("admission_state", .leaf .string),
    ("player_count", .leaf .int64), ("tps", .slice (.leaf .raw)), ("mspt", .leaf .raw),
    ("heap_used_bytes", .leaf .int64), ("heap_max_bytes", .leaf .int64),
    ("plugins", .slice (.leaf .raw))]

/-- What the gate uses of a runtime snapshot. -/
structure RuntimeReading where
  schemaVersion : String
  pairingID : String
  bootID : String
  observedAt : Time
  ready : Bool
  admissionState : String
deriving DecidableEq, Repr

def RuntimeReading.ofData : Data Scalar → Option RuntimeReading
  | .struct (.leaf (.string schemaVersion) :: .leaf (.string pairingID) ::
      .leaf (.string bootID) :: .leaf (.time observedAt) :: .leaf (.bool ready) ::
      .leaf (.string admissionState) :: _) =>
    some { schemaVersion, pairingID, bootID, observedAt, ready, admissionState }
  | _ => none

/-- `paperRuntimeSchemaVersion`. -/
def paperRuntimeSchemaVersion : String := "gar.paper-runtime-observation.v1"

/-- `maxRuntimeSnapshotBytes`. -/
def maxRuntimeSnapshotBytes : Nat := 256 * 1024

/-- `runtimeFreshness`. -/
def runtimeFreshness : Duration := 3 * Duration.second

/-- What stands at the path of the runtime snapshot: something that cannot be opened as a regular
file, or a regular file with its bytes. -/
inductive SnapshotFile where
  | unreadable
  | regular (payload : List UInt8)

/-- `readRuntimeSnapshot`. -/
def readRuntimeSnapshot : SnapshotFile → Option RuntimeReading
  | .unreadable => none
  | .regular payload =>
    if maxRuntimeSnapshotBytes < payload.length then none
    else (strictDecode runtimeSnapshotFields payload).bind RuntimeReading.ofData

/-! ### Access -/

/-- What an evaluation reads: the two files and the clock. -/
structure Evidence where
  stateFile : StateFile
  snapshotFile : SnapshotFile
  now : Time

/-- `EvaluateAccess`. -/
def evaluateAccess (config : Config) (evidence : Evidence) : Decision :=
  let decision := evaluateState config evidence.stateFile evidence.now
  if decision.isOpen = false then decision
  else match readRuntimeSnapshot evidence.snapshotFile with
    | none => { decision with isOpen := false, reasonCode := .runtimeGuardUnavailable }
    | some runtime =>
      if runtime.schemaVersion ≠ paperRuntimeSchemaVersion ∨
          runtime.pairingID ≠ config.pairingID ∨ runtime.bootID = "" ∨ runtime.ready = false ∨
          runtime.observedAt.IsZero ∨
          runtime.observedAt.After (evidence.now.add (2 * Duration.second)) ∨
          runtimeFreshness < evidence.now.sub runtime.observedAt then
        { decision with isOpen := false, reasonCode := .runtimeGuardNotReady }
      else if runtime.admissionState ≠ "OPEN_READ_ONLY_ALPHA" then
        { decision with isOpen := false, reasonCode := .runtimeGuardNotOpen }
      else { decision with reasonCode := .admissionOpenGuardConfirmed }

/-- The snapshot acknowledges an open lease of the gate's pairing. -/
@[mk_iff]
structure Acknowledges (config : Config) (runtime : RuntimeReading) : Prop where
  schema : runtime.schemaVersion = paperRuntimeSchemaVersion
  pairing : runtime.pairingID = config.pairingID
  booted : runtime.bootID ≠ ""
  ready : runtime.ready = true
  dated : runtime.observedAt ≠ 0
  opened : runtime.admissionState = "OPEN_READ_ONLY_ALPHA"

instance (config : Config) (runtime : RuntimeReading) : Decidable (Acknowledges config runtime) :=
  decidable_of_iff' _ (acknowledges_iff config runtime)

theorem evaluateState_isOpen_iff (config : Config) (file : StateFile) (now : Time) :
    (evaluateState config file now).isOpen = true ↔
      ∃ state, readState file = .ok state ∧ Effective config state now := by
  unfold evaluateState
  cases read : readState file with
  | error failure =>
    refine ⟨fun isOpen => ?_, fun ⟨_, contradiction, _⟩ => nomatch contradiction⟩
    cases failure <;> exact nomatch isOpen
  | ok state =>
    rw [judge_isOpen_iff]
    constructor
    · exact fun effective => ⟨state, rfl, effective⟩
    · rintro ⟨_, same, effective⟩
      obtain rfl := Except.ok.inj same
      exact effective

/-- Access is open while an effective lease is acknowledged by a fresh snapshot. -/
theorem evaluateAccess_isOpen_iff (config : Config) (evidence : Evidence) :
    (evaluateAccess config evidence).isOpen = true ↔
      (∃ state, readState evidence.stateFile = .ok state ∧
        Effective config state evidence.now) ∧
      ∃ runtime, readRuntimeSnapshot evidence.snapshotFile = some runtime ∧
        Acknowledges config runtime ∧
        runtime.observedAt ≤ evidence.now + 2 * Duration.second ∧
        evidence.now - runtime.observedAt ≤ runtimeFreshness := by
  rw [← evaluateState_isOpen_iff]
  unfold evaluateAccess
  dsimp only
  split
  · rename_i closed
    rw [closed]
    exact ⟨nofun, fun holds => nomatch holds.1⟩
  · rename_i isOpen
    have isOpen := Bool.not_eq_false _ ▸ isOpen
    cases read : readRuntimeSnapshot evidence.snapshotFile with
    | none => exact ⟨nofun, fun ⟨_, _, contradiction, _⟩ => nomatch contradiction⟩
    | some runtime =>
      have fresh := Time.sub_le_iff evidence.now runtime.observedAt runtimeFreshness (by decide)
        (by decide)
      dsimp only
      split
      · rename_i notReady
        refine ⟨nofun, ?_⟩
        rintro ⟨-, _, same, acknowledges, started, recent⟩
        obtain rfl := Option.some.inj same
        rcases notReady with schema | pairing | boot | ready | zero | future | old
        · exact absurd acknowledges.schema schema
        · exact absurd acknowledges.pairing pairing
        · exact absurd boot acknowledges.booted
        · exact nomatch ready.symm.trans acknowledges.ready
        · exact absurd zero acknowledges.dated
        · exact absurd future (not_lt.mpr started)
        · exact absurd (fresh.mpr recent) (not_le.mpr old)
      · rename_i ready
        simp only [not_or, not_not, Bool.not_eq_false] at ready
        obtain ⟨schema, pairing, booted, ready, dated, started, recent⟩ := ready
        split
        · rename_i notOpen
          refine ⟨nofun, ?_⟩
          rintro ⟨-, _, same, acknowledges, -⟩
          obtain rfl := Option.some.inj same
          exact absurd acknowledges.opened notOpen
        · rename_i opened
          exact ⟨fun _ => ⟨isOpen, runtime, rfl,
            ⟨schema, pairing, booted, ready, dated, not_not.mp opened⟩, not_lt.mp started,
            fresh.mp (not_lt.mp recent)⟩, fun _ => isOpen⟩

end Admission

end GuardedAgentRunner
