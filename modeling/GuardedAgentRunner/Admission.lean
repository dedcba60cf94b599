/-
This file models the lease of the admission gate: the configuration with its
checks, the state file that `WriteState` replaces as a whole and `readState`
decodes, and `EvaluateState`, which reports the lease open only between two
seconds before its issue and its expiry. The state written last alone decides,
whatever was written before.
-/

import GuardedAgentRunner.Addresses
import GuardedAgentRunner.Library.Paths
import GuardedAgentRunner.Registry
import GuardedAgentRunner.StrictJson

namespace GuardedAgentRunner

open Fallible JsonText StructDecode

namespace Admission

/-! ### Configuration -/

/-- The configuration of the gate. The generation is a 64-bit integer. -/
structure Config where
  schemaVersion : String
  pairingID : String
  deploymentGeneration : Int
  generationRange : Int64Range deploymentGeneration
  listenAddresses : List String
  upstreamAddress : String
  statePath : String
  runtimeSnapshotPath : String
  pollIntervalMilliseconds : Int
  dialTimeoutMilliseconds : Int
  maxConnections : Int

namespace Config

/-- `ConfigSchemaVersion`. -/
def supportedSchema : String := "gar.admission-config.v1"

/-- The loop over the listeners, with those it has met. -/
def checkListeners (met : List String) : List String → Except Failure Unit
  | [] => .ok ()
  | address :: addresses => do
    Address.validateLiteralAddress address false
    refuse (address ∈ met)
      (.other ("duplicate admission listener " ++ GuardedAgentRunner.Config.quoted address))
    checkListeners (address :: met) addresses

/-- The check of one of the two paths. -/
def checkPath (name path : String) : Except Failure Unit :=
  refuse (¬ Paths.CleanAbsolute path)
    (.other ("admission " ++ name ++ " must be a clean absolute path"))

variable (config : Config)

/-- `Validate`. -/
def validate : Except Failure Unit := do
  refuse (config.schemaVersion ≠ supportedSchema ∨ config.pairingID = "" ∨
      128 < config.pairingID.utf8ByteSize ∨ config.deploymentGeneration < 1)
    (.other "admission schema and fixed deployment identity are required")
  refuse (config.listenAddresses.length < 1 ∨ 4 < config.listenAddresses.length)
    (.other "admission requires one through four fixed listeners")
  checkListeners [] config.listenAddresses
  Address.validateLiteralAddress config.upstreamAddress true
  checkPath "state_path" config.statePath
  checkPath "runtime_snapshot_path" config.runtimeSnapshotPath
  refuse (config.pollIntervalMilliseconds < 25 ∨ 1000 < config.pollIntervalMilliseconds)
    (.other "poll_interval_milliseconds must be from 25 through 1000")
  refuse (config.dialTimeoutMilliseconds < 100 ∨ 5000 < config.dialTimeoutMilliseconds)
    (.other "dial_timeout_milliseconds must be from 100 through 5000")
  refuse (config.maxConnections < 1 ∨ 4096 < config.maxConnections)
    (.other "max_connections must be from 1 through 4096")

end Config

/-- A gate on the loopback interface. -/
def sampleConfig : Config where
  schemaVersion := Config.supportedSchema
  pairingID := "pair"
  deploymentGeneration := 1
  generationRange := by decide
  listenAddresses := ["127.0.0.1:25565"]
  upstreamAddress := "127.0.0.1:25566"
  statePath := "/run/state.json"
  runtimeSnapshotPath := "/run/snapshot.json"
  pollIntervalMilliseconds := 100
  dialTimeoutMilliseconds := 1000
  maxConnections := 16

theorem sampleConfig_valid : sampleConfig.validate = .ok () := by decide +kernel

/-! ### State -/

/-- `Mode`, with the texts that are no mode. -/
inductive Mode where
  | closed
  | opened
  | other (text : String)
deriving DecidableEq, Repr

namespace Mode

def text : Mode → String
  | .closed => "CLOSED"
  | .opened => "OPEN"
  | .other text => text

def ofText (text : String) : Mode :=
  if text = "CLOSED" then .closed else if text = "OPEN" then .opened else .other text

theorem text_ofText (text : String) : (ofText text).text = text := by
  unfold ofText
  split
  · rename_i closed
    exact closed.symm
  · split
    · rename_i opened
      exact opened.symm
    · rfl

end Mode

structure State where
  schemaVersion : String
  pairingID : String
  deploymentGeneration : Int
  mode : Mode
  reason : String
  issuedAt : Time
  expiresAt : Time
deriving DecidableEq, Repr

/-- `StateSchemaVersion`. -/
def stateSchemaVersion : String := "gar.admission-state.v1"

/-- `MaxOpenLease`. -/
def maxOpenLease : Duration := 30 * Duration.second

/-- The fields of `State`. `omitempty` has no effect on a `time.Time`. -/
def stateFields : List (String × Shape Kind) :=
  [("schema_version", .leaf .string), ("pairing_id", .leaf .string),
    ("deployment_generation", .leaf .int64), ("mode", .leaf .string), ("reason", .leaf .string),
    ("issued_at", .leaf .time), ("expires_at", .leaf .time)]

namespace State

def toData (state : State) : Data Scalar :=
  .struct [.leaf (.string state.schemaVersion), .leaf (.string state.pairingID),
    .leaf (.int64 state.deploymentGeneration), .leaf (.string state.mode.text),
    .leaf (.string state.reason), .leaf (.time state.issuedAt), .leaf (.time state.expiresAt)]

def ofData : Data Scalar → Option State
  | .struct [.leaf (.string schemaVersion), .leaf (.string pairingID),
      .leaf (.int64 deploymentGeneration), .leaf (.string mode), .leaf (.string reason),
      .leaf (.time issuedAt), .leaf (.time expiresAt)] =>
    some { schemaVersion, pairingID, deploymentGeneration, mode := Mode.ofText mode, reason,
           issuedAt, expiresAt }
  | _ => none

end State

/-! ### Reading -/

/-- What stands at the path of the state: nothing, something that is no owner-only regular file,
or such a file with its bytes. -/
inductive StateFile where
  | missing
  | invalid
  | regular (payload : List UInt8)

/-- Why the state could not be read. -/
inductive ReadError where
  | notExist
  | other
deriving DecidableEq, Repr

/-- `readState`. -/
def readState : StateFile → Except ReadError State
  | .missing => .error .notExist
  | .invalid => .error .other
  | .regular payload => do
    refuse (65536 < payload.length) ReadError.other
    let data ← demand (strictDecode stateFields payload) ReadError.other
    let state ← demand (State.ofData data) ReadError.other
    refuse (state.schemaVersion ≠ stateSchemaVersion) ReadError.other
    pure state

/-- The reason codes of a decision. -/
inductive ReasonCode where
  | admissionStateMissing
  | admissionStateInvalid
  | admissionIdentityMismatch
  | admissionClosed
  | admissionLeaseExpired
  | admissionLeaseInvalid
  | admissionOpen
  | runtimeGuardUnavailable
  | runtimeGuardNotReady
  | runtimeGuardNotOpen
  | admissionOpenGuardConfirmed
deriving DecidableEq, Repr

structure Decision where
  isOpen : Bool
  reasonCode : ReasonCode
  state : Option State
deriving DecidableEq, Repr

/-- A decision that is not open. -/
def Decision.closed (reasonCode : ReasonCode) (state : Option State) : Decision :=
  { isOpen := false, reasonCode, state }

/-- What `EvaluateState` makes of a state that was read. -/
def judge (config : Config) (state : State) (now : Time) : Decision :=
  if state.pairingID ≠ config.pairingID ∨
      state.deploymentGeneration ≠ config.deploymentGeneration then
    .closed .admissionIdentityMismatch state
  else if state.issuedAt.IsZero ∨ state.issuedAt.After (now.add (2 * Duration.second)) ∨
      256 < state.reason.utf8ByteSize then
    .closed .admissionStateInvalid state
  else match state.mode with
    | .closed => .closed .admissionClosed state
    | .opened =>
      if state.expiresAt.IsZero ∨ ¬ now.Before state.expiresAt then
        .closed .admissionLeaseExpired state
      else if maxOpenLease < state.expiresAt.sub state.issuedAt ∨
          ¬ state.expiresAt.After state.issuedAt then
        .closed .admissionLeaseInvalid state
      else { isOpen := true, reasonCode := .admissionOpen, state }
    | .other _ => .closed .admissionStateInvalid state

/-- `EvaluateState`. -/
def evaluateState (config : Config) (file : StateFile) (now : Time) : Decision :=
  match readState file with
  | .error .notExist => .closed .admissionStateMissing none
  | .error .other => .closed .admissionStateInvalid none
  | .ok state => judge config state now

/-- What an open decision on a state has checked. -/
structure Effective (config : Config) (state : State) (now : Time) : Prop where
  pairing : state.pairingID = config.pairingID
  generation : state.deploymentGeneration = config.deploymentGeneration
  dated : state.issuedAt ≠ 0
  started : state.issuedAt ≤ now + 2 * Duration.second
  reason : state.reason.utf8ByteSize ≤ 256
  mode : state.mode = .opened
  limited : state.expiresAt ≠ 0
  running : now < state.expiresAt
  short : state.expiresAt - state.issuedAt ≤ maxOpenLease
  forward : state.issuedAt < state.expiresAt

theorem judge_isOpen_iff (config : Config) (state : State) (now : Time) :
    (judge config state now).isOpen = true ↔ Effective config state now := by
  have lease := Time.sub_le_iff state.expiresAt state.issuedAt maxOpenLease (by decide) (by decide)
  unfold judge
  split
  · rename_i foreign
    refine ⟨nofun, fun effective => ?_⟩
    rcases foreign with pairing | generation
    · exact absurd effective.pairing pairing
    · exact absurd effective.generation generation
  · rename_i own
    obtain ⟨pairing, generation⟩ := not_or.mp own
    split
    · rename_i invalid
      refine ⟨nofun, fun effective => ?_⟩
      rcases invalid with zero | future | long
      · exact absurd zero effective.dated
      · exact absurd future (not_lt.mpr effective.started)
      · exact absurd long (not_lt.mpr effective.reason)
    · rename_i valid
      obtain ⟨dated, present, reason⟩ := not_or.mp valid |>.imp_right not_or.mp
      cases mode : state.mode with
      | closed => exact ⟨nofun, fun effective => nomatch mode.symm.trans effective.mode⟩
      | other text => exact ⟨nofun, fun effective => nomatch mode.symm.trans effective.mode⟩
      | opened =>
        dsimp only
        split
        · rename_i expired
          refine ⟨nofun, fun effective => ?_⟩
          rcases expired with zero | ended
          · exact absurd zero effective.limited
          · exact absurd effective.running ended
        · rename_i current
          obtain ⟨limited, running⟩ := not_or.mp current
          split
          · rename_i wrong
            refine ⟨nofun, fun effective => ?_⟩
            rcases wrong with long | backward
            · exact absurd (lease.mpr effective.short) (not_le.mpr long)
            · exact absurd effective.forward backward
          · rename_i right
            obtain ⟨short, forward⟩ := not_or.mp right
            exact ⟨fun _ => ⟨not_not.mp pairing, not_not.mp generation, dated, not_lt.mp present,
              not_lt.mp reason, mode, limited, not_not.mp running, lease.mp (not_lt.mp short),
              not_not.mp forward⟩, fun _ => rfl⟩

/-! ### Writing -/

/-- The arguments of one call of `WriteState`. -/
structure WriteCall where
  mode : Mode
  reason : String
  lease : Duration
  now : Time

/-- The state a call of `WriteState` builds. -/
def WriteCall.state (config : Config) (call : WriteCall) (expiresAt : Time) : State where
  schemaVersion := stateSchemaVersion
  pairingID := config.pairingID
  deploymentGeneration := config.deploymentGeneration
  mode := call.mode
  reason := call.reason
  issuedAt := call.now
  expiresAt := expiresAt

/-- `json.Marshal` fails on an instant outside the years 0 through 9999. -/
def State.marshal (state : State) : Except Failure (List UInt8) := do
  refuse (¬ state.issuedAt.Encodable ∨ ¬ state.expiresAt.Encodable)
    (.other "Time.MarshalJSON: year outside of range [0,9999]")
  pure (Utf8.encode (marshalRecord stateFields state.toData ++ ['\n']))

/-- `WriteState` up to the replacement of the file: the state and the bytes it is replaced by. -/
def writeState (config : Config) (call : WriteCall) : Except Failure (State × List UInt8) := do
  refuse (256 < call.reason.utf8ByteSize) (.other "admission reason exceeds 256 characters")
  let state ← match call.mode with
    | .closed => do
      refuse (call.lease ≠ 0) (.other "closed admission state cannot have a lease")
      pure (call.state config 0)
    | .opened => do
      refuse (call.lease ≤ 0 ∨ maxOpenLease < call.lease)
        (.other "open admission lease must be greater than zero and at most 30s")
      pure (call.state config (call.now.add call.lease))
    | .other text =>
      .error (.other ("unsupported admission mode " ++ GuardedAgentRunner.Config.quoted text))
  let payload ← state.marshal
  pure (state, payload)

/-- The state file after a call: the rename replaces it as a whole, and a refused call does not
touch it. -/
def replace (config : Config) (file : StateFile) (call : WriteCall) : StateFile :=
  match writeState config call with
  | .ok (_, payload) => .regular payload
  | .error _ => file

end Admission

end GuardedAgentRunner
