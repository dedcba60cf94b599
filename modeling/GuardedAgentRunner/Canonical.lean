/-
This file models what the runner digests and stores as JSON. A record is
digested through its JSON tree; the canonical text of the tree and its SHA-256
are a parameter of the development, since the canonicalizer is not part of the
repository. A stored record is its own JSON text, because the encoder and the
decoder are inverse on records whose instants all have a text; a record with an
instant outside the encodable years cannot be stored.
-/

import Mathlib.Data.List.Sort
import GuardedAgentRunner.Types

namespace GuardedAgentRunner

open Fallible

/-- A JSON value as `json.Marshal` produces it from a record without floating-point fields. -/
inductive Json where
  | null
  | bool (value : Bool)
  | number (value : Int)
  | string (value : String)
  | array (items : List Json)
  | object (members : List (String × Json))

/-- The member of an object with a given name. -/
def Json.member (name : String) : Json → Option Json
  | .object members => members.lookup name
  | _ => none

/-- A slice as JSON: an absent slice is `null`. -/
def Slice.toJson {Item : Type} (encode : Item → Json) : Slice Item → Json
  | .absent => .null
  | .of items => .array (items.map encode)

/-- `SortedCopy`: a sorted copy, absent when there is nothing to copy. -/
def sortedCopy (values : Slice String) : Slice String :=
  match values.items with
  | [] => .absent
  | items => .of (items.insertionSort (· ≤ ·))

/-- An instant as JSON. -/
def Time.toJson (time : Time) : Json := .string time.formatRFC3339Nano

def Enrollment.toJson (enrollment : Enrollment) : Json :=
  .object [
    ("target_id", .string enrollment.targetID),
    ("enrollment_id", .string enrollment.enrollmentID),
    ("deployment_generation", .number enrollment.deploymentGeneration),
    ("container_id", .string enrollment.containerID),
    ("image_digest", .string enrollment.imageDigest),
    ("data_root_identity", .string enrollment.dataRootIdentity),
    ("game_endpoint", .string enrollment.gameEndpoint),
    ("runtime_guard_pairing", .string enrollment.runtimeGuardPairing),
    ("bootstrap_fingerprint", .string enrollment.bootstrapFingerprint),
    ("policy_id", .string enrollment.policyID),
    ("policy_revision", .string enrollment.policyRevision),
    ("policy_digest", .string enrollment.policyDigest),
    ("support_profile_id", .string enrollment.supportProfileID),
    ("paper_tuple", .string enrollment.paperTuple),
    ("allowed_plugins", enrollment.allowedPlugins.toJson .string)]

def Predicate.toJson (predicate : Predicate) : Json :=
  .object [
    ("name", .string predicate.name),
    ("phase", .string predicate.phase),
    ("expected", .string predicate.expected),
    ("freshness_seconds", .number predicate.freshnessSeconds),
    ("on_failure", .string predicate.onFailure.text)]

def ChangeIntent.toJson (intent : ChangeIntent) : Json :=
  .object [
    ("schema_version", .string intent.schemaVersion),
    ("intent_id", .string intent.intentID),
    ("client_request_id", .string intent.clientRequestID),
    ("principal_id", .string intent.principalID),
    ("session_id", .string intent.sessionID),
    ("created_at", intent.createdAt.toJson),
    ("enrollment_id", .string intent.enrollmentID),
    ("deployment_generation", .number intent.deploymentGeneration),
    ("container_id", .string intent.containerID),
    ("paper_tuple", .string intent.paperTuple),
    ("expected_boot_id", .string intent.expectedBootID),
    ("workflow_kind", .string intent.workflowKind),
    ("workflow_version", .string intent.workflowVersion),
    ("plugin_id", .string intent.pluginID),
    ("from_artifact_id", .string intent.fromArtifactID),
    ("from_sha256", .string intent.fromSHA256),
    ("to_artifact_id", .string intent.toArtifactID),
    ("to_sha256", .string intent.toSHA256),
    ("profile_digest", .string intent.profileDigest),
    ("scope_digest", .string intent.scopeDigest),
    ("policy_revision", .string intent.policyRevision),
    ("policy_digest", .string intent.policyDigest),
    ("capability_snapshot", intent.capabilitySnapshot.toJson .string),
    ("observation_bundle_id", .string intent.observationBundleID),
    ("inventory_digest", .string intent.inventoryDigest),
    ("config_digest", .string intent.configDigest),
    ("evidence_references", intent.evidenceReferences.toJson .string),
    ("predicates", intent.predicates.toJson Predicate.toJson),
    ("steps", intent.steps.toJson fun kind => .string kind.text),
    ("reserved_backup_id", .string intent.reservedBackupID),
    ("backup_recipe_digest", .string intent.backupRecipeDigest),
    ("verification_profile_id", .string intent.verificationProfileID),
    ("verification_digest", .string intent.verificationDigest),
    ("recovery_contract_id", .string intent.recoveryContractID),
    ("recovery_digest", .string intent.recoveryDigest),
    ("approval_deadline", intent.approvalDeadline.toJson),
    ("start_before", intent.startBefore.toJson),
    ("execution_budget_seconds", .number intent.executionBudgetSeconds),
    ("recovery_budget_seconds", .number intent.recoveryBudgetSeconds),
    ("rationale", .string intent.rationale),
    ("intent_digest", .string intent.intentDigest)]

/-! ### Stored records -/

/-- A record stored as JSON, with the instants its text contains. -/
class Stored (Record : Type) where
  instants : Record → List Time

open Stored

instance : Stored Time where
  instants time := [time]

instance : Stored ChangeIntent where
  instants intent := [intent.createdAt, intent.approvalDeadline, intent.startBefore]

instance : Stored IntentRecord where
  instants record := instants record.intent ++ [record.updatedAt]

instance : Stored Approval where
  instants approval := [approval.decidedAt]

instance : Stored StepAttempt where
  instants attempt := [attempt.preparedAt, attempt.updatedAt]

instance : Stored Operation where
  instants operation :=
    [operation.createdAt, operation.updatedAt] ++ operation.attempts.flatMap instants

instance : Stored SafetyObservation where
  instants observation := [observation.observedAt]

instance : Stored StopEvidence where
  instants stop := [stop.requestedAt, stop.observedAt, stop.finishedAt]

instance : Stored BackupReadyEvidence where
  instants ready := instants ready.beforeStop ++ instants ready.offline ++ instants ready.stop

instance : Stored BackupRecord where
  instants record :=
    record.sourceArtifacts.map (·.acquiredAt) ++
      [record.createdAt, record.completedAt, record.digestVerifiedAt] ++ instants record.ready

/-- The record has a JSON text. -/
def Storable {Record : Type} [Stored Record] (record : Record) : Prop :=
  ∀ time ∈ instants record, time.Encodable
deriving Decidable

/-- `json.Marshal` of a record: the stored text stands for the record itself. -/
def marshal {Record : Type} [Stored Record] (record : Record) : Except Failure Record :=
  if Storable record then .ok record else .error .yearOutOfRange

theorem marshal_eq_ok {Record : Type} [Stored Record] {record stored : Record} :
    marshal record = .ok stored ↔ Storable record ∧ record = stored := by
  unfold marshal
  by_cases storable : Storable record
  · rw [if_pos storable]
    exact ⟨fun same => ⟨storable, Except.ok.inj same⟩, fun same => congrArg _ same.2⟩
  · rw [if_neg storable]
    exact ⟨nofun, fun same => absurd same.1 storable⟩

/-! ### Digests and evidence texts -/

/-- What `Foundation.Run` records as the evidence of a completed step. -/
inductive Evidence where
  | claim (operationID intentDigest : String) (executionEpoch : Int)
  | revalidated (observation : SafetyObservation)
  | maintenance (receipt : MaintenanceReceipt) (observation : SafetyObservation)
  | ready (evidence : BackupReadyEvidence)

/-- The encoders that are not part of the repository: the hexadecimal SHA-256 of the
canonical text of a JSON value, and the JSON texts of the evidence of a step. -/
structure Codec where
  digest : Json → Except Failure String
  encode : Evidence → Except Failure String
  decode : String → Except Failure BackupReadyEvidence

variable (codec : Codec)

/-- `Digest` where the caller drops the error: the digest is empty then. -/
def Codec.digestOrEmpty (value : Json) : String :=
  match codec.digest value with
  | .ok digest => digest
  | .error _ => ""

namespace ChangeIntent

/-- `digestPayload`. -/
def digestPayload (intent : ChangeIntent) : ChangeIntent :=
  { intent with
    intentDigest := ""
    capabilitySnapshot := sortedCopy intent.capabilitySnapshot
    evidenceReferences := sortedCopy intent.evidenceReferences }

/-- `Digest(intent.digestPayload())`. -/
def computeDigest (intent : ChangeIntent) : Except Failure String := do
  let payload ← marshal intent.digestPayload
  codec.digest payload.toJson

/-- `ValidateDigest`. -/
def validateDigest (intent : ChangeIntent) : Except Failure Unit := do
  let digest ← computeDigest codec intent
  refuse (digest ≠ intent.intentDigest)
    (newError .invalidIntentDigest "change intent digest mismatch")

/-- The intent carries the digest of its own payload. -/
def Sealed (intent : ChangeIntent) : Prop := validateDigest codec intent = .ok ()
deriving Decidable

end ChangeIntent

/-- `OfflineBackupRecipeDigest`. -/
def offlineBackupRecipeDigest : String :=
  codec.digestOrEmpty (.object [
    ("consistency", .string "offline"),
    ("exclude", .array [.string "logs", .string "cache", .string "temporary-sockets"]),
    ("scope", .string "enrolled-data-root")])

end GuardedAgentRunner
