/-
This file lists the structures whose files carry authority and are decoded
strictly: the state of the admission gate, the two snapshots and the three
configurations. `RejectDuplicateKeys` compares the names of members as they are,
while the decoder matches them to fields without regard to case, so a field can
still be given twice.
-/

import GuardedAgentRunner.Admission

namespace GuardedAgentRunner

open JsonText StructDecode

/-! ### The structures -/

/-- The fields of `host.PluginArtifact`. -/
def pluginArtifactFields : List (String × Shape Kind) :=
  [("plugin_id", .leaf .string), ("sha256", .leaf .string), ("size", .leaf .int64)]

/-- The fields of `host.PublishedBinding`. -/
def publishedBindingFields : List (String × Shape Kind) :=
  [("host_ip", .leaf .string), ("host_port", .leaf .int64), ("container_port", .leaf .int64),
    ("protocol", .leaf .string)]

/-- The fields of `host.Snapshot`. -/
def hostSnapshotFields : List (String × Shape Kind) :=
  [("schema_version", .leaf .string), ("availability", .leaf .string),
    ("reason_code", .leaf .optionalString), ("observed_at", .leaf .time),
    ("enrollment_id", .leaf .string), ("deployment_generation", .leaf .int64),
    ("container_id", .leaf .string), ("image_id", .leaf .string),
    ("container_status", .leaf .string), ("running", .leaf .bool),
    ("health_status", .leaf .string), ("restart_policy", .leaf .string),
    ("data_root_identity", .leaf .string), ("bootstrap_fingerprint", .leaf .string),
    ("inventory_digest", .leaf .string), ("plugin_artifacts", .slice (.struct pluginArtifactFields)),
    ("competing_startup_writers", .slice (.leaf .string)), ("disk_free_bytes", .leaf .uint64),
    ("recent_errors_availability", .leaf .string),
    ("recent_errors_reason_code", .leaf .optionalString),
    ("error_cursor", .leaf .optionalString), ("recent_errors", .slice (.leaf .string)),
    ("admission_barrier_availability", .leaf .string),
    ("admission_barrier_reason_code", .leaf .string), ("admission_open", .leaf .bool),
    ("admission_gate_container_id", .leaf .optionalString),
    ("admission_published_bindings", .slice (.struct publishedBindingFields))]

/-- The fields of `paper.PluginObservation`. -/
def pluginObservationFields : List (String × Shape Kind) :=
  [("name", .leaf .string), ("version", .leaf .string), ("enabled", .leaf .bool),
    ("source_attribution", .leaf .string)]

/-- The fields of `paper.Snapshot`. -/
def paperSnapshotFields : List (String × Shape Kind) :=
  [("schema_version", .leaf .string), ("pairing_id", .leaf .string), ("boot_id", .leaf .string),
    ("observed_at", .leaf .time), ("ready", .leaf .bool), ("admission_state", .leaf .string),
    ("player_count", .leaf .int64), ("tps", .slice (.leaf .float64)), ("mspt", .leaf .float64),
    ("heap_used_bytes", .leaf .int64), ("heap_max_bytes", .leaf .int64),
    ("plugins", .slice (.struct pluginObservationFields))]

/-- The fields of `domain.Enrollment`. -/
def enrollmentFields : List (String × Shape Kind) :=
  [("target_id", .leaf .string), ("enrollment_id", .leaf .string),
    ("deployment_generation", .leaf .int64), ("container_id", .leaf .string),
    ("image_digest", .leaf .string), ("data_root_identity", .leaf .string),
    ("game_endpoint", .leaf .string), ("runtime_guard_pairing", .leaf .string),
    ("bootstrap_fingerprint", .leaf .string), ("policy_id", .leaf .string),
    ("policy_revision", .leaf .string), ("policy_digest", .leaf .string),
    ("support_profile_id", .leaf .string), ("paper_tuple", .leaf .string),
    ("allowed_plugins", .slice (.leaf .string))]

/-- The fields of `domain.ArtifactRecord`. -/
def artifactRecordFields : List (String × Shape Kind) :=
  [("artifact_id", .leaf .string), ("sha256", .leaf .string), ("size", .leaf .int64),
    ("source_description", .leaf .string), ("acquired_at", .leaf .time),
    ("plugin_id", .leaf .string), ("descriptor_digest", .leaf .string),
    ("owner_trust_confirmed", .leaf .bool), ("compatibility_evidence", .leaf .string)]

/-- The fields of `domain.TransitionProfile`. -/
def transitionProfileFields : List (String × Shape Kind) :=
  [("profile_id", .leaf .string), ("profile_digest", .leaf .string), ("plugin_id", .leaf .string),
    ("from_artifact_id", .leaf .string), ("to_artifact_id", .leaf .string),
    ("paper_tuple", .leaf .string), ("dependency_inventory", .slice (.leaf .string)),
    ("writable_data_locations", .slice (.leaf .string)), ("migration_declared", .leaf .bool),
    ("verification_profile_id", .leaf .string), ("verification_digest", .leaf .string),
    ("recovery_contract_id", .leaf .string), ("recovery_digest", .leaf .string),
    ("eligibility", .leaf .string)]

/-- The fields of `policy.SupportProfile`. -/
def supportProfileFields : List (String × Shape Kind) :=
  [("profile_id", .leaf .string), ("mode", .leaf .string), ("gates", .map (.leaf .string))]

/-- The fields of the server's `runtimeconfig.Config`. -/
def serverConfigFields : List (String × Shape Kind) :=
  [("schema_version", .leaf .string), ("enrollment", .struct enrollmentFields),
    ("artifacts", .map (.struct artifactRecordFields)),
    ("profiles", .map (.struct transitionProfileFields)),
    ("support_profile", .struct supportProfileFields), ("current_revocation_epoch", .leaf .int64),
    ("paper_runtime", .pointer [("snapshot_path", .leaf .string)]),
    ("host_observation", .pointer [("snapshot_path", .leaf .string)])]

/-- The fields of `admission.Config`. -/
def admissionConfigFields : List (String × Shape Kind) :=
  [("schema_version", .leaf .string), ("pairing_id", .leaf .string),
    ("deployment_generation", .leaf .int64), ("listen_addresses", .slice (.leaf .string)),
    ("upstream_address", .leaf .string), ("state_path", .leaf .string),
    ("runtime_snapshot_path", .leaf .string), ("poll_interval_milliseconds", .leaf .int64),
    ("dial_timeout_milliseconds", .leaf .int64), ("max_connections", .leaf .int64)]

/-- The fields of `host.AdmissionBarrierConfig`. -/
def admissionBarrierFields : List (String × Shape Kind) :=
  [("gate_container_id", .leaf .string), ("expected_gate_image_id", .leaf .string),
    ("gate_binary_path", .leaf .string), ("expected_gate_binary_sha256", .leaf .string),
    ("admission_config_path", .leaf .string),
    ("published_bindings", .slice (.struct publishedBindingFields))]

/-- The fields of `host.ObserverConfig`. -/
def observerConfigFields : List (String × Shape Kind) :=
  [("schema_version", .leaf .string), ("enrollment_id", .leaf .string),
    ("deployment_generation", .leaf .int64), ("container_id", .leaf .string),
    ("expected_image_id", .leaf .optionalString), ("data_root_path", .leaf .string),
    ("expected_data_root_identity", .leaf .optionalString),
    ("expected_bootstrap_fingerprint", .leaf .optionalString),
    ("managed_plugin_slots", .map (.leaf .string)), ("docker_socket_path", .leaf .string),
    ("snapshot_path", .leaf .string), ("interval_seconds", .leaf .int64),
    ("admission_barrier", .pointer admissionBarrierFields)]

/-- The structures that are decoded from files with authority. -/
inductive Authority where
  | admissionState
  | hostSnapshot
  | paperSnapshot
  | serverConfig
  | admissionConfig
  | observerConfig

namespace Authority

def fields : Authority → List (String × Shape Kind)
  | .admissionState => Admission.stateFields
  | .hostSnapshot => hostSnapshotFields
  | .paperSnapshot => paperSnapshotFields
  | .serverConfig => serverConfigFields
  | .admissionConfig => admissionConfigFields
  | .observerConfig => observerConfigFields

/-! ### Fields with one source -/

theorem clear_fields (authority : Authority) : Clear (.struct authority.fields) := by
  cases authority <;> decide +kernel

/-- A payload that is decoded strictly: the value it is the text of, without repeated names, and
the data that was decoded. -/
structure Decoded (authority : Authority) (payload : List UInt8) (value : Parsed)
    (data : Data Scalar) : Prop where
  parsed : JsonText.parse maxNestingDepth (Utf8.decodeLossy payload) = some value
  decoded : strictDecode authority.fields payload = some data

theorem Decoded.settled {authority : Authority} {payload : List UInt8} {value : Parsed}
    {data : Data Scalar} (decoding : Decoded authority payload value data) :
    UniqueNames value ∧ decode leaves value (.struct authority.fields)
      (zero leaves (.struct authority.fields)) = some data := by
  obtain ⟨parsed, decoded⟩ := decoding
  unfold strictDecode at decoded
  obtain ⟨_, accepted, decoded⟩ := Option.bind_eq_some_iff.mp decoded
  rw [parsed] at decoded
  obtain ⟨other, alsoParsed, unique⟩ := rejectDuplicateKeys_eq_some_iff.mp accepted
  rw [parse_unique alsoParsed parsed] at unique
  exact ⟨unique, decoded⟩

/-- Every field of a decoded structure, at every level, is determined by one member of the payload
at most exactly when no object that is decoded into a record has two member names that differ by
case only. -/
theorem fields_determined_iff (authority : Authority) {payload : List UInt8} {value : Parsed}
    {data : Data Scalar} (decoding : Decoded authority payload value data) :
    Determined leaves value (.struct authority.fields) data ↔
      Distinct value (.struct authority.fields) := by
  obtain ⟨unique, decoded⟩ := decoding.settled
  exact determined_iff_distinct value _ data authority.clear_fields unique decoded

/-- The text of a value without repeated names that fits the fields is decoded. -/
theorem exists_decoded {authority : Authority} {printed : Printed}
    (shallow : printed.depth ≤ maxNestingDepth) (unique : UniqueNames (printed.quoted html))
    (fits : (decode leaves (printed.quoted html) (.struct authority.fields)
      (zero leaves (.struct authority.fields))).isSome = true) :
    ∃ data, Decoded authority (Utf8.encode (write html printed)) (printed.quoted html) data := by
  obtain ⟨data, decoded⟩ := Option.isSome_iff_exists.mp fits
  have ends : EndsNumber [] := ⟨nofun, nofun⟩
  have parsed : JsonText.parse maxNestingDepth (write html printed ++ []) =
      some (printed.quoted html) := parse_write shallow rfl ends
  have read := strictDecode_write shallow unique decoded rfl ends
  rw [List.append_nil] at parsed read
  refine ⟨data, ?_, read⟩
  rw [Utf8.decodeLossy_encode]
  exact parsed

/-- A state that has only a mode. -/
def onlyMode : Printed := .object [("mode", .string "CLOSED")]

/-- The one field of such a state has one source. -/
theorem onlyMode_determined :
    ∃ data, Determined leaves (onlyMode.quoted html) (.struct Admission.stateFields) data := by
  obtain ⟨data, decoding⟩ : ∃ data, Decoded .admissionState (Utf8.encode (write html onlyMode))
      (onlyMode.quoted html) data :=
    exists_decoded (by decide +kernel) ⟨by decide +kernel, trivial, trivial⟩ (by decide +kernel)
  refine ⟨data, (fields_determined_iff .admissionState decoding).mpr
    ⟨by decide +kernel, fun _ shape _ => ?_, trivial⟩⟩
  cases shape <;> trivial

/-- A state that is given its mode twice. -/
def repeatedMode : Printed :=
  .object [("schema_version", .string "gar.admission-state.v1"), ("pairing_id", .string "pair"),
    ("deployment_generation", .number (.ofInt 1)), ("mode", .string "CLOSED"),
    ("Mode", .string "OPEN"), ("issued_at", .string "2000-01-01T00:00:00Z"),
    ("expires_at", .string "2000-01-01T00:00:30Z")]

/-- A closed state is decoded as an open one, and admission is open. -/
theorem repeatedMode_opens :
    (∃ data, Decoded .admissionState (Utf8.encode (write html repeatedMode))
      (repeatedMode.quoted html) data ∧
      ¬ Determined leaves (repeatedMode.quoted html) (.struct Admission.stateFields) data) ∧
    (Admission.evaluateState Admission.sampleConfig
      (.regular (Utf8.encode (write html repeatedMode))) (730119 * Time.day)).isOpen = true := by
  have unique : UniqueNames (repeatedMode.quoted html) :=
    ⟨by decide +kernel, trivial, trivial, trivial, trivial, trivial, trivial, trivial, trivial⟩
  constructor
  · obtain ⟨data, decoding⟩ : ∃ data, Decoded .admissionState
        (Utf8.encode (write html repeatedMode)) (repeatedMode.quoted html) data :=
      exists_decoded (by decide +kernel) unique (by decide +kernel)
    refine ⟨data, decoding, fun determined => ?_⟩
    have distinct := (determined_iff_distinct _ _ data (clear_fields .admissionState) unique
      decoding.settled.2).mp determined
    exact absurd distinct.1 (by decide +kernel)
  · decide +kernel

end Authority

end GuardedAgentRunner
