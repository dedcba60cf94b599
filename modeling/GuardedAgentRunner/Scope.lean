/-
This file models the session scope of an agent and proves what its digest binds.
`Seal` digests the canonical JSON of the scope with sorted lists and with its
instants as texts. When the digest is injective on canonical texts, scopes with the
same digest agree on every text, every instant and, up to order, every list; their
numbers agree as doubles only.
-/

import GuardedAgentRunner.Canonicalizer
import GuardedAgentRunner.Records

namespace GuardedAgentRunner

open Fallible

structure AgentSessionScope where
  schemaVersion : String
  principalID : String
  sessionID : String
  enrollmentID : String
  deploymentGeneration : Int
  capabilities : Slice String
  pluginIDs : Slice String
  artifactProfileIDs : Slice String
  issuedAt : Time
  expiresAt : Time
  revocationEpoch : Int
  scopeDigest : String
  deriving DecidableEq, Repr

namespace AgentSessionScope

/-- `digestPayload`, as it is marshalled. -/
def digestPayload (scope : AgentSessionScope) : List (String × Json) :=
  [("schema_version", .string scope.schemaVersion),
    ("principal_id", .string scope.principalID),
    ("session_id", .string scope.sessionID),
    ("enrollment_id", .string scope.enrollmentID),
    ("deployment_generation", .number scope.deploymentGeneration),
    ("capabilities", (sortedCopy scope.capabilities).toJson .string),
    ("plugin_ids", (sortedCopy scope.pluginIDs).toJson .string),
    ("artifact_profile_ids", (sortedCopy scope.artifactProfileIDs).toJson .string),
    ("issued_at", .string scope.issuedAt.formatRFC3339Nano),
    ("expires_at", .string scope.expiresAt.formatRFC3339Nano),
    ("revocation_epoch", .number scope.revocationEpoch)]

section Digest

variable (codec : Codec)

/-- `Digest(scope.digestPayload())`. -/
def computeDigest (scope : AgentSessionScope) : Except Failure String :=
  codec.digest (.object scope.digestPayload)

/-- `Seal`. -/
def sealDigest (scope : AgentSessionScope) : Except Failure AgentSessionScope := do
  let digest ← scope.computeDigest codec
  return { scope with scopeDigest := digest }

/-- `Validate`. -/
def validate (scope : AgentSessionScope) (now : Time) : Except Failure Unit := do
  let digest ← scope.computeDigest codec
  refuse (digest ≠ scope.scopeDigest) (newError .scopeDenied "session scope digest mismatch")
  refuse (¬ now.Before scope.expiresAt) (newError .scopeDenied "agent session expired")

end Digest

/-- `Allows`. -/
def allows (scope : AgentSessionScope) (capability pluginID artifactProfileID : String) : Bool :=
  scope.capabilities.items.contains capability && scope.pluginIDs.items.contains pluginID &&
    scope.artifactProfileIDs.items.contains artifactProfileID

/-! ### What the digest binds -/

/-- The instants have a text and the numbers are 64-bit integers. -/
structure WellFormed (scope : AgentSessionScope) : Prop where
  issuedAt : scope.issuedAt.Encodable
  expiresAt : scope.expiresAt.Encodable
  deploymentGeneration : Int64Range scope.deploymentGeneration
  revocationEpoch : Int64Range scope.revocationEpoch

/-- The scopes agree on all that is not a number. -/
structure AgreesOnTexts (first second : AgentSessionScope) : Prop where
  schemaVersion : first.schemaVersion = second.schemaVersion
  principalID : first.principalID = second.principalID
  sessionID : first.sessionID = second.sessionID
  enrollmentID : first.enrollmentID = second.enrollmentID
  capabilities : first.capabilities.items.Perm second.capabilities.items
  pluginIDs : first.pluginIDs.items.Perm second.pluginIDs.items
  artifactProfileIDs : first.artifactProfileIDs.items.Perm second.artifactProfileIDs.items
  issuedAt : first.issuedAt = second.issuedAt
  expiresAt : first.expiresAt = second.expiresAt

/-- The scopes grant the same authority. -/
structure Agrees (first second : AgentSessionScope) : Prop extends AgreesOnTexts first second where
  deploymentGeneration : first.deploymentGeneration = second.deploymentGeneration
  revocationEpoch : first.revocationEpoch = second.revocationEpoch

/-- The numbers of the scopes are rounded to the same doubles. -/
structure AgreesOnDoubles (first second : AgentSessionScope) : Prop where
  deploymentGeneration :
    Binary64.round first.deploymentGeneration = Binary64.round second.deploymentGeneration
  revocationEpoch : Binary64.round first.revocationEpoch = Binary64.round second.revocationEpoch

theorem digestPayload_names (scope : AgentSessionScope) :
    (scope.digestPayload.map Prod.fst).Nodup := by
  show ["schema_version", "principal_id", "session_id", "enrollment_id", "deployment_generation",
    "capabilities", "plugin_ids", "artifact_profile_ids", "issued_at", "expires_at",
    "revocation_epoch"].Nodup
  decide

end AgentSessionScope

theorem items_sortedCopy (slice : Slice String) : (sortedCopy slice).items.Perm slice.items := by
  unfold sortedCopy
  cases slice.items with
  | nil => exact List.Perm.nil
  | cons item items => exact List.perm_insertionSort _ _

theorem perm_of_sortedCopy {first second : Slice String}
    (same : sortedCopy first = sortedCopy second) : first.items.Perm second.items :=
  (items_sortedCopy first).symm.trans (same ▸ items_sortedCopy second)

namespace AgentSessionScope

theorem agrees_of_normalize {first second : AgentSessionScope} (firstFormed : first.WellFormed)
    (secondFormed : second.WellFormed)
    (same : (Json.object first.digestPayload).normalize =
      (Json.object second.digestPayload).normalize) :
    AgreesOnTexts first second ∧ AgreesOnDoubles first second := by
  have text : ∀ (name value other : String), (name, .string value) ∈ first.digestPayload →
      (name, .string other) ∈ second.digestPayload → value = other := by
    intro name value other
    exact Json.string_eq_of_mem same second.digestPayload_names
  have number : ∀ (name : String) (value other : Int),
      (name, .number value) ∈ first.digestPayload →
      (name, .number other) ∈ second.digestPayload →
      Binary64.round value = Binary64.round other := by
    intro name value other present otherPresent
    have normal := Json.normalize_eq_of_mem same second.digestPayload_names present otherPresent
    rw [Json.normalize, Json.normalize] at normal
    exact Binary64.decimal_eq_iff.mp (Json.number.inj normal)
  have list : ∀ (name : String) (value other : Slice String),
      (name, (sortedCopy value).toJson .string) ∈ first.digestPayload →
      (name, (sortedCopy other).toJson .string) ∈ second.digestPayload →
      value.items.Perm other.items := by
    intro name value other present otherPresent
    have normal := Json.normalize_eq_of_mem same second.digestPayload_names present otherPresent
    exact perm_of_sortedCopy
      (Json.normalize_slice_injective Json.normalize_string_injective normal)
  refine ⟨⟨?_, ?_, ?_, ?_, ?_, ?_, ?_, ?_, ?_⟩, ?_, ?_⟩
  · exact text "schema_version" _ _ (by simp [digestPayload]) (by simp [digestPayload])
  · exact text "principal_id" _ _ (by simp [digestPayload]) (by simp [digestPayload])
  · exact text "session_id" _ _ (by simp [digestPayload]) (by simp [digestPayload])
  · exact text "enrollment_id" _ _ (by simp [digestPayload]) (by simp [digestPayload])
  · exact list "capabilities" _ _ (by simp [digestPayload]) (by simp [digestPayload])
  · exact list "plugin_ids" _ _ (by simp [digestPayload]) (by simp [digestPayload])
  · exact list "artifact_profile_ids" _ _ (by simp [digestPayload]) (by simp [digestPayload])
  · exact Time.formatRFC3339Nano_inj firstFormed.issuedAt secondFormed.issuedAt
      (text "issued_at" _ _ (by simp [digestPayload]) (by simp [digestPayload]))
  · exact Time.formatRFC3339Nano_inj firstFormed.expiresAt secondFormed.expiresAt
      (text "expires_at" _ _ (by simp [digestPayload]) (by simp [digestPayload]))
  · exact number "deployment_generation" _ _ (by simp [digestPayload]) (by simp [digestPayload])
  · exact number "revocation_epoch" _ _ (by simp [digestPayload]) (by simp [digestPayload])

theorem normalize_of_agrees {first second : AgentSessionScope} (texts : AgreesOnTexts first second)
    (doubles : AgreesOnDoubles first second) :
    (Json.object first.digestPayload).normalize = (Json.object second.digestPayload).normalize := by
  have generation := Binary64.decimal_eq_iff.mpr doubles.deploymentGeneration
  have epoch := Binary64.decimal_eq_iff.mpr doubles.revocationEpoch
  have capabilities := sortedCopy_eq_of_perm texts.capabilities
  have pluginIDs := sortedCopy_eq_of_perm texts.pluginIDs
  have artifactProfileIDs := sortedCopy_eq_of_perm texts.artifactProfileIDs
  simp only [digestPayload, Json.normalize, Json.normalizeMembers, texts.schemaVersion,
    texts.principalID, texts.sessionID, texts.enrollmentID, texts.issuedAt, texts.expiresAt,
    generation, epoch, capabilities, pluginIDs, artifactProfileIDs]

end AgentSessionScope

/-- The digest is an injective hash of the canonical text. -/
def Codec.Canonical (codec : Codec) : Prop :=
  ∃ hash : String → String, Function.Injective hash ∧
    ∀ value : Json, codec.digest value = .ok (hash value.transform)

theorem Codec.Canonical.total {codec : Codec} (canonical : codec.Canonical) : codec.Total := by
  obtain ⟨hash, -, hashes⟩ := canonical
  exact fun value => ⟨_, hashes value⟩

namespace AgentSessionScope

variable {codec : Codec}

theorem map_sealDigest (scope : AgentSessionScope) :
    (scope.sealDigest codec).map (·.scopeDigest) = scope.computeDigest codec := by
  unfold sealDigest
  cases scope.computeDigest codec <;> rfl

theorem sealDigest_eq_ok {scope result : AgentSessionScope} :
    scope.sealDigest codec = .ok result ↔
      scope.computeDigest codec = .ok result.scopeDigest ∧
        result = { scope with scopeDigest := result.scopeDigest } := by
  unfold sealDigest
  rw [bind_eq_ok]
  constructor
  · rintro ⟨digest, computed, returned⟩
    rw [pure_eq_ok] at returned
    subst returned
    exact ⟨computed, rfl⟩
  · rintro ⟨computed, changed⟩
    exact ⟨_, computed, (pure_eq_ok _ _).mpr changed.symm⟩

/-- Under an injective hash, scopes get the same digest exactly when they agree, their numbers
as doubles. -/
theorem computeDigest_eq_iff (canonical : codec.Canonical) {first second : AgentSessionScope}
    (firstFormed : first.WellFormed) (secondFormed : second.WellFormed) :
    first.computeDigest codec = second.computeDigest codec ↔
      AgreesOnTexts first second ∧ AgreesOnDoubles first second := by
  obtain ⟨hash, injective, digests⟩ := canonical
  unfold computeDigest
  rw [digests, digests]
  constructor
  · intro same
    exact agrees_of_normalize firstFormed secondFormed
      (Json.transform_eq_iff.mp (injective (Except.ok.inj same)))
  · rintro ⟨texts, doubles⟩
    rw [Json.transform_eq_iff.mpr (normalize_of_agrees texts doubles)]

/-- The scope with other numbers. -/
def withNumbers (scope : AgentSessionScope) (generation epoch : Int) : AgentSessionScope :=
  { scope with deploymentGeneration := generation, revocationEpoch := epoch }

theorem computeDigest_withNumbers (canonical : codec.Canonical) {scope : AgentSessionScope}
    (formed : scope.WellFormed) {generation epoch : Int} (generationRange : Int64Range generation)
    (epochRange : Int64Range epoch)
    (generations : Binary64.round generation = Binary64.round scope.deploymentGeneration)
    (epochs : Binary64.round epoch = Binary64.round scope.revocationEpoch) :
    scope.computeDigest codec = (scope.withNumbers generation epoch).computeDigest codec := by
  have otherFormed : (scope.withNumbers generation epoch).WellFormed :=
    ⟨formed.issuedAt, formed.expiresAt, generationRange, epochRange⟩
  have doubles : AgreesOnDoubles scope (scope.withNumbers generation epoch) :=
    ⟨generations.symm, epochs.symm⟩
  exact (computeDigest_eq_iff canonical formed otherFormed).mpr
    ⟨⟨rfl, rfl, rfl, rfl, .refl _, .refl _, .refl _, rfl, rfl⟩, doubles⟩

end AgentSessionScope

/-- The scope agrees with every well-formed scope that `Seal` gives the same digest. -/
def AgentSessionScope.Bound (codec : Codec) (scope : AgentSessionScope) : Prop :=
  ∀ other : AgentSessionScope, other.WellFormed →
    ∀ sealedScope sealedOther, scope.sealDigest codec = .ok sealedScope →
      other.sealDigest codec = .ok sealedOther →
      sealedScope.scopeDigest = sealedOther.scopeDigest → scope.Agrees other

/-- The digest binds the whole authority of a scope exactly when no other 64-bit integer is
rounded to the double of its generation or of its revocation epoch. -/
theorem scope_bound_iff_pinned (codec : Codec) (canonical : codec.Canonical)
    (scope : AgentSessionScope) (formed : scope.WellFormed) :
    scope.Bound codec ↔
      Binary64.Pinned scope.deploymentGeneration ∧ Binary64.Pinned scope.revocationEpoch := by
  have generationRange := formed.deploymentGeneration
  have epochRange := formed.revocationEpoch
  rw [Binary64.pinned_iff generationRange.1 generationRange.2,
    Binary64.pinned_iff epochRange.1 epochRange.2]
  constructor
  · intro bound
    have same : ∀ generation epoch : Int, Int64Range generation → Int64Range epoch →
        Binary64.round generation = Binary64.round scope.deploymentGeneration →
        Binary64.round epoch = Binary64.round scope.revocationEpoch →
        scope.Agrees (scope.withNumbers generation epoch) := by
      intro generation epoch low high generations epochs
      have digests := AgentSessionScope.computeDigest_withNumbers canonical formed low high
        generations epochs
      obtain ⟨hash, -, hashes⟩ := id canonical
      have computed : scope.computeDigest codec = .ok _ := hashes _
      exact bound (scope.withNumbers generation epoch)
        ⟨formed.issuedAt, formed.expiresAt, low, high⟩
        { scope with scopeDigest := _ } { scope.withNumbers generation epoch with scopeDigest := _ }
        (AgentSessionScope.sealDigest_eq_ok.mpr ⟨computed, rfl⟩)
        (AgentSessionScope.sealDigest_eq_ok.mpr ⟨digests.symm.trans computed, rfl⟩) rfl
    constructor
    · intro other low high rounded
      exact (same other _ ⟨low, high⟩ epochRange rounded rfl).deploymentGeneration.symm
    · intro other low high rounded
      exact (same _ other generationRange ⟨low, high⟩ rfl rounded).revocationEpoch.symm
  · rintro ⟨generationAlone, epochAlone⟩ other otherFormed sealedScope sealedOther sealing
      otherSealing same
    have digests : scope.computeDigest codec = other.computeDigest codec := by
      rw [(AgentSessionScope.sealDigest_eq_ok.mp sealing).1,
        (AgentSessionScope.sealDigest_eq_ok.mp otherSealing).1, same]
    obtain ⟨texts, doubles⟩ :=
      (AgentSessionScope.computeDigest_eq_iff canonical formed otherFormed).mp digests
    have otherGeneration := otherFormed.deploymentGeneration
    have otherEpoch := otherFormed.revocationEpoch
    exact ⟨texts,
      (generationAlone _ otherGeneration.1 otherGeneration.2
        doubles.deploymentGeneration.symm).symm,
      (epochAlone _ otherEpoch.1 otherEpoch.2 doubles.revocationEpoch.symm).symm⟩

/-- A codec whose digest is the canonical text itself. -/
def textCodec : Codec := { fixtureCodec with digest := fun value => .ok value.transform }

theorem textCodec_canonical : textCodec.Canonical := ⟨id, Function.injective_id, fun _ => rfl⟩

/-- The session of the fixture. -/
def fixtureScope : AgentSessionScope where
  schemaVersion := "gar.agent-scope.v1"
  principalID := "agent-a"
  sessionID := "session-a"
  enrollmentID := "enrollment-a"
  deploymentGeneration := 3
  capabilities := .of ["propose_plugin_change", "get_operation"]
  pluginIDs := .of ["example"]
  artifactProfileIDs := .of ["example-a-b"]
  issuedAt := fixtureNow.add (-Duration.minute)
  expiresAt := fixtureNow.add (60 * Duration.minute)
  revocationEpoch := 1
  scopeDigest := ""

theorem fixtureScope_wellFormed : fixtureScope.WellFormed :=
  ⟨by decide, by decide, by decide, by decide⟩

/-- The session with its capabilities in another order. -/
def reorderedScope : AgentSessionScope :=
  { fixtureScope with capabilities := .of ["get_operation", "propose_plugin_change"] }

/-- The session and the reordered one have the same digest, so they agree. -/
theorem reorderedScope_agrees : fixtureScope.Agrees reorderedScope := by
  have texts : fixtureScope.AgreesOnTexts reorderedScope :=
    ⟨rfl, rfl, rfl, rfl, by decide, .refl _, .refl _, rfl, rfl⟩
  have formed : reorderedScope.WellFormed := ⟨by decide, by decide, by decide, by decide⟩
  have same :=
    (AgentSessionScope.computeDigest_eq_iff textCodec_canonical fixtureScope_wellFormed formed).mpr
      ⟨texts, rfl, rfl⟩
  have bound := (scope_bound_iff_pinned textCodec textCodec_canonical fixtureScope
    fixtureScope_wellFormed).mpr ⟨by decide, by decide⟩
  exact bound reorderedScope formed { fixtureScope with scopeDigest := _ }
    { reorderedScope with scopeDigest := _ } (AgentSessionScope.sealDigest_eq_ok.mpr ⟨rfl, rfl⟩)
    (AgentSessionScope.sealDigest_eq_ok.mpr ⟨same.symm, rfl⟩) rfl

/-- Two sessions of the generations 2 ^ 53 and 2 ^ 53 + 1 get the same digest. -/
theorem nextGeneration_shares_digest :
    (fixtureScope.withNumbers (2 ^ 53) 1).WellFormed ∧
      (fixtureScope.withNumbers (2 ^ 53 + 1) 1).WellFormed ∧
      ((fixtureScope.withNumbers (2 ^ 53) 1).sealDigest textCodec).map (·.scopeDigest) =
        ((fixtureScope.withNumbers (2 ^ 53 + 1) 1).sealDigest textCodec).map (·.scopeDigest) ∧
      ¬ (fixtureScope.withNumbers (2 ^ 53) 1).Agrees (fixtureScope.withNumbers (2 ^ 53 + 1) 1) := by
  have formed : (fixtureScope.withNumbers (2 ^ 53) 1).WellFormed :=
    ⟨by decide, by decide, by decide, by decide⟩
  refine ⟨formed, ⟨by decide, by decide, by decide, by decide⟩, ?_, ?_⟩
  · rw [AgentSessionScope.map_sealDigest, AgentSessionScope.map_sealDigest]
    exact AgentSessionScope.computeDigest_withNumbers textCodec_canonical formed (by decide)
      (by decide) (by decide) rfl
  · intro agreed
    exact absurd agreed.deploymentGeneration (by decide)

end GuardedAgentRunner
