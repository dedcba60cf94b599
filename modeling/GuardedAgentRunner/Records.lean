/-
This file proves that a sealed intent survives the journal. It models `Seal`, the
decoder of stored intent records, and the transactions that decode a stored record,
change its status and encode it again. The decoder reads members by name, takes a
missing or `null` member for the zero value, and refuses a number outside the
64-bit range. A record read back has the JSON text it was read from, so its digest
is the digest of the record that was stored, however often it is rewritten.
-/

import Mathlib.Data.String.Basic
import GuardedAgentRunner.Instants
import GuardedAgentRunner.Journal

namespace GuardedAgentRunner

open Fallible

/-! ### Decoding -/

/-- The range of `int64`. -/
def Int64Range (number : Int) : Prop := -2 ^ 63 ≤ number ∧ number < 2 ^ 63
deriving Decidable

namespace Json

/-- The member of an object that is decoded into a field. A missing member leaves the zero
value, as `null` does. -/
def field (name : String) (value : Json) : Json := (value.member name).getD .null

def readString : Json → Option String
  | .string value => some value
  | .null => some ""
  | _ => none

def readInt64 : Json → Option Int
  | .number value => if Int64Range value then some value else none
  | .null => some 0
  | _ => none

def readTime : Json → Option Time
  | .string text => Time.parseRFC3339 text
  | .null => some 0
  | _ => none

def readSlice {Item : Type} (read : Json → Option Item) : Json → Option (Slice Item)
  | .null => some .absent
  | .array items => (items.mapM read).map .of
  | _ => none

end Json

/-- The value of a string type that a text stands for. -/
def ofText {Value : Type} (constants : List Value) (text : Value → String)
    (other : String → Value) (name : String) : Value :=
  (constants.find? fun constant => text constant = name).getD (other name)

def StepKind.ofText : String → StepKind :=
  GuardedAgentRunner.ofText fixedWorkflowSteps StepKind.text .other

def ErrorCode.ofText : String → ErrorCode :=
  GuardedAgentRunner.ofText
    [.unsupportedEnvironment, .unsupportedTransition, .scopeDenied, .approvalRequired,
      .approvalExpired, .approvalRevoked, .intentStale, .preconditionUnavailable, .targetBusy,
      .targetBlockedUnknown, .idempotencyConflict, .backupNotReady, .dispatchOutcomeUnknown,
      .verificationInconclusive, .recoveryUnsafe, .externalIntervention, .journalUnavailable,
      .clockUnsafe, .invalidIntentDigest, .notFound, .invalidRequest]
    ErrorCode.text .other

def IntentStatus.ofText : String → IntentStatus :=
  GuardedAgentRunner.ofText
    [.proposed, .awaitingApproval, .approved, .consumed, .rejected, .expired, .revoked,
      .cancelled, .stale]
    IntentStatus.text .other

def Predicate.ofJson (value : Json) : Option Predicate := do
  return {
    name := ← (value.field "name").readString
    phase := ← (value.field "phase").readString
    expected := ← (value.field "expected").readString
    freshnessSeconds := ← (value.field "freshness_seconds").readInt64
    onFailure := .ofText (← (value.field "on_failure").readString) }

def ChangeIntent.ofJson (value : Json) : Option ChangeIntent := do
  return {
    schemaVersion := ← (value.field "schema_version").readString
    intentID := ← (value.field "intent_id").readString
    clientRequestID := ← (value.field "client_request_id").readString
    principalID := ← (value.field "principal_id").readString
    sessionID := ← (value.field "session_id").readString
    createdAt := ← (value.field "created_at").readTime
    enrollmentID := ← (value.field "enrollment_id").readString
    deploymentGeneration := ← (value.field "deployment_generation").readInt64
    containerID := ← (value.field "container_id").readString
    paperTuple := ← (value.field "paper_tuple").readString
    expectedBootID := ← (value.field "expected_boot_id").readString
    workflowKind := ← (value.field "workflow_kind").readString
    workflowVersion := ← (value.field "workflow_version").readString
    pluginID := ← (value.field "plugin_id").readString
    fromArtifactID := ← (value.field "from_artifact_id").readString
    fromSHA256 := ← (value.field "from_sha256").readString
    toArtifactID := ← (value.field "to_artifact_id").readString
    toSHA256 := ← (value.field "to_sha256").readString
    profileDigest := ← (value.field "profile_digest").readString
    scopeDigest := ← (value.field "scope_digest").readString
    policyRevision := ← (value.field "policy_revision").readString
    policyDigest := ← (value.field "policy_digest").readString
    capabilitySnapshot := ← (value.field "capability_snapshot").readSlice Json.readString
    observationBundleID := ← (value.field "observation_bundle_id").readString
    inventoryDigest := ← (value.field "inventory_digest").readString
    configDigest := ← (value.field "config_digest").readString
    evidenceReferences := ← (value.field "evidence_references").readSlice Json.readString
    predicates := ← (value.field "predicates").readSlice Predicate.ofJson
    steps := ← (value.field "steps").readSlice fun step => step.readString.map .ofText
    reservedBackupID := ← (value.field "reserved_backup_id").readString
    backupRecipeDigest := ← (value.field "backup_recipe_digest").readString
    verificationProfileID := ← (value.field "verification_profile_id").readString
    verificationDigest := ← (value.field "verification_digest").readString
    recoveryContractID := ← (value.field "recovery_contract_id").readString
    recoveryDigest := ← (value.field "recovery_digest").readString
    approvalDeadline := ← (value.field "approval_deadline").readTime
    startBefore := ← (value.field "start_before").readTime
    executionBudgetSeconds := ← (value.field "execution_budget_seconds").readInt64
    recoveryBudgetSeconds := ← (value.field "recovery_budget_seconds").readInt64
    rationale := ← (value.field "rationale").readString
    intentDigest := ← (value.field "intent_digest").readString }

def IntentRecord.toJson (record : IntentRecord) : Json :=
  .object [
    ("intent", record.intent.toJson),
    ("status", .string record.status.text),
    ("proposal_digest", .string record.proposalDigest),
    ("updated_at", record.updatedAt.toJson)]

def IntentRecord.ofJson (value : Json) : Option IntentRecord := do
  return {
    intent := ← ChangeIntent.ofJson (value.field "intent")
    status := .ofText (← (value.field "status").readString)
    proposalDigest := ← (value.field "proposal_digest").readString
    updatedAt := ← (value.field "updated_at").readTime }

/-! ### Reading back what was written -/

theorem text_ofText {Value : Type} {constants : List Value} {text : Value → String}
    {other : String → Value} (faithful : ∀ name, text (other name) = name) (name : String) :
    text (ofText constants text other name) = name := by
  unfold ofText
  cases found : constants.find? fun constant => text constant = name with
  | none => exact faithful name
  | some constant =>
    have same := List.find?_some found
    exact of_decide_eq_true same

@[simp] theorem StepKind.text_ofText (name : String) : (StepKind.ofText name).text = name :=
  GuardedAgentRunner.text_ofText (fun _ => rfl) name

@[simp] theorem ErrorCode.text_ofText (name : String) : (ErrorCode.ofText name).text = name :=
  GuardedAgentRunner.text_ofText (fun _ => rfl) name

variable {Item : Type}

namespace Json

theorem readString_string (value : String) : readString (.string value) = some value := rfl

theorem readInt64_number {value : Int} (range : Int64Range value) :
    readInt64 (.number value) = some value := if_pos range

theorem readTime_toJson {time : Time} (encodable : time.Encodable) :
    readTime time.toJson = some time := Time.parseRFC3339_formatRFC3339Nano encodable

variable {read : Json → Option Item}

theorem mapM_encode {encode : Item → Json} {reread : Item → Item} {items : List Item}
    (each : ∀ item ∈ items, read (encode item) = some (reread item)) :
    (items.map encode).mapM read = some (items.map reread) := by
  induction items with
  | nil => rfl
  | cons item items hypothesis =>
    rw [List.map_cons, List.mapM_cons, each item List.mem_cons_self,
      hypothesis fun other member => each other (List.mem_cons_of_mem _ member)]
    rfl

theorem readSlice_toJson {encode : Item → Json} {reread : Item → Item} {slice : Slice Item}
    (each : ∀ item ∈ slice.items, read (encode item) = some (reread item)) :
    readSlice read (slice.toJson encode) = some (slice.map reread) := by
  cases slice with
  | absent => rfl
  | of items =>
    have all : (items.map encode).mapM read = some (items.map reread) := mapM_encode each
    show ((items.map encode).mapM read).map Slice.of = _
    rw [all]
    rfl

end Json

theorem Slice.map_id (slice : Slice Item) : slice.map id = slice := by
  cases slice with
  | absent => rfl
  | of items => exact congrArg Slice.of (List.map_id items)

/-- The predicate with the code its text stands for. -/
def Predicate.reread (predicate : Predicate) : Predicate :=
  { predicate with onFailure := .ofText predicate.onFailure.text }

/-- The intent with the codes and the step kinds their texts stand for. -/
def ChangeIntent.reread (intent : ChangeIntent) : ChangeIntent :=
  { intent with
    predicates := intent.predicates.map Predicate.reread
    steps := intent.steps.map fun kind => .ofText kind.text }

/-- The numbers of the intent are 64-bit integers. -/
def ChangeIntent.Int64s (intent : ChangeIntent) : Prop :=
  Int64Range intent.deploymentGeneration ∧ Int64Range intent.executionBudgetSeconds ∧
    Int64Range intent.recoveryBudgetSeconds ∧
    ∀ predicate ∈ intent.predicates.items, Int64Range predicate.freshnessSeconds

theorem Predicate.ofJson_toJson {predicate : Predicate}
    (range : Int64Range predicate.freshnessSeconds) :
    Predicate.ofJson predicate.toJson = some predicate.reread := by
  simp [Predicate.ofJson, Predicate.toJson, Json.field, Json.member, List.lookup_cons,
    Json.readString_string, Json.readInt64_number range, Predicate.reread]

variable {intent : ChangeIntent} {record : IntentRecord} {row : Json}

theorem ChangeIntent.ofJson_toJson (storable : Storable intent) (numbers : intent.Int64s) :
    ChangeIntent.ofJson intent.toJson = some intent.reread := by
  obtain ⟨generation, execution, recovery, freshness⟩ := numbers
  have created : intent.createdAt.Encodable := storable _ (by simp [Stored.instants])
  have deadline : intent.approvalDeadline.Encodable := storable _ (by simp [Stored.instants])
  have start : intent.startBefore.Encodable := storable _ (by simp [Stored.instants])
  have texts : ∀ slice : Slice String,
      Json.readSlice Json.readString (slice.toJson .string) = some slice := by
    intro slice
    have read : Json.readSlice Json.readString (slice.toJson .string) = some (slice.map id) :=
      Json.readSlice_toJson fun _ _ => rfl
    rw [read, Slice.map_id]
  have predicates : Json.readSlice Predicate.ofJson (intent.predicates.toJson Predicate.toJson) =
      some (intent.predicates.map Predicate.reread) :=
    Json.readSlice_toJson fun predicate member => Predicate.ofJson_toJson (freshness _ member)
  have steps : Json.readSlice (fun step => step.readString.map StepKind.ofText)
      (intent.steps.toJson fun kind => .string kind.text) =
        some (intent.steps.map fun kind => .ofText kind.text) :=
    Json.readSlice_toJson fun _ _ => rfl
  simp [ChangeIntent.ofJson, ChangeIntent.toJson, Json.field, Json.member, List.lookup_cons,
    Json.readString_string, Json.readInt64_number, Json.readTime_toJson, ChangeIntent.reread, *]

/-- The record with the codes, step kinds and status their texts stand for. -/
def IntentRecord.reread (record : IntentRecord) : IntentRecord :=
  { record with intent := record.intent.reread, status := .ofText record.status.text }

theorem IntentRecord.ofJson_toJson (storable : Storable record) (numbers : record.intent.Int64s) :
    IntentRecord.ofJson record.toJson = some record.reread := by
  have intent : Storable record.intent :=
    fun time member => storable time (List.mem_append_left _ member)
  have updated : record.updatedAt.Encodable :=
    storable _ (List.mem_append_right _ List.mem_cons_self)
  simp [IntentRecord.ofJson, IntentRecord.toJson, Json.field, Json.member, List.lookup_cons,
    Json.readString_string, Json.readTime_toJson updated, ChangeIntent.ofJson_toJson intent numbers,
    IntentRecord.reread]

/-! ### The text of a record that was read back -/

theorem Slice.toJson_map (encode : Item → Json) (change : Item → Item)
    (same : ∀ item, encode (change item) = encode item) (slice : Slice Item) :
    (slice.map change).toJson encode = slice.toJson encode := by
  cases slice with
  | absent => rfl
  | of items =>
    show Json.array ((items.map change).map encode) = Json.array (items.map encode)
    rw [List.map_map]
    exact congrArg Json.array (List.map_congr_left fun item _ => same item)

theorem Predicate.toJson_reread (predicate : Predicate) :
    predicate.reread.toJson = predicate.toJson := by
  simp only [Predicate.toJson, Predicate.reread, ErrorCode.text_ofText]

theorem ChangeIntent.toJson_reread (intent : ChangeIntent) :
    intent.reread.toJson = intent.toJson := by
  have predicates := Slice.toJson_map Predicate.toJson Predicate.reread Predicate.toJson_reread
    intent.predicates
  have steps := Slice.toJson_map (fun kind => .string kind.text)
    (fun kind : StepKind => .ofText kind.text)
    (fun kind => congrArg Json.string (StepKind.text_ofText kind.text)) intent.steps
  simp only [ChangeIntent.toJson, ChangeIntent.reread, predicates, steps]

theorem Slice.map_idem {change : Item → Item}
    (idempotent : ∀ item, change (change item) = change item) (slice : Slice Item) :
    (slice.map change).map change = slice.map change := by
  cases slice with
  | absent => rfl
  | of items =>
    show Slice.of ((items.map change).map change) = Slice.of (items.map change)
    rw [List.map_map]
    exact congrArg Slice.of (List.map_congr_left fun item _ => idempotent item)

theorem Predicate.reread_reread (predicate : Predicate) :
    predicate.reread.reread = predicate.reread := by
  simp only [Predicate.reread, ErrorCode.text_ofText]

theorem ChangeIntent.reread_reread (intent : ChangeIntent) :
    intent.reread.reread = intent.reread := by
  have predicates := Slice.map_idem Predicate.reread_reread intent.predicates
  have steps := @Slice.map_idem _ (fun kind : StepKind => .ofText kind.text)
    (fun kind => congrArg StepKind.ofText (StepKind.text_ofText kind.text)) intent.steps
  simp only [ChangeIntent.reread, predicates, steps]

/-! ### Sealing -/

theorem sortedCopy_eq_of_perm {first second : Slice String}
    (permuted : first.items.Perm second.items) : sortedCopy first = sortedCopy second := by
  unfold sortedCopy
  generalize first.items = firstItems at *
  generalize second.items = secondItems at *
  have sorted : firstItems.insertionSort (· ≤ ·) = secondItems.insertionSort (· ≤ ·) := by
    refine List.Perm.eq_of_pairwise (fun _ _ _ _ => le_antisymm)
      (List.pairwise_insertionSort _ _) (List.pairwise_insertionSort _ _) ?_
    exact (List.perm_insertionSort _ _).trans
      (permuted.trans (List.perm_insertionSort _ _).symm)
  match firstItems, secondItems with
  | [], [] => rfl
  | [], item :: items => exact absurd permuted.length_eq (by simp)
  | item :: items, [] => exact absurd permuted.length_eq (by simp)
  | item :: items, other :: others => exact congrArg Slice.of sorted

variable (codec : Codec)

/-- The digest never fails. -/
def Codec.Total (codec : Codec) : Prop := ∀ value, ∃ digest, codec.digest value = .ok digest

namespace ChangeIntent

/-- `Seal`. -/
def sealDigest (intent : ChangeIntent) : Except Failure ChangeIntent := do
  let digest ← computeDigest codec intent
  return { intent with intentDigest := digest }

variable {codec}

theorem computeDigest_eq_ok {digest : String} :
    computeDigest codec intent = .ok digest ↔
      Storable intent ∧ codec.digest intent.digestPayload.toJson = .ok digest := by
  have same : Storable intent.digestPayload ↔ Storable intent := Iff.rfl
  unfold computeDigest
  rw [bind_eq_ok]
  constructor
  · rintro ⟨payload, marshalled, digested⟩
    obtain ⟨storable, rfl⟩ := marshal_eq_ok.mp marshalled
    exact ⟨same.mp storable, digested⟩
  · rintro ⟨storable, digested⟩
    exact ⟨_, marshal_eq_ok.mpr ⟨same.mpr storable, rfl⟩, digested⟩

theorem sealed_iff :
    intent.Sealed codec ↔
      Storable intent ∧ codec.digest intent.digestPayload.toJson = .ok intent.intentDigest := by
  rw [← computeDigest_eq_ok]
  unfold Sealed validateDigest
  rw [bind_eq_ok]
  constructor
  · rintro ⟨digest, computed, agreed⟩
    rw [refuse_eq_ok, not_not] at agreed
    rw [← agreed]
    exact computed
  · intro computed
    exact ⟨_, computed, (refuse_eq_ok _ _ _).mpr (not_not.mpr rfl)⟩

/-- `Seal` changes the digest only, and leaves an intent that validates. -/
theorem sealDigest_eq_ok {result : ChangeIntent} (done : intent.sealDigest codec = .ok result) :
    result.Sealed codec ∧ result = { intent with intentDigest := result.intentDigest } := by
  obtain ⟨digest, computed, returned⟩ := bind_eq_ok.mp done
  rw [pure_eq_ok] at returned
  subst returned
  exact ⟨sealed_iff.mpr (computeDigest_eq_ok.mp computed), rfl⟩

theorem exists_sealDigest (total : codec.Total) (storable : Storable intent) :
    ∃ digest, intent.sealDigest codec = .ok { intent with intentDigest := digest } := by
  obtain ⟨digest, computed⟩ := total intent.digestPayload.toJson
  exact ⟨digest, bind_eq_ok.mpr ⟨digest, computeDigest_eq_ok.mpr ⟨storable, computed⟩, rfl⟩⟩

theorem sealDigest_of_unstorable (unstorable : ¬ Storable intent) :
    intent.sealDigest codec = .error .yearOutOfRange := by
  have unwritten : ¬ Storable intent.digestPayload := unstorable
  unfold sealDigest computeDigest marshal
  rw [if_neg unwritten]
  rfl

theorem Sealed.reread (isSealed : intent.Sealed codec) : intent.reread.Sealed codec := by
  rw [sealed_iff] at isSealed ⊢
  have payload : intent.reread.digestPayload.toJson = intent.digestPayload.toJson :=
    toJson_reread intent.digestPayload
  rw [payload]
  exact isSealed

/-- The order of the capability snapshot and of the evidence references does not matter. -/
theorem Sealed.permuted (isSealed : intent.Sealed codec) {capabilities evidence : Slice String}
    (capabilitiesPermuted : capabilities.items.Perm intent.capabilitySnapshot.items)
    (evidencePermuted : evidence.items.Perm intent.evidenceReferences.items) :
    Sealed codec
      { intent with capabilitySnapshot := capabilities, evidenceReferences := evidence } := by
  rw [sealed_iff] at isSealed ⊢
  have payload : digestPayload
      { intent with capabilitySnapshot := capabilities, evidenceReferences := evidence } =
      intent.digestPayload := by
    unfold digestPayload
    rw [sortedCopy_eq_of_perm capabilitiesPermuted, sortedCopy_eq_of_perm evidencePermuted]
  rw [payload]
  exact isSealed

end ChangeIntent

/-! ### Rewriting a stored record -/

/-- `json.Marshal` of an intent record. -/
def IntentRecord.encode (record : IntentRecord) : Except Failure Json := do
  let stored ← marshal record
  return stored.toJson

/-- What a decision writes into an intent record. -/
structure StatusUpdate where
  status : IntentStatus
  updatedAt : Time

/-- A transaction that decodes a stored record, changes its status and encodes it again. When
the decoder or the encoder fails, the row is left as it was. -/
def rewriteRow (row : Json) (update : StatusUpdate) : Json :=
  match IntentRecord.ofJson row with
  | none => row
  | some record =>
    match IntentRecord.encode
        { record with status := update.status, updatedAt := update.updatedAt } with
    | .ok rewritten => rewritten
    | .error _ => row

theorem IntentRecord.encode_eq_ok :
    record.encode = .ok row ↔ Storable record ∧ record.toJson = row := by
  unfold encode
  rw [bind_eq_ok]
  constructor
  · rintro ⟨stored, marshalled, returned⟩
    obtain ⟨storable, rfl⟩ := marshal_eq_ok.mp marshalled
    exact ⟨storable, (pure_eq_ok _ _).mp returned⟩
  · rintro ⟨storable, returned⟩
    exact ⟨_, marshal_eq_ok.mpr ⟨storable, rfl⟩, (pure_eq_ok _ _).mpr returned⟩

/-- The row holds a record of the given intent. -/
def HoldsIntent (intent : ChangeIntent) (row : Json) : Prop :=
  ∃ record, IntentRecord.ofJson row = some record ∧ record.intent = intent

theorem ChangeIntent.Int64s.reread (numbers : intent.Int64s) : intent.reread.Int64s := by
  obtain ⟨generation, execution, recovery, freshness⟩ := numbers
  refine ⟨generation, execution, recovery, ?_⟩
  show ∀ predicate ∈ (intent.predicates.map Predicate.reread).items, _
  cases shape : intent.predicates with
  | absent => exact fun _ member => absurd member List.not_mem_nil
  | of items =>
    rw [shape] at freshness
    intro predicate member
    obtain ⟨original, present, rfl⟩ := List.mem_map.mp member
    exact freshness original present

theorem holdsIntent_of_encode (encoded : record.encode = .ok row) (numbers : record.intent.Int64s) :
    HoldsIntent record.intent.reread row := by
  obtain ⟨storable, rfl⟩ := IntentRecord.encode_eq_ok.mp encoded
  exact ⟨record.reread, IntentRecord.ofJson_toJson storable numbers, rfl⟩

theorem HoldsIntent.rewriteRow (numbers : intent.Int64s) (update : StatusUpdate)
    (held : HoldsIntent intent.reread row) : HoldsIntent intent.reread (rewriteRow row update) := by
  obtain ⟨record, decoded, same⟩ := id held
  unfold GuardedAgentRunner.rewriteRow
  rw [decoded]
  simp only
  cases encoded : IntentRecord.encode
      { record with status := update.status, updatedAt := update.updatedAt } with
  | error failure => exact held
  | ok rewritten =>
    have again := holdsIntent_of_encode encoded (same ▸ numbers.reread)
    rw [same, ChangeIntent.reread_reread] at again
    exact again

/-- A sealed intent that is encoded, stored and decoded any number of times, with any status
updates in between, validates with the digest it was sealed with, and so does every copy with
its capability snapshot and evidence references in another order. -/
theorem sealed_digest_survives (codec : Codec) (intent frozen : ChangeIntent)
    (numbers : intent.Int64s) (done : intent.sealDigest codec = .ok frozen)
    (status : IntentStatus) (proposalDigest : String) (updatedAt : Time) (row : Json)
    (stored : IntentRecord.encode ⟨frozen, status, proposalDigest, updatedAt⟩ = .ok row)
    (updates : List StatusUpdate) :
    ∃ record, IntentRecord.ofJson (Runs.run rewriteRow row updates) = some record ∧
      record.intent.validateDigest codec = .ok () ∧
      record.intent.intentDigest = frozen.intentDigest ∧
      ∀ capabilities evidence : Slice String,
        capabilities.items.Perm record.intent.capabilitySnapshot.items →
        evidence.items.Perm record.intent.evidenceReferences.items →
        ChangeIntent.validateDigest codec
          { record.intent with
            capabilitySnapshot := capabilities, evidenceReferences := evidence } = .ok () := by
  obtain ⟨isSealed, changed⟩ := ChangeIntent.sealDigest_eq_ok done
  have range : frozen.Int64s := by
    rw [changed]
    exact numbers
  have held := Runs.invariant_run (HoldsIntent frozen.reread)
      (fun _ update => HoldsIntent.rewriteRow range update)
      (holdsIntent_of_encode stored range) updates
  obtain ⟨record, decoded, same⟩ := held
  refine ⟨record, decoded, ?_, ?_, ?_⟩
  · rw [same]
    exact isSealed.reread
  · rw [same]
    rfl
  · rw [same]
    exact fun _ _ capabilities evidence => isSealed.reread.permuted capabilities evidence

/-- The first proposal is decoded with its digest after it was approved and consumed. -/
theorem firstProposal_survives :
    ∃ record, IntentRecord.ofJson (Runs.run rewriteRow firstProposal.toJson
        [⟨.approved, fixtureNow⟩, ⟨.consumed, fixtureNow⟩]) = some record ∧
      record.intent.validateDigest fixtureCodec = .ok () ∧
      record.intent.intentDigest = firstProposal.intent.intentDigest := by
  have storable : Storable firstProposal := by decide
  have done : firstProposal.intent.sealDigest fixtureCodec = .ok firstProposal.intent := rfl
  obtain ⟨record, decoded, valid, digest, -⟩ := sealed_digest_survives fixtureCodec
    firstProposal.intent firstProposal.intent ⟨by decide, by decide, by decide, by decide⟩ done
    firstProposal.status firstProposal.proposalDigest firstProposal.updatedAt firstProposal.toJson
    (IntentRecord.encode_eq_ok.mpr ⟨storable, rfl⟩)
    [⟨.approved, fixtureNow⟩, ⟨.consumed, fixtureNow⟩]
  exact ⟨record, decoded, valid, digest⟩

end GuardedAgentRunner
