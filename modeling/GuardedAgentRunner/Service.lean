/-
This file models the service behind the agent's tools: the checks of a session and
of a target observation, and `Propose`, which freezes a change. A proposal reads
the clock three times, asks the target once, looks the idempotency key up and hands
the sealed intent to the store; the store may have changed between the last two.
Whatever a proposal stores is authorised by the session, by the owner's registry
and by the observation.
-/

import GuardedAgentRunner.Registry
import GuardedAgentRunner.Scope

namespace GuardedAgentRunner

open Fallible

/-! ### Observations and proposals -/

inductive Availability where
  | available
  | unavailable
  | stale
  | conflicting
  | other (text : String)
  deriving DecidableEq, Repr

/-- The text of an availability. -/
def Availability.text : Availability → String
  | .available => "AVAILABLE"
  | .unavailable => "UNAVAILABLE"
  | .stale => "STALE"
  | .conflicting => "CONFLICTING"
  | .other text => text

structure ObservationValue where
  availability : Availability
  reason : String
  observedAt : Time
  bootID : String
  deriving DecidableEq, Repr

structure ObservationBundle where
  bundleID : String
  enrollmentID : String
  deploymentGeneration : Int
  containerID : String
  bootID : String
  inventoryDigest : String
  configDigest : String
  activeArtifacts : KeyMap String
  readings : KeyMap ObservationValue

/-- The artifact the bundle reports active for a plugin, empty when it reports none. -/
def ObservationBundle.activeArtifact (bundle : ObservationBundle) (pluginID : String) : String :=
  (bundle.activeArtifacts.find pluginID).getD ""

/-- `RequireAvailable`. -/
def requireAvailable (name : String) (value : ObservationValue) (now : Time) (maxAge : Duration)
    (bootID : String) : Except Failure Unit := do
  refuse (value.availability ≠ .available)
    (newError .preconditionUnavailable
      (name ++ " is " ++ value.availability.text ++ ": " ++ value.reason))
  refuse (maxAge < now.sub value.observedAt ∨ value.bootID ≠ "" ∧ value.bootID ≠ bootID)
    (newError .preconditionUnavailable (name ++ " is stale or belongs to another boot"))

structure ProposalInput where
  pluginID : String
  targetArtifactID : String
  clientRequestID : String
  rationale : String
  deriving DecidableEq, Repr

namespace ProposalInput

/-- `Validate`. -/
def validate (input : ProposalInput) : Except Failure Unit := do
  refuse (input.pluginID = "" ∨ input.targetArtifactID = "" ∨ input.clientRequestID = "")
    (newError .invalidRequest
      "plugin_id, target_artifact_id, and client_request_id are required")
  refuse (2000 < input.rationale.utf8ByteSize)
    (newError .invalidRequest "rationale exceeds 2000 bytes")

def toJson (input : ProposalInput) : Json :=
  .object [
    ("plugin_id", .string input.pluginID),
    ("target_artifact_id", .string input.targetArtifactID),
    ("client_request_id", .string input.clientRequestID),
    ("rationale", .string input.rationale)]

end ProposalInput

/-! ### The service -/

structure Service where
  registry : Registry
  currentRevocationEpoch : Int

/-- The service of a loaded configuration. -/
def Config.service (config : Config) : Service where
  registry := config.registry
  currentRevocationEpoch := config.currentRevocationEpoch

/-- What a proposal meets: the readings of the clock, the answer of the target, the journal when
the key is looked up, the journal when the intent is put, and the identifiers that are drawn. -/
structure Surroundings where
  clock : Nat → Time
  observe : Except Failure ObservationBundle
  looked : Database
  journal : Database
  intentID : String
  backupID : String

/-- The capability to propose a change. -/
def proposeCapability : String := "propose_plugin_change"

variable {profileID : String}

namespace Service

variable (codec : Codec) (service : Service)

/-- `authorize`. -/
def authorize (now : Time) (scope : AgentSessionScope)
    (capability pluginID artifactProfileID : String) : Except Failure Unit := do
  scope.validate codec now
  refuse (scope.enrollmentID ≠ service.registry.enrollment.enrollmentID ∨
      scope.deploymentGeneration ≠ service.registry.enrollment.deploymentGeneration)
    (newError .scopeDenied "session target identity does not match enrollment")
  refuse (scope.revocationEpoch ≠ service.currentRevocationEpoch)
    (newError .scopeDenied "session was revoked or predates current revocation epoch")
  refuse (capability ∉ scope.capabilities.items)
    (newError .scopeDenied "capability is outside fixed session scope")
  refuse (pluginID ≠ "" ∧ ¬ scope.allows capability pluginID artifactProfileID)
    (newError .scopeDenied "plugin or transition profile is outside fixed session scope")

/-- `validateObservation`. -/
def validateObservation (bundle : ObservationBundle) (now : Time) (pluginID : String) :
    Except Failure Unit := do
  refuse (bundle.enrollmentID ≠ service.registry.enrollment.enrollmentID ∨
      bundle.deploymentGeneration ≠ service.registry.enrollment.deploymentGeneration ∨
      bundle.containerID ≠ service.registry.enrollment.containerID)
    (newError .intentStale "authoritative target identity differs from enrollment")
  refuse (bundle.activeArtifact pluginID = "" ∨ bundle.inventoryDigest = "" ∨
      bundle.configDigest = "")
    (newError .preconditionUnavailable "artifact inventory or configuration evidence is missing")
  let players ← demand (bundle.readings.find "players")
    (newError .preconditionUnavailable "players observation is missing")
  requireAvailable "players" players now (5 * Duration.second) bundle.bootID

/-- The part of `propose` before a profile is selected. -/
def enter (now : Time) (scope : AgentSessionScope) (input : ProposalInput) :
    Except Failure Unit := do
  input.validate
  service.authorize codec now scope proposeCapability "" ""
  refuse (input.pluginID ∉ scope.pluginIDs.items)
    (newError .scopeDenied "plugin is outside fixed session scope")

/-- The profile `propose` selects. -/
def select (input : ProposalInput) (g03Only : Bool) : Except Failure TransitionProfile :=
  if g03Only then service.registry.profileForG03Acceptance input.pluginID input.targetArtifactID
  else service.registry.profileFor input.pluginID input.targetArtifactID

/-- What a proposal takes from the target and the catalog. -/
structure Finding where
  observation : ObservationBundle
  fromArtifact : ArtifactRecord
  toArtifact : ArtifactRecord

/-- The part of `propose` that asks the target and looks the two artifacts up. -/
def locate (now : Time) (observe : Except Failure ObservationBundle) (input : ProposalInput) :
    Except Failure Finding := do
  let observation ← observe.mapError fun failure =>
    newError .preconditionUnavailable failure.text
  service.validateObservation observation now input.pluginID
  let fromArtifactID := observation.activeArtifact input.pluginID
  let fromArtifact ← demand (service.registry.artifacts.find fromArtifactID)
    (newError .preconditionUnavailable "active artifact is not in owner catalog")
  let toArtifact ← demand
    ((service.registry.artifacts.find input.targetArtifactID).filter (·.ownerTrustConfirmed))
    (newError .unsupportedTransition
      "target artifact is absent from owner catalog or lacks trust confirmation")
  return ⟨observation, fromArtifact, toArtifact⟩

/-- The part of `propose` that compares the profile with the target and the catalog. -/
def examine (now : Time) (observe : Except Failure ObservationBundle) (input : ProposalInput)
    (profile : TransitionProfile) : Except Failure Finding := do
  let finding ← service.locate now observe input
  refuse (profile.fromArtifactID ≠ finding.observation.activeArtifact input.pluginID ∨
      profile.paperTuple ≠ service.registry.enrollment.paperTuple)
    (newError .unsupportedTransition
      "transition profile does not match current A artifact and Paper tuple")
  return finding

/-- The digest of a proposal. -/
def proposalDigest (scope : AgentSessionScope) (input : ProposalInput) : Except Failure String :=
  codec.digest (.object [
    ("principal_id", .string scope.principalID),
    ("enrollment_id", .string scope.enrollmentID),
    ("scope_digest", .string scope.scopeDigest),
    ("input", input.toJson)])

/-- The intent a proposal seals. -/
def newIntent (now : Time) (intentID backupID : String) (scope : AgentSessionScope)
    (input : ProposalInput) (profile : TransitionProfile) (finding : Finding) : ChangeIntent where
  schemaVersion := "gar.change-intent.v1"
  intentID := intentID
  clientRequestID := input.clientRequestID
  principalID := scope.principalID
  sessionID := scope.sessionID
  createdAt := now
  enrollmentID := service.registry.enrollment.enrollmentID
  deploymentGeneration := service.registry.enrollment.deploymentGeneration
  containerID := service.registry.enrollment.containerID
  paperTuple := service.registry.enrollment.paperTuple
  expectedBootID := finding.observation.bootID
  workflowKind := "UPDATE_PLUGIN_ARTIFACT"
  workflowVersion := "gar.paper-plugin-change.v1"
  pluginID := input.pluginID
  fromArtifactID := finding.fromArtifact.artifactID
  fromSHA256 := finding.fromArtifact.sha256
  toArtifactID := finding.toArtifact.artifactID
  toSHA256 := finding.toArtifact.sha256
  profileDigest := profile.profileDigest
  scopeDigest := scope.scopeDigest
  policyRevision := service.registry.enrollment.policyRevision
  policyDigest := service.registry.enrollment.policyDigest
  capabilitySnapshot := match scope.capabilities.items with
    | [] => .absent
    | capabilities => .of capabilities
  observationBundleID := finding.observation.bundleID
  inventoryDigest := finding.observation.inventoryDigest
  configDigest := finding.observation.configDigest
  evidenceReferences := .of ["observation:" ++ finding.observation.bundleID]
  predicates := .of [
    ⟨"target_identity", "PREPARE", service.registry.enrollment.containerID, 30, .intentStale⟩,
    ⟨"active_artifact", "OFFLINE_BEFORE_REPLACE", finding.fromArtifact.sha256, 0, .intentStale⟩,
    ⟨"players_zero", "MAINTENANCE_BARRIER", "0", 5, .intentStale⟩]
  steps := .of fixedWorkflowSteps
  reservedBackupID := backupID
  backupRecipeDigest := offlineBackupRecipeDigest codec
  verificationProfileID := profile.verificationProfileID
  verificationDigest := profile.verificationDigest
  recoveryContractID := profile.recoveryContractID
  recoveryDigest := profile.recoveryDigest
  approvalDeadline := now.add (15 * Duration.minute)
  startBefore := now.add (20 * Duration.minute)
  executionBudgetSeconds := 900
  recoveryBudgetSeconds := 900
  rationale := input.rationale
  intentDigest := ""

/-- How a proposal ends its checks: with the intent its key already identifies, or with the
record that is handed to the store. -/
inductive Proposal where
  | replayed (existing : IntentRecord)
  | frozen (record : IntentRecord)

/-- The part of `propose` that compares the proposal with the intent its key identifies. -/
def replay (existing : IntentRecord) (digest : String) : Except Failure Proposal := do
  refuse (existing.proposalDigest ≠ digest)
    (newError .idempotencyConflict "client_request_id already identifies different proposal bytes")
  return .replayed existing

section Proposing

variable (surroundings : Surroundings) (scope : AgentSessionScope) (input : ProposalInput)
  (profile : TransitionProfile)

/-- The part of `propose` that seals a new intent. -/
def freeze (finding : Finding) (digest : String) : Except Failure Proposal := do
  let now := surroundings.clock 2
  let intent ← (service.newIntent codec now surroundings.intentID surroundings.backupID scope input
    profile finding).sealDigest codec
  return .frozen ⟨intent, .awaitingApproval, digest, now⟩

/-- The intent the key of a proposal identifies. -/
def identified : Except Failure IntentRecord :=
  Store.getIntentByClientKey scope.principalID scope.enrollmentID input.clientRequestID
    surroundings.looked

/-- The part of `propose` after its checks, up to the call of `PutIntent`. -/
def identify (finding : Finding) : Except Failure Proposal := do
  let digest ← proposalDigest codec scope input
  match identified surroundings scope input with
  | .ok existing => replay existing digest
  | .error failure => do
    refuse (failure.codeOf ≠ .notFound) failure
    service.freeze codec surroundings scope input profile finding digest

/-- The part of `propose` after a profile is selected, up to the call of `PutIntent`. -/
def consider : Except Failure Proposal := do
  service.authorize codec (surroundings.clock 1) scope proposeCapability input.pluginID
    profile.profileID
  let finding ← service.examine (surroundings.clock 2) surroundings.observe input profile
  service.identify codec surroundings scope input profile finding

/-- `propose` up to its call of `PutIntent`. -/
def prepare (g03Only : Bool) : Except Failure Proposal := do
  service.enter codec (surroundings.clock 0) scope input
  let profile ← service.select input g03Only
  service.consider codec surroundings scope input profile

/-- The end of `propose`: the record that is returned, whether it was stored by this call, and
the journal after it. -/
def put : Proposal → Except Failure ((IntentRecord × Bool) × Database)
  | .replayed existing => .ok ((existing, false), surroundings.journal)
  | .frozen record => Store.putIntent record surroundings.journal

/-- `propose`. -/
def propose (g03Only : Bool) : Except Failure ((IntentRecord × Bool) × Database) := do
  let proposal ← service.prepare codec surroundings scope input g03Only
  put surroundings proposal

end Proposing

/-! ### What each check establishes -/

variable {codec service}

/-- The session is valid for the service at an instant. -/
structure Accepts (codec : Codec) (service : Service) (now : Time) (scope : AgentSessionScope) :
    Prop where
  digest : scope.computeDigest codec = .ok scope.scopeDigest
  unexpired : now.Before scope.expiresAt
  enrollmentID : scope.enrollmentID = service.registry.enrollment.enrollmentID
  deploymentGeneration :
    scope.deploymentGeneration = service.registry.enrollment.deploymentGeneration
  revocationEpoch : scope.revocationEpoch = service.currentRevocationEpoch
  capability : proposeCapability ∈ scope.capabilities.items

variable {scope : AgentSessionScope} {now : Time} {pluginID : String} {input : ProposalInput}
  {finding : Finding} {profile : TransitionProfile} {surroundings : Surroundings} {g03Only : Bool}
  {record : IntentRecord} {observe : Except Failure ObservationBundle}
  {bundle : ObservationBundle}

theorem validate_eq_ok :
    scope.validate codec now = .ok () ↔
      scope.computeDigest codec = .ok scope.scopeDigest ∧ now.Before scope.expiresAt := by
  simp only [AgentSessionScope.validate, bind_eq_ok, refuse_eq_ok, not_not]
  constructor
  · rintro ⟨digest, computed, _, same, unexpired⟩
    rw [← same]
    exact ⟨computed, unexpired⟩
  · rintro ⟨computed, unexpired⟩
    exact ⟨_, computed, (), rfl, unexpired⟩

theorem authorize_eq_ok {artifactProfileID : String} :
    service.authorize codec now scope proposeCapability pluginID artifactProfileID = .ok () ↔
      Accepts codec service now scope ∧
        (pluginID ≠ "" → scope.allows proposeCapability pluginID artifactProfileID = true) := by
  simp only [authorize, bind_eq_ok, refuse_eq_ok, not_not, not_or, not_and]
  constructor
  · rintro ⟨_, valid, _, ⟨enrollment, generation⟩, _, epoch, _, capability, allowed⟩
    obtain ⟨digest, unexpired⟩ := validate_eq_ok.mp valid
    exact ⟨⟨digest, unexpired, enrollment, generation, epoch, capability⟩, allowed⟩
  · rintro ⟨accepts, allowed⟩
    exact ⟨(), validate_eq_ok.mpr ⟨accepts.digest, accepts.unexpired⟩, (),
      ⟨accepts.enrollmentID, accepts.deploymentGeneration⟩, (), accepts.revocationEpoch, (),
      accepts.capability, allowed⟩

theorem enter_eq_ok :
    service.enter codec now scope input = .ok () ↔
      input.validate = .ok () ∧ Accepts codec service now scope ∧
        input.pluginID ∈ scope.pluginIDs.items := by
  simp only [enter, bind_eq_ok, refuse_eq_ok, not_not]
  constructor
  · rintro ⟨_, valid, _, authorized, plugin⟩
    exact ⟨valid, (authorize_eq_ok.mp authorized).1, plugin⟩
  · rintro ⟨valid, accepts, plugin⟩
    exact ⟨(), valid, (), authorize_eq_ok.mpr ⟨accepts, fun named => absurd rfl named⟩, plugin⟩

theorem pluginID_ne_of_validate (valid : input.validate = .ok ()) : input.pluginID ≠ "" := by
  simp only [ProposalInput.validate, bind_eq_ok, refuse_eq_ok, not_or] at valid
  obtain ⟨_, ⟨named, -⟩, -⟩ := valid
  exact named

/-- The players reading of a bundle is available and at most five seconds old. -/
structure PlayersKnown (bundle : ObservationBundle) (now : Time) (players : ObservationValue) :
    Prop where
  reading : bundle.readings.find "players" = some players
  available : players.availability = .available
  fresh : now - players.observedAt ≤ 5 * Duration.second
  boot : players.bootID = "" ∨ players.bootID = bundle.bootID

/-- The bundle is an observation of the enrolled target that names the active artifact. -/
structure Observes (service : Service) (bundle : ObservationBundle) (now : Time)
    (pluginID : String) : Prop where
  enrollmentID : bundle.enrollmentID = service.registry.enrollment.enrollmentID
  deploymentGeneration :
    bundle.deploymentGeneration = service.registry.enrollment.deploymentGeneration
  containerID : bundle.containerID = service.registry.enrollment.containerID
  evidence : bundle.activeArtifact pluginID ≠ "" ∧ bundle.inventoryDigest ≠ "" ∧
    bundle.configDigest ≠ ""
  players : ∃ players, PlayersKnown bundle now players

theorem requireAvailable_eq_ok {players : ObservationValue}
    (reading : bundle.readings.find "players" = some players) :
    requireAvailable "players" players now (5 * Duration.second) bundle.bootID = .ok () ↔
      PlayersKnown bundle now players := by
  have fresh := Time.sub_le_iff now players.observedAt (5 * Duration.second) (by decide) (by decide)
  simp only [requireAvailable, bind_eq_ok, refuse_eq_ok, not_not, not_or, not_lt, not_and, fresh]
  constructor
  · rintro ⟨_, available, age, boot⟩
    exact ⟨reading, available, age, or_iff_not_imp_left.mpr boot⟩
  · rintro ⟨-, available, age, boot⟩
    exact ⟨(), available, age, or_iff_not_imp_left.mp boot⟩

theorem validateObservation_eq_ok :
    service.validateObservation bundle now pluginID = .ok () ↔
      Observes service bundle now pluginID := by
  simp only [validateObservation, bind_eq_ok, refuse_eq_ok, not_not, not_or, demand_eq_ok]
  constructor
  · rintro ⟨_, ⟨enrollment, generation, container⟩, _, evidence, players, reading, known⟩
    exact ⟨enrollment, generation, container, evidence,
      players, (requireAvailable_eq_ok reading).mp known⟩
  · rintro ⟨enrollment, generation, container, evidence, players, known⟩
    exact ⟨(), ⟨enrollment, generation, container⟩, (), evidence, players, known.reading,
      (requireAvailable_eq_ok known.reading).mpr known⟩

/-- What the target and the catalog say about a proposal. -/
structure Located (service : Service) (now : Time) (observe : Except Failure ObservationBundle)
    (input : ProposalInput) (finding : Finding) : Prop where
  observed : observe = .ok finding.observation
  observes : Observes service finding.observation now input.pluginID
  fromArtifact : service.registry.artifacts.find
    (finding.observation.activeArtifact input.pluginID) = some finding.fromArtifact
  toArtifact : service.registry.artifacts.find input.targetArtifactID = some finding.toArtifact
  trusted : finding.toArtifact.ownerTrustConfirmed = true

theorem locate_eq_ok :
    service.locate now observe input = .ok finding ↔
      Located service now observe input finding := by
  simp only [locate, bind_eq_ok, demand_eq_ok, pure_eq_ok, Option.filter_eq_some_iff]
  constructor
  · rintro ⟨observation, observed, _, observes, fromArtifact, fromFound, toArtifact,
      ⟨toFound, trusted⟩, rfl⟩
    refine ⟨?_, validateObservation_eq_ok.mp observes, fromFound, toFound, trusted⟩
    cases observe with
    | ok bundle => exact observed
    | error failure => cases observed
  · rintro ⟨rfl, observes, fromFound, toFound, trusted⟩
    exact ⟨_, rfl, (), validateObservation_eq_ok.mpr observes, _, fromFound, _,
      ⟨toFound, trusted⟩, rfl⟩

/-- The profile leads from the artifact that was found active. -/
structure Examined (service : Service) (now : Time) (observe : Except Failure ObservationBundle)
    (input : ProposalInput) (profile : TransitionProfile) (finding : Finding) : Prop
    extends Located service now observe input finding where
  leads : profile.fromArtifactID = finding.observation.activeArtifact input.pluginID
  paperTuple : profile.paperTuple = service.registry.enrollment.paperTuple

theorem examine_eq_ok :
    service.examine now observe input profile = .ok finding ↔
      Examined service now observe input profile finding := by
  simp only [examine, bind_eq_ok, refuse_eq_ok, not_or, not_not, pure_eq_ok]
  constructor
  · rintro ⟨_, located, _, ⟨leads, tuple⟩, rfl⟩
    exact ⟨locate_eq_ok.mp located, leads, tuple⟩
  · rintro ⟨located, leads, tuple⟩
    exact ⟨finding, locate_eq_ok.mpr located, (), ⟨leads, tuple⟩, rfl⟩

/-! ### Whatever is stored is authorised -/

/-- Everything that must hold for an agent to freeze a change: its session, the owner's registry
and the observation of the target allow the transition the record names. -/
structure Authorised (codec : Codec) (config : Config) (surroundings : Surroundings)
    (scope : AgentSessionScope) (input : ProposalInput) (record : IntentRecord) : Prop where
  session : Accepts codec config.service (surroundings.clock 0) scope ∧
    Accepts codec config.service (surroundings.clock 1) scope
  plugin : input.pluginID ∈ scope.pluginIDs.items
  profile : ∃ profile : TransitionProfile,
    config.profiles.find profile.profileID = some profile ∧
      profile.profileID ∈ scope.artifactProfileIDs.items ∧
      profile.eligibility = .verifiedTransition ∧ profile.pluginID = input.pluginID ∧
      profile.fromArtifactID = record.intent.fromArtifactID ∧
      profile.toArtifactID = record.intent.toArtifactID ∧
      profile.paperTuple = config.enrollment.paperTuple
  observation : ∃ bundle, surroundings.observe = .ok bundle ∧
    Observes config.service bundle (surroundings.clock 2) input.pluginID ∧
    record.intent.fromArtifactID = bundle.activeArtifact input.pluginID
  fromArtifact : ∃ artifact, config.artifacts.find record.intent.fromArtifactID = some artifact ∧
    artifact.artifactID = record.intent.fromArtifactID ∧ artifact.pluginID = input.pluginID ∧
    record.intent.fromSHA256 = artifact.sha256
  toArtifact : ∃ artifact, config.artifacts.find record.intent.toArtifactID = some artifact ∧
    artifact.artifactID = record.intent.toArtifactID ∧ artifact.pluginID = input.pluginID ∧
    record.intent.toSHA256 = artifact.sha256 ∧ artifact.ownerTrustConfirmed = true ∧
    record.intent.toArtifactID = input.targetArtifactID
  digest : ChangeIntent.computeDigest codec record.intent = .ok record.intent.intentDigest

/-- The checks a proposal passes before its key is looked up. -/
structure Passes (codec : Codec) (service : Service) (surroundings : Surroundings)
    (scope : AgentSessionScope) (input : ProposalInput) (profile : TransitionProfile)
    (finding : Finding) : Prop where
  entered : service.enter codec (surroundings.clock 0) scope input = .ok ()
  again : Accepts codec service (surroundings.clock 1) scope
  allowed : scope.allows proposeCapability input.pluginID profile.profileID = true
  examined : Examined service (surroundings.clock 2) surroundings.observe input profile finding

theorem prepare_of_passes (selected : service.select input g03Only = .ok profile)
    (passes : Passes codec service surroundings scope input profile finding) :
    service.prepare codec surroundings scope input g03Only =
      service.identify codec surroundings scope input profile finding := by
  have authorized := authorize_eq_ok.mpr ⟨passes.again, fun _ => passes.allowed⟩
  have examined := examine_eq_ok.mpr passes.examined
  unfold prepare consider
  rw [passes.entered, selected]
  show (do service.authorize codec _ _ _ _ _; _) = _
  rw [authorized]
  show (do let finding ← service.examine _ _ _ _; _) = _
  rw [examined]
  rfl

theorem passes_of_prepare {proposal : Proposal}
    (prepared : service.prepare codec surroundings scope input g03Only = .ok proposal) :
    ∃ profile finding, service.select input g03Only = .ok profile ∧
      Passes codec service surroundings scope input profile finding := by
  obtain ⟨_, entered, prepared⟩ := bind_eq_ok.mp prepared
  obtain ⟨profile, selected, prepared⟩ := bind_eq_ok.mp prepared
  obtain ⟨_, authorized, prepared⟩ := bind_eq_ok.mp prepared
  obtain ⟨finding, examined, prepared⟩ := bind_eq_ok.mp prepared
  obtain ⟨accepts, allowed⟩ := authorize_eq_ok.mp authorized
  have named := pluginID_ne_of_validate (enter_eq_ok.mp entered).1
  exact ⟨profile, finding, selected, entered, accepts, allowed named, examine_eq_ok.mp examined⟩

/-- The record a proposal hands to the store is a new one for a key without an intent. -/
structure Froze (codec : Codec) (service : Service) (surroundings : Surroundings)
    (scope : AgentSessionScope) (input : ProposalInput) (profile : TransitionProfile)
    (finding : Finding) (record : IntentRecord) : Prop where
  fresh : identified surroundings scope input = .error (newError .notFound "intent not found")
  proposalDigest : Service.proposalDigest codec scope input = .ok record.proposalDigest
  intent : (service.newIntent codec (surroundings.clock 2) surroundings.intentID
    surroundings.backupID scope input profile finding).sealDigest codec = .ok record.intent
  status : record.status = .awaitingApproval
  updatedAt : record.updatedAt = surroundings.clock 2

theorem identified_cases (surroundings : Surroundings) (scope : AgentSessionScope)
    (input : ProposalInput) :
    (∃ existing, identified surroundings scope input = .ok existing) ∨
      identified surroundings scope input = .error (newError .notFound "intent not found") := by
  unfold identified Store.getIntentByClientKey demand
  split
  · exact Or.inl ⟨_, rfl⟩
  · exact Or.inr rfl

theorem prepare_eq_frozen :
    service.prepare codec surroundings scope input g03Only = .ok (.frozen record) ↔
      ∃ profile finding, service.select input g03Only = .ok profile ∧
        Passes codec service surroundings scope input profile finding ∧
        Froze codec service surroundings scope input profile finding record := by
  constructor
  · intro prepared
    obtain ⟨profile, finding, selected, passes⟩ := passes_of_prepare prepared
    rw [prepare_of_passes selected passes] at prepared
    obtain ⟨digest, digested, prepared⟩ := bind_eq_ok.mp prepared
    refine ⟨profile, finding, selected, passes, ?_⟩
    rcases identified_cases surroundings scope input with ⟨existing, found⟩ | absent
    · rw [found] at prepared
      simp only [replay, bind_eq_ok, pure_eq_ok, reduceCtorEq, and_false, exists_false] at prepared
    · rw [absent] at prepared
      obtain ⟨_, -, prepared⟩ := bind_eq_ok.mp prepared
      obtain ⟨intent, sealing, returned⟩ := bind_eq_ok.mp prepared
      have same := Proposal.frozen.inj ((pure_eq_ok _ _).mp returned)
      subst same
      exact ⟨absent, digested, sealing, rfl, rfl⟩
  · rintro ⟨profile, finding, selected, passes, froze⟩
    rw [prepare_of_passes selected passes, identify, bind_eq_ok]
    refine ⟨_, froze.proposalDigest, ?_⟩
    rw [froze.fresh]
    refine bind_eq_ok.mpr ⟨(), (refuse_eq_ok _ _ _).mpr (not_not.mpr rfl), ?_⟩
    refine bind_eq_ok.mpr ⟨_, froze.intent, (pure_eq_ok _ _).mpr ?_⟩
    rw [← froze.status, ← froze.updatedAt]

/-- Under a digest that never fails, a proposal that passes its checks at an encodable instant
with a key without an intent ends with a record for the store. -/
theorem exists_frozen (total : codec.Total) (selected : service.select input g03Only = .ok profile)
    (passes : Passes codec service surroundings scope input profile finding)
    (fresh : identified surroundings scope input = .error (newError .notFound "intent not found"))
    (storable : Storable (service.newIntent codec (surroundings.clock 2) surroundings.intentID
      surroundings.backupID scope input profile finding)) :
    ∃ record, service.prepare codec surroundings scope input g03Only = .ok (.frozen record) ∧
      Froze codec service surroundings scope input profile finding record := by
  obtain ⟨digest, digested⟩ := total (.object [
    ("principal_id", .string scope.principalID), ("enrollment_id", .string scope.enrollmentID),
    ("scope_digest", .string scope.scopeDigest), ("input", input.toJson)])
  obtain ⟨intentDigest, sealing⟩ := ChangeIntent.exists_sealDigest total storable
  have froze : Froze codec service surroundings scope input profile finding
      ⟨{ service.newIntent codec (surroundings.clock 2) surroundings.intentID
          surroundings.backupID scope input profile finding with intentDigest := intentDigest },
        .awaitingApproval, digest, surroundings.clock 2⟩ :=
    ⟨fresh, digested, sealing, rfl, rfl⟩
  exact ⟨_, prepare_eq_frozen.mpr ⟨profile, finding, selected, passes, froze⟩, froze⟩

theorem exists_stored (total : codec.Total) (selected : service.select input g03Only = .ok profile)
    (passes : Passes codec service surroundings scope input profile finding)
    (fresh : identified surroundings scope input = .error (newError .notFound "intent not found"))
    (storable : Storable (service.newIntent codec (surroundings.clock 2) surroundings.intentID
      surroundings.backupID scope input profile finding)) (empty : surroundings.journal = .empty) :
    ∃ record next, service.propose codec surroundings scope input g03Only =
        .ok ((record, true), next) ∧
      Froze codec service surroundings scope input profile finding record := by
  obtain ⟨record, prepared, froze⟩ := exists_frozen total selected passes fresh storable
  have intentStorable : Storable record.intent := by
    rw [(ChangeIntent.sealDigest_eq_ok froze.intent).2]
    exact storable
  have recordStorable : Storable record := by
    intro time member
    rcases List.mem_append.mp member with inIntent | last
    · exact intentStorable time inIntent
    · rw [List.mem_singleton.mp last, froze.updatedAt]
      exact storable _ List.mem_cons_self
  have put : ∃ next, Store.putIntent record .empty = .ok ((record, true), next) := by
    rw [Store.putIntent_eq]
    exact ⟨_, bind_eq_ok.mpr ⟨record, marshal_eq_ok.mpr ⟨recordStorable, rfl⟩,
      bind_eq_ok.mpr ⟨_, rfl, rfl⟩⟩⟩
  obtain ⟨next, stored⟩ := put
  refine ⟨record, next, bind_eq_ok.mpr ⟨_, prepared, ?_⟩, froze⟩
  rw [Service.put, empty]
  exact stored

theorem mem_of_allows (allowed : scope.allows proposeCapability pluginID profileID = true) :
    profileID ∈ scope.artifactProfileIDs.items := by
  simp only [AgentSessionScope.allows, Bool.and_eq_true, List.contains_iff_mem] at allowed
  exact allowed.2

theorem Froze.authorised {config : Config} (accepted : config.validate = .ok ())
    (selected : config.service.select input false = .ok profile)
    (passes : Passes codec config.service surroundings scope input profile finding)
    (froze : Froze codec config.service surroundings scope input profile finding record) :
    Authorised codec config surroundings scope input record := by
  obtain ⟨⟨key, member⟩, matched⟩ :=
    KeyMap.accepted_of_first ((demand_eq_ok _ _ _).mp selected)
  obtain ⟨plugin, target, eligibility⟩ := Registry.matches_iff.mp matched
  have sound := Config.soundProfile_of_validate accepted member
  obtain ⟨-, accepts, inScope⟩ := enter_eq_ok.mp passes.entered
  have examined := passes.examined
  obtain ⟨isSealed, intent⟩ := ChangeIntent.sealDigest_eq_ok froze.intent
  have fromNamed := Config.artifactID_of_validate accepted examined.fromArtifact
  have toNamed := Config.artifactID_of_validate accepted examined.toArtifact
  have fromID : record.intent.fromArtifactID = finding.fromArtifact.artifactID := by
    rw [intent]
    rfl
  have toID : record.intent.toArtifactID = finding.toArtifact.artifactID := by
    rw [intent]
    rfl
  have fromFound := examined.fromArtifact
  have toFound := examined.toArtifact
  rw [← fromNamed, ← fromID] at fromFound
  rw [← toNamed, ← toID] at toFound
  have leads : profile.fromArtifactID = record.intent.fromArtifactID := by
    rw [fromID, fromNamed]
    exact examined.leads
  have arrives : profile.toArtifactID = record.intent.toArtifactID := by
    rw [toID, toNamed]
    exact target
  refine ⟨⟨accepts, passes.again⟩, inScope, ?_, ?_, ?_, ?_, ?_⟩
  · exact ⟨profile, sound.filed, mem_of_allows passes.allowed, eligibility, plugin, leads, arrives,
      sound.paperTuple⟩
  · exact ⟨finding.observation, examined.observed, examined.observes, fromID.trans fromNamed⟩
  · refine ⟨finding.fromArtifact, fromFound, fromID.symm, ?_, by rw [intent]; rfl⟩
    rw [← plugin]
    exact (leads ▸ sound.fromArtifact).pluginID fromFound
  · refine ⟨finding.toArtifact, toFound, toID.symm, ?_, by rw [intent]; rfl, examined.trusted,
      toID.trans toNamed⟩
    rw [← plugin]
    exact (arrives ▸ sound.toArtifact).pluginID toFound
  · exact ChangeIntent.computeDigest_eq_ok.mpr (ChangeIntent.sealed_iff.mp isSealed)

theorem propose_eq_stored {next : Database}
    (stored : service.propose codec surroundings scope input g03Only = .ok ((record, true), next)) :
    service.prepare codec surroundings scope input g03Only = .ok (.frozen record) ∧
      Store.putIntent record surroundings.journal = .ok ((record, true), next) := by
  obtain ⟨proposal, prepared, finished⟩ := bind_eq_ok.mp stored
  cases proposal with
  | replayed existing =>
    have same := Prod.mk.inj (Except.ok.inj finished)
    exact absurd (Prod.mk.inj same.1).2 Bool.false_ne_true
  | frozen submitted =>
    obtain ⟨rfl, -⟩ := Store.putIntent_eq_stored finished
    exact ⟨prepared, finished⟩

end Service

/-- An agent can only freeze an authorised transition: under an accepted configuration, every
record a proposal hands to the store, and so every record it stores, is authorised. -/
theorem frozen_intent_authorised (codec : Codec) (config : Config)
    (accepted : config.validate = .ok ()) (surroundings : Surroundings)
    (scope : AgentSessionScope) (input : ProposalInput) (record : IntentRecord)
    (handed : config.service.prepare codec surroundings scope input false = .ok (.frozen record) ∨
      ∃ next, config.service.propose codec surroundings scope input false =
        .ok ((record, true), next)) :
    Service.Authorised codec config surroundings scope input record := by
  have prepared : config.service.prepare codec surroundings scope input false =
      .ok (.frozen record) := by
    rcases handed with prepared | ⟨next, stored⟩
    · exact prepared
    · exact (Service.propose_eq_stored stored).1
  obtain ⟨profile, finding, selected, passes, froze⟩ := Service.prepare_eq_frozen.mp prepared
  exact froze.authorised accepted selected passes

/-! ### The fixture of the tests -/

def fixtureArtifact (artifactID sha256 : String) : ArtifactRecord :=
  { artifactID := artifactID, sha256 := sha256, pluginID := "example", ownerTrustConfirmed := true }

abbrev artifactA : ArtifactRecord := fixtureArtifact "artifact-a"
  "aaaaaaaaaaaaaaaaaaaaaaaaaaaaaaaaaaaaaaaaaaaaaaaaaaaaaaaaaaaaaaaa"

abbrev artifactB : ArtifactRecord := fixtureArtifact "artifact-b"
  "bbbbbbbbbbbbbbbbbbbbbbbbbbbbbbbbbbbbbbbbbbbbbbbbbbbbbbbbbbbbbbbb"

abbrev artifactC : ArtifactRecord := fixtureArtifact "artifact-c"
  "cccccccccccccccccccccccccccccccccccccccccccccccccccccccccccccccc"

/-- A verified profile to the second artifact. -/
def fixtureProfile (profileID fromArtifactID : String) : TransitionProfile where
  profileID := profileID
  profileDigest := "profile-digest-a-b"
  pluginID := "example"
  fromArtifactID := fromArtifactID
  toArtifactID := "artifact-b"
  paperTuple := fixtureEnrollment.paperTuple
  verificationProfileID := "verify-a-b"
  verificationDigest := "verify-digest-a-b"
  recoveryContractID := "recover-b-a"
  recoveryDigest := "recover-digest-b-a"
  eligibility := .verifiedTransition

/-- The configuration of the fixture with the profiles of its owner. -/
def fixtureConfigOf (profiles : KeyMap TransitionProfile) : Config where
  schemaVersion := Config.supportedSchema
  enrollment := fixtureEnrollment
  artifacts := ⟨[("artifact-a", artifactA), ("artifact-b", artifactB), ("artifact-c", artifactC)],
    by decide⟩
  profiles := profiles
  supportProfileID := "m1-fake"
  currentRevocationEpoch := 1
  paperRuntime := none
  hostObservation := none

def fixtureConfig : Config :=
  fixtureConfigOf ⟨[("example-a-b", fixtureProfile "example-a-b" "artifact-a")],
    List.nodup_singleton _⟩

/-- The observation in which an artifact is active. -/
def fixtureBundle (artifactID : String) : ObservationBundle where
  bundleID := "observation-a"
  enrollmentID := fixtureEnrollment.enrollmentID
  deploymentGeneration := fixtureEnrollment.deploymentGeneration
  containerID := fixtureEnrollment.containerID
  bootID := "boot-a"
  inventoryDigest := "inventory-a"
  configDigest := "config-a"
  activeArtifacts := ⟨[("example", artifactID)], List.nodup_singleton _⟩
  readings := ⟨[("players", ⟨.available, "", fixtureNow, "boot-a"⟩)], by decide⟩

def fixtureSurroundings (bundle : ObservationBundle) (journal : Database) : Surroundings where
  clock _ := fixtureNow
  observe := .ok bundle
  looked := journal
  journal := journal
  intentID := "intent_a"
  backupID := "backup_a"

/-- The target before the change, with an empty journal. -/
abbrev fixtureTarget : Surroundings := fixtureSurroundings (fixtureBundle "artifact-a") .empty

/-- A session with the digest of its own payload. -/
def AgentSessionScope.withText (scope : AgentSessionScope) : AgentSessionScope :=
  { scope with scopeDigest := (Json.object scope.digestPayload).transform }

theorem AgentSessionScope.computeDigest_withText (scope : AgentSessionScope) :
    scope.withText.computeDigest textCodec = .ok scope.withText.scopeDigest := by
  have same : ∀ digest : String,
      { scope with scopeDigest := digest }.digestPayload = scope.digestPayload := fun _ => rfl
  unfold computeDigest withText
  rw [same]
  rfl

/-- A session of the fixture's principal for some of the owner's profiles. -/
def fixtureSession (sessionID : String) (profileIDs : List String) : AgentSessionScope :=
  { fixtureScope with
    sessionID := sessionID
    artifactProfileIDs := .of profileIDs }.withText

def fixtureInput : ProposalInput where
  pluginID := "example"
  targetArtifactID := "artifact-b"
  clientRequestID := "request-a"
  rationale := "FAKE_TARGET only"

/-- What the fixture's proposal takes from the target and the catalog when an artifact is
active. -/
def fixtureFinding (artifact : ArtifactRecord) : Service.Finding where
  observation := fixtureBundle artifact.artifactID
  fromArtifact := artifact
  toArtifact := artifactB

section Fixture

variable (profiles : KeyMap TransitionProfile) (sessionID : String) (profileIDs : List String)

theorem fixtureSession_accepted :
    Service.Accepts textCodec (fixtureConfigOf profiles).service fixtureNow
      (fixtureSession sessionID profileIDs) := by
  have unexpired : fixtureNow.Before (fixtureNow.add (60 * Duration.minute)) := by decide
  have capability : proposeCapability ∈ ["propose_plugin_change", "get_operation"] := by decide
  exact ⟨AgentSessionScope.computeDigest_withText _, unexpired, rfl, rfl, rfl, capability⟩

theorem fixtureInput_enters (surroundings : Surroundings)
    (now : surroundings.clock 0 = fixtureNow) :
    (fixtureConfigOf profiles).service.enter textCodec (surroundings.clock 0)
      (fixtureSession sessionID profileIDs) fixtureInput = .ok () := by
  have plugin : fixtureInput.pluginID ∈ ["example"] := by decide
  rw [now]
  exact Service.enter_eq_ok.mpr
    ⟨by decide, fixtureSession_accepted profiles sessionID profileIDs, plugin⟩

theorem fixtureInput_located (artifact : ArtifactRecord) (named : artifact.artifactID ≠ "")
    (found : (fixtureConfigOf profiles).artifacts.find artifact.artifactID = some artifact)
    (journal : Database) :
    Service.Located (fixtureConfigOf profiles).service fixtureNow
      (fixtureSurroundings (fixtureBundle artifact.artifactID) journal).observe fixtureInput
      (fixtureFinding artifact) := by
  have players : Service.PlayersKnown (fixtureBundle artifact.artifactID) fixtureNow
      ⟨.available, "", fixtureNow, "boot-a"⟩ := ⟨rfl, rfl, by decide, Or.inr rfl⟩
  have active : (fixtureBundle artifact.artifactID).activeArtifact fixtureInput.pluginID =
      artifact.artifactID := rfl
  have digests : "inventory-a" ≠ "" ∧ "config-a" ≠ "" := by decide
  have observes : Service.Observes (fixtureConfigOf profiles).service
      (fixtureBundle artifact.artifactID) fixtureNow fixtureInput.pluginID :=
    ⟨rfl, rfl, rfl, ⟨active ▸ named, digests⟩, _, players⟩
  exact ⟨rfl, observes, found, rfl, rfl⟩

variable {profileIDs}

theorem fixtureSession_allows (listed : profileID ∈ profileIDs) :
    (fixtureSession sessionID profileIDs).allows proposeCapability fixtureInput.pluginID
      profileID = true := by
  have capability : ["propose_plugin_change", "get_operation"].contains proposeCapability =
    true := by decide
  have plugin : ["example"].contains fixtureInput.pluginID = true := by decide
  simp only [AgentSessionScope.allows, Bool.and_eq_true]
  exact ⟨⟨capability, plugin⟩, List.contains_iff_mem.mpr listed⟩

variable {sessionID}

/-- A session with the profile in its scope passes the checks, whatever the journal holds. -/
theorem fixtureInput_passes (inScope : "example-a-b" ∈ profileIDs) (journal : Database) :
    Service.Passes textCodec (fixtureConfigOf profiles).service
      (fixtureSurroundings (fixtureBundle "artifact-a") journal)
      (fixtureSession sessionID profileIDs) fixtureInput
      (fixtureProfile "example-a-b" "artifact-a") (fixtureFinding artifactA) :=
  ⟨fixtureInput_enters profiles sessionID profileIDs _ rfl,
    fixtureSession_accepted profiles sessionID profileIDs,
    fixtureSession_allows sessionID inScope,
    fixtureInput_located profiles artifactA (by decide) rfl journal, rfl, rfl⟩

theorem fixtureInput_stored (inScope : "example-a-b" ∈ profileIDs)
    (selected : (fixtureConfigOf profiles).service.select fixtureInput false =
      .ok (fixtureProfile "example-a-b" "artifact-a")) :
    ∃ record next, (fixtureConfigOf profiles).service.propose textCodec fixtureTarget
        (fixtureSession sessionID profileIDs) fixtureInput false = .ok ((record, true), next) ∧
      Service.Froze textCodec (fixtureConfigOf profiles).service fixtureTarget
        (fixtureSession sessionID profileIDs) fixtureInput
        (fixtureProfile "example-a-b" "artifact-a") (fixtureFinding artifactA) record := by
  have storable : ∀ time ∈ [fixtureNow, fixtureNow.add (15 * Duration.minute),
      fixtureNow.add (20 * Duration.minute)], time.Encodable := by decide
  exact Service.exists_stored textCodec_canonical.total selected
    (fixtureInput_passes profiles inScope .empty) rfl storable rfl

end Fixture

theorem fixtureConfig_valid : fixtureConfig.validate = .ok () := by decide +kernel

/-- The proposal of the fixture is stored, and authorised. -/
theorem fixtureProposal_authorised :
    ∃ record next, fixtureConfig.service.propose textCodec fixtureTarget
        (fixtureSession "session-a" ["example-a-b"]) fixtureInput false =
          .ok ((record, true), next) ∧
      Service.Authorised textCodec fixtureConfig fixtureTarget
        (fixtureSession "session-a" ["example-a-b"]) fixtureInput record := by
  have selected : fixtureConfig.service.select fixtureInput false =
      .ok (fixtureProfile "example-a-b" "artifact-a") := by decide
  obtain ⟨record, next, stored, -⟩ :=
    @fixtureInput_stored _ "session-a" ["example-a-b"] List.mem_cons_self selected
  exact ⟨record, next, stored, frozen_intent_authorised textCodec fixtureConfig fixtureConfig_valid
    _ _ _ record (Or.inr ⟨next, stored⟩)⟩

end GuardedAgentRunner
