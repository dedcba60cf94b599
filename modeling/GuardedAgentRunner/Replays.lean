/-
This file settles when a retried proposal is answered with the intent its key
already identifies. The lookup of the key is the last thing `propose` does before
it freezes a change: a retry first passes the checks of the session, of the profile
and of the target, and the digest it is compared by covers the digest of the
session.
-/

import GuardedAgentRunner.Proposals
import GuardedAgentRunner.Selection

namespace GuardedAgentRunner

open Fallible

/-! ### The stored intent -/

theorem Store.getIntentByClientKey_of_kept {database : Database} (coherent : database.Coherent)
    {record : IntentRecord} (kept : Kept database record) :
    ∃ existing, Store.getIntentByClientKey record.intent.principalID record.intent.enrollmentID
        record.intent.clientRequestID database = .ok existing ∧
      existing.intent = record.intent ∧ existing.proposalDigest = record.proposalDigest := by
  obtain ⟨later, found, sameIntent, sameProposal⟩ := kept
  have laterIn := (coherent.intent_eq_some.mp found).1
  have laterKey : (IntentRow.of later).principalID = record.intent.principalID ∧
      (IntentRow.of later).enrollmentID = record.intent.enrollmentID ∧
      (IntentRow.of later).clientRequestID = record.intent.clientRequestID := by
    rw [← sameIntent]
    exact ⟨rfl, rfl, rfl⟩
  refine ⟨later, ?_, sameIntent, sameProposal⟩
  unfold Store.getIntentByClientKey
  cases looked : database.intents.find fun row => row.principalID = record.intent.principalID ∧
      row.enrollmentID = record.intent.enrollmentID ∧
      row.clientRequestID = record.intent.clientRequestID with
  | none =>
    have refused := of_decide_eq_false ((Table.find_eq_none _ _).mp looked _ laterIn)
    exact absurd laterKey refused
  | some row =>
    have matched := Table.find_test looked
    have key := of_decide_eq_true matched
    have same := database.intents.eq_of_clash (Table.find_mem looked) laterIn
      (IntentRow.clash_of_key key laterKey)
    rw [same]
    rfl

namespace Service

variable {codec : Codec} {service : Service} {surroundings : Surroundings}
  {scope session : AgentSessionScope} {input : ProposalInput} {g03Only : Bool}
  {profile : TransitionProfile} {finding : Finding} {record : IntentRecord} {next : Database}
  {log : List Transaction}

/-- What a proposal stores is a transaction of the journal, and stays through all later ones. -/
theorem kept_of_stored (history : surroundings.journal = GuardedAgentRunner.replay codec log)
    (stored : service.propose codec surroundings scope input g03Only = .ok ((record, true), next))
    (more : List Transaction) :
    (Runs.run (perform codec) next more).Coherent ∧
      Kept (Runs.run (perform codec) next more) record := by
  obtain ⟨-, put⟩ := propose_eq_stored stored
  rw [history] at put
  have commits : Commits codec (GuardedAgentRunner.replay codec log)
      ⟨⟨"", "", ""⟩, .putIntent record⟩ next := ⟨(record, true), put⟩
  have reached : GuardedAgentRunner.replay codec (log ++ [⟨⟨"", "", ""⟩, .putIntent record⟩]) =
      next := by
    rw [replay_append]
    exact perform_of_commits commits
  obtain ⟨-, storable, intents, inserted, rest⟩ := Store.putIntent_eq_stored put
  have inserts : PutIntent.Inserts record (GuardedAgentRunner.replay codec log) next :=
    ⟨storable, intents, inserted, rest⟩
  rw [← reached, ← replay_append]
  refine ⟨replay_coherent _, ?_⟩
  refine Kept.of_frozen ?_ (replay_frozen _ more)
  rw [reached]
  exact inserts.frozen.2

theorem exists_identified (history : surroundings.journal = GuardedAgentRunner.replay codec log)
    (stored : service.propose codec surroundings scope input g03Only = .ok ((record, true), next))
    (more : List Transaction) {retry : Surroundings}
    (looked : retry.looked = Runs.run (perform codec) next more)
    (principal : session.principalID = scope.principalID)
    (enrollment : session.enrollmentID = scope.enrollmentID) :
    ∃ existing, identified retry session input = .ok existing ∧
      existing.intent = record.intent ∧
      proposalDigest codec scope input = .ok existing.proposalDigest := by
  obtain ⟨coherent, kept⟩ := kept_of_stored history stored more
  obtain ⟨profile, finding, -, passes, froze⟩ :=
    prepare_eq_frozen.mp (propose_eq_stored stored).1
  obtain ⟨existing, found, sameIntent, sameProposal⟩ :=
    Store.getIntentByClientKey_of_kept coherent kept
  have key : record.intent.principalID = scope.principalID ∧
      record.intent.enrollmentID = scope.enrollmentID ∧
      record.intent.clientRequestID = input.clientRequestID := by
    rw [(ChangeIntent.sealDigest_eq_ok froze.intent).2]
    exact ⟨rfl, passes.again.enrollmentID.symm, rfl⟩
  refine ⟨existing, ?_, sameIntent, sameProposal ▸ froze.proposalDigest⟩
  unfold identified
  rw [looked, principal, enrollment, ← key.1, ← key.2.1, ← key.2.2]
  exact found

/-- Proposals of one principal with one input have one digest exactly when their sessions do. -/
theorem proposalDigest_eq_iff (canonical : codec.Canonical)
    (principal : session.principalID = scope.principalID)
    (enrollment : session.enrollmentID = scope.enrollmentID) :
    proposalDigest codec session input = proposalDigest codec scope input ↔
      session.scopeDigest = scope.scopeDigest := by
  obtain ⟨hash, injective, hashes⟩ := canonical
  unfold proposalDigest
  constructor
  · intro same
    rw [hashes, hashes] at same
    have names : ["principal_id", "enrollment_id", "scope_digest", "input"].Nodup := by decide
    exact Json.string_eq_of_mem (Json.transform_eq_iff.mp (injective (Except.ok.inj same))) names
      (.tail _ (.tail _ (.head _))) (.tail _ (.tail _ (.head _)))
  · intro same
    rw [principal, enrollment, same]

/-- The session is valid and has the plugin and the selected profile in its scope. -/
structure Admitted (codec : Codec) (service : Service) (surroundings : Surroundings)
    (scope : AgentSessionScope) (input : ProposalInput) (g03Only : Bool)
    (profile : TransitionProfile) : Prop where
  entered : service.enter codec (surroundings.clock 0) scope input = .ok ()
  again : Accepts codec service (surroundings.clock 1) scope
  selected : service.select input g03Only = .ok profile
  allowed : scope.allows proposeCapability input.pluginID profile.profileID = true

theorem propose_of_identified {existing : IntentRecord}
    (selected : service.select input g03Only = .ok profile)
    (passes : Passes codec service surroundings scope input profile finding)
    (found : identified surroundings scope input = .ok existing) {digest : String}
    (digested : proposalDigest codec scope input = .ok digest) :
    service.propose codec surroundings scope input g03Only =
      if existing.proposalDigest ≠ digest then
        .error (newError .idempotencyConflict
          "client_request_id already identifies different proposal bytes")
      else .ok ((existing, false), surroundings.journal) := by
  unfold propose
  rw [prepare_of_passes selected passes, identify, digested, found]
  show (replay existing digest >>= put surroundings) = _
  unfold replay refuse
  split <;> rfl

end Service

/-- The call returns the intent. -/
def ReturnsIntent (codec : Codec) (service : Service) (surroundings : Surroundings)
    (scope : AgentSessionScope) (input : ProposalInput) (g03Only : Bool) (intent : ChangeIntent) :
    Prop :=
  ∃ record created next, service.propose codec surroundings scope input g03Only =
    .ok ((record, created), next) ∧ record.intent = intent

/-- A retry of a stored proposal, by the same principal with an admitted session, returns the
frozen intent exactly when its session has the digest of the first one and the target still
reports what the selected profile starts from. -/
theorem retry_returns_intent_iff (codec : Codec) (canonical : codec.Canonical)
    (log : List Transaction) (service : Service) (first : Surroundings)
    (history : first.journal = replay codec log) (scope : AgentSessionScope)
    (input : ProposalInput) (g03Only : Bool) (frozen : IntentRecord) (next : Database)
    (stored : service.propose codec first scope input g03Only = .ok ((frozen, true), next))
    (more : List Transaction) (retrying : Service) (retry : Surroundings)
    (looked : retry.looked = Runs.run (perform codec) next more) (session : AgentSessionScope)
    (principal : session.principalID = scope.principalID)
    (enrollment : session.enrollmentID = scope.enrollmentID) (retryG03Only : Bool)
    (profile : TransitionProfile)
    (admitted : Service.Admitted codec retrying retry session input retryG03Only profile) :
    ReturnsIntent codec retrying retry session input retryG03Only frozen.intent ↔
      session.scopeDigest = scope.scopeDigest ∧
        ∃ finding, Service.Examined retrying (retry.clock 2) retry.observe input profile
          finding := by
  obtain ⟨existing, found, sameIntent, firstDigest⟩ :=
    Service.exists_identified history stored more looked principal enrollment
  obtain ⟨digest, digested⟩ : ∃ digest, Service.proposalDigest codec session input = .ok digest :=
    canonical.total _
  have digests : digest = existing.proposalDigest ↔ session.scopeDigest = scope.scopeDigest := by
    rw [← Service.proposalDigest_eq_iff canonical principal enrollment, digested, firstDigest,
      Except.ok.injEq]
  constructor
  · rintro ⟨record, created, later, returned, -⟩
    obtain ⟨proposal, prepared, -⟩ := bind_eq_ok.mp returned
    obtain ⟨chosen, finding, selected, passes⟩ := Service.passes_of_prepare prepared
    have same : chosen = profile := Except.ok.inj (selected.symm.trans admitted.selected)
    rw [same] at selected passes
    rw [Service.propose_of_identified selected passes found digested] at returned
    refine ⟨digests.mp ?_, finding, passes.examined⟩
    by_contra differs
    rw [if_pos fun equal => differs equal.symm] at returned
    cases returned
  · rintro ⟨sameDigest, finding, examined⟩
    have passes : Service.Passes codec retrying retry session input profile finding :=
      ⟨admitted.entered, admitted.again, admitted.allowed, examined⟩
    refine ⟨existing, false, retry.journal, ?_, sameIntent⟩
    rw [Service.propose_of_identified admitted.selected passes found digested,
      if_neg (not_not.mpr (digests.mpr sameDigest).symm)]

/-! ### Retries of the fixture -/

theorem fixtureConfig_selects : fixtureConfig.service.select fixtureInput false =
    .ok (fixtureProfile "example-a-b" "artifact-a") := by decide

/-- Every session of the principal with the profile in its scope is admitted, whatever the target
reports and the journal holds. -/
theorem fixtureSession_admitted (sessionID : String) (bundle : ObservationBundle)
    (journal : Database) :
    Service.Admitted textCodec fixtureConfig.service (fixtureSurroundings bundle journal)
      (fixtureSession sessionID ["example-a-b"]) fixtureInput false
      (fixtureProfile "example-a-b" "artifact-a") :=
  ⟨fixtureInput_enters _ _ _ _ rfl, fixtureSession_accepted _ _ _, fixtureConfig_selects,
    fixtureSession_allows sessionID List.mem_cons_self⟩

theorem sessionID_eq_of_digest {first second : String} {profileIDs : List String}
    (same : (fixtureSession first profileIDs).scopeDigest =
      (fixtureSession second profileIDs).scopeDigest) : first = second := by
  have formed : ∀ sessionID, (fixtureSession sessionID profileIDs).WellFormed := fun _ =>
    ⟨fixtureScope_wellFormed.issuedAt, fixtureScope_wellFormed.expiresAt,
      fixtureScope_wellFormed.deploymentGeneration, fixtureScope_wellFormed.revocationEpoch⟩
  have computed : ∀ sessionID, (fixtureSession sessionID profileIDs).computeDigest textCodec =
      .ok (fixtureSession sessionID profileIDs).scopeDigest := fun _ =>
    AgentSessionScope.computeDigest_withText _
  have digests : (fixtureSession first profileIDs).computeDigest textCodec =
      (fixtureSession second profileIDs).computeDigest textCodec := by
    rw [computed, computed, same]
  exact ((AgentSessionScope.computeDigest_eq_iff textCodec_canonical (formed first)
    (formed second)).mp digests).1.sessionID

/-- The session that froze the change finds it again while the target is as it was. -/
theorem sameSession_replays :
    ∃ record next, fixtureConfig.service.propose textCodec fixtureTarget
        (fixtureSession "session-a" ["example-a-b"]) fixtureInput false =
          .ok ((record, true), next) ∧
      ReturnsIntent textCodec fixtureConfig.service
        (fixtureSurroundings (fixtureBundle "artifact-a") next)
        (fixtureSession "session-a" ["example-a-b"]) fixtureInput false record.intent := by
  obtain ⟨record, next, stored, -⟩ :=
    @fixtureInput_stored _ "session-a" ["example-a-b"] List.mem_cons_self fixtureConfig_selects
  have passes := @fixtureInput_passes fixtureConfig.profiles "session-a" ["example-a-b"]
    List.mem_cons_self next
  exact ⟨record, next, stored, (retry_returns_intent_iff textCodec textCodec_canonical []
    fixtureConfig.service fixtureTarget rfl _ fixtureInput false record next stored []
    fixtureConfig.service _ rfl _ rfl rfl false _
    (fixtureSession_admitted "session-a" (fixtureBundle "artifact-a") next)).mpr
      ⟨rfl, _, passes.examined⟩⟩

/-- Two retries of a stored proposal that do not get its intent: one by another valid session of
the principal, and one by the same session once the change has been made. -/
theorem retries_refused :
    ∃ record next, fixtureConfig.service.propose textCodec fixtureTarget
        (fixtureSession "session-a" ["example-a-b"]) fixtureInput false =
          .ok ((record, true), next) ∧
      (Service.Admitted textCodec fixtureConfig.service
          (fixtureSurroundings (fixtureBundle "artifact-a") next)
          (fixtureSession "session-b" ["example-a-b"]) fixtureInput false
          (fixtureProfile "example-a-b" "artifact-a") ∧
        Service.outcome (fixtureConfig.service.propose textCodec
          (fixtureSurroundings (fixtureBundle "artifact-a") next)
          (fixtureSession "session-b" ["example-a-b"]) fixtureInput false) =
            .error .idempotencyConflict) ∧
      (Service.Admitted textCodec fixtureConfig.service
          (fixtureSurroundings (fixtureBundle "artifact-b") next)
          (fixtureSession "session-a" ["example-a-b"]) fixtureInput false
          (fixtureProfile "example-a-b" "artifact-a") ∧
        Service.outcome (fixtureConfig.service.propose textCodec
          (fixtureSurroundings (fixtureBundle "artifact-b") next)
          (fixtureSession "session-a" ["example-a-b"]) fixtureInput false) =
            .error .unsupportedTransition) := by
  obtain ⟨record, next, stored, -⟩ :=
    @fixtureInput_stored _ "session-a" ["example-a-b"] List.mem_cons_self fixtureConfig_selects
  refine ⟨record, next, stored, ⟨fixtureSession_admitted _ _ _, ?_⟩,
    fixtureSession_admitted _ _ _, ?_⟩
  · have history : fixtureTarget.journal = replay textCodec [] := rfl
    have looked : (fixtureSurroundings (fixtureBundle "artifact-a") next).looked =
        Runs.run (perform textCodec) next [] := rfl
    have principal : (fixtureSession "session-b" ["example-a-b"]).principalID =
        (fixtureSession "session-a" ["example-a-b"]).principalID := rfl
    have enrollment : (fixtureSession "session-b" ["example-a-b"]).enrollmentID =
        (fixtureSession "session-a" ["example-a-b"]).enrollmentID := rfl
    obtain ⟨existing, found, -, firstDigest⟩ :=
      Service.exists_identified history stored [] looked principal enrollment
    obtain ⟨digest, digested⟩ : ∃ digest, Service.proposalDigest textCodec
      (fixtureSession "session-b" ["example-a-b"]) fixtureInput = .ok digest :=
        textCodec_canonical.total _
    have differs : existing.proposalDigest ≠ digest := by
      rintro rfl
      have digests := (Service.proposalDigest_eq_iff textCodec_canonical principal enrollment).mp
        (digested.trans firstDigest.symm)
      exact absurd (sessionID_eq_of_digest digests) (by decide)
    rw [Service.propose_of_identified fixtureConfig_selects
      (fixtureInput_passes fixtureConfig.profiles List.mem_cons_self next) found digested,
      if_pos differs]
    rfl
  · have admitted := fixtureSession_admitted "session-a" (fixtureBundle "artifact-b") next
    have first : fixtureConfig.profiles.first (Registry.Matches .verifiedTransition
        fixtureInput.pluginID fixtureInput.targetArtifactID) =
          some (fixtureProfile "example-a-b" "artifact-a") := by decide
    have located := fixtureInput_located fixtureConfig.profiles artifactB (by decide) rfl next
    show fixtureConfig.outcome textCodec fixtureConfig.profiles _ _ _ = _
    exact Config.outcome_eq_unsupported textCodec_canonical.total admitted.entered admitted.again
      first rfl admitted.allowed located (by decide)

end GuardedAgentRunner
