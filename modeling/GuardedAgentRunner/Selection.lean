/-
This file settles when the outcome of a proposal depends on the walk of the
profiles. `ProfileFor` stops at the first profile of the walk that belongs to the
plugin and leads to the requested artifact. Whether that profile is in the scope of
the session, and whether it leads from the artifact that is active, is compared
afterwards, and another match is not tried.
-/

import GuardedAgentRunner.Service

namespace GuardedAgentRunner

open Fallible Service Fails

variable {bundle : ObservationBundle} {artifact : ArtifactRecord}

namespace Service

variable {codec : Codec} {service : Service} {surroundings : Surroundings}
  {scope : AgentSessionScope} {input : ProposalInput} {profile other : TransitionProfile}
  {finding : Finding}

/-! ### Outcomes -/

/-- What a proposal is compared by: the code of its error, or the artifacts of its record. -/
def outcome :
    Except Failure ((IntentRecord × Bool) × Database) → Except ErrorCode (String × String)
  | .ok ((record, _), _) => .ok (record.intent.fromArtifactID, record.intent.toArtifactID)
  | .error failure => .error failure.codeOf

/-- The records agree on everything but what a profile adds to its intent. -/
structure Alike (record other : IntentRecord) : Prop where
  intentID : record.intent.intentID = other.intent.intentID
  principalID : record.intent.principalID = other.intent.principalID
  enrollmentID : record.intent.enrollmentID = other.intent.enrollmentID
  clientRequestID : record.intent.clientRequestID = other.intent.clientRequestID
  fromArtifactID : record.intent.fromArtifactID = other.intent.fromArtifactID
  toArtifactID : record.intent.toArtifactID = other.intent.toArtifactID
  proposalDigest : record.proposalDigest = other.proposalDigest
  instants : Stored.instants record = Stored.instants other

theorem Alike.clash_iff {record other : IntentRecord} (alike : Alike record other)
    (row : IntentRow) :
    Constrained.Clash row (IntentRow.of record) ↔ Constrained.Clash row (IntentRow.of other) := by
  simp only [Constrained.Clash, Constrained.unique, IntentRow.of, List.mem_cons, List.not_mem_nil,
    or_false, exists_eq_or_imp, exists_eq_left, alike.intentID, alike.principalID,
    alike.enrollmentID, alike.clientRequestID]

theorem Alike.outcome_putIntent {record other : IntentRecord} (alike : Alike record other)
    (database : Database) :
    outcome (Store.putIntent record database) = outcome (Store.putIntent other database) := by
  have replayed : ∀ existing, Store.replayProposal existing record database =
      Store.replayProposal existing other database := by
    intro existing
    unfold Store.replayProposal
    rw [alike.proposalDigest]
  have storable : Storable record ↔ Storable other := by
    unfold Storable
    rw [alike.instants]
  have inserted : (database.intents.insert (IntentRow.of record)).isSome =
      (database.intents.insert (IntentRow.of other)).isSome := by
    unfold Table.insert
    simp only [alike.clash_iff]
    split <;> rfl
  rw [Store.putIntent_eq, Store.putIntent_eq, alike.principalID, alike.enrollmentID,
    alike.clientRequestID]
  split
  · exact congrArg outcome (replayed _)
  · by_cases text : Storable record
    · rw [marshal, marshal, if_pos text, if_pos (storable.mp text)]
      show outcome (demand (database.intents.insert (IntentRow.of record)) _ >>= _) =
        outcome (demand (database.intents.insert (IntentRow.of other)) _ >>= _)
      cases first : database.intents.insert (IntentRow.of record) with
      | none =>
        rw [first, Option.isSome_none, eq_comm, Option.isSome_eq_false_iff,
          Option.isNone_iff_eq_none] at inserted
        rw [inserted]
        rfl
      | some intents =>
        rw [first, Option.isSome_some, eq_comm, Option.isSome_iff_exists] at inserted
        obtain ⟨otherIntents, second⟩ := inserted
        rw [second]
        show Except.ok (record.intent.fromArtifactID, record.intent.toArtifactID) =
          Except.ok (other.intent.fromArtifactID, other.intent.toArtifactID)
        rw [alike.fromArtifactID, alike.toArtifactID]
    · rw [marshal, marshal, if_neg text, if_neg (fun stored => text (storable.mpr stored))]
      rfl

/-! ### After the walk -/

section

variable (codec service surroundings scope input profile)

/-- The part of `propose` after its checks. -/
def settle (finding : Finding) : Except Failure ((IntentRecord × Bool) × Database) := do
  let proposal ← service.identify codec surroundings scope input profile finding
  put surroundings proposal

/-- The part of `propose` after a profile is selected. -/
def conclude : Except Failure ((IntentRecord × Bool) × Database) := do
  service.authorize codec (surroundings.clock 1) scope proposeCapability input.pluginID
    profile.profileID
  let finding ← service.examine (surroundings.clock 2) surroundings.observe input profile
  service.settle codec surroundings scope input profile finding

end

theorem propose_eq (g03Only : Bool) :
    service.propose codec surroundings scope input g03Only = (do
      service.enter codec (surroundings.clock 0) scope input
      let profile ← service.select input g03Only
      service.conclude codec surroundings scope input profile) := by
  simp only [propose, prepare, consider, conclude, settle, bind_assoc]

/-- The session allows the profile for the plugin of the proposal. -/
def InScope (scope : AgentSessionScope) (input : ProposalInput) (profile : TransitionProfile) :
    Prop :=
  scope.allows proposeCapability input.pluginID profile.profileID = true
deriving Decidable

/-- The profile leads from the artifact that was found active. -/
def Leads (input : ProposalInput) (finding : Finding) (profile : TransitionProfile) : Prop :=
  profile.fromArtifactID = finding.observation.activeArtifact input.pluginID
deriving Decidable

/-! ### The codes of the failures -/

/-- The failure has one of the codes. -/
def Coded (codes : List ErrorCode) (failure : Failure) : Prop := failure.codeOf ∈ codes

section Coded

variable {code : ErrorCode} {codes : List ErrorCode} {text : String}

theorem refuse_coded {bad : Prop} [Decidable bad] (member : code ∈ codes) :
    Fails (Coded codes) (refuse bad (newError code text)) := fails_refuse fun _ => member

theorem demand_coded {Value : Type} {value : Option Value} (member : code ∈ codes) :
    Fails (Coded codes) (demand value (newError code text)) := fails_demand fun _ => member

end Coded

theorem validateObservation_coded (bundle : ObservationBundle) (now : Time) (pluginID : String) :
    Fails (Coded [.intentStale, .preconditionUnavailable])
      (service.validateObservation bundle now pluginID) :=
  bind (refuse_coded (by decide)) fun _ => bind (refuse_coded (by decide)) fun _ =>
    bind (demand_coded (by decide)) fun _ => bind (refuse_coded (by decide)) fun _ =>
      refuse_coded (by decide)

/-- The failures before a profile is compared, those of an artifact without trust apart. -/
theorem locate_fails (now : Time) (observe : Except Failure ObservationBundle) :
    Fails (fun failure => Coded [.intentStale, .preconditionUnavailable] failure ∨
        failure.codeOf = .unsupportedTransition ∧
          (service.registry.artifacts.find input.targetArtifactID).filter
            (·.ownerTrustConfirmed) = none)
      (service.locate now observe input) := by
  have observed : Fails (Coded [.intentStale, .preconditionUnavailable])
      (observe.mapError fun failure => newError .preconditionUnavailable failure.text) := by
    cases observe with
    | ok bundle => exact fails_ok bundle
    | error failure =>
      rintro _ ⟨⟩
      exact List.mem_cons_of_mem _ List.mem_cons_self
  refine bind (observed.relax fun _ => Or.inl) fun bundle =>
    bind ((validateObservation_coded bundle now _).relax fun _ => Or.inl) fun _ =>
      bind (fails_demand fun _ => ?_) fun _ => bind (fails_demand fun absent => ?_)
        fun _ => fails_ok _
  · exact Or.inl (List.mem_cons_of_mem _ List.mem_cons_self)
  · exact Or.inr ⟨rfl, absent⟩

theorem marshal_coded {Record : Type} [Stored Record] (record : Record) :
    Fails (Coded [.idempotencyConflict, .journalUnavailable]) (marshal record) := by
  unfold marshal
  split
  · exact fails_ok record
  · rintro _ ⟨⟩
    exact List.mem_cons_of_mem _ List.mem_cons_self

theorem putIntent_coded (record : IntentRecord) (database : Database) :
    Fails (Coded [.idempotencyConflict, .journalUnavailable])
      (Store.putIntent record database) := by
  rw [Store.putIntent_eq]
  split
  · exact bind (refuse_coded (by decide)) fun _ => fails_ok _
  · exact bind (marshal_coded record) fun _ =>
      bind (fails_demand fun _ => List.mem_cons_of_mem _ List.mem_cons_self) fun _ =>
        fails_ok _

theorem outcome_ne_error {run : Except Failure ((IntentRecord × Bool) × Database)}
    {codes : List ErrorCode} (fails : Fails (Coded codes) run) {code : ErrorCode}
    (other : code ∉ codes) : outcome run ≠ .error code := by
  cases run with
  | ok result => exact nofun
  | error failure =>
    intro same
    have coded : failure.codeOf = code := Except.error.inj same
    exact other (coded ▸ fails failure rfl)

variable (codec service surroundings scope input profile) in
/-- The answer that follows the walk, for a session that is accepted again. -/
def answer : Except ErrorCode (String × String) :=
  if InScope scope input profile then
    match service.locate (surroundings.clock 2) surroundings.observe input with
    | .error failure => .error failure.codeOf
    | .ok finding =>
      if Leads input finding profile then
        outcome (service.settle codec surroundings scope input profile finding)
      else .error .unsupportedTransition
  else .error .scopeDenied

section

variable (total : codec.Total)

include total

theorem digest_fails {allowed : Failure → Prop} (value : Json) :
    Fails allowed (codec.digest value) := by
  obtain ⟨digest, computed⟩ := total value
  rw [computed]
  exact fails_ok digest

theorem validate_coded (now : Time) :
    Fails (Coded [.scopeDenied]) (scope.validate codec now) :=
  bind (digest_fails total _) fun _ => bind (refuse_coded (by decide)) fun _ =>
    refuse_coded (by decide)

theorem authorize_coded (now : Time)
    (capability pluginID profileID : String) :
    Fails (Coded [.scopeDenied])
      (service.authorize codec now scope capability pluginID profileID) :=
  bind (validate_coded total now) fun _ => bind (refuse_coded (by decide)) fun _ =>
    bind (refuse_coded (by decide)) fun _ => bind (refuse_coded (by decide)) fun _ =>
      refuse_coded (by decide)

theorem enter_coded (now : Time) :
    Fails (Coded [.invalidRequest, .scopeDenied]) (service.enter codec now scope input) := by
  have valid : Fails (Coded [.invalidRequest, .scopeDenied]) input.validate :=
    bind (refuse_coded (by decide)) fun _ => refuse_coded (by decide)
  have authorized : Fails (Coded [.invalidRequest, .scopeDenied])
      (service.authorize codec now scope proposeCapability "" "") :=
    (authorize_coded total now _ _ _).relax fun _ member => List.mem_cons_of_mem _ member
  exact bind valid fun _ => bind authorized fun _ => refuse_coded (by decide)

theorem settle_coded :
    Fails (Coded [.idempotencyConflict, .journalUnavailable])
      (service.settle codec surroundings scope input profile finding) := by
  refine bind (bind (digest_fails total _) fun digest => ?_) fun proposal => ?_
  · rcases identified_cases surroundings scope input with ⟨existing, found⟩ | absent
    · rw [found]
      exact bind (refuse_coded (by decide)) fun _ => fails_ok _
    · rw [absent]
      refine bind (fails_refuse fun missing => absurd rfl missing) fun _ =>
        bind (bind ?_ fun _ => fails_ok _) fun _ => fails_ok _
      exact bind (marshal_coded _) fun _ => digest_fails total _
  · cases proposal with
    | replayed existing => exact fails_ok _
    | frozen record => exact putIntent_coded record _

/-! ### What the outcome depends on -/

/-- Whether an intent can be sealed does not depend on its profile. -/
theorem freeze_cases (surroundings : Surroundings)
    (scope : AgentSessionScope) (input : ProposalInput) (finding : Finding) (digest : String) :
    (∀ profile : TransitionProfile, ∃ intentDigest,
      service.freeze codec surroundings scope input profile finding digest =
        .ok (.frozen ⟨{ service.newIntent codec (surroundings.clock 2) surroundings.intentID
            surroundings.backupID scope input profile finding with intentDigest := intentDigest },
          .awaitingApproval, digest, surroundings.clock 2⟩)) ∨
    ∀ profile : TransitionProfile,
      service.freeze codec surroundings scope input profile finding digest =
        .error .yearOutOfRange := by
  by_cases storable : ∀ time ∈ [surroundings.clock 2,
      (surroundings.clock 2).add (15 * Duration.minute),
      (surroundings.clock 2).add (20 * Duration.minute)], time.Encodable
  · refine Or.inl fun profile => ?_
    have written : Storable (service.newIntent codec (surroundings.clock 2) surroundings.intentID
      surroundings.backupID scope input profile finding) := storable
    obtain ⟨intentDigest, sealing⟩ := ChangeIntent.exists_sealDigest total written
    exact ⟨intentDigest, bind_eq_ok.mpr ⟨_, sealing, rfl⟩⟩
  · refine Or.inr fun profile => ?_
    have unwritten : ¬ Storable (service.newIntent codec (surroundings.clock 2)
      surroundings.intentID surroundings.backupID scope input profile finding) := storable
    show (ChangeIntent.sealDigest codec _ >>= _) = _
    rw [ChangeIntent.sealDigest_of_unstorable unwritten]
    rfl

/-- After the checks, the profile decides nothing that the outcome shows. -/
theorem outcome_settle (profile other : TransitionProfile) :
    outcome (service.settle codec surroundings scope input profile finding) =
      outcome (service.settle codec surroundings scope input other finding) := by
  obtain ⟨digest, digested⟩ : ∃ digest, proposalDigest codec scope input = .ok digest := total _
  unfold settle identify
  rw [digested]
  rcases identified_cases surroundings scope input with ⟨existing, found⟩ | absent
  · rw [found]
  · rw [absent]
    show outcome (service.freeze codec surroundings scope input profile finding digest >>= _) =
      outcome (service.freeze codec surroundings scope input other finding digest >>= _)
    rcases freeze_cases total surroundings scope input finding digest with frozen | failed
    · obtain ⟨_, first⟩ := frozen profile
      obtain ⟨_, second⟩ := frozen other
      rw [first, second]
      show outcome (Store.putIntent _ _) = outcome (Store.putIntent _ _)
      refine Alike.outcome_putIntent ?_ _
      exact ⟨rfl, rfl, rfl, rfl, rfl, rfl, rfl, rfl⟩
    · rw [failed profile, failed other]

theorem outcome_of_refused
    (refused : service.authorize codec (surroundings.clock 1) scope proposeCapability
      input.pluginID profile.profileID ≠ .ok ()) :
    outcome (service.conclude codec surroundings scope input profile) = .error .scopeDenied := by
  unfold conclude
  cases authorized : service.authorize codec (surroundings.clock 1) scope proposeCapability
      input.pluginID profile.profileID with
  | error failure =>
    have coded := List.mem_singleton.mp (authorize_coded total _ _ _ _ failure authorized)
    exact congrArg Except.error coded
  | ok _ => exact absurd authorized refused

theorem outcome_conclude (named : input.pluginID ≠ "")
    (accepts : Accepts codec service (surroundings.clock 1) scope)
    (tuple : profile.paperTuple = service.registry.enrollment.paperTuple) :
    outcome (service.conclude codec surroundings scope input profile) =
      service.answer codec surroundings scope input profile := by
  unfold answer
  by_cases inScope : InScope scope input profile
  · rw [if_pos inScope]
    have authorized := authorize_eq_ok.mpr ⟨accepts, fun _ => inScope⟩
    unfold conclude examine
    rw [authorized]
    show outcome ((service.locate _ _ _ >>= _) >>= _) = _
    cases located : service.locate (surroundings.clock 2) surroundings.observe input with
    | error failure => rfl
    | ok finding =>
      show outcome ((refuse _ _ >>= _) >>= _) = if Leads input finding profile then _ else _
      by_cases leads : Leads input finding profile
      · have passed : ¬ (profile.fromArtifactID ≠
              finding.observation.activeArtifact input.pluginID ∨
            profile.paperTuple ≠ service.registry.enrollment.paperTuple) := by
          rintro (differs | differs)
          · exact differs leads
          · exact differs tuple
        rw [refuse, if_neg passed, if_pos leads]
        rfl
      · have refused : profile.fromArtifactID ≠ finding.observation.activeArtifact input.pluginID ∨
            profile.paperTuple ≠ service.registry.enrollment.paperTuple := Or.inl leads
        rw [refuse, if_pos refused, if_neg leads]
        rfl
  · rw [if_neg inScope]
    refine outcome_of_refused total fun authorized => ?_
    exact inScope ((authorize_eq_ok.mp authorized).2 named)

theorem answer_eq_scopeDenied_iff :
    service.answer codec surroundings scope input profile = .error .scopeDenied ↔
      ¬ InScope scope input profile := by
  refine ⟨fun denied inScope => ?_, fun outside => if_neg outside⟩
  unfold answer at denied
  rw [if_pos inScope] at denied
  cases located : service.locate (surroundings.clock 2) surroundings.observe input with
  | error failure =>
    rw [located] at denied
    have code : failure.codeOf = .scopeDenied := Except.error.inj denied
    rcases locate_fails _ _ failure located with coded | ⟨unsupported, -⟩
    · unfold Coded at coded
      rw [code] at coded
      exact absurd coded (by decide)
    · exact absurd (code.symm.trans unsupported) (by decide)
  | ok finding =>
    rw [located] at denied
    by_cases leads : Leads input finding profile
    · exact outcome_ne_error (settle_coded total) (by decide) ((if_pos leads).symm.trans denied)
    · exact absurd ((if_neg leads).symm.trans denied) (by decide)

/-- The answer tells whether a profile in scope leads from the active artifact. -/
theorem answer_eq_unsupported_iff (inScope : InScope scope input profile)
    (located : Located service (surroundings.clock 2) surroundings.observe input finding) :
    service.answer codec surroundings scope input profile = .error .unsupportedTransition ↔
      ¬ Leads input finding profile := by
  unfold answer
  rw [if_pos inScope, locate_eq_ok.mpr located]
  refine ⟨fun unsupported leads => ?_, fun mismatch => if_neg mismatch⟩
  exact outcome_ne_error (settle_coded total) (by decide) ((if_pos leads).symm.trans unsupported)

theorem answer_ne_unsupported (inScope : InScope scope input profile)
    (observed : surroundings.observe = .ok bundle)
    (found : service.registry.artifacts.find input.targetArtifactID = some artifact)
    (trusted : artifact.ownerTrustConfirmed = true)
    (leads : profile.fromArtifactID = bundle.activeArtifact input.pluginID) :
    service.answer codec surroundings scope input profile ≠ .error .unsupportedTransition := by
  cases located : service.locate (surroundings.clock 2) surroundings.observe input with
  | error failure =>
    unfold answer
    rw [if_pos inScope, located]
    intro unsupported
    have code : failure.codeOf = .unsupportedTransition := Except.error.inj unsupported
    rcases locate_fails _ _ failure located with coded | ⟨-, absent⟩
    · unfold Coded at coded
      rw [code] at coded
      exact absurd coded (by decide)
    · rw [found, Option.filter_some, if_pos trusted] at absent
      cases absent
  | ok finding =>
    have examined := locate_eq_ok.mp located
    have same : bundle = finding.observation :=
      Except.ok.inj (observed.symm.trans examined.observed)
    rw [Ne, answer_eq_unsupported_iff total inScope examined, not_not]
    rw [same] at leads
    exact leads

/-- Under a session that is accepted again, two profiles lead to one answer exactly when the
checks after the walk do not tell them apart. -/
theorem answer_eq_iff :
    service.answer codec surroundings scope input profile =
        service.answer codec surroundings scope input other ↔
      (InScope scope input profile ↔ InScope scope input other) ∧
        (InScope scope input profile → ∀ finding,
          Located service (surroundings.clock 2) surroundings.observe input finding →
            (Leads input finding profile ↔ Leads input finding other)) := by
  constructor
  · intro same
    have scopes : InScope scope input profile ↔ InScope scope input other := by
      rw [← not_iff_not, ← answer_eq_scopeDenied_iff total, ← answer_eq_scopeDenied_iff total, same]
    refine ⟨scopes, fun inScope finding located => ?_⟩
    rw [← not_iff_not, ← answer_eq_unsupported_iff total inScope located,
      ← answer_eq_unsupported_iff total (scopes.mp inScope) located, same]
  · rintro ⟨scopes, leading⟩
    unfold answer
    by_cases inScope : InScope scope input profile
    · rw [if_pos inScope, if_pos (scopes.mp inScope)]
      cases located : service.locate (surroundings.clock 2) surroundings.observe input with
      | error failure => rfl
      | ok finding =>
        have both := leading inScope finding (locate_eq_ok.mp located)
        exact if_congr both (outcome_settle total profile other) rfl
    · rw [if_neg inScope, if_neg fun otherIn => inScope (scopes.mpr otherIn)]

end

/-! ### When the walks agree -/

/-- A verified profile for the plugin that leads to the requested artifact. -/
abbrev Candidate (config : Config) (input : ProposalInput) (profile : TransitionProfile) : Prop :=
  config.profiles.Accepted
    (Registry.Matches .verifiedTransition input.pluginID input.targetArtifactID) profile

/-- The checks that follow the walk do not tell the candidates apart: a session that is accepted
has all of them in its scope or none, and when the target and both artifacts are as they should
be, those in scope all lead from the active artifact or none does. -/
def Interchangeable (codec : Codec) (config : Config) (surroundings : Surroundings)
    (scope : AgentSessionScope) (input : ProposalInput) : Prop :=
  config.service.enter codec (surroundings.clock 0) scope input = .ok () →
  Accepts codec config.service (surroundings.clock 1) scope →
  ∀ profile other, Candidate config input profile → Candidate config input other →
    (InScope scope input profile ↔ InScope scope input other) ∧
      (InScope scope input profile → ∀ finding,
        Located config.service (surroundings.clock 2) surroundings.observe input finding →
          (Leads input finding profile ↔ Leads input finding other))

end Service

/-- The configuration with its profiles in the order of another walk. -/
def Config.walked (config : Config) (walk : KeyMap TransitionProfile) : Config :=
  { config with profiles := walk }

/-- The outcome of `Propose` when the profiles are met in the order of a walk. -/
def Config.outcome (codec : Codec) (config : Config) (walk : KeyMap TransitionProfile)
    (surroundings : Surroundings) (scope : AgentSessionScope) (input : ProposalInput) :
    Except ErrorCode (String × String) :=
  Service.outcome ((config.walked walk).service.propose codec surroundings scope input false)

/-- The outcome of `Propose` does not depend on the walk, and a transition the owner verified is
not refused as unsupported. -/
structure OrderFree (codec : Codec) (config : Config) (surroundings : Surroundings)
    (scope : AgentSessionScope) (input : ProposalInput) : Prop where
  same : ∀ walk again, config.profiles.Reordered walk → config.profiles.Reordered again →
    config.outcome codec walk surroundings scope input =
      config.outcome codec again surroundings scope input
  supported : ∀ walk, config.profiles.Reordered walk →
    ∀ bundle, surroundings.observe = .ok bundle →
    ∀ artifact, config.artifacts.find input.targetArtifactID = some artifact →
      artifact.ownerTrustConfirmed = true →
    ∀ profile, config.profiles.find profile.profileID = some profile →
      profile.eligibility = .verifiedTransition → profile.pluginID = input.pluginID →
      profile.toArtifactID = input.targetArtifactID →
      profile.fromArtifactID = bundle.activeArtifact input.pluginID →
      scope.allows proposeCapability input.pluginID profile.profileID = true →
      config.outcome codec walk surroundings scope input ≠ .error .unsupportedTransition

namespace Config

variable {codec : Codec} {config : Config} {walk : KeyMap TransitionProfile}
  {surroundings : Surroundings} {scope : AgentSessionScope} {input : ProposalInput}

theorem outcome_of_entered
    (entered : config.service.enter codec (surroundings.clock 0) scope input = .ok ()) :
    config.outcome codec walk surroundings scope input =
      (walk.first (Registry.Matches .verifiedTransition input.pluginID
        input.targetArtifactID)).elim (.error .unsupportedTransition) fun profile =>
          Service.outcome (config.service.conclude codec surroundings scope input profile) := by
  unfold outcome
  have walkedEntered : (config.walked walk).service.enter codec (surroundings.clock 0) scope input =
      .ok () := entered
  rw [propose_eq, walkedEntered]
  show Service.outcome (demand (walk.first _) _ >>= _) = _
  cases walk.first (Registry.Matches .verifiedTransition input.pluginID
      input.targetArtifactID) with
  | none => rfl
  | some profile => rfl

theorem outcome_of_not_entered {failure : Failure}
    (refused : config.service.enter codec (surroundings.clock 0) scope input = .error failure) :
    config.outcome codec walk surroundings scope input = .error failure.codeOf := by
  unfold outcome
  have walkedRefused : (config.walked walk).service.enter codec (surroundings.clock 0) scope input =
      .error failure := refused
  rw [propose_eq, walkedRefused]
  rfl

theorem outcome_conclude_eq_iff (total : codec.Total) (accepted : config.validate = .ok ())
    (named : input.pluginID ≠ "")
    (accepts : Accepts codec config.service (surroundings.clock 1) scope)
    {profile other : TransitionProfile} (candidate : Candidate config input profile)
    (otherCandidate : Candidate config input other) :
    Service.outcome (config.service.conclude codec surroundings scope input profile) =
        Service.outcome (config.service.conclude codec surroundings scope input other) ↔
      (InScope scope input profile ↔ InScope scope input other) ∧
        (InScope scope input profile → ∀ finding,
          Located config.service (surroundings.clock 2) surroundings.observe input finding →
            (Leads input finding profile ↔ Leads input finding other)) := by
  obtain ⟨⟨_, member⟩, -⟩ := candidate
  obtain ⟨⟨_, otherMember⟩, -⟩ := otherCandidate
  have tuple := (soundProfile_of_validate accepted member).paperTuple
  have otherTuple := (soundProfile_of_validate accepted otherMember).paperTuple
  rw [outcome_conclude total named accepts tuple,
    outcome_conclude total named accepts otherTuple]
  exact answer_eq_iff total

theorem walks_agree_iff_interchangeable (total : codec.Total)
    (accepted : config.validate = .ok ()) :
    (∀ walk again, config.profiles.Reordered walk → config.profiles.Reordered again →
      config.outcome codec walk surroundings scope input =
        config.outcome codec again surroundings scope input) ↔
      Interchangeable codec config surroundings scope input := by
  unfold Interchangeable
  cases entered : config.service.enter codec (surroundings.clock 0) scope input with
  | error failure =>
    simp only [outcome_of_not_entered entered, implies_true, reduceCtorEq, false_implies]
  | ok _ =>
    have named := pluginID_ne_of_validate (enter_eq_ok.mp entered).1
    simp only [outcome_of_entered entered, KeyMap.walks_agree_iff, true_implies]
    by_cases accepts : Accepts codec config.service (surroundings.clock 1) scope
    · constructor
      · intro agree _ profile other candidate otherCandidate
        exact (outcome_conclude_eq_iff total accepted named accepts candidate otherCandidate).mp
          (agree profile other candidate otherCandidate)
      · intro alike profile other candidate otherCandidate
        exact (outcome_conclude_eq_iff total accepted named accepts candidate otherCandidate).mpr
          (alike accepts profile other candidate otherCandidate)
    · refine ⟨fun _ again => absurd again accepts, fun _ profile other _ _ => ?_⟩
      have refused : ∀ profile : TransitionProfile, config.service.authorize codec
          (surroundings.clock 1) scope proposeCapability input.pluginID profile.profileID ≠
            .ok () := fun _ authorized => accepts (authorize_eq_ok.mp authorized).1
      rw [outcome_of_refused total (refused profile),
        outcome_of_refused total (refused other)]

/-- A walk that meets a profile from another artifact first refuses the proposal. -/
theorem outcome_eq_unsupported (total : codec.Total)
    (entered : config.service.enter codec (surroundings.clock 0) scope input = .ok ())
    (accepts : Accepts codec config.service (surroundings.clock 1) scope)
    {profile : TransitionProfile}
    (first : walk.first (Registry.Matches .verifiedTransition input.pluginID
      input.targetArtifactID) = some profile)
    (tuple : profile.paperTuple = config.enrollment.paperTuple)
    (inScope : InScope scope input profile) {finding : Finding}
    (located : Located config.service (surroundings.clock 2) surroundings.observe input
      finding) (elsewhere : ¬ Leads input finding profile) :
    config.outcome codec walk surroundings scope input = .error .unsupportedTransition := by
  have named := pluginID_ne_of_validate (enter_eq_ok.mp entered).1
  rw [outcome_of_entered entered, first, Option.elim_some,
    outcome_conclude total named accepts tuple,
    answer_eq_unsupported_iff total inScope located]
  exact elsewhere

/-- A walk that meets a supported transition first does not refuse it as unsupported. -/
theorem outcome_ne_unsupported (total : codec.Total) (accepted : config.validate = .ok ())
    {profile : TransitionProfile} (candidate : Candidate config input profile)
    (first : walk.first (Registry.Matches .verifiedTransition input.pluginID
      input.targetArtifactID) = some profile) (inScope : InScope scope input profile)
    (observed : surroundings.observe = .ok bundle)
    (found : config.artifacts.find input.targetArtifactID = some artifact)
    (trusted : artifact.ownerTrustConfirmed = true)
    (leads : profile.fromArtifactID = bundle.activeArtifact input.pluginID) :
    config.outcome codec walk surroundings scope input ≠ .error .unsupportedTransition := by
  cases entered : config.service.enter codec (surroundings.clock 0) scope input with
  | error failure =>
    rw [outcome_of_not_entered entered]
    intro unsupported
    have coded := enter_coded total _ failure entered
    unfold Coded at coded
    rw [Except.error.inj unsupported] at coded
    exact absurd coded (by decide)
  | ok _ =>
    have named := pluginID_ne_of_validate (enter_eq_ok.mp entered).1
    rw [outcome_of_entered entered, first]
    show Service.outcome (config.service.conclude codec surroundings scope input profile) ≠ _
    by_cases accepts : Accepts codec config.service (surroundings.clock 1) scope
    · obtain ⟨⟨_, member⟩, -⟩ := candidate
      rw [outcome_conclude total named accepts
        (soundProfile_of_validate accepted member).paperTuple]
      exact answer_ne_unsupported total inScope observed found trusted leads
    · rw [outcome_of_refused total fun authorized =>
        accepts (authorize_eq_ok.mp authorized).1]
      decide

end Config

/-- The outcome of `Propose` is independent of the walk exactly when the matching profiles are
interchangeable for the checks that follow it. -/
theorem order_free_iff_interchangeable (codec : Codec) (total : codec.Total) (config : Config)
    (accepted : config.validate = .ok ()) (surroundings : Surroundings)
    (scope : AgentSessionScope) (input : ProposalInput) :
    OrderFree codec config surroundings scope input ↔
      Service.Interchangeable codec config surroundings scope input := by
  rw [← Config.walks_agree_iff_interchangeable total accepted]
  refine ⟨OrderFree.same, fun same => ⟨same, ?_⟩⟩
  intro walk reordered bundle observed artifact found trusted profile filed eligibility plugin
    target leads inScope
  have candidate : Service.Candidate config input profile :=
    ⟨⟨_, KeyMap.find_eq_some_iff.mp filed⟩, Registry.matches_iff.mpr ⟨plugin, target, eligibility⟩⟩
  obtain ⟨again, reorderedAgain, first⟩ := KeyMap.exists_reordered_first candidate
  rw [same walk again reordered reorderedAgain]
  exact Config.outcome_ne_unsupported total accepted candidate first inScope observed found trusted
    leads

/-- One profile for the plugin and the artifact makes the outcome independent of the walk. -/
theorem fixtureProfile_order_free :
    OrderFree textCodec fixtureConfig fixtureTarget (fixtureSession "session-a" ["example-a-b"])
      fixtureInput := by
  refine (order_free_iff_interchangeable textCodec textCodec_canonical.total fixtureConfig
    fixtureConfig_valid _ _ _).mpr ?_
  intro _ _ profile other candidate otherCandidate
  have only : ∀ profile, Service.Candidate fixtureConfig fixtureInput profile →
      profile = fixtureProfile "example-a-b" "artifact-a" := by
    rintro profile ⟨⟨key, member⟩, -⟩
    exact (Prod.mk.inj (List.mem_singleton.mp member)).2
  rw [only profile candidate, only other otherCandidate]
  exact ⟨Iff.rfl, fun _ _ _ => Iff.rfl⟩

/-- Two verified profiles to one artifact, from the active artifact and from another one. -/
def forkedProfiles : KeyMap TransitionProfile :=
  ⟨[("example-a-b", fixtureProfile "example-a-b" "artifact-a"),
    ("example-c-b", fixtureProfile "example-c-b" "artifact-c")], by decide⟩

/-- The same profiles, met in the other order. -/
def forkedWalk : KeyMap TransitionProfile :=
  ⟨[("example-c-b", fixtureProfile "example-c-b" "artifact-c"),
    ("example-a-b", fixtureProfile "example-a-b" "artifact-a")], by decide⟩

/-- A session with both profiles in its scope. -/
abbrev forkedSession : AgentSessionScope :=
  fixtureSession "session-a" ["example-a-b", "example-c-b"]

/-- With two verified profiles to the requested artifact in scope, one walk freezes the change
and the other refuses it as unsupported. -/
theorem forkedProfiles_disagree :
    (fixtureConfigOf forkedProfiles).validate = .ok () ∧ forkedProfiles.Reordered forkedWalk ∧
      (fixtureConfigOf forkedProfiles).outcome textCodec forkedProfiles fixtureTarget forkedSession
        fixtureInput = .ok ("artifact-a", "artifact-b") ∧
      (fixtureConfigOf forkedProfiles).outcome textCodec forkedWalk fixtureTarget forkedSession
        fixtureInput = .error .unsupportedTransition := by
  refine ⟨by decide +kernel, List.Perm.swap _ _ _, ?_, ?_⟩
  · have selected : (fixtureConfigOf forkedProfiles).service.select fixtureInput false =
        .ok (fixtureProfile "example-a-b" "artifact-a") := by decide
    obtain ⟨record, next, stored, froze⟩ :=
      @fixtureInput_stored _ "session-a" ["example-a-b", "example-c-b"] List.mem_cons_self selected
    have intent := (ChangeIntent.sealDigest_eq_ok froze.intent).2
    have artifacts : record.intent.fromArtifactID = "artifact-a" ∧
        record.intent.toArtifactID = "artifact-b" := by
      rw [intent]
      exact ⟨rfl, rfl⟩
    refine (congrArg Service.outcome stored).trans ?_
    show Except.ok (record.intent.fromArtifactID, record.intent.toArtifactID) = _
    rw [artifacts.1, artifacts.2]
  · have first : forkedWalk.first (Registry.Matches .verifiedTransition fixtureInput.pluginID
        fixtureInput.targetArtifactID) = some (fixtureProfile "example-c-b" "artifact-c") := by
      decide
    have entered := fixtureInput_enters forkedProfiles "session-a" ["example-a-b", "example-c-b"]
      fixtureTarget rfl
    have accepts : Service.Accepts textCodec (fixtureConfigOf forkedProfiles).service
        (fixtureTarget.clock 1) forkedSession :=
      fixtureSession_accepted forkedProfiles "session-a" ["example-a-b", "example-c-b"]
    have inScope : Service.InScope forkedSession fixtureInput
        (fixtureProfile "example-c-b" "artifact-c") :=
      fixtureSession_allows "session-a" (List.mem_cons_of_mem _ List.mem_cons_self)
    have located : Service.Located (fixtureConfigOf forkedProfiles).service
        (fixtureTarget.clock 2) fixtureTarget.observe fixtureInput
        (fixtureFinding artifactA) :=
      fixtureInput_located forkedProfiles artifactA (by decide) rfl .empty
    exact Config.outcome_eq_unsupported textCodec_canonical.total entered accepts first rfl inScope
      located (by decide)

end GuardedAgentRunner
