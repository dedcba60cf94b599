/-
This file proves what ties a completed backup to the target it was reserved for.
`ReserveBackup` compares the record with the sealed intent and with the enrollment
in its evidence; `CompleteBackup` validates new evidence against the enrollment
that evidence names itself. The intent pins neither the target nor the data root,
and the evidence from before the stop is compared by a digest that rounds the
generation.
-/

import GuardedAgentRunner.BackupLifecycle
import GuardedAgentRunner.Scope

namespace GuardedAgentRunner

open Store Ledger

variable {codec : Codec} {before after : Ledger} {call : StoreCall} {ready : BackupReadyEvidence}
  {record : BackupRecord}

/-! ### What a digest tells of an enrollment -/

/-- Enrollments with the same digest agree on the texts that name a target. -/
def Codec.TellsTargets (codec : Codec) : Prop :=
  ∀ first second : Enrollment,
    codec.digestOrEmpty first.toJson = codec.digestOrEmpty second.toJson →
      first.targetID = second.targetID ∧ first.enrollmentID = second.enrollmentID ∧
      first.containerID = second.containerID ∧
      first.dataRootIdentity = second.dataRootIdentity ∧ first.paperTuple = second.paperTuple

theorem Codec.Canonical.tellsTargets (canonical : codec.Canonical) : codec.TellsTargets := by
  obtain ⟨hash, injective, hashes⟩ := canonical
  intro first second same
  have normal : first.toJson.normalize = second.toJson.normalize := by
    unfold digestOrEmpty at same
    rw [hashes, hashes] at same
    exact Json.transform_eq_iff.mp (injective same)
  have field : ∀ (index : Nat) {name value other : String} {members others : List (String × Json)},
      first.toJson = .object members → second.toJson = .object others →
      others.map Prod.fst = ["target_id", "enrollment_id", "deployment_generation", "container_id",
        "image_digest", "data_root_identity", "game_endpoint", "runtime_guard_pairing",
        "bootstrap_fingerprint", "policy_id", "policy_revision", "policy_digest",
        "support_profile_id", "paper_tuple", "allowed_plugins"] →
      members[index]? = some (name, .string value) →
      others[index]? = some (name, .string other) → value = other := by
    intro index name value other members others isFirst isSecond names present otherPresent
    rw [isFirst, isSecond] at normal
    exact Json.string_eq_of_mem normal (names ▸ by decide) (List.mem_of_getElem? present)
      (List.mem_of_getElem? otherPresent)
  exact ⟨field 0 rfl rfl rfl rfl rfl, field 1 rfl rfl rfl rfl rfl, field 3 rfl rfl rfl rfl rfl,
    field 5 rfl rfl rfl rfl rfl, field 13 rfl rfl rfl rfl rfl⟩

/-! ### The target of a backup -/

/-- The record names the target of the enrollment. -/
structure SameTarget (record : BackupRecord) (enrollment : Enrollment) : Prop where
  targetID : record.targetID = enrollment.targetID
  enrollmentID : record.enrollmentID = enrollment.enrollmentID
  deploymentGeneration : record.deploymentGeneration = enrollment.deploymentGeneration
  containerIdentity : record.containerIdentity = enrollment.containerID
  dataRootIdentity : record.dataRootIdentity = enrollment.dataRootIdentity
  paperTuple : record.paperTuple = enrollment.paperTuple

/-- The record names the target of both observations of its evidence. -/
def BackupRecord.KeepsTarget (record : BackupRecord) : Prop :=
  SameTarget record record.ready.offline.enrollment ∧
    SameTarget record record.ready.beforeStop.enrollment

/-- Every valid backup names the target of its evidence. -/
def TargetsKept (ledger : Ledger) : Prop :=
  ∀ id record, ledger.backups id = some record → record.status = .valid → record.KeepsTarget

/-- The backup a call completes, and its evidence. -/
def StoreCall.completion : StoreCall → Option (String × BackupReadyEvidence)
  | .completeBackup backupID _ _ ready _ => some (backupID, ready)
  | _ => none

/-- The evidence is about the target the record was reserved for. -/
structure AboutTarget (record : BackupRecord) (ready : BackupReadyEvidence) : Prop where
  targetID : ready.offline.enrollment.targetID = record.targetID
  dataRootIdentity : ready.offline.enrollment.dataRootIdentity = record.dataRootIdentity
  generation : ready.beforeStop.enrollment.deploymentGeneration = record.deploymentGeneration

/-- A completion that commits brings evidence about the reserved target. -/
def CompletesTarget (codec : Codec) (database : Database) (transaction : Transaction) : Prop :=
  ∀ completion ∈ transaction.call.completion, ∀ record ∈ database.backup completion.1,
    (∃ next, Commits codec database transaction next) → AboutTarget record completion.2

theorem keepsTarget_completed_iff (tells : codec.TellsTargets) {intent : ChangeIntent}
    (bound : BoundTo codec record intent)
    (enrolled : EnrolledAs codec ready.beforeStop ready.offline.enrollment intent)
    (digest : String) (size : Int) (now : Time) :
    (completedRecord record digest size ready now).KeepsTarget ↔ AboutTarget record ready := by
  obtain ⟨target, enrollmentID, container, dataRoot, paperTuple⟩ :=
    tells ready.beforeStop.enrollment ready.offline.enrollment enrolled.digest
  constructor
  · rintro ⟨offline, beforeStop⟩
    exact ⟨offline.targetID.symm, offline.dataRootIdentity.symm,
      beforeStop.deploymentGeneration.symm⟩
  · intro about
    have offline : SameTarget record ready.offline.enrollment :=
      { targetID := about.targetID.symm
        enrollmentID := bound.enrollmentID.trans enrolled.enrollmentID
        deploymentGeneration := bound.generation.trans enrolled.generation
        containerIdentity := bound.container.trans enrolled.container
        dataRootIdentity := about.dataRootIdentity.symm
        paperTuple := bound.paperTuple.trans enrolled.paperTuple }
    have beforeStop : SameTarget record ready.beforeStop.enrollment :=
      { targetID := offline.targetID.trans target.symm
        enrollmentID := offline.enrollmentID.trans enrollmentID.symm
        deploymentGeneration := about.generation.symm
        containerIdentity := offline.containerIdentity.trans container.symm
        dataRootIdentity := offline.dataRootIdentity.trans dataRoot.symm
        paperTuple := offline.paperTuple.trans paperTuple.symm }
    exact ⟨{ offline with }, { beforeStop with }⟩

theorem TargetsKept.step (kept : TargetsKept before) (step : Step codec before call after)
    (incomplete : call.completion = none) : TargetsKept after := by
  intro id record found valid
  rcases step.backup_cases id with same | ⟨stored, next, present, now, move⟩ |
    ⟨reserved, operation, intent, _, -, rfl, now, reserves⟩
  · exact kept id record (same.symm.trans found) valid
  · obtain rfl : next = record := Option.mem_unique now found
    cases move with
    | advanced allowed => exact absurd valid (allowedTransition_ne_valid allowed)
    | completed => exact nomatch incomplete
  · obtain rfl : reserved = record := Option.mem_unique now found
    exact nomatch reserves.reservable.status.symm.trans valid

theorem Ledger.Step.completed_backups {backupID digest : String} {size : Int} {now : Time}
    (step : Step codec before (.completeBackup backupID digest size ready now) after)
    (found : before.backups backupID = some record) :
    after.backups = Function.update before.backups backupID
      (some (completedRecord record digest size ready now)) := by
  cases step with
  | answered answers => exact nomatch answers
  | moved alone => exact nomatch alone
  | completed backup =>
    obtain rfl := Option.mem_unique found backup
    rfl

/-- A transaction keeps the targets of the valid backups exactly if it completes a backup only
with evidence about its target. -/
theorem completesTarget_iff (tells : codec.TellsTargets) {database : Database}
    (coherent : database.Coherent) (justified : BackupsJustified codec database.ledger)
    (kept : TargetsKept database.ledger) (transaction : Transaction) :
    CompletesTarget codec database transaction ↔
      TargetsKept (perform codec database transaction).ledger := by
  by_cases committed : ∃ next, Commits codec database transaction next
  · obtain ⟨next, commits⟩ := committed
    have step := (commits_refines coherent commits).2
    rw [perform_of_commits commits]
    obtain ⟨ids, call⟩ := transaction
    cases completion : call.completion with
    | none =>
      refine ⟨fun _ => kept.step step completion, fun _ other isOther => ?_⟩
      exact nomatch completion.symm.trans isOther
    | some other =>
      cases call with
      | completeBackup backupID digest size ready now =>
        obtain rfl := Option.some.inj completion
        obtain ⟨done, run⟩ := commits
        obtain ⟨record, operation, intent, found, opened, intentFound, enrolled⟩ :=
          completeBackup_enrolled run
        obtain ⟨owner, sealedIntent, isOwner, isSealed, justifies⟩ :=
          justified backupID record found
        obtain rfl := Option.mem_unique opened isOwner
        obtain rfl := Option.mem_unique intentFound isSealed
        have completes := keepsTarget_completed_iff tells justifies.bound enrolled digest size now
        have stored := step.completed_backups found
        constructor
        · intro condition id valid isValid status
          rw [stored] at isValid
          rcases update_some_eq_some.mp isValid with ⟨rfl, rfl⟩ | ⟨-, present⟩
          · exact completes.mpr (condition _ rfl record found ⟨_, done, run⟩)
          · exact kept id valid present status
        · rintro keeps _ ⟨⟩ other isOther -
          obtain rfl := Option.mem_unique found isOther
          refine completes.mp (keeps backupID _ ?_ rfl)
          rw [stored]
          exact Function.update_self ..
      | _ => exact nomatch completion
  · rcases perform_cases database transaction with commits | same
    · exact absurd ⟨_, commits⟩ committed
    · rw [same]
      exact ⟨fun _ => kept, fun _ _ _ _ _ commits => absurd commits committed⟩

/-- Along a run, every valid backup names the target of its evidence in every database that is
passed exactly if every completion brought evidence about the reserved target. -/
theorem completion_keeps_target_iff (codec : Codec) (tells : codec.TellsTargets)
    (log : List Transaction) :
    Runs.Along (perform codec) (CompletesTarget codec) .empty log ↔
      ∀ earlier, earlier <+: log → ∀ row ∈ (replay codec earlier).backups.rows,
        row.status = .valid → row.payload.KeepsTarget := by
  have view : ∀ earlier, (∀ row ∈ (replay codec earlier).backups.rows, row.status = .valid →
      row.payload.KeepsTarget) ↔ TargetsKept (replay codec earlier).ledger := by
    intro earlier
    have coherent : (replay codec earlier).Coherent := replay_coherent earlier
    constructor
    · intro kept id record found valid
      exact kept _ (coherent.backup_eq_some.mp found).1 valid
    · intro kept row member valid
      obtain ⟨record, rfl, found⟩ := coherent.backup_row member
      exact kept _ record found valid
  have preserved : ∀ database transaction,
      (Database.Coherent database ∧ BackupsJustified codec database.ledger) →
      (perform codec database transaction).Coherent ∧
        BackupsJustified codec (perform codec database transaction).ledger := by
    rintro database transaction ⟨coherent, justified⟩
    rcases perform_cases database transaction with commits | same
    · obtain ⟨nextCoherent, step⟩ := commits_refines coherent commits
      exact ⟨nextCoherent, justified.step step⟩
    · rw [same]
      exact ⟨coherent, justified⟩
  have initially : TargetsKept Database.empty.ledger := fun _ _ found => nomatch found
  simp only [view]
  exact Runs.along_iff preserved
    (fun database transaction holds kept =>
      completesTarget_iff tells holds.1 holds.2 kept transaction)
    ⟨empty_coherent, fun _ _ present => nomatch present⟩ initially log

/-! ### A target that was exchanged -/

/-- The texts that name the target of an enrollment. -/
def targetTexts (value : Json) : List String :=
  ["target_id", "enrollment_id", "container_id", "data_root_identity", "paper_tuple"].map
    fun name => match value.member name with
      | some (.string text) => text
      | _ => ""

/-- The codec of the fixture with a digest of enrollments that spells the target out. -/
def tellingCodec : Codec :=
  { fixtureCodec with
    digest := fun value => match value.member "target_id" with
      | some _ => .ok (String.ofList ((targetTexts value).flatMap Json.writeString ++ [']']))
      | none => fixtureCodec.digest value }

theorem writeStrings_injective {first second : List String}
    (same : first.flatMap Json.writeString ++ [']'] = second.flatMap Json.writeString ++ [']']) :
    first = second := by
  have reads : ∀ (value : String) (rest : List Char),
      JsonText.readPieces ((Json.writeString value ++ rest).drop 1) =
        some (JsonText.quoted Json.fewest value, rest) := by
    intro value rest
    rw [Json.writeString_eq, JsonText.writeString, List.cons_append, List.append_assoc]
    exact JsonText.readPieces_quoted value.toList rest
  induction first generalizing second with
  | nil =>
    cases second with
    | nil => rfl
    | cons => exact absurd (List.cons.inj same).1 (by decide)
  | cons head tail hypothesis =>
    cases second with
    | nil => exact absurd (List.cons.inj same).1 (by decide)
    | cons other others =>
      have read := congrArg (fun text => JsonText.readPieces (text.drop 1)) same
      simp only [List.flatMap_cons, List.append_assoc, reads, Option.some.injEq,
        Prod.mk.injEq] at read
      rw [hypothesis read.2, ← @JsonText.text_quoted Json.fewest head, read.1,
        JsonText.text_quoted]

theorem tellingCodec_tellsTargets : tellingCodec.TellsTargets := by
  intro first second same
  have texts := writeStrings_injective (String.ofList_injective same)
  have fields : [first.targetID, first.enrollmentID, first.containerID, first.dataRootIdentity,
      first.paperTuple] = [second.targetID, second.enrollmentID, second.containerID,
        second.dataRootIdentity, second.paperTuple] := texts
  simpa only [List.cons.injEq, and_true] using fields

/-- The evidence of the fixture, about another target. -/
def exchangedReady : BackupReadyEvidence :=
  { fixtureReady with
    beforeStop := { fixtureReady.beforeStop with
      enrollment := { fixtureEnrollment with targetID := "paper-b" } }
    offline := { fixtureReady.offline with
      enrollment := { fixtureEnrollment with targetID := "paper-b" } } }

/-- The transactions up to the verification of the backup of the fixture. -/
def verifiedBackup : List Transaction :=
  reservedBackup ++
    [⟨fixtureIDs "5", .transitionBackupStatus "backup_a" .writing fixtureNow⟩,
      ⟨fixtureIDs "5", .transitionBackupStatus "backup_a" .finalizing fixtureNow⟩,
      ⟨fixtureIDs "5", .transitionBackupStatus "backup_a" .verifying fixtureNow⟩]

def completeWith (ready : BackupReadyEvidence) : Transaction :=
  ⟨fixtureIDs "5", .completeBackup "backup_a" firstProposal.intent.fromSHA256 1024 ready
    fixtureNow⟩

/-- A backup reserved for one target is completed with the evidence of another one. -/
theorem exchangedReady_completes :
    ∃ row ∈ (replay tellingCodec (verifiedBackup ++ [completeWith exchangedReady])).backups.rows,
      row.status = .valid ∧ row.payload.targetID = "paper-a" ∧
      row.payload.ready.offline.enrollment.targetID = "paper-b" ∧
      row.payload.ready.beforeStop.enrollment.targetID = "paper-b" := by
  decide +kernel

/-- The backup of the fixture names the target of its evidence. -/
theorem fixtureReady_keeps_target :
    ∃ row ∈ (replay tellingCodec (verifiedBackup ++ [completeWith fixtureReady])).backups.rows,
      row.status = .valid ∧ row.payload.KeepsTarget := by
  have completed : ∃ row ∈
      (replay tellingCodec (verifiedBackup ++ [completeWith fixtureReady])).backups.rows,
      row.status = .valid := by decide +kernel
  obtain ⟨row, member, valid⟩ := completed
  refine ⟨row, member, valid, (completion_keeps_target_iff tellingCodec tellingCodec_tellsTargets
    _).mp ?_ _ (List.prefix_refl _) row member valid⟩
  rw [Runs.along_append]
  have incomplete : ∀ transaction ∈ verifiedBackup, transaction.call.completion = none := by
    decide
  refine ⟨Runs.along_of_forall (fun transaction listed database completion isCompletion => ?_) _,
    ?_, trivial⟩
  · exact nomatch (incomplete transaction listed).symm.trans isCompletion
  · rintro _ ⟨⟩ record found -
    have reserved : ∀ record ∈ (replay tellingCodec verifiedBackup).backup "backup_a",
        record.targetID = "paper-a" ∧ record.dataRootIdentity = "dev:1/inode:2" ∧
          record.deploymentGeneration = 3 := by decide +kernel
    obtain ⟨targetID, dataRoot, generation⟩ := reserved record found
    exact ⟨targetID.symm, dataRoot.symm, generation.symm⟩

end GuardedAgentRunner
