/-
This file proves the backup engine safe against being cut off. Only the call that
commits the reservation goes on to the destination, later calls find the record and
stop, and a record is completed only with the digest of what the call has written
and the size of the file it has reread. The phases of a call say what the two
stores hold when it is cut off, and what an inspection that succeeds has compared.
-/

import GuardedAgentRunner.BackupLifecycle
import GuardedAgentRunner.Vault

namespace GuardedAgentRunner

open Fallible Protocol Program

/-! ### The phases of a call -/

/-- The name of the archive of a backup. -/
def finalName (backupID : String) : String := backupID ++ ".tar"

theorem archiveName_eq_ok {backupID name : String} (named : archiveName backupID = .ok name) :
    name = finalName backupID := by
  simp only [archiveName, bind_eq_ok, pure_eq_ok] at named
  obtain ⟨_, -, _, -, same⟩ := named
  exact same.symm

theorem finalName_ne_partialName (backupID : String) :
    finalName backupID ≠ partialName (finalName backupID) := by
  intro same
  have lengths := congrArg String.length same
  rw [partialName, String.length_append] at lengths
  have suffix : ".partial".length = 8 := rfl
  omega

/-- How far a call has come. -/
inductive ArchivePhase where
  | idle
  | viewed (record : BackupRecord)
  | compared (record : BackupRecord) (digest : String) (size : Int)
  | reserved
  | opened
  | written (digest : String)
  | renamed (digest : String)
  | verified (digest reread : String) (size : Int)

variable {effect : Effect}

namespace ArchivePhase

/-- A call that has reread the archive of a record it viewed has only to return. -/
def active : ArchivePhase → Bool
  | .compared .. => false
  | _ => true

/-- The actions a call may take in a phase. -/
def Allows (backupID : String) (phase : ArchivePhase) : Effect → Prop
  | .store _ (.reserveBackup record _) => phase = .idle ∧ record.backupID = backupID
  | .store _ (.transitionBackupStatus id _ _) => id = backupID
  | .store _ (.completeBackup id digest size _ _) =>
    id = backupID ∧ phase = .verified digest digest size
  | .store _ (.getBackup id) => id = backupID
  | .store _ _ => False
  | .file (.createPartial name) => phase = .reserved ∧ name = finalName backupID
  | .file .archive => phase = .opened
  | .file .closePartial => ∃ digest, phase = .written digest
  | .file (.renamePartial name) => (∃ digest, phase = .written digest) ∧ name = finalName backupID
  | .file (.verify name) => name = finalName backupID
  | _ => True

/-- The phase after an answered action. A call that fails to get ahead is idle. -/
def next : ArchivePhase → (effect : Effect) → effect.Answer → ArchivePhase
  | _, .store _ (.reserveBackup ..), .ok _ => .reserved
  | _, .store _ (.reserveBackup ..), .error _ => .idle
  | .idle, .store _ (.getBackup _), .ok record => .viewed record
  | _, .store _ (.completeBackup ..), _ => .idle
  | _, .file (.createPartial _), .ok _ => .opened
  | _, .file (.createPartial _), .error _ => .idle
  | _, .file .archive, .ok digest => .written digest
  | _, .file .archive, .error _ => .idle
  | .written digest, .file (.renamePartial _), .ok _ => .renamed digest
  | _, .file (.renamePartial _), _ => .idle
  | .viewed record, .file (.verify _), .ok (digest, size) => .compared record digest size
  | .renamed digest, .file (.verify _), .ok (reread, size) => .verified digest reread size
  | phase, _, _ => phase

/-- The actions that leave every phase as it is. -/
def inert : Effect → Bool
  | .store _ (.transitionBackupStatus ..) => true
  | .store .. => false
  | .file (.createPartial _) | .file .archive | .file .closePartial => false
  | .file (.renamePartial _) | .file (.verify _) => false
  | _ => true

theorem next_inert (phase : ArchivePhase) (quiet : inert effect = true) (answer : effect.Answer) :
    phase.next effect answer = phase := by
  cases effect with
  | store context call =>
    cases call <;> cases quiet
    cases phase <;> rfl
  | file action => cases action <;> cases quiet <;> cases phase <;> rfl
  | _ => cases phase <;> rfl

end ArchivePhase

/-- The protocol of a call of the engine for a backup. -/
def archiving (backupID : String) : Protocol Effect Effect.Answer ArchivePhase where
  allowed phase effect := phase.active = true ∧ phase.Allows backupID effect
  moves phase effect answer later := later = phase.next effect answer

section Programs

variable {backupID : String} {phase : ArchivePhase}

variable {action : FileAction}

section

variable (active : phase.active = true)

include active

theorem ensures_file (allowed : phase.Allows backupID (.file action)) :
    (archiving backupID).Ensures phase (file action) fun later result =>
      later = phase.next (.file action) (.ok result) :=
  ⟨⟨active, allowed⟩, fun _ _ moved _ same => by rw [moved, same]⟩

theorem ensures_transaction {context : Context} {call : StoreCall}
    (allowed : phase.Allows backupID (.store context call)) :
    (archiving backupID).Ensures phase (store context call) fun later result =>
      later = phase.next (.store context call) (.ok result) :=
  ⟨⟨active, allowed⟩, fun _ _ moved _ same => by rw [moved, same]⟩

theorem holds_quiet (quiet : ArchivePhase.inert (.file action) = true) :
    (archiving backupID).Holds phase (file action) fun later _ => later = phase := by
  have allowed : phase.Allows backupID (.file action) := by
    cases action <;> first | exact trivial | cases quiet
  exact ⟨⟨active, allowed⟩, fun answer _ moved => moved.trans (phase.next_inert quiet answer)⟩

theorem ensures_quiet (quiet : ArchivePhase.inert (.file action) = true) :
    (archiving backupID).Ensures phase (file action) fun later _ => later = phase :=
  (holds_quiet active quiet).weaken fun _ _ same _ _ => same

theorem ensures_clock :
    (archiving backupID).Ensures phase now fun later _ => later = phase :=
  ⟨⟨active, trivial⟩, fun answer _ moved _ _ => moved.trans (phase.next_inert rfl answer)⟩

theorem ensures_checkpoint (boundary : Bool) (name : String) :
    (archiving backupID).Ensures phase (checkpoint boundary name) fun later _ => later = phase := by
  cases boundary with
  | false => exact ensures_pure.mpr rfl
  | true =>
    exact ⟨⟨active, trivial⟩, fun answer _ moved _ _ => moved.trans (phase.next_inert rfl answer)⟩

theorem ensures_check (revalidation : Revalidation) :
    (archiving backupID).Ensures phase revalidation.check fun later _ => later = phase := by
  have safe : (archiving backupID).Safe phase revalidation.check.run fun later _ =>
      later = phase := by
    refine Safe.of_uses revalidation.observing (fun effect observing => ⟨active, ?_⟩)
      fun effect answer later observing moved => ?_
    · cases effect <;> first | exact trivial | exact observing.elim
    · refine moved.trans (phase.next_inert ?_ answer)
      cases effect <;> first | rfl | exact observing.elim
  exact Safe.weaken safe fun _ _ same _ _ => same

theorem holds_advance (status : BackupStatus) :
    (archiving backupID).Holds phase (Engine.advance backupID status) fun later _ =>
      later = phase := by
  have clocked : (archiving backupID).Yields (fun _ => False) phase now fun later _ =>
      later = phase :=
    ⟨⟨active, trivial⟩, fun answer _ moved => moved.trans (phase.next_inert rfl answer)⟩
  refine Holds.bind clocked (fun later _ same => ?_) fun _ _ => False.elim
  rw [same]
  exact ⟨⟨active, rfl⟩, fun answer _ moved => moved.trans (phase.next_inert rfl answer)⟩

theorem ensures_advance (status : BackupStatus) :
    (archiving backupID).Ensures phase (Engine.advance backupID status) fun later _ =>
      later = phase :=
  (holds_advance active status).weaken fun _ _ same _ _ => same

theorem checkDestination_ensures :
    (archiving backupID).Ensures phase Engine.checkDestination fun later _ => later = phase := by
  refine (ensures_quiet active rfl).next fun _ => ?_
  refine (ensures_reify (holds_quiet active rfl)).next fun outcome => ?_
  split
  · exact ensures_pure.mpr rfl
  · exact ensures_throw

theorem checkSource_ensures (artifact : ArtifactRecord) (message : String) :
    (archiving backupID).Ensures phase (Engine.checkSource artifact message) fun later _ =>
      later = phase := by
  refine (ensures_quiet active rfl).next fun outcome => ?_
  exact ensures_lift.mpr fun _ _ => rfl

theorem prepare_ensures (engine : Engine) (record : BackupRecord) :
    (archiving backupID).Ensures phase (engine.prepare record) fun later result =>
      later = phase ∧ result.1 = finalName record.backupID := by
  refine ensures_lift_bind fun _ _ => ensures_lift_bind fun name named => ?_
  refine (ensures_quiet active rfl).next fun _ => ?_
  refine (ensures_quiet active rfl).next fun identity => ?_
  refine ensures_lift_bind fun _ _ => ?_
  refine (checkDestination_ensures active).next fun _ => ?_
  split
  · refine (checkSource_ensures active _ _).next fun _ => ?_
    refine (ensures_reify (holds_quiet active rfl)).next fun outcome => ?_
    split
    · exact ensures_pure.mpr ⟨rfl, archiveName_eq_ok named⟩
    · exact ensures_throw
  · exact ensures_throw

end

variable (engine : Engine)

theorem write_ensures :
    (archiving backupID).Ensures .reserved (engine.write backupID (finalName backupID))
      fun later digest => later = .renamed digest := by
  refine (ensures_advance rfl _).next fun _ => ?_
  refine Ensures.next (ensures_file rfl ⟨rfl, rfl⟩) fun _ => ?_
  refine (ensures_checkpoint rfl _ _).next fun _ => ?_
  refine Ensures.next (ensures_file rfl rfl) fun digest => ?_
  refine (ensures_quiet rfl rfl).next fun _ => ?_
  refine Ensures.next (ensures_file rfl ⟨digest, rfl⟩) fun _ => ?_
  refine (ensures_advance rfl _).next fun _ => ?_
  refine (ensures_quiet rfl rfl).next fun _ => ?_
  refine Ensures.next (ensures_file rfl ⟨⟨digest, rfl⟩, rfl⟩) fun _ => ?_
  refine (ensures_quiet rfl rfl).next fun _ => ?_
  refine (ensures_checkpoint rfl _ _).next fun _ => ?_
  exact ensures_pure.mpr rfl

theorem reread_ensures (revalidation : Revalidation) (written : String)
    (artifact : ArtifactRecord) :
    (archiving backupID).Ensures (.renamed written)
      (Engine.reread revalidation.check backupID (finalName backupID) written artifact)
      fun later result => later = .verified result.1 result.1 result.2.1 := by
  refine (ensures_advance rfl _).next fun _ => ?_
  refine Ensures.bind (ensures_file rfl rfl) fun _ verified read => ?_
  obtain ⟨digest, size⟩ := verified
  rw [read]
  refine ensures_lift_bind fun _ passed => ?_
  obtain rfl := not_not.mp ((refuse_eq_ok ..).mp passed)
  refine (ensures_check rfl revalidation).next fun ready => ?_
  refine (checkSource_ensures rfl _ _).next fun _ => ?_
  exact ensures_pure.mpr rfl

theorem create_safe (record : BackupRecord) (revalidation : Revalidation) :
    (archiving record.backupID).Ensures .idle (engine.create record revalidation.check)
      fun _ _ => True := by
  refine (ensures_check rfl revalidation).next fun ready => ?_
  refine (prepare_ensures rfl engine _).bind fun _ prepared same => ?_
  obtain ⟨name, artifact⟩ := prepared
  obtain ⟨rfl, rfl⟩ := same
  refine (ensures_clock rfl).next fun time => ?_
  refine Ensures.next (ensures_transaction rfl ⟨rfl, rfl⟩) fun _ => ?_
  refine (write_ensures engine).next fun written => ?_
  refine (reread_ensures revalidation written artifact).bind fun _ verified same => ?_
  obtain ⟨digest, size, ready⟩ := verified
  rw [same]
  refine (ensures_clock rfl).next fun time => ?_
  refine Ensures.next (ensures_transaction rfl ⟨rfl, rfl⟩) fun _ => ?_
  exact (ensures_checkpoint rfl _ _).weaken fun _ _ _ => trivial

theorem markOrphaned_ensures (record : BackupRecord) (status : BackupStatus) :
    (archiving backupID).Ensures (.viewed record) (Engine.markOrphaned backupID status)
      fun _ _ => True := by
  unfold Engine.markOrphaned
  split
  · exact ensures_pure.mpr trivial
  split
  · exact ensures_pure.mpr trivial
  refine (ensures_reify (holds_quiet rfl rfl)).next fun outcome => ?_
  split
  · exact ensures_pure.mpr trivial
  refine (ensures_reify (holds_quiet rfl rfl)).next fun outcome => ?_
  split
  · refine (ensures_reify (holds_advance rfl .orphaned)).next fun outcome => ?_
    split
    · have read : (archiving backupID).Holds (.viewed record)
          (store .bounded (.getBackup backupID)) fun _ _ => True := ⟨⟨rfl, rfl⟩, fun _ _ _ => trivial⟩
      exact (ensures_reify read).bind fun _ _ _ => ensures_pure.mpr trivial
    · exact ensures_pure.mpr trivial
  · exact ensures_pure.mpr trivial

/-- `Inspect` keeps the protocol, and succeeds only after it has read a valid record and an archive
with its digest and size. -/
theorem inspect_safe :
    (archiving backupID).Ensures .idle (engine.inspect backupID) fun later _ =>
      ∃ record, later = .compared record record.archiveSHA256 record.archiveSizeBytes ∧
        record.status = .valid := by
  refine Ensures.next (ensures_transaction rfl rfl) fun record => ?_
  split
  · refine (markOrphaned_ensures record record.status).bind fun _ _ _ => ensures_throw
  · rename_i completed
    obtain ⟨valid, -⟩ := BackupRecord.validateCompleted_eq_ok completed
    refine ensures_lift_bind fun _ _ => ensures_lift_bind fun name named => ?_
    refine (checkDestination_ensures rfl).next fun _ => ?_
    refine Ensures.next (ensures_file rfl (archiveName_eq_ok named)) fun verified => ?_
    obtain ⟨digest, size⟩ := verified
    refine ensures_lift.mpr fun _ passed => ?_
    obtain ⟨sameDigest, sameSize⟩ := not_or.mp ((refuse_eq_ok ..).mp passed)
    obtain rfl : digest = record.archiveSHA256 := not_not.mp sameDigest
    obtain rfl : size = record.archiveSizeBytes := not_not.mp sameSize
    exact ⟨record, rfl, valid⟩

end Programs

/-! ### What the stores hold in a phase -/

namespace Archives

/-- A call wrote the bytes to an archive. -/
def Wrote (archives : Archives) (bytes : Bytes) : Prop := ∃ number, (number, bytes) ∈ archives.writes

/-- The digest of bytes a call wrote. -/
def Digested (sha256 : Bytes → String) (archives : Archives) (digest : String) : Prop :=
  ∃ bytes, archives.Wrote bytes ∧ digest = sha256 bytes

/-- A file holds what a call wrote to an archive, or what others put into a file. -/
def Filed (archives : Archives) (name : String) : Prop :=
  ∃ contents, archives.vault.files name = some contents ∧
    (archives.Wrote contents ∨ contents ∈ archives.changes)

end Archives

/-- The file under the final name has the size and the digest of the record, and the digest is that
of the bytes a call wrote; these are the bytes in the file, unless others put them there. -/
def Intact (sha256 : Bytes → String) (backupID : String) (archives : Archives)
    (files : Directory String UInt8) (record : BackupRecord) : Prop :=
  ∃ contents bytes, files (finalName backupID) = some contents ∧ archives.Wrote bytes ∧
    record.archiveSHA256 = sha256 contents ∧ record.archiveSizeBytes = contents.length ∧
    sha256 contents = sha256 bytes ∧ (contents = bytes ∨ contents ∈ archives.changes)

section Matching

variable (sha256 : Bytes → String) (backupID : String)

/-- What the stores hold when a call is in a phase. -/
def ArchivePhase.Matches (archives : Archives) : ArchivePhase → Prop
  | .idle => True
  | .viewed record =>
    record.status = .valid → archives.vault.database.backup backupID = some record
  | .compared record digest size =>
    (record.status = .valid → archives.vault.database.backup backupID = some record) ∧
      ∃ contents, archives.vault.files (finalName backupID) = some contents ∧
        digest = sha256 contents ∧ size = contents.length
  | .reserved => archives.vault.database.backup backupID ≠ none ∧ archives.writes = []
  | .opened =>
    archives.vault.database.backup backupID ≠ none ∧ archives.writes = [] ∧
      archives.started (partialName (finalName backupID)) = none ∧
      archives.vault.files (partialName (finalName backupID)) = some [] ∧
      archives.vault.handle = some (partialName (finalName backupID))
  | .written digest =>
    archives.vault.database.backup backupID ≠ none ∧
      archives.started (partialName (finalName backupID)) = none ∧
      archives.Digested sha256 digest ∧ archives.Filed (partialName (finalName backupID))
  | .renamed digest => archives.Digested sha256 digest ∧ archives.Filed (finalName backupID)
  | .verified digest _ _ => archives.Digested sha256 digest ∧ archives.Filed (finalName backupID)

/-- What holds of the two stores in every state, whoever is at work. -/
structure Sound (files : Directory String UInt8) (archives : Archives) : Prop where
  coherent : archives.vault.database.Coherent
  unreserved : archives.vault.database.backup backupID = none →
    archives.vault.files = archives.found ∧ archives.writes = []
  unchanged : archives.changes = [] → archives.found = files
  kept : Directory.Keeps archives.started archives.vault.files
  single : archives.writes.length ≤ 1
  completed : ∀ record, archives.vault.database.backup backupID = some record →
    record.status = .valid →
    archives.Digested sha256 record.archiveSHA256 ∧ archives.Filed (finalName backupID)
  inspected : ∀ vault ∈ archives.inspections, ∃ record,
    vault.database.backup backupID = some record ∧ record.status = .valid ∧
      Intact sha256 backupID archives vault.files record

end Matching

variable {codec : Codec} {sha256 : Bytes → String} {backupID : String}
  {files : Directory String UInt8} {archives : Archives} {phase : ArchivePhase}
  {before after : Database}

section Memory

variable {later : Archives}

theorem Archives.Wrote.mono {bytes : Bytes} (wrote : archives.Wrote bytes)
    (writes : archives.writes ⊆ later.writes) : later.Wrote bytes :=
  wrote.imp fun _ member => writes member

theorem Archives.Digested.mono {digest : String} (digested : archives.Digested sha256 digest)
    (writes : archives.writes ⊆ later.writes) : later.Digested sha256 digest :=
  digested.imp fun _ wrote => ⟨wrote.1.mono writes, wrote.2⟩

theorem Intact.mono {record : BackupRecord} {found : Directory String UInt8}
    (intact : Intact sha256 backupID archives found record)
    (writes : archives.writes ⊆ later.writes) (changes : archives.changes ⊆ later.changes) :
    Intact sha256 backupID later found record := by
  obtain ⟨contents, bytes, present, wrote, digest, size, same, origin⟩ := intact
  exact ⟨contents, bytes, present, wrote.mono writes, digest, size, same,
    origin.imp_right fun member => changes member⟩

end Memory

/-! ### Transactions -/

/-- How a transaction may move the record of the backup. -/
inductive RecordMoves (phase : ArchivePhase) : Option BackupRecord → Option BackupRecord → Prop
  | kept {found : Option BackupRecord} : RecordMoves phase found found
  | reserved {record : BackupRecord} (unfinished : record.status ≠ .valid) :
      RecordMoves phase none (some record)
  | advanced {record next : BackupRecord} (unfinished : record.status ≠ .valid)
      (invalid : next.status ≠ .valid) : RecordMoves phase (some record) (some next)
  | completed {record next : BackupRecord} (unfinished : record.status ≠ .valid)
      (verified : phase = .verified next.archiveSHA256 next.archiveSHA256 next.archiveSizeBytes) :
      RecordMoves phase (some record) (some next)

theorem RecordMoves.reserved_persists {record next : Option BackupRecord}
    (moves : RecordMoves phase record next) (present : record ≠ none) : next ≠ none := by
  cases moves with
  | kept => exact present
  | reserved => exact absurd rfl present
  | advanced | completed => exact Option.some_ne_none _

theorem RecordMoves.valid_persists {record : BackupRecord} {next : Option BackupRecord}
    (moves : RecordMoves phase (some record) next) (valid : record.status = .valid) :
    next = some record := by
  cases moves with
  | kept => rfl
  | advanced unfinished | completed unfinished => exact absurd valid unfinished

theorem Ledger.Step.recordMoves {before after : Ledger} {call : StoreCall} {context : Context}
    (step : Ledger.Step codec before call after)
    (allowed : phase.Allows backupID (.store context call)) :
    RecordMoves phase (before.backups backupID) (after.backups backupID) := by
  rcases step.backup_cases backupID with same | ⟨record, next, found, stored, move⟩ |
    ⟨record, _, _, _, rfl, same, stored, reserves⟩
  · rw [same]
    exact .kept
  · rw [found, stored]
    cases move with
    | advanced allowedTransition =>
      refine .advanced (fun valid => ?_) (Store.allowedTransition_ne_valid allowedTransition)
      rw [valid] at allowedTransition
      cases allowedTransition
    | completed _ _ _ completable =>
      refine .completed (fun valid => ?_) allowed.2
      rw [completable.verifying] at valid
      cases valid
  · have fresh := reserves.fresh
    rw [← same] at fresh
    rw [fresh, stored]
    refine .reserved fun valid => ?_
    rw [reserves.reservable.status] at valid
    cases valid

theorem Ledger.Step.record_kept {before after : Ledger} {call : StoreCall}
    (step : Ledger.Step codec before call after) (unconcerned : call.Concerns backupID = false) :
    after.backups backupID = before.backups backupID := by
  rcases step.backup_cases backupID with same | ⟨record, next, found, stored, move⟩ |
    ⟨record, _, _, _, rfl, same, stored, reserves⟩
  · exact same
  · cases move with
    | advanced | completed => exact absurd unconcerned (by simp [StoreCall.Concerns])
  · exact absurd unconcerned (by simp [StoreCall.Concerns, same])

section Reactions

variable {context : Context} {call : StoreCall} {answer : Except Failure call.Result}

section

variable (reacts : Reacts codec before (.store context call) answer after)
  (coherent : before.Coherent)

include reacts coherent

theorem Reacts.refines :
    after = before ∨ after.Coherent ∧ Ledger.Step codec before.ledger call after.ledger := by
  rcases reacts.commits_or_fails with ⟨ids, commits⟩ | ⟨same, -⟩
  · exact Or.inr (commits_refines coherent commits)
  · exact Or.inl same

theorem Reacts.recordMoves (allowed : phase.Allows backupID (.store context call)) :
    after.Coherent ∧ RecordMoves phase (before.backup backupID) (after.backup backupID) := by
  rcases reacts.refines coherent with rfl | ⟨coherentAfter, step⟩
  · exact ⟨coherent, .kept⟩
  · exact ⟨coherentAfter, step.recordMoves allowed⟩

theorem Reacts.record_kept (unconcerned : call.Concerns backupID = false) :
    after.Coherent ∧ after.backup backupID = before.backup backupID := by
  rcases reacts.refines coherent with rfl | ⟨coherentAfter, step⟩
  · exact ⟨coherent, rfl⟩
  · exact ⟨coherentAfter, step.record_kept unconcerned⟩

end

end Reactions

theorem Sound.commit (sound : Sound sha256 backupID files archives)
    (matched : phase.Matches sha256 backupID archives) (coherent : after.Coherent)
    (moves : RecordMoves phase (archives.vault.database.backup backupID)
      (after.backup backupID)) :
    Sound sha256 backupID files
      { archives with vault := { archives.vault with database := after } } where
  coherent := coherent
  unreserved absent := by
    refine sound.unreserved ?_
    by_contra present
    exact moves.reserved_persists present absent
  unchanged := sound.unchanged
  kept := sound.kept
  single := sound.single
  completed record found valid := by
    have finished := sound.completed record
    change after.backup backupID = some record at found
    rw [found] at moves
    generalize archives.vault.database.backup backupID = earlier at moves finished
    cases moves with
    | kept => exact finished rfl valid
    | reserved unfinished => exact absurd valid unfinished
    | advanced _ invalid => exact absurd valid invalid
    | completed _ verified =>
      subst verified
      exact matched
  inspected := sound.inspected

theorem ArchivePhase.Matches.commit (matched : phase.Matches sha256 backupID archives)
    {other : ArchivePhase}
    (moves : RecordMoves other (archives.vault.database.backup backupID)
      (after.backup backupID)) :
    phase.Matches sha256 backupID
      { archives with vault := { archives.vault with database := after } } := by
  cases phase with
  | idle => exact trivial
  | viewed record =>
    intro valid
    rw [matched valid] at moves
    exact moves.valid_persists valid
  | compared record digest size =>
    refine ⟨fun valid => ?_, matched.2⟩
    rw [matched.1 valid] at moves
    exact moves.valid_persists valid
  | reserved => exact ⟨moves.reserved_persists matched.1, matched.2⟩
  | opened => exact ⟨moves.reserved_persists matched.1, matched.2⟩
  | written digest => exact ⟨moves.reserved_persists matched.1, matched.2⟩
  | renamed | verified => exact matched

/-- A transaction of the call that is going on leads to a sound state that holds what the next
phase should. -/
theorem Sound.transact (sound : Sound sha256 backupID files archives)
    (matched : phase.Matches sha256 backupID archives) {context : Context} {call : StoreCall}
    {answer : Except Failure call.Result}
    (allowed : phase.Allows backupID (.store context call))
    (reacts : Reacts codec archives.vault.database (.store context call) answer after) :
    Sound sha256 backupID files
        { archives with vault := { archives.vault with database := after } } ∧
      (phase.next (.store context call) answer).Matches sha256 backupID
        { archives with vault := { archives.vault with database := after } } := by
  obtain ⟨coherent, moves⟩ := reacts.recordMoves sound.coherent allowed
  refine ⟨sound.commit matched coherent moves, ?_⟩
  have remains := matched.commit moves
  cases call with
  | reserveBackup record now =>
    obtain ⟨rfl, rfl⟩ := allowed
    cases answer with
    | error failure => exact trivial
    | ok result =>
      obtain ⟨ids, run⟩ := reacts.exec_of_ok
      have commits : Commits codec archives.vault.database ⟨ids, .reserveBackup record now⟩ after :=
        ⟨result, run⟩
      obtain ⟨fresh, stored⟩ := (commits_refines sound.coherent commits).2.reserved_backup
      refine ⟨fun absent => ?_, (sound.unreserved fresh).2⟩
      exact Option.some_ne_none record (stored.symm.trans absent)
  | transitionBackupStatus id status now =>
    rw [phase.next_inert rfl]
    exact remains
  | completeBackup id digest size ready now =>
    cases phase <;> exact trivial
  | getBackup id =>
    obtain rfl : id = backupID := allowed
    cases phase with
    | idle =>
      cases answer with
      | error failure => exact trivial
      | ok record =>
        obtain ⟨ids, run⟩ := reacts.exec_of_ok
        obtain ⟨found, rfl⟩ := reading_eq_ok.mp run
        exact fun _ => (demand_eq_ok ..).mp found
    | viewed | compared | reserved | opened | written | renamed | verified => exact remains
  | _ => exact allowed.elim

theorem Sound.bystand (sound : Sound sha256 backupID files archives)
    (matched : phase.Matches sha256 backupID archives) (coherent : after.Coherent)
    (kept : after.backup backupID = archives.vault.database.backup backupID) :
    Sound sha256 backupID files
        { archives with vault := { archives.vault with database := after } } ∧
      phase.Matches sha256 backupID
        { archives with vault := { archives.vault with database := after } } := by
  have moves : RecordMoves phase (archives.vault.database.backup backupID)
      (after.backup backupID) := by
    rw [kept]
    exact .kept
  exact ⟨sound.commit matched coherent moves, matched.commit moves⟩

/-! ### File actions -/

theorem Turn.attempt_eq_ok {Result : Type} {turn : Turn} {result : Except Failure Result}
    {value : Result} (succeeds : turn.attempt result = .ok value) : result = .ok value := by
  unfold Turn.attempt at succeeds
  split at succeeds
  · exact succeeds
  · cases succeeds

theorem Archives.Filed.touch {name : String} {next : Directory String UInt8}
    (filed : archives.Filed name) (handle : Option String) (more : List (Nat × Bytes))
    (kept : ∀ contents, archives.vault.files name = some contents → next name = some contents) :
    Filed { archives with
      vault := { archives.vault with files := next, handle := handle }
      writes := more ++ archives.writes } name := by
  obtain ⟨contents, present, origin⟩ := filed
  exact ⟨contents, kept contents present,
    origin.imp_left fun wrote => wrote.mono (List.subset_append_right more _)⟩

/-- Another destination that differs at most in the partial file, with at most one write. -/
theorem Sound.touch (sound : Sound sha256 backupID files archives)
    (reserved : archives.vault.database.backup backupID ≠ none)
    {next : Directory String UInt8} (handle : Option String) (more : List (Nat × Bytes))
    (spared : Directory.KeepsBut (partialName (finalName backupID)) archives.vault.files next)
    (kept : Directory.Keeps archives.started next)
    (single : (more ++ archives.writes).length ≤ 1) :
    Sound sha256 backupID files
      { archives with
        vault := { archives.vault with files := next, handle := handle }
        writes := more ++ archives.writes } where
  coherent := sound.coherent
  unreserved absent := absurd absent reserved
  unchanged := sound.unchanged
  kept := kept
  single := single
  completed record found valid := by
    obtain ⟨digested, filed⟩ := sound.completed record found valid
    exact ⟨digested.mono (List.subset_append_right more _), filed.touch handle more
      fun contents => spared _ contents (finalName_ne_partialName backupID)⟩
  inspected vault member := by
    obtain ⟨record, found, valid, intact⟩ := sound.inspected vault member
    exact ⟨record, found, valid,
      intact.mono (List.subset_append_right more _) (List.Subset.refl _)⟩

variable (codec) (turn : Turn)

/-- The state after an action is sound and holds what the next phase should. -/
def KeepsSound (sha256 : Bytes → String) (backupID : String) (files : Directory String UInt8)
    (phase : ArchivePhase) (archives : Archives) (turn : Turn) (effect : Effect) : Prop :=
  Sound sha256 backupID files (archives.act codec sha256 turn effect).2 ∧
    (phase.next effect (archives.act codec sha256 turn effect).1).Matches sha256 backupID
      (archives.act codec sha256 turn effect).2

section

variable (sound : Sound sha256 backupID files archives)

include sound

theorem Sound.createPartial
    (matched : ArchivePhase.reserved.Matches sha256 backupID archives) :
    KeepsSound codec sha256 backupID files .reserved archives turn
      (.file (.createPartial (finalName backupID))) := by
  obtain ⟨reserved, unwritten⟩ := matched
  rcases created : turn.attempt (demand
      (archives.vault.files.createExclusive (partialName (finalName backupID)))
      (.other "file exists")) with failure | next
  · have acted : archives.act codec sha256 turn (.file (.createPartial (finalName backupID))) =
        (.error failure, archives) := by
      simp only [Archives.act, Vault.act, Vault.touch, created]
      rfl
    rw [KeepsSound, acted]
    exact ⟨sound, trivial⟩
  · have acted : archives.act codec sha256 turn (.file (.createPartial (finalName backupID))) =
        (.ok (), { archives with
          vault := { archives.vault with
            files := next
            handle := some (partialName (finalName backupID)) } }) := by
      simp only [Archives.act, Vault.act, Vault.touch, created]
      rfl
    have exclusive := (demand_eq_ok ..).mp (Turn.attempt_eq_ok created)
    have keeps := Directory.keeps_createExclusive exclusive
    obtain ⟨absent, rfl⟩ := Directory.createExclusive_eq_some exclusive
    rw [KeepsSound, acted]
    exact ⟨sound.touch reserved _ [] (fun name bytes _ => keeps name bytes)
      (sound.kept.trans keeps) sound.single, reserved, unwritten, sound.kept.absent absent,
      Function.update_self .., rfl⟩

theorem Sound.archive
    (matched : ArchivePhase.opened.Matches sha256 backupID archives) :
    KeepsSound codec sha256 backupID files .opened archives turn (.file .archive) := by
  obtain ⟨reserved, unwritten, absent, empty, opened⟩ := matched
  have acted : archives.act codec sha256 turn (.file .archive) =
      (turn.attempt (.ok (sha256 turn.bytes)),
        { archives with
          vault := { archives.vault with
            files := archives.vault.files.append (partialName (finalName backupID)) turn.bytes }
          writes := [(archives.calls, turn.bytes)] ++ archives.writes }) := by
    simp only [Archives.act, Vault.act, Vault.touch, Archives.written, opened]
  have keeps := Directory.keepsBut_append archives.vault.files
    (partialName (finalName backupID)) turn.bytes
  have single : ([(archives.calls, turn.bytes)] ++ archives.writes).length ≤ 1 := by
    rw [unwritten]
    exact Nat.le_refl 1
  rw [KeepsSound, acted]
  refine ⟨sound.touch reserved _ _ keeps (sound.kept.trans_but absent keeps) single, ?_⟩
  rcases answered : turn.attempt (.ok (sha256 turn.bytes)) with failure | digest
  · exact trivial
  · have same : digest = sha256 turn.bytes :=
      (Except.ok.inj (Turn.attempt_eq_ok answered)).symm
    have wrote : ∃ number, (number, turn.bytes) ∈ [(archives.calls, turn.bytes)] ++ archives.writes :=
      ⟨archives.calls, List.mem_append_left _ List.mem_cons_self⟩
    exact ⟨reserved, absent, ⟨turn.bytes, wrote, same⟩, turn.bytes,
      Directory.append_self empty turn.bytes, Or.inl wrote⟩

theorem Sound.closePartial {digest : String}
    (matched : (ArchivePhase.written digest).Matches sha256 backupID archives) :
    KeepsSound codec sha256 backupID files (.written digest) archives turn (.file .closePartial) :=
  ⟨sound.touch matched.1 none [] (fun _ _ _ => id) sound.kept sound.single, matched⟩

theorem Sound.renamePartial {digest : String}
    (matched : (ArchivePhase.written digest).Matches sha256 backupID archives) :
    KeepsSound codec sha256 backupID files (.written digest) archives turn
      (.file (.renamePartial (finalName backupID))) := by
  obtain ⟨reserved, absent, digested, bytes, present, origin⟩ := matched
  rcases renamed : turn.attempt (demand
      (archives.vault.files.renameNoReplace (partialName (finalName backupID))
        (finalName backupID)) (.other "file exists")) with failure | next
  · have acted : archives.act codec sha256 turn (.file (.renamePartial (finalName backupID))) =
        (.error failure, archives) := by
      simp only [Archives.act, Vault.act, Vault.touch, renamed]
      rfl
    rw [KeepsSound, acted]
    exact ⟨sound, trivial⟩
  · have acted : archives.act codec sha256 turn (.file (.renamePartial (finalName backupID))) =
        (.ok (), { archives with vault := { archives.vault with files := next } }) := by
      simp only [Archives.act, Vault.act, Vault.touch, renamed]
      rfl
    have exclusive := (demand_eq_ok ..).mp (Turn.attempt_eq_ok renamed)
    have keeps := Directory.keepsBut_renameNoReplace exclusive
    obtain ⟨contents, found, -, rfl⟩ := Directory.renameNoReplace_eq_some exclusive
    rw [present] at found
    cases found
    rw [KeepsSound, acted]
    exact ⟨sound.touch reserved _ [] keeps (sound.kept.trans_but absent keeps) sound.single,
      digested, bytes, Function.update_self .., origin⟩

theorem Sound.verify
    (matched : phase.Matches sha256 backupID archives) :
    KeepsSound codec sha256 backupID files phase archives turn
      (.file (.verify (finalName backupID))) := by
  refine ⟨sound, ?_⟩
  cases phase with
  | viewed record =>
    rcases answered : (archives.act codec sha256 turn
        (.file (.verify (finalName backupID)))).1 with failure | ⟨digest, size⟩
    · exact matched
    · obtain ⟨contents, present, read⟩ := bind_eq_ok.mp (Turn.attempt_eq_ok answered)
      obtain ⟨rfl, rfl⟩ := Prod.mk.inj (Except.ok.inj read)
      exact ⟨matched, contents, (demand_eq_ok ..).mp present, rfl, rfl⟩
  | renamed digest =>
    rcases answered : (archives.act codec sha256 turn
        (.file (.verify (finalName backupID)))).1 with failure | reading
    · exact matched
    · exact matched
  | idle | compared | reserved | opened | written | verified => exact matched

theorem Sound.rest
    (matched : phase.Matches sha256 backupID archives) (quiet : ArchivePhase.inert effect = true)
    (still : (archives.act codec sha256 turn effect).2 = archives) :
    KeepsSound codec sha256 backupID files phase archives turn effect := by
  rw [KeepsSound, phase.next_inert quiet, still]
  exact ⟨sound, matched⟩

/-- Every action that a phase allows keeps the stores sound and leads to a phase they match. -/
theorem Sound.act
    (matched : phase.Matches sha256 backupID archives) (allowed : phase.Allows backupID effect) :
    KeepsSound codec sha256 backupID files phase archives turn effect := by
  cases effect with
  | store context call =>
    exact sound.transact matched allowed (deliver_reacts turn.delivery context call)
  | file action =>
    cases action with
    | createPartial name =>
      obtain ⟨rfl, rfl⟩ := allowed
      exact sound.createPartial codec turn matched
    | archive =>
      obtain rfl : phase = .opened := allowed
      exact sound.archive codec turn matched
    | closePartial =>
      obtain ⟨digest, rfl⟩ := allowed
      exact sound.closePartial codec turn matched
    | renamePartial name =>
      obtain ⟨⟨digest, rfl⟩, rfl⟩ := allowed
      exact sound.renamePartial codec turn matched
    | verify name =>
      obtain rfl : name = finalName backupID := allowed
      exact sound.verify codec turn matched
    | _ => exact sound.rest codec turn matched rfl rfl
  | _ => exact sound.rest codec turn matched rfl rfl

end

/-! ### Changes -/

theorem Archives.Filed.replace {name : String} (filed : archives.Filed name) (other : String)
    (contents : Bytes) : (archives.replace other contents).Filed name := by
  obtain ⟨old, present, origin⟩ := filed
  refine ⟨_, Directory.replace_eq_some present other contents, ?_⟩
  split
  · exact Or.inr List.mem_cons_self
  · exact origin.imp_right (List.mem_cons_of_mem contents)

theorem Sound.replace (sound : Sound sha256 backupID files archives) (name : String)
    (contents : Bytes) : Sound sha256 backupID files (archives.replace name contents) where
  coherent := sound.coherent
  unreserved absent := by
    obtain ⟨same, unwritten⟩ := sound.unreserved absent
    exact ⟨congrArg (Directory.replace · name contents) same, unwritten⟩
  unchanged none := absurd none (List.cons_ne_nil _ _)
  kept := sound.kept.replace name contents
  single := sound.single
  completed record found valid := by
    obtain ⟨digested, filed⟩ := sound.completed record found valid
    exact ⟨digested, filed.replace name contents⟩
  inspected vault member := by
    obtain ⟨record, found, valid, intact⟩ := sound.inspected vault member
    exact ⟨record, found, valid, intact.mono (List.Subset.refl _) (List.subset_cons_self ..)⟩

theorem ArchivePhase.Matches.replace (matched : phase.Matches sha256 backupID archives)
    (active : phase.active = true) {name : String} (closed : archives.vault.handle ≠ some name)
    (contents : Bytes) : phase.Matches sha256 backupID (archives.replace name contents) := by
  cases phase with
  | idle | viewed | reserved => exact matched
  | compared => cases active
  | opened =>
    obtain ⟨reserved, unwritten, absent, empty, opened⟩ := matched
    have different : partialName (finalName backupID) ≠ name :=
      fun same => closed (opened.trans (congrArg some same))
    have still := Directory.replace_eq_some empty name contents
    rw [if_neg different] at still
    exact ⟨reserved, unwritten, Directory.replace_eq_none absent name contents, still, opened⟩
  | written digest =>
    obtain ⟨reserved, absent, digested, filed⟩ := matched
    exact ⟨reserved, Directory.replace_eq_none absent name contents, digested,
      filed.replace name contents⟩
  | renamed | verified => exact ⟨matched.1, matched.2.replace name contents⟩

/-! ### Whole runs -/

/-- What a finished call has established: an inspection that succeeded has read a valid record and
an archive with its digest and size. -/
def Concludes (task : Task) (later : ArchivePhase) (outcome : Except Failure Unit) : Prop :=
  task = .inspect → outcome = .ok () → ∃ record,
    later = .compared record record.archiveSHA256 record.archiveSizeBytes ∧ record.status = .valid

/-- The stores are sound, and the call that is going on is in a phase that they match. -/
structure Orderly (sha256 : Bytes → String) (backupID : String) (files : Directory String UInt8)
    (archives : Archives) : Prop where
  sound : Sound sha256 backupID files archives
  running : ∀ task rest, archives.running = some (task, rest) →
    ∃ phase : ArchivePhase, phase.Matches sha256 backupID archives ∧
      (archiving backupID).Safe phase rest (Concludes task)

theorem Sound.stop (sound : Sound sha256 backupID files archives) :
    Sound sha256 backupID files archives.stop :=
  { sound with }

section

variable (orderly : Orderly sha256 backupID files archives)

include orderly

theorem Orderly.stop :
    Orderly sha256 backupID files archives.stop :=
  ⟨orderly.sound.stop, fun _ _ impossible => nomatch impossible⟩

theorem Orderly.start {task : Task}
    {program : Program Effect Effect.Answer (Except Failure Unit)}
    (safe : (archiving backupID).Safe .idle program (Concludes task)) :
    Orderly sha256 backupID files (archives.start task program) := by
  unfold Archives.start
  split
  · exact orderly
  · have sound := orderly.sound
    refine ⟨{ sound with kept := Directory.Keeps.refl _ }, ?_⟩
    rintro _ _ ⟨⟩
    exact ⟨.idle, trivial, safe⟩

theorem Orderly.inspected
    (running : archives.running = some (.inspect, .done (.ok ()))) :
    Orderly sha256 backupID files
      { archives.stop with inspections := archives.vault :: archives.inspections } := by
  obtain ⟨phase, matched, concludes⟩ := orderly.running _ _ running
  obtain ⟨record, rfl, valid⟩ := concludes rfl rfl
  obtain ⟨viewed, contents, present, digest, size⟩ := matched
  have found := viewed valid
  have sound := orderly.sound
  have intact : Intact sha256 backupID archives archives.vault.files record := by
    obtain ⟨⟨bytes, wrote, same⟩, also, alsoPresent, origin⟩ := sound.completed record found valid
    obtain rfl := Option.mem_unique present alsoPresent
    rcases origin with own | changed
    · exact ⟨contents, contents, present, own, digest, size, rfl, Or.inl rfl⟩
    · exact ⟨contents, bytes, present, wrote, digest, size, digest.symm.trans same,
        Or.inr changed⟩
  refine ⟨{ sound with inspected := fun vault member => ?_ },
    fun _ _ impossible => nomatch impossible⟩
  rcases List.mem_cons.mp member with rfl | earlier
  · exact ⟨record, found, valid, intact⟩
  · exact sound.inspected vault earlier

theorem Orderly.proceed :
    Orderly sha256 backupID files (archives.proceed codec sha256 turn) := by
  unfold Archives.proceed
  split
  · exact orderly
  · rename_i running
    exact orderly.inspected running
  · exact orderly.stop
  · rename_i task effect next running
    obtain ⟨phase, matched, ⟨-, allowed⟩, continues⟩ := orderly.running _ _ running
    obtain ⟨sound, nextMatched⟩ := orderly.sound.act codec turn matched allowed
    refine ⟨{ sound with }, ?_⟩
    rintro _ _ ⟨⟩
    exact ⟨_, nextMatched, continues _ _ rfl⟩

theorem Orderly.other (delivery : Delivery)
    (call : StoreCall) :
    Orderly sha256 backupID files (archives.other codec backupID delivery call) := by
  unfold Archives.other
  split
  · exact orderly
  · rename_i unconcerned
    obtain ⟨coherent, kept⟩ := (deliver_reacts delivery .bounded call).record_kept
      orderly.sound.coherent (Bool.eq_false_iff.mpr unconcerned)
    have idle : ArchivePhase.idle.Matches sha256 backupID archives := trivial
    refine ⟨(orderly.sound.bystand idle coherent kept).1, ?_⟩
    intro task rest running
    obtain ⟨phase, matched, safe⟩ := orderly.running task rest running
    exact ⟨phase, (orderly.sound.bystand matched coherent kept).2, safe⟩

theorem Orderly.change (name : String) (contents : Bytes) :
    Orderly sha256 backupID files (archives.change name contents) := by
  unfold Archives.change
  split
  · exact orderly
  · rename_i unfinished
    split
    · exact orderly
    · rename_i closed
      refine ⟨orderly.sound.replace name contents, fun task rest running => ?_⟩
      obtain ⟨phase, matched, safe⟩ := orderly.running task rest running
      cases rest with
      | done outcome => exact absurd running (unfinished task outcome)
      | call effect next => exact ⟨phase, matched.replace safe.1.1 closed contents, safe⟩

theorem Orderly.step
    (choice : ArchiveChoice) :
    Orderly sha256 backupID files (archives.step codec sha256 backupID choice) := by
  cases choice with
  | create engine record revalidation =>
    exact orderly.start
      (Safe.weaken (create_safe engine { record with backupID := backupID } revalidation)
        fun _ _ _ impossible => nomatch impossible)
  | inspect engine =>
    exact orderly.start (Safe.weaken (inspect_safe engine) fun _ _ valid _ => valid ())
  | proceed turn => exact orderly.proceed codec turn
  | cutOff => exact orderly.stop
  | other delivery call => exact orderly.other codec delivery call
  | change name contents => exact orderly.change name contents

end

theorem initial_orderly : Orderly sha256 backupID files (.initial files) where
  sound :=
    { coherent := empty_coherent
      unreserved := fun _ => ⟨rfl, rfl⟩
      unchanged := fun _ => rfl
      kept := Directory.Keeps.refl files
      single := Nat.zero_le 1
      completed := fun _ found => nomatch found
      inspected := fun _ member => nomatch member }
  running _ _ impossible := nomatch impossible

theorem reach_orderly (choices : List ArchiveChoice) :
    Orderly sha256 backupID files (.reach codec sha256 backupID files choices) :=
  Runs.invariant_run _ (fun _ choice orderly => orderly.step codec choice) initial_orderly choices

/-- The crash safety of the archives of a backup, however calls of `Create` and `Inspect` are cut
off or fail and whatever others put into files. Before the reservation is committed the files are
those that are there without the calls; every file that was there when a call was started is still
there; the archive is written at most once; and where an inspection succeeded, the record was valid
and the file under the final name had its size and its digest, which is that of the bytes that were
written. Without changes, the files that are there are those of the start. -/
theorem archive_crash_safe (codec : Codec) (sha256 : Bytes → String) (backupID : String)
    (files : Directory String UInt8) (choices : List ArchiveChoice) :
    let archives := Archives.reach codec sha256 backupID files choices
    (archives.vault.database.backup backupID = none → archives.vault.files = archives.found) ∧
      (archives.changes = [] → archives.found = files) ∧
      Directory.Keeps archives.started archives.vault.files ∧
      archives.writes.length ≤ 1 ∧
      ∀ vault ∈ archives.inspections, ∃ record,
        vault.database.backup backupID = some record ∧ record.status = .valid ∧
          Intact sha256 backupID archives vault.files record := by
  have sound : Sound sha256 backupID files (.reach codec sha256 backupID files choices) :=
    (reach_orderly codec choices).sound
  exact ⟨fun absent => (sound.unreserved absent).1, sound.unchanged, sound.kept, sound.single,
    sound.inspected⟩

/-- The transactions before S05, then a call of `Create`, some changes, and a call of `Inspect`.
The calls meet no failure and are not cut off. -/
def fixtureArchiving (changes : List ArchiveChoice) (operation : Operation) : List ArchiveChoice :=
  let turn : Turn :=
    { world := fixtureWorld
      delivery := .delivered (fixtureIDs "5")
      failure := none
      bytes := [1, 2, 3] }
  reservedBackup.map (fun transaction => .other (.delivered transaction.ids) transaction.call) ++
    [.create fixtureFoundation.engine fixtureReservation
      (fixtureFoundation.revalidation fixtureCodec firstProposal.intent operation)] ++
    List.replicate 40 (.proceed turn) ++ changes ++ [.inspect fixtureFoundation.engine] ++
    List.replicate 10 (.proceed turn)

/-- With the operation as S05 finds it, the inspection succeeds, unless the archive was truncated
before. -/
example :
    ((replay fixtureCodec reservedBackup).operation "operation_a").map (fun operation =>
      [[], [.change "backup_a.tar" [1]]].map fun changes =>
        (Archives.reach fixtureCodec (fun _ => firstProposal.intent.fromSHA256) "backup_a"
          (fun _ => none) (fixtureArchiving changes operation)).inspections.length) =
      some [1, 0] := by
  decide +kernel

end GuardedAgentRunner
