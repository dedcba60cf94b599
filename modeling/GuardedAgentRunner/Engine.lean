/-
This file models the offline backup engine: `Create`, which revalidates, reserves,
writes, renames, rereads and commits an archive and never resumes partial work,
and `Inspect`, which accepts a backup only with complete metadata and an intact
archive and marks an archive without complete metadata as orphaned. The bytes of
the archive and of the source are on the other side of the file actions.
-/

import GuardedAgentRunner.Effects

namespace GuardedAgentRunner

open Fallible Program

/-- An engine: the enrollment it was configured with, and whether a test hook is set. -/
structure Engine where
  enrollment : Enrollment
  boundary : Bool

/-- The characters of a backup identifier. -/
def archiveCharacter (character : Char) : Bool :=
  ('a' ≤ character && character ≤ 'z') || ('A' ≤ character && character ≤ 'Z') ||
    ('0' ≤ character && character ≤ '9') || character = '-' || character = '_'

/-- `archiveName`. -/
def archiveName (backupID : String) : Except Failure String := do
  refuse (backupID.utf8ByteSize = 0 ∨ backupID.utf8ByteSize > 128)
    (.other "invalid backup ID")
  refuse (¬ backupID.toList.all archiveCharacter) (.other "invalid backup ID")
  pure (backupID ++ ".tar")

namespace Engine

variable (engine : Engine)

/-- The destination is open and is the directory the engine was opened on. -/
def checkDestination : Flow Unit := do
  file .openDestination
  match ← reify (file .destinationIdentity) with
  | .ok true => pure ()
  | _ => throw (newError .intentStale "backup destination identity changed")

/-- The source artifact still has the approved bytes. -/
def checkSource (artifact : ArtifactRecord) (message : String) : Flow Unit := do
  let (digest, _) ← file .verifySourceArtifact
  refuse (digest ≠ artifact.sha256) (newError .intentStale message)

/-- The part of `Create` before the reservation: everything that must hold of the source and the
destination. -/
def prepare (record : BackupRecord) : Flow (String × ArtifactRecord) := do
  refuse (record.targetID ≠ engine.enrollment.targetID ∨
      record.dataRootIdentity ≠ engine.enrollment.dataRootIdentity)
    (newError .intentStale "backup engine enrollment changed")
  let name ← archiveName record.backupID
  file .openSource
  let identity ← file .sourceIdentity
  refuse (identity ≠ engine.enrollment.dataRootIdentity)
    (newError .intentStale "source filesystem identity changed")
  checkDestination
  match record.sourceArtifacts with
  | [artifact] => do
    checkSource artifact "offline source artifact bytes changed"
    match ← reify (file (.lstat name)) with
    | .ok false => pure (name, artifact)
    | _ =>
      throw (newError .backupNotReady
        "archive exists or cannot be inspected; manual reconciliation required")
  | _ => throw (newError .preconditionUnavailable "source artifact evidence missing")

/-- `TransitionBackupStatus` at the current time. -/
def advance (backupID : String) (status : BackupStatus) : Flow Unit := do
  store .bounded (.transitionBackupStatus backupID status (← now))

/-- The part of `Create` that writes the partial file and renames it. -/
def write (backupID name : String) : Flow String := do
  advance backupID .writing
  file (.createPartial name)
  checkpoint engine.boundary "temp_created"
  let written ← file .archive
  file .syncPartial
  file .closePartial
  advance backupID .finalizing
  file .openDirectory
  file (.renamePartial name)
  file .syncDirectory
  checkpoint engine.boundary "archive_renamed"
  pure written

/-- The part of `Create` that rereads the archive and revalidates the offline writer. -/
def reread (check : Flow BackupReadyEvidence) (backupID name written : String)
    (artifact : ArtifactRecord) : Flow (String × Int × BackupReadyEvidence) := do
  advance backupID .verifying
  let (digest, size) ← file (.verify name)
  refuse (digest ≠ written) (newError .backupNotReady "archive reread digest mismatch")
  let ready ← check
  checkSource artifact "source artifact changed during backup"
  pure (digest, size, ready)

/-- `Create`. -/
def create (record : BackupRecord) (check : Flow BackupReadyEvidence) : Flow Unit := do
  let ready ← check
  let record := { record with ready := ready }
  let (name, artifact) ← engine.prepare record
  store .bounded (.reserveBackup record (← now))
  let written ← engine.write record.backupID name
  let (digest, size, ready) ← reread check record.backupID name written artifact
  store .bounded (.completeBackup record.backupID digest size ready (← now))
  checkpoint engine.boundary "metadata_committed"

/-- Mark an archive without complete metadata as orphaned, if it can be. -/
def markOrphaned (backupID : String) (status : BackupStatus) : Flow Unit := do
  match archiveName backupID with
  | .error _ => pure ()
  | .ok name =>
    if status = .orphaned then pure ()
    else
      match ← reify (file .openDestination) with
      | .error _ => pure ()
      | .ok _ =>
        match ← reify (file (.lstat name)) with
        | .ok true =>
          match ← reify (advance backupID .orphaned) with
          | .ok _ =>
            let _ ← reify (store .bounded (.getBackup backupID))
            pure ()
          | .error _ => pure ()
        | _ => pure ()

/-- `Inspect`, of which callers in this model use the error only. -/
def inspect (backupID : String) : Flow Unit := do
  let record ← store .bounded (.getBackup backupID)
  match record.validateCompleted with
  | .error failure => do
    markOrphaned backupID record.status
    throw failure
  | .ok _ => do
    refuse (record.targetID ≠ engine.enrollment.targetID ∨
        record.enrollmentID ≠ engine.enrollment.enrollmentID ∨
        record.deploymentGeneration ≠ engine.enrollment.deploymentGeneration ∨
        record.containerIdentity ≠ engine.enrollment.containerID ∨
        record.dataRootIdentity ≠ engine.enrollment.dataRootIdentity ∨
        record.paperTuple ≠ engine.enrollment.paperTuple)
      (newError .intentStale "backup belongs to another enrolled target")
    let name ← archiveName backupID
    checkDestination
    let (digest, size) ← file (.verify name)
    refuse (digest ≠ record.archiveSHA256 ∨ size ≠ record.archiveSizeBytes)
      (newError .backupNotReady "backup integrity verification failed")

end Engine

end GuardedAgentRunner
