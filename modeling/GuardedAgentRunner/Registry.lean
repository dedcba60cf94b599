/-
This file models the owner's registry: the enrollment, the catalog of artifacts
and the transition profiles, with the two walks that select a profile, and the
runtime configuration the registry is loaded from. Both catalogs are Go maps, so
a configuration carries the order in which a walk meets their entries. `Validate`
accepts a configuration only if every artifact is filed under its own identifier
and every profile leads between two catalog artifacts of its own plugin.
-/

import GuardedAgentRunner.Backups
import GuardedAgentRunner.Library.KeyMap

namespace GuardedAgentRunner

open Fallible

/-- The eligibility of a transition profile. -/
inductive Eligibility where
  | verifiedTransition
  | g03BackupOnly
  | other (text : String)
  deriving DecidableEq, Repr

structure TransitionProfile where
  profileID : String
  profileDigest : String
  pluginID : String
  fromArtifactID : String
  toArtifactID : String
  paperTuple : String
  verificationProfileID : String
  verificationDigest : String
  recoveryContractID : String
  recoveryDigest : String
  eligibility : Eligibility
  deriving DecidableEq, Repr

structure Registry where
  enrollment : Enrollment
  artifacts : KeyMap ArtifactRecord
  profiles : KeyMap TransitionProfile

variable {profile : TransitionProfile}

namespace Registry

/-- The profile leads to the artifact of the plugin and has the eligibility. -/
def Matches (eligibility : Eligibility) (pluginID targetArtifactID : String)
    (profile : TransitionProfile) : Bool :=
  profile.pluginID = pluginID && profile.toArtifactID = targetArtifactID &&
    profile.eligibility = eligibility

/-- `ProfileFor`: the first match of a walk of the profiles. -/
def profileFor (registry : Registry) (pluginID targetArtifactID : String) :
    Except Failure TransitionProfile :=
  demand (registry.profiles.first (Matches .verifiedTransition pluginID targetArtifactID))
    (newError .unsupportedTransition
      "no owner-registered VERIFIED_TRANSITION matches plugin and artifact IDs")

/-- `ProfileForG03Acceptance`. -/
def profileForG03Acceptance (registry : Registry) (pluginID targetArtifactID : String) :
    Except Failure TransitionProfile :=
  demand (registry.profiles.first (Matches .g03BackupOnly pluginID targetArtifactID))
    (newError .unsupportedTransition
      "no owner-registered G03_BACKUP_ONLY profile matches plugin and artifact IDs")

theorem matches_iff {eligibility : Eligibility} {pluginID targetArtifactID : String} :
    Matches eligibility pluginID targetArtifactID profile = true ↔
      profile.pluginID = pluginID ∧ profile.toArtifactID = targetArtifactID ∧
        profile.eligibility = eligibility := by
  simp only [Matches, Bool.and_eq_true, decide_eq_true_eq, and_assoc]

end Registry

/-! ### The runtime configuration -/

/-- A snapshot file an observation adapter reads. -/
structure SnapshotSource where
  snapshotPath : String
  deriving DecidableEq, Repr

structure Config where
  schemaVersion : String
  enrollment : Enrollment
  artifacts : KeyMap ArtifactRecord
  profiles : KeyMap TransitionProfile
  supportProfileID : String
  currentRevocationEpoch : Int
  paperRuntime : Option SnapshotSource
  hostObservation : Option SnapshotSource

/-- The text is a SHA-256 in lower-case hexadecimal. -/
def FullSHA256 (text : String) : Prop :=
  (Store.hexDecode text.toList).map List.length = some 32 ∧ text = text.toLower
deriving Decidable

/-- `filepath.Clean` on an absolute path. -/
def cleanPath (path : String) : String :=
  let parts := (path.splitOn "/").foldl (fun (parts : List String) part =>
    if part = "" ∨ part = "." then parts
    else if part = ".." then parts.dropLast
    else parts ++ [part]) []
  "/" ++ String.intercalate "/" parts

namespace Config

/-- `SchemaVersion`. -/
def supportedSchema : String := "gar.server-config.v1"

/-- The escape of a character by `%q`; all characters beyond ASCII count as printable. -/
def quotedChar (symbol : Char) : List Char :=
  match [('\x07', 'a'), ('\x08', 'b'), ('\x09', 't'), ('\x0a', 'n'), ('\x0b', 'v'), ('\x0c', 'f'),
      ('\x0d', 'r'), ('\x22', '\x22'), ('\x5c', '\x5c')].lookup symbol with
  | some short => ['\x5c', short]
  | none =>
    if symbol.toNat < 32 ∨ symbol.toNat = 127 then
      ['\x5c', 'x', Nat.digitChar (symbol.toNat / 16), Nat.digitChar (symbol.toNat % 16)]
    else [symbol]

/-- A text as `%q` prints it. -/
def quoted (text : String) : String :=
  String.ofList ('\x22' :: (text.toList.flatMap quotedChar ++ ['\x22']))

/-- The check of an optional snapshot path. -/
def checkSnapshot (field : String) : Option SnapshotSource → Except Failure Unit
  | none => .ok ()
  | some source =>
    refuse (source.snapshotPath = "" ∨ source.snapshotPath.toList.head? ≠ some '/' ∨
        cleanPath source.snapshotPath ≠ source.snapshotPath)
      (.other (field ++ ".snapshot_path must be a clean absolute path"))

/-- The loop over the allowed plugins, with those it has met. -/
def checkAllowedPlugins (met : List String) : List String → Except Failure Unit
  | [] => .ok ()
  | pluginID :: pluginIDs => do
    refuse (pluginID = "") (.other "allowed plugin IDs must not be empty")
    refuse (pluginID ∈ met) (.other ("duplicate allowed plugin ID " ++ quoted pluginID))
    checkAllowedPlugins (pluginID :: met) pluginIDs

variable (config : Config)

/-- The loop body over the artifacts. -/
def checkArtifact (entry : String × ArtifactRecord) : Except Failure Unit := do
  refuse (entry.1 = "" ∨ entry.2.artifactID ≠ entry.1 ∨ entry.2.pluginID = "")
    (.other "artifact registry key and artifact_id must match")
  refuse (entry.2.pluginID ∉ config.enrollment.allowedPlugins.items)
    (.other ("artifact " ++ quoted entry.1 ++ " belongs to a plugin outside the enrollment"))
  refuse (¬ FullSHA256 entry.2.sha256)
    (.other ("artifact " ++ quoted entry.1 ++ " requires a full SHA-256"))

/-- The artifact of the catalog belongs to the plugin. -/
def HasArtifact (artifactID pluginID : String) : Prop :=
  (config.artifacts.find artifactID).map (·.pluginID) = some pluginID
deriving Decidable

/-- The loop body over the profiles. -/
def checkProfile (entry : String × TransitionProfile) : Except Failure Unit := do
  refuse (entry.1 = "" ∨ entry.2.profileID ≠ entry.1 ∨ entry.2.pluginID = "")
    (.other "profile registry key and profile_id must match")
  refuse (entry.2.paperTuple ≠ config.enrollment.paperTuple)
    (.other ("profile " ++ quoted entry.1 ++ " Paper tuple does not match enrollment"))
  refuse (¬ config.HasArtifact entry.2.fromArtifactID entry.2.pluginID ∨
      ¬ config.HasArtifact entry.2.toArtifactID entry.2.pluginID)
    (.other ("profile " ++ quoted entry.1 ++
      " must reference two catalog artifacts for its plugin"))

/-- `Validate`. -/
def validate : Except Failure Unit := do
  refuse (config.schemaVersion ≠ supportedSchema)
    (.other ("unsupported runtime config schema " ++ quoted config.schemaVersion))
  refuse (config.enrollment.enrollmentID = "" ∨ config.enrollment.targetID = "" ∨
      config.enrollment.deploymentGeneration < 1)
    (.other "runtime config requires a fixed enrollment identity")
  refuse (config.currentRevocationEpoch < 1)
    (.other "current_revocation_epoch must be at least 1")
  checkSnapshot "paper_runtime" config.paperRuntime
  checkSnapshot "host_observation" config.hostObservation
  refuse (config.supportProfileID = "") (.other "support_profile.profile_id is required")
  refuse (config.supportProfileID ≠ config.enrollment.supportProfileID)
    (.other "support profile does not match enrollment")
  checkAllowedPlugins [] config.enrollment.allowedPlugins.items
  each config.checkArtifact config.artifacts.entries
  each config.checkProfile config.profiles.entries

/-- `Registry`. -/
def registry : Registry where
  enrollment := config.enrollment
  artifacts := config.artifacts
  profiles := config.profiles

variable {config} {artifact : ArtifactRecord} {artifactID : String}

theorem artifactID_of_validate (accepted : config.validate = .ok ())
    (found : config.artifacts.find artifactID = some artifact) :
    artifact.artifactID = artifactID := by
  simp only [validate, bind_eq_ok, refuse_eq_ok, each_eq_ok] at accepted
  obtain ⟨_, -, _, -, _, -, _, -, _, -, _, -, _, -, _, -, _, artifacts, -⟩ := accepted
  have passed := artifacts _ (KeyMap.find_eq_some_iff.mp found)
  simp only [checkArtifact, bind_eq_ok, refuse_eq_ok, not_or, not_not] at passed
  obtain ⟨_, ⟨-, named, -⟩, -⟩ := passed
  exact named

/-- What an accepted configuration says about each of its profiles. -/
structure SoundProfile (config : Config) (profile : TransitionProfile) : Prop where
  filed : config.profiles.find profile.profileID = some profile
  paperTuple : profile.paperTuple = config.enrollment.paperTuple
  fromArtifact : config.HasArtifact profile.fromArtifactID profile.pluginID
  toArtifact : config.HasArtifact profile.toArtifactID profile.pluginID

theorem soundProfile_of_validate (accepted : config.validate = .ok ()) {key : String}
    (member : (key, profile) ∈ config.profiles.entries) : config.SoundProfile profile := by
  simp only [validate, bind_eq_ok, refuse_eq_ok, each_eq_ok] at accepted
  obtain ⟨_, -, _, -, _, -, _, -, _, -, _, -, _, -, _, -, _, -, profiles⟩ := accepted
  have passed := profiles _ member
  simp only [checkProfile, bind_eq_ok, refuse_eq_ok, not_or, not_not] at passed
  obtain ⟨_, ⟨-, named, -⟩, _, tuple, fromArtifact, toArtifact⟩ := passed
  exact ⟨KeyMap.find_eq_some_iff.mpr (named ▸ member), tuple, fromArtifact, toArtifact⟩

theorem HasArtifact.pluginID {pluginID : String} (has : config.HasArtifact artifactID pluginID)
    (found : config.artifacts.find artifactID = some artifact) : artifact.pluginID = pluginID := by
  unfold HasArtifact at has
  rw [found] at has
  exact Option.some.inj has

end Config

end GuardedAgentRunner
