/-
This file follows the evidence of a host reboot through every sequence of commands
of the acceptance runner on one evidence file. A section that passed is traced back
to the verification that wrote it and to the preparation whose checkpoint that
verification found. A section that failed stays failed until a new preparation.
-/

import GuardedAgentRunner.Acceptance
import Mathlib.Data.List.Induction
import Mathlib.Data.List.Perm.Subperm

namespace GuardedAgentRunner

namespace Acceptance

open Fallible

/-! ### The two halves of the checkpoint -/

/-- What a half of the checkpoint reads. -/
structure CheckWorld where
  now : Time
  unreadable : Option Failure
  access : AccessFiles
  surroundings : Surroundings
  bootID : Except Failure String
  save : Replacement

namespace Runner

variable (runner : Runner) (world : CheckWorld)

/-- The section that `PrepareHostReboot` writes. -/
def preparedSection : Except Failure HostRebootEvidence := do
  let decision := runner.access world.access world.now
  refuse (¬ ExplicitlyClosed decision)
    (.other ("host reboot checkpoint requires explicit CLOSED admission, got " ++
      reasonText decision.reasonCode))
  runner.verifyRecoveredClosed world.surroundings world.now (0 : Int)
  let bootID ← world.bootID
  pure
    { preparedAt := world.now, preRebootBootID := bootID, preAdmissionReason := decision.reasonCode }

/-- `PrepareHostReboot`. -/
def prepareHostReboot (file : Option Evidence) : Outcome :=
  let base := runner.baseEvidence world.unreadable file world.now
  match runner.preparedSection world with
  | .error failure => ⟨base, some failure, file⟩
  | .ok checkpoint =>
    let evidence : Evidence := { base with hostReboot := some checkpoint, updatedAt := world.now }
    ⟨evidence, world.save.error, if world.save.visible then evidence else file⟩

/-- The section that `VerifyHostReboot` writes for the section it found, and its error. -/
def verifiedSection (found : HostRebootEvidence) (currentBootID : String) :
    HostRebootEvidence × Option Failure :=
  let failed : HostRebootEvidence :=
    { found with verifiedAt := world.now, postRebootBootID := currentBootID, result := .fail }
  if currentBootID = found.preRebootBootID then
    ({ failed with failure := "kernel boot ID did not change" },
      some (.other "host reboot not observed: kernel boot ID is unchanged"))
  else
    let decision := runner.access world.access world.now
    let failed := { failed with postAdmissionReason := some decision.reasonCode }
    match runner.verifyRecoveredClosed world.surroundings world.now found.preparedAt with
    | .error failure =>
      ({ failed with endpointClosedAfter := false, failure := failure.text },
        some (.other ("admission did not recover fail-closed after host reboot: " ++ failure.text)))
    | .ok () =>
      if ExplicitlyClosed decision then
        ({ failed with endpointClosedAfter := true, result := .pass, failure := "" }, none)
      else
        ({ failed with
            endpointClosedAfter := true
            failure := "admission topology did not recover fail-closed after host reboot" },
          some (.other "admission did not recover fail-closed after host reboot: %!w(<nil>)"))

/-- `VerifyHostReboot`. -/
def verifyHostReboot (file : Option Evidence) : Outcome :=
  match loadEvidence world.unreadable file with
  | .error failure => ⟨none, some failure, file⟩
  | .ok evidence =>
    if runner.matchesEvidence evidence = false then
      ⟨evidence, some (.other "G-02 evidence belongs to another target or generation"), file⟩
    else match evidence.hostReboot.filter (·.result = .prepared) with
      | none =>
        ⟨evidence, some (.other "host reboot evidence is not in PREPARED state"), file⟩
      | some found =>
        match world.bootID with
        | .error failure => ⟨evidence, some failure, file⟩
        | .ok currentBootID =>
          let verified := runner.verifiedSection world found currentBootID
          let evidence : Evidence :=
            { evidence with hostReboot := some verified.1, updatedAt := world.now }
          ⟨evidence, verified.2 <|> world.save.error,
            if world.save.visible then evidence else file⟩

end Runner

/-! ### Histories -/

/-- A command and the world it runs in. -/
inductive Command where
  | prepare (runner : Runner) (world : CheckWorld)
  | verify (runner : Runner) (world : CheckWorld)
  | login (runner : Runner) (world : LoginWorld)

namespace Command

/-- The evidence file after a command. -/
def follow (file : Option Evidence) : Command → Option Evidence
  | .prepare runner world => (runner.prepareHostReboot world file).file
  | .verify runner world => (runner.verifyHostReboot world file).file
  | .login runner world => (runner.minecraftLoginClose world file).file

/-- The clock reading with which the command starts. -/
def now : Command → Time
  | .prepare _ world | .verify _ world => world.now
  | .login _ world => world.now

end Command

/-- The evidence file after a sequence of commands, from none. -/
def held (history : List Command) : Option Evidence := Runs.run Command.follow none history

/-- The section of the evidence file. -/
def heldSection (history : List Command) : Option HostRebootEvidence :=
  (held history).bind (·.hostReboot)

/-! ### Targets -/

/-- The evidence is about the target of the runner. -/
structure About (runner : Runner) (evidence : Evidence) : Prop where
  target : evidence.toTarget = runner.target
  distinct : evidence.minecraftAddresses.Nodup
  addresses : ∀ address, address ∈ evidence.minecraftAddresses ↔
    address ∈ runner.config.minecraftAddresses

variable {runner : Runner} {evidence : Evidence} {file : Option Evidence}
  {unreadable : Option Failure} {found : HostRebootEvidence}

theorem About.of_matches (matched : runner.matchesEvidence evidence = true)
    (distinct : evidence.minecraftAddresses.Nodup) : About runner evidence := by
  simp only [Runner.matchesEvidence, sameAddressSet, Bool.and_eq_true, decide_eq_true_eq,
    List.all_eq_true] at matched
  obtain ⟨⟨-, target⟩, sameLength, inside⟩ := matched
  have perm := (runner.config.distinct.subperm inside).perm_of_length_le sameLength.le
  exact ⟨target, distinct, fun _ => perm.mem_iff.symm⟩

theorem about_newEvidence (runner : Runner) (now : Time) : About runner (runner.newEvidence now) :=
  ⟨rfl, runner.config.distinct, fun _ => Iff.rfl⟩

theorem file_of_loadEvidence (loaded : loadEvidence unreadable file = .ok evidence) :
    file = some evidence := by
  unfold loadEvidence at loaded
  split at loaded
  · exact nomatch loaded
  · exact nomatch loaded
  · obtain ⟨-, same⟩ := (refuse_bind_eq_ok _ _).mp loaded
    exact congrArg some (Except.ok.inj same)

/-- The evidence to start from is about the runner's own target, and a section in it stands in
the file, for the same target. -/
theorem baseEvidence_spec (runner : Runner) (unreadable : Option Failure)
    (distinct : ∀ existing ∈ file, existing.minecraftAddresses.Nodup) (now : Time) :
    About runner (runner.baseEvidence unreadable file now) ∧
      ∀ found ∈ (runner.baseEvidence unreadable file now).hostReboot,
        ∃ existing ∈ file, existing.hostReboot = some found ∧ About runner existing := by
  unfold Runner.baseEvidence
  have fresh : About runner (runner.newEvidence now) ∧
      ∀ found ∈ (runner.newEvidence now).hostReboot,
        ∃ existing ∈ file, existing.hostReboot = some found ∧ About runner existing :=
    ⟨about_newEvidence runner now, fun _ found => absurd found (Option.not_mem_none _)⟩
  split
  · exact fresh
  · rename_i existing loaded
    have isFile := file_of_loadEvidence loaded
    split
    · rename_i matched
      have about := About.of_matches matched (distinct existing isFile)
      exact ⟨{ about_newEvidence runner now with }, fun found isFound =>
        ⟨existing, isFile, isFound, about⟩⟩
    · exact fresh

/-! ### What the checks say -/

theorem wrap_eq_ok {Value : Type} {context : String} {value : Except Failure Value}
    {result : Value} : wrap context value = .ok result ↔ value = .ok result := by
  cases value <;> simp [wrap]

/-- The host and the runtime observation of a check were made after the instant. -/
def Newer (runner : Runner) (world : CheckWorld) (instant : Time) : Prop :=
  ∃ bundle runtime, world.surroundings.bundle = .ok bundle ∧ bundle.createdAt.After instant ∧
    runner.readRuntime world.surroundings.snapshot world.now = .ok runtime ∧
      runtime.observedAt.After instant

theorem newer_of_verifyRecoveredClosed {world : CheckWorld} {instant : Time}
    (dated : ¬ instant.IsZero)
    (verified : runner.verifyRecoveredClosed world.surroundings world.now instant = .ok ()) :
    Newer runner world instant := by
  simp only [Runner.verifyRecoveredClosed, bind_eq_ok, refuse_eq_ok, demand_eq_ok, wrap_eq_ok,
    not_and, not_not] at verified
  obtain ⟨_, -, bundle, isBundle, _, -, _, newer, -, -, -, -, -, -, -, -, -, -, runtime, isRuntime,
    -, -, -, later, -⟩ := verified
  exact ⟨bundle, runtime, isBundle, newer dated, isRuntime, later dated⟩

/-- What a preparation has checked for the section it writes. -/
structure Checkpoint (runner : Runner) (world : CheckWorld) (found : HostRebootEvidence) : Prop
    where
  closed : ExplicitlyClosed (runner.access world.access world.now)
  topology : runner.verifyRecoveredClosed world.surroundings world.now (0 : Int) = .ok ()
  bootID : world.bootID = .ok found.preRebootBootID
  preparedAt : found.preparedAt = world.now
  result : found.result = .prepared

theorem checkpoint_of_preparedSection {world : CheckWorld}
    (prepared : runner.preparedSection world = .ok found) : Checkpoint runner world found := by
  simp only [Runner.preparedSection, bind_eq_ok, refuse_eq_ok, not_not, pure_eq_ok] at prepared
  obtain ⟨_, closed, _, topology, bootID, isBootID, rfl⟩ := prepared
  exact ⟨closed, topology, isBootID, rfl, rfl⟩

/-- What a verification has checked for the section it writes as passed. -/
structure Recovered (runner : Runner) (world : CheckWorld) (found passed : HostRebootEvidence) :
    Prop where
  closed : ExplicitlyClosed (runner.access world.access world.now)
  topology : runner.verifyRecoveredClosed world.surroundings world.now found.preparedAt = .ok ()
  bootID : world.bootID = .ok passed.postRebootBootID
  rebooted : passed.postRebootBootID ≠ found.preRebootBootID
  result : passed.result = .pass

theorem result_verifiedSection {world : CheckWorld} {currentBootID : String}
    (isBootID : world.bootID = .ok currentBootID) :
    (runner.verifiedSection world found currentBootID).1.result = .fail ∨
      Recovered runner world found (runner.verifiedSection world found currentBootID).1 := by
  unfold Runner.verifiedSection
  dsimp only
  split
  · exact Or.inl rfl
  · rename_i rebooted
    split
    · exact Or.inl rfl
    · rename_i topology
      split
      · rename_i closed
        exact Or.inr ⟨closed, topology, isBootID, rebooted, rfl⟩
      · exact Or.inl rfl

/-! ### Where a section comes from -/

/-- Where the section of the evidence after a command comes from. -/
inductive Origin (file : Option Evidence) (evidence : Evidence) (found : HostRebootEvidence) :
    Command → Prop
  | carried {command : Command} (existing : Evidence) (isFile : file = some existing)
      (isFound : existing.hostReboot = some found)
      (same : ∀ runner, About runner existing → About runner evidence) :
    Origin file evidence found command
  | prepared {runner : Runner} {world : CheckWorld} (checkpoint : Checkpoint runner world found)
      (about : About runner evidence) : Origin file evidence found (.prepare runner world)
  | verified {runner : Runner} {world : CheckWorld} (existing : Evidence)
      (earlier : HostRebootEvidence) (isFile : file = some existing)
      (isEarlier : existing.hostReboot = some earlier) (awaiting : earlier.result = .prepared)
      (about : About runner existing)
      (result : found.result = .fail ∨ Recovered runner world earlier found) :
    Origin file evidence found (.verify runner world)

theorem origin_of_follow (distinct : ∀ existing ∈ file, existing.minecraftAddresses.Nodup)
    (command : Command) (isNext : command.follow file = some evidence) :
    evidence.minecraftAddresses.Nodup ∧
      ∀ found ∈ evidence.hostReboot, Origin file evidence found command := by
  have unchanged : file = some evidence → evidence.minecraftAddresses.Nodup ∧
      ∀ found ∈ evidence.hostReboot, Origin file evidence found command := fun isFile =>
    ⟨distinct evidence isFile, fun found isFound =>
      .carried evidence isFile isFound fun _ about => about⟩
  cases command with
  | prepare runner world =>
    unfold Command.follow Runner.prepareHostReboot at isNext
    obtain ⟨about, -⟩ := baseEvidence_spec runner world.unreadable distinct world.now
    dsimp only at isNext
    split at isNext
    · exact unchanged isNext
    · rename_i checkpoint prepared
      dsimp only at isNext
      split at isNext
      · obtain rfl := Option.some.inj isNext
        refine ⟨about.distinct, fun found isFound => ?_⟩
        obtain rfl := Option.some.inj isFound
        exact .prepared (checkpoint_of_preparedSection prepared) { about with }
      · exact unchanged isNext
  | verify runner world =>
    unfold Command.follow Runner.verifyHostReboot at isNext
    dsimp only at isNext
    split at isNext
    · exact unchanged isNext
    rename_i existing loaded
    have isFile := file_of_loadEvidence loaded
    split at isNext
    · exact unchanged isNext
    rename_i matched
    have about := About.of_matches (Bool.eq_true_of_not_eq_false matched) (distinct _ isFile)
    split at isNext
    · exact unchanged isNext
    rename_i earlier awaits
    obtain ⟨isEarlier, awaiting⟩ := Option.filter_eq_some_iff.mp awaits
    split at isNext
    · exact unchanged isNext
    rename_i currentBootID isBootID
    dsimp only at isNext
    split at isNext
    · obtain rfl := Option.some.inj isNext
      refine ⟨about.distinct, fun found isFound => ?_⟩
      obtain rfl := Option.some.inj isFound
      exact .verified existing earlier isFile isEarlier (of_decide_eq_true awaiting) about
        (result_verifiedSection isBootID)
    · exact unchanged isNext
  | login runner world =>
    unfold Command.follow Runner.minecraftLoginClose at isNext
    obtain ⟨about, carried⟩ := baseEvidence_spec runner world.unreadable distinct world.now
    dsimp only at isNext
    split at isNext
    · obtain rfl := Option.some.inj isNext
      refine ⟨about.distinct, fun found isFound => ?_⟩
      obtain ⟨existing, isFile, isExisting, aboutExisting⟩ := carried found isFound
      refine .carried existing isFile isExisting fun other aboutOther => ?_
      refine ⟨about.target.trans (aboutExisting.target.symm.trans aboutOther.target),
        about.distinct, fun address => ?_⟩
      exact (about.addresses address).trans
        ((aboutExisting.addresses address).symm.trans (aboutOther.addresses address))
    · exact unchanged isNext

/-! ### Histories of the section -/

variable {history : List Command}

/-- The section was written by a preparation of the history, for the target of the evidence. -/
def PreparedIn (history : List Command) (evidence : Evidence) (found : HostRebootEvidence) : Prop :=
  ∃ early runner world late, history = early ++ .prepare runner world :: late ∧
    heldSection (early ++ [.prepare runner world]) = some found ∧
    Checkpoint runner world found ∧ About runner evidence

/-- The section was written as passed by a verification of the history, for a section that an
earlier preparation had written for the same target. -/
def PassedIn (history : List Command) (passed : HostRebootEvidence) : Prop :=
  ∃ early preparer prepared middle verifier verified late found,
    history = early ++ .prepare preparer prepared :: (middle ++ .verify verifier verified :: late) ∧
    heldSection (early ++ [.prepare preparer prepared]) = some found ∧
    heldSection (early ++ .prepare preparer prepared :: middle) = some found ∧
    heldSection (early ++ .prepare preparer prepared :: (middle ++ [.verify verifier verified])) =
      some passed ∧
    Checkpoint preparer prepared found ∧ Recovered verifier verified found passed ∧
    Newer verifier verified found.preparedAt ∧ preparer.target = verifier.target ∧
    ∀ address, address ∈ preparer.config.minecraftAddresses ↔
      address ∈ verifier.config.minecraftAddresses

theorem PreparedIn.concat {later : Evidence} (prepared : PreparedIn history evidence found)
    (command : Command) (same : ∀ runner, About runner evidence → About runner later) :
    PreparedIn (history ++ [command]) later found := by
  obtain ⟨early, runner, world, late, rfl, written, checkpoint, about⟩ := prepared
  exact ⟨early, runner, world, late ++ [command], by simp, written, checkpoint, same runner about⟩

theorem PassedIn.concat {passed : HostRebootEvidence} (passedIn : PassedIn history passed)
    (command : Command) : PassedIn (history ++ [command]) passed := by
  obtain ⟨early, preparer, prepared, middle, verifier, verified, late, found, rfl, rest⟩ := passedIn
  exact ⟨early, preparer, prepared, middle, verifier, verified, late ++ [command], found, by simp,
    rest⟩

/-- What a section of the evidence file says about the history of the file. -/
theorem traced (dated : ∀ command ∈ history, 0 < command.now) {evidence : Evidence}
    (isHeld : held history = some evidence) :
    evidence.minecraftAddresses.Nodup ∧ ∀ found ∈ evidence.hostReboot,
      (found.result = .prepared → PreparedIn history evidence found) ∧
        (found.result = .pass → PassedIn history found) := by
  induction history using List.reverseRecOn generalizing evidence with
  | nil => exact nomatch isHeld
  | append_singleton history command hypothesis =>
    have hypothesis := @hypothesis fun other listed =>
      dated other (List.mem_append_left _ listed)
    have isNext := isHeld
    rw [held, Runs.run_append] at isNext
    obtain ⟨distinct, origins⟩ := origin_of_follow
      (fun existing isFile => (hypothesis isFile).1) command isNext
    refine ⟨distinct, fun found isFound => ?_⟩
    have written : heldSection (history ++ [command]) = some found := by
      rw [heldSection, isHeld]
      exact isFound
    cases origins found isFound with
    | carried existing isFile isExisting same =>
      obtain ⟨prepared, passed⟩ := (hypothesis isFile).2 found isExisting
      exact ⟨fun awaiting => (prepared awaiting).concat command same,
        fun isPass => (passed isPass).concat command⟩
    | @prepared runner world checkpoint about =>
      refine ⟨fun _ => ⟨history, runner, world, [], rfl, written, checkpoint, about⟩, fun isPass => ?_⟩
      exact nomatch checkpoint.result.symm.trans isPass
    | @verified runner world existing earlier isFile isEarlier awaiting about result =>
      rcases result with failed | recovered
      · exact ⟨fun awaits => (nomatch failed.symm.trans awaits),
          fun isPass => nomatch failed.symm.trans isPass⟩
      · refine ⟨fun awaits => (nomatch recovered.result.symm.trans awaits), fun _ => ?_⟩
        have before : heldSection history = some earlier := by
          rw [heldSection, isFile]
          exact isEarlier
        obtain ⟨early, preparer, prepared, middle, rfl, checkpointed, checkpoint, prepares⟩ :=
          ((hypothesis isFile).2 earlier isEarlier).1 awaiting
        have isDated : ¬ earlier.preparedAt.IsZero := by
          rw [checkpoint.preparedAt]
          exact ne_of_gt (dated (.prepare preparer prepared) (by simp))
        have newer := newer_of_verifyRecoveredClosed isDated recovered.topology
        rw [List.append_assoc, List.cons_append] at written ⊢
        exact ⟨early, preparer, prepared, middle, runner, world, [], earlier, rfl, checkpointed,
          before, written, checkpoint, recovered, newer, prepares.target.symm.trans about.target,
          fun address => (prepares.addresses address).symm.trans (about.addresses address)⟩

/-- The evidence repeats no address, and its section, if any, failed. -/
def Failed (file : Option Evidence) : Prop :=
  ∀ evidence ∈ file, evidence.minecraftAddresses.Nodup ∧
    ∀ found ∈ evidence.hostReboot, found.result = .fail

theorem Failed.follow {command : Command} (other : ∀ runner world, command ≠ .prepare runner world)
    (failed : Failed file) : Failed (command.follow file) := by
  intro evidence isNext
  obtain ⟨distinct, origins⟩ := origin_of_follow
    (fun existing isFile => (failed existing isFile).1) command isNext
  refine ⟨distinct, fun found isFound => ?_⟩
  cases origins found isFound with
  | carried existing isFile isExisting same => exact (failed existing isFile).2 found isExisting
  | prepared => exact absurd rfl (other _ _)
  | verified existing earlier isFile isEarlier awaiting =>
    exact nomatch awaiting.symm.trans ((failed existing isFile).2 earlier isEarlier)

/-- In every history with dated clock readings, a section that passed was written by a
verification that found the section of an earlier preparation for the same target; the boot
identifiers differ, admission was explicitly closed and the closed topology checked both times,
with newer observations the second time. A section that failed does not pass without a new
preparation. -/
theorem hostReboot_pass_sound (history : List Command)
    (dated : ∀ command ∈ history, 0 < command.now) :
    (∀ passed, heldSection history = some passed → passed.result = .pass →
      PassedIn history passed) ∧
    ∀ early late failed passed, history = early ++ late → heldSection early = some failed →
      failed.result = .fail → heldSection history = some passed → passed.result = .pass →
      ∃ runner world, .prepare runner world ∈ late := by
  constructor
  · intro passed isHeld isPass
    obtain ⟨evidence, isEvidence, isPassed⟩ := Option.bind_eq_some_iff.mp isHeld
    exact ((traced dated isEvidence).2 passed isPassed).2 isPass
  · rintro early late failed passed rfl isEarly hasFailed isHeld isPass
    by_contra unprepared
    push Not at unprepared
    have start : Failed (held early) := by
      intro evidence isEvidence
      refine ⟨(traced (fun command listed => dated command (List.mem_append_left _ listed))
        isEvidence).1, fun found isFound => ?_⟩
      rw [heldSection, isEvidence] at isEarly
      obtain rfl := Option.some.inj (isFound.symm.trans isEarly)
      exact hasFailed
    have stays : Failed (held (early ++ late)) := by
      rw [held, Runs.run_append]
      refine Runs.invariant_run_of_allowed Failed (fun file command => Failed.follow) start
        fun command listed runner world isPrepare => ?_
      exact unprepared runner world (isPrepare ▸ listed)
    obtain ⟨evidence, isEvidence, isPassed⟩ := Option.bind_eq_some_iff.mp isHeld
    exact nomatch isPass.symm.trans ((stays evidence isEvidence).2 passed isPassed)

/-- A half of the checkpoint in the closed topology. -/
def sampleCheck (now : Time) (bootID : String) : CheckWorld where
  now := now
  unreadable := none
  access := closedFiles
  surroundings := closedSurroundings
  bootID := .ok bootID
  save := none

/-- A preparation, a login probe and a verification after a reboot. -/
def sampleHistory : List Command :=
  [.prepare sampleRunner (sampleCheck Duration.second "0123456789abcdef"),
    .login sampleRunner (sampleWorld none),
    .verify sampleRunner (sampleCheck (2 * Duration.second) "fedcba9876543210")]

theorem hostReboot_pass_sound_of_sample :
    ∃ passed, heldSection sampleHistory = some passed ∧ passed.result = .pass ∧
      PassedIn sampleHistory passed := by
  have passes : (heldSection sampleHistory).map (·.result) = some .pass := by decide +kernel
  obtain ⟨passed, isHeld, isPass⟩ := Option.map_eq_some_iff.mp passes
  exact ⟨passed, isHeld, isPass,
    (hostReboot_pass_sound sampleHistory (by decide)).1 passed isHeld isPass⟩

end Acceptance

end GuardedAgentRunner
