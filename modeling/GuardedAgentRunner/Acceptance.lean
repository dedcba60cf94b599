/-
This file models the acceptance runner of the admission barrier: the login probe,
which opens admission for a moment and closes it again, and the two halves of the
host reboot checkpoint, which merge their results into one evidence file. Every
read and every step of a file replacement may fail. The probe registers its
clean-up only after the open write has returned without an error, and that write
can fail after its rename.
-/

import GuardedAgentRunner.Access

namespace GuardedAgentRunner

namespace Acceptance

open Fallible StructDecode
open Admission (StateFile SnapshotFile ReasonCode WriteCall)

/-! ### The runner -/

/-- What is used of the configuration. `Validate` refuses a repeated address. -/
structure Config where
  minecraftAddresses : List String
  enrollmentID : String
  containerIdentity : String
  dataRootIdentity : String
  paperTuple : String
  runtimeSettleTimeout : Duration
  distinct : minecraftAddresses.Nodup

structure Runner where
  config : Config
  admission : Admission.Config

/-! ### Evidence -/

inductive Result where
  | fail
  | prepared
  | pass
deriving DecidableEq, Repr

structure LoginEvidence where
  evidenceLevel : String := "LOCAL_PAPER"
  minecraftAddress : String
  observedAt : Time
  protocolVersion : Int := 0
  protocolName : String := ""
  playerCountBefore : Int := 0
  playerCountAfter : Int := 0
  statusProbePassed : Bool := false
  loginHandshakeSent : Bool := false
  loginStartSent : Bool := false
  connectionAliveBeforeClose : Bool := false
  closeIssuedAt : Time := (0 : Int)
  connectionClosedAt : Time := (0 : Int)
  closeLatencyMilliseconds : Int := 0
  finalAdmissionReason : Option ReasonCode := none
  result : Result := .fail
  failure : String := ""

structure HostRebootEvidence where
  evidenceLevel : String := "HOST_RECOVERY"
  preparedAt : Time
  verifiedAt : Time := (0 : Int)
  preRebootBootID : String
  postRebootBootID : String := ""
  preAdmissionReason : ReasonCode
  postAdmissionReason : Option ReasonCode := none
  endpointClosedBefore : Bool := true
  endpointClosedAfter : Bool := false
  result : Result := .prepared
  failure : String := ""

/-- The target that evidence is about. -/
structure Target where
  enrollmentID : String
  deploymentGeneration : Int
  containerIdentity : String
  dataRootIdentity : String
  paperTuple : String
  pairingID : String
deriving DecidableEq

structure Evidence extends Target where
  schemaVersion : String
  minecraftAddresses : List String
  updatedAt : Time
  minecraftLogins : List LoginEvidence
  hostReboot : Option HostRebootEvidence

/-- `EvidenceSchemaVersion`. -/
def evidenceSchemaVersion : String := "gar.g02-acceptance-evidence.v2"

/-- `sameAddressSet`. -/
def sameAddressSet (left right : List String) : Bool :=
  left.length = right.length && right.all (· ∈ left)

/-- A step of the replacement of a file. -/
inductive FileStep where
  | ownerDirectory
  | createTemporary
  | chmod
  | write
  | sync
  | close
  | rename
  | openDirectory
  | syncDirectory
deriving DecidableEq, Repr

/-- How the replacement of a file goes: every step succeeds, or one of them fails. -/
abbrev Replacement := Option (FileStep × Failure)

namespace Replacement

/-- The new file stands: the rename was made. -/
def visible : Replacement → Bool
  | none | some (.openDirectory, _) | some (.syncDirectory, _) => true
  | some _ => false

/-- The error that is returned. -/
def error : Replacement → Option Failure := Option.map Prod.snd

end Replacement

/-- `loadEvidence`, with the error of reading the file, if any. -/
def loadEvidence (unreadable : Option Failure) (file : Option Evidence) :
    Except Failure Evidence :=
  match unreadable, file with
  | some failure, _ => .error failure
  | none, none => .error (.other "no such file or directory")
  | none, some evidence => do
    refuse (evidence.schemaVersion ≠ evidenceSchemaVersion)
      (.other "invalid G-02 evidence schema or trailing JSON")
    pure evidence

namespace Runner

variable (runner : Runner)

def target : Target where
  enrollmentID := runner.config.enrollmentID
  deploymentGeneration := runner.admission.deploymentGeneration
  containerIdentity := runner.config.containerIdentity
  dataRootIdentity := runner.config.dataRootIdentity
  paperTuple := runner.config.paperTuple
  pairingID := runner.admission.pairingID

/-- `newEvidence`. -/
def newEvidence (now : Time) : Evidence where
  toTarget := runner.target
  schemaVersion := evidenceSchemaVersion
  minecraftAddresses := runner.config.minecraftAddresses
  updatedAt := now
  minecraftLogins := []
  hostReboot := none

/-- `matches`. -/
def matchesEvidence (evidence : Evidence) : Bool :=
  evidence.schemaVersion = evidenceSchemaVersion && evidence.toTarget = runner.target &&
    sameAddressSet evidence.minecraftAddresses runner.config.minecraftAddresses

/-- `baseEvidence`. -/
def baseEvidence (unreadable : Option Failure) (file : Option Evidence) (now : Time) : Evidence :=
  match loadEvidence unreadable file with
  | .error _ => runner.newEvidence now
  | .ok existing =>
    if runner.matchesEvidence existing then
      { runner.newEvidence now with
        minecraftLogins := existing.minecraftLogins, hostReboot := existing.hostReboot }
    else runner.newEvidence now

end Runner

/-! ### The closed topology -/

/-- The reason code of a decision, as text. -/
def reasonText : ReasonCode → String
  | .admissionStateMissing => "ADMISSION_STATE_MISSING"
  | .admissionStateInvalid => "ADMISSION_STATE_INVALID"
  | .admissionIdentityMismatch => "ADMISSION_IDENTITY_MISMATCH"
  | .admissionClosed => "ADMISSION_CLOSED"
  | .admissionLeaseExpired => "ADMISSION_LEASE_EXPIRED"
  | .admissionLeaseInvalid => "ADMISSION_LEASE_INVALID"
  | .admissionOpen => "ADMISSION_OPEN"
  | .runtimeGuardUnavailable => "RUNTIME_GUARD_UNAVAILABLE"
  | .runtimeGuardNotReady => "RUNTIME_GUARD_NOT_READY"
  | .runtimeGuardNotOpen => "RUNTIME_GUARD_NOT_OPEN"
  | .admissionOpenGuardConfirmed => "ADMISSION_OPEN_GUARD_CONFIRMED"

/-- The decision is an explicit close. -/
def ExplicitlyClosed (decision : Admission.Decision) : Prop :=
  decision.isOpen = false ∧ decision.reasonCode = .admissionClosed
deriving Decidable

/-- The two files an evaluation of access reads. -/
structure AccessFiles where
  state : StateFile
  snapshot : SnapshotFile

/-- What is used of a host observation. -/
structure Bundle where
  enrollmentID : String
  deploymentGeneration : Int
  containerID : String
  createdAt : Time

structure PublishedBinding where
  hostIP : String
  hostPort : Int
  containerPort : Int
  protocol : String

structure Barrier where
  availability : String
  isOpen : Bool
  gateContainerID : String
  publishedBindings : List PublishedBinding

/-- What is used of the health reading. -/
structure Health where
  availability : String
  running : Bool
  containerStatus : String
  healthStatus : String
  admissionBarrier : Option Barrier

/-- `net.JoinHostPort`. -/
def joinHostPort (host : String) (port : Int) : String :=
  if host.toList.any (fun character => character = ':' || character = '%') then
    "[" ++ host ++ "]:" ++ toString port
  else host ++ ":" ++ toString port

/-- `samePublishedBindings`. -/
def samePublishedBindings (bindings : List PublishedBinding) (addresses : List String) : Bool :=
  bindings.length = addresses.length &&
    bindings.all (fun binding => binding.protocol = "tcp" && 1 ≤ binding.hostPort &&
      binding.hostPort ≤ 65535 && binding.containerPort = binding.hostPort) &&
    addresses.all fun address =>
      bindings.any fun binding => joinHostPort binding.hostIP binding.hostPort = address

/-- `runtimeProbeSnapshot`. -/
structure RuntimeProbe extends Admission.RuntimeReading where
  playerCount : Int

def RuntimeProbe.ofData : Data Scalar → Option RuntimeProbe
  | .struct (.leaf (.string schemaVersion) :: .leaf (.string pairingID) ::
      .leaf (.string bootID) :: .leaf (.time observedAt) :: .leaf (.bool ready) ::
      .leaf (.string admissionState) :: .leaf (.int64 playerCount) :: _) =>
    some { schemaVersion, pairingID, bootID, observedAt, ready, admissionState, playerCount }
  | _ => none

/-- The reading and decoding of the runtime snapshot. -/
def decodeRuntime : SnapshotFile → Except Failure RuntimeProbe
  | .unreadable => .error (.other "no regular file")
  | .regular payload => do
    refuse (Admission.maxRuntimeSnapshotBytes < payload.length)
      (.other "runtime snapshot exceeds 262144 bytes")
    demand ((strictDecode Admission.runtimeSnapshotFields payload).bind RuntimeProbe.ofData)
      (.other "runtime snapshot cannot be decoded")

/-- What one check of the closed topology reads. -/
structure Surroundings where
  access : AccessFiles
  bundle : Except Failure Bundle
  health : Except Failure Health
  snapshot : SnapshotFile
  probeClosedGate : String → Except Failure Unit

/-- `fmt.Errorf` around an error. -/
def wrap {Value : Type} (context : String) : Except Failure Value → Except Failure Value
  | .ok value => .ok value
  | .error failure => .error (.other (context ++ failure.text))

namespace Runner

variable (runner : Runner)

/-- `EvaluateAccess` on the files. -/
def access (files : AccessFiles) (now : Time) : Admission.Decision :=
  Admission.evaluateAccess runner.admission ⟨files.state, files.snapshot, now⟩

/-- `readRuntime`. -/
def readRuntime (file : SnapshotFile) (now : Time) : Except Failure RuntimeProbe := do
  let snapshot ← decodeRuntime file
  refuse (snapshot.schemaVersion ≠ Admission.paperRuntimeSchemaVersion ∨
      snapshot.pairingID ≠ runner.admission.pairingID ∨ snapshot.bootID = "" ∨
      snapshot.ready = false ∨ snapshot.observedAt.IsZero ∨
      snapshot.observedAt.After (now.add (2 * Duration.second)) ∨
      3 * Duration.second < now.sub snapshot.observedAt ∨ snapshot.playerCount < 0)
    (.other "runtime snapshot is stale, unavailable, or belongs to another pairing")
  pure snapshot

/-- `verifyRecoveredClosed`. -/
def verifyRecoveredClosed (surroundings : Surroundings) (now observedAfter : Time) :
    Except Failure Unit := do
  let decision := runner.access surroundings.access now
  refuse (¬ ExplicitlyClosed decision)
    (.other ("admission state is not explicitly closed: " ++ reasonText decision.reasonCode))
  let bundle ← wrap "fresh host observation unavailable: " surroundings.bundle
  refuse (bundle.enrollmentID ≠ runner.config.enrollmentID ∨
      bundle.deploymentGeneration ≠ runner.admission.deploymentGeneration ∨
      bundle.containerID ≠ runner.config.containerIdentity)
    (.other "fresh host observation identity mismatch")
  refuse (¬ observedAfter.IsZero ∧ ¬ bundle.createdAt.After observedAfter)
    (.other "host observation was not refreshed after the reboot checkpoint")
  let health ← wrap "read fresh host health: " surroundings.health
  refuse (health.availability ≠ "AVAILABLE" ∨ health.running = false ∨
      health.containerStatus ≠ "running" ∨ health.healthStatus = "unhealthy")
    (.other "Paper container did not recover as an available running target")
  let barrier ← demand health.admissionBarrier
    (.other "admission barrier topology is unavailable or open")
  refuse (barrier.availability ≠ "AVAILABLE" ∨ barrier.isOpen = true ∨ barrier.gateContainerID = "")
    (.other "admission barrier topology is unavailable or open")
  refuse (samePublishedBindings barrier.publishedBindings runner.config.minecraftAddresses = false)
    (.other "admission published bindings do not match every enrolled Minecraft address")
  let runtime ← wrap "fresh Paper runtime unavailable: "
    (runner.readRuntime surroundings.snapshot now)
  refuse (runtime.admissionState ≠ "MAINTENANCE" ∨ runtime.playerCount ≠ 0)
    (.other "Paper runtime is not in zero-player MAINTENANCE")
  refuse (¬ observedAfter.IsZero ∧ ¬ runtime.observedAt.After observedAfter)
    (.other "Paper runtime observation was not refreshed after the reboot checkpoint")
  each (fun address => wrap ("closed-gate probe for " ++ address ++ " failed: ")
    (surroundings.probeClosedGate address)) runner.config.minecraftAddresses

end Runner

/-! ### The login probe -/

/-- A call of `WriteState`: what it returned, and whether the file it wrote stands. -/
structure Attempt where
  call : WriteCall
  error : Option Failure
  visible : Bool

/-- `WriteState`, given how the replacement of the file goes. -/
def performWrite (config : Admission.Config) (call : WriteCall) (files : Replacement) : Attempt :=
  match Admission.writeState config call with
  | .error failure => ⟨call, some failure, false⟩
  | .ok _ => ⟨call, files.error, files.visible⟩

/-- One look of a waiting loop, with the two clock readings. -/
structure Look where
  access : AccessFiles
  snapshot : SnapshotFile
  now : Time
  later : Time

/-- A waiting loop: it ends with a look that settles the result, at the deadline, or when the
context ends, which it does after the last look. -/
def waitUntil {Settled : Type} (settles : Look → Except Failure Settled) (deadline : Time) :
    List Look → Except Failure Settled
  | [] => .error .contextDone
  | look :: looks =>
    match settles look with
    | .ok settled => .ok settled
    | .error late =>
      if ¬ look.later.Before deadline then .error late else waitUntil settles deadline looks

/-- What the network answers to the probe of one address. -/
structure ProbeAnswers where
  discoverProtocol : Except Failure (Int × String)
  beginLogin : Except Failure Unit
  proveConnectionAlive : Except Failure Unit
  waitForConnectionClose : Except Failure Time

/-- What one login probe reads, in the order of the reads. -/
structure LoginWorld where
  now : Time
  unreadable : Option Failure
  access : AccessFiles
  surroundings : Surroundings
  snapshot : SnapshotFile
  opening : Replacement
  openingStart : Time
  openingLooks : List Look
  probe : String → ProbeAnswers
  closeIssuedAt : Time
  closing : Replacement
  closingStart : Time
  closingLooks : List Look
  cleanupAt : Time
  cleanup : Replacement
  updatedAt : Time
  save : Replacement

/-- A loop over the results that stops at the first error. -/
def eachResult (act : LoginEvidence → LoginEvidence × Option Failure) :
    List LoginEvidence → List LoginEvidence × Option Failure
  | [] => ([], none)
  | result :: results =>
    match act result with
    | (changed, some failure) => (changed :: results, some failure)
    | (changed, none) =>
      let rest := eachResult act results
      (changed :: rest.1, rest.2)

/-- Start a login and leave it in flight. -/
def startLogin (probe : String → ProbeAnswers) (result : LoginEvidence) :
    LoginEvidence × Option Failure :=
  let answers := probe result.minecraftAddress
  match wrap ("Minecraft status probe for " ++ result.minecraftAddress ++ ": ")
      answers.discoverProtocol with
  | .error failure => (result, some failure)
  | .ok (protocolVersion, protocolName) =>
    let result := { result with statusProbePassed := true, protocolVersion, protocolName }
    match wrap ("begin Minecraft login for " ++ result.minecraftAddress ++ ": ")
        answers.beginLogin with
    | .error failure => (result, some failure)
    | .ok () =>
      let result := { result with loginHandshakeSent := true, loginStartSent := true }
      match wrap ("login connection for " ++ result.minecraftAddress ++
          " did not remain in flight before close: ") answers.proveConnectionAlive with
      | .error failure => (result, some failure)
      | .ok () => ({ result with connectionAliveBeforeClose := true }, none)

/-- Wait for the close of a login in flight. -/
def awaitClose (probe : String → ProbeAnswers) (closeIssuedAt : Time) (result : LoginEvidence) :
    LoginEvidence × Option Failure :=
  match wrap ("wait for Minecraft close on " ++ result.minecraftAddress ++ ": ")
      (probe result.minecraftAddress).waitForConnectionClose with
  | .error failure => (result, some failure)
  | .ok closedAt =>
    ({ result with
        connectionClosedAt := closedAt
        closeLatencyMilliseconds := (closedAt.sub closeIssuedAt).tdiv 1000000 }, none)

namespace Runner

variable (runner : Runner)

/-- The part of `MinecraftLoginClose` before admission is opened: the number of players. -/
def admits (world : LoginWorld) : Except Failure Int := do
  let decision := runner.access world.access world.now
  refuse (¬ ExplicitlyClosed decision)
    (.other ("precondition requires explicit CLOSED admission, got " ++
      reasonText decision.reasonCode))
  wrap "precondition requires the enrolled closed topology: "
    (runner.verifyRecoveredClosed world.surroundings world.now (0 : Int))
  let before ← runner.readRuntime world.snapshot world.now
  refuse (before.playerCount ≠ 0)
    (.other ("precondition requires zero players, got " ++ toString before.playerCount))
  pure before.playerCount

/-- The write that opens admission. -/
def openWrite (world : LoginWorld) : Attempt :=
  performWrite runner.admission
    ⟨.opened, "g02-minecraft-login-probe", 20 * Duration.second, world.now⟩ world.opening

/-- The deferred write that closes admission. -/
def cleanupWrite (world : LoginWorld) : Attempt :=
  performWrite runner.admission ⟨.closed, "g02-probe-cleanup", (0 : Int), world.cleanupAt⟩
    world.cleanup

/-- `waitForDecision` for an open decision. -/
def waitForOpen (start : Time) : List Look → Except Failure Unit :=
  waitUntil (fun look =>
    let decision := runner.access look.access look.now
    if decision.isOpen then .ok ()
    else .error (.other ("admission did not reach open=true before deadline; last reason=" ++
      reasonText decision.reasonCode))) (start.add runner.config.runtimeSettleTimeout)

/-- `waitForClosedRuntime`. -/
def waitForClosedRuntime (start : Time) :
    List Look → Except Failure (Admission.Decision × RuntimeProbe) :=
  waitUntil (fun look =>
    let decision := runner.access look.access look.now
    match runner.readRuntime look.snapshot look.now with
    | .ok runtime =>
      if ExplicitlyClosed decision ∧ runtime.admissionState = "MAINTENANCE" then
        .ok (decision, runtime)
      else .error (.other "closed runtime acknowledgment unavailable before deadline")
    | .error _ => .error (.other "closed runtime acknowledgment unavailable before deadline"))
    (start.add runner.config.runtimeSettleTimeout)

/-- The part of `MinecraftLoginClose` while admission is open: the results, the error and the
explicit close, if it was attempted. -/
def probeOpened (world : LoginWorld) (results : List LoginEvidence) :
    List LoginEvidence × Option Failure × List Attempt :=
  match runner.waitForOpen world.openingStart world.openingLooks with
  | .error failure => (results, some failure, [])
  | .ok () =>
    match eachResult (startLogin world.probe) results with
    | (results, some failure) => (results, some failure, [])
    | (results, none) =>
      let results := results.map ({ · with closeIssuedAt := world.closeIssuedAt })
      let closing := performWrite runner.admission
        ⟨.closed, "g02-minecraft-login-close", (0 : Int), world.closeIssuedAt⟩ world.closing
      match closing.error with
      | some failure => (results, some failure, [closing])
      | none =>
        match eachResult (awaitClose world.probe world.closeIssuedAt) results with
        | (results, some failure) => (results, some failure, [closing])
        | (results, none) =>
          match runner.waitForClosedRuntime world.closingStart world.closingLooks with
          | .error failure => (results, some failure, [closing])
          | .ok (decision, runtime) =>
            if runtime.playerCount ≠ 0 then
              (results, some (.other ("probe player became active after close: " ++
                toString runtime.playerCount)), [closing])
            else
              (results.map ({ · with
                finalAdmissionReason := some decision.reasonCode
                playerCountAfter := runtime.playerCount
                result := .pass }), none, [closing])

/-- The body of `MinecraftLoginClose` with the deferred close: the results, the error, and the
calls of `WriteState`, the last one first. -/
def probeLogins (world : LoginWorld) : List LoginEvidence × Option Failure × List Attempt :=
  let results : List LoginEvidence := runner.config.minecraftAddresses.map fun address =>
    { minecraftAddress := address, observedAt := world.now }
  match runner.admits world with
  | .error failure => (results, some failure, [])
  | .ok playerCountBefore =>
    let results := results.map ({ · with playerCountBefore })
    let opening := runner.openWrite world
    match opening.error with
    | some failure => (results, some failure, [opening])
    | none =>
      let probed := runner.probeOpened world results
      (probed.1, probed.2.1, runner.cleanupWrite world :: probed.2.2 ++ [opening])

end Runner

/-- What a command returns, and the evidence file it leaves. -/
structure Outcome where
  evidence : Option Evidence
  error : Option Failure
  file : Option Evidence

/-- `MinecraftLoginClose`: the deferred write of the evidence comes last. -/
def Runner.minecraftLoginClose (runner : Runner) (world : LoginWorld) (file : Option Evidence) :
    Outcome :=
  let probed := runner.probeLogins world
  let results := match probed.2.1 with
    | none => probed.1
    | some failure => probed.1.map fun (result : LoginEvidence) =>
      if result.result ≠ .pass ∧ result.failure = "" then { result with failure := failure.text }
      else result
  let evidence : Evidence := { runner.baseEvidence world.unreadable file world.now with
    minecraftLogins := results, updatedAt := world.updatedAt }
  ⟨evidence, probed.2.1 <|> world.save.error, if world.save.visible then evidence else file⟩

/-! ### The lease that the probe leaves -/

/-- The state file holds a lease of the calls of `WriteState`, the last one first: the last of
them whose file stands opened admission. -/
def HoldsOwnLease (attempts : List Attempt) : Prop :=
  (attempts.find? (·.visible)).any (·.call.mode = .opened) = true
deriving Decidable

section Writes

variable (config : Admission.Config) (call : WriteCall) (files : Replacement)

theorem call_performWrite : (performWrite config call files).call = call := by
  unfold performWrite
  split <;> rfl

/-- A write returns an error and leaves its file exactly if it gets as far as the directory. -/
theorem unsynced_iff :
    (performWrite config call files).error ≠ none ∧ (performWrite config call files).visible = true ↔
      (∃ written, Admission.writeState config call = .ok written) ∧
        ∃ failure, files = some (.openDirectory, failure) ∨
          files = some (.syncDirectory, failure) := by
  unfold performWrite
  cases Admission.writeState config call with
  | error failure => simp
  | ok written =>
    rcases files with _ | ⟨step, failure⟩
    · simp [Replacement.error]
    · cases step <;> simp [Replacement.error, Replacement.visible]

theorem visible_of_returned (returned : (performWrite config call files).error = none) :
    (performWrite config call files).visible = true := by
  unfold performWrite at returned ⊢
  cases written : Admission.writeState config call with
  | error failure => simp [written] at returned
  | ok _ =>
    rw [written] at returned
    obtain rfl := Option.map_eq_none_iff.mp returned
    rfl

end Writes

/-- When the closing writes it attempts succeed, the probe leaves its own lease in the state file
exactly if its open write gets as far as the directory and fails there. -/
theorem probe_leaves_lease_iff (runner : Runner) (world : LoginWorld)
    (closes : ∀ attempt ∈ (runner.probeLogins world).2.2, attempt.call.mode = .closed →
      attempt.error = none) :
    HoldsOwnLease (runner.probeLogins world).2.2 ↔
      (∃ players, runner.admits world = .ok players) ∧
        (∃ written, Admission.writeState runner.admission
          ⟨.opened, "g02-minecraft-login-probe", 20 * Duration.second, world.now⟩ = .ok written) ∧
        ∃ failure, world.opening = some (.openDirectory, failure) ∨
          world.opening = some (.syncDirectory, failure) := by
  rw [← unsynced_iff]
  change _ ↔ _ ∧ (runner.openWrite world).error ≠ none ∧ (runner.openWrite world).visible = true
  have opened : (runner.openWrite world).call.mode = .opened :=
    congrArg WriteCall.mode (call_performWrite ..)
  unfold HoldsOwnLease
  unfold Runner.probeLogins at closes ⊢
  cases admitted : runner.admits world with
  | error failure => exact ⟨nofun, nofun⟩
  | ok players =>
    rw [admitted] at closes
    dsimp only at closes ⊢
    cases returned : (runner.openWrite world).error with
    | some failure =>
      dsimp only
      rw [List.find?_singleton]
      split
      · rename_i visible
        simp [opened, visible]
      · rename_i hidden
        simp [hidden]
    | none =>
      rw [returned] at closes
      have closed : (runner.cleanupWrite world).call.mode = .closed :=
        congrArg WriteCall.mode (call_performWrite ..)
      have visible : (runner.cleanupWrite world).visible = true :=
        visible_of_returned _ _ _ (closes _ List.mem_cons_self closed)
      dsimp only
      rw [List.cons_append, List.find?_cons_of_pos visible]
      simp [closed]

/-! ### A closed topology -/

/-- A runner for one address. -/
def sampleRunner : Runner where
  config :=
    { minecraftAddresses := ["127.0.0.1:25565"]
      enrollmentID := "enrollment"
      containerIdentity := "container"
      dataRootIdentity := "root"
      paperTuple := "tuple"
      runtimeSettleTimeout := Duration.second
      distinct := List.nodup_singleton _ }
  admission := Admission.sampleConfig

/-- The files of a server under maintenance, two seconds after the zero instant. -/
def closedFiles : AccessFiles where
  state := .regular (Utf8.encode ("\x7b\"schema_version\":\"gar.admission-state.v1\"," ++
    "\"pairing_id\":\"pair\",\"deployment_generation\":1,\"mode\":\"CLOSED\"," ++
    "\"issued_at\":\"0001-01-01T00:00:02Z\"\x7d").toList)
  snapshot := .regular (Utf8.encode ("\x7b\"schema_version\":" ++
    "\"gar.paper-runtime-observation.v1\",\"pairing_id\":\"pair\",\"boot_id\":\"boot\"," ++
    "\"observed_at\":\"0001-01-01T00:00:02Z\",\"ready\":true," ++
    "\"admission_state\":\"MAINTENANCE\"\x7d").toList)

/-- A closed topology, observed at the same instant. -/
def closedSurroundings : Surroundings where
  access := closedFiles
  bundle := .ok ⟨"enrollment", 1, "container", 2 * Duration.second⟩
  health := .ok
    { availability := "AVAILABLE"
      running := true
      containerStatus := "running"
      healthStatus := "healthy"
      admissionBarrier := some ⟨"AVAILABLE", false, "gate", [⟨"127.0.0.1", 25565, 25565, "tcp"⟩]⟩ }
  snapshot := closedFiles.snapshot
  probeClosedGate _ := .ok ()

/-- A login probe in the closed topology whose context ends before the gate opens. -/
def sampleWorld (opening : Replacement) : LoginWorld where
  now := Duration.second
  unreadable := none
  access := closedFiles
  surroundings := closedSurroundings
  snapshot := closedFiles.snapshot
  opening := opening
  openingStart := Duration.second
  openingLooks := []
  probe _ := ⟨.ok (0, ""), .ok (), .ok (), .ok Duration.second⟩
  closeIssuedAt := Duration.second
  closing := none
  closingStart := Duration.second
  closingLooks := []
  cleanupAt := Duration.second
  cleanup := none
  updatedAt := Duration.second
  save := none

theorem probe_leaves_lease :
    (∀ attempt ∈ (sampleRunner.probeLogins
        (sampleWorld (some (.syncDirectory, .other "input/output error")))).2.2,
      attempt.call.mode = .closed → attempt.error = none) ∧
    HoldsOwnLease (sampleRunner.probeLogins
      (sampleWorld (some (.syncDirectory, .other "input/output error")))).2.2 := by
  decide +kernel

theorem probe_leaves_no_lease :
    ¬ HoldsOwnLease (sampleRunner.probeLogins (sampleWorld none)).2.2 := by
  rw [probe_leaves_lease_iff sampleRunner (sampleWorld none) (by decide +kernel)]
  rintro ⟨-, -, failure, opened | synced⟩
  · exact nomatch opened
  · exact nomatch synced

end Acceptance

end GuardedAgentRunner
