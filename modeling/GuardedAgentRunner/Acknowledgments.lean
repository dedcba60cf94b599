/-
This file composes the writer of the lease, the Paper plugin and the evaluation of
the gate: leases are written at any time, the plugin captures the decision on the
lease it finds and publishes it later, and the gate combines the two files. A
snapshot is fresh for three seconds and says nothing about the lease it was
captured for, so that a lease can be opened by the acknowledgment of an earlier
one.
-/

import GuardedAgentRunner.Leases
import GuardedAgentRunner.Readers
import GuardedAgentRunner.RuntimeSnapshots

namespace GuardedAgentRunner

open Admission

namespace Guard

/-! ### The plugin -/

/-- `PAIRING_PLACEHOLDER`. -/
def pairingPlaceholder : String := "REQUIRED_CHANGE_ME"

/-- The plugin as `onEnable` leaves it. Without a path of the state it has no reader. -/
structure Plugin where
  pairingId : String
  bootId : String
  admissionReader : Option AdmissionStateReader
  paired : pairingId ≠ pairingPlaceholder ∧ 16 ≤ (JsonText.textUnits pairingId).length ∧
    (JsonText.textUnits pairingId).length ≤ 128
  enrolled : ∀ reader ∈ admissionReader, reader.pairingID = pairingId

/-- What a capture reads of its surroundings. The instant of the snapshot is read before the one
at which the lease is judged. -/
structure Readings where
  observedAt : Time
  judgedAt : Time
  playerCount : Int
  playerRange : Int64Range playerCount
  tps : List (Option JsonText.Numeral)
  mspt : Option JsonText.Numeral
  heapUsedBytes : Int
  heapUsedRange : Int64Range heapUsedBytes
  heapMaxBytes : Int
  heapMaxRange : Int64Range heapMaxBytes
  plugins : List PluginObservation

/-- The file of the state as the plugin finds it. -/
def StateFile.of : Admission.StateFile → StateFile
  | .missing => .unavailable
  | .invalid => .irregular
  | .regular payload => .regular true payload

/-- `runtimeState`. -/
def AdmissionDecision.runtimeState (decision : AdmissionDecision) : String :=
  if decision.isOpen then "OPEN_READ_ONLY_ALPHA" else "MAINTENANCE"

namespace Plugin

variable (libraries : Libraries) (plugin : Plugin)

/-- `currentAdmissionDecision`. -/
def currentAdmissionDecision (file : Admission.StateFile) (now : Time) : AdmissionDecision :=
  match plugin.admissionReader with
  | none => { isOpen := true, reasonCode := .admissionNotConfiguredReadOnly }
  | some reader => reader.read libraries (.of file) now

/-- `capture`. -/
def capture (file : Admission.StateFile) (readings : Readings) (ready : Bool) :
    RuntimeSnapshot where
  schemaVersion := RuntimeSnapshot.supportedSchema
  pairingId := plugin.pairingId
  bootId := plugin.bootId
  observedAt := readings.observedAt
  ready := ready
  admissionState :=
    (plugin.currentAdmissionDecision libraries file readings.judgedAt).runtimeState
  playerCount := readings.playerCount
  playerRange := readings.playerRange
  tps := readings.tps
  mspt := readings.mspt
  heapUsedBytes := readings.heapUsedBytes
  heapUsedRange := readings.heapUsedRange
  heapMaxBytes := readings.heapMaxBytes
  heapMaxRange := readings.heapMaxRange
  plugins := readings.plugins

end Plugin

/-! ### The deployment -/

/-- A snapshot whose publication is under way, with the number of the plugin that captured it and,
if it was captured for a lease, how often admission had been closed by then. -/
structure Captured where
  number : Nat
  snapshot : RuntimeSnapshot
  acknowledged : Option Nat

/-- The two files, the plugin that is enabled, how often one was, and the publications under way.
How often admission was closed, and how often it had been when the published snapshot was captured
for a lease, is recorded beside the files. -/
structure Deployment where
  stateFile : Admission.StateFile
  closings : Nat
  snapshotFile : SnapshotFile
  acknowledged : Option Nat
  plugin : Option Plugin
  enabled : Nat
  pending : List Captured

/-- The steps of the writer and of the plugin. A publication that fails leaves the file alone. -/
inductive Action where
  | write (call : WriteCall)
  | enable (plugin : Plugin)
  | capture (readings : Readings)
  | publish (index : Nat) (succeeds : Bool)
  | disable (readings : Readings) (succeeds : Bool)

namespace Deployment

def initial : Deployment where
  stateFile := .missing
  closings := 0
  snapshotFile := .unreadable
  acknowledged := none
  plugin := none
  enabled := 0
  pending := []

variable (config : Admission.Config) (libraries : Libraries) (deployment : Deployment)

/-- A call of `WriteState`. -/
def write (call : WriteCall) : Deployment :=
  match Admission.writeState config call with
  | .error _ => deployment
  | .ok (_, payload) =>
    { deployment with
      stateFile := .regular payload
      closings :=
        if call.mode = .closed then deployment.closings + 1 else deployment.closings }

/-- A capture for the lease in the state file. A plugin without a reader looks at no lease. -/
def captured (plugin : Plugin) (readings : Readings) (ready : Bool) : Captured where
  number := deployment.enabled
  snapshot := plugin.capture libraries deployment.stateFile readings ready
  acknowledged := plugin.admissionReader.map fun _ => deployment.closings

/-- `captureAndPublish` up to the task that publishes. While a publication of the plugin is under
way the snapshot is dropped. -/
def captureAndPublish (readings : Readings) : Deployment :=
  match deployment.plugin with
  | none => deployment
  | some plugin =>
    if deployment.pending.any (·.number = deployment.enabled) then deployment
    else { deployment with
      pending := deployment.pending ++ [deployment.captured libraries plugin readings true] }

/-- The snapshot replaces the file. -/
def replaceSnapshot (captured : Captured) : Deployment :=
  { deployment with
    snapshotFile := .regular captured.snapshot.payload
    acknowledged := captured.acknowledged }

/-- The task that publishes a snapshot. -/
def publish (index : Nat) (succeeds : Bool) : Deployment :=
  match deployment.pending[index]? with
  | none => deployment
  | some captured =>
    let finished := { deployment with pending := deployment.pending.eraseIdx index }
    if succeeds then finished.replaceSnapshot captured else finished

/-- `onDisable`. -/
def onDisable (readings : Readings) (succeeds : Bool) : Deployment :=
  match deployment.plugin with
  | none => deployment
  | some plugin =>
    let disabled := { deployment with plugin := none }
    if succeeds then
      disabled.replaceSnapshot (deployment.captured libraries plugin readings false)
    else disabled

def step : Action → Deployment
  | .write call => deployment.write config call
  | .enable plugin =>
    { deployment with plugin := some plugin, enabled := deployment.enabled + 1 }
  | .capture readings => deployment.captureAndPublish libraries readings
  | .publish index succeeds => deployment.publish index succeeds
  | .disable readings succeeds => deployment.onDisable libraries readings succeeds

/-- What the gate evaluates at an instant. -/
def evidence (now : Time) : Admission.Evidence :=
  { stateFile := deployment.stateFile, snapshotFile := deployment.snapshotFile, now }

end Deployment

/-! ### Leftover acknowledgments -/

variable {config : Admission.Config} {libraries : Libraries}

/-- The snapshot was observed no earlier than two seconds before the issue of the lease, and
admission was not closed since it acknowledged a lease. -/
def Own (lease : State) (runtime : RuntimeReading) (closings : Nat)
    (acknowledged : Option Nat) : Prop :=
  lease.issuedAt - 2 * Duration.second ≤ runtime.observedAt ∧
    ∀ earlier ∈ acknowledged, closings ≤ earlier
deriving Decidable

/-- Whenever access is open, the snapshot is an acknowledgment of the lease in the state file. -/
def OwnAcknowledgment (config : Admission.Config) (deployment : Deployment) : Prop :=
  ∀ now lease runtime, Admission.readState deployment.stateFile = .ok lease →
    readRuntimeSnapshot deployment.snapshotFile = some runtime →
    (evaluateAccess config (deployment.evidence now)).isOpen = true →
    Own lease runtime deployment.closings deployment.acknowledged

/-- A lease that can be effective while the acknowledgment of another one is fresh. -/
structure Leftover (config : Admission.Config) (lease : State)
    (runtime : RuntimeReading) (closings : Nat) (acknowledged : Option Nat) : Prop where
  effective : ∃ now, Effective config lease now
  acknowledges : Acknowledges config runtime
  fresh : lease.issuedAt - 5 * Duration.second ≤ runtime.observedAt
  running : runtime.observedAt - 2 * Duration.second < lease.expiresAt
  foreign : ¬ Own lease runtime closings acknowledged

/-- An instant at which a lease and a snapshot are both accepted. -/
theorem exists_common_instant {issued expires observed second : Int} (positive : 0 < second)
    (forward : issued < expires) (fresh : issued - 5 * second ≤ observed)
    (running : observed - 2 * second < expires) :
    ∃ now : Int, issued ≤ now + 2 * second ∧ now < expires ∧ observed ≤ now + 2 * second ∧
      now - observed ≤ 3 * second := by
  rcases Int.le_total issued observed with ordered | ordered
  · exact ⟨observed - 2 * second, by omega, running, by omega, by omega⟩
  · exact ⟨issued - 2 * second, by omega, by omega, by omega, by omega⟩

/-- What both being accepted at one instant says about them. -/
theorem bounds_of_common_instant {issued expires observed now second : Int}
    (started : issued ≤ now + 2 * second) (unexpired : now < expires)
    (seen : observed ≤ now + 2 * second) (recent : now - observed ≤ 3 * second) :
    issued - 5 * second ≤ observed ∧ observed - 2 * second < expires := by
  omega

theorem ownAcknowledgment_iff (deployment : Deployment) :
    OwnAcknowledgment config deployment ↔
      ∀ lease runtime, Admission.readState deployment.stateFile = .ok lease →
        readRuntimeSnapshot deployment.snapshotFile = some runtime →
        ¬ Leftover config lease runtime deployment.closings deployment.acknowledged := by
  constructor
  · intro own lease runtime isLease isRuntime leftover
    obtain ⟨_, effective⟩ := leftover.effective
    obtain ⟨now, started, unexpired, seen, recent⟩ :=
      exists_common_instant (show 0 < Duration.second by decide) effective.forward leftover.fresh
        leftover.running
    refine leftover.foreign (own now lease runtime isLease isRuntime ?_)
    exact (evaluateAccess_isOpen_iff config _).mpr
      ⟨⟨lease, isLease, { effective with started := started, running := unexpired }⟩,
        runtime, isRuntime, leftover.acknowledges, seen, recent⟩
  · intro noLeftover now lease runtime isLease isRuntime isOpen
    obtain ⟨⟨_, sameLease, effective⟩, _, sameRuntime, acknowledges, seen, recent⟩ :=
      (evaluateAccess_isOpen_iff config _).mp isOpen
    obtain rfl := Except.ok.inj (isLease.symm.trans sameLease)
    obtain rfl := Option.mem_unique isRuntime sameRuntime
    obtain ⟨fresh, running⟩ :=
      bounds_of_common_instant effective.started effective.running seen recent
    exact not_not.mp fun foreign => noLeftover lease runtime isLease isRuntime
      ⟨⟨now, effective⟩, acknowledges, fresh, running, foreign⟩

/-- The condition under which a step leaves no leftover acknowledgment: no open lease is written
while the acknowledgment of another one is fresh for it, and no such acknowledgment is published
for the lease in the state file. -/
def Prompt (config : Admission.Config) (deployment : Deployment) : Action → Prop
  | .write call => ∀ lease payload runtime,
      Admission.writeState config call = .ok (lease, payload) →
      readRuntimeSnapshot deployment.snapshotFile = some runtime →
      ¬ Leftover config lease runtime deployment.closings deployment.acknowledged
  | .publish index true => ∀ captured ∈ deployment.pending[index]?, captured.snapshot.Readable →
      ∀ lease, Admission.readState deployment.stateFile = .ok lease →
        ¬ Leftover config lease captured.snapshot.reading deployment.closings
          captured.acknowledged
  | _ => True

theorem ownAcknowledgment_write_iff (valid : config.validate = .ok ()) (deployment : Deployment)
    (call : WriteCall) (own : OwnAcknowledgment config deployment) :
    Prompt config deployment (.write call) ↔
      OwnAcknowledgment config (deployment.write config call) := by
  unfold Deployment.write
  cases result : Admission.writeState config call with
  | error failure =>
    exact ⟨fun _ => own, fun _ _ _ _ contradiction => nomatch result.symm.trans contradiction⟩
  | ok stored =>
    obtain ⟨lease, payload⟩ := stored
    have written := written_of_writeState result
    have isLease := written.readState_eq valid
    have mode : lease.mode = call.mode := written.fields.2.2.2.1
    have closings : call.mode = .opened → (if call.mode = .closed then deployment.closings + 1
        else deployment.closings) = deployment.closings := by
      intro opened
      rw [opened]
      rfl
    rw [ownAcknowledgment_iff]
    dsimp only
    constructor
    · intro prompt _ runtime same isRuntime leftover
      obtain rfl := Except.ok.inj (isLease.symm.trans same)
      obtain ⟨_, effective⟩ := leftover.effective
      rw [closings (mode.symm.trans effective.mode)] at leftover
      exact prompt _ _ runtime result isRuntime leftover
    · intro noLeftover _ _ runtime same isRuntime leftover
      obtain ⟨rfl, -⟩ := Prod.mk.inj (Except.ok.inj (result.symm.trans same))
      obtain ⟨_, effective⟩ := leftover.effective
      refine noLeftover _ runtime isLease isRuntime ?_
      rw [closings (mode.symm.trans effective.mode)]
      exact leftover

theorem ownAcknowledgment_replaceSnapshot_iff (deployment : Deployment) (captured : Captured) :
    OwnAcknowledgment config (deployment.replaceSnapshot captured) ↔
      (captured.snapshot.Readable → ∀ lease,
        Admission.readState deployment.stateFile = .ok lease →
        ¬ Leftover config lease captured.snapshot.reading deployment.closings
          captured.acknowledged) := by
  rw [ownAcknowledgment_iff]
  show (∀ lease runtime, Admission.readState deployment.stateFile = .ok lease →
    readRuntimeSnapshot (.regular captured.snapshot.payload) = some runtime →
    ¬ Leftover config lease runtime deployment.closings captured.acknowledged) ↔ _
  rw [captured.snapshot.readRuntimeSnapshot_payload]
  constructor
  · intro noLeftover readable lease isLease
    exact noLeftover lease _ isLease (if_pos readable)
  · intro noLeftover lease runtime isLease isRuntime
    by_cases readable : captured.snapshot.Readable
    · rw [if_pos readable] at isRuntime
      obtain rfl := Option.some.inj isRuntime
      exact noLeftover readable lease isLease
    · rw [if_neg readable] at isRuntime
      exact nomatch isRuntime

theorem prompt_iff (valid : config.validate = .ok ()) (deployment : Deployment) (action : Action)
    (own : OwnAcknowledgment config deployment) :
    Prompt config deployment action ↔
      OwnAcknowledgment config (deployment.step config libraries action) := by
  cases action with
  | write call => exact ownAcknowledgment_write_iff valid deployment call own
  | enable plugin => exact ⟨fun _ => own, fun _ => trivial⟩
  | capture readings =>
    refine ⟨fun _ => ?_, fun _ => trivial⟩
    show OwnAcknowledgment config (deployment.captureAndPublish libraries readings)
    unfold Deployment.captureAndPublish
    cases deployment.plugin with
    | none => exact own
    | some plugin =>
      dsimp only
      split
      · exact own
      · exact own
  | publish index succeeds =>
    show _ ↔ OwnAcknowledgment config (deployment.publish index succeeds)
    unfold Deployment.publish
    cases found : deployment.pending[index]? with
    | none =>
      refine ⟨fun _ => own, fun _ => ?_⟩
      cases succeeds with
      | false => trivial
      | true => exact fun captured listed => nomatch found.symm.trans listed
    | some captured =>
      cases succeeds with
      | false => exact ⟨fun _ => own, fun _ => trivial⟩
      | true =>
        refine Iff.trans ⟨fun prompt => prompt captured found, fun prompt other listed => ?_⟩
          (ownAcknowledgment_replaceSnapshot_iff _ captured).symm
        obtain rfl := Option.mem_unique found listed
        exact prompt
  | disable readings succeeds =>
    refine ⟨fun _ => ?_, fun _ => trivial⟩
    show OwnAcknowledgment config (deployment.onDisable libraries readings succeeds)
    unfold Deployment.onDisable
    cases deployment.plugin with
    | none => exact own
    | some plugin =>
      cases succeeds with
      | false => exact own
      | true =>
        refine (ownAcknowledgment_replaceSnapshot_iff _ _).mpr fun _ lease _ leftover => ?_
        exact absurd leftover.acknowledges.ready Bool.false_ne_true

/-- In every run of the writer and the plugin, access is opened only by acknowledgments of the
lease itself exactly if every step is prompt. -/
theorem acknowledgments_own_iff (valid : config.validate = .ok ()) (libraries : Libraries)
    (actions : List Action) :
    Runs.Along (Deployment.step config libraries) (Prompt config) .initial actions ↔
      ∀ earlier, earlier <+: actions →
        OwnAcknowledgment config (Runs.run (Deployment.step config libraries) .initial earlier) := by
  have initially : OwnAcknowledgment config .initial := fun _ _ _ read => nomatch read
  exact @Runs.along_iff _ _ (Deployment.step config libraries) .initial (fun _ => True)
    (Prompt config) (OwnAcknowledgment config) (fun _ _ _ => trivial)
    (fun deployment action _ own => prompt_iff valid deployment action own) trivial initially
    actions

/-! ### Reopening -/

/-- A configuration with a pairing the plugin accepts. -/
def pairedConfig : Admission.Config :=
  { sampleConfig with pairingID := "pairing-0123456789" }

theorem pairedConfig_valid : pairedConfig.validate = .ok () := by decide +kernel

def pairedPlugin : Plugin where
  pairingId := "pairing-0123456789"
  bootId := "boot"
  admissionReader := some
    { pairingID := "pairing-0123456789", deploymentGeneration := 1, positive := Int.one_pos }
  paired := by decide
  enrolled := by
    rintro _ ⟨⟩
    rfl

/-- Readings of a server without players at an instant. -/
def readingsAt (now : Time) : Readings where
  observedAt := now
  judgedAt := now
  playerCount := 0
  playerRange := by decide
  tps := []
  mspt := none
  heapUsedBytes := 0
  heapUsedRange := by decide
  heapMaxBytes := 0
  heapMaxRange := by decide
  plugins := []

/-- The first instant of the year 2000. -/
def newYear : Time := 730119 * Time.day

/-- A lease of thirty seconds. -/
def openingAt (now : Time) : WriteCall :=
  { mode := .opened, reason := "", lease := 30 * Duration.second, now }

/-- A lease is written, and the plugin acknowledges it a tenth of a second later. -/
def acknowledgedOpening : List Action :=
  [.write (openingAt newYear), .enable pairedPlugin,
    .capture (readingsAt (newYear + 100000000)), .publish 0 true]

/-- The acknowledged lease is closed, and another one is written within three seconds. -/
def reopening : List Action :=
  acknowledgedOpening ++
    [.write { mode := .closed, reason := "", lease := 0, now := newYear + Duration.second },
      .write (openingAt (newYear + 2900000000))]

/-- The reopened lease is effective at its issue although it is not acknowledged: the snapshot was
observed more than two seconds before, for the lease that was closed. -/
theorem reopening_uses_earlier_acknowledgment :
    let deployment := Runs.run (Deployment.step pairedConfig plainLibraries) .initial reopening
    (Admission.evaluateAccess pairedConfig
      (deployment.evidence (newYear + 2900000000))).isOpen = true ∧
    (∃ lease runtime, Admission.readState deployment.stateFile = .ok lease ∧
      Admission.readRuntimeSnapshot deployment.snapshotFile = some runtime ∧
      runtime.observedAt < lease.issuedAt - 2 * Duration.second) ∧
    (∃ earlier ∈ deployment.acknowledged, earlier < deployment.closings) ∧
    ¬ OwnAcknowledgment pairedConfig deployment := by
  intro deployment
  have isOpen : (Admission.evaluateAccess pairedConfig
      (deployment.evidence (newYear + 2900000000))).isOpen = true := by decide +kernel
  have closed : ∃ earlier ∈ deployment.acknowledged, earlier < deployment.closings :=
    ⟨0, by decide +kernel, by decide +kernel⟩
  have early : ∀ lease ∈ (Admission.readState deployment.stateFile).toOption,
      ∀ runtime ∈ Admission.readRuntimeSnapshot deployment.snapshotFile,
        runtime.observedAt < lease.issuedAt - 2 * Duration.second := by decide +kernel
  obtain ⟨⟨lease, isLease, -⟩, runtime, isRuntime, -⟩ :=
    (Admission.evaluateAccess_isOpen_iff pairedConfig _).mp isOpen
  have listed := congrArg Except.toOption isLease
  refine ⟨isOpen, ⟨lease, runtime, isLease, isRuntime, early lease listed runtime isRuntime⟩,
    closed, fun own => ?_⟩
  obtain ⟨earlier, isEarlier, before⟩ := closed
  exact absurd ((own _ lease runtime isLease isRuntime isOpen).2 earlier isEarlier)
    (not_le.mpr before)

/-- A lease that was acknowledged once is opened by that acknowledgment. -/
theorem acknowledgedOpening_own : OwnAcknowledgment pairedConfig
    (Runs.run (Deployment.step pairedConfig plainLibraries) .initial acknowledgedOpening) := by
  refine (acknowledgments_own_iff pairedConfig_valid plainLibraries acknowledgedOpening).mp ?_ _
    (List.prefix_refl _)
  refine ⟨fun _ _ _ _ unreadable => (Option.some_ne_none _ unreadable.symm).elim, trivial,
    trivial, ?_, trivial⟩
  rintro _ ⟨⟩ - lease isLease leftover
  have written := Admission.written_of_writeState
    (rfl : Admission.writeState pairedConfig (openingAt newYear) = .ok _)
  obtain rfl := Except.ok.inj ((written.readState_eq pairedConfig_valid).symm.trans isLease)
  refine leftover.foreign ⟨?_, ?_⟩
  · show newYear - 2 * Duration.second ≤ newYear + 100000000
    decide
  · rintro _ ⟨⟩
    exact Nat.le_refl 0

end Guard

end GuardedAgentRunner
