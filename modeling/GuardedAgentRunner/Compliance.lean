/-
This file proves that every call of `Foundation.Run` keeps the discipline and keeps
to its own operation. The parts that only read, wait or write files are calm;
marking a step puts it in hand and arms it; a target call uses the armed step; and
the recording of an observed effect, or the completion of the backup, uses the
step in hand. A run that returns without an error has reread the archive.
-/

import GuardedAgentRunner.Discipline

namespace GuardedAgentRunner

open Fallible Protocol Program Foundation

variable {codec : Codec} {foundation : Foundation} {operationID stepID : String}
  {intent : ChangeIntent} {trace later : Trace} {n : Nat} {request : StopRequest}
  {context : Context} {engine : Engine} {backupID : String}

/-! ### The backup engine -/

theorem calm_store {call : StoreCall} (still : (Effect.store context call).still = true)
    (permitted : ∀ trace, Permits codec foundation.enrollment operationID trace
      (.store context call)) :
    Calm codec foundation operationID (store context call) :=
  fun trace => ⟨⟨still, permitted trace⟩, fun _ _ _ => trivial⟩

theorem checkDestination_calm : Calm codec foundation operationID Engine.checkDestination := by
  refine .bind (.file _) fun _ => .bind (.reify (.file _)) fun outcome => ?_
  split
  · exact .pure ()
  · exact .throw _

theorem checkSource_calm (artifact : ArtifactRecord) (message : String) :
    Calm codec foundation operationID (Engine.checkSource artifact message) :=
  .bind (.file _) fun _ => .lift _

theorem prepare_calm (engine : Engine) (record : BackupRecord) :
    Calm codec foundation operationID (engine.prepare record) := by
  refine .bind (.lift _) fun _ => .bind (.lift _) fun name => .bind (.file _) fun _ =>
    .bind (.file _) fun _ => .bind (.lift _) fun _ => .bind checkDestination_calm fun _ => ?_
  split
  · refine .bind (checkSource_calm _ _) fun _ => .bind (.reify (.file _)) fun outcome => ?_
    split
    · exact .pure _
    · exact .throw _
  · exact .throw _

theorem advance_calm (backupID : String) (status : BackupStatus) :
    Calm codec foundation operationID (Engine.advance backupID status) :=
  .bind .now fun _ => calm_store rfl fun _ => trivial

theorem write_calm (engine : Engine) (backupID name : String) :
    Calm codec foundation operationID (engine.write backupID name) :=
  .bind (advance_calm _ _) fun _ => .bind (.file _) fun _ => .bind (.checkpoint _ _) fun _ =>
    .bind (.file _) fun _ => .bind (.file _) fun _ => .bind (.file _) fun _ =>
    .bind (advance_calm _ _) fun _ => .bind (.file _) fun _ => .bind (.file _) fun _ =>
    .bind (.file _) fun _ => .bind (.checkpoint _ _) fun _ => .pure _

theorem markOrphaned_calm (backupID : String) (status : BackupStatus) :
    Calm codec foundation operationID (Engine.markOrphaned backupID status) := by
  unfold Engine.markOrphaned
  split
  · exact .pure ()
  split
  · exact .pure ()
  refine .bind (.reify (.file _)) fun opened => ?_
  split
  · exact .pure ()
  refine .bind (.reify (.file _)) fun present => ?_
  split
  · refine .bind (.reify (advance_calm _ _)) fun moved => ?_
    split
    · exact .bind (.reify (calm_store rfl fun _ => trivial)) fun _ => .pure ()
    · exact .pure ()
  · exact .pure ()

/-- The run has read the intent of its operation and the completed backup reserved in it, and has
reread the archive with the recorded digest and size. -/
def Inspected (operationID : String) (trace : Trace) (backupID : String) (backup : BackupRecord) :
    Prop :=
  ∃ operation record name, Answered trace (.getOperation operationID) operation ∧
    Answered trace (.getIntent operation.intentID) record ∧
    record.intent.reservedBackupID = backupID ∧ Answered trace (.getBackup backupID) backup ∧
    backup.validateCompleted = .ok () ∧ archiveName backupID = .ok name ∧
    ⟨.file (.verify name), .ok (backup.archiveSHA256, backup.archiveSizeBytes)⟩ ∈ trace

theorem inspect_rereads :
    (calm codec foundation operationID).Ensures trace (engine.inspect backupID) fun later _ =>
      ∃ backup name, Answered later (.getBackup backupID) backup ∧
        backup.validateCompleted = .ok () ∧ archiveName backupID = .ok name ∧
        (⟨.file (.verify name), .ok (backup.archiveSHA256, backup.archiveSizeBytes)⟩ :
          Occurrence) ∈ later := by
  refine (ensures_store ⟨rfl, trivial⟩).bind fun read backup recorded => ?_
  have answered : Answered read (.getBackup backupID) backup :=
    ⟨.bounded, by rw [recorded]; exact List.mem_cons_self⟩
  have quiet : ∀ {Result : Type} {program : Flow Result} {started : Trace},
      Calm codec foundation operationID program →
      (calm codec foundation operationID).Ensures started program fun later _ =>
        started <:+ later := fun isCalm =>
    Protocol.Holds.weaken (Holds.grows (isCalm _)) fun _ _ reached _ _ => reached.1
  split
  · exact (quiet (markOrphaned_calm _ _)).bind fun _ _ _ => ensures_throw
  · rename_i done valid
    refine ensures_lift_bind fun _ _ => ensures_lift_bind fun name named => ?_
    refine (quiet checkDestination_calm).bind fun opened _ opening => ?_
    have verifies : (calm codec foundation operationID).Ensures opened (file (.verify name))
        fun later result => later = ⟨.file (.verify name), .ok result⟩ :: opened := by
      refine ⟨⟨rfl, trivial⟩, fun answer later recorded result same => ?_⟩
      cases same
      exact recorded
    refine verifies.bind fun verified result rereading => ?_
    refine ensures_lift.mpr fun _ accepted => ?_
    have equal := not_or.mp ((refuse_eq_ok _ _ _).mp accepted)
    have more : opened <:+ verified := rereading ▸ List.suffix_cons ..
    refine ⟨backup, name, answered.mono (opening.trans more), valid, named, ?_⟩
    rw [rereading, ← not_not.mp equal.1, ← not_not.mp equal.2]
    exact List.mem_cons_self

theorem inspect_calm (engine : Engine) (backupID : String) :
    Calm codec foundation operationID (engine.inspect backupID) :=
  fun _ => Protocol.Holds.weaken inspect_rereads fun _ _ _ => trivial

/-! ### Evidence -/

theorem observe_ensures (offline : Bool) :
    (calm codec foundation operationID).Ensures trace (foundation.observe codec intent offline)
      fun later observation =>
        Observed codec foundation.enrollment later intent offline observation := by
  have asked : (calm codec foundation operationID).Holds trace (Target.observeSafety offline)
      fun later outcome => later = ⟨.observeSafety offline, outcome⟩ :: trace :=
    ⟨⟨rfl, trivial⟩, fun _ _ => id⟩
  refine (ensures_reify asked).bind fun seen outcome recorded => ?_
  cases outcome with
  | error failure => exact ensures_throw
  | ok observation =>
    refine (ensures_now ⟨rfl, trivial⟩).bind fun clocked time read => ?_
    refine ensures_lift_bind fun _ valid => ensures_pure.mpr ⟨time, ?_, ?_, valid⟩
    · rw [read, recorded]
      exact List.mem_cons_of_mem _ List.mem_cons_self
    · rw [read]
      exact List.mem_cons_self

theorem observe_calm (offline : Bool) :
    Calm codec foundation operationID (foundation.observe codec intent offline) :=
  fun _ => Protocol.Holds.weaken (observe_ensures offline) fun _ _ _ => trivial

theorem offline_ensures {operation : Operation}
    (read : Answered trace (.getOperation operationID) operation) :
    (calm codec foundation operationID).Ensures trace (foundation.offline codec intent operation)
      fun later ready =>
        Offline codec foundation.enrollment operationID later intent ready := by
  refine ensures_lift_bind fun stop _ => ensures_lift_bind fun ready _ =>
    ensures_lift_bind fun _ _ => ?_
  refine (Ensures.grows (observe_ensures true)).bind fun seen observation reached => ?_
  refine (ensures_now ⟨rfl, trivial⟩).bind fun clocked time clock => ?_
  have later : seen <:+ clocked := clock ▸ List.suffix_cons ..
  refine ensures_lift_bind fun _ valid => ensures_pure.mpr ⟨reached.2.mono later, operation, time,
    (read.mono reached.1).mono later, ?_, valid⟩
  rw [clock]
  exact List.mem_cons_self

theorem offline_calm {operation : Operation} {stopped : Trace}
    (read : Answered trace (.getOperation operationID) operation) (suffix : trace <:+ stopped) :
    (calm codec foundation operationID).Holds stopped (foundation.offline codec intent operation)
      fun _ _ => True :=
  Protocol.Holds.weaken (offline_ensures (read.mono suffix)) fun _ _ _ => trivial

theorem lookMaintenance_calm :
    Calm codec foundation operationID (foundation.lookMaintenance codec intent) := by
  refine .bind (.reify (observe_calm false)) fun outcome => ?_
  split
  · split
    · exact .pure _
    · exact .pure _
  · split
    · exact .throw _
    · exact .pure _

theorem polls_calm : Calm codec foundation operationID (ExceptT.lift (ask Effect.polls)) :=
  fun _ => ⟨⟨rfl, trivial⟩, fun _ _ _ => trivial⟩

theorem waitMaintenance_calm :
    Calm codec foundation operationID (foundation.waitMaintenance codec intent) := by
  refine .bind polls_calm fun polls trace => ?_
  refine holds_poll (fun _ => True) (fun state _ => ?_) polls.1 trivial
  refine Protocol.Holds.weaken (lookMaintenance_calm state) fun _ outcome _ => ?_
  split <;> trivial

/-- A part that does not stop with an error. -/
def Sure (codec : Codec) (foundation : Foundation) (operationID : String) (trace : Trace)
    {Result : Type} (program : Flow Result) : Prop :=
  (calm codec foundation operationID).Holds trace program fun _ outcome =>
    ∃ result, outcome = .ok result

theorem lookStopped_sure (own : request.operationID = operationID)
    (inHand : holding trace = some request.stepID) :
    Sure codec foundation operationID trace (lookStopped request) := by
  have asked : (calm codec foundation operationID).Yields (fun _ => False) trace
      (Target.observeStop request) fun _ _ => True :=
    ⟨⟨rfl, own, inHand⟩, fun _ _ _ => trivial⟩
  refine Holds.bind asked (fun seen answer _ => ?_) fun _ _ => False.elim
  obtain ⟨stop, failure⟩ := answer
  cases failure with
  | some failure => exact ⟨_, rfl⟩
  | none =>
    dsimp only
    split
    · exact ⟨⟨rfl, trivial⟩, fun _ _ _ => ⟨_, rfl⟩⟩
    · exact ⟨_, rfl⟩

theorem waitStopped_sure (request : StopRequest) (own : request.operationID = operationID)
    (inHand : holding trace = some request.stepID) :
    Sure codec foundation operationID trace (waitStopped request) := by
  have polled : (calm codec foundation operationID).Yields (fun _ => False) trace
      (ExceptT.lift (ask Effect.polls) : Flow (Nat × Failure)) fun later _ =>
        later = ⟨.polls, _⟩ :: trace :=
    ⟨⟨rfl, trivial⟩, fun _ _ => id⟩
  refine Holds.bind polled (fun later polls recorded => ?_) fun _ _ => False.elim
  refine holds_poll (fun state => holding state = some request.stepID) (fun state kept => ?_)
    polls.1 (recorded ▸ inHand)
  refine (Holds.still (lookStopped_sure own kept)).weaken fun looked outcome look => ?_
  obtain ⟨still, result, rfl⟩ := look
  cases result with
  | inl last => exact ⟨still.holding.trans kept, _, rfl⟩
  | inr result => exact ⟨result, rfl⟩

/-! ### Recording -/

section Steps

variable {operation : Operation} {attempt : StepAttempt} {Result : Type}

theorem record_conducted {id : String} {effect : EffectState} {attribution : Attribution}
    {evidence : List String} (allowed : ∀ later, Still trace later → ∀ now,
      (conduct codec foundation operationID).allowed later
        (.store context (.recordStepObservation id stepID effect attribution evidence now))) :
    (conduct codec foundation operationID).Ensures trace
      (record id context stepID effect attribution evidence) fun _ _ => True := by
  refine (Calm.conducted .now).bind fun clocked time still => ?_
  exact (ensures_store (allowed clocked still time)).weaken fun _ _ _ => trivial

/-- An uncertain outcome of the own operation may be recorded at any time. -/
theorem unknown_conducted {reason : String} {post : Trace → Result → Prop}
    (read : Answered trace (.getOperation operationID) operation) :
    (conduct codec foundation operationID).Ensures trace
      (unknown operation attempt reason) post := by
  refine (record_conducted fun later still now => ⟨Or.inl ⟨rfl, rfl⟩, fun reads => ?_⟩).bind
    fun _ _ _ => ensures_throw
  exact ⟨reads operation (read.mono still.suffix), fun impossible => nomatch impossible⟩

/-- The run has the step with the given number in hand. -/
structure InHand (codec : Codec) (operationID : String) (trace : Trace) (intent : ChangeIntent)
    (n : Nat) (stepID : String) : Prop where
  entered : Entered codec operationID trace intent
  selected : Selected operationID trace n stepID
  holding : holding trace = some stepID

section

variable (hand : InHand codec operationID trace intent n stepID)

include hand

theorem InHand.keep
    (suffix : trace <:+ later) (same : GuardedAgentRunner.holding later =
      GuardedAgentRunner.holding trace) : InHand codec operationID later intent n stepID where
  entered := hand.entered.mono suffix
  selected := hand.selected.mono suffix
  holding := same.trans hand.holding

theorem InHand.still
    (still : Still trace later) : InHand codec operationID later intent n stepID :=
  hand.keep still.suffix still.holding

theorem InHand.arms
    (armed : armed trace = some stepID) : Arms codec operationID trace n stepID :=
  ⟨armed, hand.holding, ⟨intent, hand.entered⟩, hand.selected⟩

end

/-- Where a step of a run stands: it has entered, read its operation and selected the step. -/
structure Prepared (codec : Codec) (operationID : String) (trace : Trace) (intent : ChangeIntent)
    (operation : Operation) (n : Nat) (stepID : String) : Prop where
  entered : Entered codec operationID trace intent
  read : Answered trace (.getOperation operationID) operation
  selected : Selected operationID trace n stepID

theorem Prepared.mono (prepared : Prepared codec operationID trace intent operation n stepID)
    (suffix : trace <:+ later) : Prepared codec operationID later intent operation n stepID :=
  ⟨prepared.entered.mono suffix, prepared.read.mono suffix, prepared.selected.mono suffix⟩

theorem dispatch_conducted (small : n < 6)
    (prepared : Prepared codec operationID trace intent operation n attempt.stepID)
    (justifies : Justifies codec foundation.enrollment operationID trace intent n) :
    (conduct codec foundation operationID).Ensures trace
      (foundation.dispatch operationID attempt) fun later _ =>
        Answered later (.getOperation operationID) operation ∧
          InHand codec operationID later intent n attempt.stepID ∧
          armed later = some attempt.stepID := by
  refine (Calm.conducted .now).bind fun clocked time still => ?_
  have prepared := prepared.mono still.suffix
  have permitted : Permits codec foundation.enrollment operationID clocked
      (.store .bounded (.markDispatchPossible operationID attempt.stepID time)) :=
    ⟨rfl, n, intent, small, prepared.entered, prepared.selected, justifies.mono still.suffix⟩
  refine (ensures_store ⟨permitted, fun _ => trivial⟩).bind fun marked _ recorded => ?_
  have prepared := prepared.mono (recorded ▸ List.suffix_cons .. : clocked <:+ marked)
  have hand : InHand codec operationID marked intent n attempt.stepID :=
    ⟨prepared.entered, prepared.selected, by rw [recorded]; rfl⟩
  have isArmed : armed marked = some attempt.stepID := by rw [recorded]; rfl
  refine (Calm.conducted (.checkpoint _ _)).bind fun checked _ calm => ensures_pure.mpr ?_
  exact ⟨prepared.read.mono calm.suffix, hand.still calm, calm.armed.trans isArmed⟩

theorem complete_conducted {evidence : Evidence} (small : n < 5)
    (read : Answered trace (.getOperation operationID) operation)
    (hand : InHand codec operationID trace intent n attempt.stepID) :
    (conduct codec foundation operationID).Ensures trace
      (foundation.complete codec operationID operation attempt evidence) fun _ _ => True := by
  unfold complete
  split
  · exact unknown_conducted read
  · refine (record_conducted fun later still now => ?_).bind fun recorded _ _ => ?_
    · have hand := hand.still still
      exact ⟨Or.inr ⟨rfl, hand.holding⟩,
        fun _ => ⟨rfl, fun _ _ => ⟨n, intent, small, hand.entered, hand.selected⟩⟩⟩
    · exact (Calm.conducted (.checkpoint _ _)).weaken fun _ _ _ => trivial

/-! ### The steps -/

theorem checkTarget_ensures (n : Nat) :
    (calm codec foundation operationID).Ensures trace (foundation.checkTarget codec intent n)
      fun later observation => Observed codec foundation.enrollment later intent false observation ∧
        observation.processStopped = false ∧ (2 ≤ n → observation.players = 0) ∧
        (n = 3 → observation.admissionClosed = true ∧ observation.maintenance = true) := by
  refine (observe_ensures false).bind fun seen before observed => ?_
  refine ensures_lift_bind fun _ running => ensures_lift_bind fun _ empty =>
    ensures_lift_bind fun _ closed => ensures_pure.mpr ⟨observed, ?_, ?_, ?_⟩
  · simpa using running
  · intro low
    by_contra players
    exact (refuse_eq_ok _ _ _).mp empty ⟨low, players⟩
  · intro third
    have both := (refuse_eq_ok _ _ _).mp closed
    simpa [third] using both

theorem justifies_target {observation : SafetyObservation} (low : 1 ≤ n) (high : n ≤ 3)
    (observed : Observed codec foundation.enrollment trace intent false observation ∧
      observation.processStopped = false ∧ (2 ≤ n → observation.players = 0) ∧
      (n = 3 → observation.admissionClosed = true ∧ observation.maintenance = true)) :
    Justifies codec foundation.enrollment operationID trace intent n where
  target _ _ := ⟨observation, observed⟩
  offline far := by omega

theorem claimOperation_conducted
    (prepared : Prepared codec operationID trace intent operation 0 attempt.stepID) :
    (conduct codec foundation operationID).Ensures trace
      (foundation.claimOperation codec operationID intent operation attempt) fun _ _ => True := by
  have justifies : Justifies codec foundation.enrollment operationID trace intent 0 :=
    ⟨fun low => by omega, fun low => by omega⟩
  refine (dispatch_conducted (by decide) prepared justifies).bind fun later _ reached => ?_
  exact complete_conducted (by decide) reached.1 reached.2.1

theorem revalidate_conducted
    (prepared : Prepared codec operationID trace intent operation 1 attempt.stepID) :
    (conduct codec foundation operationID).Ensures trace
      (foundation.revalidate codec operationID intent operation attempt) fun _ _ => True := by
  refine (Ensures.conducted (checkTarget_ensures 1)).bind fun checked before seen => ?_
  refine (dispatch_conducted (by decide) (prepared.mono seen.1.suffix)
    (justifies_target (by decide) (by decide) seen.2)).bind fun later _ reached => ?_
  exact complete_conducted (by decide) reached.1 reached.2.1

theorem receipted_sure (receipt : MaintenanceReceipt) (stepID : String) (requestedAt : Time) :
    Sure codec foundation operationID trace
      (receipted operationID receipt stepID requestedAt) := by
  unfold receipted
  split
  · exact ⟨⟨rfl, trivial⟩, fun _ _ _ => ⟨_, rfl⟩⟩
  · exact ⟨_, rfl⟩

theorem acquireMaintenance_conducted
    (prepared : Prepared codec operationID trace intent operation 2 attempt.stepID) :
    (conduct codec foundation operationID).Ensures trace
      (foundation.acquireMaintenance codec operationID intent operation attempt)
        fun _ _ => True := by
  refine (Ensures.conducted (checkTarget_ensures 2)).bind fun checked _ seen => ?_
  refine (dispatch_conducted (by decide) (prepared.mono seen.1.suffix)
    (justifies_target (by decide) (by decide) seen.2)).bind fun marked requestedAt reached => ?_
  obtain ⟨read, hand, isArmed⟩ := reached
  have called : (conduct codec foundation operationID).Holds marked
      (Target.closeAdmission operationID attempt.stepID) fun later _ =>
        Answered later (.getOperation operationID) operation ∧
          InHand codec operationID later intent 2 attempt.stepID :=
    ⟨⟨⟨rfl, hand.arms isArmed⟩, fun _ => trivial⟩, fun _ _ recorded => recorded ▸
      ⟨read.mono (List.suffix_cons ..), hand.keep (List.suffix_cons ..) rfl⟩⟩
  refine (ensures_reify called).bind fun answered outcome reached => ?_
  obtain ⟨read, hand⟩ := reached
  cases outcome with
  | error failure => exact unknown_conducted read
  | ok receipt =>
    refine (Holds.steady (receipted_sure _ _ _)).bind fun judged accepted still => ?_
    have read := read.mono still.suffix
    split
    · refine (Calm.conducted (.reify waitMaintenance_calm)).bind fun waited outcome waiting => ?_
      have read := read.mono waiting.suffix
      cases outcome with
      | error failure => exact unknown_conducted read
      | ok closed => exact complete_conducted (by decide) read ((hand.still still).still waiting)
    · exact unknown_conducted read

theorem unconfirmedStop_conducted {stop : StopEvidence} {failure : Failure}
    {post : Trace → Result → Prop} (read : Answered trace (.getOperation operationID) operation)
    (hand : InHand codec operationID trace intent n attempt.stepID) :
    (conduct codec foundation operationID).Ensures trace
      (unconfirmedStop operationID operation attempt request stop failure) post := by
  unfold unconfirmedStop
  split
  · refine (record_conducted fun later still now => ?_).bind fun _ _ _ => ensures_throw
    exact ⟨Or.inr ⟨rfl, still.holding.trans hand.holding⟩,
      fun _ => ⟨rfl, fun impossible => nomatch impossible⟩⟩
  split
  · refine (Calm.conducted .now).bind fun clocked time clock => ?_
    split
    · refine (record_conducted fun later still now => ?_).bind fun recorded _ _ => ?_
      · exact ⟨Or.inr ⟨rfl, (clock.trans still).holding.trans hand.holding⟩,
          fun _ => ⟨rfl, fun _ impossible => nomatch impossible⟩⟩
      · refine (Calm.conducted .now).bind fun _ _ _ => ?_
        exact (ensures_store ⟨trivial, fun _ => rfl⟩).bind fun _ _ _ => ensures_throw
    · exact unknown_conducted (read.mono clock.suffix)
  · exact unknown_conducted read

theorem gracefulStop_conducted
    (prepared : Prepared codec operationID trace intent operation 3 attempt.stepID) :
    (conduct codec foundation operationID).Ensures trace
      (foundation.gracefulStop codec operationID intent operation attempt) fun _ _ => True := by
  refine (Ensures.conducted (checkTarget_ensures 3)).bind fun checked before seen => ?_
  refine (dispatch_conducted (by decide) (prepared.mono seen.1.suffix)
    (justifies_target (by decide) (by decide) seen.2)).bind fun marked requestedAt reached => ?_
  obtain ⟨read, hand, isArmed⟩ := reached
  have called : (conduct codec foundation operationID).Holds marked
      (Target.dispatchGracefulStop ⟨operationID, attempt.stepID, intent.containerID,
        intent.expectedBootID, requestedAt⟩) fun later _ =>
        Answered later (.getOperation operationID) operation ∧
          InHand codec operationID later intent 3 attempt.stepID :=
    ⟨⟨⟨rfl, hand.arms isArmed⟩, fun _ => trivial⟩, fun _ _ recorded => recorded ▸
      ⟨read.mono (List.suffix_cons ..), hand.keep (List.suffix_cons ..) rfl⟩⟩
  refine (ensures_reify called).bind fun answered outcome reached => ?_
  obtain ⟨read, hand⟩ := reached
  cases outcome with
  | error failure => exact unknown_conducted read
  | ok _ =>
    refine (Holds.steady (waitStopped_sure ⟨operationID, attempt.stepID, intent.containerID,
      intent.expectedBootID, requestedAt⟩ rfl hand.holding)).bind fun waited result waiting => ?_
    have read := read.mono waiting.suffix
    obtain ⟨stop, failure⟩ := result
    cases failure with
    | some failure => exact unconfirmedStop_conducted read (hand.still waiting)
    | none => exact complete_conducted (by decide) read (hand.still waiting)

theorem justifies_offline {ready : BackupReadyEvidence} (far : 4 ≤ n)
    (offline : Offline codec foundation.enrollment operationID trace intent ready) :
    Justifies codec foundation.enrollment operationID trace intent n where
  target _ high := by omega
  offline _ := ⟨ready, offline⟩

theorem offlineRevalidation_conducted
    (prepared : Prepared codec operationID trace intent operation 4 attempt.stepID) :
    (conduct codec foundation operationID).Ensures trace
      (foundation.offlineRevalidation codec operationID intent operation attempt)
        fun _ _ => True := by
  refine (Ensures.conducted (offline_ensures prepared.read)).bind fun checked ready seen => ?_
  refine (dispatch_conducted (by decide) (prepared.mono seen.1.suffix)
    (justifies_offline (by decide) seen.2)).bind fun later _ reached => ?_
  exact complete_conducted (by decide) reached.1 reached.2.1

/-- The check of `Create` is calm from every later trace. -/
def Checks (codec : Codec) (foundation : Foundation) (operationID : String) (trace : Trace)
    (check : Flow BackupReadyEvidence) : Prop :=
  ∀ later, trace <:+ later →
    (calm codec foundation operationID).Holds later check fun _ _ => True

variable {check : Flow BackupReadyEvidence}

section

variable (checks : Checks codec foundation operationID trace check)

include checks

theorem reread_calm {name written : String} {artifact : ArtifactRecord} (suffix : trace <:+ later) :
    (calm codec foundation operationID).Holds later
      (Engine.reread check backupID name written artifact) fun _ _ => True := by
  have advancing : Calm codec foundation operationID (Engine.advance backupID .verifying) :=
    advance_calm _ _
  refine (Holds.grows (advancing later)).bind (fun advanced _ grown => ?_) fun _ _ _ => trivial
  refine (Holds.grows (Calm.file _ advanced)).bind (fun verified _ more => ?_) fun _ _ _ => trivial
  refine (Holds.grows (Calm.lift _ verified)).bind (fun compared _ still => ?_) fun _ _ _ => trivial
  refine (checks _ ((suffix.trans grown.1).trans (more.1.trans still.1))).bind
    (fun checked _ _ => ?_) fun _ _ _ => trivial
  exact (checkSource_calm _ _ checked).bind (fun _ _ _ => trivial) fun _ _ _ => trivial

/-- `Create` completes only the reservation it made for the step in hand. -/
theorem create_conducted {record : BackupRecord} (own : record.operationID = operationID)
    (inHand : holding trace = some record.stepID) :
    (conduct codec foundation operationID).Ensures trace (engine.create record check)
      fun _ _ => True := by
  refine (Holds.steady (checks trace List.suffix_rfl)).bind fun checked ready checking => ?_
  refine (Calm.conducted (prepare_calm engine _)).bind fun prepared _ preparing => ?_
  refine (Calm.conducted .now).bind fun clocked time clock => ?_
  refine (ensures_store ⟨trivial, fun _ => trivial⟩).bind fun reserved _ recorded => ?_
  have reserving : Still trace reserved :=
    ((checking.trans preparing).trans clock).trans (recorded ▸ still_cons rfl)
  have answered : Answered reserved (.reserveBackup { record with ready := ready } time) () :=
    ⟨.bounded, by rw [recorded]; exact List.mem_cons_self⟩
  refine (Calm.conducted (write_calm engine _ _)).bind fun written _ writing => ?_
  refine (Holds.steady (reread_calm checks (reserving.trans writing).suffix)).bind
    fun reread _ rereading => ?_
  refine (Calm.conducted .now).bind fun finished time finishing => ?_
  have still := (writing.trans rereading).trans finishing
  refine (ensures_store ⟨⟨_, _, answered.mono still.suffix, rfl, own,
    (reserving.trans still).holding.trans inHand⟩, fun _ => trivial⟩).bind
      fun completed _ _ => ?_
  exact (Calm.conducted (.checkpoint _ _)).weaken fun _ _ _ => trivial

theorem callCreate_conducted {record : BackupRecord}
    (own : record.operationID = operationID)
    (hand : InHand codec operationID trace intent 5 record.stepID)
    (isArmed : armed trace = some record.stepID) :
    (conduct codec foundation operationID).Holds trace (foundation.callCreate record check)
      fun later _ => trace <:+ later := by
  have called : (conduct codec foundation operationID).Holds trace
      (ExceptT.lift (ask (Effect.createBackup record)) : Flow Unit)
      fun later _ => later = ⟨.createBackup record, ()⟩ :: trace :=
    ⟨⟨⟨own, hand.arms isArmed⟩, fun _ => trivial⟩, fun _ _ => id⟩
  have creates : (conduct codec foundation operationID).Holds trace
      (foundation.callCreate record check) fun _ _ => True := by
    refine called.bind (fun later _ recorded => ?_) fun _ _ _ => trivial
    have grown : trace <:+ later := recorded ▸ List.suffix_cons ..
    refine Protocol.Holds.weaken (create_conducted (fun final suffix => ?_) own ?_)
      fun _ _ _ => trivial
    · exact checks final (grown.trans suffix)
    · rw [recorded]
      exact hand.holding
  exact (Holds.grows creates).weaken fun _ _ => And.left

end

theorem createBackup_conducted
    (prepared : Prepared codec operationID trace intent operation 5 attempt.stepID) :
    (conduct codec foundation operationID).Ensures trace
      (foundation.createBackup codec operationID intent operation attempt) fun _ _ => True := by
  refine (Ensures.conducted (offline_ensures prepared.read)).bind fun checked ready seen => ?_
  refine (dispatch_conducted (by decide) (prepared.mono seen.1.suffix)
    (justifies_offline (by decide) seen.2)).bind fun marked _ reached => ?_
  obtain ⟨read, hand, isArmed⟩ := reached
  refine (Calm.conducted .now).bind fun clocked createdAt clock => ?_
  have read := read.mono clock.suffix
  have created : (conduct codec foundation operationID).Holds clocked
      (foundation.callCreate (foundation.backupRecord operationID intent attempt ready createdAt)
        (foundation.offline codec intent operation)) fun later _ => clocked <:+ later :=
    callCreate_conducted (fun later => offline_calm read) rfl (hand.still clock)
      (clock.armed.trans isArmed)
  refine (ensures_reify created).bind fun ended outcome ending => ?_
  have read := read.mono ending
  cases outcome with
  | ok _ => exact ensures_pure.mpr trivial
  | error failure =>
    have reading : Calm codec foundation operationID
        (store .bounded (.getOperation operationID)) := calm_store rfl fun _ => trivial
    refine (Calm.conducted (.reify reading)).bind fun _ fresh still => ?_
    have read := read.mono still.suffix
    cases fresh with
    | error _ => exact unknown_conducted read
    | ok fresh =>
      dsimp only
      split
      · exact ensures_throw
      · exact unknown_conducted read

/-! ### The loop and the entry -/

theorem resume_conducted (read : Answered trace (.getOperation operationID) operation) :
    (conduct codec foundation operationID).Ensures trace
      (foundation.resume operationID operation n) fun later result =>
        ∀ attempt, result = some attempt → Selected operationID later n attempt.stepID := by
  unfold resume
  split
  · rename_i attempt present
    split
    · exact ensures_pure.mpr fun _ impossible => nomatch impossible
    split
    · exact unknown_conducted read
    · refine ensures_pure.mpr fun chosen same => ?_
      cases same
      exact Or.inl ⟨operation, attempt, read, present, rfl⟩
  · refine (Calm.conducted .now).bind fun clocked time clock => ?_
    refine (ensures_store ⟨trivial, fun _ => rfl⟩).bind fun prepared attempt recorded => ?_
    refine (Calm.conducted (.checkpoint _ _)).bind fun checked _ still => ?_
    refine ensures_pure.mpr fun chosen same => ?_
    cases same
    refine Or.inr ⟨time, attempt, ⟨.bounded, still.suffix.mem ?_⟩, rfl⟩
    rw [recorded]
    exact List.mem_cons_self

theorem transition_conducted {status : OperationStatus}
    (forward : status = .preparing ∨ status = .executing) :
    (conduct codec foundation operationID).Ensures trace (transition operationID status)
      fun _ _ => True := by
  refine (Calm.conducted .now).bind fun _ _ _ => ?_
  exact (ensures_store ⟨forward, fun _ => ⟨rfl, forward, rfl⟩⟩).weaken fun _ _ _ => trivial

theorem startExecuting_conducted :
    (conduct codec foundation operationID).Ensures trace
      (startExecuting operationID operation n) fun _ _ => True := by
  unfold startExecuting
  split
  · exact transition_conducted (Or.inr rfl)
  · exact ensures_pure.mpr trivial

theorem work_conducted (small : n < 6)
    (prepared : Prepared codec operationID trace intent operation n attempt.stepID) :
    (conduct codec foundation operationID).Ensures trace
      (foundation.work codec operationID intent operation attempt n) fun _ _ => True := by
  rcases n with _ | _ | _ | _ | _ | _ | n
  · exact claimOperation_conducted prepared
  · exact revalidate_conducted prepared
  · exact acquireMaintenance_conducted prepared
  · exact gracefulStop_conducted prepared
  · exact offlineRevalidation_conducted prepared
  · exact createBackup_conducted prepared
  · omega

end Steps

theorem iterate_conducted (small : n < 6) (entered : Entered codec operationID trace intent) :
    (conduct codec foundation operationID).Ensures trace
      (foundation.iterate codec operationID intent n) fun _ _ => True := by
  refine (ensures_store ⟨trivial, fun _ => trivial⟩).bind fun loaded operation recorded => ?_
  have grown : trace <:+ loaded := recorded ▸ List.suffix_cons ..
  have read : Answered loaded (.getOperation operationID) operation :=
    ⟨.bounded, by rw [recorded]; exact List.mem_cons_self⟩
  refine ensures_lift_bind fun _ _ => ?_
  refine (Ensures.grows (resume_conducted read)).bind fun resumed result reached => ?_
  cases result with
  | none => exact ensures_pure.mpr trivial
  | some attempt =>
    refine (Ensures.grows startExecuting_conducted).bind fun started _ starting => ?_
    have suffix := reached.1.trans starting.1
    exact work_conducted small ⟨entered.mono (grown.trans suffix), read.mono suffix,
      (reached.2 attempt rfl).mono starting.1⟩

theorem loop_conducted (numbers : List Nat) (small : ∀ n ∈ numbers, n < 6)
    (entered : Entered codec operationID trace intent) :
    (conduct codec foundation operationID).Ensures trace
      (numbers.forM (foundation.iterate codec operationID intent)) fun _ _ => True := by
  induction numbers generalizing trace with
  | nil => exact ensures_pure.mpr trivial
  | cons n numbers hypothesis =>
    refine (Ensures.grows (iterate_conducted (small n List.mem_cons_self) entered)).bind
      fun later _ reached => ?_
    exact hypothesis (fun n member => small n (List.mem_cons_of_mem _ member))
      (entered.mono reached.1)

theorem checkEntry_eq_ok {operation : Operation} {record : IntentRecord} {done : Unit}
    (accepted : foundation.checkEntry codec operation record = .ok done) :
    record.intent.Sealed codec ∧ record.intent.steps.items = fixedWorkflowSteps := by
  simp only [checkEntry, bind_eq_ok, refuse_eq_ok, not_not] at accepted
  obtain ⟨_, isSealed, _, -, _, steps, -⟩ := accepted
  exact ⟨isSealed, steps⟩

theorem checkClock_calm (operation : Operation) :
    Calm codec foundation operationID (checkClock intent operation) :=
  .bind .now fun _ => .bind .now fun _ => .bind (.lift _) fun _ => .bind .now fun _ =>
    .bind (.lift _) fun _ => .bind .now fun _ => .pure _

theorem checkStart_calm (operation : Operation) :
    Calm codec foundation operationID (checkStart intent operation) := by
  unfold checkStart
  split
  · exact .bind .now fun _ => .lift _
  · exact .pure _

theorem startPreparing_conducted {operation : Operation} :
    (conduct codec foundation operationID).Ensures trace
      (startPreparing operationID intent operation) fun _ _ => True := by
  unfold startPreparing
  split
  · refine (Calm.conducted .now).bind fun _ _ _ => ensures_lift_bind fun _ _ => ?_
    exact transition_conducted (Or.inl rfl)
  · exact ensures_pure.mpr trivial

/-- Every call of `Run` conducts itself well, whatever the world answers, and one that returns
without an error has reread the archive. -/
theorem run_conducted (codec : Codec) (foundation : Foundation) (operationID : String) :
    (conduct codec foundation operationID).Ensures [] (foundation.run codec operationID)
      fun later _ => ∃ backupID backup, Inspected operationID later backupID backup := by
  refine ensures_lift_bind fun _ _ => ?_
  refine (ensures_store ⟨trivial, fun _ => trivial⟩).bind fun loaded operation recorded => ?_
  refine (ensures_store ⟨trivial, fun _ => trivial⟩).bind fun opened record intentRecorded => ?_
  have read : Answered opened (.getOperation operationID) operation := by
    refine ⟨.bounded, ?_⟩
    rw [intentRecorded, recorded]
    exact List.mem_cons_of_mem _ List.mem_cons_self
  have intentRead : Answered opened (.getIntent operation.intentID) record := by
    refine ⟨.bounded, ?_⟩
    rw [intentRecorded]
    exact List.mem_cons_self
  refine ensures_lift_bind fun _ accepted => ?_
  obtain ⟨isSealed, steps⟩ := checkEntry_eq_ok accepted
  have entered : Entered codec operationID opened record.intent :=
    ⟨operation, record, read, intentRead, rfl, isSealed, steps⟩
  refine (Calm.conducted (checkClock_calm operation)).bind fun clocked _ clock => ?_
  refine (Calm.conducted (checkStart_calm operation)).bind fun checked _ check => ?_
  refine (Ensures.grows startPreparing_conducted).bind fun started _ starting => ?_
  have grown := (clock.trans check).suffix.trans starting.1
  refine (Ensures.grows (loop_conducted (List.range 6) (fun _ => List.mem_range.mp)
    (entered.mono grown))).bind fun looped _ looping => ?_
  refine (Ensures.conducted inspect_rereads).weaken fun later _ reached => ?_
  obtain ⟨still, backup, name, rereading⟩ := reached
  have suffix := (grown.trans looping.1).trans still.suffix
  exact ⟨_, backup, operation, record, name, read.mono suffix, intentRead.mono suffix, rfl,
    rereading⟩

theorem run_disciplined (codec : Codec) (foundation : Foundation) (operationID : String) :
    (discipline codec foundation operationID).Safe [] (foundation.run codec operationID).run
      fun _ _ => True :=
  Safe.relax (Safe.weaken (run_conducted codec foundation operationID) fun _ _ _ => trivial)
    (fun _ _ => And.left) fun _ _ _ _ _ => id

end GuardedAgentRunner
