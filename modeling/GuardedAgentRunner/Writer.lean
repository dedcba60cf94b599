/-
This file proves who owns the writer of an enrollment. At most one operation of
an enrollment has not released it; an operation whose outcome is not known never
advances again; and an operation with an unknown outcome keeps the writer
exactly along the runs in which no operation is released after a possible
dispatch and no released operation receives a late uncertain observation.
-/

import GuardedAgentRunner.Refinement

namespace GuardedAgentRunner

open Store Ledger

variable {codec : Codec} {before after : Ledger} {call : StoreCall} {operation next : Operation}
  {database : Database} {id : String} {now : Time}

/-! ### One writer for each enrollment -/

/-- The statuses an operation that released the writer can have. The table has no way out of
any of them. -/
def OperationStatus.Settled (status : OperationStatus) : Prop :=
  status ∈ releasingStatuses ∨ status.Unresolved

theorem canTransitionOperation_of_settled {status : OperationStatus} (settled : status.Settled)
    (successor : OperationStatus) : canTransitionOperation status successor = false := by
  rcases settled with released | unresolved
  · simp only [releasingStatuses, List.mem_cons, List.not_mem_nil, or_false] at released
    rcases released with rfl | rfl | rfl | rfl <;> rfl
  · exact canTransitionOperation_of_unresolved unresolved successor

/-- A move never takes the writer back, and releases it only in a settled status. -/
theorem Ledger.OperationMove.settles (move : OperationMove codec before call operation next)
    (settled : operation.ownershipReleased = true → operation.status.Settled) :
    (operation.ownershipReleased = true → next.ownershipReleased = true) ∧
      (next.ownershipReleased = true → next.status.Settled) := by
  cases move with
  | aborted => exact ⟨fun _ => rfl, fun _ => Or.inl (by simp [abort, releasingStatuses])⟩
  | prepared _ preparable =>
    have owned := preparable.owned
    exact ⟨id, fun released => absurd (owned.symm.trans released) Bool.false_ne_true⟩
  | dispatched _ dispatchable =>
    have owned := dispatchable.owned
    exact ⟨id, fun released => absurd (owned.symm.trans released) Bool.false_ne_true⟩
  | observed located =>
    rw [settleStatus_ownershipReleased]
    refine ⟨id, fun released => ?_⟩
    rcases settleStatus_status with same | unresolved
    · rw [same]
      exact settled released
    · exact Or.inr unresolved
  | gaveUp allowed =>
    refine ⟨fun released => ?_, nofun⟩
    rw [canTransitionOperation_of_settled (settled released)] at allowed
    cases allowed
  | @transitioned _ status _ _ _ allowed =>
    have unsettled : operation.ownershipReleased ≠ true := by
      intro released
      rw [canTransitionOperation_of_settled (settled released)] at allowed
      cases allowed
    refine ⟨fun released => absurd released unsettled, fun released => ?_⟩
    simp only [moveTo] at released ⊢
    split at released
    · rename_i releasing
      exact Or.inl releasing
    · exact absurd released unsettled
  | completed _ _ _ completable =>
    have owned := completable.writer.owned
    exact ⟨id, fun released => absurd (owned.symm.trans released) Bool.false_ne_true⟩

/-- Released operations are settled, and no two operations of one enrollment are unreleased. -/
structure SingleWriter (ledger : Ledger) : Prop where
  settled : ∀ id operation, ledger.operations id = some operation →
    operation.ownershipReleased = true → operation.status.Settled
  unique : ∀ firstID first secondID second, ledger.operations firstID = some first →
    ledger.operations secondID = some second → first.enrollmentID = second.enrollmentID →
    first.ownershipReleased = false → second.ownershipReleased = false → firstID = secondID

/-- An unreleased operation after a step was unreleased before it, or was opened by an approval
that found every operation of the enrollment released. -/
theorem Ledger.Step.unreleased_cases (step : Step codec before call after)
    (single : SingleWriter before) (found : after.operations id = some next)
    (unreleased : next.ownershipReleased = false) :
    (∃ operation, before.operations id = some operation ∧
        operation.enrollmentID = next.enrollmentID ∧ operation.ownershipReleased = false) ∨
      before.operations id = none ∧ ∀ otherID other, before.operations otherID = some other →
        other.enrollmentID = next.enrollmentID → other.ownershipReleased = true := by
  rcases step.operation_cases id with same | ⟨operation, moved, present, -, now, move⟩ |
    ⟨ids, intentID, digest, approver, osUID, now, record, -, rfl, approves, opened⟩
  · rw [same] at found
    exact Or.inl ⟨next, found, rfl, unreleased⟩
  · rw [found] at now
    cases now
    refine Or.inl ⟨operation, present, move.sameIdentity.enrollmentID.symm, ?_⟩
    by_contra released
    have stays := (move.settles (single.settled id operation present)).1
      (Bool.not_eq_false _ ▸ released)
    rw [unreleased] at stays
    cases stays
  · rw [found] at opened
    cases opened
    exact Or.inr ⟨approves.fresh, approves.free⟩

theorem SingleWriter.step (single : SingleWriter before) (step : Step codec before call after) :
    SingleWriter after := by
  constructor
  · intro id later found released
    rcases step.operation_cases id with same | ⟨operation, moved, present, -, now, move⟩ |
      ⟨_, _, _, _, _, _, _, -, -, -, opened⟩
    · rw [same] at found
      exact single.settled id later found released
    · rw [found] at now
      cases now
      exact (move.settles (single.settled id operation present)).2 released
    · rw [found] at opened
      cases opened
      cases released
  · intro firstID first secondID second firstFound secondFound sameEnrollment firstOpen secondOpen
    rcases step.unreleased_cases single firstFound firstOpen with
      ⟨firstOld, firstPresent, firstEnrolled, firstOwned⟩ | ⟨firstNew, firstAlone⟩ <;>
    rcases step.unreleased_cases single secondFound secondOpen with
      ⟨secondOld, secondPresent, secondEnrolled, secondOwned⟩ | ⟨secondNew, secondAlone⟩
    · exact single.unique firstID firstOld secondID secondOld firstPresent secondPresent
        (by rw [firstEnrolled, secondEnrolled, sameEnrollment]) firstOwned secondOwned
    · have released := secondAlone firstID firstOld firstPresent
        (by rw [firstEnrolled, sameEnrollment])
      rw [firstOwned] at released
      cases released
    · have released := firstAlone secondID secondOld secondPresent
        (by rw [secondEnrolled, sameEnrollment])
      rw [secondOwned] at released
      cases released
    · exact step.opened_unique firstNew secondNew (by rw [firstFound]; exact Option.some_ne_none _)
        (by rw [secondFound]; exact Option.some_ne_none _)

theorem empty_singleWriter : SingleWriter Database.empty.ledger := by
  have absent : ∀ id, Database.empty.ledger.operations id = none := fun _ => rfl
  constructor
  · intro id operation found
    rw [absent] at found
    cases found
  · intro firstID first secondID second found
    rw [absent] at found
    cases found

theorem replay_singleWriter (log : List Transaction) :
    SingleWriter (replay codec log).ledger :=
  replay_ledger empty_singleWriter (fun _ single step => single.step step) log

/-- In every database that is reached, at most one operation of an enrollment has not released
the writer. -/
theorem replay_single_writer (log : List Transaction) (enrollmentID : String) :
    ((replay codec log).operations.rows.filter fun row =>
      row.enrollmentID = enrollmentID ∧ row.ownershipReleased = false).length ≤ 1 := by
  have coherent : (replay codec log).Coherent := replay_coherent log
  have single : SingleWriter (replay codec log).ledger := replay_singleWriter log
  refine (replay codec log).operations.length_filter_le_one _ ?_
  intro first firstIn second secondIn firstPasses secondPasses
  simp only [decide_eq_true_eq] at firstPasses secondPasses
  obtain ⟨firstEnrolled, firstOpen⟩ := firstPasses
  obtain ⟨secondEnrolled, secondOpen⟩ := secondPasses
  obtain ⟨firstOperation, rfl, firstFound⟩ := coherent.operation_row firstIn
  obtain ⟨secondOperation, rfl, secondFound⟩ := coherent.operation_row secondIn
  refine OperationRow.exclusive_operationID _ _ ?_
  exact single.unique _ firstOperation _ secondOperation firstFound secondFound
    (firstEnrolled.trans secondEnrolled.symm) firstOpen secondOpen

/-! ### Unresolved operations -/

/-- What an unresolved operation allows of its later versions. -/
structure StaysUnresolved (operation later : Operation) : Prop where
  unresolved : later.status.Unresolved
  attempts : later.attempts.length = operation.attempts.length
  undispatched : ∀ (position : Nat) (attempt laterAttempt : StepAttempt),
    operation.attempts[position]? = some attempt → later.attempts[position]? = some laterAttempt →
    attempt.dispatchState = .notDispatched → laterAttempt.dispatchState = .notDispatched
  ownership : later.ownershipReleased = operation.ownershipReleased

theorem StaysUnresolved.refl (unresolved : operation.status.Unresolved) :
    StaysUnresolved operation operation where
  unresolved := unresolved
  attempts := rfl
  undispatched position attempt laterAttempt present laterPresent same := by
    rw [present] at laterPresent
    cases laterPresent
    exact same
  ownership := rfl

theorem StaysUnresolved.trans {middle later : Operation} (first : StaysUnresolved operation middle)
    (second : StaysUnresolved middle later) : StaysUnresolved operation later where
  unresolved := second.unresolved
  attempts := second.attempts.trans first.attempts
  undispatched position attempt laterAttempt present laterPresent same := by
    have inside : position < middle.attempts.length := by
      rw [first.attempts]
      exact (List.getElem?_eq_some_iff.mp present).1
    have middlePresent := List.getElem?_eq_getElem inside
    exact second.undispatched position _ laterAttempt middlePresent laterPresent
      (first.undispatched position attempt _ present middlePresent same)
  ownership := second.ownership.trans first.ownership

/-- The only move of an unresolved operation is another observation of a dispatched attempt. -/
theorem Ledger.OperationMove.staysUnresolved
    (move : OperationMove codec before call operation next)
    (unresolved : operation.status.Unresolved) : StaysUnresolved operation next := by
  cases move with
  | aborted unstarted =>
    rw [unstarted.1] at unresolved
    exact absurd unresolved (by decide)
  | prepared _ preparable => exact absurd unresolved preparable.resolved
  | dispatched _ dispatchable =>
    rcases unresolved with unknown | intervention
    · exact absurd unknown dispatchable.resolved
    · have live := dispatchable.live
      rw [intervention] at live
      cases live
  | @observed _ _ index current effect attribution evidence now located dispatched =>
    refine ⟨?_, ?_, ?_, settleStatus_ownershipReleased⟩
    · rcases settleStatus_status with same | settled
      · rw [same]
        exact unresolved
      · exact settled
    · rw [settleStatus_attempts]
      exact List.length_set
    · rw [settleStatus_attempts]
      intro position attempt laterAttempt present laterPresent same
      by_cases here : index = position
      · subst here
        rw [located.2] at present
        cases present
        rcases dispatched with possible | acknowledged
        · rw [same] at possible
          cases possible
        · rw [same] at acknowledged
          cases acknowledged
      · have unchanged := (List.getElem?_set_ne here).symm.trans laterPresent
        rw [present] at unchanged
        cases unchanged
        exact same
  | gaveUp allowed =>
    rw [canTransitionOperation_of_unresolved unresolved] at allowed
    cases allowed
  | transitioned allowed =>
    rw [canTransitionOperation_of_unresolved unresolved] at allowed
    cases allowed
  | completed _ _ _ completable =>
    rw [completable.writer.executing] at unresolved
    exact absurd unresolved (by decide)

/-- No backup of the operation was reserved or completed in between. -/
def NoBackupProgress (operationID : String) (before after : Ledger) : Prop :=
  ∀ backupID later, after.backups backupID = some later → later.operationID = operationID →
    ∃ earlier, before.backups backupID = some earlier ∧ earlier.operationID = operationID ∧
      (later.status = .valid → earlier.status = .valid)

/-- The operation, once unresolved, does not advance. -/
def NeverAdvances (operationID : String) (before after : Ledger) : Prop :=
  ∀ operation, before.operations operationID = some operation → operation.status.Unresolved →
    NoBackupProgress operationID before after ∧
      ∃ later, after.operations operationID = some later ∧ StaysUnresolved operation later

theorem NeverAdvances.refl (operationID : String) (ledger : Ledger) :
    NeverAdvances operationID ledger ledger :=
  fun operation found unresolved =>
    ⟨fun _ later present owner => ⟨later, present, owner, id⟩, operation, found, .refl unresolved⟩

theorem NeverAdvances.trans {operationID : String} {first second third : Ledger}
    (early : NeverAdvances operationID first second)
    (late : NeverAdvances operationID second third) : NeverAdvances operationID first third := by
  intro operation found unresolved
  obtain ⟨earlyBackups, middle, middleFound, earlyStays⟩ := early operation found unresolved
  obtain ⟨lateBackups, later, laterFound, lateStays⟩ :=
    late middle middleFound earlyStays.unresolved
  refine ⟨fun backupID record present owner => ?_, later, laterFound, earlyStays.trans lateStays⟩
  obtain ⟨between, betweenPresent, betweenOwner, lateValid⟩ :=
    lateBackups backupID record present owner
  obtain ⟨earlier, earlierPresent, earlierOwner, earlyValid⟩ :=
    earlyBackups backupID between betweenPresent betweenOwner
  exact ⟨earlier, earlierPresent, earlierOwner, fun valid => earlyValid (lateValid valid)⟩

theorem Ledger.Step.neverAdvances (step : Step codec before call after) (operationID : String) :
    NeverAdvances operationID before after := by
  intro operation found unresolved
  have idle : operation.status ≠ .executing := by
    intro executing
    rw [executing] at unresolved
    exact absurd unresolved (by decide)
  constructor
  · intro backupID later present owner
    rcases step.backup_cases backupID with same | ⟨record, moved, earlier, now, move⟩ |
      ⟨record, writer, _, _, -, rfl, now, reserves⟩
    · rw [same] at present
      exact ⟨later, present, owner, id⟩
    · rw [present] at now
      cases now
      cases move with
      | advanced allowed =>
        exact ⟨record, earlier, owner,
          fun valid => absurd valid (allowedTransition_ne_valid allowed)⟩
      | @completed _ writer _ _ _ _ _ _ _ opened isOwner _ completable =>
        have sameOperation : operation = writer := by
          have owned : record.operationID = operationID := owner
          rw [← isOwner, owned, found] at opened
          exact Option.some.inj opened
        exact absurd (sameOperation ▸ completable.writer.executing) idle
    · rw [present] at now
      cases now
      have sameOperation : operation = writer := by
        have opened := reserves.opened
        rw [owner, found] at opened
        exact Option.some.inj opened
      obtain ⟨_, writes, -⟩ := reserves.reservable.writer
      exact absurd (sameOperation ▸ writes.executing) idle
  · rcases step.operation_cases operationID with same | ⟨stored, moved, present, -, now, move⟩ |
      ⟨_, _, _, _, _, _, _, -, rfl, approves, -⟩
    · exact ⟨operation, same.trans found, .refl unresolved⟩
    · rw [found] at present
      cases present
      exact ⟨moved, now, move.staysUnresolved unresolved⟩
    · have fresh := approves.fresh
      rw [found] at fresh
      cases fresh

/-- From every database that is reached, an operation in an unresolved status stays in one
through every continuation: no attempt is added, none goes from undispatched to possibly
dispatched, no backup is reserved or completed for it, and its ownership never changes. -/
theorem unresolved_never_advances (log continuation : List Transaction) (row : OperationRow)
    (member : row ∈ (replay codec log).operations.rows) (unresolved : row.status.Unresolved) :
    (∃ later ∈ (replay codec (log ++ continuation)).operations.rows,
      later.operationID = row.operationID ∧ later.status.Unresolved ∧
      later.payload.attempts.length = row.payload.attempts.length ∧
      (∀ (position : Nat) (attempt laterAttempt : StepAttempt),
        row.payload.attempts[position]? = some attempt →
        later.payload.attempts[position]? = some laterAttempt →
        attempt.dispatchState = .notDispatched →
          laterAttempt.dispatchState ≠ .dispatchPossible) ∧
      later.ownershipReleased = row.ownershipReleased) ∧
    ∀ backup ∈ (replay codec (log ++ continuation)).backups.rows,
      backup.operationID = row.operationID →
        ∃ earlier ∈ (replay codec log).backups.rows, earlier.backupID = backup.backupID ∧
          earlier.operationID = row.operationID ∧
          (backup.status = .valid → earlier.status = .valid) := by
  have coherent : (replay codec log).Coherent := replay_coherent log
  have laterCoherent : (replay codec (log ++ continuation)).Coherent := replay_coherent _
  obtain ⟨operation, rfl, found⟩ := coherent.operation_row member
  have never : NeverAdvances operation.operationID (replay codec log).ledger
      (replay codec (log ++ continuation)).ledger := by
    rw [replay_append]
    exact replay_relation (NeverAdvances operation.operationID)
      (NeverAdvances.refl operation.operationID) NeverAdvances.trans
      (fun _ step => step.neverAdvances operation.operationID) coherent continuation
  obtain ⟨backups, later, laterFound, stays⟩ := never operation found unresolved
  constructor
  · obtain ⟨laterIn, sameID⟩ := laterCoherent.operation_eq_some.mp laterFound
    refine ⟨OperationRow.of later, laterIn, sameID, stays.unresolved, stays.attempts, ?_,
      stays.ownership⟩
    intro position attempt laterAttempt present laterPresent undispatched possible
    have still := stays.undispatched position attempt laterAttempt present laterPresent undispatched
    rw [possible] at still
    cases still
  · intro backup backupIn owner
    obtain ⟨record, rfl, recordFound⟩ := laterCoherent.backup_row backupIn
    obtain ⟨earlier, earlierFound, earlierOwner, valid⟩ := backups _ record recordFound owner
    obtain ⟨earlierIn, sameID⟩ := coherent.backup_eq_some.mp earlierFound
    exact ⟨BackupRow.of earlier, earlierIn, sameID, earlierOwner, valid⟩

/-- The first step of an operation is dispatched and its outcome recorded as unknown. -/
def unknownDispatch : List Transaction :=
  openFirst ++
    [⟨fixtureIDs "0", .prepareStep "operation_a" .claimOperation fixtureNow⟩,
      ⟨fixtureIDs "0", .markDispatchPossible "operation_a" "step_0" fixtureNow⟩,
      ⟨fixtureIDs "0", .recordStepObservation "operation_a" "step_0" .unknown .unattributed
        ["interrupted dispatch cannot be repeated"] fixtureNow⟩]

/-- A later attempt to abort the operation leaves it unresolved. -/
theorem unknownDispatch_never_advances :
    ∃ later ∈ (replay fixtureCodec (unknownDispatch ++ [⟨fixtureIDs "1",
        .transitionOperation "operation_a" .aborted .notStarted false
          fixtureNow⟩])).operations.rows,
      later.operationID = "operation_a" ∧ later.status.Unresolved ∧
        later.ownershipReleased = false := by
  have present : ∃ row ∈ (replay fixtureCodec unknownDispatch).operations.rows,
      row.operationID = "operation_a" ∧ row.status.Unresolved ∧ row.ownershipReleased = false := by
    decide
  obtain ⟨row, member, named, unresolved, owned⟩ := present
  obtain ⟨⟨later, laterIn, sameID, still, -, -, ownership⟩, -⟩ :=
    unresolved_never_advances unknownDispatch [⟨fixtureIDs "1",
      .transitionOperation "operation_a" .aborted .notStarted false fixtureNow⟩] row member
      unresolved
  exact ⟨later, laterIn, sameID.trans named, still, ownership.trans owned⟩

/-! ### Unknown outcomes and the writer -/

/-- The operation may have had an effect that nobody knows. -/
def Operation.Uncertain (operation : Operation) : Prop :=
  (∃ attempt ∈ operation.attempts, attempt.effectState = .unknown) ∨ operation.status.Unresolved

/-- Every uncertain operation holds the writer of its enrollment. -/
def KeepsWriter (ledger : Ledger) : Prop :=
  ∀ id operation, ledger.operations id = some operation → operation.Uncertain →
    operation.ownershipReleased = false

/-- The calls that separate an uncertain operation from the writer: a releasing transition of an
operation that has an attempt with an unknown effect, and an uncertain observation of an
operation that was released before. -/
def Separates (ledger : Ledger) : StoreCall → Prop
  | .transitionOperation operationID status _ _ _ =>
    status ∈ releasingStatuses ∧ ∃ operation, ledger.operations operationID = some operation ∧
      ∃ attempt ∈ operation.attempts, attempt.effectState = .unknown
  | .recordStepObservation operationID _ effect _ _ _ =>
    (effect = .unknown ∨ effect = .otherObserved) ∧
      ∃ operation, ledger.operations operationID = some operation ∧
        operation.ownershipReleased = true
  | _ => False

theorem uncertain_of_settleStatus {event : AttemptEvent} {attempt : StepAttempt}
    (unresolved : (settleStatus event attempt operation).status.Unresolved)
    (resolved : ¬ operation.status.Unresolved) :
    attempt.effectState = .unknown ∨ attempt.effectState = .otherObserved := by
  unfold settleStatus at unresolved
  split at unresolved
  · rename_i unknown
    exact Or.inl unknown.1
  · split at unresolved
    · rename_i other
      exact Or.inr other
    · exact absurd unresolved resolved

theorem uncertain_of_observed {index : Nat} {observed : StepAttempt}
    (certain : ¬ operation.Uncertain) (uncertain : (settleStatus .observed observed
      (replaceAttempt operation index observed now)).Uncertain) :
    observed.effectState = .unknown ∨ observed.effectState = .otherObserved := by
  rcases uncertain with ⟨attempt, member, unknown⟩ | unresolved
  · rw [settleStatus_attempts] at member
    rcases List.mem_or_eq_of_mem_set member with old | rfl
    · exact absurd (Or.inl ⟨attempt, old, unknown⟩) certain
    · exact Or.inl unknown
  · exact uncertain_of_settleStatus unresolved fun held => certain (Or.inr held)

/-- A move that does not separate keeps an uncertain operation unreleased. -/
theorem Ledger.OperationMove.keepsWriter (move : OperationMove codec before call operation next)
    (found : before.operations operation.operationID = some operation)
    (settled : operation.ownershipReleased = true → operation.status.Settled)
    (kept : operation.Uncertain → operation.ownershipReleased = false)
    (careful : ¬ Separates before call) (uncertain : next.Uncertain) :
    next.ownershipReleased = false := by
  cases move with
  | aborted unstarted =>
    rcases uncertain with ⟨attempt, member, -⟩ | unresolved
    · have none : attempt ∈ operation.attempts := member
      rw [unstarted.2] at none
      cases none
    · exact absurd unresolved (by simp [abort, OperationStatus.Unresolved])
  | prepared _ preparable => exact preparable.owned
  | dispatched _ dispatchable => exact dispatchable.owned
  | @observed _ _ _ _ effect =>
    rw [settleStatus_ownershipReleased]
    by_contra released
    have wasReleased : operation.ownershipReleased = true := Bool.not_eq_false _ ▸ released
    have certain : ¬ operation.Uncertain := fun held => released (kept held)
    exact careful ⟨uncertain_of_observed certain uncertain, operation, found, wasReleased⟩
  | gaveUp => rfl
  | @transitioned _ status _ _ _ allowed =>
    have owned : operation.ownershipReleased = false := by
      by_contra released
      rw [canTransitionOperation_of_settled (settled (Bool.not_eq_false _ ▸ released))] at allowed
      cases allowed
    by_cases releasing : status ∈ releasingStatuses
    · rcases uncertain with ⟨attempt, member, unknown⟩ | unresolved
      · exact absurd ⟨releasing, operation, found, attempt, member, unknown⟩ careful
      · simp only [releasingStatuses, List.mem_cons, List.not_mem_nil, or_false] at releasing
        rcases releasing with rfl | rfl | rfl | rfl <;> exact absurd unresolved (by
          simp [moveTo, OperationStatus.Unresolved])
    · simp only [moveTo, if_neg releasing]
      exact owned
  | completed _ _ _ completable => exact completable.writer.owned

theorem KeepsWriter.step (kept : KeepsWriter before) (single : SingleWriter before)
    (step : Step codec before call after) (careful : ¬ Separates before call) :
    KeepsWriter after := by
  intro id later found uncertain
  rcases step.operation_cases id with same | ⟨operation, moved, present, rfl, now, move⟩ |
    ⟨_, _, _, _, _, _, _, -, -, -, opened⟩
  · rw [same] at found
    exact kept id later found uncertain
  · rw [found] at now
    cases now
    exact move.keepsWriter present (single.settled _ operation present)
      (kept _ operation present) careful uncertain
  · rw [found] at opened
    cases opened
    rfl

theorem Separates.breaks (separates : Separates before call)
    (step : Step codec before call after) : ¬ KeepsWriter after := by
  intro kept
  cases call with
  | transitionOperation operationID status verification released now =>
    obtain ⟨releasing, operation, found, attempt, member, unknown⟩ := separates
    cases step with
    | answered answers => cases answers
    | @moved _ stored successor _ opened move =>
      cases move with
      | transitioned =>
        rw [opened] at found
        cases found
        have held := kept _ _ (Function.update_self ..) (Or.inl ⟨attempt, member, unknown⟩)
        simp only [moveTo, if_pos releasing] at held
        cases held
  | recordStepObservation operationID stepID effect attribution evidence now =>
    obtain ⟨uncertain, operation, found, released⟩ := separates
    cases step with
    | answered answers => cases answers
    | @moved _ stored successor _ opened move =>
      cases move with
      | @observed _ _ index current =>
        rw [opened] at found
        cases found
        have unresolved : (settleStatus .observed
            (touchAttempt (observedAttempt effect attribution evidence current) now)
            (replaceAttempt operation index
              (touchAttempt (observedAttempt effect attribution evidence current) now)
              now)).status.Unresolved := by
          rcases uncertain with rfl | rfl <;>
            simp [settleStatus, touchAttempt, observedAttempt, OperationStatus.Unresolved]
        have held := kept _ _ (Function.update_self ..) (Or.inr unresolved)
        rw [settleStatus_ownershipReleased] at held
        exact absurd (released.symm.trans held) (by simp)
  | _ => exact separates

/-- The stored operation may have had an effect that nobody knows. -/
def OperationRow.Uncertain (row : OperationRow) : Prop :=
  (∃ attempt ∈ row.payload.attempts, attempt.effectState = .unknown) ∨ row.status.Unresolved

/-- An uncertain operation has not released the writer, so that an intent of its enrollment that
is not decided yet cannot be approved, and approving one that is decided changes nothing. -/
def UnknownKeepsWriter (codec : Codec) (database : Database) : Prop :=
  ∀ row ∈ database.operations.rows, row.Uncertain → row.ownershipReleased = false ∧
    ∀ intent ∈ database.intents.rows, intent.enrollmentID = row.enrollmentID →
      ∀ ids expectedDigest approver osUID now,
        (database.approval intent.intentID = none → ∃ failure, exec codec ids database
          (.approveIntent intent.intentID expectedDigest approver osUID now) = .error failure) ∧
        ∀ next, Commits codec database
          ⟨ids, .approveIntent intent.intentID expectedDigest approver osUID now⟩ next →
            next = database

theorem approveIntent_of_unreleased {next : Database} (coherent : database.Coherent)
    (found : database.operation id = some operation)
    (unreleased : operation.ownershipReleased = false) {record : IntentRecord} {intentID : String}
    (intentFound : database.intent intentID = some record)
    (enrolled : record.intent.enrollmentID = operation.enrollmentID) {ids : NewIDs}
    {expectedDigest approver : String} {osUID : Int} {result : Approval × Operation}
    (run : approveIntent codec ids intentID expectedDigest approver osUID now database =
      .ok (result, next)) : database.approval intentID = some result.1 ∧ next = database := by
  rcases approveIntent_eq_ok run with ⟨decided, -, -, same⟩ |
    ⟨other, _, _, -, otherFound, -, free, -⟩
  · exact ⟨decided, same⟩
  · rw [intentFound] at otherFound
    cases otherFound
    have released := (activeOwner_eq_none coherent).mp free id operation found enrolled.symm
    rw [unreleased] at released
    cases released

theorem unknownKeepsWriter_iff (coherent : database.Coherent) :
    UnknownKeepsWriter codec database ↔ KeepsWriter database.ledger := by
  constructor
  · intro kept id operation found uncertain
    exact (kept (OperationRow.of operation) (coherent.operation_eq_some.mp found).1 uncertain).1
  · intro kept row member uncertain
    obtain ⟨operation, rfl, found⟩ := coherent.operation_row member
    have unreleased := kept _ operation found uncertain
    refine ⟨unreleased, fun intent intentIn enrolled ids digest approver osUID now => ?_⟩
    obtain ⟨record, rfl, intentFound⟩ := coherent.intent_row intentIn
    have refused := fun (result : Approval × Operation) (next : Database)
        (run : exec codec ids database (.approveIntent record.intent.intentID digest approver
          osUID now) = .ok (result, next)) =>
      approveIntent_of_unreleased coherent found unreleased intentFound enrolled run
    constructor
    · intro undecided
      cases run : exec codec ids database
          (.approveIntent record.intent.intentID digest approver osUID now) with
      | error failure => exact ⟨failure, run⟩
      | ok outcome =>
        have decided := (refused outcome.1 outcome.2 run).1
        have absent : database.approval record.intent.intentID = none := undecided
        rw [absent] at decided
        cases decided
    · rintro next ⟨result, run⟩
      exact (refused result next run).2

/-- The transaction does not commit a call that separates an uncertain operation from the
writer. -/
def Careful (codec : Codec) (database : Database) (transaction : Transaction) : Prop :=
  ∀ next, Commits codec database transaction next → ¬ Separates database.ledger transaction.call

/-- In a coherent database with single writers, a transaction keeps every uncertain operation
with the writer exactly when it is careful. -/
theorem careful_iff (coherent : database.Coherent) (single : SingleWriter database.ledger)
    (kept : KeepsWriter database.ledger) (transaction : Transaction) :
    Careful codec database transaction ↔
      KeepsWriter (perform codec database transaction).ledger := by
  rcases perform_cases database transaction with commits | same
  · have step := (commits_refines coherent commits).2
    constructor
    · intro careful
      exact kept.step single step (careful _ commits)
    · intro after next _ separates
      exact separates.breaks step after
  · rw [same]
    refine ⟨fun _ => kept, fun _ next commits separates => ?_⟩
    have step := (commits_refines coherent commits).2
    rw [← perform_of_commits commits, same] at step
    exact separates.breaks step kept

/-- Along a run, every uncertain operation holds the writer in every database that is passed
exactly when every transaction of the run is careful. -/
theorem unknown_keeps_writer_iff_careful (log : List Transaction) :
    (∀ earlier, earlier <+: log → UnknownKeepsWriter codec (replay codec earlier)) ↔
      Runs.Along (perform codec) (Careful codec) .empty log := by
  have view : ∀ earlier, UnknownKeepsWriter codec (replay codec earlier) ↔
      KeepsWriter (replay codec earlier).ledger :=
    fun earlier => unknownKeepsWriter_iff (replay_coherent earlier)
  have preserved : ∀ database transaction,
      (Database.Coherent database ∧ SingleWriter database.ledger) →
      (perform codec database transaction).Coherent ∧
        SingleWriter (perform codec database transaction).ledger := by
    rintro database transaction ⟨coherent, single⟩
    rcases perform_cases database transaction with commits | same
    · obtain ⟨nextCoherent, step⟩ := commits_refines coherent commits
      exact ⟨nextCoherent, single.step step⟩
    · rw [same]
      exact ⟨coherent, single⟩
  have initially : KeepsWriter Database.empty.ledger := by
    intro id operation found
    cases found
  simp only [view]
  exact (Runs.along_iff preserved
    (fun database transaction holds kept => careful_iff holds.1 holds.2 kept transaction)
    ⟨empty_coherent, empty_singleWriter⟩ initially log).symm

/-- A claimed operation prepares its first step, may have dispatched it, and is then aborted;
another intent of the enrollment is waiting. -/
def abortedDispatch : List Transaction :=
  openFirst ++
    [⟨fixtureIDs "b", .putIntent secondProposal⟩,
      ⟨fixtureIDs "0", .prepareStep "operation_a" .claimOperation fixtureNow⟩,
      ⟨fixtureIDs "0", .markDispatchPossible "operation_a" "step_0" fixtureNow⟩,
      ⟨fixtureIDs "0", .transitionOperation "operation_a" .aborted .notStarted false fixtureNow⟩]

/-- The aborted operation has an attempt with an unknown effect and no longer holds the writer,
and the waiting intent takes it. -/
theorem abortedDispatch_releases_writer :
    (∃ row ∈ (replay fixtureCodec abortedDispatch).operations.rows,
      row.operationID = "operation_a" ∧ row.status = .aborted ∧ row.ownershipReleased = true ∧
      ∃ attempt ∈ row.payload.attempts, attempt.dispatchState = .dispatchPossible ∧
        attempt.effectState = .unknown) ∧
    (perform fixtureCodec (replay fixtureCodec abortedDispatch)
      ⟨fixtureIDs "b", .approveIntent "intent_b" secondProposal.intent.intentDigest "owner" 1000
        fixtureNow⟩).operation "operation_b" ≠ none ∧
    ¬ UnknownKeepsWriter fixtureCodec (replay fixtureCodec abortedDispatch) := by
  have released : ∃ row ∈ (replay fixtureCodec abortedDispatch).operations.rows,
      row.operationID = "operation_a" ∧ row.status = .aborted ∧ row.ownershipReleased = true ∧
      ∃ attempt ∈ row.payload.attempts, attempt.dispatchState = .dispatchPossible ∧
        attempt.effectState = .unknown := by
    decide
  refine ⟨released, by decide, fun kept => ?_⟩
  obtain ⟨row, member, -, -, isReleased, attempt, attemptIn, -, unknown⟩ := released
  have unreleased := (kept row member (Or.inl ⟨attempt, attemptIn, unknown⟩)).1
  rw [isReleased] at unreleased
  cases unreleased

end GuardedAgentRunner
