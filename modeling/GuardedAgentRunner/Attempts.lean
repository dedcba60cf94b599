/-
This file proves the shape of the step journal. Every transaction that touches
an operation rewrites the list of its attempts; what one of them can do to the
attempt at a position is said once, as a move of the attempt. From the moves
follows what every attempt satisfies in every database that is reached, that
attempts keep their place and their names along every run, that a dispatch state
only moves forward, and that a step is marked at most once.
-/

import Mathlib.Logic.Relation
import GuardedAgentRunner.Dispatch

namespace GuardedAgentRunner

open Store Ledger

variable {codec : Codec} {before after : Ledger} {call : StoreCall}
  {operation next : Operation} {attempt later : StepAttempt} {record : IntentRecord}
  {stepKind : StepKind} {position : Nat}

/-! ### Moves of an attempt -/

/-- The moves of a dispatch state. -/
inductive DispatchState.Advances : DispatchState → DispatchState → Prop
  | possible : Advances .notDispatched .dispatchPossible
  | acknowledged : Advances .dispatchPossible .acknowledged

/-- What one call can do to an attempt. -/
inductive AttemptMove (attempt : StepAttempt) : StepAttempt → Prop
  | kept : AttemptMove attempt attempt
  | dispatched (now : Time) (undispatched : attempt.dispatchState = .notDispatched) :
      AttemptMove attempt (touchAttempt (dispatchedAttempt attempt) now)
  | observed (effect : EffectState) (attribution : Attribution) (evidence : List String)
      (now : Time)
      (dispatched : attempt.dispatchState = .dispatchPossible ∨
        attempt.dispatchState = .acknowledged) :
      AttemptMove attempt (touchAttempt (observedAttempt effect attribution evidence attempt) now)
  | completed (backupID digest : String) (now : Time)
      (dispatched : attempt.dispatchState = .dispatchPossible) :
      AttemptMove attempt (completedAttempt attempt backupID digest now)

theorem AttemptMove.dispatch (moved : AttemptMove attempt later) :
    later.dispatchState = attempt.dispatchState ∨
      attempt.dispatchState.Advances later.dispatchState := by
  cases moved with
  | kept => exact Or.inl rfl
  | dispatched now undispatched =>
    rw [undispatched]
    exact Or.inr .possible
  | observed effect attribution evidence now dispatched =>
    dsimp only [touchAttempt, observedAttempt]
    split
    · rcases dispatched with possible | acknowledged
      · rw [possible]
        exact Or.inr .acknowledged
      · exact Or.inl acknowledged.symm
    · exact Or.inl rfl
  | completed backupID digest now dispatched =>
    rw [dispatched]
    exact Or.inr .acknowledged

/-- The later version of an attempt is the same attempt, and its dispatch state only moved
forward. -/
structure AttemptProgress (attempt later : StepAttempt) : Prop where
  stepID : later.stepID = attempt.stepID
  stepKind : later.stepKind = attempt.stepKind
  attemptNo : later.attemptNo = attempt.attemptNo
  dispatch : Relation.ReflTransGen DispatchState.Advances attempt.dispatchState
    later.dispatchState

theorem AttemptProgress.refl (attempt : StepAttempt) : AttemptProgress attempt attempt :=
  ⟨rfl, rfl, rfl, .refl⟩

theorem AttemptProgress.trans {first second third : StepAttempt}
    (early : AttemptProgress first second)
    (late : AttemptProgress second third) : AttemptProgress first third :=
  ⟨late.stepID.trans early.stepID, late.stepKind.trans early.stepKind,
    late.attemptNo.trans early.attemptNo, early.dispatch.trans late.dispatch⟩

theorem AttemptMove.progress (moved : AttemptMove attempt later) :
    AttemptProgress attempt later := by
  have dispatch : Relation.ReflTransGen DispatchState.Advances attempt.dispatchState
      later.dispatchState := by
    rcases moved.dispatch with same | advances
    · rw [same]
    · exact .single advances
  cases moved with
  | kept | dispatched | observed | completed => exact ⟨rfl, rfl, rfl, dispatch⟩

theorem AttemptMove.undispatched (moved : AttemptMove attempt later)
    (undispatched : later.dispatchState = .notDispatched) : later = attempt := by
  cases moved with
  | kept => rfl
  | dispatched => exact nomatch undispatched
  | completed => exact nomatch undispatched
  | observed effect attribution evidence now dispatched =>
    dsimp only [touchAttempt, observedAttempt] at undispatched
    split at undispatched
    · exact nomatch undispatched
    · rw [undispatched] at dispatched
      rcases dispatched with possible | acknowledged
      · exact nomatch possible
      · exact nomatch acknowledged

/-! ### Turns of an operation -/

theorem turn_replace {index : Nat} {current replacement : StepAttempt} {now : Time}
    (found : operation.attempts[index]? = some current) (moved : AttemptMove current replacement)
    (present : operation.attempts[position]? = some attempt) :
    ∃ later, (replaceAttempt operation index replacement now).attempts[position]? = some later ∧
      AttemptMove attempt later := by
  by_cases here : index = position
  · subst here
    obtain rfl := Option.mem_unique found present
    exact ⟨replacement, Positions.set_of_present present, moved⟩
  · exact ⟨attempt, (List.getElem?_set_ne here).trans present, .kept⟩

theorem Ledger.OperationMove.attempt_moves (move : OperationMove codec before call operation next)
    (present : operation.attempts[position]? = some attempt) :
    ∃ later, next.attempts[position]? = some later ∧ AttemptMove attempt later := by
  cases move with
  | aborted | gaveUp | transitioned => exact ⟨attempt, present, .kept⟩
  | prepared => exact ⟨attempt, Positions.concat_of_present present, .kept⟩
  | dispatched _ _ located undispatched =>
    exact turn_replace located.2 (.dispatched _ undispatched) present
  | observed located dispatched =>
    rw [settleStatus_attempts]
    exact turn_replace located.2 (.observed _ _ _ _ dispatched) present
  | completed _ _ _ completable =>
    exact turn_replace completable.writer.sixth
      (.completed _ _ _ completable.writer.dispatched) present

/-- An attempt after a move is a move of the one before, or the one that was prepared. -/
theorem Ledger.OperationMove.attempt_cases
    (move : OperationMove codec before call operation next)
    (member : later ∈ next.attempts) :
    (∃ attempt ∈ operation.attempts, AttemptMove attempt later) ∨
      ∃ record stepKind stepID now, before.intents operation.intentID = some record ∧
        Preparable codec record operation stepKind ∧
        later = newAttempt stepID stepKind operation.attempts now := by
  obtain ⟨position, present⟩ := List.getElem?_of_mem member
  have turned : position < operation.attempts.length →
      ∃ attempt ∈ operation.attempts, AttemptMove attempt later := by
    intro inside
    have earlier := List.getElem?_eq_getElem inside
    obtain ⟨other, isOther, moved⟩ := move.attempt_moves earlier
    obtain rfl := Option.mem_unique isOther present
    exact ⟨_, List.getElem_mem inside, moved⟩
  rcases move.attempts_cases with length |
    ⟨record, stepKind, stepID, now, found, preparable, appended⟩
  · have inside := (List.getElem?_eq_some_iff.mp present).1
    rw [length] at inside
    exact Or.inl (turned inside)
  · rw [appended] at present
    rcases Positions.concat_eq_some.mp present with old | ⟨-, rfl⟩
    · exact Or.inl (turned (List.getElem?_eq_some_iff.mp old).1)
    · exact Or.inr ⟨record, stepKind, stepID, now, found, preparable, rfl⟩

/-! ### The shape of a journal -/

/-- The attempts of an operation have the shape of its intent. -/
structure Shaped (intent : ChangeIntent) (attempts : List StepAttempt) : Prop where
  kinds : attempts.map (·.stepKind) <+: intent.steps.items
  numbers : intent.steps.items.Nodup → ∀ attempt ∈ attempts, attempt.attemptNo = 1
  enabled : ∀ attempt ∈ attempts, attempt.stepKind ∉ disabledSteps
  undispatched : ∀ attempt ∈ attempts, attempt.dispatchState = .notDispatched →
    attempt.effectState = .provenNotApplied ∧ attempt.attribution = .unattributed

theorem nextAttemptNo_of_absent {attempts : List StepAttempt}
    (absent : ∀ attempt ∈ attempts, attempt.stepKind ≠ stepKind) :
    nextAttemptNo attempts stepKind = 1 := by
  unfold nextAttemptNo
  induction attempts with
  | nil => rfl
  | cons first rest hypothesis =>
    rw [List.foldl_cons, if_neg fun same => absent first List.mem_cons_self same.1]
    exact hypothesis fun attempt member => absent attempt (List.mem_cons_of_mem _ member)

theorem prefix_iff_positions {kinds steps : List StepKind} :
    kinds <+: steps ↔ ∀ (position : Nat) (kind : StepKind), kinds[position]? = some kind →
      steps[position]? = some kind := by
  rw [List.prefix_iff_getElem?]
  constructor
  · intro starts position kind present
    obtain ⟨inside, rfl⟩ := List.getElem?_eq_some_iff.mp present
    exact starts position inside
  · intro positions position inside
    exact positions position _ (List.getElem?_eq_getElem inside)

theorem next_kind_absent (shaped : Shaped record.intent operation.attempts)
    (preparable : Preparable codec record operation stepKind)
    (distinct : record.intent.steps.items.Nodup) :
    ∀ attempt ∈ operation.attempts, attempt.stepKind ≠ stepKind := by
  intro attempt member same
  obtain ⟨position, present⟩ := List.getElem?_of_mem member
  have inside := (List.getElem?_eq_some_iff.mp present).1
  have kind : (operation.attempts.map (·.stepKind))[position]? = some stepKind := by
    rw [List.getElem?_map, present, ← same]
    rfl
  have listed := prefix_iff_positions.mp shaped.kinds _ _ kind
  have bound := (List.getElem?_eq_some_iff.mp listed).1
  exact absurd ((List.getElem?_inj bound distinct).mp (listed.trans preparable.nextStep.symm))
    (ne_of_lt inside)

theorem Shaped.move (shaped : Shaped record.intent operation.attempts)
    (move : OperationMove codec before call operation next)
    (found : before.intents operation.intentID = some record) :
    Shaped record.intent next.attempts := by
  have stored : ∀ {other : IntentRecord}, before.intents operation.intentID = some other →
      other = record := fun isOther => Option.mem_unique isOther found
  constructor
  · refine prefix_iff_positions.mpr fun position kind present => ?_
    obtain ⟨attempt, isAttempt, rfl⟩ :=
      Option.map_eq_some_iff.mp (List.getElem?_map.symm.trans present)
    refine move.followsIntent found (fun place earlier isEarlier => ?_) isAttempt
    refine prefix_iff_positions.mp shaped.kinds _ _ ?_
    rw [List.getElem?_map, isEarlier]
    rfl
  · intro distinct attempt member
    rcases move.attempt_cases member with ⟨earlier, isEarlier, moved⟩ |
      ⟨other, stepKind, stepID, now, isOther, preparable, rfl⟩
    · exact moved.progress.attemptNo.trans (shaped.numbers distinct earlier isEarlier)
    · obtain rfl := stored isOther
      exact nextAttemptNo_of_absent (next_kind_absent shaped preparable distinct)
  · intro attempt member
    rcases move.attempt_cases member with ⟨earlier, isEarlier, moved⟩ |
      ⟨other, stepKind, stepID, now, isOther, preparable, rfl⟩
    · rw [moved.progress.stepKind]
      exact shaped.enabled earlier isEarlier
    · exact preparable.enabled
  · intro attempt member undispatched
    rcases move.attempt_cases member with ⟨earlier, isEarlier, moved⟩ |
      ⟨other, stepKind, stepID, now, isOther, preparable, rfl⟩
    · obtain rfl := moved.undispatched undispatched
      exact shaped.undispatched attempt isEarlier undispatched
    · exact ⟨rfl, rfl⟩

theorem shaped_nil (intent : ChangeIntent) : Shaped intent [] :=
  ⟨List.nil_prefix, fun _ _ member => absurd member List.not_mem_nil,
    fun _ member => absurd member List.not_mem_nil, fun _ member => absurd member List.not_mem_nil⟩

theorem Shaped.length_le {intent : ChangeIntent} {attempts : List StepAttempt}
    (shaped : Shaped intent attempts) (fixed : intent.steps.items = fixedWorkflowSteps) :
    attempts.length ≤ 6 := by
  by_contra long
  have inside : 6 < attempts.length := by omega
  have kind : (attempts.map (·.stepKind))[6]? = some attempts[6].stepKind := by
    rw [List.getElem?_map, List.getElem?_eq_getElem inside]
    rfl
  have listed := prefix_iff_positions.mp shaped.kinds 6 _ kind
  rw [fixed] at listed
  refine shaped.enabled attempts[6] (List.getElem_mem inside) ?_
  rw [← Option.some.inj listed]
  decide

/-- Every operation works under the digest of its intent and has its shape. -/
def JournalShaped (ledger : Ledger) : Prop :=
  ∀ id operation, ledger.operations id = some operation →
    ∃ record, ledger.intents operation.intentID = some record ∧
      operation.intentDigest = record.intent.intentDigest ∧
      Shaped record.intent operation.attempts

theorem JournalShaped.step (shaped : JournalShaped before) (step : Step codec before call after) :
    JournalShaped after := by
  refine step.operations_agree (fun intent operation =>
    operation.intentDigest = intent.intentDigest ∧ Shaped intent operation.attempts) shaped
    (fun move found holds => ⟨?_, holds.2.move move found⟩)
    fun approves => ⟨approves.approvable.digest.symm, shaped_nil _⟩
  rw [move.sameIdentity.intentDigest]
  exact holds.1

/-! ### Runs -/

/-- Every attempt of the operation is at its place in the later version. -/
def AttemptsProgress (operation later : Operation) : Prop :=
  ∀ (position : Nat) (attempt : StepAttempt), operation.attempts[position]? = some attempt →
    ∃ next, later.attempts[position]? = some next ∧ AttemptProgress attempt next

/-- No operation is removed, and its attempts progress. -/
def JournalProgresses (before after : Ledger) : Prop :=
  ∀ id operation, before.operations id = some operation →
    ∃ later, after.operations id = some later ∧ AttemptsProgress operation later

theorem JournalProgresses.refl (ledger : Ledger) : JournalProgresses ledger ledger :=
  fun _ operation found => ⟨operation, found, fun _ attempt present => ⟨attempt, present, .refl _⟩⟩

theorem JournalProgresses.trans {first second third : Ledger}
    (early : JournalProgresses first second) (late : JournalProgresses second third) :
    JournalProgresses first third := by
  intro id operation found
  obtain ⟨middle, isMiddle, progress⟩ := early id operation found
  obtain ⟨last, isLast, laterProgress⟩ := late id middle isMiddle
  refine ⟨last, isLast, fun position attempt present => ?_⟩
  obtain ⟨second, isSecond, first⟩ := progress position attempt present
  obtain ⟨third, isThird, further⟩ := laterProgress position second isSecond
  exact ⟨third, isThird, first.trans further⟩

theorem Ledger.Step.moves (step : Step codec before call after) {id : String}
    (found : before.operations id = some operation) :
    ∃ later, after.operations id = some later ∧
      ∀ (position : Nat) (attempt : StepAttempt), operation.attempts[position]? = some attempt →
        ∃ next, later.attempts[position]? = some next ∧ AttemptMove attempt next := by
  rcases step.operation_cases id with same | ⟨stored, next, present, -, now, move⟩ |
    ⟨_, _, _, _, _, _, _, -, rfl, approves, -⟩
  · exact ⟨operation, same.trans found, fun _ attempt present => ⟨attempt, present, .kept⟩⟩
  · obtain rfl := Option.mem_unique found present
    exact ⟨next, now, fun _ _ present => move.attempt_moves present⟩
  · exact nomatch approves.fresh.symm.trans found

theorem Ledger.Step.progresses (step : Step codec before call after) :
    JournalProgresses before after := by
  intro id operation found
  obtain ⟨later, isLater, moves⟩ := step.moves found
  refine ⟨later, isLater, fun position attempt present => ?_⟩
  obtain ⟨next, isNext, moved⟩ := moves position attempt present
  exact ⟨next, isNext, moved.progress⟩

/-! ### Marks -/

/-- The transaction marks the step as possibly dispatched, and commits. -/
def Transaction.marks (stepID : String) (database : Database) (transaction : Transaction) : Bool :=
  match transaction.call with
  | .markDispatchPossible operationID marked now =>
    marked = stepID && (Store.markDispatchPossible operationID marked now database).isOk
  | _ => false

/-- How often a step is marked in a run. -/
def countMarks (codec : Codec) (stepID : String) : Database → List Transaction → Nat
  | _, [] => 0
  | database, transaction :: log =>
    (if transaction.marks stepID database then 1 else 0) +
      countMarks codec stepID (perform codec database transaction) log

variable {database : Database} {stepID : String}

theorem Transaction.marks_eq_true (codec : Codec) {transaction : Transaction}
    (marks : transaction.marks stepID database = true) :
    ∃ operationID now next, transaction.call = .markDispatchPossible operationID stepID now ∧
      Commits codec database transaction next := by
  obtain ⟨ids, call⟩ := transaction
  cases call with
  | markDispatchPossible operationID marked now =>
    obtain ⟨names, succeeds⟩ := (Bool.and_eq_true _ _).mp marks
    obtain rfl := of_decide_eq_true names
    cases run : Store.markDispatchPossible operationID marked now database with
    | error failure =>
      rw [run] at succeeds
      exact nomatch succeeds
    | ok outcome => exact ⟨operationID, now, outcome.2, rfl, outcome.1, run⟩
  | _ => exact nomatch marks

theorem perform_persists (coherent : database.Coherent) (transaction : Transaction) :
    (perform codec database transaction).Coherent ∧
      Persists database.ledger (perform codec database transaction).ledger := by
  rcases perform_cases database transaction with commits | same
  · obtain ⟨nextCoherent, step⟩ := commits_refines coherent commits
    exact ⟨nextCoherent, step.persists⟩
  · rw [same]
    exact ⟨coherent, .refl _⟩

theorem countMarks_of_dispatched {operationID : String} {state : DispatchState}
    (coherent : database.Coherent)
    (present : database.dispatchState operationID stepID = some state)
    (dispatched : state ≠ .notDispatched) (log : List Transaction) :
    countMarks codec stepID database log = 0 := by
  induction log generalizing database state with
  | nil => rfl
  | cons transaction log hypothesis =>
    have unmarked : ¬ transaction.marks stepID database = true := by
      intro marks
      obtain ⟨ids, call⟩ := transaction
      obtain ⟨other, now, next, rfl, commits⟩ := Transaction.marks_eq_true codec marks
      have fresh := (mark_dispatchState coherent commits).1
      obtain ⟨-, rfl⟩ := coherent.dispatchState_unique present fresh
      exact dispatched rfl
    obtain ⟨nextCoherent, persists⟩ := perform_persists coherent transaction
    obtain ⟨later, isLater, stillDispatched⟩ :=
      dispatchState_persists persists coherent nextCoherent present dispatched
    rw [countMarks, if_neg unmarked, hypothesis nextCoherent isLater stillDispatched]

theorem countMarks_le_one (stepID : String) (coherent : database.Coherent) (log : List Transaction) :
    countMarks codec stepID database log ≤ 1 := by
  induction log generalizing database with
  | nil => exact Nat.zero_le 1
  | cons transaction log hypothesis =>
    have nextCoherent : (perform codec database transaction).Coherent :=
      (perform_persists coherent transaction).1
    rw [countMarks]
    split
    · rename_i marks
      obtain ⟨ids, call⟩ := transaction
      obtain ⟨operationID, now, next, rfl, commits⟩ := Transaction.marks_eq_true codec marks
      have marked := (mark_dispatchState coherent commits).2
      rw [perform_of_commits commits] at nextCoherent ⊢
      rw [countMarks_of_dispatched nextCoherent marked nofun]
    · rw [Nat.zero_add]
      exact hypothesis nextCoherent

/-! ### The journal -/

theorem progress_rows {next : Database} (coherent : database.Coherent)
    (nextCoherent : next.Coherent) (progresses : JournalProgresses database.ledger next.ledger) :
    ∀ row ∈ database.operations.rows, ∃ later ∈ next.operations.rows,
      later.operationID = row.operationID ∧ AttemptsProgress row.payload later.payload := by
  intro row member
  obtain ⟨operation, rfl, found⟩ := coherent.operation_row member
  obtain ⟨later, isLater, progress⟩ := progresses _ operation found
  obtain ⟨laterIn, names⟩ := nextCoherent.operation_eq_some.mp isLater
  exact ⟨_, laterIn, names, progress⟩

/-- In every database that is reached the attempts of an operation have the shape of its intent;
along every run they keep their places and names and their dispatch states move forward, one
transaction by at most one; and no step is marked twice. -/
theorem step_journal_shape (codec : Codec) (log : List Transaction) :
    (∀ row ∈ (replay codec log).operations.rows, ∃ intent ∈ (replay codec log).intents.rows,
      intent.intentID = row.intentID ∧
      row.payload.intentDigest = intent.payload.intent.intentDigest ∧
      Shaped intent.payload.intent row.payload.attempts) ∧
    (∀ continuation, ∀ row ∈ (replay codec log).operations.rows,
      ∃ later ∈ (replay codec (log ++ continuation)).operations.rows,
        later.operationID = row.operationID ∧ AttemptsProgress row.payload later.payload) ∧
    (∀ transaction, ∀ row ∈ (replay codec log).operations.rows,
      ∃ later ∈ (perform codec (replay codec log) transaction).operations.rows,
        later.operationID = row.operationID ∧
        ∀ (position : Nat) (attempt : StepAttempt),
          row.payload.attempts[position]? = some attempt →
            ∃ next, later.payload.attempts[position]? = some next ∧
              (next.dispatchState = attempt.dispatchState ∨
                attempt.dispatchState.Advances next.dispatchState)) ∧
    ∀ stepID, countMarks codec stepID .empty log ≤ 1 := by
  have coherent : (replay codec log).Coherent := replay_coherent log
  refine ⟨fun row member => ?_, fun continuation => ?_, fun transaction row member => ?_,
    fun stepID => countMarks_le_one stepID empty_coherent log⟩
  · obtain ⟨operation, rfl, found⟩ := coherent.operation_row member
    have shaped : JournalShaped (replay codec log).ledger :=
      replay_ledger (fun _ _ absent => nomatch absent) (fun _ shaped step => shaped.step step) log
    obtain ⟨record, isRecord, digest, shape⟩ := shaped _ operation found
    obtain ⟨recordIn, names⟩ := coherent.intent_eq_some.mp isRecord
    exact ⟨_, recordIn, names, digest, shape⟩
  · refine progress_rows coherent (replay_coherent _) ?_
    rw [replay_append]
    exact replay_relation JournalProgresses .refl .trans (fun _ step => step.progresses) coherent
      continuation
  · obtain ⟨operation, rfl, found⟩ := coherent.operation_row member
    rcases perform_cases (replay codec log) transaction with commits | same
    · obtain ⟨nextCoherent, step⟩ := commits_refines coherent commits
      obtain ⟨later, isLater, moves⟩ := step.moves found
      obtain ⟨laterIn, names⟩ := nextCoherent.operation_eq_some.mp isLater
      refine ⟨_, laterIn, names, fun position attempt present => ?_⟩
      obtain ⟨next, isNext, moved⟩ := moves position attempt present
      exact ⟨next, isNext, moved.dispatch⟩
    · rw [same]
      exact ⟨_, member, rfl, fun _ attempt present => ⟨attempt, present, Or.inl rfl⟩⟩

end GuardedAgentRunner
