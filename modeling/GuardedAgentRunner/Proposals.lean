/-
This file takes `PutIntent` apart into its database actions: the lookup of the
client key, the transaction that inserts the row and commits, the rollback after a
refused insertion and the second lookup. Any number of calls run at once, each
action may fail or lose its answer, and other transactions of the store come in
between. Two calls may both find nothing; the unique index of the key lets one of
them insert, and the second lookup of the other finds its row. Every interleaving
leads to a database that the transactions of the journal lead to.
-/

import GuardedAgentRunner.Authority
import GuardedAgentRunner.Library.Program

namespace GuardedAgentRunner

open Fallible Program Protocol Store

/-! ### The program -/

/-- The database actions of `PutIntent`. -/
inductive ProposalAction where
  | lookup (principalID enrollmentID key : String)
  | beginTx
  | insert (row : IntentRow)
  | appendAudit
  | commit
  | rollback
  deriving DecidableEq

/-- What the database answers. -/
abbrev ProposalAction.Answer : ProposalAction → Type
  | .lookup .. => Except Failure IntentRecord
  | .rollback => Unit
  | _ => Except Failure Unit

abbrev ProposalFlow := ExceptT Failure (Program ProposalAction ProposalAction.Answer)

namespace PutIntent

/-- `GetIntentByClientKey` with the key of an intent. -/
def lookup (intent : ChangeIntent) : ProposalFlow IntentRecord :=
  ExceptT.mk (ask (ProposalAction.lookup intent.principalID intent.enrollmentID
    intent.clientRequestID))

/-- `BeginTx`. -/
def beginTx : ProposalFlow Unit := ExceptT.mk (ask ProposalAction.beginTx)

/-- The `INSERT` of the transaction. -/
def insert (row : IntentRow) : ProposalFlow Unit := ExceptT.mk (ask (ProposalAction.insert row))

/-- The audit entry of the transaction. -/
def appendAudit : ProposalFlow Unit := ExceptT.mk (ask ProposalAction.appendAudit)

/-- `Commit`. -/
def commit : ProposalFlow Unit := ExceptT.mk (ask ProposalAction.commit)

/-- `Rollback`. -/
def rollback : ProposalFlow Unit := ExceptT.lift (ask ProposalAction.rollback)

/-- The error for a key that identifies another proposal. -/
def conflict : Failure :=
  newError .idempotencyConflict "client_request_id already identifies different proposal bytes"

/-- The answer for a key that already identifies an intent. -/
def answerExisting (existing record : IntentRecord) : Except Failure (IntentRecord × Bool) := do
  refuse (existing.proposalDigest ≠ record.proposalDigest) conflict
  pure (existing, false)

/-- The end of the transaction after a refused insertion. -/
def resolve (record : IntentRecord) (failure : Failure) : ProposalFlow (IntentRecord × Bool) := do
  rollback
  match ← reify (lookup record.intent) with
  | .ok existing => answerExisting existing record
  | .error _ => throw failure.translateWriteError

/-- The end of the transaction after the insertion. The deferred rollback does nothing after a
commit was tried. -/
def freeze (record : IntentRecord) : ProposalFlow (IntentRecord × Bool) := do
  match ← reify appendAudit with
  | .error failure => do
    rollback
    throw failure
  | .ok _ =>
    match ← reify commit with
    | .error failure => throw failure.translateWriteError
    | .ok _ => pure (record, true)

/-- The transaction for a key that was not found. -/
def insertNew (record payload : IntentRecord) : ProposalFlow (IntentRecord × Bool) := do
  beginTx
  match ← reify (insert (IntentRow.of payload)) with
  | .error failure => resolve record failure
  | .ok _ => freeze record

/-- `PutIntent`. -/
def run (record : IntentRecord) : ProposalFlow (IntentRecord × Bool) := do
  match ← reify (lookup record.intent) with
  | .ok existing => answerExisting existing record
  | .error failure => do
    refuse (failure.codeOf ≠ .notFound) failure
    let payload ← marshal record
    insertNew record payload

/-! ### What a call knows -/

/-- How far a call has come: outside the transaction, inside it before and after the insertion,
with a refused insertion, with a found intent, or after the commit, which may have failed. -/
inductive Phase where
  | outside
  | opened
  | refused
  | inserted
  | found (existing : IntentRecord)
  | committed
  | doubtful

/-- The phase after an answered action. -/
def Phase.next : Phase → (action : ProposalAction) → action.Answer → Phase
  | .outside, .lookup .., .ok existing => .found existing
  | .outside, .beginTx, .ok _ => .opened
  | .opened, .insert _, .ok _ => .inserted
  | .opened, .insert _, .error _ => .refused
  | .refused, .rollback, _ => .outside
  | .inserted, .rollback, _ => .outside
  | .inserted, .commit, .ok _ => .committed
  | .inserted, .commit, .error _ => .doubtful
  | phase, _, _ => phase

variable (record : IntentRecord)

/-- The actions of a call in a phase. -/
def Phase.Allows : Phase → ProposalAction → Prop
  | .outside, .lookup principalID enrollmentID key =>
    principalID = record.intent.principalID ∧ enrollmentID = record.intent.enrollmentID ∧
      key = record.intent.clientRequestID
  | .outside, .beginTx => True
  | .opened, .insert row => row = IntentRow.of record ∧ Storable record
  | .refused, .rollback => True
  | .inserted, .rollback => True
  | .inserted, .appendAudit => True
  | .inserted, .commit => True
  | _, _ => False

/-- What a call returns in a phase. -/
def Phase.Returns : Phase → Except Failure (IntentRecord × Bool) → Prop
  | .found existing, outcome => outcome = answerExisting existing record
  | .committed, outcome => outcome = .ok (record, true)
  | .outside, outcome => ∃ failure, outcome = .error failure
  | .doubtful, outcome => ∃ failure, outcome = .error failure
  | _, _ => False

/-- The protocol of the phases. -/
def phases : Protocol ProposalAction ProposalAction.Answer Phase where
  allowed phase action := phase.Allows record action
  moves phase action answer later := later = phase.next action answer

variable {record}

theorem resolve_safe (failure : Failure) :
    (phases record).Holds .refused (resolve record failure) (Phase.Returns record) := by
  refine ⟨trivial, ?_⟩
  rintro _ _ rfl
  refine ⟨⟨rfl, rfl, rfl⟩, ?_⟩
  rintro (lookupFailure | existing) _ rfl
  · exact ⟨_, rfl⟩
  · exact rfl

theorem freeze_safe : (phases record).Holds .inserted (freeze record) (Phase.Returns record) := by
  refine ⟨trivial, ?_⟩
  rintro (failure | _) _ rfl
  · refine ⟨trivial, ?_⟩
    rintro _ _ rfl
    exact ⟨failure, rfl⟩
  · refine ⟨trivial, ?_⟩
    rintro (failure | _) _ rfl
    · exact ⟨_, rfl⟩
    · exact rfl

theorem insertNew_safe (storable : Storable record) :
    (phases record).Holds .outside (insertNew record record) (Phase.Returns record) := by
  refine ⟨trivial, ?_⟩
  rintro (failure | _) _ rfl
  · exact ⟨failure, rfl⟩
  · refine ⟨⟨rfl, storable⟩, ?_⟩
    rintro (failure | _) _ rfl
    · exact resolve_safe failure
    · exact freeze_safe

/-- Every call of `PutIntent` goes through the phases. -/
theorem run_safe (record : IntentRecord) :
    (phases record).Holds .outside (run record) (Phase.Returns record) := by
  refine ⟨⟨rfl, rfl, rfl⟩, ?_⟩
  rintro (failure | existing) _ rfl
  · refine holds_bind.mpr ?_
    show (phases record).Continues _ _ .outside (refuse (failure.codeOf ≠ .notFound) failure)
    cases refuse (failure.codeOf ≠ .notFound) failure with
    | error stopped => exact ⟨stopped, rfl⟩
    | ok passed =>
      refine holds_bind.mpr ?_
      show (phases record).Continues _ _ .outside (marshal record)
      cases marshalled : marshal record with
      | error stopped => exact ⟨stopped, rfl⟩
      | ok payload =>
        obtain ⟨storable, rfl⟩ := marshal_eq_ok.mp marshalled
        exact insertNew_safe storable
  · exact rfl

end PutIntent

/-! ### The shared database -/

/-- The committed database and the open write transaction, if any: the call that owns it and
the database it would commit. Every transaction takes the write lock when it begins. -/
structure Shared where
  database : Database
  writer : Option (Nat × Database)

/-- What becomes of a database action: it is carried out, it fails, or it is carried out and its
answer is lost. -/
inductive Fate where
  | carried
  | failed (failure : Failure)
  | lost (failure : Failure)

namespace Shared

variable (shared : Shared) (pid : Nat)

/-- What the transaction of a call would commit. -/
def pendingOf : Option Database :=
  match shared.writer with
  | some (owner, pending) => if owner = pid then some pending else none
  | none => none

/-- The transaction of a call ends without a commit. -/
def release : Shared :=
  match shared.pendingOf pid with
  | some _ => { shared with writer := none }
  | none => shared

/-- The error of a transaction that cannot take the write lock. -/
def busy : Failure := .other "database is locked (5) (SQLITE_BUSY)"

/-- The error of an action outside a transaction. -/
def txDone : Failure := .other "sql: transaction has already been committed or rolled back"

/-- The transaction of a call with a row inserted. -/
def insertRow (row : IntentRow) : Except Failure Shared := do
  let pending ← demand (shared.pendingOf pid) txDone
  let intents ← demand (pending.intents.insert row) .constraintFailed
  pure { shared with writer := some (pid, { pending with intents := intents }) }

/-- The transaction of a call committed. -/
def commit : Except Failure Shared := do
  let pending ← demand (shared.pendingOf pid) txDone
  pure ⟨pending, none⟩

/-- The transaction of a call begun. -/
def beginTx : Except Failure Shared := do
  refuse (shared.writer.isSome) busy
  pure { shared with writer := some (pid, shared.database) }

/-- The answer of an action that changes the transaction, and what it leaves when it fails. -/
def attempt (shared failing : Shared) (result : Except Failure Shared) :
    Fate → Except Failure Unit × Shared
  | .failed failure => (.error failure, failing)
  | .carried =>
    match result with
    | .ok next => (.ok (), next)
    | .error failure => (.error failure, shared)
  | .lost failure =>
    match result with
    | .ok next => (.error failure, next)
    | .error _ => (.error failure, shared)

/-- The answer to an action of a call and what it leaves. A begun transaction whose answer is
lost is ended by the driver. -/
def act (fate : Fate) :
    (action : ProposalAction) → action.Answer × Shared
  | .lookup principalID enrollmentID key =>
    match fate with
    | .carried => (getIntentByClientKey principalID enrollmentID key shared.database, shared)
    | .failed failure | .lost failure => (.error failure, shared)
  | .beginTx =>
    match fate with
    | .carried => shared.attempt shared (shared.beginTx pid) .carried
    | .failed failure | .lost failure => (.error failure, shared)
  | .insert row => shared.attempt shared (shared.insertRow pid row) fate
  | .appendAudit => shared.attempt shared (.ok shared) fate
  | .commit => shared.attempt (shared.release pid) (shared.commit pid) fate
  | .rollback => ((), shared.release pid)

variable {shared pid} {next : Shared}

theorem pendingOf_eq_some {pending : Database} :
    shared.pendingOf pid = some pending ↔ shared.writer = some (pid, pending) := by
  unfold pendingOf
  split
  · rename_i owner stored present
    simp only [present, Option.ite_none_right_eq_some, Option.some.injEq, Prod.mk.injEq]
  · rename_i absent
    simp [absent]

theorem release_database : (shared.release pid).database = shared.database := by
  unfold release
  split <;> rfl

theorem insertRow_eq_ok {row : IntentRow} :
    shared.insertRow pid row = .ok next ↔ ∃ pending intents,
      shared.writer = some (pid, pending) ∧ pending.intents.insert row = some intents ∧
        { shared with writer := some (pid, { pending with intents := intents }) } = next := by
  simp only [insertRow, bind_eq_ok, demand_eq_ok, pendingOf_eq_some, pure_eq_ok]
  constructor
  · rintro ⟨pending, owns, intents, inserted, same⟩
    exact ⟨pending, intents, owns, inserted, same⟩
  · rintro ⟨pending, intents, owns, inserted, same⟩
    exact ⟨pending, owns, intents, inserted, same⟩

theorem commit_eq_ok :
    shared.commit pid = .ok next ↔ ∃ pending, shared.writer = some (pid, pending) ∧
      (⟨pending, none⟩ : Shared) = next := by
  simp only [commit, bind_eq_ok, demand_eq_ok, pendingOf_eq_some, pure_eq_ok]

theorem beginTx_eq_ok :
    shared.beginTx pid = .ok next ↔ shared.writer = none ∧
      { shared with writer := some (pid, shared.database) } = next := by
  simp only [beginTx, refuse_bind_eq_ok, pure_eq_ok, Option.not_isSome_iff_eq_none]

theorem attempt_elim (property : Except Failure Unit × Shared → Prop) {failing : Shared}
    {result : Except Failure Shared} (fate : Fate)
    (failed : ∀ failure, property (.error failure, failing))
    (refused : ∀ failure, property (.error failure, shared))
    (carried : ∀ next, result = .ok next → property (.ok (), next))
    (lost : ∀ next failure, result = .ok next → property (.error failure, next)) :
    property (shared.attempt failing result fate) := by
  cases fate with
  | failed failure => exact failed failure
  | carried =>
    cases result with
    | ok next => exact carried next rfl
    | error failure => exact refused failure
  | lost failure =>
    cases result with
    | ok next => exact lost next failure rfl
    | error _ => exact refused failure

section Others

variable {other : Nat} {pending : Database} (owned : shared.writer = some (other, pending))
  (different : other ≠ pid)

include owned different

theorem pendingOf_of_other : shared.pendingOf pid = none := by
  rw [pendingOf, owned]
  exact if_neg different

theorem release_of_other : shared.release pid = shared := by
  rw [release, pendingOf_of_other owned different]

theorem act_of_other {fate : Fate} {action : ProposalAction} :
    (shared.act pid fate action).2 = shared := by
  have none := pendingOf_of_other owned different
  have kept := release_of_other owned different
  cases action with
  | lookup => cases fate <;> rfl
  | rollback => exact kept
  | beginTx =>
    cases fate with
    | carried => simp [act, attempt, beginTx, owned, refuse, bind, Except.bind]
    | failed | lost => rfl
  | insert row => cases fate <;> simp [act, attempt, insertRow, none, demand, bind, Except.bind]
  | appendAudit => cases fate <;> rfl
  | commit => cases fate <;> simp [act, attempt, commit, none, kept, demand, bind, Except.bind]

end Others

end Shared

variable {before database : Database} {later : Phase}

namespace PutIntent

variable {shared : Shared} {pid : Nat} {record : IntentRecord} {phase : Phase}
  {action : ProposalAction}

/-- The row of the record can be inserted into the database, which then is the second one. -/
def Inserts (record : IntentRecord) (database next : Database) : Prop :=
  Storable record ∧ ∃ intents, database.intents.insert (IntentRow.of record) = some intents ∧
    next = { database with intents := intents }

/-- The write lock of a call in a phase. -/
structure Locked (shared : Shared) (pid : Nat) (record : IntentRecord) (phase : Phase) : Prop where
  opened : phase = .opened → shared.writer = some (pid, shared.database)
  inserted : phase = .inserted →
    ∃ pending, shared.writer = some (pid, pending) ∧ Inserts record shared.database pending

theorem Locked.of_outside (notOpened : phase ≠ .opened) (notInserted : phase ≠ .inserted) :
    Locked shared pid record phase :=
  ⟨fun opened => absurd opened notOpened, fun inserted => absurd inserted notInserted⟩

/-- What an action of a call does: nothing to the database, where an intent it finds is the one
stored for the key; or the commit of the row. -/
def Effective (before after : Database) (record : IntentRecord) (later : Phase) : Prop :=
  (after = before ∧ later ≠ .committed ∧ ∀ existing, later = .found existing →
      getIntentByClientKey record.intent.principalID record.intent.enrollmentID
        record.intent.clientRequestID before = .ok existing) ∨
    (later = .committed ∨ later = .doubtful) ∧ Inserts record before after

/-- A call that stays outside, opens the transaction, inserts, or is refused or left in doubt has
not touched the database. -/
theorem Effective.of_same (unsettled : ∀ existing, later ≠ .committed ∧ later ≠ .found existing) :
    Effective before before record later :=
  Or.inl ⟨rfl, (unsettled record).1, fun existing found => absurd found (unsettled existing).2⟩

/-- The reaction to an action keeps the lock of the call and has the effect of its phase. -/
def Proceeds (shared : Shared) (pid : Nat) (record : IntentRecord) (phase : Phase)
    (action : ProposalAction) (reaction : action.Answer × Shared) : Prop :=
  Locked reaction.2 pid record (phase.next action reaction.1) ∧
    Effective shared.database reaction.2.database record (phase.next action reaction.1)

theorem proceeds_lookup (fate : Fate) :
    let action : ProposalAction := .lookup record.intent.principalID record.intent.enrollmentID
      record.intent.clientRequestID
    Proceeds shared pid record .outside action (shared.act pid fate action) := by
  have unfound : ∀ failure, Proceeds shared pid record .outside
      (.lookup record.intent.principalID record.intent.enrollmentID record.intent.clientRequestID)
      (.error failure, shared) :=
    fun failure => ⟨.of_outside nofun nofun, .of_same fun _ => ⟨nofun, nofun⟩⟩
  cases fate with
  | failed failure | lost failure => exact unfound failure
  | carried =>
    show Proceeds shared pid record .outside (.lookup _ _ _)
      (getIntentByClientKey record.intent.principalID record.intent.enrollmentID
        record.intent.clientRequestID shared.database, shared)
    cases looked : getIntentByClientKey record.intent.principalID record.intent.enrollmentID
        record.intent.clientRequestID shared.database with
    | error failure => exact unfound failure
    | ok existing =>
      refine ⟨.of_outside nofun nofun, Or.inl ⟨rfl, nofun, fun other found => ?_⟩⟩
      cases found
      exact looked

theorem proceeds_beginTx (fate : Fate) :
    Proceeds shared pid record .outside .beginTx (shared.act pid fate .beginTx) := by
  have notBegun : ∀ failure,
      Proceeds shared pid record .outside .beginTx (.error failure, shared) :=
    fun failure => ⟨.of_outside nofun nofun, .of_same fun _ => ⟨nofun, nofun⟩⟩
  cases fate with
  | failed failure | lost failure => exact notBegun failure
  | carried =>
    show Proceeds shared pid record .outside .beginTx
      (shared.attempt shared (shared.beginTx pid) .carried)
    unfold Shared.attempt
    cases begun : shared.beginTx pid with
    | error failure => exact notBegun failure
    | ok next =>
      obtain ⟨-, rfl⟩ := Shared.beginTx_eq_ok.mp begun
      exact ⟨⟨fun _ => rfl, nofun⟩, .of_same fun _ => ⟨nofun, nofun⟩⟩

theorem proceeds_insert (locked : Locked shared pid record .opened) (storable : Storable record)
    (fate : Fate) :
    Proceeds shared pid record .opened (.insert (IntentRow.of record))
      (shared.act pid fate (.insert (IntentRow.of record))) := by
  have owned := locked.opened rfl
  have refused : ∀ failure, Proceeds shared pid record .opened (.insert (IntentRow.of record))
      (.error failure, shared) :=
    fun failure => ⟨.of_outside nofun nofun, .of_same fun _ => ⟨nofun, nofun⟩⟩
  refine Shared.attempt_elim
    (Proceeds shared pid record .opened (.insert (IntentRow.of record))) fate refused refused
    (fun next inserted => ?_) (fun next failure inserted => ?_)
  · obtain ⟨pending, intents, owns, isInserted, rfl⟩ := Shared.insertRow_eq_ok.mp inserted
    obtain ⟨-, rfl⟩ := Prod.mk.inj (Option.mem_unique owned owns)
    refine ⟨⟨nofun, fun _ => ?_⟩, .of_same fun _ => ⟨nofun, nofun⟩⟩
    exact ⟨_, rfl, storable, intents, isInserted, rfl⟩
  · obtain ⟨pending, intents, -, -, rfl⟩ := Shared.insertRow_eq_ok.mp inserted
    exact ⟨.of_outside nofun nofun, .of_same fun _ => ⟨nofun, nofun⟩⟩

theorem proceeds_rollback (left : phase.next .rollback () = .outside) (fate : Fate) :
    Proceeds shared pid record phase .rollback (shared.act pid fate .rollback) := by
  show Locked (shared.release pid) pid record (phase.next .rollback ()) ∧
    Effective shared.database (shared.release pid).database record (phase.next .rollback ())
  rw [left, Shared.release_database]
  exact ⟨.of_outside nofun nofun, .of_same fun _ => ⟨nofun, nofun⟩⟩

theorem proceeds_appendAudit (locked : Locked shared pid record .inserted) (fate : Fate) :
    Proceeds shared pid record .inserted .appendAudit (shared.act pid fate .appendAudit) := by
  have same : Effective shared.database shared.database record .inserted :=
    .of_same fun _ => ⟨nofun, nofun⟩
  refine Shared.attempt_elim (Proceeds shared pid record .inserted .appendAudit) fate
    (fun _ => ⟨locked, same⟩) (fun _ => ⟨locked, same⟩) ?_ ?_
  · rintro _ ⟨⟩
    exact ⟨locked, same⟩
  · rintro _ failure ⟨⟩
    exact ⟨locked, same⟩

theorem proceeds_commit (locked : Locked shared pid record .inserted) (fate : Fate) :
    Proceeds shared pid record .inserted .commit (shared.act pid fate .commit) := by
  obtain ⟨pending, owns, inserts⟩ := locked.inserted rfl
  have commits : shared.commit pid = .ok ⟨pending, none⟩ :=
    Shared.commit_eq_ok.mpr ⟨pending, owns, rfl⟩
  refine Shared.attempt_elim (Proceeds shared pid record .inserted .commit) fate ?_ ?_ ?_ ?_
  · intro failure
    refine ⟨.of_outside nofun nofun, ?_⟩
    rw [Shared.release_database]
    exact .of_same fun _ => ⟨nofun, nofun⟩
  · exact fun failure => ⟨.of_outside nofun nofun, .of_same fun _ => ⟨nofun, nofun⟩⟩
  · intro next committed
    cases commits.symm.trans committed
    exact ⟨.of_outside nofun nofun, Or.inr ⟨Or.inl rfl, inserts⟩⟩
  · intro next failure committed
    cases commits.symm.trans committed
    exact ⟨.of_outside nofun nofun, Or.inr ⟨Or.inr rfl, inserts⟩⟩

theorem Locked.act (locked : Locked shared pid record phase) (allowed : phase.Allows record action)
    (fate : Fate) : Proceeds shared pid record phase action (shared.act pid fate action) := by
  cases phase with
  | found | committed | doubtful => exact allowed.elim
  | outside =>
    cases action with
    | lookup principalID enrollmentID key =>
      obtain ⟨rfl, rfl, rfl⟩ := allowed
      exact proceeds_lookup fate
    | beginTx => exact proceeds_beginTx fate
    | insert | appendAudit | commit | rollback => exact allowed.elim
  | opened =>
    cases action with
    | insert row =>
      obtain ⟨rfl, storable⟩ := allowed
      exact proceeds_insert locked storable fate
    | lookup | beginTx | appendAudit | commit | rollback => exact allowed.elim
  | refused =>
    cases action with
    | rollback => exact proceeds_rollback rfl fate
    | lookup | beginTx | insert | appendAudit | commit => exact allowed.elim
  | inserted =>
    cases action with
    | rollback => exact proceeds_rollback rfl fate
    | appendAudit => exact proceeds_appendAudit locked fate
    | commit => exact proceeds_commit locked fate
    | lookup | beginTx | insert => exact allowed.elim

end PutIntent

/-! ### Calls in progress -/

/-- A call of `PutIntent` with the rest of its program. -/
structure ProposalCall where
  record : IntentRecord
  alive : Bool
  rest : Program ProposalAction ProposalAction.Answer (Except Failure (IntentRecord × Bool))

/-- One action of a call in the history, with the committed databases before and after it. -/
structure ProposalEvent where
  pid : Nat
  action : ProposalAction
  answer : action.Answer
  before : Database
  after : Database

/-- The intent a lookup found. -/
def ProposalEvent.found : ProposalEvent → Option IntentRecord
  | ⟨_, .lookup .., .ok existing, _, _⟩ => some existing
  | _ => none

/-- The shared database, the calls in the order they were made, and the history, the latest
action first. -/
structure Intake where
  shared : Shared
  calls : List ProposalCall
  history : List ProposalEvent

/-- What happens next. -/
inductive ProposalChoice where
  | propose (record : IntentRecord)
  | act (pid : Nat) (fate : Fate)
  | transact (transaction : Transaction)
  | die (pid : Nat)

namespace Intake

def initial : Intake := ⟨⟨.empty, none⟩, [], []⟩

/-- A call makes its next action; a call that has died or returned makes none. -/
def act (intake : Intake) (pid : Nat) (fate : Fate) : Intake :=
  match intake.calls[pid]? with
  | some ⟨record, true, .call action next⟩ =>
    let reaction := intake.shared.act pid fate action
    { shared := reaction.2
      calls := intake.calls.set pid ⟨record, true, next reaction.1⟩
      history := ⟨pid, action, reaction.1, intake.shared.database, reaction.2.database⟩ ::
        intake.history }
  | _ => intake

/-- Another transaction of the store runs, unless the write lock is taken. -/
def transact (codec : Codec) (intake : Intake) (transaction : Transaction) : Intake :=
  match intake.shared.writer with
  | none => { intake with shared := ⟨perform codec intake.shared.database transaction, none⟩ }
  | some _ => intake

/-- A call dies, and its transaction with it. -/
def die (intake : Intake) (pid : Nat) : Intake :=
  match intake.calls[pid]? with
  | some caller =>
    { intake with
      shared := intake.shared.release pid
      calls := intake.calls.set pid { caller with alive := false } }
  | none => intake

/-- The next state of the intake. A choice that does not fit changes nothing. -/
def step (codec : Codec) (intake : Intake) : ProposalChoice → Intake
  | .propose record =>
    { intake with calls := intake.calls ++ [⟨record, true, (PutIntent.run record).run⟩] }
  | .act pid fate => intake.act pid fate
  | .transact transaction => intake.transact codec transaction
  | .die pid => intake.die pid

/-- The intake that a sequence of choices leads to from an empty store. -/
def reach (codec : Codec) (choices : List ProposalChoice) : Intake :=
  Runs.run (step codec) .initial choices

/-- The call with a number returned. -/
def Returned (intake : Intake) (pid : Nat) (record : IntentRecord)
    (outcome : Except Failure (IntentRecord × Bool)) : Prop :=
  ∃ alive, intake.calls[pid]? = some ⟨record, alive, .done outcome⟩

end Intake

/-! ### One atomic transaction for each commit -/

theorem getIntentByClientKey_eq_ok (coherent : database.Coherent)
    {principalID enrollmentID key : String} {record : IntentRecord} :
    getIntentByClientKey principalID enrollmentID key database = .ok record →
      database.intent record.intent.intentID = some record ∧
        record.intent.principalID = principalID ∧ record.intent.enrollmentID = enrollmentID ∧
        record.intent.clientRequestID = key := by
  intro looked
  obtain ⟨row, found, rfl⟩ := Option.map_eq_some_iff.mp ((demand_eq_ok _ _ _).mp looked)
  obtain ⟨stored, rfl, present⟩ := coherent.intent_row (Table.find_mem found)
  have matched := Table.find_test found
  exact ⟨present, of_decide_eq_true matched⟩

/-- The commit of a call is the atomic `PutIntent` of its record. -/
theorem PutIntent.Inserts.putIntent {record : IntentRecord} {next : Database}
    (inserts : PutIntent.Inserts record database next) :
    Store.putIntent record database = .ok ((record, true), next) := by
  obtain ⟨storable, intents, inserted, rfl⟩ := inserts
  have absent : getIntentByClientKey record.intent.principalID record.intent.enrollmentID
      record.intent.clientRequestID database =
        .error (newError .notFound "intent not found") := by
    have none : (database.intents.find fun row => row.principalID = record.intent.principalID ∧
        row.enrollmentID = record.intent.enrollmentID ∧
        row.clientRequestID = record.intent.clientRequestID) = none := by
      refine (Table.find_eq_none _ _).mpr fun row member => decide_eq_false ?_
      rintro ⟨samePrincipal, sameEnrollment, sameKey⟩
      exact (Table.insert_eq_some inserted).1 row member
        (IntentRow.clash_of_key ⟨samePrincipal, sameEnrollment, sameKey⟩ ⟨rfl, rfl, rfl⟩)
    rw [getIntentByClientKey, none]
    rfl
  have rowInserted := (Database.insertRow_eq_ok _ _ _).mpr inserted
  rw [Store.putIntent_eq, absent]
  exact bind_eq_ok.mpr
    ⟨record, marshal_eq_ok.mpr ⟨storable, rfl⟩, bind_eq_ok.mpr ⟨intents, rowInserted, rfl⟩⟩

/-! ### Every interleaving -/

/-- The two intents have one client key. -/
def SameKey (first second : ChangeIntent) : Prop :=
  first.principalID = second.principalID ∧ first.enrollmentID = second.enrollmentID ∧
    first.clientRequestID = second.clientRequestID

/-- The intent of a record is stored, with its proposal. -/
def Kept (database : Database) (record : IntentRecord) : Prop :=
  ∃ later, database.intent record.intent.intentID = some later ∧ later.intent = record.intent ∧
    later.proposalDigest = record.proposalDigest

theorem Kept.of_frozen {next : Database} {record : IntentRecord} (kept : Kept database record)
    (frozen : Frozen database.ledger next.ledger) : Kept next record := by
  obtain ⟨stored, found, sameIntent, sameProposal⟩ := kept
  obtain ⟨later, laterFound, laterIntent, laterProposal⟩ := frozen _ stored found
  exact ⟨later, laterFound, laterIntent.trans sameIntent, laterProposal.trans sameProposal⟩

theorem PutIntent.Inserts.frozen {record : IntentRecord} {next : Database}
    (inserts : PutIntent.Inserts record database next) :
    Frozen database.ledger next.ledger ∧ Kept next record := by
  obtain ⟨-, intents, inserted, rfl⟩ := inserts
  have fresh : database.intent record.intent.intentID = none :=
    (Table.select_eq_none _ _).mpr (Table.insert_fresh IntentRow.exclusive_intentID inserted)
  have view : ({ database with intents := intents } : Database).intent =
      Function.update database.intent record.intent.intentID (some record) :=
    Table.select_insert IntentRow.exclusive_intentID inserted
  constructor
  · intro id stored found
    refine ⟨stored, ?_, rfl, rfl⟩
    show ({ database with intents := intents } : Database).intent id = some stored
    rw [view, Function.update_of_ne, ← found]
    · rfl
    · rintro rfl
      exact absurd (fresh.symm.trans found) nofun
  · refine ⟨record, ?_, rfl, rfl⟩
    rw [view, Function.update_self]

namespace PutIntent

/-- The intent a call in a phase answers with. -/
def Phase.answer (record : IntentRecord) : Phase → Option IntentRecord
  | .found existing => some existing
  | .committed => some record
  | _ => none

/-- A call is in a phase. -/
structure InPhase (intake : Intake) (pid : Nat) (caller : ProposalCall) (phase : Phase) :
    Prop where
  safe : (phases caller.record).Safe phase caller.rest (Phase.Returns caller.record)
  quiet : phase ≠ .committed → phase ≠ .doubtful → ∀ event ∈ intake.history, event.pid = pid →
    event.after = event.before
  finds : ∀ event ∈ intake.history, event.pid = pid → ∀ existing, event.found = some existing →
    phase = .found existing
  answers : ∀ existing, phase.answer caller.record = some existing →
    SameKey existing.intent caller.record.intent ∧ Kept intake.shared.database existing
  locked : caller.alive = true → Locked intake.shared pid caller.record phase

variable {intake next : Intake} {pid : Nat} {caller : ProposalCall} {phase : Phase}
  {after : Database} {existing : IntentRecord}

theorem InPhase.frame (inPhase : InPhase intake pid caller phase)
    (frozen : Frozen intake.shared.database.ledger next.shared.database.ledger)
    (history : ∀ event ∈ next.history, event.pid = pid → event ∈ intake.history)
    (lock : ∀ pending, intake.shared.writer = some (pid, pending) → next.shared = intake.shared) :
    InPhase next pid caller phase where
  safe := inPhase.safe
  quiet notCommitted notDoubtful event member own :=
    inPhase.quiet notCommitted notDoubtful event (history event member own) own
  finds event member own := inPhase.finds event (history event member own) own
  answers existing answer := by
    obtain ⟨sameKey, kept⟩ := inPhase.answers existing answer
    exact ⟨sameKey, kept.of_frozen frozen⟩
  locked alive := by
    have locked := inPhase.locked alive
    constructor
    · intro opened
      rw [lock _ (locked.opened opened)]
      exact locked.opened opened
    · intro inserted
      obtain ⟨pending, owns, inserts⟩ := locked.inserted inserted
      rw [lock pending owns]
      exact ⟨pending, owns, inserts⟩

theorem Phase.Allows.next_of_found {record : IntentRecord} {action : ProposalAction}
    {answer : action.Answer} (allowed : phase.Allows record action)
    (found : (⟨pid, action, answer, before, after⟩ : ProposalEvent).found = some existing) :
    phase.next action answer = .found existing := by
  cases action with
  | lookup =>
    cases phase with
    | outside =>
      cases answer with
      | error => cases found
      | ok => exact congrArg _ (Option.some.inj found)
    | opened | refused | inserted | found | committed | doubtful => exact allowed.elim
  | beginTx | insert | appendAudit | commit | rollback => cases found

theorem Phase.Allows.answer {record : IntentRecord} {action : ProposalAction}
    (allowed : phase.Allows record action) :
    phase ≠ .committed ∧ phase ≠ .doubtful ∧ ∀ existing, phase ≠ .found existing := by
  cases phase with
  | found | committed | doubtful => exact allowed.elim
  | outside | opened | refused | inserted => exact ⟨nofun, nofun, fun _ => nofun⟩

theorem Effective.settles {record : IntentRecord} (coherent : before.Coherent)
    (effective : Effective before after record later) :
    Frozen before.ledger after.ledger ∧ ∀ existing, later.answer record = some existing →
      SameKey existing.intent record.intent ∧ Kept after existing := by
  rcases effective with ⟨rfl, notCommitted, found⟩ | ⟨committed, inserts⟩
  · refine ⟨.refl _, fun existing answer => ?_⟩
    cases later with
    | found other =>
      obtain rfl := Option.some.inj answer
      obtain ⟨present, sameKey⟩ := getIntentByClientKey_eq_ok coherent (found other rfl)
      exact ⟨sameKey, other, present, rfl, rfl⟩
    | committed => exact absurd rfl notCommitted
    | outside | opened | refused | inserted | doubtful => cases answer
  · obtain ⟨frozen, kept⟩ := inserts.frozen
    refine ⟨frozen, fun existing answer => ?_⟩
    rcases committed with rfl | rfl
    · obtain rfl := Option.some.inj answer
      exact ⟨⟨rfl, rfl, rfl⟩, kept⟩
    · cases answer

/-- The database was reached by transactions of the journal, and every call is in a phase. -/
structure Orderly (codec : Codec) (intake : Intake) : Prop where
  replayed : ∃ log, intake.shared.database = replay codec log
  inPhase : ∀ pid caller, intake.calls[pid]? = some caller →
    ∃ phase, InPhase intake pid caller phase
  started : ∀ event ∈ intake.history, event.pid < intake.calls.length

variable {codec : Codec}

theorem Orderly.coherent (orderly : Orderly codec intake) : intake.shared.database.Coherent := by
  obtain ⟨log, same⟩ := orderly.replayed
  rw [same]
  exact replay_coherent log

/-- What an orderly intake becomes in one step: it stays orderly and keeps every intent. -/
def Advances (codec : Codec) (intake next : Intake) : Prop :=
  Orderly codec next ∧ Frozen intake.shared.database.ledger next.shared.database.ledger

section

variable (orderly : Orderly codec intake)

include orderly

theorem Orderly.propose (record : IntentRecord) :
    Advances codec intake
      { intake with calls := intake.calls ++ [⟨record, true, (run record).run⟩] } := by
  refine ⟨⟨orderly.replayed, fun pid caller present => ?_, fun event member => ?_⟩, .refl _⟩
  · rcases Positions.concat_eq_some.mp present with present | ⟨rfl, rfl⟩
    · obtain ⟨phase, inPhase⟩ := orderly.inPhase pid caller present
      exact ⟨phase, inPhase.frame (.refl _) (fun _ member _ => member) fun _ _ => rfl⟩
    · have unused : ∀ event ∈ intake.history, event.pid ≠ intake.calls.length := by
        intro event member own
        exact absurd (orderly.started event member) (by omega)
      exact ⟨.outside, run_safe record,
        fun _ _ event member own => absurd own (unused event member),
        fun event member own => absurd own (unused event member),
        fun _ answer => (nomatch answer), fun _ => .of_outside nofun nofun⟩
  · rw [List.length_append]
    exact Nat.lt_add_right _ (orderly.started event member)

theorem Orderly.others {rewritten : ProposalCall}
    (calls : next.calls = intake.calls.set pid rewritten)
    (frozen : Frozen intake.shared.database.ledger next.shared.database.ledger)
    (history : ∀ event ∈ next.history, event.pid ≠ pid → event ∈ intake.history)
    (lock : ∀ other pending, other ≠ pid → intake.shared.writer = some (other, pending) →
      next.shared = intake.shared)
    (own : ∃ phase, InPhase next pid rewritten phase) :
    ∀ other caller, next.calls[other]? = some caller →
      ∃ phase, InPhase next other caller phase := by
  intro other caller found
  rw [calls] at found
  rcases Positions.set_eq_some.mp found with ⟨rfl, -, rfl⟩ | ⟨here, found⟩
  · exact own
  · obtain ⟨phase, inPhase⟩ := orderly.inPhase other caller found
    refine ⟨phase, inPhase.frame frozen (fun event member isOther => ?_) fun pending =>
      lock other pending (Ne.symm here)⟩
    exact history event member fun same => here (same.symm.trans isOther)

theorem Orderly.act (pid : Nat) (fate : Fate) :
    Advances codec intake (intake.act pid fate) := by
  unfold Intake.act
  split
  · rename_i record action next present
    have inside := (List.getElem?_eq_some_iff.mp present).1
    obtain ⟨phase, inPhase⟩ := orderly.inPhase pid _ present
    obtain ⟨allowed, continues⟩ := inPhase.safe
    obtain ⟨notCommitted, notDoubtful, notFound⟩ := Phase.Allows.answer allowed
    obtain ⟨locked, effective⟩ := (inPhase.locked rfl).act allowed fate
    obtain ⟨frozen, answers⟩ := effective.settles orderly.coherent
    refine ⟨⟨?_, ?_, ?_⟩, frozen⟩
    · obtain ⟨log, same⟩ := orderly.replayed
      rcases effective with ⟨unchanged, -⟩ | ⟨-, inserts⟩
      · exact ⟨log, unchanged.trans same⟩
      · have commits : Commits codec intake.shared.database ⟨⟨"", "", ""⟩, .putIntent record⟩
            (intake.shared.act pid fate action).2.database := ⟨(record, true), inserts.putIntent⟩
        refine ⟨log ++ [⟨⟨"", "", ""⟩, .putIntent record⟩], ?_⟩
        rw [replay_append, ← same]
        exact (perform_of_commits commits).symm
    · refine orderly.others rfl frozen (fun event member isOther => ?_)
        (fun other pending different owned => Shared.act_of_other owned different)
        ⟨_, continues _ _ rfl, fun committed doubtful event member own => ?_,
          fun event member own existing found => ?_, answers, fun _ => locked⟩
      · exact (List.mem_cons.mp member).resolve_left fun same => isOther (by rw [same])
      · rcases List.mem_cons.mp member with rfl | older
        · rcases effective with ⟨unchanged, -⟩ | ⟨settled, -⟩
          · exact unchanged
          · exact absurd settled (not_or.mpr ⟨committed, doubtful⟩)
        · exact inPhase.quiet notCommitted notDoubtful event older own
      · rcases List.mem_cons.mp member with rfl | older
        · exact Phase.Allows.next_of_found allowed found
        · exact absurd (inPhase.finds event older own existing found) (notFound existing)
    · intro event member
      rw [List.length_set]
      rcases List.mem_cons.mp member with rfl | older
      · exact inside
      · exact orderly.started event older
  · exact ⟨orderly, .refl _⟩

theorem Orderly.transact (transaction : Transaction) :
    Advances codec intake (intake.transact codec transaction) := by
  unfold Intake.transact
  split
  · rename_i free
    have frozen : Frozen intake.shared.database.ledger
        (perform codec intake.shared.database transaction).ledger := by
      rcases perform_cases intake.shared.database transaction with commits | same
      · exact (commits_refines orderly.coherent commits).2.frozen
      · rw [same]
        exact .refl _
    refine ⟨⟨?_, fun pid caller present => ?_, orderly.started⟩, frozen⟩
    · obtain ⟨log, same⟩ := orderly.replayed
      refine ⟨log ++ [transaction], ?_⟩
      rw [replay_append, ← same]
      rfl
    · obtain ⟨phase, inPhase⟩ := orderly.inPhase pid caller present
      refine ⟨phase, inPhase.frame frozen (fun _ member _ => member) fun pending owned => ?_⟩
      rw [free] at owned
      cases owned
  · exact ⟨orderly, .refl _⟩

theorem Orderly.die (pid : Nat) : Advances codec intake (intake.die pid) := by
  unfold Intake.die
  split
  · rename_i caller present
    have same : (intake.shared.release pid).database = intake.shared.database :=
      Shared.release_database
    have frozen : Frozen intake.shared.database.ledger
        (intake.shared.release pid).database.ledger := by
      rw [same]
      exact .refl _
    obtain ⟨phase, inPhase⟩ := orderly.inPhase pid caller present
    refine ⟨⟨?_, ?_, ?_⟩, frozen⟩
    · rw [same]
      exact orderly.replayed
    · refine orderly.others rfl frozen (fun _ member _ => member)
        (fun other pending different owned => ?_)
        ⟨phase, inPhase.safe, inPhase.quiet, inPhase.finds, fun existing answer => ?_, nofun⟩
      · exact Shared.release_of_other owned different
      · obtain ⟨sameKey, kept⟩ := inPhase.answers existing answer
        exact ⟨sameKey, kept.of_frozen frozen⟩
    · intro event member
      rw [List.length_set]
      exact orderly.started event member
  · exact ⟨orderly, .refl _⟩

theorem Orderly.step (choice : ProposalChoice) :
    Advances codec intake (intake.step codec choice) := by
  cases choice with
  | propose record => exact orderly.propose record
  | act pid fate => exact orderly.act pid fate
  | transact transaction => exact orderly.transact transaction
  | die pid => exact orderly.die pid

end

theorem initial_orderly : Orderly codec .initial :=
  ⟨⟨[], rfl⟩, fun _ _ present => (nomatch present), fun _ member => (nomatch member)⟩

theorem reach_orderly (choices : List ProposalChoice) :
    Orderly codec (Intake.reach codec choices) :=
  Runs.invariant_run (Orderly codec) (fun _ choice orderly => (orderly.step choice).1)
    initial_orderly choices

theorem reach_frozen (choices more : List ProposalChoice) :
    Frozen (Intake.reach codec choices).shared.database.ledger
      (Intake.reach codec (choices ++ more)).shared.database.ledger := by
  have view : Intake.reach codec (choices ++ more) =
      Runs.run (Intake.step codec) (Intake.reach codec choices) more :=
    Runs.run_append _ _ _ _
  rw [view]
  exact Runs.relation_run
    (fun first second : Intake =>
      Frozen first.shared.database.ledger second.shared.database.ledger)
    (fun _ choice orderly => (orderly.step choice).1) (fun _ => .refl _) Frozen.trans
    (fun _ choice orderly => (orderly.step choice).2) (reach_orderly choices) more

/-- A call that returned with success answers with the intent stored for its key, which has its
proposal digest. -/
theorem Orderly.success (orderly : Orderly codec intake) {record : IntentRecord}
    {result : IntentRecord × Bool} (returned : intake.Returned pid record (.ok result)) :
    SameKey result.1.intent record.intent ∧ result.1.proposalDigest = record.proposalDigest ∧
      Kept intake.shared.database result.1 := by
  obtain ⟨alive, present⟩ := returned
  obtain ⟨phase, inPhase⟩ := orderly.inPhase pid _ present
  have returns : phase.Returns record (.ok result) := inPhase.safe
  cases phase with
  | found existing =>
    have answered : answerExisting existing record = .ok result := returns.symm
    simp only [answerExisting, refuse_bind_eq_ok, pure_eq_ok, not_not] at answered
    obtain ⟨sameProposal, rfl⟩ := answered
    obtain ⟨sameKey, kept⟩ := inPhase.answers existing rfl
    exact ⟨sameKey, sameProposal, kept⟩
  | committed =>
    obtain rfl := Except.ok.inj returns
    obtain ⟨sameKey, kept⟩ := inPhase.answers record rfl
    exact ⟨sameKey, rfl, kept⟩
  | outside | doubtful =>
    obtain ⟨failure, impossible⟩ := returns
    cases impossible
  | opened | refused | inserted => exact returns.elim

/-- A call that found an intent with another proposal has returned the conflict and has changed
nothing. -/
theorem Orderly.conflict (orderly : Orderly codec intake) {event : ProposalEvent}
    (member : event ∈ intake.history) (found : event.found = some existing)
    (present : intake.calls[event.pid]? = some caller)
    (differs : existing.proposalDigest ≠ caller.record.proposalDigest) :
    caller.rest = .done (.error conflict) ∧
      ∀ other ∈ intake.history, other.pid = event.pid → other.after = other.before := by
  obtain ⟨phase, inPhase⟩ := orderly.inPhase event.pid caller present
  have isFound := inPhase.finds event member rfl existing found
  subst isFound
  refine ⟨?_, inPhase.quiet nofun nofun⟩
  have safe := inPhase.safe
  cases isRest : caller.rest with
  | call action next =>
    rw [isRest] at safe
    exact safe.1.elim
  | done outcome =>
    rw [isRest] at safe
    have returns : outcome = answerExisting existing caller.record := safe
    rw [returns, answerExisting, refuse, if_pos differs]
    rfl

end PutIntent

/-- The row has the client key of the intent. -/
def IntentRow.HasKey (row : IntentRow) (intent : ChangeIntent) : Prop :=
  row.principalID = intent.principalID ∧ row.enrollmentID = intent.enrollmentID ∧
    row.clientRequestID = intent.clientRequestID

/-- However the calls of `PutIntent` interleave, every client key has at most one row, and every
row stays with its sealed contents and its proposal; a call that succeeds has the proposal digest
of the row of its key and returns the intent of that row, so all that succeed for one key return
the same identifier and digest; and a call that finds a row with another proposal digest returns
the conflict and changes nothing. -/
theorem proposals_idempotent (codec : Codec) (choices more : List ProposalChoice) :
    let intake := Intake.reach codec choices
    let later := Intake.reach codec (choices ++ more)
    (∀ principalID enrollmentID key, (intake.shared.database.intents.rows.filter fun row =>
      row.principalID = principalID ∧ row.enrollmentID = enrollmentID ∧
        row.clientRequestID = key).length ≤ 1) ∧
    (∀ row ∈ intake.shared.database.intents.rows, ∃ kept ∈ later.shared.database.intents.rows,
      kept.intentID = row.intentID ∧ kept.payload.intent = row.payload.intent ∧
        kept.proposalDigest = row.proposalDigest) ∧
    (∀ pid record result, intake.Returned pid record (.ok result) →
      ∃ row ∈ intake.shared.database.intents.rows, row.HasKey record.intent ∧
        row.proposalDigest = record.proposalDigest ∧ row.payload.intent = result.1.intent) ∧
    (∀ first second firstRecord secondRecord firstResult secondResult,
      intake.Returned first firstRecord (.ok firstResult) →
      intake.Returned second secondRecord (.ok secondResult) →
      SameKey firstRecord.intent secondRecord.intent →
      firstResult.1.intent.intentID = secondResult.1.intent.intentID ∧
        firstResult.1.intent.intentDigest = secondResult.1.intent.intentDigest) ∧
    ∀ event ∈ intake.history, ∀ existing caller, event.found = some existing →
      intake.calls[event.pid]? = some caller →
      existing.proposalDigest ≠ caller.record.proposalDigest →
      caller.rest = .done (.error PutIntent.conflict) ∧
        ∀ other ∈ intake.history, other.pid = event.pid → other.after = other.before := by
  intro intake later
  have orderly : PutIntent.Orderly codec intake := PutIntent.reach_orderly choices
  have laterOrderly : PutIntent.Orderly codec later := PutIntent.reach_orderly _
  have coherent := orderly.coherent
  have success : ∀ pid record result, intake.Returned pid record (.ok result) →
      ∃ row ∈ intake.shared.database.intents.rows, row.HasKey record.intent ∧
        row.proposalDigest = record.proposalDigest ∧ row.payload.intent = result.1.intent := by
    intro pid record result returned
    obtain ⟨sameKey, sameProposal, stored, found, sameIntent, storedProposal⟩ :=
      orderly.success returned
    refine ⟨_, (coherent.intent_eq_some.mp found).1, ?_, storedProposal.trans sameProposal,
      sameIntent⟩
    show stored.intent.principalID = _ ∧ stored.intent.enrollmentID = _ ∧
      stored.intent.clientRequestID = _
    rw [sameIntent]
    exact sameKey
  refine ⟨fun principalID enrollmentID key => ?_, fun row member => ?_, success, ?_,
    fun event member existing caller found present => orderly.conflict member found present⟩
  · refine intake.shared.database.intents.length_filter_le_one _ ?_
    intro first _ second _ firstKey secondKey
    exact IntentRow.clash_of_key (of_decide_eq_true firstKey) (of_decide_eq_true secondKey)
  · obtain ⟨record, rfl, found⟩ := coherent.intent_row member
    obtain ⟨kept, keptFound, sameIntent, sameProposal⟩ :=
      PutIntent.reach_frozen choices more _ record found
    obtain ⟨keptIn, sameID⟩ := laterOrderly.coherent.intent_eq_some.mp keptFound
    exact ⟨_, keptIn, sameID, sameIntent, sameProposal⟩
  · intro first second firstRecord secondRecord firstResult secondResult firstReturned
      secondReturned sameKey
    obtain ⟨firstRow, firstIn, firstKey, -, firstIntent⟩ := success _ _ _ firstReturned
    obtain ⟨secondRow, secondIn, secondKey, -, secondIntent⟩ := success _ _ _ secondReturned
    have clash : Constrained.Clash firstRow secondRow := by
      refine IntentRow.clash_of_key firstKey ?_
      rw [sameKey.1, sameKey.2.1, sameKey.2.2]
      exact secondKey
    have same := intake.shared.database.intents.eq_of_clash firstIn secondIn clash
    rw [← firstIntent, ← secondIntent, same]
    exact ⟨rfl, rfl⟩

end GuardedAgentRunner
