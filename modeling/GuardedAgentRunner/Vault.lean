/-
This file puts the backup engine together with the two stores it alternates
between: the journal and the destination directory. Calls of `Create` and `Inspect`
for one backup are made one after the other. Every action of a call may fail, an
archive may be written in part, the response of a transaction may be lost, a call
may be cut off after any action, and at any time transactions that do not concern
the backup may be made and files that are not open may be changed. The state also
remembers what was found, written, changed and inspected.
-/

import GuardedAgentRunner.Library.Directory
import GuardedAgentRunner.System

namespace GuardedAgentRunner

open Fallible

abbrev Bytes := List UInt8

/-! ### The two stores -/

/-- The journal, the files of the destination, and the partial file that is open. -/
structure Vault where
  database : Database
  files : Directory String UInt8
  handle : Option String

/-- What one action meets: the answers the stores do not determine, what becomes of a transaction,
whether a file action fails, and the bytes that reach an archive. -/
structure Turn where
  world : World
  delivery : Delivery
  failure : Option Failure
  bytes : Bytes

/-- The result of a file action that does not fail. -/
def Turn.attempt {Result : Type} (turn : Turn) (result : Except Failure Result) :
    Except Failure Result :=
  match turn.failure with
  | none => result
  | some failure => .error failure

/-- The name of an archive that is being written. -/
def partialName (name : String) : String := name ++ ".partial"

namespace Vault

variable (codec : Codec) (sha256 : Bytes → String)

/-- A file action and its effect on the destination. -/
def touch (vault : Vault) (turn : Turn) :
    (action : FileAction) → Except Failure action.Result × Vault
  | .lstat name => (turn.attempt (.ok (vault.files name).isSome), vault)
  | .createPartial name =>
    match turn.attempt (demand (vault.files.createExclusive (partialName name))
      (.other "file exists")) with
    | .ok files => (.ok (), { vault with files := files, handle := some (partialName name) })
    | .error failure => (.error failure, vault)
  | .archive =>
    match vault.handle with
    | some name =>
      (turn.attempt (.ok (sha256 turn.bytes)),
        { vault with files := vault.files.append name turn.bytes })
    | none => (.error (.other "file already closed"), vault)
  | .closePartial => (turn.world (.file .closePartial), { vault with handle := none })
  | .renamePartial name =>
    match turn.attempt (demand (vault.files.renameNoReplace (partialName name) name)
      (.other "file exists")) with
    | .ok files => (.ok (), { vault with files := files })
    | .error failure => (.error failure, vault)
  | .verify name =>
    (turn.attempt (do
      let bytes ← demand (vault.files name) (.other "no such file or directory")
      return (sha256 bytes, (bytes.length : Int))), vault)
  | action => (turn.world (.file action), vault)

/-- The answer to any action and the stores it leaves. -/
def act (vault : Vault) (turn : Turn) : (effect : Effect) → effect.Answer × Vault
  | .store _ call =>
    let reaction := deliver codec vault.database call turn.delivery
    (reaction.1, { vault with database := reaction.2 })
  | .file action => vault.touch sha256 turn action
  | effect => (turn.world effect, vault)

end Vault

/-! ### Calls of the engine -/

variable {codec : Codec}

/-- The actions of a revalidation: it reads the clock and observes the target. -/
def Effect.Observing : Effect → Prop
  | .now | .observeSafety _ => True
  | _ => False

/-- The function `Create` revalidates the offline writer with. -/
structure Revalidation where
  check : Flow BackupReadyEvidence
  observing : check.run.Uses Effect.Observing

theorem Foundation.observe_observing (foundation : Foundation) (intent : ChangeIntent)
    (offline : Bool) :
    (foundation.observe codec intent offline).run.Uses Effect.Observing := by
  refine Program.uses_bind ⟨trivial, fun _ => trivial⟩ fun outcome => ?_
  cases outcome with
  | error failure => exact trivial
  | ok observation =>
    exact Program.uses_bind ⟨trivial, fun _ => trivial⟩ fun _ =>
      Program.uses_bind trivial fun _ => trivial

theorem Foundation.offline_observing (foundation : Foundation) (intent : ChangeIntent)
    (operation : Operation) :
    (foundation.offline codec intent operation).run.Uses Effect.Observing := by
  refine Program.uses_bind trivial fun _ => Program.uses_bind trivial fun _ => ?_
  refine Program.uses_bind trivial fun _ => ?_
  refine Program.uses_bind (foundation.observe_observing intent true) fun _ => ?_
  exact Program.uses_bind ⟨trivial, fun _ => trivial⟩ fun _ =>
    Program.uses_bind trivial fun _ => trivial

/-- The function S05 gives to `Create`. -/
def Foundation.revalidation (codec : Codec) (foundation : Foundation) (intent : ChangeIntent)
    (operation : Operation) : Revalidation :=
  ⟨foundation.offline codec intent operation, foundation.offline_observing intent operation⟩

inductive Task where
  | create
  | inspect
  deriving DecidableEq, Repr

structure Archives where
  vault : Vault
  /-- The call that is going on, with the rest of its program. -/
  running : Option (Task × Program Effect Effect.Answer (Except Failure Unit))
  /-- The files as they are without the calls. -/
  found : Directory String UInt8
  /-- The files when the latest call was started, with what others have put into them since. -/
  started : Directory String UInt8
  /-- The number of calls that were started. -/
  calls : Nat
  /-- The bytes that were written to archives, with the number of the call. -/
  writes : List (Nat × Bytes)
  /-- The bytes that others put into files. -/
  changes : List Bytes
  /-- The stores in which an inspection succeeded. -/
  inspections : List Vault

/-- What happens next. -/
inductive ArchiveChoice where
  | create (engine : Engine) (record : BackupRecord) (revalidation : Revalidation)
  | inspect (engine : Engine)
  | proceed (turn : Turn)
  | cutOff
  | other (delivery : Delivery) (call : StoreCall)
  | change (name : String) (contents : Bytes)

/-- The transaction changes the record of the backup. -/
def StoreCall.Concerns (backupID : String) : StoreCall → Bool
  | .reserveBackup record _ => record.backupID = backupID
  | .transitionBackupStatus id _ _ => id = backupID
  | .completeBackup id .. => id = backupID
  | _ => false

namespace Archives

/-- An empty journal and a destination with some files. -/
def initial (files : Directory String UInt8) : Archives :=
  ⟨⟨.empty, files, none⟩, none, files, files, 0, [], [], []⟩

/-- Start a call, unless another one is going on. -/
def start (archives : Archives) (task : Task)
    (program : Program Effect Effect.Answer (Except Failure Unit)) : Archives :=
  match archives.running with
  | some _ => archives
  | none =>
    { archives with
      running := some (task, program)
      started := archives.vault.files
      calls := archives.calls + 1 }

/-- What an action writes to an archive. -/
def written (archives : Archives) (turn : Turn) (effect : Effect) : List (Nat × Bytes) :=
  match effect, archives.vault.handle with
  | .file .archive, some _ => [(archives.calls, turn.bytes)]
  | _, _ => []

/-- The call that is going on is over, and the file it had open is closed. -/
def stop (archives : Archives) : Archives :=
  { archives with running := none, vault := { archives.vault with handle := none } }

/-- The answer to an action of the call that is going on, and the state it leaves. -/
def act (codec : Codec) (sha256 : Bytes → String) (archives : Archives) (turn : Turn)
    (effect : Effect) : effect.Answer × Archives :=
  let reaction := archives.vault.act codec sha256 turn effect
  (reaction.1,
    { archives with
      vault := reaction.2
      writes := archives.written turn effect ++ archives.writes })

/-- The call that is going on makes its next action, or returns. -/
def proceed (codec : Codec) (sha256 : Bytes → String) (archives : Archives) (turn : Turn) :
    Archives :=
  match archives.running with
  | none => archives
  | some (.inspect, .done (.ok _)) =>
    { archives.stop with inspections := archives.vault :: archives.inspections }
  | some (_, .done _) => archives.stop
  | some (task, .call effect next) =>
    let reaction := archives.act codec sha256 turn effect
    { reaction.2 with running := some (task, next reaction.1) }

/-- A transaction that does not concern the backup. -/
def other (codec : Codec) (backupID : String) (archives : Archives) (delivery : Delivery)
    (call : StoreCall) : Archives :=
  if call.Concerns backupID then archives
  else
    { archives with
      vault := { archives.vault with
        database := (deliver codec archives.vault.database call delivery).2 } }

/-- Another program replaces what is in a file. -/
def replace (archives : Archives) (name : String) (contents : Bytes) : Archives :=
  { archives with
    vault := { archives.vault with files := archives.vault.files.replace name contents }
    found := archives.found.replace name contents
    started := archives.started.replace name contents
    changes := contents :: archives.changes }

/-- A file that is not open is changed, before a call makes its last action or after it returns. -/
def change (archives : Archives) (name : String) (contents : Bytes) : Archives :=
  match archives.running with
  | some (_, .done _) => archives
  | _ => if archives.vault.handle = some name then archives else archives.replace name contents

/-- The next state. -/
def step (codec : Codec) (sha256 : Bytes → String) (backupID : String) (archives : Archives) :
    ArchiveChoice → Archives
  | .create engine record revalidation =>
    archives.start .create
      (engine.create { record with backupID := backupID } revalidation.check).run
  | .inspect engine => archives.start .inspect (engine.inspect backupID).run
  | .proceed turn => archives.proceed codec sha256 turn
  | .cutOff => archives.stop
  | .other delivery call => archives.other codec backupID delivery call
  | .change name contents => archives.change name contents

/-- The state that a sequence of choices leads to. -/
def reach (codec : Codec) (sha256 : Bytes → String) (backupID : String)
    (files : Directory String UInt8) (choices : List ArchiveChoice) : Archives :=
  Runs.run (step codec sha256 backupID) (initial files) choices

end Archives

end GuardedAgentRunner
