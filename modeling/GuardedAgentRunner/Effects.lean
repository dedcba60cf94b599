/-
This file lists what a running foundation asks of the world outside its own
memory: clock readings, calls of the store, calls of the enrolled target, actions
on the filesystem, and the hooks of the fault-injection tests. The answers are
whatever the world gives; only the store's answers follow from a database.
-/

import GuardedAgentRunner.Journal
import GuardedAgentRunner.Library.Program

namespace GuardedAgentRunner

/-- The context of a store call: one that ends with the caller or the execution budget, or one
made by `context.WithoutCancel`. -/
inductive Context where
  | bounded
  | detached
  deriving DecidableEq, Repr

/-- What the backup engine does on the filesystem. -/
inductive FileAction where
  | openSource
  | sourceIdentity
  | openDestination
  | destinationIdentity
  | verifySourceArtifact
  | lstat (name : String)
  | createPartial (name : String)
  | archive
  | syncPartial
  | closePartial
  | openDirectory
  | renamePartial (name : String)
  | syncDirectory
  | verify (name : String)
  deriving DecidableEq, Repr

/-- What a file action returns besides an error. The identity of the source is its device and
inode, that of the destination whether it is still the directory the engine was opened on; a
name either exists or not; an archive is known by the digest of the bytes written; and a
verified file by its digest and its size. -/
abbrev FileAction.Result : FileAction → Type
  | .sourceIdentity => String
  | .destinationIdentity => Bool
  | .verifySourceArtifact => String × Int
  | .lstat _ => Bool
  | .archive => String
  | .verify _ => String × Int
  | _ => Unit

/-- A call of a running foundation to the world. `createBackup` stands for the call of
`Backup.Create` itself, whose body follows it. `polls` is the number of ticks a waiting loop
sees before its context ends, and the error of the context then. -/
inductive Effect where
  | now
  | store (context : Context) (call : StoreCall)
  | observeSafety (offline : Bool)
  | closeAdmission (operationID stepID : String)
  | dispatchGracefulStop (request : StopRequest)
  | observeStop (request : StopRequest)
  | createBackup (record : BackupRecord)
  | polls
  | checkpoint (name : String)
  | file (action : FileAction)
  deriving DecidableEq

/-- What the world answers. `ObserveStop` returns evidence also next to an error. -/
abbrev Effect.Answer : Effect → Type
  | .now => Time
  | .store _ call => Except Failure call.Result
  | .observeSafety _ => Except Failure SafetyObservation
  | .closeAdmission _ _ => Except Failure MaintenanceReceipt
  | .dispatchGracefulStop _ => Except Failure Unit
  | .observeStop _ => StopEvidence × Option Failure
  | .createBackup _ => Unit
  | .polls => Nat × Failure
  | .checkpoint _ => Except Failure Unit
  | .file action => Except Failure action.Result

/-- A running part of the foundation, which may stop with an error. -/
abbrev Flow := ExceptT Failure (Program Effect Effect.Answer)

/-- A clock reading. -/
def now : Flow Time := ExceptT.lift (Program.ask Effect.now)

/-- A call of the store. -/
def store (context : Context) (call : StoreCall) : Flow call.Result :=
  ExceptT.mk (Program.ask (Effect.store context call))

/-- An action on the filesystem. -/
def file (action : FileAction) : Flow action.Result :=
  ExceptT.mk (Program.ask (Effect.file action))

/-- `checkpoint`: the hook of the tests, where one is set. -/
def checkpoint (boundary : Bool) (name : String) : Flow Unit :=
  if boundary then ExceptT.mk (Program.ask (Effect.checkpoint name)) else pure ()

/-- An answered call. -/
structure Occurrence where
  effect : Effect
  answer : effect.Answer

end GuardedAgentRunner
