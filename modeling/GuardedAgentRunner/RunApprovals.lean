/-
This file models the approvals of the legacy Python runner: the request that binds
a human decision to one call of one run by a hash, the checks that are made of it
before the call is executed, and the table it is stored in. The latest approval of
a run is the one created last.
-/

import GuardedAgentRunner.Library.Table
import GuardedAgentRunner.Repository
import Mathlib.Data.List.MinMax

namespace GuardedAgentRunner

namespace Legacy

open Fallible

/-! ### Approval requests -/

inductive ApprovalStatus where
  | pending
  | approved
  | rejected
  | expired
deriving DecidableEq, Repr

/-- The value of the enumeration. -/
def ApprovalStatus.text : ApprovalStatus → String
  | .pending => "PENDING"
  | .approved => "APPROVED"
  | .rejected => "REJECTED"
  | .expired => "EXPIRED"

structure ApprovalRequest where
  id : String
  runId : String
  action : String
  args : Dict
  resource : String
  scopeHash : String
  precondition : Option Dict
  status : ApprovalStatus
  createdAt : Time
  expiresAt : Time
  bindingHash : String
  decidedBy : Option String

/-- `isoformat` of an instant in UTC. -/
def isoformat (time : Time) : String :=
  let days := Int.fdiv time Time.day
  let inDay := time - days * Time.day
  let seconds := inDay / Duration.second
  let microseconds := inDay % Duration.second / 1000
  let (year, month, dayOfMonth) := Time.civil days
  Time.padded 4 year ++ "-" ++ Time.padded 2 month ++ "-" ++ Time.padded 2 dayOfMonth ++ "T" ++
    Time.padded 2 (seconds / 3600) ++ ":" ++ Time.padded 2 (seconds / 60 % 60) ++ ":" ++
    Time.padded 2 (seconds % 60) ++
    (if microseconds = 0 then "" else "." ++ Time.padded 6 microseconds) ++ "+00:00"

example : isoformat (63924467696 * Duration.second + 120000000) =
    "2026-09-08T12:34:56.120000+00:00" := by decide

namespace ApprovalRequest

variable (runtime : Runtime) (approval : ApprovalRequest)

/-- `binding_payload`. -/
def bindingPayload : Value :=
  .object
    [("run_id", .string approval.runId),
      ("action", .string approval.action),
      ("args", .object approval.args),
      ("resource", .string approval.resource),
      ("scope_hash", .string approval.scopeHash),
      ("precondition", match approval.precondition with
        | some precondition => .object precondition
        | none => .null),
      ("expires_at", .string (isoformat approval.expiresAt))]

/-- `computed_binding_hash`. -/
def computedBindingHash : String := runtime.sha256 (canonicalJson approval.bindingPayload)

end ApprovalRequest

/-! ### Creation and revalidation -/

/-- The result of a call if it is a dictionary. -/
def ToolCall.resultDict (call : ToolCall) : Option Dict :=
  match call.result with
  | .object members => some members
  | _ => none

/-- The precondition of an approval: the last status that the run has read. -/
def Run.precondition (run : Run) : Option Dict :=
  (run.plan.take run.currentStep).reverse.findSome? fun previous =>
    if previous.action = "service_status" then previous.resultDict else none

/-- `create_approval`, with the clock readings and the new identifier it asks for. -/
def createApproval (runtime : Runtime) (run : Run) (call : ToolCall) (expiresAt createdAt : Time)
    (id : String) : Except Error ApprovalRequest := do
  let resource ← demand call.resource (.valueError "Approval resource is missing")
  let draft : ApprovalRequest :=
    { id := id
      runId := run.id
      action := call.action
      args := call.args
      resource := resource
      scopeHash := run.scope.hash
      precondition := run.precondition
      status := .pending
      createdAt := createdAt
      expiresAt := expiresAt
      bindingHash := ""
      decidedBy := none }
  pure { draft with bindingHash := draft.computedBindingHash runtime }

section Revalidation

variable (runtime : Runtime) (policy : PolicyEngine) (run : Run) (call : ToolCall)

/-- The checks of `revalidate_approval` on an approval that is there. -/
def revalidatePresent (approval : ApprovalRequest) (now : Time) : Option String :=
  if approval.status ≠ .approved then some "APPROVAL_NOT_GRANTED"
  else if approval.expiresAt ≤ now then some "APPROVAL_EXPIRED"
  else if approval.runId ≠ run.id then some "APPROVAL_RUN_MISMATCH"
  else if approval.action ≠ call.action ∨ same (.object approval.args) (.object call.args) = false
  then some "APPROVAL_ACTION_ARGUMENT_MISMATCH"
  else if some approval.resource ≠ call.resource then some "APPROVAL_RESOURCE_MISMATCH"
  else if approval.scopeHash ≠ run.scope.hash then some "APPROVAL_SCOPE_MISMATCH"
  else if approval.bindingHash ≠ approval.computedBindingHash runtime then
    some "APPROVAL_BINDING_INVALID"
  else if run.userAuthorizationValid = false then some "USER_AUTHORIZATION_REVOKED"
  else if ∀ resource ∈ call.resource, resource ∉ run.scope.allowedServices then
    some "RESOURCE_OUT_OF_SCOPE"
  else
    let decision := (policy.safeEvaluate runtime call (some run.scope)).decision
    if decision ≠ .requireApproval then some ("POLICY_REVALIDATION_FAILED:" ++ decision.text)
    else none

/-- `revalidate_approval`, with the clock reading it asks for: the reason of the failure, if
any. -/
def revalidateApproval (approval : Option ApprovalRequest) (now : Time) : Option String :=
  if run.expiresAt ≤ now then some "RUN_EXPIRED"
  else
    match approval with
    | none => some "MISSING_APPROVAL"
    | some approval => revalidatePresent runtime policy run call approval now

end Revalidation

/-! ### The table of approvals -/

/-- A row of the table of approvals. -/
structure ApprovalRecord where
  id : String
  runId : String
  payload : ApprovalRequest
  createdAt : Time

instance : Constrained ApprovalRecord where
  Columns := String
  unique := [ApprovalRecord.id]

/-- The row with its text and its run replaced. -/
def ApprovalRecord.rewrite (approval : ApprovalRequest) (record : ApprovalRecord) :
    ApprovalRecord :=
  { record with runId := approval.runId, payload := approval }

theorem ApprovalRecord.rewrite_keeps (approval : ApprovalRequest) (record : ApprovalRecord) :
    ∀ columns ∈ Constrained.unique, columns (record.rewrite approval) = columns record := by
  intro columns named
  rw [List.mem_singleton.mp named]
  rfl

/-- The repository with its table of approvals. -/
structure Storage extends Repository where
  approvals : Table ApprovalRecord

namespace Storage

variable (storage : Storage)

/-- `save_run`. -/
def saveRun (runtime : Runtime) (run : Run) : Except Error Storage := do
  let repository ← storage.toRepository.saveRun runtime run
  pure { storage with toRepository := repository }

/-- `get_approval`. -/
def getApproval (id : String) : Option ApprovalRequest :=
  storage.approvals.select ApprovalRecord.id ApprovalRecord.payload id

/-- The approvals of a run. -/
def approvalsOf (runId : String) : List ApprovalRecord :=
  storage.approvals.rows.filter fun record => record.runId = runId

/-- `latest_approval_for_run`. -/
def latestApprovalForRun (runId : String) : Option ApprovalRequest :=
  (@List.argmax _ Time Int.instLinearOrder.toPreorder Int.instLinearOrder.toDecidableLT
    ApprovalRecord.createdAt (storage.approvalsOf runId)).map ApprovalRecord.payload

/-- `save_approval`: the row is added, or updated if there is one with the identifier. -/
def saveApproval (approval : ApprovalRequest) : Storage :=
  match storage.approvals.insert ⟨approval.id, approval.runId, approval, approval.createdAt⟩ with
  | some approvals => { storage with approvals := approvals }
  | none =>
    { storage with
      approvals := storage.approvals.update (fun record => record.id = approval.id)
        (ApprovalRecord.rewrite approval) (ApprovalRecord.rewrite_keeps approval) }

end Storage

end Legacy

end GuardedAgentRunner
