/-
This file models the service of the legacy Python runner. Its requests are programs
over the calls they make: the clock, new identifiers, the lock of a run, the
repository, the planner and the infrastructure. A request steps a run once or until
it is blocked, or decides an approval; a step of an approved run revalidates the
approval, executes the approved call and goes on with the rest of the plan.
-/

import Mathlib.Data.List.Infix
import GuardedAgentRunner.Library.Program
import GuardedAgentRunner.RunApprovals

namespace GuardedAgentRunner

namespace Legacy

open Fallible
open Program (ask reify)

/-! ### Calls -/

inductive PlanPreset where
  | statusOnly
  | logsOnly
  | statusAndLogs
  | diagnoseAndRestart
deriving DecidableEq, Repr

inductive ServiceName where
  | serviceA
  | nginx
  | postgresql
  | mysql
  | redis
deriving DecidableEq, Repr

/-- The value of the enumeration. -/
def ServiceName.text : ServiceName → String
  | .serviceA => "service-a"
  | .nginx => "nginx"
  | .postgresql => "postgresql"
  | .mysql => "mysql"
  | .redis => "redis"

/-- The calls of a request. The infrastructure is called by the service itself, to observe, and by
the guarded executor, to execute a call of a run. -/
inductive Effect where
  | utcnow
  | newId (kind : String)
  | acquire (runId : String)
  | release (runId : String)
  | getRun (runId : String)
  | saveRun (run : Run)
  | getApproval (approvalId : String)
  | latestApprovalForRun (runId : String)
  | saveApproval (approval : ApprovalRequest)
  | plan (request : String) (workflow : PlanPreset) (service : ServiceName)
  | observe (action : String) (args : Dict)
  | execute (runId : String) (call : ToolCall)
  | cleanup (nonce : String)

def Effect.Answer : Effect → Type
  | .utcnow => Time
  | .newId _ => String
  | .acquire _ | .release _ | .saveApproval _ => Unit
  | .getRun _ => Option Run
  | .saveRun _ | .cleanup _ => Except Error Unit
  | .getApproval _ | .latestApprovalForRun _ => Option ApprovalRequest
  | .plan _ _ _ => Except Error (List ToolCall)
  | .observe _ _ | .execute _ _ => Except Error Value

/-- A request: a program that may raise. -/
abbrev Flow (Result : Type) := ExceptT Error (Program Effect Effect.Answer) Result

/-- A call that does not raise. -/
def make (effect : Effect) : Flow effect.Answer := ExceptT.lift (ask effect)

def utcnow : Flow Time := make .utcnow

def newId (kind : String) : Flow String := make (.newId kind)

def saveRun (run : Run) : Flow Unit := ExceptT.mk (ask (Effect.saveRun run))

def saveApproval (approval : ApprovalRequest) : Flow Unit := make (.saveApproval approval)

/-- `async with self._locks[run_id]`. -/
def locked {Result : Type} (runId : String) (body : Flow Result) : Flow Result := do
  let _ : Unit ← make (.acquire runId)
  let outcome ← reify body
  let _ : Unit ← make (.release runId)
  liftM outcome

/-- `get_run`. -/
def getRun (runId : String) : Flow Run := do
  let run : Option Run ← make (.getRun runId)
  liftM (demand run (Error.notFound ("Run not found: " ++ runId)))

/-- `get_approval`. -/
def getApproval (approvalId : String) : Flow ApprovalRequest := do
  let approval : Option ApprovalRequest ← make (.getApproval approvalId)
  liftM (demand approval (Error.notFound ("Approval not found: " ++ approvalId)))

/-- `transition_run` followed by `save_run`. -/
def saveAs (target : RunStatus) (run : Run) : Flow Run := do
  let run ← liftM (transitionRun run target)
  saveRun run
  pure run

/-! ### Errors -/

namespace Error

/-- `type(exc).__name__`. -/
def name : Error → String
  | .valueError _ => "ValueError"
  | .scopeExpansion _ => "ScopeExpansionError"
  | .runtimeError _ => "RuntimeError"
  | .attributeError => "AttributeError"
  | .invalidRunTransition _ => "InvalidRunTransition"
  | .notFound _ => "NotFoundError"
  | .conflict _ => "ConflictError"
  | .executionDenied _ => "ExecutionDenied"
  | .executionTimedOut _ => "ExecutionTimedOut"
  | .other name _ => name

/-- `str(exc)`. -/
def text : Error → String
  | .valueError text | .scopeExpansion text | .runtimeError text | .invalidRunTransition text
  | .notFound text | .conflict text | .executionDenied text | .executionTimedOut text
  | .other _ text => text
  | .attributeError => "object has no attribute 'get'"

end Error

/-! ### The guarded executor -/

structure ExecutionToken where
  runId : String
  action : String
  resource : String
  expiresAt : Time
  nonce : String

/-- `EXECUTOR_ACTIONS`. -/
def executorActions : List String := ["service_status", "read_log", "restart_service"]

/-- The infrastructure raised or timed out, as the executor reports it. -/
def executionFailure (error : Error) : Error :=
  if error.name = "TimeoutError" then .executionTimedOut "Guarded execution timed out" else error

/-- `GuardedExecutor.execute`. -/
def guardedExecute (runId : String) (call : ToolCall) (token : ExecutionToken) : Flow Value := do
  liftM (refuse (call.action ∉ executorActions)
    (Error.executionDenied "Action is not exposed by guarded executor"))
  liftM (refuse (call.resource = none) (Error.executionDenied "Execution resource is missing"))
  liftM (refuse (token.runId ≠ runId ∨ token.action ≠ call.action ∨
      some token.resource ≠ call.resource)
    (Error.executionDenied "Execution token does not match the requested action"))
  let now ← utcnow
  liftM (refuse (token.expiresAt ≤ now)
    (Error.executionDenied "Execution token does not match the requested action"))
  let outcome : Except Error Value ← make (.execute runId call)
  let cleaned : Except Error Unit ← make (.cleanup token.nonce)
  liftM cleaned
  match outcome with
  | .ok result => pure result
  | .error error => throw (executionFailure error)

/-! ### The steps of a run -/

structure RunnerService where
  runtime : Runtime
  policy : PolicyEngine
  runTtl : Duration
  approvalTtl : Duration
  executionTimeout : Duration

/-- Change the pending call. -/
def Run.changePending (change : ToolCall → ToolCall) (run : Run) : Run :=
  { run with plan := run.plan.modify run.currentStep change }

/-- The states in which a run cannot be stepped. -/
def terminalStatuses : List RunStatus :=
  [.rejected, .completed, .failed, .stale, .expired, .cancelled]

/-- The states in which a loop over steps returns. -/
def blockedStatuses : List RunStatus := .waitingApproval :: terminalStatuses

/-- `_fail_expired`. -/
def failExpired (run : Run) : Flow Run := saveAs .expired { run with lastError := some "RUN_EXPIRED" }

/-- `_fail_resume`. -/
def failResume (run : Run) (reason : String) : Flow Run :=
  saveAs (if reason = "RUN_EXPIRED" then .expired else .failed)
    { run.changePending fun call => { call with status := .failed, failureReason := some reason }
      with lastError := some reason }

/-- `_fail_stale`. -/
def failStale (run : Run) : Flow Run :=
  saveAs .stale
    { run.changePending fun call =>
        { call with status := .stale, failureReason := some "STALE_PRECONDITION" }
      with lastError := some "STALE_PRECONDITION" }

/-- The run with the next call of its plan pending. -/
def Run.next (run : Run) : Run := { run with currentStep := run.currentStep + 1 }

/-- Go on with the next call of the plan; a run without one is completed. -/
def saveNext (run : Run) : Flow Run :=
  if run.next.pendingAction.isNone then saveAs .completed run.next
  else do
    saveRun run.next
    pure run.next

/-- Take steps until the run is blocked. -/
def untilBlocked (next : Run → Flow Run) (complaint : String) : Nat → Run → Flow Run
  | 0, _ => throw (.conflict complaint)
  | steps + 1, run =>
    if run.status ∈ blockedStatuses then pure run
    else do
      let run ← next run
      untilBlocked next complaint steps run

namespace RunnerService

variable (service : RunnerService)

/-- What the diagnostics before a call have shown: the status and the lines of evidence. -/
def evidence (run : Run) : Option String × List String :=
  (run.plan.take run.currentStep).foldl (fun (status, lines) prior =>
    match prior.resultDict with
    | none => (status, lines)
    | some result =>
      (if prior.purpose = some "diagnose_current_state" then
          match result.lookup "status" with
          | some (.string text) => some (service.runtime.lower text)
          | _ => status
        else status,
        if prior.purpose = some "inspect_recent_evidence" then
          match result.lookup "lines" with
          | some (.array more) => lines ++ more.map service.runtime.str
          | _ => lines
        else lines)) (none, [])

def failureTerms : List String := ["failed", "error", "degraded", "restarting", "unavailable"]

/-- `_conditional_remediation_skip`. -/
def conditionalRemediationSkip (run : Run) (call : ToolCall) : Option Value :=
  if call.action ≠ "restart_service" ∨ call.purpose ≠ some "remediate_if_needed" then none
  else
    let (observedStatus, evidenceLines) := service.evidence run
    if observedStatus ≠ some "running" ∨ ∃ line ∈ evidenceLines, ∃ term ∈ failureTerms,
        term.toList <:+: (service.runtime.lower line).toList then none
    else some (.object
      [("executed", .bool false),
        ("decision", .string "NO_RESTART_NEEDED"),
        ("observed_status", .string "running"),
        ("reason", .string "Service is healthy; remediation was skipped.")])

/-- `_execute`. -/
def execute (run : Run) : Flow Run := do
  match run.pendingAction.bind fun call => call.resource.map fun resource => (call, resource) with
  | none => failResume run "MALFORMED_TOOL_CALL"
  | some (call, resource) =>
    let run := run.changePending fun call => { call with status := .running }
    saveRun run
    let now ← utcnow
    let nonce ← newId ""
    let token : ExecutionToken :=
      ⟨run.id, call.action, resource, now + (service.executionTimeout + Duration.second), nonce⟩
    match ← reify (guardedExecute run.id { call with status := .running } token) with
    | .error error =>
      saveAs .failed
        { run.changePending fun call =>
            { call with status := .failed, failureReason := some error.name }
          with lastError := some error.text }
    | .ok result =>
      saveNext (run.changePending fun call => { call with status := .succeeded, result := result })

/-- The part of `_advance` that asks for an approval. -/
def requestApproval (run : Run) (call : ToolCall) : Flow Run := do
  let now ← utcnow
  let id ← newId "approval"
  let createdAt ← utcnow
  let approval ← liftM
    (createApproval service.runtime run call (now + service.approvalTtl) createdAt id)
  let capped := { approval with expiresAt := run.expiresAt }
  saveApproval (if run.expiresAt < approval.expiresAt then
    { capped with bindingHash := capped.computedBindingHash service.runtime } else approval)
  saveAs .waitingApproval
    (run.changePending fun call => { call with status := .waitingApproval })

/-- `_advance`. -/
def advance (run : Run) : Flow Run := do
  match run.pendingAction with
  | none => saveAs .completed run
  | some call =>
    match service.conditionalRemediationSkip run call with
    | some result =>
      saveNext (run.changePending fun call => { call with status := .skipped, result := result })
    | none =>
      let result := service.policy.safeEvaluate service.runtime call (some run.scope)
      if result.decision = .requireApproval then service.requestApproval run call
      else if result.decision = .allowAuto then service.execute run
      else
        saveAs .failed
          { run.changePending fun call =>
              { call with status := .denied, failureReason := some result.decision.text }
            with lastError := some result.reason }

/-- `tracked_fields`. -/
def trackedFields : List String := ["status", "pid", "generation"]

/-- The part of the precondition of an approval that is compared: `expected_state`. -/
def expectedState (precondition : Dict) : Dict :=
  trackedFields.filterMap fun field => (precondition.lookup field).map fun value => (field, value)

/-- `observed_state`. -/
def observedState (observed : Value) (expected : Dict) : Except Error Dict :=
  match expected, observed with
  | [], _ => pure []
  | _, .object members =>
    pure (expected.map fun (field, _) => (field, (members.lookup field).getD .null))
  | _, _ => throw .attributeError

/-- The part of `_resume_after_approval` after the approved run has been found unchanged. -/
def redeem (run : Run) : Flow Run := do
  let run ← saveAs .running (run.changePending fun call => { call with status := .approved })
  let run ← service.execute run
  untilBlocked service.advance
    "Approved run did not reach a terminal state or approval gate" (run.plan.length + 1) run

/-- `_resume_after_approval`. -/
def resumeAfterApproval (run : Run) : Flow Run := do
  let approval : Option ApprovalRequest ← make (.latestApprovalForRun run.id)
  match run.pendingAction with
  | none => failResume run "MISSING_PENDING_ACTION"
  | some call =>
    let now ← utcnow
    match revalidateApproval service.runtime service.policy run call approval now with
    | some reason => failResume run reason
    | none =>
      match approval.bind (·.precondition) with
      | none => failResume run "MISSING_PRECONDITION"
      | some precondition =>
        let outcome : Except Error Value ← make (.observe "service_status"
          [("service", match call.resource with
            | some resource => .string resource
            | none => .null)])
        match outcome with
        | .error error => failResume run ("PRECONDITION_REVALIDATION_FAILED:" ++ error.name)
        | .ok observed =>
          let expected := expectedState precondition
          let actual ← liftM (observedState observed expected)
          if same (.object actual) (.object expected) = false then failStale run
          else service.redeem run

/-- The part of `step` after a planned run has been started. -/
def proceed (run : Run) : Flow Run := do
  if run.status = .approved then service.resumeAfterApproval run
  else
    let now ← utcnow
    if run.expiresAt ≤ now then failExpired run else service.advance run

/-- `step`, with the lock held. -/
def stepLocked (runId : String) : Flow Run := do
  let run ← getRun runId
  liftM (refuse (run.status ∈ terminalStatuses)
    (Error.conflict ("Run is terminal: " ++ run.status.text)))
  liftM (refuse (run.status = .waitingApproval)
    (Error.conflict "Run is waiting for a human approval decision"))
  if run.status = .planned then
    let now ← utcnow
    if run.expiresAt ≤ now then failExpired run
    else
      let run ← saveAs .running run
      service.proceed run
  else service.proceed run

/-- `step`. -/
def step (runId : String) : Flow Run := locked runId (service.stepLocked runId)

/-- `run_until_blocked`. -/
def runUntilBlocked (runId : String) : Flow Run := do
  let run ← getRun runId
  untilBlocked (fun _ => service.step runId)
    "Run did not reach an approval gate or terminal state" (run.plan.length + 1) run

end RunnerService

/-! ### Decisions -/

/-- The checks that `approve` and `reject` make of an approval and its run. -/
def checkDecidable (approval : ApprovalRequest) (run : Run) : Except Error Unit := do
  refuse (approval.status ≠ .pending) (.conflict ("Approval is already " ++ approval.status.text))
  refuse (run.status ≠ .waitingApproval)
    (.conflict ("Run is not waiting for approval: " ++ run.status.text))

/-- `approve`, with the lock held. -/
def approveLocked (approvalId actor : String) : Flow Run := do
  let approval ← getApproval approvalId
  let run ← getRun approval.runId
  liftM (checkDecidable approval run)
  let now ← utcnow
  if approval.expiresAt ≤ now then
    saveApproval { approval with status := .expired, decidedBy := some actor }
    saveAs .failed { run with lastError := some "APPROVAL_EXPIRED" }
  else
    saveApproval { approval with status := .approved, decidedBy := some actor }
    saveAs .approved (run.changePending fun call => { call with status := .approved })

/-- `approve`. -/
def approve (approvalId actor : String) : Flow Run := do
  let approval ← getApproval approvalId
  locked approval.runId (approveLocked approvalId actor)

/-- `reject`, with the lock held. -/
def rejectLocked (approvalId actor : String) : Flow Run := do
  let approval ← getApproval approvalId
  let run ← getRun approval.runId
  liftM (checkDecidable approval run)
  saveApproval { approval with status := .rejected, decidedBy := some actor }
  saveAs .rejected (run.changePending fun call =>
    { call with status := .denied, failureReason := some "APPROVAL_REJECTED" })

/-- `reject`. -/
def reject (approvalId actor : String) : Flow Run := do
  let approval ← getApproval approvalId
  locked approval.runId (rejectLocked approvalId actor)

/-! ### Creation -/

/-- `compile_scope`. -/
def compileScope (runtime : Runtime) (service : ServiceName) : CapabilityScope :=
  let draft : CapabilityScope :=
    { allowedServices := [service.text]
      allowedActions := ["read_log", "restart_service", "service_status"]
      approvalPolicy :=
        [⟨"read_log", .auto⟩,
          ⟨"restart_service", if service = .nginx then .auto else .required⟩,
          ⟨"service_status", .auto⟩]
      version := 1
      hash := "" }
  { draft with hash := draft.computedHash runtime }

namespace RunnerService

variable (service : RunnerService)

/-- The record with which `create_run` starts. -/
def newRun (userId request : String) (target : ServiceName) (createdAt : Time) (id : String) :
    Run where
  id := id
  userId := userId
  request := request
  status := .created
  scope := compileScope service.runtime target
  plan := []
  currentStep := 0
  createdAt := createdAt
  expiresAt := createdAt + service.runTtl
  userAuthorizationValid := true
  lastError := none
  version := 1

/-- `create_run`. -/
def createRun (userId request : String) (workflow : PlanPreset) (target : ServiceName) :
    Flow Run := do
  let createdAt ← utcnow
  let id ← newId "run"
  let run := service.newRun userId request target createdAt id
  saveRun run
  let planned : Except Error (List ToolCall) ← make (.plan request workflow target)
  let plan ← liftM planned
  saveAs .planned { run with plan := plan }

end RunnerService

/-! ### Requests -/

inductive Request where
  | createRun (userId request : String) (workflow : PlanPreset) (target : ServiceName)
  | step (runId : String)
  | runUntilBlocked (runId : String)
  | approve (approvalId actor : String)
  | reject (approvalId actor : String)

def RunnerService.handle (service : RunnerService) : Request → Flow Run
  | .createRun userId request workflow target => service.createRun userId request workflow target
  | .step runId => service.step runId
  | .runUntilBlocked runId => service.runUntilBlocked runId
  | .approve approvalId actor => Legacy.approve approvalId actor
  | .reject approvalId actor => Legacy.reject approvalId actor

end Legacy

end GuardedAgentRunner
