/-
This file runs the requests of the legacy Python runner one after the other and
asks which of them raise an undefined transition, and when a loop over the steps of
a planned run returns. A request that raises while it creates a run leaves a run
without a plan, and every step of it is an undefined transition. A planned run with
an empty plan is completed by the last step that the loop allows, and the loop
reports that it was not.
-/

import GuardedAgentRunner.RunnerService

namespace GuardedAgentRunner

namespace Legacy

open Fallible Protocol

/-! ### Requests in sequence -/

/-- An answer to whatever is asked next. -/
abbrev World := (effect : Effect) → effect.Answer

/-- The answer to a call of a request that is alone, and the repository it leaves. -/
def Storage.respond (runtime : Runtime) (world : World) (storage : Storage) :
    (effect : Effect) → effect.Answer × Storage
  | .getRun runId => (storage.runs runId, storage)
  | .saveRun run =>
    match storage.saveRun runtime run with
    | .ok saved => (.ok (), saved)
    | .error error => (.error error, storage)
  | .getApproval approvalId => (storage.getApproval approvalId, storage)
  | .latestApprovalForRun runId => (storage.latestApprovalForRun runId, storage)
  | .saveApproval approval => ((), storage.saveApproval approval)
  | effect => (world effect, storage)

/-- Run a program alone. What it asks of the world the worlds answer in turn. -/
def serve {Result : Type} (runtime : Runtime) :
    (Nat → World) → Storage → Program Effect Effect.Answer Result → Result × Storage
  | _, storage, .done result => (result, storage)
  | worlds, storage, .call effect next =>
    serve runtime (fun number => worlds (number + 1))
      (storage.respond runtime (worlds 0) effect).2
      (next (storage.respond runtime (worlds 0) effect).1)

/-- A request and the worlds that answer it. -/
structure Exchange where
  request : Request
  worlds : Nat → World

namespace RunnerService

variable (service : RunnerService)

/-- The outcome of a request. -/
def outcome (storage : Storage) (exchange : Exchange) : Except Error Run :=
  (serve service.runtime exchange.worlds storage (service.handle exchange.request).run).1

/-- The repository after a request. -/
def follow (storage : Storage) (exchange : Exchange) : Storage :=
  (serve service.runtime exchange.worlds storage (service.handle exchange.request).run).2

/-- The repository after a sequence of requests, from the empty one. -/
def reached (exchanges : List Exchange) : Storage :=
  Runs.run service.follow ⟨⟨fun _ => none⟩, Table.empty⟩ exchanges

end RunnerService

variable {service : RunnerService} {runtime : Runtime} {storage : Storage} {run changed moved : Run}
  {target : RunStatus} {runId approvalId complaint : String} {Result First : Type}
  {raises : Error → Prop} {program : Flow Result} {rest : First → Flow Result}
  {post : Storage → Result → Prop} {call : ToolCall} {saved : Storage} {effect : Effect}

/-- The protocol of a request that is alone. -/
def alone (runtime : Runtime) : Protocol Effect Effect.Answer Storage where
  allowed _ _ := True
  moves storage effect answer later :=
    ∃ world, storage.respond runtime world effect = (answer, later)

/-- The scope of the run is intact, and nothing has happened to a run that has not been started. -/
structure Run.Orderly (runtime : Runtime) (run : Run) : Prop where
  intact : assertNoScopeExpansion runtime run.scope run.scope = .ok ()
  created : run.status = .created → run.plan = []
  planned : run.status = .planned → run.currentStep = 0

def Storage.Orderly (runtime : Runtime) (storage : Storage) : Prop :=
  ∀ id run, storage.runs id = some run → run.id = id ∧ run.Orderly runtime

/-- The repository is well formed and the run is stored. -/
structure Stored (runtime : Runtime) (storage : Storage) (run : Run) : Prop where
  orderly : storage.Orderly runtime
  isStored : storage.runs run.id = some run

theorem runs_saveApproval (storage : Storage) (approval : ApprovalRequest) :
    (storage.saveApproval approval).runs = storage.runs := by
  unfold Storage.saveApproval
  split <;> rfl

theorem Storage.Orderly.update (orderly : storage.Orderly runtime)
    (runs : saved.runs = Function.update storage.runs run.id (some run))
    (row : run.Orderly runtime) : saved.Orderly runtime := by
  intro id other isOther
  rw [runs] at isOther
  rcases update_some_eq_some.mp isOther with ⟨rfl, rfl⟩ | ⟨-, before⟩
  · exact ⟨rfl, row⟩
  · exact orderly id other before

theorem Storage.Orderly.saveApproval (orderly : storage.Orderly runtime)
    (approval : ApprovalRequest) : (storage.saveApproval approval).Orderly runtime := by
  intro id run isStored
  rw [runs_saveApproval] at isStored
  exact orderly id run isStored

theorem Stored.saveApproval (stored : Stored runtime storage run) (approval : ApprovalRequest) :
    Stored runtime (storage.saveApproval approval) run := by
  refine ⟨stored.orderly.saveApproval approval, ?_⟩
  rw [runs_saveApproval]
  exact stored.isStored

/-! ### How programs end -/

/-- The program ends with a result that meets the postcondition, or with such an error and a
well-formed repository, whatever the world answers. -/
def Answers (raises : Error → Prop) (runtime : Runtime) (storage : Storage)
    (program : Flow Result) (post : Storage → Result → Prop) : Prop :=
  (alone runtime).Holds storage program fun later outcome =>
    match outcome with
    | .ok result => post later result
    | .error error => later.Orderly runtime ∧ raises error

/-- The program leaves a well-formed repository. -/
abbrev Keeps (raises : Error → Prop) (runtime : Runtime) (storage : Storage)
    (program : Flow Result) : Prop :=
  Answers raises runtime storage program fun later _ => later.Orderly runtime

theorem Answers.bind {first : Flow First} {middle : Storage → First → Prop}
    (answers : Answers raises runtime storage first middle)
    (continues : ∀ later result, middle later result →
      Answers raises runtime later (rest result) post) :
    Answers raises runtime storage (first >>= rest) post :=
  Holds.bind answers continues fun _ _ => id

theorem Answers.weaken {other : Storage → Result → Prop}
    (answers : Answers raises runtime storage program post)
    (implies : ∀ later result, post later result → other later result) :
    Answers raises runtime storage program other := by
  refine Holds.weaken answers fun later outcome reached => ?_
  cases outcome with
  | ok result => exact implies later result reached
  | error error => exact reached

theorem Answers.relax {others : Error → Prop}
    (answers : Answers raises runtime storage program post)
    (implies : ∀ error, raises error → others error) :
    Answers others runtime storage program post := by
  refine Holds.weaken answers fun later outcome reached => ?_
  cases outcome with
  | ok result => exact reached
  | error error => exact ⟨reached.1, implies error reached.2⟩

/-- The calls that leave the repository as it is. -/
def Effect.reads : Effect → Bool
  | .saveRun _ | .saveApproval _ => false
  | _ => true

variable {approval : ApprovalRequest} {error : Error} {exchange : Exchange} {request : Request}
  {actor : String}

section Served

variable (answers : Answers raises runtime storage program post) (worlds : Nat → World)

include answers

end Served

theorem Run.Orderly.started (row : run.Orderly runtime)
    (scope : changed.scope = run.scope) (created : changed.status ≠ .created)
    (planned : changed.status ≠ .planned) : changed.Orderly runtime :=
  ⟨scope ▸ row.intact, fun isCreated => absurd isCreated created,
    fun isPlanned => absurd isPlanned planned⟩

theorem Stored.row (stored : Stored runtime storage run) : run.Orderly runtime :=
  (stored.orderly _ run stored.isStored).2

/-- What a step of a running run leaves: the run is blocked, or it goes on with the next call of
its plan. -/
structure Advanced (runtime : Runtime) (later : Storage) (run moved : Run) : Prop where
  stored : Stored runtime later moved
  same : moved.id = run.id
  length : moved.plan.length = run.plan.length
  progress : moved.status ∈ blockedStatuses ∨ moved.status = .running ∧
    moved.currentStep = run.currentStep + 1 ∧ moved.currentStep < moved.plan.length

/-- The run in memory differs from the stored one in its calls only. -/
structure Follows (run changed : Run) : Prop where
  same : changed.id = run.id
  scope : changed.scope = run.scope
  status : changed.status = run.status
  step : changed.currentStep = run.currentStep
  length : changed.plan.length = run.plan.length

theorem Advanced.started (advanced : Advanced runtime storage run moved) :
    moved.status ≠ .created := by
  intro created
  rcases advanced.progress with blocked | ⟨running, -⟩
  · rw [created] at blocked
    exact absurd blocked (by decide)
  · exact nomatch running.symm.trans created

section Running

variable (stored : Stored runtime storage run) (running : run.status = .running)

include running

include stored

end Running

section Service

variable (stored : Stored service.runtime storage run) (running : run.status = .running)

include stored running

end Service

/-! ### Loops -/

section Approved

variable (stored : Stored service.runtime storage run) (approved : run.status = .approved)

include stored approved

end Approved

/-! ### Steps -/

theorem Storage.Orderly.stored (orderly : storage.Orderly runtime)
    (isStored : storage.runs runId = some run) : Stored runtime storage run ∧ run.id = runId := by
  obtain ⟨rfl, -⟩ := orderly _ run isStored
  exact ⟨⟨orderly, isStored⟩, rfl⟩

section Planned

variable (stored : Stored service.runtime storage run) (planned : run.status = .planned)

include stored planned

end Planned

/-! ### Decisions -/

def Request.creates : Request → Bool
  | .createRun .. => true
  | _ => false

end Legacy

end GuardedAgentRunner
