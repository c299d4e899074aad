import TaskCage.Core.Submission
import TaskCage.Core.Task
import Mathlib.Logic.Function.Basic

/-!
# The Profile runtime

What the daemon keeps about Profile requests: the request of each
`clientRequestId`, pending or accepted, and the record of each Profile task.
The two maps have locks of their own, so every function here is one locked
section; accepting a task and discarding one take two of them.
-/

namespace TaskCage
namespace Profile

/-! ### Requests and records -/

/-- A request to run a Profile. -/
structure ProfileRequestPayload where
  clientRequestId : String
  profile : ProfileIdentity
  inputs : List (String × ProfileValue)
  resourceOverrides : Option ProfileResourceOverrides
deriving DecidableEq

/-- The record of a Profile task, without the cell of its terminal state. -/
structure ProfileTaskRecord where
  taskId : String
  profile : ProfileIdentity
  budget : ResourceBudget
  outputSlot : String
deriving DecidableEq

/-- A `Notify`, named by its allocation. -/
abbrev Notify : Type :=
  ℕ

/-- What is known about a request. -/
inductive ProfileRequestEntry where
  | pending (request : ProfileRequestPayload) (ready : Notify)
  | accepted (request : ProfileRequestPayload) (task : ProfileTaskRecord)
deriving DecidableEq

/-- The reservation of the caller that owns a request. -/
structure Reservation where
  clientRequestId : String
  request : ProfileRequestPayload
  ready : Notify
deriving DecidableEq

/-- The two maps; `allocated` counts the notifies. -/
structure LocalProfileRuntime where
  requests : String → Option ProfileRequestEntry
  tasks : String → Option ProfileTaskRecord
  allocated : Notify

/-- What a caller finds when it looks for its request. -/
inductive Looked where
  | conflict
  | existing (task : ProfileTaskRecord)
  | wait (ready : Notify)
  | owner (reservation : Reservation)
deriving DecidableEq

namespace LocalProfileRuntime

/-- Nothing was requested. -/
def empty : LocalProfileRuntime where
  requests _ := none
  tasks _ := none
  allocated := 0

/-- The reservation that a new request gets. -/
def newReservation (runtime : LocalProfileRuntime)
    (request : ProfileRequestPayload) : Reservation where
  clientRequestId := request.clientRequestId
  request := request
  ready := runtime.allocated

/-- The locked section of `reserve`. -/
def look (runtime : LocalProfileRuntime) (request : ProfileRequestPayload) :
    Looked × LocalProfileRuntime :=
  match runtime.requests request.clientRequestId with
  | some (.accepted existing task) =>
      (if existing = request then .existing task else .conflict, runtime)
  | some (.pending existing ready) =>
      (if existing = request then .wait ready else .conflict, runtime)
  | none =>
      (.owner (runtime.newReservation request),
        { runtime with
          requests := Function.update runtime.requests request.clientRequestId
            (some (.pending request runtime.allocated))
          allocated := runtime.allocated + 1 })

/-- The locked section of `release`. -/
def withdraw (runtime : LocalProfileRuntime) (reservation : Reservation) :
    LocalProfileRuntime :=
  match runtime.requests reservation.clientRequestId with
  | some (.pending _ _) =>
      { runtime with
        requests := Function.update runtime.requests
          reservation.clientRequestId none }
  | _ => runtime

/-- The first locked section of `accept`. -/
def publish (runtime : LocalProfileRuntime) (reservation : Reservation)
    (task : ProfileTaskRecord) : LocalProfileRuntime :=
  { runtime with
    requests := Function.update runtime.requests reservation.clientRequestId
      (some (.accepted reservation.request task)) }

/-- The second locked section of `accept`. -/
def insertTask (runtime : LocalProfileRuntime) (task : ProfileTaskRecord) :
    LocalProfileRuntime :=
  { runtime with
    tasks := Function.update runtime.tasks task.taskId (some task) }

/-- The first locked section of `discard_task`. -/
def removeTask (runtime : LocalProfileRuntime) (taskId : String) :
    LocalProfileRuntime :=
  { runtime with tasks := Function.update runtime.tasks taskId none }

/-- Whether a request stays when a task is discarded. -/
def stays (taskId : String) : ProfileRequestEntry → Bool
  | .pending _ _ => true
  | .accepted _ task => task.taskId ≠ taskId

/-- The second locked section of `discard_task`. -/
def retainRequests (runtime : LocalProfileRuntime) (taskId : String) :
    LocalProfileRuntime :=
  { runtime with
    requests := fun clientRequestId =>
      (runtime.requests clientRequestId).filter (stays taskId) }

/-! ### What each section does to the requests -/

variable {runtime : LocalProfileRuntime} {clientRequestId taskId : String}
variable {request : ProfileRequestPayload} {ready : Notify}
variable {task : ProfileTaskRecord}

theorem retainRequests_eq_pending_iff :
    (runtime.retainRequests taskId).requests clientRequestId =
        some (.pending request ready) ↔
      runtime.requests clientRequestId = some (.pending request ready) := by
  unfold retainRequests
  dsimp only
  rw [Option.filter_eq_some_iff]
  exact and_iff_left rfl

end LocalProfileRuntime

/-! ### Terminal states -/

/-- A file that was published. -/
structure PublishedArtifact where
  path : String
  digest : String
  sizeBytes : ℕ
  mediaType : String
deriving DecidableEq

/-- Why a Profile task failed. -/
structure ProfileFailurePayload where
  code : String
  message : String
deriving DecidableEq

/-- How a Profile task ended. -/
inductive ProfileTerminal where
  | succeeded (artifact : PublishedArtifact)
  | failed (failure : ProfileFailurePayload)
deriving DecidableEq

/-- Errors of the artifact store, by the classes that the code distinguishes,
with their texts. -/
inductive ArtifactStoreError where
  | undeclaredOutput (message : String)
  | notRegularFile (message : String)
  | other (message : String)
deriving DecidableEq

/-- The text of an error. -/
def ArtifactStoreError.message : ArtifactStoreError → String
  | undeclaredOutput message => message
  | notRegularFile message => message
  | other message => message

/-- The code of a failed publication. -/
def outputFailureCode : ArtifactStoreError → String
  | .undeclaredOutput _ => "OUTPUT_CONTRACT_VIOLATION"
  | .notRegularFile _ => "OUTPUT_CONTRACT_VIOLATION"
  | .other _ => "OUTPUT_PUBLISH_FAILED"

/-- The code of a process that did not succeed. -/
def processFailureCode : TerminationReason → String
  | .exited => "PROCESS_EXITED_NONZERO"
  | .executionFailed => "EXECUTION_FAILED"
  | .cancelled => "CANCELLED"
  | .timedOut => "TIMED_OUT"
  | .memoryLimitExceeded => "MEMORY_LIMIT_EXCEEDED"
  | .processLimitExceeded => "PROCESS_LIMIT_EXCEEDED"
  | .daemonError => "DAEMON_ERROR"

/-- The name of a reason in messages. -/
def reasonName : TerminationReason → String
  | .exited => "Exited"
  | .executionFailed => "ExecutionFailed"
  | .cancelled => "Cancelled"
  | .timedOut => "TimedOut"
  | .memoryLimitExceeded => "MemoryLimitExceeded"
  | .processLimitExceeded => "ProcessLimitExceeded"
  | .daemonError => "DaemonError"

/-- What the file system answers when a task is finalized: the outcome of
publishing its output, whose inner error is a failure of the task, and the
outcome of removing its files. -/
structure StagedAnswers where
  publish : Except ArtifactStoreError
    (Except ArtifactStoreError PublishedArtifact)
  cleanup : Except ArtifactStoreError Unit

/-- The terminal state that is stored for a task that has ended. -/
def finalize (answers : StagedAnswers) :
    TaskSnapshot → Except ArtifactStoreError ProfileTerminal
  | .finished result =>
      if result.terminationReason = .exited ∧
          result.process.exitCode = some 0 then
        match answers.publish with
        | .error error => .error error
        | .ok (.ok artifact) => .ok (.succeeded artifact)
        | .ok (.error error) =>
            .ok (.failed ⟨outputFailureCode error, error.message⟩)
      else
        match answers.cleanup with
        | .error error => .error error
        | .ok () => .ok (.failed
            ⟨processFailureCode result.terminationReason,
              "profile process finished with " ++
                reasonName result.terminationReason⟩)
  | .running _ _ _ =>
      .ok (.failed
        ⟨"INTERNAL_ERROR", "profile finalization requires a finished task"⟩)

end Profile
end TaskCage
