import TaskCage.Artifact.Record
import TaskCage.Profile.Runtime
import TaskCage.Remote.Payload
import Mathlib.Data.List.MinMax
import Mathlib.Data.Prod.Lex

/-!
# What the Remote side keeps

The dispatcher keeps the answer to every submission that was accepted, the
handlers which principal owns a Remote task, and the backend who owns its
inputs and how it ended.  Every map has a lock of its own, so every function
here is one locked section.
-/

namespace TaskCage
namespace Remote

open Profile Artifact

/-! ### Messages -/

/-- A Profile task as the Local handlers report it. -/
inductive LocalTaskPayload where
  | running (taskId : String) (profile : ProfileIdentity)
      (submittedAt startedAt : String)
  | finished (profile : ProfileIdentity) (outputSlot : String)
      (result : TaskResult) (terminal : ProfileTerminal)
deriving DecidableEq

/-- The task that a report is about. -/
def LocalTaskPayload.taskId : LocalTaskPayload → String
  | running taskId _ _ _ => taskId
  | finished _ _ result _ => result.taskId

/-- A Profile task as it is reported to a Remote client. -/
inductive RemoteTaskPayload where
  | running (taskId : String) (profile : ProfileIdentity)
      (submittedAt startedAt : String)
  | finished (profile : ProfileIdentity) (result : TaskResult)
      (artifacts : List (String × ManagedOutputArtifactPayload))
      (failure : Option ProfileFailurePayload)
deriving DecidableEq

/-- The task that a report is about. -/
def RemoteTaskPayload.taskId : RemoteTaskPayload → String
  | running taskId _ _ _ => taskId
  | finished _ result _ _ => result.taskId

/-- The answer to a submission whose task is running. -/
structure ProfileAcceptedPayload where
  taskId : String
  profile : ProfileIdentity
  budget : ResourceBudget
deriving DecidableEq

/-- The codes of errors. -/
inductive RemoteErrorCode where
  | invalidRequest
  | artifactUploadLimitExceeded
  | artifactUploadQuotaExhausted
  | artifactDigestMismatch
  | artifactNotFound
  | artifactInUse
  | invalidArtifactUpload
  | capacityExhausted
  | taskNotFound
  | taskAlreadyFinished
  | profileNotFound
  | invalidProfileInput
  | idempotencyConflict
  | limitExceedsPolicy
  | environmentUnavailable
  | internalError
deriving DecidableEq

/-- The answers to requests about tasks. -/
inductive RemoteResponse where
  | profileAccepted (requestId : String) (payload : ProfileAcceptedPayload)
  | profileResult (requestId : String) (payload : RemoteTaskPayload)
  | taskCancelled (requestId taskId : String)
  | error (requestId : String) (code : RemoteErrorCode) (message : String)
      (retryable : Bool)
deriving DecidableEq

/-- The task that an answer to a submission names. -/
def responseTaskId : RemoteResponse → Option String
  | .profileAccepted _ payload => some payload.taskId
  | .profileResult _ payload => some payload.taskId
  | _ => none

/-- A recorded answer, for another request. -/
def withRequestId (response : RemoteResponse) (requestId : String) :
    RemoteResponse :=
  match response with
  | .profileAccepted _ payload => .profileAccepted requestId payload
  | .profileResult _ payload => .profileResult requestId payload
  | other => other

/-- The answer to a request about a task of somebody else. -/
def taskNotFound (requestId : String) : RemoteResponse :=
  .error requestId .taskNotFound "task was not found" false

/-! ### Records -/

/-- A submission as its client names it: the principal and the
`clientRequestId`. -/
abbrev SubmissionKey : Type :=
  String ×ₗ String

/-- What the dispatcher remembers of a submission that was accepted. -/
structure SubmissionRecord where
  canonicalPayload : List Char
  response : RemoteResponse
  taskId : String
  lastChecked : ℕ
deriving DecidableEq

/-- The answer to a repeated submission whose task is retained. -/
def SubmissionRecord.answer (record : SubmissionRecord)
    (canonical : List Char) (requestId : String) : RemoteResponse :=
  if record.canonicalPayload ≠ canonical then
    .error requestId .idempotencyConflict
      "idempotency key was used with a different payload" false
  else
    withRequestId record.response requestId

/-- The maps of the dispatcher, the handlers and the backend. -/
structure Books where
  submissions : OrderedTable SubmissionKey SubmissionRecord
  remoteTasks : OrderedTable String String
  inputOwners : OrderedTable String String
  finished : OrderedTable String RemoteTaskPayload

namespace Books

/-- Nothing was submitted. -/
def empty : Books where
  submissions := .empty
  remoteTasks := .empty
  inputOwners := .empty
  finished := .empty

/-! ### The submissions -/

/-- The record that was checked least recently. -/
def oldest (books : Books) : Option (SubmissionKey × SubmissionRecord) :=
  books.submissions.entries.argmin fun entry => entry.2.lastChecked

/-- A record was checked. -/
def refresh (books : Books) (key : SubmissionKey) (now : ℕ) : Books :=
  match books.submissions.lookup key with
  | none => books
  | some record =>
      { books with
        submissions := books.submissions.insert key
          { record with lastChecked := now } }

/-- Forget a record. -/
def drop (books : Books) (key : SubmissionKey) : Books :=
  { books with submissions := books.submissions.erase key }

/-- Record a submission. -/
def record (books : Books) (key : SubmissionKey)
    (submission : SubmissionRecord) : Books :=
  { books with submissions := books.submissions.insert key submission }

theorem lookup_of_oldest {books : Books} {key : SubmissionKey}
    {record : SubmissionRecord} (isOldest : books.oldest = some (key, record)) :
    books.submissions.lookup key = some record :=
  OrderedTable.lookup_eq_some_iff.mpr (List.argmin_mem isOldest)

variable (books : Books)

theorem lookup_refresh (key other : SubmissionKey) (now : ℕ) :
    (books.refresh key now).submissions.lookup other =
      if other = key then
        (books.submissions.lookup key).map fun record =>
          { record with lastChecked := now }
      else books.submissions.lookup other := by
  unfold refresh
  split
  · rename_i absent
    split
    · rename_i same
      rw [same, absent]
      rfl
    · rfl
  · rename_i record held
    rw [OrderedTable.lookup_insert_eq_ite, held]
    rfl

/-- A check changes nothing but the records. -/
theorem refresh_eq (key : SubmissionKey) (now : ℕ) :
    books.refresh key now =
      { books with submissions := (books.refresh key now).submissions } := by
  unfold refresh
  split <;> rfl

theorem finished_refresh (key : SubmissionKey) (now : ℕ) :
    (books.refresh key now).finished = books.finished := by
  rw [refresh_eq]

/-! ### The owners of tasks -/

/-- Whether the principal owns the task. -/
def remoteTaskOwnedBy (books : Books) (taskId principal : String) : Bool :=
  books.remoteTasks.lookup taskId = some principal

/-- The principal owns the task. -/
def registerRemoteTask (books : Books) (taskId principal : String) : Books :=
  { books with remoteTasks := books.remoteTasks.insert taskId principal }

/-- The principal owns the task no more. -/
def removeRemoteTaskIfOwned (books : Books) (taskId principal : String) :
    Books :=
  if books.remoteTaskOwnedBy taskId principal then
    { books with remoteTasks := books.remoteTasks.erase taskId }
  else
    books

theorem submissions_removeRemoteTaskIfOwned (taskId principal : String) :
    (books.removeRemoteTaskIfOwned taskId principal).submissions =
      books.submissions := by
  unfold removeRemoteTaskIfOwned
  split <;> rfl

theorem finished_removeRemoteTaskIfOwned (taskId principal : String) :
    (books.removeRemoteTaskIfOwned taskId principal).finished =
      books.finished := by
  unfold removeRemoteTaskIfOwned
  split <;> rfl

theorem inputOwners_removeRemoteTaskIfOwned (taskId principal : String) :
    (books.removeRemoteTaskIfOwned taskId principal).inputOwners =
      books.inputOwners := by
  unfold removeRemoteTaskIfOwned
  split <;> rfl

/-! ### Inputs and results -/

/-- The inputs of a task are held under a token. -/
def own (books : Books) (taskId token : String) : Books :=
  { books with inputOwners := books.inputOwners.insert taskId token }

/-- The inputs of a task are about to be removed. -/
def disown (books : Books) (taskId : String) : Books :=
  { books with inputOwners := books.inputOwners.erase taskId }

/-- The result of a task was published. -/
def cache (books : Books) (taskId : String) (payload : RemoteTaskPayload) :
    Books :=
  { books with finished := books.finished.insert taskId payload }

/-- The result of a task is forgotten. -/
def clear (books : Books) (taskId : String) : Books :=
  { books with finished := books.finished.erase taskId }

end Books

/-! ### Results -/

/-- The files that a finished task has published locally. -/
def localArtifacts (outputSlot : String) :
    ProfileTerminal → List (String × PublishedArtifact)
  | .succeeded artifact => [(outputSlot, artifact)]
  | .failed _ => []

/-- Why a finished task has failed. -/
def failureOf : ProfileTerminal → Option ProfileFailurePayload
  | .succeeded _ => none
  | .failed failure => some failure

/-- The report of a finished task with its managed outputs. -/
def finishedPayload (profile : ProfileIdentity) (result : TaskResult)
    (terminal : ProfileTerminal)
    (managed : List (String × ManagedOutputArtifactPayload)) :
    RemoteTaskPayload :=
  .finished profile result managed (failureOf terminal)

end Remote
end TaskCage
