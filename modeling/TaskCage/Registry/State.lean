import TaskCage.Core.Observation
import TaskCage.Core.Submission
import TaskCage.Core.Time

/-!
# The task registry

The registry keeps four containers behind one lock: the published tasks, the
requests they came from, the inverse index of the requests, and the queue of
finished tasks in the order of their retention.  Every operation first removes
what has expired and then does its own work, so each operation is one function
of the locked state and of the clock readings it makes.
-/

namespace TaskCage
namespace Registry

/-- How long a finished task stays visible at least. -/
def minFinishedRetention : ℕ :=
  Duration.fromSecs (10 * 60)

/-- Registry configuration; zero tasks are refused when it is built. -/
structure TaskRegistrySettings where
  maxTasks : ℕ
  maxTasks_pos : 0 < maxTasks

/-- The cancellation cell of a running task, named by its allocation. -/
structure RunningCancellation where
  cell : ℕ
deriving DecidableEq

/-- A published task. -/
structure TaskRecord where
  snapshot : TaskSnapshot
  effectiveLimits : Option VerifiedEffectiveLimits
  finishedMonotonic : Option ℕ
  cancellation : Option RunningCancellation
deriving DecidableEq

/-- A reserved request.  The reservation is the allocation of its submit
signal, which is compared by pointer. -/
structure RequestRecord where
  taskId : String
  identity : SubmissionIdentity
  reservation : ℕ
deriving DecidableEq

/-- An entry of the retention queue. -/
structure FinishedExpiration where
  taskId : String
  finishedMonotonic : ℕ
deriving DecidableEq

/-- The locked registry state.  The last three fields do not exist in the
program: they count allocated signals and drawn task ids, and remember whether
a debug assertion failed. -/
structure RegistryState where
  settings : TaskRegistrySettings
  tasks : Table String TaskRecord
  requests : Table String RequestRecord
  taskRequests : Table String String
  finishedExpirations : List FinishedExpiration
  allocatedSignals : ℕ
  drawnTaskIds : ℕ
  assertionFailed : Bool

/-- The caller that owns the execution of a reservation. -/
structure SubmitExecutionOwner where
  clientRequestId : String
  taskId : String
  request : ValidatedSubmit
  signal : ℕ
deriving DecidableEq

/-- A caller that waits for the owner of a reservation. -/
structure SubmitWaiter where
  taskId : String
  signal : ℕ
deriving DecidableEq

/-- Outcome of a reservation attempt. -/
inductive SubmitReservation where
  | owner (owner : SubmitExecutionOwner)
  | existing (waiter : SubmitWaiter)
deriving DecidableEq

/-- What remains to be announced once a finished snapshot is stored. -/
structure FinishedTaskPublication where
  snapshot : TaskSnapshot
  cancellation : Option RunningCancellation
  submitSignal : ℕ
deriving DecidableEq

/-- A waiter for the end of a cancelled task. -/
structure CancellationWaiter where
  cell : ℕ
deriving DecidableEq

namespace RegistryState

/-- The registry of a fresh process. -/
def new (settings : TaskRegistrySettings) : RegistryState where
  settings := settings
  tasks := ∅
  requests := ∅
  taskRequests := ∅
  finishedExpirations := []
  allocatedSignals := 0
  drawnTaskIds := 0
  assertionFailed := false

/-- A debug assertion: remembered when it fails. -/
def debugAssert (condition : Bool) (state : RegistryState) : RegistryState :=
  { state with assertionFailed := state.assertionFailed || !condition }

/-- Whether a queue entry is past its retention. -/
def expired (now : ℕ) (entry : FinishedExpiration) : Bool :=
  match Instant.checkedDurationSince now entry.finishedMonotonic with
  | some elapsed => decide (minFinishedRetention < elapsed)
  | none => false

/-- Remove the request of an expired task, when the inverse index knew it. -/
def removeRequest (clientRequestId : Option String) (state : RegistryState) :
    RegistryState :=
  match clientRequestId with
  | some clientRequestId =>
      { state with requests := state.requests.erase clientRequestId }
        |>.debugAssert (state.requests.lookup clientRequestId).isSome
  | none => state

/-- One turn of the purge loop, for the entry just taken from the queue. -/
def expire (entry : FinishedExpiration) (state : RegistryState) :
    RegistryState :=
  match state.tasks.lookup entry.taskId with
  | none => state.debugAssert false
  | some record =>
      let clientRequestId := state.taskRequests.lookup entry.taskId
      { state with
        tasks := state.tasks.erase entry.taskId
        taskRequests := state.taskRequests.erase entry.taskId }
        |>.debugAssert (record.finishedMonotonic = some entry.finishedMonotonic)
        |>.debugAssert clientRequestId.isSome
        |>.removeRequest clientRequestId

/-- The purge loop over the queue; it stops at the first entry that is still
within its retention. -/
def purgeQueue (now : ℕ) :
    List FinishedExpiration → RegistryState → RegistryState
  | [], state => state
  | entry :: rest, state =>
      if expired now entry then
        purgeQueue now rest
          (({ state with finishedExpirations := rest }).expire entry)
      else
        state

/-- Remove every expired task. -/
def purgeExpired (now : ℕ) (state : RegistryState) : RegistryState :=
  purgeQueue now state.finishedExpirations state

/-- Whether an owner still owns the reservation it was created with. -/
def verifyOwner (state : RegistryState) (owner : SubmitExecutionOwner) :
    Except RegistryError Unit :=
  match state.requests.lookup owner.clientRequestId with
  | none => .error (.taskNotFound owner.taskId)
  | some request =>
      if request.taskId ≠ owner.taskId ∨
          request.reservation ≠ owner.signal then
        .error (.taskNotFound owner.taskId)
      else
        .ok ()

/-- A snapshot must be about the reserved task. -/
def verifyTaskId (expected actual : String) : Except RegistryError Unit :=
  if expected = actual then .ok () else .error (.taskIdMismatch expected actual)

end RegistryState
end Registry
end TaskCage
