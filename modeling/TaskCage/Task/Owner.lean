import TaskCage.Executor.RunTask
import TaskCage.Foundation.Assertion
import TaskCage.Registry.Operations
import TaskCage.Task.Capacity

/-!
# The owner of an execution

The owner of a reservation drives the execution of its task and settles what
the task holds: the record in the registry, the slot, the entry among the
active executions and the first answer to the caller.  Every step the owner
takes with one of these is written to a log.
-/

namespace TaskCage
namespace Task

open Executor FailStop Linux Process Registry

/-- What an owner does, one shared object at a time. -/
inductive OwnerStep where
  /-- The running snapshot was stored. -/
  | runningStored (snapshot : TaskSnapshot)
  /-- The finished snapshot was stored. -/
  | finishedStored (snapshot : TaskSnapshot)
  /-- The reservation was taken back. -/
  | reservationWithdrawn
  /-- Those who wait for the first state of the task are woken. -/
  | signalled (observation : SubmitObservation)
  /-- Those who cancelled the task are woken. -/
  | cancellationCompleted (snapshot : TaskSnapshot)
  /-- The task is no active execution any more. -/
  | deactivated
  | slotReleased
  | slotRetained
  /-- The submitting call is answered. -/
  | initialSent (observation : SubmitObservation)
  | activated (report : CleanupFailureReport)
  /-- The execution port returned. -/
  | executed (completion : Except ExecutionFailure TaskSnapshot)
deriving DecidableEq

namespace OwnerStep

/-- Whether the step gives the slot back or keeps it. -/
def isSlot : OwnerStep → Bool
  | slotReleased => true
  | slotRetained => true
  | _ => false

/-- Whether the step answers the submitting call. -/
def isInitial : OwnerStep → Bool
  | initialSent _ => true
  | _ => false

end OwnerStep

/-- How far an owner has come while its task is executed. -/
inductive OwnerPhase where
  /-- The program is not known to run. -/
  | waiting
  /-- The running snapshot is published. -/
  | published
  /-- The running snapshot could not be published. -/
  | refused
deriving DecidableEq

/-- The rest of the daemon, as an owner shares it; `phase` and `log` are its
own. -/
structure OwnerShared where
  registry : RegistryState
  /-- A thread died while it held the lock of the registry. -/
  poisoned : Bool
  capacity : TaskCapacity
  phase : OwnerPhase
  log : List OwnerStep

/-- Code of an owner. -/
abbrev Owned (Result : Type) : Type :=
  Execution OwnerShared Result

/-- The world of an owner. -/
abbrev OwnerWorld : Type :=
  World Linux.Event (TaskShared OwnerShared)

/-! ### Steps -/

/-- Note a step of the owner. -/
def OwnerShared.note (step : OwnerStep) (shared : OwnerShared) : OwnerShared :=
  { shared with log := shared.log ++ [step] }

/-- A step that changes the coordinator. -/
def coordinate (step : OwnerStep)
    (change : ℕ → Coordinator → Coordinator) : Owned Unit :=
  update fun now shared =>
    ((), { shared with
      coordinator := change now shared.coordinator
      rest := shared.rest.note step })

/-- Begin the fail-stop. -/
def startFailStop (report : CleanupFailureReport) : Owned Unit :=
  coordinate (.activated report) fun now coordinator =>
    (coordinator.activate now report).2

/-- End the active execution. -/
def completeActive (taskId : String) : Owned Unit :=
  coordinate .deactivated fun _ coordinator => (coordinator.complete taskId).2

/-- An active execution that is given up without a result. -/
def dropActive (taskId : String) : Owned Unit :=
  startFailStop (Coordinator.droppedReport taskId)

/-- A step that changes the rest of the daemon. -/
def perform (step : OwnerStep) (change : OwnerShared → OwnerShared) :
    Owned Unit :=
  update fun _ shared =>
    ((), { shared with rest := (change shared.rest).note step })

/-- Return the slot. -/
def releaseSlot : Owned Unit :=
  perform .slotReleased fun rest =>
    { rest with capacity := rest.capacity.release }

/-- Keep the slot for the fail-stop. -/
def retainForFailStop : Owned Unit :=
  perform .slotRetained fun rest =>
    { rest with capacity := rest.capacity.retainForFailStop }

/-- Wake those who wait for the first state of the task. -/
def publishSignal (observation : SubmitObservation) : Owned Unit :=
  perform (.signalled observation) id

/-- Answer the submitting call. -/
def sendInitial (observation : SubmitObservation) : Owned Unit :=
  perform (.initialSent observation) id

/-- Remember how far the owner has come. -/
def enterPhase (phase : OwnerPhase) : Owned Unit :=
  update fun _ shared =>
    ((), { shared with rest := { shared.rest with phase } })

/-! ### The registry -/

/-- Use the registry under its lock, after some checks without it.  `note` is
the step that a result means for the owner. -/
def OwnerShared.underLock {Result : Type}
    (checked : Except RegistryError Unit) (note : Result → Option OwnerStep)
    (locked : RegistryState → Except RegistryError Result × RegistryState)
    (rest : OwnerShared) : Except RegistryError Result × OwnerShared :=
  match checked with
  | .error error => (.error error, rest)
  | .ok () =>
      if rest.poisoned then
        (.error .stateUnavailable, rest)
      else
        match locked rest.registry with
        | (.error error, registry) => (.error error, { rest with registry })
        | (.ok value, registry) =>
            (.ok value, { rest with
              registry
              log := rest.log ++ (note value).toList })

/-- A locked section of the registry; it sees the clock at its begin and at
its end. -/
def lockRegistry {Result : Type} (checked : Except RegistryError Unit)
    (note : Result → Option OwnerStep)
    (locked : ℕ → ℕ → RegistryState →
      Except RegistryError Result × RegistryState) :
    Owned (Except RegistryError Result) :=
  lasting (fun answers world => answers.lockedPause world)
    fun now ending shared =>
      let (result, rest) :=
        shared.rest.underLock checked note (locked now ending)
      (result, { shared with rest })

/-- A running snapshot must be one, of the right task. -/
def checkRunning (owner : SubmitExecutionOwner) :
    TaskSnapshot → Except RegistryError Unit
  | .finished _ => .error .runningSnapshotRequired
  | .running actual _ _ => RegistryState.verifyTaskId owner.taskId actual

/-- A finished snapshot must be one, of the right task. -/
def checkFinished (owner : SubmitExecutionOwner) :
    TaskSnapshot → Except RegistryError Unit
  | .running _ _ _ => .error .finishedSnapshotRequired
  | .finished result => RegistryState.verifyTaskId owner.taskId result.taskId

/-- Store the running snapshot and wake those who wait for it. -/
def publishRunning (owner : SubmitExecutionOwner)
    (cancellation : RunningCancellation) (running : VerifiedRunningTask) :
    Owned (Except RegistryError TaskSnapshot) :=
  proceed
    (lockRegistry (checkRunning owner running.snapshot)
      (fun snapshot => some (.runningStored snapshot))
      fun now _ state => state.publishRunning now owner running.snapshot
        running.effectiveLimits cancellation)
    fun snapshot => do
      publishSignal (.task snapshot)
      pure (.ok snapshot)

/-- Store the finished snapshot. -/
def finishSnapshot (owner : SubmitExecutionOwner) (snapshot : TaskSnapshot) :
    Owned (Except RegistryError FinishedTaskPublication) :=
  lockRegistry (checkFinished owner snapshot)
    (fun publication => some (.finishedStored publication.snapshot))
    fun now ending state => state.finishSnapshot now ending owner snapshot

/-- Take the reservation back, unless the task was published. -/
def releaseFailedOwner (owner : SubmitExecutionOwner) :
    Owned (Except RegistryError (Option TaskSnapshot)) :=
  lockRegistry (.ok ())
    (fun kept => if kept.isNone then some .reservationWithdrawn else none)
    fun now _ state => state.releaseFailedOwner now owner

/-! ### The owner -/

/-- What a failed owner lets others observe. -/
def failureObservation (failure : SubmitFailure) :
    Except RegistryError (Option TaskSnapshot) → SubmitObservation
  | .ok (some snapshot) => .task snapshot
  | .ok none => .failed failure
  | .error _ => .failed failure

/-- End the ownership with a failure. -/
def failOwner (owner : SubmitExecutionOwner) (failure : SubmitFailure) :
    Owned SubmitObservation := do
  let released ← releaseFailedOwner owner
  publishSignal (failureObservation failure released)
  pure (failureObservation failure released)

/-- The failure that a registry error means. -/
def registryFailure (error : RegistryError) : SubmitFailure :=
  ⟨.internalError, error.message⟩

/-- End the ownership with a result. -/
def finishOwner (owner : SubmitExecutionOwner) (payload : TaskSnapshot) :
    Owned (Except RegistryError FinishedTaskPublication) := do
  match ← finishSnapshot owner payload with
  | .ok publication => pure (.ok publication)
  | .error error =>
      let _ ← failOwner owner (registryFailure error)
      pure (.error error)

/-- The failure of taking a reservation back: a published task cannot be. -/
def rollbackOutcome (failure : SubmitFailure) :
    Except RegistryError (Option TaskSnapshot) →
      Except RegistryError SubmitObservation
  | .ok none => .ok (.failed failure)
  | .ok (some _) => .error .stateUnavailable
  | .error error => .error error

/-- What a rollback lets others observe. -/
def rollbackObservation :
    Except RegistryError SubmitObservation → SubmitObservation
  | .ok observation => observation
  | .error error => .failed (registryFailure error)

/-- Take the reservation of a task back that never ran. -/
def rollbackBeforeRunning (owner : SubmitExecutionOwner)
    (failure : SubmitFailure) :
    Owned (Except RegistryError SubmitObservation) := do
  let released ← releaseFailedOwner owner
  publishSignal (rollbackObservation (rollbackOutcome failure released))
  pure (rollbackOutcome failure released)

/-- Return the slot, or keep it when a fail-stop has begun. -/
def releaseCapacity : Owned Unit := do
  if ← isFailStopping then
    retainForFailStop
  else
    releaseSlot

/-- Wake those who cancelled the task. -/
def completeCancellation (finished : TaskSnapshot) :
    Option RunningCancellation → Owned Unit
  | some _ => perform (.cancellationCompleted finished) id
  | none => pure ()

/-- Wake those who wait for the end of the task. -/
def publishCompletion (publication : FinishedTaskPublication) :
    Owned TaskSnapshot := do
  completeCancellation publication.snapshot publication.cancellation
  publishSignal (.task publication.snapshot)
  pure publication.snapshot

/-- After the finished snapshot is stored, give back what the task held and
wake those who wait, in this order. -/
def publishFinished (taskId : String)
    (publication : FinishedTaskPublication) : Owned TaskSnapshot := do
  completeActive taskId
  releaseCapacity
  publishCompletion publication

/-- The report of a running task that could not be finished. -/
def runningFailureReport (taskId : String) : CleanupFailureReport where
  taskId := taskId
  stage := "RUNNING 작업 완료"
  uncleaned := ["검증된 FINISHED 결과"]
  retry := "RUNNING snapshot을 유지하고 daemon 종료를 시작함"

/-- The report of a running task that could not be published. -/
def runningPublicationReport (taskId : String) : CleanupFailureReport where
  taskId := taskId
  stage := "RUNNING 저장"
  uncleaned := ["공개 RUNNING snapshot"]
  retry := "exec 시작 뒤 작업 상태를 저장하지 못해 daemon 종료를 시작함"

/-- Publish that the task runs. -/
def beginRunning (owner : SubmitExecutionOwner)
    (cancellation : RunningCancellation) (running : VerifiedRunningTask) :
    Owned Unit := do
  match ← publishRunning owner cancellation running with
  | .ok snapshot =>
      sendInitial (.task snapshot)
      enterPhase .published
  | .error error =>
      startFailStop (runningPublicationReport owner.taskId)
      let observation ← failOwner owner (registryFailure error)
      sendInitial observation
      retainForFailStop
      enterPhase .refused

/-- Finish a task that was published as running. -/
def finishRunning (owner : SubmitExecutionOwner) :
    Except ExecutionFailure TaskSnapshot → Owned Unit
  | .ok payload => do
      match ← finishOwner owner payload with
      | .ok publication =>
          let _ ← publishFinished owner.taskId publication
          pure ()
      | .error _ =>
          retainForFailStop
          dropActive owner.taskId
  | .error failure => do
      startFailStop (runningFailureReport owner.taskId)
      let _ ← failOwner owner failure.submit
      if failure.cleanupComplete then
        completeActive owner.taskId
        retainForFailStop
      else
        retainForFailStop
        dropActive owner.taskId

/-- End a task that left nothing behind before it ran. -/
def finishReusable (owner : SubmitExecutionOwner)
    (failure : ExecutionFailure) : Owned Unit := do
  match ← rollbackBeforeRunning owner failure.submit with
  | .ok observation =>
      completeActive owner.taskId
      releaseCapacity
      sendInitial observation
  | .error error =>
      retainForFailStop
      sendInitial (.failed (registryFailure error))
      dropActive owner.taskId

/-- End a task whose slot must not be used again. -/
def finishBlocked (owner : SubmitExecutionOwner)
    (failure : ExecutionFailure) : Owned Unit := do
  retainForFailStop
  let observation ← failOwner owner failure.submit
  if failure.cleanupComplete then
    completeActive owner.taskId
    sendInitial observation
  else
    sendInitial observation
    dropActive owner.taskId

/-- Finish a task that was never published as running. -/
def finishWithoutRunning (owner : SubmitExecutionOwner) :
    Except ExecutionFailure TaskSnapshot → Owned Unit
  | .ok payload => do
      match ← finishOwner owner payload with
      | .ok publication =>
          let finished ← publishFinished owner.taskId publication
          sendInitial (.task finished)
      | .error error =>
          retainForFailStop
          sendInitial (.failed (registryFailure error))
          dropActive owner.taskId
  | .error failure =>
      if failure.capacityReusable then finishReusable owner failure
      else finishBlocked owner failure

/-- What the owner does whenever its execution is suspended: once the program
is known to run, it publishes that. -/
def react (owner : SubmitExecutionOwner)
    (cancellation : RunningCancellation) : Owned Unit := do
  let (phase, announced) ← update fun _ shared =>
    ((shared.rest.phase, shared.announced), shared)
  match phase, announced with
  | .waiting, some running => beginRunning owner cancellation running
  | _, _ => pure ()

/-- Settle what the task holds once its execution has returned. -/
def settle (owner : SubmitExecutionOwner)
    (completion : Except ExecutionFailure TaskSnapshot) : Owned Unit := do
  match ← update fun _ shared => (shared.rest.phase, shared) with
  | .waiting => finishWithoutRunning owner completion
  | .published => finishRunning owner completion
  | .refused => dropActive owner.taskId

/-- The channels between an owner and its execution. -/
def openChannels : Owned Unit :=
  update fun _ shared =>
    ((), { shared with
      latch := .unset
      announced := none
      rest := { shared.rest with phase := .waiting, log := [] } })

/-- What a caller adds to its reservation. -/
structure SubmitMetadata where
  submittedAt : String
  cleanupTimeout : ℕ
deriving DecidableEq

/-- What the task of an owner is run with. -/
def taskRunConfig (owner : SubmitExecutionOwner) (metadata : SubmitMetadata) :
    TaskRunConfig where
  taskId := owner.taskId
  submittedAt := metadata.submittedAt
  cleanupTimeout := metadata.cleanupTimeout
  plan := owner.request.plan

/-- Drive an execution to its end and settle what its task holds.  An
announcement that comes together with the end of the execution is served
first. -/
def runOwner (owner : SubmitExecutionOwner)
    (cancellation : RunningCancellation) (kind : TaskKind OwnerShared)
    (manager : CgroupManager) (metadata : SubmitMetadata) : Owned Unit := do
  openChannels
  let completion ← driven (react owner cancellation)
    (executeTask kind manager (taskRunConfig owner metadata))
  perform (.executed completion) id
  react owner cancellation
  settle owner completion

end Task
end TaskCage
