import TaskCage.Registry.State

/-!
# Registry operations

Each operation of the registry as a function of the locked state.  All of them
begin with `purgeExpired`, also those that fail afterwards.
-/

namespace TaskCage
namespace Registry
namespace RegistryState

/-- Record a new reservation and hand its ownership to the caller. -/
def insertReservation (request : ValidatedSubmit) (candidate : String)
    (state : RegistryState) : SubmitExecutionOwner × RegistryState :=
  let clientRequestId := request.clientRequestId
  let signal := state.allocatedSignals
  ({ clientRequestId, taskId := candidate, request, signal },
    { state with
      taskRequests := state.taskRequests.insert candidate clientRequestId
      requests := state.requests.insert clientRequestId
        { taskId := candidate
          identity := request.identity
          reservation := signal }
      allocatedSignals := signal + 1 })

/-- Decide idempotency and reserve in one locked section.  `candidate` is the
value that the task id generator would return; `drawnTaskIds` counts the calls
of the generator. -/
def reserveSubmitWith (now : ℕ) (request : ValidatedSubmit)
    (candidate : String) (state : RegistryState) :
    Except RegistryError SubmitReservation × RegistryState :=
  let state := state.purgeExpired now
  match state.requests.lookup request.clientRequestId with
  | some existing =>
      if existing.identity ≠ request.identity then
        (.error (.idempotencyConflict request.clientRequestId), state)
      else
        (.ok (.existing
          { taskId := existing.taskId, signal := existing.reservation }), state)
  | none =>
      if state.settings.maxTasks ≤ state.requests.keys.card then
        (.error .capacityExhausted, state)
      else
        let state := { state with drawnTaskIds := state.drawnTaskIds + 1 }
        if candidate ∈ state.taskRequests then
          (.error (.taskAlreadyExists candidate), state)
        else
          let (owner, state) := state.insertReservation request candidate
          (.ok (.owner owner), state)

/-- Observe an existing reservation without making a new one. -/
def existingSubmit (now : ℕ) (request : ValidatedSubmit)
    (state : RegistryState) :
    Except RegistryError (Option SubmitWaiter) × RegistryState :=
  let state := state.purgeExpired now
  match state.requests.lookup request.clientRequestId with
  | none => (.ok none, state)
  | some existing =>
      if existing.identity ≠ request.identity then
        (.error (.idempotencyConflict request.clientRequestId), state)
      else
        (.ok (some
          { taskId := existing.taskId, signal := existing.reservation }), state)

/-- The published snapshot of a task. -/
def snapshot (now : ℕ) (taskId : String) (state : RegistryState) :
    Option TaskSnapshot × RegistryState :=
  let state := state.purgeExpired now
  ((state.tasks.lookup taskId).map TaskRecord.snapshot, state)

/-- The published snapshot of the task a request reserved. -/
def snapshotByClientRequestId (now : ℕ) (clientRequestId : String)
    (state : RegistryState) : Option TaskSnapshot × RegistryState :=
  let state := state.purgeExpired now
  match state.requests.lookup clientRequestId with
  | none => (none, state)
  | some request =>
      ((state.tasks.lookup request.taskId).map TaskRecord.snapshot, state)

/-- Whether a request is reserved. -/
def hasClientRequestId (now : ℕ) (clientRequestId : String)
    (state : RegistryState) : Bool × RegistryState :=
  let state := state.purgeExpired now
  (decide (clientRequestId ∈ state.requests), state)

/-- The verified limits that accompany a running observation. -/
def effectiveLimitsFor (now : ℕ) (taskId : String)
    (observation : SubmitObservation) (state : RegistryState) :
    Except RegistryError (Option VerifiedEffectiveLimits) × RegistryState :=
  match observation with
  | .task (.running _ _ _) =>
      let state := state.purgeExpired now
      match (state.tasks.lookup taskId).bind TaskRecord.effectiveLimits with
      | some limits => (.ok (some limits), state)
      | none => (.error (.verifiedEffectiveLimitsRequired taskId), state)
  | _ => (.ok none, state)

/-- The cancellation cell a cancel request must trigger. -/
def requestCancel (now : ℕ) (taskId : String) (state : RegistryState) :
    Except RegistryError CancellationWaiter × RegistryState :=
  let state := state.purgeExpired now
  match state.tasks.lookup taskId with
  | none => (.error (.taskNotFound taskId), state)
  | some record =>
      if record.snapshot.isFinished then
        (.error (.taskAlreadyFinished taskId), state)
      else
        match record.cancellation with
        | some cancellation => (.ok ⟨cancellation.cell⟩, state)
        | none => (.error .stateUnavailable, state)

/-- Publish the running snapshot of a reserved task. -/
def publishRunning (now : ℕ) (owner : SubmitExecutionOwner)
    (snapshot : TaskSnapshot) (effectiveLimits : VerifiedEffectiveLimits)
    (cancellation : RunningCancellation) (state : RegistryState) :
    Except RegistryError TaskSnapshot × RegistryState :=
  match snapshot with
  | .finished _ => (.error .runningSnapshotRequired, state)
  | .running actual _ _ =>
      match verifyTaskId owner.taskId actual with
      | .error error => (.error error, state)
      | .ok () =>
          let state := state.purgeExpired now
          match state.verifyOwner owner with
          | .error error => (.error error, state)
          | .ok () =>
              if owner.taskId ∈ state.tasks then
                (.error (.taskAlreadyExists owner.taskId), state)
              else
                (.ok snapshot,
                  { state with
                    tasks := state.tasks.insert owner.taskId
                      { snapshot
                        effectiveLimits := some effectiveLimits
                        finishedMonotonic := none
                        cancellation := some cancellation } })

/-- Store a finished record and queue its expiration. -/
def storeFinished (taskId : String) (record : TaskRecord)
    (finishedMonotonic : ℕ) (state : RegistryState) : RegistryState :=
  { state with
    tasks := state.tasks.insert taskId record
    finishedExpirations :=
      state.finishedExpirations ++ [⟨taskId, finishedMonotonic⟩] }

/-- Store the finished snapshot of a reserved task.  The clock is read twice:
once by the purge and once for the finish time. -/
def finishSnapshot (now finishedMonotonic : ℕ)
    (owner : SubmitExecutionOwner) (snapshot : TaskSnapshot)
    (state : RegistryState) :
    Except RegistryError FinishedTaskPublication × RegistryState :=
  match snapshot with
  | .running _ _ _ => (.error .finishedSnapshotRequired, state)
  | .finished result =>
      match verifyTaskId owner.taskId result.taskId with
      | .error error => (.error error, state)
      | .ok () =>
          let state := state.purgeExpired now
          match state.verifyOwner owner with
          | .error error => (.error error, state)
          | .ok () =>
              match state.tasks.lookup owner.taskId with
              | some record =>
                  if record.finishedMonotonic.isSome then
                    (.error (.taskAlreadyFinished owner.taskId), state)
                  else
                    (.ok
                      { snapshot
                        cancellation := record.cancellation
                        submitSignal := owner.signal },
                      state.storeFinished owner.taskId
                        { record with
                          snapshot
                          finishedMonotonic := some finishedMonotonic
                          cancellation := none }
                        finishedMonotonic)
              | none =>
                  -- A failed start is stored without ever having been running.
                  (.ok
                    { snapshot
                      cancellation := none
                      submitSignal := owner.signal },
                    state.storeFinished owner.taskId
                      { snapshot
                        effectiveLimits := none
                        finishedMonotonic := some finishedMonotonic
                        cancellation := none }
                      finishedMonotonic)

/-- Withdraw the reservation of an owner that failed before it published
anything; a published task is kept and returned. -/
def releaseFailedOwner (now : ℕ) (owner : SubmitExecutionOwner)
    (state : RegistryState) :
    Except RegistryError (Option TaskSnapshot) × RegistryState :=
  let state := state.purgeExpired now
  match state.verifyOwner owner with
  | .error error => (.error error, state)
  | .ok () =>
      match state.tasks.lookup owner.taskId with
      | some record => (.ok (some record.snapshot), state)
      | none =>
          let removedRequest := state.requests.lookup owner.clientRequestId
          let removedClientRequestId := state.taskRequests.lookup owner.taskId
          (.ok none,
            { state with
              requests := state.requests.erase owner.clientRequestId
              taskRequests := state.taskRequests.erase owner.taskId }
              |>.debugAssert removedRequest.isSome
              |>.debugAssert
                (removedClientRequestId = some owner.clientRequestId))

end RegistryState

/-- The locked sections of the registry, with the arguments of their callers.
An owner is any value: nothing below needs it to come from a reservation. -/
inductive Operation where
  | reserveSubmitWith (request : ValidatedSubmit) (candidate : String)
  | existingSubmit (request : ValidatedSubmit)
  | snapshot (taskId : String)
  | snapshotByClientRequestId (clientRequestId : String)
  | hasClientRequestId (clientRequestId : String)
  | effectiveLimitsFor (taskId : String) (observation : SubmitObservation)
  | requestCancel (taskId : String)
  | publishRunning (owner : SubmitExecutionOwner) (snapshot : TaskSnapshot)
      (effectiveLimits : VerifiedEffectiveLimits)
      (cancellation : RunningCancellation)
  | finishSnapshot (owner : SubmitExecutionOwner) (snapshot : TaskSnapshot)
      (pause : ℕ)
  | releaseFailedOwner (owner : SubmitExecutionOwner)

/-- State after an operation whose purge reads the clock at `now`. -/
def Operation.apply (now : ℕ) (state : RegistryState) :
    Operation → RegistryState
  | reserveSubmitWith request candidate =>
      (state.reserveSubmitWith now request candidate).2
  | existingSubmit request => (state.existingSubmit now request).2
  | snapshot taskId => (state.snapshot now taskId).2
  | snapshotByClientRequestId clientRequestId =>
      (state.snapshotByClientRequestId now clientRequestId).2
  | hasClientRequestId clientRequestId =>
      (state.hasClientRequestId now clientRequestId).2
  | effectiveLimitsFor taskId observation =>
      (state.effectiveLimitsFor now taskId observation).2
  | requestCancel taskId => (state.requestCancel now taskId).2
  | publishRunning owner running effectiveLimits cancellation =>
      (state.publishRunning now owner running effectiveLimits cancellation).2
  | finishSnapshot owner finished pause =>
      (state.finishSnapshot now (now + pause) owner finished).2
  | releaseFailedOwner owner => (state.releaseFailedOwner now owner).2

/-- The owner on whose behalf an operation is called. -/
def Operation.ActsFor : Operation → SubmitExecutionOwner → Prop
  | publishRunning owner _ _ _, other => other = owner
  | finishSnapshot owner _ _, other => other = owner
  | releaseFailedOwner owner, other => other = owner
  | _, _ => False

/-- Last clock reading of an operation that begins at `now`. -/
def Operation.lastReading (now : ℕ) : Operation → ℕ
  | finishSnapshot _ _ pause => now + pause
  | _ => now

end Registry
end TaskCage
