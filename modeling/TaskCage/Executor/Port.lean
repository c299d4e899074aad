import TaskCage.Executor.Frame
import TaskCage.Executor.Soundness
import TaskCage.Foundation.Assertion

/-!
# What the execution port promises

The port makes the moves of an execution and no others.  A failure that leaves
its slot unusable comes with a fail-stop, unless it is the publication of the
output files that failed; a failure that leaves its slot usable comes after a
complete cleanup.
-/

namespace TaskCage
namespace Executor

open FailStop Linux Process

variable {Rest : Type}

section Frame

variable {Announces : VerifiedRunningTask → Prop}
variable {Moves : World Linux.Event (TaskShared Rest) →
  World Linux.Event (TaskShared Rest) → Prop}
variable (moves : ExecutionMoves Announces Moves) {config : TaskRunConfig}
variable (announces : ∀ startTime limits,
  Announces (config.onStarted startTime limits))
include moves announces

theorem keeps_runTask (manager : CgroupManager) :
    Keeps (runTask manager config : Execution Rest _) Moves := by
  have permits := moves.permits
  refine permits.bind ?_ fun stopping => ?_
  · exact permits.update fun world => moves.reflexive.refl world
  · split
    · exact permits.pure _
    · split
      · exact permits.pure _
      · refine permits.bind (keeps_execute moves announces _ _ _) fun
          | .error failure => permits.bind ?_ fun _ => permits.pure _
          | .ok run => permits.bind (permits.ask _ _) fun _ => permits.pure _
        unfold blockFutureRuns
        split
        · exact permits.bind (keeps_activate moves _) fun _ => permits.pure _
        · exact permits.pure _

/-- The port makes no other moves than these. -/
theorem keeps_executeTask (kind : TaskKind Rest) (manager : CgroupManager) :
    Keeps (executeTask kind manager config) Moves := by
  have permits := moves.permits
  refine permits.bind (keeps_runTask moves announces manager) fun ran => ?_
  cases ran with
  | error failure => exact permits.pure _
  | ok payload =>
      cases kind with
      | raw => exact permits.pure _
      | profile finalize =>
          refine permits.bind (.act moves.transitive fun _ world => ?_) fun
            | .error _ => permits.pure _
            | .ok _ => permits.pure _
          simpa using moves.reflexive.refl world

end Frame

/-! ### Promises -/

/-- A fail-stop is never taken back. -/
def StopLasts (world reached : World Linux.Event (TaskShared Rest)) : Prop :=
  world.shared.coordinator.isFailStopping = true →
    reached.shared.coordinator.isFailStopping = true

/-- What is promised about a task that was run: only a finished snapshot is
returned, a usable slot is clean, and an unusable one comes with a
fail-stop. -/
structure RunPromise (result : Except TaskRunFailure TaskSnapshot)
    (world : World Linux.Event (TaskShared Rest)) : Prop where
  finished : ∀ payload, result = .ok payload → payload.isFinished = true
  reusable : ∀ failure, result = .error failure →
    failure.capacityReusable = true → failure.cleanupComplete = true
  blocked : ∀ failure, result = .error failure →
    failure.capacityReusable = false →
    world.shared.coordinator.isFailStopping = true

/-- What the port promises. -/
structure PortPromise (result : Except ExecutionFailure TaskSnapshot)
    (world : World Linux.Event (TaskShared Rest)) : Prop where
  finished : ∀ payload, result = .ok payload → payload.isFinished = true
  reusable : ∀ failure, result = .error failure →
    failure.capacityReusable = true → failure.cleanupComplete = true
  blocked : ∀ failure, result = .error failure →
    failure.capacityReusable = false → failure.cleanupComplete = true →
    world.shared.coordinator.isFailStopping = true

/-- A failure after a complete cleanup. -/
theorem RunPromise.of_reusable (error : RunError)
    (world : World Linux.Event (TaskShared Rest)) :
    RunPromise (.error (.withReusableCapacity error)) world where
  finished _ := nofun
  reusable := by
    rintro _ ⟨⟩
    exact fun _ => rfl
  blocked := by
    rintro _ ⟨⟩
    exact nofun

theorem RunPromise.of_completed (config : TaskRunConfig) (run : CleanedRun)
    (finishedAt : String) (finishedMonotonic : ℕ)
    (world : World Linux.Event (TaskShared Rest)) :
    RunPromise (config.completed run finishedAt finishedMonotonic) world := by
  unfold TaskRunConfig.completed requireFinished
  split
  · exact .of_reusable _ world
  · split
    · rename_i finished
      refine ⟨?_, fun _ => nofun, fun _ => nofun⟩
      rintro _ ⟨⟩
      exact finished
    · exact .of_reusable _ world

theorem ensures_blockFutureRuns (failure : CoreFailure) :
    Ensures StopLasts (fun _ => True)
      (blockFutureRuns failure : Execution Rest Unit)
      fun _ world => failure.blockFutureRuns = true →
        world.shared.coordinator.isFailStopping = true := by
  unfold blockFutureRuns
  split
  · refine .bind (.act (fun _ _ _ _ => trivial) fun _ world _ => ?_)
      fun _ => .pure fun _ stopping _ => stopping
    exact Coordinator.isFailStopping_activate world.now failure.report
  · rename_i free
    exact .pure fun _ _ blocked => (free blocked).elim

theorem ensures_failed (failure : CoreFailure) :
    Ensures StopLasts
      (fun _ => ∃ events, Concluded (.error failure) events)
      (do
        blockFutureRuns failure
        pure (.error (.ofCore failure)) :
          Execution Rest (Except TaskRunFailure TaskSnapshot))
      RunPromise := by
  refine .exists_elim fun events surroundings respects world concluded => ?_
  refine Ensures.bind (ensures_blockFutureRuns failure) (fun _ =>
    .pure fun world stopping => ?_) surroundings respects world trivial
  refine ⟨fun _ => nofun, ?_, ?_⟩
  · rintro _ ⟨⟩ reusable
    cases complete : failure.cleanupComplete with
    | true => exact complete
    | false =>
        have blocked := concluded.blocked failure rfl complete
        simp [TaskRunFailure.ofCore, blocked] at reusable
  · rintro _ ⟨⟩ blocked
    exact stopping (by simpa [TaskRunFailure.ofCore] using blocked)

theorem ensures_runTask (manager : CgroupManager) (config : TaskRunConfig) :
    Ensures StopLasts (fun _ => True)
      (runTask manager config : Execution Rest _)
      RunPromise := by
  have asked : Ensures StopLasts (fun _ => True)
      (isFailStopping : Execution Rest Bool)
      fun stopping world =>
        world.shared.coordinator.isFailStopping = stopping :=
    .update (fun _ _ _ _ => trivial) fun _ _ => rfl
  refine .bind asked fun stopping => ?_
  cases stopping with
  | true =>
      refine .pure fun world stops => ⟨fun _ => nofun, ?_, ?_⟩
      · rintro _ ⟨⟩
        exact nofun
      · rintro _ ⟨⟩ _
        exact stops
  | false =>
      cases prepareResolvedCommand config.plan.command with
      | error error => exact .pure fun world _ => RunPromise.of_reusable _ world
      | ok command =>
          refine .bind (.of_produces (produces_execute manager
            config.execution true config.onStarted)) fun executed => ?_
          cases executed with
          | error failure => exact ensures_failed failure
          | ok run =>
              have captured : Ensures StopLasts
                  (fun _ => ∃ events, Concluded (.ok run) events)
                  (captureFinishTime : Execution Rest TaskStartTime)
                  fun _ _ => True := fun _ _ _ _ => trivial
              exact .bind captured fun _ => .pure fun world _ =>
                RunPromise.of_completed config run _ _ world

theorem ensures_executeTask (kind : TaskKind Rest) (manager : CgroupManager)
    (config : TaskRunConfig) :
    Ensures StopLasts (fun _ => True) (executeTask kind manager config)
      PortPromise := by
  refine .bind (ensures_runTask manager config) fun ran => ?_
  cases ran with
  | error failed =>
      refine .pure fun world promise => ⟨fun _ => nofun, ?_, ?_⟩
      · rintro _ ⟨⟩
        exact promise.reusable failed rfl
      · rintro _ ⟨⟩ blocked _
        exact promise.blocked failed rfl blocked
  | ok payload =>
      have returned {world : World Linux.Event (TaskShared Rest)}
          (finished : payload.isFinished = true) :
          PortPromise (.ok payload) world := by
        refine ⟨?_, fun _ => nofun, fun _ => nofun⟩
        rintro _ ⟨⟩
        exact finished
      cases kind with
      | raw => exact .pure fun _ promise => returned (promise.finished _ rfl)
      | profile finalize =>
          have published : Ensures StopLasts (RunPromise (.ok payload))
              (act fun _ world => (finalize world payload, [], world.shared) :
                Execution Rest (Except String Unit))
              fun _ _ => payload.isFinished = true :=
            fun _ _ _ promise => promise.finished _ rfl
          refine .bind published fun
            | .error message => .pure fun _ _ => ⟨fun _ => nofun, ?_, ?_⟩
            | .ok _ => .pure fun _ finished => returned finished
          · rintro _ ⟨⟩
            exact nofun
          · rintro _ ⟨⟩ _
            exact nofun

end Executor
end TaskCage
