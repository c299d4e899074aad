import TaskCage.Core.Submission
import TaskCage.Executor.Execute
import TaskCage.Linux.Command

/-!
# The execution port

What the application asks the Linux side for: run one task and return its
terminal snapshot, or a failure that says what is known about its cleanup.  The
execution of a Profile task also publishes its output files.
-/

namespace TaskCage

/-- The control group limits of a budget. -/
def ResourceBudget.cgroupLimits (budget : ResourceBudget) :
    Linux.CgroupLimits where
  memoryMaxBytes := budget.resources.memoryMaxBytes
  maxProcesses := budget.resources.pidsMax
  cpu := budget.resources.cpu

/-- The longest run time of a budget. -/
def ResourceBudget.wallTimeout (budget : ResourceBudget) : ℕ :=
  Duration.fromMillis budget.resources.wallTimeLimitMs

/-- The limits that were applied, with the run time that was requested. -/
def ResourceBudget.verifiedEffectiveLimits (budget : ResourceBudget)
    (applied : Linux.CgroupLimits) : VerifiedEffectiveLimits where
  resources :=
    { cpu := applied.cpu
      memoryMaxBytes := applied.memoryMaxBytes
      pidsMax := applied.maxProcesses
      wallTimeLimitMs := budget.resources.wallTimeLimitMs }

namespace Executor

open FailStop Linux Process

variable {Rest : Type}

/-- What a task is run with. -/
structure TaskRunConfig where
  taskId : String
  submittedAt : String
  cleanupTimeout : ℕ
  plan : ResolvedExecutionPlan

/-- A failed task, with what is known about its cleanup. -/
structure TaskRunFailure where
  message : String
  kind : TaskRunFailureKind
  capacityReusable : Bool
  cleanupComplete : Bool
deriving DecidableEq

namespace TaskRunFailure

/-- A failure after which nothing is left of the task. -/
def withReusableCapacity (error : RunError) : TaskRunFailure where
  message := error.message
  kind := .other
  capacityReusable := true
  cleanupComplete := true

/-- The failure of a task that met a fail-stop before it began. -/
def failStopping : TaskRunFailure where
  message := RunError.cleanupUncertain.message
  kind := .other
  capacityReusable := false
  cleanupComplete := true

/-- The failure of an execution. -/
def ofCore (failure : CoreFailure) : TaskRunFailure where
  message := failure.error.message
  kind := failure.kind
  capacityReusable := !failure.blockFutureRuns
  cleanupComplete := failure.cleanupComplete

end TaskRunFailure

/-- Check a resolved command. -/
def prepareResolvedCommand (command : ResolvedCommand) :
    Except ExecutorError PreparedCommand :=
  match command.executable with
  | .path program =>
      PreparedCommand.new (program :: command.arguments) command.workingDirectory
        command.environment
  | .pinned descriptor argv0 =>
      PreparedCommand.newPinned descriptor (argv0 :: command.arguments)
        command.workingDirectory command.environment

/-- What `execute` is given for a task. -/
def TaskRunConfig.execution (config : TaskRunConfig) : ExecutionConfig where
  jobId := config.taskId
  limits := config.plan.budget.cgroupLimits
  wallTimeout := config.plan.budget.wallTimeout
  cleanupTimeout := config.cleanupTimeout

/-- The lifecycle of a task that was started.  The same start time goes into
the announcement and into the cleaned run. -/
def TaskRunConfig.lifecycle (config : TaskRunConfig)
    (startTime : TaskStartTime) : SingleTaskLifecycle :=
  .running
    { taskId := config.taskId
      submittedAt := config.submittedAt
      startedAt := startTime.wallClock
      startedMonotonic := startTime.monotonic }

/-- What is announced when the program runs. -/
def TaskRunConfig.onStarted (config : TaskRunConfig)
    (startTime : TaskStartTime) (applied : CgroupLimits) :
    VerifiedRunningTask where
  snapshot := (config.lifecycle startTime).snapshot
  effectiveLimits := config.plan.budget.verifiedEffectiveLimits applied

/-- What a cleaned run leaves for the terminal snapshot. -/
def CleanedRun.completionData (run : CleanedRun) : CompletionData where
  evidence := run.evidence
  control := run.control
  stats := run.stats
  output := run.output
  daemonError := run.daemonError

/-- Only a finished snapshot completes a task. -/
def requireFinished (snapshot : TaskSnapshot) :
    Except TaskRunFailure TaskSnapshot :=
  if snapshot.isFinished then
    .ok snapshot
  else
    .error (.withReusableCapacity (.taskLifecycle
      "정리가 끝난 실행 결과가 FINISHED가 아닙니다"))

/-- The terminal snapshot of a cleaned run. -/
def TaskRunConfig.completed (config : TaskRunConfig) (run : CleanedRun)
    (finishedAt : String) (finishedMonotonic : ℕ) :
    Except TaskRunFailure TaskSnapshot :=
  match (config.lifecycle run.startTime).complete run.completionData finishedAt
      finishedMonotonic with
  | .error error =>
      .error (.withReusableCapacity (.taskLifecycle error.message))
  | .ok (payload, _) => requireFinished payload

/-- Whether the coordinator is fail-stopping. -/
def isFailStopping : Execution Rest Bool :=
  update fun _ shared => (shared.coordinator.isFailStopping, shared)

/-- Take the time of the end. -/
def captureFinishTime : Execution Rest TaskStartTime :=
  ask (fun answers world => ⟨answers.wallClock world, world.now⟩)
    fun time => .finishCaptured time.wallClock time.monotonic

/-- Begin the fail-stop when a failed execution asks for it. -/
def blockFutureRuns (failure : CoreFailure) : Execution Rest Unit :=
  if failure.blockFutureRuns then do
    let _ ← activate failure.report
    pure ()
  else
    pure ()

/-- Run one task; only a confirmed cleanup makes a terminal snapshot. -/
def runTask (manager : CgroupManager) (config : TaskRunConfig) :
    Execution Rest (Except TaskRunFailure TaskSnapshot) := do
  if ← isFailStopping then
    pure (.error .failStopping)
  else
    match prepareResolvedCommand config.plan.command with
    | .error error => pure (.error (.withReusableCapacity (.executor error)))
    | .ok _ =>
        match ← execute manager config.execution true config.onStarted with
        | .error failure =>
            blockFutureRuns failure
            pure (.error (.ofCore failure))
        | .ok run =>
            let finish ← captureFinishTime
            pure (config.completed run finish.wallClock finish.monotonic)

/-! ### The port -/

/-- A failed execution, as its owner sees it. -/
structure ExecutionFailure where
  submit : SubmitFailure
  capacityReusable : Bool
  cleanupComplete : Bool
deriving DecidableEq

namespace ExecutionFailure

/-- What a failed task is reported as. -/
def ofRunner (failure : TaskRunFailure) : ExecutionFailure where
  submit :=
    match failure.kind with
    | .cgroupReadBackMismatch =>
        ⟨.internalError, "cgroup limit read-back verification failed"⟩
    | .cgroupReadBackRollbackUncertain =>
        ⟨.environmentUnavailable,
          "cgroup v2 execution environment is unavailable"⟩
    | .other => ⟨.internalError, failure.message⟩
  capacityReusable := failure.capacityReusable
  cleanupComplete := failure.cleanupComplete

/-- The failure to publish the output of a Profile task. -/
def ofPublication (message : String) : ExecutionFailure where
  submit := ⟨.internalError, message⟩
  capacityReusable := false
  cleanupComplete := false

end ExecutionFailure

/-- The two kinds of tasks.  How the output files of a Profile task are
published is not modelled here: the outcome is any text of an error, or
none. -/
inductive TaskKind (Rest : Type) where
  | raw
  | profile (finalize : World Linux.Event (TaskShared Rest) → TaskSnapshot →
      Except String Unit)

/-- The execution port of a task. -/
def executeTask (kind : TaskKind Rest) (manager : CgroupManager)
    (config : TaskRunConfig) :
    Execution Rest (Except ExecutionFailure TaskSnapshot) := do
  match ← runTask manager config with
  | .error failure => pure (.error (.ofRunner failure))
  | .ok payload =>
      match kind with
      | .raw => pure (.ok payload)
      | .profile finalize =>
          match ← act fun _ world =>
              (finalize world payload, [], world.shared) with
          | .error message => pure (.error (.ofPublication message))
          | .ok () => pure (.ok payload)

end Executor
end TaskCage
