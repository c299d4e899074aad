import TaskCage.Core.Observation
import TaskCage.Executor.Lifecycle

/-!
# What an execution shares and returns

The state an execution shares with the rest of the daemon: the fail-stop
coordinator, the trigger latch of its task, and the channel on which it says
that the program runs.  `Rest` is whatever else the daemon has; an execution
does not touch it.
-/

namespace TaskCage
namespace Executor

open FailStop Linux Process

/-- A verified running task, as it is announced to its owner. -/
structure VerifiedRunningTask where
  snapshot : TaskSnapshot
  effectiveLimits : VerifiedEffectiveLimits
deriving DecidableEq

/-- The state shared with an execution. -/
structure TaskShared (Rest : Type) where
  coordinator : Coordinator
  latch : TerminalTriggerLatch
  announced : Option VerifiedRunningTask
  rest : Rest

/-- When a task was started. -/
structure TaskStartTime where
  wallClock : String
  monotonic : ℕ
deriving DecidableEq

/-- Errors of an execution, as far as it produces them. -/
inductive RunError where
  | cgroup (error : CgroupError)
  | executor (error : ExecutorError)
  | runFailed (stage cause : String) (cleanupErrors : List String)
  | cleanupUncertain
  | taskLifecycle (cause : String)
deriving DecidableEq

namespace RunError

/-- The text an error is displayed as. -/
def message : RunError → String
  | cgroup error => error.message
  | executor error => error.message
  | runFailed stage cause cleanupErrors =>
      "작업 " ++ stage ++ " 단계가 실패했습니다: " ++ cause ++
        "; 정리 오류=" ++ Text.quoteList cleanupErrors
  | cleanupUncertain => "이전 작업의 격리 정리를 확인하지 못해 새 작업을 실행할 수 없습니다"
  | taskLifecycle cause => "작업 lifecycle 결과를 만들지 못했습니다: " ++ cause

end RunError

/-- What a failed execution is reported as. -/
inductive TaskRunFailureKind where
  | cgroupReadBackMismatch
  | cgroupReadBackRollbackUncertain
  | other
deriving DecidableEq

/-- An execution whose cleanup was confirmed. -/
structure CleanedRun where
  jobId : String
  pid : ℕ
  membershipVerified : Bool
  startTime : TaskStartTime
  evidence : ExecutionEvidence
  control : ControlTriggers
  stats : JobStats
  output : CapturedOutput
  daemonError : Bool
deriving DecidableEq

/-- A failed execution, with what is known about its cleanup. -/
structure CoreFailure where
  error : RunError
  kind : TaskRunFailureKind
  blockFutureRuns : Bool
  cleanupComplete : Bool
  report : CleanupFailureReport
deriving DecidableEq

namespace CoreFailure

/-- The failure of a job cgroup that could not be made. -/
def beforeJob (jobId : String) (error : CgroupError) : CoreFailure :=
  let kind : TaskRunFailureKind :=
    match error with
    | .valueMismatch _ _ _ => .cgroupReadBackMismatch
    | .readBackRollbackUncertain _ _ => .cgroupReadBackRollbackUncertain
    | _ => .other
  { error := .cgroup error
    kind
    blockFutureRuns := error.mayLeaveJob
    cleanupComplete := !error.mayLeaveJob
    report :=
      { taskId := jobId
        stage := "작업 cgroup 생성"
        uncleaned := ["작업 cgroup rollback"]
        retry := "생성 실패 정리 결과를 확인함" } }

/-- The failure of an execution that was refused before it did anything. -/
def failStopBeforeSideEffect (jobId : String) : CoreFailure where
  error := .cleanupUncertain
  kind := .other
  blockFutureRuns := true
  cleanupComplete := true
  report :=
    { taskId := jobId
      stage := "실행 전 fail-stop 확인"
      uncleaned := []
      retry := "side effect 없음" }

/-- The failure of a cleanup. -/
def uncertain (jobId stage cause : String) (uncleaned : List String) :
    CoreFailure where
  error := .runFailed stage cause []
  kind := .other
  blockFutureRuns := true
  cleanupComplete := false
  report :=
    { taskId := jobId
      stage
      uncleaned
      retry := "작업별 deadline 안의 정리 재시도 실패" }

/-- The failure of a cleanup that another failure made necessary. -/
def uncertainWithCause (jobId stage cause cleanup : String)
    (uncleaned : List String) : CoreFailure where
  error := .runFailed stage cause [cleanup]
  kind := .other
  blockFutureRuns := true
  cleanupComplete := false
  report :=
    { taskId := jobId
      stage
      uncleaned
      retry := "작업별 deadline 안의 rollback 실패" }

end CoreFailure

variable {Rest : Type}

/-- Code of an execution. -/
abbrev Execution (Rest Result : Type) : Type :=
  Run (TaskShared Rest) Result

/-- The deadline of the fail-stop, where there is a coordinator and it is
fail-stopping. -/
def failStopDeadline (failStop : Bool) :
    Execution Rest (Option MonotonicDeadline) :=
  if failStop then
    update fun _ shared => (shared.coordinator.deadline, shared)
  else
    pure none

/-- Begin the fail-stop. -/
def activate (report : CleanupFailureReport) :
    Execution Rest MonotonicDeadline :=
  act fun _ world =>
    let (deadline, coordinator) :=
      world.shared.coordinator.activate world.now report
    (deadline, [.activated report], { world.shared with coordinator })

/-- A deadline that begins now. -/
def deadlineFromNow (timeout : ℕ) :
    Execution Rest (Option MonotonicDeadline) :=
  ask (fun _ world => MonotonicDeadline.fromStart world.now timeout)
    .cleanupStarted

/-- The recorded trigger. -/
def controlSnapshot : Execution Rest ControlTriggers :=
  update fun _ shared => (shared.latch.snapshot, shared)

/-- Record that the time of the task is over. -/
def observeTimeout : Execution Rest Bool :=
  update fun _ shared =>
    let (first, latch) := shared.latch.observe .timedOut
    (first, { shared with latch })

/-- Record that the target ended by itself. -/
def closeWithoutControl : Execution Rest Bool :=
  update fun _ shared =>
    let (first, latch) := shared.latch.closeWithoutControl
    (first, { shared with latch })

/-- Take the time of the start. -/
def captureStartTime : Execution Rest TaskStartTime :=
  ask (fun answers world => ⟨answers.wallClock world, world.now⟩)
    fun time => .startCaptured time.wallClock time.monotonic

/-- Say that the program runs. -/
def announce (running : VerifiedRunningTask) : Execution Rest Unit :=
  update fun _ shared => ((), { shared with announced := some running })

end Executor
end TaskCage
