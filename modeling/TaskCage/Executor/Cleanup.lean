import TaskCage.Executor.State

/-!
# Cleanup of an execution

What an execution does about the things it has created: the job cgroup, the
child and the output readers.  Where a coordinator is given, a cleanup that
fails begins the fail-stop and is tried once more until the process-wide
deadline.
-/

namespace TaskCage
namespace Executor

open FailStop Linux Process

variable {Rest : Type}

/-- A finished job: its statistics, whether only the second attempt succeeded,
and the deadline that applied. -/
structure JobFinish where
  stats : JobStats
  recovered : Bool
  deadline : MonotonicDeadline
deriving DecidableEq

/-- The texts of the errors among some results. -/
def errorTexts {Error Value : Type} (text : Error → String) :
    Except Error Value → List String
  | .ok _ => []
  | .error error => [text error]

/-- Finish a job, and once more under the fail-stop deadline. -/
def finishJobWithRetry (job : JobCgroup) (deadline : MonotonicDeadline)
    (killAlreadySent failStop : Bool) (jobId stage : String) :
    Execution Rest (Except CgroupError JobFinish × JobCgroup) := do
  let (first, job) ←
    (if killAlreadySent then job.finishAfterKillUntil deadline
      else job.finishUntil deadline)
  match first with
  | .ok stats => pure (.ok ⟨stats, false, deadline⟩, job)
  | .error firstError =>
      if failStop then
        let retryDeadline ← activate
          { taskId := jobId
            stage
            uncleaned := ["작업 cgroup"]
            retry := "process-wide deadline으로 whole-cgroup 정리를 재시도함" }
        if job.cleaned then
          pure (.error firstError, job)
        else
          let (second, job) ← job.finishUntil retryDeadline
          match second with
          | .ok stats => pure (.ok ⟨stats, true, retryDeadline⟩, job)
          | .error retryError =>
              pure (.error (.cleanupCombined firstError.message
                retryError.message), job)
      else
        pure (.error firstError, job)

/-- The deadline for the output after the job was finished. -/
def outputDeadline (failStop : Bool) (finished : Except CgroupError JobFinish)
    (fallback : MonotonicDeadline) : Execution Rest MonotonicDeadline :=
  match finished with
  | .ok finish => pure finish.deadline
  | .error _ => do
      let deadline ← failStopDeadline failStop
      pure (deadline.getD fallback)

/-- Clean up a job without a child, for a fail-stop. -/
def cleanupJobForFailStop (job : JobCgroup) (deadline : MonotonicDeadline)
    (jobId stage : String) : Execution Rest CoreFailure := do
  let (finished, job) ← job.finishUntil deadline
  job.drop
  match finished with
  | .ok _ => pure (.failStopBeforeSideEffect jobId)
  | .error error => pure (.uncertain jobId stage error.message ["작업 cgroup"])

/-- The failure of an execution whose job was cleaned up after it; the child
may be uncertain. -/
def CoreFailure.afterJob (jobId stage cause : String)
    (isolationUncertain : Bool) :
    Except CgroupError JobFinish → CoreFailure
  | .ok _ =>
      { error := .runFailed stage cause []
        kind := .other
        blockFutureRuns := isolationUncertain
        cleanupComplete := !isolationUncertain
        report :=
          { taskId := jobId
            stage
            uncleaned := ["pending child 종료 상태"]
            retry := "cgroup 정리는 확인했지만 child 회수 근거가 부족함" } }
  | .error error =>
      .uncertainWithCause jobId stage cause error.message ["작업 cgroup"]

/-- Clean up a job after a failure. -/
def cleanupJobAfterFailure (job : JobCgroup) (timeout : ℕ) (jobId : String)
    (failStop : Bool) (stage cause : String) (isolationUncertain : Bool) :
    Execution Rest (CoreFailure × JobCgroup) := do
  match ← deadlineFromNow timeout with
  | none =>
      pure (.uncertain jobId stage RunError.cleanupUncertain.message
        ["작업 cgroup"], job)
  | some deadline =>
      let (finished, job) ←
        finishJobWithRetry job deadline false failStop jobId stage
      pure (.afterJob jobId stage cause isolationUncertain finished, job)

/-- Abort a pending child, and once more under the fail-stop deadline. -/
def abortWithRetry (pending : PendingProcess) (deadline : MonotonicDeadline)
    (failStop : Bool) (jobId stage : String) :
    Execution Rest
      (Except ExecutorError Unit × PendingProcess × MonotonicDeadline) := do
  let (aborted, pending) ← pending.abortUntil deadline
  match aborted with
  | .ok () => pure (.ok (), pending, deadline)
  | .error error =>
      if failStop then
        let effectiveDeadline ← activate
          { taskId := jobId
            stage
            uncleaned := ["pending child"]
            retry := "process-wide deadline으로 pending child 회수를 재시도함" }
        let (again, pending) ← pending.abortUntil effectiveDeadline
        pure (again, pending, effectiveDeadline)
      else
        pure (.error error, pending, deadline)

/-- The failure of an execution whose pending child was aborted. -/
def CoreFailure.afterPending (jobId stage cause : String)
    (aborted : Except ExecutorError Unit)
    (finished : Except CgroupError JobFinish) : CoreFailure :=
  let uncertain := !aborted.isOk || !finished.isOk
  { error := .runFailed stage cause
      (errorTexts ExecutorError.message aborted ++
        errorTexts CgroupError.message finished)
    kind := .other
    blockFutureRuns := uncertain
    cleanupComplete := !uncertain
    report :=
      { taskId := jobId
        stage
        uncleaned := ["pending child", "작업 cgroup"]
        retry :=
          if uncertain then
            "작업별 deadline 안의 pending child rollback 실패"
          else "pending child rollback 완료" } }

/-- Abort a pending child and clean up its job. -/
def cleanupPendingJobUntil (job : JobCgroup) (pending : PendingProcess)
    (deadline : MonotonicDeadline) (jobId : String) (failStop : Bool)
    (stage cause : String) : Execution Rest (CoreFailure × JobCgroup) := do
  let (aborted, pending, effectiveDeadline) ←
    abortWithRetry pending deadline failStop jobId stage
  let (finished, job) ←
    finishJobWithRetry job effectiveDeadline false failStop jobId stage
  pending.drop
  pure (.afterPending jobId stage cause aborted finished, job)

/-- Abort a pending child and clean up its job, with a deadline of its own. -/
def cleanupPendingJob (job : JobCgroup) (pending : PendingProcess)
    (timeout : ℕ) (jobId : String) (failStop : Bool) (stage cause : String) :
    Execution Rest (CoreFailure × JobCgroup) := do
  match ← deadlineFromNow timeout with
  | none =>
      pending.drop
      pure (.uncertain jobId stage RunError.cleanupUncertain.message
        ["pending child", "작업 cgroup"], job)
  | some deadline =>
      cleanupPendingJobUntil job pending deadline jobId failStop stage cause

/-- End an execution with a failure and give up its job. -/
def giveUp (cleanup : Execution Rest (CoreFailure × JobCgroup)) :
    Execution Rest (Except CoreFailure CleanedRun) := do
  let (failure, job) ← cleanup
  job.drop
  pure (.error failure)

/-- A started process whose child has been waited for. -/
structure StartedCompletion where
  jobId : String
  startTime : TaskStartTime
  process : SpawnedProcess
  status : ProcessExit
  control : ControlTriggers
  killAlreadySent : Bool
  cleanupDeadline : MonotonicDeadline
  daemonError : Bool

/-- Report output readers that did not give their result although the job was
finished. -/
def reportOutputFailure (failStop : Bool) (jobId : String)
    (finished : Except CgroupError JobFinish)
    (output : Except ExecutorError CapturedOutput) : Execution Rest Unit :=
  if failStop && finished.isOk && !output.isOk then do
    let _ ← activate
      { taskId := jobId
        stage := "출력 reader 정리"
        uncleaned := ["stdout 또는 stderr reader"]
        retry := "reader 취소와 join 뒤 결과 근거를 회수하지 못함" }
    pure ()
  else
    pure ()

/-- The result of a started process, from what became of its job and its
output. -/
def StartedCompletion.result (completion : StartedCompletion)
    (finished : Except CgroupError JobFinish)
    (output : Except ExecutorError CapturedOutput) :
    Except CoreFailure CleanedRun :=
  match finished, output with
  | .ok finish, .ok output =>
      .ok
        { jobId := completion.jobId
          pid := completion.process.pid
          membershipVerified := true
          startTime := completion.startTime
          evidence := .started (.fromExit completion.status)
          control := completion.control
          stats := finish.stats
          output
          daemonError := completion.daemonError || finish.recovered }
  | .error cgroupError, .ok _ =>
      .error (.uncertain completion.jobId "작업 cgroup 정리"
        cgroupError.message ["작업 cgroup"])
  | .ok _, .error outputError =>
      .error (.uncertain completion.jobId "출력 reader 정리"
        outputError.message ["stdout 또는 stderr reader"])
  | .error cgroupError, .error outputError =>
      .error
        { error := .runFailed "작업 cgroup 정리" cgroupError.message
            [outputError.message]
          kind := .other
          blockFutureRuns := true
          cleanupComplete := false
          report :=
            { taskId := completion.jobId
              stage := "작업 cgroup과 출력 reader 정리"
              uncleaned := ["작업 cgroup", "stdout 또는 stderr reader"]
              retry := "작업별 deadline 안의 정리 재시도 실패" } }

/-- Finish the job of a child that was waited for, then its output: a process
left in the cgroup may still hold the output open. -/
def finishCleanedStarted (job : JobCgroup) (completion : StartedCompletion)
    (failStop : Bool) : Execution Rest (Except CoreFailure CleanedRun) := do
  let (finished, job) ←
    finishJobWithRetry job completion.cleanupDeadline
      completion.killAlreadySent failStop completion.jobId "작업 cgroup 정리"
  let deadline ← outputDeadline failStop finished completion.cleanupDeadline
  let output ← OutputReaders.collectUntil deadline
  reportOutputFailure failStop completion.jobId finished output
  job.drop
  pure (completion.result finished output)

/-- What is known when the first cleanup step of a running child failed. -/
structure RecoveryContext where
  jobId : String
  startTime : TaskStartTime
  deadline : MonotonicDeadline
  stage : String
  cause : String
  control : ControlTriggers

/-- Kill and wait for a running child, and once more under the fail-stop
deadline.  Returns both results, the errors of the first attempt and the
deadline that applies from now on. -/
def killAndReap (job : JobCgroup) (process : SpawnedProcess)
    (context : RecoveryContext) (failStop : Bool) :
    Execution Rest
      (Except CgroupError Unit × Except ExecutorError ProcessExit ×
        List String × MonotonicDeadline) := do
  let killed ← job.killAll
  let reaped ← process.reapAfterKillUntil context.deadline
  let errors := errorTexts CgroupError.message killed ++
    errorTexts ExecutorError.message reaped
  if failStop then
    let effectiveDeadline ← activate
      { taskId := context.jobId
        stage := context.stage
        uncleaned := ["direct child", "작업 cgroup"]
        retry := "process-wide deadline으로 whole-cgroup 종료와 child 회수를 재시도함" }
    let killed ← (if !killed.isOk then job.killAll else pure killed)
    let reaped ← (if !reaped.isOk then
      process.reapAfterKillUntil effectiveDeadline else pure reaped)
    pure (killed, reaped, errors, effectiveDeadline)
  else
    pure (killed, reaped, errors, context.deadline)

/-- The result of a process whose cleanup had to be repeated. -/
def RecoveryContext.result (context : RecoveryContext)
    (process : SpawnedProcess) (killed : Except CgroupError Unit)
    (reaped : Except ExecutorError ProcessExit)
    (finished : Except CgroupError JobFinish)
    (output : Except ExecutorError CapturedOutput) (errors : List String) :
    Except CoreFailure CleanedRun :=
  match killed, reaped, finished, output with
  | .ok (), .ok status, .ok finish, .ok output =>
      .ok
        { jobId := context.jobId
          pid := process.pid
          membershipVerified := true
          startTime := context.startTime
          evidence := .started (.fromExit status)
          control := context.control
          stats := finish.stats
          output
          daemonError := true }
  | _, _, _, _ =>
      .error
        { error := .runFailed context.stage context.cause errors
          kind := .other
          blockFutureRuns := true
          cleanupComplete := false
          report :=
            { taskId := context.jobId
              stage := context.stage
              uncleaned :=
                ["direct child", "작업 cgroup", "stdout 또는 stderr reader"]
              retry := "작업별 deadline 안의 정리 재시도 실패" } }

/-- Clean up a running child after a cleanup step failed; the fail-stop is
begun even when everything succeeds now. -/
def cleanupRunningJob (job : JobCgroup) (process : SpawnedProcess)
    (context : RecoveryContext) (failStop : Bool) :
    Execution Rest (Except CoreFailure CleanedRun) := do
  let (killed, reaped, errors, effectiveDeadline) ←
    killAndReap job process context failStop
  let (finished, job) ←
    finishJobWithRetry job effectiveDeadline killed.isOk failStop
      context.jobId context.stage
  let deadline ← outputDeadline failStop finished effectiveDeadline
  let reapAgain := !reaped.isOk && finished.isOk
  let reaped ←
    (if reapAgain then process.reapAfterKillUntil deadline else pure reaped)
  let output ← OutputReaders.collectUntil deadline
  job.drop
  pure (context.result process killed reaped finished output
    (errors ++ errorTexts CgroupError.message finished ++
      (if reapAgain then errorTexts ExecutorError.message reaped else []) ++
      errorTexts ExecutorError.message output))

end Executor
end TaskCage
