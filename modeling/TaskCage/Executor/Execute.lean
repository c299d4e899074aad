import TaskCage.Executor.Cleanup

/-!
# One execution

From the creation of the job cgroup to its confirmed cleanup.  The start of the
program is committed under the lock of the coordinator, so that no program
starts after a fail-stop has begun.
-/

namespace TaskCage
namespace Executor

open FailStop Linux Process

variable {Rest : Type}

/-- What an execution is given. -/
structure ExecutionConfig where
  jobId : String
  limits : CgroupLimits
  wallTimeout : ℕ
  cleanupTimeout : ℕ

/-- Whether the program may start. -/
inductive StartDecision where
  | committed
  | failStopping (deadline : MonotonicDeadline)
  | failed (cause : String)
deriving DecidableEq

namespace StartDecision

/-- The decision on a start that was not committed. -/
def ofError : StartCommitError → StartDecision
  | .failStopping deadline => failStopping deadline
  | .notActive taskId =>
      failed ("활성 실행 owner가 없는 taskId는 exec를 시작할 수 없습니다: " ++ taskId)
  | .alreadyResolved taskId state =>
      failed ("exec 시작이 이미 확정된 taskId입니다: " ++ taskId ++ " (" ++ state ++ ")")
  | .gate message => failed message

/-- The decision on the outcome of the start gate. -/
def ofGate : Except ExecutorError Unit → StartDecision
  | .ok () => committed
  | .error error => ofError (.gate error.message)

end StartDecision

/-- Open the start gate of a child once.  With a coordinator the gate is opened
while its lock is held. -/
def commitStart (failStop : Bool) (jobId : String) (pending : PendingProcess) :
    Execution Rest (StartDecision × PendingProcess) :=
  act fun answers world =>
    let signal : Except ExecutorError Unit × List Linux.Event :=
      if pending.startWriteEnd then
        let answer := answers.startSignal world pending.pid
        (PendingProcess.signalOutcome answer,
          [.startSignalled pending.pid answer])
      else
        (.error .startGateAlreadyResolved, [])
    let signalled := { pending with startWriteEnd := false }
    if failStop then
      match world.shared.coordinator.beginCommit jobId with
      | (.error error, coordinator) =>
          ((.ofError error, pending), [], { world.shared with coordinator })
      | (.ok _, coordinator) =>
          ((.ofGate signal.1, signalled), signal.2,
            { world.shared with
              coordinator := coordinator.endCommit jobId signal.1.isOk })
    else
      ((.ofGate signal.1, signalled), signal.2, world.shared)

/-- The deadline of the target; a budget that cannot be represented is over at
once. -/
def executionDeadline (startedAt wallTimeout : ℕ) : MonotonicDeadline :=
  (MonotonicDeadline.fromStart startedAt wallTimeout).getD
    (.expiredAt startedAt)

/-- Finish an execution whose program could not be executed. -/
def finishExecFailure (jobId : String) (job : JobCgroup)
    (failure : ExecFailure) (startTime : TaskStartTime) (cleanupTimeout : ℕ)
    (failStop : Bool) : Execution Rest (Except CoreFailure CleanedRun) := do
  match ← deadlineFromNow cleanupTimeout with
  | none =>
      job.drop
      pure (.error (.uncertain jobId "exec 실패 뒤 작업 cgroup 정리"
        RunError.cleanupUncertain.message ["cleanup deadline"]))
  | some deadline =>
      let (finished, job) ← finishJobWithRetry job deadline false failStop
        jobId "exec 실패 뒤 작업 cgroup 정리"
      job.drop
      match finished with
      | .ok finish =>
          pure (.ok
            { jobId
              pid := failure.pid
              membershipVerified := true
              startTime
              evidence := .startFailed failure.errno
              control := ⟨none⟩
              stats := finish.stats
              output := failure.output
              daemonError := false })
      | .error error =>
          pure (.error (.uncertain jobId "exec 실패 뒤 작업 cgroup 정리"
            error.message ["작업 cgroup"]))

/-! ### A started process -/

/-- What is known about a started process. -/
structure StartedProcessConfig where
  jobId : String
  startTime : TaskStartTime
  wallDeadline : MonotonicDeadline
  cleanupTimeout : ℕ

/-- What ended the wait for a started process. -/
inductive WaitDecision where
  | cancelled
  | failStop (deadline : MonotonicDeadline)
  | waitFailed (error : ExecutorError)
  | exited (status : ProcessExit)
  | timedOut
deriving DecidableEq

/-- One look at a started process: a cancellation comes first, then a
fail-stop, then its deadline, then its end. -/
def observeProcess (failStop : Bool) (process : SpawnedProcess)
    (wallDeadline : MonotonicDeadline) :
    Execution Rest (WaitDecision ⊕ ℕ) := do
  let control ← controlSnapshot
  if control.first = some .cancelled then
    pure (.inl .cancelled)
  else
    match ← failStopDeadline failStop with
    | some deadline => pure (.inl (.failStop deadline))
    | none =>
        match ← ask (fun _ world => wallDeadline.remainingAt world.now)
            .wallRemaining with
        | none => pure (.inl .timedOut)
        | some left =>
            match ← waitNohang process.pid with
            | .error error => pure (.inl (.waitFailed error))
            | .ok (some status) => pure (.inl (.exited status))
            | .ok none => pure (.inr (min left pollInterval))

/-- Whether a waiting execution is woken. -/
def wakes (failStop : Bool) (shared : TaskShared Rest) : Bool :=
  shared.latch = .cancelled || (failStop && shared.coordinator.isFailStopping)

/-- Wait for a started process, a cancellation or a fail-stop. -/
def awaitProcess (failStop : Bool) (process : SpawnedProcess)
    (wallDeadline : MonotonicDeadline) : Execution Rest WaitDecision :=
  pollUntil wallDeadline.expiresAt
    (observeProcess failStop process wallDeadline) (wakes failStop) .timedOut

/-- What is known about a process that is being stopped. -/
structure ControlledProcessConfig where
  jobId : String
  startTime : TaskStartTime
  cleanupDeadline : MonotonicDeadline
  control : ControlTriggers
  daemonError : Bool

/-- The stage a stop is reported under. -/
def controlStage (control : ControlTriggers) : String :=
  match control.first with
  | some .cancelled => "취소 전체 종료"
  | some .timedOut => "시간 초과 전체 종료"
  | none => "제어 원인 없는 전체 종료"

/-- Kill everything in the job, wait for the child and finish. -/
def finishControlledProcess (config : ControlledProcessConfig)
    (job : JobCgroup) (process : SpawnedProcess) (failStop : Bool) :
    Execution Rest (Except CoreFailure CleanedRun) := do
  let recovery (stage cause : String) : RecoveryContext :=
    { jobId := config.jobId
      startTime := config.startTime
      deadline := config.cleanupDeadline
      stage
      cause
      control := config.control }
  match ← job.killAll with
  | .error error =>
      cleanupRunningJob job process
        (recovery (controlStage config.control) error.message) failStop
  | .ok () =>
      match ← process.reapAfterKillUntil config.cleanupDeadline with
      | .error error =>
          cleanupRunningJob job process
            (recovery "제어 종료 상태 회수" error.message) failStop
      | .ok status =>
          finishCleanedStarted job
            { jobId := config.jobId
              startTime := config.startTime
              process
              status
              control := config.control
              killAlreadySent := true
              cleanupDeadline := config.cleanupDeadline
              daemonError := config.daemonError } failStop

/-- Go on with a cleanup deadline that begins now; without one the job is given
up. -/
def withCleanupDeadline (timeout : ℕ) (jobId stage : String) (job : JobCgroup)
    (next : MonotonicDeadline →
      Execution Rest (Except CoreFailure CleanedRun)) :
    Execution Rest (Except CoreFailure CleanedRun) := do
  match ← deadlineFromNow timeout with
  | none =>
      job.drop
      pure (.error (.uncertain jobId stage
        RunError.cleanupUncertain.message ["cleanup deadline"]))
  | some deadline => next deadline

/-- Stop a process under a cleanup deadline of its own. -/
def stopProcess (config : StartedProcessConfig) (stage : String)
    (job : JobCgroup) (process : SpawnedProcess) (failStop : Bool) :
    Execution Rest (Except CoreFailure CleanedRun) :=
  withCleanupDeadline config.cleanupTimeout config.jobId stage job
    fun cleanupDeadline => do
      let control ← controlSnapshot
      finishControlledProcess
        { jobId := config.jobId
          startTime := config.startTime
          cleanupDeadline
          control
          daemonError := false } job process failStop

/-- Finish an exited process under a cleanup deadline of its own. -/
def finishAfterExit (config : StartedProcessConfig) (job : JobCgroup)
    (process : SpawnedProcess) (status : ProcessExit) (failStop : Bool)
    (control : ControlTriggers) (killAlreadySent : Bool) :
    Execution Rest (Except CoreFailure CleanedRun) :=
  withCleanupDeadline config.cleanupTimeout config.jobId "작업 종료 뒤 정리"
    job fun cleanupDeadline =>
      finishCleanedStarted job
        { jobId := config.jobId
          startTime := config.startTime
          process
          status
          control
          killAlreadySent
          cleanupDeadline
          daemonError := false } failStop

/-- Finish an exited process.  A control that was recorded just before the exit
closed the latch kills what is left in the job. -/
def finishExited (config : StartedProcessConfig) (job : JobCgroup)
    (process : SpawnedProcess) (status : ProcessExit) (failStop : Bool) :
    Execution Rest (Except CoreFailure CleanedRun) := do
  if ← closeWithoutControl then
    finishAfterExit config job process status failStop ⟨none⟩ false
  else
    let killed ← job.killAll
    let control ← controlSnapshot
    finishAfterExit config job process status failStop control killed.isOk

/-- Follow a started process to its end. -/
def finishStartedProcess (config : StartedProcessConfig) (job : JobCgroup)
    (process : SpawnedProcess) (failStop : Bool)
    (running : VerifiedRunningTask) :
    Execution Rest (Except CoreFailure CleanedRun) := do
  announce running
  match ← awaitProcess failStop process config.wallDeadline with
  | .waitFailed error =>
      withCleanupDeadline config.cleanupTimeout config.jobId "target 종료 대기"
        job fun deadline => do
          let control ← controlSnapshot
          cleanupRunningJob job process
            { jobId := config.jobId
              startTime := config.startTime
              deadline
              stage := "target 종료 대기"
              cause := error.message
              control } failStop
  | .exited status => finishExited config job process status failStop
  | .timedOut =>
      let _ ← observeTimeout
      stopProcess config "시간 초과 전체 종료" job process failStop
  | .cancelled => stopProcess config "취소 전체 종료" job process failStop
  | .failStop cleanupDeadline =>
      let control ← controlSnapshot
      finishControlledProcess
        { jobId := config.jobId
          startTime := config.startTime
          cleanupDeadline
          control
          daemonError := true } job process failStop

/-! ### The whole execution -/

/-- Follow a committed start. -/
def executeCommitted (config : ExecutionConfig) (job : JobCgroup)
    (pid : ℕ) (failStop : Bool)
    (onStarted : TaskStartTime → CgroupLimits → VerifiedRunningTask) :
    Execution Rest (Except CoreFailure CleanedRun) := do
  let startTime ← captureStartTime
  let wallDeadline := executionDeadline startTime.monotonic config.wallTimeout
  match ← (StartCommittedProcess.mk pid).waitForExec with
  | .error error =>
      giveUp (cleanupJobAfterFailure job config.cleanupTimeout config.jobId
        failStop "프로세스 시작" error.message error.isWait)
  | .ok (.execFailed failure) =>
      finishExecFailure config.jobId job failure startTime
        config.cleanupTimeout failStop
  | .ok (.started process) =>
      finishStartedProcess
        { jobId := config.jobId
          startTime
          wallDeadline
          cleanupTimeout := config.cleanupTimeout }
        job process failStop (onStarted startTime job.verifiedLimits)

/-- Check a pending child and commit its start. -/
def executePending (config : ExecutionConfig) (job : JobCgroup)
    (pending : PendingProcess) (failStop : Bool)
    (onStarted : TaskStartTime → CgroupLimits → VerifiedRunningTask) :
    Execution Rest (Except CoreFailure CleanedRun) := do
  let cleanup (stage cause : String) :=
    giveUp (cleanupPendingJob job pending config.cleanupTimeout config.jobId
      failStop stage cause)
  match ← failStopDeadline failStop with
  | some deadline =>
      giveUp (cleanupPendingJobUntil job pending deadline config.jobId failStop
        "pending clone3 child 단계 fail-stop"
        "다른 작업의 정리 불확실성이 먼저 관찰됐습니다")
  | none =>
      match ← job.containsPid pending.pid with
      | .ok false =>
          cleanup "exec 전 cgroup 소속 재확인" "PID가 작업 cgroup에서 확인되지 않았습니다"
      | .error error => cleanup "exec 전 cgroup 소속 재확인" error.message
      | .ok true =>
          let (decision, pending) ← commitStart failStop config.jobId pending
          match decision with
          | .committed =>
              executeCommitted config job pending.pid failStop onStarted
          | .failStopping deadline =>
              giveUp (cleanupPendingJobUntil job pending deadline config.jobId
                failStop "exec 시작 commit 전 fail-stop"
                "fail-stop 전환이 exec gate보다 먼저 완료됐습니다")
          | .failed cause =>
              giveUp (cleanupPendingJob job pending config.cleanupTimeout
                config.jobId failStop "exec 시작 gate commit" cause)

/-- Execute one task: create its job and child, follow the child, and confirm
that everything was cleaned up. -/
def execute (manager : CgroupManager) (config : ExecutionConfig)
    (failStop : Bool)
    (onStarted : TaskStartTime → CgroupLimits → VerifiedRunningTask) :
    Execution Rest (Except CoreFailure CleanedRun) := do
  match ← failStopDeadline failStop with
  | some _ => pure (.error (.failStopBeforeSideEffect config.jobId))
  | none =>
      match ← manager.createJob config.jobId config.limits with
      | .error error => pure (.error (.beforeJob config.jobId error))
      | .ok job =>
          match ← failStopDeadline failStop with
          | some deadline =>
              let failure ← cleanupJobForFailStop job deadline config.jobId
                "cgroup 생성 뒤 fail-stop"
              pure (.error failure)
          | none =>
              match ← spawnInCgroup with
              | .error error =>
                  giveUp (cleanupJobAfterFailure job config.cleanupTimeout
                    config.jobId failStop "프로세스 생성" error.message false)
              | .ok pending =>
                  executePending config job pending failStop onStarted

end Executor
end TaskCage
