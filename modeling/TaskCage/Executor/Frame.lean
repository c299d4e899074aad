import TaskCage.Executor.Execute
import TaskCage.Linux.Frame

/-!
# What an execution does to the shared state

An execution may begin the fail-stop, commit its own start, record a trigger
and announce its task once.  It registers and forgets no execution, and it does
not touch the rest of the daemon.
-/

namespace TaskCage
namespace Executor

open FailStop Linux Process

variable {Rest : Type}

/-- Relations between worlds that an execution keeps. -/
structure ExecutionMoves (Announces : VerifiedRunningTask → Prop)
    (Moves : World Linux.Event (TaskShared Rest) → World Linux.Event (TaskShared Rest) →
      Prop) : Prop where
  reflexive : Std.Refl Moves
  transitive : IsTrans (World Linux.Event (TaskShared Rest)) Moves
  works : ∀ world events coordinator latch,
    world.shared.coordinator.Progress coordinator →
    Moves world
      { world with
        trace := world.trace ++ events
        shared := { world.shared with coordinator, latch } }
  announces : ∀ world running, Announces running →
    Moves world
      { world with
        shared := { world.shared with announced := some running } }

section Frame

variable {Announces : VerifiedRunningTask → Prop}
variable {Moves : World Linux.Event (TaskShared Rest) →
  World Linux.Event (TaskShared Rest) → Prop}
variable (moves : ExecutionMoves Announces Moves)
include moves

theorem ExecutionMoves.permits : Permits Moves where
  reflexive := moves.reflexive
  transitive := moves.transitive
  records world events := moves.works world events _ _ (.refl _)

theorem keeps_latch {Result : Type}
    (change : TerminalTriggerLatch → Result × TerminalTriggerLatch) :
    Keeps (update fun _ shared =>
      let (result, latch) := change shared.latch
      (result, { shared with latch }) : Execution Rest Result) Moves :=
  moves.permits.update fun world => by
    simpa using moves.works world [] _ (change world.shared.latch).2 (.refl _)

theorem keeps_controlSnapshot :
    Keeps (controlSnapshot : Execution Rest ControlTriggers) Moves :=
  keeps_latch moves fun latch => (latch.snapshot, latch)

variable (failStop : Bool) (job : JobCgroup) (config : StartedProcessConfig)

theorem keeps_failStopDeadline :
    Keeps (failStopDeadline failStop : Execution Rest _) Moves := by
  unfold failStopDeadline
  split
  · exact moves.permits.update fun world => moves.reflexive.refl world
  · exact moves.permits.pure _

theorem keeps_activate (report : CleanupFailureReport) :
    Keeps (activate report : Execution Rest _) Moves :=
  .act moves.transitive fun _ world =>
    moves.works world _ _ _ (.activate world.now report)

/-! ### Cleanup -/

variable (deadline : MonotonicDeadline) (timeout : ℕ) (pending : PendingProcess)
variable (jobId : String) (process : SpawnedProcess)

theorem keeps_finishJobWithRetry (killAlreadySent failStop : Bool)
    (jobId stage : String) :
    Keeps (finishJobWithRetry job deadline killAlreadySent failStop jobId
      stage : Execution Rest _) Moves := by
  have permits := moves.permits
  refine permits.bind ?_ fun first => ?_
  · split
    · exact job.keeps_finishAfterKillUntil permits deadline
    · exact job.keeps_finishUntil permits deadline
  · obtain ⟨_ | _, job⟩ := first
    · dsimp only
      split
      · refine permits.bind (keeps_activate moves _) fun deadline => ?_
        split
        · exact permits.pure _
        · exact permits.bind (job.keeps_finishUntil permits deadline) fun
            | (.ok _, _) => permits.pure _
            | (.error _, _) => permits.pure _
      · exact permits.pure _
    · exact permits.pure _

variable (finished : Except CgroupError JobFinish) (context : RecoveryContext)

theorem keeps_outputDeadline (fallback : MonotonicDeadline) :
    Keeps (outputDeadline failStop finished fallback : Execution Rest _)
      Moves := by
  cases finished with
  | ok finish => exact moves.permits.pure _
  | error error =>
      exact moves.permits.bind (keeps_failStopDeadline moves failStop)
        fun _ => moves.permits.pure _

theorem keeps_cleanupJobForFailStop (jobId stage : String) :
    Keeps (cleanupJobForFailStop job deadline jobId stage : Execution Rest _)
      Moves :=
  let permits := moves.permits
  permits.bind (job.keeps_finishUntil permits deadline) fun finished =>
    permits.bind (finished.2.keeps_drop permits) fun _ =>
      match finished.1 with
      | .ok _ => permits.pure _
      | .error _ => permits.pure _

theorem keeps_cleanupJobAfterFailure (jobId : String) (failStop : Bool)
    (stage cause : String) (isolationUncertain : Bool) :
    Keeps (cleanupJobAfterFailure job timeout jobId failStop stage cause
      isolationUncertain : Execution Rest _) Moves :=
  let permits := moves.permits
  permits.bind (permits.ask _ _) fun
    | none => permits.pure _
    | some _ => permits.bind
        (keeps_finishJobWithRetry moves _ _ _ _ _ _) fun _ => permits.pure _

theorem keeps_abortWithRetry (deadline : MonotonicDeadline) (failStop : Bool)
    (jobId stage : String) :
    Keeps (abortWithRetry pending deadline failStop jobId stage :
      Execution Rest _) Moves := by
  have permits := moves.permits
  refine permits.bind (pending.keeps_abortUntil permits deadline) ?_
  rintro ⟨_ | _, pending⟩
  · dsimp only
    split
    · exact permits.bind (keeps_activate moves _) fun _ =>
        permits.bind (pending.keeps_abortUntil permits _)
          fun _ => permits.pure _
    · exact permits.pure _
  · exact permits.pure _

theorem keeps_cleanupPendingJobUntil (deadline : MonotonicDeadline)
    (jobId : String) (failStop : Bool) (stage cause : String) :
    Keeps (cleanupPendingJobUntil job pending deadline jobId failStop stage
      cause : Execution Rest _) Moves :=
  let permits := moves.permits
  permits.bind (keeps_abortWithRetry moves _ _ _ _ _) fun aborted =>
    permits.bind (keeps_finishJobWithRetry moves _ _ _ _ _ _) fun _ =>
      permits.bind (aborted.2.1.keeps_drop permits) fun _ => permits.pure _

theorem keeps_cleanupPendingJob (timeout : ℕ) (jobId : String)
    (failStop : Bool) (stage cause : String) :
    Keeps (cleanupPendingJob job pending timeout jobId failStop stage cause :
      Execution Rest _) Moves :=
  let permits := moves.permits
  permits.bind (permits.ask _ _) fun
    | none => permits.bind (pending.keeps_drop permits) fun _ => permits.pure _
    | some _ => keeps_cleanupPendingJobUntil moves _ _ _ _ _ _ _

theorem keeps_giveUp
    {cleanup : Execution Rest (CoreFailure × JobCgroup)}
    (keeps : Keeps cleanup Moves) : Keeps (giveUp cleanup) Moves :=
  let permits := moves.permits
  permits.bind keeps fun failed =>
    permits.bind (failed.2.keeps_drop permits) fun _ => permits.pure _

theorem keeps_reportOutputFailure
    (output : Except ExecutorError CapturedOutput) :
    Keeps (reportOutputFailure failStop jobId finished output :
      Execution Rest _) Moves := by
  unfold reportOutputFailure
  split
  · exact moves.permits.bind (keeps_activate moves _)
      fun _ => moves.permits.pure _
  · exact moves.permits.pure _

theorem keeps_finishCleanedStarted (completion : StartedCompletion)
    (failStop : Bool) :
    Keeps (finishCleanedStarted job completion failStop : Execution Rest _)
      Moves :=
  let permits := moves.permits
  permits.bind (keeps_finishJobWithRetry moves _ _ _ _ _ _) fun finished =>
    permits.bind (keeps_outputDeadline moves _ _ _) fun _ =>
    permits.bind (OutputReaders.keeps_collectUntil permits _) fun _ =>
    permits.bind (keeps_reportOutputFailure moves _ _ _ _) fun _ =>
    permits.bind (finished.2.keeps_drop permits) fun _ => permits.pure _

theorem keeps_killAndReap (failStop : Bool) :
    Keeps (killAndReap job process context failStop : Execution Rest _)
      Moves := by
  have permits := moves.permits
  refine permits.bind (permits.ask _ _) fun killed => permits.bind
    (process.keeps_reapAfterKillUntil permits _) fun reaped => ?_
  dsimp only
  split
  · refine permits.bind (keeps_activate moves _) fun deadline =>
      permits.bind ?_ fun _ => permits.bind ?_ fun _ => permits.pure _
    · split
      · exact permits.ask _ _
      · exact permits.pure _
    · split
      · exact process.keeps_reapAfterKillUntil permits deadline
      · exact permits.pure _
  · exact permits.pure _

theorem keeps_cleanupRunningJob (failStop : Bool) :
    Keeps (cleanupRunningJob job process context failStop : Execution Rest _)
      Moves := by
  have permits := moves.permits
  refine permits.bind (keeps_killAndReap moves job process context failStop)
    fun recovered => permits.bind
      (keeps_finishJobWithRetry moves _ _ _ _ _ _) fun finished =>
    permits.bind (keeps_outputDeadline moves _ _ _) fun deadline =>
    permits.bind ?_ fun _ =>
    permits.bind (OutputReaders.keeps_collectUntil permits deadline) fun _ =>
    permits.bind (finished.2.keeps_drop permits) fun _ => permits.pure _
  split
  · exact process.keeps_reapAfterKillUntil permits deadline
  · exact permits.pure _

/-! ### One execution -/

theorem keeps_observeProcess (wallDeadline : MonotonicDeadline) :
    Keeps (observeProcess failStop process wallDeadline : Execution Rest _)
      Moves := by
  have permits := moves.permits
  refine permits.bind (keeps_controlSnapshot moves) fun control => ?_
  split
  · exact permits.pure _
  · exact permits.bind (keeps_failStopDeadline moves failStop) fun
      | some _ => permits.pure _
      | none => permits.bind (permits.ask _ _) fun
          | none => permits.pure _
          | some _ => permits.bind (permits.ask_map _ _ _) fun
              | .error _ => permits.pure _
              | .ok (some _) => permits.pure _
              | .ok none => permits.pure _

theorem keeps_finishControlledProcess (config : ControlledProcessConfig)
    (job : JobCgroup) (process : SpawnedProcess) (failStop : Bool) :
    Keeps (finishControlledProcess config job process failStop :
      Execution Rest _) Moves :=
  let permits := moves.permits
  permits.bind (permits.ask _ _) fun
    | .error _ => keeps_cleanupRunningJob moves _ _ _ _
    | .ok () => permits.bind (process.keeps_reapAfterKillUntil permits _) fun
        | .error _ => keeps_cleanupRunningJob moves _ _ _ _
        | .ok _ => keeps_finishCleanedStarted moves _ _ _

theorem keeps_withCleanupDeadline (jobId stage : String) (job : JobCgroup)
    {next : MonotonicDeadline → Execution Rest (Except CoreFailure CleanedRun)}
    (keeps : ∀ deadline, Keeps (next deadline) Moves) :
    Keeps (withCleanupDeadline timeout jobId stage job next) Moves :=
  let permits := moves.permits
  permits.bind (permits.ask _ _) fun
    | none => permits.bind (job.keeps_drop permits) fun _ => permits.pure _
    | some deadline => keeps deadline

theorem keeps_stopProcess (stage : String) (job : JobCgroup)
    (process : SpawnedProcess) (failStop : Bool) :
    Keeps (stopProcess config stage job process failStop : Execution Rest _)
      Moves :=
  keeps_withCleanupDeadline moves _ _ _ _ fun _ =>
    moves.permits.bind (keeps_controlSnapshot moves) fun _ =>
      keeps_finishControlledProcess moves _ _ _ _

theorem keeps_finishAfterExit (job : JobCgroup) (process : SpawnedProcess)
    (status : ProcessExit) (failStop : Bool) (control : ControlTriggers)
    (killAlreadySent : Bool) :
    Keeps (finishAfterExit config job process status failStop control
      killAlreadySent : Execution Rest _) Moves :=
  keeps_withCleanupDeadline moves _ _ _ _ fun _ =>
    keeps_finishCleanedStarted moves _ _ _

theorem keeps_finishExited (job : JobCgroup) (process : SpawnedProcess)
    (status : ProcessExit) (failStop : Bool) :
    Keeps (finishExited config job process status failStop :
      Execution Rest _) Moves := by
  have permits := moves.permits
  refine permits.bind
    (keeps_latch moves TerminalTriggerLatch.closeWithoutControl)
    fun closed => ?_
  split
  · exact keeps_finishAfterExit moves _ _ _ _ _ _ _
  · exact permits.bind (permits.ask _ _) fun _ =>
      permits.bind (keeps_controlSnapshot moves) fun _ =>
        keeps_finishAfterExit moves _ _ _ _ _ _ _

theorem keeps_finishStartedProcess (job : JobCgroup) (process : SpawnedProcess)
    (failStop : Bool) {running : VerifiedRunningTask}
    (announces : Announces running) :
    Keeps (finishStartedProcess config job process failStop running :
      Execution Rest _) Moves :=
  let permits := moves.permits
  permits.bind
    (permits.update fun world => moves.announces world running announces)
    fun _ => permits.bind
      (permits.pollUntil (keeps_observeProcess moves failStop process _)) fun
      | .waitFailed _ => keeps_withCleanupDeadline moves _ _ _ _ fun _ =>
          permits.bind (keeps_controlSnapshot moves) fun _ =>
            keeps_cleanupRunningJob moves _ _ _ _
      | .exited _ => keeps_finishExited moves _ _ _ _ _
      | .timedOut => permits.bind
          (keeps_latch moves (TerminalTriggerLatch.observe · .timedOut))
          fun _ => keeps_stopProcess moves _ _ _ _ _
      | .cancelled => keeps_stopProcess moves _ _ _ _ _
      | .failStop _ => permits.bind (keeps_controlSnapshot moves) fun _ =>
          keeps_finishControlledProcess moves _ _ _ _

theorem keeps_finishExecFailure (job : JobCgroup) (failure : ExecFailure)
    (startTime : TaskStartTime) (cleanupTimeout : ℕ) (failStop : Bool) :
    Keeps (finishExecFailure jobId job failure startTime cleanupTimeout
      failStop : Execution Rest _) Moves :=
  let permits := moves.permits
  permits.bind (permits.ask _ _) fun
    | none => permits.bind (job.keeps_drop permits) fun _ => permits.pure _
    | some _ => permits.bind (keeps_finishJobWithRetry moves _ _ _ _ _ _)
        fun finished => permits.bind (finished.2.keeps_drop permits) fun _ =>
          match finished.1 with
          | .ok _ => permits.pure _
          | .error _ => permits.pure _

theorem keeps_commitStart (pending : PendingProcess) :
    Keeps (commitStart failStop jobId pending : Execution Rest _) Moves := by
  refine .act moves.transitive fun answers world => ?_
  dsimp only
  have begun : world.shared.coordinator.Progress
      (world.shared.coordinator.beginCommit jobId).2 := .beginCommit jobId
  split
  · split
    · rename_i refused
      rw [refused] at begun
      exact moves.works world _ _ _ begun
    · rename_i committed
      rw [committed] at begun
      exact moves.works world _ _ _ (begun.trans (.endCommit jobId _))
  · exact moves.works world _ _ _ (.refl _)

variable {onStarted : TaskStartTime → CgroupLimits → VerifiedRunningTask}
variable (announces : ∀ startTime limits, Announces (onStarted startTime limits))
include announces

theorem keeps_executeCommitted (config : ExecutionConfig) (job : JobCgroup)
    (pid : ℕ) (failStop : Bool) :
    Keeps (executeCommitted config job pid failStop onStarted :
      Execution Rest _) Moves :=
  let permits := moves.permits
  permits.bind (permits.ask _ _) fun _ =>
    permits.bind (StartCommittedProcess.keeps_waitForExec permits _) fun
      | .error _ => keeps_giveUp moves
          (keeps_cleanupJobAfterFailure moves _ _ _ _ _ _ _)
      | .ok (.execFailed _) => keeps_finishExecFailure moves _ _ _ _ _ _
      | .ok (.started _) =>
          keeps_finishStartedProcess moves _ _ _ _ (announces _ _)

theorem keeps_executePending (config : ExecutionConfig) (job : JobCgroup)
    (pending : PendingProcess) (failStop : Bool) :
    Keeps (executePending config job pending failStop onStarted :
      Execution Rest _) Moves :=
  let permits := moves.permits
  permits.bind (keeps_failStopDeadline moves failStop) fun
    | some _ => keeps_giveUp moves
        (keeps_cleanupPendingJobUntil moves _ _ _ _ _ _ _)
    | none => permits.bind (permits.ask _ _) fun
        | .ok false => keeps_giveUp moves
            (keeps_cleanupPendingJob moves _ _ _ _ _ _ _)
        | .error _ => keeps_giveUp moves
            (keeps_cleanupPendingJob moves _ _ _ _ _ _ _)
        | .ok true => permits.bind (keeps_commitStart moves _ _ _) fun
            | (.committed, _) => keeps_executeCommitted moves announces _ _ _ _
            | (.failStopping _, _) => keeps_giveUp moves
                (keeps_cleanupPendingJobUntil moves _ _ _ _ _ _ _)
            | (.failed _, _) => keeps_giveUp moves
                (keeps_cleanupPendingJob moves _ _ _ _ _ _ _)

/-- An execution makes no other moves than these. -/
theorem keeps_execute (manager : CgroupManager) (config : ExecutionConfig)
    (failStop : Bool) :
    Keeps (execute manager config failStop onStarted : Execution Rest _)
      Moves :=
  let permits := moves.permits
  permits.bind (keeps_failStopDeadline moves failStop) fun
    | some _ => permits.pure _
    | none => permits.bind (manager.keeps_createJob permits _ _) fun
        | .error _ => permits.pure _
        | .ok _ => permits.bind (keeps_failStopDeadline moves failStop) fun
            | some _ => permits.bind
                (keeps_cleanupJobForFailStop moves _ _ _ _)
                fun _ => permits.pure _
            | none => permits.bind (keeps_spawnInCgroup permits) fun
                | .error _ => keeps_giveUp moves
                    (keeps_cleanupJobAfterFailure moves _ _ _ _ _ _ _)
                | .ok _ => keeps_executePending moves announces _ _ _ _

end Frame
end Executor
end TaskCage
