import Mathlib.Data.Int.Notation
import Mathlib.Data.Nat.Notation

/-!
# Task snapshots

The two public states of a task.  A snapshot is finished only after the
supervising side has confirmed the cleanup of everything the task created.
-/

namespace TaskCage

/-- Why a finished task ended. -/
inductive TerminationReason where
  | exited
  | executionFailed
  | cancelled
  | timedOut
  | memoryLimitExceeded
  | processLimitExceeded
  | daemonError
deriving DecidableEq

/-- How the target process ended, in its public form. -/
structure ProcessResult where
  exitCode : Option ℤ
  signal : Option String
deriving DecidableEq

/-- Wall-clock stamps and the measured run time of a finished task. -/
structure TaskTiming where
  submittedAt : String
  startedAt : String
  finishedAt : String
  wallTimeMs : ℕ
deriving DecidableEq

/-- Resources a finished task used. -/
structure TaskUsage where
  cpuTimeMicros : ℕ
  memoryPeakBytes : ℕ
deriving DecidableEq

/-- Captured tails of the two output streams. -/
structure TaskOutput where
  stdoutTail : String
  stderrTail : String
  stdoutTruncated : Bool
  stderrTruncated : Bool
deriving DecidableEq

/-- Cleanup-confirmed terminal data of one task. -/
structure TaskResult where
  taskId : String
  terminationReason : TerminationReason
  process : ProcessResult
  timing : TaskTiming
  usage : TaskUsage
  output : TaskOutput
deriving DecidableEq

/-- A published task state. -/
inductive TaskSnapshot where
  | running (taskId submittedAt startedAt : String)
  | finished (result : TaskResult)
deriving DecidableEq

namespace TaskSnapshot

/-- The task a snapshot is about. -/
def taskId : TaskSnapshot → String
  | running taskId _ _ => taskId
  | finished result => result.taskId

/-- Whether the snapshot is terminal. -/
def isFinished : TaskSnapshot → Bool
  | running _ _ _ => false
  | finished _ => true

/-- A terminal result is published as a finished snapshot. -/
def fromResult (result : TaskResult) : TaskSnapshot :=
  finished result

@[simp] theorem isFinished_running (taskId submittedAt startedAt : String) :
    (running taskId submittedAt startedAt).isFinished = false :=
  rfl

@[simp] theorem isFinished_finished (result : TaskResult) :
    (finished result).isFinished = true :=
  rfl

end TaskSnapshot
end TaskCage
