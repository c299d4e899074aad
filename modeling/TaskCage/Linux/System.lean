import TaskCage.Foundation.Process
import TaskCage.Core.Output
import TaskCage.Core.Policy
import TaskCage.FailStop.Coordinator
import TaskCage.Linux.Errors

/-!
# The operating system under an execution

Every step in which an execution depends on the operating system is a question
with an answer.  `Event` is a step with its answer, and `Answers` is how a
system answers: it may depend on everything that has happened before.  A
`waitpid` that was interrupted is repeated by the code until it is not, so its
answer here is the last one.
-/

namespace TaskCage
namespace Linux

open FailStop

/-- Memory and process events the kernel has counted. -/
structure KernelEvents where
  memoryOom : ℕ
  memoryOomKill : ℕ
  pidsMax : ℕ
deriving DecidableEq

namespace KernelEvents

/-- Events since an earlier count; never negative. -/
def deltaFrom (events baseline : KernelEvents) : KernelEvents where
  memoryOom := events.memoryOom - baseline.memoryOom
  memoryOomKill := events.memoryOomKill - baseline.memoryOomKill
  pidsMax := events.pidsMax - baseline.pidsMax

end KernelEvents

/-- What the statistics files of a job cgroup say. -/
structure JobReadings where
  cpuUsageMicros : ℕ
  memoryCurrentBytes : ℕ
  memoryPeakBytes : Option ℕ
  currentProcesses : ℕ
  peakProcesses : Option ℕ
  events : KernelEvents
deriving DecidableEq

/-- How an output reader thread ended. -/
inductive ReaderExit where
  | tail (stream : CapturedStream)
  | failed (source : IoError)
  | panicked
deriving DecidableEq

/-- The pipes of a child process. -/
inductive Pipe where
  | exec
  | start
  | output (stream : Stream)
deriving DecidableEq

/-- One step of an execution towards the outside, with its answer. -/
inductive Event where
  /-- Does the job directory exist already? -/
  | jobLookedUp (path : String) (answer : Except IoError Bool)
  | jobCreated (path : String) (answer : Except IoError Unit)
  /-- Limits written and read back; the answer is the event baseline. -/
  | jobConfigured (path : String) (answer : Except CgroupError KernelEvents)
  | jobKilled (path : String) (answer : Except CgroupError Unit)
  /-- Does the cgroup hold a process? -/
  | jobObserved (path : String) (answer : Except CgroupError Bool)
  /-- Does the cgroup hold this process? -/
  | memberObserved (path : String) (pid : ℕ) (answer : Except CgroupError Bool)
  | statsRead (path : String) (answer : Except CgroupError JobReadings)
  | jobRemoved (path : String) (answer : Except IoError Unit)
  | jobExists (path : String) (answer : Bool)
  | pipeOpened (pipe : Pipe) (answer : Except IoError Unit)
  | nonblockingSet (pipe : Pipe) (answer : Except IoError Unit)
  | readerStarted (stream : Stream) (answer : Except IoError Unit)
  | cloned (answer : Except IoError ℕ)
  /-- Bytes written to the start gate. -/
  | startSignalled (pid : ℕ) (answer : Except IoError ℕ)
  /-- The clocks at the start of the task. -/
  | startCaptured (wallClock : String) (monotonic : ℕ)
  | execPipeRead (pid : ℕ) (answer : Except IoError (List UInt8))
  | killed (pid : ℕ)
  | waited (pid : ℕ) (answer : Except IoError ℕ)
  | waitTried (pid : ℕ) (answer : Except IoError (Option ℕ))
  | readerFinished (stream : Stream) (answer : Bool)
  | readerJoined (stream : Stream) (answer : ReaderExit)
  /-- Time left to the target. -/
  | wallRemaining (answer : Option ℕ)
  /-- The deadline of a cleanup that begins now. -/
  | cleanupStarted (answer : Option MonotonicDeadline)
  /-- Time left to a cleanup step. -/
  | cleanupRemaining (answer : Option ℕ)
  /-- The clocks at the end of the task. -/
  | finishCaptured (wallClock : String) (monotonic : ℕ)
  /-- The execution asked for a fail-stop. -/
  | activated (report : CleanupFailureReport)
deriving DecidableEq

/-- How the operating system answers. -/
structure Answers (Shared : Type) where
  jobLookup : World Event Shared → String → Except IoError Bool
  jobCreate : World Event Shared → String → Except IoError Unit
  jobConfigure : World Event Shared → String → Except CgroupError KernelEvents
  jobKill : World Event Shared → String → Except CgroupError Unit
  jobPopulated : World Event Shared → String → Except CgroupError Bool
  jobMember : World Event Shared → String → ℕ → Except CgroupError Bool
  jobStats : World Event Shared → String → Except CgroupError JobReadings
  jobRemove : World Event Shared → String → Except IoError Unit
  jobExists : World Event Shared → String → Bool
  pipe : World Event Shared → Pipe → Except IoError Unit
  nonblocking : World Event Shared → Pipe → Except IoError Unit
  readerStart : World Event Shared → Stream → Except IoError Unit
  clone3 : World Event Shared → Except IoError ℕ
  startSignal : World Event Shared → ℕ → Except IoError ℕ
  execPipeRead : World Event Shared → ℕ → Except IoError (List UInt8)
  wait : World Event Shared → ℕ → Except IoError ℕ
  tryWait : World Event Shared → ℕ → Except IoError (Option ℕ)
  readerFinished : World Event Shared → Stream → Bool
  readerJoin : World Event Shared → Stream → ReaderExit
  /-- The wall clock, as text. -/
  wallClock : World Event Shared → String
  /-- Time that passes while a lock is held. -/
  lockedPause : World Event Shared → ℕ

/-- A system on which every step succeeds.  The child has the number 7, its
exec pipe delivers `payload`, and it ends with the wait status `status`. -/
def Answers.untroubled {Shared : Type} (payload : List UInt8) (status : ℕ) :
    Answers Shared where
  jobLookup _ _ := .ok false
  jobCreate _ _ := .ok ()
  jobConfigure _ _ := .ok ⟨0, 0, 0⟩
  jobKill _ _ := .ok ()
  jobPopulated _ _ := .ok false
  jobMember _ _ _ := .ok true
  jobStats _ _ := .ok ⟨0, 0, none, 0, none, ⟨0, 0, 0⟩⟩
  jobRemove _ _ := .ok ()
  jobExists _ _ := true
  pipe _ _ := .ok ()
  nonblocking _ _ := .ok ()
  readerStart _ _ := .ok ()
  clone3 _ := .ok 7
  startSignal _ _ := .ok 1
  execPipeRead _ _ := .ok payload
  wait _ _ := .ok status
  tryWait _ _ := .ok (some status)
  readerFinished _ _ := true
  readerJoin _ _ := .tail ⟨[], false⟩
  wallClock _ := "2026-01-01T00:00:00.000Z"
  lockedPause _ := 0

/-- Code that runs on the operating system. -/
abbrev Run (Shared Result : Type) : Type :=
  Process (Answers Shared) Event Shared Result

end Linux
end TaskCage
