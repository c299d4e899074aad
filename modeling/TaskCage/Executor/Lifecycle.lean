import TaskCage.Linux.Child

/-!
# The lifecycle of one task

How the evidence of a cleaned-up execution becomes the terminal snapshot of its
task.  A control trigger is latched by whoever observes it first; an observed
exit closes the latch.
-/

namespace TaskCage
namespace Executor

open Linux

/-- How the target ended, from its wait status. -/
structure ProcessEvidence where
  exitCode : Option ℤ
  signal : Option ℤ
deriving DecidableEq

namespace ProcessEvidence

/-- The evidence in a wait status. -/
def fromExit (status : ProcessExit) : ProcessEvidence where
  exitCode := status.exitCode
  signal := status.signal

end ProcessEvidence

/-- Whether the program ran at all. -/
inductive ExecutionEvidence where
  | started (process : ProcessEvidence)
  | startFailed (errno : ℤ)
deriving DecidableEq

/-- Why a running task is being stopped. -/
inductive ControlTrigger where
  | timedOut
  | cancelled
deriving DecidableEq

/-- The trigger that was observed first. -/
structure ControlTriggers where
  first : Option ControlTrigger
deriving DecidableEq

/-- The first trigger wins; `closed` is an exit without control. -/
inductive TerminalTriggerLatch where
  | unset
  | timedOut
  | cancelled
  | closed
deriving DecidableEq

namespace TerminalTriggerLatch

/-- Record a trigger, unless something was recorded before. -/
def observe (latch : TerminalTriggerLatch) (trigger : ControlTrigger) :
    Bool × TerminalTriggerLatch :=
  match latch, trigger with
  | unset, .timedOut => (true, timedOut)
  | unset, .cancelled => (true, cancelled)
  | recorded, _ => (false, recorded)

/-- The recorded trigger. -/
def snapshot : TerminalTriggerLatch → ControlTriggers
  | timedOut => ⟨some .timedOut⟩
  | cancelled => ⟨some .cancelled⟩
  | _ => ⟨none⟩

/-- Refuse triggers that come after the target has ended. -/
def closeWithoutControl (latch : TerminalTriggerLatch) :
    Bool × TerminalTriggerLatch :=
  match latch with
  | unset => (true, closed)
  | recorded => (false, recorded)

end TerminalTriggerLatch

/-- What the termination reason is decided from. -/
structure TerminationEvidence where
  execution : ExecutionEvidence
  control : ControlTriggers
  eventDelta : KernelEvents
  daemonError : Bool
deriving DecidableEq

/-- What a cleaned-up execution leaves for the terminal snapshot. -/
structure CompletionData where
  evidence : ExecutionEvidence
  control : ControlTriggers
  stats : JobStats
  output : CapturedOutput
  daemonError : Bool
deriving DecidableEq

/-- Why no terminal snapshot could be made. -/
inductive LifecycleError where
  | alreadyFinished
  | invalidProcessOutcome
  | unknownSignal (signal : ℤ)
  | finishedBeforeStarted
  | wallTimeOverflow
deriving DecidableEq

namespace LifecycleError

/-- The text an error is displayed as. -/
def message : LifecycleError → String
  | alreadyFinished => "이미 FINISHED인 작업은 다시 완료할 수 없습니다"
  | invalidProcessOutcome => "프로세스 종료 결과에는 exit code와 signal 중 정확히 하나가 있어야 합니다"
  | unknownSignal signal =>
      "공개 문자열 규칙이 없는 Linux signal 번호입니다: " ++ toString signal
  | finishedBeforeStarted => "완료 단조 시간이 시작 단조 시간보다 빠릅니다"
  | wallTimeOverflow => "wallTimeMs를 u64로 표현할 수 없습니다"

end LifecycleError

/-- The termination reason: a kernel kill for memory comes first, then a
control trigger, then weaker evidence. -/
def classifyTermination (evidence : TerminationEvidence) : TerminationReason :=
  if evidence.eventDelta.memoryOomKill > 0 then
    .memoryLimitExceeded
  else
    match evidence.control.first with
    | some .timedOut => .timedOut
    | some .cancelled => .cancelled
    | none =>
        if evidence.eventDelta.pidsMax > 0 then .processLimitExceeded
        else if evidence.eventDelta.memoryOom > 0 then .memoryLimitExceeded
        else if evidence.daemonError then .daemonError
        else
          match evidence.execution with
          | .startFailed _ => .executionFailed
          | .started _ => .exited

/-- The names of the standard signals. -/
def standardSignalNames : List (ℤ × String) :=
  [(1, "SIGHUP"), (2, "SIGINT"), (3, "SIGQUIT"), (4, "SIGILL"),
    (5, "SIGTRAP"), (6, "SIGABRT"), (7, "SIGBUS"), (8, "SIGFPE"),
    (9, "SIGKILL"), (10, "SIGUSR1"), (11, "SIGSEGV"), (12, "SIGUSR2"),
    (13, "SIGPIPE"), (14, "SIGALRM"), (15, "SIGTERM"), (16, "SIGSTKFLT"),
    (17, "SIGCHLD"), (18, "SIGCONT"), (19, "SIGSTOP"), (20, "SIGTSTP"),
    (21, "SIGTTIN"), (22, "SIGTTOU"), (23, "SIGURG"), (24, "SIGXCPU"),
    (25, "SIGXFSZ"), (26, "SIGVTALRM"), (27, "SIGPROF"), (28, "SIGWINCH"),
    (29, "SIGIO"), (30, "SIGPWR"), (31, "SIGSYS"), (34, "SIGRTMIN")]

/-- The public name of a signal; real-time signals are counted from the first
one a program can use. -/
def linuxSignalName (signal : ℤ) : Option String :=
  if 35 ≤ signal ∧ signal ≤ 64 then
    some ("SIGRTMIN+" ++ toString (signal - 34))
  else
    standardSignalNames.lookup signal

/-- The public form of how the target ended. -/
def mapProcessResult (evidence : ProcessEvidence) :
    Except LifecycleError ProcessResult :=
  match evidence.exitCode, evidence.signal with
  | some exitCode, none => .ok { exitCode := some exitCode, signal := none }
  | none, some signal =>
      match linuxSignalName signal with
      | some name => .ok { exitCode := none, signal := some name }
      | none => .error (.unknownSignal signal)
  | _, _ => .error .invalidProcessOutcome

/-- A task whose program runs. -/
structure RunningTask where
  taskId : String
  submittedAt : String
  startedAt : String
  startedMonotonic : ℕ
deriving DecidableEq

/-- The state of one task; a finished one does not change any more. -/
inductive SingleTaskLifecycle where
  | running (task : RunningTask)
  | finished (payload : TaskSnapshot)
deriving DecidableEq

namespace SingleTaskLifecycle

/-- The public state of the task. -/
def snapshot : SingleTaskLifecycle → TaskSnapshot
  | running task => .running task.taskId task.submittedAt task.startedAt
  | finished payload => payload

/-- The public process result of an execution. -/
def processResult : ExecutionEvidence → Except LifecycleError ProcessResult
  | .started process => mapProcessResult process
  | .startFailed _ => .ok { exitCode := none, signal := none }

/-- Run time in milliseconds, as an unsigned 64-bit number. -/
def wallTimeMs (finished started : ℕ) : Except LifecycleError ℕ :=
  match Instant.checkedDurationSince finished started with
  | none => .error .finishedBeforeStarted
  | some wallTime =>
      if Duration.asMillis wallTime < 2 ^ 64 then
        .ok (Duration.asMillis wallTime)
      else
        .error .wallTimeOverflow

/-- Make the terminal snapshot of a running task. -/
def complete (lifecycle : SingleTaskLifecycle) (completion : CompletionData)
    (finishedAt : String) (finishedMonotonic : ℕ) :
    Except LifecycleError (TaskSnapshot × SingleTaskLifecycle) :=
  match lifecycle with
  | finished _ => .error .alreadyFinished
  | running task => do
      let terminationReason := classifyTermination
        { execution := completion.evidence
          control := completion.control
          eventDelta := completion.stats.eventDelta
          daemonError := completion.daemonError }
      let process ← processResult completion.evidence
      let wallTimeMs ← wallTimeMs finishedMonotonic task.startedMonotonic
      let payload := TaskSnapshot.fromResult
        { taskId := task.taskId
          terminationReason
          process
          timing :=
            { submittedAt := task.submittedAt
              startedAt := task.startedAt
              finishedAt
              wallTimeMs }
          usage :=
            { cpuTimeMicros := completion.stats.cpuUsageMicros
              memoryPeakBytes := completion.stats.memoryPeakBytes }
          output := completion.output.intoTaskOutput }
      pure (payload, finished payload)

end SingleTaskLifecycle
end Executor
end TaskCage
