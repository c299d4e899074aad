import TaskCage.Linux.Cgroup

/-!
# Child processes

A child is created inside the job cgroup and held at a start gate.  Three
owners follow one another: the pending process, the process whose start is
committed, and the process whose program runs.  Each owner is responsible for
waiting for the child and for joining the two output readers.
-/

namespace TaskCage
namespace Linux

open Process

variable {Shared : Type}

/-- How a child ended, as its wait status says. -/
structure ProcessExit where
  exitCode : Option ℤ
  signal : Option ℤ
deriving DecidableEq

/-- Decode a wait status: the low seven bits are zero after an exit and the
signal number after a signal. -/
def decodeWaitStatus (status : ℕ) : ProcessExit :=
  let low := status % 128
  if low = 0 then
    { exitCode := some (status / 256 % 256), signal := none }
  else if low < 127 then
    { exitCode := none, signal := some low }
  else
    { exitCode := none, signal := none }

/-- Wait for a child until it ends. -/
def waitBlocking (pid : ℕ) : Run Shared (Except ExecutorError ProcessExit) := do
  let answer ← ask (fun answers world => answers.wait world pid) (.waited pid)
  pure ((answer.mapError .wait).map decodeWaitStatus)

/-- Wait for a child if it has ended. -/
def waitNohang (pid : ℕ) :
    Run Shared (Except ExecutorError (Option ProcessExit)) := do
  let answer ← ask (fun answers world => answers.tryWait world pid)
    (.waitTried pid)
  pure ((answer.mapError .wait).map (Option.map decodeWaitStatus))

/-- Kill one process; the outcome is not looked at. -/
def kill (pid : ℕ) : Run Shared Unit :=
  ask (fun _ _ => ()) fun _ => .killed pid

/-- One look at whether a killed child has ended. -/
def lookExit (pid : ℕ) :
    Run Shared (Option (Except ExecutorError (Option ProcessExit))) := do
  let waited ← waitNohang pid
  pure (match waited with
    | .error error => some (.error error)
    | .ok (some status) => some (.ok (some status))
    | .ok none => none)

/-- Wait for a killed child until a deadline; nothing when it is over. -/
def awaitExit (pid : ℕ) (deadline : MonotonicDeadline) :
    Run Shared (Except ExecutorError (Option ProcessExit)) :=
  awaitUntil (lookExit pid) deadline (.ok none)

/-! ### Output readers -/

namespace OutputReaders

/-- Join one reader thread. -/
def join (stream : Stream) : Run Shared ReaderExit :=
  ask (fun answers world => answers.readerJoin world stream)
    (.readerJoined stream)

/-- What a joined reader captured. -/
def joinOutputReader (stream : Stream) :
    ReaderExit → Except ExecutorError CapturedStream
  | .tail captured => .ok captured
  | .failed source => .error (.outputRead stream source)
  | .panicked => .error (.outputReaderPanicked stream)

/-- The output of two joined readers. -/
def collected (stdout stderr : ReaderExit) :
    Except ExecutorError CapturedOutput := do
  let stdout ← joinOutputReader .stdout stdout
  let stderr ← joinOutputReader .stderr stderr
  pure { stdout, stderr }

/-- Tell both readers to stop and join them. -/
def cancelAndJoin : Run Shared Unit := do
  let _ ← join .stdout
  let _ ← join .stderr
  pure ()

/-- Tell both readers to stop and take what they captured. -/
def cancelAndCollect : Run Shared (Except ExecutorError CapturedOutput) := do
  let stdout ← join .stdout
  let stderr ← join .stderr
  pure (collected stdout stderr)

/-- One look at whether both readers have finished. -/
def lookFinished : Run Shared (Option Bool) := do
  let stdout ← ask (fun answers world => answers.readerFinished world .stdout)
    (.readerFinished .stdout)
  let stderr ← ask (fun answers world => answers.readerFinished world .stderr)
    (.readerFinished .stderr)
  pure (if stdout && stderr then some false else none)

/-- Let the readers finish until a deadline, then join them in any case. -/
def collectUntil (deadline : MonotonicDeadline) :
    Run Shared (Except ExecutorError CapturedOutput) := do
  let timedOut ← awaitUntil lookFinished deadline true
  let stdout ← join .stdout
  let stderr ← join .stderr
  if timedOut then
    pure (.error (.outputReaderTimeout deadline.budget))
  else
    pure (collected stdout stderr)

end OutputReaders

/-! ### Creation -/

/-- A child that waits at its start gate. -/
structure PendingProcess where
  pid : ℕ
  startWriteEnd : Bool
  outputReaders : Bool
  reaped : Bool
deriving DecidableEq

/-- Open a pipe. -/
def openPipe (pipe : Pipe) (failure : IoError → ExecutorError) :
    Run Shared (Except ExecutorError Unit) := do
  let answer ← ask (fun answers world => answers.pipe world pipe)
    (.pipeOpened pipe)
  pure (answer.mapError failure)

/-- Make the daemon's end of a pipe nonblocking. -/
def setNonblocking (pipe : Pipe) (failure : IoError → ExecutorError) :
    Run Shared (Except ExecutorError Unit) := do
  let answer ← ask (fun answers world => answers.nonblocking world pipe)
    (.nonblockingSet pipe)
  pure (answer.mapError failure)

/-- Start one reader thread. -/
def startReader (stream : Stream) : Run Shared (Except ExecutorError Unit) := do
  let answer ← ask (fun answers world => answers.readerStart world stream)
    (.readerStarted stream)
  pure (answer.mapError (.outputReaderStart stream))

/-- Start both readers; the first one is joined when the second cannot be
started. -/
def startReaders : Run Shared (Except ExecutorError Unit) :=
  proceed (startReader .stdout) fun _ => do
    match ← startReader .stderr with
    | .ok () => pure (.ok ())
    | .error error =>
        let _ ← OutputReaders.join .stdout
        pure (.error error)

/-- The pipes and readers that a child needs. -/
def preparePipes : Run Shared (Except ExecutorError Unit) :=
  proceed (openPipe .exec .execPipe) fun _ =>
  proceed (openPipe .start .startGatePipe) fun _ =>
  proceed (setNonblocking .start .startGatePipe) fun _ =>
  proceed (openPipe (.output .stdout) (.outputPipe .stdout)) fun _ =>
  proceed (openPipe (.output .stderr) (.outputPipe .stderr)) fun _ =>
  proceed (setNonblocking (.output .stdout) (.outputPipe .stdout)) fun _ =>
  proceed (setNonblocking (.output .stderr) (.outputPipe .stderr)) fun _ =>
  startReaders

/-- Create a child inside a cgroup and hold it at its start gate. -/
def spawnInCgroup : Run Shared (Except ExecutorError PendingProcess) :=
  proceed preparePipes fun _ => do
    match ← ask (fun answers world => answers.clone3 world) .cloned with
    | .error source =>
        OutputReaders.cancelAndJoin
        pure (.error (.clone source))
    | .ok pid =>
        pure (.ok
          { pid, startWriteEnd := true, outputReaders := true, reaped := false })

/-! ### Pending processes -/

namespace PendingProcess

/-- What one write to the start gate means. -/
def signalOutcome : Except IoError ℕ → Except ExecutorError Unit
  | .ok written =>
      if written = 1 then .ok ()
      else .error (.startGateSignal ⟨"exec 시작 게이트에 신호를 쓰지 못했습니다"⟩)
  | .error source => .error (.startGateSignal source)

/-- Join the readers, if this owner still has them. -/
def joinReaders (pending : PendingProcess) : Run Shared PendingProcess :=
  if pending.outputReaders then do
    OutputReaders.cancelAndJoin
    pure { pending with outputReaders := false }
  else
    pure pending

/-- Kill the child and wait for it until a deadline.  A failing wait returns at
once and leaves the readers with their owner. -/
def abortUntil (pending : PendingProcess) (deadline : MonotonicDeadline) :
    Run Shared (Except ExecutorError Unit × PendingProcess) := do
  let pending := { pending with startWriteEnd := false }
  kill pending.pid
  match ← awaitExit pending.pid deadline with
  | .error error => pure (.error error, pending)
  | .ok none =>
      let pending ← pending.joinReaders
      pure (.error (.wait ⟨"pending clone3 child의 종료 상태를 회수하지 못했습니다"⟩), pending)
  | .ok (some _) =>
      let pending ← pending.joinReaders
      pure (.ok (), { pending with reaped := true })

/-- Kill the child and wait for it as long as it takes. -/
def stopAndReap (pending : PendingProcess) :
    Run Shared (Except ExecutorError Unit × PendingProcess) := do
  let pending := { pending with startWriteEnd := false }
  kill pending.pid
  let waited ← waitBlocking pending.pid
  let pending ← pending.joinReaders
  pure (waited.map fun _ => (),
    { pending with reaped := pending.reaped || waited.isOk })

/-- A pending process that is given up is killed and waited for. -/
def drop (pending : PendingProcess) : Run Shared Unit :=
  if pending.reaped then
    pure ()
  else do
    let _ ← pending.stopAndReap
    pure ()

end PendingProcess

/-! ### Committed and running processes -/

/-- A child whose start was committed; it owns the exec pipe and both
readers. -/
structure StartCommittedProcess where
  pid : ℕ
deriving DecidableEq

/-- A child whose program runs; it owns both readers. -/
structure SpawnedProcess where
  pid : ℕ
deriving DecidableEq

/-- A child whose program could not be executed. -/
structure ExecFailure where
  pid : ℕ
  errno : ℤ
  output : CapturedOutput
deriving DecidableEq

/-- What became of a committed start. -/
inductive SpawnOutcome where
  | started (process : SpawnedProcess)
  | execFailed (failure : ExecFailure)
deriving DecidableEq

/-- A signed 32-bit number from its bytes, the least significant first. -/
def signedOfBytes (bytes : List UInt8) : ℤ :=
  let value : ℕ := bytes.foldr (fun byte rest => byte.toNat + 256 * rest) 0
  if value < 2 ^ 31 then (value : ℤ) else (value : ℤ) - 2 ^ 32

namespace StartCommittedProcess

/-- Kill the child, wait for it and join the readers. -/
def stopAndReap (committed : StartCommittedProcess) :
    Run Shared (Except ExecutorError Unit) := do
  kill committed.pid
  let waited ← waitBlocking committed.pid
  OutputReaders.cancelAndJoin
  pure (waited.map fun _ => ())

/-- Learn from the exec pipe whether the program runs: nothing is written to
the pipe when it does, and an error number when it does not.  The result of
the wait after a malformed message is not looked at. -/
def waitForExec (committed : StartCommittedProcess) :
    Run Shared (Except ExecutorError SpawnOutcome) := do
  match ← ask (fun answers world => answers.execPipeRead world committed.pid)
      (.execPipeRead committed.pid) with
  | .error error =>
      proceed committed.stopAndReap fun _ => pure (.error (.execPipe error))
  | .ok payload =>
      if payload = [] then
        pure (.ok (.started ⟨committed.pid⟩))
      else if payload.length = 4 then do
        let waited ← waitBlocking committed.pid
        let output ← OutputReaders.cancelAndCollect
        pure (waited.bind fun _ => output.map fun output =>
          .execFailed ⟨committed.pid, signedOfBytes payload, output⟩)
      else do
        let _ ← waitBlocking committed.pid
        OutputReaders.cancelAndJoin
        pure (.error .invalidExecPayload)

end StartCommittedProcess

namespace SpawnedProcess

/-- Wait for a killed child until a deadline. -/
def reapAfterKillUntil (process : SpawnedProcess)
    (deadline : MonotonicDeadline) :
    Run Shared (Except ExecutorError ProcessExit) := do
  match ← awaitExit process.pid deadline with
  | .error error => pure (.error error)
  | .ok none =>
      pure (.error (.wait ⟨"cgroup 전체 종료 뒤 target의 종료 상태를 회수하지 못했습니다"⟩))
  | .ok (some status) => pure (.ok status)

end SpawnedProcess
end Linux
end TaskCage
