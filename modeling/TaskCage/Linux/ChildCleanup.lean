import TaskCage.Linux.Evidence

/-!
# What the cleanup of a child produces

Each operation of the three owners of a child, with the events it produces.
-/

namespace TaskCage
namespace Linux

open Process

variable {Shared : Type} (pid : ℕ) (deadline : MonotonicDeadline)

theorem produces_waitNohang :
    Produces (waitNohang pid : Run Shared _) fun result events =>
      ∃ answer, events = [.waitTried pid answer] ∧
        result = (answer.mapError .wait).map (Option.map decodeWaitStatus) :=
  .ask_map fun answer => ⟨answer, rfl, rfl⟩

/-- Waiting for a killed child until a deadline. -/
theorem produces_awaitExit :
    Produces (awaitExit pid deadline : Run Shared _) fun result events =>
      (∀ event ∈ events, event.IsChildStep pid) ∧
        (∀ outcome, result = .ok (some outcome) →
          ∃ status, .waitTried pid (.ok (some status)) ∈ events ∧
            outcome = decodeWaitStatus status) ∧
        ((∀ outcome, result ≠ .ok (some outcome)) → Failing events) := by
  let Look (seen : Option (Except ExecutorError (Option ProcessExit)))
      (events : List Event) : Prop :=
    ∃ answer, events = [.waitTried pid answer] ∧
      ∀ result, seen = some result →
        (∃ status, answer = .ok (some status) ∧
          result = .ok (some (decodeWaitStatus status))) ∨
        (∃ error, answer = .error error ∧ result = .error (.wait error))
  have look : Produces (lookExit pid : Run Shared _) Look := by
    refine (produces_waitNohang pid).bind ?_
    rintro _ _ ⟨answer, rfl, rfl⟩
    refine .pure ⟨answer, rfl, ?_⟩
    rcases answer with error | (_ | status) <;>
      simp [Except.mapError, Except.map, eq_comm]
  have steps : ∀ seen events, Look seen events →
      ∀ event ∈ events, event.IsChildStep pid := by
    rintro seen _ ⟨answer, rfl, -⟩ event member
    rw [List.mem_singleton.mp member]
    exact rfl
  have later : Keeps (lookExit pid : Run Shared _) Later :=
    ((keeps_later_ask _ _).later_map _).later_map _
  refine (produces_awaitUntil later look steps fun _ => trivial).mono ?_
  rintro result _ ⟨allSteps, before, last, rfl, seen | late⟩
  · obtain ⟨answer, rfl, found⟩ := seen
    obtain ⟨status, rfl, rfl⟩ | ⟨error, rfl, rfl⟩ := found result rfl
    · refine ⟨allSteps, ?_, fun absent => absurd rfl (absent _)⟩
      rintro outcome equal
      cases equal
      exact ⟨status, by simp, rfl⟩
    · exact ⟨allSteps, by simp, fun _ => failing_last _ trivial⟩
  · obtain ⟨rfl, round, -, rfl⟩ := late
    have failing : Failing (round ++ [.cleanupRemaining none]) :=
      failing_last _ trivial
    exact ⟨allSteps, by simp, fun _ => failing.append_left⟩

/-! ### Output readers -/

namespace OutputReaders

/-- Joining both readers. -/
theorem joined_pair (stdout stderr : ReaderExit) :
    Joined [.readerJoined .stdout stdout, .readerJoined .stderr stderr] := by
  rintro (_ | _)
  · exact ⟨stdout, by simp⟩
  · exact ⟨stderr, by simp⟩

theorem steps_pair (stdout stderr : ReaderExit) :
    ∀ event ∈ [Event.readerJoined .stdout stdout,
        .readerJoined .stderr stderr], event.IsChildStep pid := by
  simp [Event.IsChildStep]

/-- Readers whose output cannot be collected have failed. -/
theorem failing_of_collected {stdout stderr : ReaderExit}
    {error : ExecutorError} (failed : collected stdout stderr = .error error) :
    Failing [.readerJoined .stdout stdout, .readerJoined .stderr stderr] := by
  cases stdout with
  | failed source => exact ⟨_, List.mem_cons_self, trivial⟩
  | panicked => exact ⟨_, List.mem_cons_self, trivial⟩
  | tail first =>
      cases stderr with
      | failed source => exact failing_last [_] trivial
      | panicked => exact failing_last [_] trivial
      | tail second => cases failed

theorem produces_cancelAndJoin :
    Produces (cancelAndJoin : Run Shared _) fun _ events =>
      ∃ stdout stderr, events =
        [.readerJoined .stdout stdout, .readerJoined .stderr stderr] := by
  refine .bind (.ask fun stdout => (rfl : [_] = [_])) ?_
  rintro stdout _ rfl
  exact .ask_map fun stderr => ⟨stdout, stderr, rfl⟩

theorem produces_cancelAndCollect :
    Produces (cancelAndCollect : Run Shared _) fun result events =>
      ∃ stdout stderr, result = collected stdout stderr ∧ events =
        [.readerJoined .stdout stdout, .readerJoined .stderr stderr] := by
  refine .bind (.ask fun stdout => (rfl : [_] = [_])) ?_
  rintro stdout _ rfl
  exact .ask_map fun stderr => ⟨stdout, stderr, rfl, rfl⟩

/-- Collecting the output until a deadline. -/
theorem produces_collectUntil :
    Produces (collectUntil deadline : Run Shared _) fun result events =>
      (∀ event ∈ events, event.IsChildStep pid) ∧ Joined events ∧
        ∀ error, result = .error error → Failing events := by
  let Look (seen : Option Bool) (events : List Event) : Prop :=
    ∃ stdout stderr, events =
        [.readerFinished .stdout stdout, .readerFinished .stderr stderr] ∧
      seen ≠ some true
  have look : Produces (lookFinished : Run Shared _) Look := by
    refine .bind (.ask fun stdout => (rfl : [_] = [_])) ?_
    rintro stdout _ rfl
    refine .ask_map fun stderr => ⟨stdout, stderr, rfl, ?_⟩
    cases stdout <;> cases stderr <;> simp
  have steps : ∀ seen events, Look seen events →
      ∀ event ∈ events, event.IsChildStep pid := by
    rintro seen _ ⟨stdout, stderr, rfl, -⟩
    simp [Event.IsChildStep]
  have later : Keeps (lookFinished : Run Shared _) Later :=
    .bind inferInstance (keeps_later_ask _ _) fun _ =>
      (keeps_later_ask _ _).later_map _
  refine (produces_awaitUntil later look steps fun _ => trivial).bind ?_
  rintro timedOut waitEvents ⟨waitSteps, before, last, rfl, ends⟩
  refine .bind (.ask fun stdout => (rfl : [_] = [_])) ?_
  rintro stdout _ rfl
  refine .bind (.ask fun stderr => (rfl : [_] = [_])) ?_
  rintro stderr _ rfl
  have joined := (joined_pair stdout stderr)
  have allSteps := List.forall_mem_append.mpr
    ⟨waitSteps, steps_pair pid stdout stderr⟩
  cases timedOut with
  | false =>
      refine .pure ⟨by simpa using allSteps, joined.append_left, ?_⟩
      intro error failed
      exact (failing_of_collected failed).append_left
  | true =>
      refine .pure ⟨by simpa using allSteps, joined.append_left, fun _ _ => ?_⟩
      rcases ends with ⟨_, _, _, never⟩ | ⟨-, round, -, rfl⟩
      · exact absurd rfl never
      · have failing : Failing (round ++ [.cleanupRemaining none]) :=
          failing_last _ trivial
        exact failing.append_left.append_right

end OutputReaders

/-! ### Creation -/

/-- One step of the preparation, which may fail. -/
theorem produces_openPipe (pipe : Pipe) (failure : IoError → ExecutorError) :
    Produces (openPipe pipe failure : Run Shared _) fun _ events =>
      ∀ event ∈ events, event.IsPreparation :=
  .ask_map fun answer => by simp [Event.IsPreparation]

theorem produces_setNonblocking (pipe : Pipe)
    (failure : IoError → ExecutorError) :
    Produces (setNonblocking pipe failure : Run Shared _) fun _ events =>
      ∀ event ∈ events, event.IsPreparation :=
  .ask_map fun answer => by simp [Event.IsPreparation]

theorem produces_startReader (stream : Stream) :
    Produces (startReader stream : Run Shared _) fun _ events =>
      ∀ event ∈ events, event.IsPreparation :=
  .ask_map fun answer => by simp [Event.IsPreparation]

/-- Two preparations in a row are a preparation. -/
theorem produces_proceed_preparation {Value Next : Type}
    {first : Run Shared (Except ExecutorError Value)}
    {next : Value → Run Shared (Except ExecutorError Next)}
    (prepares : Produces first fun _ events =>
      ∀ event ∈ events, event.IsPreparation)
    (continues : ∀ value, Produces (next value) fun _ events =>
      ∀ event ∈ events, event.IsPreparation) :
    Produces (proceed first next) fun _ events =>
      ∀ event ∈ events, event.IsPreparation :=
  prepares.proceed (fun _ _ steps => steps) fun value _ steps =>
    (continues value).mono fun _ _ more =>
      List.forall_mem_append.mpr ⟨steps, more⟩

theorem produces_startReaders :
    Produces (startReaders : Run Shared _) fun _ events =>
      ∀ event ∈ events, event.IsPreparation := by
  refine produces_proceed_preparation (produces_startReader .stdout) fun _ => ?_
  refine (produces_startReader .stderr).bind ?_
  rintro (error | _) events steps
  · exact .ask_map fun outcome => List.forall_mem_append.mpr
      ⟨steps, by simp [Event.IsPreparation]⟩
  · exact .pure (by simpa using steps)

theorem produces_preparePipes :
    Produces (preparePipes : Run Shared _) fun _ events =>
      ∀ event ∈ events, event.IsPreparation :=
  produces_proceed_preparation (produces_openPipe _ _) fun _ =>
  produces_proceed_preparation (produces_openPipe _ _) fun _ =>
  produces_proceed_preparation (produces_setNonblocking _ _) fun _ =>
  produces_proceed_preparation (produces_openPipe _ _) fun _ =>
  produces_proceed_preparation (produces_openPipe _ _) fun _ =>
  produces_proceed_preparation (produces_setNonblocking _ _) fun _ =>
  produces_proceed_preparation (produces_setNonblocking _ _) fun _ =>
  produces_startReaders

/-- Creating a child: it is the last step, and without one there is no
child. -/
theorem produces_spawnInCgroup :
    Produces (spawnInCgroup : Run Shared _) fun result events =>
      match result with
      | .ok pending =>
          pending.reaped = false ∧ ∃ before,
            events = before ++ [.cloned (.ok pending.pid)] ∧
              ∀ event ∈ before, event.IsPreparation
      | .error _ => ∀ event ∈ events, event.IsPreparation := by
  refine produces_preparePipes.proceed (fun _ _ steps => steps) ?_
  intro _ before steps
  refine .bind (.ask fun answer => (rfl : [_] = [_])) ?_
  rintro (source | pid) _ rfl
  · refine OutputReaders.produces_cancelAndJoin.bind ?_
    rintro _ _ ⟨stdout, stderr, rfl⟩
    refine .pure ?_
    simp only [List.append_nil, List.forall_mem_append]
    exact ⟨steps, by simp [Event.IsPreparation], by simp [Event.IsPreparation]⟩
  · exact .pure ⟨rfl, before, rfl, steps⟩

/-! ### Pending processes -/

namespace PendingProcess

variable (pending : PendingProcess)

theorem produces_joinReaders :
    Produces (pending.joinReaders : Run Shared _) fun after events =>
      after.pid = pending.pid ∧ after.reaped = pending.reaped ∧
        ∀ event ∈ events, event.IsChildStep pending.pid := by
  unfold joinReaders
  split
  · refine OutputReaders.produces_cancelAndJoin.bind ?_
    rintro _ _ ⟨stdout, stderr, rfl⟩
    exact .pure ⟨rfl, rfl, OutputReaders.steps_pair _ stdout stderr⟩
  · exact .pure ⟨rfl, rfl, by simp⟩

/-- Aborting a pending child. -/
theorem produces_abortUntil :
    Produces (pending.abortUntil deadline : Run Shared _)
      fun outcome events =>
        outcome.2.pid = pending.pid ∧
          (∀ event ∈ events, event.IsChildStep pending.pid) ∧
          (outcome.1 = .ok () → outcome.2.reaped = true ∧
            Waited pending.pid events) ∧
          (outcome.1 ≠ .ok () → Failing events) := by
  refine .bind (.ask fun _ => (rfl : [_] = [_])) ?_
  rintro _ _ rfl
  refine (produces_awaitExit pending.pid deadline).bind ?_
  rintro result waitEvents ⟨waitSteps, exited, missed⟩
  have steps : ∀ event ∈ [.killed pending.pid] ++ waitEvents,
      event.IsChildStep pending.pid :=
    List.forall_mem_append.mpr ⟨by simp [Event.IsChildStep], waitSteps⟩
  rcases result with error | (_ | outcome)
  · refine .pure ⟨rfl, by simpa using steps, by simp, fun _ => ?_⟩
    exact (missed (by simp)).append_right.append_left
  · refine (produces_joinReaders _).bind ?_
    rintro after joinEvents ⟨pidEq, -, joinSteps⟩
    refine .pure ⟨pidEq, ?_, by simp, fun _ => ?_⟩
    · simpa using List.forall_mem_append.mpr ⟨steps, joinSteps⟩
    · exact (missed (by simp)).append_right.append_left
  · obtain ⟨status, waited, -⟩ := exited outcome rfl
    have seen : Waited pending.pid waitEvents := ⟨_, waited, rfl⟩
    refine (produces_joinReaders _).bind ?_
    rintro after joinEvents ⟨pidEq, -, joinSteps⟩
    refine .pure ⟨pidEq, ?_, fun _ => ⟨rfl, ?_⟩, by simp⟩
    · simpa using List.forall_mem_append.mpr ⟨steps, joinSteps⟩
    · exact seen.append_right.append_left

/-- Giving up a pending child: nothing happens to one that was waited for. -/
theorem produces_drop :
    Produces (pending.drop : Run Shared _) fun _ events =>
      ∀ event ∈ events, event.IsChildStep pending.pid := by
  unfold drop
  split
  · exact .pure (by simp)
  · have stopped : Produces (pending.stopAndReap : Run Shared _)
        fun _ events => ∀ event ∈ events, event.IsChildStep pending.pid := by
      refine .bind (.ask fun _ => (rfl : [_] = [_])) ?_
      rintro _ _ rfl
      have waited : Produces (waitBlocking pending.pid : Run Shared _)
          fun _ events => ∃ answer, events = [.waited pending.pid answer] :=
        .ask_map fun answer => ⟨answer, rfl⟩
      refine waited.bind ?_
      rintro _ _ ⟨answer, rfl⟩
      refine (produces_joinReaders _).bind ?_
      rintro after joinEvents ⟨-, -, joinSteps⟩
      refine .pure ?_
      simpa [Event.IsChildStep] using joinSteps
    refine stopped.bind ?_
    exact fun _ events steps => .pure (by simpa using steps)

end PendingProcess

/-! ### Committed and running processes -/

/-- Waiting for a child as long as it takes. -/
theorem produces_waitBlocking :
    Produces (waitBlocking pid : Run Shared _) fun result events =>
      ∃ answer, events = [.waited pid answer] ∧
        result = (answer.mapError .wait).map decodeWaitStatus :=
  .ask_map fun answer => ⟨answer, rfl, rfl⟩

/-- A message on the exec pipe that is neither empty nor an error number. -/
def Malformed (payload : List UInt8) : Prop :=
  payload.length ≠ 0 ∧ payload.length ≠ 4

namespace StartCommittedProcess

/-- What the exec pipe tells.  A wait that did not succeed is an error of its
own, except after a malformed message. -/
structure Learned (pid : ℕ) (result : Except ExecutorError SpawnOutcome)
    (answer : Except IoError (List UInt8)) (events : List Event) : Prop where
  steps : ∀ event ∈ events, event.IsChildStep pid
  started : ∀ process, result = .ok (.started process) →
    process.pid = pid ∧ events = [] ∧ answer = .ok []
  running : answer = .ok [] → result = .ok (.started ⟨pid⟩)
  execFailed : ∀ failure, result = .ok (.execFailed failure) →
    failure.pid = pid ∧ Waited pid events ∧ Joined events ∧
      ∃ payload, answer = .ok payload ∧ payload.length = 4
  malformed : ∀ payload, answer = .ok payload → Malformed payload →
    result = .error .invalidExecPayload ∧ ∃ waitAnswer stdout stderr,
      events = [.waited pid waitAnswer, .readerJoined .stdout stdout,
        .readerJoined .stderr stderr]
  waited : (∀ payload, answer = .ok payload → ¬ Malformed payload) →
    ∀ error, result = .error error → error.isWait = false → Waited pid events

theorem produces_waitForExec :
    Produces ((StartCommittedProcess.mk pid).waitForExec : Run Shared _)
      fun result events => ∃ answer rest,
        events = .execPipeRead pid answer :: rest ∧
          Learned pid result answer rest := by
  refine .bind (.ask fun answer => (rfl : [_] = [_])) ?_
  rintro (error | payload) _ rfl
  · have stopped : Produces
        ((StartCommittedProcess.mk pid).stopAndReap : Run Shared _)
        fun result events => ∃ answer stdout stderr,
          events = [.killed pid, .waited pid answer,
            .readerJoined .stdout stdout, .readerJoined .stderr stderr] ∧
          result = ((answer.mapError .wait).map decodeWaitStatus).map
            fun _ => () := by
      refine .bind (.ask fun _ => (rfl : [_] = [_])) ?_
      rintro _ _ rfl
      refine (produces_waitBlocking pid).bind ?_
      rintro _ _ ⟨answer, rfl, rfl⟩
      refine OutputReaders.produces_cancelAndJoin.bind ?_
      rintro _ _ ⟨stdout, stderr, rfl⟩
      exact .pure ⟨answer, stdout, stderr, rfl, rfl⟩
    refine stopped.proceed ?_ ?_
    · rintro failure _ ⟨answer, stdout, stderr, rfl, failed⟩
      refine ⟨.error error, _, rfl, ?_, by simp, by simp, by simp, by simp, ?_⟩
      · simp [Event.IsChildStep]
      · rintro - other equal notWait
        cases equal
        cases answer with
        | error source => cases failed; simp [ExecutorError.isWait] at notWait
        | ok status => cases failed
    · rintro _ _ ⟨answer, stdout, stderr, rfl, succeeded⟩
      refine .pure ⟨.error error, _, rfl, ?_, by simp, by simp, by simp,
        by simp, ?_⟩
      · simp [Event.IsChildStep]
      · rintro - other equal notWait
        cases answer with
        | error source => cases succeeded
        | ok status => exact ⟨.waited pid (.ok status), by simp, rfl⟩
  · dsimp only
    split
    · rename_i empty
      refine .pure ⟨.ok payload, [], rfl, by simp, ?_, fun _ => rfl, by simp,
        ?_, by simp⟩
      · rintro process equal
        cases equal
        exact ⟨rfl, rfl, by rw [empty]⟩
      · rintro other equal malformed
        cases equal
        simp [Malformed, empty] at malformed
    · split
      · rename_i nonempty number
        refine (produces_waitBlocking pid).bind ?_
        rintro _ _ ⟨answer, rfl, rfl⟩
        refine OutputReaders.produces_cancelAndCollect.bind ?_
        rintro _ _ ⟨stdout, stderr, rfl, rfl⟩
        have joined := OutputReaders.joined_pair stdout stderr
        refine .pure ⟨.ok payload, _, rfl, ?_, ?_, ?_, ?_, ?_, ?_⟩
        · simp [Event.IsChildStep]
        · cases answer <;> cases OutputReaders.collected stdout stderr <;>
            simp [Except.map, Except.mapError, Except.bind]
        · simp [nonempty]
        · intro failure equal
          have afterWait : Joined ([.waited pid answer] ++
              [.readerJoined .stdout stdout, .readerJoined .stderr stderr]) :=
            joined.append_left
          cases answer with
          | error source => cases equal
          | ok status =>
              cases output : OutputReaders.collected stdout stderr with
              | error error => rw [output] at equal; cases equal
              | ok captured =>
                  rw [output] at equal
                  cases equal
                  exact ⟨rfl, ⟨.waited pid (.ok status), by simp, rfl⟩,
                    afterWait, payload, rfl, number⟩
        · rintro other equal ⟨-, notNumber⟩
          cases equal
          exact absurd number notNumber
        · rintro - error equal notWait
          cases answer with
          | error source => cases equal; simp [ExecutorError.isWait] at notWait
          | ok status => exact ⟨.waited pid (.ok status), by simp, rfl⟩
      · rename_i nonempty other
        refine (produces_waitBlocking pid).bind ?_
        rintro _ _ ⟨answer, rfl, rfl⟩
        refine OutputReaders.produces_cancelAndJoin.bind ?_
        rintro _ _ ⟨stdout, stderr, rfl⟩
        have malformed : Malformed payload := ⟨by simpa using nonempty, other⟩
        refine .pure ⟨.ok payload, _, rfl, ?_, by simp, by simp [nonempty],
          by simp, ?_, ?_⟩
        · simp [Event.IsChildStep]
        · rintro _ _ -
          exact ⟨rfl, answer, stdout, stderr, rfl⟩
        · intro wellFormed
          exact absurd malformed (wellFormed payload rfl)

end StartCommittedProcess

namespace SpawnedProcess

/-- Waiting for a running child that was killed. -/
theorem produces_reapAfterKillUntil (process : SpawnedProcess) :
    Produces (process.reapAfterKillUntil deadline : Run Shared _)
      fun result events =>
        (∀ event ∈ events, event.IsChildStep process.pid) ∧
          (∀ outcome, result = .ok outcome →
            ∃ status, .waitTried process.pid (.ok (some status)) ∈ events ∧
              outcome = decodeWaitStatus status) ∧
          ∀ error, result = .error error → Failing events := by
  refine (produces_awaitExit process.pid deadline).bind ?_
  rintro (error | (_ | outcome)) events ⟨steps, exited, missed⟩
  · exact .pure ⟨by simpa using steps, by simp,
      fun _ _ => (missed (by simp)).append_right⟩
  · exact .pure ⟨by simpa using steps, by simp,
      fun _ _ => (missed (by simp)).append_right⟩
  · refine .pure ⟨by simpa using steps, ?_, by simp⟩
    rintro _ ⟨⟩
    simpa using exited outcome rfl

end SpawnedProcess
end Linux
end TaskCage
