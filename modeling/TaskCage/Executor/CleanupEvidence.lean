import TaskCage.Executor.Cleanup
import TaskCage.Linux.ChildCleanup
import TaskCage.Linux.JobCleanup

/-!
# Evidence of the cleanup of an execution

What each cleanup of an execution produces.  A confirmed result has the
evidence for it among its events, and a fail-stop is begun only after a step
that failed.
-/

namespace TaskCage
namespace Executor

open FailStop Linux Process

variable {Rest : Type} (report : CleanupFailureReport) (failStop : Bool)
variable (process : SpawnedProcess)

theorem produces_activate :
    Produces (activate report : Execution Rest _) fun _ events =>
      events = [.activated report] :=
  .act fun _ _ => rfl

theorem produces_deadlineFromNow (timeout : ℕ) :
    Produces (deadlineFromNow timeout : Execution Rest _) fun deadline events =>
      events = [.cleanupStarted deadline] :=
  .ask fun _ => rfl

/-- Steps on the shared state leave no events. -/
theorem produces_failStopDeadline :
    Produces (failStopDeadline failStop : Execution Rest _) fun _ events =>
      events = [] := by
  unfold failStopDeadline
  split
  · exact .update fun _ _ => rfl
  · exact .pure rfl

/-! ### Jobs -/

/-- What finishing a job with a second attempt produces. -/
structure Retried (job after : JobCgroup)
    (result : Except CgroupError JobFinish) (events : List Linux.Event) : Prop where
  path_eq : after.path = job.path
  steps : ∀ event ∈ events,
    event.IsJobStep job.path ∨ ∃ report, event = .activated report
  cleaned : ∀ finish, result = .ok finish → after.cleaned = true
  emptied : ∀ finish, result = .ok finish → Emptied job.path events
  clean : ∀ finish, result = .ok finish → EndsClean job.path events
  failing : ∀ error, result = .error error → Failing events
  unclean : ∀ error, result = .error error → Unclean job.path events
  justified : Justified events

variable {after job : JobCgroup} {events first second : List Linux.Event}
variable {result : Except CgroupError JobFinish} {failure : CoreFailure}
variable {isolationUncertain : Bool} {path : String}
variable {evidence : ExecutionEvidence} {pid : ℕ}

/-- A first attempt that succeeded. -/
theorem Retried.of_first {stats : JobStats}
    (finished : job.Finished after (.ok stats) events)
    (deadline : MonotonicDeadline) :
    Retried job after (.ok ⟨stats, false, deadline⟩) events where
  path_eq := finished.path_eq
  steps event member := .inl (finished.steps event member)
  cleaned _ _ := finished.cleaned stats rfl
  emptied _ _ := finished.emptied stats rfl
  clean _ _ := finished.clean stats rfl
  failing := by simp
  unclean := by simp
  justified := justified_of_isJobStep finished.steps

variable {error : CgroupError} {before : List Linux.Event}

/-- A first attempt that failed and was not repeated. -/
theorem Retried.of_failed {later : List Linux.Event}
    (finished : job.Finished after (.error error) first)
    (later_eq : later = [] ∨ ∃ report, later = [.activated report]) :
    Retried job after (.error error) (first ++ later) where
  path_eq := finished.path_eq
  steps := by
    refine List.forall_mem_append.mpr
      ⟨fun event member => .inl (finished.steps event member), ?_⟩
    rcases later_eq with rfl | ⟨report, rfl⟩ <;> simp
  cleaned := by simp
  emptied := by simp
  clean := by simp
  failing _ _ := (finished.failing error rfl).append_right
  unclean _ _ := by
    rcases later_eq with rfl | ⟨report, rfl⟩
    · rw [List.append_nil]
      exact finished.unclean error rfl
    · exact unclean_of_last first (by simp)
  justified := (finished.failing error rfl).append_right.justified

/-- A second attempt. -/
theorem Retried.of_second {middle : JobCgroup}
    {stats : Except CgroupError JobStats}
    (finished : job.Finished middle (.error error) first)
    (again : middle.Finished after stats second)
    (succeeds : ∀ finish, result = .ok finish → ∃ value, stats = .ok value)
    (fails : ∀ failure, result = .error failure →
      ∃ retryError, stats = .error retryError) :
    Retried job after result (first ++ ([.activated report] ++ second)) where
  path_eq := again.path_eq.trans finished.path_eq
  steps := by
    have secondSteps := again.steps
    rw [finished.path_eq] at secondSteps
    simp only [List.forall_mem_append, List.mem_singleton, forall_eq]
    exact ⟨fun event member => .inl (finished.steps event member),
      .inr ⟨report, rfl⟩, fun event member => .inl (secondSteps event member)⟩
  cleaned finish ok := by
    obtain ⟨value, rfl⟩ := succeeds finish ok
    exact again.cleaned value rfl
  emptied finish ok := by
    obtain ⟨value, rfl⟩ := succeeds finish ok
    have emptied := again.emptied value rfl
    rw [finished.path_eq] at emptied
    exact emptied.append_left.append_left
  clean finish ok := by
    obtain ⟨value, rfl⟩ := succeeds finish ok
    have clean := again.clean value rfl
    rw [finished.path_eq] at clean
    exact clean.append_left.append_left
  failing _ _ := (finished.failing error rfl).append_right
  unclean failure failed := by
    obtain ⟨retryError, rfl⟩ := fails failure failed
    have unclean := again.unclean retryError rfl
    rw [finished.path_eq] at unclean
    exact unclean.append_left.append_left
  justified := (finished.failing error rfl).append_right.justified

/-- Finishing a job, with a second attempt under the fail-stop deadline. -/
theorem produces_finishJobWithRetry (job : JobCgroup)
    (deadline : MonotonicDeadline) (killAlreadySent failStop : Bool)
    (jobId stage : String) :
    Produces
      (finishJobWithRetry job deadline killAlreadySent failStop jobId stage :
        Execution Rest _)
      fun outcome events => Retried job outcome.2 outcome.1 events := by
  have first : Produces
      (if killAlreadySent then job.finishAfterKillUntil deadline
        else job.finishUntil deadline : Execution Rest _)
      fun outcome events => job.Finished outcome.2 outcome.1 events := by
    split
    · exact job.produces_finishAfterKillUntil deadline
    · exact job.produces_finishUntil deadline
  refine first.bind ?_
  rintro ⟨error | stats, middle⟩ events finished
  · cases failStop with
    | false => exact .pure (.of_failed finished (.inl rfl))
    | true =>
        refine (produces_activate _).bind ?_
        rintro retryDeadline _ rfl
        by_cases removed : middle.cleaned = true
        · simp only [removed]
          exact .pure (.of_failed finished (.inr ⟨_, rfl⟩))
        · simp only [removed]
          refine (middle.produces_finishUntil retryDeadline).bind ?_
          rintro ⟨retryError | stats, after⟩ second again
          · refine .pure ?_
            simpa using Retried.of_second _ finished again
              (by simp) (fun _ _ => ⟨retryError, rfl⟩)
          · refine .pure ?_
            simpa using Retried.of_second _ finished again
              (fun _ _ => ⟨stats, rfl⟩) (by simp)
  · refine .pure ?_
    rw [List.append_nil]
    exact .of_first finished deadline

/-- Giving up a job after it was finished or could not be finished. -/
theorem Retried.append_drop {dropEvents : List Linux.Event}
    (retried : Retried job after result events)
    (steps : ∀ event ∈ dropEvents, event.IsJobStep after.path)
    (removed : after.cleaned = true → dropEvents = [])
    (left : after.cleaned = false → Unclean after.path dropEvents) :
    Retried job after result (events ++ dropEvents) where
  path_eq := retried.path_eq
  steps := by
    rw [retried.path_eq] at steps
    exact List.forall_mem_append.mpr
      ⟨retried.steps, fun event member => .inl (steps event member)⟩
  cleaned := retried.cleaned
  emptied finish ok := (retried.emptied finish ok).append_right
  clean finish ok := by
    rw [removed (retried.cleaned finish ok), List.append_nil]
    exact retried.clean finish ok
  failing error failed := (retried.failing error failed).append_right
  unclean error failed := by
    cases isClean : after.cleaned with
    | true =>
        rw [removed isClean, List.append_nil]
        exact retried.unclean error failed
    | false =>
        have unclean := left isClean
        rw [retried.path_eq] at unclean
        exact unclean.append_left
  justified := retried.justified.append (justified_of_isJobStep steps)

theorem Retried.cleanupSteps (retried : Retried job after result events)
    (pid : ℕ) :
    ∀ event ∈ events, event.IsCleanupStep job.path pid := by
  intro event member
  rcases retried.steps event member with step | ⟨report, rfl⟩
  · exact step.isCleanupStep pid
  · trivial

/-- What giving up a job produces, where the child may be uncertain. -/
structure GivenUp (path : String) (isolationUncertain : Bool)
    (failure : CoreFailure) (events : List Linux.Event) : Prop where
  steps : ∀ event ∈ events,
    event.IsJobStep path ∨ ∃ report, event = .activated report
  justified : Justified events
  complete : failure.cleanupComplete = true →
    isolationUncertain = false ∧ EndsClean path events
  blocked : failure.cleanupComplete = false → failure.blockFutureRuns = true
  unclean : failure.cleanupComplete = false →
    isolationUncertain = true ∨ Unclean path events

theorem GivenUp.cleanupSteps
    (givenUp : GivenUp path isolationUncertain failure events) (pid : ℕ) :
    ∀ event ∈ events, event.IsCleanupStep path pid := by
  intro event member
  rcases givenUp.steps event member with step | ⟨report, rfl⟩
  · exact step.isCleanupStep pid
  · trivial

theorem GivenUp.isChildless
    (givenUp : GivenUp path isolationUncertain failure events) :
    ∀ event ∈ events, event.IsChildless := by
  intro event member
  rcases givenUp.steps event member with step | ⟨report, rfl⟩
  · exact step.isChildless
  · trivial

/-- Giving up a job says nothing about a child. -/
theorem GivenUp.childless
    (givenUp : GivenUp path isolationUncertain failure events) (pid : ℕ) :
    ∀ event ∈ events, ¬ event.WaitsFor pid ∧
      ∀ answer, event ≠ .waited pid answer := by
  intro event member
  rcases givenUp.steps event member with step | ⟨report, rfl⟩
  · exact ⟨step.not_waitsFor, by rintro answer rfl; exact step⟩
  · exact ⟨id, by simp⟩

/-- Cleaning up a job after a failure. -/
theorem produces_giveUp_cleanupJobAfterFailure (job : JobCgroup)
    (present : job.cleaned = false) (timeout : ℕ) (jobId : String)
    (failStop : Bool) (stage cause : String) (isolationUncertain : Bool) :
    Produces
      (giveUp (cleanupJobAfterFailure job timeout jobId failStop stage cause
        isolationUncertain) : Execution Rest _)
      fun result events => ∃ failure, result = .error failure ∧
        GivenUp job.path isolationUncertain failure events := by
  unfold giveUp cleanupJobAfterFailure
  rw [bind_assoc]
  refine (produces_deadlineFromNow timeout).bind ?_
  rintro (_ | deadline) _ rfl
  · dsimp only
    rw [pure_bind]
    refine job.produces_drop.bind ?_
    rintro _ dropEvents ⟨dropSteps, -, left⟩
    have failing : Failing ([.cleanupStarted none] ++ dropEvents) :=
      ⟨.cleanupStarted none, by simp, trivial⟩
    refine .pure ⟨_, rfl, ?_⟩
    rw [List.append_nil]
    exact
      { steps := List.forall_mem_append.mpr ⟨by simp [Event.IsJobStep],
          fun event member => .inl (dropSteps event member)⟩
        justified := failing.justified
        complete := by simp [CoreFailure.uncertain]
        blocked := fun _ => rfl
        unclean := fun _ => .inr (left present).append_left }
  · simp only [bind_assoc, pure_bind]
    refine (produces_finishJobWithRetry job deadline false failStop jobId
      stage).bind ?_
    rintro ⟨finished, after⟩ jobEvents retried
    refine after.produces_drop.bind ?_
    rintro _ dropEvents ⟨dropSteps, removed, left⟩
    have all := retried.append_drop dropSteps removed left
    refine .pure ⟨_, rfl, ?_⟩
    rw [List.append_nil]
    have started : ∀ event ∈ [Event.cleanupStarted (some deadline)],
        event.IsJobStep job.path := by
      simp [Event.IsJobStep]
    refine
      { steps := List.forall_mem_append.mpr
          ⟨fun event member => .inl (started event member), all.steps⟩
        justified := (justified_of_isJobStep started).append all.justified
        complete := ?_
        blocked := ?_
        unclean := ?_ }
    · cases finished with
      | ok finish =>
          intro complete
          exact ⟨by simpa [CoreFailure.afterJob] using complete,
            (all.clean finish rfl).append_left⟩
      | error error =>
          simp [CoreFailure.afterJob, CoreFailure.uncertainWithCause]
    · cases finished with
      | ok finish => simp [CoreFailure.afterJob]
      | error error => exact fun _ => rfl
    · cases finished with
      | ok finish => simpa [CoreFailure.afterJob] using .inl
      | error error => exact fun _ => .inr (all.unclean error rfl).append_left

theorem produces_outputDeadline (finished : Except CgroupError JobFinish)
    (fallback : MonotonicDeadline) :
    Produces (outputDeadline failStop finished fallback : Execution Rest _)
      fun _ events => events = [] := by
  cases finished with
  | ok finish => exact .pure rfl
  | error error =>
      refine (produces_failStopDeadline failStop).bind ?_
      rintro deadline _ rfl
      exact .pure rfl

/-! ### Pending processes -/

/-- Aborting a pending child, with a second attempt. -/
theorem produces_abortWithRetry (path : String) (pending : PendingProcess)
    (deadline : MonotonicDeadline) (failStop : Bool) (jobId stage : String) :
    Produces
      (abortWithRetry pending deadline failStop jobId stage : Execution Rest _)
      fun outcome events =>
        outcome.2.1.pid = pending.pid ∧
          (∀ event ∈ events, event.IsCleanupStep path pending.pid) ∧
          Justified events ∧
          (outcome.1 = .ok () → Waited pending.pid events) := by
  refine (pending.produces_abortUntil deadline).bind ?_
  rintro ⟨aborted, after⟩ events ⟨pidEq, steps, reaped, failing⟩
  have justified := justified_of_isChildStep steps
  have cleanupSteps : ∀ event ∈ events, event.IsCleanupStep path pending.pid :=
    fun event member => (steps event member).isCleanupStep path
  rcases aborted with error | _
  · cases failStop with
    | false =>
        refine .pure ⟨pidEq, ?_, ?_, by simp⟩
        · simpa using cleanupSteps
        · simpa using justified
    | true =>
        refine (produces_activate _).bind ?_
        rintro effectiveDeadline _ rfl
        refine (after.produces_abortUntil effectiveDeadline).bind ?_
        rintro ⟨again, later⟩ moreEvents ⟨pidAgain, moreSteps, waited, -⟩
        have samePid : after.pid = pending.pid := pidEq
        rw [samePid] at moreSteps waited
        refine .pure ⟨pidAgain.trans pidEq, ?_, ?_, ?_⟩
        · simp only [List.forall_mem_append, List.append_nil]
          exact ⟨cleanupSteps, by simp [Event.IsCleanupStep],
            fun event member => (moreSteps event member).isCleanupStep path⟩
        · exact (failing (by simp)).append_right.justified
        · intro succeeded
          rw [List.append_nil]
          exact (waited succeeded).2.append_left.append_left
  · refine .pure ⟨pidEq, ?_, ?_, fun _ => (reaped rfl).2.append_right⟩
    · simpa using cleanupSteps
    · simpa using justified

/-- What giving up a pending child and its job produces. -/
structure Aborted (path : String) (pid : ℕ) (failure : CoreFailure)
    (events : List Linux.Event) : Prop where
  steps : ∀ event ∈ events, event.IsCleanupStep path pid
  justified : Justified events
  removed : failure.cleanupComplete = true → .jobRemoved path (.ok ()) ∈ events
  waited : failure.cleanupComplete = true → Waited pid events
  blocked : failure.cleanupComplete = false → failure.blockFutureRuns = true

theorem produces_giveUp_cleanupPendingJobUntil (job : JobCgroup)
    (pending : PendingProcess) (deadline : MonotonicDeadline) (jobId : String)
    (failStop : Bool) (stage cause : String) :
    Produces
      (giveUp (cleanupPendingJobUntil job pending deadline jobId failStop
        stage cause) : Execution Rest _)
      fun result events => ∃ failure, result = .error failure ∧
        Aborted job.path pending.pid failure events := by
  unfold giveUp cleanupPendingJobUntil
  simp only [bind_assoc, pure_bind]
  refine (produces_abortWithRetry job.path pending deadline failStop jobId
    stage).bind ?_
  rintro ⟨aborted, later, effectiveDeadline⟩ abortEvents
    ⟨pidEq, abortSteps, abortJustified, waited⟩
  refine (produces_finishJobWithRetry job _ _ _ _ _).bind ?_
  rintro ⟨finished, after⟩ jobEvents retried
  refine later.produces_drop.bind ?_
  rintro _ childEvents childSteps
  have samePid : later.pid = pending.pid := pidEq
  rw [samePid] at childSteps
  refine after.produces_drop.bind ?_
  rintro _ dropEvents ⟨dropSteps, -, -⟩
  rw [retried.path_eq] at dropSteps
  refine .pure ⟨_, rfl, ?_⟩
  rw [List.append_nil]
  exact
    { steps := by
        simp only [List.forall_mem_append]
        exact ⟨abortSteps, retried.cleanupSteps _,
          fun event member => (childSteps event member).isCleanupStep _,
          fun event member => (dropSteps event member).isCleanupStep _⟩
      justified := abortJustified.append (retried.justified.append
        ((justified_of_isChildStep childSteps).append
          (justified_of_isJobStep dropSteps)))
      removed := by
        intro complete
        rcases finished with error | finish
        · simp [CoreFailure.afterPending, Except.isOk, Except.toBool]
            at complete
        · simp [(retried.clean finish rfl).removed]
      waited := by
        intro complete
        rcases aborted with error | _
        · simp [CoreFailure.afterPending, Except.isOk, Except.toBool]
            at complete
        · exact (waited rfl).append_right
      blocked := by
        cases aborted <;> cases finished <;>
          simp [CoreFailure.afterPending, Except.isOk, Except.toBool] }

theorem produces_giveUp_cleanupPendingJob (job : JobCgroup)
    (pending : PendingProcess) (timeout : ℕ) (jobId : String)
    (failStop : Bool) (stage cause : String) :
    Produces
      (giveUp (cleanupPendingJob job pending timeout jobId failStop stage
        cause) : Execution Rest _)
      fun result events => ∃ failure, result = .error failure ∧
        Aborted job.path pending.pid failure events := by
  unfold giveUp cleanupPendingJob
  rw [bind_assoc]
  refine (produces_deadlineFromNow timeout).bind ?_
  rintro (_ | deadline) _ rfl
  · simp only [bind_assoc, pure_bind]
    refine pending.produces_drop.bind ?_
    rintro _ childEvents childSteps
    refine job.produces_drop.bind ?_
    rintro _ dropEvents ⟨dropSteps, -, -⟩
    have failing : Failing ([.cleanupStarted none] ++
        (childEvents ++ dropEvents)) :=
      ⟨.cleanupStarted none, by simp, trivial⟩
    refine .pure ⟨_, rfl, ?_⟩
    rw [List.append_nil]
    exact
      { steps := by
          simp only [List.forall_mem_append]
          exact ⟨by simp [Event.IsCleanupStep, Event.IsJobStep],
            fun event member => (childSteps event member).isCleanupStep _,
            fun event member => (dropSteps event member).isCleanupStep _⟩
        justified := failing.justified
        removed := by simp [CoreFailure.uncertain]
        waited := by simp [CoreFailure.uncertain]
        blocked := fun _ => rfl }
  · refine (produces_giveUp_cleanupPendingJobUntil job pending deadline jobId
      failStop stage cause).mono ?_
    rintro _ events ⟨failure, rfl, aborted⟩
    have started : ∀ event ∈ [Event.cleanupStarted (some deadline)],
        event.IsJobStep job.path := by
      simp [Event.IsJobStep]
    exact ⟨failure, rfl,
      { steps := List.forall_mem_append.mpr ⟨fun event member =>
          (started event member).isCleanupStep _, aborted.steps⟩
        justified := (justified_of_isJobStep started).append aborted.justified
        removed := fun complete =>
          List.mem_append_right _ (aborted.removed complete)
        waited := fun complete => (aborted.waited complete).append_left
        blocked := aborted.blocked }⟩

/-! ### Started processes -/

namespace CoreFailure

/-- A failure after which nothing is certain. -/
def Uncertain (failure : CoreFailure) : Prop :=
  failure.blockFutureRuns = true ∧ failure.cleanupComplete = false

end CoreFailure

/-- The evidence is the status that a wait for the child returned. -/
def Exited (pid : ℕ) (evidence : ExecutionEvidence)
    (events : List Linux.Event) : Prop :=
  ∃ status, .waitTried pid (.ok (some status)) ∈ events ∧
    evidence = .started (.fromExit (decodeWaitStatus status))

theorem Exited.waited (exited : Exited pid evidence events) :
    Waited pid events := by
  obtain ⟨status, member, -⟩ := exited
  exact ⟨_, member, rfl⟩

theorem Exited.mono {few many : List Linux.Event}
    (exited : Exited pid evidence few) (subset : few ⊆ many) :
    Exited pid evidence many := by
  obtain ⟨status, member, equal⟩ := exited
  exact ⟨status, subset member, equal⟩

theorem Exited.append_right (exited : Exited pid evidence first) :
    Exited pid evidence (first ++ second) :=
  exited.mono (List.subset_append_left first second)

theorem Exited.append_left (exited : Exited pid evidence second) :
    Exited pid evidence (first ++ second) :=
  exited.mono (List.subset_append_right first second)

/-- What following a started child to its end produces, where `Known` is what
is known about the evidence in a confirmed result. -/
structure Followed (path : String) (pid : ℕ)
    (Known : ExecutionEvidence → List Linux.Event → Prop)
    (result : Except CoreFailure CleanedRun) (events : List Linux.Event) :
    Prop where
  steps : ∀ event ∈ events, event.IsCleanupStep path pid
  justified : Justified events
  pid_eq : ∀ run, result = .ok run → run.pid = pid
  known : ∀ run, result = .ok run → Known run.evidence events
  emptied : ∀ run, result = .ok run → Emptied path events
  joined : ∀ run, result = .ok run → Joined events
  uncertain : ∀ failure, result = .error failure →
    failure.Uncertain ∧ Failing events

section Followed

variable {Known Learned : ExecutionEvidence → List Linux.Event → Prop}
variable {result : Except CoreFailure CleanedRun}

theorem Followed.of_error {failure : CoreFailure}
    (steps : ∀ event ∈ first, event.IsCleanupStep path pid)
    (failing : Failing first) (uncertain : failure.Uncertain) :
    Followed path pid Known (.error failure) first where
  steps := steps
  justified := failing.justified
  pid_eq := by simp
  known := by simp
  emptied := by simp
  joined := by simp
  uncertain := by
    rintro _ ⟨⟩
    exact ⟨uncertain, failing⟩

theorem Followed.append_left (followed : Followed path pid Known result second)
    (steps : ∀ event ∈ first, event.IsCleanupStep path pid)
    (justified : Justified first)
    (learned : ∀ evidence, Known evidence second →
      Learned evidence (first ++ second)) :
    Followed path pid Learned result (first ++ second) where
  steps := List.forall_mem_append.mpr ⟨steps, followed.steps⟩
  justified := justified.append followed.justified
  pid_eq := followed.pid_eq
  known run ok := learned _ (followed.known run ok)
  emptied run ok := (followed.emptied run ok).append_left
  joined run ok := (followed.joined run ok).append_left
  uncertain failure failed :=
    let ⟨uncertain, failing⟩ := followed.uncertain failure failed
    ⟨uncertain, failing.append_left⟩

end Followed

theorem uncertain_uncertain (jobId stage cause : String)
    (uncleaned : List String) :
    (CoreFailure.uncertain jobId stage cause uncleaned).Uncertain :=
  ⟨rfl, rfl⟩

theorem produces_reportOutputFailure (jobId : String)
    (finished : Except CgroupError JobFinish)
    (output : Except ExecutorError CapturedOutput) :
    Produces
      (reportOutputFailure failStop jobId finished output : Execution Rest _)
      fun _ events => events = [] ∨
        ∃ report error, events = [.activated report] ∧
          output = .error error := by
  unfold reportOutputFailure
  split
  · rename_i broken
    refine (produces_activate _).bind ?_
    rintro _ _ rfl
    cases output with
    | ok output => simp [Except.isOk, Except.toBool] at broken
    | error error => exact .pure (.inr ⟨_, error, rfl, rfl⟩)
  · exact .pure (.inl rfl)

/-- Finishing the job and the output of a child that was waited for. -/
theorem produces_finishCleanedStarted (job : JobCgroup)
    (completion : StartedCompletion) (failStop : Bool) :
    Produces (finishCleanedStarted job completion failStop : Execution Rest _)
      (Followed job.path completion.process.pid fun evidence _ =>
        evidence = .started (.fromExit completion.status)) := by
  refine (produces_finishJobWithRetry job _ _ _ _ _).bind ?_
  rintro ⟨finished, after⟩ jobEvents retried
  refine (produces_outputDeadline _ _ _).bind ?_
  rintro deadline _ rfl
  refine (OutputReaders.produces_collectUntil completion.process.pid
    deadline).bind ?_
  rintro output outputEvents ⟨outputSteps, joined, broken⟩
  refine (produces_reportOutputFailure _ _ _ _).bind ?_
  rintro _ reportEvents reported
  refine after.produces_drop.bind ?_
  rintro _ dropEvents ⟨dropSteps, -, -⟩
  rw [retried.path_eq] at dropSteps
  have steps : ∀ event ∈
      jobEvents ++ (outputEvents ++ (reportEvents ++ dropEvents)),
      event.IsCleanupStep job.path completion.process.pid := by
    simp only [List.forall_mem_append]
    refine ⟨retried.cleanupSteps _,
      fun event member => (outputSteps event member).isCleanupStep _, ?_,
      fun event member => (dropSteps event member).isCleanupStep _⟩
    rcases reported with rfl | ⟨report, error, rfl, -⟩ <;>
      simp [Event.IsCleanupStep]
  refine .pure ?_
  simp only [List.nil_append, List.append_nil]
  rcases finished with cgroupError | finish <;>
    rcases output with outputError | output
  · exact .of_error steps (retried.failing _ rfl).append_right ⟨rfl, rfl⟩
  · exact .of_error steps (retried.failing _ rfl).append_right ⟨rfl, rfl⟩
  · exact .of_error steps (broken _ rfl).append_right.append_left ⟨rfl, rfl⟩
  · obtain rfl : reportEvents = [] := by simpa using reported
    exact
      { steps
        justified := retried.justified.append
          ((justified_of_isChildStep outputSteps).append
            (justified_of_isJobStep dropSteps))
        pid_eq := by rintro _ ⟨⟩; rfl
        known := by rintro _ ⟨⟩; rfl
        emptied := fun _ _ => (retried.emptied finish rfl).append_right
        joined := fun _ _ => joined.append_right.append_left
        uncertain := by rintro _ ⟨⟩ }

/-- A reaped child has the status that a wait for it returned. -/
def Reaped (pid : ℕ) (result : Except ExecutorError ProcessExit)
    (events : List Linux.Event) : Prop :=
  ∀ outcome, result = .ok outcome →
    Exited pid (.started (.fromExit outcome)) events

theorem Reaped.append_right {result : Except ExecutorError ProcessExit}
    (reaped : Reaped pid result first) : Reaped pid result (first ++ second) :=
  fun outcome ok => (reaped outcome ok).append_right

theorem Reaped.append_left {result : Except ExecutorError ProcessExit}
    (reaped : Reaped pid result second) : Reaped pid result (first ++ second) :=
  fun outcome ok => (reaped outcome ok).append_left

variable (deadline : MonotonicDeadline)

theorem produces_reap :
    Produces (process.reapAfterKillUntil deadline : Execution Rest _)
      fun result events =>
        (∀ event ∈ events, event.IsChildStep process.pid) ∧
          Reaped process.pid result events ∧
          ∀ error, result = .error error → Failing events := by
  refine (process.produces_reapAfterKillUntil deadline).mono ?_
  rintro result events ⟨steps, exited, failing⟩
  refine ⟨steps, ?_, failing⟩
  intro outcome ok
  obtain ⟨status, member, rfl⟩ := exited outcome ok
  exact ⟨status, member, rfl⟩

/-- Reaping a child again, if it has not been reaped. -/
theorem produces_reap_again (again : Bool)
    {reaped : Except ExecutorError ProcessExit}
    (exited : Reaped process.pid reaped before) :
    Produces
      (if again then process.reapAfterKillUntil deadline else pure reaped :
        Execution Rest _)
      fun result events =>
        (∀ event ∈ events, event.IsChildStep process.pid) ∧
          Reaped process.pid result (before ++ events) := by
  split
  · refine (produces_reap process deadline).mono ?_
    rintro result events ⟨steps, reapedAgain, -⟩
    exact ⟨steps, reapedAgain.append_left⟩
  · exact .pure ⟨by simp, exited.append_right⟩

theorem produces_killAll (job : JobCgroup) :
    Produces (job.killAll : Execution Rest _) fun killed events =>
      events = [.jobKilled job.path killed] :=
  .ask fun _ => rfl

/-- Killing and reaping, with a second attempt. -/
theorem produces_killAndReap (job : JobCgroup) (process : SpawnedProcess)
    (context : RecoveryContext) (failStop : Bool) :
    Produces (killAndReap job process context failStop : Execution Rest _)
      fun outcome events =>
        (∀ event ∈ events, event.IsCleanupStep job.path process.pid) ∧
          Reaped process.pid outcome.2.1 events := by
  refine (produces_killAll job).bind ?_
  rintro killed _ rfl
  refine (produces_reap process context.deadline).bind ?_
  rintro reaped reapEvents ⟨reapSteps, exited, -⟩
  have killStep (answer : Except CgroupError Unit) :
      ∀ event ∈ [Event.jobKilled job.path answer],
        event.IsCleanupStep job.path process.pid := by
    simp [Event.IsCleanupStep, Event.IsJobStep]
  have cleanupSteps {events : List Linux.Event}
      (steps : ∀ event ∈ events, event.IsChildStep process.pid) :
      ∀ event ∈ events, event.IsCleanupStep job.path process.pid :=
    fun event member => (steps event member).isCleanupStep _
  cases failStop with
  | false =>
      refine .pure ⟨?_, exited.append_right.append_left⟩
      simpa only [List.append_nil] using List.forall_mem_append.mpr
        ⟨killStep killed, cleanupSteps reapSteps⟩
  | true =>
      refine (produces_activate _).bind ?_
      rintro effectiveDeadline _ rfl
      have killedAgain : Produces
          (if !killed.isOk then job.killAll else pure killed :
            Execution Rest _) fun _ events =>
          ∀ event ∈ events, event.IsCleanupStep job.path process.pid := by
        split
        · refine (produces_killAll job).mono ?_
          rintro answer _ rfl
          exact killStep answer
        · exact .pure (by simp)
      refine killedAgain.bind ?_
      rintro killedNow killEvents killSteps
      refine (produces_reap_again process _ _ exited).bind ?_
      rintro reapedNow laterEvents ⟨laterSteps, laterExited⟩
      refine .pure ⟨?_, ?_⟩
      · simp only [List.forall_mem_append, List.append_nil]
        exact ⟨killStep killed, cleanupSteps reapSteps,
          by simp [Event.IsCleanupStep], killSteps, cleanupSteps laterSteps⟩
      · intro outcome ok
        refine (laterExited outcome ok).mono fun event member => ?_
        rcases List.mem_append.mp member with early | late
        · simp [early]
        · simp [late]

namespace RecoveryContext

variable {context : RecoveryContext} {process : SpawnedProcess}
variable {killed : Except CgroupError Unit}
variable {reaped : Except ExecutorError ProcessExit}
variable {finished : Except CgroupError JobFinish}
variable {output : Except ExecutorError CapturedOutput} {errors : List String}

theorem uncertain_of_result {failure : CoreFailure}
    (failed : context.result process killed reaped finished output errors =
      .error failure) : failure.Uncertain := by
  unfold result at failed
  split at failed <;> cases failed
  exact ⟨rfl, rfl⟩

/-- A confirmed result needs everything to have succeeded. -/
theorem of_result {run : CleanedRun}
    (confirmed : context.result process killed reaped finished output errors =
      .ok run) :
    ∃ status finish, reaped = .ok status ∧ finished = .ok finish ∧
      run.pid = process.pid ∧ run.evidence = .started (.fromExit status) := by
  unfold result at confirmed
  split at confirmed <;> cases confirmed
  exact ⟨_, _, rfl, rfl, rfl, rfl⟩

end RecoveryContext

/-- Cleaning up a running child after a step that failed. -/
theorem produces_cleanupRunningJob (job : JobCgroup) (process : SpawnedProcess)
    (context : RecoveryContext) (failStop : Bool)
    (earlier : ∀ event ∈ before, event.IsCleanupStep job.path process.pid)
    (failing : Failing before) :
    Produces
      (cleanupRunningJob job process context failStop : Execution Rest _)
      fun result events =>
        Followed job.path process.pid (Exited process.pid) result
          (before ++ events) := by
  refine (produces_killAndReap job process context failStop).bind ?_
  rintro ⟨killed, reaped, errors, effectiveDeadline⟩ killEvents
    ⟨killSteps, exited⟩
  refine (produces_finishJobWithRetry job _ _ _ _ _).bind ?_
  rintro ⟨finished, after⟩ jobEvents retried
  refine (produces_outputDeadline _ _ _).bind ?_
  rintro deadline _ rfl
  refine (produces_reap_again process _ _ exited).bind ?_
  rintro reapedNow reapEvents ⟨reapSteps, exitedNow⟩
  refine (OutputReaders.produces_collectUntil process.pid deadline).bind ?_
  rintro output outputEvents ⟨outputSteps, joined, -⟩
  refine after.produces_drop.bind ?_
  rintro _ dropEvents ⟨dropSteps, -, -⟩
  rw [retried.path_eq] at dropSteps
  refine .pure ?_
  simp only [List.nil_append, List.append_nil]
  have steps : ∀ event ∈ before ++ (killEvents ++ (jobEvents ++
      (reapEvents ++ (outputEvents ++ dropEvents)))),
      event.IsCleanupStep job.path process.pid := by
    simp only [List.forall_mem_append]
    exact ⟨earlier, killSteps, retried.cleanupSteps _,
      fun event member => (reapSteps event member).isCleanupStep _,
      fun event member => (outputSteps event member).isCleanupStep _,
      fun event member => (dropSteps event member).isCleanupStep _⟩
  rcases recovered : context.result process killed reapedNow finished output _
    with failure | run
  · exact .of_error steps failing.append_right
      (RecoveryContext.uncertain_of_result recovered)
  · obtain ⟨status, finish, rfl, rfl, pidEq, evidenceEq⟩ :=
      RecoveryContext.of_result recovered
    have reaped := exitedNow status rfl
    refine
      { steps
        justified := failing.append_right.justified
        pid_eq := by rintro _ ⟨⟩; exact pidEq
        known := ?_
        emptied := fun _ _ =>
          (retried.emptied finish rfl).append_right.append_left.append_left
        joined := fun _ _ => by
          have late : Joined (outputEvents ++ dropEvents) := joined.append_right
          exact late.append_left.append_left.append_left.append_left
        uncertain := by rintro _ ⟨⟩ }
    rintro _ ⟨⟩
    rw [evidenceEq]
    refine reaped.mono fun event member => ?_
    rcases List.mem_append.mp member with early | late
    · simp [early]
    · simp [late]

end Executor
end TaskCage
