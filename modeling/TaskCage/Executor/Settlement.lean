import TaskCage.Executor.CleanupEvidence
import TaskCage.Executor.Execute

/-!
# What becomes of a child

From the creation of a child to the result of its execution: what each path
produces, up to the one path on which a child may be lost.  After a malformed
message on the exec pipe the outcome of the wait for the child is not looked
at.
-/

namespace TaskCage
namespace Executor

open FailStop Linux Process

variable {Rest : Type}

/-! ### Waiting for a process -/

/-- Looks at a running child. -/
def IsLook (pid : ℕ) (event : Linux.Event) : Prop :=
  (∃ left, event = .wallRemaining left) ∨ ∃ answer, event = .waitTried pid answer

/-- What a look decides has the evidence for it. -/
structure Observed (pid : ℕ) (outcome : WaitDecision ⊕ ℕ)
    (events : List Linux.Event) : Prop where
  looks : ∀ event ∈ events, IsLook pid event
  exited : ∀ status, outcome = .inl (.exited status) →
    Exited pid (.started (.fromExit status)) events
  failing : ∀ error, outcome = .inl (.waitFailed error) → Failing events

variable {pid : ℕ} {events before : List Linux.Event}
variable {Known : ExecutionEvidence → List Linux.Event → Prop} {path : String}

theorem IsLook.isCleanupStep {event : Linux.Event} (look : IsLook pid event)
    (path : String) : event.IsCleanupStep path pid := by
  rcases look with ⟨left, rfl⟩ | ⟨answer, rfl⟩
  · trivial
  · exact .inr rfl

theorem justified_of_isLook (looks : ∀ event ∈ events, IsLook pid event) :
    Justified events := by
  intro report member
  rcases looks _ member with ⟨left, equal⟩ | ⟨answer, equal⟩ <;> cases equal

theorem produces_controlSnapshot :
    Produces (controlSnapshot : Execution Rest _) fun _ events => events = [] :=
  .update fun _ _ => rfl

variable (failStop : Bool) (timeout : ℕ) (config : StartedProcessConfig)
variable (process : SpawnedProcess) (job : JobCgroup) (jobId : String)
variable (wallDeadline : MonotonicDeadline)

theorem produces_observeProcess :
    Produces
      (observeProcess failStop process wallDeadline : Execution Rest _)
      (Observed process.pid) := by
  refine produces_controlSnapshot.bind ?_
  rintro control _ rfl
  split
  · exact .pure ⟨by simp, by simp, by simp⟩
  · refine (produces_failStopDeadline failStop).bind ?_
    rintro (_ | deadline) _ rfl
    · refine .bind (.ask fun left => (rfl : [_] = [_])) ?_
      rintro (_ | left) _ rfl
      · exact .pure ⟨by simp [IsLook], by simp, by simp⟩
      · refine (produces_waitNohang process.pid).bind ?_
        rintro _ _ ⟨error | (_ | status), rfl, rfl⟩
        · exact .pure ⟨by simp [IsLook], by simp,
            fun _ _ => failing_last [_] trivial⟩
        · exact .pure ⟨by simp [IsLook], by simp, by simp⟩
        · refine .pure ⟨by simp [IsLook], ?_, by simp⟩
          rintro _ ⟨⟩
          exact ⟨status, by simp, rfl⟩
    · exact .pure ⟨by simp, by simp, by simp⟩

theorem keeps_later_failStopDeadline :
    Keeps (failStopDeadline failStop : Execution Rest _) Later := by
  unfold failStopDeadline
  split
  · exact keeps_later_act _
  · exact .pure inferInstance _

theorem bounded_observeProcess :
    Bounded wallDeadline.expiresAt
      (observeProcess failStop process wallDeadline : Execution Rest _) := by
  have snapshot : Keeps (controlSnapshot : Execution Rest _) Later :=
    keeps_later_act _
  refine .bind snapshot fun control => ?_
  split
  · exact .returns _ _
  · refine .bind (keeps_later_failStopDeadline failStop) fun stopped => ?_
    cases stopped with
    | some deadline => exact .returns _ _
    | none =>
        refine bounded_clock (fun left => ?_) fun _ _ _ => by simp [pure_run]
        cases left with
        | none => exact .pure inferInstance _
        | some left =>
            refine .bind inferInstance ((keeps_later_ask _ _).later_map _) ?_
            rintro (error | (_ | status)) <;> exact .pure inferInstance _

/-- Waiting for a started process. -/
theorem produces_awaitProcess :
    Produces (awaitProcess failStop process wallDeadline : Execution Rest _)
      fun decision events => Observed process.pid (.inl decision) events := by
  refine ((bounded_observeProcess failStop process
    wallDeadline).produces_pollUntil
      (produces_observeProcess failStop process wallDeadline)
      (fun events => ∀ event ∈ events, IsLook process.pid event) (by simp)
      ?_).mono ?_
  · intro pause round rounds observed idle
    exact List.forall_mem_append.mpr ⟨observed.looks, idle⟩
  · rintro decision _ ⟨idle, last, rfl, idleLooks, observed⟩
    exact
      { looks := List.forall_mem_append.mpr ⟨idleLooks, observed.looks⟩
        exited := fun status ok => (observed.exited status ok).append_left
        failing := fun error ok => (observed.failing error ok).append_left }

/-! ### Following a process -/

variable {next : MonotonicDeadline → Execution Rest (Except CoreFailure CleanedRun)}
variable {result : Except CoreFailure CleanedRun} {failure : CoreFailure}

/-- Going on after some steps with a cleanup deadline. -/
theorem produces_withCleanupDeadline (jobId stage : String) (job : JobCgroup)
    (earlier : ∀ event ∈ before, event.IsCleanupStep job.path pid)
    (continues : ∀ deadline, Produces (next deadline) fun result events =>
      Followed job.path pid Known result
        ((before ++ [.cleanupStarted (some deadline)]) ++ events)) :
    Produces (withCleanupDeadline timeout jobId stage job next)
      fun result events =>
        Followed job.path pid Known result (before ++ events) := by
  refine (produces_deadlineFromNow timeout).bind ?_
  rintro (_ | deadline) _ rfl
  · refine job.produces_drop.bind ?_
    rintro _ dropEvents ⟨dropSteps, -, -⟩
    refine .pure (.of_error ?_ ?_ (uncertain_uncertain _ _ _ _))
    · simp only [List.forall_mem_append, List.append_nil]
      exact ⟨earlier, by simp [Event.IsCleanupStep, Event.IsJobStep],
        fun event member => (dropSteps event member).isCleanupStep _⟩
    · exact ⟨.cleanupStarted none, by simp, trivial⟩
  · refine (continues deadline).mono fun result events followed => ?_
    rw [← List.append_assoc]
    exact followed

/-- Going on at once with a cleanup deadline. -/
theorem Followed.withCleanupDeadline (jobId stage : String) (job : JobCgroup)
    (known : ∀ evidence first second, Known evidence second →
      Known evidence (first ++ second))
    (continues : ∀ deadline,
      Produces (next deadline) (Followed job.path pid Known)) :
    Produces (Executor.withCleanupDeadline timeout jobId stage job next)
      (Followed job.path pid Known) := by
  have started (deadline : Option MonotonicDeadline) :
      ∀ event ∈ [Event.cleanupStarted deadline], event.IsJobStep job.path := by
    simp [Event.IsJobStep]
  have none_before : ∀ event ∈ ([] : List Linux.Event),
      event.IsCleanupStep job.path pid := by simp
  refine produces_withCleanupDeadline timeout jobId stage job none_before
    fun deadline => ?_
  refine (continues deadline).mono fun result events followed => ?_
  exact followed.append_left
    (fun event member => (started _ event member).isCleanupStep _)
    (justified_of_isJobStep (started _)) fun evidence => known evidence _ _

/-- Killing a process and finishing it. -/
theorem produces_finishControlledProcess (config : ControlledProcessConfig)
    (job : JobCgroup) (process : SpawnedProcess) (failStop : Bool) :
    Produces
      (finishControlledProcess config job process failStop : Execution Rest _)
      (Followed job.path process.pid (Exited process.pid)) := by
  refine (produces_killAll job).bind ?_
  rintro killed _ rfl
  have killStep : ∀ event ∈ [Event.jobKilled job.path killed],
      event.IsJobStep job.path := by
    simp [Event.IsJobStep]
  have cleanupStep : ∀ event ∈ [Event.jobKilled job.path killed],
      event.IsCleanupStep job.path process.pid :=
    fun event member => (killStep event member).isCleanupStep _
  cases killed with
  | error error =>
      exact produces_cleanupRunningJob job process _ failStop cleanupStep
        (failing_last [] trivial)
  | ok _ =>
      refine (produces_reap process config.cleanupDeadline).bind ?_
      rintro reaped reapEvents ⟨reapSteps, exited, failing⟩
      have cleanupSteps : ∀ event ∈ reapEvents,
          event.IsCleanupStep job.path process.pid :=
        fun event member => (reapSteps event member).isCleanupStep _
      have steps := List.forall_mem_append.mpr ⟨cleanupStep, cleanupSteps⟩
      cases reaped with
      | error error =>
          simp only [← List.append_assoc]
          exact produces_cleanupRunningJob job process _ failStop steps
            (failing error rfl).append_left
      | ok status =>
          refine (produces_finishCleanedStarted job _ failStop).mono ?_
          intro result events followed
          rw [← List.append_assoc]
          refine followed.append_left steps
            ((justified_of_isJobStep killStep).append
              (justified_of_isChildStep reapSteps)) ?_
          rintro evidence rfl
          exact (exited status rfl).append_left.append_right

/-- Stopping a process under a deadline of its own. -/
theorem produces_stopProcess (stage : String) (job : JobCgroup)
    (process : SpawnedProcess) (failStop : Bool) :
    Produces (stopProcess config stage job process failStop : Execution Rest _)
      (Followed job.path process.pid (Exited process.pid)) := by
  refine Followed.withCleanupDeadline _ _ _ job
    (fun _ _ _ exited => exited.append_left) fun deadline => ?_
  refine produces_controlSnapshot.bind ?_
  rintro control _ rfl
  exact produces_finishControlledProcess _ job process failStop

/-- Finishing a process that exited. -/
theorem produces_finishExited (process : SpawnedProcess) (status : ProcessExit)
    (failStop : Bool) :
    Produces
      (finishExited config job process status failStop : Execution Rest _)
      (Followed job.path process.pid fun evidence _ =>
        evidence = .started (.fromExit status)) := by
  have finish (control : ControlTriggers) (killAlreadySent : Bool) :
      Produces
        (finishAfterExit config job process status failStop control
          killAlreadySent : Execution Rest _)
        (Followed job.path process.pid fun evidence _ =>
          evidence = .started (.fromExit status)) :=
    Followed.withCleanupDeadline _ _ _ job (fun _ _ _ equal => equal)
      fun deadline => produces_finishCleanedStarted job _ failStop
  have closed : Produces (closeWithoutControl : Execution Rest _)
      fun _ events => events = [] :=
    .update fun _ _ => rfl
  refine closed.bind ?_
  rintro (_ | _) _ rfl
  · refine (produces_killAll job).bind ?_
    rintro killed _ rfl
    refine produces_controlSnapshot.bind ?_
    rintro control _ rfl
    have killStep : ∀ event ∈ [Event.jobKilled job.path killed],
        event.IsJobStep job.path := by
      simp [Event.IsJobStep]
    refine (finish control killed.isOk).mono fun result events followed => ?_
    exact followed.append_left
      (fun event member => (killStep event member).isCleanupStep _)
      (justified_of_isJobStep killStep) fun _ equal => equal
  · exact finish ⟨none⟩ false

/-- Following a started process. -/
theorem produces_finishStartedProcess (process : SpawnedProcess)
    (failStop : Bool) (running : VerifiedRunningTask) :
    Produces
      (finishStartedProcess config job process failStop running :
        Execution Rest _)
      (Followed job.path process.pid (Exited process.pid)) := by
  have announced : Produces (announce running : Execution Rest _)
      fun _ events => events = [] :=
    .update fun _ _ => rfl
  refine announced.bind ?_
  rintro _ _ rfl
  refine (produces_awaitProcess failStop process config.wallDeadline).bind ?_
  rintro decision looks observed
  have steps : ∀ event ∈ looks, event.IsCleanupStep job.path process.pid :=
    fun event member => (observed.looks event member).isCleanupStep _
  have justified := justified_of_isLook observed.looks
  -- Whatever is known after the looks is known of all events.
  have goOn {next : Execution Rest (Except CoreFailure CleanedRun)}
      (following : Produces next
        (Followed job.path process.pid (Exited process.pid))) :
      Produces next fun result events =>
        Followed job.path process.pid (Exited process.pid) result
          (looks ++ events) :=
    following.mono fun _ _ followed =>
      followed.append_left steps justified fun _ exited => exited.append_left
  cases decision with
  | waitFailed error =>
      refine produces_withCleanupDeadline _ _ _ job steps fun deadline => ?_
      refine produces_controlSnapshot.bind ?_
      rintro control _ rfl
      refine produces_cleanupRunningJob job process _ failStop ?_ ?_
      · simpa [Event.IsCleanupStep, Event.IsJobStep, or_imp, forall_and]
          using steps
      · exact (observed.failing error rfl).append_right
  | exited status =>
      refine (produces_finishExited config job process status failStop).mono ?_
      intro result events followed
      refine followed.append_left steps justified ?_
      rintro evidence rfl
      exact (observed.exited status rfl).append_right
  | timedOut =>
      have timed : Produces (observeTimeout : Execution Rest _)
          fun _ events => events = [] :=
        .update fun _ _ => rfl
      refine timed.bind ?_
      rintro _ _ rfl
      exact goOn (produces_stopProcess config _ job process failStop)
  | cancelled => exact goOn (produces_stopProcess config _ job process failStop)
  | failStop deadline =>
      refine produces_controlSnapshot.bind ?_
      rintro control _ rfl
      exact goOn (produces_finishControlledProcess _ job process failStop)

/-- Finishing an execution whose program could not be executed, after the child
was waited for and its readers were joined. -/
theorem produces_finishExecFailure (job : JobCgroup) (failure : ExecFailure)
    (startTime : TaskStartTime) (cleanupTimeout : ℕ) (failStop : Bool)
    (earlier : ∀ event ∈ before, event.IsChildStep failure.pid)
    (waited : Waited failure.pid before) (joined : Joined before) :
    Produces
      (finishExecFailure jobId job failure startTime cleanupTimeout failStop :
        Execution Rest _)
      fun result events =>
        Followed job.path failure.pid (fun _ => Waited failure.pid) result
          (before ++ events) := by
  have earlierSteps : ∀ event ∈ before,
      event.IsCleanupStep job.path failure.pid :=
    fun event member => (earlier event member).isCleanupStep _
  refine (produces_deadlineFromNow cleanupTimeout).bind ?_
  rintro deadline _ rfl
  have started : ∀ event ∈ [Event.cleanupStarted deadline],
      event.IsJobStep job.path := by
    simp [Event.IsJobStep]
  have startedSteps : ∀ event ∈ [Event.cleanupStarted deadline],
      event.IsCleanupStep job.path failure.pid :=
    fun event member => (started event member).isCleanupStep _
  cases deadline with
  | none =>
      refine job.produces_drop.bind ?_
      rintro _ dropEvents ⟨dropSteps, -, -⟩
      refine .pure (.of_error ?_ ?_ (uncertain_uncertain _ _ _ _))
      · simp only [List.forall_mem_append, List.append_nil]
        exact ⟨earlierSteps, startedSteps,
          fun event member => (dropSteps event member).isCleanupStep _⟩
      · exact ⟨.cleanupStarted none, by simp, trivial⟩
  | some deadline =>
      refine (produces_finishJobWithRetry job _ _ _ _ _).bind ?_
      rintro ⟨finished, after⟩ jobEvents retried
      refine after.produces_drop.bind ?_
      rintro _ dropEvents ⟨dropSteps, removed, left⟩
      have all := retried.append_drop dropSteps removed left
      have steps : ∀ event ∈ before ++ ([.cleanupStarted (some deadline)] ++
          (jobEvents ++ dropEvents)),
          event.IsCleanupStep job.path failure.pid := by
        rw [List.forall_mem_append, List.forall_mem_append]
        exact ⟨earlierSteps, startedSteps, all.cleanupSteps _⟩
      cases finished with
      | error error =>
          refine .pure ?_
          rw [List.append_nil]
          exact .of_error steps (all.failing error rfl).append_left.append_left
            (uncertain_uncertain _ _ _ _)
      | ok finish =>
          refine .pure ?_
          rw [List.append_nil]
          exact
            { steps
              justified := (justified_of_isChildStep earlier).append
                ((justified_of_isJobStep started).append all.justified)
              pid_eq := by rintro _ ⟨⟩; rfl
              known := fun _ _ => waited.append_right
              emptied := fun _ _ =>
                (all.emptied finish rfl).append_left.append_left
              joined := fun _ _ => joined.append_right
              uncertain := by rintro _ ⟨⟩ }

/-! ### The whole execution -/

/-- The child was not waited for although the job was cleaned up: the message
on the exec pipe was malformed and the wait after it failed. -/
def Lost (path : String) (pid : ℕ) (events : List Linux.Event) : Prop :=
  ∃ payload error, .execPipeRead pid (.ok payload) ∈ events ∧
    Malformed payload ∧ .waited pid (.error error) ∈ events ∧
    EndsClean path events

/-- What an execution produces once it has its child. -/
structure Settled (path : String) (pid : ℕ)
    (result : Except CoreFailure CleanedRun) (events : List Linux.Event) :
    Prop where
  creates : ∀ event ∈ events, ¬ event.IsCreation
  justified : Justified events
  confirmed : ∀ run, result = .ok run →
    run.pid = pid ∧ Emptied path events ∧ Waited pid events ∧ Joined events
  complete : ∀ failure, result = .error failure →
    failure.cleanupComplete = true →
      .jobRemoved path (.ok ()) ∈ events ∧
        (Waited pid events ∨ Lost path pid events)
  blocked : ∀ failure, result = .error failure →
    failure.cleanupComplete = false → failure.blockFutureRuns = true
  lost : Lost path pid events → ¬ Waited pid events ∧
    ∃ failure, result = .error failure ∧ failure.cleanupComplete = true
  read : ∀ other answer, .execPipeRead other answer ∈ events → other = pid
  started : .execPipeRead pid (.ok []) ∈ events → Failing events ∨
    ∃ run, result = .ok run ∧ Exited pid run.evidence events

/-- A child that was followed to its end after a message that was not
malformed. -/
theorem Followed.settled (followed : Followed path pid Known result events)
    (payload : List UInt8)
    (waited : ∀ evidence, Known evidence events → Waited pid events)
    (wellFormed : ¬ Malformed payload)
    (exited : payload = [] → ∀ evidence, Known evidence events →
      Exited pid evidence events) :
    Settled path pid result ([.execPipeRead pid (.ok payload)] ++ events) := by
  have onlyRead {other : ℕ} {answer : Except IoError (List UInt8)}
      (read : .execPipeRead other answer ∈
        [Event.execPipeRead pid (.ok payload)] ++ events) :
      other = pid ∧ answer = .ok payload := by
    rcases List.mem_append.mp read with same | later
    · simpa using same
    · exact (followed.steps _ later).elim False.elim False.elim
  exact
    { creates := List.forall_mem_append.mpr ⟨by simp [Event.IsCreation],
        fun event member => (followed.steps event member).not_isCreation⟩
      justified := Justified.append (by simp [Justified]) followed.justified
      confirmed := fun run ok => ⟨followed.pid_eq run ok,
        (followed.emptied run ok).append_left,
        (waited _ (followed.known run ok)).append_left,
        (followed.joined run ok).append_left⟩
      complete := by
        rintro failure rfl complete
        have uncertain := (followed.uncertain failure rfl).1.2
        simp [complete] at uncertain
      blocked := fun failure failed _ => (followed.uncertain failure failed).1.1
      lost := by
        rintro ⟨other, error, read, malformed, -⟩
        obtain rfl : other = payload := by simpa using (onlyRead read).2
        exact absurd malformed wellFormed
      read := fun _ _ read => (onlyRead read).1
      started := by
        intro read
        obtain rfl : [] = payload := by simpa using (onlyRead read).2
        cases result with
        | error failure =>
            exact .inl (followed.uncertain failure rfl).2.append_left
        | ok run =>
            exact .inr ⟨run, rfl,
              (exited rfl _ (followed.known run rfl)).append_left⟩ }

/-- An aborted child is settled. -/
theorem Aborted.settled (aborted : Aborted path pid failure events) :
    Settled path pid (.error failure) events where
  creates event member := (aborted.steps event member).not_isCreation
  justified := aborted.justified
  confirmed := by simp
  complete := by
    rintro _ ⟨⟩ complete
    exact ⟨aborted.removed complete, .inl (aborted.waited complete)⟩
  blocked := by
    rintro _ ⟨⟩
    exact aborted.blocked
  lost := by
    rintro ⟨payload, error, read, -⟩
    exact (aborted.steps _ read).elim False.elim False.elim
  read _ _ read := (aborted.steps _ read).elim False.elim False.elim
  started read := (aborted.steps _ read).elim False.elim False.elim

/-- A start that failed after its commit, with the job given up.  Only the
wait after a malformed message may have failed unnoticed. -/
theorem GivenUp.settled {error : ExecutorError}
    {answer : Except IoError (List UInt8)}
    {learnEvents jobEvents : List Linux.Event}
    (learned : StartCommittedProcess.Learned pid (.error error) answer
      learnEvents) (givenUp : GivenUp path error.isWait failure jobEvents) :
    Settled path pid (.error failure)
      ([.execPipeRead pid answer] ++ (learnEvents ++ jobEvents)) := by
  have steps : ∀ event ∈ learnEvents ++ jobEvents,
      event.IsCleanupStep path pid :=
    List.forall_mem_append.mpr ⟨fun event member =>
      (learned.steps event member).isCleanupStep path,
      givenUp.cleanupSteps pid⟩
  have onlyRead {other : ℕ} {given : Except IoError (List UInt8)}
      (read : .execPipeRead other given ∈
        [Event.execPipeRead pid answer] ++ (learnEvents ++ jobEvents)) :
      other = pid ∧ given = answer := by
    rcases List.mem_append.mp read with same | later
    · simpa using same
    · exact (steps _ later).elim False.elim False.elim
  refine
    { creates := List.forall_mem_append.mpr ⟨by simp [Event.IsCreation],
        fun event member => (steps event member).not_isCreation⟩
      justified := Justified.append (by simp [Justified])
        ((justified_of_isChildStep learned.steps).append givenUp.justified)
      confirmed := by simp
      complete := ?_
      blocked := by
        rintro _ ⟨⟩
        exact givenUp.blocked
      lost := ?_
      read := fun _ _ read => (onlyRead read).1
      started := ?_ }
  · rintro _ ⟨⟩ complete
    obtain ⟨certain, clean⟩ := givenUp.complete complete
    refine ⟨by simp [clean.removed], ?_⟩
    by_cases wellFormed : ∀ payload, answer = .ok payload → ¬ Malformed payload
    · have waited := learned.waited wellFormed error rfl certain
      exact .inl waited.append_right.append_left
    · push Not at wellFormed
      obtain ⟨payload, rfl, malformed⟩ := wellFormed
      obtain ⟨-, waitAnswer, stdout, stderr, rfl⟩ :=
        learned.malformed payload rfl malformed
      cases waitAnswer with
      | ok status => exact .inl ⟨.waited pid (.ok status), by simp, rfl⟩
      | error source =>
          exact .inr ⟨payload, source, by simp, malformed, by simp,
            clean.append_left.append_left⟩
  · rintro ⟨payload, source, read, malformed, waitFailed, clean⟩
    obtain rfl := (onlyRead read).2
    obtain ⟨failed, waitAnswer, stdout, stderr, rfl⟩ :=
      learned.malformed payload rfl malformed
    obtain rfl : error = .invalidExecPayload := by simpa using failed
    have childless := givenUp.childless pid
    have unnoticed : waitAnswer = .error source := by
      simp only [List.mem_append, List.mem_cons, List.not_mem_nil, or_false,
        reduceCtorEq, false_or, Event.waited.injEq, true_and] at waitFailed
      exact (waitFailed.resolve_right fun member =>
        (childless _ member).2 _ rfl).symm
    subst unnoticed
    refine ⟨?_, failure, rfl, ?_⟩
    · rintro ⟨event, member, waits⟩
      simp only [List.mem_append, List.mem_cons, List.not_mem_nil,
        or_false] at member
      rcases member with rfl | (rfl | rfl | rfl) | member
      · exact waits
      · exact waits
      · exact waits
      · exact waits
      · exact (childless event member).1 waits
    · by_contra incomplete
      have unclean := givenUp.unclean (by simpa using incomplete)
      exact (unclean.resolve_left (by simp [ExecutorError.isWait])
        |>.append_left.append_left.not_endsClean) clean
  · intro read
    have running := learned.running (onlyRead read).2.symm
    cases running

/-- Checks before the start change nothing. -/
theorem Settled.append_left {first second : List Linux.Event}
    (settled : Settled path pid result second)
    (starts : ∀ event ∈ first, event.IsStart) :
    Settled path pid result (first ++ second) where
  creates := by
    refine List.forall_mem_append.mpr ⟨fun event member => ?_, settled.creates⟩
    have start := starts event member
    cases event <;> first | exact id | exact start.elim
  justified := Justified.append (fun _ member => (starts _ member).elim)
    settled.justified
  confirmed run ok :=
    let ⟨pidEq, emptied, waited, joined⟩ := settled.confirmed run ok
    ⟨pidEq, emptied.append_left, waited.append_left, joined.append_left⟩
  complete := by
    intro failure failed complete
    obtain ⟨removed, seen⟩ := settled.complete failure failed complete
    refine ⟨List.mem_append_right _ removed, seen.imp Waited.append_left ?_⟩
    rintro ⟨payload, error, read, malformed, failing, clean⟩
    exact ⟨payload, error, List.mem_append_right _ read, malformed,
      List.mem_append_right _ failing, clean.append_left⟩
  blocked := settled.blocked
  lost := by
    rintro ⟨payload, error, read, malformed, failing, clean⟩
    have later {event : Linux.Event} (member : event ∈ first ++ second)
        (other : ¬ event.IsStart) : event ∈ second :=
      (List.mem_append.mp member).resolve_left
        fun early => other (starts event early)
    have readLater := later read id
    have lost : Lost path pid second := ⟨payload, error, readLater, malformed,
      later failing id, clean.of_append readLater (by simp) (by simp)⟩
    obtain ⟨notWaited, failure⟩ := settled.lost lost
    refine ⟨?_, failure⟩
    rintro ⟨event, member, waits⟩
    refine notWaited ⟨event, later member ?_, waits⟩
    cases event <;> first | exact id | exact waits.elim
  read other answer read := settled.read other answer
    ((List.mem_append.mp read).resolve_left fun early => (starts _ early).elim)
  started read := by
    have readLater := (List.mem_append.mp read).resolve_left
      fun early => (starts _ early).elim
    rcases settled.started readLater with failing | ⟨run, ok, exited⟩
    · exact .inl failing.append_left
    · exact .inr ⟨run, ok, exited.append_left⟩

theorem produces_commitStart (pending : PendingProcess) :
    Produces (commitStart failStop jobId pending : Execution Rest _)
      fun outcome events => outcome.2.pid = pending.pid ∧
        ∀ event ∈ events, event.IsStart := by
  refine .act fun answers world => ?_
  dsimp only
  have signalled : ∀ event ∈ (if pending.startWriteEnd then
        let answer := answers.startSignal world pending.pid
        (PendingProcess.signalOutcome answer,
          [.startSignalled pending.pid answer])
      else ((.error .startGateAlreadyResolved, []) :
        Except ExecutorError Unit × List Linux.Event)).2, event.IsStart := by
    split <;> simp [Event.IsStart]
  split
  · rcases world.shared.coordinator.beginCommit jobId with
      ⟨error | _, coordinator⟩
    · exact ⟨rfl, by simp⟩
    · exact ⟨rfl, signalled⟩
  · exact ⟨rfl, signalled⟩

theorem produces_executeCommitted (config : ExecutionConfig) (job : JobCgroup)
    (present : job.cleaned = false) (pid : ℕ) (failStop : Bool)
    (onStarted : TaskStartTime → CgroupLimits → VerifiedRunningTask) :
    Produces
      (executeCommitted config job pid failStop onStarted : Execution Rest _)
      (Settled job.path pid) := by
  have captured : Produces (captureStartTime : Execution Rest _)
      fun _ events => ∀ event ∈ events, event.IsStart :=
    .ask fun _ => by simp [Event.IsStart]
  refine captured.bind ?_
  rintro startTime before starts
  refine (StartCommittedProcess.produces_waitForExec pid).bind ?_
  rintro outcome _ ⟨answer, events, rfl, learned⟩
  rcases outcome with error | (process | failure)
  · refine (produces_giveUp_cleanupJobAfterFailure job present _ _ _ _ _
      _).mono ?_
    rintro _ jobEvents ⟨failure, rfl, givenUp⟩
    exact (givenUp.settled learned).append_left starts
  · obtain ⟨rfl, rfl, rfl⟩ := learned.started process rfl
    refine (produces_finishStartedProcess _ job process failStop _).mono ?_
    intro result later followed
    exact (followed.settled [] (fun _ => Exited.waited) (by simp [Malformed])
      fun _ _ exited => exited).append_left starts
  · obtain ⟨rfl, waited, joined, payload, rfl, number⟩ :=
      learned.execFailed failure rfl
    refine (produces_finishExecFailure _ job failure startTime _ failStop
      learned.steps waited joined).mono ?_
    intro result later followed
    have settled := followed.settled payload (fun _ => id)
      (by simp [Malformed, number]) (by rintro rfl; cases number)
    exact settled.append_left starts

/-- Giving up a child after checks before its start. -/
theorem Aborted.produces_settled
    {cleanup : Execution Rest (Except CoreFailure CleanedRun)}
    (produces : Produces cleanup fun result events => ∃ failure,
      result = .error failure ∧ Aborted path pid failure events)
    (starts : ∀ event ∈ before, event.IsStart) :
    Produces cleanup fun result events =>
      Settled path pid result (before ++ events) := by
  refine produces.mono ?_
  rintro _ events ⟨failure, rfl, aborted⟩
  exact aborted.settled.append_left starts

theorem produces_executePending (config : ExecutionConfig) (job : JobCgroup)
    (present : job.cleaned = false) (pending : PendingProcess)
    (failStop : Bool)
    (onStarted : TaskStartTime → CgroupLimits → VerifiedRunningTask) :
    Produces
      (executePending config job pending failStop onStarted : Execution Rest _)
      (Settled job.path pending.pid) := by
  refine (produces_failStopDeadline failStop).bind ?_
  rintro (_ | deadline) _ rfl
  · refine .bind (.ask fun member => (rfl : [_] = [_])) ?_
    rintro member _ rfl
    have checked : ∀ event ∈
        [Event.memberObserved job.path pending.pid member],
        event.IsStart := by
      simp [Event.IsStart]
    rcases member with error | (_ | _)
    · exact Aborted.produces_settled
        (produces_giveUp_cleanupPendingJob job pending _ _ _ _ _) checked
    · exact Aborted.produces_settled
        (produces_giveUp_cleanupPendingJob job pending _ _ _ _ _) checked
    · refine (produces_commitStart failStop config.jobId pending).bind ?_
      rintro ⟨decision, signalled⟩ commitEvents ⟨pidEq, starts⟩
      have samePid : signalled.pid = pending.pid := pidEq
      have allStarts := List.forall_mem_append.mpr ⟨checked, starts⟩
      rw [← samePid] at allStarts ⊢
      simp only [List.nil_append, ← List.append_assoc]
      cases decision with
      | committed =>
          exact (produces_executeCommitted config job present signalled.pid
            failStop onStarted).mono fun _ _ settled =>
              settled.append_left allStarts
      | failStopping deadline =>
          exact Aborted.produces_settled
            (produces_giveUp_cleanupPendingJobUntil job signalled _ _ _ _ _)
            allStarts
      | failed cause =>
          exact Aborted.produces_settled
            (produces_giveUp_cleanupPendingJob job signalled _ _ _ _ _)
            allStarts
  · exact Aborted.produces_settled
      (produces_giveUp_cleanupPendingJobUntil job pending _ _ _ _ _) (by simp)

end Executor
end TaskCage
