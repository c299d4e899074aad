import TaskCage.Executor.RunTask
import TaskCage.Executor.Settlement

/-!
# Soundness of the cleanup

What the result of an execution says about the steps it has taken.  A result
with a confirmed cleanup has the evidence for it among its events, except for a
child that was lost after a malformed message on the exec pipe.
-/

namespace TaskCage
namespace Executor

open FailStop Linux Process

variable {Rest : Type}

/-- Every job that was created was removed after that. -/
def JobsRemoved (events : List Linux.Event) : Prop :=
  ∀ path, .jobCreated path (.ok ()) ∈ events →
    [.jobCreated path (.ok ()), .jobRemoved path (.ok ())].Sublist events

/-- Every child that was created was waited for after that. -/
def ChildrenWaited (events : List Linux.Event) : Prop :=
  ∀ pid, .cloned (.ok pid) ∈ events →
    ∃ wait : Linux.Event, wait.WaitsFor pid ∧
      [.cloned (.ok pid), wait].Sublist events

/-- The evidence for a run whose cleanup is confirmed: a job and a child were
created; the job was seen empty and then removed, the child was waited for, and
both output readers were joined. -/
structure Confirmed (run : CleanedRun) (events : List Linux.Event) : Prop where
  created : ∃ path, .jobCreated path (.ok ()) ∈ events
  emptied : ∀ path, .jobCreated path (.ok ()) ∈ events →
    [.jobCreated path (.ok ()), .jobObserved path (.ok false),
      .jobRemoved path (.ok ())].Sublist events
  cloned : .cloned (.ok run.pid) ∈ events
  waited : ChildrenWaited events
  joined : ∀ stream, ∃ outcome,
    [.cloned (.ok run.pid), .readerJoined stream outcome].Sublist events

/-- What the result of an execution promises about its events. -/
def Sound : Except CoreFailure CleanedRun → List Linux.Event → Prop
  | .ok run, events => Confirmed run events
  | .error failure, events =>
      if failure.cleanupComplete then
        JobsRemoved events ∧ ChildrenWaited events
      else
        failure.blockFutureRuns = true

/-- A job was cleaned up while its child was lost: the message on the exec pipe
was neither empty nor an error number, the wait for the child failed, and the
last two steps read the statistics of the job and removed it. -/
def ChildLost (events : List Linux.Event) : Prop :=
  ∃ path pid, .jobCreated path (.ok ()) ∈ events ∧
    .cloned (.ok pid) ∈ events ∧ Lost path pid events

/-- What every execution produces. -/
structure Concluded (result : Except CoreFailure CleanedRun)
    (events : List Linux.Event) : Prop where
  sound_iff : Sound result events ↔ ¬ ChildLost events
  blocked : ∀ failure, result = .error failure →
    failure.cleanupComplete = false → failure.blockFutureRuns = true
  /-- A fail-stop was asked for only when something did not succeed. -/
  justified : Justified events
  /-- A program that ran is followed to its end. -/
  started : ∀ pid, .execPipeRead pid (.ok []) ∈ events → Failing events ∨
    ∃ run, result = .ok run ∧ Exited pid run.evidence events

/-- An execution without a child keeps its promise. -/
theorem Concluded.of_childless {failure : CoreFailure} {events : List Linux.Event}
    (childless : ∀ event ∈ events, event.IsChildless)
    (removed : failure.cleanupComplete = true → JobsRemoved events)
    (blocked : failure.cleanupComplete = false → failure.blockFutureRuns = true)
    (justified : Justified events) : Concluded (.error failure) events where
  sound_iff := by
    have notLost : ¬ ChildLost events := by
      rintro ⟨path, pid, -, cloned, -⟩
      exact childless _ cloned
    refine iff_of_true ?_ notLost
    cases complete : failure.cleanupComplete with
    | true =>
        simp only [Sound, complete, if_true]
        exact ⟨removed complete, fun pid cloned => (childless _ cloned).elim⟩
    | false =>
        simp only [Sound, complete]
        exact blocked complete
  blocked := by
    rintro _ ⟨⟩
    exact blocked
  justified := justified
  started pid read := (childless _ read).elim

section Creation

variable {path : String} {baseline : KernelEvents} {later : List Linux.Event}

/-- The steps that create a job. -/
def creation (path : String) (baseline : KernelEvents) : List Linux.Event :=
  [.jobLookedUp path (.ok false), .jobCreated path (.ok ()),
    .jobConfigured path (.ok baseline)]

variable {other : String} {event : Linux.Event}

/-- Nothing but the one job is created. -/
theorem path_eq_of_created
    (others : ∀ event ∈ later, ∀ answer, event ≠ .jobCreated other answer)
    (created : .jobCreated other (.ok ()) ∈ creation path baseline ++ later) :
    other = path := by
  rcases List.mem_append.mp created with first | member
  · simpa [creation] using first
  · exact absurd rfl (others _ member _)

theorem justified_creation : Justified (creation path baseline) := by
  simp [Justified, creation]

/-- An execution that created a job and no child keeps its promise. -/
theorem Concluded.of_creation {failure : CoreFailure}
    (childless : ∀ event ∈ later, event.IsChildless)
    (others : ∀ event ∈ later, ∀ other answer, event ≠ .jobCreated other answer)
    (removed : failure.cleanupComplete = true →
      .jobRemoved path (.ok ()) ∈ later)
    (blocked : failure.cleanupComplete = false → failure.blockFutureRuns = true)
    (justified : Justified later) :
    Concluded (.error failure) (creation path baseline ++ later) := by
  refine .of_childless ?_ ?_ blocked (justified_creation.append justified)
  · exact List.forall_mem_append.mpr
      ⟨by simp [creation, Event.IsChildless], childless⟩
  · intro complete other created
    obtain rfl := path_eq_of_created
      (fun event member => others event member other) created
    exact pair_sublist_append (by simp [creation]) (removed complete)

/-- All events of an execution that created a job and a child. -/
def withChild (path : String) (baseline : KernelEvents)
    (preparation : List Linux.Event) (pid : ℕ) (rest : List Linux.Event) :
    List Linux.Event :=
  creation path baseline ++ ((preparation ++ [.cloned (.ok pid)]) ++ rest)

variable {pid : ℕ} {preparation rest : List Linux.Event}

/-- A step that belongs to neither creation comes after both. -/
theorem mem_rest (prepares : ∀ event ∈ preparation, event.IsPreparation)
    (member : event ∈ withChild path baseline preparation pid rest)
    (notJob : ¬ event.IsJobCreation) (notPreparation : ¬ event.IsPreparation)
    (notChild : ∀ answer, event ≠ .cloned answer) : event ∈ rest := by
  simp only [withChild, List.mem_append, List.mem_singleton] at member
  rcases member with first | (prepared | cloned) | later
  · simp only [creation, List.mem_cons, List.not_mem_nil, or_false] at first
    rcases first with rfl | rfl | rfl <;> exact absurd trivial notJob
  · exact absurd (prepares event prepared) notPreparation
  · exact absurd cloned (notChild _)
  · exact later

theorem mem_rest_of_waitsFor
    (prepares : ∀ event ∈ preparation, event.IsPreparation) {other : ℕ}
    (member : event ∈ withChild path baseline preparation pid rest)
    (waits : event.WaitsFor other) : event ∈ rest := by
  cases event <;>
    first
    | exact mem_rest prepares member id id (by simp)
    | exact waits.elim

variable {result : Except CoreFailure CleanedRun}

/-- The one child is the one that was cloned. -/
theorem Settled.pid_eq (settled : Settled path pid result rest)
    (prepares : ∀ event ∈ preparation, event.IsPreparation) {other : ℕ}
    (cloned : .cloned (.ok other) ∈
      withChild path baseline preparation pid rest) : other = pid := by
  simp only [withChild, creation, List.mem_append, List.mem_cons,
    List.not_mem_nil, or_false, reduceCtorEq, false_or, Event.cloned.injEq,
    Except.ok.injEq] at cloned
  rcases cloned with (prepared | equal) | later
  · exact (prepares _ prepared).elim
  · exact equal
  · exact absurd trivial (settled.creates _ later)

/-- What comes after the child was created. -/
theorem child_sublist (member : event ∈ rest) :
    [.cloned (.ok pid), event].Sublist
      (withChild path baseline preparation pid rest) := by
  have inOrder : [.cloned (.ok pid), event].Sublist
      ((preparation ++ [.cloned (.ok pid)]) ++ rest) :=
    pair_sublist_append (by simp) member
  exact inOrder.trans (List.sublist_append_right _ _)

theorem Settled.childrenWaited_iff (settled : Settled path pid result rest)
    (prepares : ∀ event ∈ preparation, event.IsPreparation) :
    ChildrenWaited (withChild path baseline preparation pid rest) ↔
      Waited pid rest := by
  constructor
  · intro waited
    obtain ⟨wait, waits, inOrder⟩ := waited pid (by simp [withChild])
    have member := inOrder.subset (List.mem_cons_of_mem _ List.mem_cons_self)
    exact ⟨wait, mem_rest_of_waitsFor prepares member waits, waits⟩
  · rintro ⟨wait, member, waits⟩ other cloned
    obtain rfl := settled.pid_eq prepares cloned
    exact ⟨wait, waits, child_sublist member⟩

/-- The one job is the one that was created. -/
theorem Settled.path_eq (settled : Settled path pid result rest)
    (prepares : ∀ event ∈ preparation, event.IsPreparation)
    (created : .jobCreated other (.ok ()) ∈
      withChild path baseline preparation pid rest) : other = path := by
  refine path_eq_of_created ?_ created
  rintro event member answer rfl
  simp only [List.mem_append, List.mem_singleton, reduceCtorEq,
    or_false] at member
  rcases member with prepared | later
  · exact prepares _ prepared
  · exact settled.creates _ later trivial

theorem Settled.childLost_iff (settled : Settled path pid result rest)
    (prepares : ∀ event ∈ preparation, event.IsPreparation) :
    ChildLost (withChild path baseline preparation pid rest) ↔
      Lost path pid rest := by
  constructor
  · rintro ⟨other, child, created, cloned, payload, error, read, malformed,
      failed, clean⟩
    obtain rfl := settled.path_eq prepares created
    obtain rfl := settled.pid_eq prepares cloned
    have readLater := mem_rest prepares read id id (by simp)
    rw [withChild, ← List.append_assoc] at clean
    exact ⟨payload, error, readLater, malformed,
      mem_rest prepares failed id id (by simp),
      clean.of_append readLater (by simp) (by simp)⟩
  · rintro ⟨payload, error, read, malformed, failed, clean⟩
    exact ⟨path, pid, by simp [withChild, creation], by simp [withChild],
      payload, error, by simp [withChild, read], malformed,
      by simp [withChild, failed], clean.append_left.append_left⟩

theorem Settled.jobsRemoved (settled : Settled path pid result rest)
    (prepares : ∀ event ∈ preparation, event.IsPreparation)
    (removed : .jobRemoved path (.ok ()) ∈ rest) :
    JobsRemoved (withChild path baseline preparation pid rest) := by
  intro other created
  obtain rfl := settled.path_eq prepares created
  exact pair_sublist_append (by simp [creation]) (by simp [removed])

theorem Settled.confirmedRun {run : CleanedRun}
    (settled : Settled path pid (.ok run) rest)
    (prepares : ∀ event ∈ preparation, event.IsPreparation) :
    Confirmed run (withChild path baseline preparation pid rest) := by
  obtain ⟨rfl, emptied, waited, joined⟩ := settled.confirmed run rfl
  refine
    { created := ⟨path, by simp [withChild, creation]⟩
      emptied := ?_
      cloned := by simp [withChild]
      waited := (settled.childrenWaited_iff prepares).mpr waited
      joined := ?_ }
  · intro other created
    obtain rfl := settled.path_eq prepares created
    have first : [Event.jobCreated other (.ok ())].Sublist
        (creation other baseline) := by
      simp [creation]
    exact first.append (emptied.trans (List.sublist_append_right _ _))
  · intro stream
    obtain ⟨outcome, member⟩ := joined stream
    exact ⟨outcome, child_sublist member⟩

/-- An execution that settled its child keeps its promise unless it lost the
child. -/
theorem Settled.sound_iff (settled : Settled path pid result rest)
    (prepares : ∀ event ∈ preparation, event.IsPreparation) :
    Sound result (withChild path baseline preparation pid rest) ↔
      ¬ ChildLost (withChild path baseline preparation pid rest) := by
  rw [settled.childLost_iff prepares]
  cases result with
  | ok run =>
      refine iff_of_true (settled.confirmedRun prepares) fun lost => ?_
      obtain ⟨-, failure, failed, -⟩ := settled.lost lost
      cases failed
  | error failure =>
      cases complete : failure.cleanupComplete with
      | true =>
          obtain ⟨removed, waited⟩ := settled.complete failure rfl complete
          simp only [Sound, complete, if_true,
            settled.jobsRemoved prepares removed,
            settled.childrenWaited_iff prepares, true_and]
          exact ⟨fun waits lost => (settled.lost lost).1 waits,
            waited.resolve_right⟩
      | false =>
          simp only [Sound, complete]
          refine iff_of_true (settled.blocked failure rfl complete)
            fun lost => ?_
          obtain ⟨-, _, ⟨⟩, certain⟩ := settled.lost lost
          simp [complete] at certain

theorem Settled.concluded (settled : Settled path pid result rest)
    (prepares : ∀ event ∈ preparation, event.IsPreparation) :
    Concluded result (withChild path baseline preparation pid rest) where
  sound_iff := settled.sound_iff prepares
  blocked := settled.blocked
  justified := by
    have prepared : Justified preparation :=
      fun report member => (prepares _ member).elim
    have cloned : Justified [.cloned (.ok pid)] := by simp [Justified]
    exact justified_creation.append
      ((prepared.append cloned).append settled.justified)
  started := by
    intro other read
    have readLater := mem_rest prepares read id id (by simp)
    obtain rfl := settled.read other _ readLater
    rcases settled.started readLater with failing | ⟨run, ok, exited⟩
    · exact .inl failing.append_left.append_left
    · exact .inr ⟨run, ok, exited.append_left.append_left⟩

end Creation

theorem produces_cleanupJobForFailStop (job : JobCgroup)
    (deadline : MonotonicDeadline) (jobId stage : String) :
    Produces
      (cleanupJobForFailStop job deadline jobId stage : Execution Rest _)
      fun failure events =>
        (∀ event ∈ events, event.IsJobStep job.path) ∧
          (failure.cleanupComplete = true →
            .jobRemoved job.path (.ok ()) ∈ events) ∧
          (failure.cleanupComplete = false →
            failure.blockFutureRuns = true) := by
  refine (job.produces_finishUntil deadline).bind ?_
  rintro ⟨finished, after⟩ events outcome
  refine after.produces_drop.bind ?_
  rintro _ dropEvents ⟨dropSteps, -, -⟩
  have samePath : after.path = job.path := outcome.path_eq
  rw [samePath] at dropSteps
  have steps := List.forall_mem_append.mpr ⟨outcome.steps, dropSteps⟩
  cases finished with
  | ok stats =>
      refine .pure ⟨by simpa using steps, fun _ => ?_, fun _ => rfl⟩
      simp [(outcome.clean stats rfl).removed]
  | error error =>
      refine .pure ⟨by simpa using steps, ?_, fun _ => rfl⟩
      simp [CoreFailure.uncertain]

/-- What the failure of a creation says about the directories it has left: one
that is left blocks further runs, and any other error gives the place back. -/
structure CreationReported (jobId : String) (error : CgroupError)
    (events : List Linux.Event) : Prop where
  left : leftBehind events ≠ [] →
    ((∃ primary cleanup, error = .cleanupCombined primary cleanup) ∨
      ∃ mismatch cleanup, error = .readBackRollbackUncertain mismatch cleanup) ∧
    (CoreFailure.beforeJob jobId error).blockFutureRuns = true ∧
    (CoreFailure.beforeJob jobId error).cleanupComplete = false
  other : (∀ primary cleanup, error ≠ .cleanupCombined primary cleanup) →
    (∀ mismatch cleanup, error ≠ .readBackRollbackUncertain mismatch cleanup) →
    leftBehind events = [] ∧
    (CoreFailure.beforeJob jobId error).blockFutureRuns = false ∧
    (TaskRunFailure.ofCore (.beforeJob jobId error)).capacityReusable = true ∧
    (TaskRunFailure.ofCore (.beforeJob jobId error)).cleanupComplete = true

/-- The creation of a job loses no directory silently. -/
theorem createJob_reported (manager : CgroupManager) (jobId : String)
    (limits : CgroupLimits) :
    Produces (manager.createJob jobId limits : Execution Rest _)
      fun result events => ∀ error, result = .error error →
        CreationReported jobId error events := by
  refine (manager.produces_createJob jobId limits).mono ?_
  rintro result events created error rfl
  obtain ⟨-, -, none⟩ := created
  cases may : error.mayLeaveJob with
  | false =>
      refine ⟨fun left => (left (none may)).elim, fun _ _ => ?_⟩
      simp [none may, CoreFailure.beforeJob, TaskRunFailure.ofCore, may]
  | true =>
      have variants : (∃ primary cleanup,
            error = .cleanupCombined primary cleanup) ∨
          ∃ mismatch cleanup,
            error = .readBackRollbackUncertain mismatch cleanup := by
        cases error <;> simp_all [CgroupError.mayLeaveJob]
      refine ⟨fun _ => ⟨variants, by simp [CoreFailure.beforeJob, may]⟩, ?_⟩
      intro notCombined notUncertain
      rcases variants with ⟨_, _, rfl⟩ | ⟨_, _, rfl⟩
      · exact (notCombined _ _ rfl).elim
      · exact (notUncertain _ _ rfl).elim

variable (manager : CgroupManager)

/-- What an execution produces. -/
theorem produces_execute (config : ExecutionConfig) (failStop : Bool)
    (onStarted : TaskStartTime → CgroupLimits → VerifiedRunningTask) :
    Produces (execute manager config failStop onStarted : Execution Rest _)
      Concluded := by
  refine (produces_failStopDeadline failStop).bind ?_
  rintro (_ | deadline) _ rfl
  · refine (manager.produces_createJob config.jobId config.limits).bind ?_
    rintro (error | job) createEvents created
    · obtain ⟨creates, removed, -⟩ := created
      refine .pure (.of_childless ?_ ?_ ?_ ?_)
      · simpa using fun event member => (creates event member).isChildless
      · simpa [CoreFailure.beforeJob, JobsRemoved] using removed
      · simp [CoreFailure.beforeJob]
      · intro report member
        exact (creates (.activated report) (by simpa using member)).elim
    · obtain ⟨present, baseline, rfl⟩ := created
      refine (produces_failStopDeadline failStop).bind ?_
      rintro (_ | deadline) _ rfl
      · refine produces_spawnInCgroup.bind ?_
        rintro (error | pending) spawnEvents spawned
        · refine (produces_giveUp_cleanupJobAfterFailure job present _ _ _ _
            _ _).mono ?_
          rintro _ jobEvents ⟨failure, rfl, givenUp⟩
          have steps := givenUp.cleanupSteps 0
          have prepared : Justified spawnEvents :=
            fun report member => (spawned _ member).elim
          rw [List.nil_append, List.nil_append]
          refine .of_creation ?_ ?_ ?_ givenUp.blocked
            (prepared.append givenUp.justified)
          · refine List.forall_mem_append.mpr ⟨fun event member =>
              (spawned event member).isChildless, fun event member => ?_⟩
            exact givenUp.isChildless event member
          · refine List.forall_mem_append.mpr ⟨?_, ?_⟩
            · rintro _ member other answer rfl
              exact spawned _ member
            · rintro _ member other answer rfl
              exact (steps _ member).not_isCreation trivial
          · intro complete
            simp [(givenUp.complete complete).2.removed]
        · obtain ⟨-, before, rfl, prepares⟩ := spawned
          refine (produces_executePending config job present pending failStop
            onStarted).mono ?_
          intro result rest settled
          exact settled.concluded prepares
      · refine (produces_cleanupJobForFailStop job deadline config.jobId
          _).bind ?_
        rintro failure events ⟨steps, removed, blocked⟩
        refine .pure ?_
        rw [List.append_nil]
        refine .of_creation
          (fun event member => (steps event member).isChildless) ?_ removed
          blocked (justified_of_isJobStep steps)
        rintro _ member other answer rfl
        exact steps _ member
  · exact .pure (.of_childless (by simp) (by simp [JobsRemoved])
      (fun _ => rfl) (by simp [Justified]))

/-- The result of an execution is sound unless it has lost its child: for all
answers of the operating system, all delays, and all moments of a cancellation
or a fail-stop. -/
theorem execute_sound_iff (manager : CgroupManager) (config : ExecutionConfig)
    (failStop : Bool)
    (onStarted : TaskStartTime → CgroupLimits → VerifiedRunningTask) :
    Produces (execute manager config failStop onStarted : Execution Rest _)
      fun result events => Sound result events ↔ ¬ ChildLost events :=
  (produces_execute manager config failStop onStarted).mono
    fun _ _ concluded => concluded.sound_iff

/-! ### A lost child -/

namespace LostChild

/-- A system on which everything succeeds, except that there is a stray byte on
the exec pipe and that no child can be waited for. -/
def system : Surroundings (Answers (TaskShared Unit)) Linux.Event
    (TaskShared Unit) :=
  .undisturbed
    { Answers.untroubled [0] 0 with wait := fun _ _ => .error ⟨"ECHILD"⟩ }

/-- A healthy coordinator with one registered task. -/
def world (start : StartState) (trace : List Linux.Event) :
    World Linux.Event (TaskShared Unit) where
  trace := trace
  now := 0
  shared :=
    { coordinator :=
        { Coordinator.new ⟨1, Nat.one_pos⟩ with
          active := (∅ : Table String ActiveEntry).insert "task" ⟨start, 0⟩
          registrations := 1 }
      latch := .unset
      announced := none
      rest := () }

def config : ExecutionConfig :=
  let resources := ResourceBudget.smallest.resources
  { jobId := "task"
    limits := ⟨resources.memoryMaxBytes, resources.pidsMax, resources.cpu⟩
    wallTimeout := 1
    cleanupTimeout := 1 }

def running : VerifiedRunningTask :=
  ⟨.running "task" "" "", ⟨ResourceBudget.smallest.resources⟩⟩

def path : String :=
  "/jobs/job-task"

def job : JobCgroup :=
  ⟨"task", path, ⟨0, 0, 0⟩, config.limits, false⟩

def created : List Linux.Event :=
  [.jobLookedUp path (.ok false), .jobCreated path (.ok ()),
    .jobConfigured path (.ok ⟨0, 0, 0⟩)]

def spawned : List Linux.Event :=
  created ++
    [.pipeOpened .exec (.ok ()), .pipeOpened .start (.ok ()),
      .nonblockingSet .start (.ok ()), .pipeOpened (.output .stdout) (.ok ()),
      .pipeOpened (.output .stderr) (.ok ()),
      .nonblockingSet (.output .stdout) (.ok ()),
      .nonblockingSet (.output .stderr) (.ok ()),
      .readerStarted .stdout (.ok ()), .readerStarted .stderr (.ok ()),
      .cloned (.ok 7)]

def checked : List Linux.Event :=
  spawned ++ [.memberObserved path 7 (.ok true)]

def committed : List Linux.Event :=
  checked ++ [.startSignalled 7 (.ok 1)]

def started : List Linux.Event :=
  committed ++ [.startCaptured "2026-01-01T00:00:00.000Z" 0]

def lost : List Linux.Event :=
  started ++
    [.execPipeRead 7 (.ok [0]), .waited 7 (.error ⟨"ECHILD"⟩),
      .readerJoined .stdout (.tail ⟨[], false⟩),
      .readerJoined .stderr (.tail ⟨[], false⟩)]

def removed : List Linux.Event :=
  lost ++
    [.cleanupStarted (some ⟨1, 1⟩), .jobObserved path (.ok false),
      .jobObserved path (.ok false), .cleanupRemaining (some 1),
      .statsRead path (.ok ⟨0, 0, none, 0, none, ⟨0, 0, 0⟩⟩),
      .jobRemoved path (.ok ())]

/-- The job counts as finished at the first attempt. -/
def finish : JobFinish :=
  ⟨⟨0, 0, 0, 0, none, ⟨0, 0, 0⟩⟩, false, ⟨1, 1⟩⟩

theorem createJob_eq :
    CgroupManager.createJob ⟨"/jobs"⟩ "task" config.limits system
      (world .pending []) = (.ok job, world .pending created) :=
  rfl

theorem spawnInCgroup_eq :
    spawnInCgroup system (world .pending created) =
      (.ok ⟨7, true, true, false⟩, world .pending spawned) :=
  rfl

theorem containsPid_eq :
    job.containsPid 7 system (world .pending spawned) =
      (.ok true, world .pending checked) :=
  rfl

theorem commitStart_eq :
    commitStart true "task" ⟨7, true, true, false⟩ system
        (world .pending checked) =
      ((.committed, ⟨7, false, true, false⟩), world .committed committed) :=
  rfl

theorem waitForExec_eq :
    (StartCommittedProcess.mk 7).waitForExec system
        (world .committed started) =
      (.error .invalidExecPayload, world .committed lost) :=
  rfl

theorem giveUp_eq (cause : String) :
    giveUp (cleanupJobAfterFailure job 1 "task" true "프로세스 시작" cause
        false) system (world .committed lost) =
      (.error (.afterJob "task" "프로세스 시작" cause false (.ok finish)),
        world .committed removed) :=
  rfl

/-- The whole execution. -/
theorem execute_eq :
    execute ⟨"/jobs"⟩ config true (fun _ _ => running) system
        (world .pending []) =
      (.error (.afterJob "task" "프로세스 시작"
          ExecutorError.invalidExecPayload.message false (.ok finish)),
        world .committed removed) := by
  have first : failStopDeadline true system (world .pending []) =
      (none, world .pending []) := rfl
  have second : failStopDeadline true system (world .pending created) =
      (none, world .pending created) := rfl
  have third : failStopDeadline true system (world .pending spawned) =
      (none, world .pending spawned) := rfl
  have captured : captureStartTime system (world .committed committed) =
      (⟨"2026-01-01T00:00:00.000Z", 0⟩, world .committed started) := rfl
  calc
    _ = _ := bind_eq first
    _ = _ := bind_eq createJob_eq
    _ = _ := bind_eq second
    _ = _ := bind_eq spawnInCgroup_eq
    _ = _ := bind_eq third
    _ = _ := bind_eq containsPid_eq
    _ = _ := bind_eq commitStart_eq
    _ = _ := bind_eq captured
    _ = _ := bind_eq waitForExec_eq
    _ = _ := giveUp_eq _

theorem not_waitsFor : ∀ event ∈ removed, ¬ event.WaitsFor 7 := by
  simp [removed, lost, started, committed, checked, spawned, created, Event.WaitsFor]

end LostChild

/-- A lost child is reported as cleaned up. -/
theorem execute_unsound_of_strayByte :
    ¬ Sound
      (execute ⟨"/jobs"⟩ LostChild.config true
        (fun _ _ => LostChild.running) LostChild.system
        (LostChild.world .pending [])).1
      (execute ⟨"/jobs"⟩ LostChild.config true
        (fun _ _ => LostChild.running) LostChild.system
        (LostChild.world .pending [])).2.trace := by
  rw [LostChild.execute_eq]
  rintro ⟨-, waited⟩
  obtain ⟨wait, waits, inOrder⟩ := waited 7 (by decide)
  exact LostChild.not_waitsFor wait
    (inOrder.subset (List.mem_cons_of_mem _ List.mem_cons_self)) waits

end Executor
end TaskCage
