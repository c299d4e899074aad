import TaskCage.Executor.Port
import TaskCage.Task.Settling

/-!
# While a task is executed

The owner waits for its execution and publishes that the program runs as soon
as it is told so.  This file has the invariant of that time; neither the
execution nor the other threads break it.
-/

namespace TaskCage
namespace Task

open Executor FailStop Linux Process Registry

/-! ### What publishing touches -/

/-- Relations between worlds that the code of an owner keeps. -/
structure OwnerMoves (Moves : OwnerWorld → OwnerWorld → Prop) : Prop where
  reflexive : Std.Refl Moves
  transitive : IsTrans OwnerWorld Moves
  works : ∀ world pause coordinator rest,
    world.shared.coordinator.Progress coordinator →
    Moves world
      { world with
        now := world.now + pause
        shared := { world.shared with coordinator, rest } }

section Frame

variable {Moves : OwnerWorld → OwnerWorld → Prop} (moves : OwnerMoves Moves)
include moves

theorem OwnerMoves.bind {Result Next : Type} {process : Owned Result}
    {next : Result → Owned Next} (first : Keeps process Moves)
    (second : ∀ result, Keeps (next result) Moves) :
    Keeps (process >>= next) Moves :=
  .bind moves.transitive first second

theorem OwnerMoves.pure {Result : Type} (result : Result) :
    Keeps (Pure.pure result : Owned Result) Moves :=
  .pure moves.reflexive result

theorem keeps_startFailStop (report : CleanupFailureReport) :
    Keeps (startFailStop report) Moves :=
  .act moves.transitive fun _ world => by
    simpa using moves.works world 0 _
      (world.shared.rest.note (.activated report))
      (.activate world.now report)

theorem keeps_rest {Result : Type}
    (change : OwnerShared → Result × OwnerShared) :
    Keeps (update fun _ shared =>
      ((change shared.rest).1, { shared with rest := (change shared.rest).2 }) :
        Owned Result) Moves :=
  .act moves.transitive fun _ world => by
    simpa using moves.works world 0 world.shared.coordinator
      (change world.shared.rest).2 (.refl _)

theorem keeps_perform (step : OwnerStep)
    (change : OwnerShared → OwnerShared) : Keeps (perform step change) Moves :=
  keeps_rest moves fun rest => ((), (change rest).note step)

theorem keeps_lockRegistry {Result : Type}
    (checked : Except RegistryError Unit) (note : Result → Option OwnerStep)
    (locked : ℕ → ℕ → RegistryState →
      Except RegistryError Result × RegistryState) :
    Keeps (lockRegistry checked note locked) Moves :=
  .lasting moves.transitive fun world pause =>
    moves.works world pause world.shared.coordinator _ (.refl _)

variable (owner : SubmitExecutionOwner)

theorem keeps_failOwner (failure : SubmitFailure) :
    Keeps (failOwner owner failure) Moves :=
  moves.bind (keeps_lockRegistry moves _ _ _) fun _ =>
    moves.bind (keeps_perform moves _ _) fun _ => moves.pure _

variable (cancellation : RunningCancellation)

theorem keeps_beginRunning (running : VerifiedRunningTask) :
    Keeps (beginRunning owner cancellation running) Moves := by
  refine moves.bind ?_ fun published => ?_
  · exact moves.bind (keeps_lockRegistry moves _ _ _) fun
      | .error _ => moves.pure _
      | .ok _ => moves.bind (keeps_perform moves _ _) fun _ => moves.pure _
  · have entered (phase : OwnerPhase) : Keeps (enterPhase phase) Moves :=
      keeps_rest moves fun rest => ((), { rest with phase })
    cases published with
    | ok snapshot =>
        exact moves.bind (keeps_perform moves _ _) fun _ => entered _
    | error error =>
        exact moves.bind (keeps_startFailStop moves _) fun _ =>
          moves.bind (keeps_failOwner moves owner _) fun _ =>
          moves.bind (keeps_perform moves _ _) fun _ =>
          moves.bind (keeps_perform moves _ _) fun _ => entered _

theorem keeps_react :
    Keeps (react owner cancellation) Moves := by
  refine moves.bind ?_ fun seen => ?_
  · exact .act moves.transitive fun _ world => by
      simpa using moves.reflexive.refl world
  · obtain ⟨phase, announced⟩ := seen
    cases phase with
    | waiting =>
        cases announced with
        | none => exact moves.pure _
        | some running => exact keeps_beginRunning moves owner cancellation _
    | published => exact moves.pure _
    | refused => exact moves.pure _

end Frame

variable (owner : SubmitExecutionOwner) (cancellation : RunningCancellation)

/-- The reaction of an owner adds no event. -/
theorem silent_react :
    Silent (react owner cancellation) :=
  .of_keeps <| keeps_react
    { reflexive := ⟨fun _ => ⟨rfl, le_rfl⟩⟩
      transitive := ⟨fun _ _ _ first second =>
        ⟨second.1.trans first.1, first.2.trans second.2⟩⟩
      works := fun _ _ _ _ _ => ⟨rfl, Nat.le_add_right _ _⟩ } owner cancellation

/-- The reaction of an owner takes no fail-stop back. -/
theorem keeps_stopLasts_react :
    Keeps (react owner cancellation) StopLasts := by
  have moves : OwnerMoves StopLasts :=
    { reflexive := ⟨fun _ => id⟩
      transitive := ⟨fun _ _ _ first second => second ∘ first⟩
      works := fun _ _ _ _ progress => progress.stopping }
  exact keeps_react moves owner cancellation

/-! ### The invariant -/

namespace OwnerStep

/-- What the execution port returned, where the step says so. -/
def completion? :
    OwnerStep → Option (Except ExecutionFailure TaskSnapshot)
  | executed completion => some completion
  | _ => none

/-- Whether the step tells others that the task is finished, or settles what
the task held. -/
def concludes : OwnerStep → Bool
  | finishedStored _ => true
  | deactivated => true
  | slotReleased => true
  | slotRetained => true
  | cancellationCompleted _ => true
  | signalled (.task snapshot) => snapshot.isFinished
  | initialSent (.task snapshot) => snapshot.isFinished
  | _ => false

/-- Whether the step may come before the task is settled. -/
def isOpening (step : OwnerStep) : Bool :=
  !step.concludes && !step matches .activated _

end OwnerStep

/-- The beginning of a log: what the execution port has returned, and how many
answers were sent. -/
structure Opening
    (executions : List (Except ExecutionFailure TaskSnapshot))
    (answered : ℕ) (log : List OwnerStep) : Prop where
  executed : log.filterMap OwnerStep.completion? = executions
  initial : log.countP OwnerStep.isInitial = answered
  steps : ∀ step ∈ log, step.isOpening = true

/-- The log of an owner that gave up when the task began to run. -/
structure Refusal
    (executions : List (Except ExecutionFailure TaskSnapshot))
    (log : List OwnerStep) : Prop where
  executed : log.filterMap OwnerStep.completion? = executions
  slot : log.countP OwnerStep.isSlot = 1
  initial : log.countP OwnerStep.isInitial = 1
  kept : .slotReleased ∉ log
  unfinished : ∀ snapshot, .finishedStored snapshot ∉ log

/-- A running snapshot of the owner's task. -/
def Runs (owner : SubmitExecutionOwner) (snapshot : TaskSnapshot) : Prop :=
  ∃ submittedAt startedAt,
    snapshot = .running owner.taskId submittedAt startedAt

section Underway

variable (registration : ℕ) (Panics : Prop)
variable (executions : List (Except ExecutionFailure TaskSnapshot))
variable (Stopping : Prop)

/-- What holds in each phase of an owner. -/
def Stage : OwnerPhase → OwnerWorld → Prop
  | .waiting, world => ∃ log, Opening executions 0 log ∧
      Standing owner registration Panics log (· = .reserved) True Stopping world
  | .published, world => ∃ log snapshot, Opening executions 1 log ∧
      snapshot.isFinished = false ∧
      Standing owner registration Panics log (· = .published snapshot) True
        Stopping world
  | .refused, world => Panics ∧ ∃ log, Refusal executions log ∧
      Standing owner registration Panics log (fun _ => True) True True world

/-- The invariant of an owner whose task is not settled. -/
structure Underway (world : OwnerWorld) : Prop where
  stage : Stage owner registration Panics executions Stopping
    world.shared.rest.phase world
  announced : ∀ running, world.shared.announced = some running →
    Runs owner running.snapshot

variable {owner registration Panics executions Stopping}

theorem stable_stage (phase : OwnerPhase) :
    Stable (OtherSteps owner registration Panics)
      (Stage owner registration Panics executions Stopping phase) := by
  intro world reached steps
  cases phase with
  | waiting =>
      rintro ⟨log, opening, standing⟩
      exact ⟨log, opening, stable_standing lasts_reserved _ _ steps standing⟩
  | published =>
      rintro ⟨log, snapshot, opening, running, standing⟩
      exact ⟨log, snapshot, opening, running,
        stable_standing (lasts_running running) _ _ steps standing⟩
  | refused =>
      rintro ⟨panics, log, refusal, standing⟩
      exact ⟨panics, log, refusal,
        stable_standing lasts_true _ _ steps standing⟩

theorem stable_underway :
    Stable (OtherSteps owner registration Panics)
      (Underway owner registration Panics executions Stopping) := by
  intro world reached steps underway
  have spared := steps.spared
  exact
    { stage := spared.phase ▸ stable_stage _ _ _ steps underway.stage
      announced := fun running said =>
        underway.announced running (spared.announced ▸ said) }

/-! ### Publishing -/

variable {answered : ℕ} {log : List OwnerStep} {Active : Prop}
variable {running : VerifiedRunningTask} {world : OwnerWorld}

theorem Opening.append {more : ℕ} {steps : List OwnerStep}
    {later : List (Except ExecutionFailure TaskSnapshot)}
    (opening : Opening executions answered log)
    (added : Opening later more steps) :
    Opening (executions ++ later) (answered + more) (log ++ steps) where
  executed := by rw [List.filterMap_append, opening.executed, added.executed]
  initial := by rw [List.countP_append, opening.initial, added.initial]
  steps step member := (List.mem_append.mp member).elim
    (opening.steps step) (added.steps step)

/-- Storing the running snapshot of a reserved task fails only where the lock
cannot be used. -/
theorem ensures_storeRunning (runs : Runs owner running.snapshot)
    (cancellation : RunningCancellation) :
    Carries owner registration Panics log (· = .reserved) Active Stopping
      (lockRegistry (checkRunning owner running.snapshot)
        (fun snapshot => some (.runningStored snapshot))
        fun now _ state => state.publishRunning now owner running.snapshot
          running.effectiveLimits cancellation)
      fun result world =>
        match result with
        | .ok snapshot => snapshot.isFinished = false ∧
            Standing owner registration Panics
              (log ++ [.runningStored snapshot]) (· = .published snapshot)
              Active Stopping world
        | .error _ => Panics ∧
            Standing owner registration Panics log (· = .reserved) Active
              Stopping world := by
  obtain ⟨submittedAt, startedAt, isRunning⟩ := runs
  refine (ensures_lockRegistry lasts_reserved _ _
    (fun _ => .publishRunning owner running.snapshot running.effectiveLimits
      cancellation)
    (fun _ published held => published = running.snapshot ∧
      held = .published running.snapshot)
    (fun published held => published = running.snapshot ∧
      held = .published running.snapshot)
    (fun _ _ _ => rfl) (fun _ _ => Nat.le_add_right _ _)
    (fun now _ _ invariant => invariant.outcome_publishRunning now _ _ _)
    fun _ _ _ _ done => done).mono fun result world standing => ?_
  cases result with
  | error error =>
      obtain ⟨standing, refused⟩ := standing
      refine ⟨refused ?_ fun now _ registry invariant reserved => ?_, standing⟩
      · simp [isRunning, checkRunning, RegistryState.verifyTaskId]
      · rw [isRunning]
        exact invariant.isOk_publishRunning now reserved _ _ _ _
  | ok snapshot =>
      obtain ⟨rfl, held⟩ := standing.held
      exact ⟨by rw [isRunning]; rfl, { standing with held }⟩

theorem ensures_publishRunning (runs : Runs owner running.snapshot)
    (cancellation : RunningCancellation) :
    Carries owner registration Panics log (· = .reserved) Active Stopping
      (publishRunning owner cancellation running)
      fun result world =>
        match result with
        | .ok snapshot => snapshot.isFinished = false ∧
            Standing owner registration Panics
              (log ++ [.runningStored snapshot] ++
                [.signalled (.task snapshot)])
              (· = .published snapshot) Active Stopping world
        | .error _ => Panics ∧
            Standing owner registration Panics log (· = .reserved) Active
              Stopping world := by
  refine .bind (ensures_storeRunning runs cancellation) fun result => ?_
  cases result with
  | error error => exact .pure fun _ failed => failed
  | ok snapshot =>
      exact .and_elim fun isRunning => .bind
        (ensures_signal (lasts_running isRunning) _) fun _ =>
          .pure fun _ standing => ⟨isRunning, standing⟩

theorem Opening.published (opening : Opening executions 0 log)
    {snapshot : TaskSnapshot} (running : snapshot.isFinished = false) :
    Opening executions 1 (log ++ [.runningStored snapshot] ++
      [.signalled (.task snapshot)] ++ [.initialSent (.task snapshot)]) := by
  have added : Opening [] 1 [.runningStored snapshot,
      .signalled (.task snapshot), .initialSent (.task snapshot)] :=
    ⟨rfl, rfl, by simp [OwnerStep.isOpening, OwnerStep.concludes, running]⟩
  simpa using opening.append added

theorem Opening.countP_isSlot (opening : Opening executions answered log) :
    log.countP OwnerStep.isSlot = 0 := by
  refine List.countP_eq_zero.mpr fun step member settles => ?_
  have opens := opening.steps step member
  cases step <;> simp_all [OwnerStep.isSlot, OwnerStep.isOpening,
    OwnerStep.concludes]

variable {step : OwnerStep} {Holds : Held → Prop}

theorem Opening.not_mem (opening : Opening executions answered log)
    (closes : step.isOpening = false) : step ∉ log :=
  fun member => absurd (opening.steps step member) (by simp [closes])

theorem Neutral.filterMap_eq_nil (neutral : Neutral log) :
    log.filterMap OwnerStep.completion? = [] := by
  refine List.filterMap_eq_nil_iff.mpr fun step member => ?_
  have := neutral step member
  cases step <;> simp_all [OwnerStep.isNeutral, OwnerStep.completion?]

theorem Neutral.countP_eq_zero (neutral : Neutral log)
    {counts : OwnerStep → Bool}
    (special : ∀ step, counts step = true → step.isNeutral = false) :
    log.countP counts = 0 := by
  rw [← countP_significant special, neutral.significant_eq]
  rfl

theorem Neutral.not_mem (neutral : Neutral log)
    (special : step.isNeutral = false) : step ∉ log :=
  fun member => absurd (neutral step member) (by simp [special])

theorem Opening.refusal {middle : List OwnerStep}
    (opening : Opening executions 0 log) (neutral : Neutral middle)
    (report : CleanupFailureReport) (observation : SubmitObservation) :
    Refusal executions (log ++ [.activated report] ++ middle ++
      [.initialSent observation] ++ [.slotRetained]) where
  executed := by
    simp only [List.filterMap_append, opening.executed,
      neutral.filterMap_eq_nil, List.append_nil]
    exact (List.append_nil _).trans
      ((List.append_nil _).trans (List.append_nil _))
  slot := by
    simp only [List.countP_append, opening.countP_isSlot,
      neutral.countP_eq_zero isNeutral_of_isSlot]
    rfl
  initial := by
    simp only [List.countP_append, opening.initial,
      neutral.countP_eq_zero isNeutral_of_isInitial]
    rfl
  kept := by
    simpa using And.intro (opening.not_mem rfl) (neutral.not_mem rfl)
  unfinished := by
    intro snapshot
    have before : .finishedStored snapshot ∉ log := opening.not_mem rfl
    have between : .finishedStored snapshot ∉ middle := neutral.not_mem rfl
    simp [before, between]

/-- The owner publishes that the task runs, or it gives up. -/
theorem ensures_beginRunning (opening : Opening executions 0 log)
    (runs : Runs owner running.snapshot) (cancellation : RunningCancellation) :
    Carries owner registration Panics log (· = .reserved) True Stopping
      (beginRunning owner cancellation running)
      fun _ world => Stage owner registration Panics executions Stopping
        world.shared.rest.phase world := by
  refine .bind (ensures_publishRunning runs cancellation) fun published => ?_
  cases published with
  | ok snapshot =>
      refine .and_elim fun isRunning => .bind
        (ensures_sendInitial (lasts_running isRunning) _) fun _ =>
          (ensures_enterPhase (lasts_running isRunning) .published).mono ?_
      rintro _ world ⟨standing, entered⟩
      rw [entered]
      exact ⟨_, snapshot, opening.published isRunning, isRunning, standing⟩
  | error error =>
      refine .and_elim fun panics => .bind
        (ensures_startFailStop lasts_reserved _) fun _ =>
        .bind (ensures_failOwner lasts_reserved _) fun observation =>
        .exists_elim fun middle => .and_elim fun neutral =>
        .bind (ensures_sendInitial lasts_true _) fun _ =>
        .bind (ensures_retain lasts_true) fun _ =>
          (ensures_enterPhase lasts_true .refused).mono ?_
      rintro _ world ⟨standing, entered⟩
      rw [entered]
      exact ⟨panics, _, opening.refusal neutral _ observation, standing⟩

/-- The announcement stays as it is while the owner publishes. -/
theorem keeps_announced_beginRunning (running : VerifiedRunningTask) :
    Keeps (beginRunning owner cancellation running) fun world reached =>
      reached.shared.announced = world.shared.announced := by
  have moves : OwnerMoves fun world reached =>
      reached.shared.announced = world.shared.announced :=
    { reflexive := ⟨fun _ => rfl⟩
      transitive := ⟨fun _ _ _ first second => second.trans first⟩
      works := fun _ _ _ _ _ => rfl }
  exact keeps_beginRunning moves owner cancellation running

/-- The reaction of an owner keeps the invariant. -/
theorem ensures_react :
    Ensures (OtherSteps owner registration Panics)
      (Underway owner registration Panics executions Stopping)
      (react owner cancellation)
      fun _ => Underway owner registration Panics executions Stopping := by
  have looked : Ensures (OtherSteps owner registration Panics)
      (Underway owner registration Panics executions Stopping)
      (update fun _ shared =>
        ((shared.rest.phase, shared.announced), shared) : Owned _)
      fun seen world =>
        Underway owner registration Panics executions Stopping world ∧
          seen = (world.shared.rest.phase, world.shared.announced) :=
    .update stable_underway fun _ underway => ⟨underway, rfl⟩
  refine .bind looked fun seen => ?_
  obtain ⟨phase, announced⟩ := seen
  cases phase with
  | published => exact .pure fun _ found => found.1
  | refused => exact .pure fun _ found => found.1
  | waiting =>
      cases announced with
      | none => exact .pure fun _ found => found.1
      | some running =>
          intro surroundings respects world ⟨underway, found⟩
          obtain ⟨waiting, said⟩ := Prod.mk.inj found
          obtain ⟨log, opening, standing⟩ := waiting ▸ underway.stage
          have runs := underway.announced running said.symm
          obtain ⟨stage, kept⟩ :=
            (ensures_beginRunning opening runs cancellation).frame
              (fun world => world.shared.announced)
              (fun _ _ steps => steps.spared.announced)
              (keeps_announced_beginRunning cancellation running)
              (some running) surroundings respects world
              ⟨standing, said.symm⟩
          refine ⟨stage, fun other announced => ?_⟩
          obtain rfl := Option.some.inj (kept.symm.trans announced)
          exact runs

/-! ### Executing -/

/-- The moves of the execution keep where the owner stands. -/
theorem Standing.works
    (standing : Standing owner registration Panics log Holds Active Stopping
      world) (events : List Linux.Event) {coordinator : Coordinator}
    (latch : TerminalTriggerLatch)
    (progress : world.shared.coordinator.Progress coordinator) :
    Standing owner registration Panics log Holds Active Stopping
      { world with
        trace := world.trace ++ events
        shared := { world.shared with coordinator, latch } } :=
  { standing with
    active := fun active =>
      (progress.registered _).trans (standing.active active)
    stopping := progress.stopping ∘ standing.stopping }

theorem Standing.announces
    (standing : Standing owner registration Panics log Holds Active Stopping
      world) (running : VerifiedRunningTask) :
    Standing owner registration Panics log Holds Active Stopping
      { world with
        shared := { world.shared with announced := some running } } :=
  ⟨standing.orderly, standing.log_eq, standing.held, standing.active,
    standing.stopping, standing.usable⟩

theorem Stage.imp {phase : OwnerPhase} {reached : OwnerWorld}
    (stands : ∀ {log Holds Active Stopping},
      Standing owner registration Panics log Holds Active Stopping world →
        Standing owner registration Panics log Holds Active Stopping reached)
    (stage : Stage owner registration Panics executions Stopping phase world) :
    Stage owner registration Panics executions Stopping phase reached := by
  cases phase with
  | waiting =>
      obtain ⟨log, opening, standing⟩ := stage
      exact ⟨log, opening, stands standing⟩
  | published =>
      obtain ⟨log, snapshot, opening, running, standing⟩ := stage
      exact ⟨log, snapshot, opening, running, stands standing⟩
  | refused =>
      obtain ⟨panics, log, refusal, standing⟩ := stage
      exact ⟨panics, log, refusal, stands standing⟩

theorem executionMoves_underway :
    ExecutionMoves (fun running => Runs owner running.snapshot)
      fun world reached =>
        Underway owner registration Panics executions Stopping world →
          Underway owner registration Panics executions Stopping reached where
  reflexive := ⟨fun _ => id⟩
  transitive := ⟨fun _ _ _ first second => second ∘ first⟩
  works world events coordinator latch progress underway :=
    { stage := underway.stage.imp fun standing =>
        standing.works events latch progress
      announced := underway.announced }
  announces world running runs underway :=
    { stage := underway.stage.imp fun standing => standing.announces running
      announced := by
        rintro _ ⟨⟩
        exact runs }

end Underway
end Task
end TaskCage
