import TaskCage.Task.Underway

/-!
# The account of an owner

Whatever the execution returns, whatever fails in the registry and whenever a
fail-stop begins: when an owner is done, its slot was settled once, its caller
was answered once, and nothing unfinished is left behind without a fail-stop.
-/

namespace TaskCage
namespace Task

open Executor FailStop Linux Process Registry

section Account

variable (owner : SubmitExecutionOwner) (registration : ℕ) (Panics : Prop)

/-- What a submission has set up when it starts an owner. -/
structure Ready (world : OwnerWorld) : Prop where
  orderly : Orderly owner world.now world.shared.rest.registry
  reserved : world.shared.rest.registry.held owner = .reserved
  registered : Registered owner registration world.shared.coordinator
  usable : ¬ Panics → world.shared.rest.poisoned = false

/-- The account of an owner that is done. -/
structure Accounted (completion : Except ExecutionFailure TaskSnapshot)
    (world : OwnerWorld) : Prop where
  /-- The execution was run once and returned this. -/
  executed : world.shared.rest.log.filterMap OwnerStep.completion? =
    [completion]
  finished : ∀ payload, completion = .ok payload → payload.isFinished = true
  /-- The slot was released or retained exactly once. -/
  slot : world.shared.rest.log.countP OwnerStep.isSlot = 1
  released : .slotReleased ∈ world.shared.rest.log → Confirmed completion
  retained : .slotRetained ∈ world.shared.rest.log →
    world.shared.coordinator.isFailStopping = true
  active : Registered owner registration world.shared.coordinator ∨
    CleanedUp completion
  held : Final completion (world.shared.rest.registry.held owner) ∨
    world.shared.coordinator.isFailStopping = true
  initial : world.shared.rest.log.countP OwnerStep.isInitial = 1
  /-- First the finished snapshot is stored, then the active execution ends,
  then the slot is settled, and only then anyone is woken. -/
  ordered : ∀ snapshot, .finishedStored snapshot ∈ world.shared.rest.log →
    ∃ before slot wakes, slot.isSlot = true ∧
      (∀ step ∈ before, step.concludes = false) ∧
      world.shared.rest.log =
        before ++ [.finishedStored snapshot, .deactivated, slot] ++ wakes

variable {owner registration Panics}
variable {completion : Except ExecutionFailure TaskSnapshot}
variable {world : OwnerWorld} {log : List OwnerStep} {Stopping : Prop}
variable {answered : ℕ}
variable {executions : List (Except ExecutionFailure TaskSnapshot)}

theorem Opening.concludes_eq_false (opening : Opening executions answered log) :
    ∀ step ∈ log, step.concludes = false := by
  intro step member
  have opens := opening.steps step member
  simp only [OwnerStep.isOpening, Bool.and_eq_true] at opens
  simpa using opens.1

/-- A closed log after the beginning is the account. -/
theorem Closed.accounted (opening : Opening [completion] answered log)
    (finished : ∀ payload, completion = .ok payload → payload.isFinished = true)
    (closed : Closed owner registration Panics completion answered log world) :
    Accounted owner registration completion world := by
  obtain ⟨closing, Holds, Active, Stopping, closes, standing⟩ := closed
  have whole := standing.log_eq
  refine
    { executed := ?_
      finished := finished
      slot := ?_
      released := fun member => closes.released ?_
      retained := fun member => standing.stopping (closes.retained ?_)
      active := closes.active.imp standing.active id
      held := closes.held.symm.imp (fun final => final _ standing.held)
        standing.stopping
      initial := ?_
      ordered := fun snapshot member => ?_ }
  · have nothing : closing.filterMap OwnerStep.completion? = [] := by
      refine List.filterMap_eq_nil_iff.mpr fun step member => ?_
      cases step with
      | executed other => exact absurd member (closes.executed other)
      | _ => rfl
    rw [whole, List.filterMap_append, opening.executed, nothing]
    rfl
  · rw [whole, List.countP_append, opening.countP_isSlot, closes.slot]
  · rw [whole, List.mem_append] at member
    exact member.resolve_left (opening.not_mem rfl)
  · rw [whole, List.mem_append] at member
    exact member.resolve_left (opening.not_mem rfl)
  · rw [whole, List.countP_append, opening.initial, closes.initial]
  · rw [whole, List.mem_append] at member
    obtain ⟨slot, wakes, settles, rfl⟩ := closes.ordered snapshot
      (member.resolve_left (opening.not_mem rfl))
    exact ⟨log, slot, wakes, settles, opening.concludes_eq_false,
      whole.trans (List.append_assoc ..).symm⟩

/-- An owner that gave up when the task began to run. -/
theorem Refusal.accounted (refusal : Refusal [completion] log)
    (finished : ∀ payload, completion = .ok payload →
      payload.isFinished = true) {report : CleanupFailureReport}
    (standing : Standing owner registration Panics
      (log ++ [.activated report]) (fun _ => True) True True world) :
    Accounted owner registration completion world := by
  have whole := standing.log_eq
  have stopping := standing.stopping trivial
  exact
    { executed := by
        rw [whole, List.filterMap_append, refusal.executed]
        rfl
      finished := finished
      slot := by
        rw [whole, List.countP_append, refusal.slot]
        rfl
      released := fun member => by
        rw [whole] at member
        exact absurd member (by simp [refusal.kept])
      retained := fun _ => stopping
      active := .inl (standing.active trivial)
      held := .inr stopping
      initial := by
        rw [whole, List.countP_append, refusal.initial]
        rfl
      ordered := fun snapshot member => by
        rw [whole] at member
        exact absurd member (by simp [refusal.unfinished]) }

theorem Refusal.executed_last (refusal : Refusal [] log)
    (completion : Except ExecutionFailure TaskSnapshot) :
    Refusal [completion] (log ++ [.executed completion]) where
  executed := by
    rw [List.filterMap_append, refusal.executed]
    rfl
  slot := by
    rw [List.countP_append, refusal.slot]
    rfl
  initial := by
    rw [List.countP_append, refusal.initial]
    rfl
  kept := by simp [refusal.kept]
  unfinished := by simp [refusal.unfinished]

/-! ### The execution -/

/-- The failures that come with a fail-stop. -/
def Blocked : Except ExecutionFailure TaskSnapshot → Prop
  | .ok _ => False
  | .error failure =>
      failure.capacityReusable = false ∧ failure.cleanupComplete = true

theorem reported_blocked
    (promise : PortPromise completion world) :
    Reported completion (Blocked completion) where
  reusable := promise.reusable
  stopped := by
    rintro failure rfl blocked complete
    exact ⟨blocked, complete⟩

theorem stopping_of_blocked
    (promise : PortPromise completion world) (blocked : Blocked completion) :
    world.shared.coordinator.isFailStopping = true := by
  cases completion with
  | ok payload => exact blocked.elim
  | error failure => exact promise.blocked failure rfl blocked.1 blocked.2

theorem Underway.stop
    (underway : Underway owner registration Panics executions False world)
    (stops : Stopping → world.shared.coordinator.isFailStopping = true) :
    Underway owner registration Panics executions Stopping world where
  announced := underway.announced
  stage := by
    have stage := underway.stage
    revert stage
    cases world.shared.rest.phase with
    | waiting =>
        rintro ⟨log, opening, standing⟩
        exact ⟨log, opening, { standing with stopping := stops }⟩
    | published =>
        rintro ⟨log, snapshot, opening, running, standing⟩
        exact ⟨log, snapshot, opening, running,
          { standing with stopping := stops }⟩
    | refused => exact id

theorem stable_stopping : Stable (OtherSteps owner registration Panics)
    fun world => world.shared.coordinator.isFailStopping = true :=
  fun _ _ steps => steps.spared.stopping

variable (cancellation : RunningCancellation) (kind : TaskKind OwnerShared)
variable (manager : CgroupManager) (metadata : SubmitMetadata)

theorem runs_onStarted (owner : SubmitExecutionOwner)
    (metadata : SubmitMetadata) (startTime : TaskStartTime)
    (limits : CgroupLimits) :
    Runs owner
      ((taskRunConfig owner metadata).onStarted startTime limits).snapshot :=
  ⟨metadata.submittedAt, startTime.wallClock, rfl⟩

/-- What is known when the execution has returned. -/
theorem ensures_driven :
    Ensures (OtherSteps owner registration Panics)
      (Underway owner registration Panics [] False)
      (driven (react owner cancellation)
        (executeTask kind manager (taskRunConfig owner metadata)))
      fun completion world => PortPromise completion world ∧
        Underway owner registration Panics [] (Blocked completion) world := by
  intro surroundings respects world underway
  have silent := silent_react owner cancellation
  have kept := Ensures.driven stable_underway silent
    (ensures_react cancellation)
    (keeps_executeTask executionMoves_underway
      (runs_onStarted owner metadata) kind manager)
    surroundings respects world underway
  have lasting : Respects (reacting surroundings (react owner cancellation))
      StopLasts :=
    respects_reacting respects stable_stopping silent
      fun surroundings respects world =>
        keeps_stopLasts_react owner cancellation surroundings
          { elapse := fun world delay =>
              (respects.elapse world delay).spared.stopping
            interfere := fun world => (respects.interfere world).spared.stopping
            resume := fun world => (respects.resume world).spared.stopping }
          world
  have promise := ensures_executeTask kind manager
    (taskRunConfig owner metadata) _ lasting world trivial
  exact ⟨promise, kept.stop (stopping_of_blocked promise)⟩

/-- The result of the execution is noted. -/
theorem ensures_note :
    Ensures (OtherSteps owner registration Panics)
      (Underway owner registration Panics [] Stopping)
      (perform (.executed completion) id)
      fun _ => Underway owner registration Panics [completion] Stopping := by
  refine .update stable_underway fun world underway => ?_
  refine ⟨?_, underway.announced⟩
  have stage := underway.stage
  have added : Opening [completion] 0 [.executed completion] :=
    ⟨rfl, rfl, by simp [OwnerStep.isOpening, OwnerStep.concludes]⟩
  have noted {log Holds Active Stopping}
      (standing : Standing owner registration Panics log Holds Active Stopping
        world) :
      Standing owner registration Panics (log ++ [.executed completion]) Holds
        Active Stopping
        { world with
          shared := { world.shared with
            rest := world.shared.rest.note (.executed completion) } } :=
    { standing with
      log_eq := by
        change world.shared.rest.log ++ _ = _
        rw [standing.log_eq] }
  change Stage _ _ _ _ _ world.shared.rest.phase _
  revert stage
  cases world.shared.rest.phase with
  | waiting =>
      rintro ⟨log, opening, standing⟩
      exact ⟨_, opening.append added, noted standing⟩
  | published =>
      rintro ⟨log, snapshot, opening, running, standing⟩
      exact ⟨_, snapshot, opening.append added, running, noted standing⟩
  | refused =>
      rintro ⟨panics, log, refusal, standing⟩
      exact ⟨panics, _, refusal.executed_last completion, noted standing⟩

/-- Settling makes the account. -/
theorem ensures_settle (reported : Reported completion Stopping)
    (finished : ∀ payload, completion = .ok payload →
      payload.isFinished = true) :
    Ensures (OtherSteps owner registration Panics)
      (Underway owner registration Panics [completion] Stopping)
      (settle owner completion)
      fun _ => Accounted owner registration completion := by
  have looked : Ensures (OtherSteps owner registration Panics)
      (Underway owner registration Panics [completion] Stopping)
      (update fun _ shared => (shared.rest.phase, shared) : Owned OwnerPhase)
      fun phase => Stage owner registration Panics [completion] Stopping
        phase :=
    .update stable_underway fun _ underway => underway.stage
  refine .bind looked fun phase => ?_
  cases phase with
  | waiting =>
      refine .exists_elim fun log => .and_elim fun opening =>
        (ensures_finishWithoutRunning lasts_reserved ?_ reported).mono
          fun _ _ closed => closed.accounted opening finished
      rintro _ rfl
      exact id
  | published =>
      refine .exists_elim fun log => .exists_elim fun snapshot =>
        .and_elim fun opening => .and_elim fun running =>
          (ensures_finishRunning (lasts_running running) ?_ completion).mono
            fun _ _ closed => closed.accounted opening finished
      rintro _ rfl
      simp [Held.Resolved, running]
  | refused =>
      exact .and_elim fun _ => .exists_elim fun log => .and_elim fun refusal =>
        (ensures_startFailStop lasts_true _).mono fun _ _ standing =>
          refusal.accounted finished standing

theorem stable_ready : Stable (OtherSteps owner registration Panics)
    (Ready owner registration Panics) := by
  intro world reached steps ready
  have standing : Standing owner registration Panics world.shared.rest.log
      (· = .reserved) True False world :=
    { orderly := ready.orderly
      log_eq := rfl
      held := ready.reserved
      active := fun _ => ready.registered
      stopping := False.elim
      usable := ready.usable }
  have kept := stable_standing lasts_reserved _ _ steps standing
  exact ⟨kept.orderly, kept.held, kept.active trivial, kept.usable⟩

/-- Opening the channels begins the log. -/
theorem ensures_openChannels :
    Ensures (OtherSteps owner registration Panics)
      (Ready owner registration Panics) openChannels
      fun _ => Underway owner registration Panics [] False := by
  refine .update stable_ready fun world ready => ?_
  exact
      { stage := ⟨[], ⟨rfl, rfl, List.forall_mem_nil _⟩,
          { orderly := ready.orderly
            log_eq := rfl
            held := ready.reserved
            active := fun _ => ready.registered
            stopping := False.elim
            usable := ready.usable }⟩
        announced := fun _ announced => by cases announced }

/-- An owner that was started as it should be ends with its account made. -/
theorem ensures_runOwner :
    Ensures (OtherSteps owner registration Panics)
      (Ready owner registration Panics)
      (runOwner owner cancellation kind manager metadata)
      fun _ world => ∃ completion,
        Accounted owner registration completion world := by
  refine .bind ensures_openChannels fun _ =>
    .bind (ensures_driven cancellation kind manager metadata)
      fun completion => ?_
  intro surroundings respects world ⟨promise, underway⟩
  have settled := Ensures.bind ensures_note (fun _ =>
    .bind (ensures_react cancellation) fun _ =>
      ensures_settle (reported_blocked promise) promise.finished)
    surroundings respects world underway
  exact ⟨completion, settled⟩

end Account

/-! ### A small task -/

/-- The owner of a small task. -/
def smallOwner : SubmitExecutionOwner :=
  { clientRequestId := "request"
    taskId := "task"
    request := .ofProgram "request" "/bin/true"
    signal := 0 }

/-- The world in which a daemon with one slot starts its first owner. -/
def smallWorld : OwnerWorld :=
  { trace := []
    now := 0
    shared :=
      { coordinator := ((Coordinator.new ⟨1, Nat.one_pos⟩).register "task").2
        latch := .unset
        announced := none
        rest :=
          { registry :=
              (Operation.reserveSubmitWith smallOwner.request "task").apply 0
                (.new ⟨1, Nat.one_pos⟩)
            poisoned := false
            capacity := .new ⟨1, Nat.one_pos⟩
            phase := .waiting
            log := [] } } }

theorem ready_smallWorld (Panics : Prop) :
    Ready smallOwner 0 Panics smallWorld where
  orderly :=
    { invariant := (Invariant.new 0 _).apply le_rfl
        (.reserveSubmitWith smallOwner.request "task")
      allocated := by decide }
  reserved := rfl
  registered := rfl
  usable _ := rfl

theorem respects_undisturbed (owner : SubmitExecutionOwner)
    (registration : ℕ) (Panics : Prop)
    (answers : Answers (TaskShared OwnerShared)) :
    Respects (.undisturbed answers) (OtherSteps owner registration Panics) where
  elapse _ delay := .single (.elapse delay)
  interfere _ := .refl
  resume _ := .refl

end Task
end TaskCage
