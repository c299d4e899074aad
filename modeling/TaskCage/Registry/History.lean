import TaskCage.Registry.Steps

/-!
# Registry histories

A history is a sequence of locked sections with the time that passes between
them.  Whatever the callers do, every state of a history satisfies the
representation invariant.
-/

namespace TaskCage
namespace Registry

/-- An operation and the time that passes before its first clock reading; the
clock of a history is monotone by construction. -/
structure TimedOperation where
  elapsed : ℕ
  operation : Operation

/-- A registry together with its last clock reading. -/
structure Moment where
  clock : ℕ
  state : RegistryState

namespace Moment

/-- A fresh registry. -/
def start (clock : ℕ) (settings : TaskRegistrySettings) : Moment :=
  ⟨clock, .new settings⟩

/-- Perform one timed operation. -/
def perform (moment : Moment) (timed : TimedOperation) : Moment :=
  let now := moment.clock + timed.elapsed
  ⟨timed.operation.lastReading now, timed.operation.apply now moment.state⟩

/-- Perform a history. -/
def performAll (moment : Moment) (history : List TimedOperation) : Moment :=
  history.foldl perform moment

@[simp] theorem performAll_nil (moment : Moment) :
    moment.performAll [] = moment :=
  rfl

@[simp] theorem performAll_cons
    (moment : Moment) (timed : TimedOperation)
    (history : List TimedOperation) :
    moment.performAll (timed :: history) =
      (moment.perform timed).performAll history :=
  rfl

/-- Histories keep the invariant. -/
theorem invariant_performAll
    (moment : Moment) (invariant : Invariant moment.clock moment.state)
    (history : List TimedOperation) :
    Invariant (moment.performAll history).clock
      (moment.performAll history).state := by
  induction history generalizing moment with
  | nil => exact invariant
  | cons timed history inductionHypothesis =>
      exact inductionHypothesis _
        (invariant.apply (Nat.le_add_right _ _) timed.operation)

/-- Histories keep the configuration. -/
theorem settings_performAll
    (moment : Moment) (invariant : Invariant moment.clock moment.state)
    (history : List TimedOperation) :
    (moment.performAll history).state.settings = moment.state.settings := by
  induction history generalizing moment with
  | nil => rfl
  | cons timed history inductionHypothesis =>
      have kept := invariant.apply
        (Nat.le_add_right moment.clock timed.elapsed) timed.operation
      refine (inductionHypothesis (moment.perform timed) kept).trans ?_
      cases Update.of_apply (moment.clock + timed.elapsed) moment.state
          timed.operation with
      | inl unchanged => exact congrArg RegistryState.settings unchanged
      | inr update =>
          exact update.settings_eq.trans (invariant.purged _).settings_eq

end Moment

/-- The representation invariant of a registry configured for `maxTasks`: how
its containers fit together, without reference to a clock. -/
structure Representation (maxTasks : ℕ) (state : RegistryState) : Prop where
  /-- `requests` and `task_requests` are mutually inverse. -/
  inverse : ∀ clientRequestId taskId,
    (state.requests.lookup clientRequestId).map RequestRecord.taskId =
        some taskId ↔
      state.taskRequests.lookup taskId = some clientRequestId
  /-- Every key of `tasks` is a key of `task_requests`. -/
  tasks_indexed : ∀ taskId, taskId ∈ state.tasks → taskId ∈ state.taskRequests
  /-- A running record has effective limits and a cancellation handle. -/
  running_complete : ∀ taskId record,
    state.tasks.lookup taskId = some record →
    record.snapshot.isFinished = false →
    record.effectiveLimits.isSome ∧ record.cancellation.isSome
  /-- The queue lists exactly the finished records, with their finish times. -/
  queue_exact : ∀ taskId finishedMonotonic,
    ⟨taskId, finishedMonotonic⟩ ∈ state.finishedExpirations ↔
    ∃ record, state.tasks.lookup taskId = some record ∧
      record.snapshot.isFinished = true ∧
      record.finishedMonotonic = some finishedMonotonic
  /-- A finished record has a finish time, so it is listed. -/
  finished_stamped : ∀ taskId record,
    state.tasks.lookup taskId = some record →
    record.snapshot.isFinished = true → record.finishedMonotonic.isSome
  /-- No task is listed twice. -/
  queue_once : (state.finishedExpirations.map FinishedExpiration.taskId).Nodup
  /-- The finish times of the queue are nondecreasing. -/
  queue_ordered : state.finishedExpirations.Pairwise fun first second =>
    first.finishedMonotonic ≤ second.finishedMonotonic
  /-- The registry never holds more requests than it is configured for. -/
  bounded : state.requests.keys.card ≤ maxTasks
  /-- No debug assertion has failed. -/
  assertions : state.assertionFailed = false

theorem Invariant.representation
    {clock : ℕ} {state : RegistryState}
    (invariant : Invariant clock state) :
    Representation state.settings.maxTasks state where
  inverse := by
    intro clientRequestId taskId
    rw [Option.map_eq_some_iff]
    exact invariant.requests_iff clientRequestId taskId
  tasks_indexed := by
    intro taskId member
    obtain ⟨record, stored⟩ := Finmap.mem_iff.mp member
    exact Finmap.mem_iff.mpr (invariant.tasks_requested _ _ stored)
  running_complete := fun taskId record stored =>
    (invariant.records_wellFormed taskId record stored).running_complete
  queue_exact := by
    intro taskId finishedMonotonic
    rw [invariant.queue_iff]
    refine exists_congr fun record => and_congr_right fun stored => ?_
    rw [(invariant.records_wellFormed _ _ stored).stamped]
    refine ⟨fun stamp => ⟨by simp [stamp], stamp⟩, And.right⟩
  finished_stamped := by
    intro taskId record stored finished
    rw [← (invariant.records_wellFormed _ _ stored).stamped]
    exact finished
  queue_once := invariant.queue_nodup
  queue_ordered := invariant.queue_sorted
  bounded := invariant.requests_bounded
  assertions := invariant.assertions_hold

/-- Every state that a registry reaches from its creation, by any finite
sequence of operations and under any monotone clock, satisfies the
representation invariant. -/
theorem representation_of_history
    (settings : TaskRegistrySettings) (clock : ℕ)
    (history : List TimedOperation) :
    Representation settings.maxTasks
      ((Moment.start clock settings).performAll history).state := by
  have invariant :=
    (Moment.start clock settings).invariant_performAll
      (Invariant.new clock settings) history
  have settingsEq :=
    (Moment.start clock settings).settings_performAll
      (Invariant.new clock settings) history
  have representation := invariant.representation
  rw [settingsEq] at representation
  exact representation

end Registry
end TaskCage
