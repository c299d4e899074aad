import TaskCage.Core.Observation
import TaskCage.Executor.Lifecycle
import TaskCage.Task.Permits

/-!
# Those who wait

The six places where a task waits for another: for the observation of a submit,
for the end of a cancelled task, for a cancellation, for the slots to be free,
for a fail-stop, and for the last active execution.  Each registers before it
looks, and each publisher notifies after it has changed what is looked at.
-/

namespace TaskCage
namespace Task

open Executor FailStop

/-! ### A slot for a value -/

/-- Where a publisher of a value is. -/
inductive PublishPoint (Value : Type) where
  | publishing (value : Value)
  | notifying
  | returned

/-- A value behind a lock: it is stored, and those who wait are notified. -/
def slotChannel (Value : Type) :
    Channel (Option Value) (PublishPoint Value) Unit Value where
  start := none
  check value := value
  enters
    | .publishing _ => true
    | .notifying => false
    | .returned => false
  act _ point _ :=
    match point with
    | .publishing value => some (.notifying, some value)
    | .notifying => none
    | .returned => none
  notifies
    | .publishing _ => none
    | .notifying => some .returned
    | .returned => none
  one := false

/-- `SubmitSignal`: `publish` and `SubmitWaiter::wait`. -/
def submitSignal :
    Channel (Option SubmitObservation) (PublishPoint SubmitObservation) Unit
      SubmitObservation :=
  slotChannel SubmitObservation

/-- The end of a task that was cancelled: `complete` and
`CancellationWaiter::wait`. -/
def finishedSignal :
    Channel (Option TaskSnapshot) (PublishPoint TaskSnapshot) Unit
      TaskSnapshot :=
  slotChannel TaskSnapshot

theorem announces_slotChannel (Value : Type) :
    (slotChannel Value).Announces where
  busy choice point state next after acts := by
    cases point with
    | publishing value => rfl
    | notifying => cases acts
    | returned => cases acts
  owes choice point state next after acts before holds := by
    cases point with
    | publishing value =>
        cases acts
        rfl
    | notifying => cases acts
    | returned => cases acts

/-! ### Cancellation -/

/-- Where somebody is that sets the latch. -/
inductive LatchPoint where
  | requestingCancel
  | observingTimeout
  | closing
  | notifying
  | returned
deriving DecidableEq

/-- The latch of a running task: `request_cancel` and the others that set it,
and `CancellationRuntime::cancelled`. -/
def cancelSignal : Channel TerminalTriggerLatch LatchPoint Unit Unit where
  start := .unset
  check latch :=
    if latch.snapshot.first = some .cancelled then some () else none
  enters point :=
    point = .requestingCancel || point = .observingTimeout || point = .closing
  act _ point latch :=
    match point with
    | .requestingCancel =>
        let (won, latch) := latch.observe .cancelled
        some (if won then .notifying else .returned, latch)
    | .observingTimeout => some (.returned, (latch.observe .timedOut).2)
    | .closing => some (.returned, latch.closeWithoutControl.2)
    | .notifying => none
    | .returned => none
  notifies point := if point = .notifying then some .returned else none
  one := false

theorem announces_cancelSignal : cancelSignal.Announces where
  busy choice point latch next after acts := by
    cases point with
    | notifying => cases acts
    | requestingCancel => rfl
    | observingTimeout => rfl
    | closing => rfl
    | returned => rfl
  owes choice point latch next after acts before holds := by
    cases point with
    | requestingCancel =>
        cases latch with
        | unset =>
            cases acts
            rfl
        | timedOut | cancelled | closed =>
            cases acts
            exact absurd before holds
    | observingTimeout =>
        cases latch with
        | cancelled => cases before
        | unset | timedOut | closed =>
            cases acts
            exact absurd rfl holds
    | closing =>
        cases latch with
        | cancelled => cases before
        | unset | timedOut | closed =>
            cases acts
            exact absurd rfl holds
    | notifying => cases acts
    | returned => cases acts

/-! ### The fail-stop coordinator -/

/-- What those who wait at the coordinator are told. -/
inductive CoordinatorNotice where
  | activated
  | activeChanged
deriving DecidableEq

/-- Where a caller of the coordinator is.  Each call changes the locked state
once; the gate of `commit_start` runs under the lock. -/
inductive CoordinatorPoint where
  | activating (report : CleanupFailureReport)
  | registering (taskId : String)
  | committing (taskId : String) (succeeded : Bool)
  | completing (taskId : String)
  | notifying (notice : CoordinatorNotice)
  | returned
deriving DecidableEq

/-- The locked part of a call, at a time. -/
def CoordinatorPoint.act (now : ℕ) (point : CoordinatorPoint)
    (coordinator : Coordinator) : Option (CoordinatorPoint × Coordinator) :=
  match point with
  | .activating report =>
      some (if coordinator.isFailStopping then .returned
        else .notifying .activated, (coordinator.activate now report).2)
  | .registering taskId =>
      some (.returned, if coordinator.isFailStopping then coordinator
        else (coordinator.register taskId).2)
  | .committing taskId succeeded =>
      match coordinator.beginCommit taskId with
      | (.ok _, begun) => some (.returned, begun.endCommit taskId succeeded)
      | (.error _, same) => some (.returned, same)
  | .completing taskId =>
      let (removed, coordinator) := coordinator.complete taskId
      some (if removed then .notifying .activeChanged else .returned,
        coordinator)
  | .notifying _ => none
  | .returned => none

/-- The coordinator with those who wait for one of its notices.  Other notices
are calls that change nothing for them. -/
def coordinatorChannel {Value : Type} (settings : FailStopSettings)
    (notice : CoordinatorNotice) (one : Bool)
    (check : Coordinator → Option Value) :
    Channel Coordinator CoordinatorPoint ℕ Value where
  start := .new settings
  check := check
  enters
    | .notifying _ => false
    | .returned => false
    | .activating _ => true
    | .registering _ => true
    | .committing _ _ => true
    | .completing _ => true
  act now point coordinator :=
    match point with
    | .notifying found =>
        if found = notice then none else some (.returned, coordinator)
    | point => point.act now coordinator
  notifies point := if point = .notifying notice then some .returned else none
  one := one

/-- `activate` and `FailStopCoordinator::activated`. -/
def activatedSignal (settings : FailStopSettings) :
    Channel Coordinator CoordinatorPoint ℕ MonotonicDeadline :=
  coordinatorChannel settings .activated false Coordinator.deadline

/-- `complete` and `FailStopCoordinator::wait_until_inactive`, which may also
give up at its deadline.  The server calls it from one task only. -/
def inactiveSignal (settings : FailStopSettings) :
    Channel Coordinator CoordinatorPoint ℕ Unit :=
  coordinatorChannel settings .activeChanged true fun coordinator =>
    if coordinator.active = ∅ then some () else none

section Coordinator

variable {now : ℕ} {point next : CoordinatorPoint}
variable {coordinator after : Coordinator}

/-- It suffices that the calls which establish the condition give the notice. -/
theorem announces_coordinatorChannel {Value : Type}
    {settings : FailStopSettings} {notice : CoordinatorNotice} {one : Bool}
    {check : Coordinator → Option Value}
    (owes : ∀ now point coordinator next after,
      CoordinatorPoint.act now point coordinator = some (next, after) →
      check coordinator = none → check after ≠ none →
      next = .notifying notice) :
    (coordinatorChannel settings notice one check).Announces where
  busy now point coordinator next after acts := by
    cases point with
    | notifying found =>
        simp only [coordinatorChannel] at acts ⊢
        split at acts
        · cases acts
        · rename_i other
          rw [if_neg]
          intro same
          cases same
          exact other rfl
    | activating | registering | committing | completing | returned => rfl
  owes now point coordinator next after acts before holds := by
    have notifying : next = .notifying notice := by
      cases point with
      | notifying found =>
          simp only [coordinatorChannel] at acts
          split at acts
          · cases acts
          · cases acts
            exact absurd before holds
      | activating report =>
          exact owes now (.activating report) coordinator next after acts before
            holds
      | registering taskId =>
          exact owes now (.registering taskId) coordinator next after acts before
            holds
      | committing taskId succeeded =>
          exact owes now (.committing taskId succeeded) coordinator next after acts before
            holds
      | completing taskId =>
          exact owes now (.completing taskId) coordinator next after acts before
            holds
      | returned => cases acts
    rw [notifying]
    simp [coordinatorChannel]

/-- Only an activation sets the deadline. -/
theorem notifying_of_deadline
    (acts : point.act now coordinator = some (next, after))
    (healthy : coordinator.deadline = none) (stopping : after.deadline ≠ none) :
    next = .notifying .activated := by
  have same : after.phase = coordinator.phase → False := by
    intro samePhase
    rw [Coordinator.deadline, samePhase] at stopping
    exact stopping healthy
  cases point with
  | activating report =>
      have notStopping : coordinator.isFailStopping = false := by
        rw [← Coordinator.deadline_isSome, healthy]
        rfl
      rw [CoordinatorPoint.act, notStopping] at acts
      cases acts
      rfl
  | registering taskId =>
      rw [CoordinatorPoint.act] at acts
      cases acts
      split at same
      · exact absurd rfl same
      · exact absurd (Coordinator.phase_register taskId) same
  | committing taskId succeeded =>
      have begun : (coordinator.beginCommit taskId).2.phase =
          coordinator.phase := Coordinator.phase_beginCommit taskId
      rw [CoordinatorPoint.act] at acts
      split at acts
      · rename_i entry middle found
        rw [found] at begun
        cases acts
        exact absurd ((Coordinator.phase_endCommit taskId succeeded).trans begun)
          same
      · rename_i error middle found
        rw [found] at begun
        cases acts
        exact absurd begun same
  | completing taskId =>
      cases acts
      exact absurd rfl same
  | notifying found => cases acts
  | returned => cases acts

/-- Only the end of an execution empties the table of the active ones. -/
theorem notifying_of_inactive
    (acts : point.act now coordinator = some (next, after))
    (busy : coordinator.active ≠ ∅) (idle : after.active = ∅) :
    next = .notifying .activeChanged := by
  have kept : coordinator.Progress after → False := by
    intro progress
    apply busy
    apply Finmap.ext_lookup
    intro taskId
    have registered := progress.registered taskId
    rw [idle, Finmap.lookup_empty] at registered
    rw [Finmap.lookup_empty]
    exact Option.map_eq_none_iff.mp registered.symm
  cases point with
  | activating report =>
      cases acts
      exact absurd (.activate now report) kept
  | registering taskId =>
      rw [CoordinatorPoint.act] at acts
      cases acts
      split at idle
      · exact absurd idle busy
      · unfold Coordinator.register at idle
        split at idle
        · exact absurd idle busy
        · have found := congrArg (Finmap.lookup taskId) idle
          rw [Finmap.lookup_insert] at found
          cases found
  | committing taskId succeeded =>
      have begun : coordinator.Progress (coordinator.beginCommit taskId).2 :=
        .beginCommit taskId
      rw [CoordinatorPoint.act] at acts
      split at acts
      · rename_i entry middle found
        rw [found] at begun
        cases acts
        exact absurd (begun.trans (.endCommit taskId succeeded)) kept
      · rename_i error middle found
        rw [found] at begun
        cases acts
        exact absurd begun kept
  | completing taskId =>
      by_cases active : taskId ∈ coordinator.active
      · simp only [CoordinatorPoint.act, Coordinator.complete, active,
          decide_true, if_true, Option.some_inj, Prod.mk.injEq] at acts
        exact acts.1.symm
      · cases acts
        apply absurd _ busy
        apply Finmap.ext_lookup
        intro other
        have gone := congrArg (Finmap.lookup other) idle
        by_cases same : other = taskId
        · subst same
          rw [Finmap.lookup_eq_none.mpr active, Finmap.lookup_empty]
        · change (coordinator.active.erase taskId).lookup other = _ at gone
          rwa [Finmap.lookup_erase_ne same] at gone
  | notifying found => cases acts
  | returned => cases acts

variable (settings : FailStopSettings)

theorem announces_activatedSignal :
    (activatedSignal settings).Announces := by
  apply announces_coordinatorChannel
  intro now point coordinator next after acts before holds
  exact notifying_of_deadline acts before holds

theorem announces_inactiveSignal :
    (inactiveSignal settings).Announces := by
  apply announces_coordinatorChannel
  intro now point coordinator next after acts before holds
  have busy : coordinator.active ≠ ∅ := by
    intro empty
    rw [if_pos empty] at before
    cases before
  have idle : after.active = ∅ := by
    by_contra active
    rw [if_neg active] at holds
    exact holds rfl
  exact notifying_of_inactive acts busy idle

end Coordinator

/-- None of the six waits misses what it waits for, and each returns only what
was published. -/
theorem waits_neverMissed (settings : FailStopSettings) (maximum : UInt32) :
    submitSignal.NeverMissed ∧ finishedSignal.NeverMissed ∧
      cancelSignal.NeverMissed ∧ (capacityChannel maximum).NeverMissed ∧
      (activatedSignal settings).NeverMissed ∧
      (inactiveSignal settings).NeverMissed :=
  ⟨(announces_slotChannel SubmitObservation).neverMissed,
    (announces_slotChannel TaskSnapshot).neverMissed,
    announces_cancelSignal.neverMissed,
    (announces_capacityChannel maximum).neverMissed,
    (announces_activatedSignal settings).neverMissed,
    (announces_inactiveSignal settings).neverMissed⟩

end Task
end TaskCage
