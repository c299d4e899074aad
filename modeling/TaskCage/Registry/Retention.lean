import TaskCage.Registry.History

/-!
# Retention of finished tasks

A finished task stays visible, with the same snapshot, at every operation up to
its retention after the finish time, and is absent from all views at every
later one.  The argument follows one reservation through a history: while its
retention lasts no update touches it, and once it is gone its allocation never
comes back.
-/

namespace TaskCage
namespace Registry

/-- A finished task with the request it was reserved by. -/
structure FinishedTask where
  clientRequestId : String
  request : RequestRecord
  record : TaskRecord
  result : TaskResult
  finishedMonotonic : ℕ
  snapshot_eq : record.snapshot = .finished result
  stamped : record.finishedMonotonic = some finishedMonotonic

namespace FinishedTask

/-- The registry holds the task. -/
structure StoredIn (task : FinishedTask) (state : RegistryState) : Prop where
  reserved : state.requests.lookup task.clientRequestId = some task.request
  stored : state.tasks.lookup task.request.taskId = some task.record

/-- No request has the reservation of the task any more, and none will: the
reservation is an earlier allocation. -/
structure GoneFrom (task : FinishedTask) (state : RegistryState) : Prop where
  absent : ∀ clientRequestId request,
    state.requests.lookup clientRequestId = some request →
    request.reservation ≠ task.request.reservation
  allocated : task.request.reservation < state.allocatedSignals

/-- Another reservation uses the request id or the task id of the task. -/
def ReservedAfresh (task : FinishedTask) (state : RegistryState) : Prop :=
  ∃ clientRequestId request,
    state.requests.lookup clientRequestId = some request ∧
    request.reservation ≠ task.request.reservation ∧
    (clientRequestId = task.clientRequestId ∨
      request.taskId = task.request.taskId)

/-- All views at an instant report the task. -/
structure VisibleAt (task : FinishedTask) (now : ℕ) (state : RegistryState) :
    Prop where
  snapshot : (state.snapshot now task.request.taskId).1 =
    some (.finished task.result)
  byClientRequestId :
    (state.snapshotByClientRequestId now task.clientRequestId).1 =
      some (.finished task.result)
  existing : ∀ submit : ValidatedSubmit,
    submit.clientRequestId = task.clientRequestId →
    submit.identity = task.request.identity →
    (state.existingSubmit now submit).1 =
      .ok (some ⟨task.request.taskId, task.request.reservation⟩)
  requested : (state.hasClientRequestId now task.clientRequestId).1 = true

/-- All views at an instant report nothing, and a submission can reserve the
request id and the task id again while the registry has room. -/
structure AbsentAt (task : FinishedTask) (now : ℕ) (state : RegistryState) :
    Prop where
  snapshot : (state.snapshot now task.request.taskId).1 = none
  byClientRequestId :
    (state.snapshotByClientRequestId now task.clientRequestId).1 = none
  existing : ∀ submit : ValidatedSubmit,
    submit.clientRequestId = task.clientRequestId →
    (state.existingSubmit now submit).1 = .ok none
  requested : (state.hasClientRequestId now task.clientRequestId).1 = false
  reservable : ∀ submit : ValidatedSubmit,
    submit.clientRequestId = task.clientRequestId →
    (state.purgeExpired now).requests.keys.card < state.settings.maxTasks →
    ∃ owner, (state.reserveSubmitWith now submit task.request.taskId).1 =
      .ok (.owner owner) ∧
      owner.clientRequestId = task.clientRequestId ∧
      owner.taskId = task.request.taskId

variable {clock now : ℕ} {state : RegistryState} {task : FinishedTask}

theorem StoredIn.taskExpired_iff
    (stored : task.StoredIn state) :
    state.taskExpired now task.request.taskId ↔
      task.finishedMonotonic + minFinishedRetention < now := by
  constructor
  · rintro ⟨record, finishedMonotonic, found, stamp, past⟩
    rw [stored.stored] at found
    cases found
    rw [task.stamped] at stamp
    cases stamp
    exact past
  · intro past
    exact ⟨task.record, task.finishedMonotonic, stored.stored, task.stamped,
      past⟩

/-- A purge within the retention keeps the task. -/
theorem StoredIn.purgeExpired
    (stored : task.StoredIn state) (invariant : Invariant clock state)
    (current : now ≤ task.finishedMonotonic + minFinishedRetention) :
    task.StoredIn (state.purgeExpired now) := by
  have purged := invariant.purged now
  have kept : ¬ state.taskExpired now task.request.taskId := by
    rw [stored.taskExpired_iff]
    omega
  exact ⟨(purged.requests_iff _ _).mpr ⟨stored.reserved, kept⟩,
    (purged.tasks_iff _ _).mpr ⟨stored.stored, kept⟩⟩

/-- A purge after the retention removes the reservation of the task. -/
theorem StoredIn.gone_of_purgeExpired
    (stored : task.StoredIn state) (invariant : Invariant clock state)
    (past : task.finishedMonotonic + minFinishedRetention < now) :
    task.GoneFrom (state.purgeExpired now) := by
  have purged := invariant.purged now
  refine ⟨?_, ?_⟩
  · intro clientRequestId request lookup same
    obtain ⟨reserved, kept⟩ := (purged.requests_iff _ _).mp lookup
    have keyEq := invariant.reservations_injective _ _ _ _ reserved
      stored.reserved same
    rw [keyEq, stored.reserved] at reserved
    cases reserved
    exact kept (stored.taskExpired_iff.mpr past)
  · rw [purged.allocatedSignals_eq]
    exact invariant.reservations_allocated _ _ stored.reserved

variable {Acts : SubmitExecutionOwner → Prop} {after : RegistryState}
variable {reading : ℕ}

/-- No update of a locked section touches a finished task. -/
theorem StoredIn.update (stored : task.StoredIn state)
    (update : Update reading state Acts after) :
    task.StoredIn after := by
  cases update with
  | unchanged => exact stored
  | refused => exact ⟨stored.reserved, stored.stored⟩
  | reserved request candidate newRequest newTask room =>
      refine ⟨Table.lookup_insert_eq_some_iff.mpr (.inr ⟨?_, stored.reserved⟩),
        stored.stored⟩
      intro equal
      have reserved := stored.reserved
      rw [equal] at reserved
      exact absurd (newRequest.symm.trans reserved) (by simp)
  | running owner request submittedAt startedAt limits cancellation acting
      holds unpublished =>
      refine ⟨stored.reserved,
        Table.lookup_insert_eq_some_iff.mpr (.inr ⟨?_, stored.stored⟩)⟩
      intro equal
      have found := stored.stored
      rw [equal, unpublished] at found
      simp at found
  | finished owner request result limits acting holds named unfinished =>
      refine ⟨stored.reserved,
        Table.lookup_insert_eq_some_iff.mpr (.inr ⟨?_, stored.stored⟩)⟩
      intro equal
      have found := stored.stored
      rw [equal] at found
      have stamp := task.stamped
      rw [unfinished _ found] at stamp
      simp at stamp
  | released owner request acting holds unpublished after removed =>
      subst removed
      have differentTask : task.request.taskId ≠ owner.taskId := by
        intro equal
        have found := stored.stored
        rw [equal, unpublished] at found
        simp at found
      have differentRequest :
          task.clientRequestId ≠ owner.clientRequestId := by
        intro equal
        have reserved := stored.reserved
        rw [equal, holds.reserved] at reserved
        cases reserved
        exact differentTask holds.taskId_eq
      exact ⟨Table.lookup_erase_eq_some_iff.mpr
        ⟨differentRequest, stored.reserved⟩, stored.stored⟩

/-- A purge brings no reservation back. -/
theorem GoneFrom.purgeExpired
    (gone : task.GoneFrom state) (invariant : Invariant clock state)
    (now : ℕ) :
    task.GoneFrom (state.purgeExpired now) := by
  have purged := invariant.purged now
  refine ⟨?_, ?_⟩
  · intro clientRequestId request lookup
    exact gone.absent _ _ ((purged.requests_iff _ _).mp lookup).1
  · rw [purged.allocatedSignals_eq]
    exact gone.allocated

/-- No update brings a reservation back. -/
theorem GoneFrom.update (gone : task.GoneFrom state)
    (update : Update reading state Acts after) :
    task.GoneFrom after := by
  cases update with
  | reserved request candidate newRequest newTask room =>
      refine ⟨?_, gone.allocated.trans (Nat.lt_succ_self _)⟩
      intro clientRequestId found lookup
      rcases Table.lookup_insert_eq_some_iff.mp lookup with
        ⟨-, rfl⟩ | ⟨-, old⟩
      · exact gone.allocated.ne'
      · exact gone.absent _ _ old
  | released owner request acting holds unpublished after removed =>
      subst removed
      refine ⟨?_, gone.allocated⟩
      intro clientRequestId found lookup
      exact gone.absent _ _ (Table.lookup_erase_eq_some_iff.mp lookup).2
  | unchanged => exact gone
  | refused | running | finished => exact ⟨gone.absent, gone.allocated⟩

end FinishedTask

/-- At a reading of the clock, a finished task is either still stored, and then
it is so unless its retention has ended by that reading, or gone. -/
def FinishedTask.FollowedAt (task : FinishedTask) (moment : Moment) : Prop :=
  task.StoredIn moment.state ∨
    task.GoneFrom moment.state ∧
      task.finishedMonotonic + minFinishedRetention < moment.clock

namespace Moment

variable {moment : Moment} {task : FinishedTask}

/-- One operation either keeps a finished task or comes after its
retention. -/
theorem followed_perform
    (invariant : Invariant moment.clock moment.state)
    (followed : task.FollowedAt moment) (timed : TimedOperation) :
    task.FollowedAt (moment.perform timed) := by
  set now := moment.clock + timed.elapsed with nowEq
  have progress : now ≤ timed.operation.lastReading now := by
    cases timed.operation <;> simp [Operation.lastReading]
  rcases Update.of_apply now moment.state timed.operation
    with unchanged | update
  · have stateEq : (moment.perform timed).state = moment.state := unchanged
    have clockLe : moment.clock ≤ (moment.perform timed).clock :=
      (Nat.le_add_right _ _).trans progress
    unfold FinishedTask.FollowedAt
    rw [stateEq]
    exact followed.imp_right fun gone => ⟨gone.1, gone.2.trans_le clockLe⟩
  · rcases followed with stored | ⟨gone, past⟩
    · by_cases current : now ≤ task.finishedMonotonic + minFinishedRetention
      · exact .inl ((stored.purgeExpired invariant current).update update)
      · have past := not_le.mp current
        exact .inr ⟨(stored.gone_of_purgeExpired invariant past).update update,
          past.trans_le progress⟩
    · refine .inr ⟨(gone.purgeExpired invariant now).update update, ?_⟩
      exact past.trans_le ((Nat.le_add_right _ _).trans progress)

/-- A history either keeps a finished task or outlasts its retention. -/
theorem followed_performAll
    (invariant : Invariant moment.clock moment.state)
    (followed : task.FollowedAt moment) (history : List TimedOperation) :
    task.FollowedAt (moment.performAll history) := by
  induction history generalizing moment with
  | nil => exact followed
  | cons timed history inductionHypothesis =>
      exact inductionHypothesis
        (invariant.apply (Nat.le_add_right _ _) timed.operation)
        (followed_perform invariant followed timed)

end Moment

namespace FinishedTask

variable {now : ℕ} {moment : Moment} {task : FinishedTask}
variable {state : RegistryState}

/-- The views of a task that a purge keeps. -/
theorem visibleAt_of_storedIn_purgeExpired
    (stored : task.StoredIn (state.purgeExpired now)) :
    task.VisibleAt now state where
  snapshot := by
    simp [RegistryState.snapshot, stored.stored, task.snapshot_eq]
  byClientRequestId := by
    simp [RegistryState.snapshotByClientRequestId, stored.reserved,
      stored.stored, task.snapshot_eq]
  existing := by
    intro submit sameKey sameIdentity
    have reserved := stored.reserved
    rw [← sameKey] at reserved
    simp [RegistryState.existingSubmit, reserved, sameIdentity]
  requested := by
    simp [RegistryState.hasClientRequestId, Finmap.mem_iff, stored.reserved]

/-- The views of a task whose two ids a purge leaves unused. -/
theorem absentAt_of_unused {clock : ℕ} (invariant : Invariant clock state)
    (requestUnused :
      (state.purgeExpired now).requests.lookup task.clientRequestId = none)
    (taskUnused :
      (state.purgeExpired now).taskRequests.lookup task.request.taskId = none) :
    task.AbsentAt now state := by
  have unpublished :
      (state.purgeExpired now).tasks.lookup task.request.taskId = none := by
    rw [Option.eq_none_iff_forall_ne_some]
    intro record stored
    obtain ⟨clientRequestId, requested⟩ :=
      (invariant.purgeExpired now).tasks_requested _ _ stored
    rw [taskUnused] at requested
    simp at requested
  refine ⟨?_, ?_, ?_, ?_, ?_⟩
  · simp [RegistryState.snapshot, unpublished]
  · simp [RegistryState.snapshotByClientRequestId, requestUnused]
  · intro submit sameKey
    rw [← sameKey] at requestUnused
    simp [RegistryState.existingSubmit, requestUnused]
  · simp [RegistryState.hasClientRequestId, ← Finmap.lookup_eq_none,
      requestUnused]
  · intro submit sameKey room
    have open_ : ¬ (state.purgeExpired now).settings.maxTasks ≤
        (state.purgeExpired now).requests.keys.card := by
      rw [(invariant.purged now).settings_eq]
      exact not_le.mpr room
    have free : task.request.taskId ∉ (state.purgeExpired now).taskRequests :=
      Finmap.lookup_eq_none.mp taskUnused
    rw [← sameKey] at requestUnused
    let drawn : RegistryState :=
      { state.purgeExpired now with
        drawnTaskIds := (state.purgeExpired now).drawnTaskIds + 1 }
    refine ⟨(drawn.insertReservation submit task.request.taskId).1, ?_,
      sameKey, rfl⟩
    simp only [RegistryState.reserveSubmitWith, requestUnused, open_, free,
      if_false]
    rfl

/-- Past the retention, neither id of the task is used by the purged state
unless another reservation took it. -/
theorem unused_of_past
    (invariant : Invariant moment.clock moment.state)
    (followed : task.FollowedAt moment)
    (past : task.finishedMonotonic + minFinishedRetention < now)
    (fresh : ¬ task.ReservedAfresh moment.state)
    {clientRequestId : String} {request : RequestRecord}
    (used : clientRequestId = task.clientRequestId ∨
      request.taskId = task.request.taskId) :
    (moment.state.purgeExpired now).requests.lookup clientRequestId ≠
      some request := by
  intro lookup
  have gone : task.GoneFrom (moment.state.purgeExpired now) := by
    rcases followed with stored | ⟨gone, -⟩
    · exact stored.gone_of_purgeExpired invariant past
    · exact gone.purgeExpired invariant now
  refine fresh ⟨clientRequestId, request, ?_, gone.absent _ _ lookup, used⟩
  exact ((invariant.purged now).requests_iff _ _).mp lookup |>.1

end FinishedTask

/-- Retention of finished tasks, over every history and every monotone clock.
A task that is finished after `before` is, whatever happens in `later`, still
the same or gone; it is visible in every view at every reading within its
retention, and in no view at a later reading unless one of its ids has been
reserved afresh.  A task without a finished snapshot survives every purge. -/
theorem retention_of_history
    (settings : TaskRegistrySettings) (clock : ℕ)
    (before later : List TimedOperation) (now : ℕ)
    (ordered : ((Moment.start clock settings).performAll
      (before ++ later)).clock ≤ now) :
    let middle := (Moment.start clock settings).performAll before
    let after := (Moment.start clock settings).performAll (before ++ later)
    (∀ task : FinishedTask, task.StoredIn middle.state →
      (task.StoredIn after.state ∨ task.GoneFrom after.state) ∧
      (now ≤ task.finishedMonotonic + minFinishedRetention →
        task.VisibleAt now after.state) ∧
      (task.finishedMonotonic + minFinishedRetention < now →
        ¬ task.ReservedAfresh after.state → task.AbsentAt now after.state)) ∧
    (∀ clientRequestId request,
      after.state.requests.lookup clientRequestId = some request →
      (∀ record, after.state.tasks.lookup request.taskId = some record →
        record.snapshot.isFinished = false) →
      (after.state.purgeExpired now).requests.lookup clientRequestId =
          some request ∧
        (after.state.purgeExpired now).tasks.lookup request.taskId =
          after.state.tasks.lookup request.taskId) := by
  have middleInvariant :=
    (Moment.start clock settings).invariant_performAll
      (Invariant.new clock settings) before
  have afterInvariant :=
    (Moment.start clock settings).invariant_performAll
      (Invariant.new clock settings) (before ++ later)
  have afterEq :
      (Moment.start clock settings).performAll (before ++ later) =
        ((Moment.start clock settings).performAll before).performAll later :=
    List.foldl_append
  intro middle after
  refine ⟨?_, ?_⟩
  · intro task stored
    have followed : task.FollowedAt after := by
      have startFollowed : task.FollowedAt middle := .inl stored
      have final := Moment.followed_performAll middleInvariant startFollowed
        later
      rwa [← afterEq] at final
    refine ⟨followed.imp_right And.left, ?_, ?_⟩
    · intro current
      rcases followed with kept | ⟨-, past⟩
      · exact FinishedTask.visibleAt_of_storedIn_purgeExpired
          (kept.purgeExpired afterInvariant current)
      · exact absurd (past.trans_le ordered) (not_lt.mpr current)
    · intro past fresh
      refine FinishedTask.absentAt_of_unused afterInvariant ?_ ?_
      · rw [Option.eq_none_iff_forall_ne_some]
        intro request
        exact FinishedTask.unused_of_past afterInvariant followed past fresh
          (.inl rfl)
      · rw [Option.eq_none_iff_forall_ne_some]
        intro clientRequestId requested
        obtain ⟨request, reserved, sameTask⟩ :=
          (afterInvariant.purgeExpired now).request_of_taskRequests requested
        exact FinishedTask.unused_of_past afterInvariant followed past fresh
          (.inr sameTask) reserved
  · intro clientRequestId request reserved unfinished
    have purged := afterInvariant.purged now
    have kept : ¬ after.state.taskExpired now request.taskId := by
      rintro ⟨record, finishedMonotonic, stored, stamp, -⟩
      have running := unfinished record stored
      rw [(afterInvariant.records_wellFormed _ _ stored).stamped, stamp]
        at running
      simp at running
    refine ⟨(purged.requests_iff _ _).mpr ⟨reserved, kept⟩, ?_⟩
    refine Option.ext fun record => ?_
    rw [purged.tasks_iff]
    exact and_iff_left kept

/-- A history that reserves one task at reading 3 and finishes it at
reading 5. -/
def singleTaskHistory : List TimedOperation :=
  let request := ValidatedSubmit.ofProgram "request" "/bin/true"
  let owner : SubmitExecutionOwner :=
    { clientRequestId := "request", taskId := "task", request, signal := 0 }
  let result : TaskResult :=
    { taskId := "task"
      terminationReason := .exited
      process := ⟨some 0, none⟩
      timing := ⟨"", "", "", 0⟩
      usage := ⟨0, 0⟩
      output := ⟨"", "", false, false⟩ }
  [⟨3, .reserveSubmitWith request "task"⟩,
    ⟨0, .finishSnapshot owner (.finished result) 2⟩]

/-- The task that `singleTaskHistory` leaves behind. -/
def singleFinishedTask : FinishedTask :=
  let result : TaskResult :=
    { taskId := "task"
      terminationReason := .exited
      process := ⟨some 0, none⟩
      timing := ⟨"", "", "", 0⟩
      usage := ⟨0, 0⟩
      output := ⟨"", "", false, false⟩ }
  { clientRequestId := "request"
    request :=
      { taskId := "task"
        identity := (ValidatedSubmit.ofProgram "request" "/bin/true").identity
        reservation := 0 }
    record := ⟨.finished result, none, some 5, none⟩
    result
    finishedMonotonic := 5
    snapshot_eq := rfl
    stamped := rfl }

/-- The last instant of the retention and the first one after it. -/
theorem retention_of_singleTaskHistory :
    let settings : TaskRegistrySettings := ⟨1, by decide⟩
    let state := ((Moment.start 0 settings).performAll singleTaskHistory).state
    singleFinishedTask.VisibleAt (5 + minFinishedRetention) state ∧
      singleFinishedTask.AbsentAt (6 + minFinishedRetention) state := by
  intro settings state
  have stored : singleFinishedTask.StoredIn state := ⟨rfl, rfl⟩
  have onlyRequest : ¬ singleFinishedTask.ReservedAfresh state := by
    rintro ⟨clientRequestId, request, lookup, different, -⟩
    have requests : state.requests =
        (∅ : Table String RequestRecord).insert "request"
          singleFinishedTask.request := rfl
    rw [requests] at lookup
    rcases Table.lookup_insert_eq_some_iff.mp lookup with
      ⟨-, rfl⟩ | ⟨-, old⟩
    · exact different rfl
    · simp at old
  have boundary := retention_of_history settings 0 singleTaskHistory []
  rw [List.append_nil] at boundary
  refine ⟨?_, ?_⟩
  · exact ((boundary (5 + minFinishedRetention) (by decide)).1
      singleFinishedTask stored).2.1 le_rfl
  · exact ((boundary (6 + minFinishedRetention) (by decide)).1
      singleFinishedTask stored).2.2 (by decide) onlyRequest

end Registry
end TaskCage
