import TaskCage.Registry.Operations

/-!
# The representation invariant of the registry

The invariant ties the four containers of the registry together and is kept by
every locked section.  It is indexed by the last clock reading: a finish time
never lies in the future of the clock, which is what makes new queue entries
belong at the end and the purge of the queue's head complete.
-/

namespace TaskCage
namespace Registry

/-- A record is stored under the task it describes, is stamped exactly when it
is finished, and is complete while it is running. -/
structure TaskRecord.WellFormed (taskId : String) (record : TaskRecord) :
    Prop where
  named : record.snapshot.taskId = taskId
  stamped : record.snapshot.isFinished = record.finishedMonotonic.isSome
  running_complete : record.snapshot.isFinished = false →
    record.effectiveLimits.isSome ∧ record.cancellation.isSome

/-- The invariant of the locked state at a clock reading. -/
structure Invariant (clock : ℕ) (state : RegistryState) : Prop where
  /-- Requests and the inverse index are inverse to each other. -/
  requests_iff : ∀ clientRequestId taskId,
    (∃ request, state.requests.lookup clientRequestId = some request ∧
      request.taskId = taskId) ↔
    state.taskRequests.lookup taskId = some clientRequestId
  /-- Only reserved tasks are published. -/
  tasks_requested : ∀ taskId record,
    state.tasks.lookup taskId = some record →
    ∃ clientRequestId, state.taskRequests.lookup taskId = some clientRequestId
  records_wellFormed : ∀ taskId record,
    state.tasks.lookup taskId = some record → record.WellFormed taskId
  /-- The queue lists the finished records with their finish times. -/
  queue_iff : ∀ entry : FinishedExpiration,
    entry ∈ state.finishedExpirations ↔
    ∃ record, state.tasks.lookup entry.taskId = some record ∧
      record.finishedMonotonic = some entry.finishedMonotonic
  queue_nodup : (state.finishedExpirations.map FinishedExpiration.taskId).Nodup
  queue_sorted : state.finishedExpirations.Pairwise fun first second =>
    first.finishedMonotonic ≤ second.finishedMonotonic
  queue_past : ∀ entry ∈ state.finishedExpirations,
    entry.finishedMonotonic ≤ clock
  requests_bounded : state.requests.keys.card ≤ state.settings.maxTasks
  /-- A request is filed under the key of its own identity. -/
  requests_keyed : ∀ clientRequestId request,
    state.requests.lookup clientRequestId = some request →
    request.identity.clientRequestId = clientRequestId
  /-- Every reservation has an allocation of its own. -/
  reservations_allocated : ∀ clientRequestId request,
    state.requests.lookup clientRequestId = some request →
    request.reservation < state.allocatedSignals
  reservations_injective : ∀ first firstRequest second secondRequest,
    state.requests.lookup first = some firstRequest →
    state.requests.lookup second = some secondRequest →
    firstRequest.reservation = secondRequest.reservation → first = second
  assertions_hold : state.assertionFailed = false

namespace Invariant

variable {clock : ℕ} {state : RegistryState}

/-- The empty registry satisfies the invariant at every reading. -/
theorem new (clock : ℕ) (settings : TaskRegistrySettings) :
    Invariant clock (RegistryState.new settings) := by
  constructor <;> simp [RegistryState.new]

/-- Time may pass. -/
theorem advance
    (invariant : Invariant clock state)
    {later : ℕ} (ordered : clock ≤ later) :
    Invariant later state :=
  { invariant with
    queue_past := fun entry member =>
      (invariant.queue_past entry member).trans ordered }

/-- The request of a reserved task. -/
theorem request_of_taskRequests
    (invariant : Invariant clock state)
    {taskId clientRequestId : String}
    (requested : state.taskRequests.lookup taskId = some clientRequestId) :
    ∃ request, state.requests.lookup clientRequestId = some request ∧
      request.taskId = taskId :=
  (invariant.requests_iff clientRequestId taskId).mpr requested

/-- The inverse index entry of a request. -/
theorem taskRequests_of_request
    (invariant : Invariant clock state)
    {clientRequestId : String} {request : RequestRecord}
    (reserved : state.requests.lookup clientRequestId = some request) :
    state.taskRequests.lookup request.taskId = some clientRequestId :=
  (invariant.requests_iff clientRequestId request.taskId).mp
    ⟨request, reserved, rfl⟩

/-- Two requests never share a task. -/
theorem request_taskId_injective
    (invariant : Invariant clock state)
    {first second : String} {firstRequest secondRequest : RequestRecord}
    (firstReserved : state.requests.lookup first = some firstRequest)
    (secondReserved : state.requests.lookup second = some secondRequest)
    (equal : firstRequest.taskId = secondRequest.taskId) :
    first = second := by
  have firstIndexed := invariant.taskRequests_of_request firstReserved
  have secondIndexed := invariant.taskRequests_of_request secondReserved
  rw [equal] at firstIndexed
  exact Option.some.inj (firstIndexed.symm.trans secondIndexed)

end Invariant

namespace RegistryState

/-- Remove a request together with its task, wherever they are filed. -/
def removeTask (clientRequestId taskId : String) (state : RegistryState) :
    RegistryState :=
  { state with
    tasks := state.tasks.erase taskId
    requests := state.requests.erase clientRequestId
    taskRequests := state.taskRequests.erase taskId
    finishedExpirations :=
      state.finishedExpirations.filter fun entry => entry.taskId ≠ taskId }

end RegistryState

namespace Invariant

variable {clock : ℕ} {state : RegistryState}

/-- Removing a request with its task keeps the invariant. -/
theorem removeTask
    (invariant : Invariant clock state)
    {clientRequestId taskId : String}
    (requested : state.taskRequests.lookup taskId = some clientRequestId) :
    Invariant clock (state.removeTask clientRequestId taskId) := by
  obtain ⟨request, reserved, requestTask⟩ :=
    invariant.request_of_taskRequests requested
  subst requestTask
  constructor
  case requests_iff =>
    intro otherRequest otherTask
    simp only [RegistryState.removeTask, Table.lookup_erase_eq_some_iff]
    constructor
    · rintro ⟨other, ⟨different, lookup⟩, rfl⟩
      refine ⟨fun equal => different ?_, invariant.taskRequests_of_request lookup⟩
      exact invariant.request_taskId_injective lookup reserved equal
    · rintro ⟨different, lookup⟩
      obtain ⟨other, found, rfl⟩ := invariant.request_of_taskRequests lookup
      refine ⟨other, ⟨?_, found⟩, rfl⟩
      rintro rfl
      rw [reserved] at found
      exact different (congrArg RequestRecord.taskId
        (Option.some.inj found)).symm
  case tasks_requested =>
    intro otherTask record
    simp only [RegistryState.removeTask, Table.lookup_erase_eq_some_iff]
    rintro ⟨different, lookup⟩
    obtain ⟨otherRequest, found⟩ := invariant.tasks_requested _ _ lookup
    exact ⟨otherRequest, different, found⟩
  case records_wellFormed =>
    intro otherTask record lookup
    exact invariant.records_wellFormed _ _
      (Table.lookup_erase_eq_some_iff.mp lookup).2
  case queue_iff =>
    intro entry
    simp only [RegistryState.removeTask, Table.lookup_erase_eq_some_iff,
      List.mem_filter, decide_eq_true_eq, invariant.queue_iff]
    by_cases equal : entry.taskId = request.taskId <;> simp [equal]
  case queue_nodup =>
    exact (List.filter_sublist.map _).nodup invariant.queue_nodup
  case queue_sorted =>
    exact invariant.queue_sorted.sublist List.filter_sublist
  case queue_past =>
    intro entry member
    exact invariant.queue_past entry (List.mem_of_mem_filter member)
  case requests_bounded =>
    exact (Table.card_keys_erase_le _ _).trans invariant.requests_bounded
  case requests_keyed =>
    intro otherRequest other lookup
    exact invariant.requests_keyed _ _
      (Table.lookup_erase_eq_some_iff.mp lookup).2
  case reservations_allocated =>
    intro otherRequest other lookup
    exact invariant.reservations_allocated _ _
      (Table.lookup_erase_eq_some_iff.mp lookup).2
  case reservations_injective =>
    intro first firstRequest second secondRequest firstLookup secondLookup
    exact invariant.reservations_injective _ _ _ _
      (Table.lookup_erase_eq_some_iff.mp firstLookup).2
      (Table.lookup_erase_eq_some_iff.mp secondLookup).2
  case assertions_hold => exact invariant.assertions_hold

end Invariant

/-! ## The purge -/

namespace RegistryState

/-- Whether a task is finished and past its retention. -/
def taskExpired (now : ℕ) (state : RegistryState) (taskId : String) : Prop :=
  ∃ record finishedMonotonic, state.tasks.lookup taskId = some record ∧
    record.finishedMonotonic = some finishedMonotonic ∧
    finishedMonotonic + minFinishedRetention < now

theorem expired_iff {now : ℕ} {entry : FinishedExpiration} :
    expired now entry = true ↔
      entry.finishedMonotonic + minFinishedRetention < now := by
  unfold expired Instant.checkedDurationSince
  by_cases ordered : entry.finishedMonotonic ≤ now
  · simp only [ordered, if_true, decide_eq_true_eq]
    omega
  · simp only [ordered, if_false, Bool.false_eq_true, false_iff]
    omega

/-- What a purge does: expired tasks disappear from all containers at once and
everything else stays. -/
structure Purged (now : ℕ) (before after : RegistryState) : Prop where
  tasks_iff : ∀ taskId record, after.tasks.lookup taskId = some record ↔
    before.tasks.lookup taskId = some record ∧ ¬ before.taskExpired now taskId
  taskRequests_iff : ∀ taskId clientRequestId,
    after.taskRequests.lookup taskId = some clientRequestId ↔
    before.taskRequests.lookup taskId = some clientRequestId ∧
      ¬ before.taskExpired now taskId
  requests_iff : ∀ clientRequestId request,
    after.requests.lookup clientRequestId = some request ↔
    before.requests.lookup clientRequestId = some request ∧
      ¬ before.taskExpired now request.taskId
  settings_eq : after.settings = before.settings
  allocatedSignals_eq : after.allocatedSignals = before.allocatedSignals
  drawnTaskIds_eq : after.drawnTaskIds = before.drawnTaskIds

end RegistryState

namespace Invariant

variable {clock : ℕ} {state : RegistryState}

/-- Under the invariant, one turn of the purge loop removes the task of the
queue's head and its request, and no debug assertion fails. -/
theorem expire_head
    (invariant : Invariant clock state)
    {entry : FinishedExpiration} {rest : List FinishedExpiration}
    (queue : state.finishedExpirations = entry :: rest) :
    ∃ clientRequestId,
      state.taskRequests.lookup entry.taskId = some clientRequestId ∧
      ({ state with finishedExpirations := rest }).expire entry =
        state.removeTask clientRequestId entry.taskId ∧
      (state.removeTask clientRequestId entry.taskId).finishedExpirations =
        rest := by
  obtain ⟨record, stored, stamped⟩ :=
    (invariant.queue_iff entry).mp (by simp [queue])
  obtain ⟨clientRequestId, requested⟩ := invariant.tasks_requested _ _ stored
  obtain ⟨request, reserved, -⟩ := invariant.request_of_taskRequests requested
  have restFiltered :
      (entry :: rest).filter (fun other => other.taskId ≠ entry.taskId) =
        rest := by
    have distinct := invariant.queue_nodup
    rw [queue, List.map_cons, List.nodup_cons] at distinct
    rw [List.filter_cons_of_neg (by simp), List.filter_eq_self]
    intro other member
    rw [decide_eq_true_eq]
    intro equal
    exact distinct.1 (List.mem_map.mpr ⟨other, member, equal⟩)
  refine ⟨clientRequestId, requested, ?_, ?_⟩
  all_goals rw [RegistryState.removeTask, queue, restFiltered]
  simp [RegistryState.expire, RegistryState.removeRequest,
    RegistryState.debugAssert, stored, stamped, requested, reserved]

/-- Nothing is expired when the head of the queue is not: the queue is sorted
by finish time. -/
theorem not_taskExpired_of_head
    (invariant : Invariant clock state) (now : ℕ)
    (head : ∀ entry rest, state.finishedExpirations = entry :: rest →
      RegistryState.expired now entry = false)
    (taskId : String) :
    ¬ state.taskExpired now taskId := by
  rintro ⟨record, finishedMonotonic, stored, stamped, past⟩
  have member : (⟨taskId, finishedMonotonic⟩ : FinishedExpiration) ∈
      state.finishedExpirations :=
    (invariant.queue_iff _).mpr ⟨record, stored, stamped⟩
  have sorted := invariant.queue_sorted
  cases queue : state.finishedExpirations with
  | nil => simp [queue] at member
  | cons entry rest =>
      have current := head entry rest queue
      rw [← Bool.not_eq_true, RegistryState.expired_iff] at current
      rw [queue] at member sorted
      cases List.mem_cons.mp member with
      | inl equal =>
          subst equal
          exact current past
      | inr later =>
          have ordered := List.rel_of_pairwise_cons sorted later
          dsimp only at ordered
          omega

/-- A purge of a state in which the removed task is expired continues the
purge of the state it was removed from. -/
theorem purged_of_removeTask
    (invariant : Invariant clock state) {now : ℕ}
    {clientRequestId taskId : String} {after : RegistryState}
    (requested : state.taskRequests.lookup taskId = some clientRequestId)
    (past : state.taskExpired now taskId)
    (purged : (state.removeTask clientRequestId taskId).Purged now after) :
    state.Purged now after := by
  obtain ⟨request, reserved, requestTask⟩ :=
    invariant.request_of_taskRequests requested
  have expiredElsewhere : ∀ other, other ≠ taskId →
      ((state.removeTask clientRequestId taskId).taskExpired now other ↔
        state.taskExpired now other) := by
    intro other different
    simp [RegistryState.taskExpired, RegistryState.removeTask, different]
  have tasksElsewhere : ∀ {other : String} {Found : Prop},
      ((other ≠ taskId ∧ Found) ∧
        ¬ (state.removeTask clientRequestId taskId).taskExpired now other ↔
      Found ∧ ¬ state.taskExpired now other) := by
    intro other Found
    by_cases equal : other = taskId
    · subst equal
      simp [past]
    · simp [equal, expiredElsewhere other equal]
  constructor
  case tasks_iff =>
    intro other record
    rw [purged.tasks_iff, RegistryState.removeTask,
      Table.lookup_erase_eq_some_iff]
    exact tasksElsewhere
  case taskRequests_iff =>
    intro other otherRequest
    rw [purged.taskRequests_iff, RegistryState.removeTask,
      Table.lookup_erase_eq_some_iff]
    exact tasksElsewhere
  case requests_iff =>
    intro otherRequest other
    rw [purged.requests_iff, ← tasksElsewhere, RegistryState.removeTask,
      Table.lookup_erase_eq_some_iff]
    -- The removed request is the only one of the removed task.
    refine and_congr_left fun _ => ?_
    constructor
    · rintro ⟨different, lookup⟩
      refine ⟨fun equal => different ?_, lookup⟩
      exact invariant.request_taskId_injective lookup reserved
        (equal.trans requestTask.symm)
    · rintro ⟨different, lookup⟩
      refine ⟨?_, lookup⟩
      rintro rfl
      rw [reserved] at lookup
      cases lookup
      exact different requestTask
  case settings_eq => exact purged.settings_eq
  case allocatedSignals_eq => exact purged.allocatedSignals_eq
  case drawnTaskIds_eq => exact purged.drawnTaskIds_eq

/-- The purge loop removes exactly the expired tasks and keeps the
invariant. -/
theorem purgeQueue_spec (now : ℕ) :
    ∀ (queue : List FinishedExpiration) (state : RegistryState),
      Invariant clock state → state.finishedExpirations = queue →
      Invariant clock (RegistryState.purgeQueue now queue state) ∧
        state.Purged now (RegistryState.purgeQueue now queue state) := by
  intro queue
  induction queue with
  | nil =>
      intro state invariant empty
      have kept := invariant.not_taskExpired_of_head now (by simp [empty])
      refine ⟨invariant, ?_⟩
      constructor <;> simp [RegistryState.purgeQueue, kept]
  | cons entry rest inductionHypothesis =>
      intro state invariant queue
      by_cases past : RegistryState.expired now entry = true
      · obtain ⟨clientRequestId, requested, expireEq, restQueue⟩ :=
          invariant.expire_head queue
        obtain ⟨record, stored, stamped⟩ :=
          (invariant.queue_iff entry).mp (by simp [queue])
        have taskPast : state.taskExpired now entry.taskId :=
          ⟨record, _, stored, stamped, RegistryState.expired_iff.mp past⟩
        rw [RegistryState.purgeQueue, if_pos past, expireEq]
        obtain ⟨kept, purged⟩ := inductionHypothesis _
          (invariant.removeTask requested) restQueue
        exact ⟨kept, invariant.purged_of_removeTask requested taskPast purged⟩
      · have current := invariant.not_taskExpired_of_head now (by
          intro head tail equal
          rw [queue] at equal
          cases equal
          simpa using past)
        rw [RegistryState.purgeQueue, if_neg past]
        refine ⟨invariant, ?_⟩
        constructor <;> simp [current]

/-- A purge keeps the invariant. -/
theorem purgeExpired
    (invariant : Invariant clock state) (now : ℕ) :
    Invariant clock (state.purgeExpired now) :=
  (purgeQueue_spec now _ state invariant rfl).1

/-- A purge removes exactly the expired tasks. -/
theorem purged
    (invariant : Invariant clock state) (now : ℕ) :
    state.Purged now (state.purgeExpired now) :=
  (purgeQueue_spec now _ state invariant rfl).2

end Invariant
end Registry
end TaskCage
