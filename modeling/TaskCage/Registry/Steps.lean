import TaskCage.Registry.Invariant

/-!
# What a locked section can do

Every locked section is the purge followed by at most one of five updates.
`Update` lists them with the conditions under which the code makes them; every
property of registry histories is proved from this list, never from the
operations themselves.
-/

namespace TaskCage
namespace Registry

/-- An owner that still holds its reservation. -/
structure SubmitExecutionOwner.Holds (owner : SubmitExecutionOwner)
    (state : RegistryState) (request : RequestRecord) : Prop where
  reserved : state.requests.lookup owner.clientRequestId = some request
  taskId_eq : request.taskId = owner.taskId
  reservation_eq : request.reservation = owner.signal

theorem RegistryState.verifyOwner_eq_ok_iff
    {state : RegistryState} {owner : SubmitExecutionOwner} :
    state.verifyOwner owner = .ok () ↔
      ∃ request, owner.Holds state request := by
  unfold RegistryState.verifyOwner
  constructor
  · intro verified
    split at verified
    · simp at verified
    · rename_i request reserved
      split at verified
      · simp at verified
      · rename_i owned
        push Not at owned
        exact ⟨request, reserved, owned.1, owned.2⟩
  · rintro ⟨request, reserved, taskId_eq, reservation_eq⟩
    simp [reserved, taskId_eq, reservation_eq]

/-- The updates a locked section makes to a purged state; `reading` is its last
clock reading, and only owners in `Acts` act. -/
inductive Update (reading : ℕ) (state : RegistryState)
    (Acts : SubmitExecutionOwner → Prop) : RegistryState → Prop where
  | unchanged : Update reading state Acts state
  /-- The generated task id was taken. -/
  | refused :
      Update reading state Acts
        { state with drawnTaskIds := state.drawnTaskIds + 1 }
  | reserved (request : ValidatedSubmit) (candidate : String)
      (newRequest : state.requests.lookup request.clientRequestId = none)
      (newTask : state.taskRequests.lookup candidate = none)
      (room : state.requests.keys.card < state.settings.maxTasks) :
      Update reading state Acts
        (({ state with drawnTaskIds := state.drawnTaskIds + 1 }
          ).insertReservation request candidate).2
  | running (owner : SubmitExecutionOwner) (request : RequestRecord)
      (submittedAt startedAt : String)
      (effectiveLimits : VerifiedEffectiveLimits)
      (cancellation : RunningCancellation)
      (acting : Acts owner) (holds : owner.Holds state request)
      (unpublished : state.tasks.lookup owner.taskId = none) :
      Update reading state Acts
        { state with
          tasks := state.tasks.insert owner.taskId
            { snapshot := .running owner.taskId submittedAt startedAt
              effectiveLimits := some effectiveLimits
              finishedMonotonic := none
              cancellation := some cancellation } }
  | finished (owner : SubmitExecutionOwner) (request : RequestRecord)
      (result : TaskResult)
      (effectiveLimits : Option VerifiedEffectiveLimits)
      (acting : Acts owner) (holds : owner.Holds state request)
      (named : result.taskId = owner.taskId)
      (unfinished : ∀ record, state.tasks.lookup owner.taskId = some record →
        record.finishedMonotonic = none) :
      Update reading state Acts
        (state.storeFinished owner.taskId
          { snapshot := .finished result
            effectiveLimits
            finishedMonotonic := some reading
            cancellation := none }
          reading)
  | released (owner : SubmitExecutionOwner) (request : RequestRecord)
      (acting : Acts owner) (holds : owner.Holds state request)
      (unpublished : state.tasks.lookup owner.taskId = none)
      (after : RegistryState)
      (removed : after =
        ({ state with
          requests := state.requests.erase owner.clientRequestId
          taskRequests := state.taskRequests.erase owner.taskId }
          |>.debugAssert (state.requests.lookup owner.clientRequestId).isSome
          |>.debugAssert
            (state.taskRequests.lookup owner.taskId =
              some owner.clientRequestId))) :
      Update reading state Acts after

namespace Update

variable {now : ℕ} {state : RegistryState} {Acts : SubmitExecutionOwner → Prop}
variable (request : ValidatedSubmit) (taskId : String)
variable (owner : SubmitExecutionOwner)

theorem of_reserveSubmitWith (candidate : String) :
    Update now (state.purgeExpired now) Acts
      (state.reserveSubmitWith now request candidate).2 := by
  unfold RegistryState.reserveSubmitWith
  dsimp only
  split
  · split <;> exact .unchanged
  · rename_i newRequest
    split
    · exact .unchanged
    · rename_i room
      split
      · exact .refused
      · rename_i newTask
        exact .reserved request candidate newRequest
          (Finmap.lookup_eq_none.mpr newTask) (not_le.mp room)

theorem of_existingSubmit :
    Update now (state.purgeExpired now) Acts
      (state.existingSubmit now request).2 := by
  unfold RegistryState.existingSubmit
  dsimp only
  split
  · exact .unchanged
  · split <;> exact .unchanged

theorem of_snapshotByClientRequestId (clientRequestId : String) :
    Update now (state.purgeExpired now) Acts
      (state.snapshotByClientRequestId now clientRequestId).2 := by
  unfold RegistryState.snapshotByClientRequestId
  dsimp only
  split <;> exact .unchanged

theorem of_requestCancel :
    Update now (state.purgeExpired now) Acts
      (state.requestCancel now taskId).2 := by
  unfold RegistryState.requestCancel
  dsimp only
  split
  · exact .unchanged
  · split
    · exact .unchanged
    · split <;> exact .unchanged

theorem of_effectiveLimitsFor (observation : SubmitObservation) :
    (state.effectiveLimitsFor now taskId observation).2 = state ∨
      Update now (state.purgeExpired now) Acts
        (state.effectiveLimitsFor now taskId observation).2 := by
  unfold RegistryState.effectiveLimitsFor
  split
  · right
    dsimp only
    split <;> exact .unchanged
  · exact .inl rfl

theorem of_publishRunning (snapshot : TaskSnapshot)
    (effectiveLimits : VerifiedEffectiveLimits)
    (cancellation : RunningCancellation) (acting : Acts owner) :
    (state.publishRunning now owner snapshot effectiveLimits
        cancellation).2 = state ∨
      Update now (state.purgeExpired now) Acts
        (state.publishRunning now owner snapshot effectiveLimits
          cancellation).2 := by
  unfold RegistryState.publishRunning
  split
  · exact .inl rfl
  · rename_i actual submittedAt startedAt
    split
    · exact .inl rfl
    · rename_i verified
      have named : owner.taskId = actual := by
        unfold RegistryState.verifyTaskId at verified
        split at verified
        · assumption
        · simp at verified
      subst named
      right
      dsimp only
      split
      · exact .unchanged
      · rename_i owned
        obtain ⟨request, holds⟩ := RegistryState.verifyOwner_eq_ok_iff.mp owned
        split
        · exact .unchanged
        · rename_i unpublished
          exact .running owner request submittedAt startedAt effectiveLimits
            cancellation acting holds (Finmap.lookup_eq_none.mpr unpublished)

theorem of_finishSnapshot
    (finishedMonotonic : ℕ) (owner : SubmitExecutionOwner)
    (snapshot : TaskSnapshot) (acting : Acts owner) :
    (state.finishSnapshot now finishedMonotonic owner snapshot).2 = state ∨
      Update finishedMonotonic (state.purgeExpired now) Acts
        (state.finishSnapshot now finishedMonotonic owner snapshot).2 := by
  unfold RegistryState.finishSnapshot
  split
  · exact .inl rfl
  · rename_i result
    split
    · exact .inl rfl
    · rename_i verified
      have named : owner.taskId = result.taskId := by
        unfold RegistryState.verifyTaskId at verified
        split at verified
        · assumption
        · simp at verified
      right
      dsimp only
      split
      · exact .unchanged
      · rename_i owned
        obtain ⟨request, holds⟩ := RegistryState.verifyOwner_eq_ok_iff.mp owned
        split
        · rename_i record stored
          split
          · exact .unchanged
          · rename_i unfinished
            refine .finished owner request result record.effectiveLimits
              acting holds named.symm ?_
            intro other lookup
            rw [stored] at lookup
            cases lookup
            simpa using unfinished
        · rename_i absent
          refine .finished owner request result none acting holds named.symm ?_
          simp [absent]

theorem of_releaseFailedOwner (acting : Acts owner) :
    Update now (state.purgeExpired now) Acts
      (state.releaseFailedOwner now owner).2 := by
  unfold RegistryState.releaseFailedOwner
  dsimp only
  split
  · exact .unchanged
  · rename_i owned
    obtain ⟨request, holds⟩ := RegistryState.verifyOwner_eq_ok_iff.mp owned
    split
    · exact .unchanged
    · rename_i unpublished
      exact .released owner request acting holds unpublished _ rfl

/-- No update changes the configuration. -/
theorem settings_eq
    {reading : ℕ} {after : RegistryState}
    (update : Update reading state Acts after) :
    after.settings = state.settings := by
  cases update with
  | released owner request acting holds unpublished after removed =>
      subst removed
      rfl
  | _ => rfl

/-- Every operation leaves the state alone or purges it and makes one
update. -/
theorem of_apply (now : ℕ) (state : RegistryState) (operation : Operation) :
    operation.apply now state = state ∨
      Update (operation.lastReading now) (state.purgeExpired now)
        operation.ActsFor (operation.apply now state) := by
  cases operation with
  | reserveSubmitWith request candidate =>
      exact .inr (of_reserveSubmitWith request candidate)
  | existingSubmit request => exact .inr (of_existingSubmit request)
  | snapshot taskId => exact .inr .unchanged
  | snapshotByClientRequestId clientRequestId =>
      exact .inr (of_snapshotByClientRequestId clientRequestId)
  | hasClientRequestId clientRequestId => exact .inr .unchanged
  | effectiveLimitsFor taskId observation =>
      exact of_effectiveLimitsFor taskId observation
  | requestCancel taskId => exact .inr (of_requestCancel taskId)
  | publishRunning owner running effectiveLimits cancellation =>
      exact of_publishRunning owner running effectiveLimits cancellation rfl
  | finishSnapshot owner finished pause =>
      exact of_finishSnapshot (now + pause) owner finished rfl
  | releaseFailedOwner owner => exact .inr (of_releaseFailedOwner owner rfl)

end Update

namespace Invariant

variable {clock : ℕ} {state : RegistryState}
variable {Acts : SubmitExecutionOwner → Prop}

/-- A new reservation keeps the invariant. -/
theorem insertReservation
    (invariant : Invariant clock state)
    {request : ValidatedSubmit} {candidate : String}
    (newRequest : state.requests.lookup request.clientRequestId = none)
    (newTask : state.taskRequests.lookup candidate = none)
    (room : state.requests.keys.card < state.settings.maxTasks) :
    Invariant clock (state.insertReservation request candidate).2 := by
  constructor
  case requests_iff =>
    intro clientRequestId taskId
    simp only [RegistryState.insertReservation, Table.lookup_insert_eq_some_iff]
    constructor
    · rintro ⟨found, ⟨rfl, rfl⟩ | ⟨different, lookup⟩, rfl⟩
      · exact .inl ⟨rfl, rfl⟩
      · have indexed := invariant.taskRequests_of_request lookup
        refine .inr ⟨?_, indexed⟩
        intro equal
        rw [equal, newTask] at indexed
        simp at indexed
    · rintro (⟨rfl, rfl⟩ | ⟨different, lookup⟩)
      · exact ⟨_, .inl ⟨rfl, rfl⟩, rfl⟩
      · obtain ⟨found, reserved, rfl⟩ :=
          invariant.request_of_taskRequests lookup
        refine ⟨found, .inr ⟨?_, reserved⟩, rfl⟩
        rintro rfl
        rw [newRequest] at reserved
        simp at reserved
  case tasks_requested =>
    intro taskId record stored
    obtain ⟨clientRequestId, requested⟩ := invariant.tasks_requested _ _ stored
    refine ⟨clientRequestId, Table.lookup_insert_eq_some_iff.mpr (.inr ?_)⟩
    refine ⟨?_, requested⟩
    rintro rfl
    rw [newTask] at requested
    simp at requested
  case records_wellFormed => exact invariant.records_wellFormed
  case queue_iff => exact invariant.queue_iff
  case queue_nodup => exact invariant.queue_nodup
  case queue_sorted => exact invariant.queue_sorted
  case queue_past => exact invariant.queue_past
  case requests_bounded =>
    simp only [RegistryState.insertReservation]
    rw [Table.card_keys_insert_of_lookup_eq_none newRequest]
    exact room
  case requests_keyed =>
    intro clientRequestId found lookup
    rcases Table.lookup_insert_eq_some_iff.mp lookup with
      ⟨rfl, rfl⟩ | ⟨-, old⟩
    · rfl
    · exact invariant.requests_keyed _ _ old
  case reservations_allocated =>
    intro clientRequestId found lookup
    rcases Table.lookup_insert_eq_some_iff.mp lookup with
      ⟨rfl, rfl⟩ | ⟨-, old⟩
    · exact Nat.lt_succ_self _
    · exact (invariant.reservations_allocated _ _ old).trans
        (Nat.lt_succ_self _)
  case reservations_injective =>
    intro first firstRequest second secondRequest firstLookup secondLookup equal
    rcases Table.lookup_insert_eq_some_iff.mp firstLookup with
      ⟨rfl, rfl⟩ | ⟨-, firstOld⟩ <;>
    rcases Table.lookup_insert_eq_some_iff.mp secondLookup with
      ⟨rfl, rfl⟩ | ⟨-, secondOld⟩
    · rfl
    · have older := invariant.reservations_allocated _ _ secondOld
      dsimp only at equal
      omega
    · have older := invariant.reservations_allocated _ _ firstOld
      dsimp only at equal
      omega
    · exact invariant.reservations_injective _ _ _ _ firstOld secondOld equal
  case assertions_hold => exact invariant.assertions_hold

variable {clientRequestId taskId : String} {record : TaskRecord} {reading : ℕ}
variable {owner : SubmitExecutionOwner} {request : RequestRecord}

/-- Publishing a running task keeps the invariant. -/
theorem insertRunning (invariant : Invariant clock state)
    (requested : state.taskRequests.lookup taskId = some clientRequestId)
    (unpublished : state.tasks.lookup taskId = none)
    (wellFormed : record.WellFormed taskId)
    (unfinished : record.finishedMonotonic = none) :
    Invariant clock { state with tasks := state.tasks.insert taskId record } :=
  { invariant with
    tasks_requested := by
      intro other found lookup
      rcases Table.lookup_insert_eq_some_iff.mp lookup with
        ⟨rfl, -⟩ | ⟨-, old⟩
      · exact ⟨clientRequestId, requested⟩
      · exact invariant.tasks_requested _ _ old
    records_wellFormed := by
      intro other found lookup
      rcases Table.lookup_insert_eq_some_iff.mp lookup with
        ⟨rfl, rfl⟩ | ⟨-, old⟩
      · exact wellFormed
      · exact invariant.records_wellFormed _ _ old
    queue_iff := by
      intro entry
      rw [invariant.queue_iff entry]
      refine exists_congr fun found => ?_
      simp only [Table.lookup_insert_eq_some_iff]
      by_cases equal : entry.taskId = taskId
      · rw [equal, unpublished]
        simp only [reduceCtorEq, false_and, true_and, ne_eq, not_true,
          or_false, false_iff, not_and]
        rintro rfl
        simp [unfinished]
      · simp [equal] }

/-- Storing a finished task at the end of the queue keeps the invariant: its
finish time is the latest reading. -/
theorem storeFinished (invariant : Invariant clock state)
    (requested : state.taskRequests.lookup taskId = some clientRequestId)
    (unfinished : ∀ found, state.tasks.lookup taskId = some found →
      found.finishedMonotonic = none) (wellFormed : record.WellFormed taskId)
    (stamped : record.finishedMonotonic = some reading)
    (ordered : clock ≤ reading) :
    Invariant reading (state.storeFinished taskId record reading) := by
  have unqueued : ∀ entry ∈ state.finishedExpirations,
      entry.taskId ≠ taskId := by
    intro entry member equal
    obtain ⟨found, stored, stamp⟩ := (invariant.queue_iff entry).mp member
    rw [equal] at stored
    rw [unfinished found stored] at stamp
    simp at stamp
  have aged := invariant.advance ordered
  refine { aged with tasks_requested := ?_, records_wellFormed := ?_, queue_iff := ?_,
                     queue_nodup := ?_, queue_sorted := ?_, queue_past := ?_ }
  · intro other found lookup
    rcases Table.lookup_insert_eq_some_iff.mp lookup with
      ⟨rfl, -⟩ | ⟨-, old⟩
    · exact ⟨clientRequestId, requested⟩
    · exact invariant.tasks_requested _ _ old
  · intro other found lookup
    rcases Table.lookup_insert_eq_some_iff.mp lookup with
      ⟨rfl, rfl⟩ | ⟨-, old⟩
    · exact wellFormed
    · exact invariant.records_wellFormed _ _ old
  · intro entry
    simp only [RegistryState.storeFinished, List.mem_append,
      List.mem_singleton, Table.lookup_insert_eq_some_iff]
    by_cases equal : entry.taskId = taskId
    · have notMember : entry ∉ state.finishedExpirations := fun member =>
        unqueued entry member equal
      obtain ⟨entryTask, entryTime⟩ := entry
      dsimp only at equal
      subst equal
      simp [notMember, stamped, eq_comm]
    · have different : entry ≠ ⟨taskId, reading⟩ := by
        rintro rfl
        exact equal rfl
      simp [equal, different, invariant.queue_iff entry]
  · simp only [RegistryState.storeFinished, List.map_append, List.map_cons,
      List.map_nil]
    rw [List.nodup_append]
    refine ⟨invariant.queue_nodup, List.nodup_singleton _, ?_⟩
    intro queued member last lastMember
    obtain ⟨entry, entryMember, rfl⟩ := List.mem_map.mp member
    rw [List.mem_singleton] at lastMember
    rw [lastMember]
    exact unqueued entry entryMember
  · simp only [RegistryState.storeFinished, List.pairwise_append]
    refine ⟨invariant.queue_sorted, List.pairwise_singleton _ _, ?_⟩
    intro entry member last lastMember
    rw [List.mem_singleton] at lastMember
    rw [lastMember]
    exact aged.queue_past entry member
  · intro entry member
    rcases List.mem_append.mp member with old | new
    · exact aged.queue_past entry old
    · rw [List.mem_singleton] at new
      rw [new]

/-- The task of a reservation that an owner holds. -/
theorem taskRequests_of_holds (invariant : Invariant clock state)
    (holds : owner.Holds state request) :
    state.taskRequests.lookup owner.taskId = some owner.clientRequestId := by
  rw [← holds.taskId_eq]
  exact invariant.taskRequests_of_request holds.reserved

/-- A withdrawn reservation is a removed task: it had no record and no queue
entry, and neither debug assertion fails. -/
theorem released_eq_removeTask (invariant : Invariant clock state)
    (holds : owner.Holds state request)
    (unpublished : state.tasks.lookup owner.taskId = none) :
    ({ state with
      requests := state.requests.erase owner.clientRequestId
      taskRequests := state.taskRequests.erase owner.taskId }
      |>.debugAssert (state.requests.lookup owner.clientRequestId).isSome
      |>.debugAssert
        (state.taskRequests.lookup owner.taskId = some owner.clientRequestId)) =
      state.removeTask owner.clientRequestId owner.taskId := by
  have requested := invariant.taskRequests_of_holds holds
  have tasksEq : state.tasks.erase owner.taskId = state.tasks := by
    refine Finmap.ext_lookup fun taskId => ?_
    rw [Table.lookup_erase_eq_ite]
    split
    · rename_i equal
      rw [equal, unpublished]
    · rfl
  have queueEq : state.finishedExpirations.filter
      (fun entry => entry.taskId ≠ owner.taskId) =
        state.finishedExpirations := by
    rw [List.filter_eq_self]
    intro entry member
    rw [decide_eq_true_eq]
    intro equal
    obtain ⟨record, stored, -⟩ := (invariant.queue_iff entry).mp member
    rw [equal, unpublished] at stored
    simp at stored
  rw [RegistryState.removeTask, tasksEq, queueEq]
  simp [RegistryState.debugAssert, holds.reserved, requested]

/-- Every update of a locked section keeps the invariant. -/
theorem update (invariant : Invariant clock state) (ordered : clock ≤ reading)
    {after : RegistryState} (update : Update reading state Acts after) :
    Invariant reading after := by
  cases update with
  | unchanged => exact invariant.advance ordered
  | refused => exact { invariant.advance ordered with }
  | reserved request candidate newRequest newTask room =>
      have drawn : Invariant reading
          { state with drawnTaskIds := state.drawnTaskIds + 1 } :=
        { invariant.advance ordered with }
      exact drawn.insertReservation newRequest newTask room
  | running owner request submittedAt startedAt limits cancellation acting
      holds unpublished =>
      refine (invariant.advance ordered).insertRunning
        (invariant.taskRequests_of_holds holds) unpublished ?_ rfl
      exact ⟨rfl, rfl, fun _ => ⟨rfl, rfl⟩⟩
  | finished owner request result limits acting holds named unfinished =>
      refine invariant.storeFinished (invariant.taskRequests_of_holds holds)
        unfinished ?_ rfl ordered
      exact ⟨named, rfl, by simp⟩
  | released owner request acting holds unpublished after removed =>
      subst removed
      rw [invariant.released_eq_removeTask holds unpublished]
      exact (invariant.advance ordered).removeTask
        (invariant.taskRequests_of_holds holds)

/-- Every operation keeps the invariant. -/
theorem apply
    (invariant : Invariant clock state)
    {now : ℕ} (ordered : clock ≤ now) (operation : Operation) :
    Invariant (operation.lastReading now) (operation.apply now state) := by
  have progress : now ≤ operation.lastReading now := by
    cases operation <;> simp [Operation.lastReading]
  cases Update.of_apply now state operation with
  | inl unchanged =>
      rw [unchanged]
      exact invariant.advance (ordered.trans progress)
  | inr update =>
      exact ((invariant.advance ordered).purgeExpired now).update progress
        update

end Invariant

end Registry
end TaskCage
