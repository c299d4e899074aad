import TaskCage.Registry.History

/-!
# What the registry holds for an owner

A reservation belongs to one owner, who alone publishes, finishes or withdraws
it.  Whatever other callers do, the registry holds the same for the owner as
before; only a finished task disappears when its retention is over.
-/

namespace TaskCage
namespace Registry

/-- What there is of a reservation. -/
inductive Held where
  | nothing
  | reserved
  | published (snapshot : TaskSnapshot)
deriving DecidableEq

namespace Held

/-- Nothing more will be done about the reservation. -/
def Resolved : Held → Prop
  | nothing => True
  | reserved => False
  | published snapshot => snapshot.isFinished = true

/-- What becomes of it while the owner does nothing. -/
inductive Fades : Held → Held → Prop where
  | same (held : Held) : Fades held held
  | expired (snapshot : TaskSnapshot) (finished : snapshot.isFinished = true) :
      Fades (published snapshot) nothing

theorem Fades.trans {first second third : Held} (before : Fades first second)
    (after : Fades second third) : Fades first third := by
  cases before with
  | same => exact after
  | expired snapshot finished =>
      cases after
      exact .expired snapshot finished

/-- Only a finished task expires. -/
theorem Fades.eq_of_not_resolved {before after : Held}
    (fades : Fades before after) (unresolved : ¬ before.Resolved) :
    after = before := by
  cases fades with
  | same => rfl
  | expired snapshot finished => exact absurd finished unresolved

end Held

namespace RegistryState

/-- What the registry holds for an owner. -/
def held (state : RegistryState) (owner : SubmitExecutionOwner) : Held :=
  match state.verifyOwner owner with
  | .error _ => .nothing
  | .ok () =>
      match state.tasks.lookup owner.taskId with
      | none => .reserved
      | some record => .published record.snapshot

variable {state before after : RegistryState} {owner : SubmitExecutionOwner}
variable {request : RequestRecord}

theorem held_of_holds (holds : owner.Holds state request) :
    state.held owner =
      match state.tasks.lookup owner.taskId with
      | none => .reserved
      | some record => .published record.snapshot := by
  simp only [held, verifyOwner_eq_ok_iff.mpr ⟨request, holds⟩]

theorem held_of_not_holds
    (gone : ∀ request, ¬ owner.Holds state request) :
    state.held owner = .nothing := by
  cases verified : state.verifyOwner owner with
  | error error => simp only [held, verified]
  | ok _ =>
      obtain ⟨request, holds⟩ := verifyOwner_eq_ok_iff.mp verified
      exact absurd holds (gone request)

theorem holds_congr
    (same : after.requests.lookup owner.clientRequestId =
      before.requests.lookup owner.clientRequestId) :
    owner.Holds after request ↔ owner.Holds before request :=
  ⟨fun holds => ⟨same ▸ holds.reserved, holds.taskId_eq,
      holds.reservation_eq⟩,
    fun holds => ⟨same ▸ holds.reserved, holds.taskId_eq, holds.reservation_eq⟩⟩

/-- Only the request and the record of the owner matter. -/
theorem held_congr
    (requests : ∀ request,
      owner.Holds after request ↔ owner.Holds before request)
    (tasks : ∀ request, owner.Holds before request →
      after.tasks.lookup owner.taskId = before.tasks.lookup owner.taskId) :
    after.held owner = before.held owner := by
  by_cases held : ∃ request, owner.Holds before request
  · obtain ⟨request, holds⟩ := held
    rw [held_of_holds holds, held_of_holds ((requests request).mpr holds),
      tasks request holds]
  · push Not at held
    rw [held_of_not_holds held, held_of_not_holds fun request holds =>
      held request ((requests request).mp holds)]

end RegistryState

section Others

variable {clock reading : ℕ} {state after : RegistryState}
variable {owner : SubmitExecutionOwner} {Acts : SubmitExecutionOwner → Prop}

/-- A purge takes a finished task away, and nothing else. -/
theorem Invariant.held_purgeExpired (invariant : Invariant clock state)
    (owner : SubmitExecutionOwner) (now : ℕ) :
    (state.held owner).Fades ((state.purgeExpired now).held owner) := by
  have purged := invariant.purged now
  by_cases expired : state.taskExpired now owner.taskId
  · have gone : ∀ request,
        ¬ owner.Holds (state.purgeExpired now) request := by
      rintro request ⟨reserved, taskIdEq, -⟩
      exact ((purged.requests_iff _ _).mp reserved).2 (taskIdEq ▸ expired)
    rw [RegistryState.held_of_not_holds gone]
    by_cases held : ∃ request, owner.Holds state request
    · obtain ⟨request, holds⟩ := held
      obtain ⟨record, finishedMonotonic, stored, stamped, -⟩ := expired
      have wellFormed := invariant.records_wellFormed _ _ stored
      rw [RegistryState.held_of_holds holds, stored]
      exact .expired _ (by rw [wellFormed.stamped, stamped]; rfl)
    · push Not at held
      rw [RegistryState.held_of_not_holds held]
      exact .same _
  · have requests : ∀ request, owner.Holds (state.purgeExpired now) request ↔
        owner.Holds state request := by
      intro request
      constructor
      · rintro ⟨reserved, taskIdEq, reservationEq⟩
        exact ⟨((purged.requests_iff _ _).mp reserved).1, taskIdEq,
          reservationEq⟩
      · rintro ⟨reserved, taskIdEq, reservationEq⟩
        exact ⟨(purged.requests_iff _ _).mpr ⟨reserved, taskIdEq ▸ expired⟩,
          taskIdEq, reservationEq⟩
    rw [RegistryState.held_congr requests]
    · exact .same _
    · intro request _
      ext record
      simp [purged.tasks_iff, expired]

/-- Another owner holds another request and another task. -/
theorem Invariant.holds_other (invariant : Invariant clock state)
    {other : SubmitExecutionOwner} {request otherRequest : RequestRecord}
    (holds : owner.Holds state request)
    (otherHolds : other.Holds state otherRequest)
    (different : other.signal ≠ owner.signal) :
    owner.clientRequestId ≠ other.clientRequestId ∧
      owner.taskId ≠ other.taskId := by
  have requests : owner.clientRequestId ≠ other.clientRequestId := by
    intro equal
    have reserved := holds.reserved
    rw [equal, otherHolds.reserved] at reserved
    cases reserved
    exact different (otherHolds.reservation_eq.symm.trans holds.reservation_eq)
  refine ⟨requests, fun equal => requests ?_⟩
  exact invariant.request_taskId_injective holds.reserved otherHolds.reserved
    (holds.taskId_eq.trans (equal.trans otherHolds.taskId_eq.symm))

/-- What others do to the purged state does not concern the owner. -/
theorem Invariant.held_update (invariant : Invariant clock state)
    (allocated : owner.signal < state.allocatedSignals)
    (update : Update reading state Acts after)
    (others : ∀ other, Acts other → other.signal ≠ owner.signal) :
    after.held owner = state.held owner := by
  cases update with
  | unchanged => rfl
  | refused =>
      exact RegistryState.held_congr (fun _ => RegistryState.holds_congr rfl)
        fun _ _ => rfl
  | reserved submit candidate newRequest newTask room =>
      refine RegistryState.held_congr (fun found => ?_) fun _ _ => rfl
      constructor
      · rintro ⟨reserved, taskIdEq, reservationEq⟩
        refine ⟨?_, taskIdEq, reservationEq⟩
        rcases Table.lookup_insert_eq_some_iff.mp reserved with
          ⟨-, rfl⟩ | ⟨-, reserved⟩
        · exact absurd reservationEq allocated.ne'
        · exact reserved
      · rintro ⟨reserved, taskIdEq, reservationEq⟩
        have different : owner.clientRequestId ≠ submit.clientRequestId := by
          intro equal
          rw [equal, newRequest] at reserved
          exact absurd reserved (by simp)
        exact ⟨Table.lookup_insert_eq_some_iff.mpr (.inr ⟨different, reserved⟩),
          taskIdEq, reservationEq⟩
  | running other request submittedAt startedAt limits cancellation acting
      otherHolds unpublished =>
      refine RegistryState.held_congr
        (fun _ => RegistryState.holds_congr rfl) fun request holds => ?_
      exact Finmap.lookup_insert_of_ne _
        (invariant.holds_other holds otherHolds (others other acting)).2
  | finished other request result limits acting otherHolds named unfinished =>
      refine RegistryState.held_congr
        (fun _ => RegistryState.holds_congr rfl) fun request holds => ?_
      exact Finmap.lookup_insert_of_ne _
        (invariant.holds_other holds otherHolds (others other acting)).2
  | released other request acting otherHolds unpublished after removed =>
      subst removed
      refine RegistryState.held_congr (fun found => ?_) fun _ _ => rfl
      constructor
      · rintro ⟨reserved, taskIdEq, reservationEq⟩
        exact ⟨(Table.lookup_erase_eq_some_iff.mp reserved).2, taskIdEq,
          reservationEq⟩
      · intro holds
        have different :=
          (invariant.holds_other holds otherHolds (others other acting)).1
        exact ⟨Table.lookup_erase_eq_some_iff.mpr ⟨different, holds.reserved⟩,
          holds.taskId_eq, holds.reservation_eq⟩

/-- A locked section of another caller leaves the owner what it had, up to the
retention of a finished task. -/
theorem Invariant.held_apply (invariant : Invariant clock state)
    (allocated : owner.signal < state.allocatedSignals)
    (operation : Operation) (now : ℕ)
    (others : ∀ other, operation.ActsFor other → other.signal ≠ owner.signal) :
    (state.held owner).Fades ((operation.apply now state).held owner) := by
  rcases Update.of_apply now state operation with same | update
  · rw [same]
    exact .same _
  · have purged := invariant.purged now
    have kept := (invariant.purgeExpired now).held_update
      (purged.allocatedSignals_eq ▸ allocated) update others
    rw [kept]
    exact invariant.held_purgeExpired owner now

theorem Update.allocatedSignals_le (update : Update reading state Acts after) :
    state.allocatedSignals ≤ after.allocatedSignals := by
  cases update with
  | reserved => exact Nat.le_succ _
  | released _ _ _ _ _ _ removed => subst removed; exact le_rfl
  | _ => exact le_rfl

/-- No signal is allocated twice. -/
theorem Invariant.allocatedSignals_le_apply (invariant : Invariant clock state)
    (operation : Operation) (now : ℕ) :
    state.allocatedSignals ≤ (operation.apply now state).allocatedSignals := by
  rcases Update.of_apply now state operation with same | update
  · rw [same]
  · rw [← (invariant.purged now).allocatedSignals_eq]
    exact update.allocatedSignals_le

end Others

/-! ### The owner's own operations -/

section Own

variable {clock : ℕ} {state : RegistryState} {owner : SubmitExecutionOwner}

namespace RegistryState

theorem held_eq_reserved_iff :
    state.held owner = .reserved ↔
      (∃ request, owner.Holds state request) ∧
        state.tasks.lookup owner.taskId = none := by
  by_cases held : ∃ request, owner.Holds state request
  · obtain ⟨request, holds⟩ := held
    rw [held_of_holds holds]
    cases stored : state.tasks.lookup owner.taskId with
    | none => simpa using ⟨request, holds⟩
    | some record => simp
  · simp only [held, false_and, iff_false]
    push Not at held
    rw [held_of_not_holds held]
    simp

theorem held_eq_published_iff {snapshot : TaskSnapshot} :
    state.held owner = .published snapshot ↔
      (∃ request, owner.Holds state request) ∧
        ∃ record, state.tasks.lookup owner.taskId = some record ∧
          record.snapshot = snapshot := by
  by_cases held : ∃ request, owner.Holds state request
  · obtain ⟨request, holds⟩ := held
    rw [held_of_holds holds]
    cases stored : state.tasks.lookup owner.taskId with
    | none => simp
    | some record => simpa using fun _ => ⟨request, holds⟩
  · simp only [held, false_and, iff_false]
    push Not at held
    rw [held_of_not_holds held]
    simp

/-- Storing a record for the owner shows its snapshot. -/
theorem held_insert {request : RequestRecord}
    (holds : owner.Holds state request) (record : TaskRecord)
    (expirations : List FinishedExpiration) :
    ({ state with
        tasks := state.tasks.insert owner.taskId record
        finishedExpirations := expirations }).held owner =
      .published record.snapshot := by
  refine held_eq_published_iff.mpr ⟨⟨request, ?_⟩, record, ?_, rfl⟩
  · exact ⟨holds.reserved, holds.taskId_eq, holds.reservation_eq⟩
  · exact Finmap.lookup_insert _

end RegistryState

/-- What an operation of the owner does to what the registry holds for it: a
failed one leaves that, up to the retention of a finished task. -/
def Outcome {Value : Type} (owner : SubmitExecutionOwner) (before : Held)
    (Done : Value → Held → Prop) :
    Except RegistryError Value × RegistryState → Prop
  | (.ok value, after) => Done value (after.held owner)
  | (.error _, after) => before.Fades (after.held owner)

namespace Invariant

/-- Publishing shows the running snapshot. -/
theorem outcome_publishRunning (invariant : Invariant clock state) (now : ℕ)
    (snapshot : TaskSnapshot) (limits : VerifiedEffectiveLimits)
    (cancellation : RunningCancellation) :
    Outcome owner (state.held owner)
      (fun published held => published = snapshot ∧ held = .published snapshot)
      (state.publishRunning now owner snapshot limits cancellation) := by
  unfold RegistryState.publishRunning
  split
  · exact .same _
  · split
    · exact .same _
    · dsimp only
      split
      · exact invariant.held_purgeExpired owner now
      · rename_i verified
        split
        · exact invariant.held_purgeExpired owner now
        · obtain ⟨request, holds⟩ :=
            RegistryState.verifyOwner_eq_ok_iff.mp verified
          exact ⟨rfl, RegistryState.held_insert holds _ _⟩

/-- Finishing shows the finished snapshot. -/
theorem outcome_finishSnapshot (invariant : Invariant clock state)
    (now finishedMonotonic : ℕ) (snapshot : TaskSnapshot) :
    Outcome owner (state.held owner)
      (fun publication held =>
        publication.snapshot = snapshot ∧ snapshot.isFinished = true ∧
          held = .published snapshot)
      (state.finishSnapshot now finishedMonotonic owner snapshot) := by
  unfold RegistryState.finishSnapshot
  split
  · exact .same _
  · split
    · exact .same _
    · dsimp only
      split
      · exact invariant.held_purgeExpired owner now
      · rename_i verified
        obtain ⟨request, holds⟩ :=
          RegistryState.verifyOwner_eq_ok_iff.mp verified
        split
        · split
          · exact invariant.held_purgeExpired owner now
          · exact ⟨rfl, rfl, RegistryState.held_insert holds _ _⟩
        · exact ⟨rfl, rfl, RegistryState.held_insert holds _ _⟩

/-- A released reservation is gone; a published task stays. -/
theorem outcome_releaseFailedOwner (invariant : Invariant clock state)
    (now : ℕ) :
    Outcome owner (state.held owner)
      (fun kept held =>
        if kept.isNone then held = .nothing
        else (state.held owner).Fades held)
      (state.releaseFailedOwner now owner) := by
  unfold RegistryState.releaseFailedOwner
  dsimp only
  split
  · exact invariant.held_purgeExpired owner now
  · split
    · exact invariant.held_purgeExpired owner now
    · refine RegistryState.held_of_not_holds fun request holds => ?_
      exact (Table.lookup_erase_eq_some_iff.mp holds.reserved).1 rfl

/-- The running snapshot of a reserved task is accepted. -/
theorem isOk_publishRunning (invariant : Invariant clock state) (now : ℕ)
    (reserved : state.held owner = .reserved)
    (submittedAt startedAt : String) (limits : VerifiedEffectiveLimits)
    (cancellation : RunningCancellation) :
    (state.publishRunning now owner
      (.running owner.taskId submittedAt startedAt) limits cancellation
      ).1.isOk = true := by
  have kept := (invariant.held_purgeExpired owner now).eq_of_not_resolved
    (by simp [reserved, Held.Resolved])
  obtain ⟨holds, unpublished⟩ :=
    RegistryState.held_eq_reserved_iff.mp (kept.trans reserved)
  have verified := RegistryState.verifyOwner_eq_ok_iff.mpr holds
  simp [RegistryState.publishRunning, RegistryState.verifyTaskId, verified,
    Finmap.lookup_eq_none.mp unpublished, Except.isOk, Except.toBool]

/-- The finished snapshot of a task that is not finished is accepted. -/
theorem isOk_finishSnapshot (invariant : Invariant clock state)
    (now finishedMonotonic : ℕ) {result : TaskResult}
    (named : result.taskId = owner.taskId)
    (unfinished : ¬ (state.held owner).Resolved) :
    (state.finishSnapshot now finishedMonotonic owner (.finished result)
      ).1.isOk = true := by
  have kept :=
    (invariant.held_purgeExpired owner now).eq_of_not_resolved unfinished
  have stamped := (invariant.purgeExpired now).records_wellFormed owner.taskId
  cases held : state.held owner with
  | nothing => simp [held, Held.Resolved] at unfinished
  | reserved =>
      obtain ⟨holds, unpublished⟩ :=
        RegistryState.held_eq_reserved_iff.mp (kept.trans held)
      have verified := RegistryState.verifyOwner_eq_ok_iff.mpr holds
      simp [RegistryState.finishSnapshot, RegistryState.verifyTaskId, named,
        verified, unpublished, Except.isOk, Except.toBool]
  | published snapshot =>
      obtain ⟨holds, record, stored, rfl⟩ :=
        RegistryState.held_eq_published_iff.mp (kept.trans held)
      have verified := RegistryState.verifyOwner_eq_ok_iff.mpr holds
      rw [held, Held.Resolved, (stamped record stored).stamped] at unfinished
      simp [RegistryState.finishSnapshot, RegistryState.verifyTaskId, named,
        verified, stored, unfinished, Except.isOk, Except.toBool]

end Invariant
end Own
end Registry
end TaskCage
