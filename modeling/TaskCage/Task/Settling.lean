import TaskCage.Task.Standing

/-!
# Settling a task

What the longer pieces of an owner lead to, and what its three ends add to the
log: the slot is settled once, the caller is answered unless it was before, and
what remains of the task is either nothing unfinished or under a fail-stop.
-/

namespace TaskCage
namespace Task

open Executor FailStop Linux Process Registry

/-- Steps that neither settle the slot nor answer the caller nor finish the
task nor begin the fail-stop. -/
def OwnerStep.isNeutral : OwnerStep → Bool
  | slotReleased => false
  | slotRetained => false
  | initialSent _ => false
  | finishedStored _ => false
  | executed _ => false
  | activated _ => false
  | _ => true

/-- Only neutral steps. -/
def Neutral (log : List OwnerStep) : Prop :=
  ∀ step ∈ log, step.isNeutral = true

variable {step : OwnerStep} {log : List OwnerStep}

theorem neutral_one (neutral : step.isNeutral = true) :
    Neutral [step] := by
  simpa [Neutral] using neutral

theorem neutral_two {first second : OwnerStep}
    (neutral : (first.isNeutral && second.isNeutral) = true) :
    Neutral [first, second] := by
  simpa [Neutral] using neutral

/-- A terminal snapshot of the owner's task. -/
def Finishes (owner : SubmitExecutionOwner) (payload : TaskSnapshot) : Prop :=
  ∃ result, payload = .finished result ∧ result.taskId = owner.taskId

/-- The task is still to be finished. -/
def Unfinished (Holds : Held → Prop) : Prop :=
  ∀ held, Holds held → ¬ held.Resolved

section Composite

variable {owner : SubmitExecutionOwner} {registration : ℕ} {Panics : Prop}
variable {Holds : Held → Prop} {Active Stopping : Prop} (lasts : Lasts Holds)
include lasts

variable (failure : SubmitFailure) (payload : TaskSnapshot)
variable (publication : FinishedTaskPublication)

/-- A failed owner leaves whatever the registry held. -/
theorem ensures_failOwner :
    Carries owner registration Panics log Holds Active Stopping
      (failOwner owner failure)
      fun _ world => ∃ middle, Neutral middle ∧
        Standing owner registration Panics (log ++ middle) (fun _ => True) Active
          Stopping world := by
  refine .bind (ensures_releaseFailedOwner lasts) fun released => ?_
  split
  · refine .bind (ensures_signal lasts_nothing _) fun _ =>
      .pure fun world standing => ?_
    rw [List.append_assoc] at standing
    exact ⟨_, neutral_two rfl, { standing with held := trivial }⟩
  · refine .bind (ensures_signal lasts _) fun _ =>
      .pure fun world standing => ?_
    exact ⟨_, neutral_one rfl, { standing with held := trivial }⟩

/-- Storing the finished snapshot fails only where it must. -/
theorem ensures_finishSnapshot :
    Carries owner registration Panics log Holds Active Stopping
      (finishSnapshot owner payload)
      fun result world =>
        match result with
        | .ok publication =>
            publication.snapshot = payload ∧ payload.isFinished = true ∧
              Standing owner registration Panics
                (log ++ [.finishedStored payload]) (Shown payload) Active
                Stopping world
        | .error _ =>
            (Finishes owner payload → Unfinished Holds → Panics) ∧
              Standing owner registration Panics log Holds Active Stopping
                world := by
  refine (ensures_lockRegistry lasts _ _
    (fun pause => .finishSnapshot owner payload pause)
    (fun _ publication held => publication.snapshot = payload ∧
      payload.isFinished = true ∧ held = .published payload)
    (fun publication held => publication.snapshot = payload ∧
      payload.isFinished = true ∧ Shown payload held)
    (fun _ _ _ => rfl) (fun _ _ => le_rfl)
    (fun now pause _ invariant =>
      invariant.outcome_finishSnapshot now (now + pause) payload)
    fun _ publication held _ done => ⟨done.1, done.2.1, .inl done.2.2⟩).mono
    fun result world standing => ?_
  cases result with
  | error error =>
      obtain ⟨standing, refused⟩ := standing
      refine ⟨?_, standing⟩
      rintro ⟨result, rfl, named⟩ unfinished
      refine refused ?_ fun now pause registry invariant holds =>
        invariant.isOk_finishSnapshot now _ named (unfinished _ holds)
      simp [checkFinished, RegistryState.verifyTaskId, named]
  | ok publication =>
      obtain ⟨same, finished, shown⟩ := standing.held
      refine ⟨same, finished, { standing with held := shown, log_eq := ?_ }⟩
      simpa [same] using standing.log_eq

/-- A finished owner has stored its snapshot; otherwise it failed. -/
theorem ensures_finishOwner :
    Carries owner registration Panics log Holds Active Stopping
      (finishOwner owner payload)
      fun result world =>
        match result with
        | .ok publication =>
            publication.snapshot = payload ∧ payload.isFinished = true ∧
              Standing owner registration Panics
                (log ++ [.finishedStored payload]) (Shown payload) Active
                Stopping world
        | .error _ =>
            (Finishes owner payload → Unfinished Holds → Panics) ∧
              ∃ middle, Neutral middle ∧
                Standing owner registration Panics (log ++ middle)
                  (fun _ => True) Active Stopping world := by
  refine .bind (ensures_finishSnapshot lasts payload) fun result => ?_
  cases result with
  | ok publication => exact .pure fun _ stored => stored
  | error error =>
      exact .and_elim fun refused => .bind (ensures_failOwner lasts _)
        fun _ => .pure fun _ failed => ⟨refused, failed⟩

/-- A rollback took the reservation back, or it failed. -/
theorem ensures_rollbackBeforeRunning :
    Carries owner registration Panics log Holds Active Stopping
      (rollbackBeforeRunning owner failure)
      fun result world => ∃ middle, Neutral middle ∧
        match result with
        | .ok _ => Standing owner registration Panics (log ++ middle) (· = .nothing)
            Active Stopping world
        | .error _ => Standing owner registration Panics (log ++ middle)
            (fun _ => True) Active Stopping world := by
  refine .bind (ensures_releaseFailedOwner lasts) fun released => ?_
  split
  · rename_i withdrawn
    subst withdrawn
    refine .bind (ensures_signal lasts_nothing _) fun _ =>
      .pure fun world standing => ?_
    rw [List.append_assoc] at standing
    exact ⟨_, neutral_two rfl, standing⟩
  · rename_i kept
    refine .bind (ensures_signal lasts _) fun _ =>
      .pure fun world standing => ?_
    rcases released with _ | _ | snapshot
    · exact ⟨_, neutral_one rfl, { standing with held := trivial }⟩
    · exact absurd rfl kept
    · exact ⟨_, neutral_one rfl, { standing with held := trivial }⟩

theorem ensures_publishCompletion :
    Carries owner registration Panics log Holds Active Stopping
      (publishCompletion publication)
      fun result world => result = publication.snapshot ∧
        ∃ wakes, Neutral wakes ∧ Standing owner registration Panics (log ++ wakes)
          Holds Active Stopping world := by
  unfold publishCompletion
  cases publication.cancellation with
  | none =>
      refine .bind (.pure fun _ standing => standing) fun _ =>
        .bind (ensures_signal lasts _) fun _ => .pure fun world standing => ?_
      exact ⟨rfl, _, neutral_one rfl, standing⟩
  | some cancellation =>
      refine .bind (ensures_perform lasts _ (fun _ => rfl) (fun _ => rfl) fun _ => rfl)
        fun _ => .bind (ensures_signal lasts _) fun _ =>
          .pure fun world standing => ?_
      rw [List.append_assoc] at standing
      exact ⟨rfl, _, neutral_two rfl, standing⟩

/-- The execution ends, then the slot is settled, then others are woken. -/
theorem ensures_publishFinished :
    Carries owner registration Panics log Holds Active Stopping
      (publishFinished owner.taskId publication)
      fun result world => result = publication.snapshot ∧
        ∃ slot wakes, slot.isSlot = true ∧ Neutral wakes ∧
          Standing owner registration Panics
            (log ++ [.deactivated, slot] ++ wakes) Holds False
            (Stopping ∨ slot = .slotRetained) world := by
  refine .bind (ensures_completeActive lasts) fun _ =>
    .bind (ensures_releaseCapacity lasts) fun _ => .exists_elim fun slot =>
      .and_elim fun settles => ?_
  refine (ensures_publishCompletion lasts publication).mono
    fun result world ⟨same, wakes, neutral, standing⟩ => ?_
  refine ⟨same, slot, wakes, settles, neutral, ?_⟩
  simpa using standing

end Composite

/-! ### Closing the books -/

/-- Whether the executor reported a confirmed cleanup that leaves the slot
reusable. -/
def Confirmed : Except ExecutionFailure TaskSnapshot → Prop
  | .ok _ => True
  | .error failure => failure.capacityReusable = true

/-- Whether the executor reported a confirmed cleanup. -/
def CleanedUp : Except ExecutionFailure TaskSnapshot → Prop
  | .ok _ => True
  | .error failure => failure.cleanupComplete = true

/-- What the registry may hold of a settled task: nothing, or its finished
snapshot. -/
def Final (completion : Except ExecutionFailure TaskSnapshot) (held : Held) :
    Prop :=
  held = .nothing ∨ ∃ snapshot, completion = .ok snapshot ∧
    snapshot.isFinished = true ∧ held = .published snapshot

/-- Nothing but the executor keeps the owner from storing a result. -/
def Accepted (owner : SubmitExecutionOwner) (Panics : Prop)
    (completion : Except ExecutionFailure TaskSnapshot) : Prop :=
  ¬ Panics ∧ ∃ payload, completion = .ok payload ∧ Finishes owner payload

/-- The end of a log, where `answered` answers were sent before. -/
structure Closing (owner : SubmitExecutionOwner) (Panics : Prop)
    (completion : Except ExecutionFailure TaskSnapshot)
    (answered : ℕ) (closing : List OwnerStep) (Holds : Held → Prop)
    (Active Stopping : Prop) : Prop where
  slot : closing.countP OwnerStep.isSlot = 1
  initial : answered + closing.countP OwnerStep.isInitial = 1
  executed : ∀ other, .executed other ∉ closing
  released : .slotReleased ∈ closing → Confirmed completion
  retained : .slotRetained ∈ closing → Stopping
  active : Active ∨ CleanedUp completion
  held : Stopping ∨ ∀ held, Holds held → Final completion held
  ordered : ∀ snapshot, .finishedStored snapshot ∈ closing →
    ∃ slot wakes, slot.isSlot = true ∧
      closing = [.finishedStored snapshot, .deactivated, slot] ++ wakes
  stored : Accepted owner Panics completion →
    (∃ payload, completion = .ok payload ∧
      .finishedStored payload ∈ closing) ∧
      ∀ report, .activated report ∉ closing

/-! ### Significant steps -/

/-- The steps that matter for the account. -/
def significant (log : List OwnerStep) : List OwnerStep :=
  log.filter fun step => !step.isNeutral

@[simp] theorem significant_append (first second : List OwnerStep) :
    significant (first ++ second) = significant first ++ significant second :=
  List.filter_append ..

@[simp] theorem significant_nil : significant [] = [] :=
  rfl

@[simp] theorem significant_cons (step : OwnerStep) (log : List OwnerStep) :
    significant (step :: log) =
      if step.isNeutral then significant log else step :: significant log := by
  cases neutral : step.isNeutral <;> simp [significant, neutral]

theorem Neutral.significant_eq (neutral : Neutral log) :
    significant log = [] :=
  List.filter_eq_nil_iff.mpr fun step member => by simp [neutral step member]

theorem mem_significant_iff (special : step.isNeutral = false) :
    step ∈ significant log ↔ step ∈ log := by
  simp [significant, special]

/-- Only significant steps are counted. -/
theorem countP_significant {counts : OwnerStep → Bool}
    (special : ∀ step, counts step = true → step.isNeutral = false) :
    (significant log).countP counts = log.countP counts := by
  rw [significant, List.countP_filter]
  refine List.countP_congr fun step _ => ?_
  simpa using special step

theorem isNeutral_of_isSlot (step : OwnerStep) (settles : step.isSlot = true) :
    step.isNeutral = false := by
  cases step <;> simp_all [OwnerStep.isSlot, OwnerStep.isNeutral]

theorem isNeutral_of_isInitial (step : OwnerStep)
    (answers : step.isInitial = true) : step.isNeutral = false := by
  cases step <;> simp_all [OwnerStep.isInitial, OwnerStep.isNeutral]

section Closing

variable {owner : SubmitExecutionOwner} {Panics : Prop}
variable {completion : Except ExecutionFailure TaskSnapshot}
variable {answered : ℕ} {closing entries : List OwnerStep}
variable {Holds : Held → Prop} {Active Stopping : Prop}

/-- The conditions on the slot and on the answer are about significant steps
only. -/
theorem closing_of_significant (same : significant closing = entries)
    (slot : entries.countP OwnerStep.isSlot = 1)
    (initial : answered + entries.countP OwnerStep.isInitial = 1)
    (executed : ∀ other, .executed other ∉ entries)
    (released : .slotReleased ∈ entries → Confirmed completion)
    (retained : .slotRetained ∈ entries → Stopping)
    (active : Active ∨ CleanedUp completion)
    (held : Stopping ∨ ∀ held, Holds held → Final completion held)
    (ordered : ∀ snapshot, .finishedStored snapshot ∈ entries →
      ∃ slot wakes, slot.isSlot = true ∧
        closing = [.finishedStored snapshot, .deactivated, slot] ++ wakes)
    (stored : Accepted owner Panics completion →
      (∃ payload, completion = .ok payload ∧
        .finishedStored payload ∈ entries) ∧
        ∀ report, .activated report ∉ entries) :
    Closing owner Panics completion answered closing Holds Active Stopping := by
  subst same
  exact
    { slot := by rwa [countP_significant isNeutral_of_isSlot] at slot
      initial := by rwa [countP_significant isNeutral_of_isInitial] at initial
      executed := fun other member =>
        executed other ((mem_significant_iff rfl).mpr member)
      released := fun member => released ((mem_significant_iff rfl).mpr member)
      retained := fun member => retained ((mem_significant_iff rfl).mpr member)
      active
      held
      ordered := fun snapshot member =>
        ordered snapshot ((mem_significant_iff rfl).mpr member)
      stored := fun accepted =>
        ⟨(stored accepted).1.imp fun _ entry =>
            ⟨entry.1, (mem_significant_iff rfl).mp entry.2⟩,
          fun report member => (stored accepted).2 report
            ((mem_significant_iff rfl).mpr member)⟩ }

/-- The answer that is still to be sent. -/
def answers (answer : Option SubmitObservation) : List OwnerStep :=
  (answer.map .initialSent).toList

variable {payload : TaskSnapshot} {slot : OwnerStep}

/-- The end of the log of a task that was finished. -/
theorem closing_finished (finished : payload.isFinished = true)
    (settles : slot.isSlot = true) {wakes : List OwnerStep}
    (neutral : Neutral wakes) (answer : Option SubmitObservation)
    (initial : answered + (answers answer).length = 1) :
    Closing owner Panics (.ok payload) answered
      ([.finishedStored payload, .deactivated, slot] ++ wakes ++ answers answer)
      (Shown payload) False (Stopping ∨ slot = .slotRetained) := by
  have either : slot = .slotReleased ∨ slot = .slotRetained := by
    cases slot <;> simp_all [OwnerStep.isSlot]
  have same : significant ([.finishedStored payload, .deactivated, slot] ++
      wakes ++ answers answer) =
        [.finishedStored payload, slot] ++ answers answer := by
    rcases either with rfl | rfl <;> cases answer <;>
      simp [neutral.significant_eq, answers, OwnerStep.isNeutral]
  refine closing_of_significant same ?slot ?initial ?once
    (fun _ => trivial) ?retained (.inr trivial) (.inr ?held) ?ordered ?stored
  case slot =>
    rcases either with rfl | rfl <;> cases answer <;>
      simp [answers, List.countP_cons, OwnerStep.isSlot]
  case initial =>
    rcases either with rfl | rfl <;> cases answer <;>
      simpa [answers, List.countP_cons, OwnerStep.isInitial] using initial
  case once =>
    rcases either with rfl | rfl <;> cases answer <;> simp [answers]
  case retained =>
    rcases either with rfl | rfl <;> cases answer <;> simp [answers]
  case held =>
    rintro held (shown | gone)
    · exact .inr ⟨payload, rfl, finished, shown⟩
    · exact .inl gone
  case ordered =>
    intro snapshot member
    have stored : snapshot = payload := by
      rcases either with rfl | rfl <;> cases answer <;>
        simpa [answers] using member
    subst stored
    exact ⟨slot, wakes ++ answers answer, settles, List.append_assoc ..⟩
  case stored =>
    intro _
    refine ⟨⟨payload, rfl, by simp⟩, ?_⟩
    rcases either with rfl | rfl <;> cases answer <;> simp [answers]

/-- Steps of an owner that gives up. -/
def OwnerStep.givesUp : OwnerStep → Bool
  | slotRetained => true
  | initialSent _ => true
  | activated _ => true
  | _ => false

/-- The end of a log under a fail-stop. -/
theorem closing_stopping (entries : List OwnerStep)
    (same : significant closing = entries)
    (givesUp : entries.all OwnerStep.givesUp = true)
    (slot : entries.countP OwnerStep.isSlot = 1)
    (initial : answered + entries.countP OwnerStep.isInitial = 1)
    (active : Active ∨ CleanedUp completion)
    (failed : ¬ Accepted owner Panics completion) :
    Closing owner Panics completion answered closing Holds Active True := by
  have absent : ∀ step : OwnerStep, step.givesUp = false →
      step ∉ entries := by
    intro step other member
    exact absurd (List.all_eq_true.mp givesUp step member) (by simp [other])
  exact closing_of_significant same slot initial
    (fun _ => absent _ rfl) (fun released => absurd released (absent _ rfl))
    (fun _ => trivial) active (.inl trivial)
    (fun _ stored => absurd stored (absent _ rfl))
    fun accepted => absurd accepted failed

theorem not_accepted_of_refused (unfinished : Unfinished Holds)
    (refused : Finishes owner payload → Unfinished Holds → Panics) :
    ¬ Accepted owner Panics (.ok payload) := by
  rintro ⟨sane, _, same, finishes⟩
  cases same
  exact sane (refused finishes unfinished)

theorem not_accepted_error (failure : ExecutionFailure) :
    ¬ Accepted owner Panics (.error failure) := by
  rintro ⟨-, payload, isOk, -⟩
  cases isOk

/-- The end of the log of a task that left nothing behind. -/
theorem closing_rolledBack {failure : ExecutionFailure}
    (reusable : failure.capacityReusable = true)
    (complete : failure.cleanupComplete = true) (settles : slot.isSlot = true)
    {middle : List OwnerStep} (neutral : Neutral middle)
    (observation : SubmitObservation) :
    Closing owner Panics (.error failure) 0
      (middle ++ [.deactivated, slot, .initialSent observation])
      (· = .nothing) False (Stopping ∨ slot = .slotRetained) := by
  have either : slot = .slotReleased ∨ slot = .slotRetained := by
    cases slot <;> simp_all [OwnerStep.isSlot]
  have same : significant
      (middle ++ [.deactivated, slot, .initialSent observation]) =
        [slot, .initialSent observation] := by
    rcases either with rfl | rfl <;>
      simp [neutral.significant_eq, OwnerStep.isNeutral]
  refine closing_of_significant same ?slot ?initial ?once
    (fun _ => reusable) ?retained (.inr complete)
    (.inr fun _ gone => .inl gone) ?unfinished
    fun accepted => absurd accepted (not_accepted_error failure)
  case slot => rcases either with rfl | rfl <;> rfl
  case initial => rcases either with rfl | rfl <;> rfl
  case once => rcases either with rfl | rfl <;> simp
  case retained => rcases either with rfl | rfl <;> simp
  case unfinished => rcases either with rfl | rfl <;> simp

end Closing

/-! ### The three ends -/

/-- The log was closed. -/
def Closed (owner : SubmitExecutionOwner) (registration : ℕ) (Panics : Prop)
    (completion : Except ExecutionFailure TaskSnapshot) (answered : ℕ)
    (log : List OwnerStep) (world : OwnerWorld) : Prop :=
  ∃ closing Holds Active Stopping,
    Closing owner Panics completion answered closing Holds Active Stopping ∧
      Standing owner registration Panics (log ++ closing) Holds Active
        Stopping world

theorem Standing.closed {owner : SubmitExecutionOwner} {registration : ℕ}
    {Panics : Prop} {completion : Except ExecutionFailure TaskSnapshot}
    {answered : ℕ} {whole : List OwnerStep} {Holds : Held → Prop}
    {Active Stopping : Prop} {world : OwnerWorld}
    (standing : Standing owner registration Panics whole Holds Active Stopping
      world) (closing : List OwnerStep)
    (closes : Closing owner Panics completion answered closing Holds Active
      Stopping) (split : whole = log ++ closing) :
    Closed owner registration Panics completion answered log world :=
  ⟨closing, Holds, Active, Stopping, closes, split ▸ standing⟩

/-- What the executor guarantees about a failure: a reusable slot is clean,
and a clean slot that is not reusable comes with a fail-stop. -/
structure Reported (completion : Except ExecutionFailure TaskSnapshot)
    (Stopping : Prop) : Prop where
  reusable : ∀ failure, completion = .error failure →
    failure.capacityReusable = true → failure.cleanupComplete = true
  stopped : ∀ failure, completion = .error failure →
    failure.capacityReusable = false → failure.cleanupComplete = true →
    Stopping

section Ends

variable {owner : SubmitExecutionOwner} {registration : ℕ} {Panics : Prop}
variable {Holds : Held → Prop} {Stopping : Prop}
variable {completion : Except ExecutionFailure TaskSnapshot}
variable {failure : ExecutionFailure}

/-- The registry has refused: the slot is kept, the client is told, and the
daemon stops. -/
theorem ensures_refused {middle : List OwnerStep} (neutral : Neutral middle)
    (failed : ¬ Accepted owner Panics completion) (error : RegistryError) :
    Carries owner registration Panics (log ++ middle) (fun _ => True) True
      Stopping
      (do
        retainForFailStop
        sendInitial (.failed (registryFailure error))
        dropActive owner.taskId)
      fun _ => Closed owner registration Panics completion 0 log := by
  refine .bind (ensures_retain lasts_true) fun _ =>
    .bind (ensures_sendInitial lasts_true _) fun _ =>
      (ensures_startFailStop lasts_true _).mono fun _ world standing => ?_
  refine standing.closed
    (middle ++ [.slotRetained, .initialSent (.failed (registryFailure error)),
      .activated (Coordinator.droppedReport owner.taskId)])
    (closing_stopping [.slotRetained,
      .initialSent (.failed (registryFailure error)),
      .activated (Coordinator.droppedReport owner.taskId)]
      ?_ rfl rfl rfl (.inl trivial) failed) (by simp)
  simp [neutral.significant_eq, OwnerStep.isNeutral]

variable (lasts : Lasts Holds)
include lasts

/-- A task that was published as running. -/
theorem ensures_finishRunning (unfinished : Unfinished Holds)
    (completion : Except ExecutionFailure TaskSnapshot) :
    Carries owner registration Panics log Holds True Stopping
      (finishRunning owner completion)
      fun _ => Closed owner registration Panics completion 1 log := by
  cases completion with
  | ok payload =>
      refine .bind (ensures_finishOwner lasts payload) fun result => ?_
      cases result with
      | ok publication =>
          refine .and_elim fun _ => .and_elim fun finished =>
            .bind (ensures_publishFinished (lasts_shown payload) publication)
              fun _ => .pure ?_
          rintro world ⟨-, slot, wakes, settles, neutral, standing⟩
          exact standing.closed _
            (closing_finished finished settles neutral none rfl)
            (by simp [answers])
      | error error =>
          refine .and_elim fun refused => .exists_elim fun middle =>
            .and_elim fun neutral => .bind (ensures_retain lasts_true)
              fun _ => (ensures_startFailStop lasts_true _).mono
                fun _ world standing => ?_
          refine standing.closed
            (middle ++ [.slotRetained,
              .activated (Coordinator.droppedReport owner.taskId)])
            (closing_stopping [.slotRetained,
              .activated (Coordinator.droppedReport owner.taskId)]
              ?_ rfl rfl rfl (.inl trivial)
              (not_accepted_of_refused unfinished refused)) (by simp)
          simp [neutral.significant_eq, OwnerStep.isNeutral]
  | error failure =>
      refine .bind (ensures_startFailStop lasts _) fun _ =>
        .bind (ensures_failOwner lasts failure.submit) fun _ =>
          .exists_elim fun middle => .and_elim fun neutral => ?_
      split
      · rename_i complete
        refine .bind (ensures_completeActive lasts_true) fun _ =>
          (ensures_retain lasts_true).mono fun _ world standing => ?_
        refine standing.closed
          ([.activated (runningFailureReport owner.taskId)] ++ middle ++
            [.deactivated, .slotRetained])
          (closing_stopping [.activated (runningFailureReport owner.taskId),
            .slotRetained] ?_ rfl rfl rfl (.inr complete)
            (not_accepted_error failure)) (by simp)
        simp [neutral.significant_eq, OwnerStep.isNeutral]
      · refine .bind (ensures_retain lasts_true) fun _ =>
          (ensures_startFailStop lasts_true _).mono fun _ world standing => ?_
        refine standing.closed
          ([.activated (runningFailureReport owner.taskId)] ++ middle ++
            [.slotRetained, .activated (Coordinator.droppedReport owner.taskId)])
          (closing_stopping [.activated (runningFailureReport owner.taskId),
            .slotRetained, .activated (Coordinator.droppedReport owner.taskId)]
            ?_ rfl rfl rfl (.inl trivial) (not_accepted_error failure))
          (by simp)
        simp [neutral.significant_eq, OwnerStep.isNeutral]

/-- A task that left nothing behind before it ran. -/
theorem ensures_finishReusable (reusable : failure.capacityReusable = true)
    (complete : failure.cleanupComplete = true) :
    Carries owner registration Panics log Holds True Stopping
      (finishReusable owner failure)
      fun _ => Closed owner registration Panics (.error failure) 0 log := by
  refine .bind (ensures_rollbackBeforeRunning lasts failure.submit)
    fun result => .exists_elim fun middle => .and_elim fun neutral => ?_
  cases result with
  | ok observation =>
      refine .bind (ensures_completeActive lasts_nothing) fun _ =>
        .bind (ensures_releaseCapacity lasts_nothing) fun _ =>
          .exists_elim fun slot => .and_elim fun settles =>
            (ensures_sendInitial lasts_nothing _).mono
              fun _ world standing => ?_
      exact standing.closed
        (middle ++ [.deactivated, slot, .initialSent observation])
        (closing_rolledBack reusable complete settles neutral observation)
        (by simp)
  | error error =>
      exact ensures_refused neutral (not_accepted_error failure) error

/-- A task whose slot must not be used again. -/
theorem ensures_finishBlocked
    (stopped : failure.cleanupComplete = true → Stopping) :
    Carries owner registration Panics log Holds True Stopping
      (finishBlocked owner failure)
      fun _ => Closed owner registration Panics (.error failure) 0 log := by
  refine .bind (ensures_retain lasts) fun _ =>
    .bind (ensures_failOwner lasts failure.submit) fun observation =>
      .exists_elim fun middle => .and_elim fun neutral => ?_
  split
  · rename_i complete
    refine .bind (ensures_completeActive lasts_true) fun _ =>
      (ensures_sendInitial lasts_true _).mono fun _ world standing => ?_
    have stopping : Standing owner registration Panics _ (fun _ => True) False
        True world :=
      { standing with
        stopping := fun _ => standing.stopping (stopped complete) }
    refine stopping.closed
      ([.slotRetained] ++ middle ++ [.deactivated, .initialSent observation])
      (closing_stopping [.slotRetained, .initialSent observation]
        ?_ rfl rfl rfl (.inr complete) (not_accepted_error failure))
      (by simp)
    simp [neutral.significant_eq, OwnerStep.isNeutral]
  · refine .bind (ensures_sendInitial lasts_true _) fun _ =>
      (ensures_startFailStop lasts_true _).mono fun _ world standing => ?_
    refine standing.closed
      ([.slotRetained] ++ middle ++ [.initialSent observation,
        .activated (Coordinator.droppedReport owner.taskId)])
      (closing_stopping [.slotRetained, .initialSent observation,
        .activated (Coordinator.droppedReport owner.taskId)]
        ?_ rfl rfl rfl (.inl trivial) (not_accepted_error failure))
      (by simp)
    simp [neutral.significant_eq, OwnerStep.isNeutral]

/-- A task that was never published as running. -/
theorem ensures_finishWithoutRunning (unfinished : Unfinished Holds)
    (reported : Reported completion Stopping) :
    Carries owner registration Panics log Holds True Stopping
      (finishWithoutRunning owner completion)
      fun _ => Closed owner registration Panics completion 0 log := by
  cases completion with
  | ok payload =>
      refine .bind (ensures_finishOwner lasts payload) fun result => ?_
      cases result with
      | ok publication =>
          refine .and_elim fun same => .and_elim fun finished =>
            .bind (ensures_publishFinished (lasts_shown payload) publication)
              fun shown => .and_elim fun _ => .exists_elim fun slot =>
                .exists_elim fun wakes => .and_elim fun settles =>
                  .and_elim fun neutral => ?_
          refine (ensures_sendInitial (lasts_shown payload) _).mono
            fun _ world standing => ?_
          exact standing.closed _
            (closing_finished finished settles neutral (some (.task shown))
              rfl) (by simp [answers])
      | error error =>
          refine .and_elim fun refused => .exists_elim fun middle =>
            .and_elim fun neutral => ?_
          exact ensures_refused neutral
            (not_accepted_of_refused unfinished refused) error
  | error failure =>
      change Ensures _ _ (if _ then _ else _) _
      split
      · rename_i reusable
        exact ensures_finishReusable lasts reusable
          (reported.reusable failure rfl reusable)
      · rename_i blocked
        exact ensures_finishBlocked lasts
          (reported.stopped failure rfl (by simpa using blocked))

end Ends
end Task
end TaskCage
