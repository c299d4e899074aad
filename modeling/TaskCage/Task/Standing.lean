import TaskCage.Task.Others

/-!
# Where an owner stands

An assertion about an owner between two of its steps: what it has logged, what
the registry holds for it, whether its execution is active and whether a
fail-stop has begun.  No other thread breaks it, and every step of the owner
leads from one such assertion to another.
-/

namespace TaskCage
namespace Task

open Executor FailStop Linux Process Registry

/-- What the registry holds is stable while the owner does nothing. -/
def Lasts (Holds : Held → Prop) : Prop :=
  ∀ before after, Held.Fades before after → Holds before → Holds after

theorem lasts_true : Lasts fun _ => True :=
  fun _ _ _ _ => trivial

theorem lasts_reserved : Lasts (· = .reserved) := by
  rintro _ _ (_ | _) equal
  · exact equal
  · exact absurd equal (by simp)

theorem lasts_running {snapshot : TaskSnapshot}
    (running : snapshot.isFinished = false) :
    Lasts (· = .published snapshot) := by
  rintro _ _ (_ | ⟨_, finished⟩) equal
  · exact equal
  · cases equal
    exact absurd finished (by simp [running])

/-- A published task that may have expired. -/
def Shown (snapshot : TaskSnapshot) (held : Held) : Prop :=
  held = .published snapshot ∨ held = .nothing

theorem lasts_shown (snapshot : TaskSnapshot) : Lasts (Shown snapshot) := by
  rintro _ _ (_ | _) shown
  · exact shown
  · exact .inr rfl

theorem lasts_nothing : Lasts (· = .nothing) := by
  rintro _ _ (_ | _) equal
  · exact equal
  · exact absurd equal (by simp)

/-- The three ends of a locked section. -/
theorem OwnerShared.underLock_cases {Value : Type}
    (checked : Except RegistryError Unit) (note : Value → Option OwnerStep)
    (locked : RegistryState → Except RegistryError Value × RegistryState)
    (rest : OwnerShared) :
    (∃ error, rest.underLock checked note locked = (.error error, rest) ∧
        (checked = .ok () → rest.poisoned = true)) ∨
      (∃ error registry, locked rest.registry = (.error error, registry) ∧
        rest.underLock checked note locked =
          (.error error, { rest with registry })) ∨
      ∃ value registry, locked rest.registry = (.ok value, registry) ∧
        rest.underLock checked note locked =
          (.ok value, { rest with
            registry
            log := rest.log ++ (note value).toList }) := by
  unfold OwnerShared.underLock
  cases checked with
  | error error => exact .inl ⟨error, rfl, nofun⟩
  | ok _ =>
      dsimp only
      split
      · rename_i poisoned
        exact .inl ⟨_, rfl, fun _ => poisoned⟩
      · rcases locked rest.registry with ⟨_ | value, registry⟩
        · exact .inr (.inl ⟨_, registry, rfl, rfl⟩)
        · exact .inr (.inr ⟨value, registry, rfl, rfl⟩)

section Standing

variable (owner : SubmitExecutionOwner) (registration : ℕ) (Panics : Prop)

/-- Where an owner stands. -/
structure Standing (log : List OwnerStep) (Holds : Held → Prop)
    (Active Stopping : Prop) (world : OwnerWorld) : Prop where
  orderly : Orderly owner world.now world.shared.rest.registry
  log_eq : world.shared.rest.log = log
  held : Holds (world.shared.rest.registry.held owner)
  active : Active → Registered owner registration world.shared.coordinator
  stopping : Stopping → world.shared.coordinator.isFailStopping = true
  usable : ¬ Panics → world.shared.rest.poisoned = false

/-- What code ensures from where an owner stands, whatever the others do. -/
abbrev Carries {Result : Type} (log : List OwnerStep) (Holds : Held → Prop)
    (Active Stopping : Prop) (code : Owned Result)
    (Post : Result → OwnerWorld → Prop) : Prop :=
  Ensures (OtherSteps owner registration Panics)
    (Standing owner registration Panics log Holds Active Stopping) code Post

variable {owner registration Panics}
variable {log : List OwnerStep} {Holds : Held → Prop} {Active Stopping : Prop}

theorem stable_standing (lasts : Lasts Holds) :
    Stable (OtherSteps owner registration Panics)
      (Standing owner registration Panics log Holds Active Stopping) := by
  intro world reached steps standing
  have spared := steps.spared
  exact
    { orderly := spared.orderly standing.orderly
      log_eq := spared.log.trans standing.log_eq
      held := lasts _ _ (spared.held standing.orderly) standing.held
      active := spared.registered ∘ standing.active
      stopping := spared.stopping ∘ standing.stopping
      usable := fun sane => by
        cases poisoned : reached.shared.rest.poisoned with
        | false => rfl
        | true =>
            have before := (spared.poisoned poisoned).resolve_left sane
            rw [standing.usable sane] at before
            exact before.symm }

/-! ### Steps -/

section Steps

variable (lasts : Lasts Holds)
include lasts

theorem ensures_perform (step : OwnerStep)
    {change : OwnerShared → OwnerShared}
    (registry : ∀ rest, (change rest).registry = rest.registry)
    (logged : ∀ rest, (change rest).log = rest.log)
    (poisoned : ∀ rest, (change rest).poisoned = rest.poisoned) :
    Carries owner registration Panics log Holds Active Stopping
      (perform step change)
      fun _ => Standing owner registration Panics (log ++ [step]) Holds Active
        Stopping := by
  refine .update (stable_standing lasts) fun world standing => ?_
  exact
    { orderly := by
        simpa [OwnerShared.note, registry] using standing.orderly
      log_eq := by simp [OwnerShared.note, logged, standing.log_eq]
      held := by simpa [OwnerShared.note, registry] using standing.held
      active := standing.active
      stopping := standing.stopping
      usable := by simpa [OwnerShared.note, poisoned] using standing.usable }

theorem ensures_startFailStop (report : CleanupFailureReport) :
    Carries owner registration Panics log Holds Active Stopping
      (startFailStop report)
      fun _ => Standing owner registration Panics (log ++ [.activated report]) Holds
        Active True := by
  unfold startFailStop coordinate
  refine .update (stable_standing lasts) fun world standing => ?_
  have progress : world.shared.coordinator.Progress
      (world.shared.coordinator.activate world.now report).2 :=
    .activate world.now report
  exact
    { orderly := standing.orderly
      log_eq := by simp [OwnerShared.note, standing.log_eq]
      held := standing.held
      active := fun active =>
        (progress.registered _).trans (standing.active active)
      stopping := fun _ => by simp
      usable := standing.usable }

theorem ensures_completeActive :
    Carries owner registration Panics log Holds Active Stopping
      (completeActive owner.taskId)
      fun _ => Standing owner registration Panics (log ++ [.deactivated]) Holds
        False Stopping := by
  unfold completeActive coordinate
  refine .update (stable_standing lasts) fun world standing => ?_
  exact
    { orderly := standing.orderly
      log_eq := by simp [OwnerShared.note, standing.log_eq]
      held := standing.held
      active := False.elim
      stopping := standing.stopping
      usable := standing.usable }

theorem ensures_isFailStopping :
    Carries owner registration Panics log Holds Active Stopping
      isFailStopping
      fun stopping => Standing owner registration Panics log Holds Active
        (Stopping ∨ stopping = true) := by
  refine .update (stable_standing lasts) fun world standing => ?_
  exact { standing with stopping := fun either => either.elim standing.stopping id }

/-- A locked section of the registry that is an operation of this owner. -/
theorem ensures_lockRegistry {Value : Type}
    (checked : Except RegistryError Unit) (note : Value → Option OwnerStep)
    {locked : ℕ → ℕ → RegistryState →
      Except RegistryError Value × RegistryState}
    (operation : ℕ → Operation)
    (Done : Held → Value → Held → Prop) (Next : Value → Held → Prop)
    (applies : ∀ now pause registry,
      (locked now (now + pause) registry).2 =
        (operation pause).apply now registry)
    (ends : ∀ now pause, (operation pause).lastReading now ≤ now + pause)
    (outcome : ∀ now pause registry, Registry.Invariant now registry →
      Outcome owner (registry.held owner) (Done (registry.held owner))
        (locked now (now + pause) registry))
    (done : ∀ before value held, Holds before → Done before value held →
      Next value held) :
    Carries owner registration Panics log Holds Active Stopping
      (lockRegistry checked note locked)
      fun result world =>
        match result with
        | .ok value => Standing owner registration Panics
            (log ++ (note value).toList) (Next value) Active Stopping world
        | .error _ =>
            Standing owner registration Panics log Holds Active Stopping
              world ∧
              (checked = .ok () →
                (∀ now pause registry, Registry.Invariant now registry →
                  Holds (registry.held owner) →
                  (locked now (now + pause) registry).1.isOk = true) →
                Panics) := by
  refine .lasting (stable_standing lasts) fun world pause standing => ?_
  have waited : Orderly owner (world.now + pause)
      world.shared.rest.registry :=
    ⟨standing.orderly.invariant.advance (Nat.le_add_right _ _),
      standing.orderly.allocated⟩
  have orderly : Orderly owner (world.now + pause)
      (locked world.now (world.now + pause) world.shared.rest.registry).2 := by
    rw [applies]
    exact
      { invariant := (standing.orderly.invariant.apply le_rfl
          (operation pause)).advance (ends _ _)
        allocated := standing.orderly.allocated.trans_le
          (standing.orderly.invariant.allocatedSignals_le_apply _ _) }
  have effect := outcome world.now pause world.shared.rest.registry
    standing.orderly.invariant
  rcases OwnerShared.underLock_cases checked note
      (locked world.now (world.now + pause)) world.shared.rest with
    ⟨error, same, cause⟩ | ⟨error, registry, result, after⟩ |
      ⟨value, registry, result, after⟩
  · simp only [same]
    refine ⟨{ standing with orderly := waited }, fun passed _ => ?_⟩
    by_contra sane
    exact absurd (cause passed) (by simp [standing.usable sane])
  · rw [result] at orderly effect
    simp only [after]
    refine ⟨{ standing with
      orderly, held := lasts _ _ effect standing.held }, fun _ succeeds => ?_⟩
    have ok := succeeds world.now pause world.shared.rest.registry
      standing.orderly.invariant standing.held
    rw [result] at ok
    exact absurd ok (by simp [Except.isOk, Except.toBool])
  · rw [result] at orderly effect
    simp only [after]
    exact { standing with
      orderly
      log_eq := congrArg (· ++ (note value).toList) standing.log_eq
      held := done _ value _ standing.held effect }

theorem ensures_enterPhase (phase : OwnerPhase) :
    Carries owner registration Panics log Holds Active Stopping
      (enterPhase phase)
      fun _ world =>
        Standing owner registration Panics log Holds Active Stopping world ∧
          world.shared.rest.phase = phase :=
  .update (stable_standing lasts) fun _ standing => ⟨{ standing with }, rfl⟩

variable (observation : SubmitObservation)

theorem ensures_signal :
    Carries owner registration Panics log Holds Active Stopping
      (publishSignal observation)
      fun _ => Standing owner registration Panics (log ++ [.signalled observation])
        Holds Active Stopping :=
  ensures_perform lasts _ (fun _ => rfl) (fun _ => rfl) fun _ => rfl

theorem ensures_sendInitial :
    Carries owner registration Panics log Holds Active Stopping
      (sendInitial observation)
      fun _ => Standing owner registration Panics
        (log ++ [.initialSent observation]) Holds Active Stopping :=
  ensures_perform lasts _ (fun _ => rfl) (fun _ => rfl) fun _ => rfl

theorem ensures_retain :
    Carries owner registration Panics log Holds Active Stopping
      retainForFailStop
      fun _ => Standing owner registration Panics (log ++ [.slotRetained]) Holds
        Active Stopping :=
  ensures_perform lasts _ (fun _ => rfl) (fun _ => rfl) fun _ => rfl

/-- The slot is kept only under a fail-stop. -/
theorem ensures_releaseCapacity :
    Carries owner registration Panics log Holds Active Stopping
      releaseCapacity
      fun _ world => ∃ slot : OwnerStep, slot.isSlot = true ∧
        Standing owner registration Panics (log ++ [slot]) Holds Active
          (Stopping ∨ slot = .slotRetained) world := by
  refine .bind (ensures_isFailStopping lasts) fun stopping => ?_
  cases stopping with
  | true =>
      refine (ensures_retain lasts).mono fun _ world standing => ?_
      exact ⟨.slotRetained, rfl,
        { standing with stopping := fun _ => standing.stopping (.inr rfl) }⟩
  | false =>
      have released : Ensures (OtherSteps owner registration Panics)
          (Standing owner registration Panics log Holds Active
            (Stopping ∨ false = true)) releaseSlot _ :=
        ensures_perform lasts _ (fun _ => rfl) (fun _ => rfl) fun _ => rfl
      refine released.mono fun _ world standing => ?_
      refine ⟨.slotReleased, rfl,
        { standing with stopping := fun either => ?_ }⟩
      exact standing.stopping (either.imp_right fun equal => by cases equal)

theorem ensures_releaseFailedOwner :
    Carries owner registration Panics log Holds Active Stopping
      (releaseFailedOwner owner)
      fun released world =>
        if released = .ok none then
          Standing owner registration Panics (log ++ [.reservationWithdrawn])
            (· = .nothing) Active Stopping world
        else Standing owner registration Panics log Holds Active Stopping world := by
  refine (ensures_lockRegistry lasts _ _
    (fun _ => .releaseFailedOwner owner)
    (fun before kept held =>
      if kept.isNone then held = .nothing else before.Fades held)
    (fun kept held => if kept.isNone then held = .nothing else Holds held)
    (fun _ _ _ => rfl) (fun _ _ => Nat.le_add_right _ _)
    (fun now _ _ invariant => invariant.outcome_releaseFailedOwner now)
    fun before kept held holds done => ?_).mono
    fun released world standing => ?_
  · cases kept with
    | none => exact done
    | some snapshot => exact lasts _ _ done holds
  · rcases released with _ | _ | snapshot
    · exact standing.1
    · exact standing
    · simpa using standing

end Steps
end Standing
end Task
end TaskCage
