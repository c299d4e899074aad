import TaskCage.Registry.Held
import TaskCage.Task.Owner

/-!
# The other threads of the daemon

What everything else in the daemon may do while one owner is at work.  Other
owners have other signals and other registrations, so they can neither touch
the reservation of this owner nor end its active execution.
-/

namespace TaskCage
namespace Task

open Executor FailStop Linux Process Registry

section Others

variable (owner : SubmitExecutionOwner) (registration : ℕ) (Panics : Prop)

/-- The task is an active execution under this registration. -/
def Registered (coordinator : Coordinator) : Prop :=
  (coordinator.active.lookup owner.taskId).map ActiveEntry.registration =
    some registration

/-- The entry of a task is not the one of this owner. -/
def Foreign (taskId : String) (coordinator : Coordinator) : Prop :=
  (coordinator.active.lookup taskId).map ActiveEntry.registration ≠
    some registration

/-- The same world with another coordinator. -/
def withCoordinator (world : OwnerWorld) (coordinator : Coordinator) :
    OwnerWorld :=
  { world with shared := { world.shared with coordinator } }

/-- The same world with another rest of the daemon. -/
def withRest (world : OwnerWorld) (rest : OwnerShared) : OwnerWorld :=
  { world with shared := { world.shared with rest } }

/-- One step of another thread. -/
inductive OtherStep (world : OwnerWorld) : OwnerWorld → Prop where
  | elapse (delay : ℕ) : OtherStep world { world with now := world.now + delay }
  | registry (operation : Operation)
      (others : ∀ other, operation.ActsFor other → other.signal ≠ owner.signal)
      (usable : world.shared.rest.poisoned = false) :
      OtherStep world
        { withRest world
            { world.shared.rest with
              registry :=
                operation.apply world.now world.shared.rest.registry } with
          now := operation.lastReading world.now }
  /-- A thread dies while it holds the lock of the registry. -/
  | poison (panics : Panics) :
      OtherStep world
        (withRest world { world.shared.rest with poisoned := true })
  | activate (report : CleanupFailureReport) :
      OtherStep world (withCoordinator world
        (world.shared.coordinator.activate world.now report).2)
  | register (taskId : String) :
      OtherStep world (withCoordinator world
        (world.shared.coordinator.register taskId).2)
  | commit (taskId : String) (succeeded : Bool)
      (others : Foreign registration taskId world.shared.coordinator) :
      OtherStep world (withCoordinator world
        ((world.shared.coordinator.beginCommit taskId).2.endCommit taskId
          succeeded))
  | complete (taskId : String)
      (others : Foreign registration taskId world.shared.coordinator) :
      OtherStep world (withCoordinator world
        (world.shared.coordinator.complete taskId).2)
  | acquire (capacity : TaskCapacity)
      (free : world.shared.rest.capacity.tryAcquire = some capacity) :
      OtherStep world (withRest world { world.shared.rest with capacity })
  | release :
      OtherStep world (withRest world
        { world.shared.rest with
          capacity := world.shared.rest.capacity.release })
  | retain :
      OtherStep world (withRest world
        { world.shared.rest with
          capacity := world.shared.rest.capacity.retainForFailStop })
  /-- A published task is cancelled. -/
  | cancel (published : world.shared.rest.phase = .published) :
      OtherStep world
        { world with
          shared :=
            { world.shared with
              latch := (world.shared.latch.observe .cancelled).2 } }

/-- Any number of steps of other threads. -/
def OtherSteps : OwnerWorld → OwnerWorld → Prop :=
  Relation.ReflTransGen (OtherStep owner registration Panics)

/-- The registry is in order and knows the signal of the owner. -/
structure Orderly (now : ℕ) (registry : RegistryState) : Prop where
  invariant : Registry.Invariant now registry
  allocated : owner.signal < registry.allocatedSignals

/-- What other threads leave to an owner. -/
structure Spared (world reached : OwnerWorld) : Prop where
  later : world.now ≤ reached.now
  announced : reached.shared.announced = world.shared.announced
  phase : reached.shared.rest.phase = world.shared.rest.phase
  log : reached.shared.rest.log = world.shared.rest.log
  poisoned : reached.shared.rest.poisoned = true → Panics ∨
    world.shared.rest.poisoned = true
  stopping : world.shared.coordinator.isFailStopping = true →
    reached.shared.coordinator.isFailStopping = true
  registered : Registered owner registration world.shared.coordinator →
    Registered owner registration reached.shared.coordinator
  orderly : Orderly owner world.now world.shared.rest.registry →
    Orderly owner reached.now reached.shared.rest.registry
  held : Orderly owner world.now world.shared.rest.registry →
    (world.shared.rest.registry.held owner).Fades
      (reached.shared.rest.registry.held owner)

variable {owner registration Panics} {world middle reached : OwnerWorld}

namespace Spared

theorem refl (world : OwnerWorld) :
    Spared owner registration Panics world world where
  later := le_rfl
  announced := rfl
  phase := rfl
  log := rfl
  poisoned := .inr
  stopping := id
  registered := id
  orderly := id
  held _ := .same _

theorem trans (first : Spared owner registration Panics world middle)
    (second : Spared owner registration Panics middle reached) :
    Spared owner registration Panics world reached where
  later := first.later.trans second.later
  announced := second.announced.trans first.announced
  phase := second.phase.trans first.phase
  log := second.log.trans first.log
  poisoned poisoned := (second.poisoned poisoned).elim .inl first.poisoned
  stopping := second.stopping ∘ first.stopping
  registered := second.registered ∘ first.registered
  orderly := second.orderly ∘ first.orderly
  held orderly := (first.held orderly).trans
    (second.held (first.orderly orderly))

variable {coordinator : Coordinator}

/-- A step at the coordinator. -/
theorem of_coordinator
    (stopping : world.shared.coordinator.isFailStopping = true →
      coordinator.isFailStopping = true)
    (registered : Registered owner registration world.shared.coordinator →
      Registered owner registration coordinator) :
    Spared owner registration Panics world
      (withCoordinator world coordinator) :=
  { (refl world : Spared owner registration Panics world world) with
    stopping
    registered }

/-- A step that leaves the registry alone. -/
theorem of_rest {poisoned : Bool} {capacity : TaskCapacity}
    (panics : poisoned = true → Panics ∨ world.shared.rest.poisoned = true) :
    Spared owner registration Panics world
      (withRest world { world.shared.rest with poisoned, capacity }) :=
  { (refl world : Spared owner registration Panics world world) with
    poisoned := panics }

theorem of_progress (progress : world.shared.coordinator.Progress coordinator) :
    Spared owner registration Panics world
      (withCoordinator world coordinator) :=
  of_coordinator progress.stopping
    fun registered => (progress.registered _).trans registered

theorem of_operation (operation : Operation)
    (others : ∀ other, operation.ActsFor other → other.signal ≠ owner.signal) :
    Spared owner registration Panics world
      { withRest world
          { world.shared.rest with
            registry :=
              operation.apply world.now world.shared.rest.registry } with
        now := operation.lastReading world.now } :=
  { refl world with
    later := by cases operation <;> simp [Operation.lastReading]
    orderly := fun orderly =>
      { invariant := orderly.invariant.apply le_rfl operation
        allocated := orderly.allocated.trans_le
          (orderly.invariant.allocatedSignals_le_apply operation _) }
    held := fun orderly => orderly.invariant.held_apply orderly.allocated
      operation _ others }

end Spared

variable {coordinator : Coordinator}

/-- The entry of this owner is not erased with another one. -/
theorem Registered.complete {taskId : String}
    (registered : Registered owner registration coordinator)
    (others : Foreign registration taskId coordinator) :
    Registered owner registration (coordinator.complete taskId).2 := by
  have different : owner.taskId ≠ taskId := by
    rintro rfl
    exact others registered
  unfold Registered Coordinator.complete
  rw [Table.lookup_erase_eq_ite, if_neg different]
  exact registered

theorem Registered.register
    (registered : Registered owner registration coordinator) (taskId : String) :
    Registered owner registration (coordinator.register taskId).2 := by
  unfold Coordinator.register
  split
  · exact registered
  · rename_i absent
    have different : owner.taskId ≠ taskId := by
      rintro rfl
      rw [Registered, Finmap.lookup_eq_none.mpr absent] at registered
      exact absurd registered (by simp)
    unfold Registered
    rw [Table.lookup_insert_eq_ite, if_neg different]
    exact registered

/-- One step of another thread. -/
theorem OtherStep.spared
    (step : OtherStep owner registration Panics world reached) :
    Spared owner registration Panics world reached := by
  cases step with
  | elapse delay =>
      exact { Spared.refl world with
        later := Nat.le_add_right _ _
        orderly := fun orderly =>
          ⟨orderly.invariant.advance (Nat.le_add_right _ _),
            orderly.allocated⟩ }
  | registry operation others usable => exact .of_operation operation others
  | poison panics => exact .of_rest fun _ => .inl panics
  | activate report => exact .of_progress (.activate _ report)
  | register taskId =>
      refine .of_coordinator (fun stopping => ?_)
        fun registered => registered.register taskId
      simpa [Coordinator.isFailStopping] using stopping
  | commit taskId succeeded others =>
      exact .of_progress ((Coordinator.Progress.beginCommit taskId).trans
        (.endCommit taskId succeeded))
  | complete taskId others =>
      exact .of_coordinator id fun registered => registered.complete others
  | acquire capacity free => exact .of_rest .inr
  | release => exact .of_rest .inr
  | retain => exact .of_rest .inr
  | cancel published => exact { Spared.refl world with }

/-- Any number of steps of other threads. -/
theorem OtherSteps.spared
    (steps : OtherSteps owner registration Panics world reached) :
    Spared owner registration Panics world reached := by
  induction steps with
  | refl => exact .refl world
  | tail _ step inductionHypothesis => exact inductionHypothesis.trans step.spared

end Others
end Task
end TaskCage
