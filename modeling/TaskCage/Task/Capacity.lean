import Mathlib.Data.Nat.Notation

/-!
# Execution slots

A task is executed only with a slot.  A slot is returned when its permit is
dropped, unless it is retained for a fail-stop: then it is never used again.
-/

namespace TaskCage
namespace Task

/-- Capacity configuration; zero slots are refused. -/
structure TaskCapacitySettings where
  maxConcurrentTasks : ℕ
  maxConcurrentTasks_pos : 0 < maxConcurrentTasks

/-- The slots of the daemon. -/
structure TaskCapacity where
  settings : TaskCapacitySettings
  inUse : ℕ
  retainedForFailStop : ℕ
  inUse_le : inUse ≤ settings.maxConcurrentTasks

namespace TaskCapacity

/-- All slots are free. -/
def new (settings : TaskCapacitySettings) : TaskCapacity where
  settings := settings
  inUse := 0
  retainedForFailStop := 0
  inUse_le := Nat.zero_le _

/-- Take a slot, if one is free. -/
def tryAcquire (capacity : TaskCapacity) : Option TaskCapacity :=
  if free : capacity.settings.maxConcurrentTasks ≤ capacity.inUse then
    none
  else
    some { capacity with
      inUse := capacity.inUse + 1
      inUse_le := Nat.lt_of_not_le free }

/-- Return a slot. -/
def release (capacity : TaskCapacity) : TaskCapacity :=
  { capacity with
    inUse := capacity.inUse - 1
    inUse_le := Nat.le_trans (Nat.sub_le _ _) capacity.inUse_le }

/-- Keep a slot until the daemon has stopped. -/
def retainForFailStop (capacity : TaskCapacity) : TaskCapacity :=
  { capacity with retainedForFailStop := capacity.retainedForFailStop + 1 }

end TaskCapacity
end Task
end TaskCage
