import TaskCage.Core.Time
import Mathlib.Data.Int.Notation

/-!
# The system clock

Instants of the system clock are nanoseconds since the epoch; they may lie
before it.  The code stores them as whole milliseconds, which exist only for
instants after the epoch and below a 64-bit limit.
-/

namespace TaskCage

/-- An instant of the system clock. -/
abbrev SystemTime : Type := ℤ

namespace SystemTime

/-- Addition that fails when the sum is not representable. -/
def checkedAdd (time : SystemTime) (duration : ℕ) : Option SystemTime :=
  if time + duration < Instant.limit then some (time + duration) else none

/-- Whole milliseconds since the epoch. -/
def epochMillis (time : SystemTime) : Option ℕ :=
  if time < 0 then none
  else if time.toNat / 1000000 < 2 ^ 64 then some (time.toNat / 1000000)
  else none

/-- The instant of a number of milliseconds. -/
def ofEpochMillis (milliseconds : ℕ) : Option SystemTime :=
  checkedAdd 0 (Duration.fromMillis milliseconds)

/-- The instant, cut to milliseconds. -/
def truncated (time : SystemTime) : SystemTime :=
  (time / 1000000) * 1000000

end SystemTime
end TaskCage
