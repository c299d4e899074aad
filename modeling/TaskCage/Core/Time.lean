import Mathlib.Algebra.Group.Nat.Defs
import Mathlib.Data.Nat.Notation

/-!
# Monotonic time

Instants and durations are natural numbers of nanoseconds.  Instants are
bounded: the standard library refuses to represent an instant past the last
one, and the code falls back on that refusal.
-/

namespace TaskCage

namespace Duration

/-- Nanoseconds of a whole number of milliseconds. -/
def fromMillis (milliseconds : ℕ) : ℕ :=
  milliseconds * 1000000

/-- Nanoseconds of a whole number of seconds. -/
def fromSecs (seconds : ℕ) : ℕ :=
  seconds * 1000000000

/-- Whole milliseconds of a duration, rounded down. -/
def asMillis (duration : ℕ) : ℕ :=
  duration / 1000000

end Duration

namespace Instant

/-- The first nanosecond count that is no instant: seconds are a signed 64-bit
number. -/
def limit : ℕ :=
  2 ^ 63 * 1000000000

/-- Addition that fails when the sum is not representable. -/
def checkedAdd (start budget : ℕ) : Option ℕ :=
  if start + budget < limit then some (start + budget) else none

/-- Time elapsed since an earlier instant, or nothing when it is later. -/
def checkedDurationSince (now earlier : ℕ) : Option ℕ :=
  if earlier ≤ now then some (now - earlier) else none

end Instant

/-- An absolute deadline that all cleanup steps of one operation share. -/
structure MonotonicDeadline where
  /-- Instant at which the deadline expires. -/
  expiresAt : ℕ
  /-- Budget the deadline was created with. -/
  budget : ℕ
deriving DecidableEq

namespace MonotonicDeadline

/-- A zero budget and an unrepresentable end are refused. -/
def fromStart (start budget : ℕ) :
    Option MonotonicDeadline :=
  if budget = 0 then
    none
  else
    (Instant.checkedAdd start budget).map fun expiresAt => ⟨expiresAt, budget⟩

/-- A deadline that has expired when it is created. -/
def expiredAt (now : ℕ) : MonotonicDeadline :=
  ⟨now, 0⟩

/-- Positive time left at an instant. -/
def remainingAt (deadline : MonotonicDeadline) (now : ℕ) :
    Option ℕ :=
  (Instant.checkedDurationSince deadline.expiresAt now).filter fun left =>
    decide (left ≠ 0)

theorem remainingAt_eq_ite
    (deadline : MonotonicDeadline) (now : ℕ) :
    deadline.remainingAt now =
      if now < deadline.expiresAt then some (deadline.expiresAt - now) else none := by
  unfold remainingAt Instant.checkedDurationSince
  by_cases before : now < deadline.expiresAt
  · have reached : now ≤ deadline.expiresAt := Nat.le_of_lt before
    have positive : deadline.expiresAt - now ≠ 0 := Nat.sub_ne_zero_of_lt before
    simp [before, reached, positive]
  · by_cases equal : now ≤ deadline.expiresAt
    · have zero : deadline.expiresAt - now = 0 := by omega
      simp [before, equal, zero]
    · simp [before, equal]

end MonotonicDeadline
end TaskCage
