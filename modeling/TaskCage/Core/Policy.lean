import Mathlib.Algebra.Group.Nat.Defs
import Mathlib.Data.Nat.Notation

/-!
# Resource and output policies

Validated policies: every number that must be positive, and every bound that
`try_new` checks, is a field of the structure, so that an invalid policy cannot
be built.
-/

namespace TaskCage

/-- A positive unsigned 64-bit number. -/
abbrev NonZeroU64 := {value : ℕ // 0 < value ∧ value < 2 ^ 64}

/-- Largest tail of one output stream. -/
def maxOutputTailBytes : ℕ :=
  65536

/-- Largest sum of the two output tails. -/
def maxTotalOutputBytes : ℕ :=
  131072

/-- CPU time that may be used in each period. -/
structure CpuPolicy where
  quotaMicros : NonZeroU64
  periodMicros : NonZeroU64
deriving DecidableEq

/-- Resource ceilings of one task. -/
structure ResourcePolicy where
  cpu : CpuPolicy
  memoryMaxBytes : NonZeroU64
  pidsMax : NonZeroU64
  wallTimeLimitMs : NonZeroU64
deriving DecidableEq

/-- Sizes of the captured output tails. -/
structure OutputPolicy where
  stdoutTailMaxBytes : ℕ
  stderrTailMaxBytes : ℕ
  stdout_pos : 0 < stdoutTailMaxBytes
  stderr_pos : 0 < stderrTailMaxBytes
  stdout_le : stdoutTailMaxBytes ≤ maxOutputTailBytes
  stderr_le : stderrTailMaxBytes ≤ maxOutputTailBytes
  total_le : stdoutTailMaxBytes + stderrTailMaxBytes ≤ maxTotalOutputBytes
deriving DecidableEq

/-- Validated resource and output policy of one execution. -/
structure ResourceBudget where
  resources : ResourcePolicy
  output : OutputPolicy
deriving DecidableEq

/-- The smallest budget that validation accepts. -/
def ResourceBudget.smallest : ResourceBudget where
  resources :=
    let one : NonZeroU64 := ⟨1, by decide⟩
    { cpu := ⟨one, one⟩
      memoryMaxBytes := one
      pidsMax := one
      wallTimeLimitMs := one }
  output :=
    { stdoutTailMaxBytes := 1
      stderrTailMaxBytes := 1
      stdout_pos := by decide
      stderr_pos := by decide
      stdout_le := by decide
      stderr_le := by decide
      total_le := by decide }

end TaskCage
