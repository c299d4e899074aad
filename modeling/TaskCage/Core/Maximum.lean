import Mathlib.Data.Rat.Cast.Order
import Mathlib.Tactic.FieldSimp
import TaskCage.Core.Budget

/-!
# The order of budgets

A budget is within a maximum when its share of the CPU is at most that of the
maximum, as an exact fraction, and no other number is larger.  The daemon
compares fractions by products of 64-bit words in 128 bits, so nothing is lost,
and the comparison is a preorder: a maximum of a maximum is a maximum.
-/

namespace TaskCage

/-- The product of two words in 128 bits. -/
def widened (left right : ℕ) : ℕ :=
  left * right % 2 ^ 128

theorem widened_eq_mul {left right : ℕ} (leftWord : left < 2 ^ 64)
    (rightWord : right < 2 ^ 64) : widened left right = left * right := by
  apply Nat.mod_eq_of_lt
  calc
    left * right < 2 ^ 64 * 2 ^ 64 := Nat.mul_lt_mul'' leftWord rightWord
    _ = 2 ^ 128 := by rw [← Nat.pow_add]

/-- The comparison of CPU shares for the principals of the Remote service. -/
def cpuRatioWithinMaximum (actualQuota actualPeriod maximumQuota
    maximumPeriod : ℕ) : Bool :=
  widened actualQuota maximumPeriod ≤ widened maximumQuota actualPeriod

/-- The largest budget that a deployment allows for a task. -/
structure DeploymentResourcePolicy where
  maximum : ResourceBudget

/-- The policy of a deployment from its settings. -/
def DeploymentResourcePolicy.tryNew (maximum : BudgetNumbers) :
    Except PolicyError DeploymentResourcePolicy := do
  let maximum ← ResourceBudget.tryNew maximum
  return ⟨maximum⟩

/-- The comparison of a requested budget with the policy. -/
def DeploymentResourcePolicy.validate (policy : DeploymentResourcePolicy)
    (requested : ResourceBudget) : Except ResourceMaximumViolation Unit :=
  requested.validateWithinMaximum policy.maximum

/-- The share of the CPU that a policy allows. -/
def CpuPolicy.ratio (policy : CpuPolicy) : ℚ :=
  policy.quotaMicros.1 / policy.periodMicros.1

variable {maximum policy : CpuPolicy}

/-- Products compare fractions. -/
theorem CpuPolicy.ratio_le_iff :
    policy.ratio ≤ maximum.ratio ↔
      policy.quotaMicros.1 * maximum.periodMicros.1 ≤
        maximum.quotaMicros.1 * policy.periodMicros.1 := by
  have period : (0 : ℚ) < policy.periodMicros.1 :=
    Nat.cast_pos.mpr policy.periodMicros.2.1
  have maximumPeriod : (0 : ℚ) < maximum.periodMicros.1 :=
    Nat.cast_pos.mpr maximum.periodMicros.2.1
  unfold CpuPolicy.ratio
  rw [div_le_div_iff₀ period maximumPeriod]
  exact_mod_cast Iff.rfl

/-- On valid words the comparison for principals is that of fractions. -/
theorem cpuRatioWithinMaximum_iff :
    cpuRatioWithinMaximum policy.quotaMicros.1 policy.periodMicros.1
        maximum.quotaMicros.1 maximum.periodMicros.1 = true ↔
      policy.ratio ≤ maximum.ratio := by
  unfold cpuRatioWithinMaximum
  rw [decide_eq_true_iff, CpuPolicy.ratio_le_iff,
    widened_eq_mul policy.quotaMicros.2.2 maximum.periodMicros.2.2,
    widened_eq_mul maximum.quotaMicros.2.2 policy.periodMicros.2.2]

namespace ResourceBudget

/-- No number but the share of the CPU is larger than in the maximum. -/
structure NumbersWithin (budget maximum : ResourceBudget) : Prop where
  memory : budget.resources.memoryMaxBytes.1 ≤
    maximum.resources.memoryMaxBytes.1
  pids : budget.resources.pidsMax.1 ≤ maximum.resources.pidsMax.1
  wallTime : budget.resources.wallTimeLimitMs.1 ≤
    maximum.resources.wallTimeLimitMs.1
  stdout : budget.output.stdoutTailMaxBytes ≤ maximum.output.stdoutTailMaxBytes
  stderr : budget.output.stderrTailMaxBytes ≤ maximum.output.stderrTailMaxBytes

variable {budget maximum : ResourceBudget}

theorem within_iff :
    budget.Within maximum ↔
      budget.resources.cpu.ratio ≤ maximum.resources.cpu.ratio ∧
        budget.NumbersWithin maximum := by
  rw [CpuPolicy.ratio_le_iff]
  constructor
  · intro within
    exact ⟨within.cpu, within.memory, within.pids, within.wallTime,
      within.stdout, within.stderr⟩
  · rintro ⟨cpu, numbers⟩
    exact ⟨cpu, numbers.memory, numbers.pids, numbers.wallTime,
      numbers.stdout, numbers.stderr⟩

theorem Within.trans {middle : ResourceBudget} (first : budget.Within middle)
    (second : middle.Within maximum) :
    budget.Within maximum := by
  rw [within_iff] at first second ⊢
  obtain ⟨firstCpu, firstNumbers⟩ := first
  obtain ⟨secondCpu, secondNumbers⟩ := second
  exact ⟨firstCpu.trans secondCpu,
    firstNumbers.memory.trans secondNumbers.memory,
    firstNumbers.pids.trans secondNumbers.pids,
    firstNumbers.wallTime.trans secondNumbers.wallTime,
    firstNumbers.stdout.trans secondNumbers.stdout,
    firstNumbers.stderr.trans secondNumbers.stderr⟩

/-- The comparison of budgets is exact and a preorder, it gives the same answer
on CPU shares as the one for principals, and what is within a maximum that a
deployment allows is allowed.  No product of two words needs more than 128
bits. -/
theorem validateWithinMaximum_exact (budget middle maximum : ResourceBudget) :
    (budget.validateWithinMaximum maximum = .ok () ↔
        budget.resources.cpu.ratio ≤ maximum.resources.cpu.ratio ∧
          budget.NumbersWithin maximum) ∧
      budget.validateWithinMaximum budget = .ok () ∧
      (budget.validateWithinMaximum middle = .ok () →
        middle.validateWithinMaximum maximum = .ok () →
        budget.validateWithinMaximum maximum = .ok ()) ∧
      (∀ policy : DeploymentResourcePolicy,
        budget.validateWithinMaximum middle = .ok () →
        policy.validate middle = .ok () → policy.validate budget = .ok ()) ∧
      (cpuRatioWithinMaximum budget.resources.cpu.quotaMicros.1
          budget.resources.cpu.periodMicros.1
          maximum.resources.cpu.quotaMicros.1
          maximum.resources.cpu.periodMicros.1 = true ↔
        budget.resources.cpu.ratio ≤ maximum.resources.cpu.ratio) ∧
      widened budget.resources.cpu.quotaMicros.1
          maximum.resources.cpu.periodMicros.1 =
        budget.resources.cpu.quotaMicros.1 *
          maximum.resources.cpu.periodMicros.1 := by
  simp only [DeploymentResourcePolicy.validate, validateWithinMaximum_eq_ok_iff]
  exact ⟨within_iff, Within.refl budget, Within.trans,
    fun policy first second => first.trans second, cpuRatioWithinMaximum_iff,
    widened_eq_mul budget.resources.cpu.quotaMicros.2.2
      maximum.resources.cpu.periodMicros.2.2⟩

end ResourceBudget

end TaskCage
