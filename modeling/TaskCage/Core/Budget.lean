import TaskCage.Core.Policy
import TaskCage.Foundation.Outcome

/-!
# Validation of budgets

How a budget is built from plain numbers, and the comparison of a budget with
the largest one that is allowed.  CPU ceilings are compared as exact ratios.
-/

namespace TaskCage

/-- Why numbers are no policy. -/
inductive PolicyError where
  | zero (field : String)
  | outputTailTooLarge (field : String) (actual maximum : ℕ)
  | outputTotalOverflow (stdout stderr : ℕ)
  | outputTotalTooLarge (actual maximum : ℕ)
  | notRepresentable (field : String) (value : ℕ)
deriving DecidableEq

/-- The text of a policy error. -/
def PolicyError.message : PolicyError → String
  | zero field => s!"{field} 값은 0보다 커야 합니다"
  | outputTailTooLarge field actual maximum =>
      s!"{field} 값 {actual}이 문서 상한 {maximum}을 넘었습니다"
  | outputTotalOverflow stdout stderr =>
      "stdout과 stderr 출력 상한의 합을 계산할 수 없습니다: " ++ s!"{stdout} + {stderr}"
  | outputTotalTooLarge actual maximum =>
      s!"stdout과 stderr 출력 상한의 합 {actual}이 문서 상한 {maximum}을 " ++ "넘었습니다"
  | notRepresentable field value =>
      s!"{field} 값 {value}을 내부 타입으로 정확히 표현할 수 없습니다"

/-- A number that must be positive.  Callers pass 64-bit words, so a larger
number is never seen. -/
def nonzeroU64 (field : String) (value : ℕ) :
    Except PolicyError NonZeroU64 :=
  if empty : value = 0 then .error (.zero field)
  else if word : value < 2 ^ 64 then .ok ⟨value, by omega, word⟩
  else .error (.notRepresentable field value)

/-- Validated resource ceilings. -/
def ResourcePolicy.tryNew (cpuQuotaMicros cpuPeriodMicros memoryMaxBytes
    pidsMax wallTimeLimitMs : ℕ) : Except PolicyError ResourcePolicy := do
  let quotaMicros ← nonzeroU64 "limits.cpuMax.quotaMicros" cpuQuotaMicros
  let periodMicros ← nonzeroU64 "limits.cpuMax.periodMicros" cpuPeriodMicros
  let memoryMaxBytes ← nonzeroU64 "limits.memoryMaxBytes" memoryMaxBytes
  let pidsMax ← nonzeroU64 "limits.pidsMax" pidsMax
  let wallTimeLimitMs ← nonzeroU64 "limits.wallTimeLimitMs" wallTimeLimitMs
  return ⟨⟨quotaMicros, periodMicros⟩, memoryMaxBytes, pidsMax, wallTimeLimitMs⟩

/-- Validated sizes of the output tails. -/
def OutputPolicy.tryNew (stdout stderr : ℕ) :
    Except PolicyError OutputPolicy :=
  if stdoutPos : stdout = 0 then .error (.zero "output.stdoutTailMaxBytes")
  else if stderrPos : stderr = 0 then
    .error (.zero "output.stderrTailMaxBytes")
  else if 2 ^ 32 ≤ stdout + stderr then
    .error (.outputTotalOverflow stdout stderr)
  else if total : maxTotalOutputBytes < stdout + stderr then
    .error (.outputTotalTooLarge (stdout + stderr) maxTotalOutputBytes)
  else if stdoutLe : maxOutputTailBytes < stdout then
    .error (.outputTailTooLarge "output.stdoutTailMaxBytes" stdout
      maxOutputTailBytes)
  else if stderrLe : maxOutputTailBytes < stderr then
    .error (.outputTailTooLarge "output.stderrTailMaxBytes" stderr
      maxOutputTailBytes)
  else
    .ok
      { stdoutTailMaxBytes := stdout
        stderrTailMaxBytes := stderr
        stdout_pos := Nat.pos_of_ne_zero stdoutPos
        stderr_pos := Nat.pos_of_ne_zero stderrPos
        stdout_le := Nat.le_of_not_lt stdoutLe
        stderr_le := Nat.le_of_not_lt stderrLe
        total_le := Nat.le_of_not_lt total }

/-- The numbers of a budget, not validated. -/
structure BudgetNumbers where
  quotaMicros : ℕ
  periodMicros : ℕ
  memoryMaxBytes : ℕ
  pidsMax : ℕ
  wallTimeLimitMs : ℕ
  stdoutTailMaxBytes : ℕ
  stderrTailMaxBytes : ℕ
deriving DecidableEq

namespace ResourceBudget

/-- A validated budget. -/
def tryNew (numbers : BudgetNumbers) : Except PolicyError ResourceBudget := do
  let resources ← ResourcePolicy.tryNew numbers.quotaMicros
    numbers.periodMicros numbers.memoryMaxBytes numbers.pidsMax
    numbers.wallTimeLimitMs
  let output ← OutputPolicy.tryNew numbers.stdoutTailMaxBytes
    numbers.stderrTailMaxBytes
  return ⟨resources, output⟩

/-- The numbers of a validated budget. -/
def numbers (budget : ResourceBudget) : BudgetNumbers where
  quotaMicros := budget.resources.cpu.quotaMicros.1
  periodMicros := budget.resources.cpu.periodMicros.1
  memoryMaxBytes := budget.resources.memoryMaxBytes.1
  pidsMax := budget.resources.pidsMax.1
  wallTimeLimitMs := budget.resources.wallTimeLimitMs.1
  stdoutTailMaxBytes := budget.output.stdoutTailMaxBytes
  stderrTailMaxBytes := budget.output.stderrTailMaxBytes

end ResourceBudget

theorem nonzeroU64_eq_ok_iff {field : String} {value : ℕ}
    {word : NonZeroU64} :
    nonzeroU64 field value = .ok word ↔ word.1 = value := by
  unfold nonzeroU64
  constructor
  · intro checked
    split at checked
    · cases checked
    · split at checked
      · cases checked
        rfl
      · cases checked
  · rintro rfl
    rw [dif_neg (Nat.pos_iff_ne_zero.mp word.2.1), dif_pos word.2.2]

theorem ResourcePolicy.tryNew_eq_ok_iff {quota period memory pids wall : ℕ}
    {policy : ResourcePolicy} :
    ResourcePolicy.tryNew quota period memory pids wall = .ok policy ↔
      policy.cpu.quotaMicros.1 = quota ∧ policy.cpu.periodMicros.1 = period ∧
        policy.memoryMaxBytes.1 = memory ∧ policy.pidsMax.1 = pids ∧
        policy.wallTimeLimitMs.1 = wall := by
  simp only [ResourcePolicy.tryNew, Outcome.bind_eq_ok_iff,
    nonzeroU64_eq_ok_iff]
  constructor
  · rintro ⟨_, quotaIs, _, periodIs, _, memoryIs, _, pidsIs, _, wallIs, ⟨⟩⟩
    exact ⟨quotaIs, periodIs, memoryIs, pidsIs, wallIs⟩
  · rintro ⟨quotaIs, periodIs, memoryIs, pidsIs, wallIs⟩
    exact ⟨_, quotaIs, _, periodIs, _, memoryIs, _, pidsIs, _, wallIs, rfl⟩

theorem OutputPolicy.tryNew_eq_ok_iff {stdout stderr : ℕ}
    {policy : OutputPolicy} :
    OutputPolicy.tryNew stdout stderr = .ok policy ↔
      policy.stdoutTailMaxBytes = stdout ∧
        policy.stderrTailMaxBytes = stderr := by
  unfold OutputPolicy.tryNew
  constructor
  · intro checked
    repeat' split at checked
    all_goals first | cases checked; exact ⟨rfl, rfl⟩ | cases checked
  · rintro ⟨rfl, rfl⟩
    have total := policy.total_le
    have stdoutLe := policy.stdout_le
    have stderrLe := policy.stderr_le
    have bound : maxTotalOutputBytes < 2 ^ 32 := by decide
    rw [dif_neg (Nat.pos_iff_ne_zero.mp policy.stdout_pos),
      dif_neg (Nat.pos_iff_ne_zero.mp policy.stderr_pos),
      if_neg (by omega), dif_neg (by omega), dif_neg (by omega),
      dif_neg (by omega)]

namespace ResourceBudget

/-- Validation changes no number. -/
theorem tryNew_eq_ok_iff {numbers : BudgetNumbers} {budget : ResourceBudget} :
    tryNew numbers = .ok budget ↔ budget.numbers = numbers := by
  simp only [tryNew, Outcome.bind_eq_ok_iff, ResourcePolicy.tryNew_eq_ok_iff,
    OutputPolicy.tryNew_eq_ok_iff]
  constructor
  · rintro ⟨resources, ⟨quota, period, memory, pids, wall⟩, output,
      ⟨stdout, stderr⟩, ⟨⟩⟩
    simp only [ResourceBudget.numbers, quota, period, memory, pids, wall,
      stdout, stderr]
  · rintro rfl
    exact ⟨budget.resources, ⟨rfl, rfl, rfl, rfl, rfl⟩, budget.output,
      ⟨rfl, rfl⟩, rfl⟩

end ResourceBudget

/-! ### Maxima -/

/-- How a budget exceeds a maximum. -/
inductive ResourceMaximumViolation where
  | cpu (actualQuota actualPeriod maximumQuota maximumPeriod : ℕ)
  | limit (field : String) (actual maximum : ℕ)
deriving DecidableEq

/-- The text of a violation. -/
def ResourceMaximumViolation.message : ResourceMaximumViolation → String
  | cpu actualQuota actualPeriod maximumQuota maximumPeriod =>
      s!"limits.cpuMax 비율 {actualQuota}/{actualPeriod}이 최대 " ++
        s!"{maximumQuota}/{maximumPeriod}를 넘었습니다"
  | limit field actual maximum => s!"{field} 값 {actual}이 최대 {maximum}을 넘었습니다"

/-- The comparison of one number. -/
def requireWithinMaximum (field : String) (actual maximum : ℕ) :
    Except ResourceMaximumViolation Unit :=
  Outcome.require (actual ≤ maximum) (.limit field actual maximum)

namespace ResourceBudget

/-- The comparison of a budget with a maximum. -/
def validateWithinMaximum (budget maximum : ResourceBudget) :
    Except ResourceMaximumViolation Unit := do
  let actual := budget.resources
  let limit := maximum.resources
  Outcome.require
    (actual.cpu.quotaMicros.1 * limit.cpu.periodMicros.1 ≤
      limit.cpu.quotaMicros.1 * actual.cpu.periodMicros.1)
    (.cpu actual.cpu.quotaMicros.1 actual.cpu.periodMicros.1
      limit.cpu.quotaMicros.1 limit.cpu.periodMicros.1)
  requireWithinMaximum "limits.memoryMaxBytes" actual.memoryMaxBytes.1
    limit.memoryMaxBytes.1
  requireWithinMaximum "limits.pidsMax" actual.pidsMax.1 limit.pidsMax.1
  requireWithinMaximum "limits.wallTimeLimitMs" actual.wallTimeLimitMs.1
    limit.wallTimeLimitMs.1
  requireWithinMaximum "output.stdoutTailMaxBytes"
    budget.output.stdoutTailMaxBytes maximum.output.stdoutTailMaxBytes
  requireWithinMaximum "output.stderrTailMaxBytes"
    budget.output.stderrTailMaxBytes maximum.output.stderrTailMaxBytes

/-- A budget that no number of a maximum forbids. -/
structure Within (budget maximum : ResourceBudget) : Prop where
  cpu : budget.resources.cpu.quotaMicros.1 *
      maximum.resources.cpu.periodMicros.1 ≤
    maximum.resources.cpu.quotaMicros.1 * budget.resources.cpu.periodMicros.1
  memory : budget.resources.memoryMaxBytes.1 ≤
    maximum.resources.memoryMaxBytes.1
  pids : budget.resources.pidsMax.1 ≤ maximum.resources.pidsMax.1
  wallTime : budget.resources.wallTimeLimitMs.1 ≤
    maximum.resources.wallTimeLimitMs.1
  stdout : budget.output.stdoutTailMaxBytes ≤ maximum.output.stdoutTailMaxBytes
  stderr : budget.output.stderrTailMaxBytes ≤ maximum.output.stderrTailMaxBytes

theorem Within.refl (budget : ResourceBudget) : Within budget budget :=
  ⟨Nat.le_refl _, Nat.le_refl _, Nat.le_refl _, Nat.le_refl _, Nat.le_refl _,
    Nat.le_refl _⟩

end ResourceBudget

theorem ResourceBudget.validateWithinMaximum_eq_ok_iff
    {budget maximum : ResourceBudget} :
    budget.validateWithinMaximum maximum = .ok () ↔ budget.Within maximum := by
  simp only [validateWithinMaximum, requireWithinMaximum,
    Outcome.seq_eq_ok_iff, Outcome.require_eq_ok_iff, decide_eq_true_eq]
  constructor
  · rintro ⟨cpu, memory, pids, wallTime, stdout, stderr⟩
    exact ⟨cpu, memory, pids, wallTime, stdout, stderr⟩
  · intro within
    exact ⟨within.cpu, within.memory, within.pids, within.wallTime,
      within.stdout, within.stderr⟩

end TaskCage
