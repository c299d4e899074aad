import Mathlib.Algebra.Group.Int.Defs
import Mathlib.Algebra.Group.Nat.Defs
import Mathlib.Data.Int.Notation
import Mathlib.Data.List.Induction
import Mathlib.Data.Nat.Notation
import Mathlib.Order.Nat

/-!
# Decimal numerals

Texts of decimal digits, the numbers they denote, and the readers of machine
integers.  A numeral without superfluous zeros is the text of its number.
-/

namespace TaskCage
namespace Decimal

/-- The number that a text of digits denotes. -/
def value (text : List Char) : ℕ :=
  Nat.ofDigitChars 10 text 0

/-- A numeral without superfluous zeros. -/
def isNumeral (text : List Char) : Bool :=
  text ≠ [] && text.all Char.isDigit && (text = ['0'] || text.head? ≠ some '0')

/-- The reader of an unsigned number, which may have a plus sign. -/
def parseUnsigned (bits : ℕ) (text : List Char) : Option ℕ :=
  let digits := match text with
    | '+' :: rest => rest
    | _ => text
  if digits ≠ [] && digits.all Char.isDigit && value digits < 2 ^ bits then
    some (value digits)
  else
    none

/-- The number that a text of digits denotes, which may have a plus sign. -/
def unsigned (text : List Char) : ℕ :=
  value (match text with
    | '+' :: rest => rest
    | _ => text)

variable {text : List Char} {char : Char}

theorem eq_unsigned_of_parseUnsigned {bits number : ℕ}
    (read : parseUnsigned bits text = some number) :
    number = unsigned text := by
  simp only [parseUnsigned, Option.ite_none_right_eq_some] at read
  exact (Option.some.inj read.2).symm

/-- The reader of a signed number. -/
def parseSigned (bits : ℕ) (text : List Char) : Option ℤ :=
  let (negative, digits) := match text with
    | '-' :: rest => (true, rest)
    | '+' :: rest => (false, rest)
    | _ => (false, text)
  let number : ℤ := if negative then -value digits else value digits
  if digits ≠ [] && digits.all Char.isDigit && -2 ^ (bits - 1) ≤ number &&
      number < 2 ^ (bits - 1) then
    some number
  else
    none

/-! ### Numerals -/

theorem isNumeral_iff :
    isNumeral text = true ↔ text ≠ [] ∧ (∀ char ∈ text, char.isDigit = true) ∧
      (text = ['0'] ∨ text.head? ≠ some '0') := by
  simp [isNumeral, and_assoc]

theorem digit_le_nine (digit : char.isDigit = true) :
    '0'.toNat ≤ char.toNat ∧ char.toNat - '0'.toNat < 10 := by
  have bounds : 48 ≤ char.toNat ∧ char.toNat ≤ 57 := by
    simp only [Char.isDigit, Bool.and_eq_true, decide_eq_true_eq] at digit
    exact ⟨UInt32.le_iff_toNat_le.mp digit.1, UInt32.le_iff_toNat_le.mp digit.2⟩
  have zero : '0'.toNat = 48 := rfl
  omega

/-- A digit is the text of its number. -/
theorem toDigits_digit (digit : char.isDigit = true) :
    Nat.toDigits 10 (char.toNat - '0'.toNat) = [char] := by
  obtain ⟨above, below⟩ := digit_le_nine digit
  have back : (char.toNat - '0'.toNat).digitChar = char := by
    have zero : '0'.toNat = 48 := rfl
    have code : char = Char.ofNat (48 + (char.toNat - '0'.toNat)) := by
      rw [show 48 + (char.toNat - '0'.toNat) = char.toNat by omega,
        Char.ofNat_toNat]
    generalize char.toNat - '0'.toNat = number at below code
    subst code
    revert number
    decide
  rw [Nat.toDigits_of_lt_base below, back]

theorem value_append_singleton (text : List Char) (char : Char) :
    value (text ++ [char]) = 10 * value text + (char.toNat - '0'.toNat) := by
  unfold value
  rw [Nat.ofDigitChars_append, Nat.ofDigitChars_cons]
  rfl

/-- A text of digits that does not begin with a zero is the text of a positive
number. -/
theorem toDigits_value_of_head (filled : text ≠ [])
    (digits : ∀ char ∈ text, char.isDigit = true)
    (head : text.head? ≠ some '0') :
    0 < value text ∧ Nat.toDigits 10 (value text) = text := by
  induction text using List.reverseRecOn with
  | nil => exact absurd rfl filled
  | append_singleton text char inductionHypothesis =>
      have digit := digits char (by simp)
      rw [value_append_singleton]
      by_cases empty : text = []
      · subst empty
        have notZero : char ≠ '0' := by simpa using head
        have positive : 0 < char.toNat - '0'.toNat := by
          have above := (digit_le_nine digit).1
          have different : char.toNat ≠ '0'.toNat := fun equal =>
            notZero (Char.toNat_inj.mp equal)
          omega
        have start : value [] = 0 := rfl
        rw [start]
        refine ⟨by omega, ?_⟩
        rw [Nat.mul_zero, Nat.zero_add, toDigits_digit digit]
        rfl
      · obtain ⟨positive, whole⟩ := inductionHypothesis empty
          (fun other member => digits other (List.mem_append_left _ member))
          (by
            obtain ⟨first, rest, shape⟩ := List.exists_cons_of_ne_nil empty
            rwa [shape] at head ⊢)
        refine ⟨by omega, ?_⟩
        rw [← Nat.toDigits_append_toDigits (by decide) positive
          (digit_le_nine digit).2, whole, toDigits_digit digit]

/-- A numeral is the text of its number. -/
theorem toDigits_value (numeral : isNumeral text = true) :
    Nat.toDigits 10 (value text) = text := by
  obtain ⟨filled, digits, zero | head⟩ := isNumeral_iff.mp numeral
  · subst zero
    rfl
  · exact (toDigits_value_of_head filled digits head).2

/-! ### Texts of numbers -/

theorem isDigit_of_mem_toDigits {number : ℕ}
    (member : char ∈ Nat.toDigits 10 number) : char.isDigit = true :=
  Nat.isDigit_of_mem_toDigits (by decide) (by decide) member

end Decimal
end TaskCage
