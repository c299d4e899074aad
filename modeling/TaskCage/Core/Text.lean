import TaskCage.Core.Time
import Mathlib.Data.Nat.Notation

/-!
# Debug renderings

Error texts show paths, names and durations in the standard library's debug
form.  Characters that are not printable ASCII are shown as they are, control
characters apart.
-/

namespace TaskCage
namespace Text

/-- A character inside a quoted text. -/
def escapeChar (char : Char) : List Char :=
  if char = '"' then ['\\', '"']
  else if char = '\\' then ['\\', '\\']
  else if char = '\n' then ['\\', 'n']
  else if char = '\r' then ['\\', 'r']
  else if char = '\t' then ['\\', 't']
  else if char = Char.ofNat 0 then ['\\', '0']
  else if char.toNat < 0x20 ∨ char.toNat = 0x7F then
    ['\\', 'u', Char.ofNat 0x7B] ++ Nat.toDigits 16 char.toNat ++
      [Char.ofNat 0x7D]
  else [char]

/-- A text in quotes. -/
def quote (text : String) : String :=
  String.ofList (['"'] ++ text.toList.flatMap escapeChar ++ ['"'])

/-- A list of texts. -/
def quoteList (texts : List String) : String :=
  "[" ++ String.intercalate ", " (texts.map quote) ++ "]"

/-- Digits of a fraction of `size` places without the zeros at the end. -/
def fraction (size value : ℕ) : List Char :=
  let digits := Nat.toDigits 10 value
  let padded := List.replicate (size - digits.length) '0' ++ digits
  (padded.reverse.dropWhile (· == '0')).reverse

/-- A number with a fraction, where there is one, and a unit. -/
def decimal (whole size rest : ℕ) (unit : String) : String :=
  if rest = 0 then
    toString whole ++ unit
  else
    toString whole ++ "." ++ String.ofList (fraction size rest) ++ unit

/-- A duration in its largest unit. -/
def duration (nanoseconds : ℕ) : String :=
  if 1000000000 ≤ nanoseconds then
    decimal (nanoseconds / 1000000000) 9 (nanoseconds % 1000000000) "s"
  else if 1000000 ≤ nanoseconds then
    decimal (nanoseconds / 1000000) 6 (nanoseconds % 1000000) "ms"
  else if 1000 ≤ nanoseconds then
    decimal (nanoseconds / 1000) 3 (nanoseconds % 1000) "µs"
  else
    decimal nanoseconds 0 0 "ns"

end Text
end TaskCage
