import Mathlib.Data.Nat.Notation

/-!
# Names

The texts that the daemon accepts as identifiers and as digests.  All of them
are plain ASCII, so a test of bytes is a test of characters.
-/

namespace TaskCage
namespace Names

/-- A digit of a hexadecimal number. -/
def isHexDigit (char : Char) : Bool :=
  char.isDigit || ('a' ≤ char && char ≤ 'f') || ('A' ≤ char && char ≤ 'F')

/-- A digit of a hexadecimal number in lower case. -/
def isLowerHexDigit (char : Char) : Bool :=
  char.isDigit || ('a' ≤ char && char ≤ 'f')

/-- Whether the text has the form of a UUID. -/
def isUuid (value : String) : Bool :=
  value.toList.length = 36 &&
    value.toList.zipIdx.all fun (char, index) =>
      if index = 8 ∨ index = 13 ∨ index = 18 ∨ index = 23 then
        char = '-'
      else
        isHexDigit char

/-- Whether the text has the form of a digest. -/
def validDigest (value : String) : Bool :=
  value.toList.length = 71 && value.toList.take 7 = "sha256:".toList &&
    (value.toList.drop 7).all isLowerHexDigit

/-- Whether the text may name a client. -/
def validClientId (value : String) : Bool :=
  match value.toList with
  | [] => false
  | first :: rest =>
      rest.length < 63 && first.isLower &&
        rest.all fun char => char.isLower || char.isDigit || char = '-'

/-- Whether the text may be one part of the name of a Capsule. -/
def validSegment : List Char → Bool
  | [] => false
  | first :: rest =>
      first.isLower &&
        rest.all fun char => char.isLower || char.isDigit || char = '-'

/-- Whether the text may name a Capsule. -/
def isValidCapsuleName (name : String) : Bool :=
  1 ≤ name.toList.length && name.toList.length ≤ 63 &&
    (name.toList.splitOn '.').all validSegment

/-- Whether the text may name a slot of a Profile. -/
def validateSlot (value : String) : Bool :=
  match value.toList with
  | [] => false
  | first :: rest =>
      rest.length < 64 && first.isLower &&
        rest.all fun char =>
          char.isLower || char.isDigit || char = '_' || char = '-'

theorem length_le_of_isValidCapsuleName {name : String}
    (valid : isValidCapsuleName name = true) : name.toList.length ≤ 63 := by
  simp only [isValidCapsuleName, Bool.and_eq_true, decide_eq_true_eq] at valid
  exact valid.1.2

theorem length_le_of_validateSlot {value : String}
    (valid : validateSlot value = true) : value.toList.length ≤ 64 := by
  unfold validateSlot at valid
  split at valid
  · cases valid
  · rename_i shape
    simp only [Bool.and_eq_true, decide_eq_true_eq] at valid
    rw [shape, List.length_cons]
    exact valid.1.1

end Names

/-- The name of a client. -/
abbrev ClientId : Type :=
  { name : String // Names.validClientId name = true }

/-- A text in the form of a UUID. -/
abbrev Uuid : Type :=
  { text : String // Names.isUuid text = true }

end TaskCage
