import Mathlib.Algebra.BigOperators.Group.List.Basic
import Mathlib.Algebra.GroupWithZero.Nat
import Mathlib.Data.Int.Notation
import Mathlib.Data.Nat.Notation

/-!
# JSON texts

Values with integer numbers, and their compact texts: no blanks, members in
the given order, and in strings only the escapes that are necessary.  The
length of a text is counted in the bytes of its UTF-8 form.
-/

namespace TaskCage

/-- A JSON value whose numbers are integers. -/
inductive Json where
  | null
  | bool (value : Bool)
  | number (value : ℤ)
  | string (value : String)
  | array (elements : List Json)
  | object (members : List (String × Json))

/-- The length of a text in UTF-8. -/
def byteLength (text : List Char) : ℕ :=
  (text.map Char.utf8Size).sum

namespace Json

/-! ### Strings -/

/-- The quotation mark. -/
def quote : Char :=
  Char.ofNat 0x22

/-- The backslash. -/
def escape : Char :=
  Char.ofNat 0x5C

/-- The letter of an escape of two characters. -/
def shortEscape (char : Char) : Option Char :=
  match char.toNat with
  | 0x22 => some quote
  | 0x5C => some escape
  | 0x08 => some 'b'
  | 0x09 => some 't'
  | 0x0A => some 'n'
  | 0x0C => some 'f'
  | 0x0D => some 'r'
  | _ => none

/-- A character inside of a string. -/
def escapeChar (char : Char) : List Char :=
  match shortEscape char with
  | some letter => [escape, letter]
  | none =>
      if char.toNat < 0x20 then
        [escape, 'u', '0', '0', Nat.digitChar (char.toNat / 16),
          Nat.digitChar (char.toNat % 16)]
      else
        [char]

/-- The characters of a string, with the closing quotation mark. -/
def renderChars : List Char → List Char
  | [] => [quote]
  | char :: rest => escapeChar char ++ renderChars rest

/-- The text of a string. -/
def renderString (value : String) : List Char :=
  quote :: renderChars value.toList

/-! ### Numbers -/

/-- The decimal digits of a number. -/
def renderNat (value : ℕ) : List Char :=
  Nat.toDigits 10 value

/-- The text of an integer. -/
def renderInt : ℤ → List Char
  | .ofNat value => renderNat value
  | .negSucc value => '-' :: renderNat (value + 1)

/-! ### Values -/

mutual

/-- The text of a value. -/
def render : Json → List Char
  | null => ['n', 'u', 'l', 'l']
  | bool true => ['t', 'r', 'u', 'e']
  | bool false => ['f', 'a', 'l', 's', 'e']
  | number value => renderInt value
  | string value => renderString value
  | array [] => ['[', ']']
  | array (element :: rest) => '[' :: (render element ++ renderElements rest)
  | object [] => ['{', '}']
  | object ((key, value) :: rest) =>
      '{' :: (renderString key ++ ':' :: (render value ++ renderMembers rest))

/-- The further elements of an array, with the closing bracket. -/
def renderElements : List Json → List Char
  | [] => [']']
  | element :: rest => ',' :: (render element ++ renderElements rest)

/-- The further members of an object, with the closing brace. -/
def renderMembers : List (String × Json) → List Char
  | [] => ['}']
  | (key, value) :: rest =>
      ',' :: (renderString key ++ ':' :: (render value ++ renderMembers rest))

end

/-- The length of the text of a value. -/
def size (value : Json) : ℕ :=
  byteLength value.render

/-! ### Lengths -/

@[simp] theorem byteLength_nil : byteLength [] = 0 :=
  rfl

@[simp] theorem byteLength_cons (char : Char) (text : List Char) :
    byteLength (char :: text) = char.utf8Size + byteLength text :=
  List.sum_cons

@[simp] theorem byteLength_append (first second : List Char) :
    byteLength (first ++ second) = byteLength first + byteLength second := by
  unfold byteLength
  rw [List.map_append, List.sum_append]

/-- The marks around the members of an object. -/
@[simp] theorem utf8Size_openBrace : '{'.utf8Size = 1 := by
  decide

@[simp] theorem utf8Size_closeBrace : '}'.utf8Size = 1 := by
  decide

@[simp] theorem utf8Size_colon : ':'.utf8Size = 1 := by
  decide

@[simp] theorem utf8Size_comma : ','.utf8Size = 1 := by
  decide

/-- An ASCII character that stands for itself inside of a string. -/
def Plain (char : Char) : Prop :=
  char.utf8Size = 1 ∧ escapeChar char = [char]

/-- A decidable property of ASCII characters is checked on their codes. -/
theorem forall_ascii (Good : Char → Prop)
    (checked : ∀ code, code < 128 → Good (Char.ofNat code)) (char : Char)
    (ascii : char.toNat < 128) : Good char := by
  have good := checked char.toNat ascii
  rwa [Char.ofNat_toNat] at good

theorem byteLength_renderChars_of_plain {text : List Char}
    (plain : ∀ char ∈ text, Plain char) :
    byteLength (renderChars text) = text.length + 1 := by
  induction text with
  | nil => rfl
  | cons char rest inductionHypothesis =>
      have here := plain char List.mem_cons_self
      have later := inductionHypothesis fun other member =>
        plain other (List.mem_cons_of_mem _ member)
      rw [renderChars, here.2, byteLength_append, later, byteLength_cons,
        here.1, byteLength_nil, List.length_cons]
      omega

variable {value : String} {char : Char} {bound m : ℕ}

theorem byteLength_renderString_of_plain
    (plain : ∀ char ∈ value.toList, Plain char) :
    byteLength (renderString value) = value.toList.length + 2 := by
  rw [renderString, byteLength_cons, byteLength_renderChars_of_plain plain]
  change 1 + _ = _
  omega

variable (text : List Char)

theorem length_le_byteLength :
    text.length ≤ byteLength text := by
  induction text with
  | nil => exact Nat.le_refl 0
  | cons char rest inductionHypothesis =>
      have positive := Char.utf8Size_pos char
      rw [List.length_cons, byteLength_cons]
      omega

/-- Only ASCII characters are escaped. -/
theorem escapeChar_of_le (high : 128 ≤ char.toNat) :
    escapeChar char = [char] := by
  unfold escapeChar shortEscape
  split
  · rename_i found
    split at found
    all_goals first | omega | cases found
  · rw [if_neg (by omega)]

/-- An escape is at most six bytes long. -/
theorem byteLength_escapeChar_le (char : Char) :
    byteLength (escapeChar char) ≤ 6 := by
  by_cases ascii : char.toNat < 128
  · exact forall_ascii (fun char => byteLength (escapeChar char) ≤ 6)
      (by decide) char ascii
  · have size := Char.utf8Size_le_four char
    rw [escapeChar_of_le (Nat.le_of_not_lt ascii), byteLength_cons,
      byteLength_nil]
    omega

theorem byteLength_renderChars_le :
    byteLength (renderChars text) ≤ 6 * text.length + 1 := by
  induction text with
  | nil => decide
  | cons char rest inductionHypothesis =>
      have here := byteLength_escapeChar_le char
      rw [renderChars, byteLength_append, List.length_cons]
      omega

/-- How many digits a number has. -/
def digits (value : ℕ) : ℕ :=
  (renderNat value).length

theorem digits_le_iff {value : ℕ} (positive : 0 < bound) :
    digits value ≤ bound ↔ value < 10 ^ bound :=
  Nat.length_toDigits_le_iff (by decide) positive

theorem utf8Size_of_isDigit (digit : char.isDigit = true) :
    char.utf8Size = 1 := by
  have ascii : char.toNat < 128 := by
    simp only [Char.isDigit, Bool.and_eq_true, decide_eq_true_eq] at digit
    have below : char.val.toNat ≤ 57 := UInt32.le_iff_toNat_le.mp digit.2
    exact Nat.lt_of_le_of_lt below (by decide)
  exact forall_ascii (fun char => char.isDigit = true → char.utf8Size = 1)
    (by decide) char ascii digit

theorem renderInt_natCast (value : ℕ) :
    renderInt (value : ℤ) = renderNat value :=
  rfl

theorem byteLength_renderNat (value : ℕ) :
    byteLength (renderNat value) = digits value := by
  have single : ∀ char ∈ renderNat value, char.utf8Size = 1 :=
    fun char member => utf8Size_of_isDigit
      (Nat.isDigit_of_mem_toDigits (by decide) (by decide) member)
  unfold byteLength digits
  rw [List.map_congr_left single]
  simp

/-! ### Bounds of sizes -/

/-- The characters of a literal are counted without decoding it. -/
theorem length_literal_le (short : text.length ≤ m) :
    (String.ofList text).toList.length ≤ m := by
  rw [String.toList_ofList]
  exact short

theorem length_append_le {first second : String} {n : ℕ}
    (firstLe : first.toList.length ≤ m) (secondLe : second.toList.length ≤ n) :
    (first ++ second).toList.length ≤ m + n := by
  rw [String.toList_append, List.length_append]
  exact Nat.add_le_add firstLe secondLe

/-- However a string is escaped, each character costs at most six bytes. -/
theorem size_string_le (short : value.toList.length ≤ bound) :
    size (.string value) ≤ 6 * bound + 2 := by
  have chars := byteLength_renderChars_le value.toList
  change byteLength (quote :: renderChars value.toList) ≤ _
  have mark : quote.utf8Size = 1 := by decide
  rw [byteLength_cons, mark]
  omega

theorem size_bool_le (value : Bool) : size (.bool value) ≤ 5 := by
  cases value
  all_goals decide

/-- A 64-bit number has at most twenty digits. -/
theorem size_natCast_le {value : ℕ} (word : value < 2 ^ 64) :
    size (.number value) ≤ 20 := by
  change byteLength (renderInt (value : ℤ)) ≤ 20
  rw [renderInt_natCast, byteLength_renderNat, digits_le_iff (by decide)]
  omega

/-- A 32-bit integer has at most ten digits and a sign. -/
theorem size_int_le {value : ℤ} (low : -2 ^ 31 ≤ value)
    (high : value < 2 ^ 31) : size (.number value) ≤ 11 := by
  change byteLength (renderInt value) ≤ 11
  cases value with
  | ofNat value =>
      have below : value < 2 ^ 31 := Int.ofNat_lt.mp high
      have short : digits value ≤ 10 :=
        (digits_le_iff (by decide)).mpr (by omega)
      rw [renderInt, byteLength_renderNat]
      omega
  | negSucc value =>
      have short : digits (value + 1) ≤ 10 :=
        (digits_le_iff (by decide)).mpr (by omega)
      have sign : '-'.utf8Size = 1 := by decide
      rw [renderInt, byteLength_cons, byteLength_renderNat, sign]
      omega

theorem byteLength_renderMembers_le (members : List (String × Json)) :
    byteLength (renderMembers members) ≤ size (.object members) := by
  cases members with
  | nil => decide
  | cons member rest =>
      apply Nat.le_of_eq
      unfold size
      rw [renderMembers, render, byteLength_cons, byteLength_cons,
        utf8Size_comma, utf8Size_openBrace]

/-- The size of an object from the sizes of its members. -/
theorem size_member_le {key : String} {value : Json}
    {rest : List (String × Json)} {here later : ℕ}
    (name : key.toList.length ≤ m) (first : size value ≤ here)
    (others : size (.object rest) ≤ later) :
    size (.object ((key, value) :: rest)) ≤ 6 * m + here + later + 4 := by
  have named := size_string_le name
  have tail := byteLength_renderMembers_le rest
  have parts : size (.object ((key, value) :: rest)) =
      size (.string key) + size value +
        byteLength (renderMembers rest) + 2 := by
    unfold size
    rw [render, render, byteLength_cons, byteLength_append, byteLength_cons,
      byteLength_append, utf8Size_openBrace, utf8Size_colon]
    omega
  omega

theorem size_object_nil_le : size (.object []) ≤ 2 := by
  decide

end Json
end TaskCage
