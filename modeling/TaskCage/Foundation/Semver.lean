import TaskCage.Foundation.Decimal

/-!
# Semantic versions

The grammar of semantic versions with 64-bit numbers.  A version that has
neither a prerelease nor build metadata is three numerals with dots between.
-/

namespace TaskCage

/-- A semantic version. -/
structure Version where
  major : ℕ
  minor : ℕ
  patch : ℕ
  pre : List Char := []
  build : List Char := []
deriving DecidableEq

namespace Version

/-- The numeral at the beginning of a text, and what follows it. -/
def numericIdentifier (text : List Char) : Option (ℕ × List Char) :=
  let digits := text.takeWhile Char.isDigit
  if Decimal.isNumeral digits && Decimal.value digits < 2 ^ 64 then
    some (Decimal.value digits, text.dropWhile Char.isDigit)
  else
    none

/-- What follows a dot at the beginning of a text. -/
def dot : List Char → Option (List Char)
  | '.' :: rest => some rest
  | _ => none

/-- A character of an identifier. -/
def isIdentifierChar (char : Char) : Bool :=
  char.isAlphanum || char = '-'

/-- One of the identifiers between dots.  In a prerelease a number has no
superfluous zeros. -/
def validIdentifier (prerelease : Bool) (segment : List Char) : Bool :=
  segment ≠ [] && segment.all isIdentifierChar &&
    !(prerelease && segment.all Char.isDigit && 1 < segment.length &&
      segment.head? = some '0')

/-- The identifiers at the beginning of a text, and what follows them. -/
def identifiers (prerelease : Bool) (text : List Char) :
    Option (List Char × List Char) :=
  let within (char : Char) : Bool := isIdentifierChar char || char = '.'
  let found := text.takeWhile within
  if (found.splitOn '.').all (validIdentifier prerelease) then
    some (found, text.dropWhile within)
  else
    none

/-- An optional part of a version that a sign announces. -/
def optionalPart (sign : Char) (prerelease : Bool) :
    List Char → Option (List Char × List Char)
  | [] => some ([], [])
  | first :: rest =>
      if first = sign then identifiers prerelease rest
      else some ([], first :: rest)

/-- The reader of a version. -/
def parse (text : List Char) : Option Version := do
  let (major, text) ← numericIdentifier text
  let text ← dot text
  let (minor, text) ← numericIdentifier text
  let text ← dot text
  let (patch, text) ← numericIdentifier text
  let (pre, text) ← optionalPart '-' true text
  let (build, text) ← optionalPart '+' false text
  if text = [] then some { major, minor, patch, pre, build } else none

/-- The text of a version. -/
def toText (version : Version) : List Char :=
  Nat.toDigits 10 version.major ++ '.' :: Nat.toDigits 10 version.minor ++
    '.' :: Nat.toDigits 10 version.patch ++
    (if version.pre = [] then [] else '-' :: version.pre) ++
    (if version.build = [] then [] else '+' :: version.build)

/-- A release has neither a prerelease nor build metadata. -/
def isRelease (version : Version) : Bool :=
  version.pre.isEmpty && version.build.isEmpty

/-! ### Releases -/

/-- A numeral of a release. -/
structure Component (text : List Char) : Prop where
  numeral : Decimal.isNumeral text = true
  word : Decimal.value text < 2 ^ 64

/-- The text of a release: three numerals with dots between them. -/
def IsReleaseText (text : List Char) : Prop :=
  ∃ major minor patch, text = major ++ '.' :: (minor ++ '.' :: patch) ∧
    Component major ∧ Component minor ∧ Component patch

variable {text rest : List Char}

theorem Component.isDigit (component : Component text) :
    ∀ char ∈ text, char.isDigit = true :=
  (Decimal.isNumeral_iff.mp component.numeral).2.1

theorem numericIdentifier_eq_some_iff {number : ℕ} :
    numericIdentifier text = some (number, rest) ↔
      ∃ numeral, text = numeral ++ rest ∧ Component numeral ∧
        number = Decimal.value numeral ∧
        ∀ char ∈ rest.head?, char.isDigit = false := by
  simp only [numericIdentifier]
  constructor
  · intro read
    split at read
    · rename_i accepted
      cases read
      rw [Bool.and_eq_true, decide_eq_true_eq] at accepted
      refine ⟨text.takeWhile Char.isDigit, ?_, ⟨accepted.1, accepted.2⟩, rfl,
        ?_⟩
      · exact (List.takeWhile_append_dropWhile).symm
      · intro char found
        have stopped := List.head?_dropWhile_not Char.isDigit text
        rw [Option.mem_def.mp found] at stopped
        simpa using stopped
    · cases read
  · rintro ⟨numeral, rfl, component, rfl, stopped⟩
    have before : ∀ char ∈ numeral, char.isDigit = true := component.isDigit
    have taken : rest.takeWhile Char.isDigit = [] := by
      cases rest with
      | nil => rfl
      | cons char rest =>
          rw [List.takeWhile_cons, stopped char rfl]
          rfl
    have dropped : rest.dropWhile Char.isDigit = rest := by
      cases rest with
      | nil => rfl
      | cons char rest =>
          rw [List.dropWhile_cons, stopped char rfl]
          rfl
    rw [List.takeWhile_append_of_pos before, taken, List.append_nil,
      List.dropWhile_append_of_pos before, dropped,
      if_pos (by rw [component.numeral, decide_eq_true component.word]; rfl)]

theorem numericIdentifier_append {numeral : List Char}
    (component : Component numeral)
    (stopped : ∀ char ∈ rest.head?, char.isDigit = false) :
    numericIdentifier (numeral ++ rest) = some (Decimal.value numeral, rest) :=
  numericIdentifier_eq_some_iff.mpr ⟨numeral, rfl, component, rfl, stopped⟩

theorem dot_eq_some_iff :
    dot text = some rest ↔ text = '.' :: rest := by
  unfold dot
  split
  · simp
  · rename_i different
    refine ⟨nofun, ?_⟩
    rintro rfl
    exact absurd rfl (different rest)

/-- An optional part that is empty is absent. -/
theorem eq_of_optionalPart_nil {sign : Char} {prerelease : Bool}
    (read : optionalPart sign prerelease text = some ([], rest)) :
    rest = text := by
  cases text with
  | nil =>
      cases read
      rfl
  | cons first others =>
      rw [optionalPart] at read
      by_cases announced : first = sign
      · -- after the sign there is at least one identifier
        rw [if_pos announced] at read
        simp only [identifiers] at read
        split at read
        · rename_i valid
          rw [Option.some.injEq, Prod.mk.injEq] at read
          rw [read.1] at valid
          exact absurd valid (by simp [validIdentifier])
        · cases read
      · rw [if_neg announced] at read
        cases read
        rfl

/-- The numerals that a release was read from. -/
theorem exists_of_parse {version : Version} (read : parse text = some version)
    (release : version.isRelease = true) :
    ∃ major minor patch, text = major ++ '.' :: (minor ++ '.' :: patch) ∧
      Component major ∧ Component minor ∧ Component patch ∧
      version = ⟨Decimal.value major, Decimal.value minor,
        Decimal.value patch, [], []⟩ := by
  unfold parse at read
  simp only [Option.bind_eq_bind, Option.bind_eq_some_iff] at read
  obtain ⟨⟨_, _⟩, first, _, dotted, ⟨_, _⟩, second, _, dotted', ⟨_, _⟩, third,
    ⟨pre, _⟩, prePart, ⟨build, _⟩, buildPart, read⟩ := read
  split at read
  · rename_i ended
    cases read
    simp only [isRelease, Bool.and_eq_true, List.isEmpty_iff] at release
    obtain ⟨rfl, rfl⟩ := release
    have afterPre := eq_of_optionalPart_nil prePart
    have afterBuild := eq_of_optionalPart_nil buildPart
    obtain ⟨major, rfl, majorOk, rfl, -⟩ :=
      numericIdentifier_eq_some_iff.mp first
    obtain ⟨minor, rfl, minorOk, rfl, -⟩ :=
      numericIdentifier_eq_some_iff.mp second
    obtain ⟨patch, rfl, patchOk, rfl, -⟩ :=
      numericIdentifier_eq_some_iff.mp third
    refine ⟨major, minor, patch, ?_, majorOk, minorOk, patchOk, rfl⟩
    have whole := dot_eq_some_iff.mp dotted
    have rest := dot_eq_some_iff.mp dotted'
    dsimp only at whole rest afterPre afterBuild ended
    rw [whole, rest, ← afterPre, ← afterBuild, ended, List.append_nil]
  · cases read

/-- Exactly the texts of releases are read as releases. -/
theorem parse_isRelease_iff :
    (∃ version, parse text = some version ∧ version.isRelease = true) ↔
      IsReleaseText text := by
  constructor
  · rintro ⟨version, read, release⟩
    obtain ⟨major, minor, patch, shape, majorOk, minorOk, patchOk, -⟩ :=
      exists_of_parse read release
    exact ⟨major, minor, patch, shape, majorOk, minorOk, patchOk⟩
  · rintro ⟨major, minor, patch, rfl, majorOk, minorOk, patchOk⟩
    have point : ∀ rest : List Char,
        ∀ char ∈ ('.' :: rest).head?, char.isDigit = false := by
      simp
    have first := numericIdentifier_append majorOk
      (point (minor ++ '.' :: patch))
    have second := numericIdentifier_append minorOk (point patch)
    have third : numericIdentifier (patch ++ []) =
        some (Decimal.value patch, []) :=
      numericIdentifier_append patchOk nofun
    rw [List.append_nil] at third
    refine ⟨⟨Decimal.value major, Decimal.value minor, Decimal.value patch, [],
      []⟩, ?_, rfl⟩
    simp [parse, first, second, third, dot, optionalPart]

/-- A release is written as it was read. -/
theorem toText_of_parse {version : Version} (read : parse text = some version)
    (release : version.isRelease = true) :
    version.toText = text := by
  obtain ⟨major, minor, patch, rfl, majorOk, minorOk, patchOk, rfl⟩ :=
    exists_of_parse read release
  simp [toText, Decimal.toDigits_value majorOk.numeral,
    Decimal.toDigits_value minorOk.numeral,
    Decimal.toDigits_value patchOk.numeral]

/-! ### Dots -/

/-- The parts of a text between its dots. -/
theorem splitOn_dot_eq_iff {major minor patch : List Char}
    (majorOk : '.' ∉ major) (minorOk : '.' ∉ minor) (patchOk : '.' ∉ patch) :
    text.splitOn '.' = [major, minor, patch] ↔
      text = major ++ '.' :: (minor ++ '.' :: patch) := by
  have joined : ['.'].intercalate [major, minor, patch] =
      major ++ '.' :: (minor ++ '.' :: patch) := by
    simp [List.intercalate]
  constructor
  · intro split
    rw [← joined, ← split, List.intercalate_splitOn]
  · rintro rfl
    rw [← joined]
    apply List.splitOn_intercalate
    · intro part member
      simp only [List.mem_cons, List.not_mem_nil, or_false] at member
      rcases member with rfl | rfl | rfl
      · exact majorOk
      · exact minorOk
      · exact patchOk
    · simp

end Version
end TaskCage
