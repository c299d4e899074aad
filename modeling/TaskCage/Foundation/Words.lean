import Mathlib.Data.List.Basic
import Mathlib.Data.List.TakeWhile
import Mathlib.Data.Nat.Notation

/-!
# Words of a text

White space in the sense of Unicode, and how a text is cut at it.
-/

namespace TaskCage
namespace Words

/-- The characters that count as white space. -/
def isWhitespace (char : Char) : Bool :=
  let code := char.toNat
  (0x09 ≤ code && code ≤ 0x0D) || code = 0x20 || code = 0x85 || code = 0xA0 ||
    code = 0x1680 || (0x2000 ≤ code && code ≤ 0x200A) || code = 0x2028 ||
    code = 0x2029 || code = 0x202F || code = 0x205F || code = 0x3000

/-- A text without the white space at its beginning. -/
def trimStart (text : List Char) : List Char :=
  text.dropWhile isWhitespace

/-- A text without the white space at its end. -/
def trimEnd (text : List Char) : List Char :=
  (text.reverse.dropWhile isWhitespace).reverse

/-- A text without the white space around it. -/
def trim (text : List Char) : List Char :=
  trimEnd (trimStart text)

/-- The words of a text: what stands between its white space. -/
def words (text : List Char) : List (List Char) :=
  (text.splitOnP isWhitespace).filter fun word => !word.isEmpty

/-- The lines of a text.  A line feed ends a line, together with a carriage
return before it; what follows the last line feed is a line if it is not
empty. -/
def lines (text : List Char) : List (List Char) :=
  let pieces := text.splitOn '\n'
  let last := pieces.getLast?.toList.filter fun line => !line.isEmpty
  pieces.dropLast.map (fun line => (line.dropSuffix? ['\r']).getD line) ++ last

variable {text blanks : List Char} {char : Char}

/-- What stands before an ending. -/
theorem dropSuffix?_eq_some {ending front : List Char} :
    text.dropSuffix? ending = some front ↔ text = front ++ ending := by
  rw [List.dropSuffix?_eq_some_iff]
  simp

/-- What follows a beginning. -/
theorem dropPrefix?_eq_some {beginning rest : List Char} :
    text.dropPrefix? beginning = some rest ↔ text = beginning ++ rest := by
  rw [List.dropPrefix?_eq_some_iff]
  simp

/-! ### Words -/

/-- White space cuts the words of a text. -/
theorem words_append_cons (blank : isWhitespace char = true)
    (first second : List Char) :
    words (first ++ char :: second) = words first ++ words second := by
  unfold words
  rw [List.splitOnP_append_cons first second blank, List.filter_append]

@[simp] theorem words_nil : words [] = [] :=
  rfl

theorem words_cons (blank : isWhitespace char = true) (text : List Char) :
    words (char :: text) = words text :=
  words_append_cons blank [] text

theorem words_blank_append (blank : ∀ char ∈ blanks, isWhitespace char = true)
    (text : List Char) :
    words (blanks ++ text) = words text := by
  induction blanks with
  | nil => rfl
  | cons char rest inductionHypothesis =>
      rw [List.forall_mem_cons] at blank
      rw [List.cons_append, words_cons blank.1, inductionHypothesis blank.2]

theorem words_append_blank (blank : ∀ char ∈ blanks, isWhitespace char = true)
    (text : List Char) :
    words (text ++ blanks) = words text := by
  cases blanks with
  | nil => rw [List.append_nil]
  | cons char rest =>
      rw [List.forall_mem_cons] at blank
      rw [words_append_cons blank.1]
      have nothing := words_blank_append blank.2 []
      rw [List.append_nil, words_nil] at nothing
      rw [nothing, List.append_nil]

/-- A text is blank, white space apart, up to what `trimStart` leaves. -/
theorem exists_trimStart (text : List Char) :
    ∃ blanks, (∀ char ∈ blanks, isWhitespace char = true) ∧
      text = blanks ++ trimStart text :=
  ⟨text.takeWhile isWhitespace, fun _ member => List.mem_takeWhile_imp member,
    List.takeWhile_append_dropWhile.symm⟩

theorem exists_trimEnd (text : List Char) :
    ∃ blanks, (∀ char ∈ blanks, isWhitespace char = true) ∧
      text = trimEnd text ++ blanks := by
  obtain ⟨blanks, blank, same⟩ := exists_trimStart text.reverse
  refine ⟨blanks.reverse, ?_, ?_⟩
  · intro char member
    exact blank char (List.mem_reverse.mp member)
  · apply List.reverse_injective
    rw [List.reverse_append, List.reverse_reverse]
    simpa [trimEnd, trimStart] using same

@[simp] theorem words_trimStart (text : List Char) :
    words (trimStart text) = words text := by
  obtain ⟨blanks, blank, same⟩ := exists_trimStart text
  rw [same, words_blank_append blank, ← same]

@[simp] theorem words_trimEnd (text : List Char) :
    words (trimEnd text) = words text := by
  obtain ⟨blanks, blank, same⟩ := exists_trimEnd text
  rw [same, words_append_blank blank, ← same]

@[simp] theorem words_trim (text : List Char) :
    words (trim text) = words text := by
  rw [trim, words_trimEnd, words_trimStart]

/-! ### Trimming -/

theorem trimEnd_append_blank
    (blank : ∀ char ∈ blanks, isWhitespace char = true) (text : List Char) :
    trimEnd (text ++ blanks) = trimEnd text := by
  unfold trimEnd
  rw [List.reverse_append, List.dropWhile_append_of_pos]
  intro char member
  exact blank char (List.mem_reverse.mp member)

theorem trimEnd_append (filled : trimEnd text ≠ []) (front : List Char) :
    trimEnd (front ++ text) = front ++ trimEnd text := by
  unfold trimEnd at filled ⊢
  rw [List.reverse_append, List.dropWhile_append, if_neg]
  · rw [List.reverse_append, List.reverse_reverse]
  · intro empty
    rw [List.isEmpty_iff] at empty
    exact filled (by rw [empty, List.reverse_nil])

theorem trimStart_append (filled : trimStart text ≠ []) (rest : List Char) :
    trimStart (text ++ rest) = trimStart text ++ rest := by
  unfold trimStart at filled ⊢
  rw [List.dropWhile_append, if_neg]
  intro empty
  exact filled (List.isEmpty_iff.mp empty)

theorem trimStart_concat (filled : isWhitespace char = false)
    (text : List Char) :
    trimStart (text ++ [char]) = trimStart text ++ [char] := by
  by_cases empty : trimStart text = []
  · unfold trimStart at empty ⊢
    rw [List.dropWhile_append, if_pos (List.isEmpty_iff.mpr empty), empty]
    simp [filled]
  · exact trimStart_append empty [char]

theorem trimStart_blank (blank : ∀ char ∈ blanks, isWhitespace char = true) :
    trimStart blanks = [] :=
  List.dropWhile_eq_nil_iff.mpr blank

theorem trimEnd_concat (filled : isWhitespace char = false) (text : List Char) :
    trimEnd (text ++ [char]) = text ++ [char] := by
  simp [trimEnd, filled]

/-- What `trimEnd` leaves ends with something else than white space. -/
theorem exists_concat_of_trimEnd (filled : trimEnd text ≠ []) :
    ∃ front char, trimEnd text = front ++ [char] ∧
      isWhitespace char = false := by
  unfold trimEnd at filled ⊢
  cases kept : text.reverse.dropWhile isWhitespace with
  | nil =>
      rw [kept] at filled
      exact absurd rfl filled
  | cons char rest =>
      have first := List.head?_dropWhile_not isWhitespace text.reverse
      rw [kept] at first
      exact ⟨rest.reverse, char, List.reverse_cons, by simpa using first⟩

/-- It does not matter which end is trimmed first. -/
theorem trim_eq (text : List Char) : trim text = trimStart (trimEnd text) := by
  obtain ⟨blanks, blank, same⟩ := exists_trimEnd text
  by_cases empty : trimEnd text = []
  · rw [empty, List.nil_append] at same
    rw [trim, empty, same, trimStart_blank blank]
    rfl
  · obtain ⟨front, char, shape, filled⟩ := exists_concat_of_trimEnd empty
    have start : trimStart (trimEnd text) = trimStart front ++ [char] := by
      rw [shape, trimStart_concat filled]
    have more : trimStart (trimEnd text) ≠ [] := by
      rw [start]
      simp
    calc trim text = trimEnd (trimStart (trimEnd text ++ blanks)) := by
          rw [← same, trim]
      _ = trimEnd (trimStart (trimEnd text)) := by
          rw [trimStart_append more, trimEnd_append_blank blank]
      _ = trimStart (trimEnd text) := by
          rw [start, trimEnd_concat filled]

end Words
end TaskCage
