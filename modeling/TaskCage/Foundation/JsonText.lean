import TaskCage.Foundation.Json
import Mathlib.Data.List.Infix

/-!
# JSON texts determine their values

Two values with the same text are equal.  A text is read from its left: the
first character tells the kind of the value, a string ends with its quotation
mark, and a number ends where no digit follows.
-/

namespace TaskCage
namespace Json

variable {first second : List Char}

/-! ### Strings -/

/-- The codes of the characters that are escaped. -/
def escapedCodes : List ℕ :=
  List.range 32 ++ [0x22, 0x5C]

theorem escapeChar_eq_or_mem (char : Char) :
    escapeChar char = [char] ∨ char.toNat ∈ escapedCodes := by
  rcases Nat.lt_or_ge char.toNat 128 with low | high
  · exact forall_ascii (fun char => escapeChar char = [char] ∨
      char.toNat ∈ escapedCodes) (by decide) char low
  · exact .inl (escapeChar_of_le high)

/-- An escape is at least two characters long and begins with the backslash. -/
theorem exists_escapeChar {char : Char} (member : char.toNat ∈ escapedCodes) :
    ∃ letter rest, escapeChar char = escape :: letter :: rest := by
  have every : ∀ code ∈ escapedCodes,
      (escapeChar (Char.ofNat code)).take 1 = [escape] ∧
        1 < (escapeChar (Char.ofNat code)).length := by
    decide
  have here := every _ member
  rw [Char.ofNat_toNat] at here
  match shape : escapeChar char with
  | [] =>
      rw [shape] at here
      exact absurd here.2 (by decide)
  | [only] =>
      rw [shape] at here
      exact absurd here.2 (Nat.lt_irrefl 1)
  | mark :: letter :: rest =>
      rw [shape] at here
      cases (List.cons.inj here.1).1
      exact ⟨letter, rest, rfl⟩

/-- No escape begins another one. -/
theorem eq_of_escapeChar_isPrefix {char other : Char}
    (begins : escapeChar char <+: escapeChar other) : char = other := by
  rcases escapeChar_eq_or_mem char with plain | member
  · have part : char ∈ (escapeChar other).head? := by
      rw [plain] at begins
      obtain ⟨rest, shape⟩ := begins
      rw [← shape]
      rfl
    rcases escapeChar_eq_or_mem other with otherPlain | otherMember
    · rw [otherPlain] at part
      exact (Option.some.inj part).symm
    · obtain ⟨letter, rest, shape⟩ := exists_escapeChar otherMember
      rw [shape] at part
      cases part
      exact absurd plain (by decide)
  · rcases escapeChar_eq_or_mem other with otherPlain | otherMember
    · obtain ⟨letter, rest, shape⟩ := exists_escapeChar member
      have length := begins.length_le
      rw [shape, otherPlain] at length
      exact absurd length (by simp)
    · have pairs : ∀ code ∈ escapedCodes, ∀ other ∈ escapedCodes,
          (escapeChar (Char.ofNat code)).isPrefixOf
            (escapeChar (Char.ofNat other)) = true → code = other := by
        decide +kernel
      have equal := pairs _ member _ otherMember
      rw [Char.ofNat_toNat, Char.ofNat_toNat,
        List.isPrefixOf_iff_prefix] at equal
      exact Char.toNat_inj.mp (equal begins)

theorem escapeChar_cancel {char other : Char}
    (same : escapeChar char ++ first = escapeChar other ++ second) :
    char = other ∧ first = second := by
  have equal : char = other := by
    rcases List.prefix_or_prefix_of_prefix
        (List.prefix_append (escapeChar char) first)
        (same ▸ List.prefix_append (escapeChar other) second) with
      begins | begins
    · exact eq_of_escapeChar_isPrefix begins
    · exact (eq_of_escapeChar_isPrefix begins).symm
  subst equal
  exact ⟨rfl, List.append_cancel_left same⟩

/-- An escape does not begin with a quotation mark. -/
theorem escapeChar_append_ne_quote (char : Char) :
    escapeChar char ++ first ≠ quote :: second := by
  intro same
  rcases escapeChar_eq_or_mem char with plain | member
  · rw [plain] at same
    cases (List.cons.inj same).1
    exact absurd plain (by decide)
  · obtain ⟨letter, rest, shape⟩ := exists_escapeChar member
    rw [shape] at same
    exact absurd (List.cons.inj same).1 (by decide)

theorem renderChars_cancel {text other : List Char}
    (same : renderChars text ++ first = renderChars other ++ second) :
    text = other ∧ first = second := by
  induction text generalizing other with
  | nil =>
      cases other with
      | nil => exact ⟨rfl, List.append_cancel_left same⟩
      | cons char rest =>
          rw [renderChars, renderChars, List.append_assoc] at same
          exact absurd same.symm (escapeChar_append_ne_quote char)
  | cons char rest inductionHypothesis =>
      cases other with
      | nil =>
          rw [renderChars, renderChars, List.append_assoc] at same
          exact absurd same (escapeChar_append_ne_quote char)
      | cons other others =>
          rw [renderChars, renderChars, List.append_assoc,
            List.append_assoc] at same
          obtain ⟨rfl, later⟩ := escapeChar_cancel same
          obtain ⟨rfl, rest⟩ := inductionHypothesis later
          exact ⟨rfl, rest⟩

theorem renderString_cancel {value other : String}
    (same : renderString value ++ first = renderString other ++ second) :
    value = other ∧ first = second := by
  have chars := renderChars_cancel (List.cons.inj same).2
  exact ⟨String.toList_inj.mp chars.1, chars.2⟩

/-! ### Numbers -/

/-- A text that does not begin with a digit. -/
def Stops (text : List Char) : Prop :=
  ∀ char ∈ text.head?, char.isDigit = false

theorem isDigit_of_mem_renderNat {value : ℕ} {char : Char}
    (member : char ∈ renderNat value) : char.isDigit = true :=
  Nat.isDigit_of_mem_toDigits (by decide) (by decide) member

theorem takeWhile_renderNat (value : ℕ) (stops : Stops first) :
    (renderNat value ++ first).takeWhile Char.isDigit = renderNat value := by
  rw [List.takeWhile_append_of_pos fun char member =>
    isDigit_of_mem_renderNat member]
  have nothing : first.takeWhile Char.isDigit = [] := by
    cases first with
    | nil => rfl
    | cons char rest =>
        rw [List.takeWhile_cons, stops char rfl]
        rfl
  rw [nothing, List.append_nil]

theorem renderNat_cancel {value other : ℕ} (stops : Stops first)
    (otherStops : Stops second)
    (same : renderNat value ++ first = renderNat other ++ second) :
    value = other ∧ first = second := by
  have digits : renderNat value = renderNat other := by
    rw [← takeWhile_renderNat value stops, same,
      takeWhile_renderNat other otherStops]
  have equal : value = other := by
    have read (number : ℕ) :
        Nat.ofDigitChars 10 (renderNat number) 0 = number :=
      Nat.ofDigitChars_toDigits (by decide) (by decide)
    rw [← read value, digits, read]
  rw [digits] at same
  exact ⟨equal, List.append_cancel_left same⟩

/-- A number has a first digit. -/
theorem exists_renderNat (value : ℕ) :
    ∃ digit rest, renderNat value = digit :: rest ∧ digit.isDigit = true := by
  have nonempty : renderNat value ≠ [] := Nat.toDigits_ne_nil
  obtain ⟨digit, rest, shape⟩ := List.exists_cons_of_ne_nil nonempty
  have member : digit ∈ renderNat value := by
    rw [shape]
    exact List.mem_cons_self
  exact ⟨digit, rest, shape, isDigit_of_mem_renderNat member⟩

theorem renderNat_append_ne_minus (value : ℕ) :
    renderNat value ++ first ≠ '-' :: second := by
  intro same
  obtain ⟨digit, rest, shape, isDigit⟩ := exists_renderNat value
  rw [shape] at same
  rw [(List.cons.inj same).1] at isDigit
  exact absurd isDigit (by decide)

theorem renderInt_cancel {value other : ℤ} (stops : Stops first)
    (otherStops : Stops second)
    (same : renderInt value ++ first = renderInt other ++ second) :
    value = other ∧ first = second := by
  cases value with
  | ofNat value =>
      cases other with
      | ofNat other =>
          obtain ⟨rfl, rest⟩ := renderNat_cancel stops otherStops same
          exact ⟨rfl, rest⟩
      | negSucc other => exact absurd same (renderNat_append_ne_minus value)
  | negSucc value =>
      cases other with
      | ofNat other => exact absurd same.symm (renderNat_append_ne_minus other)
      | negSucc other =>
          obtain ⟨equal, rest⟩ :=
            renderNat_cancel stops otherStops (List.cons.inj same).2
          cases Nat.succ.inj equal
          exact ⟨rfl, rest⟩

/-! ### Values -/

/-- The kinds of values, as their first character tells them. -/
def kindOfChar (char : Char) : ℕ :=
  if char = 'n' then 1
  else if char = 't' then 2
  else if char = 'f' then 3
  else if char = quote then 4
  else if char = '[' then 5
  else if char = '{' then 6
  else if char.isDigit = true ∨ char = '-' then 7
  else 0

/-- The kind of a value. -/
def kind : Json → ℕ
  | null => 1
  | bool true => 2
  | bool false => 3
  | string _ => 4
  | array _ => 5
  | object _ => 6
  | number _ => 7

theorem kindOfChar_of_isDigit {char : Char} (digit : char.isDigit = true) :
    kindOfChar char = 7 := by
  have ascii : char.toNat < 128 := by
    simp only [Char.isDigit, Bool.and_eq_true, decide_eq_true_eq] at digit
    have below : char.val.toNat ≤ 57 := UInt32.le_iff_toNat_le.mp digit.2
    exact Nat.lt_of_le_of_lt below (by decide)
  exact forall_ascii (fun char => char.isDigit = true → kindOfChar char = 7)
    (by decide) char ascii digit

theorem exists_render (value : Json) :
    ∃ char rest, render value = char :: rest ∧
      kindOfChar char = value.kind := by
  match value with
  | null => exact ⟨_, _, rfl, rfl⟩
  | bool true => exact ⟨_, _, rfl, rfl⟩
  | bool false => exact ⟨_, _, rfl, rfl⟩
  | string value => exact ⟨_, _, rfl, rfl⟩
  | array [] => exact ⟨_, _, rfl, rfl⟩
  | array (element :: rest) => exact ⟨_, _, rfl, rfl⟩
  | object [] => exact ⟨_, _, rfl, rfl⟩
  | object (member :: rest) => exact ⟨_, _, rfl, rfl⟩
  | number (.ofNat value) =>
      obtain ⟨digit, rest, shape, isDigit⟩ := exists_renderNat value
      exact ⟨digit, rest, shape, kindOfChar_of_isDigit isDigit⟩
  | number (.negSucc value) => exact ⟨'-', _, rfl, rfl⟩

theorem kind_eq {value other : Json}
    (same : render value ++ first = render other ++ second) :
    value.kind = other.kind := by
  obtain ⟨char, rest, shape, known⟩ := exists_render value
  obtain ⟨otherChar, otherRest, otherShape, otherKnown⟩ := exists_render other
  rw [shape, otherShape] at same
  rw [← known, ← otherKnown, (List.cons.inj same).1]

/-- A value does not begin with a mark that ends one. -/
theorem render_append_ne {value : Json} {char : Char}
    (mark : kindOfChar char = 0) : render value ++ first ≠ char :: second := by
  intro same
  obtain ⟨head, rest, shape, known⟩ := exists_render value
  rw [shape] at same
  rw [(List.cons.inj same).1, mark] at known
  match value with
  | null | bool true | bool false | string _ | array _ | object _
  | number _ => cases known

theorem stops_renderElements (elements : List Json) (rest : List Char) :
    Stops (renderElements elements ++ rest) := by
  intro char head
  cases elements
  all_goals
    cases head
    decide

theorem stops_renderMembers (members : List (String × Json))
    (rest : List Char) : Stops (renderMembers members ++ rest) := by
  intro char head
  cases members
  all_goals
    cases head
    decide

/-! ### Texts determine values -/

mutual

/-- A value is read from the beginning of a text that goes on after it. -/
theorem render_cancel (value other : Json) {first second : List Char}
    (stops : Stops first) (otherStops : Stops second)
    (same : render value ++ first = render other ++ second) :
    value = other ∧ first = second := by
  have kinds := kind_eq same
  match value, other with
  | null, null => exact ⟨rfl, List.append_cancel_left same⟩
  | bool true, bool true => exact ⟨rfl, List.append_cancel_left same⟩
  | bool false, bool false => exact ⟨rfl, List.append_cancel_left same⟩
  | number value, number other =>
      obtain ⟨rfl, rest⟩ := renderInt_cancel stops otherStops same
      exact ⟨rfl, rest⟩
  | string value, string other =>
      obtain ⟨rfl, rest⟩ := renderString_cancel same
      exact ⟨rfl, rest⟩
  | array [], array [] => exact ⟨rfl, List.append_cancel_left same⟩
  | array [], array (other :: others) =>
      simp only [render, List.cons_append, List.append_assoc] at same
      exact absurd (List.cons.inj same).2.symm (render_append_ne rfl)
  | array (element :: rest), array [] =>
      simp only [render, List.cons_append, List.append_assoc] at same
      exact absurd (List.cons.inj same).2 (render_append_ne rfl)
  | array (element :: rest), array (other :: others) =>
      -- Behind its bracket the text goes on as behind a comma.
      obtain ⟨equal, ends⟩ := renderElements_cancel (element :: rest)
        (other :: others) (congrArg (',' :: ·) (List.cons.inj same).2)
      exact ⟨congrArg array equal, ends⟩
  | object [], object [] => exact ⟨rfl, List.append_cancel_left same⟩
  | object [], object ((key, value) :: others) =>
      rw [render, render] at same
      exact absurd (List.cons.inj (List.cons.inj same).2).1 (by decide)
  | object ((key, value) :: rest), object [] =>
      rw [render, render] at same
      exact absurd (List.cons.inj (List.cons.inj same).2).1 (by decide)
  | object ((key, value) :: rest), object ((otherKey, other) :: others) =>
      obtain ⟨equal, ends⟩ := renderMembers_cancel ((key, value) :: rest)
        ((otherKey, other) :: others)
        (congrArg (',' :: ·) (List.cons.inj same).2)
      exact ⟨congrArg object equal, ends⟩

theorem renderElements_cancel (elements others : List Json)
    {first second : List Char}
    (same : renderElements elements ++ first =
      renderElements others ++ second) :
    elements = others ∧ first = second := by
  match elements, others with
  | [], [] => exact ⟨rfl, List.append_cancel_left same⟩
  | [], other :: others => exact absurd (List.cons.inj same).1 (by decide)
  | element :: rest, [] => exact absurd (List.cons.inj same).1 (by decide)
  | element :: rest, other :: others =>
      rw [renderElements, renderElements, List.cons_append,
        List.cons_append, List.append_assoc, List.append_assoc] at same
      obtain ⟨rfl, tails⟩ := render_cancel element other
        (stops_renderElements rest first) (stops_renderElements others second)
        (List.cons.inj same).2
      obtain ⟨rfl, ends⟩ := renderElements_cancel rest others tails
      exact ⟨rfl, ends⟩

theorem renderMembers_cancel (members others : List (String × Json))
    {first second : List Char}
    (same : renderMembers members ++ first = renderMembers others ++ second) :
    members = others ∧ first = second := by
  match members, others with
  | [], [] => exact ⟨rfl, List.append_cancel_left same⟩
  | [], (key, other) :: others =>
      exact absurd (List.cons.inj same).1 (by decide)
  | (key, value) :: rest, [] => exact absurd (List.cons.inj same).1 (by decide)
  | (key, value) :: rest, (otherKey, other) :: others =>
      rw [renderMembers, renderMembers, List.cons_append, List.cons_append,
        List.append_assoc, List.append_assoc] at same
      obtain ⟨rfl, values⟩ := renderString_cancel (List.cons.inj same).2
      rw [List.cons_append, List.cons_append, List.append_assoc,
        List.append_assoc] at values
      obtain ⟨rfl, tails⟩ := render_cancel value other
        (stops_renderMembers rest first) (stops_renderMembers others second)
        (List.cons.inj values).2
      obtain ⟨rfl, ends⟩ := renderMembers_cancel rest others tails
      exact ⟨rfl, ends⟩

end

/-- Values with the same text are equal. -/
theorem render_injective {value other : Json}
    (same : render value = render other) : value = other := by
  have stops : Stops [] := nofun
  have extended : render value ++ [] = render other ++ [] := by rw [same]
  exact (render_cancel value other stops stops extended).1

end Json
end TaskCage
