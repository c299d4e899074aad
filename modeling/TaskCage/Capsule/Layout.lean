import TaskCage.Capsule.Capsulefile
import Mathlib.Data.List.Perm.Basic
import Mathlib.Logic.Relation

/-!
# The layout of a Capsulefile

Blank lines, comments and the cut of a directive into physical lines have no
meaning, and neither has the order of the directives, except that of the
slots.  A physical line is a piece of a directive: its words, and whether the
directive goes on.  What is read depends on the pieces only.
-/

namespace TaskCage
namespace Capsulefile

open Outcome Words

/-! ### Pieces -/

/-- The words of a physical line, which may be continued. -/
inductive Piece where
  | more (words : List (List Char))
  | last (words : List (List Char))

/-- The piece of a text without blanks at its end. -/
def pieceOf (line : List Char) : Option Piece :=
  if line = [] then none
  else
    match line.dropSuffix? ['\\'] with
    | some front => some (.more (words front))
    | none => some (.last (words line))

/-- The piece that a physical line is, if it says something. -/
def piece (raw : List Char) : Option Piece :=
  pieceOf (trimEnd (raw.takeWhile (· ≠ '#')))

/-- A piece with more words before its own. -/
def Piece.after (front : List (List Char)) : Piece → Piece
  | more words => more (front ++ words)
  | last words => last (front ++ words)

/-- The words of the finished directives and of the unfinished one. -/
structure Gathered where
  lines : List (List (List Char))
  unfinished : Option (List (List Char))

namespace Gathered

/-- Nothing was gathered. -/
def empty : Gathered :=
  ⟨[], none⟩

/-- Gather a piece. -/
def add (gathered : Gathered) : Piece → Gathered
  | .more words =>
      { gathered with
        unfinished := some (gathered.unfinished.getD [] ++ words) }
  | .last words =>
      { lines := gathered.lines ++ [gathered.unfinished.getD [] ++ words]
        unfinished := none }

/-- Gather the pieces of some lines. -/
def addAll (gathered : Gathered) (raws : List (List Char)) : Gathered :=
  (raws.filterMap piece).foldl add gathered

/-- The directives, unless one is not finished. -/
def complete (gathered : Gathered) : Option (List (List (List Char))) :=
  if gathered.unfinished.isNone then some gathered.lines else none

variable (gathered : Gathered)

theorem add_more (front : List (List Char)) (piece : Piece) :
    (gathered.add (.more front)).add piece =
      gathered.add (piece.after front) := by
  cases piece <;> simp [add, Piece.after]

theorem addAll_append (first second : List (List Char)) :
    gathered.addAll (first ++ second) =
      (gathered.addAll first).addAll second := by
  unfold addAll
  rw [List.filterMap_append, List.foldl_append]

/-- What is gathered after finished directives does not depend on them. -/
theorem addAll_lines (before : List (List (List Char)))
    (gathered : Gathered) (raws : List (List Char)) :
    Gathered.addAll ⟨before ++ gathered.lines, gathered.unfinished⟩ raws =
      ⟨before ++ (gathered.addAll raws).lines,
        (gathered.addAll raws).unfinished⟩ := by
  unfold addAll
  induction raws.filterMap piece generalizing gathered with
  | nil => rfl
  | cons piece rest inductionHypothesis =>
      rw [List.foldl_cons, List.foldl_cons, ← inductionHypothesis]
      cases piece <;> simp [add]

end Gathered

/-! ### What the joining of lines gathers -/

/-- A directive that is continued ends with a blank. -/
def Joining.Blank (joining : Joining) : Prop :=
  joining.pending = [] ∨ ∃ front, joining.pending = front ++ [' ']

/-- The words of the lines that were joined. -/
def Joining.view (joining : Joining) : Gathered where
  lines := joining.result.map fun line => words line.2
  unfinished :=
    if joining.pending = [] then none else some (words joining.pending)

section View

variable {joining : Joining} (raw : List Char)

theorem content_eq :
    content raw = trimStart (trimEnd (raw.takeWhile (· ≠ '#'))) :=
  trim_eq _

/-- The words of a line with blanks at its begin. -/
theorem piece_of_content :
    piece raw = if content raw = [] then none
      else match (content raw).dropSuffix? ['\\'] with
        | some front => some (.more (words front))
        | none => some (.last (words (content raw))) := by
  rw [content_eq]
  unfold piece pieceOf
  generalize source : raw.takeWhile (· ≠ '#') = text
  by_cases empty : trimEnd text = []
  · rw [if_pos empty, empty]
    rfl
  · obtain ⟨front, char, shape, filled⟩ := exists_concat_of_trimEnd empty
    have start : trimStart (trimEnd text) = trimStart front ++ [char] := by
      rw [shape, trimStart_concat filled]
    have some : trimStart front ++ [char] ≠ [] := by simp
    rw [if_neg empty, start, if_neg some, shape]
    by_cases slash : char = '\\'
    · subst slash
      rw [dropSuffix?_eq_some.mpr rfl, dropSuffix?_eq_some.mpr rfl]
      simp only [words_trimStart]
    · have none : ∀ front : List Char,
          (front ++ [char]).dropSuffix? ['\\'] = none := by
        intro front
        rw [Option.eq_none_iff_forall_ne_some]
        intro rest cut
        rw [dropSuffix?_eq_some] at cut
        have same := List.append_inj_right' cut rfl
        exact slash (List.cons.inj same).1
      rw [none, none, ← trimStart_concat filled]
      simp only [words_trimStart]

/-- A line that is joined is a piece that is gathered. -/
theorem view_feed (blank : joining.Blank) (number : ℕ) (raw : List Char) :
    (joining.feed (number, raw)).Blank ∧
      (joining.feed (number, raw)).view =
        (piece raw).elim joining.view joining.view.add := by
  have front : ∀ text, words (joining.pending ++ text) =
      joining.view.unfinished.getD [] ++ words text := by
    intro text
    rcases blank with empty | ⟨front, ended⟩
    · simp [Joining.view, empty]
    · have filled : joining.pending ≠ [] := by simp [ended]
      have seen : joining.view.unfinished = some (words joining.pending) :=
        if_neg filled
      have whole : words (front ++ [' ']) = words front :=
        (words_append_cons rfl front []).trans (List.append_nil _)
      rw [seen, Option.getD_some, ended, whole, List.append_assoc]
      exact words_append_cons rfl front text
  rw [piece_of_content]
  unfold Joining.feed
  by_cases empty : content raw = []
  · simp only [empty]
    exact ⟨blank, rfl⟩
  · simp only [if_neg empty]
    cases cut : (content raw).dropSuffix? ['\\'] with
    | some text =>
        refine ⟨.inr ⟨joining.pending ++ trimEnd text, by simp⟩, ?_⟩
        have filled : joining.pending ++ (trimEnd text ++ [' ']) ≠ [] := by simp
        simp only [Joining.view, if_neg filled, Option.elim_some, Gathered.add,
          Gathered.mk.injEq, true_and, Option.some.injEq]
        rw [front, words_append_cons rfl, words_trimEnd]
        simp [Joining.view]
    | none =>
        refine ⟨.inl rfl, ?_⟩
        simp [Joining.view, Gathered.add, front]

theorem view_foldl (blank : joining.Blank) (raws : List (List Char))
    (first : ℕ) :
    (((raws.zipIdx first).map fun line => (line.2 + 1, line.1)).foldl
      Joining.feed joining).view = joining.view.addAll raws := by
  induction raws generalizing joining first with
  | nil => rfl
  | cons raw rest inductionHypothesis =>
      obtain ⟨kept, seen⟩ := view_feed blank (first + 1) raw
      rw [List.zipIdx_cons, List.map_cons, List.foldl_cons,
        inductionHypothesis kept, seen]
      cases found : piece raw with
      | none => simp [Gathered.addAll, found]
      | some piece => simp [Gathered.addAll, found]

/-- The words of the directives of some lines. -/
def wordLines (raws : List (List Char)) : Option (List (List (List Char))) :=
  (Gathered.empty.addAll raws).complete

theorem words_logicalLines (raws : List (List Char)) :
    (logicalLines raws).toOption.map
        (fun joined => joined.map fun line => words line.2) =
      wordLines raws := by
  have blank : Joining.Blank ⟨[], [], 0⟩ := .inl rfl
  have seen := view_foldl blank raws 0
  unfold wordLines logicalLines numbered
  change _ = (Joining.view ⟨[], [], 0⟩ |>.addAll raws).complete
  rw [← seen]
  dsimp only
  split
  · rename_i unfinished
    simp [Joining.view, Gathered.complete, unfinished, Except.toOption]
  · rename_i finished
    rw [not_not] at finished
    simp [Joining.view, Gathered.complete, finished, Except.toOption]

end View

/-! ### What is read -/

/-- What the directives of a text describe. -/
def meaning (lines : List (List String)) : Option CapsulefileSpec := do
  let draft ← (lines.foldlM Draft.add Draft.empty).toOption
  draft.finish.toOption

/-- What some physical lines describe. -/
def reading (raws : List (List Char)) : Option CapsulefileSpec := do
  let lines ← wordLines raws
  meaning (lines.map fun line => line.map String.ofList)

theorem toOption_eq_some_iff {Failure Value : Type}
    {outcome : Except Failure Value} {value : Value} :
    outcome.toOption = some value ↔ outcome = .ok value := by
  cases outcome <;> simp [Except.toOption]

theorem meaning_eq_some_iff {lines : List (List String)}
    {spec : CapsulefileSpec} :
    meaning lines = some spec ↔ ∃ draft,
      lines.foldlM Draft.add Draft.empty = .ok draft ∧
        draft.finish = .ok spec := by
  simp only [meaning, Option.bind_eq_bind, Option.bind_eq_some_iff,
    toOption_eq_some_iff]

variable (source : String)

theorem tokenLines_eq :
    tokenLines source = (wordLines (lines source.toList)).map fun lines =>
      lines.map fun line => line.map String.ofList := by
  rw [← words_logicalLines, Option.map_map]
  unfold tokenLines
  congr 1
  funext joined
  simp [tokens]

/-- What is read depends on the words only. -/
theorem toOption_parse :
    (parse source).toOption = reading (lines source.toList) := by
  apply Option.ext
  intro spec
  rw [toOption_eq_some_iff, parse_eq_ok_iff, tokenLines_eq]
  simp only [reading, Option.bind_eq_bind, Option.bind_eq_some_iff,
    meaning_eq_some_iff, Option.mem_def, Option.map_eq_some_iff]
  constructor
  · rintro ⟨_, ⟨lines, same, rfl⟩, described⟩
    exact ⟨lines, same, described⟩
  · rintro ⟨lines, same, described⟩
    exact ⟨_, ⟨lines, same, rfl⟩, described⟩

/-! ### The order of directives -/

/-- The directive of a slot. -/
def isSlotLine (line : List String) : Bool :=
  line.head? = some "INPUT" || line.head? = some "OPTION"

/-- The slot that a directive declares. -/
def Directive.slot? : Directive → Option InputSlot
  | .slot declared => some declared
  | _ => none

/-- Note a directive that declares no slot. -/
def Draft.putFixed (draft : Draft) (found : Directive) : Draft :=
  { draft.put found with inputs := draft.inputs }

section Order

variable {lines others : List (List String)} {founds changed : List Directive}

theorem isSlotLine_of_directive {line : List String} {slot : InputSlot}
    (read : directive line = some (.slot slot)) : isSlotLine line = true := by
  obtain ⟨keyword, arguments, rfl, ended⟩ := exists_keyword read
  have kind := kind_of_read ended
  cases keyword <;> first | rfl | cases kind

theorem filterMap_slots (lines : List (List String)) :
    (lines.filterMap directive).filterMap Directive.slot? =
      ((lines.filter isSlotLine).filterMap directive).filterMap
        Directive.slot? := by
  induction lines with
  | nil => rfl
  | cons line rest inductionHypothesis =>
      by_cases isSlot : isSlotLine line = true
      · rw [List.filter_cons_of_pos isSlot, List.filterMap_cons,
          List.filterMap_cons]
        cases directive line with
        | none => exact inductionHypothesis
        | some found =>
            rw [List.filterMap_cons, List.filterMap_cons, inductionHypothesis]
      · rw [List.filter_cons_of_neg isSlot, ← inductionHypothesis,
          List.filterMap_cons]
        cases read : directive line with
        | none => rfl
        | some found =>
            cases found with
            | slot slot => exact absurd (isSlotLine_of_directive read) isSlot
            | _ => rfl

/-- The slots of a draft apart from the rest of it. -/
theorem foldl_put (draft : Draft) (founds : List Directive) :
    founds.foldl Draft.put draft =
      { founds.foldl Draft.putFixed draft with
        inputs := draft.inputs ++ founds.filterMap Directive.slot? } := by
  have inputs : ∀ (draft : Draft) (founds : List Directive),
      (founds.foldl Draft.putFixed draft).inputs = draft.inputs := by
    intro draft founds
    induction founds generalizing draft with
    | nil => rfl
    | cons found rest inductionHypothesis => exact inductionHypothesis _
  have apart : ∀ (draft : Draft) (slots : List InputSlot)
      (founds : List Directive),
      founds.foldl Draft.putFixed { draft with inputs := slots } =
        { founds.foldl Draft.putFixed draft with inputs := slots } := by
    intro draft slots founds
    induction founds generalizing draft with
    | nil => rfl
    | cons found rest inductionHypothesis =>
        rw [List.foldl_cons, List.foldl_cons, ← inductionHypothesis]
        cases found <;> rfl
  induction founds generalizing draft with
  | nil => simp
  | cons found rest inductionHypothesis =>
      rw [List.foldl_cons, List.foldl_cons, inductionHypothesis]
      cases found with
      | slot slot =>
          change Draft.mk _ _ _ _ _ _ _ _ = Draft.mk _ _ _ _ _ _ _ _
          rw [show draft.put (.slot slot) =
            { draft with inputs := draft.inputs ++ [slot] } from rfl, apart]
          simp [Directive.slot?, Draft.putFixed, Draft.put]
      | _ => rfl

theorem putFixed_comm {first second : Directive}
    (apart : first.Compatible second) (draft : Draft) :
    (draft.putFixed first).putFixed second =
      (draft.putFixed second).putFixed first := by
  cases first <;> cases second <;>
    first | rfl | exact absurd rfl apart

/-- The order of directives that go together does not matter, that of the
slots apart. -/
theorem foldl_put_eq (permuted : founds.Perm changed)
    (apart : founds.Pairwise Directive.Compatible)
    (kept : founds.filterMap Directive.slot? =
      changed.filterMap Directive.slot?) (draft : Draft) :
    founds.foldl Draft.put draft = changed.foldl Draft.put draft := by
  have same : founds.foldl Draft.putFixed draft =
      changed.foldl Draft.putFixed draft := by
    apply permuted.foldl_eq'
    intro first firstHere second secondHere draft
    by_cases equal : first = second
    · rw [equal]
    · exact putFixed_comm (apart.forall firstHere secondHere equal) draft
  rw [foldl_put, foldl_put, same, kept]

theorem addAll_perm {draft final : Draft} (permuted : lines.Perm others)
    (kept : lines.filter isSlotLine = others.filter isSlotLine)
    (added : lines.foldlM Draft.add draft = .ok final) :
    others.foldlM Draft.add draft = .ok final := by
  rw [addAll_eq_ok_iff] at added ⊢
  obtain ⟨readable, admits, apart, rfl⟩ := added
  have founds := permuted.filterMap directive
  refine ⟨fun line member => readable line (permuted.mem_iff.mpr member),
    fun found member => admits found (founds.mem_iff.mpr member),
    (founds.pairwise_iff (Std.Symm.symm _ _)).mp apart, ?_⟩
  symm
  apply foldl_put_eq founds apart
  rw [filterMap_slots, kept, ← filterMap_slots]

theorem meaning_perm (permuted : lines.Perm others)
    (kept : lines.filter isSlotLine = others.filter isSlotLine) :
    meaning lines = meaning others := by
  apply Option.ext
  intro spec
  rw [meaning_eq_some_iff, meaning_eq_some_iff]
  constructor
  · rintro ⟨draft, added, finished⟩
    exact ⟨draft, addAll_perm permuted kept added, finished⟩
  · rintro ⟨draft, added, finished⟩
    exact ⟨draft, addAll_perm permuted.symm kept.symm added, finished⟩

end Order

/-! ### Layouts -/

/-- The directive that some lines are together. -/
def directiveOf (block : List (List Char)) : Option (List String) :=
  match logicalLines block with
  | .ok [line] => some (tokens line.2)
  | _ => none

/-- The physical lines of two texts that differ in one place of the layout. -/
inductive Relaid : List (List Char) → List (List Char) → Prop where
  /-- A line without content is inserted. -/
  | blank (before after : List (List Char)) (line : List Char)
      (empty : content line = []) :
      Relaid (before ++ after) (before ++ line :: after)
  /-- A line is continued on the next one, where it had a gap. -/
  | split (before after : List (List Char))
      (first gap second left right : List Char) (noComment : '#' ∉ first)
      (isGap : gap ≠ []) (gapBlank : ∀ char ∈ gap, isWhitespace char = true)
      (leftBlank : ∀ char ∈ left, isWhitespace char = true)
      (rightBlank : ∀ char ∈ right, isWhitespace char = true)
      (goesOn : content second ≠ []) :
      Relaid (before ++ (first ++ (gap ++ second)) :: after)
        (before ++ (first ++ (left ++ ['\\'])) :: (right ++ second) :: after)
  /-- Whole directives change places, but not the slots among each other. -/
  | permute (blocks others : List (List (List Char)))
      (whole : ∀ block ∈ blocks, (directiveOf block).isSome = true)
      (permuted : blocks.Perm others)
      (kept : (blocks.filterMap directiveOf).filter isSlotLine =
        (others.filterMap directiveOf).filter isSlotLine) :
      Relaid blocks.flatten others.flatten

section Layouts

variable {raws others : List (List Char)}
variable {blanks first : List Char} {blocks : List (List (List Char))}

theorem not_comment_of_blank
    (blank : ∀ char ∈ blanks, isWhitespace char = true) : '#' ∉ blanks := by
  intro member
  have wrong := blank '#' member
  cases wrong

theorem takeWhile_append_of_not_comment {front : List Char}
    (plain : '#' ∉ front) (rest : List Char) :
    (front ++ rest).takeWhile (· ≠ '#') =
      front ++ rest.takeWhile (· ≠ '#') := by
  apply List.takeWhile_append_of_pos
  intro char member
  apply decide_eq_true
  intro same
  exact plain (same ▸ member)

theorem exists_piece {line : List Char} (filled : content line ≠ []) :
    ∃ found, piece line = some found := by
  rw [piece_of_content, if_neg filled]
  split
  · exact ⟨_, rfl⟩
  · exact ⟨_, rfl⟩

theorem piece_blank_append (blank : ∀ char ∈ blanks, isWhitespace char = true)
    (line : List Char) :
    piece (blanks ++ line) = piece line := by
  have same : content (blanks ++ line) = content line := by
    unfold content trim trimStart
    rw [takeWhile_append_of_not_comment (not_comment_of_blank blank),
      List.dropWhile_append_of_pos blank]
  rw [piece_of_content, piece_of_content, same]

/-- The piece of a line with words before a gap. -/
theorem piece_gap_append {gap second : List Char} (noComment : '#' ∉ first)
    (isGap : gap ≠ []) (gapBlank : ∀ char ∈ gap, isWhitespace char = true)
    (goesOn : content second ≠ []) :
    piece (first ++ (gap ++ second)) =
      (piece second).map (Piece.after (words first)) := by
  have split : ∀ text, words (first ++ (gap ++ text)) =
      words first ++ words text := by
    intro text
    cases gap with
    | nil => exact absurd rfl isGap
    | cons char rest =>
        rw [List.forall_mem_cons] at gapBlank
        rw [List.cons_append, words_append_cons gapBlank.1,
          words_blank_append gapBlank.2]
  unfold piece
  rw [takeWhile_append_of_not_comment noComment,
    takeWhile_append_of_not_comment (not_comment_of_blank gapBlank)]
  rw [content_eq] at goesOn
  generalize second.takeWhile (· ≠ '#') = text at goesOn ⊢
  have filled : trimEnd text ≠ [] := by
    intro empty
    rw [empty] at goesOn
    exact goesOn rfl
  obtain ⟨front, char, shape, -⟩ := exists_concat_of_trimEnd filled
  rw [← List.append_assoc, trimEnd_append filled, List.append_assoc, shape]
  have first_ne : first ++ (gap ++ (front ++ [char])) ≠ [] := by simp
  have second_ne : front ++ [char] ≠ [] := by simp
  unfold pieceOf
  rw [if_neg first_ne, if_neg second_ne]
  cases cut : (front ++ [char]).dropSuffix? ['\\'] with
  | some rest =>
      have longer : (first ++ (gap ++ (front ++ [char]))).dropSuffix? ['\\'] =
          some (first ++ (gap ++ rest)) := by
        rw [dropSuffix?_eq_some] at cut ⊢
        rw [cut]
        simp only [List.append_assoc]
      rw [longer]
      simp only [Option.map_some, Piece.after, split]
  | none =>
      have longer : (first ++ (gap ++ (front ++ [char]))).dropSuffix? ['\\'] =
          none := by
        rw [Option.eq_none_iff_forall_ne_some] at cut ⊢
        intro rest same
        rw [dropSuffix?_eq_some, ← List.append_assoc, ← List.append_assoc]
          at same
        have last := List.append_inj_right' same rfl
        apply cut front
        rw [dropSuffix?_eq_some, last]
      rw [longer]
      simp only [Option.map_some, Piece.after, split]

/-- The piece of a line that is continued. -/
theorem piece_continued {left : List Char} (noComment : '#' ∉ first)
    (leftBlank : ∀ char ∈ left, isWhitespace char = true) :
    piece (first ++ (left ++ ['\\'])) = some (.more (words first)) := by
  have whole : (first ++ (left ++ ['\\'])).takeWhile (· ≠ '#') =
      (first ++ left) ++ ['\\'] := by
    rw [takeWhile_append_of_not_comment noComment,
      takeWhile_append_of_not_comment (not_comment_of_blank leftBlank),
      List.append_assoc]
    rfl
  have some : (first ++ left) ++ ['\\'] ≠ [] := by simp
  unfold piece pieceOf
  rw [whole, trimEnd_concat rfl, if_neg some, dropSuffix?_eq_some.mpr rfl]
  simp only [words_append_blank leftBlank]

theorem wordLines_of_directiveOf {block : List (List Char)}
    {line : List String} (found : directiveOf block = some line) :
    ∃ words, Gathered.empty.addAll block = ⟨[words], none⟩ ∧
      words.map String.ofList = line := by
  have seen := words_logicalLines block
  unfold directiveOf at found
  split at found
  · rename_i joined shape
    cases found
    rw [shape] at seen
    refine ⟨words joined.2, ?_, rfl⟩
    unfold wordLines Gathered.complete at seen
    split at seen
    · rename_i finished
      rw [Option.isNone_iff_eq_none] at finished
      cases gathered : Gathered.empty.addAll block with
      | mk lines unfinished =>
          rw [gathered] at seen finished
          cases seen
          cases finished
          rfl
    · cases seen
  · cases found

/-- Whole directives are read one by one. -/
theorem addAll_flatten
    (whole : ∀ block ∈ blocks, (directiveOf block).isSome = true) :
    ∃ lines, Gathered.empty.addAll blocks.flatten = ⟨lines, none⟩ ∧
      lines.map (fun line => line.map String.ofList) =
        blocks.filterMap directiveOf := by
  induction blocks with
  | nil => exact ⟨[], rfl, rfl⟩
  | cons block rest inductionHypothesis =>
      rw [List.forall_mem_cons] at whole
      obtain ⟨line, found⟩ := Option.isSome_iff_exists.mp whole.1
      obtain ⟨words, gathered, read⟩ := wordLines_of_directiveOf found
      obtain ⟨lines, later, same⟩ := inductionHypothesis whole.2
      refine ⟨words :: lines, ?_, ?_⟩
      · have apart := Gathered.addAll_lines [words] Gathered.empty rest.flatten
        rw [later] at apart
        rw [List.flatten_cons, Gathered.addAll_append, gathered]
        exact apart
      · rw [List.map_cons, read, same, List.filterMap_cons, found]

theorem reading_flatten
    (whole : ∀ block ∈ blocks, (directiveOf block).isSome = true) :
    reading blocks.flatten = meaning (blocks.filterMap directiveOf) := by
  obtain ⟨lines, gathered, same⟩ := addAll_flatten whole
  unfold reading wordLines
  rw [gathered, ← same]
  rfl

/-- One change of the layout does not change what is read. -/
theorem reading_relaid (relaid : Relaid raws others) :
    reading raws = reading others := by
  cases relaid with
  | blank before after line empty =>
      have nothing : piece line = none := by
        rw [piece_of_content, if_pos empty]
      unfold reading wordLines
      rw [Gathered.addAll_append, Gathered.addAll_append]
      simp [Gathered.addAll, nothing]
  | split before after first gap second left right noComment isGap gapBlank
      leftBlank rightBlank goesOn =>
      obtain ⟨rest, found⟩ := exists_piece goesOn
      have whole := piece_gap_append noComment isGap gapBlank goesOn
      have front := piece_continued noComment leftBlank
      have back := piece_blank_append rightBlank second
      rw [found] at whole back
      rw [Option.map_some] at whole
      unfold reading wordLines
      rw [Gathered.addAll_append, Gathered.addAll_append]
      simp only [Gathered.addAll, List.filterMap_cons, whole, front, back,
        List.foldl_cons, Gathered.add_more]
  | permute blocks others whole permuted kept =>
      have wholeOthers : ∀ block ∈ others,
          (directiveOf block).isSome = true := by
        intro block member
        exact whole block (permuted.mem_iff.mpr member)
      rw [reading_flatten whole, reading_flatten wholeOthers]
      exact meaning_perm (permuted.filterMap directiveOf) kept

/-- The layout of a Capsulefile has no meaning. -/
theorem parse_relaid {source other : String}
    (relaid : Relation.EqvGen Relaid (lines source.toList)
      (lines other.toList)) :
    (parse source).toOption = (parse other).toOption := by
  rw [toOption_parse, toOption_parse]
  generalize lines source.toList = raws at relaid ⊢
  generalize lines other.toList = others at relaid ⊢
  induction relaid with
  | rel raws others relaid => exact reading_relaid relaid
  | refl raws => rfl
  | symm raws others _ same => exact same.symm
  | trans raws middle others _ _ first second => exact first.trans second

/-- A directive is continued after a comment. -/
theorem parse_relaid_small :
    (parse (smallText "-" "1")).toOption.isSome = true ∧
      (parse (smallText "-" "1")).toOption =
        (parse (smallText "\\\n# c\n-" "1")).toOption := by
  let before := (lines (smallChars "-" "1")).take 4
  let after := (lines (smallChars "-" "1")).drop 5
  have plain : lines (smallText "-" "1").toList =
      before ++ ("COMMAND".toList ++ ([' '] ++ ['-'])) :: after := by
    rewrite [smallText, String.toList_ofList]
    decide +kernel
  have continued : lines (smallText "\\\n# c\n-" "1").toList =
      (before ++ ["COMMAND".toList ++ ([' '] ++ ['\\'])]) ++
        "# c".toList :: ['-'] :: after := by
    rewrite [smallText, String.toList_ofList]
    decide +kernel
  have blank : ∀ char ∈ [' '], isWhitespace char = true := by
    intro char member
    rw [List.mem_singleton.mp member]
    rfl
  refine ⟨?_, parse_relaid ?_⟩
  · rewrite [parse_smallText]
    decide +kernel
  · rw [plain, continued]
    apply Relation.EqvGen.trans _ _ _
      (.rel _ _ (.split before after "COMMAND".toList [' '] ['-'] [' '] []
        (by decide) (by decide) blank blank (by simp) (by decide +kernel)))
    rw [List.append_cons]
    exact .rel _ _ (.blank _ _ _ (by decide +kernel))

end Layouts

end Capsulefile
end TaskCage
