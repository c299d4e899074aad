import Mathlib.Data.List.Induction
import Mathlib.Data.Nat.Notation

/-!
# Trees of files

A tree says what is found at a place, where a place is given by the names on
the way from the top.  A mount shows as a directory of another device.  The walk
along a path is the one of the kernel: it follows the symbolic links that it
meets on its way, and leaves a link at the end of the path alone.
-/

namespace TaskCage
namespace FileTree

/-- The name of an entry of a directory. -/
abbrev Name : Type :=
  List Char

/-- Where something is found. -/
abbrev Place : Type :=
  List Name

/-- What can be found. -/
inductive Node where
  | directory (device : ℕ)
  | regular (device : ℕ) (content : List UInt8)
  | symlink (target : List Char)
  /-- A link of the kernel itself, which leads to a place and not to a path. -/
  | magicLink (target : Place)
  | special (device : ℕ)
deriving DecidableEq

namespace Node

def isLink : Node → Bool
  | symlink _ => true
  | magicLink _ => true
  | directory _ => false
  | regular _ _ => false
  | special _ => false

def isDirectory : Node → Bool
  | directory _ => true
  | regular _ _ => false
  | symlink _ => false
  | magicLink _ => false
  | special _ => false

def isRegular : Node → Bool
  | regular _ _ => true
  | directory _ => false
  | symlink _ => false
  | magicLink _ => false
  | special _ => false

/-- The device of an opened file; links are never opened. -/
def device : Node → ℕ
  | directory device => device
  | regular device _ => device
  | special device => device
  | symlink _ => 0
  | magicLink _ => 0

/-- What a regular file holds. -/
def content : Node → List UInt8
  | regular _ content => content
  | directory _ => []
  | symlink _ => []
  | magicLink _ => []
  | special _ => []

variable {node : Node}

theorem eq_directory (directory : node.isDirectory = true) :
    node = .directory node.device := by
  cases node <;> first | rfl | cases directory

theorem eq_regular (regular : node.isRegular = true) :
    node = .regular node.device node.content := by
  cases node <;> first | rfl | cases regular

end Node

/-- The entries, each with its place. -/
abbrev Tree : Type :=
  List (Place × Node)

namespace Tree

/-- What is found at a place. -/
def find (tree : Tree) (place : Place) : Option Node :=
  tree.lookup place

/-- There is a directory at the place. -/
def HasDirectory (tree : Tree) (place : Place) : Prop :=
  ∃ device, tree.find place = some (.directory device)

/-! ### Walks -/

/-- How many components a walk goes through before the kernel takes the links
for a loop. -/
def maxSteps : ℕ :=
  4096

/-- Where a path leads. -/
def walk (tree : Tree) : ℕ → Place → List Name → Option Place
  | 0, _, _ => none
  | _ + 1, here, [] => some here
  | steps + 1, here, name :: rest =>
      match tree.find here with
      | some (.directory _) =>
          if name = [] ∨ name = ['.'] then tree.walk steps here rest
          else if name = ['.', '.'] then tree.walk steps here.dropLast rest
          else
            match tree.find (here ++ [name]) with
            | none => none
            | some (.symlink target) =>
                if rest = [] then some (here ++ [name])
                else
                  tree.walk steps (if target.head? = some '/' then [] else here)
                    (target.splitOn '/' ++ rest)
            | some (.magicLink target) =>
                if rest = [] then some (here ++ [name])
                else tree.walk steps target rest
            | some _ => tree.walk steps (here ++ [name]) rest
      | _ => none

/-- The place of the entry that a path names, whether there is one or not.  A
trailing empty component makes the walk follow a link to the parent. -/
def locate (tree : Tree) (here : Place) (path : List Char) : Option Place :=
  let names := path.splitOn '/'
  let last := names.getLast?.getD []
  if last = [] ∨ last = ['.'] ∨ last = ['.', '.'] then none
  else
    (tree.walk maxSteps here (names.dropLast ++ [[]])).map (· ++ [last])

/-- A name that stands for nothing but an entry of a directory. -/
structure IsPlain (name : Name) : Prop where
  filled : name ≠ []
  notHere : name ≠ ['.']
  notParent : name ≠ ['.', '.']
  single : '/' ∉ name

variable {name : Name} {here : Place} {tree : Tree}

theorem splitOn_of_single (single : '/' ∉ name) :
    name.splitOn '/' = [name] := by
  have apart : ∀ char ∈ name, (char == '/') = false := by
    intro char member
    apply beq_false_of_ne
    rintro rfl
    exact single member
  exact List.splitOnP_eq_singleton apart

theorem not_mem_of_mem_splitOn {text : List Char} :
    ∀ name ∈ text.splitOn '/', '/' ∉ name := by
  induction text with
  | nil =>
      intro name member
      rw [List.mem_singleton.1 member]
      exact List.not_mem_nil
  | cons char text inductionHypothesis =>
      unfold List.splitOn at inductionHypothesis ⊢
      rw [List.splitOnP_cons_eq_if_modifyHead]
      split
      · rintro name (_ | ⟨_, member⟩)
        · exact List.not_mem_nil
        · exact inductionHypothesis name member
      · rename_i different
        cases pieces : text.splitOnP (· == '/') with
        | nil => exact fun name member => absurd member List.not_mem_nil
        | cons first pieces =>
            rw [pieces] at inductionHypothesis
            rintro name (_ | ⟨_, member⟩)
            · rintro (_ | ⟨_, inner⟩)
              · exact different rfl
              · exact inductionHypothesis first List.mem_cons_self inner
            · exact inductionHypothesis name (List.mem_cons_of_mem _ member)

variable {reached : Place} {steps : ℕ} {node : Node}

theorem walk_stay (stays : name = [] ∨ name = ['.'])
    (walked : tree.walk steps here [name] = some reached) :
    reached = here ∧ tree.HasDirectory here := by
  cases steps with
  | zero => cases walked
  | succ steps =>
      unfold walk at walked
      split at walked
      · rename_i device found
        rw [if_pos stays] at walked
        cases steps with
        | zero => cases walked
        | succ steps =>
            cases walked
            exact ⟨rfl, device, found⟩
      · cases walked

/-- A walk along a plain name leads to the entry of that name. -/
theorem walk_plain (plain : IsPlain name)
    (walked : tree.walk steps here [name] = some reached) :
    reached = here ++ [name] ∧ tree.HasDirectory here := by
  cases steps with
  | zero => cases walked
  | succ steps =>
      unfold walk at walked
      split at walked
      · rename_i device found
        rw [if_neg (not_or.2 ⟨plain.filled, plain.notHere⟩),
          if_neg plain.notParent] at walked
        refine ⟨?_, device, found⟩
        split at walked
        · cases walked
        · exact (Option.some.inj walked).symm
        · exact (Option.some.inj walked).symm
        · cases steps with
          | zero => cases walked
          | succ steps => exact (Option.some.inj walked).symm
      · cases walked

theorem walk_plain_eq (plain : IsPlain name)
    (directory : tree.HasDirectory here)
    (found : tree.find (here ++ [name]) = some node) :
    tree.walk maxSteps here [name] = some (here ++ [name]) := by
  obtain ⟨device, start⟩ := directory
  unfold maxSteps walk
  rw [start]
  dsimp only
  rw [if_neg (not_or.2 ⟨plain.filled, plain.notHere⟩),
    if_neg plain.notParent, found]
  cases node <;> rfl

theorem locate_plain (plain : IsPlain name)
    (directory : tree.HasDirectory here) :
    tree.locate here name = some (here ++ [name]) := by
  obtain ⟨device, start⟩ := directory
  unfold locate
  rw [splitOn_of_single plain.single]
  change (if name = [] ∨ name = ['.'] ∨ name = ['.', '.'] then none
    else (tree.walk maxSteps here [[]]).map (· ++ [name])) = _
  rw [if_neg (not_or.2 ⟨plain.filled, not_or.2
    ⟨plain.notHere, plain.notParent⟩⟩)]
  unfold maxSteps walk
  rw [start]
  rfl

/-! ### Changes -/

/-- What is found once an entry was added. -/
theorem find_cons (tree : Tree) (added place : Place) (node : Node) :
    Tree.find ((added, node) :: tree) place =
      if place = added then some node else tree.find place := by
  unfold find
  rw [List.lookup_cons]
  by_cases same : place = added
  · rw [if_pos same, beq_iff_eq.2 same]
  · rw [if_neg same, beq_false_of_ne same]

/-- What is found once entries were taken away. -/
theorem find_filter (tree : Tree) (keep : Place → Bool) (place : Place) :
    Tree.find (tree.filter fun entry => keep entry.1) place =
      if keep place = true then tree.find place else none := by
  induction tree with
  | nil =>
      rw [List.filter_nil]
      exact (ite_self _).symm
  | cons entry tree inductionHypothesis =>
      obtain ⟨added, node⟩ := entry
      rw [List.filter_cons]
      by_cases kept : keep added = true
      · rw [if_pos kept, find_cons, find_cons, inductionHypothesis]
        by_cases same : place = added
        · rw [if_pos same, if_pos same, same, if_pos kept]
        · rw [if_neg same, if_neg same]
      · rw [if_neg kept, find_cons, inductionHypothesis]
        by_cases same : place = added
        · rw [same, if_neg kept, if_neg kept]
        · rw [if_neg same]

/-- Every entry lies in a directory. -/
def WellFormed (tree : Tree) : Prop :=
  ∀ place name, tree.find (place ++ [name]) ≠ none → tree.HasDirectory place

/-- Every listed entry lies in a directory. -/
def isFormed (tree : Tree) : Bool :=
  tree.all fun entry =>
    entry.1 = [] || (tree.find entry.1.dropLast).any Node.isDirectory

theorem mem_of_find {place : Place} (found : tree.find place = some node) :
    (place, node) ∈ tree := by
  induction tree with
  | nil => cases found
  | cons entry tree inductionHypothesis =>
      rw [find_cons] at found
      split at found
      · rename_i same
        cases found
        rw [same]
        exact List.mem_cons_self
      · exact List.mem_cons_of_mem _ (inductionHypothesis found)

theorem wellFormed_of_isFormed (formed : tree.isFormed = true) :
    tree.WellFormed := by
  intro place name found
  obtain ⟨node, found⟩ := Option.ne_none_iff_exists'.1 found
  have checked := List.all_eq_true.1 formed _ (mem_of_find found)
  rw [Bool.or_eq_true, decide_eq_true_eq, List.dropLast_concat] at checked
  rcases checked with empty | directory
  · exact absurd empty (by simp)
  · obtain ⟨parent, present, isDirectory⟩ := (Option.any_eq_true _ _).1 directory
    exact ⟨_, present.trans (congrArg some (Node.eq_directory isDirectory))⟩

/-- Where nothing is found, nothing is found below either. -/
theorem WellFormed.below (formed : tree.WellFormed) {top : Place}
    (absent : tree.find top = none) (rest : Place) :
    tree.find (top ++ rest) = none := by
  induction rest using List.reverseRecOn with
  | nil => rwa [List.append_nil]
  | append_singleton rest name inductionHypothesis =>
      by_contra found
      rw [← List.append_assoc] at found
      obtain ⟨device, directory⟩ := formed _ name found
      rw [inductionHypothesis] at directory
      cases directory

end Tree
end FileTree
end TaskCage
