import TaskCage.Foundation.JsonText
import Mathlib.Data.List.Sort
import Mathlib.Data.String.Basic
import Mathlib.Order.Basic

/-!
# Canonical JSON

The canonical form of a value: the members of every object are sorted by the
UTF-16 code units of their names, and every number is the nearest one with a
significand of 53 bits.  Sorting loses nothing when names are unique; rounding
does.
-/

namespace TaskCage
namespace Json

/-! ### Numbers -/

/-- The nearest number with a significand of 53 bits; a tie goes to the even
significand. -/
def nearest (value : ℕ) : ℕ :=
  let unit := 2 ^ (Nat.log2 value + 1 - 53)
  let kept := value / unit
  let rest := value % unit
  if 2 * rest < unit then kept * unit
  else if unit < 2 * rest then (kept + 1) * unit
  else (kept + kept % 2) * unit

/-- The nearest integer with a significand of 53 bits. -/
def nearestInt : ℤ → ℤ
  | .ofNat value => nearest value
  | .negSucc value => -(nearest (value + 1) : ℤ)

mutual

/-- A value with its numbers rounded. -/
def rounded : Json → Json
  | number value => number (nearestInt value)
  | array elements => array (roundedElements elements)
  | object members => object (roundedMembers members)
  | null => null
  | bool value => bool value
  | string value => string value

def roundedElements : List Json → List Json
  | [] => []
  | element :: rest => rounded element :: roundedElements rest

def roundedMembers : List (String × Json) → List (String × Json)
  | [] => []
  | (key, value) :: rest => (key, rounded value) :: roundedMembers rest

end

/-! ### Names -/

/-- The UTF-16 code units of a character. -/
def codeUnits (char : Char) : List ℕ :=
  if char.toNat < 0x10000 then [char.toNat]
  else
    [0xD800 + (char.toNat - 0x10000) / 0x400,
      0xDC00 + (char.toNat - 0x10000) % 0x400]

/-- The order of names in canonical objects. -/
def nameLe (first second : String × Json) : Bool :=
  first.1.toList.flatMap codeUnits ≤ second.1.toList.flatMap codeUnits

mutual

/-- A value with the members of its objects in canonical order. -/
def arranged : Json → Json
  | array elements => array (arrangedElements elements)
  | object members => object ((arrangedMembers members).mergeSort nameLe)
  | null => null
  | bool value => bool value
  | number value => number value
  | string value => string value

def arrangedElements : List Json → List Json
  | [] => []
  | element :: rest => arranged element :: arrangedElements rest

def arrangedMembers : List (String × Json) → List (String × Json)
  | [] => []
  | (key, value) :: rest => (key, arranged value) :: arrangedMembers rest

end

/-- The canonical text of a value. -/
def canonical (value : Json) : List Char :=
  render (arranged (rounded value))

/-! ### Values from maps -/

mutual

/-- The members of every object come in the order of their names. -/
def Ordered : Json → Prop
  | array elements => OrderedElements elements
  | object members =>
      members.Pairwise (fun first second => first.1 < second.1) ∧
        OrderedMembers members
  | null => True
  | bool _ => True
  | number _ => True
  | string _ => True

def OrderedElements : List Json → Prop
  | [] => True
  | element :: rest => Ordered element ∧ OrderedElements rest

def OrderedMembers : List (String × Json) → Prop
  | [] => True
  | (_, value) :: rest => Ordered value ∧ OrderedMembers rest

end

variable {members : List (String × Json)}

theorem orderedMembers_iff :
    OrderedMembers members ↔ ∀ member ∈ members, Ordered member.2 := by
  induction members with
  | nil => exact iff_of_true trivial nofun
  | cons member rest inductionHypothesis =>
      rw [List.forall_mem_cons, ← inductionHypothesis]
      rfl

theorem roundedMembers_eq_map (members : List (String × Json)) :
    roundedMembers members =
      members.map fun member => (member.1, rounded member.2) := by
  induction members with
  | nil => rfl
  | cons member rest inductionHypothesis =>
      rw [roundedMembers, inductionHypothesis, List.map_cons]

mutual

/-- Rounding keeps the order of members. -/
theorem Ordered.rounded {value : Json} (ordered : Ordered value) :
    Ordered value.rounded := by
  match value with
  | null | bool _ | number _ | string _ => trivial
  | array elements => exact OrderedElements.rounded ordered
  | object members =>
      refine ⟨?_, OrderedMembers.rounded ordered.2⟩
      rw [roundedMembers_eq_map]
      exact List.pairwise_map.mpr ordered.1

theorem OrderedElements.rounded {elements : List Json}
    (ordered : OrderedElements elements) :
    OrderedElements (roundedElements elements) := by
  match elements with
  | [] => trivial
  | element :: rest =>
      exact ⟨Ordered.rounded ordered.1, OrderedElements.rounded ordered.2⟩

theorem OrderedMembers.rounded {members : List (String × Json)}
    (ordered : OrderedMembers members) :
    OrderedMembers (roundedMembers members) := by
  match members with
  | [] => trivial
  | (key, value) :: rest =>
      exact ⟨Ordered.rounded ordered.1, OrderedMembers.rounded ordered.2⟩

end

theorem map_fst_arrangedMembers (members : List (String × Json)) :
    (arrangedMembers members).map Prod.fst = members.map Prod.fst := by
  induction members with
  | nil => rfl
  | cons member rest inductionHypothesis =>
      rw [arrangedMembers, List.map_cons, List.map_cons, inductionHypothesis]

theorem pairwise_arrangedMembers
    (ordered : members.Pairwise fun first second => first.1 < second.1) :
    (arrangedMembers members).Pairwise fun first second =>
      first.1 < second.1 := by
  have keys := (List.pairwise_map
    (f := Prod.fst) (R := fun first second => first < second)).mpr ordered
  rw [← map_fst_arrangedMembers] at keys
  exact List.pairwise_map.mp keys

/-- Sorting does not identify lists that are ordered by their names. -/
theorem eq_of_mergeSort_eq {others : List (String × Json)}
    (ordered : members.Pairwise fun first second => first.1 < second.1)
    (otherOrdered : others.Pairwise fun first second => first.1 < second.1)
    (same : members.mergeSort nameLe = others.mergeSort nameLe) :
    members = others := by
  have perm : members.Perm others :=
    (List.mergeSort_perm members nameLe).symm.trans
      (same ▸ List.mergeSort_perm others nameLe)
  exact perm.eq_of_pairwise
    (fun _ _ _ _ below above => absurd above below.asymm) ordered otherOrdered

mutual

/-- The canonical order determines a value whose objects are ordered. -/
theorem arranged_cancel (value other : Json) (ordered : Ordered value)
    (otherOrdered : Ordered other) (same : arranged value = arranged other) :
    value = other := by
  match value, other with
  | null, null => rfl
  | bool _, bool _ => exact same
  | number _, number _ => exact same
  | string _, string _ => exact same
  | array elements, array others =>
      exact congrArg array (arrangedElements_cancel elements others ordered
        otherOrdered (array.inj same))
  | object members, object others =>
      have lists := eq_of_mergeSort_eq (pairwise_arrangedMembers ordered.1)
        (pairwise_arrangedMembers otherOrdered.1) (object.inj same)
      exact congrArg object (arrangedMembers_cancel members others ordered.2
        otherOrdered.2 lists)

theorem arrangedElements_cancel (elements others : List Json)
    (ordered : OrderedElements elements)
    (otherOrdered : OrderedElements others)
    (same : arrangedElements elements = arrangedElements others) :
    elements = others := by
  match elements, others with
  | [], [] => rfl
  | element :: rest, other :: others =>
      obtain ⟨here, later⟩ := List.cons.inj same
      rw [arranged_cancel element other ordered.1 otherOrdered.1 here,
        arrangedElements_cancel rest others ordered.2 otherOrdered.2 later]

theorem arrangedMembers_cancel (members others : List (String × Json))
    (ordered : OrderedMembers members)
    (otherOrdered : OrderedMembers others)
    (same : arrangedMembers members = arrangedMembers others) :
    members = others := by
  match members, others with
  | [], [] => rfl
  | (key, value) :: rest, (otherKey, other) :: others =>
      obtain ⟨here, later⟩ := List.cons.inj same
      obtain ⟨rfl, values⟩ := Prod.mk.inj here
      rw [arranged_cancel value other ordered.1 otherOrdered.1 values,
        arrangedMembers_cancel rest others ordered.2 otherOrdered.2 later]

end

/-- Ordered values have the same canonical text when they differ by rounding
only. -/
theorem canonical_eq_iff {value other : Json} (ordered : Ordered value)
    (otherOrdered : Ordered other) :
    canonical value = canonical other ↔ rounded value = rounded other := by
  constructor
  · intro same
    exact arranged_cancel _ _ ordered.rounded otherOrdered.rounded
      (render_injective same)
  · intro same
    unfold canonical
    rw [same]

end Json
end TaskCage
