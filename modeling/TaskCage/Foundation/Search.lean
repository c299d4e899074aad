import Mathlib.Data.Nat.Notation
import Mathlib.Order.Lattice

/-!
# Searching by halves

The search of the standard library in a slice.  In every round half of the rest
is dropped, without a look whether the value was met; the last place that is
left decides.  In an ascending list it finds exactly the values of the list.
-/

namespace TaskCage
namespace Search

variable {Value : Type} [LinearOrder Value]

/-- The place that is left when the value is looked for among the `size` places
from `base` on. -/
def narrow (values : List Value) (value : Value) : ℕ → ℕ → ℕ → ℕ
  | 0, base, _ => base
  | rounds + 1, base, size =>
      if 1 < size then
        let half := size / 2
        let middle := base + half
        let left :=
          match values[middle]? with
          | some found => if value < found then base else middle
          | none => base
        narrow values value rounds left (size - half)
      else
        base

/-- Whether the search finds the value. -/
def binarySearch (values : List Value) (value : Value) : Bool :=
  match values[narrow values value values.length 0 values.length]? with
  | some found => found = value
  | none => false

variable {values : List Value} {value : Value}

/-- The place of the value is never dropped. -/
theorem getElem?_narrow (sorted : values.Pairwise (· < ·)) {rounds base size
    place : ℕ} (enough : size ≤ rounds + 1)
    (inside : base + size ≤ values.length) (after : base ≤ place)
    (before : place < base + size) (isThere : values[place]? = some value) :
    values[narrow values value rounds base size]? = some value := by
  induction rounds generalizing base size with
  | zero =>
      have same : place = base := by omega
      rw [narrow, ← same]
      exact isThere
  | succ rounds inductionHypothesis =>
      unfold narrow
      by_cases many : 1 < size
      · have within : base + size / 2 < values.length := by omega
        obtain ⟨middle, found⟩ : ∃ middle, values[base + size / 2]? =
            some middle := ⟨_, List.getElem?_eq_getElem within⟩
        have ascending : ∀ {first second : ℕ} {one two : Value},
            values[first]? = some one → values[second]? = some two →
            first < second → one < two := by
          intro first second one two atFirst atSecond earlier
          obtain ⟨firstIn, rfl⟩ := List.getElem?_eq_some_iff.mp atFirst
          obtain ⟨secondIn, rfl⟩ := List.getElem?_eq_some_iff.mp atSecond
          exact List.pairwise_iff_getElem.mp sorted _ _ firstIn secondIn earlier
        rw [if_pos many]
        dsimp only
        rw [found]
        dsimp only
        split
        · rename_i smaller
          -- The value is before the middle.
          have earlier : place < base + size / 2 := by
            by_contra late
            rcases Nat.lt_or_eq_of_le (Nat.le_of_not_lt late) with less | same
            · exact lt_asymm smaller (ascending found isThere less)
            · rw [same, isThere] at found
              cases found
              exact lt_irrefl _ smaller
          exact inductionHypothesis (by omega) (by omega) after (by omega)
        · rename_i notSmaller
          have later : base + size / 2 ≤ place := by
            by_contra early
            exact notSmaller (ascending isThere found (Nat.lt_of_not_le early))
          have rest : base + size / 2 + (size - size / 2) = base + size := by
            omega
          apply inductionHypothesis
          · omega
          · rwa [rest]
          · exact later
          · rwa [rest]
      · have same : place = base := by omega
        rw [if_neg many, ← same]
        exact isThere

/-- In an ascending list the search finds the values of the list. -/
theorem binarySearch_iff (sorted : values.Pairwise (· < ·)) :
    binarySearch values value = true ↔ value ∈ values := by
  unfold binarySearch
  constructor
  · intro finds
    split at finds
    · rename_i found isThere
      rw [← of_decide_eq_true finds]
      exact List.mem_of_getElem? isThere
    · cases finds
  · intro member
    obtain ⟨place, isThere⟩ := List.mem_iff_getElem?.mp member
    have within := (List.getElem?_eq_some_iff.mp isThere).1
    have left : values[narrow values value values.length 0 values.length]? =
        some value :=
      getElem?_narrow sorted (by omega) (by omega) (Nat.zero_le place)
        (by omega) isThere
    rw [left]
    exact decide_eq_true rfl

end Search
end TaskCage
