import Mathlib.Data.Finmap

/-!
# Finite tables

A hash map of the modelled program is a finite table: only look-ups, insertions,
removals and the number of entries are observable, never the iteration order.
`Finmap` has the first three; this file adds the entry count, the spelling of
look-ups after an update that the invariants are stated in, and what it means
that a table is an index of something else.
-/

namespace TaskCage

/-- A finite partial function, equal as soon as all look-ups are equal. -/
abbrev Table (Key Value : Type) := Finmap fun _ : Key => Value

namespace Table

variable {Key Value : Type} [DecidableEq Key]

theorem lookup_insert_eq_ite
    (table : Table Key Value) (key other : Key) (value : Value) :
    (table.insert key value).lookup other =
      if other = key then some value else table.lookup other := by
  by_cases equal : other = key
  · subst equal
    simp
  · simp [equal]

theorem lookup_erase_eq_ite
    (table : Table Key Value) (key other : Key) :
    (table.erase key).lookup other =
      if other = key then none else table.lookup other := by
  by_cases equal : other = key
  · subst equal
    simp
  · simp [equal]

variable {key : Key} {table : Table Key Value}

theorem lookup_insert_eq_some_iff {other : Key} {value found : Value} :
    (table.insert key value).lookup other = some found ↔
      other = key ∧ value = found ∨
        other ≠ key ∧ table.lookup other = some found := by
  rw [lookup_insert_eq_ite]
  split <;> simp_all

theorem lookup_erase_eq_some_iff {other : Key} {found : Value} :
    (table.erase key).lookup other = some found ↔
      other ≠ key ∧ table.lookup other = some found := by
  rw [lookup_erase_eq_ite]
  split <;> simp_all

/-! ### Inverses -/

/-- The table is the inverse of a partial function. -/
def Inverts (table : Table Key Value) (keyOf : Value → Option Key) : Prop :=
  ∀ key value, table.lookup key = some value ↔ keyOf value = some key

namespace Inverts

variable {table : Table Key Value} {keyOf named : Value → Option Key}
variable {key : Key} {value : Value}

theorem congr (inverts : table.Inverts keyOf)
    (same : ∀ other, named other = keyOf other) : table.Inverts named := by
  intro other found
  rw [same]
  exact inverts other found

/-- A value without a key gets one that is free. -/
theorem insert (inverts : table.Inverts keyOf)
    (free : table.lookup key = none) (unnamed : keyOf value = none)
    (given : named value = some key)
    (others : ∀ other, other ≠ value → named other = keyOf other) :
    Inverts (Finmap.insert key value table) named := by
  intro other found
  rw [lookup_insert_eq_some_iff]
  by_cases same : found = value
  · subst same
    rw [given, inverts, unnamed]
    simp [eq_comm]
  · rw [others found same, ← inverts]
    constructor
    · rintro (⟨-, rfl⟩ | ⟨-, present⟩)
      · exact absurd rfl same
      · exact present
    · intro present
      refine .inr ⟨?_, present⟩
      rintro rfl
      rw [free] at present
      cases present

/-- A value loses its key. -/
theorem erase (inverts : table.Inverts keyOf)
    (was : keyOf value = some key) (unnamed : named value = none)
    (others : ∀ other, other ≠ value → named other = keyOf other) :
    Inverts (Finmap.erase key table) named := by
  intro other found
  rw [lookup_erase_eq_some_iff]
  by_cases same : found = value
  · subst same
    rw [inverts, was, unnamed]
    simp [eq_comm]
  · rw [others found same, ← inverts]
    refine ⟨And.right, fun present => ⟨?_, present⟩⟩
    rintro rfl
    have holder := (inverts _ _).mpr was
    rw [present] at holder
    cases holder
    exact same rfl

end Inverts

/-! ### Entries -/

/-- A new key adds one entry. -/
theorem card_keys_insert_of_lookup_eq_none (absent : table.lookup key = none)
    (value : Value) :
    (table.insert key value).keys.card = table.keys.card + 1 := by
  have keysInsert : (table.insert key value).keys =
      insert key table.keys := by
    ext other
    simp [Finmap.mem_keys]
  have notMember : key ∉ table.keys := by
    rwa [Finmap.mem_keys, ← Finmap.lookup_eq_none]
  rw [keysInsert, Finset.card_insert_of_notMem notMember]

/-- Removing a key never adds an entry. -/
theorem card_keys_erase_le
    (table : Table Key Value) (key : Key) :
    (table.erase key).keys.card ≤ table.keys.card := by
  rw [Finmap.keys_erase]
  exact Finset.card_erase_le

end Table
end TaskCage
