import Mathlib.Algebra.BigOperators.Group.List.Basic
import Mathlib.Algebra.GroupWithZero.Nat
import Mathlib.Data.List.Pairwise
import Mathlib.Data.List.Perm.Subperm
import Mathlib.Order.Basic
import Mathlib.Order.Lattice

/-!
# Ordered tables

A tree map of the modelled program is iterated in the order of its keys.  It is
a list of entries that is sorted by key, so every key occurs once.  Sums over
all entries are followed through an update by the two permutation lemmas.
-/

namespace TaskCage

/-- A finite partial function with its entries in the order of the keys. -/
@[ext]
structure OrderedTable (Key Value : Type) [LinearOrder Key] where
  entries : List (Key × Value)
  sorted : entries.Pairwise fun first second => first.1 < second.1

namespace OrderedTable

variable {Key Value : Type} [LinearOrder Key]
variable {table : OrderedTable Key Value} {key other : Key}
variable {value found : Value}

/-- No entry. -/
def empty : OrderedTable Key Value where
  entries := []
  sorted := .nil

/-- The value of a key. -/
def lookup (table : OrderedTable Key Value) (key : Key) : Option Value :=
  (table.entries.find? fun entry => entry.1 = key).map Prod.snd

/-- Remove a key. -/
def erase (table : OrderedTable Key Value) (key : Key) :
    OrderedTable Key Value where
  entries := table.entries.filter fun entry => entry.1 ≠ key
  sorted := table.sorted.filter _

/-- Set the value of a key. -/
def insert (table : OrderedTable Key Value) (key : Key) (value : Value) :
    OrderedTable Key Value where
  entries := table.entries.filter (fun entry => entry.1 < key) ++
    (key, value) :: table.entries.filter fun entry => key < entry.1
  sorted := by
    refine List.pairwise_append.mpr ⟨table.sorted.filter _,
      List.pairwise_cons.mpr ⟨?_, table.sorted.filter _⟩, ?_⟩
    · intro entry member
      simpa using (List.mem_filter.mp member).2
    · intro before isBefore after isAfter
      have below : before.1 < key := by
        simpa using (List.mem_filter.mp isBefore).2
      rcases List.mem_cons.mp isAfter with rfl | isAfter
      · exact below
      · exact below.trans (by simpa using (List.mem_filter.mp isAfter).2)

/-! ### Entries and look-ups -/

omit [LinearOrder Key] in
/-- Among entries with distinct keys the first one of a key is its only one. -/
theorem find_eq_some_iff_mem [DecidableEq Key] {entries : List (Key × Value)}
    (unique : (entries.map Prod.fst).Nodup) :
    (entries.find? fun entry => entry.1 = key).map Prod.snd = some value ↔
      (key, value) ∈ entries := by
  induction entries with
  | nil => simp
  | cons entry rest inductionHypothesis =>
      obtain ⟨first, held⟩ := entry
      obtain ⟨once, unique⟩ := List.nodup_cons.mp unique
      by_cases same : first = key
      · subst same
        have notLater : (first, value) ∉ rest := fun later =>
          once (List.mem_map.mpr ⟨_, later, rfl⟩)
        simp [notLater, eq_comm]
      · rw [List.find?_cons_of_neg (by simpa using same),
          inductionHypothesis unique, List.mem_cons]
        exact (or_iff_right fun equal => same (Prod.mk.inj equal).1.symm).symm

theorem lookup_eq_some_iff :
    table.lookup key = some value ↔ (key, value) ∈ table.entries :=
  find_eq_some_iff_mem (List.pairwise_map.mpr (table.sorted.imp ne_of_lt))

theorem lookup_eq_none_iff :
    table.lookup key = none ↔ ∀ value, (key, value) ∉ table.entries := by
  simp only [Option.eq_none_iff_forall_ne_some, ne_eq, lookup_eq_some_iff]

@[simp] theorem lookup_empty : (empty : OrderedTable Key Value).lookup key =
    none :=
  rfl

theorem lookup_insert_eq_some_iff :
    (table.insert key value).lookup other = some found ↔
      other = key ∧ value = found ∨
        other ≠ key ∧ table.lookup other = some found := by
  simp only [lookup_eq_some_iff, insert, List.mem_append, List.mem_cons,
    List.mem_filter, Prod.mk.injEq, decide_eq_true_eq]
  constructor
  · rintro (⟨member, below⟩ | ⟨rfl, rfl⟩ | ⟨member, above⟩)
    · exact .inr ⟨below.ne, member⟩
    · exact .inl ⟨rfl, rfl⟩
    · exact .inr ⟨above.ne', member⟩
  · rintro (⟨rfl, rfl⟩ | ⟨different, member⟩)
    · exact .inr (.inl ⟨rfl, rfl⟩)
    · rcases lt_or_gt_of_ne different with below | above
      · exact .inl ⟨member, below⟩
      · exact .inr (.inr ⟨member, above⟩)

theorem lookup_erase_eq_some_iff :
    (table.erase key).lookup other = some found ↔
      other ≠ key ∧ table.lookup other = some found := by
  simp [lookup_eq_some_iff, erase, and_comm]

theorem lookup_insert_eq_ite (table : OrderedTable Key Value)
    (key other : Key) (value : Value) :
    (table.insert key value).lookup other =
      if other = key then some value else table.lookup other := by
  refine Option.ext fun found => ?_
  rw [lookup_insert_eq_some_iff]
  split <;> simp_all

theorem lookup_erase_eq_ite (table : OrderedTable Key Value)
    (key other : Key) :
    (table.erase key).lookup other =
      if other = key then none else table.lookup other := by
  refine Option.ext fun found => ?_
  rw [lookup_erase_eq_some_iff]
  split <;> simp_all

/-! ### Sums over all entries -/

/-- The sum of a weight over all entries. -/
def total (weigh : Key → Value → ℕ) (table : OrderedTable Key Value) : ℕ :=
  (table.entries.map fun entry => weigh entry.1 entry.2).sum

theorem sum_eq_zero_of_forall {entries : List (Key × Value)}
    {weigh : Key → Value → ℕ}
    (none : ∀ entry ∈ entries, weigh entry.1 entry.2 = 0) :
    (entries.map fun entry => weigh entry.1 entry.2).sum = 0 := by
  induction entries with
  | nil => rfl
  | cons entry rest inductionHypothesis =>
      rw [List.map_cons, List.sum_cons, none entry List.mem_cons_self,
        inductionHypothesis fun other member =>
          none other (List.mem_cons_of_mem _ member)]

theorem erase_of_lookup_eq_none (absent : table.lookup key = none) :
    table.erase key = table := by
  refine OrderedTable.ext (List.filter_eq_self.mpr fun entry member => ?_)
  simp only [decide_eq_true_eq]
  rintro rfl
  exact lookup_eq_none_iff.mp absent entry.2 member

/-- A sorted list with one of its keys taken out. -/
theorem sum_filter_of_mem {entries : List (Key × Value)}
    (sorted : entries.Pairwise fun first second => first.1 < second.1)
    (member : (key, value) ∈ entries) (weigh : Key → Value → ℕ) :
    (entries.map fun entry => weigh entry.1 entry.2).sum =
      weigh key value + ((entries.filter fun entry => entry.1 ≠ key).map
        fun entry => weigh entry.1 entry.2).sum := by
  induction entries with
  | nil => simp at member
  | cons entry rest inductionHypothesis =>
      obtain ⟨below, sorted⟩ := List.pairwise_cons.mp sorted
      rcases List.mem_cons.mp member with rfl | member
      · have kept : rest.filter (fun entry => entry.1 ≠ key) = rest :=
          List.filter_eq_self.mpr fun later isLater => by
            simpa using (below later isLater).ne'
        rw [List.filter_cons_of_neg (by simp), kept]
        rfl
      · have different : entry.1 ≠ key := (below _ member).ne
        rw [List.filter_cons_of_pos (by simpa using different),
          List.map_cons, List.sum_cons, List.map_cons, List.sum_cons,
          inductionHypothesis sorted member]
        exact Nat.add_left_comm _ _ _

/-- The weight of one entry and that of the others. -/
theorem total_of_lookup_eq_some (weigh : Key → Value → ℕ)
    (present : table.lookup key = some value) :
    table.total weigh = weigh key value + (table.erase key).total weigh :=
  sum_filter_of_mem table.sorted (lookup_eq_some_iff.mp present) weigh

theorem total_eq_zero_iff {weigh : Key → Value → ℕ} :
    table.total weigh = 0 ↔
      ∀ key value, table.lookup key = some value → weigh key value = 0 := by
  constructor
  · intro none key value present
    rw [total_of_lookup_eq_some weigh present] at none
    exact Nat.eq_zero_of_add_eq_zero_right none
  · intro none
    exact sum_eq_zero_of_forall fun entry member =>
      none entry.1 entry.2 (lookup_eq_some_iff.mpr member)

/-- The entries with other keys lie below or above. -/
theorem sum_filter_ne (entries : List (Key × Value)) (key : Key)
    (weigh : Key → Value → ℕ) :
    ((entries.filter fun entry => entry.1 ≠ key).map
        fun entry => weigh entry.1 entry.2).sum =
      ((entries.filter fun entry => entry.1 < key).map
        fun entry => weigh entry.1 entry.2).sum +
      ((entries.filter fun entry => key < entry.1).map
        fun entry => weigh entry.1 entry.2).sum := by
  induction entries with
  | nil => rfl
  | cons entry rest inductionHypothesis =>
      rcases lt_trichotomy entry.1 key with below | same | above
      · simp only [List.filter_cons, below, below.ne, below.not_gt, decide_true,
          ne_eq, not_false_eq_true, decide_false, Bool.false_eq_true, if_true,
          if_false, List.map_cons, List.sum_cons, inductionHypothesis]
        omega
      · simpa [List.filter_cons, same] using inductionHypothesis
      · simp only [List.filter_cons, above, above.ne', above.not_gt,
          decide_true, ne_eq, not_false_eq_true, decide_false,
          Bool.false_eq_true, if_true, if_false, List.map_cons, List.sum_cons,
          inductionHypothesis]
        omega

theorem total_insert (weigh : Key → Value → ℕ)
    (table : OrderedTable Key Value) (key : Key) (value : Value) :
    (table.insert key value).total weigh =
      weigh key value + (table.erase key).total weigh := by
  unfold total insert erase
  rw [sum_filter_ne, List.map_append, List.sum_append, List.map_cons,
    List.sum_cons]
  exact Nat.add_left_comm _ _ _

/-- A new key adds its weight. -/
theorem total_insert_of_lookup_eq_none (weigh : Key → Value → ℕ)
    (absent : table.lookup key = none) (value : Value) :
    (table.insert key value).total weigh =
      weigh key value + table.total weigh := by
  rw [total_insert, erase_of_lookup_eq_none absent]

/-! ### Numbers of entries -/

/-- How many keys there are. -/
def size (table : OrderedTable Key Value) : ℕ :=
  table.entries.length

theorem size_eq_total : table.size = table.total fun _ _ => 1 := by
  unfold size total
  induction table.entries with
  | nil => rfl
  | cons entry rest inductionHypothesis =>
      rw [List.map_cons, List.sum_cons, List.length_cons, inductionHypothesis]
      exact Nat.add_comm _ _

theorem size_erase_of_lookup_eq_some (present : table.lookup key = some value) :
    (table.erase key).size + 1 = table.size := by
  rw [size_eq_total, size_eq_total, total_of_lookup_eq_some _ present]
  exact Nat.add_comm _ _

theorem size_erase_le (table : OrderedTable Key Value) (key : Key) :
    (table.erase key).size ≤ table.size :=
  List.length_filter_le _ _

theorem size_insert (table : OrderedTable Key Value) (key : Key)
    (value : Value) :
    (table.insert key value).size = (table.erase key).size + 1 := by
  rw [size_eq_total, size_eq_total, total_insert]
  exact Nat.add_comm _ _

theorem size_insert_of_lookup_eq_none (absent : table.lookup key = none) :
    (table.insert key value).size = table.size + 1 := by
  rw [size_insert, erase_of_lookup_eq_none absent]

theorem size_insert_of_lookup_eq_some (present : table.lookup key = some found) :
    (table.insert key value).size = table.size := by
  rw [size_insert, size_erase_of_lookup_eq_some present]

/-- A table is not larger than one into which its entries are mapped without
two of them meeting. -/
theorem size_le_of_injOn {Other Held : Type} [LinearOrder Other]
    {target : OrderedTable Other Held} (image : Key → Value → Other)
    (maps : ∀ key value, table.lookup key = some value →
      ∃ held, target.lookup (image key value) = some held)
    (injective : ∀ first value second found,
      table.lookup first = some value → table.lookup second = some found →
      image first value = image second found → first = second) :
    table.size ≤ target.size := by
  have nodup : (table.entries.map fun entry =>
      image entry.1 entry.2).Nodup := by
    refine List.pairwise_map.mpr (table.sorted.imp_of_mem ?_)
    intro first second isFirst isSecond below same
    exact below.ne (injective _ _ _ _ (lookup_eq_some_iff.mpr isFirst)
      (lookup_eq_some_iff.mpr isSecond) same)
  have subset : (table.entries.map fun entry => image entry.1 entry.2) ⊆
      target.entries.map Prod.fst := by
    intro key member
    obtain ⟨entry, isEntry, rfl⟩ := List.mem_map.mp member
    obtain ⟨held, found⟩ := maps entry.1 entry.2
      (lookup_eq_some_iff.mpr isEntry)
    exact List.mem_map.mpr ⟨_, lookup_eq_some_iff.mp found, rfl⟩
  have length := (List.subperm_of_subset nodup subset).length_le
  rwa [List.length_map, List.length_map] at length

/-- A table is not larger than one whose entries name all of its keys. -/
theorem size_le_of_named {Other Held : Type} [LinearOrder Other]
    {target : OrderedTable Other Held} (names : Other → Held → Key)
    (named : ∀ key value, table.lookup key = some value →
      ∃ other held, target.lookup other = some held ∧
        names other held = key) : table.size ≤ target.size := by
  have nodup : (table.entries.map Prod.fst).Nodup :=
    List.pairwise_map.mpr (table.sorted.imp fun below => below.ne)
  have subset : table.entries.map Prod.fst ⊆
      target.entries.map fun entry => names entry.1 entry.2 := by
    intro key member
    obtain ⟨entry, isEntry, rfl⟩ := List.mem_map.mp member
    obtain ⟨other, held, found, same⟩ := named entry.1 entry.2
      (lookup_eq_some_iff.mpr isEntry)
    exact List.mem_map.mpr ⟨_, lookup_eq_some_iff.mp found, same⟩
  have length := (List.subperm_of_subset nodup subset).length_le
  rwa [List.length_map, List.length_map] at length

end OrderedTable
end TaskCage
