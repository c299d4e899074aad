import Mathlib.Data.List.Forall2

/-!
# Outcomes

Code without effects ends with a value or an error.  This file has how a
sequence of such codes ends, checks that end it, and the invariant of a loop
that stops at the first error.
-/

namespace TaskCage
namespace Outcome

variable {Error Value Next State Item : Type}
variable {first : Except Error Value} {error : Error} {items : List Item}
variable {Fits : Item → Value → Prop} {results : List Value}
variable {next : Value → Except Error Next} {result : Next} {condition : Bool}
variable {done : Unit} {item : Item}

theorem bind_eq_ok_iff :
    (first >>= next) = .ok result ↔
      ∃ value, first = .ok value ∧ next value = .ok result := by
  cases first with
  | error error => exact ⟨nofun, nofun⟩
  | ok value =>
      refine ⟨fun ended => ⟨value, rfl, ended⟩, ?_⟩
      rintro ⟨_, ⟨⟩, ended⟩
      exact ended

theorem bind_eq_error_iff :
    (first >>= next) = .error error ↔ first = .error error ∨
      ∃ value, first = .ok value ∧ next value = .error error := by
  cases first with
  | error found => simp [bind, Except.bind]
  | ok value => simp [bind, Except.bind]

/-- A step without a value, and what follows it. -/
theorem seq_eq_ok_iff {first : Except Error Unit}
    {next : Unit → Except Error Next} :
    (first >>= next) = .ok result ↔ first = .ok () ∧ next () = .ok result := by
  rw [bind_eq_ok_iff]
  exact ⟨fun ⟨(), done, ended⟩ => ⟨done, ended⟩,
    fun ⟨done, ended⟩ => ⟨(), done, ended⟩⟩

/-- Renaming the errors changes no value. -/
theorem mapError_eq_ok_iff {Other : Type} {change : Error → Other}
    {value : Value} :
    first.mapError change = .ok value ↔ first = .ok value := by
  cases first with
  | error error => exact iff_of_false nofun nofun
  | ok found => simp [Except.mapError]

/-- A check that ends with an error if it fails. -/
def require (condition : Bool) (error : Error) : Except Error Unit :=
  if condition then .ok () else .error error

theorem require_eq_ok_iff :
    require condition error = .ok done ↔ condition = true := by
  unfold require
  cases condition with
  | true => exact iff_of_true rfl rfl
  | false => exact iff_of_false nofun nofun

theorem require_eq_error_iff {found : Error} :
    require condition error = .error found ↔
      condition = false ∧ error = found := by
  unfold require
  cases condition with
  | true => exact iff_of_false nofun nofun
  | false => simp

/-- A loop of checks ends well when every check does. -/
theorem forM_eq_ok_iff {check : Item → Except Error Unit} :
    items.forM check = .ok done ↔ ∀ item ∈ items, check item = .ok () := by
  induction items with
  | nil => exact iff_of_true rfl nofun
  | cons item rest inductionHypothesis =>
      rw [List.forall_mem_cons, ← inductionHypothesis]
      exact seq_eq_ok_iff

/-- The result of an item of a loop. -/
theorem exists_right_of_mem (each : List.Forall₂ Fits items results)
    (member : item ∈ items) :
    ∃ result ∈ results, Fits item result := by
  induction each with
  | nil => cases member
  | @cons _ result _ _ here _ inductionHypothesis =>
      rcases List.mem_cons.mp member with rfl | later
      · exact ⟨result, List.mem_cons_self, here⟩
      · obtain ⟨found, isFound, fits⟩ := inductionHypothesis later
        exact ⟨found, List.mem_cons_of_mem _ isFound, fits⟩

/-- The result of the item at an index. -/
theorem exists_getElem?_of_forall₂ (each : List.Forall₂ Fits items results)
    {index : Nat} (found : items[index]? = some item) :
    ∃ result, results[index]? = some result ∧ Fits item result := by
  induction each generalizing index with
  | nil => cases found
  | @cons _ result _ _ here _ inductionHypothesis =>
      cases index with
      | zero =>
          cases found
          exact ⟨result, rfl, here⟩
      | succ index => exact inductionHypothesis found

/-- The item of a result of a loop. -/
theorem exists_left_of_mem (each : List.Forall₂ Fits items results)
    {result : Value} (member : result ∈ results) :
    ∃ item ∈ items, Fits item result :=
  exists_right_of_mem each.flip member

/-- A loop that gives one result for each item. -/
theorem mapM_eq_ok_iff {code : Item → Except Error Value} :
    items.mapM code = .ok results ↔
      List.Forall₂ (fun item result => code item = .ok result) items
        results := by
  induction items generalizing results with
  | nil =>
      rw [List.mapM_nil, List.forall₂_nil_left_iff]
      exact ⟨fun ended => (Except.ok.inj ended).symm, fun none => none ▸ rfl⟩
  | cons item rest inductionHypothesis =>
      simp only [List.mapM_cons, bind_eq_ok_iff, inductionHypothesis,
        List.forall₂_cons_left_iff]
      constructor
      · rintro ⟨value, first, values, others, ⟨⟩⟩
        exact ⟨value, values, first, others, rfl⟩
      · rintro ⟨value, values, first, others, rfl⟩
        exact ⟨value, first, values, others, rfl⟩

/-- The invariant of a loop speaks about the items so far. -/
theorem good_of_foldlM {step : State → Item → Except Error State}
    (Good : List Item → State → Prop)
    (keeps : ∀ before item state next, Good before state →
      step state item = .ok next → Good (before ++ [item]) next)
    (before : List Item) {state final : State} (good : Good before state)
    (ended : items.foldlM step state = .ok final) :
    Good (before ++ items) final := by
  induction items generalizing before state with
  | nil =>
      cases ended
      rwa [List.append_nil]
  | cons item rest inductionHypothesis =>
      rw [List.foldlM_cons, bind_eq_ok_iff] at ended
      obtain ⟨next, stepped, ended⟩ := ended
      rw [List.append_cons]
      exact inductionHypothesis _ (keeps before item state next good stepped)
        ended

end Outcome
end TaskCage
