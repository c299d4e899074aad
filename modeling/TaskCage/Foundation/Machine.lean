import Mathlib.Data.List.Basic
import Mathlib.Logic.Relation

/-!
# Labelled machines

An interleaving of concurrent callers is a sequence of atomic events.  An event
that the current state does not allow (a lock is held by somebody else, say) is
no step; an allowed one produces an observable outcome and the next state.
This file has the runs of such a machine, the two induction rules for them, and
how a run splits at an event.
-/

namespace TaskCage

/-- A state machine with observable outcomes; `none` means that the event
cannot happen in the state. -/
structure Machine (State Event Outcome : Type) where
  step : State → Event → Option (Outcome × State)

namespace Machine

variable {State Event Outcome : Type} (machine : Machine State Event Outcome)

/-- Perform a sequence of events, collecting their outcomes. -/
def run : State → List Event → Option (List Outcome × State)
  | state, [] => some ([], state)
  | state, event :: events =>
      match machine.step state event with
      | none => none
      | some (outcome, next) =>
          match run next events with
          | none => none
          | some (outcomes, final) => some (outcome :: outcomes, final)

variable {machine}

@[simp] theorem run_nil (state : State) :
    machine.run state [] = some ([], state) :=
  rfl

variable {events : List Event} {final state : State} {outcomes : List Outcome}

theorem run_cons_eq_some_iff {event : Event} :
    machine.run state (event :: events) = some (outcomes, final) ↔
      ∃ outcome next rest, machine.step state event = some (outcome, next) ∧
        machine.run next events = some (rest, final) ∧
        outcomes = outcome :: rest := by
  constructor
  · intro ran
    unfold run at ran
    split at ran
    · simp at ran
    · rename_i outcome next stepped
      split at ran
      · simp at ran
      · rename_i rest last restRan
        cases ran
        exact ⟨outcome, next, rest, stepped, restRan, rfl⟩
  · rintro ⟨outcome, next, rest, stepped, restRan, rfl⟩
    simp [run, stepped, restRan]

/-- A run of two sequences passes through a state between them. -/
theorem run_append_eq_some_iff {first second : List Event} :
    machine.run state (first ++ second) = some (outcomes, final) ↔
      ∃ firstOutcomes middle secondOutcomes,
        machine.run state first = some (firstOutcomes, middle) ∧
        machine.run middle second = some (secondOutcomes, final) ∧
        outcomes = firstOutcomes ++ secondOutcomes := by
  induction first generalizing state outcomes with
  | nil => simp
  | cons event events inductionHypothesis =>
      rw [List.cons_append, run_cons_eq_some_iff]
      constructor
      · rintro ⟨outcome, next, rest, stepped, restRan, rfl⟩
        obtain ⟨firstRest, middle, secondOutcomes, firstRan, secondRan, rfl⟩ :=
          inductionHypothesis.mp restRan
        exact ⟨outcome :: firstRest, middle, secondOutcomes,
          run_cons_eq_some_iff.mpr
            ⟨outcome, next, firstRest, stepped, firstRan, rfl⟩,
          secondRan, rfl⟩
      · rintro ⟨firstOutcomes, middle, secondOutcomes, firstRan, secondRan, rfl⟩
        obtain ⟨outcome, next, firstRest, stepped, restRan, rfl⟩ :=
          run_cons_eq_some_iff.mp firstRan
        exact ⟨outcome, next, firstRest ++ secondOutcomes, stepped,
          inductionHypothesis.mpr
            ⟨firstRest, middle, secondOutcomes, restRan, secondRan, rfl⟩, rfl⟩

/-- A run splits wherever its outcomes do. -/
theorem run_outcomes_append {first second : List Outcome}
    (ran : machine.run state events = some (first ++ second, final)) :
    ∃ firstEvents middle secondEvents,
      events = firstEvents ++ secondEvents ∧
      machine.run state firstEvents = some (first, middle) ∧
      machine.run middle secondEvents = some (second, final) := by
  induction first generalizing state events with
  | nil => exact ⟨[], state, events, rfl, rfl, ran⟩
  | cons outcome rest inductionHypothesis =>
      cases events with
      | nil => simp at ran
      | cons event events =>
          obtain ⟨found, next, restOutcomes, stepped, restRan, equal⟩ :=
            run_cons_eq_some_iff.mp ran
          rw [List.cons_append, List.cons.injEq] at equal
          obtain ⟨rfl, rfl⟩ := equal
          obtain ⟨firstEvents, middle, secondEvents, rfl, firstRan, secondRan⟩ :=
            inductionHypothesis restRan
          exact ⟨event :: firstEvents, middle, secondEvents, rfl,
            run_cons_eq_some_iff.mpr
              ⟨outcome, next, rest, stepped, firstRan, rfl⟩, secondRan⟩

/-- What holds of every outcome of a step from a good state holds of every
outcome of a run from one. -/
theorem outcomes_of_run {Good : State → Prop} {Observed : Outcome → Prop}
    (preserved : ∀ state event outcome next, Good state →
      machine.step state event = some (outcome, next) →
      Good next ∧ Observed outcome) (good : Good state)
    (ran : machine.run state events = some (outcomes, final)) :
    ∀ outcome ∈ outcomes, Observed outcome := by
  induction events generalizing state outcomes with
  | nil =>
      cases ran
      simp
  | cons event events inductionHypothesis =>
      obtain ⟨outcome, next, rest, stepped, restRan, rfl⟩ :=
        run_cons_eq_some_iff.mp ran
      obtain ⟨nextGood, observed⟩ := preserved _ _ _ _ good stepped
      intro other member
      rcases List.mem_cons.mp member with rfl | later
      · exact observed
      · exact inductionHypothesis nextGood restRan other later

end Machine
end TaskCage
