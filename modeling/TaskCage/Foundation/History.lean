import Mathlib.Data.List.Basic
import Mathlib.Data.List.Induction

/-!
# Histories

A machine takes one event after the other, and what has happened so far is its
history.  An invariant may speak of the history; an order among events is said
by what an event asks of the events before it.
-/

namespace TaskCage
namespace History

variable {State Event : Type}

/-- Take one event after the other; an event that cannot happen is no run. -/
def replay (step : State → Event → Option State) :
    State → List Event → Option State
  | state, [] => some state
  | state, event :: rest => (step state event).bind fun next =>
      replay step next rest

variable {step : State → Event → Option State} {state final : State}
variable {events : List Event}

theorem replay_append (first second : List Event) :
    replay step state (first ++ second) =
      (replay step state first).bind fun middle =>
        replay step middle second := by
  induction first generalizing state with
  | nil => rfl
  | cons event rest inductionHypothesis =>
      rw [List.cons_append, replay, replay, Option.bind_assoc]
      congr 1
      funext next
      exact inductionHypothesis

theorem replay_concat_eq_some_iff {event : Event} :
    replay step state (events ++ [event]) = some final ↔
      ∃ middle, replay step state events = some middle ∧
        step middle event = some final := by
  rw [replay_append, Option.bind_eq_some_iff]
  simp only [replay, Option.bind_fun_some]

/-- What holds at the beginning and is kept by every step, for the history up to
there, holds at the end. -/
theorem invariant (Holds : List Event → State → Prop)
    (start : Holds [] state)
    (kept : ∀ history middle event next,
      replay step state history = some middle → Holds history middle →
      step middle event = some next → Holds (history ++ [event]) next)
    (ran : replay step state events = some final) : Holds events final := by
  induction events using List.reverseRecOn generalizing final with
  | nil =>
      cases ran
      exact start
  | append_singleton history event inductionHypothesis =>
      obtain ⟨middle, before, taken⟩ := replay_concat_eq_some_iff.mp ran
      exact kept history middle event final before (inductionHypothesis before)
        taken

/-- Every event is allowed by the events before it. -/
def Each (Allowed : List Event → Event → Prop) (events : List Event) : Prop :=
  ∀ before event after, events = before ++ event :: after → Allowed before event

namespace Each

variable {Allowed : List Event → Event → Prop}

theorem nil : Each Allowed [] := by
  intro before event after whole
  cases before with
  | nil => cases whole
  | cons first rest => cases whole

theorem concat {event : Event} (each : Each Allowed events)
    (allowed : Allowed events event) : Each Allowed (events ++ [event]) := by
  intro before found after whole
  rcases List.eq_nil_or_concat after with rfl | ⟨earlier, last, rfl⟩
  · obtain ⟨rfl, same⟩ := List.append_inj' whole rfl
    cases same
    exact allowed
  · rw [List.concat_eq_append, ← List.cons_append, ← List.append_assoc] at whole
    obtain ⟨same, -⟩ := List.append_inj' whole rfl
    exact each before found earlier same

end Each
end History
end TaskCage
