import Mathlib.Init

/-!
# Reachable states of a labelled step relation

Steps may be restricted: a run is admitted when every one of its steps is
allowed in the state in which it is taken.
-/

namespace TaskCage

universe u v

/-- The states that are reached from `start` by steps that are allowed when
they are taken. -/
inductive Reaches {State : Type u} {Label : Type v}
    (Step : State → Label → State → Prop) (Allowed : State → Label → Prop)
    (start : State) : State → Prop where
  | start : Reaches Step Allowed start start
  | step {state next : State} (label : Label)
      (reached : Reaches Step Allowed start state)
      (allowed : Allowed state label) (taken : Step state label next) :
      Reaches Step Allowed start next

namespace Reaches

variable {State : Type u} {Label : Type v} {Step : State → Label → State → Prop}
variable {Allowed : State → Label → Prop} {start state : State}

/-- What allowed steps preserve holds in every state that is reached. -/
theorem invariant {Good : State → Prop}
    (reached : Reaches Step Allowed start state) (good : Good start)
    (preserved : ∀ state label next, Good state → Allowed state label →
      Step state label next → Good next) : Good state := by
  induction reached with
  | start => exact good
  | step label _ allowed taken inductionHypothesis =>
      exact preserved _ _ _ inductionHypothesis allowed taken

/-- A run whose steps are allowed by a weaker condition too. -/
theorem imp {Weaker : State → Label → Prop}
    (reached : Reaches Step Allowed start state)
    (weaker : ∀ state label, Allowed state label → Weaker state label) :
    Reaches Step Weaker start state := by
  induction reached with
  | start => exact .start
  | step label _ allowed taken inductionHypothesis =>
      exact inductionHypothesis.step label (weaker _ _ allowed) taken

/-- One run after another. -/
theorem trans {last : State} (reached : Reaches Step Allowed start state)
    (further : Reaches Step Allowed state last) :
    Reaches Step Allowed start last := by
  induction further with
  | start => exact reached
  | step label _ allowed taken inductionHypothesis =>
      exact inductionHypothesis.step label allowed taken

end Reaches
end TaskCage
