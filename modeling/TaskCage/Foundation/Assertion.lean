import TaskCage.Foundation.Process

/-!
# Assertions about processes among other threads

`Ensures` is a triple for a process whose surroundings move along a relation:
an assertion that the others do not break can be kept from step to step.  A
process that is driven by another piece of code is run with surroundings in
which that code acts whenever the process is suspended.
-/

namespace TaskCage
namespace Process

variable {Answers Event Shared Result Next Index : Type}

/-- Other threads do not break the assertion. -/
def Stable (Rely : World Event Shared → World Event Shared → Prop)
    (Assertion : World Event Shared → Prop) : Prop :=
  ∀ world reached, Rely world reached → Assertion world → Assertion reached

/-- Among surroundings that move along `Rely`, the process leads from `Pre` to
`Post`. -/
def Ensures (Rely : World Event Shared → World Event Shared → Prop)
    (Pre : World Event Shared → Prop)
    (process : Process Answers Event Shared Result)
    (Post : Result → World Event Shared → Prop) : Prop :=
  ∀ surroundings, Respects surroundings Rely → ∀ world, Pre world →
    Post (process surroundings world).1 (process surroundings world).2

namespace Ensures

variable {Rely : World Event Shared → World Event Shared → Prop}
variable {Pre : World Event Shared → Prop}
variable {process : Process Answers Event Shared Result}
variable {next : Result → Process Answers Event Shared Next}
variable {Post : Result → World Event Shared → Prop}

theorem pure {result : Result} (holds : ∀ world, Pre world → Post result world) :
    Ensures Rely Pre
      (Pure.pure result : Process Answers Event Shared Result) Post :=
  fun _ _ world pre => holds world pre

theorem bind {Middle : Result → World Event Shared → Prop}
    {Post : Next → World Event Shared → Prop}
    (first : Ensures Rely Pre process Middle)
    (second : ∀ result, Ensures Rely (Middle result) (next result) Post) :
    Ensures Rely Pre (process >>= next) Post :=
  fun surroundings respects world pre =>
    second _ surroundings respects _ (first surroundings respects world pre)

theorem mono {Strong Weak : Result → World Event Shared → Prop}
    (ensures : Ensures Rely Pre process Strong)
    (weaker : ∀ result world, Strong result world → Weak result world) :
    Ensures Rely Pre process Weak :=
  fun surroundings respects world pre =>
    weaker _ _ (ensures surroundings respects world pre)

/-- The witness of an existential assertion may be fixed. -/
theorem exists_elim {Family : Index → World Event Shared → Prop}
    (ensures : ∀ index, Ensures Rely (Family index) process Post) :
    Ensures Rely (fun world => ∃ index, Family index world) process Post :=
  fun surroundings respects world ⟨index, pre⟩ =>
    ensures index surroundings respects world pre

/-- A fact that does not speak about the world may be assumed. -/
theorem and_elim {Fact : Prop} (ensures : Fact → Ensures Rely Pre process Post) :
    Ensures Rely (fun world => Fact ∧ Pre world) process Post :=
  fun surroundings respects world ⟨fact, pre⟩ =>
    ensures fact surroundings respects world pre

/-- What the others and the process leave alone stays. -/
theorem frame {Value : Type} (ensures : Ensures Rely Pre process Post)
    (view : World Event Shared → Value)
    (spares : ∀ world reached, Rely world reached → view reached = view world)
    (keeps : Keeps process fun world reached => view reached = view world)
    (value : Value) :
    Ensures Rely (fun world => Pre world ∧ view world = value) process
      fun result world => Post result world ∧ view world = value :=
  fun surroundings respects world ⟨pre, seen⟩ =>
    ⟨ensures surroundings respects world pre,
      (keeps surroundings
        { elapse := fun world delay => spares _ _ (respects.elapse world delay)
          interfere := fun world => spares _ _ (respects.interfere world)
          resume := fun world => spares _ _ (respects.resume world) }
        world).trans seen⟩

/-- What a process produces, it produces among any others. -/
theorem of_produces {Post : Result → List Event → Prop}
    (produces : Produces process Post) :
    Ensures Rely Pre process fun result _ => ∃ events, Post result events :=
  fun surroundings _ world _ =>
    let ⟨events, _, post⟩ := produces surroundings world
    ⟨events, post⟩

theorem act (stable : Stable Rely Pre)
    {step : Answers → World Event Shared → Result × List Event × Shared}
    (holds : ∀ answers world, Pre world →
      Post (step answers world).1
        { world with
          trace := world.trace ++ (step answers world).2.1
          shared := (step answers world).2.2 }) :
    Ensures Rely Pre (Process.act step) Post :=
  fun surroundings respects world pre =>
    holds surroundings.answers _ (stable _ _ (respects.interfere world) pre)

theorem update (stable : Stable Rely Pre)
    {change : ℕ → Shared → Result × Shared}
    (holds : ∀ world, Pre world →
      Post (change world.now world.shared).1
        { world with shared := (change world.now world.shared).2 }) :
    Ensures Rely Pre
      (Process.update change : Process Answers Event Shared Result) Post :=
  act stable fun _ world pre => by simpa using holds world pre

theorem lasting (stable : Stable Rely Pre)
    {duration : Answers → World Event Shared → ℕ}
    {change : ℕ → ℕ → Shared → Result × Shared}
    (holds : ∀ world pause, Pre world →
      Post (change world.now (world.now + pause) world.shared).1
        { world with
          now := world.now + pause
          shared := (change world.now (world.now + pause) world.shared).2 }) :
    Ensures Rely Pre (Process.lasting duration change) Post :=
  fun _ respects world pre =>
    holds _ _ (stable _ _ (respects.interfere world) pre)

end Ensures

/-! ### Driven processes -/

/-- The process adds nothing to the trace and does not turn the clock back. -/
structure Silent (process : Process Answers Event Shared Result) : Prop where
  trace_eq : ∀ surroundings world,
    (process surroundings world).2.trace = world.trace
  later : Keeps process Later

/-- The relation that a silent process keeps. -/
def Unrecorded (world reached : World Event Shared) : Prop :=
  reached.trace = world.trace ∧ world.now ≤ reached.now

theorem Silent.of_keeps {process : Process Answers Event Shared Result}
    (keeps : Keeps process Unrecorded) : Silent process := by
  have respects (surroundings : Surroundings Answers Event Shared) :
      Respects surroundings Unrecorded :=
    { elapse := fun _ _ => ⟨rfl, Nat.le_add_right _ _⟩
      interfere := fun _ => ⟨rfl, Nat.le_add_right _ _⟩
      resume := fun _ => ⟨rfl, Nat.le_add_right _ _⟩ }
  exact
    { trace_eq := fun surroundings world =>
        (keeps surroundings (respects surroundings) world).1
      later := fun surroundings _ world =>
        (keeps surroundings (respects surroundings) world).2 }

/-- Surroundings in which `reaction` runs at every suspension. -/
def reacting
    (surroundings : Surroundings Answers Event Shared)
    (reaction : Process Answers Event Shared Unit) :
    Surroundings Answers Event Shared :=
  { surroundings with
    resume := fun world =>
      let (delay, shared) := surroundings.resume world
      let reached := (reaction surroundings
        { world with now := world.now + delay, shared := shared }).2
      (reached.now - world.now, reached.shared) }

/-- Run a process and let `reaction` run at every suspension. -/
def driven (reaction : Process Answers Event Shared Unit)
    (process : Process Answers Event Shared Result) :
    Process Answers Event Shared Result := fun surroundings world =>
  process (reacting surroundings reaction) world

section Driven

variable {Rely : World Event Shared → World Event Shared → Prop}
variable {Invariant : World Event Shared → Prop}
variable {reaction : Process Answers Event Shared Unit}
variable {process : Process Answers Event Shared Result}

/-- Where the others and the reaction keep an assertion, so do the surroundings
of the driven process. -/
theorem respects_reacting
    {surroundings : Surroundings Answers Event Shared}
    (respects : Respects surroundings Rely) (stable : Stable Rely Invariant)
    (silent : Silent reaction)
    (reacts : Ensures Rely Invariant reaction fun _ => Invariant) :
    Respects (reacting surroundings reaction)
      fun world reached => Invariant world → Invariant reached where
  elapse world delay := stable _ _ (respects.elapse world delay)
  interfere world := stable _ _ (respects.interfere world)
  resume world := by
    intro invariant
    let woken : World Event Shared :=
      { world with
        now := world.now + (surroundings.resume world).1
        shared := (surroundings.resume world).2 }
    have reacted : Invariant (reaction surroundings woken).2 :=
      reacts surroundings respects woken
        (stable _ _ (respects.resume world) invariant)
    have sameTrace : (reaction surroundings woken).2.trace = world.trace :=
      silent.trace_eq surroundings woken
    have later : woken.now ≤ (reaction surroundings woken).2.now :=
      silent.later surroundings (respects_later surroundings) woken
    change Invariant
      { world with
        now := world.now + ((reaction surroundings woken).2.now - world.now)
        shared := (reaction surroundings woken).2.shared }
    generalize (reaction surroundings woken).2 = reached at *
    rwa [Nat.add_sub_cancel' (Nat.le_trans (Nat.le_add_right _ _) later),
      ← sameTrace]

theorem Ensures.driven (stable : Stable Rely Invariant)
    (silent : Silent reaction)
    (reacts : Ensures Rely Invariant reaction fun _ => Invariant)
    (keeps : Keeps process
      fun world reached => Invariant world → Invariant reached) :
    Ensures Rely Invariant (driven reaction process) fun _ => Invariant :=
  fun _ respects world =>
    keeps _ (respects_reacting respects stable silent reacts) world

end Driven
end Process
end TaskCage
