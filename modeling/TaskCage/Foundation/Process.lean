import Mathlib.Data.List.Basic
import Mathlib.Data.Nat.Init
import Mathlib.Logic.Relation
import Mathlib.Order.Defs.Unbundled

/-!
# Processes among other threads

A process is sequential code that asks an environment questions, keeps the
answers as a trace of events, and works on a state that other threads change
too.  Between any two of its steps time may pass and the others may move.  At a
point where the process suspends itself the thread that drives it may also act.

A process is a total function of its surroundings, so a statement about every
surroundings is a statement about every sequence of answers and about every
interleaving.  The two kinds of specification are `Produces`, about the result
and the events a process adds to the trace, and `Keeps`, about what it does to
the shared state.
-/

namespace TaskCage

/-- What there is around a process: the events so far, the clock and the state
it shares with others. -/
structure World (Event Shared : Type) where
  trace : List Event
  now : ℕ
  shared : Shared

/-- How the environment behaves.  Answers, delays and moves of other threads
may depend on everything that happened before. -/
structure Surroundings (Answers Event Shared : Type) where
  /-- The answers of the operating system. -/
  answers : Answers
  /-- Time that passes before a step. -/
  elapse : World Event Shared → ℕ
  /-- Moves of other threads before a step. -/
  interfere : World Event Shared → Shared
  /-- Moves of others while the process is suspended, with the time they take
  beyond the pause. -/
  resume : World Event Shared → ℕ × Shared

/-- Surroundings in which nothing else happens and no time passes. -/
def Surroundings.undisturbed {Answers Event Shared : Type}
    (answers : Answers) : Surroundings Answers Event Shared where
  answers := answers
  elapse _ := 0
  interfere world := world.shared
  resume world := (0, world.shared)

/-- Code that runs in a world. -/
def Process (Answers Event Shared Result : Type) : Type :=
  Surroundings Answers Event Shared → World Event Shared →
    Result × World Event Shared

namespace Process

variable {Answers Event Shared Result Next : Type}

instance : Monad (Process Answers Event Shared) where
  pure result := fun _ world => (result, world)
  bind first next := fun surroundings world =>
    let (result, middle) := first surroundings world
    next result surroundings middle

instance : LawfulMonad (Process Answers Event Shared) :=
  .mk' _ (fun _ => rfl) (fun _ _ => rfl) fun _ _ _ => rfl

/-- An atomic step: it sees the answers and the world, returns a result, adds
events and changes the shared state. -/
def act (step : Answers → World Event Shared →
      Result × List Event × Shared) :
    Process Answers Event Shared Result := fun surroundings world =>
  let reached : World Event Shared :=
    { world with
      now := world.now + surroundings.elapse world
      shared := surroundings.interfere world }
  let (result, events, shared) := step surroundings.answers reached
  (result, { reached with trace := reached.trace ++ events, shared := shared })

/-- Ask the environment and record its answer. -/
def ask (answer : Answers → World Event Shared → Result)
    (record : Result → Event) : Process Answers Event Shared Result :=
  act fun answers world =>
    let result := answer answers world
    (result, [record result], world.shared)

/-- Read the clock and work on the shared state. -/
def update (change : ℕ → Shared → Result × Shared) :
    Process Answers Event Shared Result :=
  act fun _ world =>
    let (result, shared) := change world.now world.shared
    (result, [], shared)

/-- An atomic step that takes time: it sees the clock at its begin and at its
end, and works on the shared state. -/
def lasting (duration : Answers → World Event Shared → ℕ)
    (change : ℕ → ℕ → Shared → Result × Shared) :
    Process Answers Event Shared Result := fun surroundings world =>
  let reached : World Event Shared :=
    { world with
      now := world.now + surroundings.elapse world
      shared := surroundings.interfere world }
  let ending := reached.now + duration surroundings.answers reached
  let (result, shared) := change reached.now ending reached.shared
  (result, { reached with now := ending, shared := shared })

/-- Suspend for some time.  The process is woken early when `woken` holds of
the shared state, and never at the same instant. -/
def suspend (woken : Shared → Bool) (pause : ℕ) :
    Process Answers Event Shared Unit := fun surroundings world =>
  let (delay, shared) := surroundings.resume world
  let pause := if woken shared then 1 else max 1 pause
  ((), { world with
    now := world.now + pause + delay
    shared := shared })

/-- Continue with the value of a step that succeeded. -/
def proceed {Error Value : Type}
    (first : Process Answers Event Shared (Except Error Value))
    (next : Value → Process Answers Event Shared (Except Error Next)) :
    Process Answers Event Shared (Except Error Next) := do
  match ← first with
  | .error error => pure (.error error)
  | .ok value => next value

/-- Run a body at most `rounds + 1` times.  A body returns its result, or the
time to wait before the next round. -/
def iterate (body : Process Answers Event Shared (Result ⊕ ℕ))
    (woken : Shared → Bool) (exhausted : Result) :
    ℕ → Process Answers Event Shared Result
  | 0 => do
      match ← body with
      | .inl result => pure result
      | .inr _ => pure exhausted
  | rounds + 1 => do
      match ← body with
      | .inl result => pure result
      | .inr pause =>
          suspend woken pause
          iterate body woken exhausted rounds

/-- Run a body until it returns a result, where it asks for another round only
before the instant `expiresAt`. -/
def pollUntil (expiresAt : ℕ)
    (body : Process Answers Event Shared (Result ⊕ ℕ))
    (woken : Shared → Bool) (exhausted : Result) :
    Process Answers Event Shared Result := fun surroundings world =>
  iterate body woken exhausted (expiresAt - world.now) surroundings world

variable {process : Process Answers Event Shared Result}
variable {next : Result → Process Answers Event Shared Next}

theorem pure_run (result : Result)
    (surroundings : Surroundings Answers Event Shared)
    (world : World Event Shared) :
    (pure result : Process Answers Event Shared Result) surroundings world =
      (result, world) :=
  rfl

variable (surroundings : Surroundings Answers Event Shared)

theorem bind_run (world : World Event Shared) :
    (process >>= next) surroundings world =
      next (process surroundings world).1 surroundings
        (process surroundings world).2 :=
  rfl

/-- Running the rest after a first part whose outcome is known. -/
theorem bind_eq {surroundings : Surroundings Answers Event Shared}
    {world middle : World Event Shared} {result : Result}
    (first : process surroundings world = (result, middle)) :
    (process >>= next) surroundings world = next result surroundings middle :=
  by rw [bind_run, first]

/-! ### Results and events -/

/-- The process adds events to the trace that, together with its result,
satisfy `Post`, whatever its surroundings do. -/
def Produces (process : Process Answers Event Shared Result)
    (Post : Result → List Event → Prop) : Prop :=
  ∀ surroundings world, ∃ events,
    (process surroundings world).2.trace = world.trace ++ events ∧
      Post (process surroundings world).1 events

namespace Produces

theorem mono
    {Strong Weak : Result → List Event → Prop}
    (produces : Produces process Strong)
    (weaker : ∀ result events, Strong result events → Weak result events) :
    Produces process Weak := by
  intro surroundings world
  obtain ⟨events, extended, strong⟩ := produces surroundings world
  exact ⟨events, extended, weaker _ _ strong⟩

variable {Post : Result → List Event → Prop}

theorem pure {result : Result} (holds : Post result []) :
    Produces (Pure.pure result : Process Answers Event Shared Result) Post :=
  fun _ _ => ⟨[], by simp [pure_run], holds⟩

theorem bind
    {First : Result → List Event → Prop}
    {Post : Next → List Event → Prop}
    (first : Produces process First)
    (second : ∀ result firstEvents, First result firstEvents →
      Produces (next result) fun last events =>
        Post last (firstEvents ++ events)) :
    Produces (process >>= next) Post := by
  intro surroundings world
  obtain ⟨firstEvents, firstExtended, firstHolds⟩ := first surroundings world
  obtain ⟨events, extended, holds⟩ :=
    second _ firstEvents firstHolds surroundings (process surroundings world).2
  refine ⟨firstEvents ++ events, ?_, holds⟩
  rw [bind_run, extended, firstExtended, List.append_assoc]

theorem proceed {Error Value : Type}
    {first : Process Answers Event Shared (Except Error Value)}
    {following : Value → Process Answers Event Shared (Except Error Next)}
    {First : Except Error Value → List Event → Prop}
    {Post : Except Error Next → List Event → Prop}
    (produces : Produces first First)
    (failed : ∀ error events, First (.error error) events →
      Post (.error error) events)
    (succeeded : ∀ value firstEvents, First (.ok value) firstEvents →
      Produces (following value) fun last events =>
        Post last (firstEvents ++ events)) :
    Produces (Process.proceed first following) Post := by
  refine produces.bind fun result firstEvents holds => ?_
  cases result with
  | error error =>
      exact pure (by rw [List.append_nil]; exact failed error _ holds)
  | ok value => exact succeeded value firstEvents holds

theorem act
    {step : Answers → World Event Shared → Result × List Event × Shared}
    (holds : ∀ answers world,
      Post (step answers world).1 (step answers world).2.1) :
    Produces (Process.act step) Post :=
  fun _ _ => ⟨_, rfl, holds _ _⟩

theorem ask {answer : Answers → World Event Shared → Result}
    {record : Result → Event} (holds : ∀ result, Post result [record result]) :
    Produces (Process.ask answer record) Post :=
  act fun _ _ => holds _

/-- A question whose answer is only converted. -/
theorem ask_map {Answer : Type}
    {answer : Answers → World Event Shared → Answer} {record : Answer → Event}
    {convert : Answer → Result}
    (holds : ∀ given, Post (convert given) [record given]) :
    Produces
      (Process.ask answer record >>= fun given => Pure.pure (convert given))
      Post :=
  fun _ _ => ⟨_, rfl, holds _⟩

theorem update {change : ℕ → Shared → Result × Shared}
    (holds : ∀ now shared, Post (change now shared).1 []) :
    Produces (Process.update change : Process Answers Event Shared Result)
      Post :=
  act fun _ _ => holds _ _

end Produces

/-! ### The world -/

/-- The surroundings move the world only along `Moves`, where time may always
pass. -/
structure Respects
    (surroundings : Surroundings Answers Event Shared)
    (Moves : World Event Shared → World Event Shared → Prop) : Prop where
  elapse : ∀ world delay, Moves world { world with now := world.now + delay }
  interfere : ∀ world, Moves world
    { world with
      now := world.now + surroundings.elapse world
      shared := surroundings.interfere world }
  resume : ∀ world, Moves world
    { world with
      now := world.now + (surroundings.resume world).1
      shared := (surroundings.resume world).2 }

/-- Among surroundings that move along `Moves`, so does the process. -/
def Keeps (process : Process Answers Event Shared Result)
    (Moves : World Event Shared → World Event Shared → Prop) : Prop :=
  ∀ surroundings, Respects surroundings Moves → ∀ world,
    Moves world (process surroundings world).2

namespace Keeps

variable {Moves : World Event Shared → World Event Shared → Prop}

theorem pure (reflexive : Std.Refl Moves) (result : Result) :
    Keeps (Pure.pure result : Process Answers Event Shared Result) Moves :=
  fun _ _ world => reflexive.refl world

theorem bind (transitive : IsTrans _ Moves)
    (first : Keeps process Moves)
    (second : ∀ result, Keeps (next result) Moves) :
    Keeps (process >>= next) Moves := fun surroundings respects world =>
  transitive.trans _ _ _ (first surroundings respects world)
    (second _ surroundings respects _)

theorem act (transitive : IsTrans _ Moves)
    {step : Answers → World Event Shared → Result × List Event × Shared}
    (moves : ∀ answers world, Moves world
      { world with
        trace := world.trace ++ (step answers world).2.1
        shared := (step answers world).2.2 }) :
    Keeps (Process.act step) Moves := fun surroundings respects world =>
  transitive.trans _ _ _ (respects.interfere world)
    (moves surroundings.answers _)

theorem lasting (transitive : IsTrans _ Moves)
    {duration : Answers → World Event Shared → ℕ}
    {change : ℕ → ℕ → Shared → Result × Shared}
    (moves : ∀ world pause, Moves world
      { world with
        now := world.now + pause
        shared := (change world.now (world.now + pause) world.shared).2 }) :
    Keeps (Process.lasting duration change) Moves :=
  fun _ respects world =>
    transitive.trans _ _ _ (respects.interfere world) (moves _ _)

theorem suspend (transitive : IsTrans _ Moves) (woken : Shared → Bool)
    (pause : ℕ) :
    Keeps (Process.suspend woken pause :
      Process Answers Event Shared Unit) Moves := by
  intro surroundings respects world
  have waited := respects.elapse
    { world with
      now := world.now + (surroundings.resume world).1
      shared := (surroundings.resume world).2 }
    (if woken (surroundings.resume world).2 then 1 else max 1 pause)
  rw [Nat.add_right_comm] at waited
  exact transitive.trans _ _ _ (respects.resume world) waited

variable {body : Process Answers Event Shared (Result ⊕ ℕ)} {exhausted : Result}
variable {woken : Shared → Bool}

theorem iterate (transitive : IsTrans _ Moves) (reflexive : Std.Refl Moves)
    (keeps : Keeps body Moves) (rounds : ℕ) :
    Keeps (Process.iterate body woken exhausted rounds) Moves := by
  induction rounds with
  | zero =>
      refine bind transitive keeps fun outcome => ?_
      cases outcome with
      | inl result => exact pure reflexive result
      | inr pause => exact pure reflexive exhausted
  | succ rounds inductionHypothesis =>
      refine bind transitive keeps fun outcome => ?_
      cases outcome with
      | inl result => exact pure reflexive result
      | inr pause =>
          exact bind transitive (suspend transitive woken pause)
            fun _ => inductionHypothesis

theorem pollUntil (transitive : IsTrans _ Moves) (reflexive : Std.Refl Moves)
    {expiresAt : ℕ} (keeps : Keeps body Moves) :
    Keeps (Process.pollUntil expiresAt body woken exhausted) Moves :=
  fun surroundings respects world =>
    iterate transitive reflexive keeps _ surroundings respects world

end Keeps

/-- Moves that allow a process to ask, to wait and to take several steps. -/
structure Permits
    (Moves : World Event Shared → World Event Shared → Prop) : Prop where
  reflexive : Std.Refl Moves
  transitive : IsTrans (World Event Shared) Moves
  records : ∀ world events,
    Moves world { world with trace := world.trace ++ events }

namespace Permits

variable {Moves : World Event Shared → World Event Shared → Prop}

theorem pure (permits : Permits Moves) (result : Result) :
    Keeps (Pure.pure result : Process Answers Event Shared Result) Moves :=
  .pure permits.reflexive result

theorem bind (permits : Permits Moves) (first : Keeps process Moves)
    (second : ∀ result, Keeps (next result) Moves) :
    Keeps (process >>= next) Moves :=
  .bind permits.transitive first second

theorem proceed {Error Value : Type} (permits : Permits Moves)
    {first : Process Answers Event Shared (Except Error Value)}
    {following : Value → Process Answers Event Shared (Except Error Next)}
    (keeps : Keeps first Moves)
    (continued : ∀ value, Keeps (following value) Moves) :
    Keeps (Process.proceed first following) Moves :=
  permits.bind keeps fun
    | .error _ => permits.pure _
    | .ok value => continued value

theorem ask (permits : Permits Moves)
    (answer : Answers → World Event Shared → Result)
    (record : Result → Event) : Keeps (Process.ask answer record) Moves :=
  .act permits.transitive fun _ world => permits.records world _

/-- A question whose answer is only converted. -/
theorem ask_map {Answer : Type} (permits : Permits Moves)
    (answer : Answers → World Event Shared → Answer)
    (record : Answer → Event) (convert : Answer → Result) :
    Keeps (Process.ask answer record >>= fun given =>
      Pure.pure (convert given)) Moves :=
  permits.bind (permits.ask answer record) fun _ => permits.pure _

/-- A step on the shared state along the moves. -/
theorem update (permits : Permits Moves)
    {change : ℕ → Shared → Result × Shared}
    (moves : ∀ world, Moves world
      { world with shared := (change world.now world.shared).2 }) :
    Keeps (Process.update change : Process Answers Event Shared Result) Moves :=
  .act permits.transitive fun _ world => by
    simpa using moves world

theorem pollUntil (permits : Permits Moves) {expiresAt : ℕ}
    {body : Process Answers Event Shared (Result ⊕ ℕ)}
    {woken : Shared → Bool} {exhausted : Result} (keeps : Keeps body Moves) :
    Keeps (Process.pollUntil expiresAt body woken exhausted) Moves :=
  .pollUntil permits.transitive permits.reflexive keeps

end Permits

/-! ### Polling loops -/

/-- The clock does not go back. -/
def Later (world reached : World Event Shared) : Prop :=
  world.now ≤ reached.now

instance : Std.Refl (Later : World Event Shared → World Event Shared → Prop) :=
  ⟨fun world => Nat.le_refl world.now⟩

instance : IsTrans (World Event Shared) Later :=
  ⟨fun _ _ _ => Nat.le_trans⟩

theorem respects_later :
    Respects surroundings Later where
  elapse _ _ := Nat.le_add_right _ _
  interfere _ := Nat.le_add_right _ _
  resume _ := Nat.le_add_right _ _

theorem keeps_later_act
    (step : Answers → World Event Shared → Result × List Event × Shared) :
    Keeps (act step) Later :=
  .act inferInstance fun _ _ => Nat.le_refl _

theorem keeps_later_ask
    (answer : Answers → World Event Shared → Result)
    (record : Result → Event) : Keeps (ask answer record) Later :=
  keeps_later_act _

theorem Keeps.later_map (later : Keeps process Later)
    (convert : Result → Next) :
    Keeps (process >>= fun result => Pure.pure (convert result)) Later :=
  .bind inferInstance later fun _ => .pure inferInstance _

/-- The body asks for another round only before the instant `expiresAt`, and
it does not turn the clock back. -/
structure Bounded (expiresAt : ℕ)
    (body : Process Answers Event Shared (Result ⊕ ℕ)) : Prop where
  later : Keeps body Later
  early : ∀ surroundings world pause,
    (body surroundings world).1 = .inr pause → world.now < expiresAt

/-- A round that returns. -/
theorem Bounded.returns (expiresAt : ℕ) (result : Result) :
    Bounded expiresAt
      (pure (.inl result) : Process Answers Event Shared (Result ⊕ ℕ)) where
  later := .pure inferInstance _
  early := by simp [pure_run]

/-- A round that does something before it can ask for another one. -/
theorem Bounded.bind {expiresAt : ℕ} (later : Keeps process Later)
    {following : Result → Process Answers Event Shared (Next ⊕ ℕ)}
    (bounded : ∀ result, Bounded expiresAt (following result)) :
    Bounded expiresAt (process >>= following) where
  later := .bind inferInstance later fun result => (bounded result).later
  early surroundings world pause again :=
    Nat.lt_of_le_of_lt
      (later surroundings (respects_later surroundings) world)
      ((bounded _).early surroundings _ pause again)

section Loop

variable {expiresAt : ℕ} {body : Process Answers Event Shared (Result ⊕ ℕ)}
variable {woken : Shared → Bool} {exhausted : Result}
variable {surroundings : Surroundings Answers Event Shared}
variable {world : World Event Shared}

theorem lt_now_suspend (pause : ℕ) :
    world.now < (suspend woken pause surroundings world).2.now := by
  unfold suspend
  dsimp only
  split <;> omega

/-- Every further round has less time left. -/
theorem Bounded.left_lt (bounded : Bounded expiresAt body)
    (woken : Shared → Bool) {pause : ℕ}
    (again : (body surroundings world).1 = .inr pause) :
    expiresAt -
        (suspend woken pause surroundings (body surroundings world).2).2.now <
      expiresAt - world.now := by
  have early := bounded.early surroundings world pause again
  have later : world.now ≤ (body surroundings world).2.now :=
    bounded.later surroundings (respects_later surroundings) world
  have woke : (body surroundings world).2.now <
      (suspend woken pause surroundings (body surroundings world).2).2.now :=
    lt_now_suspend pause
  omega

variable {rounds : ℕ}

/-- Once the rounds suffice, one more round changes nothing. -/
theorem Bounded.iterate_succ (bounded : Bounded expiresAt body)
    (enough : expiresAt - world.now ≤ rounds) :
    iterate body woken exhausted (rounds + 1) surroundings world =
      iterate body woken exhausted rounds surroundings world := by
  induction rounds generalizing world with
  | zero =>
      simp only [iterate, bind_run]
      cases outcome : (body surroundings world).1 with
      | inl result => rfl
      | inr pause =>
          have early := bounded.early surroundings world pause outcome
          omega
  | succ rounds inductionHypothesis =>
      rw [iterate, iterate, bind_run, bind_run]
      cases outcome : (body surroundings world).1 with
      | inl result => rfl
      | inr pause =>
          have less := bounded.left_lt woken outcome
          exact inductionHypothesis
            (Nat.le_of_lt_succ (Nat.lt_of_lt_of_le less enough))

theorem Bounded.iterate_eq_pollUntil (bounded : Bounded expiresAt body)
    (enough : expiresAt - world.now ≤ rounds) :
    iterate body woken exhausted rounds surroundings world =
      pollUntil expiresAt body woken exhausted surroundings world := by
  induction rounds, enough using Nat.le_induction with
  | base => rfl
  | succ rounds enough inductionHypothesis =>
      rw [bounded.iterate_succ enough, inductionHypothesis]

/-- The rounds never run out: polling is the plain loop over its body. -/
theorem Bounded.pollUntil_eq (bounded : Bounded expiresAt body) :
    pollUntil expiresAt body woken exhausted = (do
      match ← body with
      | .inl result => pure result
      | .inr pause =>
          suspend woken pause
          pollUntil expiresAt body woken exhausted) := by
  funext surroundings world
  rw [← bounded.iterate_eq_pollUntil (Nat.le_succ _), iterate, bind_run,
    bind_run]
  cases outcome : (body surroundings world).1 with
  | inl result => rfl
  | inr pause =>
      have less := bounded.left_lt woken outcome
      exact bounded.iterate_eq_pollUntil (Nat.le_of_lt less)

/-- A poll produces rounds that ask for another one and then the round that
returns. -/
theorem Bounded.produces_pollUntil (bounded : Bounded expiresAt body)
    {Body : Result ⊕ ℕ → List Event → Prop}
    (produces : Produces body Body)
    (Idle : List Event → Prop) (nil : Idle [])
    (cons : ∀ pause round rounds, Body (.inr pause) round → Idle rounds →
      Idle (round ++ rounds)) :
    Produces (pollUntil expiresAt body woken exhausted) fun result events =>
      ∃ idle last, events = idle ++ last ∧ Idle idle ∧
        Body (.inl result) last := by
  intro surroundings world
  induction left : expiresAt - world.now using Nat.strong_induction_on
    generalizing world with
  | _ left inductionHypothesis =>
      obtain ⟨round, extended, holds⟩ := produces surroundings world
      rw [bounded.pollUntil_eq, bind_run]
      cases outcome : (body surroundings world).1 with
      | inl result =>
          rw [outcome] at holds
          exact ⟨round, extended, [], round, rfl, nil, holds⟩
      | inr pause =>
          rw [outcome] at holds
          have less := bounded.left_lt woken outcome
          rw [left] at less
          obtain ⟨events, restExtended, idle, last, rfl, rounds, returned⟩ :=
            inductionHypothesis _ less _ rfl
          refine ⟨round ++ (idle ++ last), ?_, round ++ idle, last,
            (List.append_assoc ..).symm, cons pause round idle holds rounds,
            returned⟩
          rw [← List.append_assoc, ← extended]
          exact restExtended

end Loop
end Process
end TaskCage
