import TaskCage.Linux.System

/-!
# Waiting with a deadline

Cleanup steps wait for something by looking at it, reading the clock and
sleeping for a while.  Each loop returns what it sees, or gives up once the
deadline is over.
-/

namespace TaskCage
namespace Linux

open Process

variable {Shared Result : Type}

/-- Longest pause between two looks at something that is awaited. -/
def pollInterval : ℕ :=
  Duration.fromMillis 10

/-- Time left until a cleanup deadline. -/
def remaining (deadline : MonotonicDeadline) : Run Shared (Option ℕ) :=
  ask (fun _ world => deadline.remainingAt world.now) .cleanupRemaining

/-- One round of a wait: look, and read the clock if there is nothing. -/
def awaitRound (look : Run Shared (Option Result))
    (deadline : MonotonicDeadline) (late : Result) :
    Run Shared (Result ⊕ ℕ) := do
  match ← look with
  | some result => pure (.inl result)
  | none =>
      match ← remaining deadline with
      | none => pure (.inl late)
      | some left => pure (.inr (min left pollInterval))

/-- Look again and again until there is something or the deadline is over. -/
def awaitUntil (look : Run Shared (Option Result))
    (deadline : MonotonicDeadline) (late : Result) : Run Shared Result :=
  pollUntil deadline.expiresAt (awaitRound look deadline late)
    (fun _ => false) late

variable {look : Run Shared (Option Result)} {deadline : MonotonicDeadline}
variable {late : Result}

/-- A round that reads the clock and returns when the deadline is over. -/
theorem bounded_clock {record : Option ℕ → Event}
    {next : Option ℕ → Run Shared (Result ⊕ ℕ)}
    (later : ∀ left, Keeps (next left) Later)
    (returns : ∀ surroundings world pause,
      (next none surroundings world).1 ≠ .inr pause) :
    Bounded deadline.expiresAt
      (ask (fun _ world => deadline.remainingAt world.now) record >>= next)
    where
  later := .bind inferInstance (keeps_later_ask _ _) later
  early := by
    intro surroundings world pause again
    by_contra notEarly
    have past : deadline.remainingAt
        (world.now + surroundings.elapse world) = none := by
      rw [MonotonicDeadline.remainingAt_eq_ite, if_neg]
      omega
    simp only [ask, act, bind_run, past] at again
    exact returns _ _ _ again

theorem bounded_awaitRound (later : Keeps look Later) :
    Bounded deadline.expiresAt (awaitRound look deadline late) := by
  refine .bind later fun seen => ?_
  cases seen with
  | some result => exact .returns _ result
  | none =>
      refine bounded_clock (fun left => ?_) fun _ _ _ => by simp [pure_run]
      cases left <;> exact .pure inferInstance _

/-- What a wait produces: rounds that saw nothing, and a round that saw
something or came too late. -/
theorem produces_awaitUntil (later : Keeps look Later)
    {Look : Option Result → List Event → Prop} {Step : Event → Prop}
    (produces : Produces look Look)
    (steps : ∀ seen events, Look seen events → ∀ event ∈ events, Step event)
    (timed : ∀ left, Step (.cleanupRemaining left)) :
    Produces (awaitUntil look deadline late) fun result events =>
      (∀ event ∈ events, Step event) ∧
        ∃ before last, events = before ++ last ∧
          (Look (some result) last ∨
            result = late ∧ ∃ round, Look none round ∧
              last = round ++ [.cleanupRemaining none]) := by
  let Round (outcome : Result ⊕ ℕ) (events : List Event) : Prop :=
    (∀ event ∈ events, Step event) ∧
      ∀ result, outcome = .inl result →
        Look (some result) events ∨
          result = late ∧ ∃ round, Look none round ∧
            events = round ++ [.cleanupRemaining none]
  have rounds : Produces (awaitRound look deadline late) Round := by
    refine produces.bind fun seen events holds => ?_
    have stepped := steps seen events holds
    cases seen with
    | some result =>
        refine .pure ⟨by simpa using stepped, ?_⟩
        intro other equal
        cases equal
        exact .inl (by simpa using holds)
    | none =>
        refine .bind (.ask fun left => (rfl : [_] = [_])) ?_
        rintro left _ rfl
        have timedSteps : ∀ event ∈ events ++ [.cleanupRemaining left],
            Step event := by
          simp only [List.mem_append, List.mem_singleton]
          rintro event (member | rfl)
          · exact stepped event member
          · exact timed left
        cases left with
        | none =>
            refine .pure ⟨by simpa using timedSteps, ?_⟩
            intro other equal
            cases equal
            exact .inr ⟨rfl, events, holds, by simp⟩
        | some left =>
            refine .pure ⟨by simpa using timedSteps, ?_⟩
            intro other equal
            simp at equal
  refine ((bounded_awaitRound later).produces_pollUntil rounds
    (fun events => ∀ event ∈ events, Step event) (by simp) ?_).mono ?_
  · intro pause round rest holds idle
    exact List.forall_mem_append.mpr ⟨holds.1, idle⟩
  · rintro result _ ⟨idle, last, rfl, idleSteps, lastSteps, ends⟩
    exact ⟨List.forall_mem_append.mpr ⟨idleSteps, lastSteps⟩, idle, last, rfl,
      ends result rfl⟩

end Linux
end TaskCage
