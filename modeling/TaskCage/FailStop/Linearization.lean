import TaskCage.Foundation.Machine
import TaskCage.FailStop.Coordinator

/-!
# Interleavings of the fail-stop coordinator

Any number of threads share one coordinator.  Two calls keep its lock beyond a
single step: an admission holds it until it registers or is dropped, and
`commit_start` holds it while the gate closure runs.  All other calls are one
step, and only possible while nobody holds the lock.  A panic under the lock
poisons it; every later caller recovers the state as it was left.
-/

namespace TaskCage
namespace FailStop

/-- Who holds the coordinator's lock between two steps. -/
inductive Guard where
  | admission (thread : ℕ)
  | gate (thread : ℕ) (taskId : String)
deriving DecidableEq

/-- The coordinator as its threads share it. -/
structure Shared where
  coordinator : Coordinator
  guard : Option Guard
  poisoned : Bool

/-- The atomic steps of the threads.  Clock readings are arguments. -/
inductive Event where
  | tryAdmit (thread : ℕ)
  | register (thread : ℕ) (taskId : String)
  | dropAdmission (thread : ℕ) (panicking : Bool)
  | commitStart (thread : ℕ) (taskId : String)
  | gateReturns (thread : ℕ) (succeeded : Bool)
  | gatePanics (thread : ℕ)
  | activate (report : CleanupFailureReport) (now : ℕ)
  | complete (taskId : String)
  | dropActive (taskId : String) (now : ℕ)
  | observe
deriving DecidableEq

/-- What a step shows to its thread. -/
inductive Outcome where
  | admitted
  | refused
  | registered (registration : ℕ)
  | duplicate
  | gateEntered (registration : ℕ)
  | rejected (error : StartCommitError)
  | activated (deadline : MonotonicDeadline)
  | observed (deadline : Option MonotonicDeadline)
  | done
deriving DecidableEq

namespace Outcome

/-- The outcomes that let an execution proceed. -/
def Opens : Outcome → Prop
  | admitted => True
  | registered _ => True
  | gateEntered _ => True
  | _ => False

/-- The registration whose gate closure began to run. -/
def gateRun : Outcome → Option ℕ
  | gateEntered registration => some registration
  | _ => none

theorem gateRun_of_not_opens
    {outcome : Outcome} (closed : ¬ outcome.Opens) :
    outcome.gateRun = none := by
  cases outcome <;> first | rfl | exact absurd trivial closed

end Outcome

namespace Event

/-- The report and clock reading of a step that activates the fail-stop; the
drop of an unresolved execution activates it as well. -/
def activation : Event → Option (CleanupFailureReport × ℕ)
  | activate report now => some (report, now)
  | dropActive taskId now => some (Coordinator.droppedReport taskId, now)
  | _ => none

end Event

namespace Shared

/-- A fresh coordinator. -/
def new (settings : FailStopSettings) : Shared :=
  ⟨.new settings, none, false⟩

/-- Take the lock for one step. -/
def locked (shared : Shared)
    (section_ : Coordinator → Outcome × Coordinator) :
    Option (Outcome × Shared) :=
  match shared.guard with
  | some _ => none
  | none =>
      let (outcome, coordinator) := section_ shared.coordinator
      some (outcome, { shared with coordinator })

/-- One atomic step. -/
def step (shared : Shared) : Event → Option (Outcome × Shared)
  | .tryAdmit thread =>
      match shared.guard, shared.coordinator.phase with
      | some _, _ => none
      | none, .healthy =>
          some (.admitted, { shared with guard := some (.admission thread) })
      | none, .failStopping _ _ => some (.refused, shared)
  | .register thread taskId =>
      if shared.guard = some (.admission thread) then
        let (registration, coordinator) := shared.coordinator.register taskId
        some (registration.elim .duplicate .registered,
          { shared with coordinator, guard := none })
      else
        none
  | .dropAdmission thread panicking =>
      if shared.guard = some (.admission thread) then
        some (.done,
          { shared with
            guard := none
            poisoned := shared.poisoned || panicking })
      else
        none
  | .commitStart thread taskId =>
      match shared.guard with
      | some _ => none
      | none =>
          match shared.coordinator.beginCommit taskId with
          | (.error error, coordinator) =>
              some (.rejected error, { shared with coordinator })
          | (.ok entry, coordinator) =>
              some (.gateEntered entry.registration,
                { shared with
                  coordinator
                  guard := some (.gate thread taskId) })
  | .gateReturns thread succeeded =>
      match shared.guard with
      | some (.gate holder taskId) =>
          if holder = thread then
            some (.done,
              { shared with
                coordinator := shared.coordinator.endCommit taskId succeeded
                guard := none })
          else
            none
      | _ => none
  | .gatePanics thread =>
      match shared.guard with
      | some (.gate holder _) =>
          if holder = thread then
            some (.done, { shared with guard := none, poisoned := true })
          else
            none
      | _ => none
  | .activate report now =>
      shared.locked fun coordinator =>
        (coordinator.activate now report).map .activated id
  | .complete taskId =>
      shared.locked fun coordinator => (.done, (coordinator.complete taskId).2)
  | .dropActive taskId now =>
      shared.locked fun coordinator =>
        (coordinator.activate now (Coordinator.droppedReport taskId)).map
          .activated id
  | .observe =>
      shared.locked fun coordinator =>
        (.observed coordinator.deadline, coordinator)

/-- The coordinator with all its threads. -/
def machine : Machine Shared Event Outcome :=
  ⟨step⟩

/-- What a step can do to the shared state, by the way it uses the lock. -/
inductive Change (shared : Shared) : Event → Outcome → Shared → Prop where
  | admission (thread : ℕ) (free : shared.guard = none)
      (healthy : shared.coordinator.phase = .healthy) :
      Change shared (.tryAdmit thread) .admitted
        { shared with guard := some (.admission thread) }
  | unchanged (event : Event) (outcome : Outcome) (free : shared.guard = none)
      (passive : event.activation = none) (closed : ¬ outcome.Opens)
      (silent : ∀ deadline, outcome ≠ .activated deadline) :
      Change shared event outcome shared
  | register (thread : ℕ) (taskId : String)
      (admitted : shared.guard = some (.admission thread))
      (fresh : shared.coordinator.active.lookup taskId = none) :
      Change shared (.register thread taskId)
        (.registered shared.coordinator.registrations)
        { shared with
          coordinator := (shared.coordinator.register taskId).2
          guard := none }
  | release (event : Event) (outcome : Outcome) (poisoned : Bool)
      (passive : event.activation = none) (closed : ¬ outcome.Opens)
      (silent : ∀ deadline, outcome ≠ .activated deadline) :
      Change shared event outcome { shared with guard := none, poisoned }
  | enter (thread : ℕ) (taskId : String) (entry : ActiveEntry)
      (free : shared.guard = none)
      (healthy : shared.coordinator.phase = .healthy)
      (found : shared.coordinator.active.lookup taskId = some entry)
      (pending : entry.start = .pending) :
      Change shared (.commitStart thread taskId)
        (.gateEntered entry.registration)
        { shared with
          coordinator :=
            { shared.coordinator with
              active := shared.coordinator.active.insert taskId
                { entry with start := .committing } }
          guard := some (.gate thread taskId) }
  | resolve (thread : ℕ) (taskId : String) (succeeded : Bool) :
      Change shared (.gateReturns thread succeeded) .done
        { shared with
          coordinator := shared.coordinator.endCommit taskId succeeded
          guard := none }
  | activate (event : Event) (report : CleanupFailureReport) (now : ℕ)
      (active : event.activation = some (report, now))
      (free : shared.guard = none) :
      Change shared event
        (.activated (shared.coordinator.activate now report).1)
        { shared with
          coordinator := (shared.coordinator.activate now report).2 }
  | complete (taskId : String) (free : shared.guard = none) :
      Change shared (.complete taskId) .done
        { shared with
          coordinator := (shared.coordinator.complete taskId).2 }

variable {next shared final : Shared} {outcome : Outcome} {event : Event}
variable {events : List Event} {outcomes : List Outcome}

theorem locked_eq_some_iff {section_ : Coordinator → Outcome × Coordinator} :
    shared.locked section_ = some (outcome, next) ↔
      shared.guard = none ∧ (section_ shared.coordinator).1 = outcome ∧
        next = { shared with
          coordinator := (section_ shared.coordinator).2 } := by
  unfold locked
  split
  · simp_all
  · simp_all [eq_comm]

/-- Every step makes one of these changes. -/
theorem change_of_step (stepped : shared.step event = some (outcome, next)) :
    Change shared event outcome next := by
  cases event with
  | tryAdmit thread =>
      simp only [step] at stepped
      split at stepped
      · simp at stepped
      · rename_i free healthy
        cases stepped
        exact .admission thread free healthy
      · rename_i free failStopping
        cases stepped
        exact .unchanged _ _ free rfl (by simp [Outcome.Opens]) (by simp)
  | register thread taskId =>
      simp only [step] at stepped
      split at stepped
      · rename_i admitted
        unfold Coordinator.register at stepped
        split at stepped
        · cases stepped
          exact .release _ _ _ rfl (by simp [Outcome.Opens]) (by simp)
        · rename_i fresh
          cases stepped
          have unregistered : shared.coordinator.active.lookup taskId = none :=
            Finmap.lookup_eq_none.mpr fresh
          have change := Change.register thread taskId admitted unregistered
          rwa [Coordinator.register, if_neg fresh] at change
      · simp at stepped
  | dropAdmission thread panicking =>
      simp only [step] at stepped
      split at stepped
      · cases stepped
        exact .release _ _ _ rfl (by simp [Outcome.Opens]) (by simp)
      · simp at stepped
  | commitStart thread taskId =>
      simp only [step] at stepped
      split at stepped
      · simp at stepped
      · rename_i free
        unfold Coordinator.beginCommit at stepped
        split at stepped
        · rename_i error coordinator rejected
          cases stepped
          have same : coordinator = shared.coordinator := by
            split at rejected
            · cases rejected; rfl
            · split at rejected
              · cases rejected; rfl
              · split at rejected
                · cases rejected
                · cases rejected; rfl
          subst same
          exact .unchanged _ _ free rfl (by simp [Outcome.Opens]) (by simp)
        · rename_i entry coordinator accepted
          cases stepped
          split at accepted
          · cases accepted
          · rename_i healthy
            split at accepted
            · cases accepted
            · rename_i found
              split at accepted
              · rename_i pending
                cases accepted
                exact .enter thread taskId entry free healthy found pending
              · cases accepted
  | gateReturns thread succeeded =>
      simp only [step] at stepped
      split at stepped
      · split at stepped
        · cases stepped
          exact .resolve thread _ succeeded
        · simp at stepped
      · simp at stepped
  | gatePanics thread =>
      simp only [step] at stepped
      split at stepped
      · split at stepped
        · cases stepped
          exact .release _ _ _ rfl (by simp [Outcome.Opens]) (by simp)
        · simp at stepped
      · simp at stepped
  | activate report now =>
      simp only [step, locked_eq_some_iff] at stepped
      obtain ⟨free, rfl, rfl⟩ := stepped
      exact .activate _ report now rfl free
  | complete taskId =>
      simp only [step, locked_eq_some_iff] at stepped
      obtain ⟨free, rfl, rfl⟩ := stepped
      exact .complete taskId free
  | dropActive taskId now =>
      simp only [step, locked_eq_some_iff] at stepped
      obtain ⟨free, rfl, rfl⟩ := stepped
      exact .activate _ _ now rfl free
  | observe =>
      simp only [step, locked_eq_some_iff] at stepped
      obtain ⟨free, rfl, rfl⟩ := stepped
      exact .unchanged _ _ free rfl (by simp [Outcome.Opens]) (by simp)

/-! ## The phase -/

/-- The phase that a first activation, if any, leads to. -/
def phaseAfter (settings : FailStopSettings) :
    Option (CleanupFailureReport × ℕ) → Phase
  | none => .healthy
  | some (report, now) =>
      .failStopping (Coordinator.activationDeadline settings now) report

/-- What a step of an event does to the phase: only the activation of a healthy
coordinator changes it. -/
structure PhaseStep (event : Event) (before after : Coordinator) : Prop where
  settings_eq : after.settings = before.settings
  phase_eq : after.phase =
    match before.phase with
    | .healthy => phaseAfter before.settings event.activation
    | stopping => stopping

theorem PhaseStep.of_passive {before after : Coordinator}
    (passive : event.activation = none)
    (settings_eq : after.settings = before.settings)
    (phase_eq : after.phase = before.phase) :
    PhaseStep event before after := by
  refine ⟨settings_eq, ?_⟩
  rw [phase_eq, passive]
  cases before.phase <;> rfl

theorem Change.phaseStep (change : Change shared event outcome next) :
    PhaseStep event shared.coordinator next.coordinator := by
  cases change with
  | activate event report now active free =>
      constructor
      all_goals
        unfold Coordinator.activate
        cases phase : shared.coordinator.phase
      all_goals simp [active, phaseAfter, phase]
  | admission thread free healthy => exact .of_passive rfl rfl rfl
  | unchanged event outcome free passive closed silent =>
      exact .of_passive passive rfl rfl
  | release event outcome poisoned passive closed silent =>
      exact .of_passive passive rfl rfl
  | register thread taskId admitted fresh =>
      refine .of_passive rfl ?_ (Coordinator.phase_register taskId)
      unfold Coordinator.register
      split <;> rfl
  | enter thread taskId entry free healthy found pending =>
      exact .of_passive rfl rfl rfl
  | resolve thread taskId succeeded =>
      refine .of_passive rfl ?_ (Coordinator.phase_endCommit taskId succeeded)
      unfold Coordinator.endCommit
      split <;> rfl
  | complete taskId free => exact .of_passive rfl rfl rfl

/-- The phase after a run is that of its first activation. -/
theorem phase_of_run (ran : machine.run shared events = some (outcomes, final)) :
    final.coordinator.phase =
      match shared.coordinator.phase with
      | .healthy => phaseAfter shared.coordinator.settings
          (events.filterMap Event.activation).head?
      | stopping => stopping := by
  induction events generalizing shared outcomes with
  | nil =>
      cases ran
      cases final.coordinator.phase <;> rfl
  | cons event events inductionHypothesis =>
      obtain ⟨outcome, next, rest, stepped, restRan, -⟩ :=
        Machine.run_cons_eq_some_iff.mp ran
      have phaseStep := (change_of_step stepped).phaseStep
      rw [inductionHypothesis restRan, phaseStep.phase_eq,
        phaseStep.settings_eq]
      cases shared.coordinator.phase with
      | failStopping deadline report => rfl
      | healthy => cases active : event.activation <;> simp [phaseAfter, active]

/-! ## Gates and admissions -/

/-- What holds between two steps after the gates of `gatesRun` have run. -/
structure Consistent (gatesRun : List ℕ) (shared : Shared) : Prop where
  /-- The lock is only kept between steps by a healthy coordinator. -/
  guarded : shared.guard ≠ none → shared.coordinator.phase = .healthy
  gates_once : gatesRun.Nodup
  gates_registered : ∀ registration ∈ gatesRun,
    registration < shared.coordinator.registrations
  entries_registered : ∀ taskId entry,
    shared.coordinator.active.lookup taskId = some entry →
    entry.registration < shared.coordinator.registrations
  entries_distinct : ∀ first firstEntry second secondEntry,
    shared.coordinator.active.lookup first = some firstEntry →
    shared.coordinator.active.lookup second = some secondEntry →
    firstEntry.registration = secondEntry.registration → first = second
  /-- A pending start has not run its gate. -/
  pending_unrun : ∀ taskId entry,
    shared.coordinator.active.lookup taskId = some entry →
    entry.start = .pending → entry.registration ∉ gatesRun

namespace Consistent

variable {gatesRun : List ℕ}

theorem new (settings : FailStopSettings) :
    Consistent [] (Shared.new settings) := by
  constructor <;> simp [Shared.new, Coordinator.new]

/-- An execution proceeds only while the coordinator is healthy. -/
theorem healthy_of_opens
    (consistent : Consistent gatesRun shared)
    {event : Event} {outcome : Outcome} {next : Shared}
    (change : Change shared event outcome next) (opens : outcome.Opens) :
    shared.coordinator.phase = .healthy := by
  cases change with
  | admission thread free healthy => exact healthy
  | register thread taskId admitted fresh =>
      exact consistent.guarded (by simp [admitted])
  | enter thread taskId entry free healthy found pending => exact healthy
  | unchanged event outcome free passive closed silent =>
      exact absurd opens closed
  | release event outcome poisoned passive closed silent =>
      exact absurd opens closed
  | resolve | activate | complete => exact absurd opens (by simp [Outcome.Opens])

/-- Changing the start of an entry without making it pending keeps the
entries consistent. -/
theorem setStart
    (consistent : Consistent gatesRun shared)
    {taskId : String} {entry : ActiveEntry}
    (found : shared.coordinator.active.lookup taskId = some entry)
    (start : StartState) (resolved : start ≠ .pending)
    (guard : Option Guard)
    (guarded : guard ≠ none → shared.coordinator.phase = .healthy) :
    Consistent gatesRun
      { shared with
        coordinator :=
          { shared.coordinator with
            active := shared.coordinator.active.insert taskId
              { entry with start } }
        guard } where
  guarded := guarded
  gates_once := consistent.gates_once
  gates_registered := consistent.gates_registered
  entries_registered := by
    intro other otherEntry lookup
    rcases Table.lookup_insert_eq_some_iff.mp lookup with
      ⟨rfl, rfl⟩ | ⟨-, old⟩
    · exact consistent.entries_registered _ entry found
    · exact consistent.entries_registered _ _ old
  entries_distinct := by
    intro first firstEntry second secondEntry firstLookup secondLookup equal
    rcases Table.lookup_insert_eq_some_iff.mp firstLookup with
      ⟨rfl, rfl⟩ | ⟨-, firstOld⟩ <;>
    rcases Table.lookup_insert_eq_some_iff.mp secondLookup with
      ⟨rfl, rfl⟩ | ⟨-, secondOld⟩
    · rfl
    · exact consistent.entries_distinct _ entry _ _ found secondOld equal
    · exact consistent.entries_distinct _ _ _ entry firstOld found equal
    · exact consistent.entries_distinct _ _ _ _ firstOld secondOld equal
  pending_unrun := by
    intro other otherEntry lookup pending
    rcases Table.lookup_insert_eq_some_iff.mp lookup with
      ⟨rfl, rfl⟩ | ⟨-, old⟩
    · exact absurd pending resolved
    · exact consistent.pending_unrun _ _ old pending

/-- Every step keeps the shared state consistent. -/
theorem change
    (consistent : Consistent gatesRun shared)
    {event : Event} {outcome : Outcome} {next : Shared}
    (change : Change shared event outcome next) :
    Consistent (gatesRun ++ outcome.gateRun.toList) next := by
  have quiet : ∀ {outcome : Outcome}, outcome.gateRun = none →
      gatesRun ++ outcome.gateRun.toList = gatesRun := by
    intro outcome none
    simp [none]
  cases change with
  | admission thread free healthy =>
      rw [quiet rfl]
      exact { consistent with guarded := fun _ => healthy }
  | unchanged event outcome free passive closed silent =>
      rw [quiet (Outcome.gateRun_of_not_opens closed)]
      exact consistent
  | release event outcome poisoned passive closed silent =>
      rw [quiet (Outcome.gateRun_of_not_opens closed)]
      exact { consistent with guarded := by simp }
  | register thread taskId admitted fresh =>
      rw [quiet rfl]
      unfold Coordinator.register
      rw [if_neg (Finmap.lookup_eq_none.mp fresh)]
      refine ⟨by simp, consistent.gates_once, ?_, ?_, ?_, ?_⟩
      · intro registration member
        exact (consistent.gates_registered _ member).trans (Nat.lt_succ_self _)
      · intro other entry lookup
        rcases Table.lookup_insert_eq_some_iff.mp lookup with
          ⟨-, rfl⟩ | ⟨-, old⟩
        · exact Nat.lt_succ_self _
        · exact (consistent.entries_registered _ _ old).trans
            (Nat.lt_succ_self _)
      · intro first firstEntry second secondEntry firstLookup secondLookup equal
        rcases Table.lookup_insert_eq_some_iff.mp firstLookup with
          ⟨rfl, rfl⟩ | ⟨-, firstOld⟩ <;>
        rcases Table.lookup_insert_eq_some_iff.mp secondLookup with
          ⟨rfl, rfl⟩ | ⟨-, secondOld⟩
        · rfl
        · exact absurd equal (consistent.entries_registered _ _ secondOld).ne'
        · exact absurd equal (consistent.entries_registered _ _ firstOld).ne
        · exact consistent.entries_distinct _ _ _ _ firstOld secondOld equal
      · intro other entry lookup pending
        rcases Table.lookup_insert_eq_some_iff.mp lookup with
          ⟨-, rfl⟩ | ⟨-, old⟩
        · intro member
          exact (consistent.gates_registered _ member).ne rfl
        · exact consistent.pending_unrun _ _ old pending
  | enter thread taskId entry free healthy found pending =>
      have started := consistent.setStart found .committing (by simp)
        (some (.gate thread taskId)) fun _ => healthy
      have unrun := consistent.pending_unrun _ _ found pending
      have registered := consistent.entries_registered _ _ found
      refine { started with gates_once := ?_, gates_registered := ?_, pending_unrun := ?_ }
      · rw [Outcome.gateRun, Option.toList_some, List.nodup_append]
        refine ⟨consistent.gates_once, List.nodup_singleton _, ?_⟩
        intro registration member last lastMember equal
        rw [List.mem_singleton] at lastMember
        rw [equal, lastMember] at member
        exact unrun member
      · intro registration member
        rcases List.mem_append.mp member with old | new
        · exact consistent.gates_registered _ old
        · simp only [Outcome.gateRun, Option.toList_some,
            List.mem_singleton] at new
          rwa [new]
      · intro other otherEntry lookup otherPending member
        rcases List.mem_append.mp member with old | new
        · exact started.pending_unrun _ _ lookup otherPending old
        · simp only [Outcome.gateRun, Option.toList_some,
            List.mem_singleton] at new
          rcases Table.lookup_insert_eq_some_iff.mp lookup with
            ⟨-, rfl⟩ | ⟨different, old⟩
          · simp at otherPending
          · exact different (consistent.entries_distinct _ _ _ _ old found new)
  | resolve thread taskId succeeded =>
      rw [quiet rfl]
      unfold Coordinator.endCommit
      split
      · exact { consistent with guarded := by simp }
      · rename_i entry found
        exact consistent.setStart found _ (by cases succeeded <;> simp) _
          (by simp)
  | activate event report now active free =>
      rw [quiet rfl]
      unfold Coordinator.activate
      split
      · exact consistent
      · exact { consistent with guarded := by simp [free] }
  | complete taskId free =>
      rw [quiet rfl]
      refine ⟨by simp [free], consistent.gates_once,
        consistent.gates_registered, ?_, ?_, ?_⟩
      · intro other entry lookup
        exact consistent.entries_registered _ _
          (Table.lookup_erase_eq_some_iff.mp lookup).2
      · intro first firstEntry second secondEntry firstLookup secondLookup
        exact consistent.entries_distinct _ _ _ _
          (Table.lookup_erase_eq_some_iff.mp firstLookup).2
          (Table.lookup_erase_eq_some_iff.mp secondLookup).2
      · intro other entry lookup
        exact consistent.pending_unrun _ _
          (Table.lookup_erase_eq_some_iff.mp lookup).2

/-- Every run keeps the shared state consistent, with the gates it ran. -/
theorem run
    (consistent : Consistent gatesRun shared)
    {events : List Event} {outcomes : List Outcome} {final : Shared}
    (ran : machine.run shared events = some (outcomes, final)) :
    Consistent (gatesRun ++ outcomes.filterMap Outcome.gateRun) final := by
  induction events generalizing shared gatesRun outcomes with
  | nil =>
      cases ran
      simpa using consistent
  | cons event events inductionHypothesis =>
      obtain ⟨outcome, next, rest, stepped, restRan, rfl⟩ :=
        Machine.run_cons_eq_some_iff.mp ran
      have final := inductionHypothesis
        (consistent.change (change_of_step stepped)) restRan
      rw [List.append_assoc] at final
      cases gate : outcome.gateRun <;> simpa [gate] using final

end Consistent

variable {deadline : MonotonicDeadline}

/-- An activation returns the deadline that is in force afterwards. -/
theorem Change.deadline_of_activated
    (change : Change shared event (.activated deadline) next) :
    next.coordinator.deadline = some deadline := by
  cases change with
  | unchanged event outcome free passive closed silent =>
      exact absurd rfl (silent deadline)
  | release event outcome poisoned passive closed silent =>
      exact absurd rfl (silent deadline)
  | activate event report now active free =>
      unfold Coordinator.activate Coordinator.deadline
      cases phase : shared.coordinator.phase <;> simp [phase]

/-- A run never changes the deadline. -/
theorem deadline_of_run
    (ran : machine.run shared events = some (outcomes, final))
    (stopping : shared.coordinator.deadline = some deadline) :
    final.coordinator.phase = shared.coordinator.phase ∧
      final.coordinator.deadline = some deadline := by
  have phaseEq : final.coordinator.phase = shared.coordinator.phase := by
    rw [phase_of_run ran]
    unfold Coordinator.deadline at stopping
    cases phase : shared.coordinator.phase <;> simp_all
  refine ⟨phaseEq, ?_⟩
  rw [← stopping, Coordinator.deadline, Coordinator.deadline, phaseEq]

/-- In a run of a fail-stopping coordinator nothing proceeds. -/
theorem closed_of_run {gatesRun : List ℕ}
    (consistent : Consistent gatesRun shared)
    (ran : machine.run shared events = some (outcomes, final))
    (stopping : shared.coordinator.phase ≠ .healthy) :
    ∀ outcome ∈ outcomes, ¬ outcome.Opens := by
  let Stopped (state : Shared) : Prop :=
    (∃ gates, Consistent gates state) ∧ state.coordinator.phase ≠ .healthy
  have stopped : Stopped shared := ⟨⟨gatesRun, consistent⟩, stopping⟩
  refine Machine.outcomes_of_run ?_ stopped ran
  rintro state event outcome next ⟨⟨gates, good⟩, stopped⟩ stepped
  have change := change_of_step stepped
  refine ⟨⟨⟨_, good.change change⟩, ?_⟩, ?_⟩
  · rw [change.phaseStep.phase_eq]
    cases phase : state.coordinator.phase <;> simp_all
  · exact fun opens => stopped (good.healthy_of_opens change opens)

end Shared

/-- Linearization of the fail-stop, over every interleaving of the calls on one
coordinator.  Once an activation has returned, no admission succeeds and no
gate begins.  The phase is the one that the first activation set, so it never
becomes healthy again and keeps its deadline and first report, which is also
the deadline that every activation returns.  No registration's gate runs
twice, whether it succeeded, failed or panicked. -/
theorem fail_stop_linearization
    (settings : FailStopSettings) (events : List Event)
    (outcomes : List Outcome) (final : Shared)
    (ran : Shared.machine.run (.new settings) events = some (outcomes, final)) :
    (∀ before deadline after,
      outcomes = before ++ .activated deadline :: after →
      (∀ outcome ∈ after, ¬ outcome.Opens) ∧
      final.coordinator.deadline = some deadline) ∧
    final.coordinator.phase = Shared.phaseAfter settings
      (events.filterMap Event.activation).head? ∧
    (∀ earlier later earlierOutcomes middle,
      events = earlier ++ later →
      Shared.machine.run (.new settings) earlier =
        some (earlierOutcomes, middle) →
      middle.coordinator.phase ≠ .healthy →
      final.coordinator.phase = middle.coordinator.phase) ∧
    (outcomes.filterMap Outcome.gateRun).Nodup := by
  refine ⟨?_, Shared.phase_of_run ran, ?_, ?_⟩
  · rintro before deadline after rfl
    obtain ⟨beforeEvents, middle, restEvents, rfl, beforeRan, restRan⟩ :=
      Machine.run_outcomes_append ran
    have consistent := (Shared.Consistent.new settings).run beforeRan
    cases restEvents with
    | nil => simp at restRan
    | cons event laterEvents =>
        obtain ⟨outcome, next, rest, stepped, laterRan, equal⟩ :=
          Machine.run_cons_eq_some_iff.mp restRan
        rw [List.cons.injEq] at equal
        obtain ⟨rfl, rfl⟩ := equal
        have change := Shared.change_of_step stepped
        have inForce := change.deadline_of_activated
        refine ⟨?_, (Shared.deadline_of_run laterRan inForce).2⟩
        refine Shared.closed_of_run (consistent.change change) laterRan ?_
        intro healthy
        simp [Coordinator.deadline, healthy] at inForce
  · rintro earlier later earlierOutcomes middle rfl earlierRan stopping
    obtain ⟨firstOutcomes, between, laterOutcomes, firstRan, laterRan, -⟩ :=
      Machine.run_append_eq_some_iff.mp ran
    rw [earlierRan] at firstRan
    cases firstRan
    rw [Shared.phase_of_run laterRan]
    cases phase : middle.coordinator.phase with
    | healthy => exact absurd phase stopping
    | failStopping deadline report => rfl
  · have consistent := (Shared.Consistent.new settings).run ran
    exact consistent.gates_once

/-- A gate panics, its start is tried again, and the fail-stop is activated. -/
def panickingGateEvents : List Event :=
  [.tryAdmit 0, .register 0 "task", .commitStart 0 "task", .gatePanics 0,
    .commitStart 1 "task", .activate (Coordinator.droppedReport "task") 5,
    .tryAdmit 2, .commitStart 1 "task"]

/-- The gate of the panicking start ran once, and nothing proceeded after the
activation. -/
theorem linearization_of_panickingGateEvents :
    ∃ outcomes final,
      Shared.machine.run (.new ⟨10, by decide⟩) panickingGateEvents =
        some (outcomes, final) ∧
      final.poisoned = true ∧
      (outcomes.filterMap Outcome.gateRun).Nodup ∧
      final.coordinator.deadline = some ⟨15, 10⟩ := by
  refine ⟨_, _, rfl, rfl, ?_, ?_⟩
  · exact (fail_stop_linearization ⟨10, by decide⟩ panickingGateEvents _ _
      rfl).2.2.2
  · let before : List Outcome :=
      [.admitted, .registered 0, .gateEntered 0, .done,
        .rejected (.alreadyResolved "task" "committing")]
    exact ((fail_stop_linearization ⟨10, by decide⟩ panickingGateEvents _ _
      rfl).1 before ⟨15, 10⟩ _ rfl).2

end FailStop
end TaskCage
