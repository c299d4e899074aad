import TaskCage.Linux.Evidence

/-!
# What the cleanup of a job cgroup produces

Each operation on a job cgroup, with the events it produces.  A job is finished
only after it was seen empty and then removed, and the last two steps say so;
a job that could not be finished has a step that failed.
-/

namespace TaskCage
namespace Linux

open Process

variable {Shared : Type}

/-- The job directories that are left after a step. -/
def Event.leftAfter (left : List String) : Event → List String
  | jobCreated path (.ok ()) => path :: left
  | jobRemoved path (.ok ()) => left.filter (· ≠ path)
  | _ => left

/-- The job directories that steps have created and not removed. -/
def leftBehind (events : List Event) : List String :=
  events.foldl Event.leftAfter []

/-- Looking for a job leaves nothing. -/
theorem leftBehind_of_lookups {events : List Event}
    (lookups : ∀ event ∈ events, ∃ path answer,
      event = .jobLookedUp path answer) :
    leftBehind events = [] := by
  unfold leftBehind
  induction events with
  | nil => rfl
  | cons event events inductionHypothesis =>
      obtain ⟨path, answer, rfl⟩ := lookups event List.mem_cons_self
      rw [List.foldl_cons]
      exact inductionHypothesis fun other member =>
        lookups other (List.mem_cons_of_mem _ member)

namespace JobCgroup

variable (job : JobCgroup) (deadline : MonotonicDeadline)

/-- What finishing a job produces. -/
structure Finished (after : JobCgroup)
    (result : Except CgroupError JobStats) (events : List Event) : Prop where
  path_eq : after.path = job.path
  steps : ∀ event ∈ events, event.IsJobStep job.path
  cleaned : ∀ stats, result = .ok stats → after.cleaned = true
  emptied : ∀ stats, result = .ok stats → Emptied job.path events
  clean : ∀ stats, result = .ok stats → EndsClean job.path events
  failing : ∀ error, result = .error error → Failing events
  unclean : ∀ error, result = .error error → Unclean job.path events

variable {job} {events before : List Event}

theorem Finished.of_error {error : CgroupError}
    (steps : ∀ event ∈ events, event.IsJobStep job.path)
    (failing : Failing events) (unclean : Unclean job.path events) :
    job.Finished job (.error error) events where
  path_eq := rfl
  steps := steps
  cleaned := by simp
  emptied := by simp
  clean := by simp
  failing _ _ := failing
  unclean _ _ := unclean

theorem Finished.append_left {after : JobCgroup}
    {result : Except CgroupError JobStats}
    (finished : job.Finished after result events)
    (steps : ∀ event ∈ before, event.IsJobStep job.path) :
    job.Finished after result (before ++ events) where
  path_eq := finished.path_eq
  steps := List.forall_mem_append.mpr ⟨steps, finished.steps⟩
  cleaned := finished.cleaned
  emptied stats ok := (finished.emptied stats ok).append_left
  clean stats ok := (finished.clean stats ok).append_left
  failing error failed := (finished.failing error failed).append_left
  unclean error failed := (finished.unclean error failed).append_left

variable (job)

/-- Waiting for a job to become empty. -/
theorem produces_waitEmptyUntil :
    Produces (job.waitEmptyUntil deadline : Run Shared _) fun result events =>
      (∀ event ∈ events, event.IsJobStep job.path) ∧
        (result = .ok () → .jobObserved job.path (.ok false) ∈ events) ∧
        ∀ error, result = .error error →
          Failing events ∧ Unclean job.path events := by
  let Look (seen : Option (Except CgroupError Unit))
      (events : List Event) : Prop :=
    ∃ answer, events = [.jobObserved job.path answer] ∧
      (seen = some (.ok ()) → answer = .ok false) ∧
      ∀ error, seen = some (.error error) → answer = .error error
  have look : Produces (job.lookEmpty : Run Shared _) Look := by
    refine .ask_map fun answer => ⟨answer, rfl, ?_⟩
    rcases answer with error | (_ | _) <;> simp
  have steps : ∀ seen events, Look seen events →
      ∀ event ∈ events, event.IsJobStep job.path := by
    rintro seen _ ⟨answer, rfl, -⟩ event member
    rw [List.mem_singleton.mp member]
    exact rfl
  refine (produces_awaitUntil ((keeps_later_ask _ _).later_map _) look steps
    fun _ => trivial).mono ?_
  rintro result _ ⟨allSteps, before, last, rfl, seen | late⟩
  · obtain ⟨answer, rfl, empty, broken⟩ := seen
    refine ⟨allSteps, ?_, ?_⟩
    · rintro rfl
      simp [empty rfl]
    · rintro error rfl
      obtain rfl := broken error rfl
      exact ⟨failing_last _ trivial, unclean_of_last _ (by simp)⟩
  · obtain ⟨rfl, round, -, rfl⟩ := late
    have failing : Failing (round ++ [.cleanupRemaining none]) :=
      failing_last _ trivial
    exact ⟨allSteps, by simp, fun error _ =>
      ⟨failing.append_left, (unclean_of_last _ (by simp)).append_left⟩⟩

/-- The last two steps of finishing a job that was seen empty. -/
theorem finished_of_removal
    (steps : ∀ event ∈ before, event.IsJobStep job.path)
    (empty : .jobObserved job.path (.ok false) ∈ before)
    (answer : Except CgroupError JobReadings) (removal : Except IoError Unit) :
    job.Finished { job with cleaned := job.cleaned || removal.isOk }
      (job.finishResult (answer.map job.statsOf) removal)
      (before ++ [.statsRead job.path answer, .jobRemoved job.path removal]) where
  path_eq := rfl
  steps := List.forall_mem_append.mpr ⟨steps, by simp [Event.IsJobStep]⟩
  cleaned := by
    cases answer <;> cases removal <;>
      simp [finishResult, Except.map, Except.isOk, Except.toBool]
  emptied := by
    rcases answer with _ | readings <;> rcases removal with _ | _ <;>
      simp only [finishResult, Except.map, reduceCtorEq, false_implies,
        implies_true]
    rintro stats -
    exact (List.singleton_sublist.mpr empty).append (List.sublist_cons_self _ _)
  clean := by
    rcases answer with _ | readings <;> rcases removal with _ | _ <;>
      simp only [finishResult, Except.map, reduceCtorEq, false_implies,
        implies_true]
    exact fun _ _ => ⟨before, readings, rfl⟩
  failing := by
    intro error failed
    cases removal with
    | error cleanup =>
        rw [List.append_cons]
        exact failing_last _ trivial
    | ok _ =>
        cases answer with
        | error primary =>
            exact ⟨.statsRead job.path (.error primary), by simp, trivial⟩
        | ok readings => simp [finishResult, Except.map] at failed
  unclean := by
    intro error failed
    cases removal with
    | error cleanup =>
        rw [List.append_cons]
        exact unclean_of_last _ (by simp)
    | ok _ =>
        cases answer with
        | error primary => exact unclean_of_last_two _ (by simp)
        | ok readings => simp [finishResult, Except.map] at failed

/-- Finishing a job that was killed. -/
theorem produces_finishAfterKillUntil :
    Produces (job.finishAfterKillUntil deadline : Run Shared _)
      fun outcome events => job.Finished outcome.2 outcome.1 events := by
  refine (job.produces_waitEmptyUntil deadline).bind ?_
  rintro (error | _) waitEvents ⟨waitSteps, empty, broken⟩
  · obtain ⟨failing, unclean⟩ := broken error rfl
    refine .pure ?_
    rw [List.append_nil]
    exact .of_error waitSteps failing unclean
  · refine .bind (.ask fun left => (rfl : [_] = [_])) ?_
    rintro left _ rfl
    have timedSteps : ∀ event ∈ waitEvents ++ [.cleanupRemaining left],
        event.IsJobStep job.path :=
      List.forall_mem_append.mpr ⟨waitSteps, by simp [Event.IsJobStep]⟩
    cases left with
    | none =>
        refine .pure ?_
        rw [List.append_nil]
        exact .of_error timedSteps (failing_last _ trivial)
          (unclean_of_last _ (by simp))
    | some left =>
        have stats : Produces (job.stats : Run Shared _) fun stats events =>
            ∃ answer, events = [.statsRead job.path answer] ∧
              stats = answer.map job.statsOf :=
          .ask_map fun answer => ⟨answer, rfl, rfl⟩
        refine stats.bind ?_
        rintro _ _ ⟨answer, rfl, rfl⟩
        refine .bind (.ask fun removal => (rfl : [_] = [_])) ?_
        rintro removal _ rfl
        refine .pure ?_
        have timed : .jobObserved job.path (.ok false) ∈
            waitEvents ++ [.cleanupRemaining (some left)] :=
          List.mem_append_left _ (empty rfl)
        simpa using job.finished_of_removal timedSteps timed answer removal

/-- Finishing a job. -/
theorem produces_finishUntil :
    Produces (job.finishUntil deadline : Run Shared _)
      fun outcome events => job.Finished outcome.2 outcome.1 events := by
  refine .bind (.ask fun populated => (rfl : [_] = [_])) ?_
  rintro populated _ rfl
  have observed : ∀ event ∈ [Event.jobObserved job.path populated],
      event.IsJobStep job.path := by
    simp [Event.IsJobStep]
  rcases populated with error | (_ | _)
  · refine .pure (.of_error observed ?_ ?_)
    · exact failing_last [] trivial
    · exact unclean_of_last [] (by simp)
  · exact (job.produces_finishAfterKillUntil deadline).mono
      fun _ _ finished => finished.append_left observed
  · refine .bind (.ask fun killed => (rfl : [_] = [_])) ?_
    rintro killed _ rfl
    have sent : ∀ event ∈ [Event.jobKilled job.path killed],
        event.IsJobStep job.path := by
      simp [Event.IsJobStep]
    rcases killed with error | _
    · refine .pure (.of_error ?_ (failing_last _ trivial)
        (unclean_of_last _ (by simp)))
      exact List.forall_mem_append.mpr ⟨observed, sent⟩
    · exact (job.produces_finishAfterKillUntil deadline).mono
        fun _ _ finished => (finished.append_left sent).append_left observed

/-- Giving a job up: nothing happens to a job that was removed, and otherwise
the steps are no evidence. -/
theorem produces_drop :
    Produces (job.drop : Run Shared _) fun _ events =>
      (∀ event ∈ events, event.IsJobStep job.path) ∧
        (job.cleaned = true → events = []) ∧
        (job.cleaned = false → Unclean job.path events) := by
  unfold drop
  split
  · rename_i cleaned
    exact .pure ⟨by simp, fun _ => rfl, by simp [cleaned]⟩
  · rename_i uncleaned
    refine .bind (.ask fun isThere => (rfl : [_] = [_])) ?_
    rintro isThere _ rfl
    cases isThere with
    | false =>
        refine .pure ⟨by simp [Event.IsJobStep], by simp [uncleaned], ?_⟩
        exact fun _ => unclean_of_last [] (by simp)
    | true =>
        refine .bind (.ask fun killed => (rfl : [_] = [_])) ?_
        rintro killed _ rfl
        refine .bind (.ask fun removal => (rfl : [_] = [_])) ?_
        rintro removal _ rfl
        refine .pure ⟨by simp [Event.IsJobStep], by simp [uncleaned], ?_⟩
        exact fun _ => unclean_of_last_two [_] (by simp)

end JobCgroup

namespace CgroupManager

theorem mayLeaveJob_rollbackError (error : CgroupError) (cleanup : IoError) :
    (rollbackError error cleanup).mayLeaveJob = true := by
  cases error <;> rfl

variable (manager : CgroupManager)

theorem produces_newJobPath (jobId : String) :
    Produces (manager.newJobPath jobId : Run Shared _) fun result events =>
      match result with
      | .ok path => events = [.jobLookedUp path (.ok false)]
      | .error _ => ∀ event ∈ events, ∃ path answer,
          event = .jobLookedUp path answer := by
  unfold newJobPath
  cases validateJobId jobId with
  | error error => exact .pure (by simp)
  | ok _ =>
      refine .bind (.ask fun found => (rfl : [_] = [_])) ?_
      rintro (source | (_ | _)) _ rfl
      · exact .pure (by simp)
      · exact .pure rfl
      · exact .pure (by simp)

/-- Creating a job: a job that could not be configured has been removed, or the
error says that it may be left. -/
theorem produces_createJob (jobId : String) (limits : CgroupLimits) :
    Produces (manager.createJob jobId limits : Run Shared _)
      fun result events =>
        match result with
        | .ok job =>
            job.cleaned = false ∧ ∃ baseline,
              events = [.jobLookedUp job.path (.ok false),
                .jobCreated job.path (.ok ()),
                .jobConfigured job.path (.ok baseline)]
        | .error error =>
            (∀ event ∈ events, event.IsJobCreation) ∧
              (error.mayLeaveJob = false → ∀ path,
                .jobCreated path (.ok ()) ∈ events →
                [.jobCreated path (.ok ()),
                  .jobRemoved path (.ok ())].Sublist events) ∧
              (error.mayLeaveJob = false → leftBehind events = []) := by
  refine (manager.produces_newJobPath jobId).bind ?_
  rintro (error | path) events holds
  · refine .pure ⟨?_, ?_, fun _ => ?_⟩
    · intro event member
      obtain ⟨path, answer, rfl⟩ := holds event (by simpa using member)
      trivial
    · intro _ path member
      obtain ⟨_, _, equal⟩ := holds _ (by simpa using member)
      cases equal
    · rw [List.append_nil]
      exact leftBehind_of_lookups holds
  · obtain rfl := holds
    refine .bind (.ask fun created => (rfl : [_] = [_])) ?_
    rintro (source | _) _ rfl
    · exact .pure ⟨by simp [Event.IsJobCreation], by simp, fun _ => rfl⟩
    · refine .bind (.ask fun configured => (rfl : [_] = [_])) ?_
      rintro (error | baseline) _ rfl
      · refine .bind (.ask fun killed => (rfl : [_] = [_])) ?_
        rintro killed _ rfl
        refine .bind (.ask fun removal => (rfl : [_] = [_])) ?_
        rintro (cleanup | _) _ rfl
        · refine .pure ⟨by simp [Event.IsJobCreation], ?_⟩
          simp [mayLeaveJob_rollbackError]
        · refine .pure ⟨by simp [Event.IsJobCreation], ?_, fun _ => ?_⟩
          · intro _ other created
            obtain rfl : other = path := by simpa using created
            simp
          · simp [leftBehind, Event.leftAfter]
      · exact .pure ⟨rfl, baseline, rfl⟩

end CgroupManager
end Linux
end TaskCage
