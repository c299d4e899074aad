import TaskCage.Linux.Child

/-!
# Evidence of cleanup

What the events of an execution say about the job cgroup and the child, and
which of these events every cleanup step produces.
-/

namespace TaskCage
namespace Linux

open Process

namespace Event

/-- A step that looks at a job cgroup or takes it away. -/
def IsJobStep (path : String) : Event → Prop
  | jobKilled other _ => other = path
  | jobObserved other _ => other = path
  | statsRead other _ => other = path
  | jobRemoved other _ => other = path
  | jobExists other _ => other = path
  | cleanupStarted _ => True
  | cleanupRemaining _ => True
  | _ => False

/-- A step that looks at a child and its readers or takes them away. -/
def IsChildStep (pid : ℕ) : Event → Prop
  | killed other => other = pid
  | waited other _ => other = pid
  | waitTried other _ => other = pid
  | readerFinished _ _ => True
  | readerJoined _ _ => True
  | cleanupRemaining _ => True
  | _ => False

/-- A step of an execution that has its job and its child. -/
def IsCleanupStep (path : String) (pid : ℕ) : Event → Prop
  | wallRemaining _ => True
  | activated _ => True
  | event => event.IsJobStep path ∨ event.IsChildStep pid

/-- A step of the creation of a job. -/
def IsJobCreation : Event → Prop
  | jobLookedUp _ _ => True
  | jobCreated _ _ => True
  | jobConfigured _ _ => True
  | jobKilled _ _ => True
  | jobRemoved _ _ => True
  | _ => False

/-- A step of the preparation of a child that creates none. -/
def IsPreparation : Event → Prop
  | pipeOpened _ _ => True
  | nonblockingSet _ _ => True
  | readerStarted _ _ => True
  | readerJoined _ _ => True
  | cloned (.error _) => True
  | _ => False

/-- A step between the creation of a child and the start of its program. -/
def IsStart : Event → Prop
  | memberObserved _ _ _ => True
  | startSignalled _ _ => True
  | startCaptured _ _ => True
  | _ => False

/-- A step that creates a job or a child. -/
def IsCreation : Event → Prop
  | jobCreated _ _ => True
  | cloned _ => True
  | _ => False

/-- A step after which there is no more of a child than before. -/
def IsChildless : Event → Prop
  | cloned (.ok _) => False
  | execPipeRead _ _ => False
  | _ => True

/-- A wait that returned the status of a child. -/
def WaitsFor (pid : ℕ) : Event → Prop
  | waited other (.ok _) => other = pid
  | waitTried other (.ok (some _)) => other = pid
  | _ => False

/-- A cleanup step that did not succeed. -/
def IsFailure : Event → Prop
  | jobKilled _ (.error _) => True
  | jobObserved _ (.error _) => True
  | statsRead _ (.error _) => True
  | jobRemoved _ (.error _) => True
  | waited _ (.error _) => True
  | waitTried _ (.error _) => True
  | readerJoined _ (.failed _) => True
  | readerJoined _ .panicked => True
  | cleanupStarted none => True
  | cleanupRemaining none => True
  | _ => False

variable {event : Event} {path : String} {pid : ℕ}

theorem IsJobStep.isCleanupStep (pid : ℕ) (step : event.IsJobStep path) :
    event.IsCleanupStep path pid := by
  cases event <;> first | exact .inl step | exact step.elim

theorem IsChildStep.isCleanupStep (path : String)
    (step : event.IsChildStep pid) : event.IsCleanupStep path pid := by
  cases event <;> first | exact .inr step | exact step.elim

theorem IsJobCreation.isChildless (creation : event.IsJobCreation) :
    event.IsChildless := by
  cases event <;> first | trivial | exact creation.elim

theorem IsPreparation.isChildless (preparation : event.IsPreparation) :
    event.IsChildless := by
  cases event with
  | cloned answer =>
      cases answer with
      | ok pid => exact preparation
      | error source => trivial
  | _ => first | trivial | exact preparation.elim

theorem IsJobStep.isChildless (step : event.IsJobStep path) :
    event.IsChildless := by
  cases event <;> first | trivial | exact step.elim

theorem IsCleanupStep.not_isCreation (step : event.IsCleanupStep path pid) :
    ¬ event.IsCreation := by
  cases event <;> first | exact fun creates => creates | exact step.elim False.elim False.elim

theorem IsJobStep.not_waitsFor (step : event.IsJobStep path) :
    ¬ event.WaitsFor pid := by
  cases event <;> first | exact fun waits => waits | exact step.elim

end Event

/-- The job was seen without processes and removed after that. -/
def Emptied (path : String) (events : List Event) : Prop :=
  [.jobObserved path (.ok false), .jobRemoved path (.ok ())].Sublist events

/-- The last two steps read the statistics of the job and removed it. -/
def EndsClean (path : String) (events : List Event) : Prop :=
  ∃ before readings, events = before ++
    [.statsRead path (.ok readings), .jobRemoved path (.ok ())]

/-- The steps do not end with such a pair, whatever was done before. -/
def Unclean (path : String) (events : List Event) : Prop :=
  ∀ before, ¬ EndsClean path (before ++ events)

/-- Some cleanup step did not succeed. -/
def Failing (events : List Event) : Prop :=
  ∃ event ∈ events, event.IsFailure

/-- A fail-stop was asked for only when something did not succeed. -/
def Justified (events : List Event) : Prop :=
  ∀ report, .activated report ∈ events → Failing events

/-- A wait for the child returned its status. -/
def Waited (pid : ℕ) (events : List Event) : Prop :=
  ∃ event ∈ events, event.WaitsFor pid

/-- Both output readers were joined. -/
def Joined (events : List Event) : Prop :=
  ∀ stream, ∃ outcome, .readerJoined stream outcome ∈ events

section Lists

variable {path : String} {pid : ℕ} {first second : List Event}

theorem pair_sublist_append {early late : Event} (before : early ∈ first)
    (after : late ∈ second) : [early, late].Sublist (first ++ second) :=
  (List.singleton_sublist.mpr before).append (List.singleton_sublist.mpr after)

theorem Emptied.append_right (emptied : Emptied path first) :
    Emptied path (first ++ second) :=
  emptied.trans (List.sublist_append_left first second)

theorem Emptied.append_left (emptied : Emptied path second) :
    Emptied path (first ++ second) :=
  emptied.trans (List.sublist_append_right first second)

theorem EndsClean.append_left (clean : EndsClean path second) :
    EndsClean path (first ++ second) := by
  obtain ⟨before, readings, rfl⟩ := clean
  exact ⟨first ++ before, readings, (List.append_assoc ..).symm⟩

/-- A step that is neither a reading of statistics nor a removal comes before
the last two steps. -/
theorem EndsClean.of_append {event : Event}
    (clean : EndsClean path (first ++ second)) (member : event ∈ second)
    (notRead : ∀ answer, event ≠ .statsRead path answer)
    (notRemoved : ∀ answer, event ≠ .jobRemoved path answer) :
    EndsClean path second := by
  obtain ⟨before, readings, equal⟩ := clean
  rcases List.append_eq_append_iff.mp equal with
    ⟨middle, -, secondEq⟩ | ⟨middle, -, lastEq⟩
  · exact ⟨middle, readings, secondEq⟩
  · have last := lastEq ▸ List.mem_append_right middle member
    simp only [List.mem_cons, List.not_mem_nil, or_false] at last
    rcases last with rfl | rfl
    · exact absurd rfl (notRead _)
    · exact absurd rfl (notRemoved _)

theorem EndsClean.removed (clean : EndsClean path first) :
    .jobRemoved path (.ok ()) ∈ first := by
  obtain ⟨before, readings, rfl⟩ := clean
  simp

theorem Unclean.append_left (unclean : Unclean path second) :
    Unclean path (first ++ second) := by
  intro before clean
  rw [← List.append_assoc] at clean
  exact unclean _ clean

theorem Unclean.not_endsClean (unclean : Unclean path first) :
    ¬ EndsClean path first :=
  unclean []

variable {last : Event}

/-- Steps that do not end with the removal of the job are not clean. -/
theorem unclean_of_last (first : List Event)
    (other : last ≠ .jobRemoved path (.ok ())) :
    Unclean path (first ++ [last]) := by
  rintro before ⟨start, readings, equal⟩
  have lastEq := congrArg List.getLast? equal
  simp only [← List.append_assoc, List.getLast?_append,
    List.getLast?_cons_cons, List.getLast?_singleton, Option.some_or,
    Option.some.injEq] at lastEq
  exact other lastEq

/-- Steps that remove the job after something else than a good reading of its
statistics are not clean. -/
theorem unclean_of_last_two (first : List Event) {previous : Event}
    (other : ∀ readings, previous ≠ .statsRead path (.ok readings)) :
    Unclean path (first ++ [previous, last]) := by
  rintro before ⟨start, readings, equal⟩
  rw [← List.append_assoc] at equal
  have split := List.append_inj' equal rfl
  exact other readings (List.cons.inj split.2).1

theorem failing_last (first : List Event) (failure : last.IsFailure) :
    Failing (first ++ [last]) :=
  ⟨last, List.mem_append_right _ (List.mem_singleton_self last), failure⟩

theorem Failing.append_right (failing : Failing first) :
    Failing (first ++ second) := by
  obtain ⟨event, member, failure⟩ := failing
  exact ⟨event, List.mem_append_left _ member, failure⟩

theorem Failing.append_left (failing : Failing second) :
    Failing (first ++ second) := by
  obtain ⟨event, member, failure⟩ := failing
  exact ⟨event, List.mem_append_right _ member, failure⟩

theorem Failing.justified (failing : Failing first) : Justified first :=
  fun _ _ => failing

theorem Justified.append (firstJustified : Justified first)
    (secondJustified : Justified second) : Justified (first ++ second) := by
  intro report member
  rcases List.mem_append.mp member with before | after
  · exact (firstJustified report before).append_right
  · exact (secondJustified report after).append_left

theorem justified_of_isJobStep
    (steps : ∀ event ∈ first, event.IsJobStep path) : Justified first :=
  fun _ member => (steps _ member).elim

theorem justified_of_isChildStep
    (steps : ∀ event ∈ first, event.IsChildStep pid) : Justified first :=
  fun _ member => (steps _ member).elim

theorem Waited.append_right (waited : Waited pid first) :
    Waited pid (first ++ second) := by
  obtain ⟨event, member, waits⟩ := waited
  exact ⟨event, List.mem_append_left _ member, waits⟩

theorem Waited.append_left (waited : Waited pid second) :
    Waited pid (first ++ second) := by
  obtain ⟨event, member, waits⟩ := waited
  exact ⟨event, List.mem_append_right _ member, waits⟩

theorem Joined.append_right (joined : Joined first) :
    Joined (first ++ second) := fun stream =>
  (joined stream).imp fun _ member => List.mem_append_left _ member

theorem Joined.append_left (joined : Joined second) :
    Joined (first ++ second) := fun stream =>
  (joined stream).imp fun _ member => List.mem_append_right _ member

end Lists
end Linux
end TaskCage
