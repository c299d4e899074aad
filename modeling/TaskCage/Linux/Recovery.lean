import TaskCage.Foundation.History
import TaskCage.Linux.Await

/-!
# Recovery at startup

Before the daemon serves anybody it removes the cgroups that a predecessor has
left: it kills all jobs, waits until none is populated, removes them one by one
and then the structure above them.  The cgroup file system and the clock may
answer anything at any time, and the wait need not end.
-/

namespace TaskCage
namespace Linux

/-- A failed step of the recovery. -/
structure StartupCgroupError where
  stage : String
  path : String
  detail : String
deriving DecidableEq

/-- Where the daemon is when it starts. -/
inductive StartupCgroupPlacement where
  | delegatedRoot
  | existingManager
deriving DecidableEq

/-- What a recovery reports. -/
structure StartupRecoveryReport where
  removedJobs : ℕ
  placement : StartupCgroupPlacement
deriving DecidableEq

/-- What a recovery does, with the answer that it is given. -/
inductive RecoveryEvent where
  | remaining (left : Option ℕ)
  | killJob (index : ℕ) (outcome : Except StartupCgroupError Unit)
  | jobPopulated (index : ℕ) (outcome : Except StartupCgroupError Bool)
  | pause (duration : ℕ)
  | removeJob (index : ℕ) (outcome : Except StartupCgroupError Unit)
  | finishStructure (outcome : Except StartupCgroupError StartupCgroupPlacement)
deriving DecidableEq

/-- Where the code of a recovery is.  A point named after a call is that call;
the points before a call read the clock. -/
inductive RecoveryPoint where
  | beforeKill (index : ℕ)
  | killJob (index : ℕ)
  | beforePopulated (index : ℕ) (pending : List Bool)
  | jobPopulated (index : ℕ) (pending : List Bool)
  | afterRound (pending : List Bool)
  | pause (remaining : ℕ) (pending : List Bool)
  | beforeRemove (index : ℕ)
  | removeJob (index : ℕ)
  | beforeFinish
  | finishStructure
  | returned (result : Except StartupCgroupError StartupRecoveryReport)
deriving DecidableEq

/-- The jobs that were found, and the text of the time that all steps share. -/
structure RecoveryBackend where
  jobCount : ℕ
  jobPath : ℕ → String
  budget : String

namespace RecoveryBackend

variable (backend : RecoveryBackend)

/-- The error of a step that comes too late. -/
def deadlineError (stage path : String) : StartupCgroupError where
  stage := stage
  path := path
  detail := s!"공유 deadline {backend.budget}을 초과했습니다"

/-- The clock before a step. -/
def ensureTime (stage path : String) (left : Option ℕ)
    (next : RecoveryPoint) : RecoveryPoint :=
  match left with
  | some _ => next
  | none => .returned (.error (backend.deadlineError stage path))

/-- The loop that removes the jobs, at a job. -/
def removeLoop (index : ℕ) : RecoveryPoint :=
  if index < backend.jobCount then .beforeRemove index else .beforeFinish

/-- The first job, from an index on, that may still be populated. -/
def nextPending (pending : List Bool) (index : ℕ) : Option ℕ :=
  ((pending.drop index).findIdx? id).map (· + index)

/-- A round over the jobs that may still be populated, at a job. -/
def round (pending : List Bool) (index : ℕ) : RecoveryPoint :=
  match nextPending pending index with
  | some job => .beforePopulated job pending
  | none => if pending.any id then .afterRound pending else backend.removeLoop 0

/-- The loop that kills the jobs, at a job. -/
def killLoop (index : ℕ) : RecoveryPoint :=
  if index < backend.jobCount then .beforeKill index
  else backend.round (List.replicate backend.jobCount true) 0

/-- `recover_with_backend`, from one event to the next. -/
def step : RecoveryPoint → RecoveryEvent → Option RecoveryPoint
  | .beforeKill index, .remaining left =>
      some (backend.ensureTime "잔여 작업 전체 종료" (backend.jobPath index) left
        (.killJob index))
  | .killJob index, .killJob job outcome =>
      if job = index then
        match outcome with
        | .ok () => some (backend.killLoop (index + 1))
        | .error error => some (.returned (.error error))
      else none
  | .beforePopulated index pending, .remaining left =>
      some (backend.ensureTime "잔여 작업 populated 0 확인"
        (backend.jobPath index) left (.jobPopulated index pending))
  | .jobPopulated index pending, .jobPopulated job outcome =>
      if job = index then
        match outcome with
        | .ok true => some (backend.round pending (index + 1))
        | .ok false =>
            some (backend.round (pending.set index false) (index + 1))
        | .error error => some (.returned (.error error))
      else none
  | .afterRound pending, .remaining left =>
      match left with
      | some left => some (.pause left pending)
      | none =>
          some (.returned (.error
            (backend.deadlineError "잔여 작업 populated 0 확인"
              (backend.jobPath ((pending.findIdx? id).getD 0)))))
  | .pause remaining pending, .pause duration =>
      if duration = min remaining pollInterval then
        some (backend.round pending 0)
      else none
  | .beforeRemove index, .remaining left =>
      some (backend.ensureTime "잔여 작업 cgroup 제거" (backend.jobPath index)
        left (.removeJob index))
  | .removeJob index, .removeJob job outcome =>
      if job = index then
        match outcome with
        | .ok () => some (backend.removeLoop (index + 1))
        | .error error => some (.returned (.error error))
      else none
  | .beforeFinish, .remaining left =>
      some (backend.ensureTime "manager와 jobs 구조 정리" "jobs" left
        .finishStructure)
  | .finishStructure, .finishStructure outcome =>
      match outcome with
      | .ok placement => some (.returned (.ok ⟨backend.jobCount, placement⟩))
      | .error error => some (.returned (.error error))
  | _, _ => none

/-- The recovery after the given events. -/
def recoverWithBackend (events : List RecoveryEvent) : Option RecoveryPoint :=
  History.replay backend.step (backend.killLoop 0) events

end RecoveryBackend

/-! ### The order of the steps -/

namespace RecoveryEvent

/-- The event kills the job. -/
def kills (job : ℕ) : RecoveryEvent → Bool
  | killJob index _ => index = job
  | remaining _ => false
  | jobPopulated _ _ => false
  | pause _ => false
  | removeJob _ _ => false
  | finishStructure _ => false

/-- The step failed, or the time was over. -/
def Fails : RecoveryEvent → Prop
  | remaining left => left = none
  | killJob _ outcome => ∃ error, outcome = .error error
  | jobPopulated _ outcome => ∃ error, outcome = .error error
  | pause _ => False
  | removeJob _ outcome => ∃ error, outcome = .error error
  | finishStructure outcome => ∃ error, outcome = .error error

/-- What must have happened before a step. -/
def Due (jobs : ℕ) (before : List RecoveryEvent) : RecoveryEvent → Prop
  | remaining _ => True
  | killJob index _ => index < jobs ∧ before.countP (kills index) = 0
  | jobPopulated index _ =>
      index < jobs ∧ ∀ job < jobs, before.countP (kills job) = 1
  | pause _ => True
  | removeJob index _ =>
      index < jobs ∧ ∀ job < jobs, jobPopulated job (.ok false) ∈ before
  | finishStructure _ => ∀ job < jobs, removeJob job (.ok ()) ∈ before

/-- A step that is due, with no failure before it. -/
def Allowed (jobs : ℕ) (before : List RecoveryEvent) (event : RecoveryEvent) :
    Prop :=
  (∀ earlier ∈ before, ¬ earlier.Fails) ∧ event.Due jobs before

end RecoveryEvent

open RecoveryEvent

/-- The jobs below an index have been killed once, the others not. -/
def Killed (index : ℕ) (history : List RecoveryEvent) : Prop :=
  ∀ job, history.countP (kills job) = if job < index then 1 else 0

/-- All jobs have been killed, and those that are not pending were seen
empty. -/
structure Polling (jobs : ℕ) (pending : List Bool)
    (history : List RecoveryEvent) : Prop where
  killed : Killed jobs history
  length : pending.length = jobs
  empty : ∀ job, pending[job]? = some false →
    jobPopulated job (.ok false) ∈ history

/-- All jobs were seen empty, and those below an index have been removed. -/
structure Removing (jobs index : ℕ) (history : List RecoveryEvent) : Prop where
  empty : ∀ job < jobs, jobPopulated job (.ok false) ∈ history
  removed : ∀ job < index, removeJob job (.ok ()) ∈ history

/-- What has happened when the code is at a point. -/
def Fits (jobs : ℕ) (history : List RecoveryEvent) : RecoveryPoint → Prop
  | .beforeKill index => index < jobs ∧ Killed index history
  | .killJob index => index < jobs ∧ Killed index history
  | .beforePopulated index pending =>
      index < jobs ∧ Polling jobs pending history
  | .jobPopulated index pending => index < jobs ∧ Polling jobs pending history
  | .afterRound pending => Polling jobs pending history
  | .pause _ pending => Polling jobs pending history
  | .beforeRemove index => index < jobs ∧ Removing jobs index history
  | .removeJob index => index < jobs ∧ Removing jobs index history
  | .beforeFinish => Removing jobs jobs history
  | .finishStructure => Removing jobs jobs history
  | .returned (.ok report) => Removing jobs jobs history ∧
      report.removedJobs = jobs ∧
      finishStructure (.ok report.placement) ∈ history
  | .returned (.error _) => True

section Facts

variable {jobs index : ℕ} {history : List RecoveryEvent}
variable {event : RecoveryEvent} {pending : List Bool}

theorem Killed.concat (killed : Killed index history)
    (other : ∀ job, event.kills job = false) :
    Killed index (history ++ [event]) := by
  intro job
  rw [List.countP_append, killed job, List.countP_singleton, other job]
  rfl

theorem Killed.succ (killed : Killed index history)
    (outcome : Except StartupCgroupError Unit) :
    Killed (index + 1) (history ++ [.killJob index outcome]) := by
  intro job
  rw [List.countP_append, killed job, List.countP_singleton]
  simp only [kills, decide_eq_true_eq]
  split_ifs <;> omega

theorem Polling.concat (polling : Polling jobs pending history)
    (other : ∀ job, event.kills job = false) :
    Polling jobs pending (history ++ [event]) where
  killed := polling.killed.concat other
  length := polling.length
  empty job seen := List.mem_append_left _ (polling.empty job seen)

/-- A job that is seen empty is no longer pending. -/
theorem Polling.set (polling : Polling jobs pending history) :
    Polling jobs (pending.set index false)
      (history ++ [.jobPopulated index (.ok false)]) where
  killed := polling.killed.concat fun _ => rfl
  length := by rw [List.length_set, polling.length]
  empty := by
    intro job seen
    by_cases same : index = job
    · subst same
      exact List.mem_append_right _ List.mem_cons_self
    · rw [List.getElem?_set_ne same] at seen
      exact List.mem_append_left _ (polling.empty job seen)

theorem Removing.concat (removing : Removing jobs index history) :
    Removing jobs index (history ++ [event]) where
  empty job less := List.mem_append_left _ (removing.empty job less)
  removed job less := List.mem_append_left _ (removing.removed job less)

theorem Removing.succ (removing : Removing jobs index history) :
    Removing jobs (index + 1) (history ++ [.removeJob index (.ok ())]) where
  empty job less := List.mem_append_left _ (removing.empty job less)
  removed := by
    intro job less
    rcases Nat.lt_succ_iff_lt_or_eq.mp less with earlier | rfl
    · exact List.mem_append_left _ (removing.removed job earlier)
    · exact List.mem_append_right _ List.mem_cons_self

end Facts

section Loops

variable {backend : RecoveryBackend} {index : ℕ}
variable {history : List RecoveryEvent} {pending : List Bool}

theorem fits_removeLoop (within : index ≤ backend.jobCount)
    (removing : Removing backend.jobCount index history) :
    Fits backend.jobCount history (backend.removeLoop index) := by
  unfold RecoveryBackend.removeLoop
  split
  · rename_i less
    exact ⟨less, removing⟩
  · have all : index = backend.jobCount := by omega
    rw [← all]
    exact all ▸ removing

theorem lt_length_of_nextPending {job : ℕ}
    (next : RecoveryBackend.nextPending pending index = some job) :
    job < pending.length := by
  obtain ⟨offset, found, rfl⟩ := Option.map_eq_some_iff.mp next
  rw [List.findIdx?_eq_some_iff_getElem] at found
  obtain ⟨less, -⟩ := found
  rw [List.length_drop] at less
  omega

theorem fits_round (polling : Polling backend.jobCount pending history) :
    Fits backend.jobCount history (backend.round pending index) := by
  unfold RecoveryBackend.round
  split
  · rename_i job next
    have less := lt_length_of_nextPending next
    rw [polling.length] at less
    exact ⟨less, polling⟩
  · split
    · exact polling
    · rename_i nonePending
      apply fits_removeLoop (Nat.zero_le _)
      refine ⟨fun job less => ?_, fun _ negative => absurd negative (by omega)⟩
      apply polling.empty
      have inside : job < pending.length := by
        rw [polling.length]
        exact less
      rw [List.getElem?_eq_getElem inside, Option.some_inj]
      simp only [List.any_eq_true, not_exists, not_and, id_eq,
        Bool.not_eq_true] at nonePending
      exact nonePending _ (List.getElem_mem inside)

theorem fits_killLoop (within : index ≤ backend.jobCount)
    (killed : Killed index history) :
    Fits backend.jobCount history (backend.killLoop index) := by
  unfold RecoveryBackend.killLoop
  split
  · rename_i less
    exact ⟨less, killed⟩
  · have all : index = backend.jobCount := by omega
    refine fits_round ⟨all ▸ killed, List.length_replicate, ?_⟩
    intro job seen
    have pending := List.mem_of_getElem? seen
    rw [List.mem_replicate] at pending
    cases pending.2

end Loops

/-! ### Steps -/

/-- The steps of the recovery, one by one. -/
inductive RecoveryStep (backend : RecoveryBackend) :
    RecoveryPoint → RecoveryEvent → RecoveryPoint → Prop where
  | late (point : RecoveryPoint) (error : StartupCgroupError)
      (waiting : ∀ result, point ≠ .returned result) :
      RecoveryStep backend point (.remaining none) (.returned (.error error))
  | killTime (index left : ℕ) :
      RecoveryStep backend (.beforeKill index) (.remaining (some left))
        (.killJob index)
  | killed (index : ℕ) :
      RecoveryStep backend (.killJob index) (.killJob index (.ok ()))
        (backend.killLoop (index + 1))
  | killFailed (index : ℕ) (error : StartupCgroupError) :
      RecoveryStep backend (.killJob index) (.killJob index (.error error))
        (.returned (.error error))
  | populatedTime (index left : ℕ) (pending : List Bool) :
      RecoveryStep backend (.beforePopulated index pending)
        (.remaining (some left)) (.jobPopulated index pending)
  | populated (index : ℕ) (pending : List Bool) :
      RecoveryStep backend (.jobPopulated index pending)
        (.jobPopulated index (.ok true)) (backend.round pending (index + 1))
  | emptied (index : ℕ) (pending : List Bool) :
      RecoveryStep backend (.jobPopulated index pending)
        (.jobPopulated index (.ok false))
        (backend.round (pending.set index false) (index + 1))
  | populatedFailed (index : ℕ) (pending : List Bool)
      (error : StartupCgroupError) :
      RecoveryStep backend (.jobPopulated index pending)
        (.jobPopulated index (.error error)) (.returned (.error error))
  | roundTime (pending : List Bool) (left : ℕ) :
      RecoveryStep backend (.afterRound pending) (.remaining (some left))
        (.pause left pending)
  | paused (remaining : ℕ) (pending : List Bool) :
      RecoveryStep backend (.pause remaining pending)
        (.pause (min remaining pollInterval)) (backend.round pending 0)
  | removeTime (index left : ℕ) :
      RecoveryStep backend (.beforeRemove index) (.remaining (some left))
        (.removeJob index)
  | removed (index : ℕ) :
      RecoveryStep backend (.removeJob index) (.removeJob index (.ok ()))
        (backend.removeLoop (index + 1))
  | removeFailed (index : ℕ) (error : StartupCgroupError) :
      RecoveryStep backend (.removeJob index) (.removeJob index (.error error))
        (.returned (.error error))
  | finishTime (left : ℕ) :
      RecoveryStep backend .beforeFinish (.remaining (some left))
        .finishStructure
  | finished (placement : StartupCgroupPlacement) :
      RecoveryStep backend .finishStructure (.finishStructure (.ok placement))
        (.returned (.ok ⟨backend.jobCount, placement⟩))
  | finishFailed (error : StartupCgroupError) :
      RecoveryStep backend .finishStructure (.finishStructure (.error error))
        (.returned (.error error))

section Steps

variable {backend : RecoveryBackend} {point next : RecoveryPoint}
variable {event : RecoveryEvent} {history : List RecoveryEvent}

theorem recoveryStep_ensureTime {stage path : String} {left : Option ℕ}
    (waiting : ∀ result, point ≠ .returned result)
    (onTime : ∀ left,
      RecoveryStep backend point (.remaining (some left)) next) :
    RecoveryStep backend point (.remaining left)
      (backend.ensureTime stage path left next) := by
  cases left with
  | none => exact .late _ _ waiting
  | some left => exact onTime left

/-- There are no other steps. -/
theorem recoveryStep_of_step (taken : backend.step point event = some next) :
    RecoveryStep backend point event next := by
  unfold RecoveryBackend.step at taken
  split at taken
  · cases taken
    exact recoveryStep_ensureTime nofun (.killTime _)
  · split at taken
    · rename_i same
      subst same
      split at taken
      · cases taken
        exact .killed _
      · cases taken
        exact .killFailed _ _
    · cases taken
  · cases taken
    exact recoveryStep_ensureTime nofun fun left => .populatedTime _ left _
  · split at taken
    · rename_i same
      subst same
      split at taken
      · cases taken
        exact .populated _ _
      · cases taken
        exact .emptied _ _
      · cases taken
        exact .populatedFailed _ _ _
    · cases taken
  · split at taken
    · cases taken
      exact .roundTime _ _
    · cases taken
      exact .late _ _ nofun
  · split at taken
    · rename_i same
      subst same
      cases taken
      exact .paused _ _
    · cases taken
  · cases taken
    exact recoveryStep_ensureTime nofun (.removeTime _)
  · split at taken
    · rename_i same
      subst same
      split at taken
      · cases taken
        exact .removed _
      · cases taken
        exact .removeFailed _ _
    · cases taken
  · cases taken
    exact recoveryStep_ensureTime nofun .finishTime
  · split at taken
    · cases taken
      exact .finished _
    · cases taken
      exact .finishFailed _
  · cases taken

/-- A recovery that has returned does nothing more. -/
theorem RecoveryStep.running (taken : RecoveryStep backend point event next) :
    ∀ result, point ≠ .returned result := by
  intro result returned
  subst returned
  cases taken with
  | late _ error waiting => exact waiting result rfl

/-- A failure is the end. -/
theorem RecoveryStep.returned (taken : RecoveryStep backend point event next)
    (fails : event.Fails) : ∃ error, next = .returned (.error error) := by
  cases taken with
  | late _ error | killFailed index error
  | populatedFailed index pending error | removeFailed index error
  | finishFailed error => exact ⟨error, rfl⟩
  | killTime | populatedTime | roundTime | paused | removeTime | finishTime =>
      cases fails
  | killed | populated | emptied | removed | finished =>
      obtain ⟨error, other⟩ := fails
      cases other

/-- What the code does at a point is due there. -/
theorem RecoveryStep.due (taken : RecoveryStep backend point event next)
    (fits : Fits backend.jobCount history point) :
    event.Due backend.jobCount history := by
  have fresh : ∀ {index}, Killed index history →
      history.countP (kills index) = 0 := by
    intro index killed
    rw [killed index, if_neg (Nat.lt_irrefl index)]
  have once : ∀ {pending}, Polling backend.jobCount pending history →
      ∀ job < backend.jobCount, history.countP (kills job) = 1 := by
    intro pending polling job less
    rw [polling.killed job, if_pos less]
  cases taken with
  | late _ error waiting => trivial
  | killTime index left => trivial
  | killed index => exact ⟨fits.1, fresh fits.2⟩
  | killFailed index error => exact ⟨fits.1, fresh fits.2⟩
  | populatedTime index left pending => trivial
  | populated | emptied | populatedFailed => exact ⟨fits.1, once fits.2⟩
  | roundTime pending left => trivial
  | paused remaining pending => trivial
  | removeTime index left => trivial
  | removed index => exact ⟨fits.1, fits.2.empty⟩
  | removeFailed index error => exact ⟨fits.1, fits.2.empty⟩
  | finishTime left => trivial
  | finished placement => exact fits.removed
  | finishFailed error => exact fits.removed

/-- What fits a point fits the next one after the step. -/
theorem RecoveryStep.fits (taken : RecoveryStep backend point event next)
    (fits : Fits backend.jobCount history point) :
    Fits backend.jobCount (history ++ [event]) next := by
  cases taken with
  | late _ error waiting => trivial
  | killTime index left => exact ⟨fits.1, fits.2.concat fun _ => rfl⟩
  | killed index => exact fits_killLoop fits.1 (fits.2.succ (.ok ()))
  | killFailed index error => trivial
  | populatedTime index left pending =>
      exact ⟨fits.1, fits.2.concat fun _ => rfl⟩
  | populated index pending => exact fits_round (fits.2.concat fun _ => rfl)
  | emptied index pending => exact fits_round fits.2.set
  | populatedFailed index pending error => trivial
  | roundTime pending left =>
      have polling : Polling backend.jobCount pending history := fits
      exact polling.concat fun _ => rfl
  | paused remaining pending =>
      have polling : Polling backend.jobCount pending history := fits
      exact fits_round (polling.concat fun _ => rfl)
  | removeTime index left => exact ⟨fits.1, fits.2.concat⟩
  | removed index => exact fits_removeLoop fits.1 fits.2.succ
  | removeFailed index error => trivial
  | finishTime left => exact Removing.concat fits
  | finished placement =>
      exact ⟨Removing.concat fits, rfl,
        List.mem_append_right _ List.mem_cons_self⟩
  | finishFailed error => trivial

end Steps

/-- In every behaviour of the cgroup file system and of the clock, the recovery
kills every job once before it looks at any, removes a job only after every job
was seen empty, and finishes only after every job was removed.  Nothing happens
after a failure, and a recovery that succeeds has done it all. -/
theorem recoverWithBackend_ordered (backend : RecoveryBackend)
    {events : List RecoveryEvent} {point : RecoveryPoint}
    (ran : backend.recoverWithBackend events = some point) :
    History.Each (Allowed backend.jobCount) events ∧
      (∀ event ∈ events, event.Fails →
        ∃ error, point = .returned (.error error)) ∧
      ∀ report, point = .returned (.ok report) →
        report.removedJobs = backend.jobCount ∧
        (∀ job < backend.jobCount, removeJob job (.ok ()) ∈ events) ∧
        finishStructure (.ok report.placement) ∈ events := by
  have invariant : Fits backend.jobCount events point ∧
      History.Each (Allowed backend.jobCount) events ∧
      ∀ event ∈ events, event.Fails →
        ∃ error, point = .returned (.error error) := by
    refine History.invariant (fun events point =>
      Fits backend.jobCount events point ∧
        History.Each (Allowed backend.jobCount) events ∧
        ∀ event ∈ events, event.Fails →
          ∃ error, point = .returned (.error error)) ?_ ?_ ran
    · refine ⟨fits_killLoop (Nat.zero_le _) ?_, .nil, fun _ member =>
        absurd member List.not_mem_nil⟩
      intro job
      rw [if_neg (Nat.not_lt_zero job)]
      rfl
    · rintro history middle event next - ⟨fits, each, ends⟩ stepped
      have taken := recoveryStep_of_step stepped
      have calm : ∀ earlier ∈ history, ¬ earlier.Fails := by
        intro earlier member fails
        obtain ⟨error, returned⟩ := ends earlier member fails
        exact taken.running _ returned
      refine ⟨taken.fits fits, each.concat ⟨calm, taken.due fits⟩, ?_⟩
      intro found member fails
      rcases List.mem_append.mp member with earlier | last
      · exact absurd fails (calm found earlier)
      · rw [List.mem_singleton] at last
        subst last
        exact taken.returned fails
  obtain ⟨fits, each, ends⟩ := invariant
  refine ⟨each, ends, ?_⟩
  rintro report rfl
  exact ⟨fits.2.1, fits.1.removed, fits.2.2⟩

/-- Two jobs, of which the second needs a second look. -/
def twoJobs : RecoveryBackend where
  jobCount := 2
  jobPath index := if index = 0 then "jobs/job-a" else "jobs/job-b"
  budget := "30s"

theorem recoverWithBackend_ordered_twoJobs :
    ∃ events, twoJobs.recoverWithBackend events =
        some (.returned (.ok ⟨2, .delegatedRoot⟩)) ∧
      History.Each (Allowed 2) events := by
  let events : List RecoveryEvent :=
    [.remaining (some 9), .killJob 0 (.ok ()), .remaining (some 8),
      .killJob 1 (.ok ()), .remaining (some 7), .jobPopulated 0 (.ok false),
      .remaining (some 6), .jobPopulated 1 (.ok true), .remaining (some 5),
      .pause 5, .remaining (some 4), .jobPopulated 1 (.ok false),
      .remaining (some 3), .removeJob 0 (.ok ()), .remaining (some 2),
      .removeJob 1 (.ok ()), .remaining (some 1),
      .finishStructure (.ok .delegatedRoot)]
  have ran : twoJobs.recoverWithBackend events =
      some (.returned (.ok ⟨2, .delegatedRoot⟩)) := by decide
  exact ⟨events, ran, (recoverWithBackend_ordered twoJobs ran).1⟩

end Linux
end TaskCage
