import TaskCage.Foundation.Table
import TaskCage.Core.Time

/-!
# The fail-stop coordinator

The coordinator links uncertain cleanup to the refusal of new executions.  This
file has its locked state and its operations as functions of that state; the
gate of `commit_start` runs between `beginCommit` and `endCommit`, while the
lock is held.
-/

namespace TaskCage
namespace FailStop

/-- Coordinator configuration: a zero timeout is refused. -/
structure FailStopSettings where
  timeout : ℕ
  timeout_pos : 0 < timeout

/-- What could not be cleaned up. -/
structure CleanupFailureReport where
  taskId : String
  stage : String
  uncleaned : List String
  retry : String
deriving DecidableEq

/-- Whether the daemon still starts executions. -/
inductive Phase where
  | healthy
  | failStopping (deadline : MonotonicDeadline)
      (firstReport : CleanupFailureReport)
deriving DecidableEq

/-- How far the start of an active execution has come. -/
inductive StartState where
  | pending
  | committing
  | committed
  | failed
deriving DecidableEq

namespace StartState

/-- The name a resolved start is reported under. -/
def name : StartState → String
  | pending => "pending"
  | committing => "committing"
  | committed => "committed"
  | failed => "failed"

end StartState

/-- Why an execution could not be started. -/
inductive StartCommitError where
  | failStopping (deadline : MonotonicDeadline)
  | notActive (taskId : String)
  | alreadyResolved (taskId state : String)
  | gate (message : String)
deriving DecidableEq

/-- An active execution.  Its registration number does not exist in the
program; it tells apart the registrations of one task id. -/
structure ActiveEntry where
  start : StartState
  registration : ℕ
deriving DecidableEq

/-- The locked state of the coordinator. -/
structure Coordinator where
  settings : FailStopSettings
  phase : Phase
  active : Table String ActiveEntry
  registrations : ℕ

namespace Coordinator

/-- A healthy coordinator without executions. -/
def new (settings : FailStopSettings) : Coordinator where
  settings := settings
  phase := .healthy
  active := ∅
  registrations := 0

/-- Whether the coordinator is fail-stopping. -/
def isFailStopping (coordinator : Coordinator) : Bool :=
  match coordinator.phase with
  | .healthy => false
  | .failStopping _ _ => true

/-- The deadline of the fail-stop, once there is one. -/
def deadline (coordinator : Coordinator) : Option MonotonicDeadline :=
  match coordinator.phase with
  | .healthy => none
  | .failStopping deadline _ => some deadline

/-- The deadline that an activation at `now` sets. -/
def activationDeadline (settings : FailStopSettings) (now : ℕ) :
    MonotonicDeadline :=
  (MonotonicDeadline.fromStart now settings.timeout).getD (.expiredAt now)

/-- Begin the fail-stop; only the first activation has an effect. -/
def activate (now : ℕ) (report : CleanupFailureReport)
    (coordinator : Coordinator) : MonotonicDeadline × Coordinator :=
  match coordinator.phase with
  | .failStopping deadline _ => (deadline, coordinator)
  | .healthy =>
      let deadline := activationDeadline coordinator.settings now
      (deadline, { coordinator with phase := .failStopping deadline report })

/-- Register an admitted execution; a registered task id is refused. -/
def register (taskId : String) (coordinator : Coordinator) :
    Option ℕ × Coordinator :=
  if taskId ∈ coordinator.active then
    (none, coordinator)
  else
    let registration := coordinator.registrations
    (some registration,
      { coordinator with
        active := coordinator.active.insert taskId ⟨.pending, registration⟩
        registrations := registration + 1 })

/-- The part of `commit_start` before the gate runs. -/
def beginCommit (taskId : String) (coordinator : Coordinator) :
    Except StartCommitError ActiveEntry × Coordinator :=
  match coordinator.phase with
  | .failStopping deadline _ => (.error (.failStopping deadline), coordinator)
  | .healthy =>
      match coordinator.active.lookup taskId with
      | none => (.error (.notActive taskId), coordinator)
      | some entry =>
          match entry.start with
          | .pending =>
              (.ok entry,
                { coordinator with
                  active := coordinator.active.insert taskId
                    { entry with start := .committing } })
          | resolved =>
              (.error (.alreadyResolved taskId resolved.name), coordinator)

/-- The part of `commit_start` after the gate returned. -/
def endCommit (taskId : String) (succeeded : Bool)
    (coordinator : Coordinator) : Coordinator :=
  match coordinator.active.lookup taskId with
  | none => coordinator
  | some entry =>
      { coordinator with
        active := coordinator.active.insert taskId
          { entry with start := if succeeded then .committed else .failed } }

/-- Forget an active execution; tells whether there was one. -/
def complete (taskId : String) (coordinator : Coordinator) :
    Bool × Coordinator :=
  (decide (taskId ∈ coordinator.active),
    { coordinator with active := coordinator.active.erase taskId })

/-- The report of an execution that ends without a cleanup result. -/
def droppedReport (taskId : String) : CleanupFailureReport where
  taskId := taskId
  stage := "활성 실행 소유권 종료"
  uncleaned := ["실행 lifecycle"]
  retry := "소유권이 정리 결과 없이 종료됨"

variable {coordinator : Coordinator}

@[simp] theorem isFailStopping_new (settings : FailStopSettings) :
    (new settings).isFailStopping = false :=
  rfl

theorem deadline_isSome :
    coordinator.deadline.isSome = coordinator.isFailStopping := by
  unfold deadline isFailStopping
  split <;> rfl

/-- After an activation the coordinator is fail-stopping. -/
@[simp] theorem isFailStopping_activate
    (now : ℕ) (report : CleanupFailureReport) :
    (coordinator.activate now report).2.isFailStopping = true := by
  unfold activate isFailStopping
  cases phase : coordinator.phase <;> simp [phase]

@[simp] theorem active_activate
    (now : ℕ) (report : CleanupFailureReport) :
    (coordinator.activate now report).2.active = coordinator.active := by
  unfold activate
  split <;> rfl

@[simp] theorem phase_register (taskId : String) :
    (coordinator.register taskId).2.phase = coordinator.phase := by
  unfold register
  split <;> rfl

@[simp] theorem phase_beginCommit (taskId : String) :
    (coordinator.beginCommit taskId).2.phase = coordinator.phase := by
  unfold beginCommit
  split
  · rfl
  · split
    · rfl
    · split <;> rfl

@[simp] theorem phase_endCommit (taskId : String) (succeeded : Bool) :
    (coordinator.endCommit taskId succeeded).phase = coordinator.phase := by
  unfold endCommit
  split <;> rfl

@[simp] theorem phase_complete (taskId : String) :
    (coordinator.complete taskId).2.phase = coordinator.phase :=
  rfl

/-- What an execution may do to the coordinator: a fail-stop stays, and no
execution is registered or forgotten. -/
structure Progress (before after : Coordinator) : Prop where
  stopping : before.isFailStopping = true → after.isFailStopping = true
  registered : ∀ taskId,
    (after.active.lookup taskId).map ActiveEntry.registration =
      (before.active.lookup taskId).map ActiveEntry.registration

namespace Progress

variable {middle after : Coordinator}

theorem refl (coordinator : Coordinator) : coordinator.Progress coordinator :=
  ⟨id, fun _ => rfl⟩

theorem trans (first : coordinator.Progress middle)
    (second : middle.Progress after) : coordinator.Progress after where
  stopping := second.stopping ∘ first.stopping
  registered taskId :=
    (second.registered taskId).trans (first.registered taskId)

/-- A step that changes only how far the start of one execution has come. -/
theorem of_start {taskId : String} {entry : ActiveEntry}
    (found : coordinator.active.lookup taskId = some entry)
    (start : StartState) :
    coordinator.Progress
      { coordinator with
        active := coordinator.active.insert taskId { entry with start } } where
  stopping := id
  registered other := by
    rw [Table.lookup_insert_eq_ite]
    split
    · rename_i same
      rw [same, found]
      rfl
    · rfl

theorem activate (now : ℕ) (report : CleanupFailureReport) :
    coordinator.Progress (coordinator.activate now report).2 where
  stopping _ := isFailStopping_activate now report
  registered taskId := by rw [active_activate]

theorem beginCommit (taskId : String) :
    coordinator.Progress (coordinator.beginCommit taskId).2 := by
  unfold Coordinator.beginCommit
  split
  · exact .refl _
  · split
    · exact .refl _
    · split
      · exact .of_start ‹_› _
      · exact .refl _

theorem endCommit (taskId : String) (succeeded : Bool) :
    coordinator.Progress (coordinator.endCommit taskId succeeded) := by
  unfold Coordinator.endCommit
  split
  · exact .refl _
  · exact .of_start ‹_› _

end Progress
end Coordinator
end FailStop
end TaskCage
