import TaskCage.Linux.Child

/-!
# What the Linux runtime does not touch

Jobs and children are only asked about: none of this code changes the state the
daemon shares.  So it keeps every relation between worlds that allows questions
and waiting.
-/

namespace TaskCage
namespace Linux

open Process

section Frame

variable {Shared Result : Type}
variable {Moves : World Event Shared → World Event Shared → Prop}
variable (permits : Permits Moves)
include permits

theorem keeps_awaitUntil {look : Run Shared (Option Result)}
    (keeps : Keeps look Moves) (deadline : MonotonicDeadline)
    (late : Result) : Keeps (awaitUntil look deadline late) Moves :=
  permits.pollUntil <| permits.bind keeps fun
    | some _ => permits.pure _
    | none => permits.bind (permits.ask _ _) fun
        | none => permits.pure _
        | some _ => permits.pure _

/-! ### Jobs -/

variable (manager : CgroupManager) (job : JobCgroup)
variable (jobId : String) (deadline : MonotonicDeadline)

theorem CgroupManager.keeps_newJobPath :
    Keeps (manager.newJobPath jobId) Moves := by
  unfold CgroupManager.newJobPath
  split
  · exact permits.pure _
  · exact permits.bind (permits.ask _ _) fun
      | .ok true => permits.pure _
      | .ok false => permits.pure _
      | .error _ => permits.pure _

theorem CgroupManager.keeps_createJob (limits : CgroupLimits) :
    Keeps (manager.createJob jobId limits) Moves :=
  permits.bind (manager.keeps_newJobPath permits jobId) fun
    | .error _ => permits.pure _
    | .ok _ => permits.bind (permits.ask _ _) fun
        | .error _ => permits.pure _
        | .ok () => permits.bind (permits.ask _ _) fun
            | .ok _ => permits.pure _
            | .error _ => permits.bind (permits.ask _ _) fun _ =>
                permits.bind (permits.ask _ _) fun
                  | .ok () => permits.pure _
                  | .error _ => permits.pure _

theorem JobCgroup.keeps_finishAfterKillUntil :
    Keeps (job.finishAfterKillUntil deadline) Moves :=
  permits.bind
    (keeps_awaitUntil permits (permits.ask_map _ _ _) deadline _) fun
    | .error _ => permits.pure _
    | .ok () => permits.bind (permits.ask _ _) fun
        | none => permits.pure _
        | some _ => permits.bind (permits.ask_map _ _ _) fun _ =>
            permits.ask_map _ _ _

theorem JobCgroup.keeps_finishUntil :
    Keeps (job.finishUntil deadline) Moves :=
  permits.bind (permits.ask _ _) fun
    | .error _ => permits.pure _
    | .ok false => job.keeps_finishAfterKillUntil permits deadline
    | .ok true => permits.bind (permits.ask _ _) fun
        | .error _ => permits.pure _
        | .ok () => job.keeps_finishAfterKillUntil permits deadline

theorem JobCgroup.keeps_drop : Keeps job.drop Moves := by
  unfold JobCgroup.drop
  split
  · exact permits.pure _
  · refine permits.bind (permits.ask _ _) fun isThere => ?_
    split
    · exact permits.bind (permits.ask _ _) fun _ => permits.ask_map _ _ _
    · exact permits.pure _

/-! ### Children -/

theorem keeps_awaitExit (pid : ℕ) (deadline : MonotonicDeadline) :
    Keeps (awaitExit pid deadline) Moves :=
  keeps_awaitUntil permits
    (permits.bind (permits.ask_map _ _ _) fun _ => permits.pure _) deadline _

theorem OutputReaders.keeps_cancelAndJoin :
    Keeps OutputReaders.cancelAndJoin Moves :=
  permits.bind (permits.ask _ _) fun _ => permits.ask_map _ _ _

theorem OutputReaders.keeps_cancelAndCollect :
    Keeps OutputReaders.cancelAndCollect Moves :=
  permits.bind (permits.ask _ _) fun _ => permits.ask_map _ _ _

theorem OutputReaders.keeps_collectUntil :
    Keeps (OutputReaders.collectUntil deadline) Moves := by
  refine permits.bind (keeps_awaitUntil permits ?_ deadline true)
    fun timedOut => permits.bind (permits.ask _ _) fun _ =>
      permits.bind (permits.ask _ _) fun _ => ?_
  · exact permits.bind (permits.ask _ _) fun _ => permits.ask_map _ _ _
  · split <;> exact permits.pure _

theorem keeps_preparePipes : Keeps preparePipes Moves := by
  have prepared : ∀ pipe failure,
      Keeps (openPipe pipe failure : Run Shared _) Moves ∧
        Keeps (setNonblocking pipe failure : Run Shared _) Moves :=
    fun _ _ => ⟨permits.ask_map _ _ _, permits.ask_map _ _ _⟩
  refine permits.proceed (prepared _ _).1 fun _ =>
    permits.proceed (prepared _ _).1 fun _ =>
    permits.proceed (prepared _ _).2 fun _ =>
    permits.proceed (prepared _ _).1 fun _ =>
    permits.proceed (prepared _ _).1 fun _ =>
    permits.proceed (prepared _ _).2 fun _ =>
    permits.proceed (prepared _ _).2 fun _ => ?_
  exact permits.proceed (permits.ask_map _ _ _) fun _ =>
    permits.bind (permits.ask_map _ _ _) fun
      | .ok () => permits.pure _
      | .error _ => permits.ask_map _ _ _

theorem keeps_spawnInCgroup : Keeps spawnInCgroup Moves :=
  permits.proceed (keeps_preparePipes permits) fun _ =>
    permits.bind (permits.ask _ _) fun
      | .error _ => permits.bind (OutputReaders.keeps_cancelAndJoin permits)
          fun _ => permits.pure _
      | .ok _ => permits.pure _

namespace PendingProcess

variable (pending : PendingProcess)

theorem keeps_joinReaders :
    Keeps pending.joinReaders Moves := by
  unfold joinReaders
  split
  · exact permits.bind (OutputReaders.keeps_cancelAndJoin permits)
      fun _ => permits.pure _
  · exact permits.pure _

theorem keeps_abortUntil (deadline : MonotonicDeadline) :
    Keeps (pending.abortUntil deadline) Moves :=
  permits.bind (permits.ask _ _) fun _ =>
    permits.bind (keeps_awaitExit permits _ deadline) fun
      | .error _ => permits.pure _
      | .ok none => permits.bind (keeps_joinReaders permits _)
          fun _ => permits.pure _
      | .ok (some _) => permits.bind (keeps_joinReaders permits _)
          fun _ => permits.pure _

theorem keeps_drop :
    Keeps pending.drop Moves := by
  unfold drop
  split
  · exact permits.pure _
  · refine permits.bind ?_ fun _ => permits.pure _
    exact permits.bind (permits.ask _ _) fun _ =>
      permits.bind (permits.ask_map _ _ _) fun _ =>
      permits.bind (keeps_joinReaders permits _) fun _ => permits.pure _

end PendingProcess

theorem StartCommittedProcess.keeps_waitForExec
    (committed : StartCommittedProcess) :
    Keeps committed.waitForExec Moves := by
  refine permits.bind (permits.ask _ _) fun answer => ?_
  cases answer with
  | error error =>
      refine permits.proceed ?_ fun _ => permits.pure _
      exact permits.bind (permits.ask _ _) fun _ =>
        permits.bind (permits.ask_map _ _ _) fun _ =>
        permits.bind (OutputReaders.keeps_cancelAndJoin permits)
          fun _ => permits.pure _
  | ok payload =>
      dsimp only
      split
      · exact permits.pure _
      · split
        · exact permits.bind (permits.ask_map _ _ _) fun _ =>
            permits.bind (OutputReaders.keeps_cancelAndCollect permits)
              fun _ => permits.pure _
        · exact permits.bind (permits.ask_map _ _ _) fun _ =>
            permits.bind (OutputReaders.keeps_cancelAndJoin permits)
              fun _ => permits.pure _

theorem SpawnedProcess.keeps_reapAfterKillUntil (process : SpawnedProcess)
    (deadline : MonotonicDeadline) :
    Keeps (process.reapAfterKillUntil deadline) Moves :=
  permits.bind (keeps_awaitExit permits _ deadline) fun
    | .error _ => permits.pure _
    | .ok none => permits.pure _
    | .ok (some _) => permits.pure _

end Frame
end Linux
end TaskCage
