import TaskCage.Linux.Await

/-!
# Job cgroups

Creating the cgroup of a task, killing what is in it, and removing it once it
is empty.  A removal is evidence of a cleanup only after the cgroup was seen
without processes.
-/

namespace TaskCage
namespace Linux

open Process

/-- Limits that are written to a cgroup. -/
structure CgroupLimits where
  memoryMaxBytes : NonZeroU64
  maxProcesses : NonZeroU64
  cpu : CpuPolicy
deriving DecidableEq

/-- Resources a task has used, with the events since it began. -/
structure JobStats where
  cpuUsageMicros : ℕ
  memoryCurrentBytes : ℕ
  memoryPeakBytes : ℕ
  currentProcesses : ℕ
  peakProcesses : Option ℕ
  eventDelta : KernelEvents
deriving DecidableEq

/-- The cgroup of one task.  Its limits have been written and read back. -/
structure JobCgroup where
  jobId : String
  path : String
  baseline : KernelEvents
  verifiedLimits : CgroupLimits
  cleaned : Bool
deriving DecidableEq

/-- The directory in which job cgroups are made. -/
structure CgroupManager where
  jobs : String
deriving DecidableEq

variable {Shared : Type}

namespace CgroupManager

/-- Where the cgroup of a job lies. -/
def jobPath (manager : CgroupManager) (jobId : String) : String :=
  manager.jobs ++ "/job-" ++ jobId

/-- Job names are short and have letters, digits, hyphens and underscores. -/
def validateJobId (jobId : String) : Except CgroupPathError Unit :=
  if jobId ≠ "" ∧ jobId.utf8ByteSize ≤ 64 ∧
      jobId.toList.all (fun char =>
        char.isAlphanum || char == '-' || char == '_') then
    .ok ()
  else
    .error (.invalidJobId jobId)

/-- The path of a new job, unless the name is wrong or in use. -/
def newJobPath (manager : CgroupManager) (jobId : String) :
    Run Shared (Except CgroupPathError String) :=
  match validateJobId jobId with
  | .error error => pure (.error error)
  | .ok () => do
      let path := manager.jobPath jobId
      match ← ask (fun answers world => answers.jobLookup world path)
          (.jobLookedUp path) with
      | .ok true => pure (.error (.duplicateJobId jobId path))
      | .ok false => pure (.ok path)
      | .error source => pure (.error (.io "작업 cgroup 중복 확인" path source))

/-- The error of a cgroup that could be neither configured nor removed. -/
def rollbackError (error : CgroupError) (cleanup : IoError) : CgroupError :=
  match error with
  | .valueMismatch path expected actual =>
      .readBackRollbackUncertain (.valueMismatch path expected actual)
        cleanup.text
  | other => .cleanupCombined other.message cleanup.text

/-- Make and configure a cgroup; remove it again when the limits do not
hold. -/
def createJob (manager : CgroupManager) (jobId : String)
    (limits : CgroupLimits) : Run Shared (Except CgroupError JobCgroup) := do
  match ← manager.newJobPath jobId with
  | .error error => pure (.error (.jobPath error))
  | .ok path =>
      match ← ask (fun answers world => answers.jobCreate world path)
          (.jobCreated path) with
      | .error source => pure (.error (.io "작업 cgroup 만들기" path source))
      | .ok () =>
          match ← ask (fun answers world => answers.jobConfigure world path)
              (.jobConfigured path) with
          | .ok baseline =>
              pure (.ok
                { jobId, path, baseline
                  verifiedLimits := limits
                  cleaned := false })
          | .error error =>
              let _ ← ask (fun answers world => answers.jobKill world path)
                (.jobKilled path)
              match ← ask (fun answers world => answers.jobRemove world path)
                  (.jobRemoved path) with
              | .ok () => pure (.error error)
              | .error cleanup => pure (.error (rollbackError error cleanup))

end CgroupManager

namespace JobCgroup

/-- Whether there is a process in the cgroup. -/
def isPopulated (job : JobCgroup) : Run Shared (Except CgroupError Bool) :=
  ask (fun answers world => answers.jobPopulated world job.path)
    (.jobObserved job.path)

/-- Whether a process is in the cgroup. -/
def containsPid (job : JobCgroup) (pid : ℕ) :
    Run Shared (Except CgroupError Bool) :=
  ask (fun answers world => answers.jobMember world job.path pid)
    (.memberObserved job.path pid)

/-- Kill every process in the cgroup. -/
def killAll (job : JobCgroup) : Run Shared (Except CgroupError Unit) :=
  ask (fun answers world => answers.jobKill world job.path)
    (.jobKilled job.path)

/-- The statistics that readings mean for a job. -/
def statsOf (job : JobCgroup) (readings : JobReadings) : JobStats where
  cpuUsageMicros := readings.cpuUsageMicros
  memoryCurrentBytes := readings.memoryCurrentBytes
  memoryPeakBytes := readings.memoryPeakBytes.getD readings.memoryCurrentBytes
  currentProcesses := readings.currentProcesses
  peakProcesses := readings.peakProcesses
  eventDelta := readings.events.deltaFrom job.baseline

/-- Read the statistics of the job. -/
def stats (job : JobCgroup) : Run Shared (Except CgroupError JobStats) := do
  let readings ← ask (fun answers world => answers.jobStats world job.path)
    (.statsRead job.path)
  pure (readings.map job.statsOf)

/-- One look at whether the cgroup is empty. -/
def lookEmpty (job : JobCgroup) :
    Run Shared (Option (Except CgroupError Unit)) := do
  let populated ← job.isPopulated
  pure (match populated with
    | .error error => some (.error error)
    | .ok false => some (.ok ())
    | .ok true => none)

/-- Wait until the cgroup is empty. -/
def waitEmptyUntil (job : JobCgroup) (deadline : MonotonicDeadline) :
    Run Shared (Except CgroupError Unit) :=
  awaitUntil job.lookEmpty deadline
    (.error (.emptyTimeout job.path deadline.budget))

/-- The outcome of reading the statistics and removing the cgroup. -/
def finishResult (job : JobCgroup) (stats : Except CgroupError JobStats)
    (removal : Except IoError Unit) : Except CgroupError JobStats :=
  match stats, removal with
  | .ok stats, .ok () => .ok stats
  | .error primary, .ok () => .error primary
  | .ok _, .error cleanup => .error (.io "작업 cgroup 제거" job.path cleanup)
  | .error primary, .error cleanup =>
      .error (.cleanupCombined primary.message
        (CgroupError.io "작업 cgroup 제거" job.path cleanup).message)

/-- Confirm that the cgroup is empty, read its statistics and remove it; the
removal is tried even when the statistics cannot be read. -/
def finishAfterKillUntil (job : JobCgroup) (deadline : MonotonicDeadline) :
    Run Shared (Except CgroupError JobStats × JobCgroup) := do
  match ← job.waitEmptyUntil deadline with
  | .error error => pure (.error error, job)
  | .ok () =>
      match ← remaining deadline with
      | none => pure (.error (.emptyTimeout job.path deadline.budget), job)
      | some _ =>
          let stats ← job.stats
          let removal ←
            ask (fun answers world => answers.jobRemove world job.path)
              (.jobRemoved job.path)
          pure (job.finishResult stats removal,
            { job with cleaned := job.cleaned || removal.isOk })

/-- Kill what is left in the cgroup, then finish. -/
def finishUntil (job : JobCgroup) (deadline : MonotonicDeadline) :
    Run Shared (Except CgroupError JobStats × JobCgroup) := do
  match ← job.isPopulated with
  | .error error => pure (.error error, job)
  | .ok false => job.finishAfterKillUntil deadline
  | .ok true =>
      match ← job.killAll with
      | .error error => pure (.error error, job)
      | .ok () => job.finishAfterKillUntil deadline

/-- The last defence when a job is given up: nothing is checked. -/
def drop (job : JobCgroup) : Run Shared Unit :=
  if job.cleaned then
    pure ()
  else do
    let isThere ← ask (fun answers world => answers.jobExists world job.path)
      (.jobExists job.path)
    if isThere then
      let _ ← ask (fun answers world => answers.jobKill world job.path)
        (.jobKilled job.path)
      let _ ← ask (fun answers world => answers.jobRemove world job.path)
        (.jobRemoved job.path)
      pure ()
    else
      pure ()

end JobCgroup
end Linux
end TaskCage
