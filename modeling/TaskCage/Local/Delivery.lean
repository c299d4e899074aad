import TaskCage.Executor.Lifecycle
import TaskCage.Linux.Capture
import TaskCage.Local.Protocol
import TaskCage.Profile.Publication
import Mathlib.Tactic.FinCases

/-!
# Results fit into their frames

The tails of the two streams dominate the size of a result.  Lossy decoding
yields at most one character for each byte and escaping at most six bytes for
each character, so the tails take at most three quarters of a frame; every
other member is bounded by what its value may be.
-/

namespace TaskCage
namespace Local

open Json Profile Executor Linux

/-! ### The values of a finished task -/

/-- Bounds of the values in a terminal snapshot, under an output policy. -/
structure Bounded (policy : OutputPolicy) (result : TaskResult) : Prop where
  taskId : result.taskId.toList.length = 36
  exitCode : ∀ code, result.process.exitCode = some code →
    -2 ^ 31 ≤ code ∧ code < 2 ^ 31
  signal : ∀ name, result.process.signal = some name → name.toList.length ≤ 11
  submittedAt : result.timing.submittedAt.toList.length ≤ 36
  startedAt : result.timing.startedAt.toList.length ≤ 36
  finishedAt : result.timing.finishedAt.toList.length ≤ 36
  wallTimeMs : result.timing.wallTimeMs < 2 ^ 64
  cpuTimeMicros : result.usage.cpuTimeMicros < 2 ^ 64
  memoryPeakBytes : result.usage.memoryPeakBytes < 2 ^ 64
  stdoutTail : result.output.stdoutTail.toList.length ≤
    policy.stdoutTailMaxBytes
  stderrTail : result.output.stderrTail.toList.length ≤
    policy.stderrTailMaxBytes

/-- An execution under an output policy: its stamps are those of the clock, its
numbers those of the kernel's types, and its output is what two readers have
captured. -/
structure Ran (policy : OutputPolicy) (task : RunningTask)
    (completion : CompletionData) (finishedAt : String) : Prop where
  taskId : Names.isUuid task.taskId = true
  submittedAt : ∃ clock, task.submittedAt = timestampNow clock
  startedAt : ∃ clock, task.startedAt = timestampNow clock
  finishedAt : ∃ clock, finishedAt = timestampNow clock
  exitCode : ∀ process code, completion.evidence = .started process →
    process.exitCode = some code → -2 ^ 31 ≤ code ∧ code < 2 ^ 31
  cpuUsageMicros : completion.stats.cpuUsageMicros < 2 ^ 64
  memoryPeakBytes : completion.stats.memoryPeakBytes < 2 ^ 64
  output : ∃ stdout stderr, completion.output =
    ⟨drainOutput policy.stdoutTailMaxBytes policy.stdout_pos stdout,
      drainOutput policy.stderrTailMaxBytes policy.stderr_pos stderr⟩

variable {value name : String} {evidence : ExecutionEvidence}
variable {process : ProcessResult}

theorem length_of_isUuid (uuid : Names.isUuid value = true) :
    value.toList.length = 36 := by
  unfold Names.isUuid at uuid
  simp only [Bool.and_eq_true, decide_eq_true_eq] at uuid
  exact uuid.1

theorem length_standardSignalNames_le {pair : ℤ × String}
    (member : pair ∈ standardSignalNames) : pair.2.toList.length ≤ 11 := by
  fin_cases member
  all_goals exact length_literal_le _ (by decide)

theorem length_linuxSignalName_le {signal : ℤ}
    (known : linuxSignalName signal = some name) :
    name.toList.length ≤ 11 := by
  unfold linuxSignalName at known
  split at known
  · rename_i range
    cases known
    obtain ⟨count, counted⟩ := Int.eq_ofNat_of_zero_le
      (show 0 ≤ signal - 34 by omega)
    have digits : (toString (signal - 34)).toList.length ≤ 2 := by
      rw [counted]
      change (Nat.repr count).toList.length ≤ 2
      rw [Nat.repr, String.toList_ofList]
      exact (Nat.length_toDigits_le_iff (by decide) (by decide)).mpr (by omega)
    exact length_append_le (m := 9) (length_literal_le _ (by decide)) digits
  · obtain ⟨before, after, split, -⟩ := List.lookup_eq_some_iff.mp known
    have member : (signal, name) ∈ standardSignalNames := by
      rw [split]
      exact List.mem_append_right _ List.mem_cons_self
    exact length_standardSignalNames_le member

theorem signal_of_processResult
    (mapped : SingleTaskLifecycle.processResult evidence = .ok process)
    (signalled : process.signal = some name) : name.toList.length ≤ 11 := by
  cases evidence with
  | startFailed errno =>
      cases mapped
      cases signalled
  | started evidence =>
      change mapProcessResult evidence = .ok process at mapped
      unfold mapProcessResult at mapped
      split at mapped
      · cases mapped
        cases signalled
      · split at mapped
        · rename_i known
          cases mapped
          cases signalled
          exact length_linuxSignalName_le known
        · cases mapped
      · cases mapped

theorem exitCode_of_processResult {code : ℤ}
    (mapped : SingleTaskLifecycle.processResult evidence = .ok process)
    (exited : process.exitCode = some code) :
    ∃ status, evidence = .started status ∧ status.exitCode = some code := by
  cases evidence with
  | startFailed errno =>
      cases mapped
      cases exited
  | started status =>
      refine ⟨status, rfl, ?_⟩
      change mapProcessResult status = .ok process at mapped
      unfold mapProcessResult at mapped
      split at mapped
      · rename_i found _
        cases mapped
        rw [found]
        exact exited
      · split at mapped
        · cases mapped
          cases exited
        · cases mapped
      · cases mapped

theorem lt_of_wallTimeMs {finished started millis : ℕ}
    (measured : SingleTaskLifecycle.wallTimeMs finished started =
      .ok millis) : millis < 2 ^ 64 := by
  unfold SingleTaskLifecycle.wallTimeMs at measured
  split at measured
  · cases measured
  · split at measured
    · cases measured
      assumption
    · cases measured

section Completed

variable {policy : OutputPolicy} {task : RunningTask}
variable {completion : CompletionData} {finishedAt : String}
variable {finishedMonotonic : ℕ} {payload : TaskSnapshot}
variable {next : SingleTaskLifecycle}

/-- Whatever the program wrote, the terminal snapshot of its task is
bounded. -/
theorem bounded_of_complete (ran : Ran policy task completion finishedAt)
    (completed : (SingleTaskLifecycle.running task).complete completion
      finishedAt finishedMonotonic = .ok (payload, next)) :
    ∃ result, payload = .finished result ∧ Bounded policy result := by
  unfold SingleTaskLifecycle.complete at completed
  dsimp only at completed
  cases mapped : SingleTaskLifecycle.processResult completion.evidence with
  | error error =>
      rw [mapped] at completed
      cases completed
  | ok process =>
      rw [mapped] at completed
      cases measured : SingleTaskLifecycle.wallTimeMs finishedMonotonic
          task.startedMonotonic with
      | error error =>
          rw [measured] at completed
          cases completed
      | ok millis =>
          rw [measured] at completed
          cases completed
          obtain ⟨submitted, submittedAt⟩ := ran.submittedAt
          obtain ⟨started, startedAt⟩ := ran.startedAt
          obtain ⟨finished, stamped⟩ := ran.finishedAt
          obtain ⟨stdout, stderr, captured⟩ := ran.output
          refine ⟨_, rfl, ?_⟩
          exact
            { taskId := length_of_isUuid ran.taskId
              exitCode := fun code exited => by
                obtain ⟨status, shape, found⟩ :=
                  exitCode_of_processResult mapped exited
                exact ran.exitCode status code shape found
              signal := fun name => signal_of_processResult mapped
              submittedAt := by
                change task.submittedAt.toList.length ≤ 36
                rw [submittedAt]
                exact length_timestampNow_le submitted
              startedAt := by
                change task.startedAt.toList.length ≤ 36
                rw [startedAt]
                exact length_timestampNow_le started
              finishedAt := by
                change finishedAt.toList.length ≤ 36
                rw [stamped]
                exact length_timestampNow_le finished
              wallTimeMs := lt_of_wallTimeMs measured
              cpuTimeMicros := ran.cpuUsageMicros
              memoryPeakBytes := ran.memoryPeakBytes
              stdoutTail := by
                change (Utf8.fromUtf8Lossy
                  completion.output.stdout.tail).toList.length ≤ _
                rw [captured]
                exact (Utf8.length_fromUtf8Lossy_le _).trans
                  (length_drainOutput_le _ stdout)
              stderrTail := by
                change (Utf8.fromUtf8Lossy
                  completion.output.stderr.tail).toList.length ≤ _
                rw [captured]
                exact (Utf8.length_fromUtf8Lossy_le _).trans
                  (length_drainOutput_le _ stderr) }

end Completed

/-! ### Sizes of messages -/

/-- No field of a response has a name of more than twenty characters. -/
theorem size_field_le (key : List Char) {value : Json}
    {rest : List (String × Json)} {here later : ℕ} (name : key.length ≤ 20)
    (first : size value ≤ here) (others : size (.object rest) ≤ later) :
    size (.object ((String.ofList key, value) :: rest)) ≤
      here + later + 124 := by
  refine (size_member_le (length_literal_le key name) first others).trans ?_
  omega

theorem size_literal_le (text : List Char) (short : text.length ≤ 22) :
    size (.string (String.ofList text)) ≤ 134 :=
  size_string_le (length_literal_le text short)

variable (reason : TerminationReason)

theorem size_terminationReason_le :
    size (.string (terminationReasonToProtocol reason)) ≤ 134 := by
  cases reason
  all_goals exact size_literal_le _ (by decide)

section Sizes

variable {policy : OutputPolicy} {result : TaskResult}

theorem size_processResult_le (bounded : Bounded policy result) :
    size (processResult result.process) ≤ 329 := by
  have code : size (nullable .number result.process.exitCode) ≤ 11 := by
    cases found : result.process.exitCode with
    | none => decide
    | some code =>
        obtain ⟨low, high⟩ := bounded.exitCode code found
        exact size_int_le low high
  have signal : size (nullable .string result.process.signal) ≤ 68 := by
    cases found : result.process.signal with
    | none => decide
    | some name => exact size_string_le (bounded.signal name found)
  refine (size_field_le _ (by decide) code (size_field_le _ (by decide)
    signal size_object_nil_le)).trans ?_
  decide

theorem size_taskTiming_le (bounded : Bounded policy result) :
    size (taskTiming result.timing) ≤ 1172 := by
  refine (size_field_le _ (by decide) (size_string_le bounded.finishedAt)
    (size_field_le _ (by decide) (size_string_le bounded.startedAt)
      (size_field_le _ (by decide) (size_string_le bounded.submittedAt)
        (size_field_le _ (by decide) (size_natCast_le bounded.wallTimeMs)
          size_object_nil_le)))).trans ?_
  decide

theorem size_taskUsage_le (bounded : Bounded policy result) :
    size (taskUsage result.usage) ≤ 290 := by
  refine (size_field_le _ (by decide) (size_natCast_le bounded.cpuTimeMicros)
    (size_field_le _ (by decide) (size_natCast_le bounded.memoryPeakBytes)
      size_object_nil_le)).trans ?_
  decide

/-- The two tails together, at six bytes for each byte of the policy. -/
theorem size_taskOutput_le (bounded : Bounded policy result) :
    size (taskOutput result.output) ≤ 6 * maxTotalOutputBytes + 512 := by
  have total := policy.total_le
  refine (size_field_le _ (by decide) (size_string_le bounded.stderrTail)
    (size_field_le _ (by decide) (size_bool_le _)
      (size_field_le _ (by decide) (size_string_le bounded.stdoutTail)
        (size_field_le _ (by decide) (size_bool_le _)
          size_object_nil_le)))).trans ?_
  omega

theorem size_taskSnapshot_le (bounded : Bounded policy result) :
    size (taskSnapshot (.finished result)) ≤
      6 * maxTotalOutputBytes + 4000 := by
  refine (size_field_le _ (by decide) (size_taskOutput_le bounded)
    (size_field_le _ (by decide) (size_processResult_le bounded)
      (size_field_le _ (by decide) (size_literal_le _ (by decide))
        (size_field_le _ (by decide) (size_string_le bounded.taskId.le)
          (size_field_le _ (by decide) (size_terminationReason_le _)
            (size_field_le _ (by decide) (size_taskTiming_le bounded)
              (size_field_le _ (by decide) (size_taskUsage_le bounded)
                size_object_nil_le))))))).trans ?_
  decide

theorem size_response_le {type : List Char} {version bound : ℕ}
    {requestId : String} {payload : Json} (short : type.length ≤ 22)
    (word : version < 2 ^ 64) (uuid : Names.isUuid requestId = true)
    (fits : size payload ≤ bound) :
    size (response (String.ofList type) version requestId payload) ≤
      bound + 870 := by
  refine (size_field_le _ (by decide) fits
    (size_field_le _ (by decide) (size_natCast_le word)
      (size_field_le _ (by decide) (size_string_le (length_of_isUuid uuid).le)
        (size_field_le _ (by decide) (size_literal_le type short)
          size_object_nil_le)))).trans ?_
  omega

end Sizes

/-! ### Profile results -/

/-- A Profile that a catalogue holds: its name is valid, and its version is the
text of three 64-bit numbers. -/
structure Catalogued (profile : ProfileIdentity) : Prop where
  name : Names.isValidCapsuleName profile.name = true
  version : ∃ major minor patch : ℕ,
    major < 2 ^ 64 ∧ minor < 2 ^ 64 ∧ patch < 2 ^ 64 ∧
      profile.version =
        toString major ++ "." ++ toString minor ++ "." ++ toString patch

/-- A terminal state whose texts are bounded. -/
def Presentable : ProfileTerminal → Prop
  | .succeeded artifact =>
      artifact.digest.toList.length ≤ 71 ∧
        artifact.mediaType.toList.length ≤ 255 ∧
        artifact.path.toList.length ≤ 298 ∧ artifact.sizeBytes < 2 ^ 64
  | .failed failure =>
      failure.code.toList.length ≤ 25 ∧ failure.message.toList.length ≤ 5196

theorem length_toString_le {value : ℕ} (word : value < 2 ^ 64) :
    (toString value).toList.length ≤ 20 := by
  change (Nat.repr value).toList.length ≤ 20
  rw [Nat.repr, String.toList_ofList]
  exact (Nat.length_toDigits_le_iff (by decide) (by decide)).mpr
    (word.trans (by decide))

theorem length_digest (valid : Names.validDigest value = true) :
    value.toList.length = 71 := by
  simp only [Names.validDigest, Bool.and_eq_true, decide_eq_true_eq] at valid
  exact valid.1.1

theorem length_outputFailureCode_le (error : ArtifactStoreError) :
    (outputFailureCode error).toList.length ≤ 25 := by
  cases error
  all_goals exact length_literal_le _ (by decide)

theorem length_processFailureCode_le :
    (processFailureCode reason).toList.length ≤ 25 := by
  cases reason
  all_goals exact length_literal_le _ (by decide)

theorem length_reasonName_le :
    (reasonName reason).toList.length ≤ 25 := by
  cases reason
  all_goals exact length_literal_le _ (by decide)

/-- Whatever the file system answers, the terminal state of a task below a root
of at most 4096 bytes is bounded. -/
theorem presentable_of_finalize {root : Path} {taskId : String}
    {declared : Profile.DeclaredOutputArtifact} {answers : StagedAnswers}
    {result : TaskResult} {terminal : ProfileTerminal}
    (short : root.length ≤ 4096) (uuid : taskId.toList.length = 36)
    (publishes : Publishes root taskId declared answers)
    (finalized : finalize answers (.finished result) = .ok terminal) :
    Presentable terminal := by
  unfold finalize at finalized
  dsimp only at finalized
  split at finalized
  · split at finalized
    · cases finalized
    · rename_i artifact published
      cases finalized
      obtain ⟨digest, sizeBytes, valid, word, rfl⟩ :=
        publishes.published artifact published
      have fileName : declared.fileName.toList.length ≤ 255 :=
        (length_le_byteLength _).trans declared.fileName_le
      refine ⟨(length_digest valid).le,
        (length_le_byteLength _).trans declared.mediaType_le, ?_, word⟩
      have folder : "tasks/".toList.length ≤ 6 :=
        length_literal_le _ (by decide)
      have separator : "/".toList.length ≤ 1 := length_literal_le _ (by decide)
      exact length_append_le (length_append_le
        (length_append_le folder uuid.le) separator) fileName
    · rename_i error rejected
      cases finalized
      obtain ⟨cause, rfl⟩ := publishes.rejected error rejected
      refine ⟨length_outputFailureCode_le _, ?_⟩
      rw [PublishError.message_storeError]
      exact (cause.length_text_le root uuid).trans (by omega)
  · split at finalized
    · cases finalized
    · cases finalized
      refine ⟨length_processFailureCode_le _, ?_⟩
      exact (length_append_le (m := 40) (length_literal_le _ (by decide))
        (length_reasonName_le _)).trans (by decide)

section ProfileSizes

variable {policy : OutputPolicy} {result : TaskResult}
variable {task : ProfileTaskRecord} {terminal : ProfileTerminal}

theorem size_profileIdentity_le (catalogued : Catalogued task.profile) :
    size (profileIdentity task.profile) ≤ 1004 := by
  have name := Names.length_le_of_isValidCapsuleName catalogued.name
  obtain ⟨major, minor, patch, first, second, third, text⟩ := catalogued.version
  have version : task.profile.version.toList.length ≤ 62 := by
    have dot : ".".toList.length ≤ 1 := length_literal_le _ (by decide)
    rw [text]
    exact length_append_le (length_append_le (length_append_le
      (length_append_le (length_toString_le first) dot)
      (length_toString_le second)) dot) (length_toString_le third)
  refine (size_field_le _ (by decide) (size_string_le name)
    (size_field_le _ (by decide) (size_string_le version)
      size_object_nil_le)).trans ?_
  decide

theorem size_publishedWire_le {artifact : PublishedArtifact}
    (presentable : Presentable (.succeeded artifact)) :
    size (publishedWire artifact) ≤ 4526 := by
  obtain ⟨digest, mediaType, path, word⟩ := presentable
  refine (size_field_le _ (by decide) (size_string_le digest)
    (size_field_le _ (by decide) (size_literal_le _ (by decide))
      (size_field_le _ (by decide) (size_string_le mediaType)
        (size_field_le _ (by decide) (size_string_le path)
          (size_field_le _ (by decide) (size_natCast_le word)
            size_object_nil_le))))).trans ?_
  decide

theorem size_profileFailure_le {failure : ProfileFailurePayload}
    (presentable : Presentable (.failed failure)) :
    size (profileFailure failure) ≤ 31580 := by
  refine (size_field_le _ (by decide) (size_string_le presentable.1)
    (size_field_le _ (by decide) (size_string_le presentable.2)
      size_object_nil_le)).trans ?_
  decide

/-- The members of the terminal state before the members of the task. -/
theorem size_terminalMembers_le {rest : List (String × Json)} {later : ℕ}
    (slot : Names.validateSlot task.outputSlot = true)
    (presentable : Presentable terminal)
    (others : size (.object rest) ≤ later) :
    size (.object (terminalMembers task.outputSlot terminal ++ rest)) ≤
      later + 32000 := by
  have named := Names.length_le_of_validateSlot slot
  cases terminal with
  | succeeded artifact =>
      refine (size_field_le _ (by decide) (size_member_le named
        (size_publishedWire_le presentable) size_object_nil_le)
        others).trans ?_
      omega
  | failed failure =>
      refine (size_field_le _ (by decide) size_object_nil_le
        (size_field_le _ (by decide) (size_profileFailure_le presentable)
          others)).trans ?_
      omega

theorem size_finishedProfilePayload_le (bounded : Bounded policy result)
    (catalogued : Catalogued task.profile)
    (slot : Names.validateSlot task.outputSlot = true)
    (presentable : Presentable terminal) :
    size (finishedProfilePayload task result terminal) ≤
      6 * maxTotalOutputBytes + 38000 := by
  have outcome : size (.string (profileOutcome terminal)) ≤ 134 := by
    cases terminal
    all_goals exact size_literal_le _ (by decide)
  refine (size_terminalMembers_le slot presentable
    (size_field_le _ (by decide) (size_taskOutput_le bounded)
      (size_field_le _ (by decide) (size_processResult_le bounded)
        (size_field_le _ (by decide) (size_profileIdentity_le catalogued)
          (size_field_le _ (by decide) outcome
            (size_field_le _ (by decide) (size_literal_le _ (by decide))
              (size_field_le _ (by decide) (size_string_le bounded.taskId.le)
                (size_field_le _ (by decide) (size_terminationReason_le _)
                  (size_field_le _ (by decide) (size_taskTiming_le bounded)
                    (size_field_le _ (by decide) (size_taskUsage_le bounded)
                      size_object_nil_le)))))))))).trans ?_
  decide

end ProfileSizes

/-! ### Delivery -/

/-! A program that writes a byte that is no UTF-8, and a control character. -/

/-- The identifier of the request and of the task. -/
def exampleId : String :=
  "01234567-89ab-4def-8123-456789abcdef"

/-- The running task. -/
def exampleTask : RunningTask where
  taskId := exampleId
  submittedAt := timestampNow none
  startedAt := timestampNow none
  startedMonotonic := 0

/-- What its execution left. -/
def exampleCompletion : CompletionData where
  evidence := .started ⟨some 0, none⟩
  control := ⟨none⟩
  stats := ⟨0, 0, 0, 0, none, ⟨0, 0, 0⟩⟩
  output :=
    ⟨drainOutput 1 Nat.one_pos [[0xFF]], drainOutput 1 Nat.one_pos [[0]]⟩
  daemonError := false

/-- Its terminal snapshot. -/
def examplePayload : TaskSnapshot :=
  .finished
    { taskId := exampleId
      terminationReason := .exited
      process := ⟨some 0, none⟩
      timing := ⟨timestampNow none, timestampNow none, timestampNow none, 0⟩
      usage := ⟨0, 0⟩
      output := exampleCompletion.output.intoTaskOutput }

/-- The record of its Profile. -/
def exampleRecord : ProfileTaskRecord where
  taskId := exampleId
  profile := ⟨"file-copy", "1.0.0"⟩
  budget := .smallest
  outputSlot := "result"

/-- What the file system answers when there is no output. -/
def exampleAnswers : StagedAnswers where
  publish := .ok (.error ((PublishError.undeclaredOutput
    (.folder .output)).storeError (ascii "/data") exampleId))
  cleanup := .ok ()

/-- The terminal state that follows. -/
def exampleTerminal : ProfileTerminal :=
  .failed ⟨"OUTPUT_CONTRACT_VIOLATION",
    (PublishError.undeclaredOutput (.folder .output)).text (ascii "/data")
      exampleId⟩

end Local
end TaskCage
