import TaskCage.Foundation.Json
import TaskCage.Profile.Runtime

/-!
# Responses of the Local protocol

The JSON forms of task snapshots, and the frames they are sent in.  A message
is first turned into a map, so the members of every object are ordered by
their names.
-/

namespace TaskCage
namespace Local

open Profile

/-! ### Frames -/

/-- The largest frame of the Local protocol. -/
def maxFrameBytes : ℕ :=
  1048576

/-- Why a message cannot be framed. -/
inductive FrameError where
  | nonObject
  | zeroLength
  | tooLarge (length max : ℕ)
deriving DecidableEq

/-- The check of the length of a payload. -/
def validateLength (length : ℕ) : Except FrameError Unit :=
  if length = 0 then .error .zeroLength
  else if maxFrameBytes < length then .error (.tooLarge length maxFrameBytes)
  else .ok ()

/-- The length prefix and the text of a frame. -/
structure Frame where
  length : ℕ
  payload : List Char

/-- The frame of a message. -/
def encodeJsonFrame (message : Json) : Except FrameError Frame :=
  match message with
  | .object _ =>
      (validateLength message.size).map fun () => ⟨message.size, message.render⟩
  | _ => .error .nonObject

/-- A message that is not too long has a frame. -/
theorem encodeJsonFrame_of_size_le {members : List (String × Json)}
    (short : (Json.object members).size ≤ maxFrameBytes) :
    ∃ frame, encodeJsonFrame (.object members) = .ok frame ∧
      frame.length ≤ maxFrameBytes := by
  have filled : (Json.object members).size ≠ 0 := by
    unfold Json.size
    cases members with
    | nil => decide
    | cons member rest =>
        rw [Json.render, Json.byteLength_cons, Json.utf8Size_openBrace]
        omega
  refine ⟨⟨_, (Json.object members).render⟩, ?_, short⟩
  unfold encodeJsonFrame validateLength
  dsimp only
  rw [if_neg filled, if_neg (Nat.not_lt.mpr short)]
  rfl

/-! ### Timestamps -/

/-- What `gmtime_r` answers for a time after the epoch, with the part of the
second that has passed. -/
structure Calendar where
  year : ℕ
  month : ℕ
  day : ℕ
  hour : ℕ
  minute : ℕ
  second : ℕ
  nanos : ℕ
  year_lt : year < 2 ^ 31
  month_le : month ≤ 12
  day_le : day ≤ 31
  hour_lt : hour < 24
  minute_lt : minute < 60
  second_le : second ≤ 60
  nanos_lt : nanos < 10 ^ 9

/-- A number with zeros in front, up to a width. -/
def padded (width value : ℕ) : List Char :=
  let digits := Json.renderNat value
  List.replicate (width - digits.length) '0' ++ digits

theorem length_padded {width value : ℕ} (positive : 0 < width)
    (short : value < 10 ^ width) : (padded width value).length = width := by
  have digits := (Json.digits_le_iff positive).mpr short
  unfold Json.digits at digits
  unfold padded
  rw [List.length_append, List.length_replicate]
  omega

/-- The text of a point in time; the epoch stands for what has no calendar. -/
def timestampNow : Option Calendar → String
  | none => "1970-01-01T00:00:00.000000000Z"
  | some calendar =>
      String.ofList
        (padded 4 calendar.year ++ '-' :: (padded 2 calendar.month ++
          '-' :: (padded 2 calendar.day ++ 'T' :: (padded 2 calendar.hour ++
            ':' :: (padded 2 calendar.minute ++
              ':' :: (padded 2 calendar.second ++
                '.' :: (padded 9 calendar.nanos ++ ['Z'])))))))

theorem length_timestampNow_le (calendar : Option Calendar) :
    (timestampNow calendar).toList.length ≤ 36 := by
  cases calendar with
  | none => exact Json.length_literal_le _ (by decide)
  | some calendar =>
      have year : (padded 4 calendar.year).length ≤ 10 := by
        have digits : (Json.renderNat calendar.year).length ≤ 10 :=
          (Json.digits_le_iff (by decide)).mpr
            (calendar.year_lt.trans (by decide))
        unfold padded
        rw [List.length_append, List.length_replicate]
        omega
      have two {value : ℕ} (short : value < 100) :
          (padded 2 value).length = 2 :=
        length_padded (by decide) short
      have nanos : (padded 9 calendar.nanos).length = 9 :=
        length_padded (by decide) calendar.nanos_lt
      rw [timestampNow, String.toList_ofList]
      simp only [List.length_append, List.length_cons, List.length_nil, nanos,
        two (calendar.month_le.trans_lt (by decide)),
        two (calendar.day_le.trans_lt (by decide)),
        two (calendar.hour_lt.trans (by decide)),
        two (calendar.minute_lt.trans (by decide)),
        two (calendar.second_le.trans_lt (by decide))]
      omega

/-! ### Snapshots -/

/-- An absent value is `null`. -/
def nullable {α : Type} (form : α → Json) : Option α → Json
  | none => .null
  | some value => form value

/-- The public name of a reason. -/
def terminationReasonToProtocol : TerminationReason → String
  | .exited => "EXITED"
  | .executionFailed => "EXECUTION_FAILED"
  | .cancelled => "CANCELLED"
  | .timedOut => "TIMED_OUT"
  | .memoryLimitExceeded => "MEMORY_LIMIT_EXCEEDED"
  | .processLimitExceeded => "PROCESS_LIMIT_EXCEEDED"
  | .daemonError => "DAEMON_ERROR"

/-- How the target process ended. -/
def processResult (process : ProcessResult) : Json :=
  .object
    [("exitCode", nullable .number process.exitCode),
      ("signal", nullable .string process.signal)]

/-- When the task ran. -/
def taskTiming (timing : TaskTiming) : Json :=
  .object
    [("finishedAt", .string timing.finishedAt),
      ("startedAt", .string timing.startedAt),
      ("submittedAt", .string timing.submittedAt),
      ("wallTimeMs", .number timing.wallTimeMs)]

/-- What the task used. -/
def taskUsage (usage : TaskUsage) : Json :=
  .object
    [("cpuTimeMicros", .number usage.cpuTimeMicros),
      ("memoryPeakBytes", .number usage.memoryPeakBytes)]

/-- What the task wrote. -/
def taskOutput (output : TaskOutput) : Json :=
  .object
    [("stderrTail", .string output.stderrTail),
      ("stderrTruncated", .bool output.stderrTruncated),
      ("stdoutTail", .string output.stdoutTail),
      ("stdoutTruncated", .bool output.stdoutTruncated)]

/-- The payload of a `task` response. -/
def taskSnapshot : TaskSnapshot → Json
  | .running taskId submittedAt startedAt =>
      .object
        [("startedAt", .string startedAt), ("state", .string "RUNNING"),
          ("submittedAt", .string submittedAt), ("taskId", .string taskId)]
  | .finished result =>
      .object
        [("output", taskOutput result.output),
          ("process", processResult result.process),
          ("state", .string "FINISHED"),
          ("taskId", .string result.taskId),
          ("terminationReason",
            .string (terminationReasonToProtocol result.terminationReason)),
          ("timing", taskTiming result.timing),
          ("usage", taskUsage result.usage)]

/-! ### Profile results -/

/-- The Profile of a task. -/
def profileIdentity (profile : ProfileIdentity) : Json :=
  .object [("name", .string profile.name), ("version", .string profile.version)]

/-- A published file. -/
def publishedWire (artifact : PublishedArtifact) : Json :=
  .object
    [("digest", .string artifact.digest),
      ("kind", .string "LOCAL_FILE"),
      ("mediaType", .string artifact.mediaType),
      ("path", .string artifact.path),
      ("sizeBytes", .number artifact.sizeBytes)]

/-- A failure. -/
def profileFailure (failure : ProfileFailurePayload) : Json :=
  .object [("code", .string failure.code), ("message", .string failure.message)]

/-- The members that the terminal state of a Profile task begins with. -/
def terminalMembers (outputSlot : String) :
    ProfileTerminal → List (String × Json)
  | .succeeded artifact =>
      [("artifacts", .object [(outputSlot, publishedWire artifact)])]
  | .failed failure =>
      [("artifacts", .object []), ("failure", profileFailure failure)]

/-- The public name of the outcome of a Profile task. -/
def profileOutcome : ProfileTerminal → String
  | .succeeded _ => "SUCCEEDED"
  | .failed _ => "FAILED"

/-- The terminal snapshot of a Profile task. -/
def finishedProfilePayload (task : ProfileTaskRecord) (result : TaskResult)
    (terminal : ProfileTerminal) : Json :=
  .object
    (terminalMembers task.outputSlot terminal ++
      [("output", taskOutput result.output),
        ("process", processResult result.process),
        ("profile", profileIdentity task.profile),
        ("profileOutcome", .string (profileOutcome terminal)),
        ("state", .string "FINISHED"),
        ("taskId", .string result.taskId),
        ("terminationReason",
          .string (terminationReasonToProtocol result.terminationReason)),
        ("timing", taskTiming result.timing),
        ("usage", taskUsage result.usage)])

/-- The payload of a `profileResult` response. -/
def profileSnapshot (task : ProfileTaskRecord) (terminal : ProfileTerminal) :
    TaskSnapshot → Json
  | .running taskId submittedAt startedAt =>
      .object
        [("profile", profileIdentity task.profile),
          ("startedAt", .string startedAt), ("state", .string "RUNNING"),
          ("submittedAt", .string submittedAt), ("taskId", .string taskId)]
  | .finished result => finishedProfilePayload task result terminal

/-! ### Responses -/

/-- The version of the protocol of raw tasks. -/
def protocolVersion : ℕ :=
  1

/-- The version of the protocol of Profiles. -/
def profileProtocolVersion : ℕ :=
  2

/-- A response. -/
def response (type : String) (version : ℕ) (requestId : String)
    (payload : Json) : Json :=
  .object
    [("payload", payload),
      ("protocolVersion", .number version),
      ("requestId", .string requestId),
      ("type", .string type)]

/-- The answer to `getTask`. -/
def taskResponse (requestId : String) (snapshot : TaskSnapshot) : Json :=
  response "task" protocolVersion requestId (taskSnapshot snapshot)

/-- The answer to `getProfileResult`. -/
def profileResultResponse (requestId : String) (task : ProfileTaskRecord)
    (terminal : ProfileTerminal) (snapshot : TaskSnapshot) : Json :=
  response "profileResult" profileProtocolVersion requestId
    (profileSnapshot task terminal snapshot)

end Local
end TaskCage
