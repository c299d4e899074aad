import TaskCage.Artifact.Serving
import TaskCage.Foundation.Reach
import TaskCage.Remote.Dispatcher

/-!
# Remote calls at the same time

Any number of Remote calls and completion monitors go on at the same time.  A
call moves from one locked section to the next; between two of its steps the
other calls, the task registry and the clients of the artifact store may do
anything.  The lock on the submissions is held from the look at a record to the
answer, and the lock on the finished tasks from the look for a report to its
entry.
-/

namespace TaskCage
namespace Remote

open Profile Artifact

/-! ### Calls -/

/-- A submission of a client. -/
structure Submission where
  principal : ClientId
  requestId : String
  payload : RemoteProfileRequestPayload

/-- The key of a submission. -/
def Submission.key (submission : Submission) : SubmissionKey :=
  toLex (submission.principal.1, submission.payload.clientRequestId)

/-- The inputs of a submission. -/
def managedInputIds (payload : RemoteProfileRequestPayload) : List String :=
  payload.inputs.entries.filterMap fun entry =>
    match entry.2 with
    | .managedInput artifactId => some artifactId
    | .string _ => none
    | .int64 _ => none
    | .boolean _ => none

/-- Why the Local side is asked about a task. -/
inductive Purpose where
  /-- A submission looks whether the task of a record is retained. -/
  | retention (submission : Submission) (key : SubmissionKey)
      (record : SubmissionRecord)
  | result (principal : ClientId) (requestId taskId : String)
  | cancellation (principal : ClientId) (requestId taskId : String)

/-- Who must own the task. -/
def Purpose.principal : Purpose → String
  | retention _ key _ => (ofLex key).1
  | result principal _ _ => principal.1
  | cancellation principal _ _ => principal.1

/-- The task that is asked about. -/
def Purpose.taskId : Purpose → String
  | retention _ _ record => record.taskId
  | result _ _ taskId => taskId
  | cancellation _ _ taskId => taskId

/-- What the Local side answers to a submission. -/
inductive LocalAnswer where
  | accepted (payload : ProfileAcceptedPayload)
  | result (payload : LocalTaskPayload)

/-- The task of an answer. -/
def LocalAnswer.taskId : LocalAnswer → String
  | accepted payload => payload.taskId
  | result payload => payload.taskId

/-- Who wants a report. -/
inductive Source where
  | submit (submission : Submission)
  | result (principal : ClientId) (requestId : String)
  | monitor (principal : ClientId)

/-- Whose task it is. -/
def Source.principal : Source → ClientId
  | submit submission => submission.principal
  | result principal _ => principal
  | monitor principal => principal

/-- A task that has ended, as the Local side reports it. -/
structure Ended where
  profile : ProfileIdentity
  outputSlot : String
  result : TaskResult
  terminal : ProfileTerminal

/-- The report of the Local side. -/
def Ended.payload (ended : Ended) : LocalTaskPayload :=
  .finished ended.profile ended.outputSlot ended.result ended.terminal

/-- The report to the client. -/
def Ended.report (ended : Ended)
    (managed : List (String × ManagedOutputArtifactPayload)) :
    RemoteTaskPayload :=
  finishedPayload ended.profile ended.result ended.terminal managed

/-- Why the inputs of a task are removed. -/
inductive Sweep where
  | forgotten (purpose : Purpose)
  | reported (source : Source) (ended : Ended)
      (managed : List (String × ManagedOutputArtifactPayload))
  | unpublished (source : Source) (taskId : String)
  | cancelled (taskId : String)
  | abandoned (taskId : String)

/-- The task whose inputs are removed. -/
def Sweep.taskId : Sweep → String
  | forgotten purpose => purpose.taskId
  | reported _ ended _ => ended.result.taskId
  | unpublished _ taskId => taskId
  | cancelled taskId => taskId
  | abandoned taskId => taskId

/-- Where a call is. -/
inductive Call where
  | idle
  /-- Before the lock on the submissions. -/
  | waiting (submission : Submission)
  | holding (submission : Submission)
  /-- Before `remote_task_owned_by`. -/
  | looking (purpose : Purpose)
  /-- Before the answer of the Local side. -/
  | asking (purpose : Purpose)
  /-- Before `remove_remote_task_if_owned` in `forget_task`. -/
  | removing (purpose : Purpose)
  /-- Before the cache is cleared in `forget_task`. -/
  | clearing (purpose : Purpose)
  /-- Before the owner of the inputs is taken out. -/
  | disowning (sweep : Sweep)
  /-- Before `cleanup_task_inputs`. -/
  | sweeping (sweep : Sweep) (owner : Option String)
  /-- `is_retained` has answered. -/
  | checked (submission : Submission) (key : SubmissionKey)
      (record : SubmissionRecord) (retained : Bool)
  /-- Before `inspect_completed` in the backend. -/
  | submitting (submission : Submission)
  /-- Before `transfer_inputs`. -/
  | inspected (submission : Submission)
  /-- Before the Local side is called. -/
  | transferred (submission : Submission)
  /-- The Local side has registered the task for the principal. -/
  | starting (submission : Submission) (taskId : String)
  /-- Before `restore_task_inputs`. -/
  | restoring (submission : Submission) (response : RemoteResponse)
  | accepted (submission : Submission) (answer : LocalAnswer)
  | registered (submission : Submission) (answer : LocalAnswer)
  /-- Before the record is written. -/
  | recording (submission : Submission) (response : RemoteResponse)
  /-- Before `convert_profile_result`. -/
  | converting (source : Source) (payload : LocalTaskPayload)
  /-- The lock on the finished tasks is held; the outputs that are left. -/
  | publishing (source : Source) (ended : Ended)
      (left : List (String × PublishedArtifact))
      (managed : List (String × ManagedOutputArtifactPayload))
  | watching (principal : ClientId) (taskId : String)
  /-- `cancelTask` waits for the end of the task. -/
  | halting (taskId : String)

/-- A submission that was answered with a task. -/
structure Answered where
  submission : Submission
  response : RemoteResponse
  taskId : String

/-- What the calls share.  The fields after `failStop` do not exist in the
program: they remember which identifiers were drawn and which of them the
registry has stored, what was answered, published and reported, and which
entries of the cache were cleared. -/
structure Shared where
  books : Books
  room : StoreRoom
  registry : OrderedTable String LocalTaskPayload
  /-- The key under which the registry holds a task. -/
  keyOf : String → Option SubmissionKey
  locked : Bool
  finishedLocked : Bool
  /-- The monitors that were spawned and have not begun. -/
  spawned : List (ClientId × String)
  failStop : Bool
  issued : List String
  entered : List String
  answers : List Answered
  published : List (String × String)
  reports : List RemoteTaskPayload
  cleared : List String

/-- The reports of tasks that have ended. -/
def RemoteTaskPayload.final : RemoteTaskPayload → List RemoteTaskPayload
  | running _ _ _ _ => []
  | finished profile result artifacts failure =>
      [.finished profile result artifacts failure]

/-- What a response says about a task that has ended. -/
def RemoteResponse.final : RemoteResponse → List RemoteTaskPayload
  | profileResult _ payload => payload.final
  | profileAccepted _ _ => []
  | taskCancelled _ _ => []
  | error _ _ _ _ => []

namespace Shared

/-- Change the maps. -/
def onBooks (shared : Shared) (change : Books → Books) : Shared :=
  { shared with books := change shared.books }

/-- The submission is answered. -/
def unlock (shared : Shared) : Shared :=
  { shared with locked := false }

/-- A client is told what the response says. -/
def tell (shared : Shared) (response : RemoteResponse) : Shared :=
  { shared with reports := response.final ++ shared.reports }

/-- Something could not be cleaned up. -/
def activate (shared : Shared) : Shared :=
  { shared with failStop := true }

end Shared

/-- What others can notice of a step. -/
inductive Label where
  | quiet
  /-- The Local side does not know the task that it is asked about. -/
  | missed (taskId : String)
  /-- Somebody wants the report of a task that has ended. -/
  | converts (taskId : String)
  | answers (submission : Submission) (response : RemoteResponse)

/-- Where a call goes on with a report. -/
def Source.deliver (source : Source) (payload : RemoteTaskPayload) : Call :=
  match source with
  | submit submission =>
      .recording submission (.profileResult submission.requestId payload)
  | result _ _ => .idle
  | monitor _ => .idle

/-- What the client is told with a report; a submission is answered later. -/
def Source.told (source : Source) (payload : RemoteTaskPayload) :
    List RemoteTaskPayload :=
  match source with
  | submit _ => []
  | result _ _ => payload.final
  | monitor _ => []

/-- The response when there is no report. -/
def reportFailed (requestId message : String) : RemoteResponse :=
  .error requestId .internalError message true

/-- What others notice when there is no report. -/
def Source.failure (source : Source) (message : String) : Label :=
  match source with
  | submit submission =>
      .answers submission (reportFailed submission.requestId message)
  | result _ _ => .quiet
  | monitor _ => .quiet

/-- The lock on the submissions when there is no report. -/
def Source.stillLocked (source : Source) (locked : Bool) : Bool :=
  match source with
  | submit _ => false
  | result _ _ => locked
  | monitor _ => locked

/-! ### Removing inputs -/

/-- Where a call goes on after a task was forgotten. -/
def Purpose.next : Purpose → Call
  | retention submission key record => .checked submission key record false
  | result _ _ _ => .idle
  | cancellation _ _ _ => .idle

/-- `cleanup_task_inputs`, when there is an owner. -/
inductive CleansUp (store : RemoteArtifactStore) (room : StoreRoom) :
    Option String → Bool → StoreRoom → Prop where
  | nothing : CleansUp store room none true room
  | cleaned (owner : String) (request : Request)
      (reply : RemoteArtifactStore.Reply)
      (isCleanup : request.turn.operation = .cleanupTaskInputs owner)
      (cleaned : (store.answer room request).1 = .ok reply) :
      CleansUp store room (some owner) true (store.answer room request).2
  | left (owner : String) (request : Request) (error : RemoteArtifactError)
      (isCleanup : request.turn.operation = .cleanupTaskInputs owner)
      (refused : (store.answer room request).1 = .error error) :
      CleansUp store room (some owner) false (store.answer room request).2

/-- What the first snapshot of a task is answered with. -/
inductive Observes : LocalTaskPayload → LocalAnswer → Prop where
  | running (taskId : String) (profile : ProfileIdentity)
      (submittedAt startedAt : String) (budget : ResourceBudget) :
      Observes (.running taskId profile submittedAt startedAt)
        (.accepted ⟨taskId, profile, budget⟩)
  | ended (ended : Ended) : Observes ended.payload (.result ended.payload)

/-! ### Steps -/

section Steps

variable (store : RemoteArtifactStore) (token : SubmissionKey → String)

/-- One step of a call.  What the Local side and the store answer, and what the
clock shows, are inputs. -/
inductive Acts (shared : Shared) : Call → Label → Call → Shared → Prop where
  -- `RemoteDispatcher::submit`
  | submit (submission : Submission) :
      Acts shared .idle .quiet (.waiting submission) shared
  | lock (submission : Submission) (free : shared.locked = false) :
      Acts shared (.waiting submission) .quiet (.holding submission)
        { shared with locked := true }
  | lookAtOwn (submission : Submission) (record : SubmissionRecord)
      (held : shared.books.submissions.lookup submission.key = some record) :
      Acts shared (.holding submission) .quiet
        (.looking (.retention submission submission.key record)) shared
  | lookAtOldest (submission : Submission) (key : SubmissionKey)
      (record : SubmissionRecord)
      (absent : shared.books.submissions.lookup submission.key = none)
      (isOldest : shared.books.oldest = some (key, record)) :
      Acts shared (.holding submission) .quiet
        (.looking (.retention submission key record)) shared
  | lookAtNothing (submission : Submission)
      (absent : shared.books.submissions.lookup submission.key = none)
      (isOldest : shared.books.oldest = none) :
      Acts shared (.holding submission) .quiet (.submitting submission) shared
  -- An own record that is retained is the answer.
  | repeated (submission : Submission) (record : SubmissionRecord) (now : ℕ) :
      Acts shared (.checked submission submission.key record true)
        (.answers submission (record.answer
          (canonicalPayload submission.payload) submission.requestId)) .idle
        ((shared.onBooks (·.refresh submission.key now)).unlock.tell
          (record.answer (canonicalPayload submission.payload)
            submission.requestId))
  | refreshed (submission : Submission) (key : SubmissionKey)
      (record : SubmissionRecord) (now : ℕ) (other : key ≠ submission.key) :
      Acts shared (.checked submission key record true) .quiet
        (.submitting submission) (shared.onBooks (·.refresh key now))
  | dropped (submission : Submission) (key : SubmissionKey)
      (record : SubmissionRecord) :
      Acts shared (.checked submission key record false) .quiet
        (.submitting submission) (shared.onBooks (·.drop key))
  | recorded (submission : Submission) (response : RemoteResponse)
      (taskId : String) (now : ℕ)
      (names : responseTaskId response = some taskId) :
      Acts shared (.recording submission response)
        (.answers submission response) .idle
        ({ shared.onBooks (·.record submission.key
              { canonicalPayload := canonicalPayload submission.payload
                response
                taskId
                lastChecked := now }) with
            answers := ⟨submission, response, taskId⟩ ::
              shared.answers }.unlock.tell response)
  -- `getProfileResult` and `cancelTask`
  | getProfileResult (principal : ClientId) (requestId taskId : String) :
      Acts shared .idle .quiet (.looking (.result principal requestId taskId))
        shared
  | cancelTask (principal : ClientId) (requestId taskId : String) :
      Acts shared .idle .quiet
        (.looking (.cancellation principal requestId taskId)) shared
  -- `remote_task_owned_by`
  | owned (purpose : Purpose)
      (owner : shared.books.remoteTaskOwnedBy purpose.taskId
        purpose.principal = true) :
      Acts shared (.looking purpose) .quiet (.asking purpose) shared
  | unownedRecord (submission : Submission) (key : SubmissionKey)
      (record : SubmissionRecord)
      (other : shared.books.remoteTaskOwnedBy record.taskId (ofLex key).1 =
        false) :
      Acts shared (.looking (.retention submission key record)) .quiet
        (.checked submission key record false) shared
  | unownedResult (principal : ClientId) (requestId taskId : String)
      (other : shared.books.remoteTaskOwnedBy taskId principal.1 = false) :
      Acts shared (.looking (.result principal requestId taskId)) .quiet .idle
        shared
  | unownedCancellation (principal : ClientId) (requestId taskId : String)
      (other : shared.books.remoteTaskOwnedBy taskId principal.1 = false) :
      Acts shared (.looking (.cancellation principal requestId taskId)) .quiet
        .idle shared
  -- The Local side looks for the task in the registry.
  | retained (submission : Submission) (key : SubmissionKey)
      (record : SubmissionRecord) (payload : LocalTaskPayload)
      (held : shared.registry.lookup record.taskId = some payload) :
      Acts shared (.asking (.retention submission key record)) .quiet
        (.checked submission key record true) shared
  | found (principal : ClientId) (requestId taskId : String)
      (payload : LocalTaskPayload)
      (held : shared.registry.lookup taskId = some payload) :
      Acts shared (.asking (.result principal requestId taskId)) .quiet
        (.converting (.result principal requestId) payload) shared
  | missedRecord (submission : Submission) (key : SubmissionKey)
      (record : SubmissionRecord)
      (missing : shared.registry.lookup record.taskId = none) :
      Acts shared (.asking (.retention submission key record))
        (.missed record.taskId)
        (.removing (.retention submission key record)) shared
  | missedResult (principal : ClientId) (requestId taskId : String)
      (missing : shared.registry.lookup taskId = none) :
      Acts shared (.asking (.result principal requestId taskId))
        (.missed taskId) (.removing (.result principal requestId taskId))
        shared
  -- Any other error of the Local side.
  | uncertain (submission : Submission) (key : SubmissionKey)
      (record : SubmissionRecord) :
      Acts shared (.asking (.retention submission key record)) .quiet
        (.checked submission key record true) shared
  | unanswered (principal : ClientId) (requestId taskId : String) :
      Acts shared (.asking (.result principal requestId taskId)) .quiet .idle
        shared
  -- A running task is asked to end, and the call waits until it has.
  | halt (principal : ClientId) (requestId taskId : String)
      (profile : ProfileIdentity) (submittedAt startedAt : String)
      (held : shared.registry.lookup taskId =
        some (.running taskId profile submittedAt startedAt)) :
      Acts shared (.asking (.cancellation principal requestId taskId)) .quiet
        (.halting taskId) shared
  | uncancelled (principal : ClientId) (requestId taskId : String) :
      Acts shared (.asking (.cancellation principal requestId taskId)) .quiet
        .idle shared
  | cancelled (taskId : String)
      (past : ∀ profile submittedAt startedAt,
        shared.registry.lookup taskId ≠
          some (.running taskId profile submittedAt startedAt)) :
      Acts shared (.halting taskId) .quiet (.disowning (.cancelled taskId))
        shared
  | finishedFirst (taskId : String)
      (past : ∀ profile submittedAt startedAt,
        shared.registry.lookup taskId ≠
          some (.running taskId profile submittedAt startedAt)) :
      Acts shared (.halting taskId) .quiet .idle shared
  -- `forget_task`
  | removed (purpose : Purpose) :
      Acts shared (.removing purpose) .quiet (.clearing purpose)
        (shared.onBooks
          (·.removeRemoteTaskIfOwned purpose.taskId purpose.principal))
  | cleared (purpose : Purpose) (free : shared.finishedLocked = false) :
      Acts shared (.clearing purpose) .quiet
        (.disowning (.forgotten purpose))
        { shared.onBooks (·.clear purpose.taskId) with
          cleared := purpose.taskId :: shared.cleared }
  -- `cleanup_remote_inputs`
  | disowned (sweep : Sweep) :
      Acts shared (.disowning sweep) .quiet
        (.sweeping sweep (shared.books.inputOwners.lookup sweep.taskId))
        (shared.onBooks (·.disown sweep.taskId))
  | forgotten (purpose : Purpose) (owner : Option String) (clean : Bool)
      (room : StoreRoom)
      (cleanup : CleansUp store shared.room owner clean room) :
      Acts shared (.sweeping (.forgotten purpose) owner) .quiet purpose.next
        { shared with room, failStop := shared.failStop || !clean }
  | cancelledClean (taskId : String) (owner : Option String) (clean : Bool)
      (room : StoreRoom)
      (cleanup : CleansUp store shared.room owner clean room) :
      Acts shared (.sweeping (.cancelled taskId) owner) .quiet .idle
        { shared with room, failStop := shared.failStop || !clean }
  | abandoned (taskId : String) (owner : Option String) (clean : Bool)
      (room : StoreRoom)
      (cleanup : CleansUp store shared.room owner clean room) :
      Acts shared (.sweeping (.abandoned taskId) owner) .quiet .idle
        { shared with room, failStop := shared.failStop || !clean }
  -- The report is cached, and the lock on the finished tasks is released.
  | reported (source : Source) (ended : Ended)
      (managed : List (String × ManagedOutputArtifactPayload))
      (owner : Option String) (room : StoreRoom)
      (cleanup : CleansUp store shared.room owner true room) :
      Acts shared (.sweeping (.reported source ended managed) owner) .quiet
        (source.deliver (ended.report managed))
        { shared.onBooks
            (·.cache ended.result.taskId (ended.report managed)) with
          room
          finishedLocked := false
          reports := source.told (ended.report managed) ++ shared.reports }
  | unreported (source : Source) (ended : Ended)
      (managed : List (String × ManagedOutputArtifactPayload))
      (owner : Option String) (room : StoreRoom)
      (cleanup : CleansUp store shared.room owner false room) :
      Acts shared (.sweeping (.reported source ended managed) owner)
        (source.failure "managed input cleanup failed") .idle
        { shared with
          room
          finishedLocked := false
          locked := source.stillLocked shared.locked
          failStop := true }
  | failed (source : Source) (taskId : String) (owner : Option String)
      (clean : Bool) (room : StoreRoom)
      (cleanup : CleansUp store shared.room owner clean room) :
      Acts shared (.sweeping (.unpublished source taskId) owner)
        (source.failure "managed output publication failed") .idle
        { shared with
          room
          finishedLocked := false
          locked := source.stillLocked shared.locked
          failStop := true }
  -- `LocalProfileRemoteBackend::submit`
  | inspect (submission : Submission) (request : Request)
      (isInspect : request.turn.operation = .inspectCompleted
        submission.principal.1 (managedInputIds submission.payload))
      (reply : RemoteArtifactStore.Reply)
      (inspected : (store.answer shared.room request).1 = .ok reply) :
      Acts shared (.submitting submission) .quiet (.inspected submission)
        { shared with room := (store.answer shared.room request).2 }
  | uninspected (submission : Submission) (request : Request)
      (isInspect : request.turn.operation = .inspectCompleted
        submission.principal.1 (managedInputIds submission.payload))
      (error : RemoteArtifactError) (response : RemoteResponse)
      (refused : (store.answer shared.room request).1 = .error error)
      (failed : responseTaskId response = none) :
      Acts shared (.submitting submission) (.answers submission response)
        .idle
        { shared.unlock with room := (store.answer shared.room request).2 }
  | invalid (submission : Submission) (response : RemoteResponse)
      (failed : responseTaskId response = none) :
      Acts shared (.inspected submission) (.answers submission response) .idle
        shared.unlock
  | transfer (submission : Submission) (request : Request)
      (isTransfer : request.turn.operation = .transferInputs
        submission.principal.1 (token submission.key)
        (managedInputIds submission.payload))
      (reply : RemoteArtifactStore.Reply)
      (transferred : (store.answer shared.room request).1 = .ok reply) :
      Acts shared (.inspected submission) .quiet (.transferred submission)
        { shared with room := (store.answer shared.room request).2 }
  | untransferred (submission : Submission) (request : Request)
      (isTransfer : request.turn.operation = .transferInputs
        submission.principal.1 (token submission.key)
        (managedInputIds submission.payload))
      (error : RemoteArtifactError) (response : RemoteResponse)
      (refused : (store.answer shared.room request).1 = .error error)
      (failed : responseTaskId response = none) :
      Acts shared (.inspected submission) (.answers submission response) .idle
        { shared.unlock with room := (store.answer shared.room request).2 }
  -- The input cannot be opened, or the Local side refuses the submission.
  | refused (submission : Submission) (response : RemoteResponse)
      (failed : responseTaskId response = none) :
      Acts shared (.transferred submission) .quiet
        (.restoring submission response) shared
  -- The Local side answers from an earlier submission of the same key.
  | existing (submission : Submission) (payload : LocalTaskPayload)
      (held : shared.registry.lookup payload.taskId = some payload)
      (same : shared.keyOf payload.taskId = some submission.key) :
      Acts shared (.transferred submission) .quiet
        (.accepted submission (.result payload)) shared
  | start (submission : Submission) (taskId : String)
      (fresh : taskId ∉ shared.issued) :
      Acts shared (.transferred submission) .quiet
        (.starting submission taskId)
        { shared.onBooks
            (·.registerRemoteTask taskId submission.principal.1) with
          issued := taskId :: shared.issued }
  -- The registry stores the first snapshot of the task and answers with it,
  -- if it holds no other task of the key.
  | enter (submission : Submission) (taskId : String)
      (payload : LocalTaskPayload) (answer : LocalAnswer)
      (isTask : payload.taskId = taskId) (first : Observes payload answer)
      (alone : ∀ other earlier,
        shared.registry.lookup other = some earlier →
        shared.keyOf other ≠ some submission.key) :
      Acts shared (.starting submission taskId) .quiet
        (.accepted submission answer)
        { shared with
          registry := shared.registry.insert taskId payload
          keyOf := Function.update shared.keyOf taskId (some submission.key)
          entered := taskId :: shared.entered }
  | withdrawn (submission : Submission) (taskId : String)
      (response : RemoteResponse) (failed : responseTaskId response = none) :
      Acts shared (.starting submission taskId) .quiet
        (.restoring submission response)
        (shared.onBooks
          (·.removeRemoteTaskIfOwned taskId submission.principal.1))
  -- After an internal error the task stays registered.
  | broken (submission : Submission) (taskId : String)
      (response : RemoteResponse) (failed : responseTaskId response = none) :
      Acts shared (.starting submission taskId) .quiet
        (.restoring submission response) shared
  | restore (submission : Submission) (response : RemoteResponse)
      (request : Request)
      (isRestore : request.turn.operation =
        .restoreTaskInputs (token submission.key))
      (reply : RemoteArtifactStore.Reply)
      (restored : (store.answer shared.room request).1 = .ok reply) :
      Acts shared (.restoring submission response)
        (.answers submission response) .idle
        { shared.unlock with room := (store.answer shared.room request).2 }
  | unrestored (submission : Submission) (response failure : RemoteResponse)
      (request : Request)
      (isRestore : request.turn.operation =
        .restoreTaskInputs (token submission.key))
      (error : RemoteArtifactError)
      (refused : (store.answer shared.room request).1 = .error error)
      (failed : responseTaskId failure = none) :
      Acts shared (.restoring submission response)
        (.answers submission failure) .idle
        { shared.unlock.activate with
          room := (store.answer shared.room request).2 }
  | register (submission : Submission) (answer : LocalAnswer) :
      Acts shared (.accepted submission answer) .quiet
        (.registered submission answer)
        (shared.onBooks
          (·.registerRemoteTask answer.taskId submission.principal.1))
  | ownAccepted (submission : Submission) (payload : ProfileAcceptedPayload) :
      Acts shared (.registered submission (.accepted payload)) .quiet
        (.recording submission (.profileAccepted submission.requestId payload))
        { shared.onBooks (·.own payload.taskId (token submission.key)) with
          spawned := (submission.principal, payload.taskId) :: shared.spawned }
  | ownResult (submission : Submission) (payload : LocalTaskPayload) :
      Acts shared (.registered submission (.result payload)) .quiet
        (.converting (.submit submission) payload)
        (shared.onBooks (·.own payload.taskId (token submission.key)))
  -- `convert_profile_result`
  | reportRunning (source : Source) (taskId : String)
      (profile : ProfileIdentity) (submittedAt startedAt : String) :
      Acts shared
        (.converting source (.running taskId profile submittedAt startedAt))
        .quiet
        (source.deliver (.running taskId profile submittedAt startedAt))
        shared
  | reportCached (source : Source) (ended : Ended)
      (payload : RemoteTaskPayload) (free : shared.finishedLocked = false)
      (cached : shared.books.finished.lookup ended.result.taskId =
        some payload) :
      Acts shared (.converting source ended.payload)
        (.converts ended.result.taskId) (source.deliver payload)
        { shared with reports := source.told payload ++ shared.reports }
  | publish (source : Source) (ended : Ended)
      (free : shared.finishedLocked = false)
      (absent : shared.books.finished.lookup ended.result.taskId = none) :
      Acts shared (.converting source ended.payload)
        (.converts ended.result.taskId)
        (.publishing source ended
          (localArtifacts ended.outputSlot ended.terminal) [])
        { shared with finishedLocked := true }
  | publishOne (source : Source) (ended : Ended) (slot : String)
      (artifact : PublishedArtifact) (bytes : List UInt8)
      (left : List (String × PublishedArtifact))
      (managed : List (String × ManagedOutputArtifactPayload))
      (request : Request)
      (isPublish : request.turn.operation = .publishOutputFile
        source.principal bytes artifact.digest artifact.sizeBytes
        artifact.mediaType)
      (fresh : Fresh shared.room request.turn.drawn)
      (payload : ManagedOutputArtifactPayload)
      (published : (store.answer shared.room request).1 =
        .ok (.published payload)) :
      Acts shared
        (.publishing source ended ((slot, artifact) :: left) managed) .quiet
        (.publishing source ended left (managed ++ [(slot, payload)]))
        { shared with
          room := (store.answer shared.room request).2
          published := (ended.result.taskId, slot) :: shared.published }
  | unpublished (source : Source) (ended : Ended) (slot : String)
      (artifact : PublishedArtifact) (bytes : List UInt8)
      (left : List (String × PublishedArtifact))
      (managed : List (String × ManagedOutputArtifactPayload))
      (request : Request)
      (isPublish : request.turn.operation = .publishOutputFile
        source.principal bytes artifact.digest artifact.sizeBytes
        artifact.mediaType)
      (fresh : Fresh shared.room request.turn.drawn)
      (error : RemoteArtifactError)
      (refused : (store.answer shared.room request).1 = .error error) :
      Acts shared
        (.publishing source ended ((slot, artifact) :: left) managed) .quiet
        (.disowning (.unpublished source ended.result.taskId))
        { shared with room := (store.answer shared.room request).2 }
  | unopened (source : Source) (ended : Ended) (slot : String)
      (artifact : PublishedArtifact)
      (left : List (String × PublishedArtifact))
      (managed : List (String × ManagedOutputArtifactPayload)) :
      Acts shared
        (.publishing source ended ((slot, artifact) :: left) managed) .quiet
        (.disowning (.unpublished source ended.result.taskId)) shared
  | publishedAll (source : Source) (ended : Ended)
      (managed : List (String × ManagedOutputArtifactPayload)) :
      Acts shared (.publishing source ended [] managed) .quiet
        (.disowning (.reported source ended managed)) shared
  -- `spawn_completion_monitor`
  | watch (principal : ClientId) (taskId : String)
      (spawned : (principal, taskId) ∈ shared.spawned) :
      Acts shared .idle .quiet (.watching principal taskId)
        { shared with spawned := shared.spawned.erase (principal, taskId) }
  | watched (principal : ClientId) (taskId : String) (ended : Ended)
      (held : shared.registry.lookup taskId = some ended.payload) :
      Acts shared (.watching principal taskId) .quiet
        (.converting (.monitor principal) ended.payload) shared
  | abandon (principal : ClientId) (taskId : String) :
      Acts shared (.watching principal taskId) .quiet
        (.disowning (.abandoned taskId)) shared

end Steps

/-- All calls together. -/
structure RemoteWorld where
  shared : Shared
  calls : ℕ → Call

/-- The world after a step of a call. -/
def RemoteWorld.advance (world : RemoteWorld) (caller : ℕ) (next : Call)
    (shared : Shared) : RemoteWorld where
  shared
  calls := Function.update world.calls caller next

@[simp] theorem RemoteWorld.shared_advance (world : RemoteWorld) (caller : ℕ)
    (next : Call) (shared : Shared) :
    (world.advance caller next shared).shared = shared :=
  rfl

@[simp] theorem RemoteWorld.calls_advance_self (world : RemoteWorld)
    (caller : ℕ) (next : Call) (shared : Shared) :
    (world.advance caller next shared).calls caller = next :=
  Function.update_self ..

theorem RemoteWorld.calls_advance_of_ne {world : RemoteWorld}
    {caller other : ℕ} (different : other ≠ caller) (next : Call)
    (shared : Shared) :
    (world.advance caller next shared).calls other = world.calls other :=
  Function.update_of_ne different ..

/-- A step of one call, of the registry, or of the artifact store for one of
its clients. -/
inductive CallStep (store : RemoteArtifactStore)
    (token : SubmissionKey → String) (world : RemoteWorld) :
    Label → RemoteWorld → Prop where
  | call (caller : ℕ) (label : Label) (next : Call) (shared : Shared)
      (acts : Acts store token world.shared (world.calls caller) label next
        shared) :
      CallStep store token world label (world.advance caller next shared)
  | complete (taskId : String) (profile : ProfileIdentity)
      (submittedAt startedAt : String) (ended : Ended)
      (runs : world.shared.registry.lookup taskId =
        some (.running taskId profile submittedAt startedAt))
      (same : ended.result.taskId = taskId) :
      CallStep store token world .quiet
        { world with shared :=
            { world.shared with
              registry := world.shared.registry.insert taskId ended.payload } }
  | expire (taskId : String) (ended : Ended)
      (past : world.shared.registry.lookup taskId = some ended.payload) :
      CallStep store token world .quiet
        { world with shared :=
            { world.shared with
              registry := world.shared.registry.erase taskId } }
  | serve (request : Request) (client : request.turn.operation.ofClient = true)
      (fresh : request.turn.operation.draws = true →
        Fresh world.shared.room request.turn.drawn) :
      CallStep store token world .quiet
        { world with shared :=
            { world.shared with
              room := (store.answer world.shared.room request).2 } }

/-- A fresh daemon. -/
def freshWorld (room : StoreRoom) : RemoteWorld where
  shared :=
    { books := .empty
      room
      registry := .empty
      keyOf := fun _ => none
      locked := false
      finishedLocked := false
      spawned := []
      failStop := false
      issued := []
      entered := []
      answers := []
      published := []
      reports := []
      cleared := [] }
  calls _ := .idle

section Runs

variable {store : RemoteArtifactStore} {token : SubmissionKey → String}
variable {Allowed : RemoteWorld → Label → Prop} {start world : RemoteWorld}
variable {call next : Call} {label : Label} {shared : Shared}

/-- A call goes on. -/
theorem reaches_call
    (reached : Reaches (CallStep store token) Allowed start world)
    (caller : ℕ) (stands : world.calls caller = call)
    (allowed : Allowed world label)
    (acts : Acts store token world.shared call label next shared) :
    Reaches (CallStep store token) Allowed start
      (world.advance caller next shared) :=
  .step label reached allowed
    (.call caller label next shared (by rw [stands]; exact acts))

variable {principal : ClientId} {requestId taskId : String} {caller : ℕ}

/-- A client asks for the result of its task, and the Local side is about to
answer. -/
theorem reaches_asking (principal : ClientId) (requestId taskId : String)
    (quietly : ∀ world, Allowed world .quiet)
    (reached : Reaches (CallStep store token) Allowed start world)
    (idle : world.calls caller = .idle)
    (owner : world.shared.books.remoteTaskOwnedBy taskId principal.1 = true) :
    ∃ next, Reaches (CallStep store token) Allowed start next ∧
      next.shared = world.shared ∧
      next.calls caller = .asking (.result principal requestId taskId) ∧
      ∀ other, other ≠ caller → next.calls other = world.calls other := by
  have asks := reaches_call reached caller idle (quietly _)
    (.getProfileResult principal requestId taskId)
  have owns := reaches_call asks caller (RemoteWorld.calls_advance_self ..)
    (quietly _) (.owned (.result principal requestId taskId) owner)
  refine ⟨_, owns, rfl, RemoteWorld.calls_advance_self .., ?_⟩
  intro other different
  simp only [RemoteWorld.calls_advance_of_ne different]

/-- The task is forgotten. -/
theorem reaches_forgotten (quietly : ∀ world, Allowed world .quiet)
    (reached : Reaches (CallStep store token) Allowed start world)
    (stands : world.calls caller =
      .removing (.result principal requestId taskId))
    (free : world.shared.finishedLocked = false)
    (unowned : world.shared.books.inputOwners.lookup taskId = none) :
    ∃ next, Reaches (CallStep store token) Allowed start next ∧
      next.shared =
        { world.shared with
          books := world.shared.books.forgetTask principal.1 taskId
          cleared := taskId :: world.shared.cleared
          failStop := world.shared.failStop || false } ∧
      ∀ other, other ≠ caller → next.calls other = world.calls other := by
  have removes := reaches_call reached caller stands (quietly _) (.removed _)
  have clears := reaches_call removes caller
    (RemoteWorld.calls_advance_self ..) (quietly _) (.cleared _ free)
  have disowns := reaches_call clears caller
    (RemoteWorld.calls_advance_self ..) (quietly _) (.disowned _)
  have forgets := reaches_call disowns caller
    (RemoteWorld.calls_advance_self ..) (quietly _)
    (.forgotten _ _ true world.shared.room (by
      have same : ((world.shared.books.removeRemoteTaskIfOwned taskId
          principal.1).clear taskId).inputOwners.lookup taskId = none := by
        dsimp only [Books.clear]
        rw [Books.inputOwners_removeRemoteTaskIfOwned, unowned]
      exact same.symm ▸ CleansUp.nothing))
  refine ⟨_, forgets, rfl, ?_⟩
  intro other different
  simp only [RemoteWorld.calls_advance_of_ne different]

/-! ### A submission that is accepted

The only input of the submission is the upload of the small store. -/

/-- The submission. -/
def smallSubmission : Submission where
  principal := smallClient
  requestId := "00000000-0000-4000-8000-000000000005"
  payload :=
    { clientRequestId := "00000000-0000-4000-8000-000000000006"
      profile := ⟨"copy", "1.0.0"⟩
      inputs := ⟨[("source", .managedInput firstId)],
        List.pairwise_singleton _ _⟩
      resourceOverrides := none }

/-- Its inputs are held under the task of the small store. -/
def smallToken (_ : SubmissionKey) : String :=
  smallTask

/-- The Local side has accepted it. -/
def smallAccepted : ProfileAcceptedPayload where
  taskId := "task"
  profile := ⟨"copy", "1.0.0"⟩
  budget := .smallest

/-- Its task is running. -/
def smallRunning : LocalTaskPayload :=
  .running "task" ⟨"copy", "1.0.0"⟩ "" ""

/-- The input was inspected. -/
def inspectedRoom : StoreRoom :=
  (smallStore.answer completedRoom
    (quiet (.inspectCompleted "client" [firstId.1]) firstId)).2

/-- The input was transferred. -/
def transferredRoom : StoreRoom :=
  (smallStore.answer inspectedRoom
    (quiet (.transferInputs "client" smallTask [firstId.1]) firstId)).2

/-- The call has taken the lock and found no record. -/
def lockedShared : Shared :=
  { (freshWorld inspectedRoom).shared with locked := true }

/-- The task is registered, and about to be stored. -/
def startingShared : Shared :=
  { lockedShared.onBooks (·.registerRemoteTask "task" "client") with
    room := transferredRoom
    issued := ["task"] }

/-- The registry has stored the task. -/
def enteredShared : Shared :=
  { startingShared with
    registry := OrderedTable.empty.insert "task" smallRunning
    keyOf := Function.update (fun _ => none) "task" (some smallSubmission.key)
    entered := ["task"] }

/-- The submission was answered. -/
def acceptedShared : Shared :=
  { enteredShared with
    books := (((enteredShared.books.registerRemoteTask "task" "client").own
      "task" smallTask).record smallSubmission.key
        { canonicalPayload := canonicalPayload smallSubmission.payload
          response := .profileAccepted smallSubmission.requestId smallAccepted
          taskId := "task"
          lastChecked := 0 })
    locked := false
    spawned := [(smallClient, "task")]
    answers := [⟨smallSubmission,
      .profileAccepted smallSubmission.requestId smallAccepted, "task"⟩] }

/-- The submission is about to be stored in the registry. -/
theorem reaches_starting (Allowed : RemoteWorld → Label → Prop)
    (quietly : ∀ world, Allowed world .quiet) (caller : ℕ) :
    ∃ world, Reaches (CallStep smallStore smallToken) Allowed
        (freshWorld emptyRoom) world ∧
      world.shared = startingShared ∧
      world.calls caller = .starting smallSubmission "task" ∧
      ∀ other, other ≠ caller → world.calls other = .idle := by
  have filled : Reaches (CallStep smallStore smallToken) Allowed
      (freshWorld emptyRoom) (freshWorld completedRoom) := by
    refine .step _ (.step _ (.step _ .start (quietly _)
      (.serve (quiet (.beginUpload smallPolicy oneByte) firstId) rfl
        fun _ => ⟨rfl, fun _ => rfl, rfl⟩)) (quietly _)
      (.serve (quiet (.uploadChunk "client" ⟨firstId, 0, "AA=="⟩) firstId)
        rfl nofun)) (quietly _)
      (.serve (quiet (.completeUpload "client" firstId) firstId) rfl nofun)
  have waits := reaches_call filled caller rfl (quietly _)
    (.submit smallSubmission)
  have locks := reaches_call waits caller
    (RemoteWorld.calls_advance_self ..) (quietly _)
    (.lock smallSubmission rfl)
  have looks := reaches_call locks caller
    (RemoteWorld.calls_advance_self ..) (quietly _)
    (.lookAtNothing smallSubmission rfl rfl)
  have inspects := reaches_call looks caller
    (RemoteWorld.calls_advance_self ..) (quietly _)
    (.inspect smallSubmission
      (quiet (.inspectCompleted "client" [firstId.1]) firstId) rfl _ rfl)
  have transfers := reaches_call inspects caller
    (RemoteWorld.calls_advance_self ..) (quietly _)
    (.transfer smallSubmission
      (quiet (.transferInputs "client" smallTask [firstId.1]) firstId) rfl _
      rfl)
  have starts := reaches_call transfers caller
    (RemoteWorld.calls_advance_self ..) (quietly _)
    (.start smallSubmission "task" List.not_mem_nil)
  refine ⟨_, starts, rfl, RemoteWorld.calls_advance_self .., ?_⟩
  intro other different
  simp only [RemoteWorld.calls_advance_of_ne different]
  rfl

/-- The registry stores the task and the submission is answered. -/
theorem reaches_accepted
    (quietly : ∀ world, Allowed world .quiet)
    (answering : ∀ world response,
      Allowed world (.answers smallSubmission response))
    (reached : Reaches (CallStep smallStore smallToken) Allowed start world)
    {caller : ℕ} (isShared : world.shared = startingShared)
    (stands : world.calls caller = .starting smallSubmission "task") :
    ∃ next, Reaches (CallStep smallStore smallToken) Allowed start next ∧
      next.shared = acceptedShared ∧ next.calls caller = .idle ∧
      ∀ other, other ≠ caller → next.calls other = world.calls other := by
  have enters := reaches_call reached caller stands (quietly _)
    (.enter smallSubmission "task" smallRunning (.accepted smallAccepted) rfl
      (.running _ _ _ _ _) (by
        rw [isShared]
        exact fun _ _ looked => nomatch looked))
  have registers := reaches_call enters caller
    (RemoteWorld.calls_advance_self ..) (quietly _)
    (.register smallSubmission (.accepted smallAccepted))
  have owns := reaches_call registers caller
    (RemoteWorld.calls_advance_self ..) (quietly _)
    (.ownAccepted smallSubmission smallAccepted)
  have records := reaches_call owns caller
    (RemoteWorld.calls_advance_self ..) (answering _ _)
    (.recorded smallSubmission _ "task" 0 rfl)
  refine ⟨_, records, ?_, RemoteWorld.calls_advance_self .., ?_⟩
  · rw [isShared]
    rfl
  · intro other different
    simp only [RemoteWorld.calls_advance_of_ne different]

end Runs

end Remote
end TaskCage
