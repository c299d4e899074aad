import TaskCage.Remote.Backend

/-!
# Remote calls one after the other

The calls of Remote clients as functions of what the Remote side keeps and of
what the task registry retains.  What the Local side does with a submission is
an input, and so are the readings of the clock.
-/

namespace TaskCage
namespace Remote

open Profile Artifact

/-- What the Remote side keeps, the tasks that the registry retains, and every
task identifier that was drawn. -/
structure Desk where
  books : Books
  registry : OrderedTable String LocalTaskPayload
  issued : List String

/-- What the Local side does with a submission. -/
inductive Outcome where
  /-- Nothing was started, or what was started is gone. -/
  | refused (code : RemoteErrorCode) (message : String) (retryable : Bool)
  /-- An internal error: the task stays registered. -/
  | broken (taskId : String) (message : String)
  | accepted (payload : ProfileAcceptedPayload) (submittedAt startedAt : String)
  /-- The task ended before the submission was answered. -/
  | ended (profile : ProfileIdentity) (outputSlot : String)
      (result : TaskResult) (terminal : ProfileTerminal)
      (managed : List (String × ManagedOutputArtifactPayload))

/-- The task that was started. -/
def Outcome.taskId : Outcome → Option String
  | refused _ _ _ => none
  | broken taskId _ => some taskId
  | accepted payload _ _ => some payload.taskId
  | ended _ _ result _ _ => some result.taskId

/-- How the registry retains what was started. -/
def Outcome.retained : Outcome → Option LocalTaskPayload
  | refused _ _ _ => none
  | broken _ _ => none
  | accepted payload submittedAt startedAt =>
      some (.running payload.taskId payload.profile submittedAt startedAt)
  | ended profile outputSlot result terminal _ =>
      some (.finished profile outputSlot result terminal)

namespace Books

/-- Forget a task that the registry does not retain any more. -/
def forgetTask (books : Books) (principal taskId : String) : Books :=
  ((books.removeRemoteTaskIfOwned taskId principal).clear taskId).disown taskId

/-- The report of a task to a Remote client.  The outputs of a finished task
are published with its first report. -/
def convertProfileResult (books : Books) (payload : LocalTaskPayload)
    (managed : List (String × ManagedOutputArtifactPayload)) :
    RemoteTaskPayload × Books :=
  match payload with
  | .running taskId profile submittedAt startedAt =>
      (.running taskId profile submittedAt startedAt, books)
  | .finished profile _ result terminal =>
      match books.finished.lookup result.taskId with
      | some existing => (existing, books)
      | none =>
          let published := finishedPayload profile result terminal managed
          (published,
            (books.disown result.taskId).cache result.taskId published)

variable {books : Books} {other principal taskId : String}

/-- The first report of a finished task. -/
theorem convertProfileResult_of_absent {result : TaskResult}
    {profile : ProfileIdentity} {outputSlot : String}
    {terminal : ProfileTerminal}
    {managed : List (String × ManagedOutputArtifactPayload)}
    (absent : books.finished.lookup result.taskId = none) :
    books.convertProfileResult (.finished profile outputSlot result terminal)
        managed =
      (finishedPayload profile result terminal managed,
        (books.disown result.taskId).cache result.taskId
          (finishedPayload profile result terminal managed)) := by
  unfold convertProfileResult
  dsimp only
  rw [absent]

/-- Reports leave the records. -/
theorem submissions_convertProfileResult (books : Books)
    (payload : LocalTaskPayload)
    (managed : List (String × ManagedOutputArtifactPayload)) :
    (books.convertProfileResult payload managed).2.submissions =
      books.submissions := by
  unfold convertProfileResult
  split
  · rfl
  · split <;> rfl

theorem submissions_forgetTask (books : Books) (principal taskId : String) :
    (books.forgetTask principal taskId).submissions = books.submissions := by
  unfold forgetTask removeRemoteTaskIfOwned
  split <;> rfl

theorem lookup_remoteTasks_forgetTask (different : other ≠ taskId) :
    (books.forgetTask principal taskId).remoteTasks.lookup other =
      books.remoteTasks.lookup other := by
  unfold forgetTask removeRemoteTaskIfOwned
  split
  · exact (OrderedTable.lookup_erase_eq_ite _ _ _).trans (if_neg different)
  · rfl

theorem lookup_remoteTasks_of_forgetTask {owner : String}
    (owned : (books.forgetTask principal taskId).remoteTasks.lookup other =
      some owner) : books.remoteTasks.lookup other = some owner := by
  revert owned
  unfold forgetTask removeRemoteTaskIfOwned
  split
  · exact fun owned => (OrderedTable.lookup_erase_eq_some_iff.mp owned).2
  · exact fun owned => owned

end Books

namespace Desk

/-- Nothing was submitted. -/
def empty : Desk where
  books := .empty
  registry := .empty
  issued := []

/-- Whether the task of a submission is retained; a task that is not is
forgotten. -/
def isRetained (desk : Desk) (principal taskId : String) : Bool × Books :=
  if desk.books.remoteTaskOwnedBy taskId principal then
    match desk.registry.lookup taskId with
    | some _ => (true, desk.books)
    | none => (false, desk.books.forgetTask principal taskId)
  else
    (false, desk.books)

/-- What a submit does before it calls the backend: it looks for a retained
submission of the same key, or else it looks at the oldest record. -/
def examine (desk : Desk) (key : SubmissionKey) (now : ℕ) :
    Option SubmissionRecord × Books :=
  match desk.books.submissions.lookup key with
  | some existing =>
      match desk.isRetained (ofLex key).1 existing.taskId with
      | (true, books) => (some existing, books.refresh key now)
      | (false, books) => (none, books.drop key)
  | none =>
      match desk.books.oldest with
      | none => (none, desk.books)
      | some (candidateKey, candidate) =>
          match desk.isRetained (ofLex candidateKey).1 candidate.taskId with
          | (true, books) => (none, books.refresh candidateKey now)
          | (false, books) => (none, books.drop candidateKey)

/-- The answer of the backend, with the maps after it. -/
def backendSubmit (books : Books) (principal token requestId : String) :
    Outcome → RemoteResponse × Books
  | .refused code message retryable =>
      (.error requestId code message retryable, books)
  | .broken taskId message =>
      (.error requestId .internalError message true,
        books.registerRemoteTask taskId principal)
  | .accepted payload _ _ =>
      (.profileAccepted requestId payload,
        (books.registerRemoteTask payload.taskId principal).own
          payload.taskId token)
  | .ended profile outputSlot result terminal managed =>
      let (published, books) :=
        ((books.registerRemoteTask result.taskId principal).own
          result.taskId token).convertProfileResult
            (.finished profile outputSlot result terminal) managed
      (.profileResult requestId published, books)

/-- What is remembered of an answer. -/
def remember (books : Books) (key : SubmissionKey) (canonical : List Char)
    (response : RemoteResponse) (now : ℕ) : Books :=
  match responseTaskId response with
  | none => books
  | some taskId =>
      books.record key
        { canonicalPayload := canonical
          response
          taskId
          lastChecked := now }

/-- What the registry and the drawn identifiers are after a submission. -/
def started (desk : Desk) (books : Books) (outcome : Outcome) : Desk where
  books
  registry :=
    match outcome.retained with
    | none => desk.registry
    | some payload => desk.registry.insert payload.taskId payload
  issued := outcome.taskId.toList ++ desk.issued

/-- `submitProfile`.  The clock is read when a record was checked and when one
is written. -/
def submit (desk : Desk) (principal token requestId : String)
    (payload : RemoteProfileRequestPayload) (outcome : Outcome)
    (checked recorded : ℕ) : RemoteResponse × Desk :=
  let canonical := canonicalPayload payload
  let key := toLex (principal, payload.clientRequestId)
  match desk.examine key checked with
  | (some record, books) =>
      (record.answer canonical requestId, { desk with books })
  | (none, books) =>
      let (response, books) :=
        backendSubmit books principal token requestId outcome
      (response,
        desk.started (remember books key canonical response recorded) outcome)

/-- `getProfileResult`. -/
def get (desk : Desk) (principal requestId taskId : String)
    (managed : List (String × ManagedOutputArtifactPayload)) :
    RemoteResponse × Desk :=
  if desk.books.remoteTaskOwnedBy taskId principal then
    match desk.registry.lookup taskId with
    | some payload =>
        let (report, books) := desk.books.convertProfileResult payload managed
        (.profileResult requestId report, { desk with books })
    | none =>
        (.error requestId .taskNotFound ("task was not found: " ++ taskId)
          false,
          { desk with books := desk.books.forgetTask principal taskId })
  else
    (taskNotFound requestId, desk)

/-- `cancelTask`.  A running task ends, as the Local side reports with
`outcome`; `message` is the text of its error where there is one. -/
def cancel (desk : Desk) (principal requestId taskId : String)
    (outcome : LocalTaskPayload) (message : String) : RemoteResponse × Desk :=
  if desk.books.remoteTaskOwnedBy taskId principal then
    match desk.registry.lookup taskId, outcome with
    | some (.running _ _ _ _), .finished _ _ result _ =>
        if result.terminationReason = .cancelled then
          (.taskCancelled requestId taskId,
            { desk with
              books := desk.books.disown taskId
              registry := desk.registry.insert taskId outcome })
        else
          (.error requestId .taskAlreadyFinished message false,
            { desk with registry := desk.registry.insert taskId outcome })
    | some (.running _ _ _ _), .running _ _ _ _ =>
        (.error requestId .internalError message false, desk)
    | some (.finished _ _ _ _), _ =>
        (.error requestId .taskAlreadyFinished message false, desk)
    | none, _ => (.error requestId .taskNotFound message false, desk)
  else
    (taskNotFound requestId, desk)

/-- The completion monitor finds that its task has ended. -/
def monitor (desk : Desk) (taskId : String)
    (managed : List (String × ManagedOutputArtifactPayload)) : Desk :=
  match desk.registry.lookup taskId with
  | some payload =>
      { desk with books := (desk.books.convertProfileResult payload managed).2 }
  | none => { desk with books := desk.books.disown taskId }

/-! ### What a submission looks at -/

variable {desk : Desk} {key candidateKey : SubmissionKey}
variable {principal taskId token requestId : String}
variable {payload recorded : RemoteProfileRequestPayload}
variable {record : SubmissionRecord} {outcome : Outcome} {checked now : ℕ}

theorem isRetained_of_retained
    (retained : (desk.isRetained principal taskId).1 = true) :
    desk.isRetained principal taskId = (true, desk.books) := by
  revert retained
  unfold isRetained
  split
  · split
    · exact fun _ => rfl
    · exact nofun
  · exact nofun

theorem isRetained_of_gone
    (gone : (desk.isRetained principal taskId).1 = false) :
    desk.isRetained principal taskId =
      (false, (desk.isRetained principal taskId).2) :=
  Prod.ext gone rfl

/-- The look at a task leaves the records. -/
theorem submissions_isRetained (desk : Desk) (principal taskId : String) :
    (desk.isRetained principal taskId).2.submissions =
      desk.books.submissions := by
  unfold isRetained
  split
  · split
    · rfl
    · exact desk.books.submissions_forgetTask principal taskId
  · rfl

/-- The look at a task leaves the owners of the others. -/
theorem lookup_remoteTasks_isRetained {other : String}
    (different : other ≠ taskId) :
    (desk.isRetained principal taskId).2.remoteTasks.lookup other =
      desk.books.remoteTasks.lookup other := by
  unfold isRetained
  split
  · split
    · rfl
    · exact Books.lookup_remoteTasks_forgetTask different
  · rfl

/-- A task that the registry does not retain is gone. -/
theorem isRetained_of_lookup_eq_none
    (absent : desk.registry.lookup taskId = none) :
    (desk.isRetained principal taskId).1 = false := by
  unfold isRetained
  rw [absent]
  split <;> rfl

theorem examine_of_retained
    (held : desk.books.submissions.lookup key = some record)
    (retained : (desk.isRetained (ofLex key).1 record.taskId).1 = true) :
    desk.examine key now = (some record, desk.books.refresh key now) := by
  unfold examine
  rw [held]
  dsimp only
  rw [isRetained_of_retained retained]

theorem examine_of_gone
    (held : desk.books.submissions.lookup key = some record)
    (gone : (desk.isRetained (ofLex key).1 record.taskId).1 = false) :
    desk.examine key now =
      (none, (desk.isRetained (ofLex key).1 record.taskId).2.drop key) := by
  unfold examine
  rw [held]
  dsimp only
  rw [isRetained_of_gone gone]

theorem examine_of_oldest_retained
    (absent : desk.books.submissions.lookup key = none)
    (isOldest : desk.books.oldest = some (candidateKey, record))
    (retained :
      (desk.isRetained (ofLex candidateKey).1 record.taskId).1 = true) :
    desk.examine key now = (none, desk.books.refresh candidateKey now) := by
  unfold examine
  rw [absent, isOldest]
  dsimp only
  rw [isRetained_of_retained retained]

theorem examine_of_oldest_gone
    (absent : desk.books.submissions.lookup key = none)
    (isOldest : desk.books.oldest = some (candidateKey, record))
    (gone : (desk.isRetained (ofLex candidateKey).1 record.taskId).1 = false) :
    desk.examine key now =
      (none, (desk.isRetained (ofLex candidateKey).1
        record.taskId).2.drop candidateKey) := by
  unfold examine
  rw [absent, isOldest]
  dsimp only
  rw [isRetained_of_gone gone]

/-! ### Repeated submissions -/

/-- A submission whose record is retained is answered from the record. -/
theorem submit_of_isRetained
    (held : desk.books.submissions.lookup
      (toLex (principal, payload.clientRequestId)) = some record)
    (retained : (desk.isRetained principal record.taskId).1 = true) :
    (desk.submit principal token requestId payload outcome checked now).1 =
      record.answer (canonicalPayload payload) requestId := by
  unfold submit
  dsimp only
  rw [examine_of_retained held retained]

end Desk
end Remote
end TaskCage
