import TaskCage.Foundation.Reach
import TaskCage.Remote.Dispatcher

/-!
# How much the Remote side remembers

Every submission with a new key looks at the record that was checked least
recently, and drops it if its task is gone.  So the maps stay within the bound
of the registry as long as no retained record is checked while a record of a
task that is gone waits behind it.
-/

namespace TaskCage
namespace Remote

open Profile Artifact

/-! ### Runs of calls -/

/-- A call, or an event of the registry. -/
inductive DeskLabel where
  | submit (principal token requestId : String)
      (payload : RemoteProfileRequestPayload) (outcome : Outcome)
      (checked recorded : ℕ)
  | get (principal requestId taskId : String)
      (managed : List (String × ManagedOutputArtifactPayload))
  | cancel (principal requestId taskId : String) (outcome : LocalTaskPayload)
      (message : String)
  | monitor (taskId : String)
      (managed : List (String × ManagedOutputArtifactPayload))
  | complete (taskId : String) (payload : LocalTaskPayload)
  | expire (taskId : String)

/-- One call after the other, with a registry of `maxTasks` tasks. -/
inductive DeskStep (maxTasks : ℕ) (desk : Desk) :
    DeskLabel → Desk → Prop where
  -- A task gets an identifier that was not drawn before.
  | submit (principal token requestId : String)
      (payload : RemoteProfileRequestPayload) (outcome : Outcome)
      (checked recorded : ℕ)
      (fresh : ∀ taskId, outcome.taskId = some taskId → taskId ∉ desk.issued)
      (room : outcome.retained ≠ none → desk.registry.size < maxTasks) :
      DeskStep maxTasks desk
        (.submit principal token requestId payload outcome checked recorded)
        (desk.submit principal token requestId payload outcome checked
          recorded).2
  | get (principal requestId taskId : String)
      (managed : List (String × ManagedOutputArtifactPayload)) :
      DeskStep maxTasks desk (.get principal requestId taskId managed)
        (desk.get principal requestId taskId managed).2
  | cancel (principal requestId taskId : String) (outcome : LocalTaskPayload)
      (message : String) (same : outcome.taskId = taskId) :
      DeskStep maxTasks desk
        (.cancel principal requestId taskId outcome message)
        (desk.cancel principal requestId taskId outcome message).2
  | monitor (taskId : String)
      (managed : List (String × ManagedOutputArtifactPayload)) :
      DeskStep maxTasks desk (.monitor taskId managed)
        (desk.monitor taskId managed)
  | complete (taskId : String) (running : ProfileIdentity)
      (submittedAt startedAt : String) (profile : ProfileIdentity)
      (outputSlot : String) (result : TaskResult) (terminal : ProfileTerminal)
      (runs : desk.registry.lookup taskId =
        some (.running taskId running submittedAt startedAt))
      (same : result.taskId = taskId) :
      DeskStep maxTasks desk
        (.complete taskId (.finished profile outputSlot result terminal))
        { desk with
          registry := desk.registry.insert taskId
            (.finished profile outputSlot result terminal) }
  | expire (taskId : String) (profile : ProfileIdentity)
      (outputSlot : String) (result : TaskResult) (terminal : ProfileTerminal)
      (ended : desk.registry.lookup taskId =
        some (.finished profile outputSlot result terminal)) :
      DeskStep maxTasks desk (.expire taskId)
        { desk with registry := desk.registry.erase taskId }

/-- The task of a record is retained. -/
def Desk.Retained (desk : Desk) (key : SubmissionKey)
    (record : SubmissionRecord) : Prop :=
  (desk.isRetained (ofLex key).1 record.taskId).1 = true

/-- A submission does not end with an internal error, and when it looks at a
retained record then every record is retained. -/
def Timely (desk : Desk) : DeskLabel → Prop
  | .submit principal _ _ payload outcome _ _ =>
      (∀ taskId message, outcome ≠ .broken taskId message) ∧
        (desk.books.submissions.lookup
            (toLex (principal, payload.clientRequestId)) = none →
          ∀ candidateKey candidate,
            desk.books.oldest = some (candidateKey, candidate) →
            desk.Retained candidateKey candidate →
            ∀ key record, desk.books.submissions.lookup key = some record →
              desk.Retained key record)
  | _ => True

/-! ### Records and tasks -/

/-- The task that is recorded for a key. -/
def Books.taskOf (books : Books) (key : SubmissionKey) : Option String :=
  (books.submissions.lookup key).map SubmissionRecord.taskId

variable (books : Books)

theorem Books.taskOf_refresh (key other : SubmissionKey) (now : ℕ) :
    (books.refresh key now).taskOf other = books.taskOf other := by
  unfold taskOf
  rw [lookup_refresh]
  split
  · rename_i same
    rw [same, Option.map_map]
    rfl
  · rfl

theorem Books.taskOf_drop (key other : SubmissionKey) :
    (books.drop key).taskOf other =
      if other = key then none else books.taskOf other := by
  unfold taskOf drop
  rw [OrderedTable.lookup_erase_eq_ite]
  split
  · rfl
  · rfl

theorem Books.taskOf_record (key other : SubmissionKey)
    (submission : SubmissionRecord) :
    (books.record key submission).taskOf other =
      if other = key then some submission.taskId
      else books.taskOf other := by
  unfold taskOf record
  rw [OrderedTable.lookup_insert_eq_ite]
  split
  · rfl
  · rfl

/-- Every task that is remembered somewhere has its record. -/
structure Kept (desk : Desk) : Prop where
  registered : ∀ taskId payload,
    desk.registry.lookup taskId = some payload → taskId ∈ desk.issued
  named : ∀ taskId payload,
    desk.registry.lookup taskId = some payload → payload.taskId = taskId
  recorded : ∀ key taskId, desk.books.taskOf key = some taskId →
    taskId ∈ desk.issued
  distinct : ∀ first second taskId, desk.books.taskOf first = some taskId →
    desk.books.taskOf second = some taskId → first = second
  owned : ∀ taskId principal,
    desk.books.remoteTasks.lookup taskId = some principal →
    ∃ key, desk.books.taskOf key = some taskId ∧ (ofLex key).1 = principal
  cached : ∀ taskId payload,
    desk.books.finished.lookup taskId = some payload →
    ∃ principal, desk.books.remoteTasks.lookup taskId = some principal
  live : ∀ taskId payload, desk.registry.lookup taskId = some payload →
    ∃ key, desk.books.taskOf key = some taskId ∧
      desk.books.remoteTasks.lookup taskId = some (ofLex key).1

namespace Kept

theorem empty : Kept .empty where
  registered _ _ found := nomatch found
  named _ _ found := nomatch found
  recorded _ _ found := nomatch found
  distinct _ _ _ found := nomatch found
  owned _ _ found := nomatch found
  cached _ _ found := nomatch found
  live _ _ found := nomatch found

variable {desk : Desk} {key : SubmissionKey} {taskId principal : String}
variable {books : Books} {payload : LocalTaskPayload}

/-- The maps change, and the records with their tasks do not. -/
theorem of_books (kept : Kept desk)
    (records : ∀ key, books.taskOf key = desk.books.taskOf key)
    (owners : ∀ taskId, books.remoteTasks.lookup taskId =
      desk.books.remoteTasks.lookup taskId)
    (cached : ∀ taskId payload, books.finished.lookup taskId = some payload →
      ∃ principal, desk.books.remoteTasks.lookup taskId = some principal) :
    Kept { desk with books } where
  registered := kept.registered
  named := kept.named
  recorded key taskId found := by
    rw [records] at found
    exact kept.recorded key taskId found
  distinct first second taskId isFirst isSecond := by
    rw [records] at isFirst isSecond
    exact kept.distinct first second taskId isFirst isSecond
  owned taskId principal found := by
    rw [owners] at found
    obtain ⟨key, recorded, same⟩ := kept.owned taskId principal found
    exact ⟨key, (records key).trans recorded, same⟩
  cached taskId payload found := by
    obtain ⟨principal, owned⟩ := cached taskId payload found
    exact ⟨principal, (owners taskId).trans owned⟩
  live taskId payload found := by
    obtain ⟨key, recorded, owned⟩ := kept.live taskId payload found
    exact ⟨key, (records key).trans recorded, (owners taskId).trans owned⟩

theorem refresh (kept : Kept desk) (key : SubmissionKey) (now : ℕ) :
    Kept { desk with books := desk.books.refresh key now } := by
  refine kept.of_books (desk.books.taskOf_refresh key · now) ?_ ?_
  · intro taskId
    rw [Books.refresh_eq]
  · intro taskId payload found
    rw [Books.refresh_eq] at found
    exact kept.cached taskId payload found

/-- A record without an owned task is dropped. -/
theorem drop (kept : Kept desk)
    (lone : ∀ taskId, desk.books.taskOf key = some taskId →
      desk.books.remoteTasks.lookup taskId = none) :
    Kept { desk with books := desk.books.drop key } where
  registered := kept.registered
  named := kept.named
  recorded other taskId found := by
    rw [Books.taskOf_drop] at found
    split at found
    · cases found
    · exact kept.recorded other taskId found
  distinct first second taskId isFirst isSecond := by
    rw [Books.taskOf_drop] at isFirst isSecond
    split at isFirst
    · cases isFirst
    · split at isSecond
      · cases isSecond
      · exact kept.distinct first second taskId isFirst isSecond
  owned taskId principal found := by
    obtain ⟨other, recorded, same⟩ := kept.owned taskId principal found
    refine ⟨other, ?_, same⟩
    rw [Books.taskOf_drop, if_neg, recorded]
    rintro rfl
    cases (lone taskId recorded).symm.trans found
  cached := kept.cached
  live taskId payload found := by
    obtain ⟨other, recorded, owned⟩ := kept.live taskId payload found
    refine ⟨other, ?_, owned⟩
    rw [Books.taskOf_drop, if_neg, recorded]
    rintro rfl
    cases (lone taskId recorded).symm.trans owned

/-- A task that the registry does not retain is forgotten. -/
theorem forgetTask (kept : Kept desk)
    (gone : desk.registry.lookup taskId = none) :
    Kept { desk with books := desk.books.forgetTask principal taskId } := by
  have records (key : SubmissionKey) :
      (desk.books.forgetTask principal taskId).taskOf key =
        desk.books.taskOf key := by
    unfold Books.taskOf
    rw [Books.submissions_forgetTask]
  have finished : (desk.books.forgetTask principal taskId).finished =
      desk.books.finished.erase taskId := by
    unfold Books.forgetTask Books.removeRemoteTaskIfOwned
    split <;> rfl
  exact
    { registered := kept.registered
      named := kept.named
      recorded := fun key found recorded =>
        kept.recorded key found ((records key).symm.trans recorded)
      distinct := fun first second found isFirst isSecond =>
        kept.distinct first second found
          ((records first).symm.trans isFirst)
          ((records second).symm.trans isSecond)
      owned := by
        intro other principal found
        obtain ⟨key, recorded, owner⟩ := kept.owned other principal
          (Books.lookup_remoteTasks_of_forgetTask found)
        exact ⟨key, (records key).trans recorded, owner⟩
      cached := by
        intro other payload found
        rw [finished, OrderedTable.lookup_erase_eq_some_iff] at found
        obtain ⟨principal, owned⟩ := kept.cached other payload found.2
        exact ⟨principal,
          (Books.lookup_remoteTasks_forgetTask found.1).trans owned⟩
      live := by
        intro other payload found
        have different : other ≠ taskId := by
          rintro rfl
          rw [gone] at found
          cases found
        obtain ⟨key, recorded, owned⟩ := kept.live other payload found
        exact ⟨key, (records key).trans recorded,
          (Books.lookup_remoteTasks_forgetTask different).trans owned⟩ }

/-- The registry retains tasks that it retained before. -/
theorem of_registry (kept : Kept desk)
    {registry : OrderedTable String LocalTaskPayload}
    (named : ∀ taskId payload, registry.lookup taskId = some payload →
      payload.taskId = taskId)
    (before : ∀ taskId payload, registry.lookup taskId = some payload →
      ∃ earlier, desk.registry.lookup taskId = some earlier) :
    Kept { desk with registry } where
  registered taskId payload found := by
    obtain ⟨earlier, held⟩ := before taskId payload found
    exact kept.registered taskId earlier held
  named := named
  recorded := kept.recorded
  distinct := kept.distinct
  owned := kept.owned
  cached := kept.cached
  live taskId payload found := by
    obtain ⟨earlier, held⟩ := before taskId payload found
    exact kept.live taskId earlier held

/-- A retained task ends. -/
theorem insert_registry (kept : Kept desk) {earlier : LocalTaskPayload}
    (held : desk.registry.lookup taskId = some earlier)
    (same : payload.taskId = taskId) :
    Kept { desk with registry := desk.registry.insert taskId payload } := by
  refine kept.of_registry ?_ ?_
  · intro other found inserted
    rw [OrderedTable.lookup_insert_eq_ite] at inserted
    split at inserted
    · rename_i isTask
      rw [isTask, ← Option.some.inj inserted, same]
    · exact kept.named other found inserted
  · intro other found inserted
    rw [OrderedTable.lookup_insert_eq_ite] at inserted
    split at inserted
    · rename_i isTask
      exact ⟨earlier, isTask ▸ held⟩
    · exact ⟨found, inserted⟩

theorem erase_registry (kept : Kept desk) (taskId : String) :
    Kept { desk with registry := desk.registry.erase taskId } := by
  refine kept.of_registry ?_ ?_
  · intro other found remains
    rw [OrderedTable.lookup_erase_eq_some_iff] at remains
    exact kept.named other found remains.2
  · intro other found remains
    rw [OrderedTable.lookup_erase_eq_some_iff] at remains
    exact ⟨found, remains.2⟩

theorem disown (kept : Kept desk) (taskId : String) :
    Kept { desk with books := desk.books.disown taskId } :=
  kept.of_books (fun _ => rfl) (fun _ => rfl) kept.cached

/-- The report of a retained task may be cached. -/
theorem convertProfileResult (kept : Kept desk)
    (held : desk.registry.lookup taskId = some payload)
    (managed : List (String × ManagedOutputArtifactPayload)) :
    Kept { desk with
      books := (desk.books.convertProfileResult payload managed).2 } := by
  obtain ⟨key, -, owner⟩ := kept.live taskId payload held
  have named := kept.named taskId payload held
  unfold Books.convertProfileResult
  split
  · exact kept
  · split
    · exact kept
    · refine kept.of_books (fun _ => rfl) (fun _ => rfl) ?_
      intro other report found
      dsimp only [Books.cache, Books.disown] at found
      rw [OrderedTable.lookup_insert_eq_ite] at found
      split at found
      · rename_i isTask
        have isNamed : other = taskId := isTask.trans named
        exact ⟨_, isNamed ▸ owner⟩
      · exact kept.cached other report found

/-- A task of a new record is started. -/
theorem start (kept : Kept desk) (unrecorded : desk.books.taskOf key = none)
    (fresh : taskId ∉ desk.issued) (same : payload.taskId = taskId)
    (records : ∀ other, books.taskOf other =
      if other = key then some taskId else desk.books.taskOf other)
    (owners : ∀ other, books.remoteTasks.lookup other =
      if other = taskId then some (ofLex key).1
      else desk.books.remoteTasks.lookup other)
    (cached : ∀ other report, books.finished.lookup other = some report →
      other = taskId ∨ desk.books.finished.lookup other = some report) :
    Kept
      { books
        registry := desk.registry.insert taskId payload
        issued := taskId :: desk.issued } := by
  have another {other : String} (known : other ∈ desk.issued) :
      other ≠ taskId := by
    rintro rfl
    exact fresh known
  have keyed {other : SubmissionKey} {found : String}
      (recorded : desk.books.taskOf other = some found) : other ≠ key := by
    rintro rfl
    cases unrecorded.symm.trans recorded
  have recordOf {other : SubmissionKey} {found : String}
      (recorded : books.taskOf other = some found) :
      other = key ∧ taskId = found ∨ desk.books.taskOf other = some found := by
    rw [records] at recorded
    split at recorded
    · rename_i isKey
      exact .inl ⟨isKey, Option.some.inj recorded⟩
    · exact .inr recorded
  have issuedOf {other : SubmissionKey} {found : String}
      (recorded : desk.books.taskOf other = some found) : found ≠ taskId :=
    another (kept.recorded other found recorded)
  have ownedBefore {other principal : String} (different : other ≠ taskId)
      (owned : desk.books.remoteTasks.lookup other = some principal) :
      books.remoteTasks.lookup other = some principal := by
    rw [owners, if_neg different, owned]
  have recordedBefore {other : SubmissionKey} {found : String}
      (recorded : desk.books.taskOf other = some found) :
      books.taskOf other = some found := by
    rw [records, if_neg (keyed recorded), recorded]
  have ownedNow : books.remoteTasks.lookup taskId = some (ofLex key).1 := by
    rw [owners, if_pos rfl]
  have recordedNow : books.taskOf key = some taskId := by
    rw [records, if_pos rfl]
  have registryOf {other : String} {found : LocalTaskPayload}
      (held : (desk.registry.insert taskId payload).lookup other = some found) :
      other = taskId ∧ payload = found ∨
        other ≠ taskId ∧ desk.registry.lookup other = some found := by
    rw [OrderedTable.lookup_insert_eq_ite] at held
    split at held
    · rename_i isTask
      exact .inl ⟨isTask, Option.some.inj held⟩
    · rename_i different
      exact .inr ⟨different, held⟩
  exact
    { registered := by
        intro other found held
        rcases registryOf held with ⟨rfl, -⟩ | ⟨-, earlier⟩
        · exact List.mem_cons_self
        · exact List.mem_cons_of_mem _ (kept.registered other found earlier)
      named := by
        intro other found held
        rcases registryOf held with ⟨rfl, rfl⟩ | ⟨-, earlier⟩
        · exact same
        · exact kept.named other found earlier
      recorded := by
        intro other found recorded
        rcases recordOf recorded with ⟨-, rfl⟩ | earlier
        · exact List.mem_cons_self
        · exact List.mem_cons_of_mem _ (kept.recorded other found earlier)
      distinct := by
        intro first second found isFirst isSecond
        rcases recordOf isFirst with ⟨rfl, rfl⟩ | firstBefore
        · rcases recordOf isSecond with ⟨rfl, -⟩ | secondBefore
          · rfl
          · exact absurd rfl (issuedOf secondBefore)
        · rcases recordOf isSecond with ⟨rfl, rfl⟩ | secondBefore
          · exact absurd rfl (issuedOf firstBefore)
          · exact kept.distinct first second found firstBefore secondBefore
      owned := by
        intro other principal owned
        rw [owners] at owned
        split at owned
        · rename_i isTask
          exact ⟨key, isTask ▸ recordedNow, Option.some.inj owned⟩
        · obtain ⟨earlier, recorded, owner⟩ := kept.owned other principal owned
          exact ⟨earlier, recordedBefore recorded, owner⟩
      cached := by
        intro other report found
        rcases cached other report found with rfl | before
        · exact ⟨_, ownedNow⟩
        · obtain ⟨principal, owned⟩ := kept.cached other report before
          obtain ⟨earlier, recorded, -⟩ := kept.owned other principal owned
          exact ⟨principal, ownedBefore (issuedOf recorded) owned⟩
      live := by
        intro other found held
        rcases registryOf held with ⟨rfl, -⟩ | ⟨different, earlier⟩
        · exact ⟨key, recordedNow, ownedNow⟩
        · obtain ⟨other, recorded, owned⟩ := kept.live _ found earlier
          exact ⟨other, recordedBefore recorded, ownedBefore different owned⟩ }

/-- After the look at a record whose task is gone nobody owns the task. -/
theorem of_not_isRetained (kept : Kept desk)
    (recorded : desk.books.taskOf key = some taskId)
    (gone : (desk.isRetained (ofLex key).1 taskId).1 = false) :
    (desk.isRetained (ofLex key).1 taskId).2.remoteTasks.lookup taskId =
        none ∧
      Kept { desk with books := (desk.isRetained (ofLex key).1 taskId).2 } := by
  revert gone
  unfold Desk.isRetained Books.remoteTaskOwnedBy
  split
  · rename_i isOwner
    cases held : desk.registry.lookup taskId with
    | some payload => exact nofun
    | none =>
        intro _
        refine ⟨?_, kept.forgetTask held⟩
        unfold Books.forgetTask Books.removeRemoteTaskIfOwned
          Books.remoteTaskOwnedBy
        rw [if_pos isOwner]
        exact (OrderedTable.lookup_erase_eq_ite _ _ _).trans (if_pos rfl)
  · rename_i notOwner
    refine fun _ => ⟨?_, kept⟩
    cases held : desk.books.remoteTasks.lookup taskId with
    | none => rfl
    | some principal =>
        obtain ⟨other, isRecorded, isOwner⟩ := kept.owned taskId principal held
        obtain rfl := kept.distinct other key taskId isRecorded recorded
        rw [isOwner] at notOwner
        exact absurd (decide_eq_true held) notOwner

/-- A record whose task is gone is dropped after the look. -/
theorem drop_isRetained (kept : Kept desk) {record : SubmissionRecord}
    (held : desk.books.submissions.lookup key = some record)
    (gone : (desk.isRetained (ofLex key).1 record.taskId).1 = false) :
    Kept { desk with
        books := (desk.isRetained (ofLex key).1 record.taskId).2.drop key } ∧
      ((desk.isRetained (ofLex key).1 record.taskId).2.drop
        key).submissions.size < desk.books.submissions.size := by
  have recorded : desk.books.taskOf key = some record.taskId := by
    unfold Books.taskOf
    rw [held]
    rfl
  have submissions := desk.submissions_isRetained (ofLex key).1 record.taskId
  obtain ⟨unowned, after⟩ := kept.of_not_isRetained recorded gone
  constructor
  · refine after.drop fun found same => ?_
    have isTask : found = record.taskId := by
      unfold Books.taskOf at same recorded
      rw [submissions] at same
      exact Option.some.inj (same.symm.trans recorded)
    exact isTask ▸ unowned
  · have smaller := OrderedTable.size_erase_of_lookup_eq_some held
    dsimp only [Books.drop]
    rw [submissions]
    omega

/-- If every record is retained, there are no more records than tasks in the
registry. -/
theorem size_le_of_retained (kept : Kept desk)
    (retained : ∀ key record,
      desk.books.submissions.lookup key = some record →
      desk.Retained key record) :
    desk.books.submissions.size ≤ desk.registry.size := by
  refine OrderedTable.size_le_of_injOn (fun _ record => record.taskId) ?_ ?_
  · intro key record held
    have isRetained := retained key record held
    unfold Desk.Retained Desk.isRetained at isRetained
    split at isRetained
    · split at isRetained
      · rename_i payload found
        exact ⟨payload, found⟩
      · cases isRetained
    · cases isRetained
  · intro first record second found isFirst isSecond same
    refine kept.distinct first second record.taskId ?_ ?_
    · unfold Books.taskOf
      rw [isFirst]
      rfl
    · unfold Books.taskOf
      rw [isSecond, same]
      rfl

theorem remoteTasks_size_le (kept : Kept desk) :
    desk.books.remoteTasks.size ≤ desk.books.submissions.size := by
  refine OrderedTable.size_le_of_named (fun _ record => record.taskId) ?_
  intro taskId principal owned
  obtain ⟨key, recorded, -⟩ := kept.owned taskId principal owned
  obtain ⟨record, held, same⟩ := Option.map_eq_some_iff.mp recorded
  exact ⟨key, record, held, same⟩

theorem finished_size_le (kept : Kept desk) :
    desk.books.finished.size ≤ desk.books.remoteTasks.size := by
  refine OrderedTable.size_le_of_named (fun taskId _ => taskId) ?_
  intro taskId payload found
  obtain ⟨principal, owned⟩ := kept.cached taskId payload found
  exact ⟨taskId, principal, owned, rfl⟩

/-- Nothing is cached for an identifier that was not drawn. -/
theorem lookup_finished_of_fresh (kept : Kept desk)
    (fresh : taskId ∉ desk.issued) :
    desk.books.finished.lookup taskId = none := by
  cases found : desk.books.finished.lookup taskId with
  | none => rfl
  | some report =>
      obtain ⟨principal, owned⟩ := kept.cached taskId report found
      obtain ⟨key, recorded, -⟩ := kept.owned taskId principal owned
      exact absurd (kept.recorded key taskId recorded) fresh

end Kept

theorem Books.size_refresh (key : SubmissionKey) (now : ℕ) :
    (books.refresh key now).submissions.size = books.submissions.size := by
  unfold refresh
  split
  · rfl
  · rename_i record held
    exact OrderedTable.size_insert_of_lookup_eq_some held

/-- What the look of a submission leaves. -/
structure Examined (desk : Desk) (key : SubmissionKey)
    (answer : Option SubmissionRecord) (books : Books) : Prop where
  kept : Kept { desk with books }
  size : books.submissions.size ≤ desk.books.submissions.size
  absent : answer = none → books.taskOf key = none
  room : answer = none →
    books.submissions.size < desk.books.submissions.size ∨
      books.submissions.size ≤ desk.registry.size

theorem examined_examine {desk : Desk} (kept : Kept desk) (key : SubmissionKey)
    (now : ℕ)
    (timely : desk.books.submissions.lookup key = none →
      ∀ candidateKey candidate,
        desk.books.oldest = some (candidateKey, candidate) →
        desk.Retained candidateKey candidate →
        ∀ key record, desk.books.submissions.lookup key = some record →
          desk.Retained key record) :
    Examined desk key (desk.examine key now).1 (desk.examine key now).2 := by
  cases held : desk.books.submissions.lookup key with
  | some existing =>
      cases looked : (desk.isRetained (ofLex key).1 existing.taskId).1 with
      | true =>
          rw [Desk.examine_of_retained held looked]
          exact
            { kept := kept.refresh key now
              size := (desk.books.size_refresh key now).le
              absent := nofun
              room := nofun }
      | false =>
          rw [Desk.examine_of_gone held looked]
          obtain ⟨after, smaller⟩ := kept.drop_isRetained held looked
          exact
            { kept := after
              size := smaller.le
              absent := fun _ => by rw [Books.taskOf_drop, if_pos rfl]
              room := fun _ => .inl smaller }
  | none =>
      have unrecorded : desk.books.taskOf key = none := by
        unfold Books.taskOf
        rw [held]
        rfl
      cases isOldest : desk.books.oldest with
      | none =>
          have empty : desk.books.submissions.entries = [] :=
            List.argmin_eq_none.mp isOldest
          have examined : desk.examine key now = (none, desk.books) := by
            unfold Desk.examine
            rw [held, isOldest]
          rw [examined]
          exact
            { kept
              size := le_rfl
              absent := fun _ => unrecorded
              room := fun _ => .inr (by simp [OrderedTable.size, empty]) }
      | some candidate =>
          obtain ⟨candidateKey, record⟩ := candidate
          cases looked : (desk.isRetained (ofLex candidateKey).1
              record.taskId).1 with
          | true =>
              rw [Desk.examine_of_oldest_retained held isOldest looked]
              have size := desk.books.size_refresh candidateKey now
              have retained := kept.size_le_of_retained
                (timely held candidateKey record isOldest looked)
              exact
                { kept := kept.refresh candidateKey now
                  size := size.le
                  absent := fun _ => by rwa [Books.taskOf_refresh]
                  room := fun _ => .inr (size.trans_le retained) }
          | false =>
              rw [Desk.examine_of_oldest_gone held isOldest looked]
              obtain ⟨after, smaller⟩ := kept.drop_isRetained
                (Books.lookup_of_oldest isOldest) looked
              refine ⟨after, smaller.le, fun _ => ?_, fun _ => .inl smaller⟩
              rw [Books.taskOf_drop]
              split
              · rfl
              · unfold Books.taskOf
                rw [Desk.submissions_isRetained, held]
                rfl

end Remote
end TaskCage
