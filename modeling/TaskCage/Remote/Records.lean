import TaskCage.Remote.Calls

/-!
# Records and answers

Every record of the dispatcher repeats an answer that was given, and so does
every copy of a record that a call has made.
-/

namespace TaskCage
namespace Remote

open Profile Artifact

/-- A record repeats an answer. -/
structure Repeats (answers : List Answered) (key : SubmissionKey)
    (record : SubmissionRecord) (answered : Answered) : Prop where
  known : answered ∈ answers
  key : answered.submission.key = key
  payload : record.canonicalPayload =
    canonicalPayload answered.submission.payload
  response : record.response = answered.response
  task : record.taskId = answered.taskId

/-- A record repeats some answer. -/
def Recorded (answers : List Answered) (key : SubmissionKey)
    (record : SubmissionRecord) : Prop :=
  ∃ answered, Repeats answers key record answered

/-- The record that a call has copied for a purpose. -/
def Purpose.entry : Purpose → Option (SubmissionKey × SubmissionRecord)
  | retention _ key record => some (key, record)
  | result _ _ _ => none
  | cancellation _ _ _ => none

/-- The record that a call has copied before it removes inputs. -/
def Sweep.entry : Sweep → Option (SubmissionKey × SubmissionRecord)
  | forgotten purpose => purpose.entry
  | _ => none

/-- The record that a call has copied. -/
def Call.entry : Call → Option (SubmissionKey × SubmissionRecord)
  | looking purpose => purpose.entry
  | asking purpose => purpose.entry
  | removing purpose => purpose.entry
  | clearing purpose => purpose.entry
  | disowning sweep => sweep.entry
  | sweeping sweep _ => sweep.entry
  | checked _ key record _ => some (key, record)
  | _ => none

theorem Purpose.entry_next (purpose : Purpose) :
    purpose.next.entry = purpose.entry := by
  cases purpose <;> rfl

theorem Source.entry_deliver (source : Source) (payload : RemoteTaskPayload) :
    (source.deliver payload).entry = none := by
  cases source <;> rfl

section Steps

variable {store : RemoteArtifactStore} {token : SubmissionKey → String}
variable {shared after : Shared} {call next : Call} {label : Label}

/-- Answers are not forgotten. -/
theorem answers_of_acts
    (acts : Acts store token shared call label next after)
    {answered : Answered} (known : answered ∈ shared.answers) :
    answered ∈ after.answers := by
  cases acts
  case recorded => exact List.mem_cons_of_mem _ known
  all_goals exact known

variable {key : SubmissionKey} {record : SubmissionRecord}

/-- A call copies a record when it looks at it. -/
theorem entry_of_acts (acts : Acts store token shared call label next after)
    (found : next.entry = some (key, record)) :
    call.entry = some (key, record) ∨
      shared.books.submissions.lookup key = some record := by
  cases acts
  case lookAtOwn submission copied held =>
      cases found
      exact .inr held
  case lookAtOldest submission absent isOldest =>
      cases found
      exact .inr (Books.lookup_of_oldest isOldest)
  case forgotten purpose owner clean room cleanup =>
      rw [Purpose.entry_next] at found
      exact .inl found
  case reported source ended managed owner room cleanup =>
      rw [Source.entry_deliver] at found
      cases found
  case reportRunning source taskId profile submittedAt startedAt =>
      rw [Source.entry_deliver] at found
      cases found
  case reportCached source ended payload free cached =>
      rw [Source.entry_deliver] at found
      cases found
  all_goals first
    | exact .inl found
    | cases found

/-- What is on record is what was, up to the time of the last check, or the
answer that is given. -/
theorem submissions_of_acts
    (acts : Acts store token shared call label next after)
    (held : after.books.submissions.lookup key = some record) :
    (∃ earlier, shared.books.submissions.lookup key = some earlier ∧
      record.canonicalPayload = earlier.canonicalPayload ∧
      record.response = earlier.response ∧
      record.taskId = earlier.taskId) ∨ Recorded after.answers key record := by
  have ofRefresh {books : Books} {other : SubmissionKey} {now : ℕ}
      (refreshed : (books.refresh other now).submissions.lookup key =
        some record) :
      ∃ earlier, books.submissions.lookup key = some earlier ∧
        record.canonicalPayload = earlier.canonicalPayload ∧
        record.response = earlier.response ∧
        record.taskId = earlier.taskId := by
    rw [Books.lookup_refresh] at refreshed
    split at refreshed
    · rename_i same
      obtain ⟨earlier, found, rfl⟩ := Option.map_eq_some_iff.mp refreshed
      exact ⟨earlier, same ▸ found, rfl, rfl, rfl⟩
    · exact ⟨record, refreshed, rfl, rfl, rfl⟩
  cases acts
  case repeated => exact .inl (ofRefresh held)
  case refreshed => exact .inl (ofRefresh held)
  case dropped =>
      obtain ⟨-, remains⟩ := OrderedTable.lookup_erase_eq_some_iff.mp held
      exact .inl ⟨record, remains, rfl, rfl, rfl⟩
  case recorded submission response taskId now names =>
      rcases OrderedTable.lookup_insert_eq_some_iff.mp held with
        ⟨same, rfl⟩ | ⟨-, earlier⟩
      · exact .inr ⟨⟨submission, response, taskId⟩, List.mem_cons_self,
          same.symm, rfl, rfl, rfl⟩
      · exact .inl ⟨record, earlier, rfl, rfl, rfl⟩
  case removed purpose =>
      dsimp only [Shared.onBooks] at held
      rw [Books.submissions_removeRemoteTaskIfOwned] at held
      exact .inl ⟨record, held, rfl, rfl, rfl⟩
  case withdrawn submission taskId response failed =>
      dsimp only [Shared.onBooks] at held
      rw [Books.submissions_removeRemoteTaskIfOwned] at held
      exact .inl ⟨record, held, rfl, rfl, rfl⟩
  all_goals exact .inl ⟨record, held, rfl, rfl, rfl⟩

/-- Every record, and every copy of one, repeats an answer. -/
structure Written (world : RemoteWorld) : Prop where
  records : ∀ key record,
    world.shared.books.submissions.lookup key = some record →
    Recorded world.shared.answers key record
  copies : ∀ caller key record,
    (world.calls caller).entry = some (key, record) →
    Recorded world.shared.answers key record

theorem Recorded.of_acts (acts : Acts store token shared call label next after)
    (recorded : Recorded shared.answers key record) :
    Recorded after.answers key record := by
  obtain ⟨answered, repeats⟩ := recorded
  exact ⟨answered, { repeats with
    known := answers_of_acts acts repeats.known }⟩

theorem Written.step {world last : RemoteWorld} (written : Written world)
    (taken : CallStep store token world label last) : Written last := by
  cases taken with
  | call caller label next shared acts =>
      refine ⟨?_, ?_⟩
      · intro key record held
        rcases submissions_of_acts acts held with
          ⟨earlier, found, payload, response, task⟩ | recorded
        · obtain ⟨answered, repeats⟩ := written.records key earlier found
          exact ⟨answered, answers_of_acts acts repeats.known, repeats.key,
            payload.trans repeats.payload, response.trans repeats.response,
            task.trans repeats.task⟩
        · exact recorded
      · intro other key record found
        by_cases same : other = caller
        · subst same
          rw [RemoteWorld.calls_advance_self] at found
          rcases entry_of_acts acts found with copied | held
          · exact (written.copies other key record copied).of_acts acts
          · exact (written.records key record held).of_acts acts
        · rw [RemoteWorld.calls_advance_of_ne same] at found
          exact (written.copies other key record found).of_acts acts
  | complete | expire | serve => exact ⟨written.records, written.copies⟩

theorem written_freshWorld (room : StoreRoom) : Written (freshWorld room) :=
  ⟨fun _ _ held => (nomatch held), fun _ _ _ found => (nomatch found)⟩

end Steps

end Remote
end TaskCage
