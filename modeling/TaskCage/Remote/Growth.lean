import TaskCage.Remote.Bookkeeping
import Mathlib.Data.Fintype.EquivFin

/-!
# How many entries there are

A step keeps the bound of the registry for every map if it is timely.  In
general there is no bound: while one task runs, every other submission may stay
on record after its task is gone.
-/

namespace TaskCage
namespace Remote

open Profile Artifact

/-! ### Every step -/

/-- The maps are kept and none has more than `maxTasks` entries. -/
structure Bounded (maxTasks : ℕ) (desk : Desk) : Prop where
  kept : Kept desk
  registry : desk.registry.size ≤ maxTasks
  submissions : desk.books.submissions.size ≤ maxTasks

namespace Bounded

variable {maxTasks : ℕ} {desk : Desk} {next : Desk}

/-- The maps change, with as many records as before and as many retained
tasks. -/
theorem of_kept (bounded : Bounded maxTasks desk) (kept : Kept next)
    (registry : next.registry.size ≤ desk.registry.size)
    (submissions : next.books.submissions.size ≤
      desk.books.submissions.size) : Bounded maxTasks next where
  kept
  registry := registry.trans bounded.registry
  submissions := submissions.trans bounded.submissions

/-- A submission whose task was started. -/
theorem start {books after : Books} {key : SubmissionKey} {taskId : String}
    {answer : Option SubmissionRecord} {payload : LocalTaskPayload}
    {record : SubmissionRecord} (bounded : Bounded maxTasks desk)
    (examined : Examined desk key answer books) (unanswered : answer = none)
    (fresh : taskId ∉ desk.issued) (room : desk.registry.size < maxTasks)
    (same : payload.taskId = taskId) (isRecorded : record.taskId = taskId)
    (submissions : after.submissions = books.submissions)
    (owners : after.remoteTasks = books.remoteTasks.insert taskId (ofLex key).1)
    (cached : ∀ other report, after.finished.lookup other = some report →
      other = taskId ∨ books.finished.lookup other = some report) :
    Bounded maxTasks
      { books := after.record key record
        registry := desk.registry.insert taskId payload
        issued := taskId :: desk.issued } where
  kept := by
    have records (other : SubmissionKey) :
        (after.record key record).taskOf other =
          if other = key then some taskId else books.taskOf other := by
      rw [Books.taskOf_record, isRecorded]
      unfold Books.taskOf
      rw [submissions]
    have ownership (other : String) :
        (after.record key record).remoteTasks.lookup other =
          if other = taskId then some (ofLex key).1
          else books.remoteTasks.lookup other :=
      (congrArg (·.lookup other) owners).trans
        (OrderedTable.lookup_insert_eq_ite _ _ _ _)
    exact examined.kept.start (examined.absent unanswered) fresh same records
      ownership cached
  registry := by
    have larger := desk.registry.size_insert taskId payload
    have erased := desk.registry.size_erase_le taskId
    dsimp only
    omega
  submissions := by
    have larger := books.submissions.size_insert key record
    have erased := books.submissions.size_erase_le key
    have before := bounded.submissions
    dsimp only [Books.record]
    rw [submissions]
    rcases examined.room unanswered with smaller | retained
    · omega
    · omega

theorem submit {principal token requestId : String}
    {payload : RemoteProfileRequestPayload} {outcome : Outcome}
    {checked recorded : ℕ} (bounded : Bounded maxTasks desk)
    (fresh : ∀ taskId, outcome.taskId = some taskId → taskId ∉ desk.issued)
    (room : outcome.retained ≠ none → desk.registry.size < maxTasks)
    (timely : Timely desk
      (.submit principal token requestId payload outcome checked recorded)) :
    Bounded maxTasks (desk.submit principal token requestId payload outcome
      checked recorded).2 := by
  have examined := examined_examine bounded.kept
    (toLex (principal, payload.clientRequestId)) checked timely.2
  unfold Desk.submit
  dsimp only
  cases looked : desk.examine (toLex (principal, payload.clientRequestId))
      checked with
  | mk answer books =>
      rw [looked] at examined
      cases answer with
      | some record => exact bounded.of_kept examined.kept le_rfl examined.size
      | none =>
          cases outcome with
          | refused code message retryable =>
              exact bounded.of_kept examined.kept le_rfl examined.size
          | broken taskId message => exact absurd rfl (timely.1 _ _)
          | accepted accepted submittedAt startedAt =>
              exact bounded.start examined rfl (fresh _ rfl) (room nofun) rfl
                rfl rfl rfl (fun _ _ found => .inr found)
          | ended profile outputSlot result terminal managed =>
              have absent : ((books.registerRemoteTask result.taskId
                  principal).own result.taskId token).finished.lookup
                    result.taskId = none :=
                examined.kept.lookup_finished_of_fresh (fresh _ rfl)
              dsimp only [Desk.backendSubmit]
              rw [Books.convertProfileResult_of_absent absent]
              refine bounded.start examined rfl (fresh _ rfl) (room nofun) rfl
                rfl rfl rfl ?_
              intro other report found
              dsimp only [Books.cache, Books.disown] at found
              rw [OrderedTable.lookup_insert_eq_ite] at found
              split at found
              · rename_i isTask
                exact .inl isTask
              · exact .inr found

/-- A step keeps the bound. -/
theorem step {label : DeskLabel} (bounded : Bounded maxTasks desk)
    (timely : Timely desk label) (taken : DeskStep maxTasks desk label next) :
    Bounded maxTasks next := by
  have kept := bounded.kept
  cases taken with
  | submit principal token requestId payload outcome checked recorded fresh
      room => exact bounded.submit fresh room timely
  | get principal requestId taskId managed =>
      unfold Desk.get
      split
      · split
        · rename_i payload held
          refine bounded.of_kept (kept.convertProfileResult held managed)
            le_rfl ?_
          dsimp only
          rw [Books.submissions_convertProfileResult]
        · rename_i gone
          refine bounded.of_kept (kept.forgetTask gone) le_rfl ?_
          dsimp only
          rw [Books.submissions_forgetTask]
      · exact bounded
  | cancel principal requestId taskId outcome message same =>
      unfold Desk.cancel
      split
      · split
        · rename_i held
          have ended := kept.insert_registry held same
          split
          · exact bounded.of_kept (ended.disown taskId)
              (OrderedTable.size_insert_of_lookup_eq_some held).le le_rfl
          · exact bounded.of_kept ended
              (OrderedTable.size_insert_of_lookup_eq_some held).le le_rfl
        · exact bounded
        · exact bounded
        · exact bounded
      · exact bounded
  | monitor taskId managed =>
      unfold Desk.monitor
      split
      · rename_i payload held
        refine bounded.of_kept (kept.convertProfileResult held managed)
          le_rfl ?_
        dsimp only
        rw [Books.submissions_convertProfileResult]
      · exact bounded.of_kept (kept.disown taskId) le_rfl le_rfl
  | complete taskId running submittedAt startedAt profile outputSlot result
      terminal runs same =>
      exact bounded.of_kept (kept.insert_registry runs same)
        (OrderedTable.size_insert_of_lookup_eq_some runs).le le_rfl
  | expire taskId profile outputSlot result terminal ended =>
      exact bounded.of_kept (kept.erase_registry taskId)
        (desk.registry.size_erase_le taskId) le_rfl

end Bounded

/-- One submission was accepted. -/
def acceptedDesk : Desk :=
  (Desk.empty.submit "client" "token" "request"
    { clientRequestId := "01234567-89ab-4def-8123-456789abcdef"
      profile := ⟨"count", "1.0.0"⟩
      inputs := .empty
      resourceOverrides := none }
    (.accepted ⟨"task", ⟨"count", "1.0.0"⟩, .smallest⟩ "" "") 0 0).2

/-! ### A run that keeps everything -/

/-- A submission without inputs. -/
def plainPayload (clientRequestId : String) : RemoteProfileRequestPayload where
  clientRequestId
  profile := ⟨"count", "1.0.0"⟩
  inputs := .empty
  resourceOverrides := none

/-- The task of a submission is running. -/
def runningOutcome (taskId : String) : Outcome :=
  .accepted
    { taskId
      profile := ⟨"count", "1.0.0"⟩
      budget := .smallest } "" ""

/-- How a task has ended. -/
def endedResult (taskId : String) : TaskResult where
  taskId
  terminationReason := .exited
  process := ⟨some 1, none⟩
  timing := ⟨"", "", "", 0⟩
  usage := ⟨0, 0⟩
  output := ⟨"", "", false, false⟩

/-- The task has ended without an output. -/
def endedPayload (taskId : String) : LocalTaskPayload :=
  .finished ⟨"count", "1.0.0"⟩ "output" (endedResult taskId)
    (.failed ⟨"PROFILE_EXECUTION_FAILED", "Profile execution failed"⟩)

/-- What is recorded of a submission. -/
def plainRecord (key : SubmissionKey) (taskId : String) (now : ℕ) :
    SubmissionRecord where
  canonicalPayload := canonicalPayload (plainPayload (ofLex key).2)
  response := .profileAccepted "request"
    { taskId
      profile := ⟨"count", "1.0.0"⟩
      budget := .smallest }
  taskId
  lastChecked := now

/-- The submissions of a run have certain keys. -/
def SubmitsOf (keys : List SubmissionKey) (_ : Desk) : DeskLabel → Prop
  | .submit principal _ _ payload _ _ _ =>
      toLex (principal, payload.clientRequestId) ∈ keys
  | _ => True

section Turns

variable {desk : Desk} {key : SubmissionKey} {keys : List SubmissionKey}
variable {books : Books} {taskId : String} {checked recorded : ℕ}

/-- What is kept after a submission. -/
def turned (books : Books) (key : SubmissionKey) (taskId : String)
    (now : ℕ) : Books :=
  ((books.registerRemoteTask taskId (ofLex key).1).own taskId "token").record
    key (plainRecord key taskId now)

/-- A submission whose task is running. -/
theorem submitted_of_examine
    (examined : desk.examine key checked = (none, books)) :
    (desk.submit (ofLex key).1 "token" "request" (plainPayload (ofLex key).2)
      (runningOutcome taskId) checked recorded).2 =
      { books := turned books key taskId recorded
        registry := desk.registry.insert taskId
          (.running taskId ⟨"count", "1.0.0"⟩ "" "")
        issued := taskId :: desk.issued } := by
  have same : toLex ((ofLex key).1,
      (plainPayload (ofLex key).2).clientRequestId) = key :=
    rfl
  unfold Desk.submit
  dsimp only
  rw [same, examined]
  rfl

/-- A submission whose task ends at once and expires. -/
theorem exists_turn (recorded : ℕ) (member : key ∈ keys)
    (examined : desk.examine key checked = (none, books))
    (fresh : taskId ∉ desk.issued)
    (unregistered : desk.registry.lookup taskId = none)
    (room : desk.registry.size = 1) :
    ∃ next : Desk, Reaches (DeskStep 2) (SubmitsOf keys) desk next ∧
      next.books = turned books key taskId recorded ∧
      next.registry.size = 1 ∧
      (∀ other, next.registry.lookup other = desk.registry.lookup other) ∧
      next.issued = taskId :: desk.issued := by
  have submitted : DeskStep 2 desk
      (.submit (ofLex key).1 "token" "request" (plainPayload (ofLex key).2)
        (runningOutcome taskId) checked recorded) _ :=
    .submit _ _ _ _ _ _ _ (fun _ same => Option.some.inj same ▸ fresh)
      (fun _ => by omega)
  rw [submitted_of_examine examined] at submitted
  have afterSubmit : Reaches (DeskStep 2) (SubmitsOf keys) desk _ :=
    .step _ .start (by exact member) submitted
  have runs := (OrderedTable.lookup_insert_eq_ite desk.registry taskId taskId
    (.running taskId ⟨"count", "1.0.0"⟩ "" "")).trans (if_pos rfl)
  have afterEnd := afterSubmit.step
    (.complete taskId (endedPayload taskId)) (by exact trivial)
    (.complete taskId _ _ _ ⟨"count", "1.0.0"⟩ "output" (endedResult taskId)
      (.failed ⟨"PROFILE_EXECUTION_FAILED", "Profile execution failed"⟩) runs
      rfl)
  have ends := (OrderedTable.lookup_insert_eq_ite (desk.registry.insert taskId
    (.running taskId ⟨"count", "1.0.0"⟩ "" "")) taskId taskId
      (endedPayload taskId)).trans (if_pos rfl)
  refine ⟨_, afterEnd.step (.expire taskId) trivial
    (.expire taskId _ _ _ _ ends), rfl, ?_,
    ?_, rfl⟩
  · have erased := OrderedTable.size_erase_of_lookup_eq_some ends
    rw [OrderedTable.size_insert_of_lookup_eq_some runs,
      OrderedTable.size_insert_of_lookup_eq_none unregistered, room] at erased
    exact Nat.succ.inj erased
  · intro other
    dsimp only
    rw [OrderedTable.lookup_erase_eq_ite]
    split
    · rename_i same
      rw [same, unregistered]
    · rename_i different
      rw [OrderedTable.lookup_insert_eq_ite, if_neg different,
        OrderedTable.lookup_insert_eq_ite, if_neg different]

theorem lookup_turned (books : Books) (key : SubmissionKey) (taskId : String)
    (now : ℕ) (other : SubmissionKey) :
    (turned books key taskId now).submissions.lookup other =
      if other = key then some (plainRecord key taskId now)
      else books.submissions.lookup other :=
  OrderedTable.lookup_insert_eq_ite _ _ _ _

theorem lookup_remoteTasks_turned {other : String} (different : other ≠ taskId)
    (books : Books) (key : SubmissionKey) (now : ℕ) :
    (turned books key taskId now).remoteTasks.lookup other =
      books.remoteTasks.lookup other :=
  (OrderedTable.lookup_insert_eq_ite _ _ _ _).trans (if_neg different)

theorem exists_fresh (desk : Desk) : ∃ taskId, taskId ∉ desk.issued := by
  obtain ⟨taskId, fresh⟩ := Infinite.exists_notMem_finset desk.issued.toFinset
  exact ⟨taskId, fun member => fresh (List.mem_toFinset.mpr member)⟩

/-- The registry retains one task. -/
structure Alone (desk : Desk) (runs : String) : Prop where
  room : desk.registry.size = 1
  retained : ∃ payload, desk.registry.lookup runs = some payload
  only : ∀ taskId payload, desk.registry.lookup taskId = some payload →
    taskId = runs
  known : runs ∈ desk.issued

variable {runs : String}

theorem Alone.lookup_of_ne (alone : Alone desk runs)
    (different : taskId ≠ runs) : desk.registry.lookup taskId = none := by
  cases held : desk.registry.lookup taskId with
  | none => rfl
  | some payload => exact absurd (alone.only taskId payload held) different

/-- While a task runs, another submission comes and goes. -/
theorem Alone.exists_turn (alone : Alone desk runs) (recorded : ℕ)
    (member : key ∈ keys) (examined : desk.examine key checked = (none, books)) :
    ∃ (next : Desk) (taskId : String),
      Reaches (DeskStep 2) (SubmitsOf keys) desk next ∧ Alone next runs ∧
        taskId ≠ runs ∧ next.books = turned books key taskId recorded := by
  obtain ⟨taskId, fresh⟩ := exists_fresh desk
  have different : taskId ≠ runs := by
    rintro rfl
    exact fresh alone.known
  obtain ⟨next, reached, after, room, registry, issued⟩ := Remote.exists_turn
    recorded member examined fresh
    (alone.lookup_of_ne different) alone.room
  refine ⟨next, taskId, reached, ⟨room, ?_, ?_, ?_⟩, different, after⟩
  · rw [registry]
    exact alone.retained
  · intro other payload held
    rw [registry] at held
    exact alone.only other payload held
  · rw [issued]
    exact List.mem_cons_of_mem _ alone.known

end Turns

/-- One task is running.  Each of the other keys has a record whose task is
gone, and all but the pending ones were checked after the running one. -/
structure Pile (desk : Desk) (long : SubmissionKey) (runs : String)
    (since : ℕ) (keys pending : List SubmissionKey) (clock : ℕ) : Prop where
  alone : Alone desk runs
  owner : desk.books.remoteTasks.lookup runs = some (ofLex long).1
  held : ∃ record, desk.books.submissions.lookup long = some record ∧
    record.taskId = runs ∧ record.lastChecked = since
  early : since < clock
  present : ∀ key ∈ keys, ∃ record,
    desk.books.submissions.lookup key = some record ∧ record.taskId ≠ runs ∧
      (key ∉ pending → since < record.lastChecked)
  only : ∀ key record, desk.books.submissions.lookup key = some record →
    key = long ∨ key ∈ keys
  size : desk.books.submissions.size = keys.length + 1

namespace Pile

variable {desk : Desk} {long key : SubmissionKey} {runs : String}
variable {since clock : ℕ} {all keys pending : List SubmissionKey}

/-- A key whose task is gone is submitted again. -/
theorem exists_refiled (member : key ∈ all) (isKey : key ∈ keys)
    (different : key ≠ long)
    (pile : Pile desk long runs since keys (key :: pending) clock) :
    ∃ next, Reaches (DeskStep 2) (SubmitsOf all) desk next ∧
      Pile next long runs since keys pending (clock + 1) := by
  obtain ⟨record, isRecord, isGone, -⟩ := pile.present key isKey
  have examined : desk.examine key clock = _ := Desk.examine_of_gone isRecord
    (Desk.isRetained_of_lookup_eq_none (pile.alone.lookup_of_ne isGone))
  obtain ⟨next, taskId, reached, alone, another, books⟩ :=
    pile.alone.exists_turn clock member examined
  have dropped : ((desk.isRetained (ofLex key).1 record.taskId).2.drop
      key).submissions = desk.books.submissions.erase key :=
    congrArg (·.erase key) (desk.submissions_isRetained _ _)
  have after (other : SubmissionKey) :
      next.books.submissions.lookup other =
        if other = key then some (plainRecord key taskId clock)
        else desk.books.submissions.lookup other := by
    rw [books, lookup_turned, dropped]
    split
    · rfl
    · rename_i different
      rw [OrderedTable.lookup_erase_eq_ite, if_neg different]
  refine ⟨next, reached, alone, ?_, ?_, ?_, ?_, ?_, ?_⟩
  · rw [books, lookup_remoteTasks_turned another.symm]
    exact (Desk.lookup_remoteTasks_isRetained isGone.symm).trans pile.owner
  · obtain ⟨longRecord, held, facts⟩ := pile.held
    exact ⟨longRecord, (after long).trans
      ((if_neg different.symm).trans held), facts⟩
  · have early := pile.early
    omega
  · intro other isOther
    by_cases same : other = key
    · exact ⟨_, (after other).trans (if_pos same), another, fun _ => pile.early⟩
    · obtain ⟨record, found, gone, later⟩ := pile.present other isOther
      refine ⟨record, (after other).trans ((if_neg same).trans found), gone,
        fun settled => later fun isPending => ?_⟩
      exact (List.mem_cons.mp isPending).elim same settled
  · intro other found isFound
    rw [after] at isFound
    split at isFound
    · rename_i same
      exact .inr (same ▸ isKey)
    · exact pile.only other found isFound
  · have absent : ((desk.isRetained (ofLex key).1 record.taskId).2.drop
        key).submissions.lookup key = none := by
      rw [dropped, OrderedTable.lookup_erase_eq_ite, if_pos rfl]
    rw [books, ← pile.size,
      ← OrderedTable.size_erase_of_lookup_eq_some isRecord, ← dropped]
    exact OrderedTable.size_insert_of_lookup_eq_none absent

/-- Every pending key is submitted again. -/
theorem exists_settled (different : long ∉ keys) (sub : keys ⊆ all)
    (isKey : pending ⊆ keys)
    (pile : Pile desk long runs since keys pending clock) :
    ∃ next later, Reaches (DeskStep 2) (SubmitsOf all) desk next ∧
      Pile next long runs since keys [] later := by
  induction pending generalizing desk clock with
  | nil => exact ⟨desk, clock, .start, pile⟩
  | cons key rest inductionHypothesis =>
      have member := isKey List.mem_cons_self
      obtain ⟨next, reached, refiled⟩ := exists_refiled (sub member) member
        (ne_of_mem_of_not_mem member different) pile
      obtain ⟨last, later, further, settled⟩ := inductionHypothesis
        (fun _ isRest => isKey (List.mem_cons_of_mem _ isRest)) refiled
      exact ⟨last, later, reached.trans further, settled⟩

/-- The running task is the one that was checked least recently. -/
theorem oldest_eq (pile : Pile desk long runs since keys [] clock)
    {record : SubmissionRecord}
    (held : desk.books.submissions.lookup long = some record)
    (isSince : record.lastChecked = since) :
    desk.books.oldest = some (long, record) := by
  have isEntry := OrderedTable.lookup_eq_some_iff.mp held
  cases isOldest : desk.books.oldest with
  | none =>
      rw [List.argmin_eq_none.mp isOldest] at isEntry
      cases isEntry
  | some entry =>
      have least := List.le_of_mem_argmin isEntry isOldest
      have found := Books.lookup_of_oldest isOldest
      rcases pile.only _ _ found with same | isKey
      · rw [same, held] at found
        rw [Option.some.inj found, ← same]
      · obtain ⟨other, isOther, -, later⟩ := pile.present _ isKey
        rw [isOther] at found
        have after := later List.not_mem_nil
        rw [Option.some.inj found, ← isSince] at after
        exact absurd least after.not_ge

/-- A new key is submitted while the running task is the one to look at. -/
theorem exists_grown (member : key ∈ all) (isNew : key ≠ long)
    (unused : key ∉ keys)
    (pile : Pile desk long runs since keys [] clock) :
    ∃ next, Reaches (DeskStep 2) (SubmitsOf all) desk next ∧
      Pile next long runs clock (key :: keys) keys (clock + 1) := by
  obtain ⟨record, held, isTask, isSince⟩ := pile.held
  have absent : desk.books.submissions.lookup key = none := by
    cases found : desk.books.submissions.lookup key with
    | none => rfl
    | some other => exact absurd (pile.only key other found) (by simp [*])
  have retained : (desk.isRetained (ofLex long).1 record.taskId).1 = true := by
    obtain ⟨payload, running⟩ := pile.alone.retained
    unfold Desk.isRetained Books.remoteTaskOwnedBy
    rw [isTask, pile.owner, running]
    simp
  have examined : desk.examine key clock = _ :=
    Desk.examine_of_oldest_retained absent (pile.oldest_eq held isSince)
      retained
  obtain ⟨next, taskId, reached, alone, another, books⟩ :=
    pile.alone.exists_turn (clock + 1) member examined
  have refreshed : desk.books.refresh long clock =
      { desk.books with
        submissions := desk.books.submissions.insert long
          { record with lastChecked := clock } } := by
    unfold Books.refresh
    rw [held]
  have after (other : SubmissionKey) :
      next.books.submissions.lookup other =
        if other = key then some (plainRecord key taskId (clock + 1))
        else if other = long then some { record with lastChecked := clock }
        else desk.books.submissions.lookup other := by
    rw [books, lookup_turned, refreshed]
    dsimp only
    rw [OrderedTable.lookup_insert_eq_ite]
  refine ⟨next, reached, alone, ?_, ?_, ?_, ?_, ?_, ?_⟩
  · rw [books, lookup_remoteTasks_turned another.symm, refreshed]
    exact pile.owner
  · exact ⟨_, (after long).trans ((if_neg isNew.symm).trans (if_pos rfl)),
      isTask, rfl⟩
  · exact Nat.lt_succ_self clock
  · intro other isOther
    by_cases same : other = key
    · exact ⟨_, (after other).trans (if_pos same), another,
        fun _ => Nat.lt_succ_self clock⟩
    · have isKey := (List.mem_cons.mp isOther).resolve_left same
      obtain ⟨found, isFound, gone, -⟩ := pile.present other isKey
      have notLong : other ≠ long := by
        rintro rfl
        rw [held] at isFound
        exact gone (Option.some.inj isFound ▸ isTask)
      exact ⟨found, (after other).trans ((if_neg same).trans
        ((if_neg notLong).trans isFound)), gone,
        fun settled => absurd isKey settled⟩
  · intro other found isFound
    rw [after] at isFound
    split at isFound
    · rename_i same
      exact .inr (same ▸ List.mem_cons_self)
    · split at isFound
      · rename_i isLong
        exact .inl isLong
      · exact (pile.only other found isFound).imp_right (List.mem_cons_of_mem _)
  · have size := desk.books.size_refresh long clock
    have unrefreshed : (desk.books.refresh long clock).submissions.lookup
        key = none := by
      rw [refreshed]
      exact (OrderedTable.lookup_insert_eq_ite _ _ _ _).trans
        ((if_neg isNew).trans absent)
    rw [books, List.length_cons, ← pile.size, ← size]
    exact OrderedTable.size_insert_of_lookup_eq_none unrefreshed

/-- The first submission. -/
theorem exists_started (member : long ∈ all) :
    ∃ desk, Reaches (DeskStep 2) (SubmitsOf all) .empty desk ∧
      Pile desk long "task" 0 [] [] 1 := by
  have submitted : DeskStep 2 .empty
      (.submit (ofLex long).1 "token" "request" (plainPayload (ofLex long).2)
        (runningOutcome "task") 0 0) _ :=
    .submit _ _ _ _ _ _ _ (fun _ _ => List.not_mem_nil)
      (fun _ => Nat.zero_lt_two)
  rw [submitted_of_examine (show Desk.empty.examine long 0 = _ from rfl)]
    at submitted
  refine ⟨_, .step _ .start (by exact member) submitted, ?_⟩
  have only {taskId : String} {payload : LocalTaskPayload}
      (held : (OrderedTable.empty.insert "task"
        (.running "task" ⟨"count", "1.0.0"⟩ "" "")).lookup taskId =
          some payload) : taskId = "task" := by
    rw [OrderedTable.lookup_insert_eq_ite] at held
    split at held
    · assumption
    · cases held
  exact
    { alone := ⟨rfl, ⟨_, rfl⟩, fun _ _ => only, List.mem_cons_self⟩
      owner := rfl
      held := ⟨_, (lookup_turned _ _ _ _ _).trans (if_pos rfl), rfl, rfl⟩
      early := Nat.zero_lt_one
      present := nofun
      only := by
        intro key record found
        rw [lookup_turned] at found
        split at found
        · rename_i same
          exact .inl same
        · cases found
      size := rfl }

/-- Every key of a list is kept on record. -/
theorem exists_pile (member : long ∈ all) (sub : keys ⊆ all)
    (different : long ∉ keys) (nodup : keys.Nodup) :
    ∃ desk since clock, Reaches (DeskStep 2) (SubmitsOf all) .empty desk ∧
      Pile desk long "task" since keys [] clock := by
  induction keys with
  | nil =>
      obtain ⟨desk, reached, pile⟩ := exists_started member
      exact ⟨desk, 0, 1, reached, pile⟩
  | cons key rest inductionHypothesis =>
      rw [List.nodup_cons] at nodup
      rw [List.mem_cons, not_or] at different
      have rests : rest ⊆ all := fun _ isRest =>
        sub (List.mem_cons_of_mem _ isRest)
      obtain ⟨desk, since, clock, reached, pile⟩ :=
        inductionHypothesis rests different.2 nodup.2
      obtain ⟨next, further, grown⟩ := exists_grown
        (sub List.mem_cons_self) (Ne.symm different.1) nodup.1 pile
      obtain ⟨last, later, settles, settled⟩ := exists_settled
        (by simp [different]) sub (List.subset_cons_self _ _) grown
      exact ⟨last, clock, later, reached.trans (further.trans settles), settled⟩

end Pile

/-- With room for two tasks in the registry, the submissions of a run may all
stay on record, however many keys there are. -/
theorem exists_run_of_nodup {keys : List SubmissionKey}
    (nodup : keys.Nodup) :
    ∃ desk, Reaches (DeskStep 2) (SubmitsOf keys) .empty desk ∧
      desk.books.submissions.size = keys.length := by
  cases keys with
  | nil => exact ⟨.empty, .start, rfl⟩
  | cons long rest =>
      rw [List.nodup_cons] at nodup
      obtain ⟨desk, since, clock, reached, pile⟩ := Pile.exists_pile
        List.mem_cons_self (List.subset_cons_self long rest) nodup.1 nodup.2
      exact ⟨desk, reached, pile.size⟩

end Remote
end TaskCage
