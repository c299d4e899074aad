import TaskCage.Remote.Records

/-!
# How a task ended

The first report of a task that has ended publishes its outputs and is cached;
the later ones repeat it.  A reader that has asked the Local side may come so
late that the entry was cleared in the meantime, and then it publishes again.
As long as this does not happen, the outputs are published once and all clients
are told the same.
-/

namespace TaskCage
namespace Remote

open Profile Artifact

/-! ### The lock on the finished tasks -/

/-- The task for whose report the lock is held while inputs are removed. -/
def Sweep.sealed : Sweep → Option String
  | reported _ ended _ => some ended.result.taskId
  | unpublished _ taskId => some taskId
  | forgotten _ => none
  | cancelled _ => none
  | abandoned _ => none

/-- The task for whose report a call holds the lock. -/
def Call.sealed : Call → Option String
  | publishing _ ended _ _ => some ended.result.taskId
  | disowning sweep => sweep.sealed
  | sweeping sweep _ => sweep.sealed
  | _ => none

/-- Whether the call publishes outputs. -/
def Call.publishes : Call → Bool
  | publishing _ _ _ _ => true
  | _ => false

/-- The report that a call is about to answer with. -/
def Call.pending : Call → List RemoteTaskPayload
  | recording _ response => response.final
  | _ => []

/-- A client was told this, or is about to be. -/
def Told (world : RemoteWorld) (payload : RemoteTaskPayload) : Prop :=
  payload ∈ world.shared.reports ∨
    ∃ caller, payload ∈ (world.calls caller).pending

/-- The report is the one that is cached. -/
def Cached (shared : Shared) (payload : RemoteTaskPayload) : Prop :=
  payload.taskId ∉ shared.cleared ∧
    shared.books.finished.lookup payload.taskId = some payload

/-- One call at a time publishes, and only for a task without a report. -/
structure Sealed (world : RemoteWorld) : Prop where
  locked : ∀ caller taskId, (world.calls caller).sealed = some taskId →
    world.shared.finishedLocked = true
  single : ∀ first second taskId other,
    (world.calls first).sealed = some taskId →
    (world.calls second).sealed = some other → first = second
  unreported : ∀ caller taskId, (world.calls caller).sealed = some taskId →
    taskId ∉ world.shared.cleared ∧
      world.shared.books.finished.lookup taskId = none
  slots : ∀ caller source ended left managed,
    world.calls caller = .publishing source ended left managed →
    (managed.map Prod.fst ++ left.map Prod.fst).Nodup ∧
      ∀ slot, (ended.result.taskId, slot) ∈ world.shared.published →
        slot ∈ managed.map Prod.fst
  once : world.shared.published.Nodup
  published : ∀ taskId slot, (taskId, slot) ∈ world.shared.published →
    taskId ∈ world.shared.cleared ∨
      world.shared.books.finished.lookup taskId ≠ none ∨
      ∃ caller, (world.calls caller).sealed = some taskId

/-- What clients are told agrees with the cache, as long as its entries were
not cleared. -/
structure Agreed (world : RemoteWorld) : Prop where
  named : ∀ taskId payload,
    world.shared.books.finished.lookup taskId = some payload →
    payload.taskId = taskId
  told : ∀ payload, Told world payload →
    payload.taskId ∈ world.shared.cleared ∨
      world.shared.books.finished.lookup payload.taskId = some payload
  same : ∀ payload other, Told world payload → Told world other →
    payload.taskId = other.taskId → payload = other
  answered : ∀ answered ∈ world.shared.answers,
    ∀ payload ∈ answered.response.final, payload ∈ world.shared.reports

section Still

variable {world : RemoteWorld} {caller : ℕ} {next : Call} {after : Shared}

/-- A step that has nothing to do with publications. -/
theorem Sealed.still (isSealed : Sealed world)
    (lock : after.finishedLocked = world.shared.finishedLocked)
    (finished : after.books.finished = world.shared.books.finished)
    (cleared : after.cleared = world.shared.cleared)
    (published : after.published = world.shared.published)
    (same : next.sealed = (world.calls caller).sealed)
    (silent : next.publishes = false) :
    Sealed (world.advance caller next after) := by
  have calls (other : ℕ) :
      ((world.advance caller next after).calls other).sealed =
        (world.calls other).sealed := by
    by_cases isCaller : other = caller
    · rw [isCaller, RemoteWorld.calls_advance_self, same]
    · rw [RemoteWorld.calls_advance_of_ne isCaller]
  constructor
  · intro other taskId held
    exact lock.trans (isSealed.locked other taskId ((calls other).symm.trans held))
  · intro first second taskId other isFirst isSecond
    exact isSealed.single first second taskId other
      ((calls first).symm.trans isFirst) ((calls second).symm.trans isSecond)
  · intro other taskId held
    rw [RemoteWorld.shared_advance, cleared, finished]
    exact isSealed.unreported other taskId ((calls other).symm.trans held)
  · intro other source ended left managed publishing
    rw [RemoteWorld.shared_advance, published]
    by_cases isCaller : other = caller
    · rw [isCaller, RemoteWorld.calls_advance_self] at publishing
      rw [publishing] at silent
      cases silent
    · rw [RemoteWorld.calls_advance_of_ne isCaller] at publishing
      exact isSealed.slots other source ended left managed publishing
  · exact published ▸ isSealed.once
  · intro taskId slot isPublished
    rw [RemoteWorld.shared_advance] at isPublished ⊢
    rw [published] at isPublished
    rw [cleared, finished]
    refine (isSealed.published taskId slot isPublished).imp_right
      (Or.imp_right ?_)
    rintro ⟨other, held⟩
    exact ⟨other, (calls other).trans held⟩

end Still

namespace Agreed

variable {world : RemoteWorld} {payload other : RemoteTaskPayload}

/-- What clients know is the same for all of them. -/
theorem same_of_known (agreed : Agreed world)
    (known : Told world payload ∨ Cached world.shared payload)
    (otherKnown : Told world other ∨ Cached world.shared other)
    (task : payload.taskId = other.taskId) : payload = other := by
  have ofCached {first second : RemoteTaskPayload} (told : Told world first)
      (cached : Cached world.shared second)
      (task : first.taskId = second.taskId) : first = second := by
    rcases agreed.told first told with cleared | isCached
    · exact absurd (task ▸ cleared) cached.1
    · rw [task, cached.2] at isCached
      exact (Option.some.inj isCached).symm
  rcases known with told | cached
  · rcases otherKnown with otherTold | otherCached
    · exact agreed.same payload other told otherTold task
    · exact ofCached told otherCached task
  · rcases otherKnown with otherTold | otherCached
    · exact (ofCached otherTold cached task.symm).symm
    · have equal := cached.2
      rw [task, otherCached.2] at equal
      exact (Option.some.inj equal).symm

theorem told_of_known (agreed : Agreed world)
    (known : Told world payload ∨ Cached world.shared payload) :
    payload.taskId ∈ world.shared.cleared ∨
      world.shared.books.finished.lookup payload.taskId = some payload := by
  rcases known with told | cached
  · exact agreed.told payload told
  · exact .inr cached.2

/-- A step that leaves the cache and tells only what is known. -/
theorem still {caller : ℕ} {next : Call} {after : Shared}
    (agreed : Agreed world)
    (finished : after.books.finished = world.shared.books.finished)
    (cleared : after.cleared = world.shared.cleared)
    (reports : ∀ payload ∈ after.reports,
      Told world payload ∨ Cached world.shared payload)
    (pending : ∀ payload ∈ next.pending,
      Told world payload ∨ Cached world.shared payload)
    (answers : ∀ answered ∈ after.answers,
      ∀ payload ∈ answered.response.final, payload ∈ after.reports) :
    Agreed (world.advance caller next after) := by
  have known (payload : RemoteTaskPayload)
      (told : Told (world.advance caller next after)
        payload) : Told world payload ∨ Cached world.shared payload := by
    rcases told with isReport | ⟨other, isPending⟩
    · exact reports payload isReport
    · by_cases isCaller : other = caller
      · rw [isCaller, RemoteWorld.calls_advance_self] at isPending
        exact pending payload isPending
      · rw [RemoteWorld.calls_advance_of_ne isCaller] at isPending
        exact .inl (.inr ⟨other, isPending⟩)
  constructor
  · intro taskId payload cached
    rw [RemoteWorld.shared_advance, finished] at cached
    exact agreed.named taskId payload cached
  · intro payload told
    rw [RemoteWorld.shared_advance, cleared, finished]
    exact agreed.told_of_known (known payload told)
  · intro payload other told otherTold task
    exact agreed.same_of_known (known payload told) (known other otherTold) task
  · exact answers

end Agreed

/-! ### Steps -/

variable (source : Source) (purpose : Purpose)

theorem Source.sealed_deliver (payload : RemoteTaskPayload) :
    (source.deliver payload).sealed = none := by
  cases source <;> rfl

theorem Source.publishes_deliver (payload : RemoteTaskPayload) :
    (source.deliver payload).publishes = false := by
  cases source <;> rfl

theorem Purpose.sealed_next :
    purpose.next.sealed = none := by
  cases purpose <;> rfl

theorem Purpose.publishes_next :
    purpose.next.publishes = false := by
  cases purpose <;> rfl

section Steps

variable {store : RemoteArtifactStore} {token : SubmissionKey → String}
variable {world : RemoteWorld} {caller : ℕ} {next : Call} {label : Label}
variable {after : Shared}

theorem localArtifacts_nodup (outputSlot : String)
    (terminal : ProfileTerminal) :
    ((localArtifacts outputSlot terminal).map Prod.fst).Nodup := by
  cases terminal with
  | succeeded artifact => exact List.nodup_singleton outputSlot
  | failed failure => exact List.nodup_nil

/-- Nobody publishes while the lock is free. -/
theorem Sealed.sealed_eq_none (isSealed : Sealed world)
    (free : world.shared.finishedLocked = false) (other : ℕ) :
    (world.calls other).sealed = none := by
  cases held : (world.calls other).sealed with
  | none => rfl
  | some taskId =>
      rw [isSealed.locked other taskId held] at free
      cases free

/-- While nobody publishes, only what was published matters. -/
theorem Sealed.of_unsealed {world : RemoteWorld}
    (unsealed : ∀ other, (world.calls other).sealed = none)
    (once : world.shared.published.Nodup)
    (published : ∀ taskId slot, (taskId, slot) ∈ world.shared.published →
      taskId ∈ world.shared.cleared ∨
        world.shared.books.finished.lookup taskId ≠ none) : Sealed world := by
  refine ⟨?_, ?_, ?_, ?_, once, ?_⟩
  · intro other taskId held
    cases (unsealed other).symm.trans held
  · intro first second taskId other held
    cases (unsealed first).symm.trans held
  · intro other taskId held
    cases (unsealed other).symm.trans held
  · intro other source ended left managed publishing
    have isNone := unsealed other
    rw [publishing] at isNone
    cases isNone
  · intro taskId slot isPublished
    exact (published taskId slot isPublished).imp_right .inl

variable {taskId : String} {source : Source} {payload : RemoteTaskPayload}

theorem Sealed.cleared (isSealed : Sealed world)
    (free : world.shared.finishedLocked = false)
    (finished : after.books.finished = world.shared.books.finished.erase taskId)
    (cleared : after.cleared = taskId :: world.shared.cleared)
    (published : after.published = world.shared.published)
    (unsealed : next.sealed = none) :
    Sealed (world.advance caller next after) := by
  have calls (other : ℕ) :
      ((world.advance caller next after).calls other).sealed = none := by
    by_cases isCaller : other = caller
    · rw [isCaller, RemoteWorld.calls_advance_self, unsealed]
    · rw [RemoteWorld.calls_advance_of_ne isCaller,
        isSealed.sealed_eq_none free]
  refine .of_unsealed calls (published ▸ isSealed.once) ?_
  intro other slot isPublished
  rw [RemoteWorld.shared_advance] at isPublished ⊢
  rw [published] at isPublished
  rw [cleared, finished]
  rcases isSealed.published other slot isPublished with
    before | present | ⟨holder, held⟩
  · exact .inl (List.mem_cons_of_mem _ before)
  · by_cases same : other = taskId
    · exact .inl (same ▸ List.mem_cons_self)
    · refine .inr ?_
      rwa [OrderedTable.lookup_erase_eq_ite, if_neg same]
  · cases (isSealed.sealed_eq_none free holder).symm.trans held

variable {ended : Ended} {left : List (String × PublishedArtifact)}
variable {told : RemoteTaskPayload}

/-- The lock is taken for a task without a report. -/
theorem Sealed.publish (isSealed : Sealed world)
    (free : world.shared.finishedLocked = false)
    (absent : world.shared.books.finished.lookup ended.result.taskId = none)
    (kept : ended.result.taskId ∉ world.shared.cleared)
    (nodup : (left.map Prod.fst).Nodup) :
    Sealed (world.advance caller (.publishing source ended left [])
      { world.shared with finishedLocked := true }) := by
  have isCaller {other : ℕ} {taskId : String}
      (held : ((world.advance caller (.publishing source ended left [])
        { world.shared with finishedLocked := true }).calls other).sealed =
          some taskId) : other = caller := by
    by_contra different
    rw [RemoteWorld.calls_advance_of_ne different,
      isSealed.sealed_eq_none free] at held
    cases held
  constructor
  · intro other taskId held
    rfl
  · intro first second taskId other isFirst isSecond
    exact (isCaller isFirst).trans (isCaller isSecond).symm
  · intro other taskId held
    obtain rfl := isCaller held
    rw [RemoteWorld.calls_advance_self] at held
    cases held
    exact ⟨kept, absent⟩
  · intro other anySource anyEnded anyLeft managed publishing
    obtain rfl := isCaller (congrArg Call.sealed publishing)
    rw [RemoteWorld.calls_advance_self] at publishing
    cases publishing
    refine ⟨nodup, fun slot isPublished => ?_⟩
    rcases isSealed.published _ slot isPublished with
      before | present | ⟨holder, held⟩
    · exact absurd before kept
    · exact absurd absent present
    · cases (isSealed.sealed_eq_none free holder).symm.trans held
  · exact isSealed.once
  · intro taskId slot isPublished
    rcases isSealed.published taskId slot isPublished with
      before | present | ⟨holder, held⟩
    · exact .inl before
    · exact .inr (.inl present)
    · cases (isSealed.sealed_eq_none free holder).symm.trans held

/-- Another output is published. -/
theorem Sealed.publishOne (isSealed : Sealed world) {slot : String}
    {artifact : PublishedArtifact}
    {managed : List (String × ManagedOutputArtifactPayload)}
    {payload : ManagedOutputArtifactPayload} {room : StoreRoom}
    (isCall : world.calls caller =
      .publishing source ended ((slot, artifact) :: left) managed) :
    Sealed (world.advance caller
      (.publishing source ended left (managed ++ [(slot, payload)]))
      { world.shared with
        room
        published := (ended.result.taskId, slot) ::
          world.shared.published }) := by
  obtain ⟨nodup, earlier⟩ := isSealed.slots caller _ _ _ _ isCall
  have held : (world.calls caller).sealed = some ended.result.taskId := by
    rw [isCall]
    rfl
  have calls (other : ℕ) :
      ((world.advance caller
        (.publishing source ended left (managed ++ [(slot, payload)]))
        { world.shared with
          room
          published := (ended.result.taskId, slot) ::
            world.shared.published }).calls other).sealed =
        (world.calls other).sealed := by
    by_cases isCaller : other = caller
    · rw [isCaller, RemoteWorld.calls_advance_self, held]
      rfl
    · rw [RemoteWorld.calls_advance_of_ne isCaller]
  constructor
  · intro other taskId isHeld
    exact isSealed.locked other taskId ((calls other).symm.trans isHeld)
  · intro first second taskId other isFirst isSecond
    exact isSealed.single first second taskId other
      ((calls first).symm.trans isFirst) ((calls second).symm.trans isSecond)
  · intro other taskId isHeld
    exact isSealed.unreported other taskId ((calls other).symm.trans isHeld)
  · intro other anySource anyEnded anyLeft anyManaged publishing
    have same : other = caller := isSealed.single other caller _ _
      ((calls other).symm.trans (congrArg Call.sealed publishing)) held
    rw [same, RemoteWorld.calls_advance_self] at publishing
    cases publishing
    constructor
    · rwa [List.map_append, List.append_assoc]
    · intro other isPublished
      rw [List.map_append, List.mem_append]
      rcases List.mem_cons.mp isPublished with same | before
      · exact .inr (List.mem_singleton.mpr (Prod.mk.inj same).2)
      · exact .inl (earlier other before)
  · refine List.nodup_cons.mpr ⟨fun before => ?_, isSealed.once⟩
    exact List.disjoint_of_nodup_append nodup (earlier slot before)
      List.mem_cons_self
  · intro taskId other isPublished
    rcases List.mem_cons.mp isPublished with same | before
    · cases same
      exact .inr (.inr ⟨caller, (calls caller).trans held⟩)
    · refine (isSealed.published taskId other before).imp_right
        (Or.imp_right ?_)
      rintro ⟨holder, isHeld⟩
      exact ⟨holder, (calls holder).trans isHeld⟩

/-- The report is cached and the lock released. -/
theorem Sealed.reported (isSealed : Sealed world)
    (held : (world.calls caller).sealed = some taskId)
    (finished : after.books.finished =
      world.shared.books.finished.insert taskId payload)
    (cleared : after.cleared = world.shared.cleared)
    (published : after.published = world.shared.published)
    (unsealed : next.sealed = none) :
    Sealed (world.advance caller next after) := by
  have calls (other : ℕ) :
      ((world.advance caller next after).calls other).sealed = none := by
    by_cases isCaller : other = caller
    · rw [isCaller, RemoteWorld.calls_advance_self, unsealed]
    · rw [RemoteWorld.calls_advance_of_ne isCaller]
      cases isHeld : (world.calls other).sealed with
      | none => rfl
      | some another =>
          exact absurd (isSealed.single other caller _ _ isHeld held) isCaller
  refine .of_unsealed calls (published ▸ isSealed.once) ?_
  intro other slot isPublished
  rw [RemoteWorld.shared_advance] at isPublished ⊢
  rw [published] at isPublished
  rw [cleared, finished, OrderedTable.lookup_insert_eq_ite]
  by_cases same : other = taskId
  · rw [if_pos same]
    exact .inr nofun
  · rw [if_neg same]
    rcases isSealed.published other slot isPublished with
      before | present | ⟨holder, isHeld⟩
    · exact .inl before
    · exact .inr present
    · obtain rfl := isSealed.single holder caller _ _ isHeld held
      exact absurd (Option.some.inj (isHeld.symm.trans held)) same

theorem Sealed.acts (isSealed : Sealed world)
    (acts : Acts store token world.shared (world.calls caller) label next after)
    (allowed : ∀ taskId, label = .converts taskId →
      taskId ∉ world.shared.cleared)
    (running : after.failStop = false) :
    Sealed (world.advance caller next after) := by
  generalize isCall : world.calls caller = call at acts
  cases acts
  case removed purpose =>
      exact isSealed.still rfl
        (world.shared.books.finished_removeRemoteTaskIfOwned _ _) rfl rfl
        (by rw [isCall]; rfl) rfl
  case withdrawn submission taskId response failed =>
      exact isSealed.still rfl
        (world.shared.books.finished_removeRemoteTaskIfOwned _ _) rfl rfl
        (by rw [isCall]; rfl) rfl
  case cleared purpose free =>
      exact isSealed.cleared free rfl rfl rfl rfl
  case forgotten purpose owner clean room cleanup =>
      exact isSealed.still rfl rfl rfl rfl
        (by rw [isCall, Purpose.sealed_next]; rfl) purpose.publishes_next
  case reportRunning source taskId profile submittedAt startedAt =>
      exact isSealed.still rfl rfl rfl rfl
        (by rw [isCall, Source.sealed_deliver]; rfl)
        (source.publishes_deliver _)
  case reportCached source ended payload free cached =>
      exact isSealed.still rfl rfl rfl rfl
        (by rw [isCall, Source.sealed_deliver]; rfl)
        (source.publishes_deliver _)
  case repeated submission record now =>
      exact isSealed.still rfl
        (world.shared.books.finished_refresh _ _) rfl rfl
        (by rw [isCall]; rfl) rfl
  case refreshed submission key record now other =>
      exact isSealed.still rfl
        (world.shared.books.finished_refresh _ _) rfl rfl
        (by rw [isCall]; rfl) rfl
  case unreported => exact absurd running (by simp)
  case failed => exact absurd running (by simp)
  case reported source ended managed owner room cleanup =>
      exact isSealed.reported (congrArg Call.sealed isCall) rfl rfl rfl
        (source.sealed_deliver _)
  case publish source ended free absent =>
      exact isSealed.publish free absent (allowed _ rfl)
        (localArtifacts_nodup _ _)
  case publishOne source ended slot artifact bytes left managed request
      isPublish fresh payload published => exact isSealed.publishOne isCall
  all_goals
    exact isSealed.still rfl rfl rfl rfl (by rw [isCall]; rfl) rfl

/-- What a call is about to answer with a report. -/
theorem Source.mem_pending_deliver
    (pending : told ∈ (source.deliver payload).pending) :
    told = payload := by
  cases source with
  | submit submission =>
      cases payload with
      | running taskId profile submittedAt startedAt => cases pending
      | finished profile result artifacts failure =>
          exact List.mem_singleton.mp pending
  | result principal requestId => cases pending
  | monitor principal => cases pending

theorem Source.mem_told (isTold : told ∈ source.told payload) :
    told = payload := by
  cases source with
  | submit submission => cases isTold
  | result principal requestId =>
      cases payload with
      | running taskId profile submittedAt startedAt => cases isTold
      | finished profile result artifacts failure =>
          exact List.mem_singleton.mp isTold
  | monitor principal => cases isTold

theorem Purpose.pending_next (purpose : Purpose) :
    purpose.next.pending = [] := by
  cases purpose <;> rfl

/-- A recorded answer tells what it told first, or that there is a
conflict. -/
theorem final_of_answer {record : SubmissionRecord} {canonical : List Char}
    {requestId : String}
    (told : payload ∈ (record.answer canonical requestId).final) :
    payload ∈ record.response.final := by
  unfold SubmissionRecord.answer at told
  split at told
  · cases told
  · cases isResponse : record.response with
    | profileAccepted | profileResult | taskCancelled | error =>
        rw [isResponse] at told
        exact told

/-- The entry of a task is cleared. -/
theorem Agreed.cleared (agreed : Agreed world)
    (finished : after.books.finished = world.shared.books.finished.erase taskId)
    (cleared : after.cleared = taskId :: world.shared.cleared)
    (reports : after.reports = world.shared.reports)
    (answers : after.answers = world.shared.answers)
    (silent : next.pending = []) :
    Agreed (world.advance caller next after) := by
  have before (payload : RemoteTaskPayload)
      (told : Told (world.advance caller next after) payload) :
      Told world payload := by
    rcases told with isReport | ⟨other, isPending⟩
    · exact .inl (reports ▸ isReport)
    · by_cases isCaller : other = caller
      · rw [isCaller, RemoteWorld.calls_advance_self, silent] at isPending
        cases isPending
      · rw [RemoteWorld.calls_advance_of_ne isCaller] at isPending
        exact .inr ⟨other, isPending⟩
  constructor
  · intro other payload cached
    rw [RemoteWorld.shared_advance, finished,
      OrderedTable.lookup_erase_eq_some_iff] at cached
    exact agreed.named other payload cached.2
  · intro payload told
    rw [RemoteWorld.shared_advance, cleared, finished,
      OrderedTable.lookup_erase_eq_ite]
    by_cases same : payload.taskId = taskId
    · exact .inl (same ▸ List.mem_cons_self)
    · rw [if_neg same]
      exact (agreed.told payload (before payload told)).imp_left
        (List.mem_cons_of_mem _)
  · intro payload other told otherTold task
    exact agreed.same payload other (before payload told)
      (before other otherTold) task
  · intro answered known payload isFinal
    rw [RemoteWorld.shared_advance] at known ⊢
    rw [answers] at known
    rw [reports]
    exact agreed.answered answered known payload isFinal

/-- A report is cached and handed out. -/
theorem Agreed.reported (agreed : Agreed world)
    (isTask : payload.taskId = taskId)
    (absent : world.shared.books.finished.lookup taskId = none)
    (kept : taskId ∉ world.shared.cleared)
    (finished : after.books.finished =
      world.shared.books.finished.insert taskId payload)
    (cleared : after.cleared = world.shared.cleared)
    (reports : ∀ told ∈ after.reports,
      told = payload ∨ told ∈ world.shared.reports)
    (grown : ∀ told ∈ world.shared.reports, told ∈ after.reports)
    (answers : after.answers = world.shared.answers)
    (pending : ∀ told ∈ next.pending, told = payload) :
    Agreed (world.advance caller next after) := by
  have known (told : RemoteTaskPayload)
      (isTold : Told (world.advance caller next after) told) :
      told = payload ∨ Told world told := by
    rcases isTold with isReport | ⟨other, isPending⟩
    · exact (reports told isReport).imp_right .inl
    · by_cases isCaller : other = caller
      · rw [isCaller, RemoteWorld.calls_advance_self] at isPending
        exact .inl (pending told isPending)
      · rw [RemoteWorld.calls_advance_of_ne isCaller] at isPending
        exact .inr (.inr ⟨other, isPending⟩)
  -- Nobody was told about the task before.
  have unknown (told : RemoteTaskPayload) (isTold : Told world told) :
      told.taskId ≠ taskId := by
    intro same
    rcases agreed.told told isTold with before | cached
    · exact kept (same ▸ before)
    · rw [same, absent] at cached
      cases cached
  constructor
  · intro other found cached
    rw [RemoteWorld.shared_advance, finished,
      OrderedTable.lookup_insert_eq_some_iff] at cached
    rcases cached with ⟨rfl, rfl⟩ | ⟨-, before⟩
    · exact isTask
    · exact agreed.named other found before
  · intro told isTold
    rw [RemoteWorld.shared_advance, cleared, finished,
      OrderedTable.lookup_insert_eq_ite]
    rcases known told isTold with rfl | before
    · exact .inr (if_pos isTask)
    · rw [if_neg (unknown told before)]
      exact agreed.told told before
  · intro first second isFirst isSecond task
    rcases known first isFirst with rfl | firstTold
    · rcases known second isSecond with rfl | secondTold
      · rfl
      · exact absurd (task.symm.trans isTask) (unknown second secondTold)
    · rcases known second isSecond with rfl | secondTold
      · exact absurd (task.trans isTask) (unknown first firstTold)
      · exact agreed.same first second firstTold secondTold task
  · intro answered isKnown told isFinal
    rw [RemoteWorld.shared_advance, answers] at isKnown
    exact grown told (agreed.answered answered isKnown told isFinal)

theorem Agreed.acts (agreed : Agreed world) (isSealed : Sealed world)
    (written : Written world)
    (acts : Acts store token world.shared (world.calls caller) label next after)
    (allowed : ∀ taskId, label = .converts taskId →
      taskId ∉ world.shared.cleared) :
    Agreed (world.advance caller next after) := by
  generalize isCall : world.calls caller = call at acts
  have reports (payload : RemoteTaskPayload)
      (isReport : payload ∈ world.shared.reports) :
      Told world payload ∨ Cached world.shared payload :=
    .inl (.inl isReport)
  cases acts
  case repeated submission record now =>
      have told (payload : RemoteTaskPayload)
          (isTold : payload ∈ (record.answer
            (canonicalPayload submission.payload)
            submission.requestId).final) :
          payload ∈ world.shared.reports := by
        obtain ⟨answered, repeats⟩ := written.copies caller
          submission.key record (by rw [isCall]; rfl)
        exact agreed.answered answered repeats.known payload
          (repeats.response ▸ final_of_answer isTold)
      refine agreed.still (world.shared.books.finished_refresh _ _) rfl ?_
        (fun _ pending => (nomatch pending)) ?_
      · intro payload isReport
        exact (List.mem_append.mp isReport).elim
          (fun isTold => reports payload (told payload isTold))
          (reports payload)
      · intro answered known payload isFinal
        exact List.mem_append_right _
          (agreed.answered answered known payload isFinal)
  case recorded submission response taskId now names =>
      refine agreed.still rfl rfl ?_ (fun _ pending => (nomatch pending)) ?_
      · intro payload isReport
        refine (List.mem_append.mp isReport).elim (fun isTold => ?_)
          (reports payload)
        exact .inl (.inr ⟨caller, by rw [isCall]; exact isTold⟩)
      · intro answered known payload isFinal
        rcases List.mem_cons.mp known with rfl | before
        · exact List.mem_append_left _ isFinal
        · exact List.mem_append_right _
            (agreed.answered answered before payload isFinal)
  case refreshed submission key record now other =>
      exact agreed.still (world.shared.books.finished_refresh _ _) rfl reports
        (fun _ pending => (nomatch pending)) agreed.answered
  case removed purpose =>
      exact agreed.still
        (world.shared.books.finished_removeRemoteTaskIfOwned _ _) rfl reports
        (fun _ pending => (nomatch pending)) agreed.answered
  case withdrawn submission taskId response failed =>
      exact agreed.still
        (world.shared.books.finished_removeRemoteTaskIfOwned _ _) rfl reports
        (fun _ pending => (nomatch pending)) agreed.answered
  case cleared purpose free => exact agreed.cleared rfl rfl rfl rfl rfl
  case forgotten purpose owner clean room cleanup =>
      refine agreed.still rfl rfl reports (fun _ pending => ?_) agreed.answered
      rw [Purpose.pending_next] at pending
      cases pending
  case reportRunning source taskId profile submittedAt startedAt =>
      refine agreed.still rfl rfl reports (fun _ pending => ?_) agreed.answered
      cases source <;> cases pending
  case reportCached source ended payload free cached =>
      have isTask := agreed.named _ payload cached
      have known : Cached world.shared payload := by
        unfold Cached
        rw [isTask]
        exact ⟨allowed _ rfl, cached⟩
      refine agreed.still rfl rfl ?_ ?_ ?_
      · intro told isReport
        refine (List.mem_append.mp isReport).elim (fun isTold => ?_)
          (reports told)
        exact .inr (Source.mem_told isTold ▸ known)
      · intro told pending
        exact .inr (Source.mem_pending_deliver pending ▸ known)
      · intro answered isKnown told isFinal
        exact List.mem_append_right _
          (agreed.answered answered isKnown told isFinal)
  case reported source ended managed owner room cleanup =>
      obtain ⟨kept, absent⟩ := isSealed.unreported caller
        ended.result.taskId (by rw [isCall]; rfl)
      have isTask : (ended.report managed).taskId = ended.result.taskId := rfl
      refine agreed.reported isTask absent kept rfl rfl ?_
        (fun _ => List.mem_append_right _) rfl
        fun _ => Source.mem_pending_deliver
      intro told isReport
      exact (List.mem_append.mp isReport).imp_left Source.mem_told
  all_goals
    exact agreed.still rfl rfl reports (fun _ pending => (nomatch pending))
      agreed.answered

theorem failStop_of_acts {shared : Shared} {call : Call}
    (acts : Acts store token shared call label next after)
    (running : after.failStop = false) : shared.failStop = false := by
  cases acts
  case forgotten => exact (Bool.or_eq_false_iff.mp running).1
  case cancelledClean => exact (Bool.or_eq_false_iff.mp running).1
  case abandoned => exact (Bool.or_eq_false_iff.mp running).1
  case unreported => cases running
  case failed => cases running
  case unrestored => cases running
  all_goals exact running

end Steps

/-! ### Runs -/

/-- Nobody wants the report of a task that has ended after its entry in the
cache was cleared. -/
def InTime (world : RemoteWorld) (label : Label) : Prop :=
  ∀ taskId, label = .converts taskId → taskId ∉ world.shared.cleared

/-- What is known while fail-stop was not activated. -/
structure Reported (world : RemoteWorld) : Prop where
  written : Written world
  isSealed : world.shared.failStop = false → Sealed world
  agreed : world.shared.failStop = false → Agreed world

section Runs

variable {store : RemoteArtifactStore} {token : SubmissionKey → String}
variable {world last : RemoteWorld} {label : Label} {room : StoreRoom}

theorem reported_freshWorld (room : StoreRoom) :
    Reported (freshWorld room) where
  written := written_freshWorld room
  isSealed _ :=
    { locked := fun _ _ held => (nomatch held)
      single := fun _ _ _ _ held => (nomatch held)
      unreported := fun _ _ held => (nomatch held)
      slots := fun _ _ _ _ _ publishing => (nomatch publishing)
      once := List.nodup_nil
      published := fun _ _ isPublished => (nomatch isPublished) }
  agreed _ :=
    { named := fun _ _ cached => (nomatch cached)
      told := by
        rintro payload (isReport | ⟨caller, isPending⟩)
        · cases isReport
        · cases isPending
      same := by
        rintro payload other (isReport | ⟨caller, isPending⟩)
        · cases isReport
        · cases isPending
      answered := fun _ known => (nomatch known) }

variable {registry : OrderedTable String LocalTaskPayload}
variable {Allowed : RemoteWorld → Label → Prop} {caller : ℕ}
variable {start : RemoteWorld}

/-- A step of the registry or of the store. -/
theorem Sealed.other (isSealed : Sealed world) :
    Sealed { world with shared := { world.shared with room, registry } } :=
  ⟨isSealed.locked, isSealed.single, isSealed.unreported, isSealed.slots,
    isSealed.once, isSealed.published⟩

theorem Agreed.other (agreed : Agreed world) :
    Agreed { world with shared := { world.shared with room, registry } } :=
  ⟨agreed.named, agreed.told, agreed.same, agreed.answered⟩

theorem Reported.step (reported : Reported world)
    (inTime : InTime world label)
    (taken : CallStep store token world label last) : Reported last := by
  have written := reported.written.step taken
  cases taken with
  | call caller label next shared acts =>
      refine ⟨written, fun running => ?_, fun running => ?_⟩
      · exact (reported.isSealed (failStop_of_acts acts running)).acts acts
          inTime running
      · have before := failStop_of_acts acts running
        exact (reported.agreed before).acts (reported.isSealed before)
          reported.written acts inTime
  | complete | expire | serve =>
      exact ⟨written, fun running => (reported.isSealed running).other,
        fun running => (reported.agreed running).other⟩

/-- Until fail-stop is activated, every output of a task is published once and
all clients are told the same about a task that has ended. -/
theorem publication_once
    (reached : Reaches (CallStep store token) InTime (freshWorld room) world)
    (running : world.shared.failStop = false) :
    world.shared.published.Nodup ∧
      ∀ payload ∈ world.shared.reports, ∀ other ∈ world.shared.reports,
        payload.taskId = other.taskId → payload = other := by
  have reported : Reported world :=
    reached.invariant (reported_freshWorld room)
      fun _ _ _ reported inTime taken => Reported.step reported inTime taken
  refine ⟨(reported.isSealed running).once, ?_⟩
  intro payload isReport other otherReport task
  exact (reported.agreed running).same payload other (.inl isReport)
    (.inl otherReport) task

/-! ### A report that comes late -/

/-- The task has copied its input. -/
def smallEnded : Ended where
  profile := ⟨"copy", "1.0.0"⟩
  outputSlot := "output"
  result :=
    { taskId := "task"
      terminationReason := .exited
      process := ⟨some 0, none⟩
      timing := ⟨"", "", "", 0⟩
      usage := ⟨0, 0⟩
      output := ⟨"", "", false, false⟩ }
  terminal := .succeeded
    { path := "task/output"
      digest := smallDigest [0]
      sizeBytes := 1
      mediaType := "application/octet-stream" }

/-- The output is to be published. -/
def publishRequest (drawn : Uuid) : Request :=
  quiet (.publishOutputFile smallClient [0] (smallDigest [0]) 1
    "application/octet-stream") drawn

/-- What is known of an output. -/
def smallOutput (artifactId : String) : ManagedOutputArtifactPayload :=
  RemoteArtifactStore.outputPayload artifactId (smallDigest [0]) 1
    "application/octet-stream" "1970-01-01T00:00:01Z"

/-- What the client is told. -/
def smallReport (artifactId : String) : RemoteTaskPayload :=
  smallEnded.report [("output", smallOutput artifactId)]

/-- What the calls share after a report. -/
def afterReport (shared : Shared) (room : StoreRoom) (artifactId : String) :
    Shared :=
  { shared with
    books := (shared.books.disown "task").cache "task" (smallReport artifactId)
    room
    finishedLocked := false
    published := ("task", "output") :: shared.published
    reports := smallReport artifactId :: shared.reports }

/-- A client gets the first report of the task. -/
theorem reaches_report (quietly : ∀ world, Allowed world .quiet)
    (converts : Allowed world (.converts "task"))
    (reached : Reaches (CallStep smallStore smallToken) Allowed start world)
    {requestId : String} {drawn : Uuid} {swept : StoreRoom}
    (stands : world.calls caller =
      .converting (.result smallClient requestId) smallEnded.payload)
    (free : world.shared.finishedLocked = false)
    (absent : world.shared.books.finished.lookup "task" = none)
    (fresh : Fresh world.shared.room drawn)
    (published : (smallStore.answer world.shared.room
      (publishRequest drawn)).1 = .ok (.published (smallOutput drawn)))
    (cleanup : CleansUp smallStore
      (smallStore.answer world.shared.room (publishRequest drawn)).2
      (world.shared.books.inputOwners.lookup "task") true swept) :
    ∃ next, Reaches (CallStep smallStore smallToken) Allowed start next ∧
      next.shared = afterReport world.shared swept drawn ∧
      ∀ other, other ≠ caller → next.calls other = world.calls other := by
  have publishes := reaches_call reached caller stands converts
    (.publish (.result smallClient requestId) smallEnded free absent)
  have first := reaches_call publishes caller
    (RemoteWorld.calls_advance_self ..) (quietly _)
    (.publishOne (.result smallClient requestId) smallEnded "output" _ [0] []
      [] (publishRequest drawn) rfl (by exact fresh) _ (by exact published))
  have all := reaches_call first caller (RemoteWorld.calls_advance_self ..)
    (quietly _) (.publishedAll _ _ _)
  have disowns := reaches_call all caller (RemoteWorld.calls_advance_self ..)
    (quietly _) (.disowned _)
  have reports := reaches_call disowns caller
    (RemoteWorld.calls_advance_self ..) (quietly _)
    (.reported _ _ _ _ swept (by exact cleanup))
  refine ⟨_, reports, rfl, fun other different => ?_⟩
  simp only [RemoteWorld.calls_advance_of_ne different]

/-- The room after the first report. -/
def reportedRoom : StoreRoom :=
  (smallStore.answer
    (smallStore.answer transferredRoom (publishRequest secondId)).2
    (quiet (.cleanupTaskInputs smallTask) firstId)).2

/-- The third identifier that is drawn. -/
def thirdId : Uuid :=
  ⟨"00000000-0000-4000-8000-000000000007", by decide⟩

/-- Both publications and the removal of the input succeed, with identifiers
that name nothing yet. -/
theorem reports_succeed :
    (transferredRoom.memory.artifacts.lookup secondId = none ∧
      transferredRoom.files (.recordTemporary secondId) = none ∧
      (smallStore.answer transferredRoom (publishRequest secondId)).1 =
        .ok (.published (smallOutput secondId))) ∧
    (smallStore.answer
      (smallStore.answer transferredRoom (publishRequest secondId)).2
      (quiet (.cleanupTaskInputs smallTask) firstId)).1 = .ok .done ∧
    reportedRoom.memory.artifacts.lookup thirdId = none ∧
    reportedRoom.files (.recordTemporary thirdId) = none ∧
    (smallStore.answer reportedRoom (publishRequest thirdId)).1 =
      .ok (.published (smallOutput thirdId)) := by
  decide +kernel

theorem fresh_transferredRoom : Fresh transferredRoom secondId :=
  ⟨reports_succeed.1.1, fun _ => rfl, reports_succeed.1.2.1⟩

set_option maxRecDepth 4096 in
theorem fresh_reportedRoom : Fresh reportedRoom thirdId :=
  ⟨reports_succeed.2.2.1, fun _ => rfl, reports_succeed.2.2.2.1⟩

/-- The task has ended. -/
def endedShared : Shared :=
  { acceptedShared with
    registry := acceptedShared.registry.insert "task" smallEnded.payload }

/-- The first report is out and the task has expired. -/
def expiredShared : Shared :=
  { afterReport endedShared reportedRoom secondId with
    registry := endedShared.registry.erase "task" }

/-- The task was forgotten. -/
def forgottenShared : Shared :=
  { expiredShared with
    books := expiredShared.books.forgetTask "client" "task"
    cleared := ["task"] }

theorem room_endedShared : endedShared.room = transferredRoom := by
  simp only [endedShared, acceptedShared, enteredShared, startingShared]

theorem room_forgottenShared : forgottenShared.room = reportedRoom := by
  simp only [forgottenShared, expiredShared, afterReport]

theorem cleansUp_reportedRoom :
    CleansUp smallStore
      (smallStore.answer transferredRoom (publishRequest secondId)).2
      (some smallTask) true reportedRoom :=
  .cleaned smallTask (quiet (.cleanupTaskInputs smallTask) firstId) .done rfl
    reports_succeed.2.1

/-- A client asks for the result of the task that has ended. -/
theorem reaches_converting (quietly : ∀ world, Allowed world .quiet)
    (reached : Reaches (CallStep smallStore smallToken) Allowed start world)
    (isShared : world.shared = endedShared) (idle : world.calls caller = .idle) :
    ∃ next, Reaches (CallStep smallStore smallToken) Allowed start next ∧
      next.shared = endedShared ∧
      next.calls caller =
        .converting (.result smallClient "request") smallEnded.payload ∧
      ∀ other, other ≠ caller → next.calls other = world.calls other := by
  obtain ⟨asking, asks, isAsking, stands, others⟩ := reaches_asking
    smallClient "request" "task" quietly reached idle (by rw [isShared]; decide +kernel)
  have finds := reaches_call asks caller stands (quietly _)
    (.found smallClient "request" "task" smallEnded.payload
      (by rw [isAsking, isShared]; decide +kernel))
  refine ⟨_, finds, isAsking.trans isShared,
    RemoteWorld.calls_advance_self .., ?_⟩
  intro other different
  rw [RemoteWorld.calls_advance_of_ne different, others other different]

theorem publication_once_report :
    ∃ world, Reaches (CallStep smallStore smallToken) InTime
        (freshWorld emptyRoom) world ∧
      world.shared.published = [("task", "output")] ∧
      world.shared.published.Nodup ∧
      ∀ payload ∈ world.shared.reports, ∀ other ∈ world.shared.reports,
        payload.taskId = other.taskId → payload = other := by
  have quietly (world : RemoteWorld) : InTime world .quiet := nofun
  obtain ⟨starting, starts, isStarting, stands, idle⟩ :=
    reaches_starting InTime quietly 0
  obtain ⟨accepted, accepts, isAccepted, isIdle, -⟩ := reaches_accepted
    quietly (fun _ _ => nofun) starts isStarting stands
  have ends := accepts.step .quiet (quietly _)
    (.complete "task" ⟨"copy", "1.0.0"⟩ "" "" smallEnded
      (by rw [isAccepted]; rfl) rfl)
  obtain ⟨asked, asks, askedShared, askedStands, -⟩ :=
    reaches_converting quietly ends (by rw [isAccepted]; rfl) isIdle
  obtain ⟨told, tells, toldShared, -⟩ := reaches_report quietly
    (by rw [InTime, askedShared]; exact fun _ _ => List.not_mem_nil) asks
    askedStands (by rw [askedShared]; rfl) (by rw [askedShared]; rfl)
    (by rw [askedShared, room_endedShared]; exact fresh_transferredRoom)
    (by rw [askedShared, room_endedShared]; exact reports_succeed.1.2.2)
    (by rw [askedShared, room_endedShared]; exact cleansUp_reportedRoom)
  have running : told.shared.failStop = false := by
    rw [toldShared, askedShared]
    rfl
  refine ⟨told, tells, ?_, publication_once tells running⟩
  rw [toldShared, askedShared]
  rfl

/-- Two clients ask for the result of the task and a third one finds that it
has expired.  The second one publishes the output again. -/
theorem published_twice :
    ∃ world, Reaches (CallStep smallStore smallToken) (fun _ _ => True)
        (freshWorld emptyRoom) world ∧
      world.shared.failStop = false ∧
      world.shared.published = [("task", "output"), ("task", "output")] ∧
      world.shared.reports = [smallReport thirdId, smallReport secondId] ∧
      smallReport thirdId ≠ smallReport secondId := by
  obtain ⟨starting, starts, isStarting, stands, idle⟩ :=
    reaches_starting (fun _ _ => True) (fun _ => trivial) 0
  obtain ⟨accepted, accepts, isAccepted, -, idleThen⟩ := reaches_accepted
    (fun _ => trivial) (fun _ _ => trivial) starts isStarting stands
  have ends := accepts.step .quiet trivial
    (.complete "task" ⟨"copy", "1.0.0"⟩ "" "" smallEnded
      (by rw [isAccepted]; rfl) rfl)
  have isIdle {other : ℕ} (different : other ≠ 0) :
      accepted.calls other = .idle :=
    (idleThen other different).trans (idle other different)
  -- The first client has its answer and waits for the lock.
  obtain ⟨late, isLate, lateShared, lateStands, lateOthers⟩ :=
    reaches_converting (fun _ => trivial) ends (by rw [isAccepted]; rfl)
      (isIdle Nat.one_ne_zero)
  -- The second one publishes.
  obtain ⟨asked, asks, askedShared, askedStands, askedOthers⟩ :=
    reaches_converting (fun _ => trivial) isLate lateShared
      ((lateOthers 2 (by decide)).trans (isIdle (by decide)))
  obtain ⟨told, tells, toldShared, toldOthers⟩ := reaches_report
    (fun _ => trivial) trivial asks askedStands (by rw [askedShared]; rfl)
    (by rw [askedShared]; rfl)
    (by rw [askedShared, room_endedShared]; exact fresh_transferredRoom)
    (by rw [askedShared, room_endedShared]; exact reports_succeed.1.2.2)
    (by rw [askedShared, room_endedShared]; exact cleansUp_reportedRoom)
  have expires := tells.step .quiet trivial
    (.expire "task" smallEnded (by
      rw [toldShared, askedShared]
      decide +kernel))
  -- The third one finds nothing and clears the entry.
  have expired : ({ told with shared :=
      { told.shared with
        registry := told.shared.registry.erase "task" } } :
      RemoteWorld).shared = expiredShared := by
    rw [toldShared, askedShared]
    rfl
  have third : told.calls 3 = .idle :=
    (toldOthers 3 (by decide)).trans ((askedOthers 3 (by decide)).trans
      ((lateOthers 3 (by decide)).trans (isIdle (by decide))))
  obtain ⟨missing, misses, missingShared, missingStands, missingOthers⟩ :=
    reaches_asking smallClient "request" "task" (fun _ => trivial) expires
      third (by rw [expired]; decide +kernel)
  have removes := reaches_call misses 3 missingStands trivial
    (.missedResult smallClient "request" "task"
      (by rw [missingShared, expired]; decide +kernel))
  obtain ⟨forgotten, forgets, forgottenThen, forgottenOthers⟩ :=
    reaches_forgotten (fun _ => trivial) removes
      (RemoteWorld.calls_advance_self ..)
      (by rw [RemoteWorld.shared_advance, missingShared, expired]; rfl)
      (by rw [RemoteWorld.shared_advance, missingShared, expired]
          decide +kernel)
  have isForgotten : forgotten.shared = forgottenShared := by
    rw [forgottenThen, RemoteWorld.shared_advance, missingShared, expired]
    rfl
  -- The first one finds no entry and publishes again.
  have stillStands : forgotten.calls 1 =
      .converting (.result smallClient "request") smallEnded.payload := by
    rw [forgottenOthers 1 (by decide),
      RemoteWorld.calls_advance_of_ne (by decide),
      missingOthers 1 (by decide)]
    exact (toldOthers 1 (by decide)).trans
      ((askedOthers 1 (by decide)).trans lateStands)
  obtain ⟨last, reaches, lastShared, -⟩ := reaches_report
    (fun _ => trivial) trivial forgets stillStands (by rw [isForgotten]; rfl)
    (by rw [isForgotten]; decide +kernel)
    (by rw [isForgotten, room_forgottenShared]; exact fresh_reportedRoom)
    (by rw [isForgotten, room_forgottenShared]; exact reports_succeed.2.2.2.2)
    (by rw [isForgotten]; exact .nothing)
  refine ⟨last, reaches, ?_, ?_, ?_, by decide +kernel⟩
  · rw [lastShared, isForgotten]
    rfl
  · rw [lastShared, isForgotten]
    rfl
  · rw [lastShared, isForgotten]
    rfl

end Runs

end Remote
end TaskCage
