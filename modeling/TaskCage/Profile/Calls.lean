import TaskCage.Foundation.Reach
import TaskCage.Profile.Runtime

/-!
# Calls to the Profile runtime

Any number of calls to submit a Profile or to ask for its result go on at the
same time.  A call moves from one locked section to the next; between two of
its steps the other calls and the task registry may do anything.  A call that
waits for a `Notify` goes on when somebody wakes those who wait, provided that
it had registered before.
-/

namespace TaskCage
namespace Profile

/-- What the task registry answers about a task.  A task that is gone does not
come back, because its identifier is not drawn again. -/
inductive RawTask where
  | absent
  | retained (snapshot : TaskSnapshot)
  | gone
deriving DecidableEq

/-- How the registry's answer about a task may change. -/
inductive RawStep : RawTask → RawTask → Prop where
  | stored (snapshot : TaskSnapshot) : RawStep .absent (.retained snapshot)
  | replaced (before after : TaskSnapshot) :
      RawStep (.retained before) (.retained after)
  | expired (snapshot : TaskSnapshot) : RawStep (.retained snapshot) .gone
  | withdrawn : RawStep .absent .gone

/-- The answers of the handlers. -/
inductive Reply where
  | profileAccepted (taskId : String) (profile : ProfileIdentity)
  | profileResult (taskId : String) (profile : ProfileIdentity)
  | idempotencyConflict
  | taskNotFound (taskId : String)
  | taskKindMismatch (taskId : String)
  | failed
deriving DecidableEq

/-- Where a call is. -/
inductive Call where
  | idle
  /-- The tasks that `prune_missing_tasks` still has to look at. -/
  | pruning (request : ProfileRequestPayload) (taskIds : List String)
  /-- Before the first section of `discard_task` for a missing task. -/
  | pruneTask (request : ProfileRequestPayload) (taskId : String)
      (rest : List String)
  /-- Between the two sections. -/
  | pruneRequests (request : ProfileRequestPayload) (taskId : String)
      (rest : List String)
  /-- At the head of the loop in `reserve`. -/
  | looking (request : ProfileRequestPayload)
  /-- The lock is dropped, and `notified` is not called yet. -/
  | registering (request : ProfileRequestPayload) (ready : Notify)
  | suspended (request : ProfileRequestPayload) (ready : Notify)
  | owning (reservation : Reservation)
  /-- The task was staged and submitted. -/
  | submitting (reservation : Reservation) (task : ProfileTaskRecord)
  /-- Before the first section of `accept`. -/
  | accepting (reservation : Reservation) (task : ProfileTaskRecord)
      (snapshot : TaskSnapshot)
  /-- Between the two sections. -/
  | recording (ready : Notify) (task : ProfileTaskRecord)
      (snapshot : TaskSnapshot)
  /-- Before `accept` wakes those who wait. -/
  | notifying (ready : Notify) (task : ProfileTaskRecord)
      (snapshot : TaskSnapshot)
  | releasing (reservation : Reservation)
  /-- Before `release` wakes those who wait. -/
  | withdrawing (ready : Notify)
  /-- `reserve` returned the task of an earlier request. -/
  | existing (task : ProfileTaskRecord)
  /-- Before the first section of `discard_task`, to answer a submit. -/
  | discarding (taskId : String)
  /-- Between the two sections. -/
  | forgetting (taskId : String)
  | answered (reply : Reply)
  /-- The result of a task is asked for; `told` remembers whether some answer
  had named the task before. -/
  | asking (taskId : String) (told : Bool)
  | found (taskId : String) (told : Bool) (task : ProfileTaskRecord)
  | unfound (taskId : String) (told : Bool)
  /-- Before the first section of `discard_task`, to answer a question. -/
  | dropping (taskId : String) (told : Bool)
  /-- Between the two sections. -/
  | dropped (taskId : String) (told : Bool)
  | told (taskId : String) (told : Bool) (reply : Reply)
deriving DecidableEq

/-- What the calls share.  The last two fields do not exist in the program:
they remember which Profile a task was staged for, and which tasks an answer
has named. -/
structure Shared where
  runtime : LocalProfileRuntime
  raw : String → RawTask
  submitted : String → Option ProfileIdentity
  named : List String

/-- What others can notice of a step. -/
inductive Label where
  | quiet
  /-- The locked section of `reserve`. -/
  | look (clientRequestId : String)
  /-- `notify_waiters`. -/
  | notify (ready : Notify)
deriving DecidableEq

namespace Shared

/-- Change the runtime. -/
def onRuntime (shared : Shared)
    (change : LocalProfileRuntime → LocalProfileRuntime) : Shared :=
  { shared with runtime := change shared.runtime }

/-- An answer names a task. -/
def name (shared : Shared) (taskId : String) : Shared :=
  { shared with named := taskId :: shared.named }

/-- A task is staged for a Profile. -/
def stage (shared : Shared) (task : ProfileTaskRecord) : Shared :=
  { shared with
    submitted :=
      Function.update shared.submitted task.taskId (some task.profile) }

end Shared

/-- Where the locked section of `reserve` leads. -/
def afterLook (request : ProfileRequestPayload) : Looked → Call
  | .conflict => .answered .idempotencyConflict
  | .existing task => .existing task
  | .wait ready => .registering request ready
  | .owner reservation => .owning reservation

/-- The answer to the caller that owned the request. -/
def ownerReply (task : ProfileTaskRecord) : TaskSnapshot → Reply
  | .running _ _ _ => .profileAccepted task.taskId task.profile
  | .finished _ => .profileResult task.taskId task.profile

/-- One step of a call. -/
inductive Acts (shared : Shared) : Call → Label → Call → Shared → Prop where
  -- The handler of a submit first looks for tasks that the registry forgot.
  | submit (request : ProfileRequestPayload) (taskIds : List String)
      (listed : ∀ taskId, taskId ∈ taskIds ↔
        shared.runtime.tasks taskId ≠ none) :
      Acts shared .idle .quiet (.pruning request taskIds) shared
  | pruneKept (request : ProfileRequestPayload) (taskId : String)
      (rest : List String) (snapshot : TaskSnapshot)
      (retained : shared.raw taskId = .retained snapshot) :
      Acts shared (.pruning request (taskId :: rest)) .quiet
        (.pruning request rest) shared
  | pruneMissing (request : ProfileRequestPayload) (taskId : String)
      (rest : List String)
      (missing : ∀ snapshot, shared.raw taskId ≠ .retained snapshot) :
      Acts shared (.pruning request (taskId :: rest)) .quiet
        (.pruneTask request taskId rest) shared
  | pruneTask (request : ProfileRequestPayload) (taskId : String)
      (rest : List String) :
      Acts shared (.pruneTask request taskId rest) .quiet
        (.pruneRequests request taskId rest)
        (shared.onRuntime (·.removeTask taskId))
  | pruneRequests (request : ProfileRequestPayload) (taskId : String)
      (rest : List String) :
      Acts shared (.pruneRequests request taskId rest) .quiet
        (.pruning request rest)
        (shared.onRuntime (·.retainRequests taskId))
  | pruned (request : ProfileRequestPayload) :
      Acts shared (.pruning request []) .quiet (.looking request) shared
  -- `reserve`
  | look (request : ProfileRequestPayload) :
      Acts shared (.looking request) (.look request.clientRequestId)
        (afterLook request (shared.runtime.look request).1)
        (shared.onRuntime fun runtime => (runtime.look request).2)
  | register (request : ProfileRequestPayload) (ready : Notify) :
      Acts shared (.registering request ready) .quiet
        (.suspended request ready) shared
  -- A connection that ends takes the call with it where it waits.
  | abortWait (request : ProfileRequestPayload) (ready : Notify) :
      Acts shared (.suspended request ready) .quiet .idle shared
  | abortSubmit (reservation : Reservation) (task : ProfileTaskRecord) :
      Acts shared (.submitting reservation task) .quiet .idle shared
  -- The owner of the request.  Its task gets an identifier of its own.
  | stage (reservation : Reservation) (task : ProfileTaskRecord)
      (profile : task.profile = reservation.request.profile)
      (unused : shared.submitted task.taskId = none) :
      Acts shared (.owning reservation) .quiet (.submitting reservation task)
        (shared.stage task)
  | refuse (reservation : Reservation) :
      Acts shared (.owning reservation) .quiet (.releasing reservation) shared
  | observe (reservation : Reservation) (task : ProfileTaskRecord)
      (snapshot : TaskSnapshot)
      (retained : shared.raw task.taskId = .retained snapshot) :
      Acts shared (.submitting reservation task) .quiet
        (.accepting reservation task snapshot) shared
  | fail (reservation : Reservation) (task : ProfileTaskRecord) :
      Acts shared (.submitting reservation task) .quiet
        (.releasing reservation) shared
  -- `accept`
  | publish (reservation : Reservation) (task : ProfileTaskRecord)
      (snapshot : TaskSnapshot) :
      Acts shared (.accepting reservation task snapshot) .quiet
        (.recording reservation.ready task snapshot)
        (shared.onRuntime (·.publish reservation task))
  | insertTask (ready : Notify) (task : ProfileTaskRecord)
      (snapshot : TaskSnapshot) :
      Acts shared (.recording ready task snapshot) .quiet
        (.notifying ready task snapshot)
        (shared.onRuntime (·.insertTask task))
  | accepted (ready : Notify) (task : ProfileTaskRecord)
      (snapshot : TaskSnapshot) :
      Acts shared (.notifying ready task snapshot) (.notify ready)
        (.answered (ownerReply task snapshot)) (shared.name task.taskId)
  -- `release`
  | withdraw (reservation : Reservation) :
      Acts shared (.releasing reservation) .quiet
        (.withdrawing reservation.ready)
        (shared.onRuntime (·.withdraw reservation))
  | released (ready : Notify) :
      Acts shared (.withdrawing ready) (.notify ready) (.answered .failed)
        shared
  -- `existing_profile_response`
  | existingFound (task : ProfileTaskRecord) (snapshot : TaskSnapshot)
      (retained : shared.raw task.taskId = .retained snapshot) :
      Acts shared (.existing task) .quiet
        (.answered (.profileResult task.taskId task.profile))
        (shared.name task.taskId)
  | existingMissing (task : ProfileTaskRecord)
      (missing : ∀ snapshot, shared.raw task.taskId ≠ .retained snapshot) :
      Acts shared (.existing task) .quiet (.discarding task.taskId) shared
  | discard (taskId : String) :
      Acts shared (.discarding taskId) .quiet (.forgetting taskId)
        (shared.onRuntime (·.removeTask taskId))
  | forget (taskId : String) :
      Acts shared (.forgetting taskId) .quiet
        (.answered (.taskNotFound taskId))
        (shared.onRuntime (·.retainRequests taskId))
  -- `handle_get_profile_result`
  | ask (taskId : String) :
      Acts shared .idle .quiet (.asking taskId (taskId ∈ shared.named)) shared
  | find (taskId : String) (told : Bool) (task : ProfileTaskRecord)
      (present : shared.runtime.tasks taskId = some task) :
      Acts shared (.asking taskId told) .quiet (.found taskId told task) shared
  | miss (taskId : String) (told : Bool)
      (absent : shared.runtime.tasks taskId = none) :
      Acts shared (.asking taskId told) .quiet (.unfound taskId told) shared
  | tellResult (taskId : String) (told : Bool) (task : ProfileTaskRecord)
      (snapshot : TaskSnapshot)
      (retained : shared.raw taskId = .retained snapshot) :
      Acts shared (.found taskId told task) .quiet
        (.told taskId told (.profileResult taskId task.profile))
        (shared.name taskId)
  | tellMissing (taskId : String) (told : Bool) (task : ProfileTaskRecord)
      (missing : ∀ snapshot, shared.raw taskId ≠ .retained snapshot) :
      Acts shared (.found taskId told task) .quiet (.dropping taskId told)
        shared
  | drop (taskId : String) (told : Bool) :
      Acts shared (.dropping taskId told) .quiet (.dropped taskId told)
        (shared.onRuntime (·.removeTask taskId))
  | dropRequests (taskId : String) (told : Bool) :
      Acts shared (.dropped taskId told) .quiet
        (.told taskId told (.taskNotFound taskId))
        (shared.onRuntime (·.retainRequests taskId))
  | tellMismatch (taskId : String) (told : Bool) (snapshot : TaskSnapshot)
      (retained : shared.raw taskId = .retained snapshot) :
      Acts shared (.unfound taskId told) .quiet
        (.told taskId told (.taskKindMismatch taskId)) shared
  | tellUnknown (taskId : String) (told : Bool)
      (missing : ∀ snapshot, shared.raw taskId ≠ .retained snapshot) :
      Acts shared (.unfound taskId told) .quiet
        (.told taskId told (.taskNotFound taskId)) shared

/-- All calls together. -/
structure ProfileWorld where
  shared : Shared
  calls : ℕ → Call

/-- A call that waits for this `Notify` goes on. -/
def Call.woken (ready : Notify) : Call → Call
  | .suspended request waited =>
      if waited = ready then .looking request else .suspended request waited
  | call => call

/-- What a step does to the calls of others. -/
def Label.wake : Label → Call → Call
  | .notify ready, call => call.woken ready
  | .quiet, call => call
  | .look _, call => call

/-- A step of one call, or of the registry. -/
inductive Step (world : ProfileWorld) : Label → ProfileWorld → Prop where
  | call (caller : ℕ) (label : Label) (next : Call) (shared : Shared)
      (acts : Acts world.shared (world.calls caller) label next shared) :
      Step world label
        ⟨shared, Function.update (fun other => label.wake (world.calls other))
          caller next⟩
  | raw (taskId : String) (next : RawTask)
      (changes : RawStep (world.shared.raw taskId) next) :
      Step world .quiet
        { world with shared :=
            { world.shared with
              raw := Function.update world.shared.raw taskId next } }

/-- A call goes on. -/
theorem reaches_call {Allowed : ProfileWorld → Label → Prop}
    {start world : ProfileWorld} {call next : Call} {label : Label}
    {shared : Shared} (reached : Reaches Step Allowed start world) (caller : ℕ)
    (stands : world.calls caller = call) (allowed : Allowed world label)
    (acts : Acts world.shared call label next shared) :
    Reaches Step Allowed start
      ⟨shared, Function.update (fun other => label.wake (world.calls other))
        caller next⟩ :=
  .step label reached allowed
    (.call caller label next shared (by rw [stands]; exact acts))

/-- A fresh daemon. -/
def freshWorld : ProfileWorld where
  shared :=
    { runtime := .empty
      raw := fun _ => .absent
      submitted := fun _ => none
      named := [] }
  calls _ := .idle

end Profile
end TaskCage
