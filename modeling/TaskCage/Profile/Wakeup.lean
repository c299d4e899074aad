import TaskCage.Profile.Calls

/-!
# Waking those who wait for a Profile request

A call that is suspended in `reserve` waits for the owner of its request.  It
may miss the wakeup when the owner wakes those who wait after the call has
looked at the request and before it has registered.  When this does not happen,
every suspended call waits for a request that is still pending, or the owner is
about to wake it.
-/

namespace TaskCage
namespace Profile

namespace Call

/-- The reservation that the call holds. -/
def reservation : Call → Option Reservation
  | owning reservation => some reservation
  | submitting reservation _ => some reservation
  | accepting reservation _ _ => some reservation
  | releasing reservation => some reservation
  | _ => none

/-- The request and the `Notify` that the call waits for, or is about to. -/
def waitsFor : Call → Option (String × Notify)
  | registering request ready => some (request.clientRequestId, ready)
  | suspended request ready => some (request.clientRequestId, ready)
  | _ => none

/-- The `Notify` that the call is about to wake. -/
def wakes : Call → Option Notify
  | recording ready _ _ => some ready
  | notifying ready _ _ => some ready
  | withdrawing ready => some ready
  | _ => none

end Call

/-- The request is still pending with this `Notify`. -/
def Pending (shared : Shared) (clientRequestId : String) (ready : Notify) :
    Prop :=
  ∃ request, shared.runtime.requests clientRequestId =
    some (.pending request ready)

/-- Those who wait will be woken. -/
structure Watched (world : ProfileWorld) : Prop where
  owned : ∀ caller reservation,
    (world.calls caller).reservation = some reservation →
    Pending world.shared reservation.clientRequestId reservation.ready
  unique : ∀ first second reservation other,
    (world.calls first).reservation = some reservation →
    (world.calls second).reservation = some other →
    reservation.ready = other.ready → first = second
  allocated : ∀ clientRequestId ready,
    Pending world.shared clientRequestId ready →
    ready < world.shared.runtime.allocated
  awaited : ∀ caller clientRequestId ready,
    (world.calls caller).waitsFor = some (clientRequestId, ready) →
    Pending world.shared clientRequestId ready ∨
      ∃ other, (world.calls other).wakes = some ready

/-- Nobody is between its look and its registration when those who wait are
woken. -/
def Attentive (world : ProfileWorld) (label : Label) : Prop :=
  ∀ ready, label = .notify ready →
    ∀ caller request, world.calls caller ≠ .registering request ready

section Steps

variable {world : ProfileWorld} {caller : ℕ} {call next : Call}
variable {shared : Shared}

/-- A step after which the same requests are pending. -/
theorem Watched.quiet (watched : Watched world)
    (stands : world.calls caller = call)
    (same : ∀ clientRequestId ready, Pending shared clientRequestId ready ↔
      Pending world.shared clientRequestId ready)
    (count : shared.runtime.allocated = world.shared.runtime.allocated)
    (holds : ∀ reservation, next.reservation = some reservation →
      call.reservation = some reservation)
    (waits : ∀ clientRequestId ready,
      next.waitsFor = some (clientRequestId, ready) →
      call.waitsFor = some (clientRequestId, ready) ∨
        Pending world.shared clientRequestId ready)
    (wakes : ∀ ready, call.wakes = some ready → next.wakes = some ready) :
    Watched ⟨shared, Function.update world.calls caller next⟩ := by
  subst stands
  have held (other : ℕ) (reservation : Reservation)
      (found : (Function.update world.calls caller next other).reservation =
        some reservation) :
      (world.calls other).reservation = some reservation := by
    by_cases here : other = caller
    · rw [here, Function.update_self] at found
      rw [here]
      exact holds reservation found
    · rwa [Function.update_of_ne here] at found
  have waking (other : ℕ) (ready : Notify)
      (found : (world.calls other).wakes = some ready) :
      (Function.update world.calls caller next other).wakes = some ready := by
    by_cases here : other = caller
    · rw [here, Function.update_self]
      exact wakes ready (here ▸ found)
    · rwa [Function.update_of_ne here]
  refine ⟨?_, ?_, ?_, ?_⟩
  · intro other reservation found
    exact (same _ _).mpr (watched.owned other _ (held other _ found))
  · intro first second reservation other found foundOther equal
    exact watched.unique first second _ _ (held _ _ found)
      (held _ _ foundOther) equal
  · intro clientRequestId ready pending
    exact count.symm ▸ watched.allocated _ _ ((same _ _).mp pending)
  · intro other clientRequestId ready found
    have before : (world.calls other).waitsFor =
        some (clientRequestId, ready) ∨
          Pending world.shared clientRequestId ready := by
      by_cases here : other = caller
      · dsimp only at found
        rw [here, Function.update_self] at found
        rw [here]
        exact waits _ _ found
      · dsimp only at found
        rw [Function.update_of_ne here] at found
        exact .inl found
    rcases before with waited | pending
    · rcases watched.awaited other _ _ waited with pending | ⟨waker, wakes⟩
      · exact .inl ((same _ _).mpr pending)
      · exact .inr ⟨waker, waking waker _ wakes⟩
    · exact .inl ((same _ _).mpr pending)

variable {clientRequestId : String} {other ready : Notify}
variable {request : ProfileRequestPayload} {label : Label}

theorem pending_unique (pending : Pending shared clientRequestId ready)
    (again : Pending shared clientRequestId other) : ready = other := by
  obtain ⟨_, found⟩ := pending
  obtain ⟨_, foundAgain⟩ := again
  cases found.symm.trans foundAgain
  rfl

/-- A new request has an owner. -/
theorem Watched.reserve (watched : Watched world)
    (absent : world.shared.runtime.requests request.clientRequestId = none)
    (idle : (world.calls caller).wakes = none)
    (requests : shared.runtime.requests = Function.update
      world.shared.runtime.requests request.clientRequestId
        (some (.pending request world.shared.runtime.allocated)))
    (count : shared.runtime.allocated = world.shared.runtime.allocated + 1) :
    Watched ⟨shared, Function.update world.calls caller
      (.owning (world.shared.runtime.newReservation request))⟩ := by
  have pending (clientRequestId : String) (ready : Notify) :
      Pending shared clientRequestId ready ↔
        Pending world.shared clientRequestId ready ∨
          clientRequestId = request.clientRequestId ∧
            ready = world.shared.runtime.allocated := by
    unfold Pending
    rw [requests]
    by_cases here : clientRequestId = request.clientRequestId
    · subst here
      simp [absent, eq_comm]
    · simp [here]
  have younger (reservation : Reservation) {other : ℕ}
      (found : (world.calls other).reservation = some reservation) :
      reservation.ready < world.shared.runtime.allocated :=
    watched.allocated _ _ (watched.owned other _ found)
  refine ⟨?_, ?_, ?_, ?_⟩
  · intro other reservation found
    dsimp only at found
    by_cases here : other = caller
    · rw [here, Function.update_self] at found
      cases found
      exact (pending _ _).mpr (.inr ⟨rfl, rfl⟩)
    · rw [Function.update_of_ne here] at found
      exact (pending _ _).mpr (.inl (watched.owned other _ found))
  · intro first second reservation other found foundOther equal
    dsimp only at found foundOther
    by_cases here : first = caller
    · by_cases there : second = caller
      · rw [here, there]
      · rw [here, Function.update_self] at found
        rw [Function.update_of_ne there] at foundOther
        cases found
        exact absurd equal (younger other foundOther).ne'
    · by_cases there : second = caller
      · rw [there, Function.update_self] at foundOther
        rw [Function.update_of_ne here] at found
        cases foundOther
        exact absurd equal (younger reservation found).ne
      · rw [Function.update_of_ne here] at found
        rw [Function.update_of_ne there] at foundOther
        exact watched.unique first second _ _ found foundOther equal
  · intro clientRequestId ready waiting
    rw [count]
    rcases (pending _ _).mp waiting with before | ⟨-, rfl⟩
    · exact Nat.lt_succ_of_lt (watched.allocated _ _ before)
    · exact Nat.lt_succ_self _
  · intro other clientRequestId ready found
    dsimp only at found
    by_cases here : other = caller
    · rw [here, Function.update_self] at found
      cases found
    · rw [Function.update_of_ne here] at found
      rcases watched.awaited other _ _ found with before | ⟨waker, wakes⟩
      · exact .inl ((pending _ _).mpr (.inl before))
      · refine .inr ⟨waker, ?_⟩
        have different : waker ≠ caller := by
          rintro rfl
          rw [idle] at wakes
          cases wakes
        dsimp only
        rwa [Function.update_of_ne different]

/-- The owner ends the reservation and is about to wake those who wait. -/
theorem Watched.settle (watched : Watched world) {reservation : Reservation}
    {entry : Option ProfileRequestEntry}
    (held : (world.calls caller).reservation = some reservation)
    (settled : ∀ request ready, entry ≠ some (.pending request ready))
    (requests : shared.runtime.requests = Function.update
      world.shared.runtime.requests reservation.clientRequestId entry)
    (count : shared.runtime.allocated = world.shared.runtime.allocated)
    (holds : next.reservation = none) (waits : next.waitsFor = none)
    (wakes : next.wakes = some reservation.ready)
    (idle : (world.calls caller).wakes = none) :
    Watched ⟨shared, Function.update world.calls caller next⟩ := by
  have mine := watched.owned caller reservation held
  have pending (clientRequestId : String) (ready : Notify) :
      Pending shared clientRequestId ready ↔
        Pending world.shared clientRequestId ready ∧
          clientRequestId ≠ reservation.clientRequestId := by
    unfold Pending
    rw [requests]
    by_cases here : clientRequestId = reservation.clientRequestId
    · subst here
      simp [settled]
    · simp [here]
  refine ⟨?_, ?_, ?_, ?_⟩
  · intro other found present
    dsimp only at present
    by_cases here : other = caller
    · rw [here, Function.update_self, holds] at present
      cases present
    · rw [Function.update_of_ne here] at present
      have before := watched.owned other found present
      refine (pending _ _).mpr ⟨before, fun same => here ?_⟩
      exact watched.unique other caller found reservation present held
        (pending_unique before (same ▸ mine))
  · intro first second found other present presentOther equal
    dsimp only at present presentOther
    by_cases here : first = caller
    · rw [here, Function.update_self, holds] at present
      cases present
    · by_cases there : second = caller
      · rw [there, Function.update_self, holds] at presentOther
        cases presentOther
      · rw [Function.update_of_ne here] at present
        rw [Function.update_of_ne there] at presentOther
        exact watched.unique first second _ _ present presentOther equal
  · intro clientRequestId ready waiting
    rw [count]
    exact watched.allocated _ _ ((pending _ _).mp waiting).1
  · intro other clientRequestId ready present
    dsimp only at present
    by_cases here : other = caller
    · rw [here, Function.update_self, waits] at present
      cases present
    · rw [Function.update_of_ne here] at present
      rcases watched.awaited other _ _ present with before | ⟨waker, wakesIt⟩
      · by_cases same : clientRequestId = reservation.clientRequestId
        · have equal := pending_unique before (same ▸ mine)
          refine .inr ⟨caller, ?_⟩
          dsimp only
          rw [Function.update_self, wakes, equal]
        · exact .inl ((pending _ _).mpr ⟨before, same⟩)
      · refine .inr ⟨waker, ?_⟩
        have different : waker ≠ caller := by
          rintro rfl
          rw [idle] at wakesIt
          cases wakesIt
        dsimp only
        rwa [Function.update_of_ne different]

theorem reservation_woken (call : Call) (ready : Notify) :
    (call.woken ready).reservation = call.reservation := by
  unfold Call.woken
  split
  · split <;> rfl
  · rfl

theorem wakes_woken (call : Call) (ready : Notify) :
    (call.woken ready).wakes = call.wakes := by
  unfold Call.woken
  split
  · split <;> rfl
  · rfl

/-- Only those who have registered for another `Notify` still wait. -/
theorem waitsFor_of_woken {call : Call}
    (registered : ∀ request, call ≠ .registering request ready)
    (waits : (call.woken ready).waitsFor = some (clientRequestId, other)) :
    call.waitsFor = some (clientRequestId, other) ∧ other ≠ ready := by
  cases call with
  | registering request waited =>
      cases waits
      refine ⟨rfl, ?_⟩
      rintro rfl
      exact registered request rfl
  | suspended request waited =>
      unfold Call.woken at waits
      dsimp only at waits
      split at waits
      · cases waits
      · rename_i different
        cases waits
        exact ⟨rfl, different⟩
  | _ => cases waits

/-- Those who wait are woken, and nobody misses it. -/
theorem Watched.notify (watched : Watched world)
    (attentive : Attentive world (.notify ready))
    (same : shared.runtime = world.shared.runtime)
    (woke : (world.calls caller).wakes = some ready)
    (holds : next.reservation = none) (waits : next.waitsFor = none) :
    Watched ⟨shared, Function.update
      (fun other => (world.calls other).woken ready) caller next⟩ := by
  have pending (clientRequestId : String) (ready : Notify) :
      Pending shared clientRequestId ready ↔
        Pending world.shared clientRequestId ready := by
    unfold Pending
    rw [same]
  have held (other : ℕ) (reservation : Reservation)
      (found : (Function.update (fun other => (world.calls other).woken ready)
        caller next other).reservation = some reservation) :
      (world.calls other).reservation = some reservation := by
    by_cases here : other = caller
    · rw [here, Function.update_self, holds] at found
      cases found
    · rwa [Function.update_of_ne here, reservation_woken] at found
  refine ⟨?_, ?_, ?_, ?_⟩
  · intro other reservation found
    exact (pending _ _).mpr (watched.owned other _ (held other _ found))
  · intro first second reservation other found foundOther equal
    exact watched.unique first second _ _ (held _ _ found)
      (held _ _ foundOther) equal
  · intro clientRequestId waited waiting
    dsimp only
    rw [same]
    exact watched.allocated _ _ ((pending _ _).mp waiting)
  · intro other clientRequestId waited found
    dsimp only at found
    by_cases here : other = caller
    · rw [here, Function.update_self, waits] at found
      cases found
    · rw [Function.update_of_ne here] at found
      obtain ⟨before, different⟩ :=
        waitsFor_of_woken (attentive ready rfl other) found
      rcases watched.awaited other _ _ before with still | ⟨waker, wakes⟩
      · exact .inl ((pending _ _).mpr still)
      · refine .inr ⟨waker, ?_⟩
        have apart : waker ≠ caller := by
          rintro rfl
          rw [woke] at wakes
          exact different (Option.some.inj wakes).symm
        dsimp only
        rwa [Function.update_of_ne apart, wakes_woken]

theorem pending_retainRequests (shared : Shared) (taskId : String)
    (clientRequestId : String) (ready : Notify) :
    Pending (shared.onRuntime (·.retainRequests taskId)) clientRequestId
        ready ↔
      Pending shared clientRequestId ready :=
  exists_congr fun _ => LocalProfileRuntime.retainRequests_eq_pending_iff

/-- A call looks for its request. -/
theorem Watched.look (watched : Watched world)
    (stands : world.calls caller = .looking request) :
    Watched ⟨world.shared.onRuntime fun runtime => (runtime.look request).2,
      Function.update world.calls caller
        (afterLook request (world.shared.runtime.look request).1)⟩ := by
  unfold Shared.onRuntime LocalProfileRuntime.look
  dsimp only
  cases found : world.shared.runtime.requests request.clientRequestId with
  | none => exact watched.reserve found (by rw [stands]; rfl) rfl rfl
  | some entry =>
      cases entry with
      | accepted existing task =>
          dsimp only
          split
          · exact watched.quiet stands (fun _ _ => .rfl) rfl nofun nofun nofun
          · exact watched.quiet stands (fun _ _ => .rfl) rfl nofun nofun nofun
      | pending existing ready =>
          dsimp only
          split
          · refine watched.quiet stands (fun _ _ => .rfl) rfl nofun ?_ nofun
            rintro _ _ ⟨⟩
            exact .inr ⟨existing, found⟩
          · exact watched.quiet stands (fun _ _ => .rfl) rfl nofun nofun nofun

/-- What one step of a call keeps. -/
theorem Watched.acts (watched : Watched world)
    (attentive : Attentive world label) (stands : world.calls caller = call)
    (acts : Acts world.shared call label next shared) :
    Watched ⟨shared, Function.update
      (fun other => label.wake (world.calls other)) caller next⟩ := by
  cases acts with
  | look request => exact watched.look stands
  | register request ready =>
      exact watched.quiet stands (fun _ _ => .rfl) rfl nofun
        (fun _ _ waits => .inl waits) nofun
  | stage | refuse | observe | fail =>
      exact watched.quiet stands (fun _ _ => .rfl) rfl (fun _ held => held)
        nofun nofun
  | publish reservation task snapshot =>
      have held : (world.calls caller).reservation = some reservation := by
        rw [stands]
        rfl
      refine watched.settle held ?_ rfl rfl rfl rfl rfl (by rw [stands]; rfl)
      exact nofun
  | insertTask ready task snapshot =>
      exact watched.quiet stands (fun _ _ => .rfl) rfl nofun nofun
        fun _ wakes => wakes
  | accepted ready task snapshot =>
      exact watched.notify attentive rfl (by rw [stands]; rfl) rfl rfl
  | withdraw reservation =>
      have held : (world.calls caller).reservation = some reservation := by
        rw [stands]
        rfl
      obtain ⟨request, found⟩ := watched.owned caller reservation held
      have withdrawn : world.shared.runtime.withdraw reservation =
          { world.shared.runtime with
            requests := Function.update world.shared.runtime.requests
              reservation.clientRequestId none } := by
        unfold LocalProfileRuntime.withdraw
        rw [found]
      have requests := congrArg LocalProfileRuntime.requests withdrawn
      have count := congrArg LocalProfileRuntime.allocated withdrawn
      refine watched.settle held ?_ requests count rfl rfl rfl
        (by rw [stands]; rfl)
      exact nofun
  | released ready =>
      exact watched.notify attentive rfl (by rw [stands]; rfl) rfl rfl
  | pruneRequests | forget | dropRequests =>
      exact watched.quiet stands (pending_retainRequests _ _) rfl nofun nofun
        nofun
  -- The other steps concern neither pending requests nor those who wait.
  | _ => exact watched.quiet stands (fun _ _ => .rfl) rfl nofun nofun nofun

/-- What one step keeps. -/
theorem Watched.step {after : ProfileWorld} (watched : Watched world)
    (attentive : Attentive world label) (taken : Step world label after) :
    Watched after := by
  cases taken with
  | call caller _ next shared acts => exact watched.acts attentive rfl acts
  | raw taskId next changes =>
      exact ⟨watched.owned, watched.unique, watched.allocated, watched.awaited⟩

end Steps

theorem watched_freshWorld : Watched freshWorld := by
  refine ⟨?_, ?_, ?_, ?_⟩
  · intro caller reservation held
    cases held
  · intro first second reservation other held
    cases held
  · rintro clientRequestId ready ⟨request, found⟩
    cases found
  · intro caller clientRequestId ready waits
    cases waits

/-- When nobody is between its look and its registration while those who wait
are woken, a suspended call waits for a request that is still pending, or
somebody is about to wake it. -/
theorem awaited_of_reaches {world : ProfileWorld} {caller : ℕ}
    {request : ProfileRequestPayload} {ready : Notify}
    (reached : Reaches Step Attentive freshWorld world)
    (suspended : world.calls caller = .suspended request ready) :
    Pending world.shared request.clientRequestId ready ∨
      ∃ other, (world.calls other).wakes = some ready := by
  have watched : Watched world :=
    reached.invariant watched_freshWorld
      fun _ _ _ watched attentive taken => watched.step attentive taken
  exact watched.awaited caller _ _ (by rw [suspended]; rfl)

/-- A request without inputs. -/
def oneRequest : ProfileRequestPayload where
  clientRequestId := "request"
  profile := ⟨"file-copy", "1"⟩
  inputs := []
  resourceOverrides := none

/-- The task of this request. -/
def oneTask : ProfileTaskRecord where
  taskId := "task"
  profile := oneRequest.profile
  budget := .smallest
  outputSlot := "output"

/-- Two calls have looked for one request: the first owns it, and the second
has not registered yet. -/
structure BothLooked (world : ProfileWorld) : Prop where
  shared : world.shared =
    ⟨(LocalProfileRuntime.empty.look oneRequest).2, fun _ => .absent,
      fun _ => none, []⟩
  owner : world.calls 0 = .owning (.mk "request" oneRequest 0)
  other : world.calls 1 = .registering oneRequest 0
  idle : ∀ caller, 1 < caller → world.calls caller = .idle

theorem exists_bothLooked {Allowed : ProfileWorld → Label → Prop}
    (quiet : ∀ world, Allowed world .quiet)
    (look : ∀ world clientRequestId, Allowed world (.look clientRequestId)) :
    ∃ world, Reaches Step Allowed freshWorld world ∧ BothLooked world := by
  have first := reaches_call (.start : Reaches Step Allowed _ freshWorld) 0 rfl
    (quiet _) (.submit oneRequest [] (by intro taskId; simp [freshWorld,
      LocalProfileRuntime.empty]))
  have first := reaches_call first 0 rfl (quiet _) (.pruned oneRequest)
  have first := reaches_call first 0 rfl (look _ _) (.look oneRequest)
  have second := reaches_call first 1 rfl (quiet _) (.submit oneRequest []
    (by intro taskId; simp [freshWorld, LocalProfileRuntime.empty,
      Shared.onRuntime, LocalProfileRuntime.look]))
  have second := reaches_call second 1 rfl (quiet _) (.pruned oneRequest)
  have second := reaches_call second 1 rfl (look _ _) (.look oneRequest)
  refine ⟨_, second, rfl, rfl, rfl, ?_⟩
  intro caller later
  have notFirst : caller ≠ 0 := by omega
  have notSecond : caller ≠ 1 := by omega
  simp [Label.wake, notFirst, notSecond, freshWorld]

/-- The second call registers, and waits for a request that is pending. -/
theorem awaited_bothLooked :
    ∃ world, Reaches Step Attentive freshWorld world ∧
      world.calls 1 = .suspended oneRequest 0 ∧
      (Pending world.shared oneRequest.clientRequestId 0 ∨
        ∃ other, (world.calls other).wakes = some 0) := by
  have quiet (world : ProfileWorld) : Attentive world .quiet := by
    intro ready notifies
    cases notifies
  have look (world : ProfileWorld) (clientRequestId : String) :
      Attentive world (.look clientRequestId) := by
    intro ready notifies
    cases notifies
  obtain ⟨world, reached, looked⟩ := exists_bothLooked quiet look
  have reached := reaches_call reached 1 looked.other (quiet _)
    (.register oneRequest 0)
  refine ⟨_, reached, rfl, ?_⟩
  exact @awaited_of_reaches _ 1 _ _ reached rfl

/-- The owner accepts and wakes those who wait before the second call has
registered.  The second call is then suspended, although its request was
accepted and nobody is going to wake it. -/
theorem missed_wakeup :
    ∃ world, Reaches Step (fun _ _ => True) freshWorld world ∧
      world.calls 0 = .answered (.profileAccepted "task" oneRequest.profile) ∧
      world.calls 1 = .suspended oneRequest 0 ∧
      world.shared.runtime.requests "request" =
        some (.accepted oneRequest oneTask) ∧
      ∀ other, (world.calls other).wakes = none := by
  obtain ⟨world, reached, looked⟩ :=
    @exists_bothLooked (fun _ _ => True) (fun _ => trivial) (fun _ _ => trivial)
  let reservation : Reservation := ⟨"request", oneRequest, 0⟩
  let snapshot : TaskSnapshot := .running "task" "0" "0"
  have reached := reaches_call reached 0 looked.owner trivial
    (.stage reservation oneTask rfl (by rw [looked.shared]))
  have reached := Reaches.step _ reached trivial
    (.raw "task" (.retained snapshot)
      (by simp only [Shared.stage, looked.shared]; exact .stored snapshot))
  have reached := reaches_call reached 0 rfl trivial
    (.observe reservation oneTask snapshot rfl)
  have reached := reaches_call reached 0 rfl trivial
    (.publish reservation oneTask snapshot)
  have reached := reaches_call reached 0 rfl trivial
    (.insertTask 0 oneTask snapshot)
  have reached := reaches_call reached 0 rfl trivial
    (.accepted 0 oneTask snapshot)
  have reached := reaches_call reached 1
    (by simp [Label.wake, looked.other, Call.woken]) trivial
    (.register oneRequest 0)
  refine ⟨_, reached, ?_, ?_, ?_, ?_⟩
  · simp [Label.wake, ownerReply, snapshot, oneTask]
  · rfl
  · simp [Shared.name, Shared.onRuntime, LocalProfileRuntime.insertTask,
      LocalProfileRuntime.publish, reservation]
  · intro other
    by_cases second : other = 1
    · simp [second, Call.wakes]
    · by_cases first : other = 0
      · simp [first, Call.wakes, Label.wake]
      · have idle := looked.idle other (by omega)
        simp [first, second, Label.wake, idle, Call.woken, Call.wakes]

end Profile
end TaskCage
