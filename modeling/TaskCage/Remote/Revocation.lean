import TaskCage.Remote.Credentials
import Mathlib.Order.Nat

/-!
# What a revocation does to the sessions it overtakes

A session that subscribed before the second section of `revoke` is woken by
it.  A connection that has read its policy and not subscribed yet is not, and
a session whose channel was modified may still take another frame, because
the `select` of its loop prefers no branch.  When neither happens, and nobody
holds a frame that is not dispatched yet, a revocation is complete.
-/

namespace TaskCage
namespace Remote

/-- A revocation waits until nobody is between reading the policy and
subscribing, or between taking a frame and dispatching it; and a session takes
a frame only while its channel is as it has seen it. -/
def Careful (world : CredentialWorld) : SessionLabel → Prop
  | .perform (.notify clientId) =>
      ∀ index, (world.connections index).client = some clientId →
        (∃ principal, world.connections index = .selecting principal) ∨
          ∃ principal, world.connections index = .dispatching principal
  | .frame index =>
      ∀ principal, world.connections index = .selecting principal →
        ¬ world.store.Ready principal.revocation
  | _ => True

/-- The channel of a session exists, and the session has not seen more than
its modifications. -/
def Subscribed (store : CredentialStore) (receiver : Receiver) : Prop :=
  ∃ version, store.revisions receiver.channel = some version ∧
    receiver.seen ≤ version

/-- Every session is subscribed. -/
def AllSubscribed (world : CredentialWorld) : Prop :=
  ∀ index principal,
    (world.connections index).principal = some principal →
    Subscribed world.store principal.revocation

/-- The session was revoked: it is closed, or its `revoked` is ready and it
holds no frame. -/
def Overtaken (world : CredentialWorld) (index : ℕ) : Prop :=
  world.connections index = .closed ∨
    ∃ principal, world.store.Ready principal.revocation ∧
      (world.connections index = .selecting principal ∨
        world.connections index = .dispatching principal)

/-- The session is over, or `revoked` is ready in it. -/
def Woken (world : CredentialWorld) (index : ℕ)
    (principal : AuthenticatedPrincipal) : Prop :=
  world.connections index = .closed ∨
    (world.connections index).principal = some principal ∧
      world.store.Ready principal.revocation

/-! ### Sections only advance the channels -/

variable {store : CredentialStore} {receiver : Receiver}

theorem revisions_apply {channel : String} {version : ℕ}
    (found : store.revisions channel = some version) (part : Section) :
    ∃ later, (store.apply part).revisions channel = some later ∧
      version ≤ later := by
  cases part with
  | remove clientId => exact ⟨version, found, le_rfl⟩
  | insert policy => exact ⟨version, found, le_rfl⟩
  | notify clientId =>
      by_cases same : channel = clientId
      · subst same
        refine ⟨version + 1, ?_, Nat.le_succ _⟩
        simp [CredentialStore.apply, found]
      · refine ⟨version, ?_, le_rfl⟩
        simp [CredentialStore.apply, same, found]
  | announce clientId =>
      refine ⟨version, ?_, le_rfl⟩
      by_cases same : channel = clientId
      · subst same
        simp [CredentialStore.apply, found]
      · simp [CredentialStore.apply, same, found]

theorem Subscribed.apply (subscribed : Subscribed store receiver)
    (part : Section) :
    Subscribed (store.apply part) receiver := by
  obtain ⟨version, found, seen⟩ := subscribed
  obtain ⟨later, advanced, older⟩ := revisions_apply found part
  exact ⟨later, advanced, seen.trans older⟩

theorem CredentialStore.Ready.apply (ready : store.Ready receiver)
    (part : Section) :
    (store.apply part).Ready receiver := by
  obtain ⟨version, found, seen⟩ := ready
  obtain ⟨later, advanced, older⟩ := revisions_apply found part
  exact ⟨later, advanced, seen.trans_le older⟩

/-- Every receiver of the channel becomes ready. -/
theorem Subscribed.ready_notify (subscribed : Subscribed store receiver) :
    (store.apply (.notify receiver.channel)).Ready receiver := by
  obtain ⟨version, found, seen⟩ := subscribed
  refine ⟨version + 1, ?_, Nat.lt_succ_of_le seen⟩
  simp [CredentialStore.apply, found]

variable {principal : AuthenticatedPrincipal} {verify : String → String → Bool}

theorem subscribed_subscribe {clientId secret : String}
    {policy : Option PrincipalPolicy}
    (found : store.subscribe verify clientId secret policy = some principal) :
    Subscribed store principal.revocation := by
  unfold CredentialStore.subscribe at found
  cases policy with
  | none => simp at found
  | some policy =>
      dsimp only at found
      split at found
      · obtain ⟨version, channel, rfl⟩ := Option.map_eq_some_iff.mp found
        exact ⟨version, channel, le_rfl⟩
      · cases found

section Steps

variable {world next : CredentialWorld} {label : SessionLabel} {index : ℕ}

/-! ### Every session is subscribed -/

variable {connection : Connection}

theorem AllSubscribed.move (subscribed : AllSubscribed world)
    (here : ∀ principal, connection.principal = some principal →
      Subscribed world.store principal.revocation) :
    AllSubscribed (world.move index connection) := by
  intro other principal found
  unfold CredentialWorld.move at found ⊢
  dsimp only at found ⊢
  by_cases same : other = index
  · rw [same, Function.update_self] at found
    exact here principal found
  · rw [Function.update_of_ne same] at found
    exact subscribed other principal found

/-- A session that stays authenticated keeps its subscription. -/
theorem AllSubscribed.keep (subscribed : AllSubscribed world)
    (stands : (world.connections index).principal = some principal)
    (kept : connection.principal = some principal) :
    AllSubscribed (world.move index connection) := by
  apply subscribed.move
  intro found holds
  rw [kept] at holds
  cases holds
  exact subscribed index principal stands

theorem allSubscribed_fresh (principals : String → Option PrincipalPolicy) :
    AllSubscribed (.fresh principals) := by
  intro index principal found
  cases found

theorem AllSubscribed.step (subscribed : AllSubscribed world)
    (taken : SessionStep verify world label next) : AllSubscribed next := by
  cases taken with
  | read | reject | revoked | close => exact subscribed.move nofun
  | subscribe index clientId secret policy principal stands found =>
      apply subscribed.move
      rintro _ ⟨⟩
      exact subscribed_subscribe found
  | frame index principal stands | refuse index principal stands
  | dispatch index principal stands | respond index principal stands =>
      exact subscribed.keep (by rw [stands]; rfl) rfl
  | revoke => exact subscribed
  | rotate => exact subscribed
  | replaceAll => exact subscribed
  | apply call part rest =>
      intro other principal found
      exact (subscribed other principal found).apply part

/-! ### A session that was revoked stays revoked -/

theorem Overtaken.move (overtaken : Overtaken world index) {other : ℕ}
    (here : other = index → connection = .closed ∨
      ∃ principal, world.store.Ready principal.revocation ∧
        (connection = .selecting principal ∨
          connection = .dispatching principal)) :
    Overtaken (world.move other connection) index := by
  unfold Overtaken CredentialWorld.move
  dsimp only
  by_cases same : other = index
  · rw [same, Function.update_self]
    exact here same
  · rw [Function.update_of_ne (Ne.symm same)]
    exact overtaken

/-- Where a revoked session is not. -/
theorem Overtaken.stands (overtaken : Overtaken world index) :
    world.connections index ≠ .connected ∧
      (∀ clientId secret policy,
        world.connections index ≠ .checking clientId secret policy) ∧
      ∀ principal, world.connections index ≠ .framed principal := by
  rcases overtaken with closed | ⟨principal, -, selecting | dispatching⟩
  · rw [closed]
    exact ⟨nofun, nofun, nofun⟩
  · rw [selecting]
    exact ⟨nofun, nofun, nofun⟩
  · rw [dispatching]
    exact ⟨nofun, nofun, nofun⟩

/-- A revoked session that awaits a response or a frame is ready. -/
theorem Overtaken.ready (overtaken : Overtaken world index)
    (stands : world.connections index = .selecting principal ∨
      world.connections index = .dispatching principal) :
    world.store.Ready principal.revocation := by
  rcases overtaken with closed | ⟨found, ready, there⟩
  · rw [closed] at stands
    rcases stands with impossible | impossible
    · cases impossible
    · cases impossible
  · have same : found = principal := by
      rcases stands with here | here
      · rw [here] at there
        rcases there with equal | equal
        · cases equal
          rfl
        · cases equal
      · rw [here] at there
        rcases there with equal | equal
        · cases equal
        · cases equal
          rfl
    exact same ▸ ready

theorem Overtaken.step (overtaken : Overtaken world index)
    (careful : Careful world label)
    (taken : SessionStep verify world label next) : Overtaken next index := by
  have elsewhere := overtaken.stands
  cases taken with
  | read other clientId secret stands =>
      apply overtaken.move
      rintro rfl
      exact absurd stands elsewhere.1
  | subscribe other clientId secret policy principal stands =>
      apply overtaken.move
      rintro rfl
      exact absurd stands (elsewhere.2.1 _ _ _)
  | frame other principal stands =>
      apply overtaken.move
      rintro rfl
      exact absurd (overtaken.ready (.inl stands)) (careful principal stands)
  | refuse other principal stands =>
      apply overtaken.move
      rintro rfl
      exact absurd stands (elsewhere.2.2 _)
  | dispatch other principal stands =>
      apply overtaken.move
      rintro rfl
      exact absurd stands (elsewhere.2.2 _)
  | respond other principal stands =>
      apply overtaken.move
      rintro rfl
      exact .inr ⟨principal, overtaken.ready (.inr stands), .inl rfl⟩
  | reject | revoked | close => exact overtaken.move fun _ => .inl rfl
  | revoke => exact overtaken
  | rotate => exact overtaken
  | replaceAll => exact overtaken
  | apply call part rest =>
      rcases overtaken with closed | ⟨principal, ready, there⟩
      · exact .inl closed
      · exact .inr ⟨principal, ready.apply part, there⟩

/-- The second section of `revoke` overtakes every session of the client. -/
theorem overtaken_of_notify {clientId : String}
    (subscribed : AllSubscribed world)
    (holds : (world.connections index).client = some clientId)
    (careful : Careful world (.perform (.notify clientId)))
    (taken : SessionStep verify world (.perform (.notify clientId)) next) :
    Overtaken next index := by
  cases taken with
  | apply call part rest =>
      have ready (principal : AuthenticatedPrincipal)
          (session : (world.connections index).principal = some principal)
          (same : principal.revocation.channel = clientId) :
          (world.store.apply (.notify clientId)).Ready
            principal.revocation := by
        rw [← same]
        exact (subscribed index principal session).ready_notify
      rcases careful index holds with ⟨principal, stands⟩ | ⟨principal, stands⟩
      · rw [stands] at holds
        exact .inr ⟨principal,
          ready principal (by rw [stands]; rfl) (Option.some.inj holds),
          .inl stands⟩
      · rw [stands] at holds
        exact .inr ⟨principal,
          ready principal (by rw [stands]; rfl) (Option.some.inj holds),
          .inr stands⟩

/-! ### Any session that subscribed in time is woken -/

theorem Woken.move (woken : Woken world index principal) {other : ℕ}
    (here : connection = .closed ∨ world.connections other ≠ .closed ∧
      ∀ session, (world.connections other).principal = some session →
        connection.principal = some session) :
    Woken (world.move other connection) index principal := by
  unfold Woken CredentialWorld.move
  dsimp only
  by_cases same : index = other
  · subst same
    rw [Function.update_self]
    rcases here with closed | ⟨running, keeps⟩
    · exact .inl closed
    · rcases woken with closed | ⟨session, ready⟩
      · exact absurd closed running
      · exact .inr ⟨keeps principal session, ready⟩
  · rw [Function.update_of_ne same]
    exact woken

theorem Woken.step (woken : Woken world index principal)
    (taken : SessionStep verify world label next) :
    Woken next index principal := by
  cases taken with
  | read _ _ _ stands | subscribe _ _ _ _ _ stands =>
      exact woken.move (.inr (by rw [stands]; exact ⟨nofun, nofun⟩))
  | frame _ _ stands | refuse _ _ stands | dispatch _ _ stands
  | respond _ _ stands =>
      exact woken.move (.inr (by rw [stands]; exact ⟨nofun, fun _ => id⟩))
  | reject | revoked | close => exact woken.move (.inl rfl)
  | revoke | rotate | replaceAll => exact woken
  | apply call part rest =>
      exact woken.imp_right fun found => ⟨found.1, found.2.apply part⟩

/-- Whatever else happens, a session that has subscribed when the second
section of `revoke` runs is woken for good: until it closes, its `revoked` is
ready. -/
theorem woken_of_notify {principals : String → Option PrincipalPolicy}
    {revoked later : CredentialWorld}
    (before : Reaches (SessionStep verify) (fun _ _ => True)
      (.fresh principals) world)
    (session : (world.connections index).principal = some principal)
    (taken : SessionStep verify world
      (.perform (.notify principal.revocation.channel)) revoked)
    (after : Reaches (SessionStep verify) (fun _ _ => True) revoked later) :
    Woken later index principal := by
  have subscribed : AllSubscribed world :=
    before.invariant (allSubscribed_fresh principals)
      fun _ _ _ subscribed _ step => subscribed.step step
  have woken : Woken revoked index principal := by
    cases taken with
    | apply =>
        exact .inr ⟨session, (subscribed index principal session).ready_notify⟩
  exact after.invariant (by exact woken)
    fun _ _ _ woken _ step => Woken.step woken step

end Steps

/-- When nobody is between reading the policy and subscribing, or holds a
frame, while a revocation takes effect, and no session takes a frame although
its channel was modified, then a session whose policy was read before a
revocation starts no further request after it, and its `revoked` is ready
until it closes. -/
theorem complete_of_notify {verify : String → String → Bool}
    {principals : String → Option PrincipalPolicy}
    {world revoked later : CredentialWorld} {index : ℕ} {clientId : String}
    (before : Reaches (SessionStep verify) Careful (.fresh principals) world)
    (holds : (world.connections index).client = some clientId)
    (careful : Careful world (.perform (.notify clientId)))
    (taken : SessionStep verify world (.perform (.notify clientId)) revoked)
    (after : Reaches (SessionStep verify) Careful revoked later) :
    (∀ next, ¬ SessionStep verify later (.dispatch index) next) ∧
      (later.connections index = .closed ∨
        ∃ principal, (later.connections index).principal = some principal ∧
          later.store.Ready principal.revocation) := by
  have subscribed : AllSubscribed world :=
    before.invariant (allSubscribed_fresh principals)
      fun _ _ _ subscribed _ step => AllSubscribed.step subscribed step
  have overtaken : Overtaken later index :=
    after.invariant (overtaken_of_notify subscribed holds careful taken)
      fun _ _ _ overtaken careful step => Overtaken.step overtaken careful step
  constructor
  · rintro next step
    cases step with
    | dispatch _ principal stands => exact overtaken.stands.2.2 principal stands
  · rcases overtaken with closed | ⟨principal, ready, there⟩
    · exact .inl closed
    · refine .inr ⟨principal, ?_, ready⟩
      rcases there with stands | stands
      · rw [stands]
        rfl
      · rw [stands]
        rfl

/-- One principal, whose password is always right. -/
def oneClient : String → Option PrincipalPolicy :=
  Function.update (fun _ => none) "client" (some ⟨"client", "verifier"⟩)

/-- The session of this principal that subscribed to its channel when the
channel had been modified so many times. -/
def oneSession (seen : ℕ) : AuthenticatedPrincipal :=
  ⟨⟨"client", "verifier"⟩, "client", seen⟩

/-- A `revoke` of the principal has still to notify its first connection,
which is the only one. -/
structure HalfRevoked (world : CredentialWorld) (connection : Connection) :
    Prop where
  first : world.connections 0 = connection
  others : ∀ index, index ≠ 0 → world.connections index = .connected
  channel : world.store.revisions "client" = some 0
  call : world.calls 0 = [.notify "client"]

/-- The first connection subscribes, and then the `revoke` begins. -/
theorem exists_halfRevoked_selecting :
    ∃ world, Reaches (SessionStep fun _ _ => true) Careful
        (.fresh oneClient) world ∧
      HalfRevoked world (.selecting (oneSession 0)) := by
  have reached : Reaches (SessionStep fun _ _ => true) Careful
      (.fresh oneClient) _ := .start
  have reached := reached.step SessionLabel.quiet trivial
    (.read 0 "client" "secret" rfl)
  have reached := reached.step SessionLabel.quiet trivial
    (.subscribe 0 "client" "secret" _ (oneSession 0) rfl rfl)
  have reached := reached.step SessionLabel.quiet trivial
    (.revoke 0 "client" rfl)
  have reached := reached.step (SessionLabel.perform (.remove "client"))
    trivial (.apply 0 (.remove "client") [.notify "client"] rfl)
  refine ⟨_, reached, rfl, ?_, rfl, rfl⟩
  intro index other
  simp [CredentialWorld.move, CredentialWorld.begin, CredentialWorld.fresh,
    other]

/-- The first connection reads the policy, and then the `revoke` begins. -/
theorem exists_halfRevoked_checking :
    ∃ world, Reaches (SessionStep fun _ _ => true) (fun _ _ => True)
        (.fresh oneClient) world ∧
      HalfRevoked world
        (.checking "client" "secret" (some ⟨"client", "verifier"⟩)) := by
  have reached : Reaches (SessionStep fun _ _ => true) (fun _ _ => True)
      (.fresh oneClient) _ := .start
  have reached := reached.step .quiet trivial (.read 0 "client" "secret" rfl)
  have reached := reached.step .quiet trivial (.revoke 0 "client" rfl)
  have reached := reached.step _ trivial
    (.apply 0 (.remove "client") [.notify "client"] rfl)
  refine ⟨_, reached, rfl, ?_, rfl, rfl⟩
  intro index other
  simp [CredentialWorld.move, CredentialWorld.begin, CredentialWorld.fresh,
    other]

/-- A session subscribes, and is then revoked. -/
theorem complete_oneClient :
    ∃ world revoked : CredentialWorld,
      (world.connections 0).client = some "client" ∧
      SessionStep (fun _ _ => true) world (.perform (.notify "client"))
        revoked ∧
      (∀ next, ¬ SessionStep (fun _ _ => true) revoked (.dispatch 0) next) ∧
      (revoked.connections 0 = .closed ∨
        ∃ principal, (revoked.connections 0).principal = some principal ∧
          revoked.store.Ready principal.revocation) := by
  obtain ⟨world, reached, half⟩ := exists_halfRevoked_selecting
  have holds : (world.connections 0).client = some "client" := by
    rw [half.first]
    rfl
  have careful : Careful world (.perform (.notify "client")) := by
    intro index client
    by_cases first : index = 0
    · exact .inl ⟨oneSession 0, by rw [first, half.first]⟩
    · rw [half.others index first] at client
      cases client
  have notify : SessionStep (fun _ _ => true) world
      (.perform (.notify "client")) _ :=
    .apply 0 (.notify "client") [] half.call
  exact ⟨world, _, holds, notify,
    complete_of_notify reached holds careful notify .start⟩

theorem woken_oneClient :
    ∃ world revoked, SessionStep (fun _ _ => true) world
        (.perform (.notify "client")) revoked ∧
      Woken revoked 0 (oneSession 0) := by
  obtain ⟨world, reached, half⟩ := exists_halfRevoked_selecting
  have notify : SessionStep (fun _ _ => true) world
      (.perform (.notify "client")) _ :=
    .apply 0 (.notify "client") [] half.call
  exact ⟨world, _, notify, woken_of_notify (reached.imp fun _ _ _ => trivial)
    (by rw [half.first]; rfl) notify .start⟩

/-- The policy is read, the principal is revoked, and then the session
subscribes: its `revoked` is not ready, and it dispatches a request. -/
theorem missed_revocation :
    ∃ world revoked later : CredentialWorld,
      Reaches (SessionStep fun _ _ => true) (fun _ _ => True)
        (.fresh oneClient) world ∧
      (world.connections 0).client = some "client" ∧
      SessionStep (fun _ _ => true) world (.perform (.notify "client"))
        revoked ∧
      Reaches (SessionStep fun _ _ => true) (fun _ _ => True) revoked later ∧
      (later.connections 0).principal = some (oneSession 1) ∧
      ¬ later.store.Ready (oneSession 1).revocation ∧
      ∃ next, SessionStep (fun _ _ => true) later (.dispatch 0) next := by
  obtain ⟨world, reached, half⟩ := exists_halfRevoked_checking
  have holds : (world.connections 0).client = some "client" := by
    rw [half.first]
    rfl
  let revoked : CredentialWorld :=
    { world with
      store := world.store.apply (.notify "client")
      calls := Function.update world.calls 0 [] }
  have channel : revoked.store.revisions "client" = some 1 := by
    simp [revoked, CredentialStore.apply, half.channel]
  have notify : SessionStep (fun _ _ => true) world
      (.perform (.notify "client")) revoked :=
    .apply 0 (.notify "client") [] half.call
  have further : Reaches (SessionStep fun _ _ => true) (fun _ _ => True)
      revoked _ := .start
  have found : revoked.store.subscribe (fun _ _ => true) "client" "secret"
      (some ⟨"client", "verifier"⟩) = some (oneSession 1) := by
    simp [CredentialStore.subscribe, channel, oneSession]
  have subscribe : SessionStep (fun _ _ => true) revoked .quiet
      (revoked.move 0 (.selecting (oneSession 1))) :=
    .subscribe 0 "client" "secret" _ (oneSession 1) half.first found
  have further := further.step .quiet trivial subscribe
  have further := further.step _ trivial (.frame 0 (oneSession 1) rfl)
  refine ⟨world, revoked, _, reached, holds, notify, further, rfl, ?_, _,
    .dispatch 0 (oneSession 1) rfl⟩
  rintro ⟨version, found, seen⟩
  cases channel.symm.trans found
  exact absurd seen (Nat.lt_irrefl 1)

end Remote
end TaskCage
