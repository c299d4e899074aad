import TaskCage.Artifact.Memory

/-!
# Runs of the store

Requests are served one after the other, each with its own clock readings and
faults.  Identifiers are random, so one that is drawn names nothing yet; this
is the only assumption about them.
-/

namespace TaskCage
namespace Artifact

open Filing RemoteArtifactStore

/-- A request with the faults of the calls that are made for it. -/
structure Request where
  turn : Turn
  faults : List (Option ℕ)

/-- Serve a request in the room that the earlier ones have left. -/
def RemoteArtifactStore.answer (store : RemoteArtifactStore)
    (room : StoreRoom) (request : Request) :
    Except RemoteArtifactError Reply × StoreRoom :=
  store.serve request.turn { room with faults := request.faults, steps := [] }

/-- The identifier names nothing yet. -/
structure Fresh (room : StoreRoom) (drawn : Uuid) : Prop where
  unused : room.memory.artifacts.lookup drawn = none
  noFile : ∀ slot, room.files (.at drawn slot) = none
  noTemporary : room.files (.recordTemporary drawn) = none

/-- Requests that are allowed when they come are served one after the
other. -/
inductive Serves (store : RemoteArtifactStore)
    (Allowed : StoreRoom → Request → Prop) : StoreRoom → StoreRoom → Prop where
  | start (room : StoreRoom) : Serves store Allowed room room
  | answer {room before : StoreRoom} (request : Request)
      (served : Serves store Allowed room before)
      (fresh : request.turn.operation.draws = true →
        Fresh before request.turn.drawn)
      (allowed : Allowed before request) :
      Serves store Allowed room (store.answer before request).2

/-- A store without artifacts. -/
def emptyRoom : StoreRoom where
  files := fun _ => none
  memory := .empty
  faults := []
  steps := []

section Memory

variable {store : RemoteArtifactStore} {room : StoreRoom} {request : Request}

/-- A condition on the requests that give inputs back. -/
def Restoring (Clear : String → ArtifactState → Prop) (room : StoreRoom)
    (request : Request) : Prop :=
  ∀ taskId, request.turn.operation = .restoreTaskInputs taskId →
    Clear taskId room.memory

/-- A condition on the requests that declare uploads. -/
def Declaring (Granted : PrincipalPolicy → Prop) (request : Request) : Prop :=
  ∀ policy descriptor,
    request.turn.operation = .beginUpload policy descriptor → Granted policy

variable {Granted : PrincipalPolicy → Prop} {Good : ArtifactState → Prop}

theorem changes_answer (store : RemoteArtifactStore)
    (fresh : request.turn.operation.draws = true →
      Fresh room request.turn.drawn) (granted : Declaring Granted request)
    (other : ∀ taskId, request.turn.operation ≠ .restoreTaskInputs taskId) :
    Changes Granted room.memory (store.answer room request).2.memory := by
  have leads := leads_serve store request.turn granted other
    { room with faults := request.faults, steps := [] }
    ⟨.refl, fun draws => (fresh draws).unused⟩
  cases ended : (store.answer room request).1 with
  | ok reply => exact (leads.1 reply ended).1
  | error error => exact leads.2 error ended

/-- What the code for a request ensures holds after the answer. -/
theorem answer_of_ensures {Result : Type} {reply : Result → Reply}
    {code : StoreCode Result} {Pre : StoreRoom → Prop}
    {Post : Result → StoreRoom → Prop}
    {Fails : RemoteArtifactError → StoreRoom → Prop}
    (serves : store.serve request.turn = replying reply code)
    (ensures : Ensures Pre code Post Fails)
    (pre : Pre { room with faults := request.faults, steps := [] }) :
    (∀ answer, (store.answer room request).1 = .ok answer →
      ∃ result, answer = reply result ∧
        Post result (store.answer room request).2) ∧
    ∀ error, (store.answer room request).1 = .error error →
      Fails error (store.answer room request).2 := by
  unfold answer
  rw [serves]
  have replies : Ensures Pre (replying reply code)
      (fun answer room => ∃ result, answer = reply result ∧ Post result room)
      Fails :=
    .bind ensures fun result => .pure fun _ post => ⟨result, rfl, post⟩
  exact replies _ pre

theorem restored_answer {Known : ArtifactState → Prop} {taskId : String}
    (known : Known room.memory)
    (restores : Ensures (Remembers Known) (restoreTaskInputs taskId)
      (fun _ => Remembers Good) fun _ => Remembers Good)
    (restoring : request.turn.operation = .restoreTaskInputs taskId) :
    Good (store.answer room request).2.memory := by
  have serves : store.serve request.turn =
      replying (fun _ => Reply.done) (restoreTaskInputs taskId) := by
    unfold serve
    rw [restoring]
  have run := answer_of_ensures serves restores known
  cases ended : (store.answer room request).1 with
  | ok answer =>
      obtain ⟨_, -, good⟩ := run.1 answer ended
      exact good
  | error error => exact run.2 error ended

/-- What the changes keep, and requests that give inputs back keep under a
condition, holds after every run in which they meet it. -/
theorem Serves.remembers {Allowed : StoreRoom → Request → Prop}
    {Clear : String → ArtifactState → Prop} {start : StoreRoom}
    (served : Serves store Allowed start room)
    (granted : ∀ room request, Allowed room request → Declaring Granted request)
    (clear : ∀ room request, Allowed room request →
      Restoring Clear room request) (good : Good start.memory)
    (keeps : ∀ before after, Good before → Change Granted before after →
      Good after)
    (restores : ∀ taskId, Ensures
      (Remembers fun state => Good state ∧ Clear taskId state)
      (restoreTaskInputs taskId) (fun _ => Remembers Good)
      fun _ => Remembers Good) : Good room.memory := by
  induction served with
  | start => exact good
  | answer request served fresh allowed inductionHypothesis =>
      by_cases restoring : ∃ taskId,
          request.turn.operation = .restoreTaskInputs taskId
      · obtain ⟨taskId, restoring⟩ := restoring
        exact restored_answer
          ⟨inductionHypothesis, clear _ _ allowed taskId restoring⟩
          (restores taskId) restoring
      · exact good_of_changes keeps inductionHypothesis
          (changes_answer store fresh (granted _ _ allowed)
            (not_exists.mp restoring))

end Memory
/-! ### A small store

The hash function, the rendering of instants and the decoding of texts of this
store agree with the real ones on the few values that its runs use. -/

/-- Digests of small files. -/
def smallDigest : List UInt8 → String
  | [0] =>
    "sha256:6e340b9cffb37a989ca544e6bb780a2c78901d3fb33738768511a30617afa01d"
  | [1] =>
    "sha256:4bf5122f344554c53bde2ebb8cd2b7e3d1600ad631c385a5d7cce23c7785459a"
  | [0, 1] =>
    "sha256:b413f47d13ee2fe6c845b2ee141af81de858df4ec549a58b7970bb96645bc8d2"
  | _ =>
    "sha256:96a296d224f285c67bee93c30f8a309157f0daa35dc5b87e410b78630a09cfc7"

/-- A store for runs that stand at the epoch. -/
def smallStore : RemoteArtifactStore where
  maxArtifactBytes := 2 ^ 64 - 1
  maxChunkBytes := 1024
  retention := 1000000000
  digest := smallDigest
  formatTimestamp _ := some "1970-01-01T00:00:01Z"
  decodeBase64 text :=
    if text = "AA==" then some [0]
    else if text = "AAE=" then some [0, 1]
    else none

/-- The client of the small runs. -/
def smallClient : ClientId :=
  ⟨"client", by decide⟩

/-- A client may have one upload, of any size. -/
def smallPolicy : PrincipalPolicy where
  clientId := smallClient
  artifactUploadAllowed := true
  maxPrincipalArtifactBytes := 2 ^ 64 - 1
  maxPrincipalArtifacts := 1

/-- The first identifier that is drawn. -/
def firstId : Uuid :=
  ⟨"00000000-0000-4000-8000-000000000001", by decide⟩

/-- The second identifier that is drawn. -/
def secondId : Uuid :=
  ⟨"00000000-0000-4000-8000-000000000002", by decide⟩

/-- The task of the small runs. -/
def smallTask : String :=
  "00000000-0000-4000-8000-000000000003"

/-- An upload of one byte. -/
def oneByte : BeginArtifactUploadPayload where
  clientArtifactId := "00000000-0000-4000-8000-000000000004"
  digest := smallDigest [0]
  sizeBytes := 1
  mediaType := none

/-- A request at the epoch, without faults. -/
def quiet (operation : Operation) (drawn : Uuid) : Request where
  turn := ⟨operation, (0 : ℤ), (0 : ℤ), drawn⟩
  faults := []

/-- An upload was declared. -/
def declaredRoom : StoreRoom :=
  (smallStore.answer emptyRoom
    (quiet (.beginUpload smallPolicy oneByte) firstId)).2

/-- Its byte has arrived. -/
def filledRoom : StoreRoom :=
  (smallStore.answer declaredRoom
    (quiet (.uploadChunk "client" ⟨firstId, 0, "AA=="⟩) firstId)).2

/-- It was completed. -/
def completedRoom : StoreRoom :=
  (smallStore.answer filledRoom
    (quiet (.completeUpload "client" firstId) firstId)).2

/-- It belongs to a task. -/
def ownedRoom : StoreRoom :=
  (smallStore.answer completedRoom
    (quiet (.transferInputs "client" smallTask [firstId.1]) firstId)).2

/-- A request that gives nothing back, and declares uploads under the small
policy only. -/
structure Plain (operation : Operation) : Prop where
  keeps : ∀ taskId, operation ≠ .restoreTaskInputs taskId
  policy : ∀ policy descriptor,
    operation = .beginUpload policy descriptor → policy = smallPolicy

/-- An empty store can get there without faults, by plain requests. -/
theorem serves_ownedRoom {Allowed : StoreRoom → Request → Prop}
    (allowed : ∀ room operation drawn, Plain operation →
      Allowed room (quiet operation drawn)) :
    Serves smallStore Allowed emptyRoom ownedRoom := by
  refine .answer _ (.answer _ (.answer _ (.answer _ (.start _) ?_ ?_)
    nofun ?_) nofun ?_) nofun ?_
  · exact fun _ => ⟨rfl, fun _ => rfl, rfl⟩
  · refine allowed _ _ _ ⟨nofun, ?_⟩
    rintro _ _ ⟨⟩
    rfl
  · exact allowed _ _ _ ⟨nofun, nofun⟩
  · exact allowed _ _ _ ⟨nofun, nofun⟩
  · exact allowed _ _ _ ⟨nofun, nofun⟩

/-- Nothing has the second identifier yet. -/
theorem fresh_ownedRoom : Fresh ownedRoom secondId := by
  have both : ownedRoom.memory.artifacts.lookup secondId = none ∧
      ownedRoom.files (.recordTemporary secondId) = none := by
    decide +kernel
  exact ⟨both.1, fun _ => rfl, both.2⟩

end Artifact
end TaskCage
