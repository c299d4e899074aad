import TaskCage.Artifact.Operations
import TaskCage.Foundation.Outcome

/-!
# Opening the store

When the daemon starts, it throws away what was being uploaded or belonged to a
task, and reads the record files of the rest.  One record file that does not
fit to its data makes the whole root unusable.  Calls of the file system do
not fail here: the first one that does ends the start of the daemon.
-/

namespace TaskCage
namespace Artifact

open Filing RemoteArtifactStore

/-- An entry of the directory of record files. -/
inductive RecordEntry where
  | record (artifactId : String)
  | temporary (artifactId : String)
deriving DecidableEq

/-- What the loop over the record files has found so far. -/
structure Loading where
  files : Files Place Content
  state : ArtifactState
  retainedCompleted : List String
  retainedOutputs : List String

/-- The artifact that a record file describes, when it expires and where its
bytes are. -/
def restorePersistedRecord (artifactId : String) :
    PersistedArtifactRecord →
      Except RemoteArtifactError (ArtifactRecord × SystemTime × Place)
  | .completedInput principal descriptor milliseconds uploaded => do
      if principal = "" ∨ Names.isUuid descriptor.clientArtifactId = false ∨
          Names.validDigest descriptor.digest = false ∨
          descriptor.sizeBytes = 0 ∨ uploaded.artifactId ≠ artifactId ∨
          uploaded.digest ≠ descriptor.digest ∨
          uploaded.sizeBytes ≠ descriptor.sizeBytes then
        .error (.unsafeRoot "completed input record가 잘못되었습니다")
      else
        let expires ← epochMillisToSystemTime milliseconds
        pure (⟨principal, .completed descriptor (.at artifactId .completed)
          expires uploaded⟩, expires, .at artifactId .completed)
  | .managedOutput principal milliseconds payload => do
      if principal = "" ∨ payload.kind ≠ .managedOutput ∨
          payload.artifactId ≠ artifactId ∨
          Names.validDigest payload.digest = false ∨
          payload.sizeBytes = 0 ∨ payload.mediaType = "" then
        .error (.unsafeRoot "managed output record가 잘못되었습니다")
      else
        let expires ← epochMillisToSystemTime milliseconds
        pure (⟨principal, .output (.at artifactId .output) expires payload⟩,
          expires, .at artifactId .output)

/-- The size and the digest that the bytes of an artifact should have. -/
def ArtifactRecord.expected (record : ArtifactRecord) : Option (ℕ × String) :=
  match record.state with
  | .completed _ _ _ uploaded => some (uploaded.sizeBytes, uploaded.digest)
  | .output _ _ payload => some (payload.sizeBytes, payload.digest)
  | .uploading _ _ _ => none
  | .taskOwned _ _ _ _ _ => none

namespace RemoteArtifactStore

variable (store : RemoteArtifactStore)

/-- Check the bytes of an artifact against its record file. -/
def validatePersistedData (files : Files Place Content) (path : Place)
    (record : ArtifactRecord) : Except RemoteArtifactError Unit :=
  match files path with
  | none => .error (.io "inspect persisted Artifact" path)
  | some content =>
      if record.expected =
          some (content.data.length, store.digest content.data) then
        .ok ()
      else
        .error (.unsafeRoot "persisted Artifact bytes가 record와 일치하지 않습니다")

/-- Put the key and the quota of a completed input back. -/
def loadUpload (state : ArtifactState) (artifactId principal : String)
    (descriptor : BeginArtifactUploadPayload) :
    Except RemoteArtifactError ArtifactState :=
  match state.uploadKeys.lookup (principal, descriptor.clientArtifactId) with
  | some _ => .error (.unsafeRoot "중복 Artifact upload idempotency record가 있습니다")
  | none =>
      match checkedAdd (state.quota principal).count 1,
        checkedAdd (state.quota principal).bytes descriptor.sizeBytes with
      | some count, some bytes =>
          .ok ((state.setKey (principal, descriptor.clientArtifactId)
            artifactId).setQuota principal ⟨bytes, count⟩)
      | _, _ => .error (.unsafeRoot "Artifact quota가 너무 큽니다")

/-- Keep the record of an artifact. -/
def insertRecord (loading : Loading) (artifactId : String)
    (record : ArtifactRecord) : Except RemoteArtifactError Loading :=
  match loading.state.artifacts.lookup artifactId with
  | some _ => .error (.unsafeRoot "중복 Artifact record가 있습니다")
  | none =>
      .ok { loading with state := loading.state.setRecord artifactId record }

/-- Keep an artifact. -/
def retain (loading : Loading) (artifactId : String)
    (record : ArtifactRecord) : Except RemoteArtifactError Loading :=
  match record.state with
  | .completed descriptor _ _ _ => do
      let state ← loadUpload loading.state artifactId record.principal
        descriptor
      insertRecord
        { loading with
          state := state
          retainedCompleted := artifactId :: loading.retainedCompleted }
        artifactId record
  | _ =>
      insertRecord
        { loading with
          retainedOutputs := artifactId :: loading.retainedOutputs }
        artifactId record

/-- Remove the files of an artifact that has expired. -/
def dropExpired (loading : Loading) (artifactId : String) (path : Place) :
    Loading :=
  { loading with
    files := (loading.files.set path none).set (.at artifactId .record) none }

/-- Keep an artifact, or remove it when it has expired. -/
def loadRecord (now : SystemTime) (loading : Loading) (artifactId : String)
    (record : ArtifactRecord) (expires : SystemTime) (path : Place) :
    Except RemoteArtifactError Loading :=
  if expires ≤ now then
    .ok (dropExpired loading artifactId path)
  else do
    store.validatePersistedData loading.files path record
    retain loading artifactId record

/-- Read one entry of the directory of record files. -/
def loadEntry (now : SystemTime) (loading : Loading) :
    RecordEntry → Except RemoteArtifactError Loading
  | .temporary artifactId =>
      .ok { loading with
        files := loading.files.set (.recordTemporary artifactId) none }
  | .record artifactId =>
      if Names.isUuid artifactId = false then
        .error (.unsafeRoot "Artifact record 이름이 UUID가 아닙니다")
      else
        match loading.files (.at artifactId .record) with
        | some (.record persisted) => do
            let (record, expires, path) ←
              restorePersistedRecord artifactId persisted
            store.loadRecord now loading artifactId record expires path
        | some (.bytes _) =>
            .error (.unsafeRoot "Artifact record JSON이 잘못되었습니다")
        | none => .error (.io "read Artifact record" (.at artifactId .record))

/-- Remove the files of artifacts that are not kept.  The temporary file of an
output lies in the directory of the outputs under a name of its own. -/
def removeOrphanArtifacts (loading : Loading) : Files Place Content
  | .at artifactId .completed =>
      if artifactId ∈ loading.retainedCompleted then
        loading.files (.at artifactId .completed)
      else none
  | .at artifactId .output =>
      if artifactId ∈ loading.retainedOutputs then
        loading.files (.at artifactId .output)
      else none
  | .at _ .outputTemporary => none
  | place => loading.files place

/-- The directories of uploads and of inputs of tasks are made anew. -/
def resetDirectories (files : Files Place Content) : Files Place Content
  | .at _ .staging => none
  | .at _ (.taskInput _) => none
  | place => files place

/-- Read the record files in the order in which they are listed. -/
def loadPersistedRecords (now : SystemTime) (listing : List RecordEntry)
    (files : Files Place Content) : Except RemoteArtifactError Loading :=
  listing.foldlM (store.loadEntry now) ⟨files, .empty, [], []⟩

end RemoteArtifactStore

/-- Open the store on the files of an earlier one. -/
def RemoteArtifactStore.open (store : RemoteArtifactStore) (now : SystemTime)
    (listing : List RecordEntry) (files : Files Place Content) :
    Except RemoteArtifactError StoreRoom := do
  if store.maxArtifactBytes = 0 ∨ store.maxChunkBytes = 0 ∨
      store.retention = 0 then
    .error (.unsafeRoot "Artifact 제한과 retention은 0보다 커야 합니다")
  else
    let loading ← store.loadPersistedRecords now listing
      (resetDirectories files)
    pure ⟨removeOrphanArtifacts loading, loading.state, [], []⟩

/-- The entries are those of the directory of record files, in some order. -/
structure Lists (listing : List RecordEntry) (files : Files Place Content) :
    Prop where
  distinct : listing.Nodup
  record : ∀ artifactId, .record artifactId ∈ listing ↔
    files (.at artifactId .record) ≠ none
  temporary : ∀ artifactId, .temporary artifactId ∈ listing ↔
    files (.recordTemporary artifactId) ≠ none

/-! ### The memory of an opened store -/

/-- How the memory grows when an artifact is kept. -/
inductive Kept (state : ArtifactState) : ArtifactState → Prop where
  | input (artifactId principal : String)
      (descriptor : BeginArtifactUploadPayload) (path : Place)
      (expires : SystemTime) (uploaded : ArtifactUploadedPayload)
      (absent : state.artifacts.lookup artifactId = none)
      (free : state.uploadKeys.lookup
        (principal, descriptor.clientArtifactId) = none) :
      Kept state (((state.setKey (principal, descriptor.clientArtifactId)
        artifactId).setQuota principal
          ⟨(state.quota principal).bytes + descriptor.sizeBytes,
            (state.quota principal).count + 1⟩).setRecord artifactId
          ⟨principal, .completed descriptor path expires uploaded⟩)
  | output (artifactId principal : String) (path : Place)
      (expires : SystemTime) (payload : ManagedOutputArtifactPayload)
      (absent : state.artifacts.lookup artifactId = none) :
      Kept state (state.setRecord artifactId
        ⟨principal, .output path expires payload⟩)

variable {artifactId : String} {loaded loading : Loading}
variable {record : ArtifactRecord} {now : SystemTime}
variable {store : RemoteArtifactStore}

theorem insertRecord_eq_ok
    (ended : insertRecord loading artifactId record = .ok loaded) :
    loading.state.artifacts.lookup artifactId = none ∧
      loaded = { loading with
        state := loading.state.setRecord artifactId record } := by
  unfold insertRecord at ended
  split at ended
  · cases ended
  · rename_i absent
    cases ended
    exact ⟨absent, rfl⟩

theorem loadUpload_eq_ok {state loaded : ArtifactState} {principal : String}
    {descriptor : BeginArtifactUploadPayload}
    (ended : loadUpload state artifactId principal descriptor = .ok loaded) :
    state.uploadKeys.lookup (principal, descriptor.clientArtifactId) = none ∧
      loaded = (state.setKey (principal, descriptor.clientArtifactId)
        artifactId).setQuota principal
          ⟨(state.quota principal).bytes + descriptor.sizeBytes,
            (state.quota principal).count + 1⟩ := by
  unfold loadUpload at ended
  split at ended
  · cases ended
  · rename_i free
    split at ended
    · rename_i count bytes counts sizes
      obtain ⟨-, rfl⟩ := checkedAdd_eq_some_iff.mp counts
      obtain ⟨-, rfl⟩ := checkedAdd_eq_some_iff.mp sizes
      cases ended
      exact ⟨free, rfl⟩
    · cases ended

theorem kept_of_retain (data : record.expected.isSome = true)
    (ended : retain loading artifactId record = .ok loaded) :
    Kept loading.state loaded.state := by
  obtain ⟨principal, stored⟩ := record
  cases stored with
  | uploading => cases data
  | taskOwned => cases data
  | completed descriptor path expires uploaded =>
      obtain ⟨state, uploads, inserts⟩ := Outcome.bind_eq_ok_iff.mp ended
      obtain ⟨free, rfl⟩ := loadUpload_eq_ok uploads
      obtain ⟨absent, rfl⟩ := insertRecord_eq_ok inserts
      exact .input artifactId principal descriptor path expires uploaded
        absent free
  | output path expires payload =>
      obtain ⟨absent, rfl⟩ := insertRecord_eq_ok ended
      exact .output artifactId principal path expires payload absent

/-- What becomes of an artifact whose record file was read. -/
theorem loadRecord_eq_ok {expires : SystemTime} {path : Place}
    (ended : store.loadRecord now loading artifactId record expires path =
      .ok loaded) :
    expires ≤ now ∧ loaded = dropExpired loading artifactId path ∨
      now < expires ∧ retain loading artifactId record = .ok loaded ∧
        ∃ content, loading.files path = some content ∧ record.expected =
          some (content.data.length, store.digest content.data) := by
  unfold RemoteArtifactStore.loadRecord at ended
  split at ended
  · rename_i expired
    cases ended
    exact .inl ⟨expired, rfl⟩
  · rename_i current
    obtain ⟨_, validated, ended⟩ := Outcome.bind_eq_ok_iff.mp ended
    refine .inr ⟨lt_of_not_ge current, ended, ?_⟩
    unfold validatePersistedData at validated
    split at validated
    · cases validated
    · rename_i content present
      split at validated
      · exact ⟨content, present, by assumption⟩
      · cases validated

/-- Reading an entry leaves the memory alone or keeps an artifact. -/
theorem kept_of_loadEntry {entry : RecordEntry}
    (ended : store.loadEntry now loading entry = .ok loaded) :
    loaded.state = loading.state ∨ Kept loading.state loaded.state := by
  cases entry with
  | temporary artifactId =>
      cases ended
      exact .inl rfl
  | record artifactId =>
      unfold loadEntry at ended
      dsimp only at ended
      split at ended
      · cases ended
      · split at ended
        · obtain ⟨⟨record, expires, path⟩, -, ended⟩ :=
            Outcome.bind_eq_ok_iff.mp ended
          rcases loadRecord_eq_ok ended with ⟨-, rfl⟩ | ⟨-, retained, data⟩
          · exact .inl rfl
          · obtain ⟨content, -, expected⟩ := data
            exact .inr (kept_of_retain (by rw [expected]; rfl) retained)
        · cases ended
        · cases ended

/-- What keeping artifacts keeps holds of the memory of an opened store. -/
theorem good_of_open {listing : List RecordEntry} {files : Files Place Content}
    {room : StoreRoom} {Good : ArtifactState → Prop} (good : Good .empty)
    (keeps : ∀ before after, Good before → Kept before after → Good after)
    (opened : store.open now listing files = .ok room) : Good room.memory := by
  unfold RemoteArtifactStore.open at opened
  split at opened
  · cases opened
  · obtain ⟨loading, loaded, ended⟩ := Outcome.bind_eq_ok_iff.mp opened
    cases ended
    refine Outcome.good_of_foldlM (fun _ loading => Good loading.state) ?_
      [] good loaded
    intro _ entry before after good stepped
    rcases kept_of_loadEntry stepped with same | kept
    · exact same ▸ good
    · exact keeps _ _ good kept

end Artifact
end TaskCage
