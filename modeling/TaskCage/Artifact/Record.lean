import TaskCage.Core.Names
import TaskCage.Core.SystemTime
import TaskCage.Foundation.Filing
import TaskCage.Foundation.OrderedTable
import TaskCage.Foundation.Table
import Mathlib.Data.String.Basic

/-!
# Remote artifacts

What the artifact store of the remote interface keeps: a record of each
artifact in memory, its bytes in one of four directories, and for completed
inputs and managed outputs a record file that survives the daemon.
-/

namespace TaskCage
namespace Artifact

/-! ### Files -/

/-- Where the file of an artifact may be. -/
inductive Slot where
  | staging
  | completed
  | taskInput (taskId : String)
  | output
  | outputTemporary
  | record
deriving DecidableEq

/-- A file of the store.  All files of an artifact have its identifier in their
names. -/
inductive Place where
  | at (artifactId : String) (slot : Slot)
  | recordTemporary (artifactId : String)
deriving DecidableEq

/-! ### Payloads -/

/-- The limits of one principal. -/
structure PrincipalPolicy where
  clientId : ClientId
  artifactUploadAllowed : Bool
  maxPrincipalArtifactBytes : ℕ
  maxPrincipalArtifacts : ℕ

/-- What a client declares about an upload. -/
structure BeginArtifactUploadPayload where
  clientArtifactId : String
  digest : String
  sizeBytes : ℕ
  mediaType : Option String
deriving DecidableEq

/-- A piece of an upload. -/
structure UploadArtifactChunkPayload where
  artifactId : String
  offset : ℕ
  dataBase64 : String
deriving DecidableEq

/-- How far an upload has come. -/
inductive ArtifactUploadState where
  | uploading
  | uploaded
deriving DecidableEq

/-- The answer to a declared upload. -/
structure ArtifactUploadStartedPayload where
  artifactId : String
  state : ArtifactUploadState
  nextOffset : ℕ
deriving DecidableEq

/-- The answer to a piece of an upload. -/
structure ArtifactChunkAcceptedPayload where
  artifactId : String
  nextOffset : ℕ
deriving DecidableEq

/-- The answer to a completed upload. -/
structure ArtifactUploadedPayload where
  artifactId : String
  digest : String
  sizeBytes : ℕ
  expiresAt : String
deriving DecidableEq

/-- The kinds of managed outputs. -/
inductive ManagedOutputKind where
  | managedOutput
deriving DecidableEq

/-- A published output. -/
structure ManagedOutputArtifactPayload where
  kind : ManagedOutputKind
  artifactId : String
  digest : String
  sizeBytes : ℕ
  mediaType : String
  expiresAt : String
deriving DecidableEq

/-- A piece of an output. -/
structure ArtifactChunkPayload where
  artifactId : String
  offset : ℕ
  data : List UInt8
  nextOffset : ℕ
  finished : Bool
deriving DecidableEq

/-- An input that a task may read. -/
structure ManagedInputSnapshot where
  artifactId : String
  path : Place
  digest : String
  sizeBytes : ℕ
  mediaType : Option String
deriving DecidableEq

/-- Errors of the store. -/
inductive RemoteArtifactError where
  | unsafeRoot (reason : String)
  | authorizationDenied
  | limitExceeded
  | quotaExhausted
  | idempotencyConflict
  | invalidUpload (reason : String)
  | digestMismatch
  | notFound
  | inUse
  | clock
  | io (operation : String) (path : Place)
deriving DecidableEq

/-! ### Records -/

/-- The state of an artifact.  Everything but an output has the descriptor of
its upload. -/
inductive StoredArtifactState where
  | uploading (descriptor : BeginArtifactUploadPayload) (path : Place)
      (nextOffset : ℕ)
  | completed (descriptor : BeginArtifactUploadPayload) (path : Place)
      (expires : SystemTime) (uploaded : ArtifactUploadedPayload)
  | taskOwned (descriptor : BeginArtifactUploadPayload) (path : Place)
      (taskId : String) (expires : SystemTime)
      (uploaded : ArtifactUploadedPayload)
  | output (path : Place) (expires : SystemTime)
      (payload : ManagedOutputArtifactPayload)
deriving DecidableEq

/-- The record of an artifact. -/
structure ArtifactRecord where
  principal : String
  state : StoredArtifactState
deriving DecidableEq

/-- What is stored about an artifact that survives the daemon. -/
inductive PersistedArtifactRecord where
  | completedInput (principal : String)
      (descriptor : BeginArtifactUploadPayload) (expiresAtEpochMillis : ℕ)
      (uploaded : ArtifactUploadedPayload)
  | managedOutput (principal : String) (expiresAtEpochMillis : ℕ)
      (payload : ManagedOutputArtifactPayload)
deriving DecidableEq

/-- The content of a file. -/
inductive Content where
  | bytes (data : List UInt8)
  | record (persisted : PersistedArtifactRecord)
deriving DecidableEq

/-- The milliseconds that are stored for an instant. -/
def systemTimeToEpochMillis (time : SystemTime) :
    Except RemoteArtifactError ℕ :=
  match time.epochMillis with
  | some milliseconds => .ok milliseconds
  | none => .error .clock

/-- The instant that was stored. -/
def epochMillisToSystemTime (milliseconds : ℕ) :
    Except RemoteArtifactError SystemTime :=
  match SystemTime.ofEpochMillis milliseconds with
  | some time => .ok time
  | none => .error .clock

namespace ArtifactRecord

/-- The descriptor of the upload; an output has none. -/
def descriptor (record : ArtifactRecord) : Option BeginArtifactUploadPayload :=
  match record.state with
  | .uploading descriptor _ _ => some descriptor
  | .completed descriptor _ _ _ => some descriptor
  | .taskOwned descriptor _ _ _ _ => some descriptor
  | .output _ _ _ => none

/-- The descriptor of an artifact that is being uploaded or completed. -/
def upload (record : ArtifactRecord) :
    Option BeginArtifactUploadPayload :=
  match record.state with
  | .uploading descriptor _ _ => some descriptor
  | .completed descriptor _ _ _ => some descriptor
  | .taskOwned _ _ _ _ _ => none
  | .output _ _ _ => none

/-- The file of an artifact. -/
def path (record : ArtifactRecord) : Place :=
  match record.state with
  | .uploading _ path _ => path
  | .completed _ path _ _ => path
  | .taskOwned _ path _ _ _ => path
  | .output path _ _ => path

/-- What an idempotent request for an upload is answered. -/
def uploadStarted (artifactId : String) (record : ArtifactRecord) :
    Except RemoteArtifactError ArtifactUploadStartedPayload :=
  match record.state with
  | .uploading _ _ nextOffset => .ok ⟨artifactId, .uploading, nextOffset⟩
  | .completed _ _ _ uploaded =>
      .ok ⟨uploaded.artifactId, .uploaded, uploaded.sizeBytes⟩
  | .taskOwned _ _ _ _ _ => .error .inUse
  | .output _ _ _ => .error .notFound

/-- The record file of an artifact. -/
def persisted (record : ArtifactRecord) :
    Except RemoteArtifactError PersistedArtifactRecord := do
  match record.state with
  | .completed descriptor _ expires uploaded =>
      pure (.completedInput record.principal descriptor
        (← systemTimeToEpochMillis expires) uploaded)
  | .output _ expires payload =>
      pure (.managedOutput record.principal
        (← systemTimeToEpochMillis expires) payload)
  | .uploading _ _ _ => .error (.unsafeRoot "persist할 수 없는 Artifact 상태입니다")
  | .taskOwned _ _ _ _ _ => .error (.unsafeRoot "persist할 수 없는 Artifact 상태입니다")

end ArtifactRecord

/-! ### The state in memory -/

/-- What the uploads of a principal take up. -/
structure PrincipalQuota where
  bytes : ℕ
  count : ℕ
deriving DecidableEq

/-- An upload as its client names it. -/
abbrev UploadKey : Type :=
  String × String

/-- The state of the store in memory. -/
structure ArtifactState where
  artifacts : OrderedTable String ArtifactRecord
  uploadKeys : Table UploadKey String
  quotas : Table String PrincipalQuota

/-- An artifact that a task owns. -/
structure TaskInput where
  artifactId : String
  principal : String
  descriptor : BeginArtifactUploadPayload
  path : Place
  expires : SystemTime
  uploaded : ArtifactUploadedPayload
deriving DecidableEq

namespace ArtifactState

/-- Nothing is stored. -/
def empty : ArtifactState where
  artifacts := .empty
  uploadKeys := ∅
  quotas := ∅

/-- The quota of a principal; none means zero. -/
def quota (state : ArtifactState) (principal : String) : PrincipalQuota :=
  (state.quotas.lookup principal).getD ⟨0, 0⟩

/-- The artifacts that have expired, in the order of their identifiers. -/
def expired (state : ArtifactState) (now : SystemTime) :
    List (String × ArtifactRecord) :=
  state.artifacts.entries.filter fun (_, record) =>
    match record.state with
    | .completed _ _ expires _ => expires ≤ now
    | .output _ expires _ => expires ≤ now
    | .uploading _ _ _ => false
    | .taskOwned _ _ _ _ _ => false

/-- The inputs of a task, in the order of their identifiers. -/
def taskInputs (state : ArtifactState) (taskId : String) : List TaskInput :=
  state.artifacts.entries.filterMap fun (artifactId, record) =>
    match record.state with
    | .taskOwned descriptor path owner expires uploaded =>
        if owner = taskId then
          some ⟨artifactId, record.principal, descriptor, path, expires,
            uploaded⟩
        else
          none
    | .uploading _ _ _ => none
    | .completed _ _ _ _ => none
    | .output _ _ _ => none

/-- Set the quota of a principal. -/
def setQuota (state : ArtifactState) (principal : String)
    (quota : PrincipalQuota) : ArtifactState :=
  { state with quotas := state.quotas.insert principal quota }

/-- Give back what one upload took up. -/
def releaseQuota (state : ArtifactState) (principal : String) (bytes : ℕ) :
    ArtifactState :=
  match state.quotas.lookup principal with
  | none => state
  | some quota =>
      if quota.count - 1 = 0 then
        { state with quotas := state.quotas.erase principal }
      else
        state.setQuota principal ⟨quota.bytes - bytes, quota.count - 1⟩

/-- Set the record of an artifact. -/
def setRecord (state : ArtifactState) (artifactId : String)
    (record : ArtifactRecord) : ArtifactState :=
  { state with artifacts := state.artifacts.insert artifactId record }

/-- Forget an artifact. -/
def removeRecord (state : ArtifactState) (artifactId : String) :
    ArtifactState :=
  { state with artifacts := state.artifacts.erase artifactId }

/-- Set what an upload key stands for. -/
def setKey (state : ArtifactState) (key : UploadKey) (artifactId : String) :
    ArtifactState :=
  { state with uploadKeys := state.uploadKeys.insert key artifactId }

/-- Forget an upload key. -/
def removeKey (state : ArtifactState) (key : UploadKey) : ArtifactState :=
  { state with uploadKeys := state.uploadKeys.erase key }

/-- Give back the key and the quota of an upload. -/
def releaseUpload (state : ArtifactState) (principal : String)
    (descriptor : BeginArtifactUploadPayload) : ArtifactState :=
  (state.removeKey (principal, descriptor.clientArtifactId)).releaseQuota
    principal descriptor.sizeBytes

/-- Forget an artifact, its upload key and its quota. -/
def discard (state : ArtifactState) (artifactId : String)
    (record : ArtifactRecord) : ArtifactState :=
  match record.descriptor with
  | some descriptor =>
      (state.removeRecord artifactId).releaseUpload record.principal descriptor
  | none => state.removeRecord artifactId

/-! ### What each update touches -/

variable (state : ArtifactState) (principal artifactId : String)
variable (record : ArtifactRecord) (key : UploadKey)

@[simp] theorem artifacts_setQuota (quota : PrincipalQuota) :
    (state.setQuota principal quota).artifacts = state.artifacts :=
  rfl

@[simp] theorem uploadKeys_setQuota (quota : PrincipalQuota) :
    (state.setQuota principal quota).uploadKeys = state.uploadKeys :=
  rfl

@[simp] theorem artifacts_setRecord :
    (state.setRecord artifactId record).artifacts =
      state.artifacts.insert artifactId record :=
  rfl

@[simp] theorem uploadKeys_setRecord :
    (state.setRecord artifactId record).uploadKeys = state.uploadKeys :=
  rfl

@[simp] theorem quota_setRecord :
    (state.setRecord artifactId record).quota = state.quota :=
  rfl

@[simp] theorem artifacts_removeRecord :
    (state.removeRecord artifactId).artifacts =
      state.artifacts.erase artifactId :=
  rfl

@[simp] theorem uploadKeys_removeRecord :
    (state.removeRecord artifactId).uploadKeys = state.uploadKeys :=
  rfl

@[simp] theorem quota_removeRecord :
    (state.removeRecord artifactId).quota = state.quota :=
  rfl

@[simp] theorem artifacts_setKey :
    (state.setKey key artifactId).artifacts = state.artifacts :=
  rfl

@[simp] theorem uploadKeys_setKey :
    (state.setKey key artifactId).uploadKeys =
      state.uploadKeys.insert key artifactId :=
  rfl

@[simp] theorem quota_setKey :
    (state.setKey key artifactId).quota = state.quota :=
  rfl

@[simp] theorem artifacts_removeKey :
    (state.removeKey key).artifacts = state.artifacts :=
  rfl

@[simp] theorem uploadKeys_removeKey :
    (state.removeKey key).uploadKeys = state.uploadKeys.erase key :=
  rfl

@[simp] theorem quota_removeKey :
    (state.removeKey key).quota = state.quota :=
  rfl

@[simp] theorem artifacts_releaseQuota (bytes : ℕ) :
    (state.releaseQuota principal bytes).artifacts = state.artifacts := by
  unfold releaseQuota
  split
  · rfl
  · split <;> rfl

@[simp] theorem uploadKeys_releaseQuota (bytes : ℕ) :
    (state.releaseQuota principal bytes).uploadKeys = state.uploadKeys := by
  unfold releaseQuota
  split
  · rfl
  · split <;> rfl

@[simp] theorem artifacts_releaseUpload
    (descriptor : BeginArtifactUploadPayload) :
    (state.releaseUpload principal descriptor).artifacts = state.artifacts := by
  simp [releaseUpload]

@[simp] theorem uploadKeys_releaseUpload
    (descriptor : BeginArtifactUploadPayload) :
    (state.releaseUpload principal descriptor).uploadKeys =
      state.uploadKeys.erase (principal, descriptor.clientArtifactId) := by
  simp [releaseUpload]

@[simp] theorem artifacts_discard :
    (state.discard artifactId record).artifacts =
      state.artifacts.erase artifactId := by
  unfold discard
  split <;> simp

theorem quota_setQuota (other : String) (quota : PrincipalQuota) :
    (state.setQuota principal quota).quota other =
      if other = principal then quota else state.quota other := by
  unfold ArtifactState.quota setQuota
  rw [Table.lookup_insert_eq_ite]
  split <;> rfl

end ArtifactState
end Artifact
end TaskCage
