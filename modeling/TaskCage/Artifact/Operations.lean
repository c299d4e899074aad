import TaskCage.Artifact.Record

/-!
# Operations of the artifact store

The store holds one lock during an operation, so an operation is code that runs
alone on the memory and the files of the store.  The clock readings of an
operation and the identifier it may draw are its arguments.
-/

namespace TaskCage
namespace Artifact

open Filing

/-- Addition of 64-bit numbers that fails on overflow. -/
def checkedAdd (left right : ℕ) : Option ℕ :=
  if left + right < 2 ^ 64 then some (left + right) else none

theorem checkedAdd_eq_some_iff {left right sum : ℕ} :
    checkedAdd left right = some sum ↔
      left + right < 2 ^ 64 ∧ left + right = sum := by
  unfold checkedAdd
  split <;> simp_all

theorem checkedAdd_eq_none_iff {left right : ℕ} :
    checkedAdd left right = none ↔ 2 ^ 64 ≤ left + right := by
  unfold checkedAdd
  split <;> simp_all

/-- The configuration of a store, with the hash function, the rendering of
instants and the decoding of base64 texts that it uses. -/
structure RemoteArtifactStore where
  maxArtifactBytes : ℕ
  maxChunkBytes : ℕ
  retention : ℕ
  digest : List UInt8 → String
  formatTimestamp : SystemTime → Option String
  decodeBase64 : String → Option (List UInt8)

/-- Code of the store. -/
abbrev StoreCode (Result : Type) : Type :=
  Filing Place Content ArtifactState RemoteArtifactError Result

/-- The world of the store. -/
abbrev StoreRoom : Type :=
  Room Place Content ArtifactState

/-- The bytes of a data file; record files are not read as data. -/
def Content.data : Content → List UInt8
  | bytes data => data
  | record _ => []

/-- The error of a failed call. -/
def ioError {Result : Type} (operation : String) (path : Place)
    (code : Filing Place Content ArtifactState IoError Result) :
    StoreCode Result :=
  mapError (fun _ => .io operation path) code

/-! ### Files -/

/-- Remove a file, unless there is none. -/
def removeFileIfPresent (path : Place) : StoreCode Unit := do
  match ← attempt (remove path) with
  | .ok () => pure ()
  | .error .notFound => pure ()
  | .error _ => throw (.io "remove Artifact" path)

/-- The part of `writePersistedRecord` that uses the temporary file. -/
def publishRecord (artifactId : String)
    (persisted : PersistedArtifactRecord) : StoreCode Unit := do
  ioError "create Artifact record" (.recordTemporary artifactId)
    (create (.recordTemporary artifactId) (.bytes []))
  ioError "write Artifact record" (.recordTemporary artifactId)
    (write (.recordTemporary artifactId) (fun _ => .record persisted)
      fun _ content => content)
  ioError "publish Artifact record" (.at artifactId .record)
    (rename (.recordTemporary artifactId) (.at artifactId .record))

/-- Write the record file of an artifact. -/
def writePersistedRecord (artifactId : String)
    (persisted : PersistedArtifactRecord) : StoreCode Unit := do
  removeFileIfPresent (.recordTemporary artifactId)
  onError (publishRecord artifactId persisted)
    (ignoring (remove (.recordTemporary artifactId)))

/-- Remove the record file of an artifact. -/
def removePersistedRecord (artifactId : String) : StoreCode Unit :=
  removeFileIfPresent (.at artifactId .record)

namespace RemoteArtifactStore

/-- Compare a part of a file. -/
def fileRangeMatches (path : Place) (offset : ℕ) (expected : List UInt8) :
    StoreCode Bool := do
  let content ← ioError "open upload retry range" path (read path)
  let actual := (content.data.drop offset).take expected.length
  if actual.length = expected.length then
    pure (actual = expected)
  else
    throw (.io "read upload retry range" path)

/-- The digest of a file. -/
def digestFile (store : RemoteArtifactStore) (path : Place) :
    StoreCode String := do
  let content ← ioError "open Artifact for digest" path (read path)
  pure (store.digest content.data)

/-- When an artifact that is stored now expires. -/
def expiry (store : RemoteArtifactStore) (now : SystemTime) :
    Except RemoteArtifactError SystemTime :=
  match now.checkedAdd store.retention with
  | some expires => .ok expires
  | none => .error .clock

/-- An instant as text. -/
def timestamp (store : RemoteArtifactStore) (time : SystemTime) :
    Except RemoteArtifactError String :=
  match store.formatTimestamp time with
  | some text => .ok text
  | none => .error .clock

/-! ### Expiry and removal -/

/-- Remove the file of an artifact; if that fails, put its record file back. -/
def removeData (artifactId : String) (path : Place)
    (persisted : Option PersistedArtifactRecord) : StoreCode Unit :=
  onError (removeFileIfPresent path)
    (match persisted with
    | some persisted => ignoring (writePersistedRecord artifactId persisted)
    | none => pure ())

/-- Remove one artifact that has expired. -/
def purgeOne (artifactId : String) (record : ArtifactRecord) :
    StoreCode Unit := do
  let persisted ← ofExcept record.persisted
  removePersistedRecord artifactId
  removeData artifactId record.path (some persisted)
  modify fun state => state.discard artifactId record

/-- Remove the artifacts that have expired. -/
def purgeExpired (now : SystemTime) : StoreCode Unit := do
  let state ← memory
  forEach (state.expired now) fun (artifactId, record) =>
    purgeOne artifactId record

/-- The record file of an artifact that is removed on request. -/
def persistedUpload (record : ArtifactRecord) :
    Except RemoteArtifactError (Option PersistedArtifactRecord) :=
  match record.state with
  | .completed _ _ _ _ => record.persisted.map some
  | _ => .ok none

/-- Remove the record file of an artifact that has one. -/
def withdrawRecord (artifactId : String) :
    Option PersistedArtifactRecord → StoreCode Unit
  | some _ => removePersistedRecord artifactId
  | none => pure ()

/-- Remove an upload. -/
def removeUpload (artifactId : String) (record : ArtifactRecord) :
    StoreCode Unit := do
  let persisted ← ofExcept (persistedUpload record)
  withdrawRecord artifactId persisted
  removeData artifactId record.path persisted
  modify fun state => state.discard artifactId record

/-! ### Uploads -/

/-- The record of an artifact of a principal. -/
def ownedRecord (principal artifactId : String) : StoreCode ArtifactRecord := do
  let state ← memory
  match state.artifacts.lookup artifactId with
  | none => throw .notFound
  | some record =>
      if record.principal = principal then pure record else throw .notFound

/-- Check what a client declares about an upload. -/
def validateDescriptor (store : RemoteArtifactStore)
    (policy : PrincipalPolicy) (descriptor : BeginArtifactUploadPayload) :
    Except RemoteArtifactError Unit :=
  if Names.isUuid descriptor.clientArtifactId = false ∨
      Names.validDigest descriptor.digest = false ∨ descriptor.sizeBytes = 0 ∨
      descriptor.mediaType = some "" then
    .error (.invalidUpload "upload descriptor가 잘못되었습니다")
  else if store.maxArtifactBytes < descriptor.sizeBytes ∨
      policy.maxPrincipalArtifactBytes < descriptor.sizeBytes then
    .error .limitExceeded
  else
    .ok ()

/-- The quota of a principal with one more upload. -/
def reserveQuota (policy : PrincipalPolicy) (quota : PrincipalQuota)
    (sizeBytes : ℕ) : Except RemoteArtifactError PrincipalQuota :=
  match checkedAdd quota.count 1, checkedAdd quota.bytes sizeBytes with
  | some count, some bytes =>
      if policy.maxPrincipalArtifacts < count ∨
          policy.maxPrincipalArtifactBytes < bytes then
        .error .quotaExhausted
      else
        .ok ⟨bytes, count⟩
  | _, _ => .error .quotaExhausted

/-- The upload that a key already stands for. -/
def existingUpload (key : UploadKey) (state : ArtifactState) :
    Option (String × ArtifactRecord) := do
  let artifactId ← state.uploadKeys.lookup key
  let record ← state.artifacts.lookup artifactId
  pure (artifactId, record)

/-- The record of a new upload. -/
def newUpload (policy : PrincipalPolicy)
    (descriptor : BeginArtifactUploadPayload) (artifactId : String) :
    ArtifactRecord where
  principal := policy.clientId
  state := .uploading descriptor (.at artifactId .staging) 0

/-- The part of `beginUpload` that makes a new upload. -/
def createUpload (store : RemoteArtifactStore) (drawn : Uuid)
    (policy : PrincipalPolicy) (descriptor : BeginArtifactUploadPayload) :
    StoreCode ArtifactUploadStartedPayload := do
  ofExcept (if policy.artifactUploadAllowed then .ok ()
    else .error .authorizationDenied)
  ofExcept (store.validateDescriptor policy descriptor)
  modify fun state =>
    state.setQuota policy.clientId (state.quota policy.clientId)
  let state ← memory
  let quota ← ofExcept (reserveQuota policy (state.quota policy.clientId)
    descriptor.sizeBytes)
  ioError "create upload staging" (.at drawn .staging)
    (create (.at drawn .staging) (.bytes []))
  modify fun state =>
    ((state.setQuota policy.clientId quota).setKey
      (policy.clientId, descriptor.clientArtifactId) drawn).setRecord drawn
        (newUpload policy descriptor drawn)
  pure ⟨drawn, .uploading, 0⟩

/-- Answer a request whose key is in use. -/
def answerExisting (descriptor : BeginArtifactUploadPayload)
    (artifactId : String) (record : ArtifactRecord) :
    Except RemoteArtifactError ArtifactUploadStartedPayload :=
  if record.descriptor = some descriptor then
    record.uploadStarted artifactId
  else
    .error .idempotencyConflict

/-- Declare an upload. -/
def beginUpload (store : RemoteArtifactStore) (now : SystemTime)
    (drawn : Uuid) (policy : PrincipalPolicy)
    (descriptor : BeginArtifactUploadPayload) :
    StoreCode ArtifactUploadStartedPayload := do
  purgeExpired now
  let state ← memory
  match existingUpload (policy.clientId, descriptor.clientArtifactId) state with
  | some (artifactId, record) =>
      ofExcept (answerExisting descriptor artifactId record)
  | none => store.createUpload drawn policy descriptor

/-- Write the next piece of an upload. -/
def appendChunk (artifactId : String) (record : ArtifactRecord)
    (descriptor : BeginArtifactUploadPayload) (path : Place)
    (bytes : List UInt8) (next : ℕ) :
    StoreCode ArtifactChunkAcceptedPayload := do
  ioError "open upload staging" path (openAppend path)
  ioError "append upload chunk" path
    (write path (fun content => .bytes (content.data ++ bytes))
      fun written content => .bytes (content.data ++ bytes.take written))
  modify fun state => state.setRecord artifactId
    { record with state := .uploading descriptor path next }
  pure ⟨artifactId, next⟩

/-- A piece of an upload that was sent before. -/
def repeatChunk (artifactId : String) (path : Place) (offset : ℕ)
    (bytes : List UInt8) (last nextOffset : ℕ) :
    StoreCode ArtifactChunkAcceptedPayload := do
  let same ← if nextOffset < last then pure false
    else fileRangeMatches path offset bytes
  if same then
    pure ⟨artifactId, nextOffset⟩
  else
    throw (.invalidUpload "재시도 chunk가 저장된 bytes와 다릅니다")

/-- Take a piece of an upload. -/
def acceptChunk (artifactId : String) (record : ArtifactRecord)
    (descriptor : BeginArtifactUploadPayload) (path : Place)
    (nextOffset offset : ℕ) (bytes : List UInt8) :
    StoreCode ArtifactChunkAcceptedPayload :=
  match checkedAdd offset bytes.length with
  | none => throw (.invalidUpload "chunk offset이 너무 큽니다")
  | some last =>
      if descriptor.sizeBytes < last ∨ nextOffset < offset then
        throw (.invalidUpload "chunk offset 또는 크기가 descriptor와 맞지 않습니다")
      else if offset < nextOffset then
        repeatChunk artifactId path offset bytes last nextOffset
      else
        appendChunk artifactId record descriptor path bytes last

/-- The bytes of a piece of an upload. -/
def decodeChunk (store : RemoteArtifactStore)
    (payload : UploadArtifactChunkPayload) :
    Except RemoteArtifactError (List UInt8) :=
  match store.decodeBase64 payload.dataBase64 with
  | none => .error (.invalidUpload "chunk base64가 잘못되었습니다")
  | some bytes =>
      if bytes = [] ∨ store.maxChunkBytes < bytes.length then
        .error (.invalidUpload "chunk 크기가 허용 범위를 벗어났습니다")
      else
        .ok bytes

/-- Store a piece of an upload. -/
def uploadChunk (store : RemoteArtifactStore) (now : SystemTime)
    (principal : String) (payload : UploadArtifactChunkPayload) :
    StoreCode ArtifactChunkAcceptedPayload := do
  let bytes ← ofExcept (store.decodeChunk payload)
  purgeExpired now
  let record ← ownedRecord principal payload.artifactId
  match record.state with
  | .uploading descriptor path nextOffset =>
      acceptChunk payload.artifactId record descriptor path nextOffset
        payload.offset bytes
  | .completed _ _ _ _ => throw (.invalidUpload "complete 뒤에는 chunk를 쓸 수 없습니다")
  | .taskOwned _ _ _ _ _ =>
      throw (.invalidUpload "complete 뒤에는 chunk를 쓸 수 없습니다")
  | .output _ _ _ => throw .notFound

/-- What a completed upload is answered with. -/
def uploadedPayload (artifactId : String)
    (descriptor : BeginArtifactUploadPayload) (expiresAt : String) :
    ArtifactUploadedPayload where
  artifactId := artifactId
  digest := descriptor.digest
  sizeBytes := descriptor.sizeBytes
  expiresAt := expiresAt

/-- The part of `completeUpload` after the digest was found right. -/
def publishInput (store : RemoteArtifactStore) (now : SystemTime)
    (artifactId : String) (record : ArtifactRecord)
    (descriptor : BeginArtifactUploadPayload) (path : Place) :
    StoreCode ArtifactUploadedPayload := do
  ioError "publish completed input" (.at artifactId .completed)
    (rename path (.at artifactId .completed))
  let expires ← ofExcept (store.expiry now)
  let expiresAt ← ofExcept (store.timestamp expires)
  let milliseconds ← ofExcept (systemTimeToEpochMillis expires)
  let uploaded := uploadedPayload artifactId descriptor expiresAt
  onError
    (writePersistedRecord artifactId
      (.completedInput record.principal descriptor milliseconds uploaded))
    (ignoring (rename (.at artifactId .completed) path))
  modify fun state => state.setRecord artifactId
    { record with state :=
        .completed descriptor (.at artifactId .completed) expires uploaded }
  pure uploaded

/-- Check an upload whose bytes have all arrived, and complete it. -/
def verifyUpload (store : RemoteArtifactStore) (now : SystemTime)
    (artifactId : String) (record : ArtifactRecord)
    (descriptor : BeginArtifactUploadPayload) (path : Place)
    (nextOffset : ℕ) : StoreCode ArtifactUploadedPayload := do
  ofExcept (if nextOffset = descriptor.sizeBytes then .ok () else
    .error (.invalidUpload "declared size만큼 upload되지 않았습니다"))
  let actual ← store.digestFile path
  if actual = descriptor.digest then
    store.publishInput now artifactId record descriptor path
  else do
    removeUpload artifactId record
    throw .digestMismatch

/-- Complete an upload. -/
def completeUpload (store : RemoteArtifactStore) (now later : SystemTime)
    (principal artifactId : String) : StoreCode ArtifactUploadedPayload := do
  purgeExpired now
  let record ← ownedRecord principal artifactId
  match record.state with
  | .completed _ _ _ uploaded => pure uploaded
  | .uploading descriptor path nextOffset =>
      store.verifyUpload later artifactId record descriptor path nextOffset
  | .taskOwned _ _ _ _ _ => throw .inUse
  | .output _ _ _ => throw .notFound

/-- Give an upload up. -/
def abortUpload (now : SystemTime) (principal artifactId : String) :
    StoreCode Unit := do
  purgeExpired now
  let record ← ownedRecord principal artifactId
  match record.state with
  | .taskOwned _ _ _ _ _ => throw .inUse
  | .output _ _ _ => throw .notFound
  | .uploading _ _ _ => removeUpload artifactId record
  | .completed _ _ _ _ => removeUpload artifactId record

/-! ### Inputs of tasks -/

/-- An input on its way to a task. -/
structure InputMove where
  artifactId : String
  source : Place
  destination : Place
  descriptor : BeginArtifactUploadPayload
  expires : SystemTime
  uploaded : ArtifactUploadedPayload
  persisted : PersistedArtifactRecord
deriving DecidableEq

/-- The move of one input. -/
def planMove (state : ArtifactState) (principal taskId artifactId : String) :
    Except RemoteArtifactError InputMove :=
  match state.artifacts.lookup artifactId with
  | none => .error .notFound
  | some record =>
      if record.principal = principal then
        match record.state with
        | .completed descriptor path expires uploaded =>
            record.persisted.map fun persisted =>
              { artifactId
                source := path
                destination := .at artifactId (.taskInput taskId)
                descriptor
                expires
                uploaded
                persisted }
        | .taskOwned _ _ _ _ _ => .error .inUse
        | .uploading _ _ _ => .error .notFound
        | .output _ _ _ => .error .notFound
      else
        .error .notFound

/-- The moves of all inputs, or the first error. -/
def planMoves (state : ArtifactState) (principal taskId : String) :
    List String → Except RemoteArtifactError (List InputMove)
  | [] => .ok []
  | artifactId :: rest => do
      let move ← planMove state principal taskId artifactId
      let moves ← planMoves state principal taskId rest
      pure (move :: moves)

/-- Move files back. -/
def undoRenames (moved : List InputMove) : StoreCode Unit :=
  forEach moved fun move => ignoring (rename move.destination move.source)

/-- Move all files, or none; `moved` are the last moves first. -/
def renameInputs (moved : List InputMove) : List InputMove → StoreCode Unit
  | [] => pure ()
  | move :: rest => do
      onError
        (ioError "transfer task input ownership" move.destination
          (rename move.source move.destination))
        (undoRenames moved)
      renameInputs (move :: moved) rest

/-- Write record files again. -/
def rewriteRecords (removed : List InputMove) : StoreCode Unit :=
  forEach removed fun move =>
    ignoring (writePersistedRecord move.artifactId move.persisted)

/-- Remove all record files, or put everything back. -/
def removeRecords (moved removed : List InputMove) :
    List InputMove → StoreCode Unit
  | [] => pure ()
  | move :: rest => do
      onError (removePersistedRecord move.artifactId) (do
        rewriteRecords removed
        undoRenames moved)
      removeRecords moved (removed ++ [move]) rest

/-- The input now belongs to the task. -/
def transferOne (principal taskId : String) (state : ArtifactState)
    (move : InputMove) : ArtifactState :=
  (state.releaseUpload principal move.descriptor).setRecord move.artifactId
    { principal
      state := .taskOwned move.descriptor move.destination taskId move.expires
        move.uploaded }

/-- What a task is told about an input. -/
def InputMove.snapshot (move : InputMove) : ManagedInputSnapshot where
  artifactId := move.artifactId
  path := move.destination
  digest := move.descriptor.digest
  sizeBytes := move.descriptor.sizeBytes
  mediaType := move.descriptor.mediaType

/-- Check the arguments of a transfer. -/
def checkTransfer (taskId : String) (artifactIds : List String) :
    Except RemoteArtifactError Unit :=
  if Names.isUuid taskId = false then
    .error (.invalidUpload "taskId가 UUID가 아닙니다")
  else if artifactIds.Nodup then
    .ok ()
  else
    .error (.invalidUpload "같은 input Artifact를 두 번 참조할 수 없습니다")

/-- Give completed inputs to a task. -/
def transferInputs (now : SystemTime) (principal taskId : String)
    (artifactIds : List String) : StoreCode (List ManagedInputSnapshot) := do
  ofExcept (checkTransfer taskId artifactIds)
  purgeExpired now
  let state ← memory
  let moves ← ofExcept (planMoves state principal taskId artifactIds)
  renameInputs [] moves
  removeRecords moves.reverse [] moves
  modify fun state => moves.foldl (transferOne principal taskId) state
  pure (moves.map InputMove.snapshot)

/-- What is known about a completed input. -/
def inspectOne (state : ArtifactState) (principal artifactId : String) :
    Except RemoteArtifactError ManagedInputSnapshot :=
  match state.artifacts.lookup artifactId with
  | none => .error .notFound
  | some record =>
      if record.principal = principal then
        match record.state with
        | .completed descriptor path _ _ =>
            .ok ⟨artifactId, path, descriptor.digest, descriptor.sizeBytes,
              descriptor.mediaType⟩
        | .taskOwned _ _ _ _ _ => .error .inUse
        | .uploading _ _ _ => .error .notFound
        | .output _ _ _ => .error .notFound
      else
        .error .notFound

/-- What is known about completed inputs. -/
def inspectCompleted (now : SystemTime) (principal : String)
    (artifactIds : List String) : StoreCode (List ManagedInputSnapshot) := do
  purgeExpired now
  let state ← memory
  ofExcept (artifactIds.mapM (inspectOne state principal))

/-- Take up quota without a look at the limits. -/
def reacquireQuota (principal : String) (sizeBytes : ℕ) : StoreCode Unit := do
  modify fun state => state.setQuota principal (state.quota principal)
  let state ← memory
  let quota := state.quota principal
  let count ← ofExcept (match checkedAdd quota.count 1 with
    | some count => .ok count
    | none => .error .quotaExhausted)
  modify fun state => state.setQuota principal ⟨quota.bytes, count⟩
  let bytes ← ofExcept (match checkedAdd quota.bytes sizeBytes with
    | some bytes => .ok bytes
    | none => .error .quotaExhausted)
  modify fun state => state.setQuota principal ⟨bytes, count⟩

/-- Make an input of a task a completed one again. -/
def restoreOne (input : TaskInput) : StoreCode Unit := do
  ioError "restore completed input" (.at input.artifactId .completed)
    (rename input.path (.at input.artifactId .completed))
  let milliseconds ← ofExcept (systemTimeToEpochMillis input.expires)
  onError
    (writePersistedRecord input.artifactId
      (.completedInput input.principal input.descriptor milliseconds
        input.uploaded))
    (ignoring (rename (.at input.artifactId .completed) input.path))
  reacquireQuota input.principal input.descriptor.sizeBytes
  modify fun state =>
    (state.setKey (input.principal, input.descriptor.clientArtifactId)
      input.artifactId).setRecord input.artifactId
        { principal := input.principal
          state := .completed input.descriptor
            (.at input.artifactId .completed) input.expires input.uploaded }

/-- Give the inputs of a rejected task back. -/
def restoreTaskInputs (taskId : String) : StoreCode Unit := do
  let state ← memory
  forEach (state.taskInputs taskId) restoreOne

/-- Remove an input of a task. -/
def cleanupOne (input : TaskInput) : StoreCode Unit := do
  modify fun state => state.removeRecord input.artifactId
  removeFileIfPresent input.path

/-- Remove the inputs of a task that has ended. -/
def cleanupTaskInputs (taskId : String) : StoreCode Unit := do
  let state ← memory
  forEach (state.taskInputs taskId) cleanupOne

/-! ### Outputs -/

/-- Copy an output into the store. -/
def copyOutput (artifactId : String) (source : List UInt8) :
    StoreCode Unit := do
  ioError "create managed output staging" (.at artifactId .outputTemporary)
    (create (.at artifactId .outputTemporary) (.bytes []))
  ioError "copy managed output" (.at artifactId .outputTemporary)
    (write (.at artifactId .outputTemporary) (fun _ => .bytes source)
      fun written _ => .bytes (source.take written))

/-- What a published output is answered with. -/
def outputPayload (artifactId digest : String) (sizeBytes : ℕ)
    (mediaType expiresAt : String) : ManagedOutputArtifactPayload where
  kind := .managedOutput
  artifactId := artifactId
  digest := digest
  sizeBytes := sizeBytes
  mediaType := mediaType
  expiresAt := expiresAt

/-- The part of `publishOutputFile` after the bytes were found right. -/
def publishOutput (store : RemoteArtifactStore) (now : SystemTime)
    (artifactId : String) (principal : ClientId) (digest : String)
    (sizeBytes : ℕ) (mediaType : String) :
    StoreCode ManagedOutputArtifactPayload := do
  ioError "publish managed output" (.at artifactId .output)
    (rename (.at artifactId .outputTemporary) (.at artifactId .output))
  let expires ← ofExcept (store.expiry now)
  let expiresAt ← ofExcept (store.timestamp expires)
  let milliseconds ← ofExcept (systemTimeToEpochMillis expires)
  let payload := outputPayload artifactId digest sizeBytes mediaType expiresAt
  onError
    (writePersistedRecord artifactId
      (.managedOutput principal milliseconds payload))
    (ignoring (remove (.at artifactId .output)))
  modify fun state => state.setRecord artifactId
    { principal := principal
      state := .output (.at artifactId .output) expires payload }
  pure payload

/-- Publish the output of a task. -/
def publishOutputFile (store : RemoteArtifactStore) (now : SystemTime)
    (drawn : Uuid) (principal : ClientId) (source : List UInt8)
    (digest : String) (sizeBytes : ℕ) (mediaType : String) :
    StoreCode ManagedOutputArtifactPayload := do
  ofExcept (if Names.validDigest digest = false ∨ sizeBytes = 0 ∨
      mediaType = "" then
    .error (.invalidUpload "output descriptor가 잘못되었습니다")
    else .ok ())
  onError (copyOutput drawn source)
    (ignoring (remove (.at drawn .outputTemporary)))
  let stat ← ioError "stat managed output" (.at drawn .outputTemporary)
    (read (.at drawn .outputTemporary))
  let actual ← store.digestFile (.at drawn .outputTemporary)
  if stat.data.length = sizeBytes ∧ actual = digest then
    store.publishOutput now drawn principal digest sizeBytes mediaType
  else do
    ignoring (remove (.at drawn .outputTemporary))
    throw .digestMismatch

/-- The piece of an output that is sent. -/
def outputChunk (artifactId : String) (offset : ℕ) (sizeBytes : ℕ)
    (bytes : List UInt8) : ArtifactChunkPayload where
  artifactId := artifactId
  offset := offset
  data := bytes
  nextOffset := offset + bytes.length
  finished := offset + bytes.length = sizeBytes

/-- Read a piece of an output. -/
def readOutputChunk (store : RemoteArtifactStore) (now : SystemTime)
    (principal artifactId : String) (offset maxBytes : ℕ) :
    StoreCode ArtifactChunkPayload := do
  ofExcept (if maxBytes = 0 ∨ store.maxChunkBytes < maxBytes then
    .error (.invalidUpload "maxBytes가 허용 범위를 벗어났습니다") else .ok ())
  purgeExpired now
  let record ← ownedRecord principal artifactId
  match record.state with
  | .output path _ payload => do
      ofExcept (if payload.sizeBytes < offset then
        .error (.invalidUpload "output offset이 Artifact 크기를 초과합니다")
        else .ok ())
      let content ← ioError "open managed output" path (read path)
      let size := min (payload.sizeBytes - offset) maxBytes
      let bytes := (content.data.drop offset).take size
      if bytes.length = size then
        pure (outputChunk artifactId offset payload.sizeBytes bytes)
      else
        throw (.io "read managed output" path)
  | .uploading _ _ _ => throw .notFound
  | .completed _ _ _ _ => throw .notFound
  | .taskOwned _ _ _ _ _ => throw .notFound

/-! ### Requests -/

/-- A request to the store. -/
inductive Operation where
  | beginUpload (policy : PrincipalPolicy)
      (descriptor : BeginArtifactUploadPayload)
  | uploadChunk (principal : String) (payload : UploadArtifactChunkPayload)
  | completeUpload (principal artifactId : String)
  | abortUpload (principal artifactId : String)
  | transferInputs (principal taskId : String) (artifactIds : List String)
  | inspectCompleted (principal : String) (artifactIds : List String)
  | restoreTaskInputs (taskId : String)
  | cleanupTaskInputs (taskId : String)
  | publishOutputFile (principal : ClientId) (source : List UInt8)
      (digest : String) (sizeBytes : ℕ) (mediaType : String)
  | readOutputChunk (principal artifactId : String) (offset maxBytes : ℕ)

/-- Whether an identifier is drawn for the request. -/
def Operation.draws : Operation → Bool
  | .beginUpload _ _ => true
  | .publishOutputFile _ _ _ _ _ => true
  | _ => false

/-- Whether the request comes from a client; the others come from the backend
that runs the tasks. -/
def Operation.ofClient : Operation → Bool
  | .beginUpload _ _ => true
  | .uploadChunk _ _ => true
  | .completeUpload _ _ => true
  | .abortUpload _ _ => true
  | .readOutputChunk _ _ _ _ => true
  | .transferInputs _ _ _ => false
  | .inspectCompleted _ _ => false
  | .restoreTaskInputs _ => false
  | .cleanupTaskInputs _ => false
  | .publishOutputFile _ _ _ _ _ => false

/-- The answer to a request. -/
inductive Reply where
  | started (payload : ArtifactUploadStartedPayload)
  | accepted (payload : ArtifactChunkAcceptedPayload)
  | uploaded (payload : ArtifactUploadedPayload)
  | inputs (snapshots : List ManagedInputSnapshot)
  | done
  | published (payload : ManagedOutputArtifactPayload)
  | chunk (payload : ArtifactChunkPayload)
deriving DecidableEq

/-- A request with what the daemon meets while it serves it: two readings of
the clock and the identifier that it draws. -/
structure Turn where
  operation : Operation
  now : SystemTime
  later : SystemTime
  drawn : Uuid

/-- Code with a reply as its result. -/
def replying {Result : Type} (reply : Result → Reply)
    (code : StoreCode Result) : StoreCode Reply := do
  let result ← code
  pure (reply result)

/-- Serve a request. -/
def serve (store : RemoteArtifactStore) (turn : Turn) : StoreCode Reply :=
  match turn.operation with
  | .beginUpload policy descriptor =>
      replying .started
        (store.beginUpload turn.now turn.drawn policy descriptor)
  | .uploadChunk principal payload =>
      replying .accepted (store.uploadChunk turn.now principal payload)
  | .completeUpload principal artifactId =>
      replying .uploaded
        (store.completeUpload turn.now turn.later principal artifactId)
  | .abortUpload principal artifactId =>
      replying (fun _ => .done) (abortUpload turn.now principal artifactId)
  | .transferInputs principal taskId artifactIds =>
      replying .inputs (transferInputs turn.now principal taskId artifactIds)
  | .inspectCompleted principal artifactIds =>
      replying .inputs (inspectCompleted turn.now principal artifactIds)
  | .restoreTaskInputs taskId =>
      replying (fun _ => .done) (restoreTaskInputs taskId)
  | .cleanupTaskInputs taskId =>
      replying (fun _ => .done) (cleanupTaskInputs taskId)
  | .publishOutputFile principal source digest sizeBytes mediaType =>
      replying .published (store.publishOutputFile turn.later turn.drawn
        principal source digest sizeBytes mediaType)
  | .readOutputChunk principal artifactId offset maxBytes =>
      replying .chunk
        (store.readOutputChunk turn.now principal artifactId offset maxBytes)

end RemoteArtifactStore
end Artifact
end TaskCage
