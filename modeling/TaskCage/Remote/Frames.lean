import TaskCage.Artifact.Serving
import TaskCage.Foundation.Base64

/-!
# Chunks and frames

A chunk of an artifact travels as a base64 text inside of a JSON frame, and
frames have a largest size.  The configuration is checked against the frame of
an upload; the frame of a download has other fields.
-/

namespace TaskCage
namespace Remote

open Artifact Json Filing

/-- The version of the Remote protocol. -/
def remoteProtocolVersion : ℕ :=
  1

/-- The largest frame of the Remote protocol. -/
def remoteMaxFrameBytes : ℕ :=
  1048576

/-! ### Messages -/

/-- A request; its fields come in the order of their declaration. -/
def requestEnvelope (type requestId : String) (payload : Json) : Json :=
  .object
    [("type", .string type),
      ("remoteProtocolVersion", .number remoteProtocolVersion),
      ("requestId", .string requestId),
      ("payload", payload)]

/-- A response; it is written from a map, so its fields are ordered by name. -/
def responseEnvelope (type requestId : String) (payload : Json) : Json :=
  .object
    [("payload", payload),
      ("remoteProtocolVersion", .number remoteProtocolVersion),
      ("requestId", .string requestId),
      ("type", .string type)]

/-- The request that carries a chunk of an upload. -/
def uploadArtifactChunk (requestId : String)
    (payload : UploadArtifactChunkPayload) : Json :=
  requestEnvelope "uploadArtifactChunk" requestId
    (.object
      [("artifactId", .string payload.artifactId),
        ("offset", .number payload.offset),
        ("dataBase64", .string payload.dataBase64)])

/-- The response that carries a chunk of an output. -/
def artifactChunk (requestId : String) (payload : ArtifactChunkPayload) :
    Json :=
  responseEnvelope "artifactChunk" requestId
    (.object
      [("artifactId", .string payload.artifactId),
        ("dataBase64", .string (String.ofList (Base64.encode payload.data))),
        ("finished", .bool payload.finished),
        ("nextOffset", .number payload.nextOffset),
        ("offset", .number payload.offset)])

/-! ### The check of the configuration -/

/-- The identifier that stands for all of them in the check. -/
def longestUuid : String :=
  "ffffffff-ffff-ffff-ffff-ffffffffffff"

/-- Multiplication of 64-bit numbers that fails on overflow. -/
def checkedMul (left right : ℕ) : Option ℕ :=
  if left * right < 2 ^ 64 then some (left * right) else none

/-- The length of the base64 text of so many bytes. -/
def base64Bytes (rawBytes : ℕ) : Option ℕ :=
  (checkedAdd rawBytes 2).bind fun bytes => checkedMul (bytes / 3) 4

/-- The largest frame of an upload of so many bytes. -/
def uploadChunkFrameBytes (rawBytes : ℕ) : Except String ℕ :=
  match base64Bytes rawBytes with
  | none => .error "maxArtifactChunkBytes가 너무 큽니다"
  | some encoded =>
      match checkedAdd
        (uploadArtifactChunk longestUuid
          ⟨longestUuid, 2 ^ 64 - 1, ""⟩).size encoded with
      | none => .error "maxArtifactChunkBytes frame이 너무 큽니다"
      | some bytes => .ok bytes

/-- The part of `build` that checks the size of chunks. -/
def maxArtifactChunkBytes (configured : ℕ) : Except String ℕ :=
  if configured = 0 then
    .error "maxArtifactChunkBytes 값은 0보다 커야 합니다"
  else
    match uploadChunkFrameBytes configured with
    | .error error => .error error
    | .ok frame =>
        if remoteMaxFrameBytes < frame then
          .error "maxArtifactChunkBytes의 base64 값은 Remote frame에 들어가야 합니다"
        else
          .ok configured

/-! ### Sizes of messages -/

theorem plain_of_isHexDigit {char : Char}
    (digit : Names.isHexDigit char = true) : Plain char := by
  have ascii : char.toNat < 128 := by
    simp only [Names.isHexDigit, Char.isDigit, Bool.or_eq_true,
      Bool.and_eq_true, decide_eq_true_eq, Char.le_def,
      UInt32.le_iff_toNat_le] at digit
    have code : char.val.toNat = char.toNat := rfl
    simp only [code] at digit
    rcases digit with (⟨-, below⟩ | ⟨-, below⟩) | ⟨-, below⟩
    all_goals exact Nat.lt_of_le_of_lt below (by decide)
  exact forall_ascii
    (fun char => Names.isHexDigit char = true →
      char.utf8Size = 1 ∧ escapeChar char = [char])
    (by decide) char ascii digit

/-- An identifier has 36 plain characters. -/
theorem byteLength_uuid {value : String}
    (uuid : Names.isUuid value = true) :
    byteLength (renderString value) = 38 := by
  unfold Names.isUuid at uuid
  simp only [Bool.and_eq_true, decide_eq_true_eq, List.all_eq_true] at uuid
  obtain ⟨length, checked⟩ := uuid
  rw [byteLength_renderString_of_plain, length]
  intro char member
  obtain ⟨index, bound, rfl⟩ := List.mem_iff_getElem.mp member
  have here := checked (value.toList[index], index)
    (List.mem_zipIdx_iff_getElem?.mpr (List.getElem?_eq_getElem bound))
  dsimp only at here
  split at here
  · rw [decide_eq_true_eq] at here
    rw [here]
    exact ⟨by decide, by decide⟩
  · exact plain_of_isHexDigit here

theorem byteLength_base64 (bytes : List UInt8) :
    byteLength (renderString (String.ofList (Base64.encode bytes))) =
      4 * ((bytes.length + 2) / 3) + 2 := by
  rw [byteLength_renderString_of_plain]
  · rw [String.toList_ofList, Base64.length_encode]
  · intro char member
    rw [String.toList_ofList] at member
    exact Base64.plain_of_mem_encode member

/-- The names of the fields, and the texts that are always the same. -/
theorem byteLength_names :
    byteLength (renderString "type") = 6 ∧
      byteLength (renderString "remoteProtocolVersion") = 23 ∧
      byteLength (renderString "requestId") = 11 ∧
      byteLength (renderString "payload") = 9 ∧
      byteLength (renderString "artifactId") = 12 ∧
      byteLength (renderString "offset") = 8 ∧
      byteLength (renderString "nextOffset") = 12 ∧
      byteLength (renderString "finished") = 10 ∧
      byteLength (renderString "dataBase64") = 12 ∧
      byteLength (renderString "uploadArtifactChunk") = 21 ∧
      byteLength (renderString "artifactChunk") = 15 ∧
      digits remoteProtocolVersion = 1 := by
  decide

theorem size_uploadArtifactChunk {requestId artifactId dataBase64 : String}
    {offset : ℕ} (request : Names.isUuid requestId = true)
    (artifact : Names.isUuid artifactId = true) :
    (uploadArtifactChunk requestId ⟨artifactId, offset, dataBase64⟩).size =
      195 + digits offset + byteLength (renderString dataBase64) := by
  obtain ⟨type, version, id, body, artifactName, offsetName, -, -, data, kind,
    -, number⟩ := byteLength_names
  simp only [uploadArtifactChunk, requestEnvelope, Json.size, render,
    renderMembers, byteLength_cons, byteLength_append, byteLength_nil,
    utf8Size_openBrace, utf8Size_closeBrace, utf8Size_colon, utf8Size_comma,
    type, version, id, body, artifactName, offsetName, data, kind,
    renderInt_natCast, number, byteLength_uuid request,
    byteLength_uuid artifact, byteLength_renderNat]
  generalize digits offset = places
  generalize byteLength (renderString dataBase64) = encoded
  clear type version id body artifactName offsetName data kind number
  simp +arith only

theorem size_artifactChunk {requestId : String}
    {payload : ArtifactChunkPayload}
    (request : Names.isUuid requestId = true)
    (artifact : Names.isUuid payload.artifactId = true) :
    (artifactChunk requestId payload).size =
      4 * ((payload.data.length + 2) / 3) + digits payload.offset +
        digits payload.nextOffset +
        if payload.finished then 221 else 222 := by
  obtain ⟨type, version, id, body, artifactId, offset, next, finished, data,
    -, kind, number⟩ := byteLength_names
  have flag : byteLength (Json.bool payload.finished).render =
      if payload.finished then 4 else 5 := by
    cases payload.finished with
    | true => decide
    | false => decide
  simp only [artifactChunk, responseEnvelope, Json.size, render,
    renderMembers, byteLength_cons, byteLength_append, byteLength_nil,
    utf8Size_openBrace, utf8Size_closeBrace, utf8Size_colon, utf8Size_comma,
    type, version, id, body, artifactId, offset, next, finished, data, kind,
    flag, renderInt_natCast, number, byteLength_uuid request,
    byteLength_uuid artifact, byteLength_base64, byteLength_renderNat]
  clear type version id body artifactId offset next finished data kind flag
  clear number
  split <;> omega

theorem isUuid_longestUuid : Names.isUuid longestUuid = true := by
  decide

/-- The check measures the frame of an upload with the longest offset. -/
theorem frame_of_maxArtifactChunkBytes {configured limit : ℕ}
    (accepted : maxArtifactChunkBytes configured = .ok limit) :
    limit = configured ∧
      217 + 4 * ((configured + 2) / 3) ≤ remoteMaxFrameBytes := by
  have envelope : (uploadArtifactChunk longestUuid
      ⟨longestUuid, 2 ^ 64 - 1, ""⟩).size = 217 := by
    rw [size_uploadArtifactChunk isUuid_longestUuid isUuid_longestUuid]
    decide
  unfold maxArtifactChunkBytes at accepted
  split at accepted
  · cases accepted
  · unfold uploadChunkFrameBytes base64Bytes at accepted
    rw [envelope] at accepted
    split at accepted
    · cases accepted
    · rename_i frame measured
      split at accepted
      · cases accepted
      · rename_i fits
        cases accepted
        split at measured
        · cases measured
        · rename_i encoded counted
          split at measured
          · cases measured
          · rename_i bytes added
            cases measured
            obtain ⟨padded, sum, product⟩ := Option.bind_eq_some_iff.mp counted
            obtain ⟨-, rfl⟩ := checkedAdd_eq_some_iff.mp sum
            obtain ⟨-, rfl⟩ := checkedAdd_eq_some_iff.mp added
            unfold checkedMul at product
            split at product
            · cases product
              refine ⟨rfl, ?_⟩
              omega
            · cases product

/-! ### What is read -/

/-- A purge and the reading itself leave what is there of a record. -/
def Since (start : ArtifactState) (state : ArtifactState) : Prop :=
  ∀ artifactId record, state.artifacts.lookup artifactId = some record →
    start.artifacts.lookup artifactId = some record

theorem Since.discard {start state : ArtifactState}
    (since : Since start state) (artifactId : String)
    (record : ArtifactRecord) :
    Since start (state.discard artifactId record) := by
  intro other found present
  rw [ArtifactState.artifacts_discard,
    OrderedTable.lookup_erase_eq_some_iff] at present
  exact since other found present.2

/-- A chunk that is read has as many bytes as were asked for and are left. -/
theorem ensures_readOutputChunk (store : RemoteArtifactStore)
    (now : SystemTime) (principal artifactId : String)
    (offset maxBytes : ℕ) (start : ArtifactState) :
    Ensures (Remembers (Since start))
      (store.readOutputChunk now principal artifactId offset maxBytes)
      (fun chunk _ => ∃ record path expires described bytes,
        start.artifacts.lookup artifactId = some record ∧
        record.state = .output path expires described ∧
        chunk = RemoteArtifactStore.outputChunk artifactId offset
          described.sizeBytes bytes ∧
        bytes.length = min (described.sizeBytes - offset) maxBytes)
      fun _ _ => True := by
  refine .bind (Ensures.mono (Spares.ensures (.ofExcept _))
    (fun _ _ since => since) fun _ _ _ => trivial) fun _ => ?_
  refine .bind (Ensures.mono (ensures_purgeExpired now ?_)
    (fun _ _ since => since) fun _ _ _ => trivial) fun _ => ?_
  · intro state other record since _ _
    exact since.discard other record
  refine .bind (Ensures.mono (ensures_ownedRecord principal artifactId)
    (fun _ _ owned => owned) fun _ _ _ => trivial) fun record => ?_
  refine .strengthen (.and_elim fun (found : start.artifacts.lookup
    artifactId = some record) => ?_) fun room ⟨since, found, _⟩ =>
      ⟨since artifactId record found, trivial⟩
  cases stored : record.state with
  | uploading | completed | taskOwned => exact .throw fun _ _ => trivial
  | output path expires described =>
      refine .bind (.any fun _ _ => trivial) fun _ =>
        .bind (.any fun _ _ => trivial) fun content => ?_
      dsimp only
      split
      · rename_i complete
        exact .pure fun _ _ => ⟨record, path, expires, described, _, found,
          stored, rfl, complete⟩
      · exact .throw fun _ _ => trivial

/-- The frame of the chunk that is read from this offset is not too large. -/
def ChunkFits (sizeBytes offset maxBytes : ℕ) : Prop :=
  let length := min (sizeBytes - offset) maxBytes
  4 * ((length + 2) / 3) + digits offset + digits (offset + length) +
    (if offset + length = sizeBytes then 221 else 222) ≤ remoteMaxFrameBytes

/-- With every accepted size of chunks, an upload of as many bytes fits into a
frame.  A chunk that is read fits exactly when the base64 text and the digits
of the two offsets leave room for the other fields. -/
theorem chunk_frames_iff {store : RemoteArtifactStore}
    (accepted : maxArtifactChunkBytes store.maxChunkBytes =
      .ok store.maxChunkBytes) :
    (∀ requestId artifactId offset bytes,
      Names.isUuid requestId = true → Names.isUuid artifactId = true →
      offset < 2 ^ 64 → bytes.length ≤ store.maxChunkBytes →
      (uploadArtifactChunk requestId ⟨artifactId, offset,
        String.ofList (Base64.encode bytes)⟩).size ≤ remoteMaxFrameBytes) ∧
    ∀ (room : StoreRoom) now principal artifactId offset maxBytes requestId
      record path expires described payload,
      Names.isUuid requestId = true → Names.isUuid artifactId = true →
      room.memory.artifacts.lookup artifactId = some record →
      record.state = .output path expires described →
      (store.readOutputChunk now principal artifactId offset maxBytes
        room).1 = .ok payload →
      ((artifactChunk requestId payload).size ≤ remoteMaxFrameBytes ↔
        ChunkFits described.sizeBytes offset maxBytes) := by
  obtain ⟨-, fits⟩ := frame_of_maxArtifactChunkBytes accepted
  constructor
  · intro requestId artifactId offset bytes request artifact small few
    rw [size_uploadArtifactChunk request artifact, byteLength_base64]
    have short : digits offset ≤ 20 :=
      (digits_le_iff (by decide)).mpr (small.trans (by decide))
    omega
  · intro room now principal artifactId offset maxBytes requestId record path
      expires described payload request artifact found stored ran
    have reads := ensures_readOutputChunk store now principal artifactId
      offset maxBytes room.memory room fun _ _ found => found
    obtain ⟨other, _, _, seen, bytes, again, same, rfl, length⟩ :=
      reads.1 payload ran
    cases found.symm.trans again
    cases stored.symm.trans same
    rw [size_artifactChunk request]
    · simp only [RemoteArtifactStore.outputChunk, length, ChunkFits,
        decide_eq_true_eq]
    · exact artifact

/-! ### Reading zeros -/

/-- An output of so many zeros, which expires after the epoch. -/
def zerosPayload (sizeBytes : ℕ) : ManagedOutputArtifactPayload :=
  RemoteArtifactStore.outputPayload firstId (smallDigest []) sizeBytes
    "application/octet-stream" "1970-01-01T00:00:01Z"

/-- Its record. -/
def zerosRecord (sizeBytes : ℕ) : ArtifactRecord where
  principal := "client"
  state := .output (.at firstId .output) (1 : ℤ) (zerosPayload sizeBytes)

/-- A store with this output. -/
def zerosRoom (sizeBytes : ℕ) : StoreRoom where
  files place :=
    if place = .at firstId .output then
      some (.bytes (List.replicate sizeBytes 0))
    else
      none
  memory :=
    { ArtifactState.empty with
      artifacts := OrderedTable.empty.insert firstId.1 (zerosRecord sizeBytes) }
  faults := []
  steps := []

/-- The small store with another limit for chunks. -/
def chunkStore (maxChunkBytes : ℕ) : RemoteArtifactStore :=
  { smallStore with maxChunkBytes }

theorem readOutputChunk_zerosRoom {sizeBytes maxBytes limit : ℕ}
    (positive : maxBytes ≠ 0) (allowed : maxBytes ≤ limit) :
    ((chunkStore limit).readOutputChunk (0 : ℤ) "client" firstId 0 maxBytes
      (zerosRoom sizeBytes)).1 =
      .ok (RemoteArtifactStore.outputChunk firstId 0 sizeBytes
        (List.replicate (min sizeBytes maxBytes) 0)) := by
  have purged : RemoteArtifactStore.purgeExpired (0 : ℤ)
      (zerosRoom sizeBytes) = (.ok (), zerosRoom sizeBytes) := rfl
  have owned : RemoteArtifactStore.ownedRecord "client" firstId
      (zerosRoom sizeBytes) =
        (.ok (zerosRecord sizeBytes), zerosRoom sizeBytes) := rfl
  have bytes : List.take (min sizeBytes maxBytes)
      (List.replicate sizeBytes (0 : UInt8)) =
        List.replicate (min sizeBytes maxBytes) 0 := by
    rw [List.take_replicate, Nat.min_eq_left (Nat.min_le_left _ _)]
  unfold RemoteArtifactStore.readOutputChunk
  have within : ¬ (maxBytes = 0 ∨
      (chunkStore limit).maxChunkBytes < maxBytes) := by
    change ¬ (maxBytes = 0 ∨ limit < maxBytes)
    omega
  rw [if_neg within, ofExcept_ok_bind, bind_of_ok purged, bind_of_ok owned]
  dsimp only [zerosRecord]
  rw [if_neg (Nat.not_lt_zero _), ofExcept_ok_bind]
  have opened : ioError "open managed output" (.at firstId .output)
      (read (.at firstId .output)) (zerosRoom sizeBytes) =
        (.ok (.bytes (List.replicate sizeBytes 0)), _) := rfl
  rw [bind_of_ok opened]
  split
  · rw [← bytes]
    rfl
  · rename_i short
    refine absurd ?_ short
    change (List.take (min sizeBytes maxBytes)
      (List.replicate sizeBytes (0 : UInt8))).length = min sizeBytes maxBytes
    rw [bytes, List.length_replicate]

/-- A chunk of one byte. -/
theorem chunk_frames_oneByte :
    ((chunkStore 1024).readOutputChunk (0 : ℤ) "client" firstId 0 1
      (zerosRoom 1)).1 = .ok (RemoteArtifactStore.outputChunk firstId 0 1 [0]) ∧
      ChunkFits 1 0 1 ∧
      (artifactChunk longestUuid
        (RemoteArtifactStore.outputChunk firstId 0 1 [0])).size ≤
          remoteMaxFrameBytes ∧
      (uploadArtifactChunk longestUuid ⟨firstId, 0,
        String.ofList (Base64.encode [0])⟩).size ≤ remoteMaxFrameBytes := by
  have read : ((chunkStore 1024).readOutputChunk (0 : ℤ) "client" firstId 0 1
      (zerosRoom 1)).1 =
        .ok (RemoteArtifactStore.outputChunk firstId 0 1 [0]) :=
    readOutputChunk_zerosRoom (by decide) (by decide)
  have fits : ChunkFits 1 0 1 := by
    unfold ChunkFits
    decide
  obtain ⟨upload, download⟩ :=
    @chunk_frames_iff (chunkStore 1024) (by decide +kernel)
  refine ⟨read, fits, ?_, ?_⟩
  · have framed := download _ _ _ _ _ _ longestUuid (zerosRecord 1) _ _
      (zerosPayload 1) _ isUuid_longestUuid firstId.2 rfl rfl read
    exact framed.mpr fits
  · exact upload longestUuid firstId 0 [0] isUuid_longestUuid firstId.2
      (by decide) (by decide)

/-- The largest chunks that the configuration accepts do not fit when they are
read. -/
theorem chunk_frame_too_large :
    maxArtifactChunkBytes 786267 = .ok 786267 ∧
      ∃ payload,
        ((chunkStore 786267).readOutputChunk (0 : ℤ) "client" firstId 0 786267
          (zerosRoom 786268)).1 = .ok payload ∧
        remoteMaxFrameBytes < (artifactChunk longestUuid payload).size := by
  refine ⟨by decide +kernel, _,
    readOutputChunk_zerosRoom (by decide) (by decide), ?_⟩
  rw [size_artifactChunk isUuid_longestUuid]
  · simp only [RemoteArtifactStore.outputChunk, List.length_replicate]
    decide
  · exact firstId.2

end Remote
end TaskCage
