import TaskCage.Artifact.Staging

/-!
# The download of an output

An output is read in pieces.  A client asks for the first piece at the offset
zero and for every further one at the offset that the last answer names, until
an answer says that it was the last.  The pieces are the output.
-/

namespace TaskCage
namespace Artifact

open Filing RemoteArtifactStore

/-- An output with these bytes is stored. -/
structure Published (principal artifactId : String) (bytes : List UInt8)
    (expires : SystemTime) (payload : ManagedOutputArtifactPayload)
    (room : StoreRoom) : Prop where
  kept : Stored artifactId
    ⟨principal, .output (.at artifactId .output) expires payload⟩ .output
    (.bytes bytes) room
  size : payload.sizeBytes = bytes.length
  filled : bytes ≠ []

/-! ### Publication -/

section Publication

variable {store : RemoteArtifactStore} {drawn : Uuid} {principal : ClientId}
variable {source : List UInt8} {digest mediaType : String} {sizeBytes : ℕ}

/-- The temporary file has the bytes of the output. -/
def Copied (drawn : Uuid) (source : List UInt8) (room : StoreRoom) : Prop :=
  room.files (.at drawn .outputTemporary) = some (.bytes source) ∧
    Orderly room.memory

/-- A call that fails ends the publication. -/
theorem ensures_call {Result : Type} {call : Call Place}
    {effect : Files Place Content →
      Except IoError (Result × Files Place Content)}
    {broken : ℕ → Files Place Content → Files Place Content}
    {Pre : StoreRoom → Prop} {Post : Result → StoreRoom → Prop}
    (done : ∀ room result files, Pre room →
      effect room.files = .ok (result, files) →
      Post result (room.after call (.ok ()) files)) :
    Ensures Pre (perform call effect broken) Post fun _ _ => True :=
  .perform done (fun _ _ _ _ => trivial) fun _ _ _ _ => trivial

theorem ensures_copyOutput :
    Ensures (fun room : StoreRoom => Orderly room.memory)
      (copyOutput drawn source) (fun _ => Copied drawn source)
      fun _ _ => True := by
  have creates : Ensures (fun room : StoreRoom => Orderly room.memory)
      (create (.at drawn .outputTemporary) (.bytes []))
      (fun _ => Copied drawn []) fun _ _ => True := by
    refine ensures_call fun room _ files orderly done => ?_
    unfold Files.afterCreate at done
    split at done
    · cases done
    · cases done
      exact ⟨by simp [Room.after, Files.set], orderly⟩
  have writes : Ensures (Copied drawn [])
      (write (.at drawn .outputTemporary) (fun _ => .bytes source)
        fun written _ => .bytes (source.take written))
      (fun _ => Copied drawn source) fun _ _ => True := by
    refine ensures_call fun room _ files copied done => ?_
    obtain ⟨empty, orderly⟩ := copied
    cases done
    exact ⟨by simp [Room.after, Files.set, empty], orderly⟩
  exact .bind (.mapError creates) fun _ => .mapError writes

theorem ensures_readCopied :
    Ensures (Copied drawn source) (read (.at drawn .outputTemporary))
      (fun content room => content = .bytes source ∧ Copied drawn source room)
      fun _ _ => True := by
  refine ensures_call fun room content files copied done => ?_
  unfold Files.afterRead at done
  rw [copied.1] at done
  cases done
  exact ⟨rfl, copied⟩

theorem ensures_publishOutput (now : SystemTime) (size : sizeBytes =
    source.length) (filled : source ≠ []) :
    Ensures (Copied drawn source)
      (store.publishOutput now drawn principal digest sizeBytes mediaType)
      (fun payload room => ∃ expires,
        Published principal drawn source expires payload room)
      fun _ _ => True := by
  let Moved (room : StoreRoom) : Prop :=
    room.files (.at drawn .output) = some (.bytes source) ∧ Orderly room.memory
  have moves : Ensures (Copied drawn source)
      (rename (.at drawn .outputTemporary) (.at drawn .output))
      (fun _ => Moved) fun _ _ => True := by
    refine ensures_call fun room _ files copied done => ?_
    rw [Files.afterRename_of_present copied.1] at done
    cases done
    exact ⟨by simp [Room.after, Files.set], copied.2⟩
  have records (persisted : PersistedArtifactRecord) : Ensures Moved
      (writePersistedRecord drawn persisted) (fun _ => Moved)
      fun _ _ => True := by
    intro room moved
    have left : Leaves (Room.file (.at drawn.1 .output))
        (writePersistedRecord drawn persisted) :=
      leaves_writePersistedRecord (by simp) persisted
    have spares := spares_writePersistedRecord drawn persisted room
    refine ⟨fun _ _ => ⟨(left room).trans moved.1, ?_⟩, fun _ _ => trivial⟩
    rw [spares]
    exact moved.2
  refine .bind (.mapError moves) fun _ =>
    .bind (.ofExcept (fun _ _ _ moved => moved) fun _ _ _ _ => trivial)
      fun expires =>
    .bind (.ofExcept (fun _ _ _ moved => moved) fun _ _ _ _ => trivial)
      fun expiresAt => ?_
  cases stored : systemTimeToEpochMillis expires with
  | error error =>
      rw [ofExcept_error_bind]
      exact .throw fun _ _ => trivial
  | ok milliseconds =>
      rw [ofExcept_ok_bind]
      refine .bind (.onError (records _) fun _ => .any fun _ _ => trivial)
        fun _ => .bind (.modify fun room moved => ?_) fun _ =>
          .pure fun _ published => ⟨expires, published⟩
      refine ⟨⟨?_, moved.1, ?_⟩, size, filled⟩
      · simp [ArtifactState.setRecord, OrderedTable.lookup_insert_eq_ite]
      · exact moved.2.insert rfl ⟨rfl, milliseconds, stored⟩

/-- What is published is the source. -/
theorem ensures_publishOutputFile (store : RemoteArtifactStore)
    (now : SystemTime) (drawn : Uuid) (principal : ClientId)
    (source : List UInt8) (digest : String) (sizeBytes : ℕ)
    (mediaType : String) :
    Ensures (fun room : StoreRoom => Orderly room.memory)
      (store.publishOutputFile now drawn principal source digest sizeBytes
        mediaType)
      (fun payload room => ∃ expires,
        Published principal drawn source expires payload room)
      fun _ _ => True := by
  unfold publishOutputFile
  split
  · rw [ofExcept_error_bind]
    exact .throw fun _ _ => trivial
  · rename_i valid
    rw [not_or, not_or] at valid
    rw [ofExcept_ok_bind]
    refine .bind (.onError ensures_copyOutput fun _ => .any fun _ _ => trivial)
      fun _ => .bind (.mapError ensures_readCopied) fun stat =>
        .and_elim fun same => ?_
    subst same
    have digests : Ensures (Copied drawn source)
        (store.digestFile (.at drawn .outputTemporary))
        (fun _ => Copied drawn source) fun _ _ => True :=
      .bind (.mapError ensures_readCopied) fun _ =>
        .pure fun _ copied => copied.2
    refine .bind digests fun actual => ?_
    split
    · rename_i verified
      have size : sizeBytes = source.length := verified.1.symm
      refine ensures_publishOutput now size ?_
      intro empty
      rw [empty] at size
      exact valid.2.1 size
    · exact .bind (.any fun _ _ => trivial) fun _ => .throw fun _ _ => trivial

end Publication

/-! ### Reading -/

/-- A request of a client for the next piece: when it is served, and how many
bytes it asks for. -/
structure ChunkRequest where
  now : SystemTime
  maxBytes : ℕ

/-- Ask for the pieces of an output, beginning at an offset, until one says
that it is the last. -/
def download (store : RemoteArtifactStore) (principal artifactId : String) :
    List ChunkRequest → ℕ → StoreCode (List ArtifactChunkPayload)
  | [], _ => pure []
  | request :: rest, offset => do
      let chunk ← store.readOutputChunk request.now principal artifactId
        offset request.maxBytes
      if chunk.finished then
        pure [chunk]
      else do
        let later ← download store principal artifactId rest chunk.nextOffset
        pure (chunk :: later)

/-- The store serves the request: it is within the limit, and the output has
not expired. -/
structure ChunkRequest.Admissible (store : RemoteArtifactStore)
    (expires : SystemTime) (request : ChunkRequest) : Prop where
  positive : 1 ≤ request.maxBytes
  allowed : request.maxBytes ≤ store.maxChunkBytes
  early : request.now < expires

/-- The pieces from an offset on are the rest of the output.  Each names where
the next one begins, and the one that reaches the end says so. -/
structure Reassembles (bytes : List UInt8) (offset : ℕ)
    (chunks : List ArtifactChunkPayload) : Prop where
  whole : chunks.flatMap ArtifactChunkPayload.data = bytes.drop offset
  count : chunks.length ≤ bytes.length - offset
  last : ∃ chunk, chunks.getLast? = some chunk ∧ chunk.finished = true
  before : ∀ chunk ∈ chunks.dropLast, chunk.finished = false
  advances : ∀ chunk ∈ chunks, chunk.data ≠ [] ∧
    chunk.offset < chunk.nextOffset ∧
    (chunk.finished = true ↔ chunk.nextOffset = bytes.length)

section Reading

variable {store : RemoteArtifactStore} {principal artifactId : String}
variable {bytes : List UInt8} {expires : SystemTime}
variable {payload : ManagedOutputArtifactPayload}

/-- The output is stored, and no call fails. -/
def Ready (principal artifactId : String) (bytes : List UInt8)
    (expires : SystemTime) (payload : ManagedOutputArtifactPayload)
    (room : StoreRoom) : Prop :=
  Quiet room ∧ Published principal artifactId bytes expires payload room

theorem ready_purgeExpired {now : SystemTime} (early : now < expires) :
    Ensures (Ready principal artifactId bytes expires payload)
      (purgeExpired now)
      (fun _ => Ready principal artifactId bytes expires payload)
      fun _ _ => False := by
  intro room ⟨quiet, published⟩
  have fresh : ∀ state, (artifactId, (⟨principal, .output
      (.at artifactId .output) expires payload⟩ : ArtifactRecord)) ∉
        ArtifactState.expired state now := by
    intro state member
    have late := (List.mem_filter.mp member).2
    exact absurd (of_decide_eq_true late) (not_le.mpr early)
  have quietly := quiet_purge now room ⟨quiet, published.kept.orderly⟩
  have keeps := ensures_kept_purgeExpired fresh room published.kept
  exact ⟨fun result ended => ⟨quietly.1 result ended,
    keeps.1 result ended, published.size, published.filled⟩, quietly.2⟩

theorem ready_ownedRecord :
    Ensures (Ready principal artifactId bytes expires payload)
      (ownedRecord principal artifactId)
      (fun record room => record = ⟨principal, .output
          (.at artifactId .output) expires payload⟩ ∧
        Ready principal artifactId bytes expires payload room)
      fun _ _ => False := by
  intro room ready
  have owned : ownedRecord principal artifactId room = (.ok ⟨principal,
      .output (.at artifactId .output) expires payload⟩, room) := by
    unfold ownedRecord
    rw [memory_bind, ready.2.kept.entry]
    dsimp only
    rw [if_pos rfl]
    rfl
  rw [owned]
  refine ⟨?_, nofun⟩
  rintro _ ⟨⟩
  exact ⟨rfl, ready⟩

theorem ready_read :
    Ensures (Ready principal artifactId bytes expires payload)
      (read (.at artifactId .output))
      (fun content room => content = .bytes bytes ∧
        Ready principal artifactId bytes expires payload room)
      fun _ _ => False := by
  have reads : Ensures (Ready principal artifactId bytes expires payload)
      (read (.at artifactId .output))
      (fun content room => Quiet room ∧ content = .bytes bytes ∧
        Published principal artifactId bytes expires payload room)
      fun _ _ => False :=
    quiet_perform fun room published => ⟨.bytes bytes, room.files,
      Files.afterRead_of_present published.kept.file, rfl,
      ⟨published.kept.entry, published.kept.file, published.kept.orderly⟩,
      published.size, published.filled⟩
  exact reads.mono (fun _ _ ⟨quiet, same, published⟩ =>
    ⟨same, quiet, published⟩) fun _ _ never => never

variable {offset : ℕ} {piece : List UInt8}

/-- One piece is read. -/
theorem ready_readOutputChunk {request : ChunkRequest}
    (admissible : request.Admissible store expires)
    (within : offset ≤ bytes.length) :
    Ensures (Ready principal artifactId bytes expires payload)
      (store.readOutputChunk request.now principal artifactId offset
        request.maxBytes)
      (fun chunk room => chunk = outputChunk artifactId offset bytes.length
          ((bytes.drop offset).take request.maxBytes) ∧
        Ready principal artifactId bytes expires payload room)
      fun _ _ => False := by
  obtain ⟨positive, allowed, early⟩ := admissible
  refine .strengthen (.and_elim fun (size : payload.sizeBytes =
    bytes.length) => ?_) fun room ready => ⟨ready.2.size, ready⟩
  unfold readOutputChunk
  rw [if_neg (by omega), ofExcept_ok_bind]
  refine .bind (ready_purgeExpired early) fun _ =>
    .bind ready_ownedRecord fun record => .and_elim fun same => ?_
  subst same
  dsimp only
  rw [if_neg (by omega), ofExcept_ok_bind]
  refine .bind (.mapError ready_read) fun content => .and_elim fun same => ?_
  subst same
  have cut : (bytes.drop offset).take
      (min (payload.sizeBytes - offset) request.maxBytes) =
        (bytes.drop offset).take request.maxBytes := by
    rw [size, ← List.length_drop, Nat.min_comm, ← List.take_take,
      List.take_length]
  have full : ((bytes.drop offset).take request.maxBytes).length =
      min (payload.sizeBytes - offset) request.maxBytes := by
    rw [List.length_take, List.length_drop, size, Nat.min_comm]
  split
  · refine .pure fun _ ready => ⟨?_, ready⟩
    rw [← size, ← cut]
    rfl
  · rename_i short
    refine absurd ?_ short
    change ((bytes.drop offset).take
      (min (payload.sizeBytes - offset) request.maxBytes)).length = _
    rw [cut, full]

theorem reassembles_last (filled : piece ≠ [])
    (rest : bytes.drop offset = piece) (within : offset < bytes.length) :
    Reassembles bytes offset
      [outputChunk artifactId offset bytes.length piece] := by
  have positive := List.length_pos_iff.mpr filled
  have length : bytes.length - offset = piece.length := by
    rw [← rest, List.length_drop]
  have ends : offset + piece.length = bytes.length := by omega
  refine ⟨?_, ?_, ⟨_, rfl, ?_⟩, nofun, ?_⟩
  · simp [outputChunk, rest]
  · rw [List.length_singleton]
    omega
  · simp [outputChunk, ends]
  · intro chunk member
    rw [List.mem_singleton] at member
    subst member
    refine ⟨filled, ?_, ?_⟩
    · change offset < offset + piece.length
      omega
    · simp [outputChunk]

theorem reassembles_cons {chunks : List ArtifactChunkPayload}
    (filled : piece ≠ [])
    (rest : bytes.drop offset = piece ++ bytes.drop (offset + piece.length))
    (more : offset + piece.length < bytes.length)
    (later : Reassembles bytes (offset + piece.length) chunks) :
    Reassembles bytes offset
      (outputChunk artifactId offset bytes.length piece :: chunks) := by
  have positive := List.length_pos_iff.mpr filled
  have unfinished : (outputChunk artifactId offset bytes.length
      piece).finished = false := by
    simp [outputChunk, more.ne]
  obtain ⟨last, isLast, finished⟩ := later.last
  have some : chunks ≠ [] := by
    rintro rfl
    cases isLast
  refine ⟨?_, ?_, ⟨last, ?_, finished⟩, ?_, ?_⟩
  · rw [List.flatMap_cons, later.whole, rest]
    rfl
  · have count := later.count
    rw [List.length_cons]
    omega
  · rw [List.getLast?_cons, isLast, Option.getD_some]
  · rw [List.dropLast_cons_of_ne_nil some, List.forall_mem_cons]
    exact ⟨unfinished, later.before⟩
  · rw [List.forall_mem_cons]
    refine ⟨⟨filled, ?_, ?_⟩, later.advances⟩
    · change offset < offset + piece.length
      omega
    · simp [outputChunk]

/-- Enough requests download the rest of the output. -/
theorem ready_download {requests : List ChunkRequest}
    (admissible : ∀ request ∈ requests, request.Admissible store expires)
    (within : offset < bytes.length)
    (enough : bytes.length - offset ≤ requests.length) :
    Ensures (Ready principal artifactId bytes expires payload)
      (download store principal artifactId requests offset)
      (fun chunks room => Reassembles bytes offset chunks ∧
        Ready principal artifactId bytes expires payload room)
      fun _ _ => False := by
  induction requests generalizing offset with
  | nil =>
      rw [List.length_nil] at enough
      omega
  | cons request rest inductionHypothesis =>
      rw [List.forall_mem_cons] at admissible
      rw [List.length_cons] at enough
      have positive := admissible.1.positive
      unfold download
      refine .bind (ready_readOutputChunk admissible.1 within.le) fun chunk =>
        .and_elim fun same => ?_
      subst same
      generalize shape : (bytes.drop offset).take request.maxBytes = piece
      have length : piece.length =
          min request.maxBytes (bytes.length - offset) := by
        rw [← shape, List.length_take, List.length_drop]
      have filled : piece ≠ [] := by
        rw [← List.length_pos_iff]
        omega
      by_cases ends : offset + piece.length = bytes.length
      · have finished : (outputChunk artifactId offset bytes.length
            piece).finished = true := decide_eq_true ends
        rw [if_pos finished]
        refine .pure fun room ready => ⟨?_, ready⟩
        apply reassembles_last filled _ within
        rw [← shape, List.take_of_length_le]
        rw [List.length_drop]
        omega
      · have unfinished : ¬(outputChunk artifactId offset bytes.length
            piece).finished = true := by
          intro finished
          exact ends (of_decide_eq_true finished)
        rw [if_neg unfinished]
        have more : offset + piece.length < bytes.length := by omega
        refine .bind (inductionHypothesis admissible.2 more ?_) fun later =>
          .pure fun room ⟨reassembles, ready⟩ => ⟨?_, ready⟩
        · have one := List.length_pos_iff.mpr filled
          change bytes.length - (offset + piece.length) ≤ rest.length
          omega
        · apply reassembles_cons filled _ more reassembles
          have cut : piece.length = request.maxBytes := by omega
          rw [← List.drop_drop, cut, ← shape, List.take_append_drop]

/-- A published output is downloaded as it was published, with any sizes of the
pieces. -/
theorem download_published {room : StoreRoom} (orderly : Orderly room.memory)
    {now : SystemTime} {drawn : Uuid} {owner : ClientId}
    {source : List UInt8} {digest mediaType : String} {sizeBytes : ℕ}
    {described : ManagedOutputArtifactPayload}
    (published : (store.publishOutputFile now drawn owner source digest
      sizeBytes mediaType room).1 = .ok described) :
    ∃ expires, Published owner drawn source expires described
        (store.publishOutputFile now drawn owner source digest sizeBytes
          mediaType room).2 ∧
      ∀ (start : StoreRoom) (requests : List ChunkRequest),
        Published owner drawn source expires described start → Quiet start →
        (∀ request ∈ requests, request.Admissible store expires) →
        source.length ≤ requests.length →
        ∃ chunks, (download store owner drawn requests 0 start).1 =
            .ok chunks ∧ Reassembles source 0 chunks := by
  obtain ⟨expires, stored⟩ := (ensures_publishOutputFile store now drawn owner
    source digest sizeBytes mediaType room orderly).1 described published
  refine ⟨expires, stored, ?_⟩
  intro start requests here quiet admissible enough
  have within := List.length_pos_iff.mpr here.filled
  have ensures := ready_download admissible within enough start ⟨quiet, here⟩
  cases ended : (download store owner drawn requests 0 start).1 with
  | error error => exact (ensures.2 error ended).elim
  | ok chunks => exact ⟨chunks, rfl, (ensures.1 chunks ended).1⟩

/-- Two bytes that are published at the epoch. -/
def publishedRoom : Except RemoteArtifactError ManagedOutputArtifactPayload ×
    StoreRoom :=
  smallStore.publishOutputFile (0 : ℤ) firstId smallClient [0, 1]
    (smallDigest [0, 1]) 2 "text/plain" emptyRoom

/-- They are downloaded one by one. -/
theorem download_published_twoBytes :
    ∃ chunks, (download smallStore smallClient firstId
        [⟨(0 : ℤ), 1⟩, ⟨(0 : ℤ), 1⟩] 0 publishedRoom.2).1 = .ok chunks ∧
      Reassembles [0, 1] 0 chunks := by
  have published : publishedRoom.1 = .ok (outputPayload firstId
      (smallDigest [0, 1]) 2 "text/plain" "1970-01-01T00:00:01Z") := rfl
  obtain ⟨expires, stored, downloads⟩ :=
    download_published orderly_empty published
  have late : (1000000000 : ℤ) = expires := by
    have entry := stored.kept.entry
    change some _ = some _ at entry
    cases entry
    rfl
  refine downloads _ _ stored rfl ?_ (by decide)
  intro request member
  have same : request = ⟨(0 : ℤ), 1⟩ := by simpa using member
  subst same late
  exact ⟨by decide, by decide, by decide⟩

end Reading

end Artifact
end TaskCage
