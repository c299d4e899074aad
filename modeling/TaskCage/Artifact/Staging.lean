import TaskCage.Artifact.Serving

/-!
# The staging file of an upload

The pieces of an upload are appended to its staging file.  As long as no write
to this file fails after a part of a piece, it holds just the pieces that were
acknowledged, and the upload can be completed if and only if they are what was
declared.
-/

namespace TaskCage
namespace Artifact

open Filing RemoteArtifactStore

/-! ### Paths of records -/

/-- The record of the artifact has the path that belongs to its state, and an
expiry that can be stored. -/
def ArtifactRecord.Orderly (artifactId : String) (record : ArtifactRecord) :
    Prop :=
  match record.state with
  | .uploading _ path _ => path = .at artifactId .staging
  | .completed _ path expires _ => path = .at artifactId .completed ∧
      ∃ milliseconds, systemTimeToEpochMillis expires = .ok milliseconds
  | .taskOwned _ path taskId expires _ =>
      path = .at artifactId (.taskInput taskId) ∧
      ∃ milliseconds, systemTimeToEpochMillis expires = .ok milliseconds
  | .output path expires _ => path = .at artifactId .output ∧
      ∃ milliseconds, systemTimeToEpochMillis expires = .ok milliseconds

/-- Every record is orderly. -/
def Orderly (state : ArtifactState) : Prop :=
  ∀ artifactId record, state.artifacts.lookup artifactId = some record →
    record.Orderly artifactId

section Orderly

variable {state changed : ArtifactState} {artifactId : String}
variable {record : ArtifactRecord}

theorem Orderly.insert (orderly : Orderly state)
    (inserted : changed.artifacts = state.artifacts.insert artifactId record)
    (one : record.Orderly artifactId) : Orderly changed := by
  intro other found present
  rw [inserted, OrderedTable.lookup_insert_eq_ite] at present
  split at present
  · rename_i same
    cases present
    rw [same]
    exact one
  · exact orderly other found present

theorem Orderly.erase (orderly : Orderly state)
    (erased : changed.artifacts = state.artifacts.erase artifactId) :
    Orderly changed := by
  intro other found present
  rw [erased, OrderedTable.lookup_erase_eq_ite] at present
  split at present
  · cases present
  · exact orderly other found present

theorem orderly_of_change {Granted : PrincipalPolicy → Prop}
    {before after : ArtifactState} (orderly : Orderly before)
    (change : Change Granted before after) : Orderly after := by
  cases change with
  | touched principal => exact orderly
  | begun policy artifactId descriptor quota granted fresh unused reserved =>
      exact orderly.insert rfl rfl
  | advanced artifactId record descriptor path nextOffset next found
      uploading =>
      have one := orderly artifactId record found
      unfold ArtifactRecord.Orderly at one
      rw [uploading] at one
      exact orderly.insert rfl one
  | completed artifactId record descriptor path nextOffset expires
      milliseconds uploaded found uploading stored =>
      exact orderly.insert rfl ⟨rfl, milliseconds, stored⟩
  | discarded artifactId record found free =>
      exact orderly.erase (ArtifactState.artifacts_discard _ _ _)
  | transferred principal taskId move found destination =>
      exact orderly.insert (artifacts_transferOne _ _ _ _)
        ⟨destination, (orderly move.artifactId _ found).2⟩
  | dropped input taskId found => exact orderly.erase rfl
  | published artifactId principal expires milliseconds payload fresh stored =>
      exact orderly.insert rfl ⟨rfl, milliseconds, stored⟩

theorem ensures_orderly_restoreTaskInputs (taskId : String) :
    Ensures (Remembers fun state => Orderly state ∧ True)
      (restoreTaskInputs taskId) (fun _ => Remembers Orderly)
      fun _ => Remembers Orderly := by
  refine ensures_restoreTaskInputs (fun _ => Orderly)
    (fun _ known => known.1) ?_ ?_ fun _ orderly => orderly
  · intro input rest state orderly inputs
    have owned := orderly _ _ (inputs.found input List.mem_cons_self)
    exact orderly.insert rfl ⟨rfl, owned.2⟩
  · intro input rest state stuck orderly stops
    cases stops <;> exact orderly

theorem orderly_empty : Orderly .empty := by
  intro artifactId record present
  cases present

/-- Records stay orderly. -/
theorem orderly_of_serves {store : RemoteArtifactStore}
    {Allowed : StoreRoom → Request → Prop} {start room : StoreRoom}
    (served : Serves store Allowed start room)
    (orderly : Orderly start.memory) : Orderly room.memory :=
  served.remembers (fun _ _ _ _ _ _ => trivial) (fun _ _ _ _ _ => trivial)
    orderly (fun _ _ => orderly_of_change) ensures_orderly_restoreTaskInputs

end Orderly

/-! ### Uploads under way -/

/-- An upload is under way, and these bytes are in its staging file. -/
structure Staged (artifactId principal : String)
    (descriptor : BeginArtifactUploadPayload) (content : List UInt8)
    (room : StoreRoom) : Prop where
  entry : room.memory.artifacts.lookup artifactId = some ⟨principal,
    .uploading descriptor (.at artifactId .staging) content.length⟩
  file : room.files (.at artifactId .staging) = some (.bytes content)
  orderly : Orderly room.memory

/-- A write to the staging file failed after a part of the piece. -/
def Torn (artifactId : String) (room : StoreRoom) : Prop :=
  ∃ written files, 0 < written ∧
    ⟨.write (.at artifactId .staging), .error (.failed written), files⟩ ∈
      room.steps

section Uploads

variable {artifactId principal other : String}
variable {descriptor : BeginArtifactUploadPayload} {content : List UInt8}
variable {record : ArtifactRecord} {slot : Slot}

/-- Code that uses files only, and not the staging file. -/
theorem Staged.kept {Error Result : Type}
    {code : Filing Place Content ArtifactState Error Result}
    (spares : Spares code)
    (leaves : Leaves (Room.file (.at artifactId .staging)) code) :
    Ensures (Staged artifactId principal descriptor content) code
      (fun _ => Staged artifactId principal descriptor content)
      fun _ => Staged artifactId principal descriptor content := by
  intro room staged
  have kept : Staged artifactId principal descriptor content (code room).2 := by
    obtain ⟨entry, file, orderly⟩ := staged
    rw [← spares room] at entry orderly
    exact ⟨entry, (leaves room).trans file, orderly⟩
  exact ⟨fun _ _ => kept, fun _ _ => kept⟩

theorem leaves_removeFileIfPresent {place kept : Place}
    (different : kept ≠ place) :
    Leaves (Room.file kept) (removeFileIfPresent place) := by
  refine .bind (.attempt (leaves_remove different)) fun outcome => ?_
  rcases outcome with (_ | _ | _) | _
  · exact .pure _
  · exact .throw _
  · exact .throw _
  · exact .pure _

theorem leaves_writePersistedRecord (different : Place.at artifactId slot ≠
      .at other .record) (persisted : PersistedArtifactRecord) :
    Leaves (Room.file (.at artifactId slot))
      (writePersistedRecord other persisted) := by
  have apart : Place.at artifactId slot ≠ .recordTemporary other := nofun
  exact .bind (leaves_removeFileIfPresent apart) fun _ =>
    .onError (.bind (.mapError (leaves_create apart _)) fun _ =>
      .bind (.mapError (leaves_write apart)) fun _ =>
      .mapError (leaves_rename apart different))
      (.ignoring (leaves_remove apart))

section Others

variable (different : other ≠ artifactId)
include different

variable {kept : Slot}

theorem at_ne : Place.at artifactId kept ≠ .at other slot := by
  intro same
  exact different (Place.at.inj same).1.symm

theorem leaves_purgeOne (place : record.path = .at other slot) :
    Leaves (Room.file (.at artifactId kept)) (purgeOne other record) := by
  unfold purgeOne
  rw [place]
  exact .bind (.ofExcept _) fun persisted =>
    .bind (leaves_removeFileIfPresent (at_ne different)) fun _ =>
    .bind (.onError (leaves_removeFileIfPresent (at_ne different))
      (.ignoring (leaves_writePersistedRecord (at_ne different) _))) fun _ =>
    .modify fun _ => rfl

end Others

/-- The path of an orderly record. -/
theorem ArtifactRecord.Orderly.path (orderly : record.Orderly artifactId) :
    ∃ slot, record.path = .at artifactId slot := by
  obtain ⟨principal, stored⟩ := record
  cases stored with
  | uploading descriptor path nextOffset => exact ⟨_, orderly⟩
  | completed | taskOwned | output => exact ⟨_, orderly.1⟩

/-- An artifact has this record and this file. -/
structure Stored (artifactId : String) (record : ArtifactRecord) (slot : Slot)
    (content : Content) (room : StoreRoom) : Prop where
  entry : room.memory.artifacts.lookup artifactId = some record
  file : room.files (.at artifactId slot) = some content
  orderly : Orderly room.memory

/-- What a purge still has to remove does not belong to the artifact. -/
structure Purges (entries : List (String × ArtifactRecord))
    (artifactId : String) (record : ArtifactRecord) (slot : Slot)
    (content : Content) (room : StoreRoom) : Prop where
  kept : Stored artifactId record slot content room
  listed : Listed room.memory entries
  fresh : (artifactId, record) ∉ entries

theorem ensures_kept_purgeOne {content : Content}
    (entry : String × ArtifactRecord)
    (rest : List (String × ArtifactRecord)) :
    Ensures (Purges (entry :: rest) artifactId record slot content)
      (purgeOne entry.1 entry.2)
      (fun _ => Purges rest artifactId record slot content)
      fun _ => Stored artifactId record slot content := by
  intro room purges
  obtain ⟨⟨present, file, orderly⟩, listed, fresh⟩ := purges
  have found := listed.found entry List.mem_cons_self
  have different : entry.1 ≠ artifactId := by
    intro same
    rw [same, present, Option.some.injEq] at found
    apply fresh
    rw [found, ← same]
    exact List.mem_cons_self
  obtain ⟨_, place⟩ := (orderly _ _ found).path
  have left : Leaves (Room.file (.at artifactId slot))
      (purgeOne entry.1 entry.2) := leaves_purgeOne different place
  have left := left room
  have memory := ensures_purgeOne entry.1 entry.2 room
    (rfl : room.memory = room.memory)
  refine ⟨fun result ended => ?_, fun error ended => ?_⟩
  · obtain ⟨before, rfl, changed⟩ := memory.1 result ended
    have kept (other : String) (apart : other ≠ entry.1) :
        (purgeOne entry.1 entry.2 room).2.memory.artifacts.lookup other =
          room.memory.artifacts.lookup other := by
      rw [changed, ArtifactState.artifacts_discard,
        OrderedTable.lookup_erase_eq_ite, if_neg apart]
    refine ⟨⟨(kept _ different.symm).trans present, left.trans file, ?_⟩,
      listed.tail kept, fun member => fresh (List.mem_cons_of_mem _ member)⟩
    exact orderly.erase (changed ▸ ArtifactState.artifacts_discard _ _ _)
  · have same : (purgeOne entry.1 entry.2 room).2.memory = room.memory :=
      (memory.2 error ended).symm
    exact ⟨same ▸ present, left.trans file, same ▸ orderly⟩

/-- A purge does not touch an artifact that has not expired. -/
theorem ensures_kept_purgeExpired {content : Content} {now : SystemTime}
    (fresh : ∀ state, (artifactId, record) ∉ ArtifactState.expired state now) :
    Ensures (Stored artifactId record slot content) (purgeExpired now)
      (fun _ => Stored artifactId record slot content)
      fun _ => Stored artifactId record slot content := by
  refine .bind .seen fun seen => ?_
  have loop := Ensures.forEach
    (fun entries => Purges entries artifactId record slot content)
    ensures_kept_purgeOne (seen.expired now)
  refine (loop.strengthen ?_).mono (fun _ _ left => left.kept)
    fun _ _ kept => kept
  rintro room ⟨kept, rfl⟩
  exact ⟨kept, listed_filter _ _, fresh _⟩

theorem staged_iff_kept {room : StoreRoom} :
    Staged artifactId principal descriptor content room ↔
      Stored artifactId ⟨principal, .uploading descriptor
        (.at artifactId .staging) content.length⟩ .staging (.bytes content)
        room :=
  ⟨fun staged => ⟨staged.entry, staged.file, staged.orderly⟩,
    fun kept => ⟨kept.entry, kept.file, kept.orderly⟩⟩

/-- A purge does not touch the upload. -/
theorem ensures_staged_purgeExpired (now : SystemTime) :
    Ensures (Staged artifactId principal descriptor content)
      (purgeExpired now)
      (fun _ => Staged artifactId principal descriptor content)
      fun _ => Staged artifactId principal descriptor content := by
  refine ((ensures_kept_purgeExpired ?_).strengthen fun _ =>
    staged_iff_kept.mp).mono (fun _ _ => staged_iff_kept.mpr)
      fun _ _ => staged_iff_kept.mpr
  intro state member
  cases lasts_of_mem_expired member

/-! ### Pieces -/

/-- The piece is in the file, but the record does not know it yet. -/
structure Written (artifactId principal : String)
    (descriptor : BeginArtifactUploadPayload) (content bytes : List UInt8)
    (room : StoreRoom) : Prop where
  file : room.files (.at artifactId .staging) = some (.bytes (content ++ bytes))
  orderly : Orderly room.memory

/-- A piece is written, or nothing, or the write was torn. -/
theorem ensures_staged_write (bytes : List UInt8) :
    Ensures (Staged artifactId principal descriptor content)
      (write (.at artifactId .staging)
        (fun content => .bytes (content.data ++ bytes))
        fun written content => .bytes (content.data ++ bytes.take written))
      (fun _ => Written artifactId principal descriptor content bytes)
      fun _ room => Staged artifactId principal descriptor content room ∨
        Torn artifactId room := by
  refine .perform ?_ ?_ ?_
  · rintro room _ files ⟨entry, file, orderly⟩ done
    cases done
    refine ⟨?_, orderly⟩
    simp [Room.after, Files.set, file, Content.data]
  · intro room error staged refused
    cases refused
  · rintro room written ⟨entry, file, orderly⟩ fault
    cases written with
    | zero =>
        refine .inl ⟨entry, ?_, orderly⟩
        simp [Room.after, Files.set, file, Content.data]
    | succ written =>
        exact .inr ⟨written + 1, _, Nat.succ_pos written,
          List.mem_append_right _ (List.mem_singleton.mpr rfl)⟩

/-- A piece is appended, or the file is as before, or the write was torn. -/
theorem ensures_staged_appendChunk (bytes : List UInt8) :
    Ensures (Staged artifactId principal descriptor content)
      (appendChunk artifactId ⟨principal,
        .uploading descriptor (.at artifactId .staging) content.length⟩
        descriptor (.at artifactId .staging) bytes
        (content.length + bytes.length))
      (fun reply room =>
        Staged artifactId principal descriptor (content ++ bytes) room ∧
        reply.nextOffset = content.length + bytes.length)
      fun _ room => Staged artifactId principal descriptor content room ∨
        Torn artifactId room := by
  have opens : Ensures (Staged artifactId principal descriptor content)
      (openAppend (.at artifactId .staging))
      (fun _ => Staged artifactId principal descriptor content)
      fun _ room => Staged artifactId principal descriptor content room ∨
        Torn artifactId room :=
    (Staged.kept Spares.perform (leaves_openAppend _ _)).mono
      (fun _ _ staged => staged) fun _ _ staged => .inl staged
  refine .bind (.mapError opens) fun _ =>
    .bind (.mapError (ensures_staged_write bytes)) fun _ =>
    .bind (.modify fun room written => ?_) fun _ =>
    .pure fun _ staged => ⟨staged, rfl⟩
  refine ⟨?_, written.file, written.orderly.insert rfl rfl⟩
  rw [ArtifactState.artifacts_setRecord, OrderedTable.lookup_insert_eq_ite,
    if_pos rfl, List.length_append]

/-- A piece of another upload. -/
theorem ensures_staged_appendOther (different : other ≠ artifactId)
    (owner : String) (declared : BeginArtifactUploadPayload)
    (bytes : List UInt8) (nextOffset next : ℕ) :
    Ensures (Staged artifactId principal descriptor content)
      (appendChunk other ⟨owner,
        .uploading declared (.at other .staging) nextOffset⟩
        declared (.at other .staging) bytes next)
      (fun _ => Staged artifactId principal descriptor content)
      fun _ => Staged artifactId principal descriptor content := by
  refine .bind (.mapError (Staged.kept Spares.perform
      (leaves_openAppend _ _))) fun _ =>
    .bind (.mapError (Staged.kept Spares.perform
      (leaves_write (at_ne different)))) fun _ =>
    .bind (.modify fun room staged => ?_) fun _ =>
    .pure fun _ staged => staged
  refine ⟨?_, staged.file, staged.orderly.insert rfl rfl⟩
  rw [ArtifactState.artifacts_setRecord, OrderedTable.lookup_insert_eq_ite,
    if_neg different.symm]
  exact staged.entry

/-- A piece that was sent before changes nothing. -/
theorem ensures_staged_repeatChunk (path : Place) (offset : ℕ)
    (bytes : List UInt8) (last nextOffset : ℕ) :
    Ensures (Staged artifactId principal descriptor content)
      (repeatChunk other path offset bytes last nextOffset)
      (fun reply room =>
        Staged artifactId principal descriptor content room ∧
        reply.nextOffset = nextOffset)
      fun _ => Staged artifactId principal descriptor content := by
  have answers (same : Bool) :
      Ensures (Staged artifactId principal descriptor content)
        (if same = true then pure ⟨other, nextOffset⟩ else throw
          (.invalidUpload "재시도 chunk가 저장된 bytes와 다릅니다") :
          StoreCode ArtifactChunkAcceptedPayload)
        (fun reply room =>
          Staged artifactId principal descriptor content room ∧
          reply.nextOffset = nextOffset)
        fun _ => Staged artifactId principal descriptor content := by
    split
    · exact .pure fun _ staged => ⟨staged, rfl⟩
    · exact .throw fun _ staged => staged
  unfold repeatChunk
  split
  · exact .bind (.pure fun _ staged => staged) answers
  · exact .bind (Staged.kept (spares_fileRangeMatches _ _ _)
      (.bind (.mapError (leaves_read _ _)) fun _ =>
        .ite (.pure _) (.throw _))) answers

/-- What a piece of some upload adds to this one. -/
def Adds (store : RemoteArtifactStore) (artifactId : String)
    (content : List UInt8) (payload : UploadArtifactChunkPayload)
    (reply : ArtifactChunkAcceptedPayload) (more : List UInt8) : Prop :=
  if payload.artifactId = artifactId ∧ content.length < reply.nextOffset then
    store.decodeBase64 payload.dataBase64 = some more
  else
    more = []

variable {bytes : List UInt8} {payload : UploadArtifactChunkPayload}
variable {store : RemoteArtifactStore}

theorem decodeChunk_eq_ok (decoded : store.decodeChunk payload = .ok bytes) :
    store.decodeBase64 payload.dataBase64 = some bytes ∧ bytes ≠ [] := by
  unfold decodeChunk at decoded
  split at decoded
  · cases decoded
  · rename_i found
    split at decoded
    · cases decoded
    · rename_i sized
      cases decoded
      exact ⟨found, fun none => sized (.inl none)⟩

/-- A piece of this upload. -/
theorem ensures_staged_acceptChunk
    (decoded : store.decodeChunk payload = .ok bytes)
    (mine : payload.artifactId = artifactId) :
    Ensures (Staged artifactId principal descriptor content)
      (acceptChunk artifactId ⟨principal,
        .uploading descriptor (.at artifactId .staging) content.length⟩
        descriptor (.at artifactId .staging) content.length payload.offset
        bytes)
      (fun reply room => ∃ more,
        Staged artifactId principal descriptor (content ++ more) room ∧
        Adds store artifactId content payload reply more)
      fun _ room => Staged artifactId principal descriptor content room ∨
        Torn artifactId room := by
  obtain ⟨found, some⟩ := decodeChunk_eq_ok decoded
  unfold acceptChunk
  cases sum : checkedAdd payload.offset bytes.length with
  | none => exact .throw fun _ staged => .inl staged
  | some last =>
      dsimp only
      split
      · exact .throw fun _ staged => .inl staged
      · rename_i inside
        split
        · refine (ensures_staged_repeatChunk _ _ _ _ _).mono ?_
            fun _ _ staged => .inl staged
          rintro reply room ⟨staged, same⟩
          refine ⟨[], by rwa [List.append_nil], ?_⟩
          simp [Adds, same]
        · rename_i late
          have here : payload.offset = content.length := by omega
          obtain ⟨-, rfl⟩ := checkedAdd_eq_some_iff.mp sum
          rw [here]
          refine (ensures_staged_appendChunk bytes).mono ?_ fun _ _ left => left
          rintro reply room ⟨staged, advanced⟩
          refine ⟨bytes, staged, ?_⟩
          have longer : content.length < reply.nextOffset := by
            have := List.length_pos_of_ne_nil some
            omega
          simpa [Adds, mine, longer] using found

/-- A piece of another upload. -/
theorem ensures_staged_acceptOther (different : other ≠ artifactId)
    (owner : String) (declared : BeginArtifactUploadPayload)
    (nextOffset offset : ℕ) (bytes : List UInt8) :
    Ensures (Staged artifactId principal descriptor content)
      (acceptChunk other ⟨owner,
        .uploading declared (.at other .staging) nextOffset⟩
        declared (.at other .staging) nextOffset offset bytes)
      (fun _ => Staged artifactId principal descriptor content)
      fun _ => Staged artifactId principal descriptor content := by
  unfold acceptChunk
  split
  · exact .throw fun _ staged => staged
  · split
    · exact .throw fun _ staged => staged
    · split
      · exact (ensures_staged_repeatChunk _ _ _ _ _).mono
          (fun _ _ staged => staged.1) fun _ _ staged => staged
      · exact ensures_staged_appendOther different owner declared bytes
          nextOffset _

/-- A piece of some upload adds to this one what is acknowledged. -/
theorem ensures_staged_uploadChunk (store : RemoteArtifactStore)
    (now : SystemTime) (caller : String)
    (payload : UploadArtifactChunkPayload) :
    Ensures (Staged artifactId principal descriptor content)
      (store.uploadChunk now caller payload)
      (fun reply room => ∃ more,
        Staged artifactId principal descriptor (content ++ more) room ∧
        Adds store artifactId content payload reply more)
      fun _ room => Staged artifactId principal descriptor content room ∨
        Torn artifactId room := by
  refine .bind (.ofExcept (fun _ _ decoded staged => ⟨decoded, staged⟩)
    fun _ _ _ staged => .inl staged) fun bytes => .and_elim fun decoded =>
    .bind ((ensures_staged_purgeExpired now).mono (fun _ _ staged => staged)
      fun _ _ staged => .inl staged) fun _ =>
    .bind ((ensures_ownedRecord _ _).mono (fun _ _ found => found)
      fun _ _ staged => .inl staged) fun record => ?_
  rintro room ⟨staged, found, -⟩
  have orderly := staged.orderly _ _ found
  obtain ⟨owner, stored⟩ := record
  cases stored with
  | uploading declared path nextOffset =>
      obtain rfl : path = .at payload.artifactId .staging := orderly
      by_cases mine : payload.artifactId = artifactId
      · have same := staged.entry
        rw [← mine, found] at same
        cases same
        rw [mine]
        exact ensures_staged_acceptChunk decoded mine room staged
      · obtain ⟨returned, failed⟩ := ensures_staged_acceptOther mine owner
          declared nextOffset payload.offset bytes room staged
        refine ⟨fun reply ended => ⟨[], ?_, ?_⟩,
          fun error ended => .inl (failed error ended)⟩
        · rw [List.append_nil]
          exact returned reply ended
        · simp [Adds, mine]
  | completed | taskOwned | output => exact ⟨nofun, fun _ _ => .inl staged⟩

end Uploads

/-! ### Begin -/

variable {artifactId : String} {record : ArtifactRecord} {room : StoreRoom}

theorem existingUpload_eq_some {key : UploadKey} {state : ArtifactState}
    (existing : existingUpload key state = some (artifactId, record)) :
    state.artifacts.lookup artifactId = some record := by
  unfold existingUpload at existing
  simp only [Option.bind_eq_bind, Option.bind_eq_some_iff, Option.pure_def,
    Option.some.injEq, Prod.mk.injEq] at existing
  obtain ⟨found, -, stored, present, rfl, rfl⟩ := existing
  exact present

theorem uploadStarted_eq_ok {payload : ArtifactUploadStartedPayload}
    (started : record.uploadStarted artifactId = .ok payload)
    (uploading : payload.state = .uploading) :
    payload.artifactId = artifactId := by
  unfold ArtifactRecord.uploadStarted at started
  split at started
  · cases started
    rfl
  · cases started
    cases uploading
  · cases started
  · cases started

variable (store : RemoteArtifactStore)

theorem ensures_staged_createUpload (drawn : Uuid) (policy : PrincipalPolicy)
    (descriptor : BeginArtifactUploadPayload) :
    Ensures (Remembers Orderly) (store.createUpload drawn policy descriptor)
      (fun _ => Staged drawn policy.clientId descriptor [])
      fun _ _ => True := by
  have creates : Ensures (Remembers Orderly)
      (create (.at drawn .staging) (.bytes []) :
        Filing Place Content ArtifactState IoError Unit)
      (fun _ room => Orderly room.memory ∧
        room.files (.at drawn .staging) = some (.bytes []))
      fun _ _ => True := by
    refine .perform (fun room _ files orderly done => ⟨orderly, ?_⟩)
      (fun _ _ _ _ => trivial) fun _ _ _ _ => trivial
    unfold Files.afterCreate at done
    split at done
    · cases done
    · cases done
      simp [Room.after, Files.set]
  refine .bind (.ofExcept (fun _ _ _ orderly => orderly) fun _ _ _ _ => trivial)
    fun _ => .bind (.ofExcept (fun _ _ _ orderly => orderly)
      fun _ _ _ _ => trivial) fun _ =>
    .bind (.modify fun _ orderly => orderly) fun _ =>
    .bind (.memory fun _ orderly => orderly) fun seen =>
    .bind (.ofExcept (fun _ _ _ orderly => orderly) fun _ _ _ _ => trivial)
      fun quota =>
    .bind (.mapError creates) fun _ =>
    .bind (.modify fun room made => ?_) fun _ => .pure fun _ staged => staged
  refine ⟨?_, made.2, made.1.insert rfl rfl⟩
  rw [ArtifactState.artifacts_setRecord, OrderedTable.lookup_insert_eq_ite,
    if_pos rfl]
  rfl

/-- A new upload has an empty file. -/
theorem ensures_staged_beginUpload (now : SystemTime) (drawn : Uuid)
    (policy : PrincipalPolicy) (descriptor : BeginArtifactUploadPayload) :
    Ensures (Remembers fun state => Orderly state ∧ Unused drawn state)
      (store.beginUpload now drawn policy descriptor)
      (fun payload room => payload.artifactId = drawn →
        payload.state = .uploading →
        Staged drawn policy.clientId descriptor [] room)
      fun _ _ => True := by
  refine .bind ((ensures_purgeExpired now ?_).mono (fun _ _ known => known)
    fun _ _ _ => trivial) fun _ => .bind .seen fun seen => ?_
  · intro state artifactId record ⟨orderly, unused⟩ found free
    exact ⟨orderly.erase (ArtifactState.artifacts_discard _ _ _),
      unused.discard artifactId record⟩
  cases existing : existingUpload
      (policy.clientId, descriptor.clientArtifactId) seen with
  | none =>
      exact ((ensures_staged_createUpload store drawn policy
        descriptor).strengthen fun _ known => known.1.1).mono
          (fun _ _ staged _ _ => staged) fun _ _ _ => trivial
  | some found =>
      refine .ofExcept (fun payload room answered known drew uploading => ?_)
        fun _ _ _ _ => trivial
      obtain ⟨⟨-, unused⟩, rfl⟩ := known
      unfold answerExisting at answered
      split at answered
      · rw [Unused, ← drew, uploadStarted_eq_ok answered uploading,
          existingUpload_eq_some existing] at unused
        cases unused
      · cases answered

/-! ### Completion without faults -/

/-- No call fails. -/
def Quiet (room : StoreRoom) : Prop :=
  room.faults = []

theorem Quiet.after (quiet : Quiet room) (call : Call Place)
    (answer : Except IoError Unit) (files : Files Place Content) :
    Quiet (room.after call answer files) := by
  unfold Quiet Room.after at *
  rw [quiet]
  rfl

theorem Quiet.no_fault {written : ℕ} (quiet : Quiet room) :
    room.faults.head?.join ≠ some written := by
  unfold Quiet at quiet
  simp [quiet]

/-- A call that the files allow is done. -/
theorem quiet_perform {Result : Type} {call : Call Place}
    {effect : Files Place Content →
      Except IoError (Result × Files Place Content)}
    {broken : ℕ → Files Place Content → Files Place Content}
    {Pre : StoreRoom → Prop} {Post : Result → StoreRoom → Prop}
    (does : ∀ room, Pre room → ∃ result files,
      effect room.files = .ok (result, files) ∧
      Post result (room.after call (.ok ()) files)) :
    Ensures (fun room => Quiet room ∧ Pre room) (perform call effect broken)
      (fun result room => Quiet room ∧ Post result room)
      fun _ _ => False := by
  refine .perform ?_ ?_ ?_
  · rintro room result files ⟨quiet, pre⟩ ended
    obtain ⟨_, _, same, post⟩ := does room pre
    cases ended.symm.trans same
    exact ⟨quiet.after _ _ _, post⟩
  · rintro room error ⟨-, pre⟩ ended
    obtain ⟨_, _, same, -⟩ := does room pre
    cases ended.symm.trans same
  · rintro room written ⟨quiet, -⟩ fault
    exact quiet.no_fault fault

theorem quiet_removeFileIfPresent (place : Place) :
    Ensures Quiet (removeFileIfPresent place)
      (fun _ room => Quiet room ∧ room.files place = none)
      fun _ _ => False := by
  refine ensures_removeFile (.perform ?_ ?_ ?_)
  · intro room _ files quiet done
    refine ⟨quiet.after _ _ _, ?_⟩
    unfold Files.afterRemove at done
    split at done
    · cases done
      simp [Room.after, Files.set]
    · cases done
  · intro room error quiet refused
    unfold Files.afterRemove at refused
    split at refused
    · cases refused
    · rename_i absent
      cases refused
      exact .inl ⟨rfl, quiet.after _ _ _, absent⟩
  · intro room written quiet fault
    exact (quiet.no_fault fault).elim

/-- The record file is written. -/
theorem quiet_writePersistedRecord (artifactId : String)
    (persisted : PersistedArtifactRecord) :
    Ensures Quiet (writePersistedRecord artifactId persisted)
      (fun _ => Quiet) fun _ _ => False := by
  let Temporary (content : Option Content) (room : StoreRoom) : Prop :=
    Quiet room ∧ room.files (.recordTemporary artifactId) = content
  have creates : Ensures (Temporary none)
      (create (.recordTemporary artifactId) (.bytes []))
      (fun _ => Temporary (some (.bytes []))) fun _ _ => False := by
    refine quiet_perform fun room absent =>
      ⟨(), _, Files.afterCreate_of_absent absent _, ?_⟩
    simp [Room.after, Files.set]
  have writes : Ensures (Temporary (some (.bytes [])))
      (write (.recordTemporary artifactId) (fun _ => .record persisted)
        fun _ content => content)
      (fun _ => Temporary (some (.record persisted))) fun _ _ => False := by
    refine quiet_perform fun room present => ⟨(), _, rfl, ?_⟩
    simp [Room.after, Files.set, present]
  have renames : Ensures (Temporary (some (.record persisted)))
      (rename (.recordTemporary artifactId) (.at artifactId .record))
      (fun _ room => Quiet room ∧ True) fun _ _ => False :=
    quiet_perform fun room present =>
      ⟨(), _, Files.afterRename_of_present present _, trivial⟩
  have publishes : Ensures (Temporary none) (publishRecord artifactId persisted)
      (fun _ room => Quiet room ∧ True) fun _ _ => False :=
    .bind (.mapError creates) fun _ => .bind (.mapError writes) fun _ =>
      .mapError renames
  exact .bind (quiet_removeFileIfPresent _) fun _ => .onError
    (publishes.mono (fun _ _ after => after.1) fun _ _ never => never)
    fun _ _ never => never.elim

/-- The clock can tell when an artifact that is stored now expires. -/
structure Timely (store : RemoteArtifactStore) (now expires : SystemTime)
    (text : String) (milliseconds : ℕ) : Prop where
  expiry : store.expiry now = .ok expires
  timestamp : store.timestamp expires = .ok text
  stored : systemTimeToEpochMillis expires = .ok milliseconds

section Completion

variable {principal : String}
variable {descriptor : BeginArtifactUploadPayload} {content : List UInt8}
variable {now : SystemTime}

theorem ArtifactRecord.Orderly.persisted (orderly : record.Orderly artifactId)
    (lasts : record.lasts = true) :
    ∃ persisted, record.persisted = .ok persisted := by
  obtain ⟨owner, stored⟩ := record
  cases stored with
  | uploading => cases lasts
  | taskOwned => cases lasts
  | completed declared path expires uploaded =>
      obtain ⟨-, milliseconds, stored⟩ := orderly
      simp [ArtifactRecord.persisted, stored]
  | output path expires payload =>
      obtain ⟨-, milliseconds, stored⟩ := orderly
      simp [ArtifactRecord.persisted, stored]

theorem quiet_purgeOne {persisted : PersistedArtifactRecord}
    (stored : record.persisted = .ok persisted) (other : String) :
    Ensures Quiet (purgeOne other record) (fun _ => Quiet)
      fun _ _ => False := by
  have removes (place : Place) : Ensures Quiet (removeFileIfPresent place)
      (fun _ => Quiet) fun _ _ => False :=
    (quiet_removeFileIfPresent place).mono (fun _ _ after => after.1)
      fun _ _ never => never
  unfold purgeOne
  rw [stored, ofExcept_ok_bind]
  exact .bind (removes _) fun _ =>
    .bind (.onError (removes _) fun _ _ never => never.elim) fun _ =>
    .modify fun _ quiet => quiet

/-- A purge succeeds. -/
theorem quiet_purge (now : SystemTime) :
    Ensures (fun room => Quiet room ∧ Orderly room.memory)
      (purgeExpired now) (fun _ => Quiet) fun _ _ => False := by
  let Left (entries : List (String × ArtifactRecord)) (room : StoreRoom) :
      Prop :=
    Quiet room ∧ ∀ entry ∈ entries,
      ∃ persisted, entry.2.persisted = .ok persisted
  have step (entry : String × ArtifactRecord)
      (rest : List (String × ArtifactRecord)) :
      Ensures (Left (entry :: rest)) (purgeOne entry.1 entry.2)
        (fun _ => Left rest) fun _ _ => False := by
    rintro room ⟨quiet, stored⟩
    obtain ⟨persisted, first⟩ := stored entry List.mem_cons_self
    obtain ⟨returned, failed⟩ := quiet_purgeOne first entry.1 room quiet
    exact ⟨fun result ended => ⟨returned result ended, fun other member =>
      stored other (List.mem_cons_of_mem _ member)⟩, failed⟩
  refine .bind .seen fun seen => ((Ensures.forEach Left step
    (seen.expired now)).strengthen ?_).mono (fun _ _ left => left.1)
      fun _ _ never => never
  rintro room ⟨⟨quiet, orderly⟩, rfl⟩
  refine ⟨quiet, fun entry member => ?_⟩
  exact (orderly _ _ ((listed_filter room.memory _).found entry
    member)).persisted (lasts_of_mem_expired member)

/-- A purge succeeds and does not touch the upload. -/
theorem quiet_purgeExpired (now : SystemTime) :
    Ensures
      (fun room => Quiet room ∧
        Staged artifactId principal descriptor content room)
      (purgeExpired now)
      (fun _ room => Quiet room ∧
        Staged artifactId principal descriptor content room)
      fun _ _ => False :=
  (((quiet_purge now).and (ensures_staged_purgeExpired now)).strengthen
    fun _ ⟨quiet, staged⟩ => ⟨⟨quiet, staged.orderly⟩, staged⟩).mono
      (fun _ _ both => both) fun _ _ both => both.1

/-- The upload has become a completed input with these bytes. -/
structure Completed (artifactId principal : String)
    (descriptor : BeginArtifactUploadPayload) (content : List UInt8)
    (expires : SystemTime) (text : String) (room : StoreRoom) : Prop where
  entry : room.memory.artifacts.lookup artifactId = some ⟨principal,
    .completed descriptor (.at artifactId .completed) expires
      (uploadedPayload artifactId descriptor text)⟩
  file : room.files (.at artifactId .completed) = some (.bytes content)

variable {expires : SystemTime} {milliseconds : ℕ} {store : RemoteArtifactStore}
variable {text : String}

theorem quiet_publishInput
    (timely : Timely store now expires text milliseconds) (nextOffset : ℕ) :
    Ensures
      (fun room => Quiet room ∧
        Staged artifactId principal descriptor content room)
      (store.publishInput now artifactId ⟨principal,
        .uploading descriptor (.at artifactId .staging) nextOffset⟩ descriptor
        (.at artifactId .staging))
      (fun _ => Completed artifactId principal descriptor content expires text)
      fun _ _ => False := by
  have renames : Ensures
      (fun room => Quiet room ∧
        Staged artifactId principal descriptor content room)
      (rename (.at artifactId .staging) (.at artifactId .completed))
      (fun _ room => Quiet room ∧
        Room.file (.at artifactId .completed) room = some (.bytes content))
      fun _ _ => False := by
    refine quiet_perform fun room staged =>
      ⟨(), _, Files.afterRename_of_present staged.file _, ?_⟩
    simp [Room.file, Room.after, Files.set]
  have writes (persisted : PersistedArtifactRecord) :=
    (quiet_writePersistedRecord artifactId persisted).and
      ((leaves_writePersistedRecord
        (by simp : Place.at artifactId .completed ≠ .at artifactId .record)
        persisted).ensures (· = some (.bytes content)))
  refine .bind (.mapError renames) fun _ => ?_
  rw [timely.expiry, ofExcept_ok_bind, timely.timestamp, ofExcept_ok_bind,
    timely.stored, ofExcept_ok_bind]
  refine .bind (.onError (writes _) fun _ _ never => never.1.elim) fun _ =>
    .bind (.modify fun room stored => ?_) fun _ =>
    .pure fun _ completed => completed
  refine ⟨?_, stored.2⟩
  rw [ArtifactState.artifacts_setRecord, OrderedTable.lookup_insert_eq_ite,
    if_pos rfl]

/-- The bytes have the size and the digest. -/
structure Matching (store : RemoteArtifactStore) (bytes : List UInt8)
    (sizeBytes : ℕ) (digest : String) : Prop where
  size : bytes.length = sizeBytes
  digest : store.digest bytes = digest

theorem quiet_verifyUpload
    (timely : Timely store now expires text milliseconds) :
    Ensures
      (fun room => Quiet room ∧
        Staged artifactId principal descriptor content room)
      (store.verifyUpload now artifactId ⟨principal,
        .uploading descriptor (.at artifactId .staging) content.length⟩
        descriptor (.at artifactId .staging) content.length)
      (fun _ room => Matching store content descriptor.sizeBytes
          descriptor.digest ∧
        Completed artifactId principal descriptor content expires text room)
      fun _ _ => ¬ Matching store content descriptor.sizeBytes
        descriptor.digest := by
  have reads : Ensures
      (fun room => Quiet room ∧
        Staged artifactId principal descriptor content room)
      (read (.at artifactId .staging))
      (fun found room => Quiet room ∧ found = .bytes content ∧
        Staged artifactId principal descriptor content room)
      fun _ _ => False :=
    quiet_perform fun room staged =>
      ⟨_, _, Files.afterRead_of_present staged.file, rfl, staged.entry,
        staged.file, staged.orderly⟩
  have digests : Ensures
      (fun room => Quiet room ∧
        Staged artifactId principal descriptor content room)
      (store.digestFile (.at artifactId .staging))
      (fun actual room => actual = store.digest content ∧ Quiet room ∧
        Staged artifactId principal descriptor content room)
      fun _ _ => False := by
    refine .bind (.mapError reads) fun found => .pure ?_
    rintro room ⟨quiet, rfl, staged⟩
    exact ⟨rfl, quiet, staged⟩
  unfold verifyUpload
  split
  · rename_i size
    rw [ofExcept_ok_bind]
    refine .bind (digests.mono (fun _ _ read => read)
      fun _ _ never => never.elim) fun actual => .and_elim fun same => ?_
    subst same
    split
    · rename_i digest
      exact (quiet_publishInput timely content.length).mono
        (fun _ _ completed => ⟨⟨size, digest⟩, completed⟩)
        fun _ _ never => never.elim
    · rename_i wrong
      have mismatch : ¬ Matching store content descriptor.sizeBytes
          descriptor.digest := fun matching => wrong matching.digest
      exact .bind (.any fun _ _ => mismatch) fun _ => .throw fun _ _ => mismatch
  · rename_i short
    rw [ofExcept_error_bind]
    exact .throw fun _ _ matching => short matching.size

/-- Without faults an upload is completed if and only if its bytes are what was
declared. -/
theorem quiet_completeUpload {later : SystemTime}
    (timely : Timely store later expires text milliseconds) (now : SystemTime) :
    Ensures
      (fun room => Quiet room ∧
        Staged artifactId principal descriptor content room)
      (store.completeUpload now later principal artifactId)
      (fun _ room => Matching store content descriptor.sizeBytes
          descriptor.digest ∧
        Completed artifactId principal descriptor content expires text room)
      fun _ _ => ¬ Matching store content descriptor.sizeBytes
        descriptor.digest := by
  refine .bind ((quiet_purgeExpired now).mono (fun _ _ staged => staged)
    fun _ _ never => never.elim) fun _ => ?_
  intro room ⟨quiet, staged⟩
  have owned : ownedRecord principal artifactId room = (.ok ⟨principal,
      .uploading descriptor (.at artifactId .staging) content.length⟩,
      room) := by
    unfold ownedRecord
    rw [memory_bind, staged.entry]
    dsimp only
    rw [if_pos rfl]
    rfl
  rw [bind_of_ok owned]
  exact quiet_verifyUpload timely room ⟨quiet, staged⟩

end Completion

/-! ### Runs -/

/-- How far the record of an upload has come. -/
def ArtifactState.nextOffset (state : ArtifactState) (artifactId : String) :
    ℕ :=
  match state.artifacts.lookup artifactId with
  | some ⟨_, .uploading _ _ nextOffset⟩ => nextOffset
  | _ => 0

/-- The piece that the answer to a request acknowledges, if the offset of the
upload advances. -/
def acknowledged (store : RemoteArtifactStore) (artifactId : String)
    (room : StoreRoom) (request : Request) : List UInt8 :=
  match request.turn.operation, (store.answer room request).1 with
  | .uploadChunk _ payload, .ok (.accepted reply) =>
      if payload.artifactId = artifactId ∧
          room.memory.nextOffset artifactId < reply.nextOffset then
        (store.decodeBase64 payload.dataBase64).getD []
      else
        []
  | _, _ => []

/-- Pieces of uploads are sent, and these bytes of one of them are
acknowledged.  No write to its staging file is torn. -/
inductive Uploads (store : RemoteArtifactStore) (artifactId : String)
    (start : StoreRoom) : List UInt8 → StoreRoom → Prop where
  | start : Uploads store artifactId start [] start
  | chunk {content : List UInt8} {room : StoreRoom} (request : Request)
      (caller : String) (payload : UploadArtifactChunkPayload)
      (uploads : Uploads store artifactId start content room)
      (sent : request.turn.operation = .uploadChunk caller payload)
      (whole : ¬ Torn artifactId (store.answer room request).2) :
      Uploads store artifactId start
        (content ++ acknowledged store artifactId room request)
        (store.answer room request).2

section Runs

variable {store : RemoteArtifactStore} {principal : String}
variable {descriptor : BeginArtifactUploadPayload} {content : List UInt8}

theorem Staged.nextOffset
    (staged : Staged artifactId principal descriptor content room) :
    room.memory.nextOffset artifactId = content.length := by
  unfold ArtifactState.nextOffset
  rw [staged.entry]

variable {request : Request}
variable {caller : String} {payload : UploadArtifactChunkPayload}

theorem Adds.acknowledged {reply : ArtifactChunkAcceptedPayload}
    {more : List UInt8}
    (staged : Staged artifactId principal descriptor content room)
    (sent : request.turn.operation = .uploadChunk caller payload)
    (answered : (store.answer room request).1 = .ok (.accepted reply))
    (adds : Adds store artifactId content payload reply more) :
    acknowledged store artifactId room request = more := by
  unfold Artifact.acknowledged
  rw [sent, answered, staged.nextOffset]
  dsimp only
  unfold Adds at adds
  split at adds
  · rename_i advanced
    rw [if_pos advanced, adds]
    rfl
  · rename_i still
    rw [if_neg still, adds]

/-- One piece. -/
theorem staged_answer
    (staged : Staged artifactId principal descriptor content room)
    (sent : request.turn.operation = .uploadChunk caller payload)
    (whole : ¬ Torn artifactId (store.answer room request).2) :
    Staged artifactId principal descriptor
      (content ++ acknowledged store artifactId room request)
      (store.answer room request).2 := by
  have serves : store.serve request.turn = replying .accepted
      (store.uploadChunk request.turn.now caller payload) := by
    unfold serve
    rw [sent]
  have run := answer_of_ensures serves (ensures_staged_uploadChunk store
    request.turn.now caller payload) ⟨staged.entry, staged.file, staged.orderly⟩
  cases ended : (store.answer room request).1 with
  | ok answer =>
      obtain ⟨reply, rfl, more, after, adds⟩ := run.1 answer ended
      rwa [adds.acknowledged staged sent ended]
  | error error =>
      have nothing : acknowledged store artifactId room request = [] := by
        unfold acknowledged
        rw [ended]
        split <;> simp_all
      rw [nothing, List.append_nil]
      exact (run.2 error ended).resolve_right whole

theorem Staged.uploads {start : StoreRoom} {acked : List UInt8}
    (staged : Staged artifactId principal descriptor [] start)
    (uploads : Uploads store artifactId start acked room) :
    Staged artifactId principal descriptor acked room := by
  induction uploads with
  | start => exact staged
  | chunk request caller payload uploads sent whole inductionHypothesis =>
      exact staged_answer inductionHypothesis sent whole

/-- An upload that was begun is staged. -/
theorem staged_of_begin {policy : PrincipalPolicy} {offset : ℕ}
    (orderly : Orderly room.memory) (fresh : Fresh room request.turn.drawn)
    (begins : request.turn.operation = .beginUpload policy descriptor)
    (begun : (store.answer room request).1 =
      .ok (.started ⟨request.turn.drawn, .uploading, offset⟩)) :
    Staged request.turn.drawn policy.clientId descriptor []
      (store.answer room request).2 := by
  have serves : store.serve request.turn = replying .started
      (store.beginUpload request.turn.now request.turn.drawn policy
        descriptor) := by
    unfold serve
    rw [begins]
  obtain ⟨payload, same, staged⟩ := (answer_of_ensures serves
    (ensures_staged_beginUpload store request.turn.now request.turn.drawn
      policy descriptor) ⟨orderly, fresh.unused⟩).1 _ begun
  cases same
  exact staged rfl rfl

/-- Completion without faults. -/
theorem completes_iff {expires : SystemTime} {text : String} {milliseconds : ℕ}
    (staged : Staged artifactId principal descriptor content room)
    (completes : request.turn.operation =
      .completeUpload principal artifactId) (quiet : request.faults = [])
    (timely : Timely store request.turn.later expires text milliseconds) :
    (∃ answer, (store.answer room request).1 = .ok answer) ↔
      Matching store content descriptor.sizeBytes descriptor.digest := by
  have serves : store.serve request.turn = replying .uploaded
      (store.completeUpload request.turn.now request.turn.later principal
        artifactId) := by
    unfold serve
    rw [completes]
  have run := answer_of_ensures serves (quiet_completeUpload timely
    request.turn.now) ⟨quiet, staged.entry, staged.file, staged.orderly⟩
  cases ended : (store.answer room request).1 with
  | ok answer =>
      obtain ⟨_, -, matching, -⟩ := run.1 answer ended
      exact ⟨fun _ => matching, fun _ => ⟨answer, rfl⟩⟩
  | error error =>
      have mismatch := run.2 error ended
      exact ⟨fun ⟨_, never⟩ => (nomatch never), fun matching =>
        (mismatch matching).elim⟩

/-- The staging file holds the pieces that were acknowledged, and the upload
can be completed if and only if these are what was declared. -/
theorem staging_of_uploads {Allowed : StoreRoom → Request → Prop}
    {start before : StoreRoom} {request : Request} {policy : PrincipalPolicy}
    {offset : ℕ} {acked : List UInt8}
    (orderly : Orderly start.memory)
    (served : Serves store Allowed start before)
    (fresh : Fresh before request.turn.drawn)
    (begins : request.turn.operation = .beginUpload policy descriptor)
    (begun : (store.answer before request).1 =
      .ok (.started ⟨request.turn.drawn, .uploading, offset⟩))
    (uploads : Uploads store request.turn.drawn (store.answer before request).2
      acked room) :
    room.memory.artifacts.lookup request.turn.drawn =
        some ⟨policy.clientId, .uploading descriptor
          (.at request.turn.drawn .staging) acked.length⟩ ∧
      room.files (.at request.turn.drawn .staging) = some (.bytes acked) ∧
      ∀ completion expires text milliseconds,
        completion.turn.operation =
          .completeUpload policy.clientId request.turn.drawn →
        completion.faults = [] →
        Timely store completion.turn.later expires text milliseconds →
        ((∃ answer, (store.answer room completion).1 = .ok answer) ↔
          Matching store acked descriptor.sizeBytes descriptor.digest) := by
  have staged := (staged_of_begin (orderly_of_serves served orderly) fresh
    begins begun).uploads uploads
  exact ⟨staged.entry, staged.file, fun completion _ _ _ completes quiet
    timely => completes_iff staged completes quiet timely⟩

end Runs

/-- The first byte of an upload of one byte is in its file, and the upload can
be completed. -/
theorem staging_filledRoom :
    filledRoom.files (.at firstId .staging) = some (.bytes [0]) ∧
      ∃ answer, (smallStore.answer filledRoom
        (quiet (.completeUpload "client" firstId) firstId)).1 = .ok answer := by
  have uploads : Uploads smallStore firstId declaredRoom
      ([] ++ acknowledged smallStore firstId declaredRoom
        (quiet (.uploadChunk "client" ⟨firstId, 0, "AA=="⟩) firstId))
      filledRoom := by
    refine .chunk _ _ _ .start rfl ?_
    rintro ⟨written, files, -, failed⟩
    have answers : filledRoom.steps.all
        (fun step => step.answer matches .ok _) = true := by
      decide +kernel
    cases List.all_eq_true.mp answers _ failed
  have acked : acknowledged smallStore firstId declaredRoom
      (quiet (.uploadChunk "client" ⟨firstId, 0, "AA=="⟩) firstId) = [0] := by
    decide +kernel
  rw [acked] at uploads
  have begun : (smallStore.answer emptyRoom
      (quiet (.beginUpload smallPolicy oneByte) firstId)).1 =
        .ok (.started ⟨firstId, .uploading, 0⟩) := by
    decide +kernel
  have any : Serves smallStore (fun _ _ => True) emptyRoom emptyRoom :=
    .start emptyRoom
  have staging := staging_of_uploads orderly_empty any
    ⟨rfl, fun _ => rfl, rfl⟩ rfl begun uploads
  refine ⟨staging.2.1, (staging.2.2 _ 1000000000 "1970-01-01T00:00:01Z" 1000
    rfl rfl ⟨rfl, rfl, rfl⟩).mpr ⟨rfl, rfl⟩⟩

/-- An upload of two bytes. -/
def twoBytes : BeginArtifactUploadPayload where
  clientArtifactId := "00000000-0000-4000-8000-000000000005"
  digest := smallDigest [0, 1]
  sizeBytes := 2
  mediaType := none

/-- Both bytes are sent. -/
def bothBytes : Operation :=
  .uploadChunk "client" ⟨firstId, 0, "AAE="⟩

/-- Only the first of them reached the file when the write failed. -/
def tornRoom : StoreRoom :=
  (smallStore.answer (smallStore.answer emptyRoom
    (quiet (.beginUpload smallPolicy twoBytes) firstId)).2
    ⟨(quiet bothBytes firstId).turn, [none, some 1]⟩).2

/-- The upload still has the offset zero.  When the client sends the bytes
again, they are acknowledged, but the upload cannot be completed. -/
theorem torn_staging :
    tornRoom.memory.artifacts.lookup firstId =
        some (newUpload smallPolicy twoBytes firstId) ∧
      tornRoom.files (.at firstId .staging) = some (.bytes [0]) ∧
      (smallStore.answer tornRoom (quiet bothBytes firstId)).1 =
        .ok (.accepted ⟨firstId, 2⟩) ∧
      Matching smallStore [0, 1] twoBytes.sizeBytes twoBytes.digest ∧
      (smallStore.answer
        (smallStore.answer tornRoom (quiet bothBytes firstId)).2
        (quiet (.completeUpload "client" firstId) firstId)).1 =
          .error .digestMismatch := by
  have runs : tornRoom.memory.artifacts.lookup firstId =
        some (newUpload smallPolicy twoBytes firstId) ∧
      tornRoom.files (.at firstId .staging) = some (.bytes [0]) ∧
      (smallStore.answer tornRoom (quiet bothBytes firstId)).1 =
        .ok (.accepted ⟨firstId, 2⟩) ∧
      (smallStore.answer
        (smallStore.answer tornRoom (quiet bothBytes firstId)).2
        (quiet (.completeUpload "client" firstId) firstId)).1 =
          .error .digestMismatch := by
    decide +kernel
  exact ⟨runs.1, runs.2.1, runs.2.2.1, ⟨rfl, rfl⟩, runs.2.2.2⟩

/-- After any run from an empty store, whatever failed in it, no two artifacts
share a file, and a purge during which no call fails succeeds. -/
theorem apart_of_serves {store : RemoteArtifactStore} {room : StoreRoom}
    (served : Serves store (fun _ _ => True) emptyRoom room)
    (now : SystemTime) :
    (∀ first second record other,
      room.memory.artifacts.lookup first = some record →
      room.memory.artifacts.lookup second = some other →
      record.path = other.path → first = second) ∧
    (purgeExpired now { room with faults := [] }).1 = .ok () := by
  have orderly := orderly_of_serves served orderly_empty
  constructor
  · intro first second record other found present same
    obtain ⟨_, here⟩ := (orderly first record found).path
    obtain ⟨_, there⟩ := (orderly second other present).path
    rw [here, there] at same
    cases same
    rfl
  · have ends := quiet_purge now { room with faults := [] } ⟨rfl, orderly⟩
    cases ended : (purgeExpired now { room with faults := [] }).1 with
    | ok => rfl
    | error error => exact (ends.2 error ended).elim

theorem apart_ownedRoom :
    (purgeExpired 0 { ownedRoom with faults := [] }).1 = .ok () :=
  (apart_of_serves (serves_ownedRoom fun _ _ _ _ => trivial) 0).2

end Artifact
end TaskCage
