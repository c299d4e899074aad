import TaskCage.Artifact.Serving

/-!
# Upload keys

The index of upload keys is the inverse of the records that are being uploaded
or completed.  A key that is freed by a transfer may be taken by another upload;
giving the first input back then overwrites the entry of the second, so the
index is exact in the runs in which this does not happen.
-/

namespace TaskCage
namespace Artifact

open Filing RemoteArtifactStore

/-- The key of an artifact that is being uploaded or completed. -/
def ArtifactRecord.uploadKey (record : ArtifactRecord) : Option UploadKey :=
  record.upload.map fun descriptor =>
    (record.principal, descriptor.clientArtifactId)

/-- The key under which an artifact should be found. -/
def ArtifactState.keyOf (state : ArtifactState) (artifactId : String) :
    Option UploadKey :=
  (state.artifacts.lookup artifactId).bind ArtifactRecord.uploadKey

/-- The upload keys are exactly those of the uploads. -/
structure KeysExact (state : ArtifactState) : Prop where
  /-- Every upload is the value of its own key. -/
  listed : ∀ artifactId record key,
    state.artifacts.lookup artifactId = some record →
    record.uploadKey = some key →
    state.uploadKeys.lookup key = some artifactId
  /-- Every key points to an upload with that key. -/
  points : ∀ key artifactId,
    state.uploadKeys.lookup key = some artifactId →
    ∃ record, state.artifacts.lookup artifactId = some record ∧
      record.uploadKey = some key
  /-- No two uploads have the same key. -/
  distinct : ∀ first second record other key,
    state.artifacts.lookup first = some record →
    state.artifacts.lookup second = some other →
    record.uploadKey = some key → other.uploadKey = some key →
    first = second

variable {state changed : ArtifactState} {artifactId : String}
variable {record : ArtifactRecord} {key : UploadKey}

theorem keysExact_iff_inverts :
    KeysExact state ↔ Table.Inverts state.uploadKeys state.keyOf := by
  constructor
  · intro exact key artifactId
    refine ⟨fun present => ?_, fun named => ?_⟩
    · obtain ⟨record, found, keyed⟩ := exact.points key artifactId present
      simp [ArtifactState.keyOf, found, keyed]
    · obtain ⟨record, found, keyed⟩ := Option.bind_eq_some_iff.mp named
      exact exact.listed artifactId record key found keyed
  · intro inverts
    have listed (artifactId : String) (record : ArtifactRecord)
        (key : UploadKey)
        (found : state.artifacts.lookup artifactId = some record)
        (keyed : record.uploadKey = some key) :
        state.uploadKeys.lookup key = some artifactId :=
      (inverts key artifactId).mpr (by simp [ArtifactState.keyOf, found, keyed])
    refine ⟨listed, fun key artifactId present => ?_, ?_⟩
    · exact Option.bind_eq_some_iff.mp ((inverts key artifactId).mp present)
    · intro first second record other key found otherFound keyed otherKeyed
      have present := listed first record key found keyed
      rw [listed second other key otherFound otherKeyed] at present
      exact (Option.some.inj present).symm

/-! ### Updates -/

theorem keyOf_insert (state changed : ArtifactState)
    (inserted : changed.artifacts = state.artifacts.insert artifactId record) :
    changed.keyOf artifactId = record.uploadKey ∧
      ∀ other, other ≠ artifactId → changed.keyOf other = state.keyOf other := by
  unfold ArtifactState.keyOf
  rw [inserted]
  refine ⟨by simp [OrderedTable.lookup_insert_eq_ite], fun other different => ?_⟩
  rw [OrderedTable.lookup_insert_eq_ite, if_neg different]

theorem keyOf_erase (state changed : ArtifactState)
    (erased : changed.artifacts = state.artifacts.erase artifactId) :
    changed.keyOf artifactId = none ∧
      ∀ other, other ≠ artifactId → changed.keyOf other = state.keyOf other := by
  unfold ArtifactState.keyOf
  rw [erased]
  refine ⟨by simp [OrderedTable.lookup_erase_eq_ite], fun other different => ?_⟩
  rw [OrderedTable.lookup_erase_eq_ite, if_neg different]

/-- Only one artifact has changed, and its key has not. -/
theorem keyOf_eq_of_same
    (same : changed.keyOf artifactId = state.keyOf artifactId)
    (others : ∀ other, other ≠ artifactId →
      changed.keyOf other = state.keyOf other) (other : String) :
    changed.keyOf other = state.keyOf other := by
  by_cases equal : other = artifactId
  · rw [equal, same]
  · exact others other equal

theorem keyOf_of_lookup
    (found : state.artifacts.lookup artifactId = some record) :
    state.keyOf artifactId = record.uploadKey := by
  simp [ArtifactState.keyOf, found]

theorem keyOf_of_absent (absent : state.artifacts.lookup artifactId = none) :
    state.keyOf artifactId = none := by
  simp [ArtifactState.keyOf, absent]

/-- With an exact index a request for an unknown upload finds its key free. -/
theorem lookup_of_existingUpload
    (inverts : Table.Inverts state.uploadKeys state.keyOf)
    (unused : existingUpload key state = none) :
    state.uploadKeys.lookup key = none := by
  cases present : state.uploadKeys.lookup key with
  | none => rfl
  | some artifactId =>
      obtain ⟨record, found, -⟩ :=
        Option.bind_eq_some_iff.mp ((inverts key artifactId).mp present)
      simp [existingUpload, present, found] at unused

/-! ### Changes -/

/-- A record is replaced by one with the same key. -/
theorem KeysExact.replaced {changed : ArtifactRecord} (exact : KeysExact state)
    (found : state.artifacts.lookup artifactId = some record)
    (same : changed.uploadKey = record.uploadKey) :
    KeysExact (state.setRecord artifactId changed) := by
  have inserted := keyOf_insert state (state.setRecord artifactId changed) rfl
  refine keysExact_iff_inverts.mpr
    ((keysExact_iff_inverts.mp exact).congr (keyOf_eq_of_same ?_ inserted.2))
  rw [inserted.1, same, keyOf_of_lookup found]

/-- An artifact with a key is forgotten or given to a task. -/
theorem KeysExact.released (exact : KeysExact state)
    (found : state.artifacts.lookup artifactId = some record)
    (keyed : record.uploadKey = some key)
    (keys : changed.uploadKeys = state.uploadKeys.erase key)
    (unnamed : changed.keyOf artifactId = none)
    (others : ∀ other, other ≠ artifactId →
      changed.keyOf other = state.keyOf other) : KeysExact changed := by
  refine keysExact_iff_inverts.mpr ?_
  rw [keys]
  exact (keysExact_iff_inverts.mp exact).erase
    ((keyOf_of_lookup found).trans keyed) unnamed others

theorem KeysExact.discarded (exact : KeysExact state)
    (found : state.artifacts.lookup artifactId = some record)
    (free : record.Free) : KeysExact (state.discard artifactId record) := by
  have erased := keyOf_erase state (state.discard artifactId record)
    (ArtifactState.artifacts_discard state artifactId record)
  obtain ⟨principal, stored⟩ := record
  cases stored with
  | uploading descriptor path nextOffset =>
      refine exact.released found rfl ?_ erased.1 erased.2
      simp [ArtifactState.discard, ArtifactRecord.descriptor]
  | completed descriptor path expires uploaded =>
      refine exact.released found rfl ?_ erased.1 erased.2
      simp [ArtifactState.discard, ArtifactRecord.descriptor]
  | taskOwned => exact absurd rfl (free _ _ _ _ _)
  | output path expires payload =>
      refine keysExact_iff_inverts.mpr ((keysExact_iff_inverts.mp exact).congr
        (keyOf_eq_of_same ?_ erased.2))
      rw [erased.1, keyOf_of_lookup found]
      rfl

/-- An artifact without a key is forgotten. -/
theorem KeysExact.dropped (exact : KeysExact state)
    (unnamed : state.keyOf artifactId = none) :
    KeysExact (state.removeRecord artifactId) := by
  have erased := keyOf_erase state (state.removeRecord artifactId) rfl
  exact keysExact_iff_inverts.mpr ((keysExact_iff_inverts.mp exact).congr
    (keyOf_eq_of_same (erased.1.trans unnamed.symm) erased.2))

/-- An artifact with a free key is new, or its key comes back. -/
theorem KeysExact.named (exact : KeysExact state)
    (unnamed : state.keyOf artifactId = none)
    (free : state.uploadKeys.lookup key = none)
    (keyed : record.uploadKey = some key)
    (inserted : changed.artifacts = state.artifacts.insert artifactId record)
    (keys : changed.uploadKeys = state.uploadKeys.insert key artifactId) :
    KeysExact changed := by
  have named := keyOf_insert state changed inserted
  refine keysExact_iff_inverts.mpr ?_
  rw [keys]
  exact (keysExact_iff_inverts.mp exact).insert free unnamed
    (named.1.trans keyed) named.2

/-- A change keeps the upload keys exact. -/
theorem keysExact_of_change {Granted : PrincipalPolicy → Prop}
    {before after : ArtifactState} (exact : KeysExact before)
    (change : Change Granted before after) : KeysExact after := by
  cases change with
  | touched principal => exact ⟨exact.listed, exact.points, exact.distinct⟩
  | begun policy artifactId descriptor quota granted fresh unused reserved =>
      exact exact.named (keyOf_of_absent fresh)
        (lookup_of_existingUpload (keysExact_iff_inverts.mp exact) unused)
        rfl rfl rfl
  | advanced artifactId record descriptor path nextOffset next found
      uploading =>
      refine exact.replaced found ?_
      simp [ArtifactRecord.uploadKey, ArtifactRecord.upload, uploading]
  | completed artifactId record descriptor path nextOffset expires
      milliseconds uploaded found uploading stored =>
      refine exact.replaced found ?_
      simp [ArtifactRecord.uploadKey, ArtifactRecord.upload, uploading]
  | discarded artifactId record found free => exact exact.discarded found free
  | transferred principal taskId move found destination =>
      have inserted := keyOf_insert before _
        (artifacts_transferOne principal taskId before move)
      refine exact.released found rfl ?_ inserted.1 inserted.2
      simp [transferOne]
  | dropped input taskId found => exact exact.dropped (keyOf_of_lookup found)
  | published artifactId principal expires milliseconds payload fresh stored =>
      have inserted := keyOf_insert before (before.setRecord artifactId
        ⟨principal, .output (.at artifactId .output) expires payload⟩) rfl
      refine keysExact_iff_inverts.mpr ((keysExact_iff_inverts.mp exact).congr
        (keyOf_eq_of_same ?_ inserted.2))
      rw [inserted.1, keyOf_of_absent fresh]
      rfl

/-! ### Runs -/

/-- No key of an input of the task is in use, by another upload or by another
input. -/
structure KeysFree (taskId : String) (state : ArtifactState) : Prop where
  free : ∀ input ∈ state.taskInputs taskId,
    state.uploadKeys.lookup input.key = none
  distinct : ((state.taskInputs taskId).map TaskInput.key).Nodup

/-- Inputs whose keys are still free. -/
structure KeysLeft (inputs : List TaskInput) (state : ArtifactState) :
    Prop where
  exact : KeysExact state
  free : ∀ input ∈ inputs, state.uploadKeys.lookup input.key = none
  distinct : (inputs.map TaskInput.key).Nodup

theorem KeysLeft.giveBack {taskId : String} {input : TaskInput}
    {rest : List TaskInput} (left : KeysLeft (input :: rest) state)
    (inputs : Inputs taskId (input :: rest) state) :
    KeysLeft rest (giveBack input state) := by
  have distinct := List.nodup_cons.mp left.distinct
  refine ⟨?_, fun other member => ?_, distinct.2⟩
  · exact left.exact.named
      (keyOf_of_lookup (inputs.found input List.mem_cons_self))
      (left.free input List.mem_cons_self) rfl rfl rfl
  · have different : other.key ≠ input.key := fun same =>
      distinct.1 (same ▸ List.mem_map_of_mem member)
    change (state.uploadKeys.insert input.key input.artifactId).lookup _ = _
    rw [Table.lookup_insert_eq_ite, if_neg different]
    exact left.free other (List.mem_cons_of_mem _ member)

theorem KeysExact.stuck {input : TaskInput} {reached : ArtifactState}
    (exact : KeysExact state) (stuck : Stuck input state reached) :
    KeysExact reached := by
  cases stuck with
  | same => exact exact
  | touched => exact ⟨exact.listed, exact.points, exact.distinct⟩
  | counted overflow => exact ⟨exact.listed, exact.points, exact.distinct⟩

theorem ensures_keysExact_restoreTaskInputs (taskId : String) :
    Ensures
      (Remembers fun state => KeysExact state ∧ KeysFree taskId state)
      (restoreTaskInputs taskId) (fun _ => Remembers KeysExact)
      fun _ => Remembers KeysExact :=
  ensures_restoreTaskInputs KeysLeft
    (fun _ known => ⟨known.1, known.2.free, known.2.distinct⟩)
    (fun _ _ _ left inputs => left.giveBack inputs)
    (fun _ _ _ _ left stuck => left.exact.stuck stuck)
    fun _ left => left.exact

theorem keysExact_empty : KeysExact .empty where
  listed _ _ _ found := by cases found
  points _ _ present := by cases present
  distinct _ _ _ _ _ found := by cases found

/-- From an empty store, if no task gets its inputs back while a key of theirs
is in use, the upload keys are always exact. -/
theorem keysExact_of_serves {store : RemoteArtifactStore}
    {start room : StoreRoom} (empty : start.memory = .empty)
    (served : Serves store (Restoring KeysFree) start room) :
    KeysExact room.memory :=
  served.remembers (fun _ _ _ _ _ _ => trivial) (fun _ _ clear => clear)
    (empty ▸ keysExact_empty)
    (fun _ _ exact change => keysExact_of_change exact change)
    ensures_keysExact_restoreTaskInputs

/-- The input of the task is given back. -/
def returnedRoom : StoreRoom :=
  (smallStore.answer ownedRoom (quiet (.restoreTaskInputs smallTask) firstId)).2

theorem keysFree_ownedRoom : KeysFree smallTask ownedRoom.memory := by
  have both : (∀ input ∈ ownedRoom.memory.taskInputs smallTask,
      ownedRoom.memory.uploadKeys.lookup input.key = none) ∧
      ((ownedRoom.memory.taskInputs smallTask).map TaskInput.key).Nodup := by
    decide +kernel
  exact ⟨both.1, both.2⟩

/-- An input that is given back while its key is free. -/
theorem keysExact_returnedRoom : KeysExact returnedRoom.memory := by
  have served : Serves smallStore (Restoring KeysFree) emptyRoom
      returnedRoom := by
    refine .answer _ (serves_ownedRoom ?_) nofun ?_
    · exact fun room operation drawn plain taskId restoring =>
        absurd restoring (plain.keeps taskId)
    · rintro taskId ⟨⟩
      exact keysFree_ownedRoom
  exact keysExact_of_serves rfl served

/-- Another upload took the key of the input. -/
def takenRoom : StoreRoom :=
  (smallStore.answer ownedRoom
    (quiet (.beginUpload smallPolicy oneByte) secondId)).2

/-- The input is given back all the same. -/
def collidedRoom : StoreRoom :=
  (smallStore.answer takenRoom (quiet (.restoreTaskInputs smallTask) firstId)).2

/-- Without any fault two uploads may end up with the same key. -/
theorem not_keysExact_collidedRoom :
    Serves smallStore (fun _ request => request.faults = []) emptyRoom
      collidedRoom ∧ ¬ KeysExact collidedRoom.memory := by
  refine ⟨.answer _ (.answer _ (serves_ownedRoom fun _ _ _ _ => rfl)
    (fun _ => fresh_ownedRoom) rfl) nofun rfl, fun exact => ?_⟩
  have both : collidedRoom.memory.keyOf secondId =
        some ("client", oneByte.clientArtifactId) ∧
      collidedRoom.memory.uploadKeys.lookup
        ("client", oneByte.clientArtifactId) = some firstId.1 := by
    decide +kernel
  have present := (keysExact_iff_inverts.mp exact _ _).mpr both.1
  rw [both.2] at present
  exact absurd present (by decide)

end Artifact
end TaskCage
