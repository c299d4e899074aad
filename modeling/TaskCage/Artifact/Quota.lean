import TaskCage.Artifact.Keys
import TaskCage.Artifact.Open

/-!
# Quotas

The quota of a principal counts its uploads and their declared sizes.  It is
checked when an upload is declared only; an input that a task gives back takes
up its share again, whatever the other uploads have taken meanwhile.
-/

namespace TaskCage
namespace Artifact

open Filing RemoteArtifactStore

/-! ### What uploads take up -/

/-- What an artifact takes up of the quota of a principal. -/
def ArtifactRecord.share (measure : BeginArtifactUploadPayload → ℕ)
    (principal : String) (record : ArtifactRecord) : ℕ :=
  match record.upload with
  | some descriptor =>
      if record.principal = principal then measure descriptor else 0
  | none => 0

/-- What the uploads of a principal take up. -/
def ArtifactState.used (measure : BeginArtifactUploadPayload → ℕ)
    (principal : String) (state : ArtifactState) : ℕ :=
  state.artifacts.total fun _ record => record.share measure principal

/-- The declared sizes of the uploads of a principal. -/
def ArtifactState.usedBytes (principal : String) (state : ArtifactState) : ℕ :=
  state.used BeginArtifactUploadPayload.sizeBytes principal

/-- The number of uploads of a principal. -/
def ArtifactState.usedCount (principal : String) (state : ArtifactState) : ℕ :=
  state.used (fun _ => 1) principal

/-- The quota of a principal is what its uploads take up. -/
def QuotaExact (principal : String) (state : ArtifactState) : Prop :=
  state.quota principal = ⟨state.usedBytes principal, state.usedCount principal⟩

section Used

variable {state changed : ArtifactState} {artifactId : String}
variable {record : ArtifactRecord}
variable (measure : BeginArtifactUploadPayload → ℕ) (principal : String)

theorem used_of_artifacts_eq (same : changed.artifacts = state.artifacts) :
    changed.used measure principal = state.used measure principal := by
  unfold ArtifactState.used
  rw [same]

theorem used_of_erase (found : state.artifacts.lookup artifactId = some record)
    (erased : changed.artifacts = state.artifacts.erase artifactId) :
    state.used measure principal =
      record.share measure principal + changed.used measure principal := by
  unfold ArtifactState.used
  rw [erased]
  exact OrderedTable.total_of_lookup_eq_some _ found

theorem used_of_insert (absent : state.artifacts.lookup artifactId = none)
    (inserted : changed.artifacts = state.artifacts.insert artifactId record) :
    changed.used measure principal =
      record.share measure principal + state.used measure principal := by
  unfold ArtifactState.used
  rw [inserted]
  exact OrderedTable.total_insert_of_lookup_eq_none _ absent _

/-- The record of an artifact is replaced. -/
theorem used_of_replace {replaced : ArtifactRecord}
    (found : state.artifacts.lookup artifactId = some replaced)
    (inserted : changed.artifacts = state.artifacts.insert artifactId record) :
    changed.used measure principal + replaced.share measure principal =
      record.share measure principal + state.used measure principal := by
  unfold ArtifactState.used
  rw [inserted, OrderedTable.total_insert,
    OrderedTable.total_of_lookup_eq_some _ found]
  omega

/-- Without uploads nothing is taken up. -/
theorem usedBytes_eq_zero {principal : String}
    (none : state.usedCount principal = 0) :
    state.usedBytes principal = 0 := by
  unfold ArtifactState.usedCount ArtifactState.usedBytes ArtifactState.used at *
  rw [OrderedTable.total_eq_zero_iff] at *
  intro artifactId record found
  have counted := none artifactId record found
  unfold ArtifactRecord.share at *
  split at counted
  · split at counted
    · cases counted
    · rename_i other
      rw [if_neg other]
  · rfl

end Used

/-! ### Changes -/

variable {principal taskId : String} {state : ArtifactState}
variable {policy : PrincipalPolicy} {input : TaskInput} {rest : List TaskInput}

theorem quota_releaseQuota_of_ne (state : ArtifactState) {other : String}
    (different : other ≠ principal) (bytes : ℕ) :
    (state.releaseQuota principal bytes).quota other = state.quota other := by
  unfold ArtifactState.releaseQuota
  split
  · rfl
  · split
    · rw [ArtifactState.quota, Table.lookup_erase_eq_ite, if_neg different]
      rfl
    · rw [ArtifactState.quota_setQuota, if_neg different]

/-- Giving back what one of several uploads took up. -/
theorem quota_releaseQuota_self {bytes used count : ℕ}
    (taken : state.quota principal = ⟨bytes + used, count + 1⟩)
    (empty : count = 0 → used = 0) :
    (state.releaseQuota principal bytes).quota principal = ⟨used, count⟩ := by
  unfold ArtifactState.releaseQuota
  cases present : state.quotas.lookup principal with
  | none =>
      rw [ArtifactState.quota, present] at taken
      exact absurd (congrArg PrincipalQuota.count taken) (by simp)
  | some quota =>
      rw [ArtifactState.quota, present] at taken
      obtain rfl : quota = ⟨bytes + used, count + 1⟩ := taken
      dsimp only
      split
      · rename_i last
        obtain rfl : count = 0 := last
        rw [ArtifactState.quota, Table.lookup_erase_eq_ite, if_pos rfl,
          empty rfl]
        rfl
      · rw [ArtifactState.quota_setQuota, if_pos rfl, Nat.add_sub_cancel_left,
          Nat.add_sub_cancel]

/-- An upload that is declared finds room. -/
theorem quota_of_reserveQuota {quota reserved : PrincipalQuota} {sizeBytes : ℕ}
    (ended : reserveQuota policy quota sizeBytes = .ok reserved) :
    reserved = ⟨quota.bytes + sizeBytes, quota.count + 1⟩ ∧
      reserved.count ≤ policy.maxPrincipalArtifacts ∧
      reserved.bytes ≤ policy.maxPrincipalArtifactBytes := by
  unfold reserveQuota at ended
  split at ended
  · rename_i count bytes counts sizes
    obtain ⟨-, rfl⟩ := checkedAdd_eq_some_iff.mp counts
    obtain ⟨-, rfl⟩ := checkedAdd_eq_some_iff.mp sizes
    split at ended
    · cases ended
    · rename_i within
      cases ended
      obtain ⟨counted, sized⟩ := not_or.mp within
      exact ⟨rfl, Nat.le_of_not_lt counted, Nat.le_of_not_lt sized⟩
  · cases ended

section Exact

variable {changed : ArtifactState} {descriptor : BeginArtifactUploadPayload}

/-- Nothing that matters has changed. -/
theorem QuotaExact.kept (exact : QuotaExact principal state)
    (quota : changed.quota principal = state.quota principal)
    (used : ∀ measure,
      changed.used measure principal = state.used measure principal) :
    QuotaExact principal changed := by
  unfold QuotaExact ArtifactState.usedBytes ArtifactState.usedCount at *
  rw [quota, exact, used, used]

/-- An upload takes up its share. -/
theorem QuotaExact.taken (exact : QuotaExact principal state)
    (quota : changed.quota principal =
      ⟨(state.quota principal).bytes + descriptor.sizeBytes,
        (state.quota principal).count + 1⟩)
    (used : ∀ measure, changed.used measure principal =
      measure descriptor + state.used measure principal) :
    QuotaExact principal changed := by
  unfold QuotaExact ArtifactState.usedBytes ArtifactState.usedCount at *
  rw [quota, used, used, exact, PrincipalQuota.mk.injEq]
  exact ⟨Nat.add_comm _ _, Nat.add_comm _ _⟩

/-- An upload gives back its share. -/
theorem QuotaExact.released (exact : QuotaExact principal state)
    (quota : ∀ used count,
      state.quota principal = ⟨descriptor.sizeBytes + used, count + 1⟩ →
      (count = 0 → used = 0) → changed.quota principal = ⟨used, count⟩)
    (used : ∀ measure, state.used measure principal =
      measure descriptor + changed.used measure principal) :
    QuotaExact principal changed := by
  refine quota _ _ ?_ usedBytes_eq_zero
  unfold QuotaExact at exact
  rw [exact, PrincipalQuota.mk.injEq]
  exact ⟨used _, (used _).trans (Nat.add_comm _ _)⟩

/-- What a change does to the quota of a principal and to what its uploads take
up. -/
inductive Effect (Granted : PrincipalPolicy → Prop) (principal : String)
    (state changed : ArtifactState) : Prop where
  | kept
      (quota : changed.quota principal = state.quota principal)
      (used : ∀ measure,
        changed.used measure principal = state.used measure principal)
  | taken (policy : PrincipalPolicy) (descriptor : BeginArtifactUploadPayload)
      (granted : Granted policy) (owner : policy.clientId = principal)
      (reserved : reserveQuota policy (state.quota principal)
        descriptor.sizeBytes = .ok (changed.quota principal))
      (used : ∀ measure, changed.used measure principal =
        measure descriptor + state.used measure principal)
  | released (descriptor : BeginArtifactUploadPayload)
      (quota : ∀ used count,
        state.quota principal = ⟨descriptor.sizeBytes + used, count + 1⟩ →
        (count = 0 → used = 0) → changed.quota principal = ⟨used, count⟩)
      (used : ∀ measure, state.used measure principal =
        measure descriptor + changed.used measure principal)

variable (measure : BeginArtifactUploadPayload → ℕ)

/-- The share of an upload. -/
theorem share_of_upload {record : ArtifactRecord}
    (upload : record.upload = some descriptor) :
    record.share measure principal =
      if record.principal = principal then measure descriptor else 0 := by
  unfold ArtifactRecord.share
  rw [upload]

theorem share_of_none {record : ArtifactRecord} (none : record.upload = none) :
    record.share measure principal = 0 := by
  unfold ArtifactRecord.share
  rw [none]

variable {Granted : PrincipalPolicy → Prop} {artifactId : String}
variable {record replacement : ArtifactRecord}

/-- An upload leaves; its record may stay. -/
theorem effect_of_release (record : ArtifactRecord) (between : ArtifactState)
    (upload : record.upload = some descriptor)
    (same : between.quota = state.quota)
    (quota : changed.quota = (between.releaseQuota record.principal
      descriptor.sizeBytes).quota)
    (used : ∀ measure, state.used measure principal =
      record.share measure principal + changed.used measure principal) :
    Effect Granted principal state changed := by
  by_cases owner : record.principal = principal
  · refine .released descriptor (fun _ _ taken empty => ?_) fun measure => ?_
    · rw [quota, owner]
      exact quota_releaseQuota_self (same ▸ taken) empty
    · rw [used measure, share_of_upload measure upload, if_pos owner]
  · refine .kept ?_ fun measure => ?_
    · rw [quota, quota_releaseQuota_of_ne _ (Ne.symm owner), same]
    · rw [used measure, share_of_upload measure upload, if_neg owner,
        Nat.zero_add]

/-- An artifact that is no upload comes or leaves. -/
theorem effect_of_none (none : record.upload = none)
    (quota : changed.quota = state.quota)
    (used : ∀ measure, changed.used measure principal =
        record.share measure principal + state.used measure principal ∨
      state.used measure principal =
        record.share measure principal + changed.used measure principal) :
    Effect Granted principal state changed := by
  refine .kept (congrFun quota principal) fun measure => ?_
  rcases used measure with grown | shrunk
  · rw [grown, share_of_none measure none, Nat.zero_add]
  · rw [shrunk, share_of_none measure none, Nat.zero_add]

/-- A record is replaced by one with the same descriptor. -/
theorem effect_of_replace
    (found : state.artifacts.lookup artifactId = some record)
    (owner : replacement.principal = record.principal)
    (same : replacement.upload = record.upload) :
    Effect Granted principal state
      (state.setRecord artifactId replacement) := by
  refine .kept rfl fun measure => ?_
  have replaced := used_of_replace measure principal found
    (ArtifactState.artifacts_setRecord state artifactId replacement)
  unfold ArtifactRecord.share at replaced
  rw [owner, same] at replaced
  omega

theorem effect_of_discard
    (found : state.artifacts.lookup artifactId = some record)
    (free : record.Free) :
    Effect Granted principal state (state.discard artifactId record) := by
  have used (measure) := used_of_erase measure principal found
    (ArtifactState.artifacts_discard state artifactId record)
  obtain ⟨owner, stored⟩ := record
  cases stored with
  | uploading descriptor path nextOffset =>
      exact effect_of_release _ ((state.removeRecord artifactId).removeKey
        (owner, descriptor.clientArtifactId)) rfl rfl rfl used
  | completed descriptor path expires uploaded =>
      exact effect_of_release _ ((state.removeRecord artifactId).removeKey
        (owner, descriptor.clientArtifactId)) rfl rfl rfl used
  | taskOwned => exact absurd rfl (free _ _ _ _ _)
  | output path expires payload =>
      exact effect_of_none rfl rfl fun measure => .inr (used measure)

/-- Every change has one of the effects. -/
theorem effect_of_change (principal : String)
    (change : Change Granted state changed) :
    Effect Granted principal state changed := by
  cases change with
  | touched toucher =>
      refine .kept ?_ fun measure => used_of_artifacts_eq measure _ rfl
      rw [ArtifactState.quota_setQuota]
      split
      · rename_i same
        rw [same]
      · rfl
  | begun policy artifactId descriptor quota granted fresh unused reserved =>
      have inserted : (ArtifactState.setRecord _ artifactId
          (newUpload policy descriptor artifactId)).artifacts =
        state.artifacts.insert artifactId _ := rfl
      have used (measure) := (used_of_insert measure principal fresh
        inserted).trans (congrArg (· + _) (share_of_upload measure rfl))
      by_cases owner : policy.clientId = principal
      · subst owner
        refine .taken policy descriptor granted rfl ?_ fun measure => ?_
        · exact reserved.trans (congrArg Except.ok ((ArtifactState.quota_setQuota
            state _ _ quota).trans (if_pos rfl)).symm)
        · exact (used measure).trans (congrArg (· + _) (if_pos rfl))
      · refine .kept ?_ fun measure => ?_
        · exact (ArtifactState.quota_setQuota state _ _ quota).trans
            (if_neg (Ne.symm owner))
        · exact (used measure).trans ((congrArg (· + _) (if_neg owner)).trans
            (Nat.zero_add _))
  | advanced artifactId record descriptor path nextOffset next found
      uploading =>
      refine effect_of_replace found rfl ?_
      simp [ArtifactRecord.upload, uploading]
  | completed artifactId record descriptor path nextOffset expires
      milliseconds uploaded found uploading stored =>
      refine effect_of_replace found rfl ?_
      simp [ArtifactRecord.upload, uploading]
  | discarded artifactId record found free => exact effect_of_discard found free
  | transferred owner taskId move found destination =>
      have replaced (measure) := used_of_replace measure principal found
        (artifacts_transferOne owner taskId state move)
      refine effect_of_release ⟨owner, .completed move.descriptor move.source
        move.expires move.uploaded⟩ (state.removeKey
          (owner, move.descriptor.clientArtifactId)) rfl rfl rfl
            fun measure => ?_
      exact ((replaced measure).trans (Nat.zero_add _)).symm.trans
        (Nat.add_comm _ _)
  | dropped input taskId found =>
      exact effect_of_none rfl rfl fun measure => .inr
        (used_of_erase measure principal found
          (ArtifactState.artifacts_removeRecord state input.artifactId))
  | published artifactId owner expires milliseconds payload fresh stored =>
      exact effect_of_none rfl rfl fun measure => .inl
        (used_of_insert measure principal fresh
          (ArtifactState.artifacts_setRecord _ _ _))

theorem quotaExact_of_change (exact : QuotaExact principal state)
    (change : Change Granted state changed) :
    QuotaExact principal changed := by
  cases effect_of_change principal change with
  | kept quota used => exact exact.kept quota used
  | taken policy descriptor granted owner reserved used =>
      exact exact.taken (quota_of_reserveQuota reserved).1 used
  | released descriptor quota used => exact exact.released quota used

/-- An upload is added. -/
theorem QuotaExact.grown {owner : String} (exact : QuotaExact principal state)
    (quota : changed.quota principal = if principal = owner then
      ⟨(state.quota owner).bytes + descriptor.sizeBytes,
        (state.quota owner).count + 1⟩ else state.quota principal)
    (used : ∀ measure, changed.used measure principal =
      (if owner = principal then measure descriptor else 0) +
        state.used measure principal) :
    QuotaExact principal changed := by
  by_cases same : owner = principal
  · subst same
    rw [if_pos rfl] at quota
    simp only [if_pos] at used
    exact exact.taken quota used
  · rw [if_neg (Ne.symm same)] at quota
    simp only [if_neg same, Nat.zero_add] at used
    exact exact.kept quota used

end Exact

/-! ### Giving inputs back -/

/-- What inputs of a task will take up of the quota of a principal. -/
def sharesOf (measure : BeginArtifactUploadPayload → ℕ) (principal : String)
    (inputs : List TaskInput) : ℕ :=
  (inputs.map fun input =>
    if input.principal = principal then measure input.descriptor else 0).sum

/-- What a principal will have in use when a task has given its inputs
back. -/
def ArtifactState.usedAfter (measure : BeginArtifactUploadPayload → ℕ)
    (principal : String) (inputs : List TaskInput) (state : ArtifactState) :
    ℕ :=
  state.used measure principal + sharesOf measure principal inputs

theorem used_giveBack (inputs : Inputs taskId (input :: rest) state)
    (measure : BeginArtifactUploadPayload → ℕ) (principal : String) :
    (giveBack input state).used measure principal =
      (if input.principal = principal then measure input.descriptor else 0) +
        state.used measure principal := by
  have inserted : (giveBack input state).artifacts =
      state.artifacts.insert input.artifactId _ := rfl
  exact used_of_replace measure principal
    (inputs.found input List.mem_cons_self) inserted

theorem usedAfter_giveBack (inputs : Inputs taskId (input :: rest) state)
    (measure : BeginArtifactUploadPayload → ℕ) (principal : String) :
    (giveBack input state).usedAfter measure principal rest =
      state.usedAfter measure principal (input :: rest) := by
  unfold ArtifactState.usedAfter sharesOf
  rw [used_giveBack inputs, List.map_cons, List.sum_cons]
  omega

theorem QuotaExact.giveBack (exact : QuotaExact principal state)
    (inputs : Inputs taskId (input :: rest) state) :
    QuotaExact principal (giveBack input state) :=
  exact.grown (ArtifactState.quota_setQuota state _ principal _) fun measure =>
    used_giveBack inputs measure principal

/-- An input that stays with its task because of an overflow is the only one
that spoils the quota. -/
theorem QuotaExact.stuck {reached : ArtifactState}
    (exact : QuotaExact principal state)
    (fits : input.principal = principal →
      state.usedBytes principal + input.descriptor.sizeBytes < 2 ^ 64)
    (stuck : Stuck input state reached) : QuotaExact principal reached := by
  cases stuck with
  | same => exact exact
  | touched =>
      refine exact.kept ?_ fun measure => used_of_artifacts_eq measure _ rfl
      rw [ArtifactState.quota_setQuota]
      split
      · rename_i same
        rw [same]
      · rfl
  | counted overflow =>
      refine exact.kept ?_ fun measure => used_of_artifacts_eq measure _ rfl
      rw [ArtifactState.quota_setQuota, if_neg]
      intro same
      subst same
      rw [exact] at overflow
      exact absurd (fits rfl) (Nat.not_lt.mpr overflow)

/-- The inputs that a task gives back fit into 64 bits. -/
def Fits (principal : String) (inputs : List TaskInput)
    (state : ArtifactState) : Prop :=
  state.usedAfter BeginArtifactUploadPayload.sizeBytes principal inputs < 2 ^ 64

theorem Fits.first (fits : Fits principal (input :: rest) state)
    (owned : input.principal = principal) :
    state.usedBytes principal + input.descriptor.sizeBytes < 2 ^ 64 := by
  refine Nat.lt_of_le_of_lt ?_ fits
  unfold ArtifactState.usedAfter sharesOf ArtifactState.usedBytes
  rw [List.map_cons, List.sum_cons, if_pos owned]
  omega

theorem ensures_quotaExact_restoreTaskInputs (principal taskId : String) :
    Ensures
      (Remembers fun state => QuotaExact principal state ∧
        Fits principal (state.taskInputs taskId) state)
      (restoreTaskInputs taskId)
      (fun _ => Remembers (QuotaExact principal))
      fun _ => Remembers (QuotaExact principal) := by
  refine ensures_restoreTaskInputs (fun inputs state =>
    QuotaExact principal state ∧ Fits principal inputs state)
    (fun _ known => known) ?_ ?_ fun _ left => left.1
  · rintro input rest state ⟨exact, fits⟩ inputs
    refine ⟨exact.giveBack inputs, ?_⟩
    unfold Fits
    rwa [usedAfter_giveBack inputs]
  · rintro input rest state stuck ⟨exact, fits⟩ sticks
    exact exact.stuck fits.first sticks

/-! ### Runs -/

/-- A store that is empty, or was opened on the files of an earlier one. -/
def Starts (store : RemoteArtifactStore) (room : StoreRoom) : Prop :=
  room.memory = .empty ∨
    ∃ now listing files, store.open now listing files = .ok room

theorem quotaExact_of_kept {before after : ArtifactState}
    (exact : QuotaExact principal before) (kept : Kept before after) :
    QuotaExact principal after := by
  cases kept with
  | input artifactId owner descriptor path expires uploaded absent free =>
      refine exact.grown (ArtifactState.quota_setQuota _ _ principal _)
        fun measure => ?_
      have inserted : (ArtifactState.setRecord _ artifactId
          ⟨owner, .completed descriptor path expires uploaded⟩).artifacts =
        before.artifacts.insert artifactId _ := rfl
      exact used_of_insert measure principal absent inserted
  | output artifactId owner path expires payload absent =>
      refine exact.kept rfl fun measure => ?_
      rw [used_of_insert measure principal absent
        (ArtifactState.artifacts_setRecord _ _ _)]
      exact Nat.zero_add _

theorem Starts.quotaExact {store : RemoteArtifactStore} {room : StoreRoom}
    (starts : Starts store room) (principal : String) :
    QuotaExact principal room.memory := by
  rcases starts with empty | ⟨now, listing, files, opened⟩
  · rw [empty]
    rfl
  · exact good_of_open rfl (fun _ _ exact kept => quotaExact_of_kept exact kept)
      opened

/-- The inputs of the task fit into 64 bits beside what its client has in
use. -/
def InputsFit (principal taskId : String) (state : ArtifactState) : Prop :=
  Fits principal (state.taskInputs taskId) state

/-- Whatever calls fail, the quota of a principal is what its uploads take up,
if its total size never overflows when a task gives inputs back. -/
theorem quotaExact_of_serves {store : RemoteArtifactStore}
    {start room : StoreRoom} {principal : String}
    (starts : Starts store start)
    (served : Serves store (Restoring (InputsFit principal)) start room) :
    QuotaExact principal room.memory :=
  served.remembers (fun _ _ _ _ _ _ => trivial) (fun _ _ clear => clear)
    (starts.quotaExact principal)
    (fun _ _ exact change => quotaExact_of_change exact change)
    (ensures_quotaExact_restoreTaskInputs principal)

/-- The input of the task is given back to a client without uploads. -/
theorem quotaExact_returnedRoom :
    QuotaExact smallClient returnedRoom.memory := by
  have served : Serves smallStore (Restoring (InputsFit smallClient))
      emptyRoom returnedRoom := by
    refine .answer _ (serves_ownedRoom ?_) nofun ?_
    · exact fun room operation drawn plain taskId restoring =>
        absurd restoring (plain.keeps taskId)
    · rintro taskId ⟨⟩
      change ownedRoom.memory.usedAfter _ _ _ < 2 ^ 64
      decide +kernel
  exact quotaExact_of_serves (.inl rfl) served

/-- An upload of the largest size. -/
def hugeUpload : BeginArtifactUploadPayload where
  clientArtifactId := "00000000-0000-4000-8000-000000000005"
  digest := smallDigest [1]
  sizeBytes := 2 ^ 64 - 1
  mediaType := none

/-- Such an upload was declared while a task had the other one. -/
def hugeRoom : StoreRoom :=
  (smallStore.answer ownedRoom
    (quiet (.beginUpload smallPolicy hugeUpload) secondId)).2

/-- Then the task tries to give its input back. -/
def overflownRoom : StoreRoom :=
  (smallStore.answer hugeRoom (quiet (.restoreTaskInputs smallTask) firstId)).2

/-- The quota counts an upload that was not given back. -/
theorem not_quotaExact_overflownRoom :
    Serves smallStore (fun _ request => request.faults = []) emptyRoom
        overflownRoom ∧
      overflownRoom.memory.usedBytes smallClient < 2 ^ 64 ∧
      overflownRoom.memory.usedCount smallClient < 2 ^ 64 ∧
      ¬ QuotaExact smallClient overflownRoom.memory := by
  refine ⟨.answer _ (.answer _ (serves_ownedRoom fun _ _ _ _ => rfl)
    (fun _ => fresh_ownedRoom) rfl) nofun rfl, ?_⟩
  unfold QuotaExact
  decide +kernel

/-! ### Limits -/

/-- The uploads of a client are within its limits. -/
structure WithinLimits (policy : PrincipalPolicy) (state : ArtifactState) :
    Prop where
  count : state.usedCount policy.clientId ≤ policy.maxPrincipalArtifacts
  bytes : state.usedBytes policy.clientId ≤ policy.maxPrincipalArtifactBytes

/-- The client keeps its policy. -/
def Keeps (policy granted : PrincipalPolicy) : Prop :=
  granted.clientId = policy.clientId → granted = policy

variable {changed : ArtifactState}

theorem WithinLimits.of_le (within : WithinLimits policy state)
    (used : ∀ measure, changed.used measure policy.clientId ≤
      state.used measure policy.clientId) : WithinLimits policy changed :=
  ⟨(used _).trans within.count, (used _).trans within.bytes⟩

/-- With an exact quota, a change keeps the limits. -/
theorem withinLimits_of_change (exact : QuotaExact policy.clientId state)
    (within : WithinLimits policy state)
    (change : Change (Keeps policy) state changed) :
    WithinLimits policy changed := by
  cases effect_of_change policy.clientId change with
  | kept quota used => exact within.of_le fun measure => (used measure).le
  | taken granted descriptor keeps owner reserved used =>
      obtain rfl := keeps (Subtype.ext owner)
      obtain ⟨-, count, bytes⟩ := quota_of_reserveQuota reserved
      rw [quotaExact_of_change exact change] at count bytes
      exact ⟨count, bytes⟩
  | released descriptor quota used =>
      refine within.of_le fun measure => ?_
      rw [used measure]
      exact Nat.le_add_left _ _

/-- The inputs are within the limits of their client, beside what it has in
use. -/
structure RoomFor (policy : PrincipalPolicy) (inputs : List TaskInput)
    (state : ArtifactState) : Prop where
  count : state.usedAfter (fun _ => 1) policy.clientId inputs ≤
    policy.maxPrincipalArtifacts
  bytes : state.usedAfter BeginArtifactUploadPayload.sizeBytes policy.clientId
    inputs ≤ policy.maxPrincipalArtifactBytes

/-- The inputs of the task are within the limits of their client. -/
def InputsWithin (policy : PrincipalPolicy) (taskId : String)
    (state : ArtifactState) : Prop :=
  RoomFor policy (state.taskInputs taskId) state

theorem RoomFor.withinLimits {inputs : List TaskInput}
    (room : RoomFor policy inputs state) : WithinLimits policy state :=
  ⟨(Nat.le_add_right _ _).trans room.count,
    (Nat.le_add_right _ _).trans room.bytes⟩

theorem ensures_withinLimits_restoreTaskInputs
    (range : policy.maxPrincipalArtifactBytes < 2 ^ 64) (taskId : String) :
    Ensures
      (Remembers fun state => (QuotaExact policy.clientId state ∧
        WithinLimits policy state) ∧ InputsWithin policy taskId state)
      (restoreTaskInputs taskId)
      (fun _ => Remembers fun state => QuotaExact policy.clientId state ∧
        WithinLimits policy state)
      fun _ => Remembers fun state => QuotaExact policy.clientId state ∧
        WithinLimits policy state := by
  refine ensures_restoreTaskInputs (fun inputs state =>
    QuotaExact policy.clientId state ∧ RoomFor policy inputs state)
    (fun _ known => ⟨known.1.1, known.2⟩) ?_ ?_
    fun _ left => ⟨left.1, left.2.withinLimits⟩
  · rintro input rest state ⟨exact, room⟩ inputs
    refine ⟨exact.giveBack inputs, ?_, ?_⟩
    · rw [usedAfter_giveBack inputs]
      exact room.count
    · rw [usedAfter_giveBack inputs]
      exact room.bytes
  · rintro input rest state reached ⟨exact, room⟩ sticks
    have fits : Fits policy.clientId (input :: rest) state :=
      Nat.lt_of_le_of_lt room.bytes range
    refine ⟨exact.stuck fits.first sticks, room.withinLimits.of_le ?_⟩
    cases sticks with
    | same | touched | counted => exact fun measure => le_rfl

/-- A client stays within its limits as long as it keeps its policy, and a
task that gives inputs back finds room for them. -/
theorem withinLimits_of_serves {store : RemoteArtifactStore}
    {start room : StoreRoom} {policy : PrincipalPolicy}
    (range : policy.maxPrincipalArtifactBytes < 2 ^ 64)
    (starts : Starts store start) (within : WithinLimits policy start.memory)
    (served : Serves store (fun room request =>
      Declaring (Keeps policy) request ∧
        Restoring (InputsWithin policy) room request) start room) :
    WithinLimits policy room.memory :=
  And.right <| served.remembers (fun _ _ allowed => allowed.1)
    (fun _ _ allowed => allowed.2)
    (⟨starts.quotaExact policy.clientId, within⟩ :
      QuotaExact policy.clientId start.memory ∧ _)
    (fun _ _ good change => ⟨quotaExact_of_change good.1 change,
      withinLimits_of_change good.1 good.2 change⟩)
    (ensures_withinLimits_restoreTaskInputs range)

/-- The client of the small runs gets its only upload back. -/
theorem withinLimits_returnedRoom :
    WithinLimits smallPolicy returnedRoom.memory := by
  have served : Serves smallStore (fun room request =>
      Declaring (Keeps smallPolicy) request ∧
        Restoring (InputsWithin smallPolicy) room request)
      emptyRoom returnedRoom := by
    refine .answer _ (serves_ownedRoom ?_) nofun ⟨nofun, ?_⟩
    · refine fun room operation drawn plain => ⟨?_, ?_⟩
      · exact fun policy descriptor declared _ =>
          plain.policy policy descriptor declared
      · exact fun taskId restoring => absurd restoring (plain.keeps taskId)
    · rintro taskId ⟨⟩
      have both : ownedRoom.memory.usedAfter (fun _ => 1) smallPolicy.clientId
            (ownedRoom.memory.taskInputs smallTask) ≤ 1 ∧
          ownedRoom.memory.usedAfter BeginArtifactUploadPayload.sizeBytes
            smallPolicy.clientId (ownedRoom.memory.taskInputs smallTask) ≤
              2 ^ 64 - 1 := by
        decide +kernel
      exact ⟨both.1, both.2⟩
  exact withinLimits_of_serves (by decide) (.inl rfl)
    ⟨Nat.zero_le _, Nat.zero_le _⟩ served

/-- Another upload of one byte. -/
def otherByte : BeginArtifactUploadPayload where
  clientArtifactId := "00000000-0000-4000-8000-000000000005"
  digest := smallDigest [1]
  sizeBytes := 1
  mediaType := none

/-- It was declared while a task had the first one. -/
def refilledRoom : StoreRoom :=
  (smallStore.answer ownedRoom
    (quiet (.beginUpload smallPolicy otherByte) secondId)).2

/-- Then the task gives its input back. -/
def exceededRoom : StoreRoom :=
  (smallStore.answer refilledRoom
    (quiet (.restoreTaskInputs smallTask) firstId)).2

/-- Without any fault a client may have more uploads than its policy
allows. -/
theorem not_withinLimits_exceededRoom :
    Serves smallStore (fun _ request => request.faults = [] ∧
        Declaring (Keeps smallPolicy) request) emptyRoom exceededRoom ∧
      ¬ WithinLimits smallPolicy exceededRoom.memory := by
  refine ⟨.answer _ (.answer _ (serves_ownedRoom ?_)
    (fun _ => fresh_ownedRoom) ⟨rfl, ?_⟩) nofun ⟨rfl, nofun⟩, ?_⟩
  · exact fun room operation drawn plain => ⟨rfl,
      fun policy descriptor declared _ =>
        plain.policy policy descriptor declared⟩
  · rintro _ _ ⟨⟩ _
    rfl
  · intro within
    have two : exceededRoom.memory.usedCount smallPolicy.clientId = 2 := by
      decide +kernel
    have count := within.count
    rw [two] at count
    exact absurd count (by decide)

end Artifact
end TaskCage
