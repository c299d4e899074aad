import TaskCage.Artifact.Operations
import TaskCage.Foundation.FilingRules
import Mathlib.Logic.Relation

/-!
# What the store does to its memory

Whatever the files and the clock do, an operation changes the state in memory
by a sequence of a few kinds of changes.  The operation that gives inputs of a
task back is treated on its own: its changes are the ones that keep an
invariant only under a condition.
-/

namespace TaskCage
namespace Artifact

open Filing RemoteArtifactStore

/-! ### Files only -/

variable (path : Place) (artifactId : String)

theorem spares_removeFileIfPresent :
    Spares (removeFileIfPresent path) := by
  refine .bind (.attempt Spares.perform) fun outcome => ?_
  rcases outcome with (_ | _ | _) | _
  · exact .pure ()
  · exact .throw _
  · exact .throw _
  · exact .pure ()

/-- A file that is not there counts as removed. -/
theorem ensures_removeFile {place : Place} {Pre Post Fails : StoreRoom → Prop}
    (removes : Ensures Pre (remove place) (fun _ => Post)
      fun error room => error = .notFound ∧ Post room ∨
        error.isFault = true ∧ Fails room) :
    Ensures Pre (removeFileIfPresent place) (fun _ => Post) fun _ => Fails := by
  refine .bind (.attempt removes) fun outcome => ?_
  rcases outcome with (_ | _ | _) | _
  · refine .pure ?_
    rintro room (⟨-, post⟩ | ⟨fault, -⟩)
    · exact post
    · cases fault
  · refine .throw ?_
    rintro room (⟨never, -⟩ | ⟨fault, -⟩)
    · cases never
    · cases fault
  · refine .throw ?_
    rintro room (⟨never, -⟩ | ⟨-, fails⟩)
    · cases never
    · exact fails
  · exact .pure fun _ post => post

theorem spares_writePersistedRecord (persisted : PersistedArtifactRecord) :
    Spares (writePersistedRecord artifactId persisted) :=
  .bind (spares_removeFileIfPresent _) fun _ =>
    .onError (.bind (.mapError Spares.perform) fun _ =>
      .bind (.mapError Spares.perform) fun _ => .mapError Spares.perform)
      (.ignoring Spares.perform)

theorem spares_removeData (path : Place)
    (persisted : Option PersistedArtifactRecord) :
    Spares (removeData artifactId path persisted) := by
  refine .onError (spares_removeFileIfPresent _) ?_
  cases persisted with
  | none => exact .pure ()
  | some persisted => exact .ignoring (spares_writePersistedRecord _ _)

theorem spares_withdrawRecord (persisted : Option PersistedArtifactRecord) :
    Spares (withdrawRecord artifactId persisted) := by
  cases persisted with
  | none => exact .pure ()
  | some persisted => exact spares_removeFileIfPresent _

theorem spares_digestFile (store : RemoteArtifactStore) (path : Place) :
    Spares (store.digestFile path) :=
  .bind (.mapError Spares.perform) fun _ => .pure _

theorem spares_fileRangeMatches (offset : ℕ) (expected : List UInt8) :
    Spares (fileRangeMatches path offset expected) :=
  .bind (.mapError Spares.perform) fun _ => .ite (.pure _) (.throw _)

theorem spares_repeatChunk (path : Place) (offset : ℕ) (bytes : List UInt8)
    (last nextOffset : ℕ) :
    Spares (repeatChunk artifactId path offset bytes last nextOffset) := by
  unfold repeatChunk
  split
  · exact .bind (.pure _) fun _ => .ite (.pure _) (.throw _)
  · exact .bind (spares_fileRangeMatches _ _ _) fun _ =>
      .ite (.pure _) (.throw _)

theorem spares_undoRenames (moved : List InputMove) :
    Spares (undoRenames moved) :=
  .forEach (fun _ => .ignoring Spares.perform) moved

theorem spares_renameInputs (moved moves : List InputMove) :
    Spares (renameInputs moved moves) := by
  induction moves generalizing moved with
  | nil => exact .pure ()
  | cons move rest inductionHypothesis =>
      exact .bind (.onError (.mapError Spares.perform) (spares_undoRenames moved))
        fun _ => inductionHypothesis _

theorem spares_removeRecords (moved removed moves : List InputMove) :
    Spares (removeRecords moved removed moves) := by
  induction moves generalizing removed with
  | nil => exact .pure ()
  | cons move rest inductionHypothesis =>
      exact .bind (.onError (spares_removeFileIfPresent _)
        (.bind (.forEach (fun _ =>
          .ignoring (spares_writePersistedRecord _ _)) removed) fun _ =>
          spares_undoRenames moved)) fun _ => inductionHypothesis _

/-! ### Changes -/

/-- A change of the memory, other than giving an input of a task back.
Uploads are begun under the policies that are granted. -/
inductive Change (Granted : PrincipalPolicy → Prop) (state : ArtifactState) :
    ArtifactState → Prop where
  /-- A principal that was looked up has an entry. -/
  | touched (principal : String) :
      Change Granted state (state.setQuota principal (state.quota principal))
  | begun (policy : PrincipalPolicy) (artifactId : String)
      (descriptor : BeginArtifactUploadPayload) (quota : PrincipalQuota)
      (granted : Granted policy)
      (fresh : state.artifacts.lookup artifactId = none)
      (unused : existingUpload
        (policy.clientId, descriptor.clientArtifactId) state = none)
      (reserved : reserveQuota policy (state.quota policy.clientId)
        descriptor.sizeBytes = .ok quota) :
      Change Granted state (((state.setQuota policy.clientId quota).setKey
        (policy.clientId, descriptor.clientArtifactId) artifactId).setRecord
          artifactId (newUpload policy descriptor artifactId))
  | advanced (artifactId : String) (record : ArtifactRecord)
      (descriptor : BeginArtifactUploadPayload) (path : Place)
      (nextOffset next : ℕ)
      (found : state.artifacts.lookup artifactId = some record)
      (uploading : record.state = .uploading descriptor path nextOffset) :
      Change Granted state (state.setRecord artifactId
        { record with state := .uploading descriptor path next })
  | completed (artifactId : String) (record : ArtifactRecord)
      (descriptor : BeginArtifactUploadPayload) (path : Place)
      (nextOffset : ℕ) (expires : SystemTime) (milliseconds : ℕ)
      (uploaded : ArtifactUploadedPayload)
      (found : state.artifacts.lookup artifactId = some record)
      (uploading : record.state = .uploading descriptor path nextOffset)
      (stored : systemTimeToEpochMillis expires = .ok milliseconds) :
      Change Granted state (state.setRecord artifactId
        ⟨record.principal, .completed descriptor (.at artifactId .completed)
          expires uploaded⟩)
  | discarded (artifactId : String) (record : ArtifactRecord)
      (found : state.artifacts.lookup artifactId = some record)
      (free : ∀ descriptor path taskId expires uploaded,
        record.state ≠ .taskOwned descriptor path taskId expires uploaded) :
      Change Granted state (state.discard artifactId record)
  | transferred (principal taskId : String) (move : InputMove)
      (found : state.artifacts.lookup move.artifactId =
        some ⟨principal, .completed move.descriptor move.source move.expires
          move.uploaded⟩)
      (destination :
        move.destination = .at move.artifactId (.taskInput taskId)) :
      Change Granted state (transferOne principal taskId state move)
  | dropped (input : TaskInput) (taskId : String)
      (found : state.artifacts.lookup input.artifactId =
        some ⟨input.principal, .taskOwned input.descriptor input.path taskId
          input.expires input.uploaded⟩) :
      Change Granted state (state.removeRecord input.artifactId)
  | published (artifactId principal : String) (expires : SystemTime)
      (milliseconds : ℕ) (payload : ManagedOutputArtifactPayload)
      (fresh : state.artifacts.lookup artifactId = none)
      (stored : systemTimeToEpochMillis expires = .ok milliseconds) :
      Change Granted state (state.setRecord artifactId
        ⟨principal, .output (.at artifactId .output) expires payload⟩)

/-- A sequence of changes. -/
abbrev Changes (Granted : PrincipalPolicy → Prop) :
    ArtifactState → ArtifactState → Prop :=
  Relation.ReflTransGen (Change Granted)

variable {state : ArtifactState}
variable {reached : ArtifactState} {entry : String × ArtifactRecord}

/-- What one change keeps, a sequence of changes keeps. -/
theorem good_of_changes {Granted : PrincipalPolicy → Prop}
    {Good : ArtifactState → Prop}
    (keeps : ∀ before after, Good before → Change Granted before after →
      Good after) (good : Good state) (changes : Changes Granted state reached) :
    Good reached := by
  induction changes with
  | refl => exact good
  | tail _ change inductionHypothesis =>
      exact keeps _ _ inductionHypothesis change

/-! ### Expiry and removal -/

section Removal

variable {Known : ArtifactState → Prop}

/-- Removing an artifact that has expired. -/
theorem ensures_purgeOne (record : ArtifactRecord) :
    Ensures (Remembers Known) (purgeOne artifactId record)
      (fun _ => Remembers fun state => ∃ before, Known before ∧
        state = before.discard artifactId record)
      fun _ => Remembers Known :=
  .bind (Spares.ensures (.ofExcept _)) fun _ =>
  .bind (spares_removeFileIfPresent _).ensures fun _ =>
  .bind (spares_removeData _ _ _).ensures fun _ => ensures_modify _

/-- Removing an upload. -/
theorem ensures_removeUpload (record : ArtifactRecord) :
    Ensures (Remembers Known) (removeUpload artifactId record)
      (fun _ => Remembers fun state => ∃ before, Known before ∧
        state = before.discard artifactId record)
      fun _ => Remembers Known :=
  .bind (Spares.ensures (.ofExcept _)) fun _ =>
  .bind (spares_withdrawRecord _ _).ensures fun _ =>
  .bind (spares_removeData _ _ _).ensures fun _ => ensures_modify _

end Removal

/-- An artifact that no task owns. -/
def ArtifactRecord.Free (record : ArtifactRecord) : Prop :=
  ∀ descriptor path taskId expires uploaded,
    record.state ≠ .taskOwned descriptor path taskId expires uploaded

/-- The entries are those of the table, each key once. -/
structure Listed (state : ArtifactState)
    (entries : List (String × ArtifactRecord)) : Prop where
  found : ∀ entry ∈ entries, state.artifacts.lookup entry.1 = some entry.2
  distinct : entries.Pairwise fun first second => first.1 ≠ second.1

theorem listed_filter (state : ArtifactState)
    (chosen : String × ArtifactRecord → Bool) :
    Listed state (state.artifacts.entries.filter chosen) where
  found _ member := OrderedTable.lookup_eq_some_iff.mpr
    (List.mem_filter.mp member).1
  distinct := (state.artifacts.sorted.filter _).imp fun below => below.ne

theorem Listed.tail {rest : List (String × ArtifactRecord)}
    (listed : Listed state (entry :: rest))
    (kept : ∀ artifactId, artifactId ≠ entry.1 →
      reached.artifacts.lookup artifactId = state.artifacts.lookup artifactId) :
    Listed reached rest where
  found other member := by
    have different := (List.pairwise_cons.mp listed.distinct).1 other member
    rw [kept _ different.symm]
    exact listed.found other (List.mem_cons_of_mem _ member)
  distinct := (List.pairwise_cons.mp listed.distinct).2

/-- An artifact with a record file. -/
def ArtifactRecord.lasts (record : ArtifactRecord) : Bool :=
  match record.state with
  | .completed _ _ _ _ => true
  | .output _ _ _ => true
  | .uploading _ _ _ => false
  | .taskOwned _ _ _ _ _ => false

theorem lasts_of_mem_expired {now : SystemTime}
    (member : entry ∈ state.expired now) :
    entry.2.lasts = true := by
  have expired := (List.mem_filter.mp member).2
  unfold ArtifactRecord.lasts
  cases lasting : entry.2.state <;> simp_all

theorem ArtifactRecord.free_of_lasts {record : ArtifactRecord}
    (lasts : record.lasts = true) : record.Free := by
  intro descriptor path taskId expires uploaded owned
  simp [ArtifactRecord.lasts, owned] at lasts

/-- The artifacts that a purge still has to remove. -/
def Purging (Known : ArtifactState → Prop)
    (entries : List (String × ArtifactRecord)) (state : ArtifactState) :
    Prop :=
  Known state ∧ Listed state entries ∧ ∀ entry ∈ entries, entry.2.Free

/-- A purge discards artifacts that have expired, one after the other. -/
theorem ensures_purgeExpired {Known : ArtifactState → Prop} (now : SystemTime)
    (discards : ∀ state artifactId record, Known state →
      state.artifacts.lookup artifactId = some record → record.Free →
      Known (state.discard artifactId record)) :
    Ensures (Remembers Known) (purgeExpired now)
      (fun _ => Remembers Known) fun _ => Remembers Known := by
  have purges (entry : String × ArtifactRecord)
      (rest : List (String × ArtifactRecord)) :
      Ensures (Remembers (Purging Known (entry :: rest)))
        (purgeOne entry.1 entry.2) (fun _ => Remembers (Purging Known rest))
        fun _ => Remembers Known := by
    refine (ensures_purgeOne _ _).mono ?_ fun _ _ known => known.1
    rintro _ room ⟨before, ⟨known, listed, free⟩, changed⟩
    have found := listed.found _ List.mem_cons_self
    unfold Remembers
    rw [changed]
    refine ⟨discards _ _ _ known found (free _ List.mem_cons_self),
      listed.tail fun other different => ?_,
      fun entry member => free entry (List.mem_cons_of_mem _ member)⟩
    rw [ArtifactState.artifacts_discard, OrderedTable.lookup_erase_eq_ite,
      if_neg different]
  refine .bind ensures_memory fun seen => ?_
  have loop := ensures_forEach (Purging Known) purges (seen.expired now)
  refine (loop.strengthen ?_).mono (fun _ _ left => left.1)
    fun _ _ known => known
  rintro room ⟨known, same⟩
  rw [same] at known
  unfold Remembers
  rw [same]
  exact ⟨known, listed_filter _ _, fun _ member =>
    ArtifactRecord.free_of_lasts (lasts_of_mem_expired member)⟩

/-! ### Operations -/

/-- Whatever happens, the memory is changed step by step; after a result,
`Post` is known about it. -/
def Leads {Result : Type} (Granted : PrincipalPolicy → Prop)
    (start : ArtifactState) (Known : ArtifactState → Prop) (code : StoreCode Result)
    (Post : Result → ArtifactState → Prop) : Prop :=
  Ensures (Remembers fun state => Changes Granted start state ∧ Known state) code
    (fun result => Remembers fun state => Changes Granted start state ∧
      Post result state)
    fun _ => Remembers (Changes Granted start)

namespace Leads

variable {Result Next : Type} {Granted : PrincipalPolicy → Prop}
variable {start : ArtifactState}
variable {Known : ArtifactState → Prop} {code : StoreCode Result}
variable {Post : Result → ArtifactState → Prop}

theorem pure {result : Result}
    (holds : ∀ state, Known state → Post result state) :
    Leads Granted start Known (Pure.pure result) Post :=
  Ensures.pure fun _ known => ⟨known.1, holds _ known.2⟩

theorem throw {error : RemoteArtifactError} :
    Leads Granted start Known (Filing.throw error : StoreCode Result) Post :=
  Ensures.throw fun _ known => known.1

theorem bind {next : Result → StoreCode Next}
    {Last : Next → ArtifactState → Prop} (first : Leads Granted start Known code Post)
    (second : ∀ result, Leads Granted start (Post result) (next result) Last) :
    Leads Granted start Known (code >>= next) Last :=
  Ensures.bind first second

theorem mono {Strong : Result → ArtifactState → Prop}
    (leads : Leads Granted start Known code Strong)
    (weaker : ∀ result state, Strong result state → Post result state) :
    Leads Granted start Known code Post :=
  Ensures.mono leads (fun result _ strong => ⟨strong.1,
    weaker result _ strong.2⟩) fun _ _ changes => changes

theorem spares (spares : Spares code) :
    Leads Granted start Known code fun _ => Known :=
  spares.ensures.mono (fun _ _ known => known) fun _ _ known => known.1

theorem memory : Leads Granted start Known (Filing.memory : StoreCode _)
    fun seen state => Known state ∧ state = seen :=
  ensures_memory.mono (fun _ _ known => ⟨known.1.1, known.1.2, known.2⟩)
    fun _ _ changes => changes

theorem ofExcept (outcome : Except RemoteArtifactError Result) :
    Leads Granted start Known (Filing.ofExcept outcome)
      fun result state => outcome = .ok result ∧ Known state :=
  (ensures_ofExcept outcome).mono
    (fun _ _ known => ⟨known.2.1, known.1, known.2.2⟩)
    fun _ _ known => known.1

variable {change : ArtifactState → ArtifactState}

theorem modify
    (allowed : ∀ before, Known before → Changes Granted before (change before)) :
    Leads Granted start Known (Filing.modify change : StoreCode Unit)
      fun _ state => ∃ before, Known before ∧ state = change before := by
  refine (ensures_modify change).mono ?_ fun _ _ changes => changes
  rintro _ room ⟨before, ⟨changes, known⟩, changed⟩
  refine ⟨?_, before, known, changed⟩
  rw [changed]
  exact changes.trans (allowed before known)

/-- The last change, after which nothing more needs to be known. -/
theorem modify_last
    (allowed : ∀ before, Known before → Changes Granted before (change before)) :
    Leads Granted start Known (Filing.modify change : StoreCode Unit)
      fun _ _ => True :=
  (modify allowed).mono fun _ _ _ => trivial

theorem forEach {Item : Type} {body : Item → StoreCode Unit}
    (Left : List Item → ArtifactState → Prop)
    (step : ∀ item rest, Leads Granted start (Left (item :: rest)) (body item)
      fun _ => Left rest) (items : List Item) :
    Leads Granted start (Left items) (Filing.forEach items body) fun _ => Left [] :=
  Ensures.forEach (fun items => Remembers fun state =>
    Changes Granted start state ∧ Left items state) step items

end Leads

section Operations

variable {Granted : PrincipalPolicy → Prop} {start : ArtifactState}
variable {drawn : Uuid} {Known : ArtifactState → Prop}
variable {artifactId principal taskId : String}
variable {descriptor : BeginArtifactUploadPayload} {path : Place}
variable {record : ArtifactRecord}
variable (now : SystemTime) (store : RemoteArtifactStore)

/-- A purge keeps what does not depend on artifacts being there. -/
theorem leads_purgeExpired
    (discards : ∀ state artifactId record, Known state →
      Known (state.discard artifactId record)) :
    Leads Granted start Known (purgeExpired now) fun _ => Known := by
  refine (ensures_purgeExpired now ?_).mono (fun _ _ known => known)
    fun _ _ known => known.1
  rintro state artifactId record ⟨changes, known⟩ found free
  exact ⟨changes.tail (.discarded artifactId record found free),
    discards state artifactId record known⟩

/-- A purge before which nothing is known. -/
theorem leads_purge :
    Leads Granted start (fun _ => True) (purgeExpired now) fun _ _ => True :=
  leads_purgeExpired now fun _ _ _ known => known

/-- The identifier that was drawn is not in use. -/
def Unused (drawn : Uuid) (state : ArtifactState) : Prop :=
  state.artifacts.lookup drawn = none

theorem Unused.discard (unused : Unused drawn state) (artifactId : String)
    (record : ArtifactRecord) :
    Unused drawn (state.discard artifactId record) := by
  rw [Unused, ArtifactState.artifacts_discard,
    OrderedTable.lookup_erase_eq_ite, unused]
  exact ite_self _

/-- The record that is found belongs to the principal. -/
theorem ensures_ownedRecord {Pre : StoreRoom → Prop}
    (principal artifactId : String) :
    Ensures Pre (ownedRecord principal artifactId)
      (fun record room => Pre room ∧
        room.memory.artifacts.lookup artifactId = some record ∧
        record.principal = principal)
      fun _ => Pre := by
  intro room pre
  unfold ownedRecord
  rw [memory_bind]
  cases found : room.memory.artifacts.lookup artifactId with
  | none => exact ⟨nofun, fun _ _ => pre⟩
  | some record =>
      dsimp only
      split
      · rename_i owned
        refine ⟨?_, nofun⟩
        rintro _ ⟨⟩
        exact ⟨pre, found, owned⟩
      · exact ⟨nofun, fun _ _ => pre⟩

theorem leads_ownedRecord (principal artifactId : String) :
    Leads Granted start Known (ownedRecord principal artifactId)
      fun record state => record.principal = principal ∧ Known state ∧
        state.artifacts.lookup artifactId = some record :=
  (ensures_ownedRecord principal artifactId).mono
    (fun _ _ ⟨⟨changes, known⟩, found, owned⟩ => ⟨changes, owned, known, found⟩)
    fun _ _ known => known.1

variable {policy : PrincipalPolicy} {nextOffset : ℕ} {artifactIds : List String}
variable {moves : List InputMove} {input : TaskInput}

theorem leads_createUpload (granted : Granted policy)
    (descriptor : BeginArtifactUploadPayload) :
    Leads Granted start
      (fun state => Unused drawn state ∧ existingUpload
        (policy.clientId, descriptor.clientArtifactId) state = none)
      (store.createUpload drawn policy descriptor) fun _ _ => True := by
  refine .bind (.spares (.ofExcept _)) fun _ =>
    .bind (.spares (.ofExcept _)) fun _ =>
    .bind (.modify fun _ _ => .single (.touched _)) fun _ =>
    .bind .memory fun seen => .bind (.ofExcept _) fun quota =>
    .bind (.spares (.mapError Spares.perform)) fun _ =>
    .bind (.modify_last ?_) fun _ => .pure fun _ _ => trivial
  rintro _ ⟨reserved, ⟨before, ⟨unused, absent⟩, rfl⟩, rfl⟩
  exact .single (.begun policy drawn descriptor quota granted unused absent
    reserved)

theorem leads_beginUpload (now : SystemTime) (granted : Granted policy)
    (descriptor : BeginArtifactUploadPayload) :
    Leads Granted start (Unused drawn)
      (store.beginUpload now drawn policy descriptor) fun _ _ => True := by
  refine .bind (leads_purgeExpired now fun _ _ _ unused =>
    unused.discard _ _) fun _ => .bind .memory fun seen => ?_
  cases absent : existingUpload
      (policy.clientId, descriptor.clientArtifactId) seen with
  | some existing => exact (Leads.ofExcept _).mono fun _ _ _ => trivial
  | none =>
      refine Ensures.strengthen (leads_createUpload store granted descriptor) ?_
      rintro room ⟨changes, unused, same⟩
      exact ⟨changes, unused, by rwa [same]⟩

theorem leads_acceptChunk
    (uploading : record.state = .uploading descriptor path nextOffset)
    (offset : ℕ) (bytes : List UInt8) :
    Leads Granted start
      (fun state => state.artifacts.lookup artifactId = some record)
      (acceptChunk artifactId record descriptor path nextOffset offset bytes)
      fun _ _ => True := by
  unfold acceptChunk
  split
  · exact .throw
  · split
    · exact .throw
    · split
      · exact (Leads.spares (spares_repeatChunk _ _ _ _ _ _)).mono
          fun _ _ _ => trivial
      · exact .bind (.spares (.mapError Spares.perform)) fun _ =>
          .bind (.spares (.mapError Spares.perform)) fun _ =>
          .bind (.modify_last fun _ found => .single (.advanced artifactId
            record descriptor path nextOffset _ found uploading)) fun _ =>
          .pure fun _ _ => trivial

theorem leads_uploadChunk (now : SystemTime) (principal : String)
    (payload : UploadArtifactChunkPayload) :
    Leads Granted start (fun _ => True) (store.uploadChunk now principal payload)
      fun _ _ => True := by
  refine .bind (.spares (.ofExcept _)) fun bytes =>
    .bind (leads_purge now) fun _ =>
    .bind (leads_ownedRecord _ _) fun record => ?_
  cases uploading : record.state with
  | uploading descriptor path nextOffset =>
      exact Ensures.strengthen (leads_acceptChunk uploading _ _)
        fun _ known => ⟨known.1, known.2.2.2⟩
  | completed => exact .throw
  | taskOwned => exact .throw
  | output => exact .throw

/-- Removing an upload or a completed input. -/
theorem leads_removeUpload (free : record.Free)
    (found : ∀ state, Known state →
      state.artifacts.lookup artifactId = some record) :
    Leads Granted start Known (removeUpload artifactId record) fun _ _ => True := by
  refine (ensures_removeUpload artifactId record).mono ?_
    fun _ _ known => known.1
  rintro _ room ⟨before, ⟨changes, known⟩, changed⟩
  unfold Remembers
  rw [changed]
  exact ⟨changes.tail (.discarded _ _ (found _ known) free), trivial⟩

theorem ArtifactRecord.free_of_uploading
    (uploading : record.state = .uploading descriptor path nextOffset) :
    record.Free := by
  intro _ _ _ _ _ owned
  rw [uploading] at owned
  cases owned

theorem ArtifactRecord.free_of_completed {expires : SystemTime}
    {uploaded : ArtifactUploadedPayload}
    (completed : record.state = .completed descriptor path expires uploaded) :
    record.Free := by
  intro _ _ _ _ _ owned
  rw [completed] at owned
  cases owned

theorem leads_completeUpload (now later : SystemTime)
    (principal artifactId : String) :
    Leads Granted start (fun _ => True)
      (store.completeUpload now later principal artifactId)
      fun _ _ => True := by
  refine .bind (leads_purge now) fun _ =>
    .bind (leads_ownedRecord _ _) fun record => ?_
  cases uploading : record.state with
  | uploading descriptor path nextOffset =>
      refine .bind (.spares (.ofExcept _)) fun _ =>
        .bind (.spares (spares_digestFile _ _)) fun actual => ?_
      split
      · exact .bind (.spares (.mapError Spares.perform)) fun _ =>
          .bind (.spares (.ofExcept _)) fun expires =>
          .bind (.spares (.ofExcept _)) fun expiresAt =>
          .bind (.ofExcept _) fun milliseconds =>
          .bind (.spares (.onError (spares_writePersistedRecord _ _)
            (.ignoring Spares.perform))) fun _ =>
          .bind (.modify_last fun _ known => .single (.completed artifactId
            record descriptor path nextOffset _ _ _ known.2.2.2 uploading
            known.1)) fun _ => .pure fun _ _ => trivial
      · exact .bind (leads_removeUpload (ArtifactRecord.free_of_uploading uploading)
          fun _ known => known.2.2) fun _ => .throw
  | completed => exact .pure fun _ _ => trivial
  | taskOwned => exact .throw
  | output => exact .throw

theorem leads_abortUpload (principal artifactId : String) :
    Leads Granted start (fun _ => True) (abortUpload now principal artifactId)
      fun _ _ => True := by
  refine .bind (leads_purge now) fun _ =>
    .bind (leads_ownedRecord _ _) fun record => ?_
  cases stored : record.state with
  | uploading descriptor path nextOffset =>
      exact leads_removeUpload (ArtifactRecord.free_of_uploading stored)
        fun _ known => known.2.2
  | completed descriptor path expires uploaded =>
      exact leads_removeUpload (ArtifactRecord.free_of_completed stored)
        fun _ known => known.2.2
  | taskOwned => exact .throw
  | output => exact .throw

/-! ### Inputs of tasks -/

/-- What is known about a move that was planned. -/
structure Planned (state : ArtifactState) (principal taskId : String)
    (move : InputMove) : Prop where
  found : state.artifacts.lookup move.artifactId =
    some ⟨principal, .completed move.descriptor move.source move.expires
      move.uploaded⟩
  destination : move.destination = .at move.artifactId (.taskInput taskId)
  persisted : (ArtifactRecord.mk principal (.completed move.descriptor
    move.source move.expires move.uploaded)).persisted = .ok move.persisted

theorem planned_of_planMove {move : InputMove}
    (plan : planMove state principal taskId artifactId = .ok move) :
    move.artifactId = artifactId ∧ Planned state principal taskId move := by
  unfold planMove at plan
  cases found : state.artifacts.lookup artifactId with
  | none => simp [found] at plan
  | some record =>
      obtain ⟨owner, stored⟩ := record
      rw [found] at plan
      dsimp only at plan
      split at plan
      · rename_i owned
        subst owned
        cases stored with
        | completed descriptor path expires uploaded =>
            dsimp only at plan
            cases persisted : (ArtifactRecord.mk owner (.completed descriptor
                path expires uploaded)).persisted with
            | error error =>
                rw [persisted] at plan
                cases plan
            | ok persisted' =>
                rw [persisted] at plan
                cases plan
                exact ⟨rfl, ⟨found, rfl, persisted⟩⟩
        | uploading => cases plan
        | taskOwned => cases plan
        | output => cases plan
      · cases plan

theorem planned_of_planMoves
    (plan : planMoves state principal taskId artifactIds = .ok moves) :
    moves.map InputMove.artifactId = artifactIds ∧
      ∀ move ∈ moves, Planned state principal taskId move := by
  induction artifactIds generalizing moves with
  | nil =>
      simp only [planMoves, Except.ok.injEq] at plan
      subst plan
      exact ⟨rfl, by simp⟩
  | cons artifactId rest inductionHypothesis =>
      rw [planMoves] at plan
      cases first : planMove state principal taskId artifactId with
      | error error =>
          rw [first] at plan
          cases plan
      | ok move =>
          cases others : planMoves state principal taskId rest with
          | error error =>
              rw [first, others] at plan
              cases plan
          | ok moves' =>
              rw [first, others] at plan
              cases plan
              obtain ⟨same, planned⟩ := planned_of_planMove first
              obtain ⟨sameRest, plannedRest⟩ := inductionHypothesis others
              exact ⟨by simp [same, sameRest],
                List.forall_mem_cons.mpr ⟨planned, plannedRest⟩⟩

@[simp] theorem artifacts_transferOne (principal taskId : String)
    (state : ArtifactState) (move : InputMove) :
    (transferOne principal taskId state move).artifacts =
      state.artifacts.insert move.artifactId
        ⟨principal, .taskOwned move.descriptor move.destination taskId
          move.expires move.uploaded⟩ := by
  simp [transferOne]

/-- Transfers of different inputs do not get in each other's way. -/
theorem changes_transfer (distinct : (moves.map InputMove.artifactId).Nodup)
    (found : ∀ move ∈ moves, state.artifacts.lookup move.artifactId =
      some ⟨principal, .completed move.descriptor move.source move.expires
        move.uploaded⟩)
    (destinations : ∀ move ∈ moves,
      move.destination = .at move.artifactId (.taskInput taskId)) :
    Changes Granted state (moves.foldl (transferOne principal taskId) state) := by
  induction moves generalizing state with
  | nil => exact .refl
  | cons move rest inductionHypothesis =>
      obtain ⟨notLater, distinct⟩ := List.nodup_cons.mp distinct
      refine .head (.transferred principal taskId move
        (found move List.mem_cons_self)
        (destinations move List.mem_cons_self))
        (inductionHypothesis distinct ?_ fun other member =>
          destinations other (List.mem_cons_of_mem _ member))
      intro other member
      have different : other.artifactId ≠ move.artifactId := fun same =>
        notLater (same ▸ List.mem_map_of_mem member)
      rw [artifacts_transferOne, OrderedTable.lookup_insert_eq_ite,
        if_neg different]
      exact found other (List.mem_cons_of_mem _ member)

theorem nodup_of_checkTransfer
    (checked : checkTransfer taskId artifactIds = .ok ()) :
    artifactIds.Nodup := by
  unfold checkTransfer at checked
  split at checked
  · cases checked
  · split at checked
    · assumption
    · cases checked

theorem leads_transferInputs (principal taskId : String)
    (artifactIds : List String) :
    Leads Granted start (fun _ => True)
      (transferInputs now principal taskId artifactIds) fun _ _ => True := by
  refine .bind (.ofExcept _) fun _ => ?_
  intro room known
  obtain ⟨changes, checked, unused⟩ := known
  refine Leads.bind (leads_purge now) (fun _ => .bind .memory fun seen =>
    .bind (.ofExcept _) fun moves =>
    .bind (.spares (spares_renameInputs _ _)) fun _ =>
    .bind (.spares (spares_removeRecords _ _ _)) fun _ =>
    .bind (.modify_last ?_) fun _ => .pure fun _ _ => trivial) room
      ⟨changes, unused⟩
  rintro _ ⟨planned, _, rfl⟩
  obtain ⟨same, planned⟩ := planned_of_planMoves planned
  refine changes_transfer ?_ (fun move member => (planned move member).found)
    fun move member => (planned move member).destination
  rw [same]
  exact nodup_of_checkTransfer checked

theorem leads_inspectCompleted (principal : String) (artifactIds : List String) :
    Leads Granted start (fun _ => True) (inspectCompleted now principal artifactIds)
      fun _ _ => True :=
  .bind (leads_purge now) fun _ => .bind .memory fun _ =>
    (Leads.ofExcept _).mono fun _ _ _ => trivial

/-- The inputs of a task that are still to be treated. -/
structure Inputs (taskId : String) (inputs : List TaskInput)
    (state : ArtifactState) : Prop where
  found : ∀ input ∈ inputs, state.artifacts.lookup input.artifactId =
    some ⟨input.principal, .taskOwned input.descriptor input.path taskId
      input.expires input.uploaded⟩
  distinct : (inputs.map TaskInput.artifactId).Nodup

/-- The entry of an input of a task. -/
theorem entry_of_taskInput {entry : String × ArtifactRecord}
    (picked : (match entry.2.state with
      | .taskOwned descriptor path owner expires uploaded =>
          if owner = taskId then
            some (TaskInput.mk entry.1 entry.2.principal descriptor path
              expires uploaded)
          else none
      | .uploading _ _ _ => none
      | .completed _ _ _ _ => none
      | .output _ _ _ => none) = some input) :
    entry = (input.artifactId, ⟨input.principal, .taskOwned input.descriptor
      input.path taskId input.expires input.uploaded⟩) := by
  obtain ⟨artifactId, principal, stored⟩ := entry
  cases stored with
  | taskOwned descriptor path owner expires uploaded =>
      dsimp only at picked
      split at picked
      · rename_i owned
        cases picked
        rw [owned]
      · cases picked
  | uploading => cases picked
  | completed => cases picked
  | output => cases picked

theorem inputs_taskInputs (state : ArtifactState) (taskId : String) :
    Inputs taskId (state.taskInputs taskId) state where
  found input member := by
    obtain ⟨entry, listed, picked⟩ := List.mem_filterMap.mp member
    rw [entry_of_taskInput picked] at listed
    exact OrderedTable.lookup_eq_some_iff.mpr listed
  distinct := by
    refine List.pairwise_map.mpr (state.artifacts.sorted.filterMap _ ?_)
    intro first second below input picked other otherPicked
    rw [entry_of_taskInput picked, entry_of_taskInput otherPicked] at below
    exact below.ne

theorem Inputs.tail {rest : List TaskInput} {reached : ArtifactState}
    (inputs : Inputs taskId (input :: rest) state)
    (kept : ∀ artifactId, artifactId ≠ input.artifactId →
      reached.artifacts.lookup artifactId = state.artifacts.lookup artifactId) :
    Inputs taskId rest reached := by
  have distinct := List.nodup_cons.mp inputs.distinct
  refine ⟨fun other member => ?_, distinct.2⟩
  rw [kept _ fun same => distinct.1 (same ▸ List.mem_map_of_mem member)]
  exact inputs.found other (List.mem_cons_of_mem _ member)

theorem leads_cleanupTaskInputs (taskId : String) :
    Leads Granted start (fun _ => True) (cleanupTaskInputs taskId)
      fun _ _ => True := by
  refine .bind .memory fun seen => ?_
  have step (input : TaskInput) (rest : List TaskInput) :
      Leads Granted start (Inputs taskId (input :: rest)) (cleanupOne input)
        fun _ => Inputs taskId rest := by
    refine .bind (.modify fun state inputs => .single (.dropped input taskId
      (inputs.found input List.mem_cons_self))) fun _ =>
      (Leads.spares (spares_removeFileIfPresent _)).mono ?_
    rintro _ _ ⟨before, inputs, rfl⟩
    refine inputs.tail fun other different => ?_
    rw [ArtifactState.artifacts_removeRecord,
      OrderedTable.lookup_erase_eq_ite, if_neg different]
  refine ((Leads.forEach (Inputs taskId) step _).mono
    fun _ _ _ => trivial).strengthen ?_
  rintro room ⟨changes, _, same⟩
  exact ⟨changes, same ▸ inputs_taskInputs _ _⟩

theorem leads_publishOutputFile (now : SystemTime) (principal : ClientId)
    (source : List UInt8) (digest : String) (sizeBytes : ℕ)
    (mediaType : String) :
    Leads Granted start (Unused drawn)
      (store.publishOutputFile now drawn principal source digest sizeBytes
        mediaType) fun _ _ => True := by
  refine .bind (.spares (.ofExcept _)) fun _ =>
    .bind (.spares (.onError (.bind (.mapError Spares.perform) fun _ =>
      .mapError Spares.perform) (.ignoring Spares.perform))) fun _ =>
    .bind (.spares (.mapError Spares.perform)) fun stat =>
    .bind (.spares (spares_digestFile _ _)) fun actual => ?_
  split
  · exact .bind (.spares (.mapError Spares.perform)) fun _ =>
      .bind (.spares (.ofExcept _)) fun expires =>
      .bind (.spares (.ofExcept _)) fun expiresAt =>
      .bind (.ofExcept _) fun milliseconds =>
      .bind (.spares (.onError (spares_writePersistedRecord _ _)
        (.ignoring Spares.perform))) fun _ =>
      .bind (.modify_last fun _ known => .single (.published drawn principal
        _ _ _ known.2 known.1)) fun _ => .pure fun _ _ => trivial
  · exact .bind (.spares (.ignoring Spares.perform)) fun _ => .throw

theorem leads_readOutputChunk (now : SystemTime)
    (principal artifactId : String) (offset maxBytes : ℕ) :
    Leads Granted start (fun _ => True)
      (store.readOutputChunk now principal artifactId offset maxBytes)
      fun _ _ => True := by
  refine .bind (.spares (.ofExcept _)) fun _ =>
    .bind (leads_purge now) fun _ =>
    .bind (leads_ownedRecord _ _) fun record => ?_
  cases record.state with
  | output path expires payload =>
      exact .bind (.spares (.ofExcept _)) fun _ =>
        .bind (.spares (.mapError Spares.perform)) fun _ =>
        (Leads.spares (.ite (.pure _) (.throw _))).mono fun _ _ _ => trivial
  | uploading => exact .throw
  | completed => exact .throw
  | taskOwned => exact .throw

theorem Leads.replying {Result : Type} {Less : ArtifactState → Prop}
    {reply : Result → Reply} {code : StoreCode Result}
    (leads : Leads Granted start Less code fun _ _ => True)
    (known : ∀ state, Known state → Less state) :
    Leads Granted start Known (replying reply code) fun _ _ => True :=
  .bind (Ensures.strengthen leads fun _ before =>
    ⟨before.1, known _ before.2⟩) fun _ => .pure fun _ _ => trivial

/-- Every request but one changes the memory step by step. -/
theorem leads_serve (turn : Turn)
    (granted : ∀ policy descriptor,
      turn.operation = .beginUpload policy descriptor → Granted policy)
    (other : ∀ taskId, turn.operation ≠ .restoreTaskInputs taskId) :
    Leads Granted start
      (fun state => turn.operation.draws = true → Unused turn.drawn state)
      (store.serve turn) fun _ _ => True := by
  unfold serve
  cases requested : turn.operation with
  | beginUpload policy descriptor =>
      exact .replying (leads_beginUpload store _
        (granted policy descriptor requested) descriptor)
        fun _ unused => unused rfl
  | uploadChunk principal payload =>
      exact .replying (leads_uploadChunk store _ principal payload)
        fun _ _ => trivial
  | completeUpload principal artifactId =>
      exact .replying (leads_completeUpload store _ _ principal artifactId)
        fun _ _ => trivial
  | abortUpload principal artifactId =>
      exact .replying (leads_abortUpload _ principal artifactId)
        fun _ _ => trivial
  | transferInputs principal taskId artifactIds =>
      exact .replying (leads_transferInputs _ principal taskId artifactIds)
        fun _ _ => trivial
  | inspectCompleted principal artifactIds =>
      exact .replying (leads_inspectCompleted _ principal artifactIds)
        fun _ _ => trivial
  | restoreTaskInputs taskId => exact absurd requested (other taskId)
  | cleanupTaskInputs taskId =>
      exact .replying (leads_cleanupTaskInputs taskId) fun _ _ => trivial
  | publishOutputFile principal source digest sizeBytes mediaType =>
      exact .replying (leads_publishOutputFile store _ principal source digest
        sizeBytes mediaType) fun _ unused => unused rfl
  | readOutputChunk principal artifactId offset maxBytes =>
      exact .replying (leads_readOutputChunk store _ principal artifactId
        offset maxBytes) fun _ _ => trivial

end Operations

/-! ### Giving inputs back -/

/-- The key of an input. -/
def TaskInput.key (input : TaskInput) : UploadKey :=
  (input.principal, input.descriptor.clientArtifactId)

/-- The memory after an input was given back. -/
def giveBack (input : TaskInput) (state : ArtifactState) : ArtifactState :=
  ((state.setQuota input.principal
    ⟨(state.quota input.principal).bytes + input.descriptor.sizeBytes,
      (state.quota input.principal).count + 1⟩).setKey input.key
    input.artifactId).setRecord input.artifactId
      ⟨input.principal, .completed input.descriptor
        (.at input.artifactId .completed) input.expires input.uploaded⟩

/-- The memory when an input could not be given back. -/
inductive Stuck (input : TaskInput) (state : ArtifactState) :
    ArtifactState → Prop where
  | same : Stuck input state state
  | touched : Stuck input state
      (state.setQuota input.principal (state.quota input.principal))
  /-- The number of uploads was changed when their size overflowed. -/
  | counted
      (overflow : 2 ^ 64 ≤
        (state.quota input.principal).bytes + input.descriptor.sizeBytes) :
      Stuck input state (state.setQuota input.principal
        ⟨(state.quota input.principal).bytes,
          (state.quota input.principal).count + 1⟩)

theorem setQuota_setQuota (state : ArtifactState) (principal : String)
    (first second : PrincipalQuota) :
    (state.setQuota principal first).setQuota principal second =
      state.setQuota principal second := by
  simp [ArtifactState.setQuota, Finmap.insert_insert]

theorem quota_setQuota_self (state : ArtifactState) (principal : String) :
    (state.setQuota principal (state.quota principal)).quota principal =
      state.quota principal := by
  rw [ArtifactState.quota_setQuota, if_pos rfl]

section Restoring

variable {Known : ArtifactState → Prop} (input : TaskInput)

theorem ensures_reacquireQuota :
    Ensures (Remembers Known)
      (reacquireQuota input.principal input.descriptor.sizeBytes)
      (fun _ => Remembers fun state => ∃ before, Known before ∧
        state = before.setQuota input.principal
          ⟨(before.quota input.principal).bytes + input.descriptor.sizeBytes,
            (before.quota input.principal).count + 1⟩)
      fun _ => Remembers fun state => ∃ before, Known before ∧
        Stuck input before state := by
  intro room known
  unfold reacquireQuota
  rw [modify_bind, memory_bind]
  dsimp only
  rw [quota_setQuota_self]
  cases counts : checkedAdd (room.memory.quota input.principal).count 1 with
  | none =>
      rw [ofExcept_error_bind]
      exact ⟨nofun, fun _ _ => ⟨_, known, .touched⟩⟩
  | some count =>
      rw [ofExcept_ok_bind, modify_bind]
      obtain ⟨-, rfl⟩ := checkedAdd_eq_some_iff.mp counts
      cases sizes : checkedAdd (room.memory.quota input.principal).bytes
          input.descriptor.sizeBytes with
      | none =>
          rw [ofExcept_error_bind]
          refine ⟨nofun, fun _ _ => ⟨_, known, ?_⟩⟩
          change Stuck input room.memory
            ((room.memory.setQuota _ _).setQuota _ _)
          rw [setQuota_setQuota]
          exact .counted (checkedAdd_eq_none_iff.mp sizes)
      | some bytes =>
          rw [ofExcept_ok_bind]
          obtain ⟨-, rfl⟩ := checkedAdd_eq_some_iff.mp sizes
          refine ⟨fun _ _ => ⟨_, known, ?_⟩, nofun⟩
          change ((room.memory.setQuota _ _).setQuota _ _).setQuota _ _ = _
          rw [setQuota_setQuota, setQuota_setQuota]

/-- Giving an input back. -/
theorem ensures_restoreOne :
    Ensures (Remembers Known) (restoreOne input)
      (fun _ => Remembers fun state => ∃ before, Known before ∧
        state = giveBack input before)
      fun _ => Remembers fun state => ∃ before, Known before ∧
        Stuck input before state := by
  have files {Result : Type} {code : StoreCode Result} (spares : Spares code) :
      Ensures (Remembers Known) code (fun _ => Remembers Known)
        fun _ => Remembers fun state => ∃ before, Known before ∧
          Stuck input before state :=
    spares.ensures.mono (fun _ _ known => known)
      fun _ _ known => ⟨_, known, .same⟩
  refine .bind (files (.mapError Spares.perform)) fun _ =>
    .bind (files (.ofExcept _)) fun _ =>
    .bind (files (.onError (spares_writePersistedRecord _ _)
      (.ignoring Spares.perform))) fun _ =>
    .bind (ensures_reacquireQuota input) fun _ =>
    (ensures_modify _).mono ?_ fun _ _ stuck => stuck
  rintro _ _ ⟨_, ⟨before, known, rfl⟩, changed⟩
  exact ⟨before, known, changed⟩

/-- Giving the inputs of a task back, one after the other. -/
theorem ensures_restoreTaskInputs {Good : ArtifactState → Prop}
    {taskId : String} (Left : List TaskInput → ArtifactState → Prop)
    (starts : ∀ state, Known state → Left (state.taskInputs taskId) state)
    (gives : ∀ input rest state, Left (input :: rest) state →
      Inputs taskId (input :: rest) state →
      Left rest (giveBack input state))
    (sticks : ∀ input rest state stuck, Left (input :: rest) state →
      Stuck input state stuck → Good stuck)
    (ends : ∀ state, Left [] state → Good state) :
    Ensures (Remembers Known) (restoreTaskInputs taskId)
      (fun _ => Remembers Good) fun _ => Remembers Good := by
  have step (input : TaskInput) (rest : List TaskInput) :
      Ensures
        (Remembers fun state => Left (input :: rest) state ∧
          Inputs taskId (input :: rest) state) (restoreOne input)
        (fun _ => Remembers fun state => Left rest state ∧
          Inputs taskId rest state)
        fun _ => Remembers Good := by
    refine (ensures_restoreOne input).mono ?_ ?_
    · rintro _ room ⟨before, ⟨left, inputs⟩, changed⟩
      unfold Remembers
      rw [changed]
      refine ⟨gives input rest before left inputs,
        inputs.tail fun other different => ?_⟩
      rw [giveBack, ArtifactState.artifacts_setRecord,
        OrderedTable.lookup_insert_eq_ite, if_neg different]
      rfl
    · rintro _ room ⟨before, ⟨left, _⟩, stuck⟩
      exact sticks input rest before _ left stuck
  refine .bind ensures_memory fun seen => ?_
  refine ((ensures_forEach (fun inputs state => Left inputs state ∧
    Inputs taskId inputs state) step _).strengthen ?_).mono
    (fun _ _ left => ends _ left.1) fun _ _ good => good
  rintro room ⟨known, same⟩
  exact ⟨same ▸ starts _ known, same ▸ inputs_taskInputs _ _⟩

end Restoring
end Artifact
end TaskCage
