import Mathlib.Algebra.Group.Nat.Defs
import TaskCage.Artifact.Faults

/-!
# Staging an input

An input is copied into a preflight directory of its own, verified there, and
only then moved into the staging directory of the task.  An error on the way
rolls back what was made.  A directory is made with one call and opened with two
more, and the rollback does not know of a directory that could not be opened.
-/

namespace TaskCage
namespace ArtifactStore

open FileTree
open Capsule (joinPath nul isTaskId)

/-- What a read returns before the end of a file. -/
abbrev Chunk : Type :=
  { bytes : List UInt8 // bytes ≠ [] }

/-- The contents that come out of a sequence of reads. -/
def contents (chunks : List Chunk) : List UInt8 :=
  chunks.flatMap Subtype.val

/-- Copy what is read, with the size and the bytes so far. -/
def copyLoop (maximumBytes : ℕ) (source destination : Descriptor) :
    List Chunk → ℕ → List UInt8 → Code Error (ℕ × List UInt8)
  | [], actualSize, hashed => do
      .mapError (fun errno => .verification (.read errno)) (read source)
      return (actualSize, hashed)
  | chunk :: chunks, actualSize, hashed => do
      .mapError (fun errno => .verification (.read errno)) (read source)
      if 2 ^ 64 ≤ actualSize + chunk.val.length then
        .throw (.verification .sizeOverflow)
      else if maximumBytes < actualSize + chunk.val.length then
        .throw (.verification
          (.tooLarge (actualSize + chunk.val.length) maximumBytes))
      else do
        .mapError (.io "Artifact snapshot 쓰기" "<staging input>")
          (write destination chunk.val)
        copyLoop maximumBytes source destination chunks
          (actualSize + chunk.val.length) (hashed ++ chunk.val)

/-- Copy an input and compare it with its description. -/
def copyAndVerifyInput (sha256 : List UInt8 → Sha256Digest)
    (artifact : LocalInputArtifact) (maximumBytes : ℕ) (source : Descriptor)
    (chunks : List Chunk) (destination : Descriptor) : Code Error Unit :=
  if maximumBytes < artifact.sizeBytes then
    .throw (.verification (.tooLarge artifact.sizeBytes maximumBytes))
  else do
    let (actualSize, hashed) ←
      copyLoop maximumBytes source destination chunks 0 []
    if actualSize ≠ artifact.sizeBytes then
      .throw (.verification (.sizeMismatch artifact.sizeBytes actualSize))
    else if sha256 hashed ≠ artifact.digest then
      .throw (.verification .digestMismatch)
    else
      .mapError (.io "Artifact snapshot fsync" "<staging input>")
        (fsync destination)

/-- The artifact store, with the number of its next preflight directory. -/
structure LocalArtifactStore where
  root : ArtifactDirectory
  maximumBytes : ℕ
  preflightSequence : ℕ
  bounded : maximumBytes < 2 ^ 64

/-- The directories of a task that is ready to run. -/
structure StagedArtifactTask where
  taskId : String
  taskDirectory : ArtifactDirectory
  outputDirectory : ArtifactDirectory
  output : DeclaredOutputArtifact

namespace LocalArtifactStore

def nextPreflightName (store : LocalArtifactStore) (taskId : String) : String :=
  taskId ++ "-" ++ String.ofList (Nat.toDigits 10 store.preflightSequence)

/-- The part of the staging up to the directory of the task. -/
def snapshot (store : LocalArtifactStore) (sha256 : List UInt8 → Sha256Digest)
    (taskId : String) (input : LocalInputArtifact) (source : Descriptor)
    (chunks : List Chunk) (layout : ArtifactLayout)
    (preflight : ArtifactDirectory) : Code Error ArtifactDirectory := do
  let snapshot ← preflight.createRegularFile "source"
  copyAndVerifyInput sha256 input store.maximumBytes source chunks snapshot
  preflight.syncAll
  layout.staging.createChild taskId

/-- The part of the staging from the directory of the task on. -/
def furnish (taskId : String) (output : DeclaredOutputArtifact)
    (layout : ArtifactLayout) (preflight taskDirectory : ArtifactDirectory) :
    Code Error StagedArtifactTask := do
  let artifacts ← taskDirectory.createChild "artifacts"
  let inputDirectory ← artifacts.createChild "in"
  let outputDirectory ← artifacts.createChild "out"
  moveNoReplace preflight "source" inputDirectory "source"
  inputDirectory.syncAll
  outputDirectory.syncAll
  taskDirectory.syncAll
  layout.staging.syncAll
  preflight.removeEmptyFrom layout.preflight
  layout.preflight.syncAll
  return ⟨taskId, taskDirectory, outputDirectory, output⟩

/-- Stage an input whose file is open.  An error of the inner part carries
whether the staging directory of the task is known to have been made. -/
def stageOpenInput (store : LocalArtifactStore)
    (sha256 : List UInt8 → Sha256Digest) (taskId : String)
    (input : LocalInputArtifact) (output : DeclaredOutputArtifact)
    (source : Descriptor) (chunks : List Chunk) :
    Code Error StagedArtifactTask := do
  .ofExcept (Outcome.require (isTaskId taskId) (.invalidTaskId taskId))
  let layout ← openLayout store.root
  let preflight ← layout.preflight.createChild (store.nextPreflightName taskId)
  let result ← .attempt do
    let taskDirectory ← .mapError (fun error => (error, false))
      (store.snapshot sha256 taskId input source chunks layout preflight)
    .mapError (fun error => (error, true))
      (furnish taskId output layout preflight taskDirectory)
  match result with
  | .ok staged => return staged
  | .error (error, createdTaskStaging) => do
      let _ ← .attempt preflight.removeTree
      if createdTaskStaging then
        let _ ← .attempt (layout.staging.removeChildTree taskId)
      .throw error

end LocalArtifactStore

/-! ### Names and places -/

theorem isEntry_of_safe {name : String} (long : 2 < name.toList.length)
    (safe : ∀ char ∈ name.toList, char ≠ '/' ∧ char ≠ nul) :
    IsEntry name := by
  refine ⟨⟨?_, ?_, ?_, fun member => (safe _ member).1 rfl⟩,
    fun member => (safe _ member).2 rfl⟩
  all_goals
    intro same
    rw [same] at long
    revert long
    decide

variable {taskId : String}

theorem safe_taskId (valid : isTaskId taskId = true) :
    ∀ char ∈ taskId.toList, char ≠ '/' ∧ char ≠ nul := by
  intro char member
  obtain ⟨single, -, control⟩ := safe_of_mem_taskId valid char member
  refine ⟨single, ?_⟩
  rintro rfl
  revert control
  decide

theorem isEntry_taskId (valid : isTaskId taskId = true) :
    IsEntry taskId := by
  refine isEntry_of_safe ?_ (safe_taskId valid)
  rw [length_taskId valid]
  decide

theorem isEntry_preflightName (store : LocalArtifactStore)
    (valid : isTaskId taskId = true) :
    IsEntry (store.nextPreflightName taskId) := by
  have whole : (store.nextPreflightName taskId).toList =
      taskId.toList ++ ['-'] ++ Nat.toDigits 10 store.preflightSequence := by
    simp [LocalArtifactStore.nextPreflightName]
  apply isEntry_of_safe
  · rw [whole, List.length_append, List.length_append, length_taskId valid]
    omega
  · intro char member
    rw [whole, List.mem_append, List.mem_append] at member
    rcases member with (inner | dash) | digit
    · exact safe_taskId valid char inner
    · rw [List.mem_singleton.1 dash]
      decide
    · have isDigit := Decimal.isDigit_of_mem_toDigits digit
      constructor
      · rintro rfl
        revert isDigit
        decide
      · rintro rfl
        revert isDigit
        decide

/-- The directories of the store when they are opened. -/
def layoutOf (root : ArtifactDirectory) : ArtifactLayout :=
  ⟨(root.child ".taskcage").child "preflight",
    (root.child ".taskcage").child "staging", root.child "tasks"⟩

/-- The places of the directories of the store. -/
def layoutPlaces (root : ArtifactDirectory) : List Place :=
  [(root.child ".taskcage").place,
    (layoutOf root).preflight.place,
    (layoutOf root).staging.place,
    (layoutOf root).published.place]

section Places

variable {root : ArtifactDirectory} {name : String} {place : Place}

theorem length_of_mem_layoutPlaces (member : place ∈ layoutPlaces root) :
    place.length ≤ root.place.length + 2 := by
  simp only [layoutPlaces, List.mem_cons, List.not_mem_nil, or_false] at member
  rcases member with rfl | rfl | rfl | rfl
  all_goals simp [layoutOf]

/-- What lies below a child of a layout directory is no layout directory. -/
theorem not_mem_layoutPlaces
    (below : ((layoutOf root).preflight.child name).place <+: place ∨
      ((layoutOf root).staging.child taskId).place <+: place) :
    place ∉ layoutPlaces root := by
  intro member
  have short := length_of_mem_layoutPlaces member
  have long : root.place.length + 3 ≤ place.length := by
    rcases below with below | below
    all_goals
      have bound := below.length_le
      simp [layoutOf] at bound
      omega
  omega

/-- Nothing lies below both a preflight and a staging directory. -/
theorem apart_of_staging
    (below : ((layoutOf root).staging.child taskId).place <+: place) :
    ¬((layoutOf root).preflight.child name).place <+: place := by
  intro both
  have same := List.prefix_of_prefix_length_le both below (by simp [layoutOf])
  simp [layoutOf] at same

end Places

/-! ### The directories of the store -/

section Layout

variable {index : Option ℕ} {damage : Damage} {calls : ℕ}
variable {root : ArtifactDirectory} {before tree : Tree}
variable {known : List ArtifactDirectory} {tops : List Place}

/-- Outside of some directories the tree has changed only in that directories of
the store were made, and these directories stand. -/
structure Grown (root : ArtifactDirectory) (before : Tree)
    (known : List ArtifactDirectory) (tops : List Place) (tree : Tree) :
    Prop where
  outside : ∀ place, (∀ top ∈ tops, ¬top <+: place) →
    tree.find place = before.find place ∨ place ∈ layoutPlaces root ∧
      before.find place = none ∧
      tree.find place = some (.directory root.device)
  stands : ∀ directory ∈ known, directory.Stands tree

/-- The place is free, or a directory of the device is there. -/
def Fits (root : ArtifactDirectory) (before : Tree) (place : Place) : Prop :=
  before.find place = none ∨ before.find place = some (.directory root.device)

/-- The directories of the store are there or can be made. -/
def LayoutFits (root : ArtifactDirectory) (before : Tree) : Prop :=
  ∀ place ∈ layoutPlaces root, Fits root before place

theorem Grown.fits {place : Place} (grown : Grown root before known [] tree)
    (standing : tree.find place = some (.directory root.device)) :
    Fits root before place := by
  rcases grown.outside place (by simp) with same | ⟨-, absent, -⟩
  · exact .inr (same ▸ standing)
  · exact .inl absent

variable {directory : ArtifactDirectory} {name : String}
variable {Fails : Error → Disk → Prop}

/-- A directory of the store is made. -/
theorem Grown.made (grown : Grown root before known [] tree)
    (member : (directory.child name).place ∈ layoutPlaces root)
    (device : directory.device = root.device)
    (absent : tree.find (directory.child name).place = none) :
    Grown root before (directory.child name :: known) []
      ((directory.child name).entry :: tree) where
  outside := by
    intro place _
    rw [ArtifactDirectory.entry, Tree.find_cons]
    by_cases same : place = (directory.child name).place
    · rw [if_pos same]
      refine .inr ⟨same ▸ member, ?_, congrArg (some <| Node.directory ·) device⟩
      rcases grown.outside place (by simp) with equal | ⟨-, free, -⟩
      · rw [← equal, same, absent]
      · exact free
    · rw [if_neg same]
      exact grown.outside place (by simp)
  stands := by
    intro standing inside
    unfold ArtifactDirectory.Stands
    rw [ArtifactDirectory.entry, Tree.find_cons]
    rcases List.mem_cons.1 inside with rfl | inside
    · rw [if_pos rfl]
    · have stood := grown.stands standing inside
      rw [if_neg fun same => ?_]
      · exact stood
      · rw [ArtifactDirectory.Stands, same, absent] at stood
        cases stood

theorem ensures_layoutChild (entry : IsEntry name) (inside : directory ∈ known)
    (device : directory.device = root.device)
    (member : (directory.child name).place ∈ layoutPlaces root)
    (failed : ∀ error disk, (∃ known, Grown root before known [] disk.tree) →
      Hit index calls (calls + 3) disk ∨ ¬LayoutFits root before →
      Fails error disk) :
    Code.Ensures (lone index damage)
      (At calls (Grown root before known []))
      (directory.openOrCreateChild name)
      (fun child disk => child = directory.child name ∧ At (calls + 3)
          (Grown root before (directory.child name :: known) []) disk)
      Fails := by
  refine ensures_openOrCreateChild entry
    (fun tree grown => grown.stands _ inside)
    (fun tree grown absent => grown.made member device absent) ?_ ?_ ?_
  · intro tree grown
    exact ⟨grown.stands _ (List.mem_cons_of_mem _ inside),
      grown.stands _ List.mem_cons_self⟩
  · intro tree grown standing
    refine ⟨grown.outside, fun other => ?_⟩
    rintro (_ | ⟨_, inner⟩)
    · exact standing
    · exact grown.stands other inner
  · intro error disk grown cause
    refine failed error disk (grown.elim (⟨_, ·⟩) (⟨_, ·⟩)) (cause.imp id ?_)
    rintro ⟨grown, found, fallen⟩ fits
    have same : some (Node.directory root.device) =
        some (.directory (directory.child name).device) :=
      congrArg (some <| Node.directory ·) device.symm
    -- what stands in the way was there before
    rcases grown.outside _ (by simp) with kept | ⟨-, -, made⟩
    · rcases fits _ member with absent | standing
      · exact found (kept.trans absent)
      · exact fallen ((kept.trans standing).trans same)
    · exact fallen (made.trans same)

/-- The directories that stand once the layout is open. -/
def layoutDirectories (root : ArtifactDirectory) : List ArtifactDirectory :=
  [(layoutOf root).published, (layoutOf root).staging,
    (layoutOf root).preflight, root.child ".taskcage", root]

theorem ensures_openLayout
    (failed : ∀ error disk, (∃ known, Grown root before known [] disk.tree) →
      Hit index calls (calls + 12) disk ∨ ¬LayoutFits root before →
      Fails error disk) :
    Code.Ensures (lone index damage)
      (At calls (Grown root before [root] [])) (openLayout root)
      (fun layout disk => layout = layoutOf root ∧ At (calls + 12)
          (Grown root before (layoutDirectories root) []) disk)
      Fails := by
  have part : ∀ first, calls ≤ first → first + 3 ≤ calls + 12 →
      ∀ error disk, (∃ known, Grown root before known [] disk.tree) →
      Hit index first (first + 3) disk ∨ ¬LayoutFits root before →
      Fails error disk :=
    fun first low high error disk grown cause =>
      failed error disk grown (cause.imp_left fun hit => hit.widen low high)
  refine .bind (ensures_layoutChild (by decide) (by simp) rfl
    (by simp [layoutPlaces]) (part _ (by omega) (by omega)))
    fun _ => .given ?_
  rintro rfl
  refine .bind (ensures_layoutChild (by decide) (by simp) rfl
    (by simp [layoutPlaces, layoutOf]) (part _ (by omega) (by omega)))
    fun _ => .given ?_
  rintro rfl
  refine .bind (ensures_layoutChild (by decide) (by simp) rfl
    (by simp [layoutPlaces, layoutOf]) (part _ (by omega) (by omega)))
    fun _ => .given ?_
  rintro rfl
  refine .bind (ensures_layoutChild (by decide) (by simp) rfl
    (by simp [layoutPlaces, layoutOf]) (part _ (by omega) (by omega)))
    fun _ => .given ?_
  rintro rfl
  exact .pure fun disk grown => ⟨rfl, grown⟩

end Layout

/-! ### Copying -/

/-- One staging: the request, what the reads return, the tree before it, and
the number of the call that fails. -/
structure Errand where
  store : LocalArtifactStore
  sha256 : List UInt8 → Sha256Digest
  taskId : String
  input : LocalInputArtifact
  chunks : List Chunk
  before : Tree
  index : Option ℕ
  damage : Damage

namespace Errand

variable (errand : Errand)

abbrev root : ArtifactDirectory :=
  errand.store.root

/-- Any call may be the one that fails, except a removal. -/
abbrev kernel : Kernel :=
  lone errand.index errand.damage

/-- The preflight directory. -/
def preflight : ArtifactDirectory :=
  (layoutOf errand.root).preflight.child
    (errand.store.nextPreflightName errand.taskId)

/-- The staging directory of the task. -/
def staging : ArtifactDirectory :=
  (layoutOf errand.root).staging.child errand.taskId

/-- Where the input is copied to. -/
def source : Place :=
  (errand.preflight.child "source").place

variable {errand} {place : Place}

/-- Nothing lies below both directories. -/
theorem apart (below : errand.staging.place <+: place) :
    ¬errand.preflight.place <+: place :=
  apart_of_staging below

end Errand

section Copying

variable {errand : Errand} {calls : ℕ} {before tree : Tree}
variable {content : List UInt8}

/-- The preflight directory was made, and if the copy was begun, what was copied
so far is in it. -/
structure Copying (errand : Errand) (content : Option (List UInt8))
    (tree : Tree) : Prop where
  grown : Grown errand.root errand.before (layoutDirectories errand.root)
    [errand.preflight.place] tree
  stands : errand.preflight.Stands tree
  free : errand.before.find errand.preflight.place = none
  fits : LayoutFits errand.root errand.before
  file : tree.find errand.source = content.map (.regular errand.root.device)

variable {node : Node} {root : ArtifactDirectory}
variable {place : Place} {directory : ArtifactDirectory}
variable {Fails : Error → Disk → Prop} {source : Descriptor}

/-- A change below some directories. -/
theorem Grown.below {tops : List Place} {known : List ArtifactDirectory}
    {top : Place} (grown : Grown root before known tops tree)
    (member : top ∈ tops) (under : top <+: place)
    (away : ∀ directory ∈ known, directory.place ≠ place) :
    Grown root before known tops ((place, node) :: tree) where
  outside := by
    intro other outside
    have different : other ≠ place := by
      rintro rfl
      exact outside top member under
    rw [Tree.find_cons, if_neg different]
    exact grown.outside other outside
  stands := by
    intro directory inside
    rw [ArtifactDirectory.Stands, Tree.find_cons,
      if_neg (away directory inside)]
    exact grown.stands directory inside

theorem length_layoutDirectories (member : directory ∈ layoutDirectories root) :
    directory.place.length ≤ root.place.length + 2 := by
  simp only [layoutDirectories, List.mem_cons, List.not_mem_nil,
    or_false] at member
  rcases member with rfl | rfl | rfl | rfl | rfl
  all_goals simp [layoutOf]

/-- Nothing below a preflight or a staging directory is a directory of the
store. -/
theorem layoutDirectories_ne (long : root.place.length + 3 ≤ place.length) :
    directory ∈ layoutDirectories root → directory.place ≠ place := by
  rintro member rfl
  have short := length_layoutDirectories member
  omega

theorem Copying.set {content : Option (List UInt8)}
    (copying : Copying errand content tree) (written : List UInt8) :
    Copying errand (some written)
      ((errand.source, .regular errand.root.device written) :: tree) where
  grown := copying.grown.below List.mem_cons_self ⟨_, rfl⟩
    fun directory => layoutDirectories_ne (by
      simp [Errand.source, Errand.preflight, layoutOf])
  stands := by
    rw [ArtifactDirectory.Stands, Tree.find_cons, if_neg]
    · exact copying.stands
    · simp [Errand.source]
  free := copying.free
  fits := copying.fits
  file := by
    rw [Tree.find_cons, if_pos rfl]
    rfl

theorem Copying.extend (copying : Copying errand (some content) tree)
    (bytes : List UInt8) :
    Copying errand (some (content ++ bytes))
      (tree.extend errand.source bytes) := by
  unfold Tree.extend
  rw [copying.file]
  exact copying.set _

/-- The induction is on what is still to be read. -/
theorem ensures_copyLoop {maximumBytes : ℕ} {chunks : List Chunk} :
    ∀ {calls actualSize : ℕ} {content : List UInt8},
    (∀ error disk, (∃ content, Copying errand content disk.tree) →
      Hit errand.index calls (calls + 2 * chunks.length + 1) disk ∨
        2 ^ 64 ≤ actualSize + (contents chunks).length ∨
        maximumBytes < actualSize + (contents chunks).length →
      Fails error disk) →
    Code.Ensures errand.kernel (At calls (Copying errand (some content)))
      (copyLoop maximumBytes source ⟨errand.source, node⟩ chunks
        actualSize content)
      (fun result disk =>
        result = (actualSize + (contents chunks).length,
          content ++ contents chunks) ∧
        At (calls + 2 * chunks.length + 1)
          (Copying errand (some (content ++ contents chunks))) disk)
      Fails := by
  induction chunks with
  | nil =>
      intro calls actualSize content failed
      refine .bind (.mapError (ensures_quiet rfl ?_))
        fun _ => .given fun _ => .pure ?_
      · intro errno disk copying hit
        exact failed _ disk ⟨_, copying⟩ (.inl hit)
      · intro disk copying
        rw [contents, List.flatMap_nil, List.append_nil]
        exact ⟨rfl, copying⟩
  | cons chunk chunks inductionHypothesis =>
      intro calls actualSize content failed
      have size : (contents (chunk :: chunks)).length =
          chunk.val.length + (contents chunks).length := by
        simp [contents]
      rw [size, List.length_cons] at failed
      refine .bind (.mapError (ensures_quiet rfl ?_))
        fun _ => .given fun _ => ?_
      · intro errno disk copying hit
        exact failed _ disk ⟨_, copying⟩
          (.inl (hit.widen (by omega) (by omega)))
      by_cases overflow : 2 ^ 64 ≤ actualSize + chunk.val.length
      · rw [if_pos overflow]
        exact .throw fun disk copying => failed _ disk ⟨_, copying.2⟩
          (.inr (.inl (by omega)))
      by_cases large : maximumBytes < actualSize + chunk.val.length
      · rw [if_neg overflow, if_pos large]
        exact .throw fun disk copying => failed _ disk ⟨_, copying.2⟩
          (.inr (.inr (by omega)))
      rw [if_neg overflow, if_neg large]
      refine .bind (.mapError (Code.Ensures.call (fun _ =>
        Copying errand (some (content ++ chunk.val))) ?_ ?_ ?_)) fun _ => ?_
      · intro tree result reached copying _ ended
        cases ended
        exact copying.extend _
      · intro tree errno disk _ ended
        cases ended
      · rintro tree disk copying hit _ ⟨long, same⟩
        refine failed _ disk ⟨_, same ▸ copying.extend _⟩ (.inl ?_)
        exact (hit_of_refused hit ⟨long, same⟩).widen (by omega) (by omega)
      refine (inductionHypothesis ?_).mono ?_
      · intro error disk copying cause
        refine failed error disk copying ?_
        rcases cause with hit | overflow | large
        · exact .inl (hit.widen (by omega) (by omega))
        · exact .inr (.inl (by omega))
        · exact .inr (.inr (by omega))
      · rintro result disk ⟨same, long, copying⟩
        have whole : content ++ contents (chunk :: chunks) =
            content ++ chunk.val ++ contents chunks := by
          simp [contents]
        rw [whole, size, List.length_cons]
        refine ⟨?_, ?_, copying⟩
        · rw [same, Nat.add_assoc]
        · omega

/-- What is read is what was declared, and not too large. -/
structure Errand.Verified (errand : Errand) : Prop where
  size : (contents errand.chunks).length = errand.input.sizeBytes
  fits : errand.input.sizeBytes ≤ errand.store.maximumBytes
  digest : errand.sha256 (contents errand.chunks) = errand.input.digest

theorem ensures_copyAndVerifyInput
    (failed : ∀ error disk,
      (∃ content, Copying errand content disk.tree) →
      Hit errand.index calls (calls + 2 * errand.chunks.length + 2) disk ∨
        ¬errand.Verified → Fails error disk) :
    Code.Ensures errand.kernel (At calls (Copying errand (some [])))
      (copyAndVerifyInput errand.sha256 errand.input errand.store.maximumBytes
        source errand.chunks ⟨errand.source, node⟩)
      (fun _ disk => errand.Verified ∧
        At (calls + 2 * errand.chunks.length + 2)
          (Copying errand (some (contents errand.chunks))) disk)
      Fails := by
  have bounded := errand.store.bounded
  unfold copyAndVerifyInput
  by_cases large : errand.store.maximumBytes < errand.input.sizeBytes
  · rw [if_pos large]
    refine .throw fun disk copying => failed _ disk ⟨_, copying.2⟩ (.inr ?_)
    intro verified
    have fits := verified.fits
    omega
  rw [if_neg large]
  refine .bind (ensures_copyLoop ?_) fun result => .given ?_
  · intro error disk copying cause
    refine failed error disk copying (cause.imp
      (fun hit => hit.widen (by omega) (by omega)) ?_)
    intro outOfRange verified
    have size := verified.size
    have fits := verified.fits
    omega
  rintro rfl
  rw [List.nil_append, Nat.zero_add]
  dsimp only
  by_cases other : (contents errand.chunks).length ≠ errand.input.sizeBytes
  · rw [if_pos other]
    exact .throw fun disk copying => failed _ disk ⟨_, copying.2⟩
      (.inr fun verified => other verified.size)
  by_cases wrong : errand.sha256 (contents errand.chunks) ≠ errand.input.digest
  · rw [if_neg other, if_pos wrong]
    exact .throw fun disk copying => failed _ disk ⟨_, copying.2⟩
      (.inr fun verified => wrong verified.digest)
  rw [if_neg other, if_neg wrong]
  have verified : errand.Verified :=
    ⟨not_not.1 other, by omega, not_not.1 wrong⟩
  refine .mapError ((ensures_quiet rfl ?_).mono ?_)
  · intro errno disk copying hit
    exact failed _ disk ⟨_, copying⟩ (.inl (hit.widen (by omega) (by omega)))
  · rintro _ disk ⟨-, copying⟩
    exact ⟨verified, copying⟩

end Copying

/-! ### Up to the directory of the task -/

section Snapshot

variable {errand : Errand} {tree : Tree}

/-- These entries are found. -/
def Holds (entries : List (Place × Node)) (tree : Tree) : Prop :=
  ∀ entry ∈ entries, tree.find entry.1 = some entry.2

/-- The preflight directory, the staging directory of the task and the copy of
the input. -/
def staged (errand : Errand)
    (content : List UInt8) : List (Place × Node) :=
  [errand.staging.entry, errand.preflight.entry,
    (layoutOf errand.root).staging.entry, (layoutOf errand.root).preflight.entry,
    (errand.source, .regular errand.root.device content)]

variable {place : Place}

theorem Holds.cons {entries : List (Place × Node)} {node : Node}
    (holds : Holds entries tree) (absent : tree.find place = none) :
    Holds ((place, node) :: entries) ((place, node) :: tree) := by
  intro entry member
  rw [Tree.find_cons]
  rcases List.mem_cons.1 member with rfl | inside
  · rw [if_pos rfl]
  · have found := holds entry inside
    rw [if_neg]
    · exact found
    · intro same
      rw [same, absent] at found
      cases found

/-- The staging directory of a task is as it was. -/
theorem Grown.untouched {known : List ArtifactDirectory}
    (grown : Grown errand.root errand.before known
      [errand.preflight.place] tree) (below : errand.staging.place <+: place) :
    tree.find place = errand.before.find place := by
  have away : ∀ top ∈ [errand.preflight.place],
      ¬top <+: place := by
    intro top member
    rw [List.mem_singleton.1 member]
    exact Errand.apart below
  have either : errand.preflight.place <+: place ∨
      errand.staging.place <+: place :=
    .inr below
  rcases grown.outside place away with same | ⟨member, -, -⟩
  · exact same
  · exact absurd member (not_mem_layoutPlaces either)

/-- How the first part can fail: with the staging directory of the task as it
was, or with a new one that could not be opened. -/
def Interrupted (errand : Errand) (disk : Disk) : Prop :=
  errand.preflight.Stands disk.tree ∧
    ((∀ place, errand.staging.place <+: place →
        disk.tree.find place = errand.before.find place) ∧
      (Hit errand.index 15 (2 * errand.chunks.length + 21) disk ∨
        ¬errand.Verified ∨
        errand.before.find errand.staging.place ≠ none) ∨
    errand.staging.Stands disk.tree ∧
      errand.before.find errand.staging.place = none ∧
      errand.Verified ∧
      Hit errand.index (2 * errand.chunks.length + 21)
        (2 * errand.chunks.length + 23) disk)

theorem Copying.interrupted {content : Option (List UInt8)} {disk : Disk}
    (copying : Copying errand content disk.tree)
    (cause : Hit errand.index 15 (2 * errand.chunks.length + 21) disk ∨
      ¬errand.Verified ∨
      errand.before.find errand.staging.place ≠ none) :
    Interrupted errand disk :=
  ⟨copying.stands, .inl ⟨fun _ => copying.grown.untouched, cause⟩⟩

theorem Copying.holds {content : List UInt8}
    (copying : Copying errand (some content) tree)
    (absent : tree.find errand.staging.place = none) :
    Holds (staged errand content) (errand.staging.entry :: tree) := by
  refine Holds.cons ?_ absent
  intro entry member
  simp only [List.mem_cons, List.not_mem_nil, or_false] at member
  rcases member with rfl | rfl | rfl | rfl
  · exact copying.stands
  · exact copying.grown.stands _ (by simp [layoutDirectories])
  · exact copying.grown.stands _ (by simp [layoutDirectories])
  · exact copying.file

theorem ensures_snapshot {source : Descriptor}
    (valid : isTaskId errand.taskId = true) :
    Code.Ensures errand.kernel (At 15 (Copying errand none))
      (errand.store.snapshot errand.sha256 errand.taskId errand.input source
        errand.chunks (layoutOf errand.root) errand.preflight)
      (fun directory disk =>
        (directory = errand.staging ∧
          Missed errand.index (2 * errand.chunks.length + 21)
            (2 * errand.chunks.length + 23)) ∧
        At (2 * errand.chunks.length + 23) (fun tree =>
          (errand.Verified ∧ errand.before.find errand.staging.place = none) ∧
          Holds (staged errand (contents errand.chunks)) tree) disk)
      (fun _ => Interrupted errand) := by
  refine .bind (ensures_createRegularFile (by decide)
    (fun tree copying => copying.stands)
    (fun tree copying _ => copying.set []) ?_) fun file => .given ?_
  · intro error disk copying cause
    have hit := cause.resolve_right (not_not.2 copying.file)
    exact copying.interrupted (.inl (hit.widen (by omega) (by omega)))
  rintro ⟨rfl, -⟩
  refine .bind (ensures_copyAndVerifyInput ?_)
    fun _ => .given fun verified => ?_
  · rintro error disk ⟨content, copying⟩ cause
    exact copying.interrupted (cause.imp
      (fun hit => hit.widen (by omega) (by omega)) .inl)
  refine .bind (ensures_syncAll ?_) fun _ => ?_
  · intro error disk copying hit
    exact copying.interrupted (.inl (hit.widen (by omega) (by omega)))
  have number : 16 + 2 * errand.chunks.length + 2 + 2 =
      2 * errand.chunks.length + 20 := by
    omega
  rw [number]
  refine ensures_createChild (isEntry_taskId valid) 
    (fun tree copying => copying.grown.stands _
      (by simp [layoutDirectories])) ?_ ?_ ?_ ?_
  · intro tree copying absent
    refine ⟨⟨verified, ?_⟩, copying.holds absent⟩
    rw [← copying.grown.untouched (List.prefix_refl _)]
    exact absent
  · rintro tree ⟨-, holds⟩
    exact ⟨holds (layoutOf errand.root).staging.entry (by simp [staged]),
      holds errand.staging.entry (by simp [staged])⟩
  · intro error disk copying cause
    refine copying.interrupted (cause.imp
      (fun hit => hit.widen (by omega) (by omega)) fun found => .inr ?_)
    rw [← copying.grown.untouched (List.prefix_refl _)]
    exact found
  · rintro error disk ⟨⟨verified, absent⟩, holds⟩ hit
    exact ⟨holds errand.preflight.entry (by simp [staged]),
      .inr ⟨holds errand.staging.entry (by simp [staged]), absent,
        verified, hit⟩⟩

end Snapshot

/-! ### From the directory of the task on -/

section Furnish

variable {errand : Errand} {calls : ℕ} {name : String}
variable {directory : ArtifactDirectory} {entries : List (Place × Node)}

/-- A new directory leaves what there is. -/
theorem ensures_createChild_holds {Fails : Error → Disk → Prop}
    (entry : IsEntry name)
    (inside : directory.entry ∈ entries)
    (failed : ∀ error disk, Holds entries disk.tree → Fails error disk) :
    Code.Ensures errand.kernel (At calls (Holds entries))
      (directory.createChild name)
      (fun child disk => child = directory.child name ∧ At (calls + 3)
          (Holds ((directory.child name).entry :: entries)) disk) Fails := by
  refine (ensures_createChild entry (fun tree holds => holds _ inside)
    (fun tree holds absent => holds.cons absent) ?_ ?_ ?_).mono ?_
  · intro tree holds
    exact ⟨holds _ (List.mem_cons_of_mem _ inside),
      holds (directory.child name).entry List.mem_cons_self⟩
  · intro error disk holds _
    exact failed error disk holds
  · intro error disk holds _
    exact failed error disk fun entry member =>
      holds entry (List.mem_cons_of_mem _ member)
  · rintro child disk ⟨⟨same, -⟩, reached⟩
    exact ⟨same, reached⟩

/-- Nothing is found at the preflight directory and below. -/
def Vanished (errand : Errand) (tree : Tree) : Prop :=
  ∀ place, errand.preflight.place <+: place → tree.find place = none

/-- What the rollback finds when the second part fails. -/
def Remains (errand : Errand) (tree : Tree) : Prop :=
  errand.staging.Stands tree ∧
    (errand.preflight.Stands tree ∨ Vanished errand tree)

/-- Of the two directories only the staging directory is left. -/
def Cleared (errand : Errand) (tree : Tree) : Prop :=
  Vanished errand tree ∧ errand.staging.Stands tree

/-- Where the input of a task is staged. -/
def inputPlace (errand : Errand) : Place :=
  (((errand.staging.child "artifacts").child "in").child "source").place

theorem staging_prefix_inputPlace :
    errand.staging.place <+: inputPlace errand :=
  ⟨["artifacts".toList, "in".toList, "source".toList], by
    simp [inputPlace]⟩

/-- The entries that matter once the copy was moved. -/
def moved (errand : Errand)
    (content : List UInt8) : List (Place × Node) :=
  [(inputPlace errand, .regular errand.root.device content),
    errand.staging.entry, errand.preflight.entry,
    (layoutOf errand.root).preflight.entry]

variable {content : List UInt8} {tree : Tree}

theorem holds_moved {node : Node} (holds : Holds (staged errand content) tree)
    (found : tree.find errand.source = some node) :
    Holds (moved errand content)
      ((inputPlace errand, node) :: tree.without errand.source) := by
  have file := holds (errand.source,
    .regular errand.root.device content) (by simp [staged])
  have same : node = .regular errand.root.device content :=
    Option.some.inj (found.symm.trans file)
  have inside : errand.preflight.place <+: errand.source :=
    ⟨["source".toList], rfl⟩
  -- what is not below the copy stays
  have stays : ∀ entry ∈ staged errand content,
      ¬errand.source <+: entry.1 →
      Tree.find ((inputPlace errand, node) ::
        tree.without errand.source) entry.1 =
        if entry.1 = inputPlace errand then some node
        else some entry.2 := by
    intro entry member away
    rw [Tree.find_cons, Tree.find_without, if_neg away, holds entry member]
  have long : ∀ place : Place,
      place.length < errand.source.length →
      ¬errand.source <+: place := fun place short below => by
    have bound := below.length_le
    omega
  have different : ∀ directory : ArtifactDirectory,
      directory.place.length < (inputPlace errand).length →
      directory.place ≠ inputPlace errand :=
    fun directory short same => by
      rw [same] at short
      omega
  intro entry member
  simp only [moved, List.mem_cons, List.not_mem_nil, or_false] at member
  rcases member with rfl | rfl | rfl | rfl
  · rw [Tree.find_cons, if_pos rfl, same]
  · rw [stays errand.staging.entry (by simp [staged])
      (fun below => Errand.apart (List.prefix_refl _)
        (inside.trans below)), if_neg]
    exact different _ (by simp [inputPlace])
  · rw [stays errand.preflight.entry (by simp [staged])
      (long _ (by simp [Errand.source, ArtifactDirectory.entry])), if_neg]
    exact different _ (by simp [inputPlace, Errand.preflight,
      Errand.staging, layoutOf])
  · rw [stays (layoutOf errand.root).preflight.entry (by simp [staged])
      (long _ (by simp [Errand.source, layoutOf,
        Errand.preflight, ArtifactDirectory.entry])), if_neg]
    exact different _ (by simp [inputPlace, Errand.staging, layoutOf])

/-- The input is staged, and the preflight directory is gone. -/
structure Finished (errand : Errand)
    (content : List UInt8) (tree : Tree) : Prop where
  input : tree.find (inputPlace errand) =
    some (.regular errand.root.device content)
  stands : errand.staging.Stands tree
  vanished : Vanished errand tree

theorem finished_of_moved (holds : Holds (moved errand content) tree) :
    Finished errand content (tree.without errand.preflight.place) where
  input := by
    rw [Tree.find_without, if_neg (Errand.apart staging_prefix_inputPlace)]
    exact holds _ List.mem_cons_self
  stands := by
    rw [ArtifactDirectory.Stands, Tree.find_without,
      if_neg (Errand.apart (List.prefix_refl _))]
    exact holds errand.staging.entry (by simp [moved])
  vanished := by
    intro place below
    rw [Tree.find_without, if_pos below]

theorem ensures_furnish {output : DeclaredOutputArtifact}
    (valid : isTaskId errand.taskId = true) :
    Code.Ensures errand.kernel (At calls (Holds (staged errand content)))
      (LocalArtifactStore.furnish errand.taskId output (layoutOf errand.root)
        errand.preflight errand.staging)
      (fun _ disk => Finished errand content disk.tree)
      (fun _ disk => Remains errand disk.tree) := by
  have left : ∀ {more : List (Place × Node)} {tree : Tree},
      Holds more tree → errand.staging.entry ∈ more →
      errand.preflight.entry ∈ more → Remains errand tree :=
    fun holds first second => ⟨holds _ first, .inl (holds _ second)⟩
  refine .bind (ensures_createChild_holds (by decide) (by simp [staged])
    fun error disk holds => left holds (by simp [staged]) (by simp [staged]))
    fun _ => .given ?_
  rintro rfl
  refine .bind (ensures_createChild_holds (by decide) (by simp)
    fun error disk holds => left holds (by simp [staged]) (by simp [staged]))
    fun _ => .given ?_
  rintro rfl
  refine .bind (ensures_createChild_holds (by decide) (by simp)
    fun error disk holds => left holds (by simp [staged]) (by simp [staged]))
    fun _ => .given ?_
  rintro rfl
  refine .bind (ensures_moveNoReplace (by decide) (by decide) ?_
    (fun tree node holds found _ => holds_moved
      (fun entry (member : entry ∈ staged errand content) =>
        holds entry (by simp [member])) found)
    fun error disk holds => left holds.2 (by simp [staged])
      (by simp [staged])) fun _ => ?_
  · intro tree holds
    exact ⟨holds errand.preflight.entry (by simp [staged]),
      holds ((errand.staging.child "artifacts").child "in").entry (by simp)⟩
  have synced : ∀ {calls : ℕ} (directory : ArtifactDirectory),
      Code.Ensures errand.kernel
        (At calls (Holds (moved errand content))) directory.syncAll
        (fun _ => At (calls + 2) (Holds (moved errand content)))
        (fun _ disk => Remains errand disk.tree) :=
    fun directory => ensures_syncAll fun error disk holds _ =>
      left holds (by simp [moved]) (by simp [moved])
  refine .bind (synced _) fun _ => .bind (synced _) fun _ =>
    .bind (synced _) fun _ => .bind (synced _) fun _ => ?_
  refine .bind (ensures_removeEmptyFrom (isEntry_preflightName _ valid)
     (fun tree holds =>
      holds (layoutOf errand.root).preflight.entry (by simp [moved]))
    (fun tree holds => finished_of_moved holds) ?_) fun _ => ?_
  · rintro error disk (holds | finished)
    · exact left holds (by simp [moved]) (by simp [moved])
    · exact ⟨finished.stands, .inr finished.vanished⟩
  refine .bind (ensures_syncAll ?_) fun _ => .pure ?_
  · intro error disk finished _
    exact ⟨finished.stands, .inr finished.vanished⟩
  · intro disk finished
    exact finished.2

end Furnish

/-! ### The whole staging -/

section Whole

variable {errand : Errand} {tree : Tree}

/-- At the preflight directory of this staging and at the staging directory of
the task everything is as before. -/
def Restored (errand : Errand) (tree : Tree) : Prop :=
  ∀ place, errand.preflight.place <+: place ∨ errand.staging.place <+: place →
    tree.find place = errand.before.find place

/-- The call that fails is one of the two that open a directory which was just
made.  The first directory is made with the thirteenth call, after the twelve
that open the layout; the second one after the copy of the input. -/
structure Stranded (errand : Errand) : Prop where
  valid : isTaskId errand.taskId = true
  layout : LayoutFits errand.root errand.before
  free : errand.before.find errand.preflight.place = none
  hit : (errand.index = some 13 ∨ errand.index = some 14) ∨ errand.Verified ∧
      errand.before.find errand.staging.place = none ∧
      (errand.index = some (2 * errand.chunks.length + 21) ∨
        errand.index = some (2 * errand.chunks.length + 22))

/-- A failed staging leaves nothing behind, and a staged input is the declared
one. -/
def LeavesNothing (errand : Errand) :
    Except Error StagedArtifactTask × Disk → Prop
  | (.error _, disk) => Restored errand disk.tree
  | (.ok _, disk) =>
      Vanished errand disk.tree ∧
        ∃ content, disk.tree.find (inputPlace errand) =
            some (.regular errand.root.device content) ∧
          content.length = errand.input.sizeBytes ∧
            errand.sha256 content = errand.input.digest

/-- Where a fault is not, it did not strand a directory. -/
theorem not_stranded (first : Missed errand.index 13 15)
    (second : Missed errand.index (2 * errand.chunks.length + 21)
        (2 * errand.chunks.length + 23) ∨
      ¬errand.Verified ∨
      errand.before.find errand.staging.place ≠ none) :
    ¬Stranded errand := by
  rintro ⟨-, -, -, hit⟩
  rcases hit with (hit | hit) | ⟨verified, absent, hit⟩
  · exact absurd (first _ hit (by omega)) (by omega)
  · exact absurd (first _ hit (by omega)) (by omega)
  rcases second with missed | unverified | found
  · rcases hit with hit | hit
    · exact absurd (missed _ hit (by omega)) (by omega)
    · exact absurd (missed _ hit (by omega)) (by omega)
  · exact unverified verified
  · exact found absent

variable {disk : Disk} {Any : StagedArtifactTask → Disk → Prop} {error : Error}

theorem Hit.missed {low high first last : ℕ}
    (hit : Hit errand.index low high disk) (away : high ≤ first ∨ last ≤ low) :
    Missed errand.index first last := by
  obtain ⟨number, same, lower, upper, -⟩ := hit
  intro other equal above
  rw [same] at equal
  cases equal
  omega

/-- Once the preflight directory is removed, all is as before unless a new
staging directory could not be opened. -/
theorem restored_of_interrupted (formed : errand.before.WellFormed)
    (free : errand.before.find errand.preflight.place = none)
    (untouched : ∀ place,
      errand.staging.place <+: place →
      tree.find place = errand.before.find place) :
    Restored errand (tree.without errand.preflight.place) := by
  rintro place (⟨rest, rfl⟩ | below)
  · rw [Tree.find_without, if_pos ⟨rest, rfl⟩, formed.below free]
  · rw [Tree.find_without, if_neg (Errand.apart below), untouched place below]

theorem not_restored_of_stands
    (absent : errand.before.find errand.staging.place = none)
    (stands : errand.staging.Stands tree) :
    ¬Restored errand (tree.without errand.preflight.place) := by
  intro restored
  have same := restored _ (.inr (List.prefix_refl _))
  rw [Tree.find_without, if_neg (Errand.apart (List.prefix_refl _)),
    absent, stands] at same
  cases same

/-- A directory is left behind exactly if a directory was stranded. -/
def Settled (errand : Errand) (tree : Tree) : Prop :=
  ¬Stranded errand ∧ Restored errand tree ∨ Stranded errand ∧
      ¬Restored errand tree

theorem Grown.restored {known : List ArtifactDirectory}
    (grown : Grown errand.root errand.before known [] tree) :
    Restored errand tree := by
  intro place below
  rcases grown.outside place (by simp) with same | ⟨member, -, -⟩
  · exact same
  · exact absurd member (not_mem_layoutPlaces below)

theorem layoutFits_of_grown
    (grown : Grown errand.root errand.before (layoutDirectories errand.root) []
      tree) :
    LayoutFits errand.root errand.before := by
  intro place member
  apply grown.fits
  simp only [layoutPlaces, List.mem_cons, List.not_mem_nil, or_false] at member
  rcases member with rfl | rfl | rfl | rfl
  all_goals exact grown.stands _ (by simp [layoutDirectories])

/-- The preflight directory is made. -/
theorem Grown.copying (formed : errand.before.WellFormed)
    (grown : Grown errand.root errand.before (layoutDirectories errand.root) []
      tree) (absent : tree.find errand.preflight.place = none) :
    Copying errand none (errand.preflight.entry :: tree) := by
  have restored : Restored errand tree := grown.restored
  have free : errand.before.find errand.preflight.place = none := by
    rw [← restored _ (.inl (List.prefix_refl _)), absent]
  have all : Grown errand.root errand.before (layoutDirectories errand.root)
      [errand.preflight.place] tree :=
    ⟨fun place _ => grown.outside place (by simp), grown.stands⟩
  refine ⟨all.below List.mem_cons_self (List.prefix_refl _)
    fun directory => layoutDirectories_ne (by
      simp [Errand.preflight, layoutOf]), ?_, free,
    layoutFits_of_grown grown, ?_⟩
  · rw [ArtifactDirectory.Stands, ArtifactDirectory.entry, Tree.find_cons,
      if_pos rfl]
  · have different : errand.source ≠ errand.preflight.place := by
      simp [Errand.source]
    rw [ArtifactDirectory.entry, Tree.find_cons, if_neg different]
    exact (restored _ (.inl ⟨["source".toList], rfl⟩)).trans
      (formed.below free ["source".toList])

/-- What the rollback finds when the first part fails. -/
def Half (errand : Errand) (tree : Tree) : Prop :=
  errand.preflight.Stands tree ∧ Settled errand
      (tree.without errand.preflight.place)

theorem Interrupted.half (formed : errand.before.WellFormed)
    (valid : isTaskId errand.taskId = true)
    (fits : LayoutFits errand.root errand.before)
    (first : Missed errand.index 13 15)
    (free : errand.before.find errand.preflight.place = none)
    (interrupted : Interrupted errand disk) :
    Half errand disk.tree := by
  refine ⟨interrupted.1, ?_⟩
  rcases interrupted.2 with ⟨untouched, cause⟩ |
    ⟨stands, absent, verified, number, hit, low, high, -⟩
  · refine .inl ⟨not_stranded first (cause.imp_left fun hit =>
      hit.missed (.inl (by omega))), ?_⟩
    exact restored_of_interrupted formed free untouched
  · refine .inr ⟨⟨valid, fits, free, .inr ⟨verified, absent, ?_⟩⟩,
      not_restored_of_stands absent stands⟩
    rw [hit, Option.some.injEq, Option.some.injEq]
    omega

/-- Once both directories are removed, all is as before. -/
theorem restored_of_vanished (formed : errand.before.WellFormed)
    (free : errand.before.find errand.preflight.place = none)
    (absent : errand.before.find errand.staging.place = none)
    (vanished : Vanished errand tree) :
    Restored errand (tree.without errand.staging.place) := by
  rintro place (⟨rest, rfl⟩ | ⟨rest, rfl⟩)
  · rw [Tree.find_without, vanished _ ⟨rest, rfl⟩, ite_self, formed.below free]
  · rw [Tree.find_without, if_pos ⟨rest, rfl⟩, formed.below absent]

/-- The inner part fails before or after the rollback knows of the staging
directory. -/
theorem ensures_inner {source : Descriptor} {output : DeclaredOutputArtifact}
    (formed : errand.before.WellFormed) (valid : isTaskId errand.taskId = true)
    (fits : LayoutFits errand.root errand.before)
    (first : Missed errand.index 13 15)
    (free : errand.before.find errand.preflight.place = none) :
    Code.Ensures errand.kernel (At 15 (Copying errand none))
      (do
        let taskDirectory ← .mapError (fun error => (error, false))
          (errand.store.snapshot errand.sha256 errand.taskId errand.input source
            errand.chunks (layoutOf errand.root) errand.preflight)
        .mapError (fun error => (error, true))
          (LocalArtifactStore.furnish errand.taskId output (layoutOf errand.root)
            errand.preflight taskDirectory))
      (fun _ disk => (¬Stranded errand ∧ errand.Verified) ∧
        Finished errand (contents errand.chunks) disk.tree)
      (fun failure disk =>
        match failure with
        | (_, false) => Half errand disk.tree
        | (_, true) =>
            (¬Stranded errand ∧
              errand.before.find errand.staging.place = none) ∧
            Remains errand disk.tree) := by
  refine .bind (.mapError ((ensures_snapshot valid).soften
    fun _ disk interrupted => interrupted.half formed valid fits first free))
    fun directory => .given ?_
  rintro ⟨rfl, second⟩
  rintro disk ⟨long, ⟨verified, absent⟩, holds⟩
  have fine : ¬Stranded errand := not_stranded first (.inl second)
  refine (Code.Ensures.mapError (((ensures_furnish valid).mono
    fun _ disk finished => ?_).soften fun error disk remains => ?_)) disk
    ⟨long, holds⟩
  · exact ⟨⟨fine, verified⟩, finished⟩
  · exact ⟨⟨fine, absent⟩, remains⟩

/-- The rollback of the first part removes the preflight directory. -/
theorem ensures_removeHalf :
    Code.Ensures errand.kernel (fun disk => Half errand disk.tree) (do
        let _ ← .attempt errand.preflight.removeTree
        .throw error : Code Error StagedArtifactTask) Any
      (fun _ disk => Settled errand disk.tree) := by
  refine .bind (ensures_attempt_removeTree
    (fun tree half _ => half.2) ?_) fun _ => .throw fun disk settled => settled
  intro tree half absent
  rw [half.1] at absent
  cases absent

/-- The rollback of the second part removes both directories. -/
theorem ensures_removeBoth (formed : errand.before.WellFormed)
    (facts : ¬Stranded errand ∧ errand.before.find errand.staging.place = none)
    (free : errand.before.find errand.preflight.place = none) :
    Code.Ensures errand.kernel (fun disk => Remains errand disk.tree) (do
        let _ ← .attempt errand.preflight.removeTree
        let _ ← .attempt
          ((layoutOf errand.root).staging.removeChildTree errand.taskId)
        .throw error : Code Error StagedArtifactTask) Any
      (fun _ disk => Settled errand disk.tree) := by
  have first : ∀ tree, Remains errand tree →
      tree.find errand.preflight.place ≠ none →
      Cleared errand (tree.without errand.preflight.place) := by
    intro tree remains _
    constructor
    · intro place below
      rw [Tree.find_without, if_pos below]
    · rw [ArtifactDirectory.Stands, Tree.find_without,
        if_neg (Errand.apart (List.prefix_refl _))]
      exact remains.1
  refine .bind (ensures_attempt_removeTree first ?_) fun _ => ?_
  · intro tree remains absent
    refine ⟨remains.2.resolve_left fun stands => ?_, remains.1⟩
    rw [stands] at absent
    cases absent
  have second : Code.Ensures errand.kernel
      (fun disk => Cleared errand disk.tree)
      (removeAll errand.staging.place)
      (fun _ disk => Settled errand disk.tree)
      (fun _ disk => Settled errand disk.tree) := by
    refine ensures_removeAll _ ?_ ?_
    · intro tree there _
      exact .inl ⟨facts.1, restored_of_vanished formed free facts.2 there.1⟩
    · intro tree there absent
      rw [there.2] at absent
      cases absent
  have removed : Code.Ensures errand.kernel
      (fun disk => Cleared errand disk.tree)
      ((layoutOf errand.root).staging.removeChildTree errand.taskId)
      (fun _ disk => Settled errand disk.tree)
      (fun _ disk => Settled errand disk.tree) := by
    refine .bind (.attempt second) fun outcome => ?_
    cases outcome with
    | ok done => exact ensures_syncAll_quiet
    | error errno =>
        dsimp only
        split
        · exact .pure fun _ settled => settled
        · exact .throw fun _ settled => settled
  refine .bind (.attempt removed) fun outcome => .throw fun disk settled => ?_
  cases outcome with
  | ok done => exact settled
  | error error => exact settled

theorem ensures_stageOpenInput (source : Descriptor)
    (output : DeclaredOutputArtifact) (formed : errand.before.WellFormed)
    (opened : errand.root.Stands errand.before) :
    Code.Ensures errand.kernel (At 0 (· = errand.before))
      (errand.store.stageOpenInput errand.sha256 errand.taskId errand.input
        output source errand.chunks)
      (fun _ disk => (¬Stranded errand ∧ errand.Verified) ∧
        Finished errand (contents errand.chunks) disk.tree)
      (fun _ disk => Settled errand disk.tree) := by
  unfold LocalArtifactStore.stageOpenInput
  cases valid : isTaskId errand.taskId with
  | false =>
      rintro disk ⟨-, same⟩
      refine .inl ⟨fun stranded => ?_, fun _ _ => congrArg (Tree.find · _) same⟩
      rw [stranded.valid] at valid
      cases valid
  | true =>
      have proceed : Code.Ensures errand.kernel (At 0 (· = errand.before))
          (.ofExcept (Outcome.require true (Error.invalidTaskId errand.taskId)))
          (fun _ => At 0 (Grown errand.root errand.before [errand.root] []))
          (fun _ disk => Settled errand disk.tree) := by
        rintro disk ⟨long, same⟩
        refine ⟨long, fun _ _ => .inl (congrArg (Tree.find · _) same),
          fun directory member => ?_⟩
        rw [List.mem_singleton.1 member]
        exact (congrArg (Tree.find · _) same).trans opened
      refine .bind proceed fun _ => ?_
      refine .bind (ensures_openLayout ?_) fun layout => .given ?_
      · rintro error disk ⟨known, grown⟩ cause
        refine .inl ⟨?_, grown.restored⟩
        rcases cause with hit | misfit
        · exact not_stranded (hit.missed (.inl (by omega)))
            (.inl (hit.missed (.inl (by omega))))
        · exact fun stranded => misfit stranded.layout
      rintro rfl
      refine .bind (ensures_createChild (isEntry_preflightName _ valid)
         (fun tree grown => grown.stands _ (by simp [layoutDirectories]))
        (fun tree grown absent => grown.copying formed absent)
        (fun tree copying => ⟨copying.grown.stands _
          (by simp [layoutDirectories]), copying.stands⟩) ?_ ?_)
        fun preflight => .given ?_
      · intro error disk grown cause
        have restored : Restored errand disk.tree := grown.restored
        refine .inl ⟨?_, restored⟩
        rcases cause with hit | found
        · exact not_stranded (hit.missed (.inl (by omega)))
            (.inl (hit.missed (.inl (by omega))))
        · intro stranded
          apply found
          exact (restored _ (.inl (List.prefix_refl _))).trans stranded.free
      · rintro error disk copying ⟨number, hit, low, high, -⟩
        refine .inr ⟨⟨valid, copying.fits, copying.free, .inl ?_⟩, ?_⟩
        · rw [hit, Option.some.injEq, Option.some.injEq]
          omega
        · intro restored
          have same := restored _ (.inl (List.prefix_refl _))
          rw [copying.stands, copying.free] at same
          cases same
      rintro ⟨rfl, first⟩
      rintro disk ⟨long, copying⟩
      refine (Code.Ensures.bind (.attempt (ensures_inner formed valid
        copying.fits first copying.free)) fun outcome => ?_) disk
        ⟨long, copying⟩
      cases outcome with
      | ok staged => exact .pure fun disk finished => finished
      | error failure =>
          obtain ⟨error, created⟩ := failure
          cases created with
          | false => exact ensures_removeHalf
          | true =>
              refine .given fun facts => ?_
              exact ensures_removeBoth formed facts copying.free

/-- When one call fails, a staging leaves nothing behind exactly unless the
failed call was to open a directory that the staging had just made. -/
theorem leavesNothing_iff (errand : Errand) (source : Descriptor)
    (output : DeclaredOutputArtifact) (formed : errand.before.WellFormed)
    (opened : errand.root.Stands errand.before) :
    LeavesNothing errand
        (errand.store.stageOpenInput errand.sha256 errand.taskId errand.input
          output source errand.chunks errand.kernel ⟨errand.before, []⟩) ↔
      ¬Stranded errand := by
  have outcome := ensures_stageOpenInput source output formed opened
    ⟨errand.before, []⟩ ⟨rfl, rfl⟩
  generalize errand.store.stageOpenInput errand.sha256 errand.taskId
    errand.input output source errand.chunks errand.kernel
    ⟨errand.before, []⟩ = ended at outcome ⊢
  rcases ended with ⟨error | staged, disk⟩
  · rcases outcome with ⟨fine, restored⟩ | ⟨stranded, broken⟩
    · exact iff_of_true restored fine
    · exact iff_of_false broken fun fine => fine stranded
  · obtain ⟨⟨fine, verified⟩, finished⟩ := outcome
    exact iff_of_true ⟨finished.vanished, _, finished.input, verified.size,
      verified.digest⟩ fine

def smallDigest : Sha256Digest :=
  ⟨"sha256:" ++ String.ofList (List.replicate 64 'a'), by decide +kernel⟩

/-- An empty input is staged in a store that was just made, and one call
fails. -/
def smallErrand (index : Option ℕ) : Errand where
  store := ⟨smallRoot, 100, 0, by decide⟩
  sha256 := fun _ => smallDigest
  taskId := "01234567-89ab-cdef-0123-456789abcdef"
  input := ⟨⟨"a/b", rfl⟩, smallDigest, 0⟩
  chunks := []
  before := smallTree
  index := index
  damage := ⟨.other, 0, fun _ => true⟩

theorem leavesNothing_iff_small :
    LeavesNothing (smallErrand none)
        ((smallErrand none).store.stageOpenInput (fun _ => smallDigest)
          (smallErrand none).taskId (smallErrand none).input
          ⟨"out", "text/plain", 1⟩ ⟨[['a'], ['b']], .regular 1 []⟩ []
          (smallErrand none).kernel ⟨smallTree, []⟩) ↔
      ¬Stranded (smallErrand none) :=
  leavesNothing_iff (smallErrand none) _ _
    (Tree.wellFormed_of_isFormed (by decide +kernel)) rfl

/-- The directory cannot be opened after it was made, and it stays. -/
theorem not_leavesNothing_small :
    ¬LeavesNothing (smallErrand (some 13))
      ((smallErrand (some 13)).store.stageOpenInput (fun _ => smallDigest)
        (smallErrand (some 13)).taskId (smallErrand (some 13)).input
        ⟨"out", "text/plain", 1⟩ ⟨[['a'], ['b']], .regular 1 []⟩ []
        (smallErrand (some 13)).kernel ⟨smallTree, []⟩) := by
  intro leaves
  have same := leaves (smallErrand (some 13)).preflight.place
    (.inl (List.prefix_refl _))
  revert same
  decide +kernel

end Whole

end ArtifactStore
end TaskCage
