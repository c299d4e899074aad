import TaskCage.Capsule.Plan
import TaskCage.Foundation.FileCalls

/-!
# Directories of the local artifact store

The store reaches every file from the descriptor of its root, one component at a
time, and compares the device of what it opened with the one of the root.
Whatever the tree looks like, a path of a caller leads to the regular file that
its segments name below the root, or to an error.
-/

namespace TaskCage
namespace ArtifactStore

open FileTree
open Capsule (joinPath nul isTaskId)

/-- Why the contents of an artifact are not the declared ones. -/
inductive VerificationError where
  | tooLarge (actual maximum : ℕ)
  | sizeMismatch (expected actual : ℕ)
  | sizeOverflow
  | digestMismatch
  | read (errno : Errno)
deriving DecidableEq

/-- Why the store gave up. -/
inductive Error where
  | invalidRoot (path : String)
  | mountCrossing (path : String)
  | unsafePath (path : String)
  | invalidTaskId (taskId : String)
  | notRegularFile (path : String)
  | destinationExists (path : String)
  | atomicRenameUnavailable (path : String)
  | undeclaredOutput (path : String)
  | io (operation path : String) (errno : Errno)
  | verification (error : VerificationError)
  | panicked (message : String)
deriving DecidableEq

/-- The name as the kernel takes it. -/
def cName (name : String) (path : String) : Code Error (List Char) :=
  .ofExcept
    (if nul ∈ name.toList then .error (.unsafePath path) else .ok name.toList)

/-- What the kernel says about an open file. -/
def statFor (descriptor : Descriptor) (path : String) : Code Error Node :=
  .mapError (.io "Artifact metadata 확인" path) (fstat descriptor)

/-- An open directory, with the path that it was opened under. -/
structure ArtifactDirectory where
  descriptor : Descriptor
  path : String
  device : ℕ
deriving DecidableEq

namespace ArtifactDirectory

/-- The directory of a descriptor, once its device is checked. -/
def fromRaw (descriptor : Descriptor) (path : String)
    (expectedDevice : Option ℕ) : Code Error ArtifactDirectory := do
  let metadata ← statFor descriptor path
  if metadata.isDirectory = false then .throw (.invalidRoot path)
  else if expectedDevice.any (metadata.device ≠ ·) then
    .throw (.mountCrossing path)
  else return ⟨descriptor, path, metadata.device⟩

def openChildWithDevice (directory : ArtifactDirectory) (name : String)
    (expectedDevice : Option ℕ) : Code Error ArtifactDirectory := do
  let path := joinPath directory.path name
  let name ← cName name path
  let descriptor ← .mapError (.io "Artifact directory 열기" path)
    (openat directory.descriptor.place name true)
  fromRaw descriptor path expectedDevice

def openChild (directory : ArtifactDirectory) (name : String) :
    Code Error ArtifactDirectory :=
  directory.openChildWithDevice name (some directory.device)

def openRegularFile (directory : ArtifactDirectory) (name : String) :
    Code Error Descriptor := do
  let path := joinPath directory.path name
  let name ← cName name path
  let file ← .mapError (.io "Artifact file 열기" path)
    (openat directory.descriptor.place name false)
  let metadata ← statFor file path
  if metadata.isRegular = false then .throw (.notRegularFile path)
  else if metadata.device ≠ directory.device then
    .throw (.mountCrossing path)
  else return file

/-- Enter a directory for each component but the last, and open the file that
the last one names. -/
def openFrom (directory : ArtifactDirectory) (component : Name) :
    List Name → Code Error Descriptor
  | [] => directory.openRegularFile (String.ofList component)
  | next :: rest => do
      let child ← directory.openChild (String.ofList component)
      child.openFrom next rest

/-- The input that a caller names below the root. -/
def openInput (root : ArtifactDirectory) (path : ArtifactPath) :
    Code Error Descriptor := do
  let directory ← root.openChild "."
  match path.val.toList.splitOn '/' with
  | [] => .throw (.panicked "ArtifactPath는 빈 path를 허용하지 않습니다")
  | component :: rest => directory.openFrom component rest

/-- Open a child, making the directory if there is none. -/
def openOrCreateChild (directory : ArtifactDirectory) (name : String) :
    Code Error ArtifactDirectory := do
  let path := joinPath directory.path name
  let nameC ← cName name path
  match ← .attempt (mkdirat directory.descriptor.place nameC) with
  | .ok () => directory.openChild name
  | .error errno =>
      if errno = .alreadyExists then directory.openChild name
      else .throw (.io "Artifact directory 생성" path errno)

/-- Make a directory that does not exist yet and open it. -/
def createChild (directory : ArtifactDirectory) (name : String) :
    Code Error ArtifactDirectory := do
  let path := joinPath directory.path name
  let nameC ← cName name path
  .mapError (.io "Artifact staging directory 생성" path)
    (mkdirat directory.descriptor.place nameC)
  directory.openChild name

def createRegularFile (directory : ArtifactDirectory) (name : String) :
    Code Error Descriptor := do
  let path := joinPath directory.path name
  let name ← cName name path
  .mapError (.io "Artifact staging file 생성" path)
    (createat directory.descriptor.place name)

def syncAll (directory : ArtifactDirectory) : Code Error Unit := do
  .mapError (.io "Artifact directory fsync 준비" directory.path)
    (duplicate directory.descriptor)
  .mapError (.io "Artifact directory fsync" directory.path)
    (fsync directory.descriptor)

/-- The last name of a path, as `Path::file_name` finds it. -/
def fileName (path : String) : Option String :=
  match ((path.toList.splitOn '/').filter
      fun name => name ≠ [] && name ≠ ['.']).getLast? with
  | none => none
  | some last => if last = ['.', '.'] then none else some (String.ofList last)

/-- Remove an empty directory from its parent. -/
def removeEmptyFrom (directory parent : ArtifactDirectory) :
    Code Error Unit := do
  match fileName directory.path with
  | none => .throw (.unsafePath directory.path)
  | some name =>
      let name ← cName name directory.path
      .mapError (.io "빈 Artifact directory 제거" directory.path)
        (unlinkat parent.descriptor.place name true)
      parent.syncAll

def removeRegularFile (directory : ArtifactDirectory) (name : String) :
    Code Error Unit := do
  let path := joinPath directory.path name
  let name ← cName name path
  .mapError (.io "published Artifact file rollback" path)
    (unlinkat directory.descriptor.place name false)
  directory.syncAll

/-- Remove a directory and what is in it; the path it was opened under leads to
it still. -/
def removeTree (directory : ArtifactDirectory) : Code Error Unit :=
  .mapError (.io "Artifact staging 제거" directory.path)
    (removeAll directory.descriptor.place)

/-- Remove a child with what is in it; it may be missing. -/
def removeChildTree (directory : ArtifactDirectory) (name : String) :
    Code Error Unit := do
  match ← .attempt (removeAll (directory.descriptor.place ++ [name.toList])) with
  | .ok () => directory.syncAll
  | .error errno =>
      if errno = .notFound then return ()
      else
        .throw (.io "Artifact staging rollback" (joinPath directory.path name)
          errno)

end ArtifactDirectory

/-- Move a file into another directory, never over an existing one. -/
def moveNoReplace (source : ArtifactDirectory) (name : String)
    (target : ArtifactDirectory) (newName : String) : Code Error Unit := do
  let toPath := joinPath target.path newName
  let fromC ← cName name (joinPath source.path name)
  let toC ← cName newName toPath
  .mapError
    (fun errno =>
      match errno with
      | .alreadyExists => .destinationExists toPath
      | .unsupported => .atomicRenameUnavailable toPath
      | errno => .io "Artifact no-overwrite rename" toPath errno)
    (renameNoReplace source.descriptor.place fromC target.descriptor.place toC)

/-- The directories that the store keeps below its root. -/
structure ArtifactLayout where
  preflight : ArtifactDirectory
  staging : ArtifactDirectory
  published : ArtifactDirectory

/-- Open the directories of the store, making those that are missing. -/
def openLayout (root : ArtifactDirectory) : Code Error ArtifactLayout := do
  let taskcage ← root.openOrCreateChild ".taskcage"
  let preflight ← taskcage.openOrCreateChild "preflight"
  let staging ← taskcage.openOrCreateChild "staging"
  let published ← root.openOrCreateChild "tasks"
  return ⟨preflight, staging, published⟩

/-! ### One component -/

section Component

variable {kernel : Kernel} {tree : Tree}

/-- Nothing is said about errors. -/
def anyError (_ : Error) (_ : Disk) : Prop :=
  True

theorem ensures_cName (name path : String) (Pre : Disk → Prop) :
    Code.Ensures kernel Pre (cName name path)
      (fun chars disk => chars = name.toList ∧ Pre disk) anyError := by
  intro disk pre
  unfold cName Code.ofExcept
  by_cases dirty : nul ∈ name.toList
  · rw [if_pos dirty]
    trivial
  · rw [if_neg dirty]
    exact ⟨rfl, pre⟩

theorem ensures_statFor (descriptor : Descriptor) (path : String) :
    Code.Ensures kernel (fun disk => disk.tree = tree)
      (statFor descriptor path)
      (fun node disk => node = descriptor.node ∧ disk.tree = tree)
      anyError := by
  apply Code.Ensures.mapError
  apply Code.Ensures.perform
  · intro disk result found seen _ ended
    cases ended
    exact ⟨rfl, seen⟩
  · intro disk errno _ ended
    cases ended
  · intro disk damage _ _
    trivial

/-- What is known of a descriptor that was opened at a walked path. -/
structure Opened (tree : Tree) (here : Place) (path : List Char)
    (descriptor : Descriptor) : Prop where
  walked : tree.walk Tree.maxSteps here (path.splitOn '/') =
    some descriptor.place
  found : tree.find descriptor.place = some descriptor.node

theorem opened_of_afterOpen {here : Place} {path : List Char}
    {directory : Bool} {descriptor : Descriptor} {reached : Tree}
    (ended : tree.afterOpen here path directory = .ok (descriptor, reached)) :
    Opened tree here path descriptor ∧ reached = tree := by
  unfold Tree.afterOpen at ended
  split at ended
  · cases ended
  split at ended
  · cases ended
  rename_i place walked
  split at ended
  · cases ended
  rename_i node found
  split at ended
  · cases ended
  split at ended
  · cases ended
  cases ended
  exact ⟨⟨walked, found⟩, rfl⟩

theorem ensures_openat (here : Place) (path : List Char) (directory : Bool)
    {Fails : Errno → Disk → Prop} (any : ∀ errno disk, Fails errno disk) :
    Code.Ensures kernel (fun disk => disk.tree = tree)
      (openat here path directory)
      (fun descriptor disk =>
        Opened tree here path descriptor ∧ disk.tree = tree) Fails := by
  apply Code.Ensures.perform
  · intro disk descriptor reached seen _ ended
    obtain ⟨opened, same⟩ := opened_of_afterOpen ended
    rw [seen] at opened same
    exact ⟨opened, same⟩
  · intro disk errno _ _
    exact any _ _
  · intro disk damage _ _
    exact any _ _

variable (directory : ArtifactDirectory)

/-- A child that was opened is what the path leads to, and a directory of the
device of its parent. -/
theorem ensures_openChild (name : String) :
    Code.Ensures kernel (fun disk => disk.tree = tree)
      (directory.openChild name)
      (fun child disk =>
        (Opened tree directory.descriptor.place name.toList child.descriptor ∧
          child.descriptor.node = .directory directory.device ∧
          child.device = directory.device) ∧ disk.tree = tree)
      anyError := by
  refine .bind (ensures_cName _ _ _) fun chars => .given ?_
  rintro rfl
  refine .bind (.mapError (ensures_openat _ _ _ fun _ _ => trivial))
    fun descriptor => .given fun opened => ?_
  refine .bind (ensures_statFor _ _) fun metadata => .given ?_
  rintro rfl
  by_cases isDirectory : descriptor.node.isDirectory = false
  · rw [if_pos isDirectory]
    exact .throw fun _ _ => trivial
  by_cases elsewhere :
    (some directory.device).any (descriptor.node.device ≠ ·) = true
  · rw [if_neg isDirectory, if_pos elsewhere]
    exact .throw fun _ _ => trivial
  · rw [if_neg isDirectory, if_neg elsewhere]
    have same : descriptor.node.device = directory.device := by
      simpa using elsewhere
    refine .pure fun disk seen => ⟨⟨opened, ?_, same⟩, seen⟩
    rw [← same]
    exact Node.eq_directory (by simpa using isDirectory)

theorem ensures_openRegularFile (name : String) :
    Code.Ensures kernel (fun disk => disk.tree = tree)
      (directory.openRegularFile name)
      (fun file disk =>
        (Opened tree directory.descriptor.place name.toList file ∧
          file.node = .regular directory.device file.node.content) ∧
        disk.tree = tree)
      anyError := by
  refine .bind (ensures_cName _ _ _) fun chars => .given ?_
  rintro rfl
  refine .bind (.mapError (ensures_openat _ _ _ fun _ _ => trivial))
    fun file => .given fun opened => ?_
  refine .bind (ensures_statFor _ _) fun metadata => .given ?_
  rintro rfl
  by_cases isRegular : file.node.isRegular = false
  · rw [if_pos isRegular]
    exact .throw fun _ _ => trivial
  by_cases elsewhere : file.node.device ≠ directory.device
  · rw [if_neg isRegular, if_pos elsewhere]
    exact .throw fun _ _ => trivial
  · rw [if_neg isRegular, if_neg elsewhere]
    refine .pure fun disk seen => ⟨⟨opened, ?_⟩, seen⟩
    rw [← not_not.1 elsewhere]
    exact Node.eq_regular (by simpa using isRegular)

end Component

/-! ### Whole paths -/

/-- A file that the segments lead to from a directory, through directories of
one device and nothing else. -/
structure Confined (tree : Tree) (device : ℕ) (here : Place)
    (segments : List Name) (file : Descriptor) : Prop where
  place : file.place = here ++ segments
  regular : tree.find file.place = some (.regular device file.node.content)
  directories : ∀ front, front <+: segments → front ≠ segments →
    tree.find (here ++ front) = some (.directory device)

variable {kernel : Kernel} {tree : Tree} {here : Place} {name : Name}

theorem Opened.plain {descriptor : Descriptor} (plain : Tree.IsPlain name)
    (opened : Opened tree here (String.ofList name).toList descriptor) :
    descriptor.place = here ++ [name] ∧ tree.HasDirectory here := by
  have walked := opened.walked
  rw [String.toList_ofList, Tree.splitOn_of_single plain.single] at walked
  exact Tree.walk_plain plain walked

/-- Another directory in front of a confined walk. -/
theorem Confined.cons {device : ℕ} {segments : List Name} {file : Descriptor}
    (start : tree.find here = some (.directory device))
    (confined : Confined tree device (here ++ [name]) segments file) :
    Confined tree device here (name :: segments) file where
  place := by
    rw [confined.place, List.append_assoc]
    rfl
  regular := confined.regular
  directories := by
    intro front before shorter
    cases front with
    | nil => rwa [List.append_nil]
    | cons first front =>
        obtain ⟨rfl, inner⟩ := List.cons_prefix_cons.1 before
        have found := confined.directories front inner
          fun same => shorter (congrArg _ same)
        rwa [List.append_assoc] at found

/-- The induction is on the segments that are left. -/
theorem ensures_openFrom (rest : List Name) :
    ∀ (directory : ArtifactDirectory) (component : Name),
      (∀ name ∈ component :: rest, Tree.IsPlain name) →
      tree.find directory.descriptor.place =
        some (.directory directory.device) →
      Code.Ensures kernel (fun disk => disk.tree = tree)
        (directory.openFrom component rest)
        (fun file _ => Confined tree directory.device
          directory.descriptor.place (component :: rest) file)
        anyError := by
  induction rest with
  | nil =>
      intro directory component plain start
      refine (ensures_openRegularFile _ _).mono ?_
      rintro file disk ⟨⟨opened, regular⟩, -⟩
      obtain ⟨place, -⟩ := opened.plain (plain component (by simp))
      refine ⟨place, ?_, ?_⟩
      · rw [opened.found, ← regular]
      · intro front before shorter
        rcases List.prefix_cons_iff.1 before with rfl | ⟨tail, rfl, nothing⟩
        · rwa [List.append_nil]
        · rw [List.prefix_nil.1 nothing] at shorter
          exact absurd rfl shorter
  | cons next rest inductionHypothesis =>
      intro directory component plain start
      refine .bind (ensures_openChild _ _) fun child => .given ?_
      rintro ⟨opened, isDirectory, same⟩
      obtain ⟨place, -⟩ := opened.plain (plain component (by simp))
      have found := opened.found
      rw [isDirectory, ← same] at found
      refine (inductionHypothesis child next
        (fun name member => plain name (List.mem_cons_of_mem _ member))
        found).mono ?_
      intro file disk walked
      rw [place, same] at walked
      exact Confined.cons start walked

/-! ### Paths of callers -/

/-- The segments of a path. -/
def segments (path : ArtifactPath) : List Name :=
  path.val.toList.splitOn '/'

theorem checkSegment_eq_ok_iff {segment : List Char} :
    checkSegment segment = .ok () ↔
      (segment ≠ [] ∧ segment ≠ ['.'] ∧ segment ≠ ['.', '.']) ∧
        ∀ char ∈ segment, char ≠ Json.escape ∧ isAsciiControl char = false := by
  unfold checkSegment
  rw [Outcome.seq_eq_ok_iff, Outcome.require_eq_ok_iff,
    Outcome.require_eq_ok_iff]
  simp [and_assoc]

theorem checkArtifactPath_eq_ok_iff {value : String} :
    checkArtifactPath value = .ok () ↔
      (value ≠ "" ∧ value.utf8ByteSize ≤ maxArtifactPathBytes) ∧
        (∀ segment ∈ value.toList.splitOn '/', checkSegment segment = .ok ()) ∧
        (value.toList.splitOn '/').head? ≠ some ".taskcage".toList := by
  unfold checkArtifactPath
  rw [Outcome.seq_eq_ok_iff, Outcome.require_eq_ok_iff, Outcome.seq_eq_ok_iff,
    Outcome.forM_eq_ok_iff, Outcome.require_eq_ok_iff]
  simp only [Bool.and_eq_true, decide_eq_true_eq]

theorem isPlain_of_mem_segments {path : ArtifactPath} :
    ∀ name ∈ segments path, Tree.IsPlain name := by
  intro name member
  obtain ⟨-, checked, -⟩ := checkArtifactPath_eq_ok_iff.1 path.property
  obtain ⟨⟨filled, notHere, notParent⟩, -⟩ :=
    checkSegment_eq_ok_iff.1 (checked name member)
  exact ⟨filled, notHere, notParent, Tree.not_mem_of_mem_splitOn name member⟩

/-- A file that is opened for a caller lies where the segments of the path say,
below the root. -/
theorem ensures_openInput (root : ArtifactDirectory) (path : ArtifactPath) :
    Code.Ensures kernel (fun disk => disk.tree = tree) (root.openInput path)
      (fun file _ => Confined tree root.device root.descriptor.place
        (segments path) file)
      anyError := by
  refine .bind (ensures_openChild root ".") fun directory => .given ?_
  rintro ⟨opened, isDirectory, same⟩
  obtain ⟨place, -⟩ := Tree.walk_stay (.inr rfl) opened.walked
  have found := opened.found
  rw [isDirectory, ← same] at found
  have plain : ∀ name ∈ segments path, Tree.IsPlain name :=
    isPlain_of_mem_segments
  change Code.Ensures kernel _ (match segments path with
    | [] => _
    | component :: rest => directory.openFrom component rest) _ _
  rw [← place, ← same]
  cases pieces : segments path with
  | nil => exact .throw fun _ _ => trivial
  | cons component rest =>
      rw [pieces] at plain
      exact ensures_openFrom rest directory component plain found

/-! ### Paths of published files -/

/-- The path under which an output is published. -/
def publishedPath (taskId fileName : String) : String :=
  "tasks/" ++ taskId ++ "/" ++ fileName

theorem utf8Len_le (chars : List Char) :
    String.utf8Len chars ≤ 4 * chars.length := by
  induction chars with
  | nil => exact Nat.le_refl _
  | cons char chars inductionHypothesis =>
      have short := char.utf8Size_le_four
      rw [String.utf8Len_cons, List.length_cons]
      omega

variable {taskId fileName : String}

/-- The characters of a task id. -/
theorem mem_taskId (valid : isTaskId taskId = true) :
    ∀ char ∈ taskId.toList,
      char = '-' ∨ char.isDigit = true ∨ ('a' ≤ char ∧ char ≤ 'f') := by
  intro char member
  unfold isTaskId at valid
  rw [Bool.and_eq_true, List.all_eq_true] at valid
  obtain ⟨index, found⟩ := List.getElem?_of_mem member
  have passed := valid.2 (char, index) (List.mem_zipIdx_iff_getElem?.2 found)
  dsimp only at passed
  split at passed
  · exact .inl (by simpa using passed)
  · exact .inr (by simpa using passed)

theorem length_taskId (valid : isTaskId taskId = true) :
    taskId.toList.length = 36 := by
  unfold isTaskId at valid
  rw [Bool.and_eq_true, decide_eq_true_eq] at valid
  exact valid.1

/-- The characters of a task id may stand in a segment. -/
theorem safe_of_mem_taskId (valid : isTaskId taskId = true) :
    ∀ char ∈ taskId.toList,
      char ≠ '/' ∧ char ≠ Json.escape ∧ isAsciiControl char = false := by
  intro char member
  have range : char = '-' ∨ (48 ≤ char.toNat ∧ char.toNat ≤ 57) ∨
      (97 ≤ char.toNat ∧ char.toNat ≤ 102) := by
    rcases mem_taskId valid char member with rfl | digit | ⟨low, high⟩
    · exact .inl rfl
    · exact .inr (.inl (Char.isDigit_iff_toNat.1 digit))
    · exact .inr (.inr ⟨low, high⟩)
  rcases range with rfl | range
  · decide
  · refine ⟨?_, ?_, ?_⟩
    · rintro rfl
      revert range
      decide
    · rintro rfl
      revert range
      decide
    · unfold isAsciiControl
      simp only [Bool.or_eq_false_iff, decide_eq_false_iff_not]
      omega

theorem validOutputFileName_iff :
    validOutputFileName fileName = true ↔
      checkSegment fileName.toList = .ok () ∧ '/' ∉ fileName.toList := by
  have empty : fileName = "" ↔ fileName.toList = [] := String.toList_inj.symm
  have here : fileName = "." ↔ fileName.toList = ['.'] := String.toList_inj.symm
  have parent : fileName = ".." ↔ fileName.toList = ['.', '.'] :=
    String.toList_inj.symm
  rw [checkSegment_eq_ok_iff]
  unfold validOutputFileName
  simp only [Bool.and_eq_true, Bool.not_eq_true', decide_eq_true_eq, ne_eq,
    empty, here, parent, List.contains_eq_mem, decide_eq_false_iff_not,
    List.any_eq_false, Bool.not_eq_true]
  constructor
  · rintro ⟨⟨⟨⟨⟨filled, single⟩, noEscape⟩, notHere⟩, notParent⟩, clean⟩
    refine ⟨⟨⟨filled, notHere, notParent⟩, fun char member => ⟨?_, ?_⟩⟩, single⟩
    · rintro rfl
      exact noEscape member
    · exact clean char member
  · rintro ⟨⟨⟨filled, notHere, notParent⟩, clean⟩, single⟩
    exact ⟨⟨⟨⟨⟨filled, single⟩, fun member => (clean _ member).1 rfl⟩,
      notHere⟩, notParent⟩, fun char member => (clean char member).2⟩

theorem splitOn_publishedPath (valid : isTaskId taskId = true)
    (single : '/' ∉ fileName.toList) :
    (publishedPath taskId fileName).toList.splitOn '/' =
      ["tasks".toList, taskId.toList, fileName.toList] := by
  have joined : (publishedPath taskId fileName).toList =
      ['/'].intercalate ["tasks".toList, taskId.toList, fileName.toList] := by
    simp [publishedPath, List.intercalate]
  rw [joined]
  apply List.splitOn_intercalate
  · intro part member
    simp only [List.mem_cons, List.not_mem_nil, or_false] at member
    rcases member with rfl | rfl | rfl
    · decide
    · exact fun inner => (safe_of_mem_taskId valid _ inner).1 rfl
    · exact single
  · simp

theorem checkSegment_taskId (valid : isTaskId taskId = true) :
    checkSegment taskId.toList = .ok () := by
  have long := length_taskId valid
  apply checkSegment_eq_ok_iff.2
  refine ⟨⟨?_, ?_, ?_⟩, fun char member => (safe_of_mem_taskId valid _ member).2⟩
  all_goals
    intro same
    rw [same] at long
    revert long
    decide

/-- The path of a published file could be given by a caller. -/
theorem checkArtifactPath_publishedPath (valid : isTaskId taskId = true)
    (accepted : validOutputFileName fileName = true)
    (short : fileName.utf8ByteSize ≤ 255) :
    checkArtifactPath (publishedPath taskId fileName) = .ok () := by
  obtain ⟨segment, single⟩ := validOutputFileName_iff.1 accepted
  have idBytes : taskId.utf8ByteSize ≤ 144 := by
    have bound := utf8Len_le taskId.toList
    rwa [length_taskId valid, ← String.utf8ByteSize_ofList,
      String.ofList_toList] at bound
  have bytes : (publishedPath taskId fileName).utf8ByteSize =
      6 + taskId.utf8ByteSize + 1 + fileName.utf8ByteSize := by
    unfold publishedPath
    rw [String.utf8ByteSize_append, String.utf8ByteSize_append,
      String.utf8ByteSize_append]
    rfl
  apply checkArtifactPath_eq_ok_iff.2
  rw [splitOn_publishedPath valid single]
  have first : some "tasks".toList ≠ some ".taskcage".toList := by
    decide
  refine ⟨⟨?_, ?_⟩, ?_, first⟩
  · intro empty
    rw [empty, String.utf8ByteSize_empty] at bytes
    omega
  · rw [bytes, maxArtifactPathBytes]
    omega
  · intro name member
    simp only [List.mem_cons, List.not_mem_nil, or_false] at member
    rcases member with rfl | rfl | rfl
    · decide
    · exact checkSegment_taskId valid
    · exact segment

/-- Paths of callers stay inside the root: a file that is opened is a regular
file at the place that the segments name, all the directories on the way are
directories of the device of the root, no segment refers to a parent, and the
first one is not the subtree of the store.  And an output that is declared with
a file name of ordinary length is published under such a path. -/
theorem callerPaths_confined :
    (∀ (text : String) (path : ArtifactPath),
      ArtifactPath.parse text = .ok path →
      ∀ (root : ArtifactDirectory) (kernel : Kernel) (disk : Disk)
        (file : Descriptor),
        (root.openInput path kernel disk).1 = .ok file →
        Confined disk.tree root.device root.descriptor.place
            (text.toList.splitOn '/') file ∧
          (∀ segment ∈ text.toList.splitOn '/', Tree.IsPlain segment) ∧
          (text.toList.splitOn '/').head? ≠ some ".taskcage".toList) ∧
      ∀ (fileName mediaType : String) (maximumBytes : ℕ)
        (output : DeclaredOutputArtifact),
        DeclaredOutputArtifact.new fileName mediaType maximumBytes =
          .ok output →
        fileName.utf8ByteSize ≤ 255 →
        ∀ taskId, isTaskId taskId = true →
          ∃ path, ArtifactPath.parse (publishedPath taskId output.fileName) =
            .ok path := by
  constructor
  · intro text path parsed root kernel disk file opened
    have same : path.val = text := ArtifactPath.val_of_parse parsed
    subst same
    refine ⟨?_, isPlain_of_mem_segments,
      (checkArtifactPath_eq_ok_iff.1 path.property).2.2⟩
    exact (ensures_openInput root path).of_ok rfl opened
  · intro fileName mediaType maximumBytes output made short taskId valid
    obtain ⟨accepted, -, -⟩ :=
      DeclaredOutputArtifact.new_ok_iff.1 ⟨output, made⟩
    rw [DeclaredOutputArtifact.eq_of_new made]
    exact Capsule.ArtifactPath.parse_ok_iff.2
      (checkArtifactPath_publishedPath valid accepted short)

/-- A root with one directory and one file in it. -/
def smallTree : Tree :=
  [([], .directory 1), ([['a']], .directory 1), ([['a'], ['b']], .regular 1 [7])]

def smallRoot : ArtifactDirectory :=
  ⟨⟨[], .directory 1⟩, "/", 1⟩

theorem parse_smallPath : ArtifactPath.parse "a/b" = .ok ⟨"a/b", rfl⟩ :=
  rfl

theorem callerPaths_confined_small :
    Confined smallTree 1 [] [['a'], ['b']]
        ⟨[['a'], ['b']], .regular 1 [7]⟩ ∧
      ∃ path, ArtifactPath.parse (publishedPath
        "01234567-89ab-cdef-0123-456789abcdef" "out.txt") = .ok path := by
  constructor
  · exact (callerPaths_confined.1 "a/b" _ parse_smallPath smallRoot
      (fun _ _ => none) ⟨smallTree, []⟩ ⟨[['a'], ['b']], .regular 1 [7]⟩
      (by decide +kernel)).1
  · exact callerPaths_confined.2 "out.txt" "text/plain" 1
      ⟨"out.txt", "text/plain", 1⟩ (by decide +kernel) (by decide +kernel)
      "01234567-89ab-cdef-0123-456789abcdef" (by decide +kernel)

end ArtifactStore
end TaskCage
