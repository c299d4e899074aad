import Mathlib.Algebra.GroupWithZero.Nat
import Mathlib.Tactic.FinCases
import TaskCage.Core.Names
import TaskCage.Core.Output
import TaskCage.Foundation.Json
import TaskCage.Profile.Runtime

/-!
# Publishing the output of a Profile task

A task that succeeded has its declared output moved from the staging directory
to its published place.  What can go wrong is reported with the place in the
artifact root where it happened, so the length of a report depends on the
length of the root and on the names of the entries below it.
-/

namespace TaskCage
namespace Profile

/-! ### Places in the artifact root -/

/-- A path, in bytes. -/
abbrev Path : Type :=
  List UInt8

/-- The bytes of an ASCII text. -/
def ascii (text : String) : List UInt8 :=
  text.toList.map fun char => UInt8.ofNat char.toNat

/-- The path of an entry of a directory. -/
def join (directory : Path) (name : List UInt8) : Path :=
  match directory.getLast? with
  | none => name
  | some last =>
      if last = UInt8.ofNat '/'.toNat then directory ++ name
      else directory ++ UInt8.ofNat '/'.toNat :: name

theorem length_join_le (directory : Path) (name : List UInt8) :
    (join directory name).length ≤ directory.length + 1 + name.length := by
  unfold join
  split
  · omega
  · split
    · rw [List.length_append]
      omega
    · rw [List.length_append, List.length_cons]
      omega

/-- The directories that a publication opens. -/
inductive Folder where
  | root
  | taskcage
  | preflight
  | staging
  | published
  | task
  | artifacts
  | input
  | output
  | destination
deriving DecidableEq

/-- The names on the way from the root to a directory. -/
def Folder.names (taskId : String) : Folder → List String
  | root => []
  | taskcage => [".taskcage"]
  | preflight => [".taskcage", "preflight"]
  | staging => [".taskcage", "staging"]
  | published => ["tasks"]
  | task => [".taskcage", "staging", taskId]
  | artifacts => [".taskcage", "staging", taskId, "artifacts"]
  | input => [".taskcage", "staging", taskId, "artifacts", "in"]
  | output => [".taskcage", "staging", taskId, "artifacts", "out"]
  | destination => ["tasks", taskId]

/-- The path of a directory. -/
def Folder.path (root : Path) (taskId : String) (folder : Folder) : Path :=
  (folder.names taskId).foldl (fun path name => join path (ascii name)) root

theorem length_foldl_join_le (names : List String) (root : Path) :
    (names.foldl (fun path name => join path (ascii name)) root).length ≤
      root.length + (names.map fun name => name.toList.length + 1).sum := by
  induction names generalizing root with
  | nil => exact Nat.le_refl _
  | cons name rest inductionHypothesis =>
      have first := length_join_le root (ascii name)
      have later := inductionHypothesis (join root (ascii name))
      have bytes : (ascii name).length = name.toList.length := List.length_map _
      rw [List.foldl_cons, List.map_cons, List.sum_cons]
      omega

/-- A task's directories are not deep. -/
theorem Folder.length_path_le (root : Path) {taskId : String}
    (uuid : taskId.toList.length = 36) (folder : Folder) :
    (folder.path root taskId).length ≤ root.length + 69 := by
  refine (length_foldl_join_le _ root).trans ?_
  refine Nat.add_le_add_left ?_ _
  cases folder
  all_goals
    simp only [names, List.map_cons, List.map_nil, List.sum_cons,
      List.sum_nil, uuid]
    decide

/-- The name of a directory entry; the kernel allows 255 bytes. -/
abbrev EntryName : Type :=
  { name : List UInt8 // name.length ≤ 255 }

/-- What an error is about. -/
inductive Spot where
  | folder (directory : Folder)
  | entry (directory : Folder) (name : EntryName)
  | stagingOutput

/-- The path that an error shows. -/
def Spot.path (root : Path) (taskId : String) : Spot → Path
  | .folder directory => directory.path root taskId
  | .entry directory name => join (directory.path root taskId) name.1
  | .stagingOutput => ascii "<staging output>"

theorem Spot.length_path_le (root : Path) {taskId : String}
    (uuid : taskId.toList.length = 36) (spot : Spot) :
    (spot.path root taskId).length ≤ root.length + 325 := by
  cases spot with
  | folder directory =>
      have bound := directory.length_path_le root uuid
      rw [Spot.path]
      omega
  | entry directory name =>
      have bound := directory.length_path_le root uuid
      have joined := length_join_le (directory.path root taskId) name.1
      have short := name.2
      rw [Spot.path]
      omega
  | stagingOutput =>
      have bound : (ascii "<staging output>").length = 16 := by decide
      rw [Spot.path]
      omega

/-! ### Errors -/

/-- What the operating system says about a failed call. -/
abbrev OsText : Type :=
  { text : String // byteLength text.toList ≤ 512 }

/-- The calls that a publication makes, as errors name them. -/
def publishOperations : List String :=
  ["Artifact staging directory 열거", "Artifact staging entry 읽기",
    "Artifact staging entry metadata", "Artifact staging directory metadata",
    "Artifact staging file metadata", "Artifact file 열기",
    "Artifact metadata 확인", "Artifact output 복제", "output fsync",
    "Artifact directory 생성", "Artifact directory 열기",
    "Artifact staging directory 생성", "Artifact no-overwrite rename",
    "Artifact directory fsync 준비", "Artifact directory fsync",
    "Artifact staging 제거"]

/-- Why an output could not be published. -/
inductive PublishError where
  | invalidRoot (spot : Spot)
  | mountCrossing (spot : Spot)
  | unsafePath (spot : Spot)
  | notRegularFile (spot : Spot)
  | destinationExists (spot : Spot)
  | atomicRenameUnavailable (spot : Spot)
  | undeclaredOutput (spot : Spot)
  | io (operation : { text : String // text ∈ publishOperations })
      (spot : Spot) (source : OsText)
  | tooLarge (actual maximum : { size : ℕ // size < 2 ^ 64 })
  | sizeOverflow
  | read (source : OsText)

namespace PublishError

/-- The text of an error. -/
def text (root : Path) (taskId : String) : PublishError → String
  | invalidRoot spot =>
      "Artifact root는 symlink가 아닌 absolute directory여야 합니다: " ++
        Utf8.fromUtf8Lossy (spot.path root taskId)
  | mountCrossing spot =>
      "Artifact root 또는 child가 다른 filesystem으로 넘어갔습니다: " ++
        Utf8.fromUtf8Lossy (spot.path root taskId)
  | unsafePath spot =>
      "Artifact root 경로에 symlink 또는 안전하지 않은 component가 있습니다: " ++
        Utf8.fromUtf8Lossy (spot.path root taskId)
  | notRegularFile spot =>
      "Artifact path가 regular file이 아닙니다: " ++
        Utf8.fromUtf8Lossy (spot.path root taskId)
  | destinationExists spot =>
      "published output destination이 이미 존재합니다: " ++
        Utf8.fromUtf8Lossy (spot.path root taskId)
  | atomicRenameUnavailable spot =>
      "filesystem이 no-overwrite atomic rename을 지원하지 않습니다: " ++
        Utf8.fromUtf8Lossy (spot.path root taskId)
  | undeclaredOutput spot =>
      "Profile이 선언하지 않은 Artifact staging entry가 있습니다: " ++
        Utf8.fromUtf8Lossy (spot.path root taskId)
  | io operation spot source =>
      "Artifact filesystem 작업 " ++ operation.1 ++ "에 실패했습니다: " ++
        Utf8.fromUtf8Lossy (spot.path root taskId) ++ ": " ++ source.1
  | tooLarge actual maximum =>
      "artifact가 maximum " ++ toString maximum.1 ++ " bytes를 넘습니다: " ++
        toString actual.1 ++ " bytes"
  | sizeOverflow => "artifact size를 누적하는 중 overflow가 발생했습니다"
  | read source => "artifact source를 읽지 못했습니다: " ++ source.1

/-- An error as the finalization of a task sees it. -/
def storeError (root : Path) (taskId : String) (error : PublishError) :
    ArtifactStoreError :=
  match error with
  | undeclaredOutput _ => .undeclaredOutput (error.text root taskId)
  | notRegularFile _ => .notRegularFile (error.text root taskId)
  | _ => .other (error.text root taskId)

theorem message_storeError (root : Path) (taskId : String)
    (error : PublishError) :
    (error.storeError root taskId).message = error.text root taskId := by
  cases error
  all_goals rfl

theorem length_operation_le
    (operation : { text : String // text ∈ publishOperations }) :
    operation.1.toList.length ≤ 60 := by
  obtain ⟨text, member⟩ := operation
  dsimp only
  fin_cases member
  all_goals exact Json.length_literal_le _ (by decide)

/-- A report is longer than the root by a bounded number of characters. -/
theorem length_text_le (root : Path) {taskId : String}
    (uuid : taskId.toList.length = 36) (error : PublishError) :
    (error.text root taskId).toList.length ≤ root.length + 1100 := by
  have shown (spot : Spot) :
      (Utf8.fromUtf8Lossy (spot.path root taskId)).toList.length ≤
        root.length + 325 :=
    (Utf8.length_fromUtf8Lossy_le _).trans (spot.length_path_le root uuid)
  have said (source : OsText) : source.1.toList.length ≤ 512 :=
    (Json.length_le_byteLength _).trans source.2
  have counted (size : { size : ℕ // size < 2 ^ 64 }) :
      (toString size.1).toList.length ≤ 20 := by
    have short : size.1 < 10 ^ 20 := size.2.trans (by decide)
    change (Nat.repr size.1).toList.length ≤ 20
    rw [Nat.repr, String.toList_ofList]
    exact (Nat.length_toDigits_le_iff (by decide) (by decide)).mpr short
  -- The longest fixed text has at most sixty characters.
  have fixed := @Json.length_literal_le 60
  have placed {title : String} (spot : Spot)
      (short : title.toList.length ≤ 60) :
      (title ++ Utf8.fromUtf8Lossy (spot.path root taskId)).toList.length ≤
        root.length + 1100 :=
    (Json.length_append_le short (shown spot)).trans (by omega)
  cases error with
  | io operation spot source =>
      have named := length_operation_le operation
      refine (Json.length_append_le (m := 60 + 60 + 60 + (root.length + 325) + 60)
        (Json.length_append_le (Json.length_append_le (Json.length_append_le
          (Json.length_append_le (fixed _ (by decide)) named)
          (fixed _ (by decide))) (shown spot)) (fixed _ (by decide)))
        (said source)).trans ?_
      omega
  | tooLarge actual maximum =>
      refine (Json.length_append_le (m := 60 + 20 + 60 + 20)
        (Json.length_append_le (Json.length_append_le (Json.length_append_le
          (fixed _ (by decide)) (counted maximum)) (fixed _ (by decide)))
          (counted actual)) (n := 60) (fixed _ (by decide))).trans ?_
      omega
  | sizeOverflow => exact (fixed _ (by decide)).trans (by omega)
  | read source =>
      refine (Json.length_append_le (m := 60) (fixed _ (by decide))
        (said source)).trans ?_
      omega
  | invalidRoot spot | mountCrossing spot | unsafePath spot
  | notRegularFile spot | destinationExists spot
  | atomicRenameUnavailable spot | undeclaredOutput spot =>
      exact placed spot (fixed _ (by decide))

end PublishError

/-! ### The published file -/

/-- An output that a Profile declares. -/
structure DeclaredOutputArtifact where
  fileName : String
  mediaType : String
  fileName_le : byteLength fileName.toList ≤ 255
  mediaType_le : byteLength mediaType.toList ≤ 255

/-- The published form of a declared output. -/
def DeclaredOutputArtifact.published (declared : DeclaredOutputArtifact)
    (taskId digest : String) (sizeBytes : ℕ) : PublishedArtifact where
  path := "tasks/" ++ taskId ++ "/" ++ declared.fileName
  digest := digest
  sizeBytes := sizeBytes
  mediaType := declared.mediaType

/-- The answers of `publish_for_profile` for a task below a root. -/
structure Publishes (root : Path) (taskId : String)
    (declared : DeclaredOutputArtifact) (answers : StagedAnswers) :
    Prop where
  published : ∀ artifact, answers.publish = .ok (.ok artifact) →
    ∃ digest sizeBytes, Names.validDigest digest = true ∧
      sizeBytes < 2 ^ 64 ∧
      artifact = declared.published taskId digest sizeBytes
  rejected : ∀ error, answers.publish = .ok (.error error) →
    ∃ cause : PublishError, error = cause.storeError root taskId

end Profile
end TaskCage
