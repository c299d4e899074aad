import TaskCage.Capsule.Manifest

/-!
# Artifact values

The path of an input below the artifact root, and the output that a Profile
declares.  Both can only be built through their checks.
-/

namespace TaskCage

def maxArtifactPathBytes : ℕ :=
  4096

/-- A control character of ASCII. -/
def isAsciiControl (char : Char) : Bool :=
  char.toNat < 0x20 || char.toNat = 0x7F

/-- Why a text is no path of an artifact. -/
inductive ArtifactPathError where
  | length
  | segment
  | unsafeCharacter
  | reservedPath
deriving DecidableEq

/-- The check of one segment of a path. -/
def checkSegment (segment : List Char) : Except ArtifactPathError Unit := do
  Outcome.require
    (segment ≠ [] && segment ≠ ['.'] && segment ≠ ['.', '.']) .segment
  Outcome.require
    (!segment.any fun char => char = Json.escape || isAsciiControl char)
    .unsafeCharacter

/-- The check of a path. -/
def checkArtifactPath (value : String) : Except ArtifactPathError Unit := do
  Outcome.require
    (value ≠ "" && value.utf8ByteSize ≤ maxArtifactPathBytes) .length
  (value.toList.splitOn '/').forM checkSegment
  Outcome.require
    ((value.toList.splitOn '/').head? ≠ some ".taskcage".toList) .reservedPath

/-- A path that does not leave the artifact root. -/
abbrev ArtifactPath : Type :=
  { value : String // checkArtifactPath value = .ok () }

/-- The reader of a path. -/
def ArtifactPath.parse (value : String) :
    Except ArtifactPathError ArtifactPath :=
  match checked : checkArtifactPath value with
  | .ok () => .ok ⟨value, checked⟩
  | .error error => .error error

theorem ArtifactPath.val_of_parse {value : String} {path : ArtifactPath}
    (parsed : ArtifactPath.parse value = .ok path) : path.val = value := by
  unfold ArtifactPath.parse at parsed
  split at parsed
  · cases parsed
    rfl
  · cases parsed

/-- A file that a caller names as an input. -/
structure LocalInputArtifact where
  path : ArtifactPath
  digest : Sha256Digest
  sizeBytes : ℕ
deriving DecidableEq

/-- Why values are no declared output. -/
inductive DeclaredOutputError where
  | fileName
  | mediaType
  | maximumBytes
deriving DecidableEq

/-- The text of the error of an output. -/
def DeclaredOutputError.message : DeclaredOutputError → String
  | fileName => "output file name은 단일 안전 file name이어야 합니다"
  | mediaType =>
      "output media type은 비어 있지 않은 control-character 없는 " ++ "문자열이어야 합니다"
  | maximumBytes => "output maximum bytes는 0보다 커야 합니다"

/-- The output that a Profile declares. -/
structure DeclaredOutputArtifact where
  fileName : String
  mediaType : String
  maximumBytes : ℕ
deriving DecidableEq

/-- Whether a text may be the file name of an output. -/
def validOutputFileName (fileName : String) : Bool :=
  fileName ≠ "" && !fileName.toList.contains '/' &&
    !fileName.toList.contains Json.escape && fileName ≠ "." &&
    fileName ≠ ".." && !fileName.toList.any isAsciiControl

/-- Whether a text may be the media type of an output. -/
def validOutputMediaType (mediaType : String) : Bool :=
  mediaType ≠ "" && mediaType.utf8ByteSize ≤ 255 &&
    !mediaType.toList.any isAsciiControl

/-- A declared output, checked. -/
def DeclaredOutputArtifact.new (fileName mediaType : String)
    (maximumBytes : ℕ) : Except DeclaredOutputError DeclaredOutputArtifact := do
  Outcome.require (validOutputFileName fileName) .fileName
  Outcome.require (validOutputMediaType mediaType) .mediaType
  Outcome.require (maximumBytes ≠ 0) .maximumBytes
  return ⟨fileName, mediaType, maximumBytes⟩

variable {fileName mediaType : String} {maximumBytes : ℕ}

theorem DeclaredOutputArtifact.new_ok_iff :
    (∃ output, DeclaredOutputArtifact.new fileName mediaType maximumBytes =
        .ok output) ↔
      validOutputFileName fileName = true ∧
        validOutputMediaType mediaType = true ∧ maximumBytes ≠ 0 := by
  simp only [DeclaredOutputArtifact.new, Outcome.bind_eq_ok_iff,
    Outcome.require_eq_ok_iff, decide_eq_true_eq]
  constructor
  · rintro ⟨_, _, fileOk, _, mediaOk, _, positive, -⟩
    exact ⟨fileOk, mediaOk, positive⟩
  · rintro ⟨fileOk, mediaOk, positive⟩
    exact ⟨_, (), fileOk, (), mediaOk, (), positive, rfl⟩

theorem DeclaredOutputArtifact.eq_of_new {output : DeclaredOutputArtifact}
    (made : DeclaredOutputArtifact.new fileName mediaType maximumBytes =
      .ok output) :
    output = ⟨fileName, mediaType, maximumBytes⟩ := by
  simp only [DeclaredOutputArtifact.new, Outcome.bind_eq_ok_iff] at made
  obtain ⟨_, _, _, _, _, _, same⟩ := made
  exact (Except.ok.inj same).symm

end TaskCage
