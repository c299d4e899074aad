import TaskCage.Core.Budget
import TaskCage.Core.Names
import TaskCage.Foundation.Filing
import TaskCage.Foundation.Json
import TaskCage.Foundation.Semver
import Mathlib.Data.List.Perm.Subperm

/-!
# Bundle manifests

The two manifests of a Bundle, and their validation before they are installed.
The validation is a sequence of checks; `Sound` says in one place what a pair
of manifests is that passes them all.
-/

namespace TaskCage

/-- A SHA-256 digest, in its text form. -/
abbrev Sha256Digest : Type :=
  { text : String // Names.validDigest text = true }

namespace Sha256Digest

/-- The hexadecimal digits of a digest. -/
def hex (digest : Sha256Digest) : List Char :=
  digest.1.toList.drop 7

/-- The reader of a digest. -/
def fromStr (value : String) : Option Sha256Digest :=
  if valid : Names.validDigest value = true then some ⟨value, valid⟩ else none

end Sha256Digest

namespace Capsule

/-- Errors of the Bundle catalog. -/
inductive BundleError where
  | archive (reason : String)
  | manifest (reason : String)
  | signature (reason : String)
  | runtimePackage (reason : String)
  | unsafeCacheRoot (path : String)
  | io (operation path : String) (source : Filing.IoError)
  | identityConflict (name version : String)
  | notFound (name version : String)
deriving DecidableEq

namespace BundleError

/-- The text of an error of the catalog. -/
def message : BundleError → String
  | archive reason => s!"Bundle archive가 잘못되었습니다: {reason}"
  | manifest reason => s!"Bundle manifest가 잘못되었습니다: {reason}"
  | signature reason => s!"Bundle signature 검증에 실패했습니다: {reason}"
  | runtimePackage reason =>
      s!"Bundle가 참조한 Runtime Package가 준비되지 않았습니다: {reason}"
  | unsafeCacheRoot path => s!"Bundle cache root가 안전하지 않습니다: {path}"
  | io operation path _ => s!"Bundle cache 작업 {operation}에 실패했습니다: {path}"
  | identityConflict name version =>
      s!"Bundle identity {name}@{version}는 이미 다른 immutable digest로 " ++
        "설치되어 있습니다"
  | notFound name version => s!"설치된 Bundle을 찾을 수 없습니다: {name}@{version}"

end BundleError

/-! ### Manifests -/

/-- The Runtime Package of a Bundle. -/
structure BundleRuntimeReference where
  packageId : String
  digest : Sha256Digest
deriving DecidableEq

/-- The manifest of a Bundle. -/
structure BundleManifest where
  schemaVersion : String
  name : String
  version : String
  signingKeyId : String
  runtime : BundleRuntimeReference
  profileDigest : Sha256Digest
deriving DecidableEq

/-- A declared input of a Profile. -/
structure BundleInput where
  name : String
  kind : String
  required : Bool
  allowedValues : Option (List ℤ) := none
  minimum : Option ℤ := none
  maximum : Option ℤ := none
deriving DecidableEq

/-- The declared output of a Profile. -/
structure BundleOutput where
  name : String
  fileName : String
  mediaType : String
  maximumBytes : ℕ
deriving DecidableEq

/-- The scalar inputs that an argument may take. -/
inductive BundleProfileInputValueKind where
  | string
  | int64
  | boolean
deriving DecidableEq

/-- An argument of the program of a Profile. -/
inductive BundleProfileArgument where
  | literal (value : String)
  | inputPath (slot : String)
  | inputValue (kind : BundleProfileInputValueKind) (slot : String)
  | outputPath (slot : String)
deriving DecidableEq

/-- The CPU ceiling of the wire form. -/
structure CpuMax where
  quotaMicros : ℕ
  periodMicros : ℕ
deriving DecidableEq

/-- The resource ceilings of the wire form. -/
structure ResourceLimits where
  cpuMax : CpuMax
  memoryMaxBytes : ℕ
  pidsMax : ℕ
  wallTimeLimitMs : ℕ
deriving DecidableEq

/-- The output ceilings of the wire form. -/
structure OutputLimits where
  stdoutTailMaxBytes : ℕ
  stderrTailMaxBytes : ℕ
deriving DecidableEq

/-- The default limits of a Profile. -/
structure BundleResourcePolicy where
  limits : ResourceLimits
  output : OutputLimits
deriving DecidableEq

/-- The manifest of the Profile of a Bundle. -/
structure BundleProfile where
  schemaVersion : String
  name : String
  version : String
  inputs : List BundleInput
  output : BundleOutput
  argv : List BundleProfileArgument
  policy : BundleResourcePolicy
  allowedOverrides : List String
deriving DecidableEq

/-- The numbers of a wire policy. -/
def BundleResourcePolicy.numbers (policy : BundleResourcePolicy) :
    BudgetNumbers where
  quotaMicros := policy.limits.cpuMax.quotaMicros
  periodMicros := policy.limits.cpuMax.periodMicros
  memoryMaxBytes := policy.limits.memoryMaxBytes
  pidsMax := policy.limits.pidsMax
  wallTimeLimitMs := policy.limits.wallTimeLimitMs
  stdoutTailMaxBytes := policy.output.stdoutTailMaxBytes
  stderrTailMaxBytes := policy.output.stderrTailMaxBytes

/-! ### Names -/

def bundleSchema : String :=
  "taskcage.bundle/v0alpha1"

def profileSchema : String :=
  "taskcage.profile/v0alpha1"

/-- Whether a text is a version without prerelease and build metadata. -/
def isCanonicalRelease (version : String) : Bool :=
  match Version.parse version.toList with
  | none => false
  | some parsed => parsed.toText = version.toList && parsed.isRelease

/-- The check of the identity of a Bundle. -/
def validateIdentity (name version : String) : Except BundleError Unit := do
  Outcome.require (Names.isValidCapsuleName name)
    (.manifest "Bundle name이 잘못되었습니다")
  match Version.parse version.toList with
  | none => .error (.manifest "Bundle version은 canonical SemVer여야 합니다")
  | some parsed =>
      Outcome.require (parsed.toText = version.toList && parsed.isRelease)
        (.manifest "Bundle version은 prerelease/build 없는 canonical SemVer여야 합니다")

/-- Whether a text may name a signing key. -/
def validKeyId (value : String) : Bool :=
  match value.toList with
  | [] => false
  | first :: rest =>
      rest.length < 64 && first.isAlphanum &&
        rest.all fun char =>
          char.isAlphanum || char = '.' || char = '_' || char = '-'

/-- The check of the name of a signing key. -/
def validateKeyId (value : String) : Except BundleError Unit :=
  Outcome.require (validKeyId value) (.manifest "signingKeyId가 잘못되었습니다")

/-- The check of the name of a slot. -/
def validateSlot (value : String) : Except BundleError Unit :=
  Outcome.require (Names.validateSlot value)
    (.manifest "Profile slot name이 잘못되었습니다")

/-- Whether a text may name a Runtime Package in a Bundle. -/
def validPackageReference (value : String) : Bool :=
  value.toList ≠ [] && value.utf8ByteSize ≤ 255 &&
    value.toList.all fun char =>
      char.isLower || char.isDigit || char = '.' || char = '-'

/-- Whether a text is a single file name. -/
def isRelativeFilename (value : String) : Bool :=
  value ≠ "" && value.utf8ByteSize ≤ 255 && !value.toList.contains '/' &&
    !value.toList.contains Json.escape && value ≠ "." && value ≠ ".."

/-- The check of the file name of an output. -/
def validateRelativeFilename (value : String) : Except BundleError Unit :=
  Outcome.require (isRelativeFilename value)
    (.manifest "output fileName은 single relative filename이어야 합니다")

/-! ### Inputs and arguments -/

/-- Whether each value is below the next one. -/
def ascending : List ℤ → Bool
  | first :: second :: rest => first < second && ascending (second :: rest)
  | _ => true

/-- Whether the constraints of an input belong to its kind. -/
def validInputSchema (input : BundleInput) : Bool :=
  if input.kind ≠ "INT64" then
    input.allowedValues.isNone && input.minimum.isNone && input.maximum.isNone
  else
    match input.allowedValues, input.minimum, input.maximum with
    | some values, none, none =>
        1 ≤ values.length && values.length ≤ 64 && ascending values
    | none, some minimum, some maximum => minimum ≤ maximum
    | _, _, _ => false

/-- The check of the constraints of an input. -/
def validateInputSchema (input : BundleInput) : Except BundleError Unit :=
  Outcome.require (validInputSchema input)
    (.manifest
      (if input.kind ≠ "INT64" then
        "allowedValues와 minimum/maximum은 INT64 input에만 허용됩니다"
      else
        "INT64 input은 1..=64개의 strictly ascending allowedValues 또는 " ++
          "완전한 ordered minimum/maximum 중 하나만 가져야 합니다"))

/-- What the check of the inputs counts for an input of a kind. -/
def localInputsOf (kind : String) : Except BundleError ℕ :=
  if kind = "LOCAL_INPUT" then .ok 1
  else if kind = "STRING" ∨ kind = "INT64" ∨ kind = "BOOLEAN" then .ok 0
  else .error (.manifest "지원하지 않는 input kind입니다")

/-- The loop over the inputs, which ends with the number of files among
them. -/
def validateInputs (names : List String) (localInputs : ℕ) :
    List BundleInput → Except BundleError ℕ
  | [] => .ok localInputs
  | input :: rest => do
      validateSlot input.name
      Outcome.require (!names.contains input.name && input.required)
        (.manifest "input names는 unique이고 v0alpha1에서는 required여야 합니다")
      let counted ← localInputsOf input.kind
      validateInputSchema input
      validateInputs (input.name :: names) (localInputs + counted) rest

/-- Whether an input of the kind has the slot. -/
def hasInputKind (inputs : List BundleInput) (slot kind : String) : Bool :=
  inputs.any fun input => input.name = slot && input.kind = kind

/-- The check that an argument refers to an input. -/
def requireInputKind (inputs : List BundleInput) (slot kind : String) :
    Except BundleError Unit :=
  Outcome.require (hasInputKind inputs slot kind)
    (.manifest "argv placeholder가 matching input slot을 참조하지 않습니다")

/-- The kind of input that a scalar argument takes. -/
def BundleProfileInputValueKind.inputKind :
    BundleProfileInputValueKind → String
  | string => "STRING"
  | int64 => "INT64"
  | boolean => "BOOLEAN"

/-- Whether a text may be an argument as it is. -/
def validLiteral (value : String) : Bool :=
  value ≠ "" && value.utf8ByteSize ≤ 4096 &&
    !value.toList.contains (Char.ofNat 0)

/-- The check of an argument. -/
def validateArgv (inputs : List BundleInput) (output : BundleOutput) :
    BundleProfileArgument → Except BundleError Unit
  | .literal value =>
      Outcome.require (validLiteral value) (.manifest "argv literal이 잘못되었습니다")
  | .inputPath slot => requireInputKind inputs slot "LOCAL_INPUT"
  | .inputValue kind slot => requireInputKind inputs slot kind.inputKind
  | .outputPath slot =>
      Outcome.require (slot = output.name)
        (.manifest "argv placeholder가 matching output slot을 참조하지 않습니다")

/-! ### Bundles -/

/-- The fields that a Profile may allow to lower. -/
def overrideFields : List String :=
  ["limits.cpuMax", "limits.memoryMaxBytes", "limits.pidsMax",
    "limits.wallTimeLimitMs", "output.stdoutTailMaxBytes",
    "output.stderrTailMaxBytes"]

/-- The loop over the fields that may be lowered. -/
def validateOverrides {Error : Type} (error : Error) (seen : List String) :
    List String → Except Error Unit
  | [] => .ok ()
  | field :: rest => do
      Outcome.require (overrideFields.contains field && !seen.contains field)
        error
      validateOverrides error (field :: seen) rest

/-- The check of a pair of manifests; `sha256` is the digest of the text of the
Profile. -/
def validateBundle (sha256 : Sha256Digest) (bundle : BundleManifest)
    (profile : BundleProfile) : Except BundleError Unit := do
  Outcome.require (bundle.schemaVersion = bundleSchema)
    (.manifest "bundle.schemaVersion이 지원되지 않습니다")
  validateIdentity bundle.name bundle.version
  validateKeyId bundle.signingKeyId
  Outcome.require (validPackageReference bundle.runtime.packageId)
    (.manifest "runtime.packageId가 잘못되었습니다")
  Outcome.require (bundle.profileDigest = sha256)
    (.manifest "profileDigest가 exact profile.json digest와 다릅니다")
  Outcome.require
    (profile.schemaVersion = profileSchema && profile.name = bundle.name &&
      profile.version = bundle.version)
    (.manifest "profile identity 또는 schemaVersion이 bundle.json과 다릅니다")
  Outcome.require (1 ≤ profile.inputs.length && profile.inputs.length ≤ 32)
    (.manifest "profile inputs는 1..=32개여야 합니다")
  let localInputs ← validateInputs [] 0 profile.inputs
  Outcome.require (localInputs = 1)
    (.manifest "v0alpha1 Profile은 정확히 하나의 LOCAL_INPUT을 가져야 합니다")
  validateSlot profile.output.name
  validateRelativeFilename profile.output.fileName
  Outcome.require
    (profile.output.mediaType ≠ "" && profile.output.maximumBytes ≠ 0)
    (.manifest "output mediaType과 maximumBytes가 필요합니다")
  Outcome.require (1 ≤ profile.argv.length && profile.argv.length ≤ 128)
    (.manifest "argv는 1..=128개여야 합니다")
  profile.argv.forM (validateArgv profile.inputs profile.output)
  Outcome.require (profile.allowedOverrides.length ≤ 6)
    (.manifest "policy와 allowedOverrides가 잘못되었습니다")
  validateOverrides
    (.manifest "allowedOverrides에는 지원되는 unique resource field만 허용됩니다")
    [] profile.allowedOverrides
  match ResourceBudget.tryNew profile.policy.numbers with
  | .ok _ => .ok ()
  | .error error => .error (.manifest s!"policy가 잘못되었습니다: {error.message}")

/-! ### Sound pairs of manifests -/

/-- The kinds of inputs. -/
def inputKinds : List String :=
  ["LOCAL_INPUT", "STRING", "INT64", "BOOLEAN"]

/-- An input as the validation wants it. -/
structure InputSound (input : BundleInput) : Prop where
  slot : Names.validateSlot input.name = true
  required : input.required = true
  kind : input.kind ∈ inputKinds
  constraints : validInputSchema input = true

/-- The inputs of a Profile as the validation wants them. -/
structure InputsSound (inputs : List BundleInput) : Prop where
  filled : 1 ≤ inputs.length
  few : inputs.length ≤ 32
  sound : ∀ input ∈ inputs, InputSound input
  unique : (inputs.map BundleInput.name).Nodup
  oneFile : inputs.countP (·.kind = "LOCAL_INPUT") = 1

/-- An argument as the validation wants it. -/
def ArgumentSound (inputs : List BundleInput) (output : BundleOutput) :
    BundleProfileArgument → Prop
  | .literal value => validLiteral value = true
  | .inputPath slot => hasInputKind inputs slot "LOCAL_INPUT" = true
  | .inputValue kind slot => hasInputKind inputs slot kind.inputKind = true
  | .outputPath slot => slot = output.name

/-- An output as the validation wants it. -/
structure OutputSound (output : BundleOutput) : Prop where
  slot : Names.validateSlot output.name = true
  fileName : isRelativeFilename output.fileName = true
  mediaType : output.mediaType ≠ ""
  maximumBytes : output.maximumBytes ≠ 0

/-- A pair of manifests as the validation wants it. -/
structure Sound (sha256 : Sha256Digest) (bundle : BundleManifest)
    (profile : BundleProfile) : Prop where
  bundleSchema : bundle.schemaVersion = bundleSchema
  name : Names.isValidCapsuleName bundle.name = true
  version : isCanonicalRelease bundle.version = true
  keyId : validKeyId bundle.signingKeyId = true
  packageId : validPackageReference bundle.runtime.packageId = true
  profileDigest : bundle.profileDigest = sha256
  profileSchema : profile.schemaVersion = profileSchema
  profileName : profile.name = bundle.name
  profileVersion : profile.version = bundle.version
  inputs : InputsSound profile.inputs
  output : OutputSound profile.output
  filledArgv : 1 ≤ profile.argv.length
  shortArgv : profile.argv.length ≤ 128
  argv : ∀ argument ∈ profile.argv,
    ArgumentSound profile.inputs profile.output argument
  overrides : ∀ field ∈ profile.allowedOverrides, field ∈ overrideFields
  uniqueOverrides : profile.allowedOverrides.Nodup
  policy : ∃ budget, ResourceBudget.tryNew profile.policy.numbers = .ok budget

theorem localInputsOf_eq_ok_iff {kind : String} {counted : ℕ} :
    localInputsOf kind = .ok counted ↔ kind ∈ inputKinds ∧
      counted = if kind = "LOCAL_INPUT" then 1 else 0 := by
  unfold localInputsOf
  by_cases file : kind = "LOCAL_INPUT"
  · subst file
    rw [if_pos rfl, if_pos rfl, Except.ok.injEq, eq_comm]
    exact (and_iff_right (by decide)).symm
  · rw [if_neg file, if_neg file]
    by_cases scalar : kind = "STRING" ∨ kind = "INT64" ∨ kind = "BOOLEAN"
    · rw [if_pos scalar, Except.ok.injEq, eq_comm]
      exact (and_iff_right (by simp [inputKinds, scalar])).symm
    · rw [if_neg scalar]
      refine iff_of_false nofun fun known => scalar ?_
      simpa [inputKinds, file] using known.1

variable {inputs : List BundleInput} {done : Unit} {version : String}

theorem validateInputs_eq_ok_iff {names : List String} {start total : ℕ} :
    validateInputs names start inputs = .ok total ↔
      (∀ input ∈ inputs, InputSound input) ∧
        (inputs.map BundleInput.name).Nodup ∧
        (∀ input ∈ inputs, input.name ∉ names) ∧
        total = start + inputs.countP (·.kind = "LOCAL_INPUT") := by
  induction inputs generalizing names start with
  | nil => simp [validateInputs, eq_comm]
  | cons input rest inductionHypothesis =>
      simp only [validateInputs, validateSlot, validateInputSchema,
        Outcome.bind_eq_ok_iff, Outcome.require_eq_ok_iff,
        localInputsOf_eq_ok_iff, inductionHypothesis, Bool.and_eq_true]
      rw [List.countP_cons, List.forall_mem_cons, List.forall_mem_cons,
        List.map_cons, List.nodup_cons]
      simp only [List.mem_cons, not_or, decide_eq_true_eq]
      constructor
      · rintro ⟨_, slot, _, ⟨fresh, required⟩, _, ⟨kind, rfl⟩, _, constraints,
          sound, unique, apart, rfl⟩
        refine ⟨⟨⟨slot, required, kind, constraints⟩, sound⟩, ⟨?_, unique⟩,
          ⟨by simpa using fresh, fun other member => (apart other member).2⟩,
          by omega⟩
        intro again
        obtain ⟨other, member, same⟩ := List.mem_map.mp again
        exact (apart other member).1 same
      · rintro ⟨⟨here, sound⟩, ⟨once, unique⟩, ⟨fresh, apart⟩, rfl⟩
        refine ⟨(), here.slot, (), ⟨by simpa using fresh, here.required⟩, _,
          ⟨here.kind, rfl⟩, (), here.constraints, sound, unique, ?_, by omega⟩
        intro other member
        exact ⟨fun same => once (List.mem_map.mpr ⟨other, member, same⟩),
          apart other member⟩

theorem validateOverrides_eq_ok_iff {Error : Type} {error : Error}
    {fields seen : List String} :
    validateOverrides error seen fields = .ok done ↔
      (∀ field ∈ fields, field ∈ overrideFields) ∧ fields.Nodup ∧
        ∀ field ∈ fields, field ∉ seen := by
  induction fields generalizing seen with
  | nil => simp [validateOverrides]
  | cons field rest inductionHypothesis =>
      simp only [validateOverrides, Outcome.bind_eq_ok_iff,
        Outcome.require_eq_ok_iff, inductionHypothesis, Bool.and_eq_true]
      rw [List.forall_mem_cons, List.forall_mem_cons, List.nodup_cons]
      simp only [List.mem_cons, not_or]
      constructor
      · rintro ⟨_, ⟨known, fresh⟩, others, unique, apart⟩
        exact ⟨⟨by simpa using known, others⟩,
          ⟨fun again => (apart field again).1 rfl, unique⟩,
          by simpa using fresh, fun other member => (apart other member).2⟩
      · rintro ⟨⟨known, others⟩, ⟨once, unique⟩, fresh, apart⟩
        refine ⟨(), ⟨by simpa using known, by simpa using fresh⟩, others,
          unique, ?_⟩
        rintro other member
        exact ⟨fun same => once (same ▸ member), apart other member⟩

/-- The versions of Bundles are three numerals of 64-bit numbers. -/
theorem isCanonicalRelease_iff :
    isCanonicalRelease version = true ↔
      Version.IsReleaseText version.toList := by
  rw [← Version.parse_isRelease_iff, isCanonicalRelease]
  cases read : Version.parse version.toList with
  | none => simp
  | some parsed =>
      simp only [Bool.and_eq_true, decide_eq_true_eq, Option.some.injEq,
        exists_eq_left']
      exact and_iff_right_of_imp (Version.toText_of_parse read)

theorem validateIdentity_eq_ok_iff {name : String} :
    validateIdentity name version = .ok done ↔
      Names.isValidCapsuleName name = true ∧
        isCanonicalRelease version = true := by
  unfold validateIdentity isCanonicalRelease
  rw [Outcome.seq_eq_ok_iff, Outcome.require_eq_ok_iff]
  cases Version.parse version.toList with
  | none => simp
  | some parsed =>
      dsimp only
      rw [Outcome.require_eq_ok_iff]

theorem validateArgv_eq_ok_iff {output : BundleOutput}
    {argument : BundleProfileArgument} :
    validateArgv inputs output argument = .ok done ↔
      ArgumentSound inputs output argument := by
  cases argument with
  | literal | inputPath | inputValue => exact Outcome.require_eq_ok_iff
  | outputPath slot => exact Outcome.require_eq_ok_iff.trans decide_eq_true_iff

/-- Sound pairs of manifests are exactly those that the validation accepts. -/
theorem validateBundle_eq_ok_iff {sha256 : Sha256Digest}
    {bundle : BundleManifest} {profile : BundleProfile} :
    validateBundle sha256 bundle profile = .ok done ↔
      Sound sha256 bundle profile := by
  have few : (∀ field ∈ profile.allowedOverrides, field ∈ overrideFields) →
      profile.allowedOverrides.Nodup → profile.allowedOverrides.length ≤ 6 :=
    fun known unique => (List.Nodup.subperm unique known).length_le
  have budget : (match ResourceBudget.tryNew profile.policy.numbers with
      | .ok _ => (.ok () : Except BundleError Unit)
      | .error error =>
          .error (.manifest s!"policy가 잘못되었습니다: {error.message}")) =
        .ok done ↔
      ∃ budget, ResourceBudget.tryNew profile.policy.numbers = .ok budget := by
    cases ResourceBudget.tryNew profile.policy.numbers with
    | ok budget => exact iff_of_true rfl ⟨budget, rfl⟩
    | error error =>
        refine iff_of_false ?_ ?_
        · intro passes
          cases passes
        · rintro ⟨_, valid⟩
          cases valid
  simp only [validateBundle, validateKeyId, validateSlot,
    validateRelativeFilename, Outcome.bind_eq_ok_iff,
    Outcome.require_eq_ok_iff, validateIdentity_eq_ok_iff,
    validateInputs_eq_ok_iff, Outcome.forM_eq_ok_iff, validateArgv_eq_ok_iff,
    validateOverrides_eq_ok_iff, budget, Bool.and_eq_true,
    decide_eq_true_eq, List.not_mem_nil]
  constructor
  · rintro ⟨_, bundleSchema, _, ⟨name, version⟩, _, keyId, _, packageId, _,
      profileDigest, _, ⟨⟨profileSchema, profileName⟩, profileVersion⟩, _,
      ⟨filled, few⟩, _, ⟨inputs, unique, -, total⟩, _, oneFile, _, slot, _,
      fileName, _, ⟨mediaType, maximumBytes⟩, _, ⟨filledArgv, shortArgv⟩, _,
      argv, _, -, _, ⟨overrides, uniqueOverrides, -⟩, policy⟩
    exact
      { bundleSchema, name, version, keyId, packageId, profileDigest,
        profileSchema, profileName, profileVersion
        inputs := ⟨filled, few, inputs, unique, by omega⟩
        output := ⟨slot, fileName, mediaType, maximumBytes⟩
        filledArgv, shortArgv, argv, overrides, uniqueOverrides, policy }
  · intro sound
    refine ⟨(), sound.bundleSchema, (), ⟨sound.name, sound.version⟩, (),
      sound.keyId, (), sound.packageId, (), sound.profileDigest, (),
      ⟨⟨sound.profileSchema, sound.profileName⟩, sound.profileVersion⟩, (),
      ⟨sound.inputs.filled, sound.inputs.few⟩, 1,
      ⟨sound.inputs.sound, sound.inputs.unique, fun _ _ => not_false, ?_⟩, (),
      rfl, (), sound.output.slot, (), sound.output.fileName, (),
      ⟨sound.output.mediaType, sound.output.maximumBytes⟩, (),
      ⟨sound.filledArgv, sound.shortArgv⟩, (), sound.argv, (),
      few sound.overrides sound.uniqueOverrides, (),
      ⟨sound.overrides, sound.uniqueOverrides, fun _ _ => not_false⟩,
      sound.policy⟩
    rw [sound.inputs.oneFile]

/-! ### A Bundle -/

/-- A digest. -/
def zeroDigest : Sha256Digest :=
  ⟨"sha256:0000000000000000000000000000000000000000000000000000000000000000",
    by decide +kernel⟩

/-- The manifest of a Bundle that turns audio files into another format. -/
def audioBundle : BundleManifest where
  schemaVersion := "taskcage.bundle/v0alpha1"
  name := "ffmpeg-audio-to-wav"
  version := "1.0.0"
  signingKeyId := "test-release"
  runtime := ⟨"org.taskcage.ffmpeg", zeroDigest⟩
  profileDigest := zeroDigest

/-- The Profile of that Bundle. -/
def audioProfile : BundleProfile where
  schemaVersion := "taskcage.profile/v0alpha1"
  name := "ffmpeg-audio-to-wav"
  version := "1.0.0"
  inputs :=
    [{ name := "source", kind := "LOCAL_INPUT", required := true },
      { name := "sample_rate_hz", kind := "INT64", required := true,
        allowedValues := some [8000, 16000, 22050, 44100, 48000] },
      { name := "channels", kind := "INT64", required := true,
        allowedValues := some [1, 2] }]
  output := ⟨"audio", "result.wav", "audio/wav", 1024⟩
  argv :=
    [.literal "-hide_banner", .literal "-i", .inputPath "source",
      .literal "-ar", .inputValue .int64 "sample_rate_hz", .literal "-ac",
      .inputValue .int64 "channels", .outputPath "audio"]
  policy := ⟨⟨⟨100000, 100000⟩, 536870912, 32, 120000⟩, ⟨1024, 1024⟩⟩
  allowedOverrides := []

theorem sound_audio : Sound zeroDigest audioBundle audioProfile := by
  have accepted : validateBundle zeroDigest audioBundle audioProfile =
      .ok () := by
    decide +kernel
  exact validateBundle_eq_ok_iff.mp accepted

end Capsule
end TaskCage
