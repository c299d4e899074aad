import TaskCage.Capsule.Manifest
import TaskCage.Core.Submission
import TaskCage.Core.Text
import TaskCage.Foundation.Search

/-!
# Compiled Capsules

The typed contract that the runtime works with, compiled from the manifests of
an installed Bundle.
-/

namespace TaskCage
namespace Capsule

/-- Errors of the compilation. -/
inductive CapsuleError where
  | legacyBundle (error : BundleError)
  | invalidContract (reason : String)
deriving DecidableEq

namespace CapsuleError

/-- The text of an error of the compilation. -/
def message : CapsuleError → String
  | legacyBundle error => error.message
  | invalidContract reason =>
      s!"검증된 legacy Bundle 계약을 Capsule로 compile할 수 없습니다: {reason}"

end CapsuleError

/-! ### Inspections -/

/-- What the catalog knows about an installed Bundle. -/
structure InstalledBundle where
  digest : Sha256Digest
  name : String
  version : String
  runtimePackageDigest : Sha256Digest
  runtimePackageId : String
deriving DecidableEq

/-- A Bundle that was read from the catalog. -/
structure BundleInspection where
  installed : InstalledBundle
  manifest : BundleManifest
  profile : BundleProfile
deriving DecidableEq

/-- The inspection of a Bundle with the given digest. -/
def BundleInspection.of (digest : Sha256Digest) (manifest : BundleManifest)
    (profile : BundleProfile) : BundleInspection where
  installed := ⟨digest, manifest.name, manifest.version,
    manifest.runtime.digest, manifest.runtime.packageId⟩
  manifest := manifest
  profile := profile

/-! ### Contracts -/

/-- The numbers that an input allows. -/
inductive CapsuleInt64Constraint where
  | allowedValues (values : List ℤ)
  | range (minimum maximum : ℤ)
deriving DecidableEq

/-- Whether a number is allowed. -/
def CapsuleInt64Constraint.allows (value : ℤ) : CapsuleInt64Constraint → Bool
  | allowedValues values => Search.binarySearch values value
  | range minimum maximum => minimum ≤ value && value ≤ maximum

/-- The kinds of inputs, with their constraints. -/
inductive CapsuleInputKind where
  | localInput
  | string
  | int64 (constraint : CapsuleInt64Constraint)
  | boolean
deriving DecidableEq

/-- The name of a kind. -/
def CapsuleInputKind.schemaName : CapsuleInputKind → String
  | localInput => "LOCAL_INPUT"
  | string => "STRING"
  | int64 _ => "INT64"
  | boolean => "BOOLEAN"

/-- A typed input. -/
structure CapsuleInput where
  name : String
  required : Bool
  kind : CapsuleInputKind
deriving DecidableEq

/-- The name and version of a Capsule. -/
structure CapsuleIdentity where
  name : String
  version : String
deriving DecidableEq

/-- A checked identity. -/
def CapsuleIdentity.new (name version : String) :
    Except String CapsuleIdentity := do
  Outcome.require (Names.isValidCapsuleName name)
    ("Capsule name is invalid: " ++ Text.quote name)
  match Version.parse version.toList with
  | none => .error ("Capsule version is invalid: " ++ Text.quote version)
  | some parsed => do
      Outcome.require parsed.isRelease
        ("Capsule version cannot contain prerelease or build metadata: " ++
          Text.quote (String.ofList parsed.toText))
      return ⟨name, String.ofList parsed.toText⟩

/-- The Profile of a Capsule. -/
structure CompiledCapsuleProfile where
  identity : ProfileIdentity
  digest : Sha256Digest
  inputs : List CapsuleInput
  arguments : List BundleProfileArgument
  output : BundleOutput
  resourcePolicy : BundleResourcePolicy
  allowedOverrides : List String
deriving DecidableEq

/-- A Capsule that can be invoked. -/
structure CompiledCapsule where
  identity : CapsuleIdentity
  catalogDigest : Sha256Digest
  runtime : BundleRuntimeReference
  profile : CompiledCapsuleProfile
  signingKeyId : String
deriving DecidableEq

/-! ### Compilation -/

/-- The typed kind of an input. -/
def BundleInput.typedKind (input : BundleInput) : Option CapsuleInputKind :=
  match input.kind, input.allowedValues, input.minimum, input.maximum with
  | "LOCAL_INPUT", none, none, none => some .localInput
  | "STRING", none, none, none => some .string
  | "BOOLEAN", none, none, none => some .boolean
  | "INT64", some values, none, none =>
      if 1 ≤ values.length && values.length ≤ 64 && ascending values then
        some (.int64 (.allowedValues values))
      else
        none
  | "INT64", none, some minimum, some maximum =>
      if minimum ≤ maximum then some (.int64 (.range minimum maximum))
      else none
  | _, _, _, _ => none

/-- The typed form of an input. -/
def CapsuleInput.tryFrom (input : BundleInput) :
    Except CapsuleError CapsuleInput := do
  Outcome.require input.required
    (.invalidContract s!"v0alpha1 input {input.name}은 required여야 합니다")
  match input.typedKind with
  | some kind => .ok ⟨input.name, input.required, kind⟩
  | none =>
      .error (.invalidContract
        s!"input {input.name}의 kind 또는 validation contract가 잘못되었습니다")

/-- The catalog, the manifest and the Profile speak of the same Bundle. -/
def ensureInspectionConsistency (installed : InstalledBundle)
    (manifest : BundleManifest) (profile : BundleProfile) :
    Except CapsuleError Unit :=
  Outcome.require
    (installed.name = manifest.name && installed.version = manifest.version &&
      installed.runtimePackageId = manifest.runtime.packageId &&
      installed.runtimePackageDigest = manifest.runtime.digest &&
      profile.name = manifest.name && profile.version = manifest.version)
    (.invalidContract
      ("catalog, manifest, Profile 또는 Runtime Package identity가 " ++
        "일치하지 않습니다"))

/-- The check of the fields that may be lowered. -/
def validateAllowedOverrides (fields : List String) :
    Except CapsuleError Unit :=
  validateOverrides
    (.invalidContract
      "resource override allowlist가 검증된 v0alpha1 contract가 아닙니다")
    [] fields

/-- The compilation of an inspected Bundle. -/
def CompiledCapsule.fromVerifiedInspection (inspection : BundleInspection) :
    Except CapsuleError CompiledCapsule := do
  let manifest := inspection.manifest
  let profile := inspection.profile
  ensureInspectionConsistency inspection.installed manifest profile
  let inputs ← profile.inputs.mapM CapsuleInput.tryFrom
  validateAllowedOverrides profile.allowedOverrides
  match CapsuleIdentity.new manifest.name manifest.version with
  | .error reason => .error (.invalidContract reason)
  | .ok identity =>
      .ok
        { identity := identity
          catalogDigest := inspection.installed.digest
          runtime := manifest.runtime
          profile :=
            { identity := ⟨profile.name, profile.version⟩
              digest := manifest.profileDigest
              inputs := inputs
              arguments := profile.argv
              output := profile.output
              resourcePolicy := profile.policy
              allowedOverrides := profile.allowedOverrides }
          signingKeyId := manifest.signingKeyId }

/-! ### Compilation of sound Bundles -/

theorem ascending_iff {values : List ℤ} :
    ascending values = true ↔ values.Pairwise (· < ·) := by
  rw [← List.isChain_iff_pairwise]
  induction values with
  | nil => exact iff_of_true rfl .nil
  | cons first rest inductionHypothesis =>
      cases rest with
      | nil => exact iff_of_true rfl (.singleton first)
      | cons second rest =>
          rw [ascending, Bool.and_eq_true, decide_eq_true_iff,
            inductionHypothesis, List.isChain_cons_cons]

/-- An input and its typed form. -/
structure Compiles (input : BundleInput) (compiled : CapsuleInput) : Prop where
  name : compiled.name = input.name
  required : compiled.required = true
  kind : compiled.kind.schemaName = input.kind
  /-- Some number satisfies the constraint. -/
  allows : ∀ constraint, compiled.kind = .int64 constraint →
    ∃ value, constraint.allows value = true

/-- A sound input has a kind, and some number satisfies its constraint. -/
theorem typedKind_of_sound {input : BundleInput} (sound : InputSound input) :
    ∃ kind, input.typedKind = some kind ∧ kind.schemaName = input.kind ∧
      ∀ constraint, kind = .int64 constraint →
        ∃ value, constraint.allows value = true := by
  obtain ⟨name, kind, required, allowed, minimum, maximum⟩ := input
  have known := sound.kind
  have constraints := sound.constraints
  simp only [inputKinds, List.mem_cons, List.not_mem_nil, or_false] at known
  unfold validInputSchema at constraints
  rcases known with rfl | rfl | rfl | rfl
  · cases allowed <;> cases minimum <;> cases maximum <;> cases constraints
    refine ⟨_, rfl, rfl, ?_⟩
    rintro constraint ⟨⟩
  · cases allowed <;> cases minimum <;> cases maximum <;> cases constraints
    refine ⟨_, rfl, rfl, ?_⟩
    rintro constraint ⟨⟩
  · rw [if_neg (fun other => other rfl)] at constraints
    dsimp only at constraints
    cases allowed with
    | some values =>
        cases minimum <;> cases maximum <;> try cases constraints
        refine ⟨.int64 (.allowedValues values), if_pos constraints, rfl, ?_⟩
        rintro constraint ⟨⟩
        cases values with
        | nil => cases constraints
        | cons first rest =>
            simp only [Bool.and_eq_true] at constraints
            exact ⟨first, (Search.binarySearch_iff
              (ascending_iff.mp constraints.2)).mpr List.mem_cons_self⟩
    | none =>
        cases minimum <;> cases maximum <;> try cases constraints
        rename_i low high
        have ordered : low ≤ high := by simpa using constraints
        refine ⟨.int64 (.range low high), if_pos ordered, rfl, ?_⟩
        rintro constraint ⟨⟩
        exact ⟨low, by simp [CapsuleInt64Constraint.allows, ordered]⟩
  · cases allowed <;> cases minimum <;> cases maximum <;> cases constraints
    refine ⟨_, rfl, rfl, ?_⟩
    rintro constraint ⟨⟩

theorem tryFrom_of_sound {input : BundleInput} (sound : InputSound input) :
    ∃ compiled, CapsuleInput.tryFrom input = .ok compiled ∧
      Compiles input compiled := by
  obtain ⟨kind, typed, named, allows⟩ := typedKind_of_sound sound
  refine ⟨⟨input.name, input.required, kind⟩, ?_, rfl, sound.required, named,
    allows⟩
  unfold CapsuleInput.tryFrom
  rw [Outcome.seq_eq_ok_iff, Outcome.require_eq_ok_iff, typed]
  exact ⟨sound.required, rfl⟩

theorem exists_mapM_tryFrom {inputs : List BundleInput}
    (sound : ∀ input ∈ inputs, InputSound input) :
    ∃ compiled, inputs.mapM CapsuleInput.tryFrom = .ok compiled ∧
      List.Forall₂ Compiles inputs compiled := by
  simp only [Outcome.mapM_eq_ok_iff]
  induction inputs with
  | nil => exact ⟨[], .nil, .nil⟩
  | cons input rest inductionHypothesis =>
      rw [List.forall_mem_cons] at sound
      obtain ⟨first, typed, compiles⟩ := tryFrom_of_sound sound.1
      obtain ⟨others, read, whole⟩ := inductionHypothesis sound.2
      exact ⟨first :: others, .cons typed read, .cons compiles whole⟩

theorem CapsuleIdentity.new_of_valid {name version : String}
    (valid : Names.isValidCapsuleName name = true)
    (release : isCanonicalRelease version = true) :
    CapsuleIdentity.new name version = .ok ⟨name, version⟩ := by
  unfold isCanonicalRelease at release
  unfold CapsuleIdentity.new
  rw [Outcome.seq_eq_ok_iff, Outcome.require_eq_ok_iff]
  refine ⟨valid, ?_⟩
  cases parsed : Version.parse version.toList with
  | none =>
      rw [parsed] at release
      cases release
  | some found =>
      rw [parsed] at release
      simp only [Bool.and_eq_true, decide_eq_true_eq] at release
      rw [Outcome.seq_eq_ok_iff, Outcome.require_eq_ok_iff]
      refine ⟨release.2, ?_⟩
      rw [release.1, String.ofList_toList]
      rfl

/-- The compiled form of a sound Bundle. -/
structure Compiled (manifest : BundleManifest) (profile : BundleProfile)
    (capsule : CompiledCapsule) : Prop where
  name : capsule.identity.name = manifest.name
  version : capsule.identity.version = manifest.version
  profileIdentity : capsule.profile.identity = ⟨profile.name, profile.version⟩
  inputs : List.Forall₂ Compiles profile.inputs capsule.profile.inputs
  arguments : capsule.profile.arguments = profile.argv
  output : capsule.profile.output = profile.output
  policy : capsule.profile.resourcePolicy = profile.policy
  overrides : capsule.profile.allowedOverrides = profile.allowedOverrides

/-- Every sound Bundle can be compiled. -/
theorem fromVerifiedInspection_of_sound {sha256 digest : Sha256Digest}
    {manifest : BundleManifest} {profile : BundleProfile}
    (sound : Sound sha256 manifest profile) :
    ∃ capsule, CompiledCapsule.fromVerifiedInspection
        (.of digest manifest profile) = .ok capsule ∧
      Compiled manifest profile capsule := by
  obtain ⟨inputs, typed, compiles⟩ := exists_mapM_tryFrom sound.inputs.sound
  have consistent : ensureInspectionConsistency
      (BundleInspection.of digest manifest profile).installed manifest
      profile = .ok () := by
    rw [ensureInspectionConsistency, Outcome.require_eq_ok_iff]
    simp [BundleInspection.of, sound.profileName, sound.profileVersion]
  have allowed : validateAllowedOverrides profile.allowedOverrides =
      .ok () :=
    validateOverrides_eq_ok_iff.mpr ⟨sound.overrides, sound.uniqueOverrides,
      fun _ _ => List.not_mem_nil⟩
  have identity := CapsuleIdentity.new_of_valid sound.name sound.version
  refine ⟨⟨⟨manifest.name, manifest.version⟩, digest, manifest.runtime,
    ⟨⟨profile.name, profile.version⟩, manifest.profileDigest, inputs,
      profile.argv, profile.output, profile.policy, profile.allowedOverrides⟩,
    manifest.signingKeyId⟩, ?_, ⟨rfl, rfl, rfl, compiles, rfl, rfl, rfl, rfl⟩⟩
  unfold CompiledCapsule.fromVerifiedInspection
  simp only [Outcome.bind_eq_ok_iff]
  refine ⟨(), consistent, inputs, typed, (), allowed, ?_⟩
  change (match CapsuleIdentity.new manifest.name manifest.version with
    | .error reason => _
    | .ok identity => _) = _
  rw [identity]
  rfl

end Capsule
end TaskCage
