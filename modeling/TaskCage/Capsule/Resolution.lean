import Mathlib.Data.List.TakeWhile
import TaskCage.Capsule.Grammars

/-!
# Which resolver answers

The registry asks the resolver of the catalog first and then those of two fixed
Profiles.  A resolver without a Profile is to leave the answer to the next one.
The catalog reads the numbers of a version into 64 bits, and takes a larger one
for an error of its own.
-/

namespace TaskCage
namespace Capsule

/-- A catalog that can be read, by what is installed under each identity. -/
structure ReadableCatalog where
  installed : (name version : String) → Option BundleInspection
  sound : ∀ name version, installed name version ≠ none →
    validateIdentity name version = .ok ()

namespace ReadableCatalog

/-- Look up an identity. -/
def inspect (catalog : ReadableCatalog) (name version : String) :
    Except BundleError BundleInspection := do
  validateIdentity name version
  match catalog.installed name version with
  | some inspection =>
      if inspection.installed.name ≠ name ||
          inspection.installed.version ≠ version then
        .error (.manifest "catalog identity mapping이 Bundle manifest와 다릅니다")
      else
        .ok inspection
  | none => .error (.notFound name version)

def compile (catalog : ReadableCatalog) (name version : String) :
    Except CapsuleError CompiledCapsule :=
  match catalog.inspect name version with
  | .ok inspection => CompiledCapsule.fromVerifiedInspection inspection
  | .error error => .error (.legacyBundle error)

end ReadableCatalog

/-- A resolver: that of a catalog, or that of one fixed Profile, with whatever
it answers to a call of that Profile. -/
inductive CapsuleResolver where
  | installed (catalog : ReadableCatalog) (maximumArtifactBytes : ℕ)
      (packages : Sha256Digest → Except String RuntimePackage)
  | legacy (profile : ProfileIdentity)
      (answer : ProfileSubmission → Except ProfileError ResolvedProfile)

namespace CapsuleResolver

def resolve (request : ProfileSubmission) :
    CapsuleResolver → Except ProfileError CapsuleResolution
  | installed catalog maximumArtifactBytes packages =>
      InstalledCapsuleResolver.resolve
        ⟨maximumArtifactBytes, catalog.compile, packages⟩ request
  | legacy profile answer =>
      if request.call.identity.name ≠ profile.name ||
          request.call.identity.version ≠ profile.version then
        .ok .notFound
      else
        (answer request).map .resolved

/-- Whether a resolver has a Profile. -/
def has (identity : ProfileIdentity) : CapsuleResolver → Bool
  | installed catalog _ _ =>
      (catalog.installed identity.name identity.version).isSome
  | legacy profile _ =>
      identity.name = profile.name && identity.version = profile.version

end CapsuleResolver

/-- What the resolvers are opened with. -/
structure Registrations where
  bundles : Option (ReadableCatalog × ℕ ×
    (Sha256Digest → Except String RuntimePackage))
  fileCopy : ProfileSubmission → Except ProfileError ResolvedProfile
  ffmpeg : Option (ProfileSubmission → Except ProfileError ResolvedProfile)

/-- The resolvers of the two fixed Profiles. -/
def Registrations.legacy (registrations : Registrations) :
    List CapsuleResolver :=
  .legacy ⟨"file-copy", "1.0.0"⟩ registrations.fileCopy ::
    (registrations.ffmpeg.map (.legacy ⟨"ffmpeg-audio-to-wav", "1.0.0"⟩)).toList

def openResolvers (registrations : Registrations) : List CapsuleResolver :=
  match registrations.bundles with
  | none => registrations.legacy
  | some (catalog, maximumArtifactBytes, packages) =>
      .installed catalog maximumArtifactBytes packages :: registrations.legacy

namespace ProfileRegistry

def validateUuid (field value : String) : Except ProfileError Unit :=
  Outcome.require (Names.isUuid value)
    ⟨.invalidProfileInput, s!"{field} must be a UUID"⟩

/-- The loop over the resolvers. -/
def resolveFirst (submission : ProfileSubmission) :
    List CapsuleResolver → Except ProfileError CapsuleResolution
  | [] =>
      let identity := submission.call.identity
      .error ⟨.profileNotFound,
        s!"profile {identity.name}@{identity.version} is not installed"⟩
  | resolver :: resolvers => do
      match ← resolver.resolve submission with
      | .notFound => resolveFirst submission resolvers
      | answer => return answer

def resolve (resolvers : List CapsuleResolver)
    (submission : ProfileSubmission) :
    Except ProfileError CapsuleResolution := do
  validateUuid "clientRequestId" submission.clientRequestId
  validateProfileIdentity submission.call.identity
  submission.call.inputs.forM fun (slot, _) => validateSlotName slot
  resolveFirst submission resolvers

end ProfileRegistry

/-- The code of an error. -/
def errorCode : Except ProfileError CapsuleResolution → Option UseCaseErrorCode
  | .error error => some error.code
  | .ok _ => none

/-- A submission is answered by the resolvers that have its Profile: it is
reported as not found without them, and those that stand before them do not
matter. -/
structure AnsweredByOwners (resolvers : List CapsuleResolver)
    (submission : ProfileSubmission) : Prop where
  unknown : (∀ resolver ∈ resolvers,
      resolver.has submission.call.identity = false) →
    errorCode (ProfileRegistry.resolve resolvers submission) =
      some .profileNotFound
  reached : ProfileRegistry.resolve resolvers submission =
    ProfileRegistry.resolveFirst submission
      (resolvers.dropWhile fun resolver =>
        !resolver.has submission.call.identity)

section Answers

variable {registrations : Registrations} {submission : ProfileSubmission}

theorem CapsuleResolver.resolve_legacy {profile : ProfileIdentity}
    {answer : ProfileSubmission → Except ProfileError ResolvedProfile}
    (lacks : (legacy profile answer).has submission.call.identity = false) :
    (legacy profile answer).resolve submission = .ok .notFound := by
  simp only [has, Bool.and_eq_false_iff, decide_eq_false_iff_not] at lacks
  simp [resolve, lacks]

theorem ReadableCatalog.installed_eq_none {catalog : ReadableCatalog}
    {name version : String} (large : isCanonicalRelease version = false) :
    catalog.installed name version = none := by
  by_contra present
  have valid := validateIdentity_eq_ok_iff.mp
    (catalog.sound name version present)
  simp [valid.2] at large

/-- No resolver has a version that the catalog does not read. -/
theorem has_openResolvers {identity : ProfileIdentity}
    {resolver : CapsuleResolver} (member : resolver ∈ openResolvers registrations)
    (large : isCanonicalRelease identity.version = false) :
    resolver.has identity = false := by
  have small : isCanonicalRelease "1.0.0" = true := by decide +kernel
  have other : identity.version ≠ "1.0.0" := fun same => by
    simp [same, small] at large
  cases resolver with
  | installed catalog maximumArtifactBytes packages =>
      simp [CapsuleResolver.has, catalog.installed_eq_none large]
  | legacy profile answer =>
      have version : profile.version = "1.0.0" := by
        have fixed : .legacy profile answer ∈ registrations.legacy := by
          grind [openResolvers]
        rw [Registrations.legacy, List.mem_cons, Option.mem_toList,
          Option.map_eq_some_iff] at fixed
        grind
      simp [CapsuleResolver.has, version, other]

/-- The loop passes the resolvers that do not have the Profile, if these say
so. -/
theorem ProfileRegistry.resolveFirst_dropWhile
    {resolvers : List CapsuleResolver}
    (passes : ∀ resolver ∈ resolvers,
      resolver.has submission.call.identity = false →
        resolver.resolve submission = .ok .notFound) :
    resolveFirst submission resolvers =
      resolveFirst submission (resolvers.dropWhile fun resolver =>
        !resolver.has submission.call.identity) := by
  induction resolvers with
  | nil => rfl
  | cons resolver resolvers inductionHypothesis =>
      rw [List.forall_mem_cons] at passes
      cases owner : resolver.has submission.call.identity with
      | true => simp [owner]
      | false =>
          have next : resolveFirst submission (resolver :: resolvers) =
              resolveFirst submission resolvers := by
            simp only [resolveFirst, passes.1 owner]
            rfl
          rw [next, inductionHypothesis passes.2]
          simp [owner]

theorem validateIdentity_eq_error (name : String) {version : String}
    (large : isCanonicalRelease version = false) :
    ∃ reason, validateIdentity name version = .error (.manifest reason) := by
  unfold validateIdentity
  cases Names.isValidCapsuleName name with
  | false => exact ⟨_, rfl⟩
  | true =>
      unfold isCanonicalRelease at large
      cases parsed : Version.parse version.toList with
      | none => exact ⟨_, rfl⟩
      | some release =>
          rw [parsed] at large
          dsimp only at large ⊢
          rw [large]
          exact ⟨_, rfl⟩

section Catalog

variable {catalog : ReadableCatalog} {maximumArtifactBytes : ℕ}
variable {packages : Sha256Digest → Except String RuntimePackage}

/-- The catalog takes a version that it cannot read for an error of its own. -/
theorem ProfileRegistry.resolveFirst_large {resolvers : List CapsuleResolver}
    (large : isCanonicalRelease submission.call.identity.version = false) :
    errorCode (resolveFirst submission
      (.installed catalog maximumArtifactBytes packages :: resolvers)) =
        some .environmentUnavailable := by
  obtain ⟨reason, refused⟩ :=
    validateIdentity_eq_error submission.call.identity.name large
  simp only [resolveFirst, CapsuleResolver.resolve,
    InstalledCapsuleResolver.resolve, ReadableCatalog.compile,
    ReadableCatalog.inspect, refused]
  rfl

theorem CapsuleResolver.resolve_installed
    (valid : validateIdentity submission.call.identity.name
      submission.call.identity.version = .ok ())
    (lacks : (installed catalog maximumArtifactBytes packages).has
      submission.call.identity = false) :
    (installed catalog maximumArtifactBytes packages).resolve submission =
      .ok .notFound := by
  simp only [has, Option.isSome_eq_false_iff, Option.isNone_iff_eq_none]
    at lacks
  simp only [resolve, InstalledCapsuleResolver.resolve,
    ReadableCatalog.compile, ReadableCatalog.inspect, valid, lacks]
  rfl

end Catalog

/-- The resolvers say that they do not have a Profile, if the version is one
that the catalog reads. -/
theorem passes_of_readable
    (name : Names.isValidCapsuleName submission.call.identity.name = true)
    (readable : registrations.bundles = none ∨
      isCanonicalRelease submission.call.identity.version = true)
    (resolver : CapsuleResolver) (member : resolver ∈ openResolvers registrations)
    (lacks : resolver.has submission.call.identity = false) :
    resolver.resolve submission = .ok .notFound := by
  cases resolver with
  | legacy profile answer => exact CapsuleResolver.resolve_legacy lacks
  | installed catalog maximumArtifactBytes packages =>
      have release := readable.resolve_left fun absent => by
        simp [openResolvers, absent, Registrations.legacy] at member
      exact CapsuleResolver.resolve_installed
        (validateIdentity_eq_ok_iff.mpr ⟨name, release⟩) lacks

/-- Past its checks the registry asks the resolvers. -/
theorem ProfileRegistry.resolve_eq (resolvers : List CapsuleResolver)
    (uuid : validateUuid "clientRequestId" submission.clientRequestId = .ok ())
    (identity : validateProfileIdentity submission.call.identity = .ok ())
    (slots : ∀ input ∈ submission.call.inputs,
      validateSlotName input.1 = .ok ()) :
    resolve resolvers submission = resolveFirst submission resolvers := by
  have checked : submission.call.inputs.forM
      (fun (slot, _) => validateSlotName slot) = .ok () :=
    Outcome.forM_eq_ok_iff.mpr slots
  simp only [resolve, uuid, identity, checked]
  rfl

/-- Submissions that pass the checks of the registry are answered by the
resolvers that have their Profile, unless a catalog is asked for a version
whose numbers it cannot read. -/
theorem answeredByOwners_iff
    (uuid : ProfileRegistry.validateUuid "clientRequestId"
      submission.clientRequestId = .ok ())
    (identity : ProfileRegistry.validateProfileIdentity
      submission.call.identity = .ok ())
    (slots : ∀ input ∈ submission.call.inputs,
      ProfileRegistry.validateSlotName input.1 = .ok ()) :
    AnsweredByOwners (openResolvers registrations) submission ↔
      registrations.bundles = none ∨
        isCanonicalRelease submission.call.identity.version = true := by
  have asked :=
    ProfileRegistry.resolve_eq (openResolvers registrations) uuid identity slots
  have name := (ProfileRegistry.validateProfileIdentity_eq_ok_iff.mp identity).1
  constructor
  · intro answered
    by_contra unreadable
    rw [not_or, Bool.not_eq_true] at unreadable
    obtain ⟨present, large⟩ := unreadable
    obtain ⟨⟨catalog, maximumArtifactBytes, packages⟩, opened⟩ :=
      Option.ne_none_iff_exists'.mp present
    have failed := answered.unknown fun resolver member =>
      has_openResolvers member large
    rw [asked, openResolvers, opened,
      ProfileRegistry.resolveFirst_large large] at failed
    cases failed
  · intro readable
    have reached := ProfileRegistry.resolveFirst_dropWhile
      (passes_of_readable name readable)
    refine ⟨fun unknown => ?_, asked.trans reached⟩
    have none : (openResolvers registrations).dropWhile (fun resolver =>
        !resolver.has submission.call.identity) = [] := by
      simpa using unknown
    rw [asked, reached, none]
    rfl

end Answers

/-- Resolvers with a catalog in which nothing is installed. -/
def emptyCatalog : Registrations where
  bundles := some (⟨fun _ _ => none, fun _ _ present => absurd rfl present⟩,
    0, fun _ => .error "")
  fileCopy := fun _ => .error ⟨.invalidProfileInput, ""⟩
  ffmpeg := none

/-- A call of a Profile without inputs. -/
def submissionOf (version : String) : ProfileSubmission where
  clientRequestId := "00000000-0000-4000-8000-000000000000"
  call := { identity := ⟨"tool", version⟩, inputs := [] }

theorem answeredByOwners_release :
    AnsweredByOwners (openResolvers emptyCatalog) (submissionOf "1.20.3") :=
  (answeredByOwners_iff (by decide +kernel) (by decide +kernel)
    fun _ member => absurd member List.not_mem_nil).mpr (.inr (by decide +kernel))

/-- A Profile that is nowhere installed is not reported as not found. -/
theorem unknown_unavailable :
    let submission := submissionOf "18446744073709551616.0.0"
    ProfileRegistry.validateUuid "clientRequestId"
        submission.clientRequestId = .ok () ∧
      ProfileRegistry.validateProfileIdentity
        submission.call.identity = .ok () ∧
      submission.call.inputs = [] ∧
      (∀ resolver ∈ openResolvers emptyCatalog,
        resolver.has submission.call.identity = false) ∧
      errorCode (ProfileRegistry.resolve (openResolvers emptyCatalog)
        submission) = some .environmentUnavailable := by
  decide +kernel

end Capsule
end TaskCage
