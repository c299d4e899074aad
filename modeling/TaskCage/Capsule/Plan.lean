import TaskCage.Capsule.Acceptance
import TaskCage.Core.Observation
import TaskCage.Foundation.JsonText

/-!
# Execution plans of Capsules

From an installed Capsule and an accepted call to the plan that is executed.
The path under which the caller names the input serves to copy the file; what
the target is given are paths below the artifact root that the daemon has
chosen.
-/

namespace TaskCage
namespace Capsule

/-! ### Directories of the artifact store -/

/-- The character that no argument of a program may contain. -/
def nul : Char :=
  Char.ofNat 0

/-- A path and a further name, as `Path::join` puts them together. -/
def joinPath (base name : String) : String :=
  if name.toList.head? = some '/' then name
  else if base.toList.getLast?.all (· = '/') then base ++ name
  else base ++ "/" ++ name

/-- Why a name is not used in the artifact store. -/
inductive StagingError where
  | invalidRoot (path : String)
  | unsafePath (path : String)
  | invalidTaskId (taskId : String)
deriving DecidableEq

/-- An open directory of the artifact store, by its path. -/
structure ArtifactDirectory where
  path : String
  absolute : path.toList.head? = some '/'
  clean : nul ∉ path.toList

variable {base name : String} {call : ProfileCall}

theorem head_joinPath (absolute : base.toList.head? = some '/') :
    (joinPath base name).toList.head? = some '/' := by
  unfold joinPath
  split
  · assumption
  · split
    · simp [List.head?_append, absolute]
    · simp [List.head?_append, absolute]

theorem clean_joinPath (first : nul ∉ base.toList) (second : nul ∉ name.toList) :
    nul ∉ (joinPath base name).toList := by
  unfold joinPath
  split
  · exact second
  · split
    · simp [first, second]
    · have separator : nul ≠ '/' := by decide
      simp [first, second, separator]

namespace ArtifactDirectory

/-- The root of the file system. -/
def top : ArtifactDirectory where
  path := "/"
  absolute := rfl
  clean := by decide

/-- The child of a directory.  That the calls of the file system succeed is
understood; only names that cannot be handed to them are errors. -/
def child (directory : ArtifactDirectory) (name : String) :
    Except StagingError ArtifactDirectory :=
  if clean : nul ∉ name.toList then
    .ok
      { path := joinPath directory.path name
        absolute := head_joinPath directory.absolute
        clean := clean_joinPath directory.clean clean }
  else
    .error (.unsafePath (joinPath directory.path name))

/-- The directory that the next component of a path leads to. -/
def enter (path : String) (directory : ArtifactDirectory)
    (component : List Char) : Except StagingError ArtifactDirectory :=
  if component = [] || component = ['.'] then .ok directory
  else if component = ['.', '.'] then .error (.invalidRoot path)
  else directory.child (String.ofList component)

/-- The directory at an absolute path. -/
def openAbsolute (path : String) : Except StagingError ArtifactDirectory := do
  Outcome.require (path.toList.head? = some '/') (.invalidRoot path)
  (path.toList.splitOn '/').foldlM (enter path) top

end ArtifactDirectory

/-! ### Staging -/

/-- Whether a text is a task id. -/
def isTaskId (taskId : String) : Bool :=
  taskId.toList.length = 36 &&
    taskId.toList.zipIdx.all fun (char, index) =>
      if index ∈ [8, 13, 18, 23] then char = '-'
      else char.isDigit || ('a' ≤ char && char ≤ 'f')

/-- The directories of a task. -/
structure StagedArtifactTask where
  taskDirectory : ArtifactDirectory
  outputDirectory : ArtifactDirectory
  output : DeclaredOutputArtifact

namespace StagedArtifactTask

/-- The directories that are made for a task. -/
def stage (root : ArtifactDirectory) (taskId : String)
    (output : DeclaredOutputArtifact) :
    Except StagingError StagedArtifactTask := do
  Outcome.require (isTaskId taskId) (.invalidTaskId taskId)
  let taskcage ← root.child ".taskcage"
  let staging ← taskcage.child "staging"
  let taskDirectory ← staging.child taskId
  let artifacts ← taskDirectory.child "artifacts"
  let outputDirectory ← artifacts.child "out"
  return ⟨taskDirectory, outputDirectory, output⟩

/-- The directory in which the target runs. -/
def workingDirectory (staged : StagedArtifactTask) : String :=
  staged.taskDirectory.path

/-- Where the target finds the copy of the input. -/
def inputPath (staged : StagedArtifactTask) : String :=
  joinPath (joinPath (joinPath staged.taskDirectory.path "artifacts") "in")
    "source"

/-- Where the target writes the output. -/
def outputPath (staged : StagedArtifactTask) : String :=
  joinPath staged.outputDirectory.path staged.output.fileName

end StagedArtifactTask

/-! ### Resolution -/

/-- An error that the caller of a Profile is given. -/
structure ProfileError where
  code : UseCaseErrorCode
  message : String
deriving DecidableEq

/-- What a Profile executes once its paths are known. -/
abbrev ProfileExecution : Type :=
  (profileName input output workingDirectory : String) → ResourceBudget →
    ResolvedExecutionPlan

/-- A call that passed all checks of its Profile. -/
structure ResolvedProfile where
  submission : ProfileSubmission
  source : LocalInputArtifact
  output : DeclaredOutputArtifact
  budget : ResourceBudget
  execution : ProfileExecution
  outputSlot : String

/-- What a resolver answers; `expect` on a missing input would be a panic. -/
inductive CapsuleResolution where
  | notFound
  | resolved (profile : ResolvedProfile)
  | panicked (message : String)

/-- A Runtime Package as it is found in the cache: whether its entry point could
be duplicated, and the library paths. -/
structure RuntimePackage where
  entrypoint : Except String ℕ
  environment : Except String (Table String String)

/-- The resolver of installed Capsules, with what the catalog and the package
cache answer. -/
structure InstalledCapsuleResolver where
  maximumArtifactBytes : ℕ
  compile : (name version : String) → Except CapsuleError CompiledCapsule
  packages : Sha256Digest → Except String RuntimePackage

/-- The error of a call that its Capsule does not accept. -/
def profileInvocationError (error : InvocationError) : ProfileError where
  code :=
    match error with
    | .capsuleProfileNotFound _ _ => .profileNotFound
    | .policyRejected _ => .limitExceedsPolicy
    | .invalidCompiledContract _ => .environmentUnavailable
    | .inputValueRejected _ .artifactPath => .invalidArtifactPath
    | .invalidProfileIdentity _ => .invalidProfileInput
    | .duplicateInput _ => .invalidProfileInput
    | .inputSetMismatch _ _ => .invalidProfileInput
    | .inputTypeMismatch _ _ _ => .invalidProfileInput
    | .inputValueRejected _ _ => .invalidProfileInput
    | .invalidResourceOverride _ => .invalidProfileInput
  message := error.message

/-- An error of what the daemon runs on. -/
def ProfileError.unavailable (message : String) : ProfileError where
  code := .environmentUnavailable
  message := message

/-- An argument with the paths of a task put in. -/
def VerifiedArgument.place (input output : String) : VerifiedArgument → String
  | .literal value => value
  | .inputArtifactPath _ => input
  | .outputArtifactPath _ => output

/-- The plan of an installed Capsule, whose program is an open file. -/
def InstalledExecution.intoPlan (entrypoint : ℕ)
    (arguments : List VerifiedArgument) (environment : Table String String) :
    ProfileExecution :=
  fun profileName input output workingDirectory budget =>
    { command :=
        { executable := .pinned entrypoint profileName
          arguments := arguments.map (VerifiedArgument.place input output)
          workingDirectory := workingDirectory
          environment := environment }
      budget := budget }

/-- The call after its verification. -/
def InstalledCapsuleResolver.resolveVerified
    (resolver : InstalledCapsuleResolver) (request : ProfileSubmission)
    (invocation : VerifiedInvocation) :
    Except ProfileError CapsuleResolution :=
  match invocation.inputArtifacts.entries with
  | [] =>
      .ok (.panicked "VerifiedInvocation must contain exactly one LOCAL_INPUT")
  | (_, source) :: _ => do
      let capsule := invocation.capsule
      let package ← (resolver.packages capsule.runtime.digest).mapError
        fun error => .unavailable
          s!"Capsule Runtime Package is unavailable: {error}"
      let entrypoint ← package.entrypoint.mapError fun error => .unavailable
        ("verified Capsule entrypoint descriptor could not be pinned: " ++
          error)
      let environment ← package.environment.mapError fun error => .unavailable
        s!"Capsule Runtime Package library paths are unavailable: {error}"
      let contract := capsule.profile.output
      let output ← (DeclaredOutputArtifact.new contract.fileName
          contract.mediaType
          (min contract.maximumBytes resolver.maximumArtifactBytes)).mapError
        fun error => ⟨.invalidProfileInput, error.message⟩
      return .resolved
        { submission := request
          source := source
          output := output
          budget := invocation.effectiveResources
          execution := InstalledExecution.intoPlan entrypoint
            invocation.arguments environment
          outputSlot := contract.name }

/-- The resolution of a call. -/
def InstalledCapsuleResolver.resolve (resolver : InstalledCapsuleResolver)
    (request : ProfileSubmission) : Except ProfileError CapsuleResolution :=
  match resolver.compile request.call.identity.name
      request.call.identity.version with
  | .error (.legacyBundle (.notFound _ _)) => .ok .notFound
  | .error error =>
      .error (.unavailable
        s!"installed Capsule catalog is unavailable: {error.message}")
  | .ok capsule => do
      let invocation ← (verifyProfileCall capsule request.call).mapError
        profileInvocationError
      resolver.resolveVerified request invocation

/-- The plan of a resolved call in the directories of its task. -/
def ResolvedProfile.intoPlan (profile : ResolvedProfile)
    (staged : StagedArtifactTask) : ResolvedExecutionPlan :=
  profile.execution profile.submission.call.identity.name staged.inputPath
    staged.outputPath staged.workingDirectory profile.budget

/-! ### What the path of the caller decides -/

/-- A value without the path of a file. -/
def withoutPath : ProfileValue → ProfileValue
  | .localInput _ digest sizeBytes => .localInput "" digest sizeBytes
  | .string value => .string value
  | .int64 value => .int64 value
  | .boolean value => .boolean value

/-- A call without the paths of its files. -/
def withoutPaths (call : ProfileCall) : ProfileCall :=
  { call with
    inputs := call.inputs.map fun input => (input.1, withoutPath input.2) }

section Calls

variable {first second : ProfileCall} {slot text : String}
variable {value other : ProfileValue} {argument : BundleProfileArgument}

theorem exists_of_withoutPaths (same : withoutPaths first = withoutPaths second)
    (member : (slot, value) ∈ first.inputs) :
    ∃ other, (slot, other) ∈ second.inputs ∧
      withoutPath value = withoutPath other := by
  have inputs := congrArg ProfileCall.inputs same
  have kept : (slot, withoutPath value) ∈ (withoutPaths second).inputs := by
    rw [← inputs]
    exact List.mem_map_of_mem (f := fun input : String × ProfileValue =>
      (input.1, withoutPath input.2)) member
  obtain ⟨⟨_, other⟩, given, pair⟩ := List.mem_map.mp kept
  rw [Prod.mk.injEq] at pair
  obtain ⟨rfl, hidden⟩ := pair
  exact ⟨other, given, hidden.symm⟩

/-- What is rendered is no path. -/
theorem Renders.of_withoutPath (same : withoutPath value = withoutPath other)
    (renders : Renders value text) : Renders other text := by
  cases value with
  | localInput path digest sizeBytes => cases renders
  | string value =>
      cases other with
      | string other =>
          cases same
          exact renders
      | localInput | int64 | boolean => cases same
  | int64 value =>
      cases other with
      | int64 other =>
          cases same
          exact renders
      | localInput | string | boolean => cases same
  | boolean value =>
      cases other with
      | boolean other =>
          cases same
          exact renders
      | localInput | string | int64 => cases same

theorem Renders.unique {again : String} (renders : Renders value text)
    (also : Renders value again) : text = again := by
  cases value with
  | localInput path digest sizeBytes => cases renders
  | string | int64 | boolean => exact renders.trans also.symm

variable {verified : VerifiedArgument}

/-- An argument stands for the same in a call with other paths. -/
theorem Binds.of_withoutPaths (same : withoutPaths first = withoutPaths second)
    (binds : Binds first argument verified) :
    Binds second argument verified := by
  cases binds with
  | literal value => exact .literal value
  | inputPath slot => exact .inputPath slot
  | outputPath slot => exact .outputPath slot
  | inputValue kind slot text value supplied renders =>
      obtain ⟨other, given, hidden⟩ := exists_of_withoutPaths same supplied
      exact .inputValue kind slot text other given
        (renders.of_withoutPath hidden)

/-- Slots that are supplied once stand for one value. -/
theorem eq_of_distinct (distinct : (call.inputs.map Prod.fst).Nodup)
    (member : (slot, value) ∈ call.inputs)
    (also : (slot, other) ∈ call.inputs) : value = other := by
  have same := List.inj_on_of_nodup_map distinct member also rfl
  cases same
  rfl

theorem Binds.unique {again : VerifiedArgument}
    (distinct : (call.inputs.map Prod.fst).Nodup)
    (binds : Binds call argument verified) (also : Binds call argument again) :
    verified = again := by
  cases binds with
  | literal | inputPath | outputPath =>
      cases also
      rfl
  | inputValue kind slot text value supplied renders =>
      cases also with
      | inputValue _ _ other found given shown =>
          rw [eq_of_distinct distinct given supplied] at shown
          rw [renders.unique shown]

end Calls

/-! ### Resolved calls -/

/-- How a call was resolved. -/
structure Resolves (resolver : InstalledCapsuleResolver)
    (request : ProfileSubmission) (profile : ResolvedProfile)
    (capsule : CompiledCapsule) (invocation : VerifiedInvocation)
    (package : RuntimePackage) (entrypoint : ℕ)
    (environment : Table String String) : Prop where
  compiled : resolver.compile request.call.identity.name
    request.call.identity.version = .ok capsule
  verified : verifyProfileCall capsule request.call = .ok invocation
  found : resolver.packages capsule.runtime.digest = .ok package
  pinned : package.entrypoint = .ok entrypoint
  libraries : package.environment = .ok environment
  output : DeclaredOutputArtifact.new capsule.profile.output.fileName
    capsule.profile.output.mediaType (min capsule.profile.output.maximumBytes
      resolver.maximumArtifactBytes) = .ok profile.output
  submission : profile.submission = request
  budget : profile.budget = invocation.effectiveResources
  execution : profile.execution =
    InstalledExecution.intoPlan entrypoint invocation.arguments environment

theorem capsule_of_verifyProfileCall {capsule : CompiledCapsule}
    {invocation : VerifiedInvocation}
    (verified : verifyProfileCall capsule call = .ok invocation) :
    invocation.capsule = capsule := by
  simp only [verifyProfileCall, Outcome.bind_eq_ok_iff] at verified
  obtain ⟨_, -, _, -, _, -, _, -, _, -, _, -, _, -, _, -, ended⟩ := verified
  cases ended
  rfl

section Resolved

variable {resolver : InstalledCapsuleResolver}
variable {request : ProfileSubmission} {profile : ResolvedProfile}

theorem exists_resolves
    (resolved : resolver.resolve request = .ok (.resolved profile)) :
    ∃ capsule invocation package entrypoint environment,
      Resolves resolver request profile capsule invocation package entrypoint
        environment := by
  unfold InstalledCapsuleResolver.resolve at resolved
  split at resolved
  · cases resolved
  · cases resolved
  · rename_i capsule compiled
    rw [Outcome.bind_eq_ok_iff] at resolved
    obtain ⟨invocation, verified, resolved⟩ := resolved
    rw [Outcome.mapError_eq_ok_iff] at verified
    have same := capsule_of_verifyProfileCall verified
    unfold InstalledCapsuleResolver.resolveVerified at resolved
    split at resolved
    · cases resolved
    · simp only [Outcome.bind_eq_ok_iff, Outcome.mapError_eq_ok_iff, same]
        at resolved
      obtain ⟨package, found, entrypoint, pinned, environment, libraries,
        output, declared, ended⟩ := resolved
      cases ended
      exact ⟨capsule, invocation, package, entrypoint, environment, compiled,
        verified, found, pinned, libraries, declared, rfl, rfl, rfl⟩

/-- An accepted call of a Capsule whose package is there and whose output can be
declared is resolved. -/
theorem resolve_of_verified {capsule : CompiledCapsule}
    {invocation : VerifiedInvocation} {package : RuntimePackage}
    {entrypoint : ℕ} {environment : Table String String}
    {output : DeclaredOutputArtifact}
    (compiled : resolver.compile request.call.identity.name
      request.call.identity.version = .ok capsule)
    (verified : verifyProfileCall capsule request.call = .ok invocation)
    (found : resolver.packages capsule.runtime.digest = .ok package)
    (pinned : package.entrypoint = .ok entrypoint)
    (libraries : package.environment = .ok environment)
    (declared : DeclaredOutputArtifact.new capsule.profile.output.fileName
      capsule.profile.output.mediaType
      (min capsule.profile.output.maximumBytes
        resolver.maximumArtifactBytes) = .ok output) :
    ∃ profile, resolver.resolve request = .ok (.resolved profile) ∧
      profile.output = output := by
  obtain ⟨slot, source, only, -⟩ :=
    (accepted_of_verifyProfileCall verified).oneFile
  have same := capsule_of_verifyProfileCall verified
  refine ⟨⟨request, source, output, invocation.effectiveResources,
    InstalledExecution.intoPlan entrypoint invocation.arguments environment,
    capsule.profile.output.name⟩, ?_, rfl⟩
  unfold InstalledCapsuleResolver.resolve
  rw [compiled]
  simp only [Outcome.bind_eq_ok_iff, Outcome.mapError_eq_ok_iff]
  refine ⟨invocation, verified, ?_⟩
  unfold InstalledCapsuleResolver.resolveVerified
  rw [only]
  simp only [Outcome.bind_eq_ok_iff, Outcome.mapError_eq_ok_iff, same]
  exact ⟨package, found, entrypoint, pinned, environment, libraries, output,
    declared, rfl⟩

end Resolved

/-! ### Texts without NUL -/

theorem nul_notMem_renderInt (value : ℤ) : nul ∉ Json.renderInt value := by
  have digits : ∀ number, nul ∉ Json.renderNat number := by
    intro number member
    have digit := Json.isDigit_of_mem_renderNat member
    cases digit
  cases value with
  | ofNat value => exact digits value
  | negSucc value =>
      rw [Json.renderInt, List.mem_cons, not_or]
      exact ⟨by decide, digits (value + 1)⟩

theorem mem_of_mem_intersperse {Item : Type} {separator item : Item}
    {items : List Item} (member : item ∈ items.intersperse separator) :
    item = separator ∨ item ∈ items := by
  induction items with
  | nil => cases member
  | cons first rest inductionHypothesis =>
      cases rest with
      | nil => exact .inr member
      | cons second rest =>
          rw [List.intersperse_cons_cons, List.mem_cons, List.mem_cons] at member
          rcases member with rfl | rfl | later
          · exact .inr List.mem_cons_self
          · exact .inl rfl
          · exact (inductionHypothesis later).imp_right
              (List.mem_cons_of_mem first)

/-- The name of a Capsule has no NUL. -/
theorem nul_notMem_of_isValidCapsuleName
    (valid : Names.isValidCapsuleName name = true) : nul ∉ name.toList := by
  simp only [Names.isValidCapsuleName, Bool.and_eq_true, List.all_eq_true]
    at valid
  have whole : ['.'].intercalate (name.toList.splitOn '.') = name.toList :=
    List.intercalate_splitOn '.'
  rw [← whole]
  intro member
  obtain ⟨segment, among, inside⟩ := List.mem_flatten.mp member
  rcases mem_of_mem_intersperse among with rfl | isSegment
  · revert inside
    decide
  · have letters := valid.2 segment isSegment
    cases segment with
    | nil => cases inside
    | cons first rest =>
        simp only [Names.validSegment, Bool.and_eq_true, List.all_eq_true]
          at letters
        rcases List.mem_cons.mp inside with rfl | later
        · exact absurd letters.1 (by decide)
        · exact absurd (letters.2 nul later) (by decide)

/-- A text that renders an accepted value has no NUL. -/
theorem Renders.clean {kind : CapsuleInputKind} {value : ProfileValue}
    {text : String} (renders : Renders value text)
    (satisfies : Satisfies kind value) : nul ∉ text.toList := by
  cases value with
  | localInput path digest sizeBytes => cases renders
  | string value =>
      cases renders
      cases kind with
      | string => exact satisfies.2.2
      | localInput => cases satisfies
      | int64 constraint => cases constraint <;> cases satisfies
      | boolean => cases satisfies
  | int64 value =>
      cases renders
      rw [String.toList_ofList]
      exact nul_notMem_renderInt value
  | boolean value =>
      cases renders
      cases value <;> decide

/-! ### Plans -/

/-- The words that the program is started with. -/
def argv (command : ResolvedCommand) : List String :=
  match command.executable with
  | .path program => program :: command.arguments
  | .pinned _ argv0 => argv0 :: command.arguments

/-- Where a word for an argument of the template may come from: the template,
a declared scalar, or the paths of the daemon. -/
inductive Placed (call : ProfileCall) (input output : String) :
    BundleProfileArgument → String → Prop where
  | literal (value : String) : Placed call input output (.literal value) value
  | scalar (kind : BundleProfileInputValueKind) (slot text : String)
      (value : ProfileValue) (supplied : (slot, value) ∈ call.inputs)
      (renders : Renders value text) :
      Placed call input output (.inputValue kind slot) text
  | inputPath (slot : String) : Placed call input output (.inputPath slot) input
  | outputPath (slot : String) :
      Placed call input output (.outputPath slot) output

theorem Binds.placed {argument : BundleProfileArgument}
    {verified : VerifiedArgument} (binds : Binds call argument verified)
    (input output : String) :
    Placed call input output argument (verified.place input output) := by
  cases binds with
  | literal value => exact .literal value
  | inputPath slot => exact .inputPath slot
  | outputPath slot => exact .outputPath slot
  | inputValue kind slot text value supplied renders =>
      exact .scalar kind slot text value supplied renders

section Accepted

variable {capsule : CompiledCapsule} {invocation : VerifiedInvocation}

theorem Accepted.literal_clean (accepted : Accepted capsule call invocation)
    {value : String} (member : .literal value ∈ capsule.profile.arguments) :
    nul ∉ value.toList := by
  obtain ⟨verified, -, bound⟩ := Outcome.exists_right_of_mem
    (Outcome.mapM_eq_ok_iff.mp accepted.arguments) member
  rw [bindArgument, Outcome.seq_eq_ok_iff, Outcome.require_eq_ok_iff,
    validLiteral_iff] at bound
  exact bound.1.2.2

/-- No word of an accepted call has a NUL. -/
theorem Accepted.placed_clean (accepted : Accepted capsule call invocation)
    (admissible : Admissible capsule call) {input output text : String}
    (inputClean : nul ∉ input.toList) (outputClean : nul ∉ output.toList)
    {argument : BundleProfileArgument}
    (member : argument ∈ capsule.profile.arguments)
    (placed : Placed call input output argument text) :
    nul ∉ text.toList := by
  cases placed with
  | literal => exact accepted.literal_clean member
  | inputPath slot => exact inputClean
  | outputPath slot => exact outputClean
  | scalar kind slot _ value supplied renders =>
      obtain ⟨declared, among, named⟩ := List.mem_map.mp
        ((admissible.declared slot).mp (List.mem_map_of_mem supplied))
      have supplied : (declared.name, value) ∈ call.inputs := by
        rw [named]
        exact supplied
      exact renders.clean (admissible.values declared among value supplied)

theorem Accepted.name_clean (accepted : Accepted capsule call invocation) :
    nul ∉ call.identity.name.toList := by
  have identity := accepted.identity
  rw [validateRequestedIdentity, Outcome.seq_eq_ok_iff,
    Outcome.require_eq_ok_iff] at identity
  exact nul_notMem_of_isValidCapsuleName identity.1

end Accepted

namespace StagedArtifactTask

variable {staged : StagedArtifactTask} {root : ArtifactDirectory}
variable {taskId : String} {output : DeclaredOutputArtifact}

theorem output_of_stage (stages : stage root taskId output = .ok staged) :
    staged.output = output := by
  simp only [stage, Outcome.bind_eq_ok_iff] at stages
  obtain ⟨_, -, _, -, _, -, _, -, _, -, _, -, ended⟩ := stages
  cases ended
  rfl

theorem inputPath_absolute (staged : StagedArtifactTask) :
    staged.inputPath.toList.head? = some '/' :=
  head_joinPath (head_joinPath (head_joinPath staged.taskDirectory.absolute))

theorem outputPath_absolute (staged : StagedArtifactTask) :
    staged.outputPath.toList.head? = some '/' :=
  head_joinPath staged.outputDirectory.absolute

theorem inputPath_clean (staged : StagedArtifactTask) :
    nul ∉ staged.inputPath.toList := by
  apply clean_joinPath
  · apply clean_joinPath
    · exact clean_joinPath staged.taskDirectory.clean (by decide)
    · decide
  · decide

theorem outputPath_clean
    (valid : validOutputFileName staged.output.fileName = true) :
    nul ∉ staged.outputPath.toList := by
  apply clean_joinPath staged.outputDirectory.clean
  intro member
  simp only [validOutputFileName, Bool.and_eq_true, Bool.not_eq_true',
    List.any_eq_false] at valid
  exact valid.2 nul member (by decide)

end StagedArtifactTask

theorem validOutputFileName_of_new {fileName mediaType : String}
    {maximumBytes : ℕ} {output : DeclaredOutputArtifact}
    (declared : DeclaredOutputArtifact.new fileName mediaType maximumBytes =
      .ok output) :
    validOutputFileName output.fileName = true := by
  simp only [DeclaredOutputArtifact.new, Outcome.bind_eq_ok_iff,
    Outcome.require_eq_ok_iff] at declared
  obtain ⟨_, valid, _, -, _, -, ended⟩ := declared
  cases ended
  exact valid

/-- A resolver that finds only what the catalog has compiled. -/
def InstalledCapsuleResolver.Honest (resolver : InstalledCapsuleResolver) :
    Prop :=
  ∀ name version capsule, resolver.compile name version = .ok capsule →
    capsule.IsCompiled

section Plans

variable {resolver : InstalledCapsuleResolver}
variable {request other : ProfileSubmission}
variable {profile otherProfile : ResolvedProfile}
variable {root : ArtifactDirectory} {taskId : String}
variable {staged otherStaged : StagedArtifactTask}

/-- Every word of a plan comes from the template, from a declared scalar or
from the daemon, and none has a NUL. -/
theorem placed_of_resolve (honest : resolver.Honest)
    (resolved : resolver.resolve request = .ok (.resolved profile))
    (stages : StagedArtifactTask.stage root taskId profile.output =
      .ok staged) :
    ∃ capsule, resolver.compile request.call.identity.name
        request.call.identity.version = .ok capsule ∧
      List.Forall₂ (Placed request.call staged.inputPath staged.outputPath)
        capsule.profile.arguments (profile.intoPlan staged).command.arguments ∧
      ∀ word ∈ argv (profile.intoPlan staged).command, nul ∉ word.toList := by
  obtain ⟨capsule, invocation, package, entrypoint, environment, resolves⟩ :=
    exists_resolves resolved
  have accepted := accepted_of_verifyProfileCall resolves.verified
  have admissible := accepted.admissible (honest _ _ _ resolves.compiled)
  have words : (profile.intoPlan staged).command.arguments =
      invocation.arguments.map
        (VerifiedArgument.place staged.inputPath staged.outputPath) := by
    rw [ResolvedProfile.intoPlan, resolves.execution]
    rfl
  have placed : List.Forall₂
      (Placed request.call staged.inputPath staged.outputPath)
      capsule.profile.arguments
      (profile.intoPlan staged).command.arguments := by
    rw [words, List.forall₂_map_right_iff]
    apply List.Forall₂.imp _ accepted.binds
    intro argument verified binds
    exact binds.placed staged.inputPath staged.outputPath
  refine ⟨capsule, resolves.compiled, placed, ?_⟩
  have named : argv (profile.intoPlan staged).command =
      request.call.identity.name ::
        (profile.intoPlan staged).command.arguments := by
    rw [ResolvedProfile.intoPlan, resolves.execution, resolves.submission]
    rfl
  have outputClean : nul ∉ staged.outputPath.toList := by
    apply StagedArtifactTask.outputPath_clean
    rw [StagedArtifactTask.output_of_stage stages]
    exact validOutputFileName_of_new resolves.output
  rw [named]
  intro word member
  rcases List.mem_cons.mp member with rfl | among
  · exact accepted.name_clean
  · obtain ⟨argument, isArgument, comes⟩ :=
      Outcome.exists_left_of_mem placed among
    exact accepted.placed_clean admissible staged.inputPath_clean outputClean
      isArgument comes

/-- Calls that differ in paths only have the same arguments and the same
budget. -/
theorem eq_of_withoutPaths {capsule : CompiledCapsule}
    {first second : ProfileCall} {invocation again : VerifiedInvocation}
    (same : withoutPaths first = withoutPaths second)
    (accepted : Accepted capsule first invocation)
    (also : Accepted capsule second again) :
    invocation.arguments = again.arguments ∧
      invocation.effectiveResources = again.effectiveResources := by
  constructor
  · have distinct := (supplied_of_collectInputs also.values).1
    have binds : List.Forall₂ (Binds second) capsule.profile.arguments
        invocation.arguments :=
      accepted.binds.imp fun _ _ binds => binds.of_withoutPaths same
    have unique : Relator.RightUnique (Binds second) :=
      fun _ _ _ => Binds.unique distinct
    exact unique.forall₂ binds also.binds
  · have overrides := congrArg ProfileCall.resourceOverrides same
    have resources := accepted.resources
    rw [show first.resourceOverrides = second.resourceOverrides from overrides,
      also.resources] at resources
    exact (Except.ok.inj resources).symm

/-- The path under which the caller names the input does not reach the target:
two calls that differ in it alone give the same words, environment, directory
and budget.  Every argument comes from the template, from a declared scalar or
is one of two absolute paths of the daemon, and no word has a NUL. -/
theorem intoPlan_independent_of_path (honest : resolver.Honest)
    (same : withoutPaths request.call = withoutPaths other.call)
    (resolved : resolver.resolve request = .ok (.resolved profile))
    (otherResolved : resolver.resolve other = .ok (.resolved otherProfile))
    (stages : StagedArtifactTask.stage root taskId profile.output = .ok staged)
    (inputs : staged.inputPath = otherStaged.inputPath)
    (outputs : staged.outputPath = otherStaged.outputPath)
    (directories : staged.workingDirectory = otherStaged.workingDirectory) :
    (argv (profile.intoPlan staged).command =
        argv (otherProfile.intoPlan otherStaged).command ∧
      (profile.intoPlan staged).command.environment =
        (otherProfile.intoPlan otherStaged).command.environment ∧
      (profile.intoPlan staged).command.workingDirectory =
        (otherProfile.intoPlan otherStaged).command.workingDirectory ∧
      (profile.intoPlan staged).budget =
        (otherProfile.intoPlan otherStaged).budget) ∧
    staged.inputPath.toList.head? = some '/' ∧
    staged.outputPath.toList.head? = some '/' ∧
    ∃ capsule, resolver.compile request.call.identity.name
        request.call.identity.version = .ok capsule ∧
      List.Forall₂ (Placed request.call staged.inputPath staged.outputPath)
        capsule.profile.arguments (profile.intoPlan staged).command.arguments ∧
      ∀ word ∈ argv (profile.intoPlan staged).command, nul ∉ word.toList := by
  refine ⟨?_, staged.inputPath_absolute, staged.outputPath_absolute,
    placed_of_resolve honest resolved stages⟩
  obtain ⟨capsule, invocation, package, entrypoint, environment, resolves⟩ :=
    exists_resolves resolved
  obtain ⟨found, again, otherPackage, descriptor, libraries, alsoResolves⟩ :=
    exists_resolves otherResolved
  have identity : request.call.identity = other.call.identity := by
    have hidden := congrArg ProfileCall.identity same
    exact hidden
  have compiled := resolves.compiled
  rw [identity, alsoResolves.compiled] at compiled
  cases compiled
  have package := resolves.found
  rw [alsoResolves.found] at package
  cases package
  have environments := resolves.libraries
  rw [alsoResolves.libraries] at environments
  cases environments
  obtain ⟨arguments, budgets⟩ := eq_of_withoutPaths same
    (accepted_of_verifyProfileCall resolves.verified)
    (accepted_of_verifyProfileCall alsoResolves.verified)
  simp only [ResolvedProfile.intoPlan, resolves.execution,
    alsoResolves.execution, resolves.submission, alsoResolves.submission,
    resolves.budget, alsoResolves.budget, InstalledExecution.intoPlan, argv,
    identity, arguments, budgets, inputs, outputs, directories, and_self]

end Plans

/-- A host on which the audio Capsule and its package are installed. -/
def audioResolver : InstalledCapsuleResolver where
  maximumArtifactBytes := 1024
  compile := fun name version =>
    if name = "ffmpeg-audio-to-wav" && version = "1.0.0" then .ok audioCapsule
    else .error (.legacyBundle (.notFound name version))
  packages := fun _ => .ok ⟨.ok 5, .ok ∅⟩

theorem honest_audioResolver : audioResolver.Honest := by
  intro name version capsule compiled
  simp only [audioResolver] at compiled
  split at compiled
  · cases compiled
    exact isCompiled_audioCapsule
  · cases compiled

theorem exists_resolved_audio {path : String}
    (valid : checkArtifactPath path = .ok ()) :
    ∃ profile, audioResolver.resolve ⟨"request", audioCall path⟩ =
        .ok (.resolved profile) ∧
      profile.output = ⟨"result.wav", "audio/wav", 1024⟩ := by
  obtain ⟨invocation, verified⟩ := exists_accepted isCompiled_audioCapsule
    (admissible_audioCall valid)
  exact resolve_of_verified (by rfl) verified rfl rfl rfl (by decide +kernel)

theorem intoPlan_independent_of_path_audio :
    ∃ profile other staged,
      audioResolver.resolve ⟨"request", audioCall "first.mp3"⟩ =
        .ok (.resolved profile) ∧
      audioResolver.resolve ⟨"request", audioCall "music/second.mp3"⟩ =
        .ok (.resolved other) ∧
      StagedArtifactTask.stage ArtifactDirectory.top
        "00000000-0000-4000-8000-000000000000" profile.output = .ok staged ∧
      argv (profile.intoPlan staged).command =
        argv (other.intoPlan staged).command := by
  obtain ⟨profile, resolved, output⟩ : ∃ profile,
      audioResolver.resolve ⟨"request", audioCall "first.mp3"⟩ =
          .ok (.resolved profile) ∧
        profile.output = ⟨"result.wav", "audio/wav", 1024⟩ :=
    exists_resolved_audio (by decide +kernel)
  obtain ⟨other, otherResolved, -⟩ : ∃ profile,
      audioResolver.resolve ⟨"request", audioCall "music/second.mp3"⟩ =
          .ok (.resolved profile) ∧
        profile.output = ⟨"result.wav", "audio/wav", 1024⟩ :=
    exists_resolved_audio (by decide +kernel)
  obtain ⟨staged, stages⟩ : ∃ staged, StagedArtifactTask.stage
      ArtifactDirectory.top "00000000-0000-4000-8000-000000000000"
      profile.output = .ok staged := by
    rw [output]
    exact ⟨_, rfl⟩
  have same : withoutPaths (audioCall "first.mp3") =
      withoutPaths (audioCall "music/second.mp3") := rfl
  exact ⟨profile, other, staged, resolved, otherResolved, stages,
    (intoPlan_independent_of_path honest_audioResolver same resolved
      otherResolved stages rfl rfl rfl).1.1⟩

end Capsule
end TaskCage
