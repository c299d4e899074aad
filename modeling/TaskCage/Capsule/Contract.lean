import TaskCage.Capsule.ArtifactValues
import TaskCage.Capsule.Compiled
import TaskCage.Foundation.OrderedTable
import Mathlib.Data.String.Basic

/-!
# Verification of Profile calls

A call is compared with the contract of its Capsule before anything is opened
or started.  The result has the values, the arguments and the effective budget
of the invocation.
-/

namespace TaskCage
namespace Capsule

/-! ### Errors -/

/-- Why a value of the right kind is rejected. -/
inductive InputValueRejection where
  | int64Constraint
  | stringConstraint
  | artifactPath
  | artifactDigest
deriving DecidableEq

/-- The text of a rejection. -/
def InputValueRejection.message : InputValueRejection → String
  | int64Constraint => "value is outside the declared INT64 contract"
  | stringConstraint => "STRING must contain 1..=4096 non-NUL UTF-8 bytes"
  | artifactPath => "LOCAL_INPUT path declaration is invalid"
  | artifactDigest => "LOCAL_INPUT digest declaration is invalid"

/-- Why a call is rejected. -/
inductive InvocationError where
  | invalidProfileIdentity (reason : String)
  | capsuleProfileNotFound (name version : String)
  | duplicateInput (input : String)
  | inputSetMismatch (missing unknown : List String)
  | inputTypeMismatch (input expected actual : String)
  | inputValueRejected (input : String) (rejection : InputValueRejection)
  | invalidResourceOverride (reason : String)
  | policyRejected (reason : String)
  | invalidCompiledContract (reason : String)
deriving DecidableEq

/-- The text of an error. -/
def InvocationError.message : InvocationError → String
  | invalidProfileIdentity reason => s!"invalid Profile identity: {reason}"
  | capsuleProfileNotFound name version =>
      s!"Capsule/Profile {name}@{version} is not the compiled exact identity"
  | duplicateInput input => s!"input {input} was supplied more than once"
  | inputSetMismatch missing unknown =>
      "Profile input set mismatch: missing=" ++ Text.quoteList missing ++
        ", unknown=" ++ Text.quoteList unknown
  | inputTypeMismatch input expected actual =>
      s!"input {input} must be {expected}, actual={actual}"
  | inputValueRejected input rejection =>
      s!"input {input} was rejected: {rejection.message}"
  | invalidResourceOverride reason => s!"invalid resource override: {reason}"
  | policyRejected reason =>
      s!"resource override rejected by Capsule policy: {reason}"
  | invalidCompiledContract reason =>
      s!"invalid compiled Capsule contract: {reason}"

/-! ### Identities and structure -/

/-- Whether a text is `MAJOR.MINOR.PATCH`, with numbers of any length. -/
def validProfileVersion (value : String) : Bool :=
  (value.toList.splitOn '.').all Decimal.isNumeral &&
    (value.toList.splitOn '.').length = 3

/-- The check of the identity that a call names. -/
def validateRequestedIdentity (identity : ProfileIdentity) :
    Except InvocationError Unit := do
  Outcome.require (Names.isValidCapsuleName identity.name)
    (.invalidProfileIdentity
      ("name must use dot-separated [a-z][a-z0-9-]* segments " ++
        "(maximum 63 bytes)"))
  Outcome.require (validProfileVersion identity.version)
    (.invalidProfileIdentity "version must be strict MAJOR.MINOR.PATCH")

/-- The loop over the inputs of a contract, which ends with the number of files
among them. -/
def validateCompiledInputs (names : List String) (localInputs : ℕ) :
    List CapsuleInput → Except InvocationError ℕ
  | [] => .ok localInputs
  | input :: rest => do
      Outcome.require
        (input.required && Names.validateSlot input.name &&
          !names.contains input.name)
        (.invalidCompiledContract
          "Profile inputs must be required, valid, and unique")
      validateCompiledInputs (input.name :: names)
        (if input.kind = .localInput then localInputs + 1 else localInputs)
        rest

/-- The check of a contract. -/
def validateCompiledStructure (capsule : CompiledCapsule) :
    Except InvocationError Unit := do
  let profile := capsule.profile
  Outcome.require
    (capsule.identity.name = profile.identity.name &&
      capsule.identity.version = profile.identity.version)
    (.invalidCompiledContract "Capsule and Profile identities do not match")
  Outcome.require (1 ≤ profile.inputs.length && profile.inputs.length ≤ 32)
    (.invalidCompiledContract "Profile must declare 1..=32 inputs")
  let localInputs ← validateCompiledInputs [] 0 profile.inputs
  Outcome.require (localInputs = 1)
    (.invalidCompiledContract "Profile must declare exactly one LOCAL_INPUT")
  Outcome.require (Names.validateSlot profile.output.name)
    (.invalidCompiledContract "Profile output slot is invalid")
  Outcome.require
    (1 ≤ profile.arguments.length && profile.arguments.length ≤ 128)
    (.invalidCompiledContract "Profile argv must contain 1..=128 nodes")
  validateOverrides
    (.invalidCompiledContract
      "resource override allowlist contains an invalid field")
    [] profile.allowedOverrides

/-! ### Inputs -/

/-- The name of the kind of a value. -/
def kindName : ProfileValue → String
  | .string _ => "STRING"
  | .int64 _ => "INT64"
  | .boolean _ => "BOOLEAN"
  | .localInput _ _ _ => "LOCAL_INPUT"

/-- The supplied values by their slots. -/
abbrev Values : Type :=
  OrderedTable String ProfileValue

/-- The files among the inputs by their slots. -/
abbrev InputArtifacts : Type :=
  OrderedTable String LocalInputArtifact

/-- The values of a call, each slot once. -/
def collectInputs (values : Values) :
    List (String × ProfileValue) → Except InvocationError Values
  | [] => .ok values
  | (name, value) :: rest =>
      if (values.lookup name).isSome then .error (.duplicateInput name)
      else collectInputs (values.insert name value) rest

/-- The slots of the values are those of the contract. -/
def validateExactInputSet (declarations : List CapsuleInput)
    (values : Values) : Except InvocationError Unit :=
  let declared := (declarations.map CapsuleInput.name).dedup.mergeSort
  let supplied := values.entries.map Prod.fst
  let missing := declared.filter fun name => !supplied.contains name
  let unknown := supplied.filter fun name => !declared.contains name
  Outcome.require (missing.isEmpty && unknown.isEmpty)
    (.inputSetMismatch missing unknown)

/-- The check of one value; a file gives an artifact. -/
def checkInputValue (input : CapsuleInput) (value : ProfileValue) :
    Except InvocationError (Option LocalInputArtifact) :=
  match input.kind, value with
  | .localInput, .localInput path digest sizeBytes =>
      match ArtifactPath.parse path with
      | .error _ => .error (.inputValueRejected input.name .artifactPath)
      | .ok path =>
          match Sha256Digest.fromStr digest with
          | none => .error (.inputValueRejected input.name .artifactDigest)
          | some digest => .ok (some ⟨path, digest, sizeBytes⟩)
  | .int64 constraint, .int64 value =>
      if constraint.allows value then .ok none
      else .error (.inputValueRejected input.name .int64Constraint)
  | .string, .string value =>
      if validLiteral value then .ok none
      else .error (.inputValueRejected input.name .stringConstraint)
  | .boolean, .boolean _ => .ok none
  | expected, actual =>
      .error (.inputTypeMismatch input.name expected.schemaName
        (kindName actual))

/-- The loop over the inputs of the contract. -/
def validateInputValues (values : Values) (artifacts : InputArtifacts) :
    List CapsuleInput → Except InvocationError InputArtifacts
  | [] => .ok artifacts
  | input :: rest =>
      match values.lookup input.name with
      | none =>
          .error (.invalidCompiledContract
            "exact input set validation lost a declared input")
      | some value => do
          let artifact ← checkInputValue input value
          validateInputValues values
            (match artifact with
              | some artifact => artifacts.insert input.name artifact
              | none => artifacts)
            rest

/-! ### Arguments -/

/-- An argument of a verified call. -/
inductive VerifiedArgument where
  | literal (value : String)
  | inputArtifactPath (slot : String)
  | outputArtifactPath (slot : String)
deriving DecidableEq

/-- The kind that the contract declares for a slot. -/
def CompiledCapsuleProfile.declaration (profile : CompiledCapsuleProfile)
    (slot : String) : Option CapsuleInputKind :=
  (profile.inputs.reverse.find? fun input => input.name = slot).map
    CapsuleInput.kind

/-- Whether a scalar argument takes inputs of the declared kind. -/
def argumentKindMatchesDeclaration (kind : BundleProfileInputValueKind)
    (declaration : Option CapsuleInputKind) : Bool :=
  match kind, declaration with
  | .string, some .string => true
  | .int64, some (.int64 _) => true
  | .boolean, some .boolean => true
  | _, _ => false

/-- The text of a scalar value as an argument. -/
def scalarText (kind : BundleProfileInputValueKind) (value : ProfileValue) :
    Option String :=
  match kind, value with
  | .string, .string value => some value
  | .int64, .int64 value => some (String.ofList (Json.renderInt value))
  | .boolean, .boolean value => some (if value then "true" else "false")
  | _, _ => none

/-- The verified form of an argument. -/
def bindArgument (profile : CompiledCapsuleProfile) (values : Values)
    (artifacts : InputArtifacts) :
    BundleProfileArgument → Except InvocationError VerifiedArgument
  | .literal value => do
      Outcome.require (validLiteral value)
        (.invalidCompiledContract "argv literal is invalid")
      return .literal value
  | .inputPath slot => do
      Outcome.require
        (profile.declaration slot = some .localInput &&
          (artifacts.lookup slot).isSome)
        (.invalidCompiledContract
          s!"argv input path references invalid slot {slot}")
      return .inputArtifactPath slot
  | .inputValue kind slot => do
      Outcome.require
        (argumentKindMatchesDeclaration kind (profile.declaration slot))
        (.invalidCompiledContract
          s!"argv scalar kind does not match input {slot}")
      match values.lookup slot with
      | none =>
          .error (.invalidCompiledContract
            s!"argv references missing input {slot}")
      | some value =>
          match scalarText kind value with
          | none =>
              .error (.invalidCompiledContract
                s!"argv scalar value does not match input {slot}")
          | some text => .ok (.literal text)
  | .outputPath slot => do
      Outcome.require (slot = profile.output.name)
        (.invalidCompiledContract
          s!"argv output path references invalid slot {slot}")
      return .outputArtifactPath slot

/-- The arguments of a call. -/
def bindArguments (profile : CompiledCapsuleProfile) (values : Values)
    (artifacts : InputArtifacts) :
    Except InvocationError (List VerifiedArgument) :=
  profile.arguments.mapM (bindArgument profile values artifacts)

/-! ### Resources -/

/-- Whether nothing is overridden. -/
def isEmptyOverrides (overrides : ProfileResourceOverrides) : Bool :=
  overrides.cpuMax.isNone && overrides.memoryMaxBytes.isNone &&
    overrides.pidsMax.isNone && overrides.wallTimeLimitMs.isNone &&
    overrides.stdoutTailMaxBytes.isNone &&
    overrides.stderrTailMaxBytes.isNone

/-- The fields that are overridden. -/
def requestedFields (overrides : ProfileResourceOverrides) : List String :=
  [("limits.cpuMax", overrides.cpuMax.isSome),
    ("limits.memoryMaxBytes", overrides.memoryMaxBytes.isSome),
    ("limits.pidsMax", overrides.pidsMax.isSome),
    ("limits.wallTimeLimitMs", overrides.wallTimeLimitMs.isSome),
    ("output.stdoutTailMaxBytes", overrides.stdoutTailMaxBytes.isSome),
    ("output.stderrTailMaxBytes",
      overrides.stderrTailMaxBytes.isSome)].filterMap
    fun (field, requested) => if requested then some field else none

/-- Only fields on the list may be overridden. -/
def validateOverrideAllowlist (allowed : List String)
    (overrides : ProfileResourceOverrides) : Except InvocationError Unit :=
  match (requestedFields overrides).find? fun field =>
      !allowed.contains field with
  | some field => .error (.policyRejected s!"field {field} is not allowed")
  | none => .ok ()

/-- The numbers of a policy with the overridden ones replaced. -/
def overriddenNumbers (policy : BundleResourcePolicy)
    (overrides : ProfileResourceOverrides) : BudgetNumbers where
  quotaMicros := (overrides.cpuMax.map CpuMaxOverride.quotaMicros).getD
    policy.limits.cpuMax.quotaMicros
  periodMicros := (overrides.cpuMax.map CpuMaxOverride.periodMicros).getD
    policy.limits.cpuMax.periodMicros
  memoryMaxBytes := overrides.memoryMaxBytes.getD policy.limits.memoryMaxBytes
  pidsMax := overrides.pidsMax.getD policy.limits.pidsMax
  wallTimeLimitMs :=
    overrides.wallTimeLimitMs.getD policy.limits.wallTimeLimitMs
  stdoutTailMaxBytes :=
    overrides.stdoutTailMaxBytes.getD policy.output.stdoutTailMaxBytes
  stderrTailMaxBytes :=
    overrides.stderrTailMaxBytes.getD policy.output.stderrTailMaxBytes

/-- A budget from numbers, with the error that a failure is reported as. -/
def budgetOf (numbers : BudgetNumbers)
    (report : PolicyError → InvocationError) :
    Except InvocationError ResourceBudget :=
  match ResourceBudget.tryNew numbers with
  | .ok budget => .ok budget
  | .error error => .error (report error)

/-- The effective budget of a call. -/
def resolveResources (profile : CompiledCapsuleProfile)
    (overrides : Option ProfileResourceOverrides) :
    Except InvocationError ResourceBudget := do
  let policy := profile.resourcePolicy
  let maximum ← budgetOf policy.numbers fun error =>
    .invalidCompiledContract s!"resource policy is invalid: {error.message}"
  match overrides with
  | none => .ok maximum
  | some overrides => do
      Outcome.require (!isEmptyOverrides overrides)
        (.invalidResourceOverride "at least one resource field is required")
      let requested ← budgetOf (overriddenNumbers policy overrides) fun error =>
        .invalidResourceOverride error.message
      validateOverrideAllowlist profile.allowedOverrides overrides
      match requested.validateWithinMaximum maximum with
      | .error violation => .error (.policyRejected violation.message)
      | .ok () => .ok requested

/-! ### Calls -/

/-- What a verified call is. -/
structure VerifiedInvocation where
  capsule : CompiledCapsule
  profileIdentity : ProfileIdentity
  values : Values
  inputArtifacts : InputArtifacts
  arguments : List VerifiedArgument
  effectiveResources : ResourceBudget

/-- The verification of a call. -/
def verifyProfileCall (capsule : CompiledCapsule) (call : ProfileCall) :
    Except InvocationError VerifiedInvocation := do
  validateRequestedIdentity call.identity
  validateCompiledStructure capsule
  let profile := capsule.profile
  Outcome.require
    (call.identity.name = capsule.identity.name &&
      call.identity.version = capsule.identity.version &&
      call.identity.name = profile.identity.name &&
      call.identity.version = profile.identity.version)
    (.capsuleProfileNotFound call.identity.name call.identity.version)
  let values ← collectInputs .empty call.inputs
  validateExactInputSet profile.inputs values
  let inputArtifacts ← validateInputValues values .empty profile.inputs
  let arguments ← bindArguments profile values inputArtifacts
  let effectiveResources ← resolveResources profile call.resourceOverrides
  return ⟨capsule, call.identity, values, inputArtifacts, arguments,
    effectiveResources⟩

end Capsule
end TaskCage
