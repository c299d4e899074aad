import TaskCage.Capsule.Soundness

/-!
# The calls that are accepted

`Admissible` says which calls a Capsule is meant to accept, in terms of the call
and of what the Profile declares.  A Capsule that was compiled from a Bundle
accepts exactly these, and binds its arguments one by one.
-/

namespace TaskCage
namespace Capsule

/-! ### What is meant -/

/-- The value has the declared kind and satisfies its constraint. -/
def Satisfies : CapsuleInputKind → ProfileValue → Prop
  | .localInput, .localInput path digest _ =>
      checkArtifactPath path = .ok () ∧ Names.validDigest digest = true
  | .int64 (.allowedValues values), .int64 value => value ∈ values
  | .int64 (.range minimum maximum), .int64 value =>
      minimum ≤ value ∧ value ≤ maximum
  | .string, .string value =>
      1 ≤ value.utf8ByteSize ∧ value.utf8ByteSize ≤ 4096 ∧
        Char.ofNat 0 ∉ value.toList
  | .boolean, .boolean _ => True
  | _, _ => False

/-- The overrides name at least one field, only fields of the list, and give a
valid budget within the policy of the Capsule. -/
def OverridesAdmissible (profile : CompiledCapsuleProfile) :
    Option ProfileResourceOverrides → Prop
  | none => True
  | some overrides =>
      isEmptyOverrides overrides = false ∧
        (∀ field ∈ requestedFields overrides,
          field ∈ profile.allowedOverrides) ∧
        ∃ requested maximum : ResourceBudget,
          maximum.numbers = profile.resourcePolicy.numbers ∧
            requested.numbers =
              overriddenNumbers profile.resourcePolicy overrides ∧
            requested.Within maximum

/-- The calls that a Capsule is meant to accept. -/
structure Admissible (capsule : CompiledCapsule) (call : ProfileCall) :
    Prop where
  name : call.identity.name = capsule.identity.name
  version : call.identity.version = capsule.identity.version
  distinct : (call.inputs.map Prod.fst).Nodup
  declared : ∀ slot, slot ∈ call.inputs.map Prod.fst ↔
    slot ∈ capsule.profile.inputs.map CapsuleInput.name
  values : ∀ input ∈ capsule.profile.inputs, ∀ value,
    (input.name, value) ∈ call.inputs → Satisfies input.kind value
  overrides : OverridesAdmissible capsule.profile call.resourceOverrides

/-- The text of a scalar value: decimal for numbers, and texts as they are. -/
def Renders : ProfileValue → String → Prop
  | .string value, text => text = value
  | .int64 value, text => text = String.ofList (Json.renderInt value)
  | .boolean value, text => text = if value then "true" else "false"
  | .localInput _ _ _, _ => False

/-- An argument of the template and what it stands for in a call. -/
inductive Binds (call : ProfileCall) :
    BundleProfileArgument → VerifiedArgument → Prop where
  | literal (value : String) : Binds call (.literal value) (.literal value)
  | inputPath (slot : String) :
      Binds call (.inputPath slot) (.inputArtifactPath slot)
  | inputValue (kind : BundleProfileInputValueKind) (slot text : String)
      (value : ProfileValue) (supplied : (slot, value) ∈ call.inputs)
      (renders : Renders value text) :
      Binds call (.inputValue kind slot) (.literal text)
  | outputPath (slot : String) :
      Binds call (.outputPath slot) (.outputArtifactPath slot)

/-! ### Values -/

/-- The listed numbers of an input are ascending. -/
def CapsuleInputKind.Ordered (kind : CapsuleInputKind) : Prop :=
  ∀ values, kind = .int64 (.allowedValues values) → values.Pairwise (· < ·)

theorem validLiteral_iff {value : String} :
    validLiteral value = true ↔
      1 ≤ value.utf8ByteSize ∧ value.utf8ByteSize ≤ 4096 ∧
        Char.ofNat 0 ∉ value.toList := by
  have filled : value ≠ "" ↔ 1 ≤ value.utf8ByteSize := by
    rw [Nat.one_le_iff_ne_zero, ne_eq, ne_eq, not_iff_not]
    exact String.utf8ByteSize_eq_zero_iff.symm
  simp only [validLiteral, Bool.and_eq_true, decide_eq_true_eq,
    Bool.not_eq_true', ← Bool.not_eq_true, List.contains_iff_mem, filled,
    and_assoc]

theorem ArtifactPath.parse_ok_iff {value : String} :
    (∃ path, ArtifactPath.parse value = .ok path) ↔
      checkArtifactPath value = .ok () := by
  unfold ArtifactPath.parse
  constructor
  · rintro ⟨path, parsed⟩
    split at parsed
    · assumption
    · cases parsed
  · intro checked
    split
    · exact ⟨_, rfl⟩
    · rename_i error failed
      rw [checked] at failed
      cases failed

variable {value : ProfileValue} {values : Values} {artifacts : InputArtifacts}
variable {input : CapsuleInput} {supply : List (String × ProfileValue)}
variable {final : InputArtifacts} {inputs : List CapsuleInput}
variable {profile : CompiledCapsuleProfile} {capsule : CompiledCapsule}

/-- A value passes its check exactly if it satisfies what is declared. -/
theorem checkInputValue_ok_iff (ordered : input.kind.Ordered) :
    (∃ artifact, checkInputValue input value = .ok artifact) ↔
      Satisfies input.kind value := by
  obtain ⟨name, required, kind⟩ := input
  cases kind with
  | localInput =>
      cases value with
      | localInput path digest sizeBytes =>
          simp only [checkInputValue, Satisfies]
          rw [← ArtifactPath.parse_ok_iff]
          unfold Sha256Digest.fromStr
          cases ArtifactPath.parse path with
          | error error => simp
          | ok parsed =>
              by_cases valid : Names.validDigest digest = true
              · simp [valid]
              · simp [valid]
      | string | int64 | boolean => simp [checkInputValue, Satisfies]
  | string =>
      cases value with
      | string value =>
          simp only [checkInputValue, Satisfies, ← validLiteral_iff]
          by_cases valid : validLiteral value = true
          · simp [valid]
          · simp [valid]
      | localInput | int64 | boolean => simp [checkInputValue, Satisfies]
  | int64 constraint =>
      cases value with
      | int64 value =>
          have allowed : constraint.allows value = true ↔
              Satisfies (.int64 constraint) (.int64 value) := by
            cases constraint with
            | allowedValues values =>
                exact Search.binarySearch_iff (ordered values rfl)
            | range minimum maximum =>
                simp [CapsuleInt64Constraint.allows, Satisfies]
          rw [← allowed]
          simp only [checkInputValue]
          by_cases allows : constraint.allows value = true
          · simp [allows]
          · simp [allows]
      | localInput | string | boolean => simp [checkInputValue, Satisfies]
  | boolean =>
      cases value with
      | boolean | localInput | string | int64 =>
          simp [checkInputValue, Satisfies]

/-- Exactly files give an artifact. -/
theorem isSome_of_checkInputValue {artifact : Option LocalInputArtifact}
    (checked : checkInputValue input value = .ok artifact) :
    artifact.isSome = decide (input.kind = .localInput) := by
  unfold checkInputValue at checked
  split at checked
  · rename_i kind
    repeat' split at checked
    · cases checked
    · cases checked
    · cases checked
      simp [kind]
  · rename_i kind
    split at checked
    · cases checked
      simp [kind]
    · cases checked
  · rename_i kind
    split at checked
    · cases checked
      simp [kind]
    · cases checked
  · rename_i kind
    cases checked
    simp [kind]
  · cases checked

theorem nodup_of_collectInputs {final : Values}
    (collected : collectInputs values supply = .ok final) :
    (supply.map Prod.fst).Nodup ∧
      ∀ pair ∈ supply, values.lookup pair.1 = none := by
  induction supply generalizing values with
  | nil => exact ⟨List.nodup_nil, fun _ member => absurd member List.not_mem_nil⟩
  | cons pair rest inductionHypothesis =>
      obtain ⟨slot, held⟩ := pair
      rw [collectInputs] at collected
      split at collected
      · cases collected
      · rename_i absent
        have fresh : values.lookup slot = none := by simpa using absent
        obtain ⟨unique, apart⟩ := inductionHypothesis collected
        have others : ∀ other ∈ rest,
            other.1 ≠ slot ∧ values.lookup other.1 = none := by
          intro other member
          have gone := apart other member
          rw [OrderedTable.lookup_insert_eq_ite] at gone
          split at gone
          · cases gone
          · rename_i different
            exact ⟨different, gone⟩
        refine ⟨List.nodup_cons.mpr ⟨?_, unique⟩,
          List.forall_mem_cons.mpr ⟨fresh, fun other member =>
            (others other member).2⟩⟩
        intro again
        obtain ⟨other, member, same⟩ := List.mem_map.mp again
        exact (others other member).1 same

/-- The values of a call are what was supplied, each slot once. -/
theorem supplied_of_collectInputs
    (collected : collectInputs .empty supply = .ok values) :
    (supply.map Prod.fst).Nodup ∧ ∀ slot value,
      values.lookup slot = some value ↔ (slot, value) ∈ supply := by
  have unique := (nodup_of_collectInputs collected).1
  have nothing : ∀ pair ∈ supply,
      (OrderedTable.empty : Values).lookup pair.1 = none := fun _ _ => rfl
  obtain ⟨final, again, found⟩ := collectInputs_of_nodup unique nothing
  rw [collected] at again
  cases again
  refine ⟨unique, fun slot value => ?_⟩
  rw [found]
  constructor
  · rintro (member | none)
    · exact member
    · cases none
  · exact .inl

theorem checked_of_validateInputValues
    (checked : validateInputValues values artifacts inputs = .ok final) :
    ∀ input ∈ inputs, ∃ value artifact,
      values.lookup input.name = some value ∧
        checkInputValue input value = .ok artifact := by
  induction inputs generalizing artifacts with
  | nil => exact fun _ member => absurd member List.not_mem_nil
  | cons input rest inductionHypothesis =>
      rw [validateInputValues] at checked
      cases found : values.lookup input.name with
      | none =>
          rw [found] at checked
          cases checked
      | some value =>
          simp only [found, Outcome.bind_eq_ok_iff] at checked
          obtain ⟨artifact, here, later⟩ := checked
          exact List.forall_mem_cons.mpr
            ⟨⟨value, artifact, found, here⟩, inductionHypothesis later⟩

/-- Every file among the inputs gives one artifact. -/
theorem size_of_validateInputValues
    (unique : (inputs.map CapsuleInput.name).Nodup)
    (fresh : ∀ input ∈ inputs, artifacts.lookup input.name = none)
    (checked : validateInputValues values artifacts inputs = .ok final) :
    final.size = artifacts.size + inputs.countP (·.kind = .localInput) := by
  induction inputs generalizing artifacts with
  | nil =>
      cases checked
      rfl
  | cons input rest inductionHypothesis =>
      rw [validateInputValues] at checked
      rw [List.map_cons, List.nodup_cons] at unique
      rw [List.forall_mem_cons] at fresh
      cases found : values.lookup input.name with
      | none =>
          rw [found] at checked
          cases checked
      | some value =>
          simp only [found, Outcome.bind_eq_ok_iff] at checked
          obtain ⟨artifact, here, later⟩ := checked
          have isFile := isSome_of_checkInputValue here
          rw [List.countP_cons]
          cases artifact with
          | none =>
              rw [inductionHypothesis unique.2 fresh.2 later,
                if_neg (by simpa using isFile.symm)]
              rfl
          | some artifact =>
              have others : ∀ other ∈ rest, (artifacts.insert input.name
                  artifact).lookup other.name = none := by
                intro other member
                rw [OrderedTable.lookup_insert_eq_ite, if_neg]
                · exact fresh.2 other member
                · intro same
                  exact unique.1 (same ▸ List.mem_map_of_mem member)
              rw [inductionHypothesis unique.2 others later,
                OrderedTable.size_insert_of_lookup_eq_none fresh.1,
                if_pos (by simpa using isFile.symm)]
              omega

/-! ### Arguments and resources -/

theorem renders_of_scalarText {kind : BundleProfileInputValueKind}
    {text : String} (rendered : scalarText kind value = some text) :
    Renders value text := by
  unfold scalarText at rendered
  split at rendered
  · cases rendered
    rfl
  · cases rendered
    rfl
  · cases rendered
    rfl
  · cases rendered

/-- A verified argument is what the argument of the template stands for. -/
theorem binds_of_bindArgument {call : ProfileCall}
    {argument : BundleProfileArgument} {verified : VerifiedArgument}
    (supplied : ∀ slot value,
      values.lookup slot = some value → (slot, value) ∈ call.inputs)
    (bound : bindArgument profile values artifacts argument = .ok verified) :
    Binds call argument verified := by
  cases argument with
  | literal value =>
      rw [bindArgument, Outcome.bind_eq_ok_iff] at bound
      obtain ⟨_, -, ⟨⟩⟩ := bound
      exact .literal value
  | inputPath slot =>
      rw [bindArgument, Outcome.bind_eq_ok_iff] at bound
      obtain ⟨_, -, ⟨⟩⟩ := bound
      exact .inputPath slot
  | inputValue kind slot =>
      rw [bindArgument, Outcome.bind_eq_ok_iff] at bound
      obtain ⟨_, -, bound⟩ := bound
      split at bound
      · cases bound
      · rename_i value found
        split at bound
        · cases bound
        · rename_i text rendered
          cases bound
          exact .inputValue kind slot text value (supplied slot value found)
            (renders_of_scalarText rendered)
  | outputPath slot =>
      rw [bindArgument, Outcome.bind_eq_ok_iff] at bound
      obtain ⟨_, -, ⟨⟩⟩ := bound
      exact .outputPath slot

theorem budgetOf_eq_ok_iff {numbers : BudgetNumbers}
    {report : PolicyError → InvocationError} {budget : ResourceBudget} :
    budgetOf numbers report = .ok budget ↔ budget.numbers = numbers := by
  rw [← ResourceBudget.tryNew_eq_ok_iff]
  unfold budgetOf
  split
  · rename_i found valid
    rw [valid, Except.ok.injEq, Except.ok.injEq]
  · rename_i error invalid
    rw [invalid]
    exact iff_of_false nofun nofun

theorem validateOverrideAllowlist_eq_ok_iff {allowed : List String}
    {overrides : ProfileResourceOverrides} {done : Unit} :
    validateOverrideAllowlist allowed overrides = .ok done ↔
      ∀ field ∈ requestedFields overrides, field ∈ allowed := by
  unfold validateOverrideAllowlist
  split
  · rename_i field found
    have member := List.mem_of_find?_eq_some found
    have missing := List.find?_some found
    refine iff_of_false nofun fun all => ?_
    simp [all field member] at missing
  · rename_i none
    refine iff_of_true rfl ?_
    simpa [List.find?_eq_none] using none

/-- The resources of a call are resolved exactly if its overrides are
admissible. -/
theorem resolveResources_ok_iff {overrides : Option ProfileResourceOverrides}
    {maximum : ResourceBudget}
    (policy : maximum.numbers = profile.resourcePolicy.numbers) :
    (∃ budget, resolveResources profile overrides = .ok budget) ↔
      OverridesAdmissible profile overrides := by
  have unique : ∀ other : ResourceBudget,
      other.numbers = profile.resourcePolicy.numbers → other = maximum := by
    intro other same
    have first := ResourceBudget.tryNew_eq_ok_iff.mpr same
    have second := ResourceBudget.tryNew_eq_ok_iff.mpr policy
    rw [first] at second
    cases second
    rfl
  cases overrides with
  | none =>
      refine iff_of_true ⟨maximum, ?_⟩ trivial
      simp only [resolveResources, Outcome.bind_eq_ok_iff]
      exact ⟨maximum, budgetOf_eq_ok_iff.mpr policy, rfl⟩
  | some overrides =>
      simp only [resolveResources, Outcome.bind_eq_ok_iff,
        Outcome.require_eq_ok_iff, budgetOf_eq_ok_iff,
        validateOverrideAllowlist_eq_ok_iff, OverridesAdmissible,
        Bool.not_eq_true']
      constructor
      · rintro ⟨budget, found, isPolicy, _, filled, requested, isRequested, _,
          listed, ended⟩
        refine ⟨filled, listed, requested, found, isPolicy, isRequested, ?_⟩
        rw [← ResourceBudget.validateWithinMaximum_eq_ok_iff]
        split at ended
        · cases ended
        · assumption
      · rintro ⟨filled, listed, requested, found, isPolicy, isRequested, within⟩
        refine ⟨requested, found, isPolicy, (), filled, requested, isRequested,
          (), listed, ?_⟩
        rw [ResourceBudget.validateWithinMaximum_eq_ok_iff.mpr within]

/-! ### Compiled Capsules -/

/-- A Capsule as `CapsuleCatalog::compile` gives it: compiled from a Bundle that
the catalog has validated.  There is no other way to obtain one. -/
def CompiledCapsule.IsCompiled (capsule : CompiledCapsule) : Prop :=
  ∃ sha256 digest manifest profile,
    validateBundle sha256 manifest profile = .ok () ∧
      fromVerifiedInspection (.of digest manifest profile) = .ok capsule

theorem ordered_of_typedKind {input : BundleInput} {kind : CapsuleInputKind}
    (typed : input.typedKind = some kind) : kind.Ordered := by
  rintro values rfl
  unfold BundleInput.typedKind at typed
  split at typed
  · cases typed
  · cases typed
  · cases typed
  · split at typed
    · rename_i valid
      cases typed
      rw [Bool.and_eq_true] at valid
      exact ascending_iff.mp valid.2
    · cases typed
  · split at typed
    · cases typed
    · cases typed
  · cases typed

theorem ordered_of_tryFrom {input : BundleInput} {typed : CapsuleInput}
    (tried : CapsuleInput.tryFrom input = .ok typed) : typed.kind.Ordered := by
  unfold CapsuleInput.tryFrom at tried
  rw [Outcome.seq_eq_ok_iff] at tried
  have found := tried.2
  split at found
  · rename_i kind isKind
    cases found
    exact ordered_of_typedKind isKind
  · cases found

/-- The lists of allowed values in a compiled Capsule are ascending. -/
theorem ordered_of_fromVerifiedInspection {inspection : BundleInspection}
    (compiles : CompiledCapsule.fromVerifiedInspection inspection =
      .ok capsule) :
    ∀ input ∈ capsule.profile.inputs, input.kind.Ordered := by
  simp only [CompiledCapsule.fromVerifiedInspection, Outcome.bind_eq_ok_iff]
    at compiles
  obtain ⟨_, -, inputs, typed, _, -, ended⟩ := compiles
  split at ended
  · cases ended
  · cases ended
    intro input member
    obtain ⟨_, -, tried⟩ := Outcome.exists_left_of_mem
      (Outcome.mapM_eq_ok_iff.mp typed) member
    exact ordered_of_tryFrom tried

/-- What is known of a compiled Capsule. -/
theorem exists_sound (isCompiled : capsule.IsCompiled) :
    ∃ sha256 manifest profile, Sound sha256 manifest profile ∧
      Compiled manifest profile capsule ∧
      ∀ input ∈ capsule.profile.inputs, input.kind.Ordered := by
  obtain ⟨sha256, digest, manifest, profile, valid, compiles⟩ := isCompiled
  have sound := validateBundle_eq_ok_iff.mp valid
  obtain ⟨found, again, compiled⟩ :
      ∃ found, CompiledCapsule.fromVerifiedInspection
          (.of digest manifest profile) = .ok found ∧
        Compiled manifest profile found :=
    fromVerifiedInspection_of_sound sound
  rw [compiles] at again
  cases again
  exact ⟨sha256, manifest, profile, sound, compiled,
    ordered_of_fromVerifiedInspection compiles⟩

section Calls

variable {call : ProfileCall} {invocation : VerifiedInvocation}

/-- The parts of an accepted call. -/
structure Accepted (capsule : CompiledCapsule) (call : ProfileCall)
    (invocation : VerifiedInvocation) : Prop where
  identity : validateRequestedIdentity call.identity = .ok ()
  structural : validateCompiledStructure capsule = .ok ()
  name : call.identity.name = capsule.identity.name
  version : call.identity.version = capsule.identity.version
  values : collectInputs .empty call.inputs = .ok invocation.values
  declared : validateExactInputSet capsule.profile.inputs invocation.values =
    .ok ()
  artifacts : validateInputValues invocation.values .empty
    capsule.profile.inputs = .ok invocation.inputArtifacts
  arguments : bindArguments capsule.profile invocation.values
    invocation.inputArtifacts = .ok invocation.arguments
  resources : resolveResources capsule.profile call.resourceOverrides =
    .ok invocation.effectiveResources

theorem accepted_of_verifyProfileCall
    (verified : verifyProfileCall capsule call = .ok invocation) :
    Accepted capsule call invocation := by
  simp only [verifyProfileCall, Outcome.bind_eq_ok_iff,
    Outcome.require_eq_ok_iff, Bool.and_eq_true, decide_eq_true_eq]
    at verified
  obtain ⟨_, identity, _, structural, _, ⟨⟨⟨name, version⟩, -⟩, -⟩, values,
    collected, _, declared, artifacts, valid, arguments, bound, budget,
    resolved, ended⟩ := verified
  cases ended
  exact ⟨identity, structural, name, version, collected, declared, valid, bound,
    resolved⟩

/-- An accepted call is admissible. -/
theorem Accepted.admissible (accepted : Accepted capsule call invocation)
    (isCompiled : capsule.IsCompiled) : Admissible capsule call := by
  obtain ⟨sha256, manifest, profile, sound, compiled, ordered⟩ :=
    exists_sound isCompiled
  obtain ⟨maximum, policy⟩ := budgetOf_policy sound compiled fun error =>
    .invalidCompiledContract error.message
  obtain ⟨distinct, supplied⟩ := supplied_of_collectInputs accepted.values
  obtain ⟨missing, unknown⟩ :=
    validateExactInputSet_eq_ok_iff.mp accepted.declared
  refine ⟨accepted.name, accepted.version, distinct, fun slot => ?_, ?_,
    (resolveResources_ok_iff (budgetOf_eq_ok_iff.mp policy)).mp
      ⟨_, accepted.resources⟩⟩
  · simp only [List.mem_map, Prod.exists, exists_and_right, exists_eq_right]
    constructor
    · rintro ⟨value, member⟩
      exact unknown slot value ((supplied slot value).mpr member)
    · rintro ⟨input, member, rfl⟩
      obtain ⟨value, found⟩ := missing input member
      exact ⟨value, (supplied _ value).mp found⟩
  · intro input member value given
    obtain ⟨found, artifact, isFound, checked⟩ :=
      checked_of_validateInputValues accepted.artifacts input member
    rw [(supplied _ value).mpr given] at isFound
    cases isFound
    exact (checkInputValue_ok_iff (ordered input member)).mp ⟨artifact, checked⟩

/-- The arguments of an accepted call are bound one by one. -/
theorem Accepted.binds (accepted : Accepted capsule call invocation) :
    List.Forall₂ (Binds call) capsule.profile.arguments
      invocation.arguments := by
  have supplied := (supplied_of_collectInputs accepted.values).2
  have bound := Outcome.mapM_eq_ok_iff.mp accepted.arguments
  apply List.Forall₂.imp _ bound
  intro argument verified isBound
  exact binds_of_bindArgument (fun slot value => (supplied slot value).mp)
    isBound

theorem isSome_of_bindArgument {profile : CompiledCapsuleProfile}
    {values : Values} {artifacts : InputArtifacts}
    {argument : BundleProfileArgument} {slot : String}
    (bound : bindArgument profile values artifacts argument =
      .ok (.inputArtifactPath slot)) :
    (artifacts.lookup slot).isSome := by
  cases argument with
  | literal value =>
      rw [bindArgument, Outcome.seq_eq_ok_iff] at bound
      cases bound.2
  | inputPath other =>
      rw [bindArgument, Outcome.seq_eq_ok_iff, Outcome.require_eq_ok_iff,
        Bool.and_eq_true] at bound
      cases bound.2
      exact bound.1.2
  | inputValue kind other =>
      rw [bindArgument, Outcome.seq_eq_ok_iff] at bound
      have ended := bound.2
      split at ended
      · cases ended
      · split at ended
        · cases ended
        · cases ended
  | outputPath other =>
      rw [bindArgument, Outcome.seq_eq_ok_iff] at bound
      cases bound.2

/-- An accepted call has one file, and its arguments name no other. -/
theorem Accepted.oneFile (accepted : Accepted capsule call invocation) :
    ∃ slot artifact, invocation.inputArtifacts.entries = [(slot, artifact)] ∧
      ∀ other, .inputArtifactPath other ∈ invocation.arguments →
        other = slot := by
  have structural := accepted.structural
  simp only [validateCompiledStructure, Outcome.bind_eq_ok_iff,
    Outcome.require_eq_ok_iff, validateCompiledInputs_eq_ok_iff,
    decide_eq_true_eq] at structural
  obtain ⟨_, -, _, -, files, ⟨-, unique, -, counted⟩, _, isOne, -⟩ := structural
  have none : (OrderedTable.empty : InputArtifacts).size = 0 := rfl
  have size := size_of_validateInputValues unique (fun _ _ => rfl)
    accepted.artifacts
  have one : invocation.inputArtifacts.entries.length = 1 := by
    apply size.trans
    omega
  obtain ⟨⟨slot, artifact⟩, only⟩ := List.length_eq_one_iff.mp one
  refine ⟨slot, artifact, only, fun other member => ?_⟩
  obtain ⟨argument, -, bound⟩ := Outcome.exists_left_of_mem
    (Outcome.mapM_eq_ok_iff.mp accepted.arguments) member
  obtain ⟨found, isFound⟩ :=
    Option.isSome_iff_exists.mp (isSome_of_bindArgument bound)
  rw [OrderedTable.lookup_eq_some_iff, only, List.mem_singleton] at isFound
  cases isFound
  rfl

/-- A compiled Capsule accepts what is admissible. -/
theorem exists_accepted (isCompiled : capsule.IsCompiled)
    (admissible : Admissible capsule call) :
    ∃ invocation, verifyProfileCall capsule call = .ok invocation := by
  obtain ⟨sha256, manifest, profile, sound, compiled, ordered⟩ :=
    exists_sound isCompiled
  obtain ⟨maximum, policy⟩ := budgetOf_policy sound compiled fun error =>
    .invalidCompiledContract s!"resource policy is invalid: {error.message}"
  obtain ⟨budget, resolved⟩ := (resolveResources_ok_iff
    (budgetOf_eq_ok_iff.mp policy)).mpr admissible.overrides
  refine exists_invocation sound compiled admissible.name admissible.version
    admissible.distinct (fun input member => ?_) (fun slot value given => ?_)
    resolved
  · obtain ⟨⟨_, value⟩, given, rfl⟩ := List.mem_map.mp
      ((admissible.declared input.name).mpr (List.mem_map_of_mem member))
    obtain ⟨artifact, valid⟩ := (checkInputValue_ok_iff
      (ordered input member)).mpr (admissible.values input member value given)
    exact ⟨value, artifact, given, valid⟩
  · exact List.mem_map.mp ((admissible.declared slot).mp
      (List.mem_map_of_mem (f := Prod.fst) given))

end Calls

/-- The Capsule of the audio Bundle. -/
def audioCapsule : CompiledCapsule where
  identity := ⟨"ffmpeg-audio-to-wav", "1.0.0"⟩
  catalogDigest := zeroDigest
  runtime := audioBundle.runtime
  profile :=
    { identity := ⟨"ffmpeg-audio-to-wav", "1.0.0"⟩
      digest := zeroDigest
      inputs :=
        [⟨"source", true, .localInput⟩,
          ⟨"sample_rate_hz", true,
            .int64 (.allowedValues [8000, 16000, 22050, 44100, 48000])⟩,
          ⟨"channels", true, .int64 (.allowedValues [1, 2])⟩]
      arguments := audioProfile.argv
      output := audioProfile.output
      resourcePolicy := audioProfile.policy
      allowedOverrides := [] }
  signingKeyId := "test-release"

theorem isCompiled_audioCapsule : audioCapsule.IsCompiled := by
  refine ⟨zeroDigest, zeroDigest, audioBundle, audioProfile,
    validateBundle_eq_ok_iff.mpr sound_audio, ?_⟩
  decide +kernel

/-- A call of it for the given file: stereo at 48 kHz. -/
def audioCall (path : String) : ProfileCall where
  identity := ⟨"ffmpeg-audio-to-wav", "1.0.0"⟩
  inputs :=
    [("source", .localInput path zeroDigest.val 4), ("channels", .int64 2),
      ("sample_rate_hz", .int64 48000)]

theorem admissible_audioCall {path : String}
    (valid : checkArtifactPath path = .ok ()) :
    Admissible audioCapsule (audioCall path) := by
  refine ⟨rfl, rfl, ?_, fun slot => ?_, ?_, trivial⟩
  · change ["source", "channels", "sample_rate_hz"].Nodup
    decide
  · change slot ∈ ["source", "channels", "sample_rate_hz"] ↔
      slot ∈ ["source", "sample_rate_hz", "channels"]
    simp only [List.mem_cons, List.not_mem_nil, or_false]
    rw [or_comm (a := slot = "channels")]
  · intro input member value given
    simp only [audioCapsule, List.mem_cons, List.not_mem_nil, or_false]
      at member
    rcases member with rfl | rfl | rfl
    · simp [audioCall] at given
      subst given
      exact ⟨valid, zeroDigest.2⟩
    · simp [audioCall] at given
      subst given
      simp [Satisfies]
    · simp [audioCall] at given
      subst given
      simp [Satisfies]

end Capsule
end TaskCage
