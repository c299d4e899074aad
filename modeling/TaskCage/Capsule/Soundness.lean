import TaskCage.Capsule.Contract

/-!
# Installed Capsules can be invoked

A Bundle that the import accepts is checked again when it is compiled, when it
is called and when its output is declared.  The later checks of the contract
never fail on it; the check of the declared output is stricter than that of
the import.
-/

namespace TaskCage
namespace Capsule

/-! ### Versions -/

variable {version : String} {value : ProfileValue}

theorem validProfileVersion_iff :
    validProfileVersion version = true ↔ ∃ major minor patch,
      version.toList = major ++ '.' :: (minor ++ '.' :: patch) ∧
        Decimal.isNumeral major = true ∧ Decimal.isNumeral minor = true ∧
        Decimal.isNumeral patch = true := by
  have noDot : ∀ part, Decimal.isNumeral part = true → '.' ∉ part := by
    intro part numeral member
    exact absurd ((Decimal.isNumeral_iff.mp numeral).2.1 _ member) (by decide)
  simp only [validProfileVersion, Bool.and_eq_true, decide_eq_true_eq,
    List.all_eq_true]
  constructor
  · rintro ⟨numerals, three⟩
    obtain ⟨major, minor, patch, parts⟩ := List.length_eq_three.mp three
    rw [parts] at numerals
    have majorOk := numerals major (by simp)
    have minorOk := numerals minor (by simp)
    have patchOk := numerals patch (by simp)
    exact ⟨major, minor, patch, (Version.splitOn_dot_eq_iff (noDot _ majorOk)
      (noDot _ minorOk) (noDot _ patchOk)).mp parts, majorOk, minorOk,
      patchOk⟩
  · rintro ⟨major, minor, patch, shape, majorOk, minorOk, patchOk⟩
    rw [(Version.splitOn_dot_eq_iff (noDot _ majorOk) (noDot _ minorOk)
      (noDot _ patchOk)).mpr shape]
    refine ⟨fun part member => ?_, rfl⟩
    simp only [List.mem_cons, List.not_mem_nil, or_false] at member
    rcases member with rfl | rfl | rfl
    · exact majorOk
    · exact minorOk
    · exact patchOk

/-- The versions of Bundles may be called. -/
theorem validProfileVersion_of_release
    (release : isCanonicalRelease version = true) :
    validProfileVersion version = true := by
  obtain ⟨major, minor, patch, shape, majorOk, minorOk, patchOk⟩ :=
    isCanonicalRelease_iff.mp release
  exact validProfileVersion_iff.mpr ⟨major, minor, patch, shape,
    majorOk.numeral, minorOk.numeral, patchOk.numeral⟩

/-! ### Structure -/

variable {inputs : List CapsuleInput} {values : Values} {input : CapsuleInput}
variable {artifacts : InputArtifacts}

theorem validateCompiledInputs_eq_ok_iff {names : List String}
    {start total : ℕ} :
    validateCompiledInputs names start inputs = .ok total ↔
      (∀ input ∈ inputs, input.required = true ∧
        Names.validateSlot input.name = true) ∧
        (inputs.map CapsuleInput.name).Nodup ∧
        (∀ input ∈ inputs, input.name ∉ names) ∧
        total = start + inputs.countP (·.kind = .localInput) := by
  induction inputs generalizing names start with
  | nil =>
      constructor
      · rintro ⟨⟩
        exact ⟨nofun, List.nodup_nil, nofun, rfl⟩
      · rintro ⟨-, -, -, rfl⟩
        rfl
  | cons input rest inductionHypothesis =>
      simp only [validateCompiledInputs, Outcome.bind_eq_ok_iff,
        Outcome.require_eq_ok_iff, inductionHypothesis, Bool.and_eq_true]
      rw [List.countP_cons, List.forall_mem_cons, List.forall_mem_cons,
        List.map_cons, List.nodup_cons]
      simp only [List.mem_cons, not_or, decide_eq_true_eq]
      constructor
      · rintro ⟨_, ⟨⟨required, slot⟩, fresh⟩, sound, unique, apart, rfl⟩
        refine ⟨⟨⟨required, slot⟩, sound⟩, ⟨?_, unique⟩,
          ⟨by simpa using fresh, fun other member => (apart other member).2⟩,
          by split <;> omega⟩
        intro again
        obtain ⟨other, member, same⟩ := List.mem_map.mp again
        exact (apart other member).1 same
      · rintro ⟨⟨⟨required, slot⟩, sound⟩, ⟨once, unique⟩, ⟨fresh, apart⟩, rfl⟩
        refine ⟨(), ⟨⟨required, slot⟩, by simpa using fresh⟩, sound, unique,
          ?_, by split <;> omega⟩
        intro other member
        exact ⟨fun same => once (List.mem_map.mpr ⟨other, member, same⟩),
          apart other member⟩

section Typed

variable {inputs : List BundleInput} {compiled : List CapsuleInput}

theorem names_of_compiles (compiles : List.Forall₂ Compiles inputs compiled) :
    compiled.map CapsuleInput.name = inputs.map BundleInput.name := by
  induction compiles with
  | nil => rfl
  | cons here _ inductionHypothesis =>
      rw [List.map_cons, List.map_cons, here.name, inductionHypothesis]

theorem schemaName_eq_local_iff {kind : CapsuleInputKind} :
    kind.schemaName = "LOCAL_INPUT" ↔ kind = .localInput := by
  cases kind <;> simp [CapsuleInputKind.schemaName]

theorem count_of_compiles (compiles : List.Forall₂ Compiles inputs compiled) :
    compiled.countP (·.kind = .localInput) =
      inputs.countP (·.kind = "LOCAL_INPUT") := by
  induction compiles with
  | nil => rfl
  | cons here _ inductionHypothesis =>
      rw [List.countP_cons, List.countP_cons, inductionHypothesis]
      simp only [← here.kind, schemaName_eq_local_iff]

end Typed

/-! ### Values -/

theorem validateExactInputSet_eq_ok_iff {declarations : List CapsuleInput}
    {done : Unit} :
    validateExactInputSet declarations values = .ok done ↔
      (∀ input ∈ declarations, ∃ value,
        values.lookup input.name = some value) ∧
        ∀ name value, values.lookup name = some value →
          ∃ input ∈ declarations, input.name = name := by
  have supplied : ∀ name, name ∈ values.entries.map Prod.fst ↔
      ∃ value, values.lookup name = some value := by
    intro name
    simp [OrderedTable.lookup_eq_some_iff]
  simp only [validateExactInputSet, Outcome.require_eq_ok_iff,
    Bool.and_eq_true, List.isEmpty_iff, List.filter_eq_nil_iff,
    Bool.not_eq_true', Bool.not_eq_false, List.contains_iff_mem, supplied,
    List.mem_mergeSort, List.mem_dedup, List.mem_map]
  constructor
  · rintro ⟨missing, unknown⟩
    exact ⟨fun input member => missing _ ⟨input, member, rfl⟩,
      fun name value found => unknown name ⟨value, found⟩⟩
  · rintro ⟨missing, unknown⟩
    refine ⟨?_, fun name ⟨value, found⟩ => unknown name value found⟩
    rintro _ ⟨input, member, rfl⟩
    exact missing input member

/-- A value of the kind that is declared. -/
def Fits (input : CapsuleInput) (value : ProfileValue) : Prop :=
  kindName value = input.kind.schemaName

theorem checkInputValue_ne_contract (input : CapsuleInput)
    (value : ProfileValue) (reason : String) :
    checkInputValue input value ≠ .error (.invalidCompiledContract reason) := by
  unfold checkInputValue
  repeat' split
  all_goals nofun

/-- What a checked value is. -/
theorem checkInputValue_ok {artifact : Option LocalInputArtifact}
    (checked : checkInputValue input value = .ok artifact) :
    Fits input value ∧ (input.kind = .localInput → artifact.isSome) := by
  unfold checkInputValue at checked
  unfold Fits
  split at checked
  · rename_i kind
    repeat' split at checked
    · cases checked
    · cases checked
    · cases checked
      exact ⟨by rw [kind]; rfl, fun _ => rfl⟩
  · rename_i kind
    exact ⟨by rw [kind]; rfl, fun isLocal => by rw [isLocal] at kind; cases kind⟩
  · rename_i kind
    exact ⟨by rw [kind]; rfl, fun isLocal => by rw [isLocal] at kind; cases kind⟩
  · rename_i kind
    exact ⟨by rw [kind]; rfl, fun isLocal => by rw [isLocal] at kind; cases kind⟩
  · cases checked

/-- What the values are after the loop over the inputs. -/
structure Bound (values : Values) (artifacts : InputArtifacts)
    (input : CapsuleInput) : Prop where
  value : ∃ value, values.lookup input.name = some value ∧ Fits input value
  file : input.kind = .localInput → (artifacts.lookup input.name).isSome

theorem isSome_lookup_insert {artifact : LocalInputArtifact}
    {name other : String} (found : (artifacts.lookup other).isSome = true) :
    ((artifacts.insert name artifact).lookup other).isSome = true := by
  rw [OrderedTable.lookup_insert_eq_ite]
  split
  · rfl
  · exact found

theorem bound_of_validateInputValues {final : InputArtifacts}
    (checked : validateInputValues values artifacts inputs = .ok final) :
    (∀ name, (artifacts.lookup name).isSome → (final.lookup name).isSome) ∧
      ∀ input ∈ inputs, Bound values final input := by
  induction inputs generalizing artifacts with
  | nil =>
      cases checked
      exact ⟨fun _ found => found, nofun⟩
  | cons input rest inductionHypothesis =>
      rw [validateInputValues] at checked
      cases found : values.lookup input.name with
      | none =>
          rw [found] at checked
          cases checked
      | some value =>
          simp only [found, Outcome.bind_eq_ok_iff] at checked
          obtain ⟨artifact, here, checked⟩ := checked
          obtain ⟨fits, file⟩ := checkInputValue_ok here
          obtain ⟨kept, later⟩ := inductionHypothesis checked
          refine ⟨fun name known => kept name ?_, ?_⟩
          · cases artifact with
            | none => exact known
            | some artifact => exact isSome_lookup_insert known
          · rw [List.forall_mem_cons]
            refine ⟨⟨⟨value, found, fits⟩, fun isLocal => kept _ ?_⟩, later⟩
            cases artifact with
            | none => cases file isLocal
            | some artifact =>
                rw [OrderedTable.lookup_insert_eq_ite, if_pos rfl]
                rfl

theorem validateInputValues_ne_contract
    (supplied : ∀ input ∈ inputs, ∃ value,
      values.lookup input.name = some value) (reason : String) :
    validateInputValues values artifacts inputs ≠
      .error (.invalidCompiledContract reason) := by
  induction inputs generalizing artifacts with
  | nil => nofun
  | cons input rest inductionHypothesis =>
      rw [List.forall_mem_cons] at supplied
      obtain ⟨value, found⟩ := supplied.1
      rw [validateInputValues]
      simp only [found, ne_eq, Outcome.bind_eq_error_iff, not_or, not_exists,
        not_and]
      exact ⟨checkInputValue_ne_contract input value reason,
        fun artifact _ => inductionHypothesis supplied.2⟩

/-! ### Arguments -/

theorem declaration_of_mem {profile : CompiledCapsuleProfile}
    (unique : (profile.inputs.map CapsuleInput.name).Nodup)
    (member : input ∈ profile.inputs) :
    profile.declaration input.name = some input.kind := by
  have found : profile.inputs.reverse.find?
      (fun other => other.name = input.name) = some input := by
    refine List.find?_eq_some_iff_append.mpr ⟨by simp, ?_⟩
    obtain ⟨before, after, shape⟩ :=
      List.append_of_mem (List.mem_reverse.mpr member)
    refine ⟨before, after, shape, fun other isBefore => ?_⟩
    have apart : (profile.inputs.reverse.map CapsuleInput.name).Nodup := by
      rw [List.map_reverse]
      exact List.nodup_reverse.mpr unique
    rw [shape, List.map_append, List.map_cons] at apart
    have different := List.nodup_append.mp apart
    simpa using different.2.2 other.name (List.mem_map_of_mem isBefore)
      input.name List.mem_cons_self
  rw [CompiledCapsuleProfile.declaration, found]
  rfl

/-- A scalar argument finds the value that it needs. -/
theorem scalar_of_fits {kind : BundleProfileInputValueKind}
    (declared : input.kind.schemaName = kind.inputKind)
    (fits : Fits input value) :
    argumentKindMatchesDeclaration kind (some input.kind) = true ∧
      ∃ text, scalarText kind value = some text := by
  unfold Fits at fits
  rw [declared] at fits
  cases kind with
  | string | int64 | boolean =>
      cases isKind : input.kind <;> rw [isKind] at declared <;>
        cases value <;> simp_all [CapsuleInputKind.schemaName, kindName,
          BundleProfileInputValueKind.inputKind, scalarText,
          argumentKindMatchesDeclaration]

section Bundle

variable {sha256 : Sha256Digest} {manifest : BundleManifest}
variable {profile : BundleProfile} {capsule : CompiledCapsule}

/-- The compiled form of a sound Bundle has the structure of a contract. -/
theorem validateCompiledStructure_of_compiled
    (sound : Sound sha256 manifest profile)
    (compiled : Compiled manifest profile capsule) :
    validateCompiledStructure capsule = .ok () := by
  have length := compiled.inputs.length_eq
  have names := names_of_compiles compiled.inputs
  have filled := sound.inputs.filled
  have few := sound.inputs.few
  simp only [validateCompiledStructure, Outcome.bind_eq_ok_iff,
    Outcome.require_eq_ok_iff, validateCompiledInputs_eq_ok_iff,
    validateOverrides_eq_ok_iff, Bool.and_eq_true, decide_eq_true_eq,
    compiled.name, compiled.version, compiled.profileIdentity,
    compiled.output, compiled.arguments, compiled.overrides, ← length, names]
  refine ⟨(), ⟨sound.profileName.symm, sound.profileVersion.symm⟩, (),
    ⟨filled, few⟩, 1, ⟨?_, sound.inputs.unique, fun _ _ => List.not_mem_nil,
      ?_⟩, (), rfl, (), sound.output.slot, (),
    ⟨sound.filledArgv, sound.shortArgv⟩, sound.overrides,
    sound.uniqueOverrides, fun _ _ => List.not_mem_nil⟩
  · intro typed member
    obtain ⟨input, declared, typedOk⟩ :=
      Outcome.exists_left_of_mem compiled.inputs member
    exact ⟨typedOk.required,
      typedOk.name ▸ (sound.inputs.sound input declared).slot⟩
  · rw [count_of_compiles compiled.inputs, sound.inputs.oneFile]

/-- An argument that refers to an input finds its typed form. -/
theorem exists_typed_of_hasInputKind
    (compiled : Compiled manifest profile capsule) {slot kind : String}
    (declared : hasInputKind profile.inputs slot kind = true) :
    ∃ typed ∈ capsule.profile.inputs, typed.name = slot ∧
      typed.kind.schemaName = kind := by
  simp only [hasInputKind, List.any_eq_true, Bool.and_eq_true,
    decide_eq_true_eq] at declared
  obtain ⟨input, member, rfl, rfl⟩ := declared
  obtain ⟨typed, found, typedOk⟩ := Outcome.exists_right_of_mem compiled.inputs member
  exact ⟨typed, found, typedOk.name, typedOk.kind⟩

variable {reason : String}

/-- Every argument of a sound Bundle can be bound. -/
theorem bindArgument_of_sound (sound : Sound sha256 manifest profile)
    (compiled : Compiled manifest profile capsule)
    (bound : ∀ input ∈ capsule.profile.inputs, Bound values artifacts input)
    {argument : BundleProfileArgument}
    (argumentOk : ArgumentSound profile.inputs profile.output argument) :
    ∃ verified, bindArgument capsule.profile values artifacts argument =
      .ok verified := by
  have unique : (capsule.profile.inputs.map CapsuleInput.name).Nodup := by
    rw [names_of_compiles compiled.inputs]
    exact sound.inputs.unique
  cases argument with
  | literal value =>
      refine ⟨.literal value, ?_⟩
      rw [bindArgument, Outcome.seq_eq_ok_iff, Outcome.require_eq_ok_iff]
      exact ⟨argumentOk, rfl⟩
  | inputPath slot =>
      obtain ⟨typed, member, rfl, named⟩ :=
        exists_typed_of_hasInputKind compiled argumentOk
      have isLocal := schemaName_eq_local_iff.mp named
      refine ⟨.inputArtifactPath typed.name, ?_⟩
      rw [bindArgument, Outcome.seq_eq_ok_iff, Outcome.require_eq_ok_iff,
        declaration_of_mem unique member, isLocal, Bool.and_eq_true]
      exact ⟨⟨by simp, (bound typed member).file isLocal⟩, rfl⟩
  | inputValue kind slot =>
      obtain ⟨typed, member, rfl, named⟩ :=
        exists_typed_of_hasInputKind compiled argumentOk
      obtain ⟨value, found, fits⟩ := (bound typed member).value
      obtain ⟨fitting, text, isText⟩ := scalar_of_fits named fits
      refine ⟨.literal text, ?_⟩
      rw [bindArgument, Outcome.seq_eq_ok_iff, Outcome.require_eq_ok_iff,
        declaration_of_mem unique member, found]
      dsimp only
      rw [isText]
      exact ⟨fitting, rfl⟩
  | outputPath slot =>
      refine ⟨.outputArtifactPath slot, ?_⟩
      rw [bindArgument, Outcome.seq_eq_ok_iff, Outcome.require_eq_ok_iff,
        compiled.output]
      exact ⟨decide_eq_true argumentOk, rfl⟩

theorem bindArguments_of_sound (sound : Sound sha256 manifest profile)
    (compiled : Compiled manifest profile capsule)
    (bound : ∀ input ∈ capsule.profile.inputs, Bound values artifacts input) :
    ∃ arguments, bindArguments capsule.profile values artifacts =
      .ok arguments := by
  have each := fun argument member =>
    bindArgument_of_sound sound compiled bound (sound.argv argument member)
  simp only [bindArguments, compiled.arguments, Outcome.mapM_eq_ok_iff]
  generalize profile.argv = arguments at each
  induction arguments with
  | nil => exact ⟨[], .nil⟩
  | cons argument rest inductionHypothesis =>
      rw [List.forall_mem_cons] at each
      obtain ⟨first, here⟩ := each.1
      obtain ⟨others, later⟩ := inductionHypothesis each.2
      exact ⟨first :: others, .cons here later⟩

/-! ### Resources -/

theorem budgetOf_policy (sound : Sound sha256 manifest profile)
    (compiled : Compiled manifest profile capsule)
    (report : PolicyError → InvocationError) :
    ∃ budget, budgetOf capsule.profile.resourcePolicy.numbers report =
      .ok budget := by
  obtain ⟨budget, valid⟩ := sound.policy
  refine ⟨budget, ?_⟩
  rw [budgetOf, compiled.policy, valid]

theorem budgetOf_ne_contract {numbers : BudgetNumbers} :
    budgetOf numbers (fun error => .invalidResourceOverride error.message) ≠
      .error (.invalidCompiledContract reason) := by
  unfold budgetOf
  split <;> nofun

theorem validateOverrideAllowlist_ne_contract {allowed : List String}
    {overrides : ProfileResourceOverrides} :
    validateOverrideAllowlist allowed overrides ≠
      .error (.invalidCompiledContract reason) := by
  unfold validateOverrideAllowlist
  split <;> nofun

theorem resolveResources_ne_contract (sound : Sound sha256 manifest profile)
    (compiled : Compiled manifest profile capsule)
    (overrides : Option ProfileResourceOverrides) (reason : String) :
    resolveResources capsule.profile overrides ≠
      .error (.invalidCompiledContract reason) := by
  obtain ⟨maximum, valid⟩ := budgetOf_policy sound compiled fun error =>
    .invalidCompiledContract s!"resource policy is invalid: {error.message}"
  cases overrides with
  | none =>
      intro failed
      simp only [resolveResources, valid] at failed
      cases failed
  | some overrides =>
      simp only [resolveResources, valid, ne_eq, Outcome.bind_eq_error_iff,
        Outcome.require_eq_error_iff, budgetOf_ne_contract,
        validateOverrideAllowlist_ne_contract, reduceCtorEq, and_false,
        false_or, not_exists, not_and]
      rintro _ - _ - requested - _ - failed
      split at failed <;> cases failed

/-! ### Calls -/

theorem collectInputs_ne_contract {inputs : List (String × ProfileValue)} :
    collectInputs values inputs ≠ .error (.invalidCompiledContract reason) := by
  induction inputs generalizing values with
  | nil => nofun
  | cons input rest inductionHypothesis =>
      rw [collectInputs]
      split
      · nofun
      · exact inductionHypothesis

/-- No call is rejected because of the contract of a sound Bundle. -/
theorem verifyProfileCall_ne_contract (sound : Sound sha256 manifest profile)
    (compiled : Compiled manifest profile capsule) (call : ProfileCall)
    (reason : String) :
    verifyProfileCall capsule call ≠
      .error (.invalidCompiledContract reason) := by
  intro failed
  simp only [verifyProfileCall, Outcome.bind_eq_error_iff] at failed
  rcases failed with failed | ⟨_, -, failed | ⟨_, -, failed | ⟨_, -, failed |
    ⟨values, -, failed | ⟨_, exactly, failed | ⟨artifacts, checked, failed |
    ⟨arguments, -, failed | ⟨_, -, failed⟩⟩⟩⟩⟩⟩⟩⟩
  · simp [validateRequestedIdentity, Outcome.bind_eq_error_iff,
      Outcome.require_eq_error_iff] at failed
  · rw [validateCompiledStructure_of_compiled sound compiled] at failed
    cases failed
  · simp [Outcome.require_eq_error_iff] at failed
  · exact collectInputs_ne_contract failed
  · simp [validateExactInputSet, Outcome.require_eq_error_iff] at failed
  · exact validateInputValues_ne_contract
      (validateExactInputSet_eq_ok_iff.mp exactly).1 reason failed
  · obtain ⟨bound, isBound⟩ := bindArguments_of_sound sound compiled
      (bound_of_validateInputValues checked).2
    rw [isBound] at failed
    cases failed
  · exact resolveResources_ne_contract sound compiled _ reason failed
  · cases failed

/-! ### An accepted call -/

/-- For every input there is a value that it accepts. -/
theorem exists_checked {input : BundleInput} {typed : CapsuleInput}
    (compiles : Compiles input typed) :
    ∃ value artifact, checkInputValue typed value = .ok artifact := by
  cases isKind : typed.kind with
  | localInput =>
      refine ⟨.localInput "a" zeroDigest.1 0,
        some ⟨⟨"a", by decide⟩, zeroDigest, 0⟩, ?_⟩
      unfold checkInputValue
      rw [isKind]
      rfl
  | string =>
      refine ⟨.string "a", none, ?_⟩
      unfold checkInputValue
      rw [isKind]
      rfl
  | int64 constraint =>
      obtain ⟨value, allowed⟩ := compiles.allows constraint isKind
      refine ⟨.int64 value, none, ?_⟩
      unfold checkInputValue
      rw [isKind]
      exact if_pos allowed
  | boolean =>
      refine ⟨.boolean true, none, ?_⟩
      unfold checkInputValue
      rw [isKind]

/-- A slot and a value that the input accepts. -/
def Supplies (typed : CapsuleInput) (pair : String × ProfileValue) : Prop :=
  pair.1 = typed.name ∧ ∃ artifact, checkInputValue typed pair.2 = .ok artifact

theorem exists_supply {inputs : List BundleInput}
    {compiled : List CapsuleInput}
    (compiles : List.Forall₂ Compiles inputs compiled) :
    ∃ supply, List.Forall₂ Supplies compiled supply := by
  induction compiles with
  | nil => exact ⟨[], .nil⟩
  | @cons _ typed _ _ here _ inductionHypothesis =>
      obtain ⟨value, checked⟩ := exists_checked here
      obtain ⟨supply, supplies⟩ := inductionHypothesis
      exact ⟨(typed.name, value) :: supply, .cons ⟨rfl, checked⟩ supplies⟩

variable {supply : List (String × ProfileValue)}

theorem names_of_supplies {inputs : List CapsuleInput}
    (supplies : List.Forall₂ Supplies inputs supply) :
    supply.map Prod.fst = inputs.map CapsuleInput.name := by
  induction supplies with
  | nil => rfl
  | cons here _ inductionHypothesis =>
      rw [List.map_cons, List.map_cons, here.1, inductionHypothesis]

/-- Values with different slots are all collected. -/
theorem collectInputs_of_nodup (unique : (supply.map Prod.fst).Nodup)
    (fresh : ∀ pair ∈ supply, values.lookup pair.1 = none) :
    ∃ final, collectInputs values supply = .ok final ∧
      ∀ name value, final.lookup name = some value ↔
        (name, value) ∈ supply ∨ values.lookup name = some value := by
  induction supply generalizing values with
  | nil => exact ⟨values, rfl, by simp⟩
  | cons pair rest inductionHypothesis =>
      obtain ⟨slot, held⟩ := pair
      rw [List.map_cons, List.nodup_cons] at unique
      rw [List.forall_mem_cons] at fresh
      have apart : ∀ pair ∈ rest, (values.insert slot held).lookup pair.1 =
          none := by
        intro pair member
        have other : pair.1 ≠ slot := fun same => unique.1 (by
          rw [← same]
          exact List.mem_map.mpr ⟨pair, member, rfl⟩)
        rw [OrderedTable.lookup_insert_eq_ite, if_neg other]
        exact fresh.2 pair member
      obtain ⟨final, collected, found⟩ := inductionHypothesis unique.2 apart
      refine ⟨final, ?_, fun name value => ?_⟩
      · have new : (values.lookup slot).isSome = false := by
          rw [fresh.1]
          rfl
        rw [collectInputs, new]
        exact collected
      · rw [found, OrderedTable.lookup_insert_eq_some_iff, List.mem_cons,
          Prod.mk.injEq]
        constructor
        · rintro (later | ⟨rfl, rfl⟩ | ⟨-, before⟩)
          · exact .inl (.inr later)
          · exact .inl (.inl ⟨rfl, rfl⟩)
          · exact .inr before
        · rintro ((⟨rfl, rfl⟩ | later) | before)
          · exact .inr (.inl ⟨rfl, rfl⟩)
          · exact .inl later
          · refine .inr (.inr ⟨fun same => ?_, before⟩)
            rw [same, fresh.1] at before
            cases before

theorem validateInputValues_of_checked {inputs : List CapsuleInput}
    (checked : ∀ input ∈ inputs, ∃ value artifact,
      values.lookup input.name = some value ∧
        checkInputValue input value = .ok artifact) :
    ∃ final, validateInputValues values artifacts inputs = .ok final := by
  induction inputs generalizing artifacts with
  | nil => exact ⟨artifacts, rfl⟩
  | cons input rest inductionHypothesis =>
      rw [List.forall_mem_cons] at checked
      obtain ⟨⟨value, artifact, found, here⟩, later⟩ := checked
      obtain ⟨final, ended⟩ := inductionHypothesis later
      refine ⟨final, ?_⟩
      rw [validateInputValues]
      simp only [found, Outcome.bind_eq_ok_iff]
      exact ⟨artifact, here, ended⟩

/-- A call of a sound Bundle is accepted once it supplies every input with a
value that is accepted, and nothing else. -/
theorem exists_invocation (sound : Sound sha256 manifest profile)
    (compiled : Compiled manifest profile capsule) {call : ProfileCall}
    {budget : ResourceBudget}
    (name : call.identity.name = capsule.identity.name)
    (version : call.identity.version = capsule.identity.version)
    (distinct : (call.inputs.map Prod.fst).Nodup)
    (supplied : ∀ input ∈ capsule.profile.inputs, ∃ value artifact,
      (input.name, value) ∈ call.inputs ∧
        checkInputValue input value = .ok artifact)
    (declared : ∀ slot value, (slot, value) ∈ call.inputs →
      ∃ input ∈ capsule.profile.inputs, input.name = slot)
    (resolved : resolveResources capsule.profile call.resourceOverrides =
      .ok budget) :
    ∃ invocation, verifyProfileCall capsule call = .ok invocation := by
  obtain ⟨values, collected, found⟩ := collectInputs_of_nodup distinct
    fun _ _ => OrderedTable.lookup_empty
  simp only [OrderedTable.lookup_empty, reduceCtorEq, or_false] at found
  have checked : ∀ input ∈ capsule.profile.inputs, ∃ value artifact,
      values.lookup input.name = some value ∧
        checkInputValue input value = .ok artifact := by
    intro input member
    obtain ⟨value, artifact, given, valid⟩ := supplied input member
    exact ⟨value, artifact, (found _ _).mpr given, valid⟩
  have exactly : validateExactInputSet capsule.profile.inputs values =
      .ok () := by
    refine validateExactInputSet_eq_ok_iff.mpr ⟨fun input member => ?_,
      fun name value isValue => declared name value ((found _ _).mp isValue)⟩
    obtain ⟨value, -, isValue, -⟩ := checked input member
    exact ⟨value, isValue⟩
  obtain ⟨artifacts, valid⟩ :
      ∃ artifacts, validateInputValues values .empty capsule.profile.inputs =
        .ok artifacts :=
    validateInputValues_of_checked checked
  obtain ⟨arguments, bound⟩ := bindArguments_of_sound sound compiled
    (bound_of_validateInputValues valid).2
  refine ⟨⟨capsule, call.identity, values, artifacts, arguments, budget⟩, ?_⟩
  simp only [verifyProfileCall, validateRequestedIdentity,
    Outcome.bind_eq_ok_iff, Outcome.require_eq_ok_iff, Bool.and_eq_true,
    decide_eq_true_eq, name, version, compiled.name, compiled.version,
    compiled.profileIdentity]
  exact ⟨(), ⟨(), sound.name, validProfileVersion_of_release sound.version⟩,
    (), validateCompiledStructure_of_compiled sound compiled, (),
    ⟨⟨⟨trivial, trivial⟩, sound.profileName.symm⟩,
      sound.profileVersion.symm⟩, values,
    collected, (), exactly, artifacts, valid, arguments, bound, budget, resolved,
    rfl⟩

/-- Some call of a sound Bundle without overrides is accepted. -/
theorem exists_verified_call (sound : Sound sha256 manifest profile)
    (compiled : Compiled manifest profile capsule) :
    ∃ call invocation, call.resourceOverrides = none ∧
      verifyProfileCall capsule call = .ok invocation := by
  obtain ⟨supply, supplies⟩ := exists_supply compiled.inputs
  have unique : (supply.map Prod.fst).Nodup := by
    rw [names_of_supplies supplies, names_of_compiles compiled.inputs]
    exact sound.inputs.unique
  obtain ⟨budget, policy⟩ := budgetOf_policy sound compiled fun error =>
    .invalidCompiledContract s!"resource policy is invalid: {error.message}"
  have resolved : resolveResources capsule.profile none = .ok budget := by
    simp only [resolveResources, Outcome.bind_eq_ok_iff]
    exact ⟨budget, policy, rfl⟩
  have accepted : ∃ invocation, verifyProfileCall capsule
      ⟨⟨manifest.name, manifest.version⟩, supply, none⟩ = .ok invocation := by
    refine exists_invocation sound compiled compiled.name.symm
      compiled.version.symm unique (fun input member => ?_)
      (fun slot value given => ?_) resolved
    · obtain ⟨⟨_, value⟩, supplied, rfl, artifact, valid⟩ :=
        Outcome.exists_right_of_mem supplies member
      exact ⟨value, artifact, supplied, valid⟩
    · obtain ⟨input, member, named, -⟩ :=
        Outcome.exists_left_of_mem supplies given
      exact ⟨input, member, named.symm⟩
  obtain ⟨invocation, verified⟩ := accepted
  exact ⟨_, invocation, rfl, verified⟩

end Bundle

/-! ### Declared outputs -/

/-- An output that can also be declared: neither its file name nor its media
type has control characters, and the media type is short. -/
structure OutputPresentable (output : BundleOutput) : Prop where
  fileName : ∀ char ∈ output.fileName.toList, isAsciiControl char = false
  shortMediaType : output.mediaType.utf8ByteSize ≤ 255
  mediaType : ∀ char ∈ output.mediaType.toList, isAsciiControl char = false

/-- The import does not check all that the declaration of an output checks. -/
theorem declared_iff {output : BundleOutput} (sound : OutputSound output) :
    (∀ maximum, 0 < maximum → ∃ declared,
      DeclaredOutputArtifact.new output.fileName output.mediaType
        (min output.maximumBytes maximum) = .ok declared) ↔
      OutputPresentable output := by
  have named := sound.fileName
  simp only [isRelativeFilename, Bool.and_eq_true, decide_eq_true_eq] at named
  have positive : ∀ maximum, 0 < maximum →
      min output.maximumBytes maximum ≠ 0 := by
    have notZero := sound.maximumBytes
    omega
  simp only [DeclaredOutputArtifact.new_ok_iff, validOutputFileName,
    validOutputMediaType, Bool.and_eq_true, decide_eq_true_eq,
    Bool.not_eq_true', List.any_eq_false, Bool.not_eq_true]
  constructor
  · intro declared
    obtain ⟨⟨-, fileName⟩, ⟨⟨-, short⟩, mediaType⟩, -⟩ := declared 1 Nat.one_pos
    exact ⟨fileName, short, mediaType⟩
  · intro presentable maximum isPositive
    exact ⟨⟨⟨⟨⟨⟨named.1.1.1.1.1, by simpa using named.1.1.1.2⟩,
        by simpa using named.1.1.2⟩, named.1.2⟩, named.2⟩,
        presentable.fileName⟩,
      ⟨⟨sound.mediaType, presentable.shortMediaType⟩,
        presentable.mediaType⟩, positive maximum isPositive⟩

/-- A Bundle that the import accepts can be compiled, declared and called,
exactly if its output has a printable file name and a short printable media
type. -/
theorem installed_invocable_iff {sha256 : Sha256Digest}
    {manifest : BundleManifest} {profile : BundleProfile}
    (accepted : validateBundle sha256 manifest profile = .ok ())
    (digest : Sha256Digest) :
    (∃ capsule, CompiledCapsule.fromVerifiedInspection
          (.of digest manifest profile) = .ok capsule ∧
        (∀ maximum, 0 < maximum → ∃ declared,
          DeclaredOutputArtifact.new capsule.profile.output.fileName
            capsule.profile.output.mediaType
            (min capsule.profile.output.maximumBytes maximum) = .ok declared) ∧
        (∀ call reason, verifyProfileCall capsule call ≠
          .error (.invalidCompiledContract reason)) ∧
        ∃ call invocation, call.resourceOverrides = none ∧
          verifyProfileCall capsule call = .ok invocation) ↔
      OutputPresentable profile.output := by
  have sound := validateBundle_eq_ok_iff.mp accepted
  obtain ⟨capsule, compiles, compiled⟩ :
      ∃ capsule, CompiledCapsule.fromVerifiedInspection
          (.of digest manifest profile) = .ok capsule ∧
        Compiled manifest profile capsule :=
    fromVerifiedInspection_of_sound sound
  rw [← declared_iff sound.output]
  constructor
  · rintro ⟨other, again, declared, -⟩
    rw [compiles] at again
    cases again
    rwa [compiled.output] at declared
  · intro declared
    refine ⟨capsule, compiles, ?_,
      verifyProfileCall_ne_contract sound compiled,
      exists_verified_call sound compiled⟩
    rwa [compiled.output]

theorem installed_invocable_iff_audio :
    validateBundle zeroDigest audioBundle audioProfile = .ok () ∧
      ((∃ capsule, CompiledCapsule.fromVerifiedInspection
            (.of zeroDigest audioBundle audioProfile) = .ok capsule ∧
          (∀ maximum, 0 < maximum → ∃ declared,
            DeclaredOutputArtifact.new capsule.profile.output.fileName
              capsule.profile.output.mediaType
              (min capsule.profile.output.maximumBytes maximum) =
                .ok declared) ∧
          (∀ call reason, verifyProfileCall capsule call ≠
            .error (.invalidCompiledContract reason)) ∧
          ∃ call invocation, call.resourceOverrides = none ∧
            verifyProfileCall capsule call = .ok invocation) ↔
        OutputPresentable audioProfile.output) :=
  have accepted := validateBundle_eq_ok_iff.mpr sound_audio
  ⟨accepted, installed_invocable_iff accepted zeroDigest⟩

/-- The Profile with a line break in the file name of its output. -/
def brokenProfile : BundleProfile :=
  { audioProfile with
    output := { audioProfile.output with fileName := "result\n.wav" } }

/-- The import accepts that Profile, but its output can never be declared. -/
theorem brokenProfile_not_declared :
    validateBundle zeroDigest audioBundle brokenProfile = .ok () ∧
      DeclaredOutputArtifact.new brokenProfile.output.fileName
        brokenProfile.output.mediaType
        (min brokenProfile.output.maximumBytes 1024) = .error .fileName := by
  decide +kernel

end Capsule
end TaskCage
