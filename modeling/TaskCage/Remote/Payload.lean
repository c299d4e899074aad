import TaskCage.Core.Names
import TaskCage.Core.Submission
import TaskCage.Foundation.Canonical
import TaskCage.Foundation.OrderedTable

/-!
# Payloads of Remote submissions

A submission as it comes over the wire, and its JSON form.  Absent fields are
left out.  The members of every object are written in the order of their
names, which the canonicalizer sorts again.
-/

namespace TaskCage
namespace Remote

open Json

/-! ### Payloads -/

/-- The value of an input slot. -/
inductive RemoteProfileInputValue where
  | string (value : String)
  | int64 (value : ℤ)
  | boolean (value : Bool)
  | managedInput (artifactId : String)
deriving DecidableEq

/-- CPU time for each period. -/
structure CpuMax where
  quotaMicros : ℕ
  periodMicros : ℕ
deriving DecidableEq

/-- The resource limits that a submission overrides. -/
structure PartialResourceLimits where
  cpuMax : Option CpuMax
  memoryMaxBytes : Option ℕ
  pidsMax : Option ℕ
  wallTimeLimitMs : Option ℕ
deriving DecidableEq

/-- The output limits that a submission overrides. -/
structure PartialOutputLimits where
  stdoutTailMaxBytes : Option ℕ
  stderrTailMaxBytes : Option ℕ
deriving DecidableEq

/-- What a submission overrides. -/
structure RemoteResourceOverrides where
  limits : Option PartialResourceLimits
  output : Option PartialOutputLimits
deriving DecidableEq

/-- A submission. -/
structure RemoteProfileRequestPayload where
  clientRequestId : String
  profile : ProfileIdentity
  inputs : OrderedTable String RemoteProfileInputValue
  resourceOverrides : Option RemoteResourceOverrides

/-- The check of an input value: artifact identifiers have the form of a UUID,
and numbers are those of the wire type. -/
def RemoteProfileInputValue.valid : RemoteProfileInputValue → Bool
  | .managedInput artifactId => Names.isUuid artifactId
  | .int64 value => -2 ^ 63 ≤ value && value < 2 ^ 63
  | .string _ => true
  | .boolean _ => true

/-- The check of the identifiers of a submission. -/
def RemoteProfileRequestPayload.validateEnvelope
    (payload : RemoteProfileRequestPayload) : Bool :=
  Names.isUuid payload.clientRequestId &&
    payload.inputs.entries.all fun entry => entry.2.valid

/-! ### JSON forms -/

/-- A member that is left out when it is absent. -/
def optional {α : Type} (key : String) (form : α → Json) :
    Option α → List (String × Json)
  | none => []
  | some value => [(key, form value)]

/-- A natural number. -/
def natural (value : ℕ) : Json :=
  .number value

namespace RemoteProfileInputValue

/-- The value of an input slot, with its kind. -/
def toJson : RemoteProfileInputValue → Json
  | .string value => .object [("kind", .string "STRING"),
      ("value", .string value)]
  | .int64 value => .object [("kind", .string "INT64"),
      ("value", .number value)]
  | .boolean value => .object [("kind", .string "BOOLEAN"),
      ("value", .bool value)]
  | .managedInput artifactId => .object [("artifactId", .string artifactId),
      ("kind", .string "MANAGED_INPUT")]

end RemoteProfileInputValue

def CpuMax.toJson (cpu : CpuMax) : Json :=
  .object [("periodMicros", natural cpu.periodMicros),
    ("quotaMicros", natural cpu.quotaMicros)]

def PartialResourceLimits.toJson (limits : PartialResourceLimits) : Json :=
  .object
    (optional "cpuMax" CpuMax.toJson limits.cpuMax ++
      (optional "memoryMaxBytes" natural limits.memoryMaxBytes ++
        (optional "pidsMax" natural limits.pidsMax ++
          optional "wallTimeLimitMs" natural limits.wallTimeLimitMs)))

def PartialOutputLimits.toJson (limits : PartialOutputLimits) : Json :=
  .object
    (optional "stderrTailMaxBytes" natural limits.stderrTailMaxBytes ++
      optional "stdoutTailMaxBytes" natural limits.stdoutTailMaxBytes)

def RemoteResourceOverrides.toJson (overrides : RemoteResourceOverrides) :
    Json :=
  .object
    (optional "limits" PartialResourceLimits.toJson overrides.limits ++
      optional "output" PartialOutputLimits.toJson overrides.output)

/-- The form of the Profile of a submission. -/
def profileJson (profile : ProfileIdentity) : Json :=
  .object [("name", .string profile.name), ("version", .string profile.version)]

/-- The members of the inputs of a submission. -/
def inputMembers (inputs : List (String × RemoteProfileInputValue)) :
    List (String × Json) :=
  inputs.map fun entry => (entry.1, entry.2.toJson)

def RemoteProfileRequestPayload.toJson
    (payload : RemoteProfileRequestPayload) : Json :=
  .object
    ([("clientRequestId", .string payload.clientRequestId),
        ("inputs", .object (inputMembers payload.inputs.entries)),
        ("profile", profileJson payload.profile)] ++
      optional "resourceOverrides" RemoteResourceOverrides.toJson
        payload.resourceOverrides)

/-- The canonical text of a submission. -/
def canonicalPayload (payload : RemoteProfileRequestPayload) : List Char :=
  canonical payload.toJson

/-! ### The form determines the payload -/

/-! ### The form is ordered -/

theorem ordered_object {members : List (String × Json)} {names : List String}
    (named : (members.map Prod.fst).Sublist names)
    (increasing : names.Pairwise fun first second => first < second)
    (values : ∀ member ∈ members, Ordered member.2) :
    Ordered (.object members) :=
  ⟨List.pairwise_map.mp (increasing.sublist named),
    orderedMembers_iff.mpr values⟩

theorem ordered_pair {first second : String} {value other : Json}
    (increasing : first < second) (ordered : Ordered value)
    (otherOrdered : Ordered other) :
    Ordered (.object [(first, value), (second, other)]) :=
  ⟨List.pairwise_pair.mpr increasing, ordered, otherOrdered, trivial⟩

theorem map_fst_optional {α : Type} (key : String) (form : α → Json)
    (value : Option α) :
    ((optional key form value).map Prod.fst).Sublist [key] := by
  cases value with
  | none => exact List.nil_sublist _
  | some value => exact List.Sublist.refl _

theorem map_fst_optional_append {α : Type} (key : String) (form : α → Json)
    (value : Option α) {rest : List (String × Json)} {names : List String}
    (named : (rest.map Prod.fst).Sublist names) :
    ((optional key form value ++ rest).map Prod.fst).Sublist
      (key :: names) := by
  rw [List.map_append]
  exact (map_fst_optional key form value).append named

theorem ordered_of_mem_optional {α : Type} {key : String} {form : α → Json}
    {value : Option α} (ordered : ∀ value, Ordered (form value))
    (member : String × Json) (found : member ∈ optional key form value) :
    Ordered member.2 := by
  cases value with
  | none => exact absurd found List.not_mem_nil
  | some value =>
      rw [List.mem_singleton.mp found]
      exact ordered value

theorem ordered_of_mem_append {first second : List (String × Json)}
    (firstOrdered : ∀ member ∈ first, Ordered member.2)
    (secondOrdered : ∀ member ∈ second, Ordered member.2)
    (member : String × Json) (found : member ∈ first ++ second) :
    Ordered member.2 :=
  (List.mem_append.mp found).elim (firstOrdered member) (secondOrdered member)

theorem ordered_natural (value : ℕ) : Ordered (natural value) :=
  trivial

theorem CpuMax.ordered_toJson (cpu : CpuMax) : Ordered cpu.toJson :=
  ordered_pair (by decide) (ordered_natural _) (ordered_natural _)

theorem PartialResourceLimits.ordered_toJson
    (limits : PartialResourceLimits) : Ordered limits.toJson := by
  refine ordered_object (map_fst_optional_append _ _ _
    (map_fst_optional_append _ _ _ (map_fst_optional_append _ _ _
      (map_fst_optional _ _ _)))) (by decide) ?_
  exact ordered_of_mem_append
    (ordered_of_mem_optional CpuMax.ordered_toJson)
    (ordered_of_mem_append (ordered_of_mem_optional ordered_natural)
      (ordered_of_mem_append (ordered_of_mem_optional ordered_natural)
        (ordered_of_mem_optional ordered_natural)))

theorem PartialOutputLimits.ordered_toJson (limits : PartialOutputLimits) :
    Ordered limits.toJson := by
  refine ordered_object (map_fst_optional_append _ _ _
    (map_fst_optional _ _ _)) (by decide) ?_
  exact ordered_of_mem_append (ordered_of_mem_optional ordered_natural)
    (ordered_of_mem_optional ordered_natural)

theorem RemoteResourceOverrides.ordered_toJson
    (overrides : RemoteResourceOverrides) : Ordered overrides.toJson := by
  refine ordered_object (map_fst_optional_append _ _ _
    (map_fst_optional _ _ _)) (by decide) ?_
  exact ordered_of_mem_append
    (ordered_of_mem_optional PartialResourceLimits.ordered_toJson)
    (ordered_of_mem_optional PartialOutputLimits.ordered_toJson)

theorem RemoteProfileInputValue.ordered_toJson
    (value : RemoteProfileInputValue) : Ordered value.toJson := by
  cases value
  all_goals exact ordered_pair (by decide) trivial trivial

theorem ordered_inputMembers
    (inputs : OrderedTable String RemoteProfileInputValue) :
    Ordered (.object (inputMembers inputs.entries)) := by
  refine ⟨List.pairwise_map.mpr inputs.sorted, orderedMembers_iff.mpr ?_⟩
  intro member found
  obtain ⟨entry, -, rfl⟩ := List.mem_map.mp found
  exact RemoteProfileInputValue.ordered_toJson entry.2

theorem ordered_profileJson (profile : ProfileIdentity) :
    Ordered (profileJson profile) :=
  ordered_pair (by decide) trivial trivial

theorem RemoteProfileRequestPayload.ordered_toJson
    (payload : RemoteProfileRequestPayload) : Ordered payload.toJson := by
  have increasing : ["clientRequestId", "inputs", "profile",
      "resourceOverrides"].Pairwise fun first second => first < second := by
    decide
  refine ordered_object (List.Sublist.cons_cons _ (List.Sublist.cons_cons _
    (List.Sublist.cons_cons _ (map_fst_optional _ _ _)))) increasing ?_
  refine ordered_of_mem_append ?_
    (ordered_of_mem_optional RemoteResourceOverrides.ordered_toJson)
  exact List.forall_mem_cons.mpr ⟨trivial, List.forall_mem_cons.mpr
    ⟨ordered_inputMembers _,
      List.forall_mem_singleton.mpr (ordered_profileJson _)⟩⟩

/-- The canonical texts of two submissions agree when the submissions do after
rounding. -/
theorem canonicalPayload_eq_iff
    (payload other : RemoteProfileRequestPayload) :
    canonicalPayload payload = canonicalPayload other ↔
      payload.toJson.rounded = other.toJson.rounded :=
  canonical_eq_iff payload.ordered_toJson other.ordered_toJson

end Remote
end TaskCage
