import TaskCage.Capsule.Plan

/-!
# Recognisers of names

The invocation contract, the Profile registry and the import of Bundles each
have their own recognisers of versions and of slot names, which go over bytes
and over the pieces of a split.  They accept the same slots, and the same
versions up to the size of the numbers in the versions of Bundles.
-/

namespace TaskCage
namespace Capsule

/-- The bytes of a text. -/
def textBytes (chars : List Char) : List UInt8 :=
  chars.flatMap String.utf8EncodeChar

def isAsciiLowercase (byte : UInt8) : Bool :=
  97 ≤ byte && byte ≤ 122

def isAsciiDigit (byte : UInt8) : Bool :=
  48 ≤ byte && byte ≤ 57

/-- A byte of a slot name behind the first. -/
def isSlotByte (byte : UInt8) : Bool :=
  isAsciiLowercase byte || isAsciiDigit byte || byte = 95 || byte = 45

/-- A component of a version, which is written out in the contract and a
function of the registry. -/
def validVersionComponent (value : List Char) : Bool :=
  value ≠ [] && (textBytes value).all isAsciiDigit &&
    (value = ['0'] || value.head? ≠ some '0')

namespace InvocationContract

/-- The check of a version: three components are taken from the split, and no
fourth may follow. -/
def validProfileVersion (value : String) : Bool :=
  let components := value.toList.splitOn '.'
  (components.take 3).all validVersionComponent &&
    (components.drop 3).head?.isNone && components.length = 3

/-- The check of the name of a slot. -/
def validSlotName (value : String) : Bool :=
  let bytes := textBytes value.toList
  bytes ≠ [] && bytes.length ≤ 64 && bytes.head?.any isAsciiLowercase &&
    (bytes.drop 1).all isSlotByte

end InvocationContract

namespace ProfileRegistry

/-- The check of the identity of a Profile. -/
def validateProfileIdentity (profile : ProfileIdentity) :
    Except ProfileError Unit := do
  Outcome.require (Names.isValidCapsuleName profile.name)
    ⟨.invalidProfileInput,
      "profile.name must use dot-separated [a-z][a-z0-9-]* segments " ++
        "(maximum 63 bytes)"⟩
  Outcome.require
    ((profile.version.toList.splitOn '.').all validVersionComponent &&
      (profile.version.toList.splitOn '.').length = 3)
    ⟨.invalidProfileInput, "profile.version must be strict MAJOR.MINOR.PATCH"⟩

/-- The check of the name of a slot. -/
def validateSlotName (value : String) : Except ProfileError Unit :=
  let bytes := textBytes value.toList
  if bytes = [] || bytes.length > 64 || !bytes.head?.any isAsciiLowercase ||
      !(bytes.drop 1).all isSlotByte then
    .error ⟨.invalidProfileInput,
      "profile input slot names must match [a-z][a-z0-9_-]\x7b0,63\x7d"⟩
  else
    .ok ()

end ProfileRegistry

namespace BundleCatalog

/-- The check of the name of a slot, byte by byte with its index. -/
def validateSlot (value : String) : Except BundleError Unit :=
  let bytes := textBytes value.toList
  if bytes = [] || bytes.length > 64 ||
      !bytes.zipIdx.all fun (byte, index) =>
        if index = 0 then isAsciiLowercase byte else isSlotByte byte then
    .error (.manifest "Profile slot name이 잘못되었습니다")
  else
    .ok ()

end BundleCatalog

/-! ### Versions -/

theorem isAsciiDigit_of_isDigit {char : Char} (digit : char.isDigit = true) :
    (String.utf8EncodeChar char).all isAsciiDigit = true := by
  have most : char.toNat ≤ 57 := (Char.isDigit_iff_toNat.1 digit).2
  exact Json.forall_ascii (fun char => char.isDigit = true →
    (String.utf8EncodeChar char).all isAsciiDigit = true) (by decide) char
    (Nat.lt_of_le_of_lt most (by decide)) digit

theorem validVersionComponent_of_isNumeral {value : List Char}
    (numeral : Decimal.isNumeral value = true) :
    validVersionComponent value = true := by
  obtain ⟨filled, digits, zero⟩ := Decimal.isNumeral_iff.mp numeral
  have bytes : (textBytes value).all isAsciiDigit = true := by
    rw [textBytes, List.all_flatMap, List.all_eq_true]
    exact fun char member => isAsciiDigit_of_isDigit (digits char member)
  simp [validVersionComponent, filled, bytes, zero]

/-- Of three components three are taken and nothing is left. -/
theorem InvocationContract.validProfileVersion_eq (value : String) :
    InvocationContract.validProfileVersion value =
      ((value.toList.splitOn '.').all validVersionComponent &&
        (value.toList.splitOn '.').length = 3) := by
  unfold InvocationContract.validProfileVersion
  generalize value.toList.splitOn '.' = components
  by_cases three : components.length = 3
  · have taken : components.take 3 = components :=
      List.take_of_length_le (Nat.le_of_eq three)
    have dropped : components.drop 3 = [] :=
      List.drop_of_length_le (Nat.le_of_eq three)
    simp [taken, dropped]
  · simp [three]

theorem InvocationContract.validProfileVersion_of_release {version : String}
    (release : isCanonicalRelease version = true) :
    InvocationContract.validProfileVersion version = true := by
  have valid := Capsule.validProfileVersion_of_release release
  unfold Capsule.validProfileVersion at valid
  rw [InvocationContract.validProfileVersion_eq]
  rw [Bool.and_eq_true, List.all_eq_true] at valid ⊢
  exact ⟨fun part member => validVersionComponent_of_isNumeral
    (valid.1 part member), valid.2⟩

theorem ProfileRegistry.validateProfileIdentity_eq_ok_iff
    {profile : ProfileIdentity} :
    ProfileRegistry.validateProfileIdentity profile = .ok () ↔
      Names.isValidCapsuleName profile.name = true ∧
        InvocationContract.validProfileVersion profile.version = true := by
  unfold ProfileRegistry.validateProfileIdentity
  rw [InvocationContract.validProfileVersion_eq, Outcome.seq_eq_ok_iff,
    Outcome.require_eq_ok_iff, Outcome.require_eq_ok_iff]

/-! ### Slots -/

theorem ProfileRegistry.validateSlotName_eq_ok_iff {value : String} :
    ProfileRegistry.validateSlotName value = .ok () ↔
      InvocationContract.validSlotName value = true := by
  simp only [ProfileRegistry.validateSlotName, InvocationContract.validSlotName]
  cases textBytes value.toList with
  | nil => simp
  | cons first rest => simp [and_assoc]

/-- Behind the first byte the index does not matter. -/
theorem all_zipIdx_succ (bytes : List UInt8) (start : ℕ) :
    ((bytes.zipIdx (start + 1)).all fun (byte, index) =>
      if index = 0 then isAsciiLowercase byte else isSlotByte byte) =
        bytes.all isSlotByte := by
  induction bytes generalizing start with
  | nil => rfl
  | cons byte bytes inductionHypothesis =>
      rw [List.zipIdx_cons, List.all_cons, List.all_cons, inductionHypothesis]
      rfl

theorem BundleCatalog.validateSlot_eq_ok_iff {value : String} :
    BundleCatalog.validateSlot value = .ok () ↔
      InvocationContract.validSlotName value = true := by
  simp only [BundleCatalog.validateSlot, InvocationContract.validSlotName]
  cases textBytes value.toList with
  | nil => simp
  | cons first rest =>
      rw [List.zipIdx_cons, List.all_cons, all_zipIdx_succ]
      simp [and_assoc]

/-- The duplicated recognisers agree: on the versions of Profiles, on the names
of slots, and on the versions of Bundles. -/
theorem recognisers_agree :
    (∀ name version,
      ProfileRegistry.validateProfileIdentity ⟨name, version⟩ = .ok () ↔
        Names.isValidCapsuleName name = true ∧
          InvocationContract.validProfileVersion version = true) ∧
      (∀ value,
        (InvocationContract.validSlotName value = true ↔
          ProfileRegistry.validateSlotName value = .ok ()) ∧
        (InvocationContract.validSlotName value = true ↔
          BundleCatalog.validateSlot value = .ok ())) ∧
      ∀ name version, validateIdentity name version = .ok () →
        InvocationContract.validProfileVersion version = true := by
  refine ⟨fun name version => ?_, fun value => ⟨?_, ?_⟩,
    fun name version accepted => ?_⟩
  · exact ProfileRegistry.validateProfileIdentity_eq_ok_iff
  · exact ProfileRegistry.validateSlotName_eq_ok_iff.symm
  · exact BundleCatalog.validateSlot_eq_ok_iff.symm
  · exact InvocationContract.validProfileVersion_of_release
      (validateIdentity_eq_ok_iff.mp accepted).2

/-- The version of a Bundle that is imported. -/
theorem recognisers_agree_release :
    validateIdentity "tool" "1.20.3" = .ok () ∧
      InvocationContract.validProfileVersion "1.20.3" = true :=
  have accepted : validateIdentity "tool" "1.20.3" = .ok () := by
    decide +kernel
  ⟨accepted, recognisers_agree.2.2 _ _ accepted⟩

end Capsule
end TaskCage
