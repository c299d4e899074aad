import TaskCage.Capsule.Manifest
import TaskCage.Foundation.OrderedTable
import TaskCage.Foundation.Words

/-!
# Reading a Bundle archive

A Bundle comes as a compressed archive of three files and an optional
signature.  The archive is seen as the sequence of entries that its readers
deliver.  `Accepts` says which archives are meant to be accepted.
-/

namespace TaskCage
namespace Capsule

/-! ### Archives -/

/-- An entry as the readers deliver it. -/
structure ArchiveEntry where
  /-- The name, if it is UTF-8. -/
  path : Option String
  isFile : Bool
  /-- The size that the header announces. -/
  size : ℕ
  /-- The bytes, unless reading them failed. -/
  content : Except String (List UInt8)

/-- An archive, with the failures of the readers among its entries. -/
structure Archive where
  size : ℕ
  entries : List (Except String ArchiveEntry)

def bundleJson : String :=
  "bundle.json"

def profileJson : String :=
  "profile.json"

def checksumsTxt : String :=
  "checksums.txt"

def signatureSig : String :=
  "signature.sig"

/-- The files that an archive may have. -/
def memberNames : List String :=
  [bundleJson, profileJson, checksumsTxt, signatureSig]

def maxArchiveBytes : ℕ :=
  1048576

def maxFileBytes : ℕ :=
  262144

/-- The files of an archive by their names. -/
abbrev Members : Type :=
  List (String × List UInt8)

/-- The bytes of a file of the archive. -/
def Members.get (files : Members) (name : String) : Option (List UInt8) :=
  (files.find? fun file => file.1 = name).map Prod.snd

/-- A trusted key and the name it is known by. -/
structure TrustedBundleKey (Key : Type) where
  id : String
  key : Key

/-- What the reader takes from other libraries. -/
structure Tools (Key : Type) where
  sha256 : List UInt8 → Sha256Digest
  decodeBundle : List UInt8 → Except String BundleManifest
  decodeProfile : List UInt8 → Except String BundleProfile
  canonicalBundle : BundleManifest → Except String (List UInt8)
  canonicalProfile : BundleProfile → Except String (List UInt8)
  fromUtf8 : List UInt8 → Option (List Char)
  decodeBase64 : List Char → Except String (List UInt8)
  verify : Key → List UInt8 → List UInt8 → Bool

/-- How reading an archive fails: with an error for the caller, or by a panic
of the program. -/
inductive Failure where
  | error (error : BundleError)
  | abort (message : String)
deriving DecidableEq

/-- Code that may end with an error of the catalog. -/
def raise {Value : Type} : Except BundleError Value → Except Failure Value
  | .ok value => .ok value
  | .error error => .error (.error error)

/-- The value of an option that the program expects to be there. -/
def expect {Value : Type} (message : String) :
    Option Value → Except Failure Value
  | some value => .ok value
  | none => .error (.abort message)

/-! ### Members -/

/-- The file of an entry, if it is one that the archive may have. -/
def readEntry (files : Members) :
    Except String ArchiveEntry → Except BundleError (String × List UInt8)
  | .error reason => .error (.archive s!"tar entry를 읽지 못했습니다: {reason}")
  | .ok entry =>
      match entry.path with
      | none => .error (.archive "archive entry 이름은 UTF-8이어야 합니다")
      | some path => do
          Outcome.require (memberNames.contains path)
            (.archive s!"허용되지 않은 archive entry입니다: {path}")
          Outcome.require entry.isFile
            (.archive s!"archive entry는 regular file이어야 합니다: {path}")
          Outcome.require (entry.size ≤ maxFileBytes)
            (.archive s!"archive entry가 {maxFileBytes} bytes를 넘습니다: {path}")
          Outcome.require (!(files.map Prod.fst).contains path)
            (.archive s!"duplicate archive entry입니다: {path}")
          match entry.content with
          | .error reason =>
              .error (.archive s!"archive entry를 읽지 못했습니다: {reason}")
          | .ok content => do
              Outcome.require (content.length ≤ maxFileBytes)
                (.archive s!"archive entry가 {maxFileBytes} bytes를 넘습니다: {path}")
              return (path, content)

/-- The loop over the entries. -/
def readEntries (files : Members) :
    List (Except String ArchiveEntry) → Except BundleError Members
  | [] => .ok files
  | entry :: rest => do
      let file ← readEntry files entry
      readEntries (files ++ [file]) rest

/-! ### Verification -/

/-- The text that the checksums must be. -/
def expectedChecksums (bundle profile : Sha256Digest) : List Char :=
  bundle.hex ++ "  bundle.json\n".toList ++ profile.hex ++
    "  profile.json\n".toList

/-- The bytes of a text. -/
def utf8 (text : List Char) : List UInt8 :=
  text.flatMap String.utf8EncodeChar

variable {Key : Type} (tools : Tools Key)

/-- The check of the checksums. -/
def verifyChecksums (checksums bundle profile : List UInt8) :
    Except BundleError Unit :=
  Outcome.require
    (checksums =
      utf8 (expectedChecksums (tools.sha256 bundle) (tools.sha256 profile)))
    (.archive
      ("checksums.txt는 bundle.json/profile.json의 exact SHA-256 " ++
        "두 줄이어야 합니다"))

/-- The decoded form of a manifest. -/
def decodeManifest {Manifest : Type}
    (decode : List UInt8 → Except String Manifest) (bytes : List UInt8)
    (name : String) : Except BundleError Manifest := do
  Outcome.require (bytes ≠ [] && bytes.length ≤ maxFileBytes)
    (.manifest s!"{name} size가 잘못되었습니다")
  match decode bytes with
  | .ok manifest => .ok manifest
  | .error reason => .error (.manifest s!"{name}: {reason}")

/-- The check of the signature of the checksums. -/
def verifySignature (bundle : BundleManifest)
    (checksums signature : List UInt8) (keys : List (TrustedBundleKey Key)) :
    Except BundleError Unit := do
  match keys.find? fun key => key.id = bundle.signingKeyId with
  | none =>
      .error (.signature
        s!"configured trusted key가 없습니다: {bundle.signingKeyId}")
  | some key =>
      match tools.fromUtf8 signature with
      | none => .error (.signature "signature.sig는 base64 ASCII여야 합니다")
      | some text =>
          match tools.decodeBase64 (Words.trimEnd text) with
          | .error reason =>
              .error (.signature s!"signature.sig base64가 잘못되었습니다: {reason}")
          | .ok bytes => do
              Outcome.require (bytes.length = 64)
                (.signature "signature.sig는 64-byte Ed25519 signature여야 합니다")
              Outcome.require (tools.verify key.key checksums bytes)
                (.signature "Ed25519 signature가 trusted key와 일치하지 않습니다")

/-- The canonical form of a manifest. -/
def canonicalJson {Manifest : Type}
    (canonical : Manifest → Except String (List UInt8))
    (manifest : Manifest) : Except BundleError (List UInt8) :=
  match canonical manifest with
  | .ok bytes => .ok bytes
  | .error reason => .error (.manifest s!"canonical JSON을 만들지 못했습니다: {reason}")

/-- The digest of a Bundle is that of its two canonical forms with a zero byte
between them. -/
def bundleDigest (bundle profile : List UInt8) : Sha256Digest :=
  tools.sha256 (bundle ++ [0] ++ profile)

/-- An archive that passed all checks. -/
structure VerifiedArchive where
  bundle : BundleManifest
  digest : Sha256Digest
  bundleRaw : List UInt8
  profileRaw : List UInt8

/-- The number of files that an archive may have. -/
def allowedCount (allowUnsigned : Bool) (count : ℕ) : Bool :=
  if allowUnsigned then 3 ≤ count && count ≤ 4 else count = 4

/-- In signed mode the signature must be there and must fit. -/
def requireSignature (files : Members) (keys : List (TrustedBundleKey Key))
    (allowUnsigned : Bool) (bundle : BundleManifest)
    (checksums : List UInt8) : Except BundleError Unit :=
  if allowUnsigned then .ok ()
  else
    match files.get signatureSig with
    | none => .error (.signature "signature.sig가 필요합니다")
    | some signature => verifySignature tools bundle checksums signature keys

/-- The checks of the files of an archive, once they are there. -/
def verifyMembers (files : Members) (keys : List (TrustedBundleKey Key))
    (allowUnsigned : Bool) (bundleRaw profileRaw checksums : List UInt8) :
    Except BundleError VerifiedArchive := do
  verifyChecksums tools checksums bundleRaw profileRaw
  let bundle ← decodeManifest tools.decodeBundle bundleRaw bundleJson
  let profile ← decodeManifest tools.decodeProfile profileRaw profileJson
  validateBundle (tools.sha256 profileRaw) bundle profile
  requireSignature tools files keys allowUnsigned bundle checksums
  let bundleCanonical ← canonicalJson tools.canonicalBundle bundle
  let profileCanonical ← canonicalJson tools.canonicalProfile profile
  return ⟨bundle, bundleDigest tools bundleCanonical profileCanonical,
    bundleRaw, profileRaw⟩

/-- What follows when all entries were read.  The number of names stands for
the presence of the three files. -/
def openMembers (files : Members) (keys : List (TrustedBundleKey Key))
    (allowUnsigned : Bool) : Except Failure VerifiedArchive := do
  raise (Outcome.require (allowedCount allowUnsigned files.length)
    (.archive
      (if allowUnsigned then
        "basic archive는 bundle.json, profile.json, checksums.txt와 " ++
          "선택적인 signature.sig만 가져야 합니다"
      else
        "archive는 bundle.json, profile.json, checksums.txt, signature.sig만 " ++
          "가져야 합니다")))
  let bundleRaw ← expect "checked" (files.get bundleJson)
  let profileRaw ← expect "checked" (files.get profileJson)
  let checksums ← expect "checked" (files.get checksumsTxt)
  raise (verifyMembers tools files keys allowUnsigned bundleRaw profileRaw
    checksums)

/-- The reader of archives. -/
def VerifiedArchive.read (archive : Archive)
    (keys : List (TrustedBundleKey Key)) (allowUnsigned : Bool) :
    Except Failure VerifiedArchive := do
  raise (Outcome.require
    (archive.size ≠ 0 && archive.size ≤ maxArchiveBytes)
    (.archive s!"archive size는 1..={maxArchiveBytes} bytes여야 합니다"))
  let files ← raise (readEntries [] archive.entries)
  openMembers tools files keys allowUnsigned

/-! ### What is meant to be accepted -/

/-- The entry is a regular file within the limits, with this name and these
bytes. -/
structure Delivers (entry : Except String ArchiveEntry)
    (file : String × List UInt8) : Prop where
  found : ∃ size ≤ maxFileBytes,
    entry = .ok ⟨some file.1, true, size, .ok file.2⟩
  short : file.2.length ≤ maxFileBytes

/-- The entries are these files, each at most once and none that an archive
may not have. -/
structure Holds (entries : List (Except String ArchiveEntry))
    (files : Members) : Prop where
  delivered : List.Forall₂ Delivers entries files
  unique : (files.map Prod.fst).Nodup
  allowed : ∀ name ∈ files.map Prod.fst, name ∈ memberNames

/-- The signature file has an Ed25519 signature of the checksums by the trusted
key that the manifest names. -/
def SignedBy (keys : List (TrustedBundleKey Key)) (bundle : BundleManifest)
    (checksums signature : List UInt8) : Prop :=
  ∃ key text bytes,
    keys.find? (fun key => key.id = bundle.signingKeyId) = some key ∧
      tools.fromUtf8 signature = some text ∧
      tools.decodeBase64 (Words.trimEnd text) = .ok bytes ∧
      bytes.length = 64 ∧ tools.verify key.key checksums bytes = true

/-- An archive that is meant to be accepted. -/
def Accepts (keys : List (TrustedBundleKey Key)) (allowUnsigned : Bool)
    (archive : Archive) : Prop :=
  ∃ files bundleRaw profileRaw checksums bundle profile,
    Holds archive.entries files ∧
      (bundleJson, bundleRaw) ∈ files ∧ (profileJson, profileRaw) ∈ files ∧
      (checksumsTxt, checksums) ∈ files ∧
      checksums = utf8 (expectedChecksums (tools.sha256 bundleRaw)
        (tools.sha256 profileRaw)) ∧
      decodeManifest tools.decodeBundle bundleRaw bundleJson = .ok bundle ∧
      decodeManifest tools.decodeProfile profileRaw profileJson = .ok profile ∧
      validateBundle (tools.sha256 profileRaw) bundle profile = .ok () ∧
      (allowUnsigned = false → ∃ signature,
        (signatureSig, signature) ∈ files ∧
          SignedBy tools keys bundle checksums signature)

/-- A signature takes the place of one of the three files. -/
def Holed (allowUnsigned : Bool) (archive : Archive) : Prop :=
  allowUnsigned = true ∧ ∃ files, Holds archive.entries files ∧
    files.length = 3 ∧ signatureSig ∈ files.map Prod.fst

/-! ### Members -/

theorem raise_eq_ok_iff {Value : Type} {code : Except BundleError Value}
    {value : Value} : raise code = .ok value ↔ code = .ok value := by
  cases code with
  | ok found => simp [raise]
  | error error => simp [raise]

theorem expect_eq_ok_iff {Value : Type} {message : String}
    {found : Option Value} {value : Value} :
    expect message found = .ok value ↔ found = some value := by
  cases found with
  | some held => simp [expect]
  | none => simp [expect]

variable {files : Members} {entries : List (Except String ArchiveEntry)}
variable {name : String}

theorem Members.get_eq_some_iff {content : List UInt8}
    (unique : (files.map Prod.fst).Nodup) :
    files.get name = some content ↔ (name, content) ∈ files :=
  OrderedTable.find_eq_some_iff_mem unique

theorem Members.get_eq_none_iff :
    files.get name = none ↔ name ∉ files.map Prod.fst := by
  unfold Members.get
  rw [Option.map_eq_none_iff, List.find?_eq_none]
  simp only [decide_eq_true_eq, List.mem_map, not_exists, not_and]

theorem readEntry_eq_ok_iff {entry : Except String ArchiveEntry}
    {file : String × List UInt8} :
    readEntry files entry = .ok file ↔ Delivers entry file ∧
      file.1 ∈ memberNames ∧ file.1 ∉ files.map Prod.fst := by
  obtain ⟨name, bytes⟩ := file
  constructor
  · intro read
    unfold readEntry at read
    split at read
    · cases read
    · rename_i entry
      split at read
      · cases read
      · rename_i path pathIs
        simp only [Outcome.bind_eq_ok_iff, Outcome.require_eq_ok_iff] at read
        obtain ⟨_, allowed, _, isFile, _, small, _, fresh, read⟩ := read
        split at read
        · cases read
        · rename_i content contentIs
          simp only [Outcome.bind_eq_ok_iff, Outcome.require_eq_ok_iff] at read
          obtain ⟨_, short, ⟨⟩⟩ := read
          refine ⟨⟨⟨entry.size, by simpa using small, ?_⟩,
            by simpa using short⟩, by simpa using allowed,
            by simpa using fresh⟩
          rw [← pathIs, ← contentIs, ← isFile]
  · rintro ⟨⟨⟨size, small, rfl⟩, short⟩, allowed, fresh⟩
    have fresh' : (!(files.map Prod.fst).contains name) = true := by
      simpa using fresh
    simp only [readEntry, Outcome.bind_eq_ok_iff, Outcome.require_eq_ok_iff,
      List.contains_iff_mem, decide_eq_true_eq]
    exact ⟨(), allowed, (), trivial, (), small, (), fresh', (), short, rfl⟩

theorem readEntries_eq_ok_iff {before : Members} :
    readEntries before entries = .ok files ↔ ∃ later,
      files = before ++ later ∧ List.Forall₂ Delivers entries later ∧
        (later.map Prod.fst).Nodup ∧
        ∀ name ∈ later.map Prod.fst,
          name ∈ memberNames ∧ name ∉ before.map Prod.fst := by
  induction entries generalizing before with
  | nil =>
      constructor
      · rintro ⟨⟩
        exact ⟨[], (List.append_nil _).symm, .nil, List.nodup_nil, nofun⟩
      · rintro ⟨later, rfl, none, -⟩
        cases none
        rw [List.append_nil, readEntries]
  | cons entry rest inductionHypothesis =>
      rw [readEntries, Outcome.bind_eq_ok_iff]
      simp only [readEntry_eq_ok_iff, inductionHypothesis]
      constructor
      · rintro ⟨file, ⟨here, allowed, fresh⟩, later, rfl, delivered, unique,
          apart⟩
        refine ⟨file :: later, by simp, .cons here delivered, ?_, ?_⟩
        · rw [List.map_cons, List.nodup_cons]
          exact ⟨fun again => (apart _ again).2 (by simp), unique⟩
        · rw [List.map_cons, List.forall_mem_cons]
          refine ⟨⟨allowed, fresh⟩, fun name member =>
            ⟨(apart name member).1, fun known => (apart name member).2 ?_⟩⟩
          rw [List.map_append]
          exact List.mem_append_left _ known
      · rintro ⟨later, rfl, delivered, unique, apart⟩
        cases delivered with
        | cons here delivered =>
            rename_i file later
            rw [List.map_cons, List.nodup_cons] at unique
            rw [List.map_cons, List.forall_mem_cons] at apart
            refine ⟨file, ⟨here, apart.1⟩, later, by simp, delivered, unique.2,
              fun name member => ⟨(apart.2 name member).1, ?_⟩⟩
            rw [List.map_append, List.mem_append, not_or]
            refine ⟨(apart.2 name member).2, fun same => unique.1 ?_⟩
            rw [List.map_singleton, List.mem_singleton] at same
            exact same ▸ member

/-- The loop over the entries ends with the files of the archive. -/
theorem readEntries_nil_eq_ok_iff :
    readEntries [] entries = .ok files ↔ Holds entries files := by
  rw [readEntries_eq_ok_iff]
  constructor
  · rintro ⟨later, rfl, delivered, unique, allowed⟩
    exact ⟨delivered, unique, fun name member => (allowed name member).1⟩
  · intro holds
    exact ⟨files, rfl, holds.delivered, holds.unique, fun name member =>
      ⟨holds.allowed name member, nofun⟩⟩

theorem Holds.eq {others : Members} (holds : Holds entries files)
    (again : Holds entries others) : files = others := by
  have first := readEntries_nil_eq_ok_iff.mpr holds
  rw [readEntries_nil_eq_ok_iff.mpr again] at first
  exact (Except.ok.inj first).symm

/-! ### Names -/

/-- The files that every archive must have. -/
def requiredNames : List String :=
  [bundleJson, profileJson, checksumsTxt]

/-- A list without repetitions that lies in another one and is not shorter has
all of its elements. -/
theorem subset_of_length_le {names others : List String}
    (unique : names.Nodup) (within : names ⊆ others)
    (long : others.length ≤ names.length) : others ⊆ names :=
  (List.Subperm.perm_of_length_le (List.Nodup.subperm unique within)
    long).symm.subset

section Counting

theorem Holds.length_le (holds : Holds entries files) : files.length ≤ 4 := by
  have few := (List.Nodup.subperm holds.unique holds.allowed).length_le
  rwa [List.length_map] at few

theorem Holds.length_of_required
    (required : requiredNames ⊆ files.map Prod.fst) : 3 ≤ files.length := by
  have long := (List.Nodup.subperm (by decide) required).length_le
  rwa [List.length_map] at long

theorem Holds.length_of_all (all : memberNames ⊆ files.map Prod.fst) :
    4 ≤ files.length := by
  have long := (List.Nodup.subperm (by decide) all).length_le
  rwa [List.length_map] at long

/-- Three files and no signature, or four files, are all that is required. -/
theorem Holds.required (holds : Holds entries files) (long : 3 ≤ files.length)
    (whole : files.length = 3 → signatureSig ∉ files.map Prod.fst) :
    requiredNames ⊆ files.map Prod.fst := by
  have size : (files.map Prod.fst).length = files.length := List.length_map _
  by_cases three : files.length = 3
  · refine subset_of_length_le holds.unique (fun name member => ?_)
      (by rw [size, three]; decide)
    have known := holds.allowed name member
    have other : name ≠ signatureSig := fun same => whole three (same ▸ member)
    simp only [memberNames, List.mem_cons, List.not_mem_nil] at known
    simp only [requiredNames, List.mem_cons, List.not_mem_nil]
    tauto
  · have all : memberNames ⊆ files.map Prod.fst :=
      subset_of_length_le holds.unique holds.allowed
        (by rw [size]; change 4 ≤ _; omega)
    exact fun name member => all (by
      revert name
      decide)

end Counting

/-! ### Acceptance -/

section Acceptance

variable {tools} {keys : List (TrustedBundleKey Key)} {allowUnsigned : Bool}
variable {archive : Archive} {checksums : List UInt8}
variable {bundle : BundleManifest} {done : Unit}
variable {bundleRaw profileRaw : List UInt8} {message : String}

theorem verifySignature_eq_ok_iff {signature : List UInt8} :
    verifySignature tools bundle checksums signature keys = .ok done ↔
      SignedBy tools keys bundle checksums signature := by
  unfold verifySignature SignedBy
  cases keys.find? fun key => key.id = bundle.signingKeyId with
  | none => simp
  | some key =>
      cases utf : tools.fromUtf8 signature with
      | none => simp
      | some text =>
          cases base : tools.decodeBase64 (Words.trimEnd text) with
          | error reason => simp [base]
          | ok bytes =>
              simp [base, Outcome.seq_eq_ok_iff, Outcome.require_eq_ok_iff]

theorem canonicalJson_eq_ok_iff {Manifest : Type}
    {canonical : Manifest → Except String (List UInt8)}
    {manifest : Manifest} {bytes : List UInt8} :
    canonicalJson canonical manifest = .ok bytes ↔
      canonical manifest = .ok bytes := by
  unfold canonicalJson
  cases canonical manifest <;> simp

theorem requireSignature_eq_ok_iff (unique : (files.map Prod.fst).Nodup) :
    requireSignature tools files keys allowUnsigned bundle checksums =
        .ok done ↔
      (allowUnsigned = false → ∃ signature,
        (signatureSig, signature) ∈ files ∧
          SignedBy tools keys bundle checksums signature) := by
  unfold requireSignature
  cases allowUnsigned with
  | true => simp
  | false =>
      simp only [← Members.get_eq_some_iff unique, Bool.false_eq_true,
        if_false, true_implies]
      cases files.get signatureSig with
      | none => simp
      | some signature => simp [verifySignature_eq_ok_iff]

/-- What the files must be beyond their presence. -/
def Verified (tools : Tools Key) (keys : List (TrustedBundleKey Key))
    (allowUnsigned : Bool) (files : Members)
    (bundleRaw profileRaw checksums : List UInt8) : Prop :=
  ∃ bundle profile,
    checksums = utf8 (expectedChecksums (tools.sha256 bundleRaw)
      (tools.sha256 profileRaw)) ∧
    decodeManifest tools.decodeBundle bundleRaw bundleJson = .ok bundle ∧
    decodeManifest tools.decodeProfile profileRaw profileJson = .ok profile ∧
    validateBundle (tools.sha256 profileRaw) bundle profile = .ok () ∧
    (allowUnsigned = false → ∃ signature,
      (signatureSig, signature) ∈ files ∧
        SignedBy tools keys bundle checksums signature)

theorem verifyMembers_ok_iff
    (bundleCanonical : ∀ bundle, ∃ bytes,
      tools.canonicalBundle bundle = .ok bytes)
    (profileCanonical : ∀ profile, ∃ bytes,
      tools.canonicalProfile profile = .ok bytes)
    (unique : (files.map Prod.fst).Nodup) :
    (∃ verified, verifyMembers tools files keys allowUnsigned bundleRaw
        profileRaw checksums = .ok verified) ↔
      Verified tools keys allowUnsigned files bundleRaw profileRaw
        checksums := by
  simp only [verifyMembers, verifyChecksums, Outcome.bind_eq_ok_iff,
    Outcome.require_eq_ok_iff, requireSignature_eq_ok_iff unique,
    canonicalJson_eq_ok_iff, decide_eq_true_eq]
  constructor
  · rintro ⟨_, _, checked, bundle, decoded, profile, decodedProfile, _, valid,
      _, signed, -⟩
    exact ⟨bundle, profile, checked, decoded, decodedProfile, valid, signed⟩
  · rintro ⟨bundle, profile, checked, decoded, decodedProfile, valid, signed⟩
    obtain ⟨bundleBytes, first⟩ := bundleCanonical bundle
    obtain ⟨profileBytes, second⟩ := profileCanonical profile
    exact ⟨_, (), checked, bundle, decoded, profile, decodedProfile, (), valid,
      (), signed, bundleBytes, first, profileBytes, second, rfl⟩

/-- An archive that is meant to be accepted, in terms of its files. -/
theorem accepts_iff (holds : Holds archive.entries files) :
    Accepts tools keys allowUnsigned archive ↔
      ∃ bundleRaw profileRaw checksums,
        files.get bundleJson = some bundleRaw ∧
          files.get profileJson = some profileRaw ∧
          files.get checksumsTxt = some checksums ∧
          Verified tools keys allowUnsigned files bundleRaw profileRaw
            checksums := by
  simp only [Members.get_eq_some_iff holds.unique]
  constructor
  · rintro ⟨others, bundleRaw, profileRaw, checksums, bundle, profile, again,
      hasBundle, hasProfile, hasChecksums, verified⟩
    cases holds.eq again
    exact ⟨bundleRaw, profileRaw, checksums, hasBundle, hasProfile,
      hasChecksums, bundle, profile, verified⟩
  · rintro ⟨bundleRaw, profileRaw, checksums, hasBundle, hasProfile,
      hasChecksums, bundle, profile, verified⟩
    exact ⟨files, bundleRaw, profileRaw, checksums, bundle, profile, holds,
      hasBundle, hasProfile, hasChecksums, verified⟩

theorem raise_ne_abort {Value : Type} {code : Except BundleError Value} :
    raise code ≠ .error (.abort message) := by
  cases code with
  | ok value => simp [raise]
  | error error => simp [raise]

theorem expect_eq_abort_iff {Value : Type} {found : String}
    {value : Option Value} :
    expect message value = .error (.abort found) ↔
      value = none ∧ message = found := by
  cases value with
  | none => simp [expect]
  | some value => simp [expect]

theorem allowedCount_iff {count : ℕ} :
    allowedCount allowUnsigned count = true ↔
      (allowUnsigned = true ∧ count = 3) ∨ count = 4 := by
  unfold allowedCount
  cases allowUnsigned with
  | true =>
      simp only [if_true, Bool.and_eq_true, decide_eq_true_eq, true_and]
      omega
  | false => simp

theorem Members.mem_names {name : String} {content : List UInt8}
    (found : files.get name = some content) :
    name ∈ files.map Prod.fst := by
  by_contra absent
  rw [Members.get_eq_none_iff.mpr absent] at found
  cases found

theorem requiredNames_subset {names : List String} :
    requiredNames ⊆ names ↔ bundleJson ∈ names ∧ profileJson ∈ names ∧
      checksumsTxt ∈ names := by
  simp [requiredNames]

/-- An archive with all that is needed has a number of files that is
allowed. -/
theorem allowedCount_of_verified (holds : Holds archive.entries files)
    (required : requiredNames ⊆ files.map Prod.fst)
    (verified : Verified tools keys allowUnsigned files bundleRaw profileRaw
      checksums) :
    allowedCount allowUnsigned files.length = true := by
  have long := Holds.length_of_required required
  have short := holds.length_le
  rw [allowedCount_iff]
  cases allowUnsigned with
  | true =>
      simp only [true_and]
      omega
  | false =>
      obtain ⟨bundle, profile, -, -, -, -, signed⟩ := verified
      obtain ⟨signature, found, -⟩ := signed rfl
      have all : memberNames ⊆ files.map Prod.fst := by
        obtain ⟨hasBundle, hasProfile, hasChecksums⟩ :=
          requiredNames_subset.mp required
        have hasSignature : signatureSig ∈ files.map Prod.fst :=
          List.mem_map_of_mem found
        simp only [memberNames, List.cons_subset, List.nil_subset, and_true]
        exact ⟨hasBundle, hasProfile, hasChecksums, hasSignature⟩
      have four := Holds.length_of_all all
      exact .inr (by omega)

/-- The archives that get through are those that are meant to be accepted. -/
theorem openMembers_ok_iff
    (bundleCanonical : ∀ bundle, ∃ bytes,
      tools.canonicalBundle bundle = .ok bytes)
    (profileCanonical : ∀ profile, ∃ bytes,
      tools.canonicalProfile profile = .ok bytes)
    (holds : Holds archive.entries files) :
    (∃ verified, openMembers tools files keys allowUnsigned = .ok verified) ↔
      Accepts tools keys allowUnsigned archive := by
  rw [accepts_iff holds]
  simp only [openMembers, Outcome.bind_eq_ok_iff, raise_eq_ok_iff,
    expect_eq_ok_iff, Outcome.require_eq_ok_iff]
  constructor
  · rintro ⟨verified, _, -, bundleRaw, hasBundle, profileRaw, hasProfile,
      checksums, hasChecksums, checked⟩
    exact ⟨bundleRaw, profileRaw, checksums, hasBundle, hasProfile,
      hasChecksums, (verifyMembers_ok_iff bundleCanonical profileCanonical
        holds.unique).mp ⟨verified, checked⟩⟩
  · rintro ⟨bundleRaw, profileRaw, checksums, hasBundle, hasProfile,
      hasChecksums, fits⟩
    obtain ⟨verified, checked⟩ := (verifyMembers_ok_iff bundleCanonical
      profileCanonical holds.unique).mpr fits
    have required := requiredNames_subset.mpr
      ⟨Members.mem_names hasBundle, Members.mem_names hasProfile,
        Members.mem_names hasChecksums⟩
    exact ⟨verified, (), allowedCount_of_verified holds required fits,
      bundleRaw, hasBundle, profileRaw, hasProfile, checksums, hasChecksums,
      checked⟩

/-- The program stops when a signature takes the place of one of the files. -/
theorem openMembers_abort_iff (holds : Holds archive.entries files) :
    (∃ message, openMembers tools files keys allowUnsigned =
        .error (.abort message)) ↔
      allowUnsigned = true ∧ files.length = 3 ∧
        signatureSig ∈ files.map Prod.fst := by
  simp only [openMembers, Outcome.bind_eq_error_iff, raise_ne_abort,
    raise_eq_ok_iff, expect_eq_ok_iff, expect_eq_abort_iff,
    Outcome.require_eq_ok_iff, false_or, and_false, exists_false, or_false,
    Members.get_eq_none_iff]
  constructor
  · rintro ⟨message, _, allowed, missing⟩
    rw [allowedCount_iff] at allowed
    by_contra other
    have required : requiredNames ⊆ files.map Prod.fst := by
      refine holds.required (by omega) fun three signature => other ?_
      rcases allowed with ⟨isUnsigned, -⟩ | four
      · exact ⟨isUnsigned, three, signature⟩
      · omega
    obtain ⟨hasBundle, hasProfile, hasChecksums⟩ :=
      requiredNames_subset.mp required
    rcases missing with ⟨absent, -⟩ | ⟨_, -, ⟨absent, -⟩ | ⟨_, -, absent, -⟩⟩
    · exact absent hasBundle
    · exact absent hasProfile
    · exact absent hasChecksums
  · rintro ⟨isUnsigned, three, signature⟩
    refine ⟨"checked", (), allowedCount_iff.mpr (.inl ⟨isUnsigned, three⟩), ?_⟩
    cases hasBundle : files.get bundleJson with
    | none => exact .inl ⟨Members.get_eq_none_iff.mp hasBundle, rfl⟩
    | some bundleRaw =>
        refine .inr ⟨bundleRaw, rfl, ?_⟩
        cases hasProfile : files.get profileJson with
        | none => exact .inl ⟨Members.get_eq_none_iff.mp hasProfile, rfl⟩
        | some profileRaw =>
            refine .inr ⟨profileRaw, rfl, fun hasChecksums => ?_, rfl⟩
            -- with all three there would be four files
            have all : memberNames ⊆ files.map Prod.fst := by
              simp only [memberNames, List.cons_subset, List.nil_subset,
                and_true]
              exact ⟨Members.mem_names hasBundle,
                Members.mem_names hasProfile, hasChecksums, signature⟩
            have four := Holds.length_of_all all
            omega

/-- An archive of an allowed size is accepted exactly if it is meant to be, and
is otherwise rejected with an error, unless a signature takes the place of one
of the three files in an unsigned archive. -/
theorem read_correct_iff (tools : Tools Key)
    (keys : List (TrustedBundleKey Key)) (allowUnsigned : Bool)
    (archive : Archive) (filled : archive.size ≠ 0)
    (small : archive.size ≤ maxArchiveBytes)
    (bundleCanonical : ∀ bundle, ∃ bytes,
      tools.canonicalBundle bundle = .ok bytes)
    (profileCanonical : ∀ profile, ∃ bytes,
      tools.canonicalProfile profile = .ok bytes) :
    (((∃ verified, VerifiedArchive.read tools archive keys allowUnsigned =
          .ok verified) ↔ Accepts tools keys allowUnsigned archive) ∧
        (¬Accepts tools keys allowUnsigned archive →
          ∃ error, VerifiedArchive.read tools archive keys allowUnsigned =
            .error (.error error))) ↔
      ¬Holed allowUnsigned archive := by
  have start : VerifiedArchive.read tools archive keys allowUnsigned =
      raise (readEntries [] archive.entries) >>= fun files =>
        openMembers tools files keys allowUnsigned := by
    unfold VerifiedArchive.read
    rw [Outcome.require, if_pos (by simp [filled, small])]
    rfl
  rw [start]
  cases read : readEntries [] archive.entries with
  | error error =>
      have unread : ∀ files, ¬Holds archive.entries files := by
        intro files holds
        rw [readEntries_nil_eq_ok_iff.mpr holds] at read
        cases read
      have rejected : ¬Accepts tools keys allowUnsigned archive := by
        rintro ⟨files, _, _, _, _, _, holds, -⟩
        exact unread files holds
      refine iff_of_true ⟨iff_of_false nofun rejected, fun _ => ⟨error, rfl⟩⟩ ?_
      rintro ⟨-, files, holds, -⟩
      exact unread files holds
  | ok files =>
      have holds := readEntries_nil_eq_ok_iff.mp read
      have holed : Holed allowUnsigned archive ↔ allowUnsigned = true ∧
          files.length = 3 ∧ signatureSig ∈ files.map Prod.fst := by
        constructor
        · rintro ⟨isUnsigned, others, again, three, signature⟩
          cases holds.eq again
          exact ⟨isUnsigned, three, signature⟩
        · rintro ⟨isUnsigned, three, signature⟩
          exact ⟨isUnsigned, files, holds, three, signature⟩
      have accepted : (∃ verified,
          openMembers tools files keys allowUnsigned = .ok verified) ↔
          Accepts tools keys allowUnsigned archive :=
        openMembers_ok_iff bundleCanonical profileCanonical holds
      rw [holed, ← openMembers_abort_iff holds, ← accepted]
      change ((∃ verified, openMembers tools files keys allowUnsigned =
        .ok verified) ↔ _) ∧ (_ → ∃ error,
          openMembers tools files keys allowUnsigned = .error (.error error)) ↔
        _
      cases openMembers tools files keys allowUnsigned with
      | ok verified => simp
      | error failure => cases failure <;> simp

end Acceptance

/-- Tools that know one digest and one Bundle. -/
def audioTools : Tools Unit where
  sha256 _ := zeroDigest
  decodeBundle _ := .ok audioBundle
  decodeProfile _ := .ok audioProfile
  canonicalBundle _ := .ok []
  canonicalProfile _ := .ok []
  fromUtf8 _ := none
  decodeBase64 _ := .error "no base64"
  verify _ _ _ := false

/-- An archive of regular files with their names and bytes. -/
def archiveOf (files : Members) : Archive where
  size := 1024
  entries := files.map fun file =>
    .ok ⟨some file.1, true, file.2.length, .ok file.2⟩

/-- An unsigned archive with the three files. -/
def audioArchive : Archive :=
  archiveOf [("bundle.json", [123]), ("profile.json", [123]),
    ("checksums.txt", utf8 (expectedChecksums zeroDigest zeroDigest))]

theorem read_correct_iff_audioArchive :
    (((∃ verified, VerifiedArchive.read audioTools audioArchive [] true =
          .ok verified) ↔ Accepts audioTools [] true audioArchive) ∧
        (¬Accepts audioTools [] true audioArchive →
          ∃ error, VerifiedArchive.read audioTools audioArchive [] true =
            .error (.error error))) ↔
      ¬Holed true audioArchive :=
  read_correct_iff audioTools [] true audioArchive (by decide) (by decide)
    (fun _ => ⟨[], rfl⟩) fun _ => ⟨[], rfl⟩

example : (VerifiedArchive.read audioTools audioArchive [] true).isOk := by
  decide +kernel

/-- An archive in which a signature takes the place of the checksums. -/
def holedArchive : Archive :=
  archiveOf [("bundle.json", [123]), ("profile.json", [123]),
    ("signature.sig", [])]

/-- Reading that archive neither succeeds nor ends with an error: the program
stops. -/
theorem read_aborts_holedArchive :
    holedArchive.size ≠ 0 ∧ holedArchive.size ≤ maxArchiveBytes ∧
      VerifiedArchive.read audioTools holedArchive [] true =
        .error (.abort "checked") ∧
      ¬∃ error, VerifiedArchive.read audioTools holedArchive [] true =
        .error (.error error) := by
  have stopped : VerifiedArchive.read audioTools holedArchive [] true =
      .error (.abort "checked") := by
    rfl
  refine ⟨by decide, by decide, stopped, ?_⟩
  rintro ⟨error, ended⟩
  rw [stopped] at ended
  cases ended

end Capsule
end TaskCage
