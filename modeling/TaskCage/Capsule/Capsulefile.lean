import TaskCage.Foundation.Decimal
import TaskCage.Foundation.Json
import TaskCage.Foundation.Outcome
import TaskCage.Foundation.Words
import Mathlib.Data.List.Infix
import Mathlib.Data.List.Pairwise

/-!
# Capsulefiles

A Capsulefile is what a person writes to describe one Capsule.  Its physical
lines are joined to directives, the directives are collected in a draft, and
the draft becomes the profile of the Capsule.  Errors are texts; whether a text
names the line of its directive is part of the complaint.
-/

namespace TaskCage
namespace Capsulefile

open Outcome Words

/-- Why a Capsulefile is refused. -/
inductive Error where
  | invalidArgument (message : String)
deriving DecidableEq

/-- An error before it is known on which line it arose. -/
inductive Complaint where
  | onLine (message : String)
  | overall (message : String)
deriving DecidableEq

/-- The error that a complaint about a line is. -/
def Complaint.at (line : ℕ) : Complaint → Error
  | onLine message =>
      .invalidArgument ("Capsulefile:" ++ toString line ++ ": " ++ message)
  | overall message => .invalidArgument ("Capsulefile: " ++ message)

/-- A directive is missing. -/
def required {Value : Type} (name : String) :
    Option Value → Except Complaint Value
  | some value => .ok value
  | none => .error (.overall (name ++ " directive가 필요합니다"))

/-! ### Lines -/

/-- What a physical line says: comments and the white space around are
ignored. -/
def content (raw : List Char) : List Char :=
  trim (raw.takeWhile (· ≠ '#'))

/-- The joining of physical lines: the directives so far, the text of the
unfinished one, and where the last directive began. -/
structure Joining where
  result : List (ℕ × List Char)
  pending : List Char
  start : ℕ

/-- Join a physical line. -/
def Joining.feed (joining : Joining) (numbered : ℕ × List Char) : Joining :=
  let line := content numbered.2
  if line = [] then
    joining
  else
    let start := if joining.pending = [] then numbered.1 else joining.start
    match line.dropSuffix? ['\\'] with
    | some front =>
        { joining with
          pending := joining.pending ++ (trimEnd front ++ [' '])
          start }
    | none =>
        { result := joining.result ++ [(start, joining.pending ++ line)]
          pending := []
          start }

/-- The physical lines with their numbers. -/
def numbered (raws : List (List Char)) : List (ℕ × List Char) :=
  raws.zipIdx.map fun line => (line.2 + 1, line.1)

/-- The directives of a text, with the line on which each begins. -/
def logicalLines (raws : List (List Char)) :
    Except Error (List (ℕ × List Char)) :=
  let joined := (numbered raws).foldl Joining.feed ⟨[], [], 0⟩
  if joined.pending ≠ [] then
    .error (Complaint.at joined.start
      (.onLine "line continuation 뒤에는 다음 COMMAND line이 필요합니다"))
  else
    .ok joined.result

/-- The tokens of a directive. -/
def tokens (line : List Char) : List String :=
  (words line).map String.ofList

/-! ### Directives -/

/-- What the runtime of a Capsule is made of. -/
structure RuntimeMetadata where
  id : String
  version : String
  entrypoint : String
  glibcMinimum : String
  libraryPaths : List String
  sbomPath : String
deriving DecidableEq

/-- What a caller fills a slot with. -/
inductive SlotKind where
  | localInput
  | int64 (allowedValues : List ℤ)
deriving DecidableEq

/-- A slot that INPUT or OPTION declares. -/
structure InputSlot where
  name : String
  kind : SlotKind
deriving DecidableEq

/-- The slot that OUTPUT declares. -/
structure OutputSlot where
  name : String
  fileName : String
  mediaType : String
  maximumBytes : ℕ
deriving DecidableEq

/-- The limits of LIMIT. -/
structure Limits where
  quotaMicros : ℕ
  periodMicros : ℕ
  memoryMaxBytes : ℕ
  pidsMax : ℕ
  wallTimeLimitMs : ℕ
deriving DecidableEq

/-- The words a directive begins with. -/
inductive Keyword where
  | source
  | runtime
  | capsule
  | input
  | option
  | output
  | command
  | limit
  | allow
deriving DecidableEq

/-- A directive that was read. -/
inductive Directive where
  | source (value : String)
  | runtime (metadata : RuntimeMetadata)
  | capsule (name version : String)
  | slot (slot : InputSlot)
  | output (slot : OutputSlot)
  | command (argv : List String)
  | limit (limits : Limits)
  | allow (fields : List String)
deriving DecidableEq

namespace Keyword

/-- A keyword as it is written. -/
def name : Keyword → String
  | source => "FROM"
  | runtime => "RUNTIME"
  | capsule => "CAPSULE"
  | input => "INPUT"
  | option => "OPTION"
  | output => "OUTPUT"
  | command => "COMMAND"
  | limit => "LIMIT"
  | allow => "ALLOW"

/-- All keywords. -/
def all : List Keyword :=
  [source, runtime, capsule, input, option, output, command, limit, allow]

/-- The keyword that a token is. -/
def parse (token : String) : Option Keyword :=
  all.find? fun keyword => keyword.name = token

/-- The keywords of slots, of which there may be several. -/
def isSlot : Keyword → Bool
  | input => true
  | option => true
  | _ => false

end Keyword

/-- Refuse a directive. -/
def invalid {Value : Type} (message : String) : Except Complaint Value :=
  .error (.onLine message)

/-- A value that must be there. -/
def orInvalid {Value : Type} (message : String) :
    Option Value → Except Complaint Value
  | some value => .ok value
  | none => invalid message

/-- An unsigned number of 64 bits. -/
def parseU64 (text : String) : Option ℕ :=
  Decimal.parseUnsigned 64 text.toList

/-- A product that fits into 64 bits. -/
def checkedMul (factor number : ℕ) : Option ℕ :=
  if number * factor < 2 ^ 64 then some (number * factor) else none

/-- A positive number with a unit, in units of `factor`. -/
def parseScaled (unit : String) (factor : ℕ) (value : String) : Option ℕ := do
  let front ← value.toList.dropSuffix? unit.toList
  let number ← Decimal.parseUnsigned 64 front
  if 0 < number then checkedMul factor number else none

/-- FROM. -/
def parseSource : List String → Except Complaint Directive
  | [source] =>
      if "runtime://".toList.isPrefixOf source.toList ||
          "oci://".toList.isPrefixOf source.toList then
        .ok (.source source)
      else
        invalid "FROM은 runtime:// identity 또는 digest 고정 oci:// source 하나여야 합니다"
  | _ => invalid "FROM은 runtime:// identity 또는 digest 고정 oci:// source 하나여야 합니다"

/-- The metadata of RUNTIME so far. -/
structure RuntimeDraft where
  id : Option String
  version : Option String
  entrypoint : Option String
  glibcMinimum : Option String
  sbomPath : Option String
  libraryPaths : List String

/-- A value of RUNTIME that may be given once. -/
def once (before : Option String) (after : RuntimeDraft) :
    Except Complaint RuntimeDraft :=
  if before.isNone then .ok after
  else invalid "RUNTIME metadata가 중복되었거나 지원되지 않습니다"

/-- Note a pair of RUNTIME. -/
def RuntimeDraft.add (draft : RuntimeDraft) (key value : String) :
    Except Complaint RuntimeDraft :=
  match key with
  | "ID" => once draft.id { draft with id := some value }
  | "VERSION" => once draft.version { draft with version := some value }
  | "ENTRYPOINT" =>
      once draft.entrypoint { draft with entrypoint := some value }
  | "GLIBC" => once draft.glibcMinimum { draft with glibcMinimum := some value }
  | "SBOM" => once draft.sbomPath { draft with sbomPath := some value }
  | "LIBRARY_PATH" =>
      .ok { draft with libraryPaths := draft.libraryPaths ++ [value] }
  | _ => invalid "RUNTIME metadata가 중복되었거나 지원되지 않습니다"

/-- Note the pairs of RUNTIME one by one. -/
def RuntimeDraft.addPairs (draft : RuntimeDraft) :
    List String → Except Complaint RuntimeDraft
  | key :: value :: rest => do
      let next ← draft.add key value
      next.addPairs rest
  | _ => .ok draft

/-- RUNTIME. -/
def parseRuntime (arguments : List String) : Except Complaint Directive := do
  require (10 ≤ arguments.length && arguments.length % 2 = 0) (.onLine
    "RUNTIME은 ID, VERSION, ENTRYPOINT, GLIBC, SBOM metadata pair가 필요합니다")
  let draft ← RuntimeDraft.addPairs ⟨none, none, none, none, none, []⟩ arguments
  let id ← required "RUNTIME ID" draft.id
  let version ← required "RUNTIME VERSION" draft.version
  let entrypoint ← required "RUNTIME ENTRYPOINT" draft.entrypoint
  let glibcMinimum ← required "RUNTIME GLIBC" draft.glibcMinimum
  let sbomPath ← required "RUNTIME SBOM" draft.sbomPath
  return .runtime
    ⟨id, version, entrypoint, glibcMinimum, draft.libraryPaths, sbomPath⟩

/-- Cut a text at its last `@`. -/
def rsplitAt (text : List Char) : Option (List Char × List Char) :=
  match text.reverse.dropWhile (· ≠ '@') with
  | [] => none
  | _ :: front =>
      some (front.reverse, (text.reverse.takeWhile (· ≠ '@')).reverse)

/-- CAPSULE. -/
def parseCapsule : List String → Except Complaint Directive
  | [identity] =>
      match rsplitAt identity.toList with
      | none => invalid "CAPSULE은 <name>@<version> 형식이어야 합니다"
      | some (name, version) =>
          if name = [] || version = [] then
            invalid "CAPSULE identity는 비어 있을 수 없습니다"
          else
            .ok (.capsule (String.ofList name) (String.ofList version))
  | _ => invalid "CAPSULE은 <name>@<version> 하나여야 합니다"

/-- INPUT. -/
def parseInput : List String → Except Complaint Directive
  | [name, "ARTIFACT"] => .ok (.slot ⟨name, .localInput⟩)
  | _ => invalid "INPUT은 <name> ARTIFACT 형식이어야 합니다"

/-- Numbers in ascending order. -/
def ascending (values : List ℤ) : Bool :=
  (values.zip values.tail).all fun pair => pair.1 < pair.2

/-- OPTION. -/
def parseIntOption : List String → Except Complaint Directive
  | [name, "INT", "ALLOWED", values] => do
      let allowed ← (values.toList.splitOn ',').mapM fun value =>
        orInvalid "OPTION allowed value는 정수여야 합니다"
          (Decimal.parseSigned 64 value)
      require (!allowed.isEmpty && ascending allowed)
        (.onLine "OPTION allowed values는 오름차순 unique 값이어야 합니다")
      return .slot ⟨name, .int64 allowed⟩
  | _ => invalid "OPTION은 <name> INT ALLOWED <comma-values> 형식이어야 합니다"

/-- OUTPUT. -/
def parseOutput : List String → Except Complaint Directive
  | [name, "FILE", file, "MEDIA_TYPE", mediaType, "MAX_BYTES", bytes] => do
      let maximumBytes ←
        orInvalid "OUTPUT MAX_BYTES는 양의 정수여야 합니다" (parseU64 bytes)
      require (maximumBytes ≠ 0 && !file.toList.contains '/' &&
          !decide ("..".toList <:+: file.toList))
        (.onLine "OUTPUT file은 단일 파일 이름이고 MAX_BYTES는 양수여야 합니다")
      return .output ⟨name, file, mediaType, maximumBytes⟩
  | _ => invalid
      "OUTPUT은 <name> FILE <file> MEDIA_TYPE <type> MAX_BYTES <bytes> 형식이어야 합니다"

/-- COMMAND. -/
def parseCommand : List String → Except Complaint Directive
  | [] => invalid "COMMAND는 하나 이상의 argv token이 필요합니다"
  | argv => .ok (.command argv)

/-- MEMORY of LIMIT. -/
def parseBytes (value : String) : Except Complaint ℕ :=
  orInvalid "MEMORY는 양의 <n>MiB여야 합니다" (parseScaled "MiB" (1024 * 1024) value)

/-- TIMEOUT of LIMIT. -/
def parseMillis (value : String) : Except Complaint ℕ :=
  orInvalid "TIMEOUT은 양의 <n>m여야 합니다" (parseScaled "m" 60000 value)

/-- LIMIT.  The product of CPU is not checked: it is taken modulo `2 ^ 64`. -/
def parseLimits : List String → Except Complaint Directive
  | ["CPU", cpu, "MEMORY", memory, "PIDS", pids, "TIMEOUT", timeout] => do
      let cpu ← orInvalid "CPU는 양의 정수여야 합니다" (parseU64 cpu)
      let memory ← parseBytes memory
      let pids ← orInvalid "PIDS는 양의 정수여야 합니다" (parseU64 pids)
      let timeout ← parseMillis timeout
      require (cpu ≠ 0 && pids ≠ 0) (.onLine "CPU와 PIDS는 양수여야 합니다")
      return .limit {
        quotaMicros := cpu * 100000 % 2 ^ 64
        periodMicros := 100000
        memoryMaxBytes := memory
        pidsMax := pids
        wallTimeLimitMs := timeout }
  | _ => invalid
      "LIMIT은 CPU <cores> MEMORY <size> PIDS <count> TIMEOUT <duration> 형식이어야 합니다"

/-- The field of the profile that ALLOW means. -/
def overrideField : String → Except Complaint String
  | "CPU" => .ok "limits.cpuMax"
  | "MEMORY" => .ok "limits.memoryMaxBytes"
  | "PIDS" => .ok "limits.pidsMax"
  | "TIMEOUT" => .ok "limits.wallTimeLimitMs"
  | _ => invalid "ALLOW OVERRIDE는 CPU, MEMORY, PIDS, TIMEOUT만 지원합니다"

/-- Note a field of ALLOW. -/
def addOverride (fields : List String) (value : List Char) :
    Except Complaint (List String) := do
  let field ← overrideField (String.ofList value)
  require (!fields.contains field) (.onLine "ALLOW OVERRIDE field가 중복되었습니다")
  return fields ++ [field]

/-- ALLOW. -/
def parseAllowedOverrides : List String → Except Complaint Directive
  | ["OVERRIDE", values] => do
      let fields ← (values.toList.splitOn ',').foldlM addOverride []
      return .allow fields
  | _ => invalid "ALLOW는 OVERRIDE <comma-fields> 형식이어야 합니다"

/-- Read the arguments of a directive. -/
def Keyword.read : Keyword → List String → Except Complaint Directive
  | source => parseSource
  | runtime => parseRuntime
  | capsule => parseCapsule
  | input => parseInput
  | option => parseIntOption
  | output => parseOutput
  | command => parseCommand
  | limit => parseLimits
  | allow => parseAllowedOverrides

/-! ### Drafts -/

/-- What the directives have said so far. -/
structure Draft where
  runtimeSource : Option String
  identity : Option (String × String)
  runtime : Option RuntimeMetadata
  inputs : List InputSlot
  output : Option OutputSlot
  argv : Option (List String)
  limits : Option Limits
  allowedOverrides : Option (List String)

namespace Draft

/-- Nothing was said. -/
def empty : Draft :=
  ⟨none, none, none, [], none, none, none, none⟩

/-- Whether a keyword has been used that may be used once. -/
def has (draft : Draft) : Keyword → Bool
  | .source => draft.runtimeSource.isSome
  | .runtime => draft.runtime.isSome
  | .capsule => draft.identity.isSome
  | .input => false
  | .option => false
  | .output => draft.output.isSome
  | .command => draft.argv.isSome
  | .limit => draft.limits.isSome
  | .allow => draft.allowedOverrides.isSome

/-- The names of INPUT and OPTION are unique. -/
def admitsName (draft : Draft) : Directive → Bool
  | .slot slot => !(draft.inputs.map InputSlot.name).contains slot.name
  | _ => true

/-- Note a directive. -/
def put (draft : Draft) : Directive → Draft
  | .source value => { draft with runtimeSource := some value }
  | .runtime metadata => { draft with runtime := some metadata }
  | .capsule name version => { draft with identity := some (name, version) }
  | .slot slot => { draft with inputs := draft.inputs ++ [slot] }
  | .output slot => { draft with output := some slot }
  | .command argv => { draft with argv := some argv }
  | .limit limits => { draft with limits := some limits }
  | .allow fields => { draft with allowedOverrides := some fields }

/-- Read a directive and note it. -/
def add (draft : Draft) : List String → Except Complaint Draft
  | [] => .ok draft
  | directive :: arguments =>
      match Keyword.parse directive with
      | none => invalid "지원하지 않는 directive입니다"
      | some keyword => do
          require (!draft.has keyword)
            (.onLine (keyword.name ++ " directive가 중복되었습니다"))
          let directive ← keyword.read arguments
          require (draft.admitsName directive)
            (.onLine "INPUT 또는 OPTION 이름이 중복되었습니다")
          return draft.put directive

end Draft

/-! ### The profile -/

/-- A slot as the profile lists it. -/
def InputSlot.toJson (slot : InputSlot) : Json :=
  match slot.kind with
  | .localInput => .object [("name", .string slot.name),
      ("kind", .string "LOCAL_INPUT"), ("required", .bool true)]
  | .int64 allowedValues => .object [("name", .string slot.name),
      ("kind", .string "INT64"), ("required", .bool true),
      ("allowedValues", .array (allowedValues.map .number))]

/-- The output as the profile lists it. -/
def OutputSlot.toJson (slot : OutputSlot) : Json :=
  .object [("name", .string slot.name), ("fileName", .string slot.fileName),
    ("mediaType", .string slot.mediaType),
    ("maximumBytes", .number slot.maximumBytes)]

/-- The limits as the profile lists them. -/
def Limits.toJson (limits : Limits) : Json :=
  .object [
    ("cpuMax", .object [("quotaMicros", .number limits.quotaMicros),
      ("periodMicros", .number limits.periodMicros)]),
    ("memoryMaxBytes", .number limits.memoryMaxBytes),
    ("pidsMax", .number limits.pidsMax),
    ("wallTimeLimitMs", .number limits.wallTimeLimitMs)]

/-- An argument that refers to a slot. -/
def reference (kind slot : String) : Json :=
  .object [(kind, .string slot)]

/-- An argument that refers to an INPUT or an OPTION. -/
def InputSlot.reference (slot : InputSlot) : Json :=
  match slot.kind with
  | .localInput => Capsulefile.reference "input" slot.name
  | .int64 _ => Capsulefile.reference "int64" slot.name

/-- The name in a token that is a placeholder. -/
def placeholder (token : String) : Option String := do
  let rest ← token.toList.dropPrefix? ['$', '\x7b']
  let name ← rest.dropSuffix? ['\x7d']
  return String.ofList name

/-- Whether a token has a meaning for a shell. -/
def isShellToken (token : String) : Bool :=
  token.toList.any (['|', ';', '>', '<'].contains ·) ||
    decide ("&&".toList <:+: token.toList)

/-- The argument that a token of COMMAND becomes. -/
def materialize (inputs : List InputSlot) (output : OutputSlot)
    (token : String) : Except Complaint Json := do
  require (!isShellToken token) (.overall "COMMAND는 shell token을 포함할 수 없습니다")
  match placeholder token with
  | none => return .string token
  | some slot =>
      if slot = output.name then
        return Capsulefile.reference "output" slot
      else
        match inputs.find? fun input => input.name = slot with
        | some input => return input.reference
        | none => .error (.overall ("COMMAND placeholder를 찾을 수 없습니다: " ++ slot))

/-- What a Capsulefile describes. -/
structure CapsulefileSpec where
  runtimeSource : String
  runtime : Option RuntimeMetadata
  name : String
  version : String
  profile : Json

/-- The profile of a Capsule. -/
def profile (name version : String) (inputs : List InputSlot)
    (output : OutputSlot) (argv : List Json) (limits : Limits)
    (allowedOverrides : List String) : Json :=
  .object [
    ("schemaVersion", .string "taskcage.profile/v0alpha1"),
    ("name", .string name),
    ("version", .string version),
    ("inputs", .array (inputs.map InputSlot.toJson)),
    ("output", output.toJson),
    ("argv", .array argv),
    ("policy", .object [
      ("limits", limits.toJson),
      ("output", .object [("stdoutTailMaxBytes", .number 65536),
        ("stderrTailMaxBytes", .number 65536)])]),
    ("allowedOverrides", .array (allowedOverrides.map .string))]

/-- What a draft describes, when nothing is missing. -/
def Draft.finish (draft : Draft) : Except Complaint CapsulefileSpec := do
  let runtimeSource ← required "FROM" draft.runtimeSource
  require (!("oci://".toList.isPrefixOf runtimeSource.toList &&
      draft.runtime.isNone))
    (.overall "OCI FROM에는 RUNTIME metadata가 필요합니다")
  let (name, version) ← required "CAPSULE" draft.identity
  let output ← required "OUTPUT" draft.output
  let raw ← required "COMMAND" draft.argv
  let limits ← required "LIMIT" draft.limits
  let argv ← raw.mapM (materialize draft.inputs output)
  return {
    runtimeSource
    runtime := draft.runtime
    name
    version
    profile := profile name version draft.inputs output argv limits
      (draft.allowedOverrides.getD []) }

/-- Note the directive of a line. -/
def Draft.addLine (draft : Draft) (line : ℕ × List Char) :
    Except Error Draft :=
  (draft.add (tokens line.2)).mapError (Complaint.at line.1)

/-- Read a Capsulefile.  What `finish` complains about has no line. -/
def parse (source : String) : Except Error CapsulefileSpec := do
  let lines ← logicalLines (lines source.toList)
  let draft ← lines.foldlM Draft.addLine Draft.empty
  draft.finish.mapError (Complaint.at 0)

/-! ### Directives one by one -/

/-- The keyword of a directive; INPUT stands for OPTION too. -/
def Directive.kind : Directive → Keyword
  | .source _ => .source
  | .runtime _ => .runtime
  | .capsule _ _ => .capsule
  | .slot _ => .input
  | .output _ => .output
  | .command _ => .command
  | .limit _ => .limit
  | .allow _ => .allow

/-- A Capsulefile may have both directives. -/
def Directive.Compatible : Directive → Directive → Prop
  | .slot first, .slot second => second.name ≠ first.name
  | first, second => first.kind ≠ second.kind

/-- The directive that tokens are, if they are one. -/
def directive : List String → Option Directive
  | [] => none
  | word :: arguments => do
      let keyword ← Keyword.parse word
      (keyword.read arguments).toOption

/-- Nothing is wrong with the tokens of a line alone. -/
def Readable (line : List String) : Prop :=
  line = [] ∨ (directive line).isSome = true

namespace Draft

/-- A directive may follow those of the draft. -/
def Admits (draft : Draft) (directive : Directive) : Prop :=
  draft.has directive.kind = false ∧ draft.admitsName directive = true

/-- The draft knows of a directive. -/
def Holds (draft : Draft) : Directive → Prop
  | .source value => draft.runtimeSource = some value
  | .runtime metadata => draft.runtime = some metadata
  | .capsule name version => draft.identity = some (name, version)
  | .slot slot => slot ∈ draft.inputs
  | .output slot => draft.output = some slot
  | .command argv => draft.argv = some argv
  | .limit limits => draft.limits = some limits
  | .allow fields => draft.allowedOverrides = some fields

end Draft

section Directives

variable {keyword : Keyword} {arguments line : List String}
variable {draft final : Draft} {first second found : Directive}

/-- A directive is of the kind of its keyword. -/
theorem kind_of_read (read : keyword.read arguments = .ok found) :
    found.kind = if keyword.isSlot then .input else keyword := by
  cases keyword with
  | source =>
      change parseSource arguments = _ at read
      unfold parseSource at read
      split at read
      · split at read
        · cases read
          rfl
        · cases read
      · cases read
  | runtime =>
      simp only [Keyword.read, parseRuntime, bind_eq_ok_iff] at read
      obtain ⟨_, -, _, -, _, -, _, -, _, -, _, -, _, -, ⟨⟩⟩ := read
      rfl
  | capsule =>
      change parseCapsule arguments = _ at read
      unfold parseCapsule at read
      split at read
      · split at read
        · cases read
        · split at read
          · cases read
          · cases read
            rfl
      · cases read
  | input =>
      change parseInput arguments = _ at read
      unfold parseInput at read
      split at read
      · cases read
        rfl
      · cases read
  | option =>
      change parseIntOption arguments = _ at read
      unfold parseIntOption at read
      split at read
      · simp only [bind_eq_ok_iff] at read
        obtain ⟨_, -, _, -, ⟨⟩⟩ := read
        rfl
      · cases read
  | output =>
      change parseOutput arguments = _ at read
      unfold parseOutput at read
      split at read
      · simp only [bind_eq_ok_iff] at read
        obtain ⟨_, -, _, -, ⟨⟩⟩ := read
        rfl
      · cases read
  | command =>
      change parseCommand arguments = _ at read
      unfold parseCommand at read
      split at read
      · cases read
      · cases read
        rfl
  | limit =>
      change parseLimits arguments = _ at read
      unfold parseLimits at read
      split at read
      · simp only [bind_eq_ok_iff] at read
        obtain ⟨_, -, _, -, _, -, _, -, _, -, ⟨⟩⟩ := read
        rfl
      · cases read
  | allow =>
      change parseAllowedOverrides arguments = _ at read
      unfold parseAllowedOverrides at read
      split at read
      · simp only [bind_eq_ok_iff] at read
        obtain ⟨_, -, ⟨⟩⟩ := read
        rfl
      · cases read

theorem has_kind (read : keyword.read arguments = .ok found) :
    draft.has found.kind = draft.has keyword := by
  rw [kind_of_read read]
  cases keyword <;> rfl

/-- A directive has a keyword. -/
theorem exists_keyword (read : directive line = some found) :
    ∃ keyword arguments, line = Keyword.name keyword :: arguments ∧
      keyword.read arguments = .ok found := by
  cases line with
  | nil => cases read
  | cons word arguments =>
      simp only [directive, Option.bind_eq_bind, Option.bind_eq_some_iff] at read
      obtain ⟨keyword, parsed, read⟩ := read
      have written := List.find?_some parsed
      rw [decide_eq_true_eq] at written
      refine ⟨keyword, arguments, by rw [written], ?_⟩
      cases ended : keyword.read arguments with
      | error complaint =>
          rw [ended] at read
          cases read
      | ok value =>
          rw [ended] at read
          cases read
          rfl

/-- What it takes to note the directive of a line. -/
theorem add_eq_ok_iff {next : Draft} :
    draft.add line = .ok next ↔ Readable line ∧
      (∀ found, directive line = some found → draft.Admits found) ∧
      (directive line).elim draft draft.put = next := by
  cases line with
  | nil => simp [Draft.add, Readable, directive]
  | cons word arguments =>
      cases parsed : Keyword.parse word with
      | none => simp [Draft.add, parsed, Readable, directive, invalid]
      | some keyword =>
          cases read : keyword.read arguments with
          | error complaint =>
              simp [Draft.add, parsed, read, Readable, directive,
                bind_eq_ok_iff, Except.toOption]
          | ok found =>
              have reads : directive (word :: arguments) = some found := by
                simp [directive, parsed, read, Except.toOption]
              have kind : draft.has found.kind = draft.has keyword :=
                has_kind read
              simp only [Draft.add, parsed, bind_eq_ok_iff, read,
                require_eq_ok_iff, exists_const, Except.ok.injEq, pure,
                Except.pure, exists_eq_left']
              simp [Readable, reads, Draft.Admits, kind, and_assoc]

theorem admits_put :
    (draft.put first).Admits second ↔
      draft.Admits second ∧ first.Compatible second := by
  cases first <;> cases second <;>
    simp [Draft.Admits, Draft.put, Draft.has, Draft.admitsName,
      Directive.kind, Directive.Compatible]

theorem holds_put (admits : draft.Admits second) :
    (draft.put second).Holds first ↔ draft.Holds first ∨ second = first := by
  cases first <;> cases second <;>
    simp_all [Draft.Admits, Draft.put, Draft.has, Draft.Holds, Directive.kind]
  exact or_congr_right eq_comm

/-- What it takes to note the directives of all lines: each is readable, the
draft admits each, and they go together. -/
theorem addAll_eq_ok_iff {lines : List (List String)} :
    lines.foldlM Draft.add draft = .ok final ↔
      (∀ line ∈ lines, Readable line) ∧
      (∀ found ∈ lines.filterMap directive, draft.Admits found) ∧
      (lines.filterMap directive).Pairwise Directive.Compatible ∧
      (lines.filterMap directive).foldl Draft.put draft = final := by
  induction lines generalizing draft with
  | nil => simp [pure, Except.pure]
  | cons line rest inductionHypothesis =>
      rw [List.foldlM_cons, bind_eq_ok_iff]
      simp only [add_eq_ok_iff, inductionHypothesis, List.forall_mem_cons]
      cases read : directive line with
      | none => simp [read, and_assoc]
      | some found =>
          simp only [List.filterMap_cons, read, List.forall_mem_cons,
            List.pairwise_cons, List.foldl_cons, Option.elim_some,
            Option.some.injEq, forall_eq']
          constructor
          · rintro ⟨_, ⟨readable, admits, rfl⟩, others, later, apart, same⟩
            simp only [admits_put] at later
            exact ⟨⟨readable, others⟩,
              ⟨admits, fun other member => (later other member).1⟩,
              ⟨fun other member => (later other member).2, apart⟩, same⟩
          · rintro ⟨⟨readable, others⟩, ⟨admits, later⟩, ⟨fits, apart⟩, same⟩
            refine ⟨_, ⟨readable, admits, rfl⟩, others, ?_, apart, same⟩
            intro other member
            exact admits_put.mpr ⟨later other member, fits other member⟩

/-- A draft knows what it was told. -/
theorem holds_foldl {founds : List Directive}
    (admits : ∀ found ∈ founds, draft.Admits found)
    (apart : founds.Pairwise Directive.Compatible) :
    (founds.foldl Draft.put draft).Holds first ↔
      draft.Holds first ∨ first ∈ founds := by
  induction founds generalizing draft with
  | nil => simp
  | cons found rest inductionHypothesis =>
      rw [List.forall_mem_cons] at admits
      rw [List.pairwise_cons] at apart
      have later : ∀ other ∈ rest, (draft.put found).Admits other := by
        intro other member
        exact admits_put.mpr ⟨admits.2 other member, apart.1 other member⟩
      rw [List.foldl_cons, inductionHypothesis later apart.2,
        holds_put admits.1, List.mem_cons, or_assoc, eq_comm]

instance : Std.Symm Directive.Compatible where
  symm first second apart := by
    cases first <;> cases second <;> exact Ne.symm apart

theorem not_holds_empty (found : Directive) : ¬Draft.empty.Holds found := by
  cases found <;> simp [Draft.Holds, Draft.empty]

end Directives

/-! ### Accepted texts -/

/-- The directives of a text, as tokens. -/
def tokenLines (source : String) : Option (List (List String)) :=
  (logicalLines (lines source.toList)).toOption.map fun joined =>
    joined.map fun line => tokens line.2

/-- A text has a directive with these tokens. -/
def Says (source : String) (line : List String) : Prop :=
  ∃ lines ∈ tokenLines source, line ∈ lines

instance (source : String) (line : List String) :
    Decidable (Says source line) :=
  inferInstanceAs (Decidable (∃ lines ∈ tokenLines source, line ∈ lines))

/-- A text has a directive that is read so. -/
def Declares (source : String) (found : Directive) : Prop :=
  ∃ line, Says source line ∧ directive line = some found

section Accepted

variable {source : String} {spec : CapsulefileSpec} {draft : Draft}

theorem addLines_eq_ok_iff {joined : List (ℕ × List Char)} {final : Draft} :
    joined.foldlM Draft.addLine draft = .ok final ↔
      (joined.map fun line => tokens line.2).foldlM Draft.add draft =
        .ok final := by
  induction joined generalizing draft with
  | nil => simp [pure, Except.pure]
  | cons line rest inductionHypothesis =>
      rw [List.map_cons, List.foldlM_cons, List.foldlM_cons, bind_eq_ok_iff,
        bind_eq_ok_iff]
      simp only [Draft.addLine, mapError_eq_ok_iff, inductionHypothesis]

theorem parse_eq_ok_iff :
    parse source = .ok spec ↔
      ∃ lines ∈ tokenLines source, ∃ draft,
        lines.foldlM Draft.add Draft.empty = .ok draft ∧
          draft.finish = .ok spec := by
  simp only [parse, bind_eq_ok_iff, addLines_eq_ok_iff, mapError_eq_ok_iff]
  cases joined : logicalLines (lines source.toList) with
  | error error => simp [tokenLines, joined, Except.toOption]
  | ok found => simp [tokenLines, joined, Except.toOption]

/-- The draft of an accepted text knows exactly what the text declares. -/
theorem exists_draft (accepted : parse source = .ok spec) :
    ∃ draft : Draft, (∀ line, Says source line → Readable line) ∧
      (∀ found, draft.Holds found ↔ Declares source found) ∧
      (∀ first second, Declares source first → Declares source second →
        first = second ∨ first.Compatible second) ∧
      draft.finish = .ok spec := by
  obtain ⟨lines, joined, draft, added, finished⟩ := parse_eq_ok_iff.mp accepted
  obtain ⟨readable, admits, apart, rfl⟩ := addAll_eq_ok_iff.mp added
  have only : ∀ line, Says source line ↔ line ∈ lines := by
    intro line
    rw [Option.mem_def] at joined
    simp [Says, joined]
  have declared : ∀ found,
      Declares source found ↔ found ∈ lines.filterMap directive := by
    intro found
    simp only [List.mem_filterMap, Declares, only]
  refine ⟨_, fun line said => readable line ((only line).mp said), ?_, ?_,
    finished⟩
  · intro found
    rw [holds_foldl admits apart, declared]
    exact or_iff_right (not_holds_empty found)
  · intro first second firstHere secondHere
    rw [declared] at firstHere secondHere
    by_cases same : first = second
    · exact .inl same
    · exact .inr (apart.forall firstHere secondHere same)

/-- What a finished draft was made of. -/
theorem exists_of_finish (finished : draft.finish = .ok spec) :
    ∃ output raw limits argv, draft.output = some output ∧
      draft.argv = some raw ∧ draft.limits = some limits ∧
      raw.mapM (materialize draft.inputs output) = .ok argv ∧
      spec.profile = profile spec.name spec.version draft.inputs output argv
        limits (draft.allowedOverrides.getD []) := by
  have some_of_required : ∀ {Value : Type} {name : String}
      {given : Option Value} {value : Value},
      required name given = .ok value → given = some value := by
    intro Value name given value present
    cases given with
    | none => cases present
    | some found =>
        cases present
        rfl
  simp only [Draft.finish, bind_eq_ok_iff] at finished
  obtain ⟨_, -, _, -, ⟨name, version⟩, -, output, outputHere, raw, rawHere,
    limits, limitsHere, argv, materialized, ⟨⟩⟩ := finished
  exact ⟨output, raw, limits, argv, some_of_required outputHere,
    some_of_required rawHere, some_of_required limitsHere, materialized, rfl⟩

end Accepted

/-! ### Limits -/

/-- A member of an object. -/
def member (key : String) : Json → Option Json
  | .object members => members.lookup key
  | _ => none

/-- A number. -/
def number : Json → Option ℤ
  | .number value => some value
  | _ => none

/-- A limit of the policy of the profile. -/
def CapsulefileSpec.limit (spec : CapsulefileSpec) (path : List String) :
    Option ℤ := do
  let policy ← member "policy" spec.profile
  let limits ← member "limits" policy
  let found ← path.foldlM (fun value key => member key value) limits
  number found

/-- The number that a numeral of the text denotes. -/
def numeral (text : String) : ℕ :=
  Decimal.unsigned text.toList

/-- The policy has the limits that the numerals denote. -/
def CapsulefileSpec.Exact (spec : CapsulefileSpec)
    (cpu memory pids timeout : String) : Prop :=
  ∃ period : ℕ, spec.limit ["cpuMax", "periodMicros"] = some (period : ℤ) ∧
    spec.limit ["cpuMax", "quotaMicros"] = some (numeral cpu * period : ℤ) ∧
    spec.limit ["memoryMaxBytes"] = some (numeral memory * 1048576 : ℤ) ∧
    spec.limit ["pidsMax"] = some (numeral pids : ℤ) ∧
    spec.limit ["wallTimeLimitMs"] = some (numeral timeout * 60000 : ℤ)

section Limits

variable {source cpu memory pids timeout : String} {spec : CapsulefileSpec}

theorem orInvalid_eq_ok_iff {Value : Type} {message : String}
    {given : Option Value} {value : Value} :
    orInvalid message given = .ok value ↔ given = some value := by
  cases given with
  | none => simp [orInvalid, invalid]
  | some found => simp [orInvalid]

variable {text : String} {value : ℕ} {limits : Limits}

theorem numeral_of_parseU64 (read : parseU64 text = some value) :
    value = numeral text :=
  Decimal.eq_unsigned_of_parseUnsigned read

/-- A number with a unit is checked to fit. -/
theorem numeral_of_parseScaled {unit : String} {factor : ℕ}
    (read : parseScaled unit factor (text ++ unit) = some value) :
    value = numeral text * factor := by
  have cut : (text ++ unit).toList.dropSuffix? unit.toList =
      some text.toList := by
    rw [dropSuffix?_eq_some, String.toList_append]
  simp only [parseScaled, cut, Option.bind_eq_bind, Option.bind_some,
    Option.bind_eq_some_iff] at read
  obtain ⟨number, parsed, read⟩ := read
  split at read
  · unfold checkedMul at read
    split at read
    · cases read
      rw [Decimal.eq_unsigned_of_parseUnsigned parsed]
      rfl
    · cases read
  · cases read

/-- The limits that LIMIT is read as. -/
theorem limits_of_directive
    (read : directive ["LIMIT", "CPU", cpu, "MEMORY", memory ++ "MiB",
      "PIDS", pids, "TIMEOUT", timeout ++ "m"] = some (.limit limits)) :
    limits = {
      quotaMicros := numeral cpu * 100000 % 2 ^ 64
      periodMicros := 100000
      memoryMaxBytes := numeral memory * (1024 * 1024)
      pidsMax := numeral pids
      wallTimeLimitMs := numeral timeout * 60000 } := by
  obtain ⟨keyword, arguments, same, read⟩ := exists_keyword read
  have isLimit : keyword = .limit := by
    cases keyword <;> first | rfl | simp [Keyword.name] at same
  subst isLimit
  obtain ⟨-, rfl⟩ := List.cons.inj same
  simp only [Keyword.read, parseLimits, parseBytes, parseMillis,
    bind_eq_ok_iff, orInvalid_eq_ok_iff] at read
  obtain ⟨_, cpuRead, _, memoryRead, _, pidsRead, _, timeoutRead, _, -, ⟨⟩⟩ :=
    read
  rw [numeral_of_parseU64 cpuRead, numeral_of_parseU64 pidsRead,
    numeral_of_parseScaled memoryRead, numeral_of_parseScaled timeoutRead]

/-- The limits of a profile. -/
theorem limit_of_profile {name version : String} {inputs : List InputSlot}
    {output : OutputSlot} {argv : List Json} {fields : List String}
    (same : spec.profile =
      profile name version inputs output argv limits fields) :
    spec.limit ["cpuMax", "periodMicros"] = some (limits.periodMicros : ℤ) ∧
    spec.limit ["cpuMax", "quotaMicros"] = some (limits.quotaMicros : ℤ) ∧
    spec.limit ["memoryMaxBytes"] = some (limits.memoryMaxBytes : ℤ) ∧
    spec.limit ["pidsMax"] = some (limits.pidsMax : ℤ) ∧
    spec.limit ["wallTimeLimitMs"] = some (limits.wallTimeLimitMs : ℤ) := by
  unfold CapsulefileSpec.limit
  rw [same]
  exact ⟨rfl, rfl, rfl, rfl, rfl⟩

/-- The limits of a profile are those of the Capsulefile exactly if the quota
of the CPU can be represented: all other values are refused if they cannot. -/
theorem limits_exact_iff (accepted : parse source = .ok spec)
    (limit : Says source ["LIMIT", "CPU", cpu, "MEMORY", memory ++ "MiB",
      "PIDS", pids, "TIMEOUT", timeout ++ "m"]) :
    spec.Exact cpu memory pids timeout ↔ numeral cpu * 100000 < 2 ^ 64 := by
  obtain ⟨draft, readable, holds, -, finished⟩ := exists_draft accepted
  obtain ⟨output, raw, limits, argv, -, -, limitsHere, -, shape⟩ :=
    exists_of_finish finished
  have declared := (holds (.limit limits)).mp limitsHere
  have read : directive ["LIMIT", "CPU", cpu, "MEMORY", memory ++ "MiB",
      "PIDS", pids, "TIMEOUT", timeout ++ "m"] = some (.limit limits) := by
    -- whatever the line is read as, the draft holds it, and it has one LIMIT
    rcases readable _ limit with nothing | readable
    · cases nothing
    · obtain ⟨found, read⟩ := Option.isSome_iff_exists.mp readable
      have kept := (holds found).mpr ⟨_, limit, read⟩
      obtain ⟨keyword, arguments, same, ended⟩ := exists_keyword read
      have isLimit : keyword = .limit := by
        cases keyword <;> first | rfl | simp [Keyword.name] at same
      subst isLimit
      have kind := kind_of_read ended
      cases found with
      | limit other =>
          have equal : some other = some limits := kept.symm.trans limitsHere
          rw [read, Option.some.inj equal]
      | _ => cases kind
  obtain ⟨period, quota, bytes, count, millis⟩ := limit_of_profile shape
  rw [limits_of_directive read] at period quota bytes count millis
  unfold CapsulefileSpec.Exact
  rw [period, quota, bytes, count, millis]
  constructor
  · rintro ⟨found, samePeriod, sameQuota, -, -, -⟩
    simp only [Option.some.injEq] at samePeriod sameQuota
    have hundred : found = 100000 := by omega
    subst hundred
    omega
  · intro fits
    refine ⟨100000, rfl, ?_, ?_, rfl, ?_⟩
    · rw [Nat.mod_eq_of_lt fits]
      simp
    · simp
    · simp

/-- The characters of a small Capsulefile. -/
def smallChars (command cpu : String) : List Char :=
  List.flatMap String.toList
    ["FROM runtime://r\n", "CAPSULE c@1\n", "INPUT i ARTIFACT\n",
      "OUTPUT o FILE f ", "MEDIA_TYPE t ", "MAX_BYTES 1\n", "COMMAND ",
      command, "\nLIMIT CPU ", cpu, " MEMORY 1MiB", " PIDS 1 TIMEOUT 1m"]

/-- A small Capsulefile. -/
def smallText (command cpu : String) : String :=
  String.ofList (smallChars command cpu)

theorem parse_smallText (command cpu : String) :
    parse (smallText command cpu) = (do
      let lines ← logicalLines (lines (smallChars command cpu))
      let draft ← lines.foldlM Draft.addLine Draft.empty
      draft.finish.mapError (Complaint.at 0)) := by
  unfold parse smallText
  rw [String.toList_ofList]

theorem tokenLines_smallText (command cpu : String) :
    tokenLines (smallText command cpu) =
      (logicalLines (lines (smallChars command cpu))).toOption.map
        fun joined => joined.map fun line => tokens line.2 := by
  unfold tokenLines smallText
  rw [String.toList_ofList]

theorem exists_of_toOption {Value Result : Type}
    {outcome : Except Error Value} {view : Value → Option Result}
    {result : Result} (seen : outcome.toOption.bind view = some result) :
    ∃ value, outcome = .ok value ∧ view value = some result := by
  cases outcome with
  | error error => cases seen
  | ok value => exact ⟨value, rfl, seen⟩

theorem limits_exact_iff_small :
    ∃ spec, parse (smallText "-" "1") = .ok spec ∧
      spec.Exact "1" "1" "1" "1" := by
  have seen : (parse (smallText "-" "1")).toOption.bind
      (CapsulefileSpec.limit · ["pidsMax"]) = some 1 := by
    rewrite [parse_smallText]
    decide +kernel
  obtain ⟨spec, accepted, -⟩ := exists_of_toOption seen
  refine ⟨spec, accepted, (limits_exact_iff accepted ?_).mpr ?_⟩
  · rewrite [Says, tokenLines_smallText]
    decide +kernel
  · decide +kernel

/-- A quota that cannot be represented is altered. -/
theorem limits_not_exact_small :
    ∃ spec, parse (smallText "-" "184467440737096") = .ok spec ∧
      spec.limit ["cpuMax", "quotaMicros"] = some 48384 ∧
      ¬spec.Exact "184467440737096" "1" "1" "1" := by
  have seen : (parse (smallText "-" "184467440737096")).toOption.bind
      (CapsulefileSpec.limit · ["cpuMax", "quotaMicros"]) = some 48384 := by
    rewrite [parse_smallText]
    decide +kernel
  obtain ⟨spec, accepted, quota⟩ := exists_of_toOption seen
  refine ⟨spec, accepted, quota, ?_⟩
  rintro ⟨period, -, same, -⟩
  have value : numeral "184467440737096" = 184467440737096 := by
    decide +kernel
  rw [quota, value, Option.some.injEq] at same
  omega

end Limits

/-! ### Placeholders -/

/-- Some part of a text is a placeholder. -/
def HasPlaceholder (text : String) : Prop :=
  ∃ before name after, text.toList =
    before ++ ['$', '\x7b'] ++ name ++ ['\x7d'] ++ after

/-- A slot that a text declares. -/
inductive Slot where
  | input (slot : InputSlot)
  | output (slot : OutputSlot)

namespace Slot

def name : Slot → String
  | input slot => slot.name
  | output slot => slot.name

/-- The argument that refers to the slot as what it is. -/
def reference : Slot → Json
  | input slot => slot.reference
  | output slot => Capsulefile.reference "output" slot.name

/-- The directive that declares the slot. -/
def directive : Slot → Directive
  | input slot => .slot slot
  | output slot => .output slot

end Slot

/-- The arguments of the profile. -/
def CapsulefileSpec.argv (spec : CapsulefileSpec) : List Json :=
  match member "argv" spec.profile with
  | some (.array arguments) => arguments
  | _ => []

/-- No placeholder is passed on as a text, and each refers to the one slot of
its name. -/
structure Transparent (source : String) (raw : List String)
    (spec : CapsulefileSpec) : Prop where
  literal : ∀ text, .string text ∈ spec.argv → ¬HasPlaceholder text
  mapped : ∀ (index : ℕ) (token name : String), raw[index]? = some token →
    placeholder token = some name →
    ∃ slot : Slot, Declares source slot.directive ∧ slot.name = name ∧
      (∀ other : Slot, Declares source other.directive → other.name = name →
        other = slot) ∧
      spec.argv[index]? = some slot.reference

section Placeholders

variable {source token name : String} {spec : CapsulefileSpec}
variable {raw : List String} {argument : Json}
variable {inputs : List InputSlot} {output : OutputSlot}

theorem placeholder_eq_some :
    placeholder token = some name ↔
      token.toList = ['$', '\x7b'] ++ name.toList ++ ['\x7d'] := by
  simp only [placeholder, Option.bind_eq_bind, Option.bind_eq_some_iff,
    dropPrefix?_eq_some, dropSuffix?_eq_some, Option.pure_def,
    Option.some.injEq]
  constructor
  · rintro ⟨_, cut, front, rfl, rfl⟩
    rw [cut, String.toList_ofList, List.append_assoc]
  · intro whole
    refine ⟨name.toList ++ ['\x7d'], ?_, name.toList, rfl, ?_⟩
    · rw [whole, List.append_assoc]
    · exact String.ofList_toList

/-- What a token of COMMAND can become. -/
theorem materialize_eq_ok (made : materialize inputs output token =
    .ok argument) :
    (placeholder token = none ∧ argument = .string token) ∨
    (placeholder token = some output.name ∧
      argument = reference "output" output.name) ∨
    ∃ input ∈ inputs, placeholder token = some input.name ∧
      input.name ≠ output.name ∧ argument = input.reference := by
  simp only [materialize, seq_eq_ok_iff] at made
  obtain ⟨-, made⟩ := made
  cases found : placeholder token with
  | none =>
      rw [found] at made
      cases made
      exact .inl ⟨rfl, rfl⟩
  | some slot =>
      rw [found] at made
      dsimp only at made
      split at made
      · rename_i isOutput
        subst isOutput
        cases made
        exact .inr (.inl ⟨rfl, rfl⟩)
      · rename_i other
        split at made
        · rename_i input chosen
          have named := List.find?_some chosen
          rw [decide_eq_true_eq] at named
          subst named
          cases made
          exact .inr (.inr
            ⟨input, List.mem_of_find?_eq_some chosen, rfl, other, rfl⟩)
        · cases made

theorem hasPlaceholder_of_placeholder
    (found : placeholder token = some name) : HasPlaceholder token := by
  rw [placeholder_eq_some] at found
  exact ⟨[], name.toList, [], by simpa using found⟩

theorem reference_ne_string (input : InputSlot) (text : String) :
    input.reference ≠ .string text := by
  unfold InputSlot.reference
  split <;> exact Json.noConfusion

theorem argv_of_profile {version : String} {argv : List Json}
    {limits : Limits} {fields : List String} (same : spec.profile =
      profile name version inputs output argv limits fields) :
    spec.argv = argv := by
  unfold CapsulefileSpec.argv
  rw [same]
  rfl

/-- What an accepted text makes of its COMMAND. -/
theorem exists_materialized (accepted : parse source = .ok spec)
    (command : Declares source (.command raw)) :
    ∃ (inputs : List InputSlot) (output : OutputSlot),
      (∀ input, input ∈ inputs ↔ Declares source (.slot input)) ∧
      (∀ other, Declares source (.output other) ↔ other = output) ∧
      (∀ first second, Declares source (.slot first) →
        Declares source (.slot second) → first.name = second.name →
        first = second) ∧
      List.Forall₂ (fun token argument =>
        materialize inputs output token = .ok argument) raw spec.argv := by
  obtain ⟨draft, -, holds, apart, finished⟩ := exists_draft accepted
  obtain ⟨output, found, limits, argv, outputHere, rawHere, -, made, shape⟩ :=
    exists_of_finish finished
  have sameRaw : draft.argv = some raw := (holds (.command raw)).mpr command
  rw [rawHere, Option.some.injEq] at sameRaw
  subst sameRaw
  refine ⟨draft.inputs, output, fun input => holds (.slot input), ?_, ?_, ?_⟩
  · intro other
    rw [← holds (.output other)]
    change draft.output = some other ↔ other = output
    rw [outputHere, Option.some.injEq, eq_comm]
  · intro first second firstHere secondHere sameName
    rcases apart _ _ firstHere secondHere with same | compatible
    · exact Directive.slot.inj same
    · exact absurd sameName.symm compatible
  · rw [argv_of_profile shape]
    exact mapM_eq_ok_iff.mp made

/-- Placeholders are treated as such exactly if every token with a placeholder
in it is one as a whole, and none names both an input and the output. -/
theorem transparent_iff (accepted : parse source = .ok spec)
    (command : Declares source (.command raw)) :
    Transparent source raw spec ↔
      ∀ token ∈ raw, HasPlaceholder token →
        ∃ name, placeholder token = some name ∧
          ∀ input output, Declares source (.slot input) →
            Declares source (.output output) →
            ¬(input.name = name ∧ output.name = name) := by
  obtain ⟨inputs, output, inputIff, outputIff, unique, made⟩ :=
    exists_materialized accepted command
  constructor
  · intro transparent token member inside
    obtain ⟨index, found⟩ := List.mem_iff_getElem?.mp member
    obtain ⟨argument, here, made⟩ := exists_getElem?_of_forall₂ made found
    rcases materialize_eq_ok made with ⟨-, rfl⟩ | ⟨whole, -⟩ |
        ⟨input, -, whole, other, -⟩
    · exact absurd inside
        (transparent.literal token (List.mem_of_getElem? here))
    · refine ⟨output.name, whole, ?_⟩
      intro input declared inputHere outputHere both
      obtain ⟨slot, -, -, only, -⟩ :=
        transparent.mapped index token output.name found whole
      have first := only (.input input) inputHere both.1
      have second := only (.output declared) outputHere both.2
      cases first.trans second.symm
    · refine ⟨input.name, whole, ?_⟩
      intro _ declared _ outputHere both
      have same := (outputIff declared).mp outputHere
      rw [same] at both
      exact other both.2.symm
  · intro wrapped
    refine ⟨?_, ?_⟩
    · intro text member inside
      obtain ⟨token, tokenHere, made⟩ := exists_left_of_mem made member
      rcases materialize_eq_ok made with ⟨plain, same⟩ | ⟨-, same⟩ |
          ⟨input, -, -, -, same⟩
      · cases same
        obtain ⟨name, whole, -⟩ := wrapped text tokenHere inside
        rw [plain] at whole
        cases whole
      · cases same
      · exact reference_ne_string input text same.symm
    · intro index token name found whole
      obtain ⟨argument, here, made⟩ := exists_getElem?_of_forall₂ made found
      obtain ⟨_, again, apart⟩ := wrapped token (List.mem_of_getElem? found)
        (hasPlaceholder_of_placeholder whole)
      rw [whole, Option.some.injEq] at again
      subst again
      rcases materialize_eq_ok made with ⟨plain, -⟩ | ⟨named, rfl⟩ |
          ⟨input, member, named, other, rfl⟩
      · rw [plain] at whole
        cases whole
      · rw [whole, Option.some.injEq] at named
        subst named
        have declared := (outputIff output).mpr rfl
        refine ⟨.output output, declared, rfl, ?_, here⟩
        intro slot slotHere sameName
        cases slot with
        | input input =>
            exact absurd ⟨sameName, rfl⟩ (apart input output slotHere declared)
        | output found => rw [(outputIff found).mp slotHere]
      · rw [whole, Option.some.injEq] at named
        subst named
        have declared := (inputIff input).mp member
        refine ⟨.input input, declared, rfl, ?_, here⟩
        intro slot slotHere sameName
        cases slot with
        | input found => rw [unique found input slotHere declared sameName]
        | output found =>
            rw [(outputIff found).mp slotHere] at sameName
            exact absurd sameName.symm other

/-- A text of an argument. -/
def literal : Json → Option String
  | .string text => some text
  | _ => none

/-- The name of the output that a line declares. -/
def outputName (line : List String) : Option String :=
  match directive line with
  | some (.output output) => some output.name
  | _ => none

theorem transparent_iff_small :
    ∃ spec, parse (smallText "${i}" "1") = .ok spec ∧
      Transparent (smallText "${i}" "1") ["${i}"] spec := by
  have lines : tokenLines (smallText "${i}" "1") = some
      [["FROM", "runtime://r"], ["CAPSULE", "c@1"], ["INPUT", "i", "ARTIFACT"],
        ["OUTPUT", "o", "FILE", "f", "MEDIA_TYPE", "t", "MAX_BYTES", "1"],
        ["COMMAND", "${i}"], ["LIMIT", "CPU", "1", "MEMORY", "1MiB", "PIDS",
          "1", "TIMEOUT", "1m"]] := by
    rewrite [tokenLines_smallText]
    decide +kernel
  have seen : (parse (smallText "${i}" "1")).toOption.bind
      (CapsulefileSpec.limit · ["pidsMax"]) = some 1 := by
    rewrite [parse_smallText]
    decide +kernel
  obtain ⟨spec, accepted, -⟩ := exists_of_toOption seen
  refine ⟨spec, accepted, (transparent_iff accepted ?_).mpr ?_⟩
  · exact ⟨["COMMAND", "${i}"], ⟨_, lines, by simp⟩, by decide +kernel⟩
  · intro token member _
    rw [List.mem_singleton] at member
    subst member
    refine ⟨"i", by decide +kernel, ?_⟩
    rintro input output - ⟨line, ⟨found, joined, here⟩, read⟩ ⟨-, named⟩
    rw [lines, Option.mem_some_iff] at joined
    -- only the line of OUTPUT is read as an output, and it names another slot
    have other : found.all (outputName · ≠ some "i") = true := by
      rw [← joined]
      decide +kernel
    have apart := of_decide_eq_true (List.all_eq_true.mp other line here)
    rw [outputName, read] at apart
    exact apart (congrArg some named)

/-- A placeholder inside a token is passed on as a text. -/
theorem not_transparent_small :
    ∃ spec, parse (smallText "x${i}" "1") = .ok spec ∧
      Declares (smallText "x${i}" "1") (.command ["x${i}"]) ∧
      .string "x${i}" ∈ spec.argv ∧
      ¬Transparent (smallText "x${i}" "1") ["x${i}"] spec := by
  have seen : (parse (smallText "x${i}" "1")).toOption.bind
      (fun spec => spec.argv.head?.bind literal) = some "x${i}" := by
    rewrite [parse_smallText]
    decide +kernel
  obtain ⟨spec, accepted, first⟩ := exists_of_toOption seen
  have here : .string "x${i}" ∈ spec.argv := by
    obtain ⟨argument, head, same⟩ := Option.bind_eq_some_iff.mp first
    cases argument with
    | string text =>
        cases same
        exact List.mem_of_head? head
    | _ => cases same
  refine ⟨spec, accepted, ⟨["COMMAND", "x${i}"], ?_, ?_⟩, here, ?_⟩
  · rewrite [Says, tokenLines_smallText]
    decide +kernel
  · decide +kernel
  · intro transparent
    exact transparent.literal _ here ⟨['x'], ['i'], [], by decide +kernel⟩

end Placeholders

end Capsulefile
end TaskCage
