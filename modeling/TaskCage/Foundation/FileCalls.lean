import TaskCage.Foundation.FileTree

/-!
# Calls on a tree of files

Code that works on a tree of files through calls of the kernel.  The kernel may
refuse any call; whether it does may depend on all the calls before.
-/

namespace TaskCage
namespace FileTree

/-- Why a call failed. -/
inductive Errno where
  | notFound
  | alreadyExists
  | notDirectory
  | notEmpty
  | loop
  | unsupported
  | other
deriving DecidableEq

/-- A call, with the places it is made at. -/
inductive Call where
  | mkdirat (directory : Place) (path : List Char)
  | openat (directory : Place) (path : List Char)
  | fstat (place : Place)
  | duplicate (place : Place)
  | fsync (place : Place)
  | read (place : Place)
  | write (place : Place)
  | renameat (source target : Place) (path : List Char)
  | unlinkat (directory : Place) (path : List Char)
  | removeAll (place : Place)
  | listing (place : Place)
  | stat (place : Place)
deriving DecidableEq

/-- How a refused call went: its error, how much of a write reached the file,
and what a removal has left below its place. -/
structure Damage where
  errno : Errno
  written : ℕ
  kept : Place → Bool

/-- Which calls the kernel refuses, given the calls before. -/
abbrev Kernel : Type :=
  List Call → Call → Option Damage

/-- The tree and the calls so far. -/
structure Disk where
  tree : Tree
  log : List Call

/-- Code that makes calls and may end with an error. -/
def Code (Error Result : Type) : Type :=
  Kernel → Disk → Except Error Result × Disk

namespace Code

variable {Error Other Result Next : Type}

instance : Monad (Code Error) where
  pure result := fun _ disk => (.ok result, disk)
  bind first next := fun kernel disk =>
    match first kernel disk with
    | (.ok result, middle) => next result kernel middle
    | (.error error, middle) => (.error error, middle)

/-- End with an error. -/
def throw (error : Error) : Code Error Result :=
  fun _ disk => (.error error, disk)

/-- A value or an error that was computed without calls. -/
def ofExcept (outcome : Except Error Result) : Code Error Result :=
  fun _ disk => (outcome, disk)

/-- The outcome of code, whether it fails or not. -/
def attempt (code : Code Error Result) : Code Other (Except Error Result) :=
  fun kernel disk => (.ok (code kernel disk).1, (code kernel disk).2)

/-- Code with other errors. -/
def mapError (change : Error → Other) (code : Code Error Result) :
    Code Other Result :=
  fun kernel disk => ((code kernel disk).1.mapError change, (code kernel disk).2)

/-- One call.  `effect` is what it does when the kernel lets it, and `broken`
is what it leaves when it is refused. -/
def perform (call : Call) (effect : Tree → Except Errno (Result × Tree))
    (broken : Damage → Tree → Tree) : Code Errno Result := fun kernel disk =>
  match kernel disk.log call with
  | some damage =>
      (.error damage.errno,
        { tree := broken damage disk.tree, log := disk.log ++ [call] })
  | none =>
      match effect disk.tree with
      | .ok (result, tree) =>
          (.ok result, { tree := tree, log := disk.log ++ [call] })
      | .error errno => (.error errno, { disk with log := disk.log ++ [call] })

end Code

/-- What a refused call that changes nothing leaves. -/
def unharmed (_ : Damage) (tree : Tree) : Tree :=
  tree

/-- An open file: its place, and what was opened there. -/
structure Descriptor where
  place : Place
  node : Node
deriving DecidableEq

/-- What opening a path for reading does; links at the end are refused. -/
def Tree.afterOpen (tree : Tree) (here : Place) (path : List Char)
    (directory : Bool) : Except Errno (Descriptor × Tree) :=
  if path = [] then .error .notFound
  else
    match tree.walk Tree.maxSteps here (path.splitOn '/') with
    | none => .error .notFound
    | some place =>
        match tree.find place with
        | none => .error .notFound
        | some node =>
            if node.isLink then .error .loop
            else if directory && !node.isDirectory then .error .notDirectory
            else .ok (⟨place, node⟩, tree)

/-- Open the file at a path that starts at a directory. -/
def openat (here : Place) (path : List Char) (directory : Bool) :
    Code Errno Descriptor :=
  .perform (.openat here path)
    (fun tree => tree.afterOpen here path directory) unharmed

/-- What an open file is. -/
def fstat (descriptor : Descriptor) : Code Errno Node :=
  .perform (.fstat descriptor.place)
    (fun tree => .ok (descriptor.node, tree)) unharmed

/-- The device of the directory at a place. -/
def Tree.deviceAt (tree : Tree) (place : Place) : ℕ :=
  ((tree.find place).map Node.device).getD 0

/-- What making an entry at a path does; the path must name nothing yet. -/
def Tree.afterCreate (tree : Tree) (here : Place) (path : List Char)
    (make : ℕ → Node) : Except Errno (Descriptor × Tree) :=
  match tree.locate here path with
  | none => .error .notFound
  | some place =>
      match tree.find place with
      | some _ => .error .alreadyExists
      | none =>
          let node := make (tree.deviceAt place.dropLast)
          .ok (⟨place, node⟩, (place, node) :: tree)

/-- Make a directory. -/
def mkdirat (here : Place) (path : List Char) : Code Errno Unit := do
  let _ ← .perform (.mkdirat here path)
    (fun tree => tree.afterCreate here path .directory) unharmed

/-- Make a file and open it for writing. -/
def createat (here : Place) (path : List Char) : Code Errno Descriptor :=
  .perform (.openat here path)
    (fun tree => tree.afterCreate here path (.regular · [])) unharmed

/-- Duplicate a descriptor. -/
def duplicate (descriptor : Descriptor) : Code Errno Unit :=
  .perform (.duplicate descriptor.place) (fun tree => .ok ((), tree)) unharmed

/-- Have the file reach the disk. -/
def fsync (descriptor : Descriptor) : Code Errno Unit :=
  .perform (.fsync descriptor.place) (fun tree => .ok ((), tree)) unharmed

/-- Read from an open file. -/
def read (descriptor : Descriptor) : Code Errno Unit :=
  .perform (.read descriptor.place) (fun tree => .ok ((), tree)) unharmed

/-- A file with more at its end. -/
def Node.extend (bytes : List UInt8) : Node → Node
  | regular device content => regular device (content ++ bytes)
  | directory device => directory device
  | symlink target => symlink target
  | magicLink target => magicLink target
  | special device => special device

/-- The tree with more at the end of one file. -/
def Tree.extend (tree : Tree) (place : Place) (bytes : List UInt8) : Tree :=
  match tree.find place with
  | some node => (place, node.extend bytes) :: tree
  | none => tree

/-- Write at the end of an open file. -/
def write (descriptor : Descriptor) (bytes : List UInt8) : Code Errno Unit :=
  .perform (.write descriptor.place)
    (fun tree => .ok ((), tree.extend descriptor.place bytes))
    fun damage tree => tree.extend descriptor.place (bytes.take damage.written)

/-- The tree without what is at a place and below it. -/
def Tree.without (tree : Tree) (top : Place) : Tree :=
  tree.filter fun entry => !top.isPrefixOf entry.1

/-- What is found once a directory was removed with all there is in it. -/
theorem Tree.find_without (tree : Tree) (top place : Place) :
    (tree.without top).find place =
      if top <+: place then none else tree.find place := by
  unfold Tree.without
  rw [Tree.find_filter tree (fun place => !top.isPrefixOf place)]
  by_cases below : top <+: place
  · rw [if_pos below, if_neg]
    simpa using below
  · rw [if_neg below, if_pos]
    rwa [Bool.not_eq_true', ← Bool.not_eq_true, List.isPrefixOf_iff_prefix]

/-- What moving a file to a free name does; directories are not moved. -/
def Tree.afterRename (tree : Tree) (source target : Option Place) :
    Except Errno (Unit × Tree) :=
  match source, target with
  | some source, some target =>
      match tree.find source, tree.find target with
      | none, _ => .error .notFound
      | some _, some _ => .error .alreadyExists
      | some node, none =>
          if tree.deviceAt source.dropLast ≠ tree.deviceAt target.dropLast ||
              node.isDirectory then .error .other
          else .ok ((), (target, node) :: tree.without source)
  | _, _ => .error .notFound

/-- Move a file from one directory to another, never over an existing entry. -/
def renameNoReplace (source : Place) (path : List Char) (target : Place)
    (name : List Char) : Code Errno Unit :=
  .perform (.renameat source target path)
    (fun tree => tree.afterRename (tree.locate source path)
      (tree.locate target name)) unharmed

/-- What removing a single entry does; a directory must be empty. -/
def Tree.afterUnlink (tree : Tree) (here : Place) (path : List Char)
    (directory : Bool) : Except Errno (Unit × Tree) :=
  match tree.locate here path with
  | none => .error .notFound
  | some place =>
      match tree.find place with
      | none => .error .notFound
      | some node =>
          if node.isDirectory ≠ directory then .error .notDirectory
          else if tree.any fun entry =>
              place.isPrefixOf entry.1 && place ≠ entry.1 then
            .error .notEmpty
          else .ok ((), tree.without place)

/-- Remove a single entry. -/
def unlinkat (here : Place) (path : List Char) (directory : Bool) :
    Code Errno Unit :=
  .perform (.unlinkat here path)
    (fun tree => tree.afterUnlink here path directory) unharmed

/-- What a removal that was refused leaves: the top and some of what is below. -/
def Tree.afterBroken (tree : Tree) (top : Place) (kept : Place → Bool) : Tree :=
  tree.filter fun entry =>
    !top.isPrefixOf entry.1 || entry.1 = top || kept entry.1

/-- Remove a directory with all there is below it. -/
def removeAll (top : Place) : Code Errno Unit :=
  .perform (.removeAll top)
    (fun tree =>
      match tree.find top with
      | none => .error .notFound
      | some _ => .ok ((), tree.without top))
    fun damage tree => tree.afterBroken top damage.kept

/-! ### Assertions -/

namespace Code

variable {Error Other Result Next : Type}

/-- From `Pre` the code leads to `Post`, or it fails and leads to `Fails`. -/
def Ensures (kernel : Kernel) (Pre : Disk → Prop) (code : Code Error Result)
    (Post : Result → Disk → Prop) (Fails : Error → Disk → Prop) : Prop :=
  ∀ disk, Pre disk →
    match code kernel disk with
    | (.ok result, reached) => Post result reached
    | (.error error, reached) => Fails error reached

namespace Ensures

variable {kernel : Kernel} {Pre : Disk → Prop} {code : Code Error Result}
variable {Post : Result → Disk → Prop} {Fails : Error → Disk → Prop}

theorem pure {result : Result} (holds : ∀ disk, Pre disk → Post result disk) :
    Ensures kernel Pre (Pure.pure result : Code Error Result) Post Fails :=
  holds

theorem throw {error : Error} (holds : ∀ disk, Pre disk → Fails error disk) :
    Ensures kernel Pre (Code.throw error : Code Error Result) Post Fails :=
  holds

theorem bind {Middle : Result → Disk → Prop} {next : Result → Code Error Next}
    {Last : Next → Disk → Prop}
    (first : Ensures kernel Pre code Middle Fails)
    (second : ∀ result,
      Ensures kernel (Middle result) (next result) Last Fails) :
    Ensures kernel Pre (code >>= next) Last Fails := by
  intro disk pre
  have reached := first disk pre
  change match (match code kernel disk with
    | (.ok result, middle) => next result kernel middle
    | (.error error, middle) => (.error error, middle)) with
    | (.ok result, reached) => Last result reached
    | (.error error, reached) => Fails error reached
  generalize code kernel disk = ended at reached ⊢
  rcases ended with ⟨_ | result, middle⟩
  · exact reached
  · exact second result middle reached

theorem mono {Weak : Result → Disk → Prop}
    (ensures : Ensures kernel Pre code Post Fails)
    (weaker : ∀ result disk, Post result disk → Weak result disk) :
    Ensures kernel Pre code Weak Fails := by
  intro disk pre
  have reached := ensures disk pre
  generalize code kernel disk = ended at reached ⊢
  rcases ended with ⟨_ | result, middle⟩
  · exact reached
  · exact weaker result middle reached

theorem soften {Soft : Error → Disk → Prop}
    (ensures : Ensures kernel Pre code Post Fails)
    (softer : ∀ error disk, Fails error disk → Soft error disk) :
    Ensures kernel Pre code Post Soft := by
  intro disk pre
  have reached := ensures disk pre
  generalize code kernel disk = ended at reached ⊢
  rcases ended with ⟨error | _, middle⟩
  · exact softer error middle reached
  · exact reached

theorem of_ok {disk : Disk} {result : Result}
    (ensures : Ensures kernel Pre code Post Fails) (pre : Pre disk)
    (ended : (code kernel disk).1 = .ok result) :
    Post result (code kernel disk).2 := by
  have reached := ensures disk pre
  generalize code kernel disk = outcome at reached ended ⊢
  rcases outcome with ⟨_ | found, middle⟩
  · cases ended
  · cases ended
    exact reached

theorem given {Fact : Prop}
    (holds : Fact → Ensures kernel Pre code Post Fails) :
    Ensures kernel (fun disk => Fact ∧ Pre disk) code Post Fails :=
  fun disk pre => holds pre.1 disk pre.2

theorem mapError {change : Error → Other} {Any : Other → Disk → Prop}
    (ensures : Ensures kernel Pre code Post fun error => Any (change error)) :
    Ensures kernel Pre (Code.mapError change code) Post Any := by
  intro disk pre
  have reached := ensures disk pre
  unfold Code.mapError
  generalize code kernel disk = ended at reached ⊢
  rcases ended with ⟨_ | _, _⟩
  · exact reached
  · exact reached

theorem attempt {Any : Other → Disk → Prop}
    (ensures : Ensures kernel Pre code Post Fails) :
    Ensures kernel Pre
      (Code.attempt code : Code Other (Except Error Result))
      (fun outcome disk =>
        match outcome with
        | .ok result => Post result disk
        | .error error => Fails error disk) Any := by
  intro disk pre
  have reached := ensures disk pre
  unfold Code.attempt
  generalize code kernel disk = ended at reached ⊢
  rcases ended with ⟨_ | _, _⟩
  · exact reached
  · exact reached

theorem perform {call : Call} {effect : Tree → Except Errno (Result × Tree)}
    {broken : Damage → Tree → Tree} {Refused : Errno → Disk → Prop}
    (done : ∀ disk result tree, Pre disk → kernel disk.log call = none →
      effect disk.tree = .ok (result, tree) →
      Post result { tree := tree, log := disk.log ++ [call] })
    (failed : ∀ disk errno, Pre disk → effect disk.tree = .error errno →
      Refused errno { disk with log := disk.log ++ [call] })
    (refused : ∀ disk damage, Pre disk → kernel disk.log call = some damage →
      Refused damage.errno
        { tree := broken damage disk.tree, log := disk.log ++ [call] }) :
    Ensures kernel Pre (Code.perform call effect broken) Post Refused := by
  intro disk pre
  unfold Code.perform
  cases answer : kernel disk.log call with
  | some damage => exact refused disk damage pre answer
  | none =>
      dsimp only
      cases ended : effect disk.tree with
      | ok value => exact done disk _ _ pre answer ended
      | error errno => exact failed disk errno pre ended

/-- A call that leaves the tree alone. -/
theorem still {call : Call} {answer : Tree → Result} {Here : Tree → Prop} :
    Ensures kernel (fun disk => Here disk.tree)
      (Code.perform call (fun tree => .ok (answer tree, tree)) unharmed)
      (fun _ disk => Here disk.tree) (fun _ disk => Here disk.tree) := by
  apply perform
  · intro disk result tree here _ ended
    cases ended
    exact here
  · intro disk errno here _
    exact here
  · intro disk damage here _
    exact here

end Ensures
end Code

/-! ### A single fault -/

/-- The kernel that refuses one call, the one with the given number.  Some calls
may be spared. -/
def Kernel.oneFault (index : Option ℕ) (damage : Damage)
    (spared : Call → Bool) : Kernel := fun log call =>
  if index = some log.length ∧ spared call = false then some damage else none

/-- After so many calls the tree is as described. -/
def At (calls : ℕ) (Here : Tree → Prop) (disk : Disk) : Prop :=
  disk.log.length = calls ∧ Here disk.tree

section OneFault

variable {Error Result : Type} {index : Option ℕ} {damage : Damage}
variable {spared : Call → Bool} {calls : ℕ} {Here : Tree → Prop}

theorem At.after {log : List Call} {call : Call} {tree : Tree}
    (long : log.length = calls) (here : Here tree) :
    At (calls + 1) Here ⟨tree, log ++ [call]⟩ := by
  refine ⟨?_, here⟩
  rw [List.length_append, long]
  rfl

/-- One call among calls of which one may be refused. -/
theorem Code.Ensures.call {call : Call}
    {effect : Tree → Except Errno (Result × Tree)}
    {broken : Damage → Tree → Tree} {Fails : Errno → Disk → Prop}
    (There : Result → Tree → Prop)
    (done : ∀ tree result reached, Here tree →
      ¬(index = some calls ∧ spared call = false) →
      effect tree = .ok (result, reached) → There result reached)
    (failed : ∀ tree errno disk, Here tree → effect tree = .error errno →
      At (calls + 1) (· = tree) disk → Fails errno disk)
    (refused : ∀ tree disk, Here tree → index = some calls →
      spared call = false → At (calls + 1) (· = broken damage tree) disk →
      Fails damage.errno disk) :
    Code.Ensures (.oneFault index damage spared) (At calls Here)
      (Code.perform call effect broken)
      (fun result => At (calls + 1) (There result)) Fails := by
  apply Code.Ensures.perform
  · rintro ⟨tree, log⟩ result reached ⟨long, here⟩ asked ended
    refine At.after long (done tree result reached here ?_ ended)
    intro hit
    unfold Kernel.oneFault at asked
    rw [if_pos ⟨by rw [hit.1, ← long], hit.2⟩] at asked
    cases asked
  · rintro ⟨tree, log⟩ errno ⟨long, here⟩ ended
    exact failed tree errno _ here ended (At.after long rfl)
  · rintro ⟨tree, log⟩ found ⟨long, here⟩ asked
    unfold Kernel.oneFault at asked
    split at asked
    · rename_i hit
      cases asked
      exact refused tree _ here (hit.1.trans (congrArg some long)) hit.2
        (At.after long rfl)
    · cases asked

end OneFault

end FileTree
end TaskCage
