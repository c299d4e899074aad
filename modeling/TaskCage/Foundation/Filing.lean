import Mathlib.Data.List.Basic
import Mathlib.Data.Nat.Notation

/-!
# Code on files

Code that keeps a state in memory and files on a disk.  Every call of the
operating system may fail; the faults are given in advance, one entry for each
call.  The calls are kept with the disk that each of them left, so that one can
say what is found on the disk when the code stops anywhere in between.
-/

namespace TaskCage
namespace Filing

/-- The files of a disk. -/
abbrev Files (Place Content : Type) : Type :=
  Place → Option Content

/-- Why a call failed; a failed write may have reached a part of the file. -/
inductive IoError where
  | notFound
  | alreadyExists
  | failed (written : ℕ)
deriving DecidableEq

/-- The call failed for no reason that lies in the files. -/
def IoError.isFault : IoError → Bool
  | failed _ => true
  | notFound => false
  | alreadyExists => false

/-- A call of the operating system. -/
inductive Call (Place : Type) where
  | create (place : Place)
  | append (place : Place)
  | write (place : Place)
  | rename (source target : Place)
  | remove (place : Place)
  | read (place : Place)
deriving DecidableEq

/-- A call with its answer and the disk that it left. -/
structure Step (Place Content : Type) where
  call : Call Place
  answer : Except IoError Unit
  files : Files Place Content

/-- What the code works on: its files, its memory, the faults of the calls to
come and the calls so far. -/
structure Room (Place Content Memory : Type) where
  files : Files Place Content
  memory : Memory
  faults : List (Option ℕ)
  steps : List (Step Place Content)

end Filing

/-- Code that works on files and may end with an error. -/
def Filing (Place Content Memory Error Result : Type) : Type :=
  Filing.Room Place Content Memory →
    Except Error Result × Filing.Room Place Content Memory

namespace Filing

variable {Place Content Memory Error Other Result Next Item : Type}

instance : Monad (Filing Place Content Memory Error) where
  pure result := fun room => (.ok result, room)
  bind first next := fun room =>
    match first room with
    | (.ok result, middle) => next result middle
    | (.error error, middle) => (.error error, middle)

variable {next : Result → Filing Place Content Memory Error Next}
variable {program : Filing Place Content Memory Error Result}
variable {reached room : Room Place Content Memory}

theorem bind_of_ok {result : Result}
    (ran : program room = (.ok result, reached)) :
    (program >>= next) room = next result reached := by
  change (match program room with
    | (.ok result, middle) => next result middle
    | (.error error, middle) => (.error error, middle)) = _
  rw [ran]

theorem bind_of_error {error : Error}
    (ran : program room = (.error error, reached)) :
    (program >>= next) room = (.error error, reached) := by
  change (match program room with
    | (.ok result, middle) => next result middle
    | (.error error, middle) => (.error error, middle)) = _
  rw [ran]

/-- End with an error. -/
def throw (error : Error) : Filing Place Content Memory Error Result :=
  fun room => (.error error, room)

/-- The outcome of code, whether it fails or not. -/
def attempt (program : Filing Place Content Memory Error Result) :
    Filing Place Content Memory Other (Except Error Result) := fun room =>
  let (outcome, reached) := program room
  (.ok outcome, reached)

/-- Code with other errors. -/
def mapError (change : Error → Other)
    (program : Filing Place Content Memory Error Result) :
    Filing Place Content Memory Other Result := fun room =>
  let (outcome, reached) := program room
  (outcome.mapError change, reached)

/-- A value or an error that was computed without files. -/
def ofExcept (outcome : Except Error Result) :
    Filing Place Content Memory Error Result := fun room =>
  (outcome, room)

/-- When the code fails, do something and fail with the same error. -/
def onError (program : Filing Place Content Memory Error Result)
    (repair : Filing Place Content Memory Error Unit) :
    Filing Place Content Memory Error Result := do
  match ← (attempt program : Filing Place Content Memory Error _) with
  | .ok result => pure result
  | .error error => do
      repair
      throw error

/-- Code whose failure does not matter. -/
def ignoring (program : Filing Place Content Memory Error Result) :
    Filing Place Content Memory Other Unit := do
  let _ ← (attempt program : Filing Place Content Memory Other _)
  pure ()

/-- Look at the memory. -/
def memory : Filing Place Content Memory Error Memory := fun room =>
  (.ok room.memory, room)

/-- Change the memory. -/
def modify (change : Memory → Memory) :
    Filing Place Content Memory Error Unit := fun room =>
  (.ok (), { room with memory := change room.memory })

@[simp] theorem ofExcept_ok_bind (result : Result)
    (next : Result → Filing Place Content Memory Error Next) :
    (ofExcept (.ok result) >>= next) = next result :=
  rfl

@[simp] theorem ofExcept_error_bind (error : Error)
    (next : Result → Filing Place Content Memory Error Next) :
    (ofExcept (.error error) >>= next) = throw error :=
  rfl

@[simp] theorem memory_bind
    (next : Memory → Filing Place Content Memory Error Next)
    (room : Room Place Content Memory) :
    (memory >>= next) room = next room.memory room :=
  rfl

@[simp] theorem modify_bind (change : Memory → Memory)
    (next : Unit → Filing Place Content Memory Error Next)
    (room : Room Place Content Memory) :
    (modify change >>= next) room =
      next () { room with memory := change room.memory } :=
  rfl

/-- Do something for each item, up to the first error. -/
def forEach (items : List Item)
    (body : Item → Filing Place Content Memory Error Unit) :
    Filing Place Content Memory Error Unit :=
  match items with
  | [] => pure ()
  | item :: rest => do
      body item
      forEach rest body

/-! ### Calls -/

/-- The room after a call. -/
def Room.after (room : Room Place Content Memory) (call : Call Place)
    (answer : Except IoError Unit) (files : Files Place Content) :
    Room Place Content Memory :=
  { room with
    files := files
    faults := room.faults.tail
    steps := room.steps ++ [⟨call, answer, files⟩] }

/-- One call.  `effect` is what it does when the system lets it, and `broken`
is what it leaves when it fails. -/
def perform (call : Call Place)
    (effect : Files Place Content →
      Except IoError (Result × Files Place Content))
    (broken : ℕ → Files Place Content → Files Place Content) :
    Filing Place Content Memory IoError Result := fun room =>
  match room.faults.head?.join with
  | some written =>
      (.error (.failed written),
        room.after call (.error (.failed written)) (broken written room.files))
  | none =>
      match effect room.files with
      | .ok (result, files) => (.ok result, room.after call (.ok ()) files)
      | .error error => (.error error, room.after call (.error error) room.files)

variable [DecidableEq Place]

/-- The disk with another content of one file. -/
def Files.set (files : Files Place Content) (place : Place)
    (content : Option Content) : Files Place Content :=
  Function.update files place content

section Effects

variable (files : Files Place Content)

/-- What creating a file does. -/
def Files.afterCreate (place : Place) (content : Content) :
    Except IoError (Unit × Files Place Content) :=
  match files place with
  | some _ => .error .alreadyExists
  | none => .ok ((), files.set place (some content))

/-- What opening a file does. -/
def Files.afterOpen (place : Place) : Except IoError (Unit × Files Place Content) :=
  match files place with
  | some _ => .ok ((), files)
  | none => .error .notFound

/-- What writing to a file that is open does. -/
def Files.afterWrite (place : Place) (fully : Content → Content) :
    Except IoError (Unit × Files Place Content) :=
  .ok ((), files.set place ((files place).map fully))

/-- What giving a file another name does. -/
def Files.afterRename (source target : Place) :
    Except IoError (Unit × Files Place Content) :=
  match files source with
  | some content => .ok ((), (files.set target (some content)).set source none)
  | none => .error .notFound

/-- What removing a file does. -/
def Files.afterRemove (place : Place) : Except IoError (Unit × Files Place Content) :=
  match files place with
  | some _ => .ok ((), files.set place none)
  | none => .error .notFound

/-- What reading a file does. -/
def Files.afterRead (place : Place) :
    Except IoError (Content × Files Place Content) :=
  match files place with
  | some content => .ok (content, files)
  | none => .error .notFound

variable {files} {content : Content} {place source : Place}

theorem Files.afterCreate_of_absent (absent : files place = none)
    (content : Content) :
    files.afterCreate place content =
      .ok ((), files.set place (some content)) := by
  unfold afterCreate
  rw [absent]

theorem Files.afterRename_of_present (present : files source = some content)
    (target : Place) :
    files.afterRename source target =
      .ok ((), (files.set target (some content)).set source none) := by
  unfold afterRename
  rw [present]

theorem Files.afterRead_of_present (present : files place = some content) :
    files.afterRead place = .ok (content, files) := by
  unfold afterRead
  rw [present]

end Effects

/-- Create a file that must not exist. -/
def create (place : Place) (content : Content) :
    Filing Place Content Memory IoError Unit :=
  perform (.create place) (Files.afterCreate · place content) fun _ files => files

/-- Open a file that must exist, to write at its end. -/
def openAppend (place : Place) : Filing Place Content Memory IoError Unit :=
  perform (.append place) (Files.afterOpen · place) fun _ files => files

/-- Write to a file that is open.  A failed write leaves what `partly`
makes of the file. -/
def write (place : Place) (fully : Content → Content)
    (partly : ℕ → Content → Content) :
    Filing Place Content Memory IoError Unit :=
  perform (.write place) (Files.afterWrite · place fully)
    fun written files => files.set place ((files place).map (partly written))

/-- Give a file another name. -/
def rename (source target : Place) : Filing Place Content Memory IoError Unit :=
  perform (.rename source target) (Files.afterRename · source target)
    fun _ files => files

/-- Remove a file. -/
def remove (place : Place) : Filing Place Content Memory IoError Unit :=
  perform (.remove place) (Files.afterRemove · place) fun _ files => files

/-- Read a file. -/
def read (place : Place) : Filing Place Content Memory IoError Content :=
  perform (.read place) (Files.afterRead · place) fun _ files => files

end Filing
end TaskCage
