import TaskCage.Foundation.Table
import TaskCage.Linux.Errors
import Mathlib.Data.Finset.Sort
import Mathlib.Data.String.Basic

/-!
# Commands that can be executed

A command is checked before anything is done for it.  What passes is kept in
the form in which `execve` takes it: texts without a NUL character.
-/

namespace TaskCage
namespace Linux

/-- A text that can be passed to the kernel. -/
abbrev CString := {text : String // Char.ofNat 0 ∉ text.toList}

namespace CString

/-- A text as a C string. -/
def new (text : String) : Except ExecutorError CString :=
  if free : Char.ofNat 0 ∉ text.toList then .ok ⟨text, free⟩
  else .error .nulByte

end CString

/-- Whether a path is absolute. -/
def isAbsolute (path : String) : Bool :=
  path.toList.head? = some '/'

/-- What is executed: a path, or an open file. -/
inductive PreparedExecutable where
  | path (program : CString)
  | descriptor (descriptor : ℕ)
deriving DecidableEq

/-- A command that was checked. -/
structure PreparedCommand where
  executable : PreparedExecutable
  argv : List CString
  environment : List CString
  workingDirectory : CString
deriving DecidableEq

namespace PreparedCommand

/-- One environment variable. -/
def environmentEntry (key value : String) : Except ExecutorError CString :=
  if key = "" ∨ '=' ∈ key.toList then
    .error (.invalidEnvironmentKey key)
  else
    CString.new (key ++ "=" ++ value)

/-- The environment in the order of its keys. -/
def environmentEntries (environment : Table String String) :
    List (String × String) :=
  (environment.keys.sort (· ≤ ·)).filterMap fun key =>
    (environment.lookup key).map (key, ·)

/-- Check what every command is checked for. -/
def prepare (executable : PreparedExecutable) (command : List String)
    (workingDirectory : String) (environment : Table String String) :
    Except ExecutorError PreparedCommand := do
  if !isAbsolute workingDirectory then
    throw (.workingDirectoryNotAbsolute workingDirectory)
  let argv ← command.mapM CString.new
  let environment ← (environmentEntries environment).mapM
    fun entry => environmentEntry entry.1 entry.2
  let workingDirectory ← CString.new workingDirectory
  pure { executable, argv, environment, workingDirectory }

/-- Check a command that names its program by an absolute path. -/
def new (command : List String) (workingDirectory : String)
    (environment : Table String String) :
    Except ExecutorError PreparedCommand :=
  match command with
  | [] => .error .emptyCommand
  | program :: _ => do
      if !isAbsolute program then
        throw (.programNotAbsolute program)
      let executable ← CString.new program
      prepare (.path executable) command workingDirectory environment

/-- Check a command whose program is an open file. -/
def newPinned (descriptor : ℕ) (command : List String)
    (workingDirectory : String) (environment : Table String String) :
    Except ExecutorError PreparedCommand :=
  match command with
  | [] => .error .emptyCommand
  | _ :: _ =>
      prepare (.descriptor descriptor) command workingDirectory environment

end PreparedCommand
end Linux
end TaskCage
