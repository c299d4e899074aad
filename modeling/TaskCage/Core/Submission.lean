import TaskCage.Foundation.Table
import TaskCage.Core.Policy
import Mathlib.Data.Int.Notation

/-!
# Validated submissions

What a caller asked for, after validation.  The identity of a submission is
what two requests with one `clientRequestId` are compared by; the execution
plan also holds values that are not part of the caller's request, such as
absolute staging paths, and is no part of the identity.
-/

namespace TaskCage

/-- Exact name and version of a Profile. -/
structure ProfileIdentity where
  name : String
  version : String
deriving DecidableEq

/-- A typed Profile input. -/
inductive ProfileValue where
  | string (value : String)
  | int64 (value : ℤ)
  | boolean (value : Bool)
  | localInput (path digest : String) (sizeBytes : ℕ)
deriving DecidableEq

/-- A requested CPU ceiling. -/
structure CpuMaxOverride where
  quotaMicros : ℕ
  periodMicros : ℕ
deriving DecidableEq

/-- Policy fields a caller may lower. -/
structure ProfileResourceOverrides where
  cpuMax : Option CpuMaxOverride := none
  memoryMaxBytes : Option ℕ := none
  pidsMax : Option ℕ := none
  wallTimeLimitMs : Option ℕ := none
  stdoutTailMaxBytes : Option ℕ := none
  stderrTailMaxBytes : Option ℕ := none
deriving DecidableEq

/-- Request to invoke one exact Profile; input pairs keep their multiplicity. -/
structure ProfileCall where
  identity : ProfileIdentity
  inputs : List (String × ProfileValue)
  resourceOverrides : Option ProfileResourceOverrides := none
deriving DecidableEq

/-- A Profile request under the caller's idempotency key. -/
structure ProfileSubmission where
  clientRequestId : String
  call : ProfileCall
deriving DecidableEq

/-- A shell-free command. -/
structure RawCommand where
  program : String
  arguments : List String
  workingDirectory : String
  environment : Table String String
deriving DecidableEq

/-- A raw command under the caller's idempotency key. -/
structure RawSubmission where
  clientRequestId : String
  command : RawCommand
  budget : ResourceBudget
deriving DecidableEq

/-- What two submissions with one `clientRequestId` are compared by. -/
inductive SubmissionIdentity where
  | raw (submission : RawSubmission)
  | profile (submission : ProfileSubmission)
deriving DecidableEq

namespace SubmissionIdentity

/-- The caller's idempotency key. -/
def clientRequestId : SubmissionIdentity → String
  | raw submission => submission.clientRequestId
  | profile submission => submission.clientRequestId

end SubmissionIdentity

/-- How the Linux side opens the program; a pinned descriptor is an open file
of an installed Runtime Package. -/
inductive ResolvedExecutable where
  | path (program : String)
  | pinned (descriptor : ℕ) (argv0 : String)
deriving DecidableEq

/-- A command that needs no shell and no search path. -/
structure ResolvedCommand where
  executable : ResolvedExecutable
  arguments : List String
  workingDirectory : String
  environment : Table String String
deriving DecidableEq

/-- What the runner executes, whatever the origin of the request. -/
structure ResolvedExecutionPlan where
  command : ResolvedCommand
  budget : ResourceBudget
deriving DecidableEq

namespace ResolvedExecutionPlan

/-- The plan of a validated raw command. -/
def fromValidatedRaw (command : RawCommand) (budget : ResourceBudget) :
    ResolvedExecutionPlan where
  command :=
    { executable := .path command.program
      arguments := command.arguments
      workingDirectory := command.workingDirectory
      environment := command.environment }
  budget := budget

end ResolvedExecutionPlan

/-- A submission that passed validation. -/
structure ValidatedSubmit where
  identity : SubmissionIdentity
  plan : ResolvedExecutionPlan
deriving DecidableEq

namespace ValidatedSubmit

/-- A raw command with the plan it determines. -/
def fromRaw (clientRequestId : String) (command : RawCommand)
    (budget : ResourceBudget) : ValidatedSubmit where
  identity := .raw { clientRequestId, command, budget }
  plan := .fromValidatedRaw command budget

/-- A program without arguments under the smallest budget. -/
def ofProgram (clientRequestId program : String) : ValidatedSubmit :=
  fromRaw clientRequestId
    { program, arguments := [], workingDirectory := "/", environment := ∅ }
    .smallest

/-- A Profile request with the plan its resolver produced. -/
def fromProfile (submission : ProfileSubmission)
    (plan : ResolvedExecutionPlan) : ValidatedSubmit where
  identity := .profile submission
  plan := plan

/-- The caller's idempotency key. -/
def clientRequestId (request : ValidatedSubmit) : String :=
  request.identity.clientRequestId

end ValidatedSubmit
end TaskCage
