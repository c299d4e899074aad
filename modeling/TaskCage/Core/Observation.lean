import TaskCage.Core.Task
import TaskCage.Core.Policy

/-!
# Observations, failures and registry errors

What a submit call can observe, and the errors of the task registry with the
texts they are reported under.
-/

namespace TaskCage

/-- Protocol-neutral classes of use case errors. -/
inductive UseCaseErrorCode where
  | artifactDigestMismatch
  | capacityExhausted
  | environmentUnavailable
  | idempotencyConflict
  | internalError
  | invalidArtifactPath
  | invalidProfileInput
  | limitExceedsPolicy
  | profileNotFound
  | taskAlreadyFinished
  | taskNotFound
deriving DecidableEq

/-- Errors of the task registry. -/
inductive RegistryError where
  | runningSnapshotRequired
  | finishedSnapshotRequired
  | taskAlreadyExists (taskId : String)
  | idempotencyConflict (clientRequestId : String)
  | taskNotFound (taskId : String)
  | taskAlreadyFinished (taskId : String)
  | taskIdMismatch (expected actual : String)
  | stateUnavailable
  | verifiedEffectiveLimitsRequired (taskId : String)
  | capacityExhausted
deriving DecidableEq

namespace RegistryError

/-- The text an error is displayed as. -/
def message : RegistryError → String
  | runningSnapshotRequired => "새 작업은 RUNNING snapshot으로 등록해야 합니다"
  | finishedSnapshotRequired => "작업 완료에는 FINISHED snapshot이 필요합니다"
  | taskAlreadyExists taskId => "taskId가 이미 등록되어 있습니다: " ++ taskId
  | idempotencyConflict clientRequestId =>
      "같은 clientRequestId에 다른 submit payload가 사용됐습니다: " ++ clientRequestId
  | taskNotFound taskId => "작업을 찾을 수 없습니다: " ++ taskId
  | taskAlreadyFinished taskId => "완료된 작업 결과는 바꿀 수 없습니다: " ++ taskId
  | taskIdMismatch expected actual =>
      "완료 결과의 taskId가 예약과 다릅니다: expected=" ++ expected ++ ", actual=" ++ actual
  | stateUnavailable => "Task Registry 상태 잠금을 사용할 수 없습니다"
  | verifiedEffectiveLimitsRequired taskId =>
      "RUNNING 작업에 적용 확인된 effectiveLimits가 없습니다: " ++ taskId
  | capacityExhausted => "task registry retention capacity is exhausted"

/-- The public class of an error, where it has one. -/
def errorCode : RegistryError → Option UseCaseErrorCode
  | idempotencyConflict _ => some .idempotencyConflict
  | taskNotFound _ => some .taskNotFound
  | taskAlreadyFinished _ => some .taskAlreadyFinished
  | stateUnavailable => some .internalError
  | verifiedEffectiveLimitsRequired _ => some .internalError
  | capacityExhausted => some .capacityExhausted
  | _ => none

end RegistryError

/-- Why a submission produced no task. -/
structure SubmitFailure where
  code : UseCaseErrorCode
  message : String
deriving DecidableEq

/-- What a submit call reports about its task. -/
inductive SubmitObservation where
  | task (snapshot : TaskSnapshot)
  | failed (failure : SubmitFailure)
deriving DecidableEq

/-- Resource ceilings that were written to the cgroup and read back. -/
structure VerifiedEffectiveLimits where
  resources : ResourcePolicy
deriving DecidableEq

end TaskCage
