import TaskCage.Core.Text

/-!
# Errors of the Linux runtime

The errors of job cgroups and of the process executor, with the texts they are
displayed as.  An error of the operating system is known by its text.
-/

namespace TaskCage
namespace Linux

/-- An error of the operating system. -/
structure IoError where
  text : String
deriving DecidableEq

/-- Why no path could be chosen for a job cgroup. -/
inductive CgroupPathError where
  | io (operation path : String) (source : IoError)
  | invalidJobId (jobId : String)
  | duplicateJobId (jobId path : String)
deriving DecidableEq

namespace CgroupPathError

/-- The text an error is displayed as. -/
def message : CgroupPathError → String
  | io operation path _ =>
      operation ++ " 작업이 " ++ Text.quote path ++ "에서 실패했습니다"
  | invalidJobId jobId => "작업 식별자 형식이 올바르지 않습니다: " ++ Text.quote jobId
  | duplicateJobId jobId path =>
      "같은 작업 식별자의 cgroup이 이미 있습니다: " ++ Text.quote jobId ++
        ", 경로 " ++ Text.quote path

end CgroupPathError

/-- Errors of a job cgroup. -/
inductive CgroupError where
  | jobPath (error : CgroupPathError)
  | io (operation path : String) (source : IoError)
  | valueMismatch (path expected actual : String)
  | missingKey (path key : String)
  | emptyTimeout (path : String) (timeout : ℕ)
  | cleanupCombined (primary cleanup : String)
  | readBackRollbackUncertain (mismatch : CgroupError) (cleanup : String)
deriving DecidableEq

namespace CgroupError

/-- The text an error is displayed as. -/
def message : CgroupError → String
  | jobPath error => error.message
  | io operation path _ =>
      operation ++ " 작업이 " ++ Text.quote path ++ "에서 실패했습니다"
  | valueMismatch path expected actual =>
      "cgroup 값이 요청과 다릅니다: " ++ Text.quote path ++ ", 예상 " ++
        Text.quote expected ++ ", 실제 " ++ Text.quote actual
  | missingKey path key =>
      "cgroup 값 " ++ Text.quote key ++ "을 " ++ Text.quote path ++ "에서 찾지 못했습니다"
  | emptyTimeout path timeout =>
      "cgroup " ++ Text.quote path ++ "가 " ++ Text.duration timeout ++
        " 안에 비지 않았습니다"
  | cleanupCombined primary cleanup =>
      "작업 결과 수집과 cgroup 제거가 모두 실패했습니다: 결과=" ++ primary ++ "; 제거=" ++ cleanup
  | readBackRollbackUncertain mismatch cleanup =>
      "cgroup 값 재확인 실패 뒤 작업 cgroup 제거도 실패했습니다: 재확인=" ++
        mismatch.message ++ "; 제거=" ++ cleanup

/-- Whether the error says that a cgroup may have been left behind. -/
def mayLeaveJob : CgroupError → Bool
  | cleanupCombined _ _ => true
  | readBackRollbackUncertain _ _ => true
  | _ => false

end CgroupError

/-- One of the two captured output streams. -/
inductive Stream where
  | stdout
  | stderr
deriving DecidableEq

namespace Stream

/-- The name a stream is reported under. -/
def name : Stream → String
  | stdout => "stdout"
  | stderr => "stderr"

end Stream

/-- Errors of starting, awaiting and reading a process. -/
inductive ExecutorError where
  | emptyCommand
  | nulByte
  | programNotAbsolute (program : String)
  | workingDirectoryNotAbsolute (directory : String)
  | invalidEnvironmentKey (key : String)
  | execPipe (source : IoError)
  | startGatePipe (source : IoError)
  | startGateSignal (source : IoError)
  | startGateAlreadyResolved
  | outputPipe (stream : Stream) (source : IoError)
  | outputReaderStart (stream : Stream) (source : IoError)
  | clone (source : IoError)
  | wait (source : IoError)
  | invalidExecPayload
  | outputRead (stream : Stream) (source : IoError)
  | outputReaderPanicked (stream : Stream)
  | outputReaderTimeout (budget : ℕ)
deriving DecidableEq

namespace ExecutorError

/-- Whether a wait for the child failed. -/
def isWait : ExecutorError → Bool
  | wait _ => true
  | _ => false

/-- The text an error is displayed as. -/
def message : ExecutorError → String
  | emptyCommand => "실행할 프로그램이 없습니다"
  | nulByte => "명령이나 환경 변수에 NUL 문자가 있습니다"
  | programNotAbsolute program => "실행 파일은 절대 경로여야 합니다: " ++ Text.quote program
  | workingDirectoryNotAbsolute directory =>
      "작업 디렉터리는 절대 경로여야 합니다: " ++ Text.quote directory
  | invalidEnvironmentKey key =>
      "환경 변수 이름은 비어 있거나 '=' 문자를 포함할 수 없습니다: " ++ Text.quote key
  | execPipe _ => "실행 오류 전달용 관을 만들지 못했습니다"
  | startGatePipe _ => "exec 시작 게이트용 관을 만들지 못했습니다"
  | startGateSignal _ => "검증이 끝난 target의 exec 시작을 허용하지 못했습니다"
  | startGateAlreadyResolved => "exec 시작 게이트가 이미 처리됐습니다"
  | outputPipe stream _ => stream.name ++ " 출력 관을 준비하지 못했습니다"
  | outputReaderStart stream _ => stream.name ++ " 출력 reader thread를 시작하지 못했습니다"
  | clone _ => "clone3로 작업 cgroup 안에 프로세스를 만들지 못했습니다"
  | wait _ => "자식 프로세스 종료 상태를 회수하지 못했습니다"
  | invalidExecPayload => "자식이 잘못된 실행 오류 값을 보냈습니다"
  | outputRead stream _ => stream.name ++ " 출력을 읽지 못했습니다"
  | outputReaderPanicked stream =>
      stream.name ++ " 출력 reader thread가 panic으로 종료됐습니다"
  | outputReaderTimeout budget =>
      "출력 reader가 " ++ Text.duration budget ++ " 안에 종료되지 않았습니다"

end ExecutorError
end Linux
end TaskCage
