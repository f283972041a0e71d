import OvnApi.Core.Python
import OvnApi.Lib.Prog

/-! `CommandExecutor` and the client of `ovn-nbctl`: how a command reaches a subprocess and
what becomes of the exceptions of the subprocess layer. A missing program and an exit status
other than zero are turned into an `HTTPException`; every other exception passes through. -/

namespace OvnApi.Core

open Lib Lib.Prog

/-- What `subprocess.run(…, check=True, text=True)` raises. -/
inductive SubprocessError where
  | fileNotFound
  /-- `CalledProcessError`: its standard error output and its own text. -/
  | calledProcess (stderr text : String)
  /-- Any other one, such as an `OSError` or a `UnicodeDecodeError`. -/
  | other (kind message : String)
  deriving DecidableEq

def SubprocessError.toExc (command : List String) : SubprocessError → Exc
  | .fileNotFound => .http 500 (pyRepr (command.headD "command") ++ " not found on PATH.")
  | .calledProcess stderr text =>
    .http 500 ("Command failed: " ++ join " " command ++ ": " ++
      if stderr ≠ "" then strip stderr else text)
  | .other kind message => .other kind message

structure CommandExecutor where
  transport : String
  dockerBin : String

/-- `_build_command`; an empty container name counts as none. -/
def CommandExecutor.buildCommand (executor : CommandExecutor) (args : List String)
    (container : Option String) : Except Exc (List String) :=
  if executor.transport = "local" then .ok args
  else if executor.transport = "docker-exec" then
    match container.filter (· ≠ "") with
    | none =>
      .error (.http 500 "Container name is required when OVN_COMMAND_TRANSPORT=docker-exec.")
    | some name => .ok ([executor.dockerBin, "exec", name] ++ args)
  else
    .error (.http 500 ("Unsupported OVN_COMMAND_TRANSPORT. " ++
      "Expected 'local' or 'docker-exec', got " ++ pyRepr executor.transport ++ "."))

variable {ω : Type}

/-- `CommandExecutor.run`; `subprocess` answers a command with its standard output. -/
def CommandExecutor.run (executor : CommandExecutor)
    (subprocess : List String → Prog ω SubprocessError String) (args : List String)
    (container : Option String) : Prog ω Exc String := fun w =>
  match executor.buildCommand args container with
  | .error e => (.raised e, w)
  | .ok command =>
    match subprocess command w with
    | (.ok stdout, w') => (.ok stdout, w')
    | (.raised e, w') => (.raised (e.toExc command), w')
    | (.outOfFuel, w') => (.outOfFuel, w')

structure OvnNbCommandClient where
  ovnNbctlBin : String
  ovnNbContainer : String
  executor : CommandExecutor

/-- `OvnNbCommandClient.run`; the callers modelled here do not use its output. -/
def OvnNbCommandClient.run (client : OvnNbCommandClient)
    (subprocess : List String → Prog ω SubprocessError String) (args : List String) :
    Prog ω Exc Unit := do
  let _ ← client.executor.run subprocess (client.ovnNbctlBin :: args) (some client.ovnNbContainer)
  pure ()

end OvnApi.Core
