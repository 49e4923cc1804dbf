import MakeCheck.CommandLine.Reading
import MakeCheck.Host.Commands
import MakeCheck.Json.Printer
import MakeCheck.Makefile.Json
import MakeCheck.Makefile.Listing
import MakeCheck.Makefile.Reading

namespace MakeCheck

open Decimal

-- Why the program stops before it has an answer.
inductive Interruption where
  | report (report : Report)
  | crash (crash : Command.Crash)

-- What the program prints, and whether all went well.
structure Answer where
  success : Bool
  output : String
deriving DecidableEq

namespace CommandLine

-- Zero seconds stand for no limit.
def limitOf (timeout : Binary64) : Except Report (Option Duration) :=
  if timeout.isZero then .ok none
  else
    match Duration.ofSeconds timeout with
    | .ok limit => .ok (some limit)
    | .error fault => .error (.invalidTimeout timeout fault)

def listRules (colours : Bool) (path : Path) (definitions json : Bool) : Action Report Answer := do
  let options : ParseOptions :=
    { ParseOptions.ofEnvironment (← get).environment with detectDefinitions := definitions }
  let makefile ← Makefile.load path options
  let output := if json then makefile.toJson.pretty ++ "\n" else makefile.listing colours
  return { success := true, output }

-- The output of a call that went well is shown as it is, any other with the command.
def answerOf (result : CommandResult) : Answer :=
  { success := result.success
    output := if result.success then result.output else result.text ++ "\n" }

def runTargets (invocation : Invocation) (targets : List String) : Action Command.Crash Answer := do
  return answerOf (← invocation.run targets)

-- Does what was asked for. Nothing is printed before all is done.
def execute (colours : Bool) : CommandLine → Action Interruption Answer
  | rules path definitions json => (listRules colours path definitions json).adapt .report
  | run targets file directory timeout make => do
      match limitOf timeout with
      | .error report => throw (.report report)
      | .ok limit =>
          let invocation : Invocation := { make, makefileName := file, directory, limit }
          (runTargets invocation targets).adapt .crash

end CommandLine

end MakeCheck
