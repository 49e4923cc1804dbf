import MakeCheck.CommandLine.Execution
import MakeCheck.CommandLine.Reading
import MakeCheck.Log.Filter

namespace MakeCheck

-- A run of the program as the caller sees it.
structure Session where
  exitCode : Nat
  output : String
  errors : List String
deriving DecidableEq

namespace Session

def versionText : String := "grading 0.1.0\n"

def helpText : String :=
  "Inspect and exercise Makefiles the way the grader sees them\n\n" ++
    "Usage: grading <COMMAND>\n\n" ++
    "Commands:\n" ++
    "  rules  List the rules (and optionally variables) recovered from a Makefile\n" ++
    "  run    Invoke Makefile targets the way the grader does\n"

-- Colours are for terminals, and for callers that insist on them.
def coloursWanted (environment : Environment) (terminal : Bool) : Bool :=
  let set? (name : String) : Option Bool := (environment.text? name).map (· != "0")
  if set? "CLICOLOR_FORCE" = some true then true
  else if (set? "NO_COLOR").isSome then false
  else terminal && (set? "CLICOLOR").getD true

-- In debug mode the log speaks up, unless a filter is named.
def filterFor (environment : Environment) : LogFilter × List String :=
  LogFilter.read
    ((environment.text? "RUST_LOG").getD (if environment.debugMode then "debug" else "info"))

def usage (error : UsageError) : Session :=
  { exitCode := error.exitCode
    output :=
      match error with
      | .versionAsked => versionText
      | .helpAsked => helpText
      | _ => ""
    errors := if error.exitCode = 0 then [] else [helpText] }

def textLines (text : String) : List String :=
  (text.toList.splitOn '\n').map String.ofList

-- How an execution ends that was under way.
def ofResult : Except Interruption Answer → Session
  | .ok answer =>
      { exitCode := if answer.success then 0 else 1, output := answer.output, errors := [] }
  | .error (.report report) => { exitCode := 1, output := "", errors := textLines report.text }
  | .error (.crash crash) => { exitCode := 101, output := "", errors := [crash.message] }

-- Runs the program on its arguments. The log stands before the error that ends the run.
def run (terminal : Bool) (arguments : List String) (host : Host) : Session × Host :=
  let (filter, complaints) := filterFor host.environment
  let warnings := complaints.flatMap fun complaint =>
    textLines ("warning: " ++ complaint ++ ", ignoring it")
  match CommandLine.read host.environment arguments with
  | .error error =>
      let session := usage error
      ({ session with errors := warnings ++ session.errors }, host)
  | .ok commandLine =>
      let colours := coloursWanted host.environment terminal
      let (result, after) := (commandLine.execute colours).run.run { host with log := [] }
      let session := ofResult result
      let told := (after.log.filter filter.passes).flatMap Record.lines
      ({ session with errors := warnings ++ told ++ session.errors },
        { after with log := host.log })

end Session

end MakeCheck
