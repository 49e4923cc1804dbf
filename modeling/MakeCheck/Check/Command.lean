import MakeCheck.Check.Failure
import MakeCheck.Check.Template

namespace MakeCheck.Check

def commandSuccessful (result : CommandResult) : Except Failure Unit :=
  if result.success then .ok () else .error (.commandFailed result)

def commandSuccessfulWith (result : CommandResult) (template : String) : Except Failure Unit :=
  match commandSuccessful result with
  | .ok _ => .ok ()
  | .error _ =>
      .error (.custom (renderTemplate template
        [("command", result.command), ("output", result.output)]))

-- The output must be the expected one to the last character. Success is no matter here.
def outputEqual (result : CommandResult) (expected : String) : Except Failure Unit :=
  if result.output = expected then .ok () else .error (.unexpectedOutput result expected)

def outputEqualWith (result : CommandResult) (expected template : String) : Except Failure Unit :=
  match outputEqual result expected with
  | .ok _ => .ok ()
  | .error _ =>
      .error (.custom (renderTemplate template
        [("expected_output", expected), ("command", result.command), ("output", result.output)]))

end MakeCheck.Check
