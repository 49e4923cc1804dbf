import MakeCheck.Command.Run
import MakeCheck.Host.Basic
import MakeCheck.Invocation

namespace MakeCheck

-- How long the one waits who runs a command.
def waitFor (attempt : Except Fault Child) (limit : Option Duration) : Nat :=
  match attempt with
  | .error _ => 0
  | .ok child =>
      let whole := max child.exitsAfter child.closesAfter
      (limit.map fun limit => min limit.toNanos whole).getD whole

-- Runs a command on the host.
def runCommand (arguments : List String) (directory : Option Path) (limit : Option Duration) :
    Action Command.Crash CommandResult := do
  let host ← get
  let (attempt, files) := host.attempt arguments directory limit
  let (result, records) := Command.run arguments directory limit host.uptime attempt
  let now := host.now + waitFor attempt limit
  set ({ host with files, now }.say records)
  ExceptT.mk (pure result)

-- Calls make on targets.
def Invocation.run (invocation : Invocation) (targets : List String) :
    Action Command.Crash CommandResult := do
  let arguments := invocation.arguments targets
  logAt .info .invocation ("Running targets with: " ++ " ".intercalate arguments)
  runCommand arguments invocation.directory invocation.limit

end MakeCheck
