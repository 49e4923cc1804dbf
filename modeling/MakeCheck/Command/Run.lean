import MakeCheck.Command.Basic
import MakeCheck.FileStore.Fault
import MakeCheck.Log
import MakeCheck.Path
import MakeCheck.Text.Quoted
import MakeCheck.Text.Utf8

namespace MakeCheck.Command

open Text

-- The clock cannot hold the end of the time limit.
inductive Crash where
  | clockOverflow
deriving DecidableEq

def Crash.message : Crash → String
  | clockOverflow => "overflow when adding duration to instant"

-- The clock counts whole seconds in 63 bits.
def clockHolds (now : Nat) (limit : Duration) : Bool :=
  decide ((now + limit.toNanos) / 1000000000 < Nat.pow 2 63)

def failed (command output : String) : CommandResult :=
  { success := false, command, output }

def timedOut (command : String) (limit : Duration) : CommandResult :=
  failed command
    ("Command '" ++ command ++ "' timed out after " ++ limit.seconds.text ++ " seconds.")

def optional (text : Option String) : String :=
  match text with
  | some text => "Some(" ++ text ++ ")"
  | none => "None"

private def record (level : Level) (message : String) : Record :=
  ⟨level, .command, message⟩

def spawning (command : String) (directory : Option Path) (limit : Option Duration) : Record :=
  record .debug ("Spawning '" ++ command ++ "' (cwd=" ++
    optional (directory.map fun path => quoted path.text) ++ ", timeout=" ++
    optional (limit.map Duration.text) ++ ")")

-- Bytes that came before a limit ran out are lost.
def collect (command : String) : Ending → CommandResult × List Record
  | .finished status written =>
      ({ success := status.success, command, output := Utf8.decodeLossy written },
        [record .debug ("'" ++ command ++ "' finished with " ++ status.text)])
  | .stillRunning limit => (timedOut command limit, [])
  | .pipeOpen limit =>
      (timedOut command limit,
        [record .warn ("Output of '" ++ command ++ "' still open after it exited")])

-- Runs a command. `attempt` is what the system makes of it: it refuses to start the program, or
-- starts a child. The end of the limit is put on the clock only once a child runs.
def run (arguments : List String) (directory : Option Path) (limit : Option Duration) (now : Nat)
    (attempt : Except Fault Child) : Except Crash CommandResult × List Record :=
  let command := " ".intercalate arguments
  match arguments with
  | [] => (.ok (failed command "No command was given."), [])
  | program :: _ =>
      let first := spawning command directory limit
      match attempt with
      | .error fault =>
          (.ok (failed command ("Failed to start '" ++ program ++ "': " ++ fault.message)),
            [first, record .warn ("Failed to spawn '" ++ command ++ "': " ++ fault.message)])
      | .ok child =>
          if limit.all (clockHolds now) then
            let (result, records) := collect command (child.ending limit)
            (.ok result, first :: records)
          else (.error .clockOverflow, [first])

end MakeCheck.Command
