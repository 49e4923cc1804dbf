import MakeCheck.Command.Run
import MakeCheck.Invocation

namespace MakeCheck

namespace Command

open Text

-- An error of the system: what it says, and whether it blames what it was given.
structure Refusal where
  text : String
  blames : Bool
deriving DecidableEq

-- What comes from the thread that reads the pipe. It may end without a word.
inductive Reading where
  | bytes (written : List UInt8)
  | failed (refusal : Refusal)
  | gone

-- What the system answers to the steps of a command. None of them is taken twice. The two waits that
-- have a limit may give nothing, and a thread that does not start leaves a text only.
structure Answers where
  start : Except Refusal Unit
  startReader : Except String Unit
  now : Instant
  waitWithin : Except Refusal (Option Status)
  wait : Except Refusal Status
  kill : Except Refusal Unit
  receiveUntil : Option Reading
  receive : Reading

-- A step of a command with the answer that it got.
inductive Step where
  | start (answer : Except Refusal Unit)
  | startReader (answer : Except String Unit)
  | waitWithin (bound : Duration) (answer : Except Refusal (Option Status))
  | wait (answer : Except Refusal Status)
  | kill (answer : Except Refusal Unit)
  | receiveUntil (deadline : Instant) (answer : Option Reading)
  | receive (answer : Reading)

-- Why a command gives no result at all.
inductive Abort where
  | readerRefused (shown : String)
  | crash (cause : Crash)

def Abort.message : Abort → String
  | readerRefused shown => "failed to spawn thread: " ++ shown
  | crash cause => cause.message

-- How a command went, with the steps that were taken and what was logged.
structure Course where
  result : Except Abort CommandResult
  steps : List Step
  records : List Record

namespace Course

def ends (result : CommandResult) (records : List Record) : Course :=
  ⟨.ok result, [], records⟩

def aborts (abort : Abort) : Course :=
  ⟨.error abort, [], []⟩

-- The course with a step before it.
def after (course : Course) (step : Step) (records : List Record) : Course :=
  ⟨course.result, step :: course.steps, records ++ course.records⟩

end Course

section Stages

variable (command : String) (answers : Answers)

def refusedWait (refusal : Refusal) : CommandResult :=
  failed command ("Failed to wait for the command: " ++ refusal.text)

-- Nothing is said of a child that is gone already.
def killRecords : Except Refusal Unit → List Record
  | .ok () => []
  | .error refusal =>
      if refusal.blames then []
      else [⟨.warn, .command, "Failed to kill '" ++ command ++ "': " ++ refusal.text⟩]

def reapRecords : Except Refusal Status → List Record
  | .ok _ => []
  | .error refusal => [⟨.warn, .command, "Failed to reap '" ++ command ++ "': " ++ refusal.text⟩]

-- Kills the child and waits for it.
def killAndReap (result : CommandResult) : Course :=
  ((Course.ends result []).after (.wait answers.wait) (reapRecords command answers.wait)).after
    (.kill answers.kill) (killRecords command answers.kill)

-- A pipe that cannot be read counts as one without output.
def output : Reading → String × List Record
  | .bytes written => (Utf8.decodeLossy written, [])
  | .failed refusal =>
      ("", [⟨.warn, .command, "Failed to read output of '" ++ command ++ "': " ++ refusal.text⟩])
  | .gone =>
      ("", [⟨.warn, .command, "Output reader for '" ++ command ++ "' stopped without a result"⟩])

def finish (status : Status) (reading : Reading) : Course :=
  .ends { success := status.success, command, output := (output command reading).1 }
    ((output command reading).2 ++
      [⟨.debug, .command, "'" ++ command ++ "' finished with " ++ status.text⟩])

-- Takes the output of a child that has ended. What the child left behind may keep the pipe open.
def collectOutput (status : Status) : Option (Instant × Duration) → Course
  | none => (finish command status answers.receive).after (.receive answers.receive) []
  | some (deadline, bound) =>
      let course := match answers.receiveUntil with
        | some reading => finish command status reading
        | none =>
            .ends (timedOut command bound)
              [⟨.warn, .command, "Output of '" ++ command ++ "' still open after it exited"⟩]
      course.after (.receiveUntil deadline answers.receiveUntil) []

-- Waits for the child. With a limit the child is killed where the wait comes to nothing.
def await (limit : Option Duration) (deadline : Option (Instant × Duration)) : Course :=
  match limit with
  | some bound =>
      let course := match answers.waitWithin with
        | .ok (some status) => collectOutput command answers status deadline
        | .ok none => killAndReap command answers (timedOut command bound)
        | .error refusal => killAndReap command answers (refusedWait command refusal)
      course.after (.waitWithin bound answers.waitWithin) []
  | none =>
      let course := match answers.wait with
        | .ok status => collectOutput command answers status deadline
        | .error refusal => .ends (refusedWait command refusal) []
      course.after (.wait answers.wait) []

-- The end of the limit on the clock, where there is a limit.
def deadline (now : Instant) : Option Duration → Except Crash (Option (Instant × Duration))
  | none => .ok none
  | some bound =>
      match now.add? bound with
      | some instant => .ok (some (instant, bound))
      | none => .error .clockOverflow

-- Attends to a child that runs. The end of the limit is put on the clock only then.
def attend (limit : Option Duration) : Course :=
  let course : Course := match answers.startReader with
    | .error shown => .aborts (.readerRefused shown)
    | .ok () =>
        match deadline answers.now limit with
        | .error crash => .aborts (.crash crash)
        | .ok deadline => await command answers limit deadline
  course.after (.startReader answers.startReader) []

end Stages

-- Runs a command, whatever the system answers.
def conduct (arguments : List String) (directory : Option Path) (limit : Option Duration)
    (answers : Answers) : Course :=
  let command := " ".intercalate arguments
  match arguments with
  | [] => .ends (failed command "No command was given.") []
  | program :: _ =>
      let course : Course := match answers.start with
        | .error refusal =>
            .ends (failed command ("Failed to start '" ++ program ++ "': " ++ refusal.text))
              [⟨.warn, .command, "Failed to spawn '" ++ command ++ "': " ++ refusal.text⟩]
        | .ok () => attend command answers limit
      course.after (.start answers.start) [spawning command directory limit]

end Command

namespace Child

-- What waiting for the exit gives. Nothing comes of it when the limit is over first.
def exitWithin (child : Child) (limit : Option Duration) : Option Status :=
  if limit.all fun bound => child.exitsAfter ≤ bound.toNanos then some child.status else none

-- What waiting for the end of the output gives. Whatever can still write to the pipe keeps it open,
-- be it the child or something that the child left behind.
def outputWithin (child : Child) (limit : Option Duration) : Option (List UInt8) :=
  if limit.all fun bound => child.closesAfter ≤ bound.toNanos then some child.written else none

end Child

namespace Command

-- What a system answers that refuses nothing to a child of this kind.
def Answers.ofChild (clock : Instant) (limit : Option Duration) (child : Child) : Answers where
  start := .ok ()
  startReader := .ok ()
  now := clock
  waitWithin := .ok (child.exitWithin limit)
  wait := .ok child.status
  kill := .ok ()
  receiveUntil := (child.outputWithin limit).map .bytes
  receive := .bytes child.written

def Refusal.ofFault (fault : Fault) : Refusal :=
  ⟨fault.message, fault == .nulInPath || fault == .nulInArgument⟩

def Answers.ofAttempt (clock : Instant) (limit : Option Duration) : Except Fault Child → Answers
  | .ok child => .ofChild clock limit child
  | .error fault =>
      { ofChild clock limit ⟨.exited 0, 0, [], 0⟩ with start := .error (.ofFault fault) }

end Command

-- Calls make on targets, whatever the system answers.
def Invocation.conduct (invocation : Invocation) (targets : List String)
    (answers : Command.Answers) : Command.Course :=
  let arguments := invocation.arguments targets
  let course := Command.conduct arguments invocation.directory invocation.limit answers
  { course with
    records := ⟨.info, .invocation, "Running targets with: " ++ " ".intercalate arguments⟩ ::
      course.records }

end MakeCheck
