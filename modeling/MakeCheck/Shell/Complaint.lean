import MakeCheck.Shell.VariableAssignment

namespace MakeCheck.Shell

open Text

namespace Step

def performing (step : Step) (running : Option String) : Step :=
  { step with process := { step.process with running } }

-- A complaint of the shell about the line of its script that runs.
def complain (step : Step) (message : String) : Step :=
  let process := step.process
  let line := if process.isExtended then "line " ++ toString process.line else toString process.line
  let place := process.scriptName :: line :: process.running.toList
  step.writeErrors (Utf8.encode (": ".intercalate (place ++ [message]) ++ "\n"))

def refuse (step : Step) (status : Nat) (message : String) : Step :=
  (step.complain message).withStatus status

def fail (step : Step) (message : String) : Step :=
  { step.refuse 2 message with flow := .failed }

-- A complaint of the extended dialect that ends all commands which were read together.
def drop (step : Step) (message : String) : Step :=
  { step.refuse 1 message with flow := .dropped }

-- A complaint about what lacks a value, which ends all that the script runs.
def abandon (step : Step) (message : String) : Step :=
  { step.refuse 1 message with flow := .abandoned }

-- A complaint that ends the script. One that was given as a text tells so by its status, unless any
-- failure ends it.
def quit (step : Step) (message : String) : Step :=
  let process := step.process
  let isText := process.options.has "text" && process.extras.depth = 0
  let code := if isText && !process.options.stopsOnFailure then 127 else 1
  { step.refuse code message with flow := .ended code }

-- An error in a command of the shell gives it a status, as far as the script may go on then.
def recover (step : Step) : Step :=
  if step.flow = .failed then { step with flow := .going } else step

-- Gives a variable of the extended dialect what it is given.
def give (step : Step) (given : Given) : Step :=
  if !step.isGoing then step
  else
    match step.process.give given with
    | .ok process =>
        let process := if process.options.exportsAll then process.expose given.name else process
        { step with process }
    | .error fault =>
        let told := (step.performing none).refuse 1 fault.message
        { told.performing step.process.running with
          flow := if fault.isGrave then .abandoned else .failed }

-- Gives a variable a value. One that is constant keeps its own.
def assign (step : Step) (name value : String) : Step :=
  if !step.isGoing then step
  else if step.process.isExtended then step.give (.value name none false value)
  else if !isName name.toList then step.fail (name ++ ": bad variable name")
  else if step.process.constant.contains name then step.fail (name ++ ": is read only")
  else if name = "OPTIND" ∧ !isNumber value then step.fail ("Illegal number: " ++ value)
  else
    let process := (step.process.assign name value).withIndex name value
    { step with process := if process.options.exportsAll then process.expose name else process }

-- Says something and gives the command a status. It is an error if nobody can hear it.
def sayBytes (step : Step) (bytes : List UInt8) (status : Nat) : Step :=
  match step.writeOutput bytes with
  | (told, none) => told.withStatus status
  | (told, some _) =>
      if told.isGoing then told.refuse 1 (step.process.running.getD "" ++ ": I/O error") else told

def say (step : Step) (text : String) : Step :=
  step.sayBytes (Utf8.encode text) 0

-- How much can still be written to a channel if its reader may stop to read.
def room? (step : Step) (channel : Nat) : Option Nat :=
  match (step.process.channel? channel).bind step.trace.opened? with
  | some (.kept _ room _) => room.size
  | some (.device .full) => some 0
  | _ => none

def around (step : Step) (name : String) : Program.Surroundings :=
  { name
    files := step.trace.files
    directory := step.process.directory
    now := step.trace.now + step.process.time
    input :=
      match step.input? with
      | some (_, opened) => opened.content step.trace.files
      | none => .error .badDescriptor
    inputIsFile := step.input?.any fun entry => entry.2.isFile
    room := step.room? 1
    mask := step.process.mask
    environment := step.process.bindings.filter fun entry =>
      step.process.exported.contains entry.1 }

def relay (step : Step) : List Chunk → Step × Option Fault
  | [] => (step, none)
  | (time, bytes) :: rest =>
      let waited := step.waitUntil time
      if !waited.isGoing then (waited, none)
      else
        match waited.writeOutput bytes with
        | (told, none) => relay told rest
        | (told, fault) => (told, fault)

def inputChunks (step : Step) : List Chunk :=
  match step.input? with
  | some (_, .coming chunks _ _) => chunks
  | some (_, opened) => [(0, (opened.content step.trace.files).toOption.getD [])]
  | none => []

-- Writes what a program says, until its output is lost.
def tell (step : Step) : List (Program.Channel × List UInt8) → Step × Option Fault
  | [] => (step, none)
  | (.errors, bytes) :: rest => (step.writeErrors bytes).tell rest
  | (.output, bytes) :: rest =>
      match step.writeOutput bytes with
      | (told, none) => told.tell rest
      | (told, fault) => (told, fault)

-- Takes over what a program has done. A process that is killed before the end writes nothing.
def take (step : Step) (outcome : Program.Outcome) : Step :=
  let waited :=
    match outcome.takes with
    | .nanos time => step.spend time
    | .endless => step.loseItself
  if !waited.isGoing then waited
  else
    let changed := { waited with trace := { waited.trace with files := outcome.files } }
    let (sent, lost) := if outcome.relays then changed.relay changed.inputChunks
      else (changed, none)
    let read := match outcome.intake with
      | some intake => if sent.isGoing then sent.readInput intake else sent
      | none => sent
    if !read.isGoing then read
    else
      let (told, lost) := if lost.isSome then (read, lost) else read.tell outcome.written
      match lost with
      | some fault =>
          if told.isGoing then
            (told.writeErrors (Utf8.encode (outcome.lossReport fault))).withStatus outcome.lossCode
          else told
      | none => told.withStatus outcome.code

end Step

end MakeCheck.Shell
