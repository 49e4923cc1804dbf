import MakeCheck.Command.Basic
import MakeCheck.FileStore.Opened
import MakeCheck.Shell.Options
import MakeCheck.Shell.Script

namespace MakeCheck.Shell

-- Values under keys: numbers in their order, or texts, the latest of which comes first.
inductive Collection where
  | row (entries : List (Nat × String))
  | table (entries : List (String × String))
deriving DecidableEq

-- The shelf that a name lies on. Names are shown shelf by shelf.
def shelves : Nat := 1024

def shelf (name : String) : Nat :=
  name.toUTF8.toList.foldl
    (fun code byte => (code * 16777619 % Nat.pow 2 32) ^^^ byte.toNat) 2166136261 % shelves

namespace Collection

def ofList (values : List String) : Collection :=
  row (values.zipIdx.map fun (value, place) => (place, value))

def entries : Collection → List (String × String)
  | row entries => entries.map fun (place, value) => (toString place, value)
  | table entries => entries.mergeSort fun a b => decide (shelf a.1 ≤ shelf b.1)

def keys (collection : Collection) : List String :=
  collection.entries.map (·.1)

def values (collection : Collection) : List String :=
  collection.entries.map (·.2)

def size : Collection → Nat
  | row entries => entries.length
  | table entries => entries.length

def isTable : Collection → Bool
  | row _ => false
  | table _ => true

def nextPlace : Collection → Nat
  | row entries => (entries.getLast?.map (·.1 + 1)).getD 0
  | table _ => 0

def placeOf (key : String) : Nat :=
  key.toList.foldl (fun n c => n * 10 + (c.toNat - '0'.toNat)) 0

def get? (collection : Collection) (key : String) : Option String :=
  match collection with
  | row entries => entries.lookup (placeOf key)
  | table entries => entries.lookup key

def putAt (place : Nat) (value : String) : List (Nat × String) → List (Nat × String)
  | [] => [(place, value)]
  | (other, old) :: rest =>
      if other < place then (other, old) :: putAt place value rest
      else if other = place then (place, value) :: rest
      else (place, value) :: (other, old) :: rest

def put (collection : Collection) (key value : String) : Collection :=
  match collection with
  | row entries =>
      let place := placeOf key
      if entries.getLast?.all (·.1 < place) then row (entries ++ [(place, value)])
      else row (putAt place value entries)
  | table entries =>
      if (entries.lookup key).isSome then
        table (entries.map fun entry => if entry.1 = key then (key, value) else entry)
      else table ((key, value) :: entries)

def remove (collection : Collection) (key : String) : Collection :=
  match collection with
  | row entries => row (entries.filter fun entry => entry.1 != placeOf key)
  | table entries => table (entries.filter fun entry => entry.1 != key)

end Collection

-- A process in the background: its number and the number that the shell counts it by, when it ends
-- and how, and whether it has been waited for.
structure Job where
  number : Nat
  place : Nat
  endsAt : Nat
  status : Status
  isOver : Bool
deriving DecidableEq

def Job.code (job : Job) : Nat :=
  match job.status with
  | .exited code => code
  | .signalled signal => 128 + signal

structure Outer where
  name : String
  value : Option String
  collection : Option Collection
  traits : List Char
  aim : Option String
  isExported : Bool

-- A channel that stands for what a command writes, or for what the command reads that comes with
-- it.
structure Passage where
  channel : Nat
  number : Nat
  reader : Option Script

structure Extras where
  collections : List (String × Collection)
  -- Letters that tell how variables take their values: as numbers, or in letters of one case.
  traits : List (String × List Char)
  -- Variables that stand for others.
  aims : List (String × String)
  passages : List Passage
  pipe : List Nat
  -- The functions that run, the latest first, each with the line of its call and its script.
  calls : List (String × Nat × String)
  depth : Nat
  directories : List String
  startedAt : Nat
  seed : Nat
  lastRandom : Nat
  -- The script that functions which are defined now belong to, and those of the functions.
  label : String
  origins : List (String × String)
  -- The command that runs as it may have been written, and whether it stands still while the script
  -- does what something asked for.
  command : String
  isHeld : Bool

def Extras.none : Extras :=
  { collections := []
    traits := []
    aims := []
    passages := []
    pipe := [0]
    calls := []
    depth := 0
    directories := []
    startedAt := 0
    seed := 1
    lastRandom := 0
    label := ""
    origins := []
    command := ""
    isHeld := false }

-- A running process. Its time counts nanoseconds since the command was started.
structure Process where
  time : Nat
  -- When the process is killed. Those that it leaves behind go on.
  deadline : Option Nat
  -- The number that the script knows itself by, and that of the process in the background that it
  -- belongs to, or nought.
  number : Nat
  job : Nat
  directory : Location
  -- The way by which the shell has come to its directory, which may lead through links.
  place : String
  bindings : List (String × String)
  exported : List String
  constant : List String
  functions : List (String × Script)
  aliases : List (String × String)
  locals : List (List Outer)
  arguments : List String
  line : Nat
  running : Option String
  readLine : Nat
  status : Nat
  substituted : Option Nat
  loops : Nat
  nesting : Nat
  options : Options
  mask : Nat
  -- What is to be done about signals, and at the end under the number nought.
  traps : List (Nat × String)
  -- What signals that have come ask to be done.
  caught : List String
  -- Which word `getopts` reads next, and how far into the word before it has come.
  optionIndex : Nat
  optionOffset : Option Nat
  channels : List (Nat × Nat)
  jobs : List Job
  extras : Extras

structure Piece where
  time : Nat
  job : Nat
  bytes : List UInt8

-- What the processes of a command have done. The latest piece of output comes first.
structure Trace where
  files : FileStore
  now : Time
  written : List Piece
  opened : List (Nat × Opened)
  openings : Nat
  -- Until when processes in the background have held open what they could write to: its number,
  -- that of the process, and the time.
  held : List (Nat × Nat × Nat)
  queues : List (Location × Nat)
  started : Nat

namespace Trace

def opened? (trace : Trace) (number : Nat) : Option Opened :=
  trace.opened.lookup number

def change (trace : Trace) (number : Nat) (opened : Opened) : Trace :=
  { trace with opened := trace.opened.map fun entry =>
      if entry.1 = number then (number, opened) else entry }

def add (trace : Trace) (opened : Opened) : Nat × Trace :=
  (trace.openings, { trace with
    opened := (trace.openings, opened) :: trace.opened
    openings := trace.openings + 1 })

def forget (trace : Trace) (openings : Nat) (inUse : List Nat) : Trace :=
  if trace.openings = openings then trace
  else
    { trace with opened := trace.opened.filter fun entry =>
        entry.1 < openings || inUse.contains entry.1 }

def writeFile (trace : Trace) (location : Location) (offset : Nat) (access : Access) (time : Nat)
    (bytes : List UInt8) : Trace × Nat :=
  match trace.files.node? location with
  | some node =>
      match node.content with
      | .file old =>
          let start := if access.appends then old.length else offset
          let content := .file (overlaid old bytes start)
          let files := trace.files.put location { node with content, modified := trace.now + time }
          ({ trace with files }, start + bytes.length)
      | _ => (trace, offset + bytes.length)
  | none => (trace, offset + bytes.length)

-- Writes to something that is open, and tells what has gone wrong. What has no more room breaks.
def write (trace : Trace) (number : Option Nat) (time job : Nat) (bytes : List UInt8) :
    Trace × Option Fault :=
  match number.bind fun number => (trace.opened? number).map fun opened => (number, opened) with
  | none => (trace, some .badDescriptor)
  | some (number, opened) =>
      match opened with
      | .outside => ({ trace with written := ⟨time, job, bytes⟩ :: trace.written }, none)
      | .kept chunks room isCut =>
          let size := if room.closesAt.any (· < time) then some 0 else room.size
          match size with
          | none => (trace.change number (.kept ((time, bytes) :: chunks) room isCut), none)
          | some size =>
              let isOver := decide (size < bytes.length)
              let left : Room := { room with size := room.size.map (· - bytes.length) }
              let kept := if size = 0 then chunks else (time, bytes.take size) :: chunks
              (trace.change number (.kept kept left (isCut || isOver)),
                if isOver then some .brokenPipe else none)
      | .file location offset access =>
          if !access.writes then (trace, some .badDescriptor)
          else
            let (written, offset) := trace.writeFile location offset access time bytes
            (written.change number (.file location offset access), none)
      | .device .full => (trace, if bytes.isEmpty then none else some .storageFull)
      | .device _ => (trace, none)
      | .coming .. | .starved => (trace, some .badDescriptor)

def keptChunks (trace : Trace) (number : Nat) : List Chunk :=
  match trace.opened? number with
  | some (.kept chunks ..) => chunks.reverse.mergeSort fun a b => decide (a.1 ≤ b.1)
  | _ => []

-- A process that can still write to something keeps it open up to its own time.
def hold (trace : Trace) (process : Process) : Trace :=
  let numbers := (process.channels.map (·.2)).eraseDups
  let held := numbers.map fun number => (number, process.job, process.time)
  { trace with held := held ++ trace.held }

def heldUntil (trace : Trace) (number : Nat) : Nat :=
  (trace.held.filter fun entry => entry.1 == number).foldl (fun time entry => max time entry.2.2) 0

-- What a process in the background would have done later does not happen.
def stop (trace : Trace) (job time : Nat) : Trace :=
  { trace with
    written := trace.written.filter fun piece => piece.job != job || piece.time ≤ time
    held := trace.held.map fun (number, holder, last) =>
      (number, holder, if holder = job then min last time else last) }

-- Nothing that was started since there were so many processes goes on.
def stopSince (trace : Trace) (started time : Nat) : Trace :=
  if trace.started = started then trace
  else
    { trace with
      written := trace.written.filter fun piece => piece.time ≤ time
      held := trace.held.map fun (number, holder, last) => (number, holder, min last time) }

-- The output in the order of time. Pieces of one moment keep the order of writing.
def bytes (trace : Trace) : List UInt8 :=
  (trace.written.reverse.mergeSort fun a b => decide (a.time ≤ b.time)).flatMap (·.bytes)

end Trace

namespace Process

def isExtended (process : Process) : Bool :=
  process.options.dialect == .extended

def collection? (process : Process) (name : String) : Option Collection :=
  process.extras.collections.lookup name

def aimAfter (process : Process) : Nat → String → String
  | 0, name => name
  | steps + 1, name =>
      match process.extras.aims.lookup name with
      | some other => process.aimAfter steps other
      | none => name

def aim (process : Process) (name : String) : String :=
  process.aimAfter 8 name

-- The value of a variable. That of a collection is its first one.
def value? (process : Process) (name : String) : Option String :=
  match process.bindings.lookup name with
  | some value => some value
  | none =>
      let name := process.aim name
      match process.collection? name with
      | some collection => collection.get? "0"
      | none => process.bindings.lookup name

def unset (process : Process) (name : String) : Process :=
  let extras := { process.extras with
    collections := process.extras.collections.filter fun entry => entry.1 != name
    traits := process.extras.traits.filter fun entry => entry.1 != name }
  { process with
    bindings := process.bindings.filter fun entry => entry.1 != name
    exported := process.exported.filter (· != name)
    extras }

def collect (process : Process) (name : String) (collection : Collection) : Process :=
  let others := process.extras.collections.filter fun entry => entry.1 != name
  { process with
    bindings := process.bindings.filter fun entry => entry.1 != name
    extras := { process.extras with collections := (name, collection) :: others } }

def assign (process : Process) (name value : String) : Process :=
  let name := process.aim name
  match process.collection? name with
  | some collection => process.collect name (collection.put "0" value)
  | none =>
      let bindings := if (process.bindings.lookup name).isSome then
          process.bindings.map fun entry => if entry.1 = name then (name, value) else entry
        else process.bindings ++ [(name, value)]
      { process with bindings }

def outer (process : Process) (name : String) : Outer :=
  { name
    value := process.bindings.lookup name
    collection := process.collection? name
    traits := (process.extras.traits.lookup name).getD []
    aim := process.extras.aims.lookup name
    isExported := process.exported.contains name }

def expose (process : Process) (name : String) : Process :=
  { process with exported := name :: process.exported.filter (· != name) }

def bringBack (process : Process) (outer : Outer) : Process :=
  if !process.isExtended then
    match outer.value with
    | some value => process.assign outer.name value
    | none => process.unset outer.name
  else
    let aims := process.extras.aims.filter fun entry => entry.1 != outer.name
    let bare := { process with extras := { process.extras with aims } }.unset outer.name
    let filled := match outer.collection, outer.value with
      | some collection, _ => bare.collect outer.name collection
      | none, some value => bare.assign outer.name value
      | none, none => bare
    let extras := { filled.extras with
      traits := if outer.traits.isEmpty then filled.extras.traits
        else (outer.name, outer.traits) :: filled.extras.traits
      aims := (outer.aim.map fun aim => (outer.name, aim)).toList ++ filled.extras.aims }
    let back := { filled with extras }
    if outer.isExported then back.expose outer.name else back

-- The name that a complaint begins with. That of a function is the name of its script.
def scriptName (process : Process) : String :=
  match process.extras.calls.head? with
  | some (_, _, script) => if script = "" then process.arguments.head?.getD "" else script
  | none => process.arguments.head?.getD "sh"

def channel? (process : Process) (channel : Nat) : Option Nat :=
  process.channels.lookup channel

def close (process : Process) (channel : Nat) : Process :=
  { process with channels := process.channels.filter fun entry => entry.1 != channel }

def nextPlace (process : Process) : Nat :=
  let taken := (process.jobs.filter fun job => !job.isOver).map (·.place)
  ((List.range (taken.length + 1)).map (· + 1)).find? (fun place => !taken.contains place) |>.getD 1

def connect (process : Process) (channel number : Nat) : Process :=
  let others := process.close channel
  { others with channels := (channel, number) :: others.channels }

def restore (process other : Process) (channel : Nat) : Process :=
  match other.channel? channel with
  | some number => process.connect channel number
  | none => process.close channel

end Process

inductive Flow where
  | going
  -- Leaves so many loops, or goes to the next round of the outermost of them.
  | breaking (loops : Nat)
  | continuing (loops : Nat)
  | returning
  -- An error ends the script, or the command of the shell that it occurs in.
  | failed
  -- An error leaves the commands that were read together, and the script goes on behind them.
  | dropped
  -- An error leaves all that the script runs, so that it goes on with its own next line at best.
  | abandoned
  | ended (code : Nat)
  -- A signal has hit the shell itself.
  | struck (signal : Nat)
deriving DecidableEq

structure Step where
  process : Process
  trace : Trace
  flow : Flow

namespace Step

def isGoing (step : Step) : Bool :=
  step.flow == .going

def withStatus (step : Step) (status : Nat) : Step :=
  { step with process := { step.process with status } }

def exit (step : Step) (code : Nat) : Step :=
  { step.withStatus code with flow := .ended code }

def spend (step : Step) (time : Nat) : Step :=
  let process := { step.process with time := step.process.time + time }
  match step.process.deadline with
  | some deadline =>
      if deadline < process.time then { step with process, flow := .struck 9 }
      else { step with process }
  | none => { step with process }

def never : Nat := Nat.pow 10 30

def loseItself (step : Step) : Step :=
  { step.spend never with flow := .struck 9 }

def waitUntil (step : Step) (time : Nat) : Step :=
  if step.process.time < time then step.spend (time - step.process.time) else step

def brokenCode : Nat := 141

def writeTo (step : Step) (number : Option Nat) (bytes : List UInt8) : Step × Option Fault :=
  let (trace, fault) := step.trace.write number step.process.time step.process.job bytes
  let written := { step with trace }
  if fault = some .brokenPipe ∧ step.process.traps.lookup 13 ≠ some "" then
    let process := { step.process with status := brokenCode }
    ({ written with process, flow := .ended brokenCode }, fault)
  else (written, fault)

def writeOutput (step : Step) (bytes : List UInt8) : Step × Option Fault :=
  step.writeTo (step.process.channel? 1) bytes

def writeErrors (step : Step) (bytes : List UInt8) : Step :=
  (step.writeTo (step.process.channel? 2) bytes).1

def input? (step : Step) : Option (Nat × Opened) := do
  let number ← step.process.channel? 0
  return (number, ← step.trace.opened? number)

def readInput (step : Step) (intake : Intake) : Step :=
  match step.input? with
  | none => step
  | some (number, opened) =>
      let (left, time) := opened.take step.trace.files step.process.time intake
      { step with trace := step.trace.change number left }.waitUntil time

def ending (step : Step) : Status :=
  match step.flow with
  | .ended code => .exited code
  | .struck signal => .signalled signal
  | _ => .exited step.process.status

-- Goes back to the shell that a part of the script was taken out of. A signal hits both.
def rejoin (inner : Step) (outer : Process) : Step :=
  let process := { outer with time := inner.process.time }
  match inner.flow with
  | .ended code => { inner with process := { process with status := code }, flow := .going }
  | .struck _ => { inner with process }
  | _ => { inner with process := { process with status := inner.process.status }, flow := .going }

end Step

namespace Process

-- The directory that a tilde stands for, with the name behind it. The extended dialect knows more
-- of them.
def homeOf? (process : Process) (name : List Char) : Option String :=
  match process.isExtended, String.ofList name with
  | true, "" => some ((process.value? "HOME").getD "/root")
  | true, "+" => process.value? "PWD"
  | true, "-" => process.value? "OLDPWD"
  | true, "root" => some "/root"
  | false, "" => process.value? "HOME"
  | _, _ => none

-- A tilde at the front of a path stands for a directory if nothing else or a slash follows.
def homePath (process : Process) (isWhole : Bool) (path : List Char) : Word :=
  match path with
  | '~' :: text =>
      let name := text.takeWhile (· != '/')
      let rest := text.drop name.length
      match process.homeOf? name with
      | some home =>
          if !rest.isEmpty || isWhole then [.text true home.toList, .text false rest]
          else [.text false path]
      | none => [.text false path]
  | _ => [.text false path]

-- In the value of a variable paths begin behind colons as well.
def withHomes (process : Process) (begins : Bool) : Word → Word
  | [] => []
  | .text false text :: rest =>
      let paths := text.splitOn ':'
      let found := paths.zipIdx.map fun (path, place) =>
        let isWhole := rest.isEmpty || place + 1 < paths.length
        if place = 0 ∧ !begins then [.text false path] else process.homePath isWhole path
      [.text false [':']].intercalate found ++ process.withHomes false rest
  | part :: rest => part :: process.withHomes false rest

def withHome (process : Process) (word : Word) : Word :=
  match word with
  | .text false text :: rest =>
      let name := text.takeWhile isNameChar
      match process.isExtended && isName name, text.drop name.length with
      | true, '=' :: value =>
          -- What looks like the value of a variable counts as one.
          .text false (name ++ ['=']) :: process.withHomes true (.text false value :: rest)
      | _, _ => process.homePath rest.isEmpty text ++ rest
  | _ => word

end Process

end MakeCheck.Shell
