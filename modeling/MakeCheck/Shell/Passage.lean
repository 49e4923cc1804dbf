import MakeCheck.Shell.Redirection

namespace MakeCheck.Shell

open Text

-- What starting a program takes, and what a command of the shell itself takes.
def startTime : Nat := 1000000
def builtinTime : Nat := 1000

-- What passes before a process in the background does anything.
def forkTime : Nat := 100000

-- What the shell says of a program that it cannot start, and the status that this gives.
def startFault : Fault → String × Nat
  | .notFound | .notADirectory => ("not found", 127)
  | .nameTooLong => (Fault.nameTooLong.reason, 127)
  | fault => (fault.reason, 126)

-- Where a shell that is told nothing else looks for programs.
def standardPath : String :=
  "/usr/local/sbin:/usr/local/bin:/usr/sbin:/usr/bin:/sbin:/bin"

-- A process for a program, which sees the exported variables only.
def Process.forProgram (process : Process) : Process :=
  { process with
    bindings := process.bindings.filter fun entry => process.exported.contains entry.1
    constant := []
    functions := []
    aliases := []
    locals := []
    loops := 0
    options := .standard
    traps := process.traps.filter fun entry => entry.2 == ""
    caught := []
    optionIndex := 1
    optionOffset := none
    running := none
    jobs := []
    extras := .none }

-- The way to the directory of a process, as its variables tell it if they do.
def Process.way (process : Process) (files : FileStore) : String :=
  let way := process.parameter "PWD"
  let leadsHere := Path.isAbsolute ⟨way⟩ &&
    (files.resolve [] ⟨way⟩).toOption == some process.directory
  if leadsHere then way else Program.directoryText process.directory

-- A process that becomes a shell, which knows some variables from the start, and perhaps the way to
-- its directory.
def Process.asShell (process : Process) (files : FileStore) : Process :=
  let number := process.number + 1
  let place := process.way files
  let absent := [("PATH", standardPath), ("PS1", "# "), ("PS2", "> "), ("PS4", "+ ")].filter
    fun entry => (process.value? entry.1).isNone
  let own := [("IFS", blankSeparators), ("OPTIND", "1"), ("PPID", toString process.number),
    ("PWD", place)]
  let started := (absent ++ own).foldl
    (fun (process : Process) (name, value) => process.assign name value) process
  { started.expose "PWD" with number, place }

-- A process that becomes a shell of the extended dialect. It counts how many such shells lie in one
-- another.
def Process.asWideShell (process : Process) (files : FileStore) : Process :=
  let number := process.number + 1
  let place := process.way files
  let level := Program.wholeNumber? (process.parameter "SHLVL") |>.getD 0
  let absent := [("PATH", standardPath), ("TERM", "dumb"), ("SHELL", "/bin/bash")].filter
    fun entry => (process.value? entry.1).isNone
  let own := [("BASH", "/usr/bin/bash"), ("BASH_VERSION", "5.2.21(1)-release"),
    ("EUID", "0"), ("HOSTTYPE", "x86_64"), ("IFS", blankSeparators),
    ("MACHTYPE", "x86_64-pc-linux-gnu"), ("OPTERR", "1"), ("OPTIND", "1"),
    ("OSTYPE", "linux-gnu"), ("PPID", toString process.number), ("PS4", "+ "), ("PWD", place),
    ("SHLVL", toString (level + 1)), ("UID", "0")]
  let started := (absent ++ own).foldl
    (fun (process : Process) (name, value) => process.assign name value) process
  let shown := ((started.expose "OLDPWD").expose "PWD").expose "SHLVL"
  { shown with
    number
    place
    constant := ["BASHOPTS", "BASH_VERSINFO", "EUID", "PPID", "SHELLOPTS", "UID"]
    extras := { Extras.none with
      traits := ["EUID", "PPID", "UID"].map fun name => (name, ['i'])
      startedAt := process.time
      seed := number } }

-- A part of the script that runs by itself. Only signals that are ignored stay so.
def Process.forPart (process : Process) : Process :=
  { process with
    traps := process.traps.filter fun entry => entry.2 == ""
    caught := []
    jobs := []
    extras := { process.extras with depth := process.extras.depth + 1 } }

-- A part of the script whose output becomes a part of a word. In the extended dialect a command
-- that fails does not end it.
def Process.forWord (process : Process) : Process :=
  let part := process.forPart
  if !process.isExtended then part
  else
    let keeps := process.options.isSwitched "inherit_errexit" || process.options.has "posix"
    { part with
      options := if keeps then part.options else part.options.turn false "errexit"
      nesting := part.nesting + 1 }

-- How much the source of a pipe may write before it is looked at whether its target reads on: at
-- first, and when more was asked for.
def pipeSizes : List Nat :=
  [Nat.pow 2 12, Nat.pow 2 16, Nat.pow 2 20]

-- Whether more was asked for than there was, which was not so before.
def Step.starves (after before : Step) : Bool :=
  match before.process.channel? 0 with
  | some number =>
      after.trace.opened? number == some .starved && before.trace.opened? number != some .starved
  | none => false

-- Lets the input of a process count as ended that would have asked for more, or takes that back.
def Step.withHunger (step : Step) (isStarved : Bool) : Step :=
  match step.process.channel? 0 with
  | some number =>
      let opened : Opened := if isStarved then .starved else .coming [] 0 true
      { step with trace := step.trace.change number opened }
  | none => step

-- What was written to a pipe comes to the one who reads it. It ends when nobody can write any more.
def Step.handOver (before : Step) (number : Nat) (isCut : Bool) : Trace :=
  let chunks := before.trace.keptChunks number
  let last := max (before.trace.heldUntil number) before.process.time
  before.trace.change number (.coming chunks last isCut)

-- Goes back to the shell that has started a pipe, which waits for both of its ends. The flag tells
-- that the target is a pipe, too.
def Step.joinPipe (after before : Step) (outer : Process) (goesOn : Bool) : Step :=
  let time := max before.process.time after.process.time
  let last := after.process.status
  let status := if outer.options.watchesPipes && last == 0 then before.process.status else last
  let others := if goesOn then after.process.extras.pipe else [last]
  let extras := { outer.extras with pipe := before.process.status :: others }
  let process := { outer with time, status, extras }
  let flow :=
    match before.flow, after.flow with
    | .struck signal, _ => .struck signal
    | _, .struck signal => .struck signal
    | _, _ => .going
  { after with process, flow }

def Step.reap (inner : Step) (outer : Process) : Step :=
  let process := { outer with time := inner.process.time }
  match inner.ending with
  | .exited code => { inner with process := { process with status := code }, flow := .going }
  | .signalled signal =>
      let back : Step :=
        { inner with process := { process with status := 128 + signal }, flow := .going }
      back.tellSignal (.signalled signal)

-- A command that fails ends a script that wants it so, unless its status is asked for.
def Step.checked (step : Step) (tested : Bool) : Step :=
  if step.isGoing && !tested && step.process.options.stopsOnFailure && step.process.status != 0 then
    step.exit step.process.status
  else step

-- What a loop does after a round: whether it goes on, and how.
def afterRound (step : Step) : Bool × Step :=
  match step.flow with
  | .going => (true, step)
  | .breaking loops =>
      (false, { step with flow := if loops ≤ 1 then .going else .breaking (loops - 1) })
  | .continuing loops =>
      if loops ≤ 1 then (true, { step with flow := .going })
      else (false, { step with flow := .continuing (loops - 1) })
  | _ => (false, step)

def Step.onLine (step : Step) (line : Nat) : Step :=
  { step with process := { step.process with line } }

def Process.define (process : Process) (name : String) (body : Script) : Process :=
  let others := process.functions.filter fun entry => entry.1 != name
  let origins := process.extras.origins.filter fun entry => entry.1 != name
  { process with
    functions := (name, body) :: others
    extras := { process.extras with origins := (name, process.extras.label) :: origins } }

def Step.inLoops (step : Step) (loops : Nat) : Step :=
  { step with process := { step.process with loops } }

def Process.enterFunction (process : Process) (name : String) (arguments : List String) :
    Process :=
  let entered := { process with
    arguments := process.arguments.take 1 ++ arguments
    loops := 0
    locals := [] :: process.locals }
  if process.isExtended then
    let script := (process.extras.origins.lookup name).getD ""
    let calls := (name, process.line, script) :: process.extras.calls
    { entered with extras := { entered.extras with calls } }
  else { entered with optionIndex := 1, optionOffset := none }

-- Gives the local variables of a function their old values back.
def Process.leaveFunction (process outer : Process) : Process :=
  let frame := process.locals.head?.getD []
  let restored := frame.foldl Process.bringBack process
  let left := { restored with
    arguments := outer.arguments
    loops := outer.loops
    locals := outer.locals }
  if process.isExtended then
    { left with extras := { left.extras with calls := outer.extras.calls } }
  else { left with optionIndex := outer.optionIndex, optionOffset := outer.optionOffset }

def dropBreaks (text : String) : String :=
  String.ofList (text.toList.reverse.dropWhile (· == '\n')).reverse

def maxCalls : Nat := 1000

-- How deep texts may be run by one another before there is no room for more.
def maxNesting : Nat := 2000

-- Goes one text deeper. A shell that has no room for it breaks down.
def Step.nested (step : Step) (further : Step → Step) : Step :=
  if maxNesting ≤ step.process.nesting then { step with flow := .struck 11 }
  else
    let deeper := { step.process with nesting := step.process.nesting + 1 }
    let after := further { step with process := deeper }
    { after with process := { after.process with nesting := step.process.nesting } }

-- Shows a command before it runs, if the script wants it so.
def Step.showCommand (step : Step) (number : Option Nat) (texts : List String) : Step :=
  if !step.process.options.showsCommands then step
  else
    let mark := (step.process.value? "PS4").getD ""
    (step.writeTo number (Utf8.encode (mark ++ " ".intercalate texts ++ "\n"))).1

-- An error in a command of the extended dialect ends all commands that were read together.
def Step.settled (step : Step) : Step :=
  if step.flow = .failed ∧ step.process.isExtended then
    { step with flow := .dropped }
  else step

end MakeCheck.Shell
