import MakeCheck.Shell.Complaint

namespace MakeCheck.Shell

open Text

def quietSignals : List (Nat × String) :=
  [(17, "CHLD"), (18, "CONT"), (19, "STOP"), (20, "TSTP"), (21, "TTIN"), (22, "TTOU"), (23, "URG"),
    (28, "WINCH")]

def greatestSignal : Nat := 64

-- The name of a signal in a script. Some have none but their number.
def signalName (number : Nat) : String :=
  match (Status.signalNames.filter fun entry => entry.1 != 16).lookup number with
  | some full => (full.drop 3).toString
  | none => (quietSignals.lookup number).getD (toString number)

-- What has occurred when a script is over counts as a signal with the number nought.
def signalNumber? (name : String) : Option Nat :=
  if isNumber name then
    if numberOf name ≤ greatestSignal then some (numberOf name) else none
  else
    let name := name.toUpper
    if name = "EXIT" then some 0
    else (List.range 32).find? fun number => signalName number == name

-- What is said about a program that a signal has ended. An interrupt and a broken pipe are common.
def signalText? (signal : Nat) : Option String :=
  if signal = 2 ∨ signal = 13 then none else some (Status.signalText signal)

def Step.tellSignal (step : Step) : Status → Step
  | .exited _ => step
  | .signalled signal =>
      match signalText? signal with
      | some text => step.writeErrors (Utf8.encode (text ++ "\n"))
      | none => step

-- A signal that hits the shell ends it, unless a trap is set for it or it is harmless.
def strike (signal : Nat) (step : Step) : Step :=
  if signal = 0 ∨ (quietSignals.lookup signal).isSome then step
  else
    match if signal = 9 then none else step.process.traps.lookup signal with
    | some "" => step
    | some action =>
        { step with process := { step.process with caught := step.process.caught ++ [action] } }
    | none => { step with flow := .struck signal }

def killUsage : String :=
  "Usage: kill [-s sigspec | -signum | -sigspec] [pid | job]... or\nkill -l [exitstatus]"

-- A process in the background that runs is ended by a signal.
def strikeJob (signal : Nat) (job : Job) (step : Step) : Step :=
  let time := step.process.time
  if job.endsAt ≤ time ∨ signal = 0 ∨ (quietSignals.lookup signal).isSome then step
  else
    let ended : Job := { job with endsAt := time, status := .signalled signal }
    let jobs := step.process.jobs.map fun other =>
      if other.number = job.number then ended else other
    { step with process := { step.process with jobs }, trace := step.trace.stop job.number time }

-- The process in the background that a word names by its number, or behind a percent sign by its
-- place. Without a place the latest is meant, or the one before it.
def Process.job? (process : Process) (word : String) : Option Job :=
  match word.toList with
  | '%' :: place =>
      if place.isEmpty ∨ place = ['%'] ∨ place = ['+'] then process.jobs.head?
      else if place = ['-'] then process.jobs.tail.head?
      else process.jobs.find? fun job => (toString job.place).toList == place
  | _ => process.jobs.find? fun job => toString job.number == word

-- Sends a signal to processes one by one. A script reaches itself and what it has started, but not
-- by its place.
def sendSignal (signal : Nat) (targets : List String) (step : Step) : Step :=
  targets.foldl
    (fun (step : Step) target =>
      if !step.isGoing then step
      else if "%".isPrefixOf target then
        if (step.process.job? target).isSome then step.refuse 1 "No such process\n"
        else step.fail ("No such job: " ++ target)
      else if !isNumber target then step.fail ("Illegal number: " ++ target)
      else if target = toString step.process.number then strike signal step
      else
        match step.process.job? target with
        | some job => strikeJob signal job step
        | none => step.refuse 1 "No such process\n")
    (step.withStatus 0)

def listSignals (arguments : List String) (step : Step) : Step :=
  match arguments with
  | [] =>
      let names := "0" :: (List.range 31).map fun i => signalName (i + 1)
      step.say (String.join (names.map (· ++ "\n")))
  | status :: _ =>
      if !isNumber status then step.fail ("Illegal number: " ++ status)
      else
        let number := numberOf status
        let number := if 128 < number then number - 128 else number
        if number = 0 ∨ greatestSignal < number then
          step.fail ("invalid signal number or exit status: " ++ status)
        else step.say (signalName number ++ "\n")

def kill (arguments : List String) (step : Step) : Step :=
  let send (signal : Nat) (targets : List String) : Step :=
    if targets.isEmpty then step.fail killUsage else sendSignal signal targets step
  match arguments with
  | [] => step.fail killUsage
  | "-l" :: rest => listSignals rest step
  | ["-s"] => step.fail "No arg for -s option"
  | "-s" :: name :: targets =>
      match signalNumber? name with
      | some signal => send signal targets
      | none => step.fail ("invalid signal number or name: " ++ name)
  | "--" :: targets => send 15 targets
  | word :: targets =>
      if "-".isPrefixOf word && 1 < word.length then
        match signalNumber? (word.drop 1).toString with
        | some signal => send signal targets
        | none => step.fail ("Illegal option " ++ (word.take 2).toString)
      else send 15 (word :: targets)

-- A text in quotes, as a script would write it. Only a quote needs other ones around it.
def quotedText (text : String) : String :=
  let pieces := text.toList.splitBy fun a b => (a == '\x27') == (b == '\x27')
  let shown := pieces.flatMap fun piece =>
    let mark := if piece.head? = some '\x27' then '\x22' else '\x27'
    mark :: piece ++ [mark]
  let start := if text.toList.head?.all (· == '\x27') then ['\x27', '\x27'] else []
  String.ofList (start ++ shown)

def listTraps (step : Step) : Step :=
  let traps := step.process.traps.mergeSort fun a b => a.1 ≤ b.1
  let shown := traps.map fun (signal, action) =>
    let name := if signal = 0 then "EXIT" else signalName signal
    "trap -- " ++ quotedText action ++ " " ++ name ++ "\n"
  step.say (String.join shown)

-- Tells what to do when signals come, up to the first name that is wrong.
def setTraps (action : String) : List String → Step → Step
  | [], step => step.withStatus 0
  | name :: names, step =>
      match signalNumber? name with
      | none => (step.writeErrors (Utf8.encode ("trap: " ++ name ++ ": bad trap\n"))).withStatus 1
      | some signal =>
          let others := step.process.traps.filter fun entry => entry.1 != signal
          let traps := if action = "-" then others else (signal, action) :: others
          setTraps action names { step with process := { step.process with traps } }

-- A single word is a signal that nothing is to be done about.
def trap (arguments : List String) (step : Step) : Step :=
  match if arguments.head? = some "--" then arguments.tail else arguments with
  | [] => listTraps step
  | [name] => setTraps "-" [name] step
  | action :: names => setTraps action names step

end MakeCheck.Shell
