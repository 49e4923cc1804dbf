import MakeCheck.Program.Lookup
import MakeCheck.Program.Mode
import MakeCheck.Shell.Arguments
import MakeCheck.Shell.Arithmetic
import MakeCheck.Shell.Token

namespace MakeCheck.Shell

open Text

-- The shell's own `echo` reads escapes and knows one option.
def echo (arguments : List String) (step : Step) : Step :=
  let (newline, words) :=
    match arguments with
    | "-n" :: words => (false, words)
    | words => (true, words)
  step.sayBytes (Program.echoed newline (some Program.shellTextStyle) words) 0

def tellNote (step : Step) : Program.FormatNote → Step
  | .notNumber word => step.refuse 1 (word ++ ": expected numeric value")
  | .partNumber word => step.refuse 1 (word ++ ": not completely converted")
  | .outOfRange word => step.refuse 1 (word ++ ": Numerical result out of range")
  | .unknownConversion text => step.refuse 2 (text ++ ": invalid directive")
  | .noConversion _ => step.refuse 2 "missing format character"
  | .noDigits | .ignoredRest _ | .ignoredWords _ => step

def printf (arguments : List String) (step : Step) : Step :=
  step.withOptions [] arguments fun _ words =>
    match words with
    | [] => step.fail "usage: printf format [arg ...]"
    | format :: rest =>
        -- What is to be printed waits until the command is over.
        let (told, bytes) := (Program.format Program.shellDialect format rest).foldl
          (fun (told : Step × List UInt8) event =>
            match event with
            | .bytes bytes => (told.1, told.2 ++ bytes)
            | .note note => (tellNote told.1 note, told.2))
          (step.withStatus 0, [])
        told.sayBytes bytes told.process.status

def conditionMessage : Program.ConditionFault → String
  | .unexpectedOperator word => (if word = "" then "" else word ++ ": ") ++ "unexpected operator"
  | .argumentExpected operator => operator ++ ": argument expected"
  | .illegalNumber word => "Illegal number: " ++ word
  | .bracketExpected => "closing paren expected"

def Step.scene (step : Step) : Program.Scene :=
  ⟨step.trace.files, step.process.directory, Program.binaryOperators, true⟩

def test (name : String) (arguments : List String) (step : Step) : Step :=
  -- Whatever begins like the closing bracket is taken for it.
  if name = "[" ∧ !(arguments.getLast?.any ("]".isPrefixOf ·)) then step.fail "missing ]"
  else
    let words := if name = "[" then arguments.dropLast else arguments
    match step.scene.holds words with
    | .ok holds => step.withStatus (if holds then 0 else 1)
    | .error fault => step.fail (conditionMessage fault)

-- The way that a path leads, seen from another one. Two dots take the last piece away.
def logicalPath (place path : String) : String :=
  let start := if Path.isAbsolute ⟨path⟩ then [] else (Path.pieces ⟨place⟩).filter (· != "")
  let pieces := (Path.pieces ⟨path⟩).foldl
    (fun (way : List String) piece =>
      if piece = "" ∨ piece = "." then way
      else if piece = ".." then way.dropLast
      else way ++ [piece])
    start
  "/" ++ "/".intercalate pieces

-- Goes to a directory by the way that its path tells, or by the one without links in it.
def enter? (physical : Bool) (path : String) (step : Step) : Option Step :=
  let files := step.trace.files
  let way := logicalPath step.process.place path
  let found := if physical then files.find step.process.directory ⟨path⟩ else files.find [] ⟨way⟩
  match found with
  | .ok (location, { content := .directory, .. }) =>
      let place := if physical then Program.directoryText location else way
      let there := { step.process with directory := location, place }
      let process := ((there.assign "OLDPWD" step.process.place).expose "OLDPWD").assign "PWD" place
      some { step with process := process.expose "PWD" }
  | _ => none

-- The places where a directory is looked for: behind the entries of a list of them, unless its path
-- tells where it is. The flag tells that the way there is shown.
def directoryChoices (list : Option String) (path : String) : List (String × Bool) :=
  let isFixed := Path.isAbsolute ⟨path⟩ || ["." , ".."].contains ((Path.pieces ⟨path⟩).headD "")
  match list with
  | some list =>
      if isFixed then [(path, false)]
      else
        ((list.toList.splitOn ':').map fun entry =>
          if entry.isEmpty then (path, false)
          else (String.ofList entry ++ "/" ++ path, true)) ++ [(path, false)]
  | none => [(path, false)]

def changeDirectory (arguments : List String) (step : Step) : Step :=
  step.withOptions ['L', 'P'] arguments fun letters words =>
    let physical := letters.getLast? == some 'P'
    let target :=
      match words.head? with
      | some "-" => step.process.parameter "OLDPWD"
      | some target => target
      | none => step.process.parameter "HOME"
    let path := if target = "" then "." else target
    let choices := directoryChoices (step.process.value? "CDPATH") path
    let found := choices.findSome? fun (path, isShown) =>
      (enter? physical path step).map fun moved => (moved, isShown)
    match found with
    | some (moved, isShown) =>
        if isShown || words.head? == some "-" then moved.say (moved.process.place ++ "\n")
        else moved.withStatus 0
    | none => step.fail ("can't cd to " ++ target)

def showDirectory (arguments : List String) (step : Step) : Step :=
  step.withOptions ['L', 'P'] arguments fun letters _ =>
    let place := if letters.getLast? == some 'P' then Program.directoryText step.process.directory
      else step.process.place
    step.say (place ++ "\n")

def Process.settle (process : Process) (jobs : List Job) : Process :=
  { process with
    jobs := process.jobs.map fun job =>
      let isMeant := jobs.any fun other => other.number == job.number
      if isMeant then { job with isOver := true } else job }

-- Waits for all that runs in the background, or for the processes that are named.
def wait (arguments : List String) (step : Step) : Step :=
  step.withOptions [] arguments fun _ words =>
    let wrong := words.findSome? fun word =>
      if "%".isPrefixOf word then
        if (step.process.job? word).isNone then some ("No such job: " ++ word) else none
      else if !isNumber word then some ("Illegal number: " ++ word)
      else none
    match wrong with
    | some message => step.fail message
    | none =>
        let jobs := if words.isEmpty then step.process.jobs else words.filterMap step.process.job?
        let last := (jobs.map (·.endsAt)).foldl max step.process.time
        let waited := step.waitUntil last
        let status :=
          match words.getLast? with
          | none => 0
          | some word => ((step.process.job? word).map Job.code).getD 127
        if !waited.isGoing then waited
        else
          -- A process that is waited for by its name tells which signal has ended it.
          let told := if words.isEmpty then waited
            else (jobs.filter fun job => !job.isOver).foldl
              (fun (step : Step) job => step.tellSignal job.status) waited
          { told with process := told.process.settle jobs }.withStatus status

-- Shows what runs in the background or has ended since, the latest first.
def listJobs (step : Step) : Step :=
  let jobs := step.process.jobs.filter fun job => !job.isOver
  let isDone (job : Job) : Bool := decide (job.endsAt ≤ step.process.time)
  let shown := jobs.map fun job =>
    let before := jobs.filter fun other => !isDone other && job.number < other.number
    let mark := match before.length with
      | 0 => "+"
      | 1 => "-"
      | _ => " "
    let state :=
      if !isDone job then "Running"
      else
        match job.status with
        | .exited 0 => "Done"
        | .exited code => "Done(" ++ toString code ++ ")"
        | .signalled signal => (signalText? signal).getD ""
    let text := "[" ++ toString job.place ++ "] " ++ mark ++ " " ++ state
    text ++ String.ofList (List.replicate (33 - text.length) ' ') ++ "\n"
  { step with process := step.process.settle (jobs.filter isDone) }.say (String.join shown)

-- Leaves loops or goes on with them. Outside of loops nothing happens.
def leaveLoops (flow : Nat → Flow) (arguments : List String) (step : Step) : Step :=
  let count := arguments.head?.getD "1"
  if !isNumber count || numberOf count = 0 then step.fail ("Illegal number: " ++ count)
  else
    let loops := min (numberOf count) step.process.loops
    if loops = 0 then step.withStatus 0 else { step.withStatus 0 with flow := flow loops }

def withCode (arguments : List String) (step : Step) (further : Nat → Step) : Step :=
  match arguments with
  | code :: _ =>
      if isNumber code then further (numberOf code)
      else step.fail ("Illegal number: " ++ code)
  | [] => further step.process.status

def builtinNames : List String :=
  specialBuiltins ++
    ["[", "alias", "bg", "cd", "command", "echo", "false", "fg", "getopts", "hash", "jobs", "kill",
      "printf", "pwd", "read", "test", "true", "type", "ulimit", "umask", "unalias", "wait"]

def programPath? (step : Step) (name : String) : Option String :=
  let runs (path : String) : Bool :=
    match step.trace.files.find step.process.directory ⟨path⟩ with
    | .ok (_, node) => node.isExecutable && node.content.isFile
    | .error _ => false
  if '/' ∈ name.toList then (if runs name then some name else none)
  else
    let search := Program.searchPath (step.process.value? "PATH")
    (search.map fun entry => if entry = "" then name else entry ++ "/" ++ name).find? runs

def describe (long : Bool) (step : Step) (name : String) : Step :=
  let say (short full : String) : Step :=
    step.say ((if long then name ++ full else short) ++ "\n")
  if keywords.contains name then say name " is a shell keyword"
  else if let some text := step.process.aliases.lookup name then
    say ("alias " ++ name ++ "=" ++ quotedText text) (" is an alias for " ++ text)
  else if (step.process.functions.lookup name).isSome then say name " is a shell function"
  else if specialBuiltins.contains name then say name " is a special shell builtin"
  else if builtinNames.contains name then say name " is a shell builtin"
  else
    match programPath? step name with
    | some path => say path (" is " ++ path)
    | none => (if long then step.say (name ++ ": not found\n") else step).withStatus 127

def describeAll (names : List String) (step : Step) : Step :=
  names.foldl
    (fun (step : Step) name =>
      let told := describe true step name
      if step.process.status = 0 then told else told.withStatus step.process.status)
    (step.withStatus 0)

-- Looks for programs and complains about those that are not found.
def reportMissing (names : List String) (step : Step) : Step :=
  step.withOptions ['r', 'v'] names fun _ names =>
    (names.filter fun name => (programPath? step name).isNone).foldl
      (fun (step : Step) name => step.refuse 1 (name ++ ": not found"))
      (step.withStatus 0)

def octalMask (mask : Nat) : String :=
  String.ofList (([512, 64, 8, 1].map fun place => Nat.digitChar (mask / place % 8)))

-- What new files may be given for the owner, the group and others.
def maskRights (mask : Nat) : String :=
  let rights (place : Nat) : String :=
    let kept := 7 - mask / place % 8
    (if kept / 4 % 2 = 1 then "r" else "") ++ (if kept / 2 % 2 = 1 then "w" else "") ++
      (if kept % 2 = 1 then "x" else "")
  "u=" ++ rights 64 ++ ",g=" ++ rights 8 ++ ",o=" ++ rights 1

-- What a letter of a mask grants, for everybody. It may name others whose rights are taken.
def grantedBits? (rights : Nat) : Char → Option Nat
  | 'r' => some 0o444
  | 'w' => some 0o222
  | 'x' => some 0o111
  | 'X' => some (if rights &&& 0o111 != 0 then 0o111 else 0)
  | 's' => some 0
  | 'u' => some (rights / 64 % 8 * 0o111)
  | 'g' => some (rights / 8 % 8 * 0o111)
  | 'o' => some (rights % 8 * 0o111)
  | _ => none

-- Applies signs with letters behind them, as far as they go. The second argument bounds the steps.
def appliedSigns (meant : Nat) : Nat → List Char → Nat → List Char × Nat
  | 0, rest, rights => (rest, rights)
  | _, [], rights => ([], rights)
  | fuel + 1, sign :: rest, rights =>
      if !Program.isModeSign sign then (sign :: rest, rights)
      else
        let letters := rest.takeWhile fun c => (grantedBits? rights c).isSome
        let bits := letters.foldl
          (fun bits c => bits ||| ((grantedBits? rights c).getD 0 &&& meant)) 0
        let next :=
          if sign = '+' then rights ||| bits
          else if sign = '-' then Mode.without bits rights
          else Mode.without meant rights ||| bits
        appliedSigns meant fuel (rest.drop letters.length) next

-- Applies a mask of letters to the rights that are granted so far. Commas stand between its parts.
-- The first argument bounds the steps.
def appliedMask? : Nat → List Char → Nat → Option Nat
  | 0, _, rights => some rights
  | _, [], rights => some rights
  | fuel + 1, text, rights =>
      let who := text.takeWhile fun c => ['u', 'g', 'o', 'a'].contains c
      let meant := if who.isEmpty then 0o777
        else who.foldl (fun bits c => bits ||| (Program.ownBits c &&& 0o777)) 0
      let rest := text.drop who.length
      let goesOn := rest.head?.any Program.isModeSign
      if who.isEmpty && !goesOn then none
      else
        match appliedSigns meant rest.length rest rights with
        | ([], rights) => some rights
        | (',' :: rest, rights) => appliedMask? fuel rest rights
        | _ => none

def changeMask (arguments : List String) (step : Step) : Step :=
  step.withOptions ['S'] arguments fun letters words =>
    let mask := step.process.mask
    let set (mask : Nat) : Step :=
      { step with process := { step.process with mask } }.withStatus 0
    match words.head? with
    | none =>
        step.say ((if letters.contains 'S' then maskRights mask else octalMask mask) ++ "\n")
    | some word =>
        let digits := word.toList
        if digits.head?.any Char.isDigit then
          if digits.all fun c => (digitIn? 8 c).isSome then
            set (digits.foldl (fun n c => 8 * n + (digitIn? 8 c).getD 0) 0 % 512)
          else step.fail ("Illegal number: " ++ word)
        else
          match appliedMask? digits.length digits (Mode.without mask 0o777) with
          | some rights => set (Mode.without rights 0o777)
          | none => step.fail ("Illegal mode: " ++ word)

def aliasText (entry : String × String) : String :=
  entry.1 ++ "=" ++ quotedText entry.2 ++ "\n"

-- Sets and shows the words that stand for other texts where a command begins.
def changeAliases (arguments : List String) (step : Step) : Step :=
  if arguments.isEmpty then
    let sorted := step.process.aliases.mergeSort fun a b =>
      decide (Process.tableRow a.1 ≤ Process.tableRow b.1)
    step.say (String.join (sorted.map aliasText))
  else
    arguments.foldl
      (fun (step : Step) argument =>
        let status := step.process.status
        match argument.toList.splitOn '=' with
        | name :: first :: rest =>
            if name.isEmpty then step
            else
              let name := String.ofList name
              let text := String.ofList (['='].intercalate (first :: rest))
              let others := step.process.aliases.filter fun entry => entry.1 != name
              let isThere := (step.process.aliases.lookup name).isSome
              let aliases := if isThere then
                  step.process.aliases.map fun entry =>
                    if entry.1 = name then (name, text) else entry
                else others ++ [(name, text)]
              { step with process := { step.process with aliases } }
        | _ =>
            match step.process.aliases.lookup argument with
            | some text => (step.say (aliasText (argument, text))).withStatus status
            | none =>
                let text := "alias: " ++ argument ++ " not found\n"
                (step.writeErrors (Utf8.encode text)).withStatus 1)
      (step.withStatus 0)

def dropAliases (arguments : List String) (step : Step) : Step :=
  step.withOptions ['a'] arguments fun letters names =>
    if letters.contains 'a' then
      { step with process := { step.process with aliases := [] } }.withStatus 0
    else
      names.foldl
        (fun (step : Step) name =>
          if (step.process.aliases.lookup name).isNone then
            (step.writeErrors (Utf8.encode ("unalias: " ++ name ++ " not found\n"))).withStatus 1
          else
            let aliases := step.process.aliases.filter fun entry => entry.1 != name
            { step with process := { step.process with aliases } })
        (step.withStatus 0)

-- There are no limits, and those that are asked for change nothing.
def limitUse (arguments : List String) (step : Step) : Step :=
  match arguments.getLast? with
  | none => step.say "unlimited\n"
  | some word =>
      if "-".isPrefixOf word ∨ isNumber word ∨ word = "unlimited" then step.withStatus 0
      else step.fail "bad number"

-- A command that the shell performs by itself, if the name is one of them.
def builtin? (name : String) (arguments : List String) (step : Step) : Option Step :=
  match name with
  | ":" | "true" => some (step.withStatus 0)
  | "false" => some (step.withStatus 1)
  | "echo" => some (echo arguments step)
  | "printf" => some (printf arguments step)
  | "test" | "[" => some (test name arguments step)
  | "pwd" => some (showDirectory arguments step)
  | "cd" => some (changeDirectory arguments step)
  | "exit" => some (withCode arguments step fun code => step.exit (code % 256))
  | "return" =>
      some (withCode arguments step fun code =>
        { step.withStatus code with flow := .returning })
  | "break" => some (leaveLoops .breaking arguments step)
  | "continue" => some (leaveLoops .continuing arguments step)
  | "kill" => some (kill arguments step)
  | "wait" => some (wait arguments step)
  | "shift" => some (shift arguments step)
  | "export" => some (exportNames arguments step)
  | "readonly" => some (makeConstant arguments step)
  | "local" => some (makeLocal arguments step)
  | "read" => some (readLine arguments step)
  | "set" => some (setArguments arguments step)
  | "trap" => some (trap arguments step)
  | "unset" => some (unsetNames arguments step)
  | "type" => some (describeAll arguments step)
  | "umask" => some (changeMask arguments step)
  | "ulimit" => some (limitUse arguments step)
  | "times" => some (step.say (String.join (List.replicate 2 "0m0.000000s 0m0.000000s\n")))
  | "getopts" =>
      match arguments with
      | letters :: name :: words =>
          let words := if words.isEmpty then step.process.arguments.tail else words
          some (getOption letters name words step)
      | _ => some (step.fail "Usage: getopts optstring var [arg...]")
  | "bg" | "fg" => some (step.fail "No current job")
  | "hash" => some (reportMissing arguments step)
  | "alias" => some (changeAliases arguments step)
  | "unalias" => some (dropAliases arguments step)
  | "jobs" => some (listJobs step)
  | _ => none

end MakeCheck.Shell
