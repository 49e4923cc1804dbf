import MakeCheck.Program.Moment
import MakeCheck.Shell.Intake
import MakeCheck.Shell.Testing

namespace MakeCheck.Shell

open Text

def echoWords (arguments : List String) (step : Step) : Step :=
  let (newline, escapes, words) :=
    Program.echoOptions true (step.process.options.isSwitched "xpg_echo") arguments
  let style := if escapes then some Program.wideEchoStyle else none
  match step.writeOutput (Program.echoed newline style words) with
  | (told, none) => told.withStatus 0
  | (told, some fault) =>
      if told.isGoing then told.refuse 1 ("write error: " ++ fault.reason) else told

-- A moment that is told by its seconds. Numbers below nought stand for now.
def shownMoment (now : Time) (format argument : String) : String :=
  let format := if format = "" then "%X" else format
  let seconds := (Program.wholeNumber? argument).getD (-1)
  let time := if seconds < 0 then now else seconds * Time.second
  Program.formatMoment (Program.Moment.ofTime time) format.toList

def extendedFormat (now : Time) : Program.FormatDialect :=
  ⟨Program.signedFormatStyle, Program.wideTextStyle, true, false, some escapedWord,
    some (shownMoment now)⟩

def formatNote (step : Step) : Program.FormatNote → Step
  | .notNumber word | .partNumber word => step.refuse 1 (word ++ ": invalid number")
  | .outOfRange word => step.complain ("warning: " ++ word ++ ": Numerical result out of range")
  | .unknownConversion text =>
      let letter := (text.toList.getLast?.map Char.toString).getD ""
      step.refuse 1 ("\x60" ++ letter ++ "\x27: invalid format character")
  | .noConversion text => step.refuse 1 ("\x60" ++ text ++ "\x27: missing format character")
  | .noDigits | .ignoredRest _ | .ignoredWords _ => step

-- Prints in a format, or gives a variable what would be printed.
def printWords (arguments : List String) (step : Step) : Step :=
  let usage := "printf [-v var] format [arguments]"
  step.withGiven [] ['v'] usage arguments fun options words =>
    match words with
    | [] => step.explain usage
    | format :: rest =>
        let dialect := extendedFormat (step.trace.now + step.process.time)
        let (told, bytes) := (Program.format dialect format rest).foldl
          (fun (told : Step × List UInt8) event =>
            match event with
            | .bytes bytes => (told.1, told.2 ++ bytes)
            | .note note => (formatNote told.1 note, told.2))
          (step.withStatus 0, [])
        match options.lookup 'v' with
        | some name =>
            let value := Utf8.decodeLossy (bytes.filter (· != 0))
            match Given.ofText? (name ++ "=") with
            | some (.value name key _ _) =>
                let given := told.give (.value name key false value)
                if given.isGoing then given.withStatus told.process.status else given
            | _ => step.refuse 2 ("\x60" ++ name ++ "\x27: not a valid identifier")
        | none =>
            match told.writeOutput bytes with
            | (last, none) => last
            | (last, some fault) =>
                if last.isGoing then last.refuse 1 ("write error: " ++ fault.reason) else last

def enteringFault (step : Step) (path : String) : Fault :=
  match step.trace.files.find step.process.directory ⟨path⟩ with
  | .error fault => fault
  | .ok _ => .notADirectory

def enterPlace (arguments : List String) (step : Step) : Step :=
  step.withGiven ['L', 'P', 'e', '@'] [] "cd [-L|[-P [-e]] [-@]] [dir]" arguments
    fun options words =>
      let ways := (options.map (·.1)).filter fun c => c == 'L' || c == 'P'
      let physical := ways.getLast? == some 'P'
      let given : Except String String :=
        match words with
        | [] =>
            match step.process.value? "HOME" with
            | some home => .ok home
            | none => .error "HOME not set"
        | ["-"] =>
            match step.process.value? "OLDPWD" with
            | some place => .ok place
            | none => .error "OLDPWD not set"
        | [path] => .ok path
        | _ => .error "too many arguments"
      match given with
      | .error message => step.refuse 1 message
      | .ok "" => step.withStatus 0
      | .ok path =>
          let choices := directoryChoices (step.process.value? "CDPATH") path
          let found := choices.findSome? fun (choice, isShown) =>
            (enter? physical choice step).map fun moved => (moved, isShown)
          match found with
          | some (moved, isShown) =>
              if isShown || words == ["-"] then moved.say (moved.process.place ++ "\n")
              else moved.withStatus 0
          | none => step.refuse 1 (path ++ ": " ++ (enteringFault step path).reason)

-- A whole number with a sign, as the commands of the shell take it.
def signedNumber? (text : String) : Option Int :=
  Program.wholeNumber? text

def statusOf (code : Int) : Nat :=
  (code.emod 256).toNat

def leaveShell (arguments : List String) (step : Step) : Step :=
  match arguments with
  | [] => step.exit step.process.status
  | [code] =>
      match signedNumber? code with
      | some code => step.exit (statusOf code)
      | none => (step.complain (code ++ ": numeric argument required")).exit 2
  | code :: _ =>
      match signedNumber? code with
      | some _ => step.abandon "too many arguments"
      | none => (step.complain (code ++ ": numeric argument required")).exit 2

def leaveFunction (arguments : List String) (step : Step) : Step :=
  let isInside := step.process.extras.calls.any (·.1 != "main")
  if !isInside then
    step.refuse 2 "can only \x60return\x27 from a function or sourced script"
  else
    match arguments with
    | [] => { step with flow := .returning }
    | code :: _ =>
        match signedNumber? code with
        | some code => { step.withStatus (statusOf code) with flow := .returning }
        | none =>
            let told := step.complain (code ++ ": numeric argument required")
            { told.withStatus 2 with flow := .returning }

-- Leaves loops or goes on with them. Outside of loops nothing happens.
def turnLoops (flow : Nat → Flow) (arguments : List String) (step : Step) : Step :=
  let count := arguments.headD "1"
  if step.process.loops = 0 then
    step.refuse 0 "only meaningful in a \x60for\x27, \x60while\x27, or \x60until\x27 loop"
  else
    match signedNumber? count with
    | none =>
        let told := step.complain (count ++ ": numeric argument required")
        { told.withStatus 128 with flow := .abandoned }
    | some number =>
        if number ≤ 0 then
          let told := step.refuse 1 (count ++ ": loop count out of range")
          { told with flow := .breaking told.process.loops }
        else { step.withStatus 0 with flow := flow (min number.toNat step.process.loops) }

def dropArguments (arguments : List String) (step : Step) : Step :=
  let isThere (count : Nat) : Bool := decide (count ≤ step.process.arguments.length - 1)
  match arguments with
  | [] | [_] =>
      let word := arguments.headD "1"
      match signedNumber? word with
      | none => step.refuse 1 (word ++ ": numeric argument required")
      | some number =>
          if number < 0 then step.refuse 1 (word ++ ": shift count out of range")
          else if isThere number.toNat then
            let kept := step.process.arguments.tail.drop number.toNat
            let process := { step.process with
              arguments := step.process.arguments.take 1 ++ kept }
            { step with process }.withStatus 0
          else step.withStatus 1
  | _ => step.abandon "too many arguments"

-- The options of the shell by their names, or as commands that would set them.
def optionTable (options : Options) (asCommands : Bool) : String :=
  String.join (Options.knownExtended.map fun (name, _) =>
    let on := options.has name
    if asCommands then "set " ++ (if on then "-o " else "+o ") ++ name ++ "\n"
    else name ++ String.ofList (List.replicate (15 - name.length) ' ') ++ "\t" ++
      (if on then "on" else "off") ++ "\n")

def setUsage : String :=
  "set [-abefhkmnptuvxBCEHPT] [-o option-name] [--] [-] [arg ...]"

-- Reads the options in front of the arguments. The first argument bounds the words. What is to be
-- shown is told, and so is what is wrong.
def readSettings : Nat → List String → Options → List Bool →
    Except (Char × Char ⊕ String) (Options × List Bool × Option (List String))
  | 0, _, options, tables => .ok (options, tables, none)
  | _, [], options, tables => .ok (options, tables, none)
  | fuel + 1, word :: rest, options, tables =>
      match word.toList with
      | ['-', '-'] => .ok (options, tables, some rest)
      | ['-'] =>
          let quiet := (options.turn false "xtrace").turn false "verbose"
          .ok (quiet, tables, if rest.isEmpty then none else some rest)
      | ['+'] => .ok (options, tables, if rest.isEmpty then none else some rest)
      | sign :: letters =>
          if sign ≠ '-' ∧ sign ≠ '+' then .ok (options, tables, some (word :: rest))
          else do
            let on := sign == '-'
            let step (found : Options × List Bool × List String) (letter : Char) :
                Except (Char × Char ⊕ String) (Options × List Bool × List String) :=
              let (options, tables, rest) := found
              if letter = 'o' then
                match rest with
                | [] => .ok (options, tables ++ [on], rest)
                | name :: rest =>
                    if (Options.knownExtended.lookup name).isSome then
                      .ok (options.turn on name, tables, rest)
                    else .error (.inr name)
              else
                match Options.knownExtended.find? fun entry => entry.2 == some letter with
                | some (name, _) => .ok (options.turn on name, tables, rest)
                | none => .error (.inl (sign, letter))
            let (options, tables, rest) ← letters.foldlM step (options, tables, rest)
            readSettings fuel rest options tables
      | [] => .ok (options, tables, some (word :: rest))

def listAssignments (step : Step) : Step :=
  let shown := step.process.names.map fun name =>
    match step.process.valueText? name readableValue with
    | some text => name ++ "=" ++ text ++ "\n"
    | none => ""
  step.say (String.join shown)

def changeSettings (arguments : List String) (step : Step) : Step :=
  if arguments.isEmpty then listAssignments step
  else
    match readSettings arguments.length arguments step.process.options [] with
    | .error (.inl (sign, letter)) => step.rejectOption sign letter setUsage
    | .error (.inr name) => step.refuse 2 (name ++ ": invalid option name")
    | .ok (options, tables, words) =>
        let shown := String.join (tables.map fun on => optionTable options !on)
        let told := (if shown = "" then step else step.say shown).withStatus 0
        let changed := { told with process := { told.process with options } }
        match words with
        | none => changed
        | some words =>
            let process := { changed.process with
              arguments := changed.process.arguments.take 1 ++ words }
            { changed with process }

def switchLine (asCommand : Bool) (name : String) (on : Bool) : String :=
  if asCommand then "shopt " ++ (if on then "-s " else "-u ") ++ name ++ "\n"
  else name ++ String.ofList (List.replicate (15 - name.length) ' ') ++ "\t" ++
    (if on then "on" else "off") ++ "\n"

-- Shows or turns switches, or the options of the shell.
def turnSwitches (arguments : List String) (step : Step) : Step :=
  step.withGiven ['p', 'q', 's', 'u', 'o'] [] "shopt [-pqsu] [-o] [optname ...]" arguments
    fun letters names =>
      let has (letter : Char) : Bool := letters.any (·.1 == letter)
      let known : List String := if has 'o' then Options.knownExtended.map (·.1)
        else Options.switches.map (·.1)
      let isOn (options : Options) (name : String) : Bool :=
        if has 'o' then options.has name else options.isSwitched name
      let line (name : String) : String :=
        let on := isOn step.process.options name
        if has 'o' && has 'p' then "set " ++ (if on then "-o " else "+o ") ++ name ++ "\n"
        else switchLine (has 'p') name on
      if names.isEmpty then
        let asked := known.filter fun name =>
          if has 's' then isOn step.process.options name
          else if has 'u' then !isOn step.process.options name
          else true
        if has 'q' then step.withStatus 0 else step.say (String.join (asked.map line))
      else
        let change := has 's' || has 'u'
        let reject (step : Step) (name : String) : Step :=
          step.refuse 1 (name ++ (if has 'o' then ": invalid option name"
            else ": invalid shell option name"))
        let after := names.foldl
          (fun (step : Step) name =>
            let status := step.process.status
            if !known.contains name then reject step name
            else if change then
              let options := if has 'o' then step.process.options.turn (has 's') name
                else step.process.options.switch (has 's') name
              { step with process := { step.process with options } }
            else if has 'q' then step
            else (step.say (line name)).withStatus status)
          (step.withStatus 0)
        let isOff := names.any fun name => known.contains name && !isOn step.process.options name
        if !change && isOff then after.withStatus 1 else after

def reckonAll (arguments : List String) (step : Step) : Step :=
  if arguments.isEmpty then step.refuse 1 "expression expected"
  else
    (arguments.foldl
      (fun (found : Step × Bool) word =>
        let (step, fine) := found
        if !fine then (step, false)
        else
          match step.process.reckon word with
          | .error fault => (step.refuse 1 fault.message, false)
          | .ok (value, process) =>
              ({ step with process }.withStatus (if value = 0 then 1 else 0), true))
      (step, true)).1

-- What a name is where a command begins.
inductive CommandKind where
  | renamed (text : String)
  | keyword
  | function
  | builtin
  | file (path : String)
deriving DecidableEq

def extendedNames : List String :=
  [".", ":", "[", "alias", "bg", "bind", "break", "builtin", "caller", "cd", "command", "compgen",
    "complete", "compopt", "continue", "declare", "dirs", "disown", "echo", "enable", "eval",
    "exec", "exit", "export", "false", "fc", "fg", "getopts", "hash", "help", "history", "jobs",
    "kill", "let", "local", "logout", "mapfile", "popd", "printf", "pushd", "pwd", "read",
    "readarray", "readonly", "return", "set", "shift", "shopt", "source", "suspend", "test",
    "times", "trap", "true", "type", "typeset", "ulimit", "umask", "unalias", "unset", "wait"]

def programPaths (step : Step) (name : String) : List String :=
  let runs (path : String) : Bool :=
    match step.trace.files.find step.process.directory ⟨path⟩ with
    | .ok (_, node) => node.isExecutable && node.content.isFile
    | .error _ => false
  if '/' ∈ name.toList then (if runs name then [name] else [])
  else
    let search := Program.searchPath (step.process.value? "PATH")
    (search.map fun entry => if entry = "" then name else entry ++ "/" ++ name).filter runs

-- All that a name stands for, what comes first in front.
def commandKinds (step : Step) (name : String) : List CommandKind :=
  let process := step.process
  let renamed := if process.options.isSwitched "expand_aliases" then
      (process.aliases.lookup name).toList.map CommandKind.renamed
    else []
  renamed ++
    (if Dialect.extended.keywords.contains name then [.keyword] else []) ++
    (if (process.functions.lookup name).isSome then [.function] else []) ++
    (if extendedNames.contains name then [.builtin] else []) ++
    (programPaths step name).map CommandKind.file

def CommandKind.word : CommandKind → String
  | renamed _ => "alias"
  | keyword => "keyword"
  | function => "function"
  | builtin => "builtin"
  | file _ => "file"

def CommandKind.sentence (name : String) : CommandKind → String
  | renamed text => name ++ " is aliased to \x60" ++ text ++ "\x27"
  | keyword => name ++ " is a shell keyword"
  | function => name ++ " is a function"
  | builtin => name ++ " is a shell builtin"
  | file path => name ++ " is " ++ path

def CommandKind.path? : CommandKind → Option String
  | file path => some path
  | _ => none

def describeNames (arguments : List String) (step : Step) : Step :=
  step.withGiven ['a', 'f', 'p', 'P', 't'] [] "type [-afptP] name [name ...]" arguments
    fun letters names =>
      let has (letter : Char) : Bool := letters.any (·.1 == letter)
      names.foldl
        (fun (step : Step) name =>
          let status := step.process.status
          let all := commandKinds step name
          let kinds := if has 'P' then all.filter fun kind => kind.path?.isSome
            else if has 'f' then all.filter (· != .function)
            else all
          let kinds := if has 'a' then kinds else kinds.take 1
          if kinds.isEmpty then
            if has 't' || has 'p' || has 'P' then step.withStatus 1
            else step.refuse 1 (name ++ ": not found")
          else
            let lines := if has 't' then kinds.map CommandKind.word
              else if has 'p' || has 'P' then kinds.filterMap CommandKind.path?
              else kinds.map (CommandKind.sentence name)
            (step.say (String.join (lines.map (· ++ "\n")))).withStatus status)
        (step.withStatus 0)

def locateNames (atLength : Bool) (names : List String) (step : Step) : Step :=
  let found := names.map fun name => (name, (commandKinds step name).head?)
  let told := found.foldl
    (fun (step : Step) (name, kind?) =>
      match kind? with
      | some kind =>
          let text := if atLength then kind.sentence name
            else
              match kind with
              | .renamed text => "alias " ++ name ++ "=" ++ singleQuoted text
              | .file path => path
              | _ => name
          step.say (text ++ "\n")
      | none => if atLength then step.refuse 1 (name ++ ": not found") else step)
    step
  told.withStatus (if found.any (·.2.isSome) then 0 else 1)

-- The directories that can be gone back to, the one of the shell first.
def Process.stack (process : Process) : List String :=
  process.place :: process.extras.directories

def Process.withStack (process : Process) (directories : List String) : Process :=
  { process with extras := { process.extras with directories } }

def Process.shortened (process : Process) (path : String) : String :=
  match process.value? "HOME" with
  | some home =>
      if home ≠ "" ∧ (path = home ∨ (home ++ "/").isPrefixOf path) then
        "~" ++ (path.drop home.length).toString
      else path
  | none => path

def showStack (step : Step) : Step :=
  step.say (" ".intercalate (step.process.stack.map step.process.shortened) ++ "\n")

def stackUsage : String := "[-clpv] [+N] [-N]"

-- The place in the stack that a word with a sign names.
def stackPlace? (size : Nat) (word : String) : Option (Option Nat) :=
  match word.toList with
  | sign :: digits =>
      if (sign = '+' ∨ sign = '-') ∧ !digits.isEmpty ∧ digits.all Char.isDigit then
        let number := numberOf (String.ofList digits)
        if size ≤ number then some none
        else some (some (if sign = '+' then number else size - 1 - number))
      else none
  | [] => none

def listStack (arguments : List String) (step : Step) : Step :=
  let stack := step.process.stack
  match arguments.find? fun word => (stackPlace? stack.length word).isSome with
  | some word =>
      match stackPlace? stack.length word with
      | some (some place) =>
          step.say (step.process.shortened ((stack[place]?).getD "") ++ "\n")
      | _ => step.refuse 1 "directory stack empty"
  | none =>
      let letters := arguments.flatMap fun word => word.toList.drop 1
      match letters.find? fun c => !(['c', 'l', 'p', 'v'].contains c) with
      | some letter =>
          (step.complain ("-" ++ letter.toString ++ ": invalid number")).explain
            ("dirs " ++ stackUsage)
      | none =>
          if letters.contains 'c' then
            { step with process := step.process.withStack [] }.withStatus 0
          else
            let shown := if letters.contains 'l' then stack
              else stack.map step.process.shortened
            let text :=
              if letters.contains 'v' then
                String.join (shown.zipIdx.map fun (path, place) =>
                  let number := toString place
                  String.ofList (List.replicate (2 - number.length) ' ') ++ number ++ "  " ++
                    path ++ "\n")
              else if letters.contains 'p' then String.join (shown.map (· ++ "\n"))
              else " ".intercalate shown ++ "\n"
            step.say text

-- Enters a directory and leaves a stack behind, which is shown.
def moveTo (path : String) (below : List String) (step : Step) : Step :=
  match enter? false path step with
  | some moved => showStack { moved with process := moved.process.withStack below }
  | none => step.refuse 1 (path ++ ": " ++ (enteringFault step path).reason)

def pushPlace (arguments : List String) (step : Step) : Step :=
  let stack := step.process.stack
  match arguments with
  | [] =>
      match stack with
      | here :: next :: rest => moveTo next (here :: rest) step
      | _ => step.refuse 1 "no other directory"
  | [word] =>
      match stackPlace? stack.length word with
      | some none => step.refuse 1 (if stack.length ≤ 1 then "directory stack empty"
          else word ++ ": directory stack index out of range")
      | some (some place) =>
          let turned := stack.drop place ++ stack.take place
          moveTo (turned.headD "") turned.tail step
      | none =>
          let path := if word = "-" then step.process.parameter "OLDPWD" else word
          moveTo path stack step
  | _ => step.refuse 1 "too many arguments"

def popPlace (arguments : List String) (step : Step) : Step :=
  let stack := step.process.stack
  let words := arguments.filter (· != "-n")
  let stays := arguments.contains "-n"
  match words.head? with
  | none =>
      match stack with
      | here :: next :: rest =>
          if stays then showStack { step with process := step.process.withStack rest }
          else
            let _ := here
            moveTo next rest step
      | _ => step.refuse 1 "directory stack empty"
  | some word =>
      match stackPlace? stack.length word with
      | some (some place) =>
          if stack.length ≤ 1 then step.refuse 1 "directory stack empty"
          else if place = 0 then moveTo ((stack[1]?).getD "") (stack.drop 2) step
          else
            let process := step.process.withStack (stack.tail.eraseIdx (place - 1))
            showStack { step with process }
      | some none => step.refuse 1 (if stack.length ≤ 1 then "directory stack empty"
          else word ++ ": directory stack index out of range")
      | none =>
          (step.complain (word ++ ": invalid argument")).explain "popd [-n] [+N | -N]"

-- Sets and shows the words that stand for other texts where a command begins.
def nameTexts (arguments : List String) (step : Step) : Step :=
  let words := if arguments.head? == some "-p" then arguments.tail else arguments
  let line (entry : String × String) : String :=
    "alias " ++ entry.1 ++ "=" ++ singleQuoted entry.2 ++ "\n"
  let all := step.process.aliases.mergeSort fun a b => decide (a.1 ≤ b.1)
  let listed := if words.isEmpty || words.length < arguments.length then
      step.say (String.join (all.map line))
    else step.withStatus 0
  words.foldl
    (fun (step : Step) word =>
      let status := step.process.status
      match givenValue word with
      | (name, some text) =>
          let others := step.process.aliases.filter fun entry => entry.1 != name
          { step with process := { step.process with aliases := (name, text) :: others } }
      | (name, none) =>
          match step.process.aliases.lookup name with
          | some text => (step.say (line (name, text))).withStatus status
          | none => step.refuse 1 (name ++ ": not found"))
    listed

def forgetTexts (arguments : List String) (step : Step) : Step :=
  let usage := "unalias [-a] name [name ...]"
  step.withGiven ['a'] [] usage arguments fun letters names =>
    if !letters.isEmpty then
      { step with process := { step.process with aliases := [] } }.withStatus 0
    else if names.isEmpty then step.explain usage
    else
      names.foldl
        (fun (step : Step) name =>
          if (step.process.aliases.lookup name).isNone then step.refuse 1 (name ++ ": not found")
          else
            let aliases := step.process.aliases.filter fun entry => entry.1 != name
            { step with process := { step.process with aliases } })
        (step.withStatus 0)

def changeRights (arguments : List String) (step : Step) : Step :=
  step.withGiven ['p', 'S'] [] "umask [-p] [-S] [mode]" arguments fun letters words =>
    let has (letter : Char) : Bool := letters.any (·.1 == letter)
    let mask := step.process.mask
    let set (mask : Nat) : Step :=
      { step with process := { step.process with mask } }.withStatus 0
    match words.head? with
    | none =>
        let text := if has 'S' then maskRights mask else octalMask mask
        let front := if has 'p' then (if has 'S' then "umask -S " else "umask ") else ""
        step.say (front ++ text ++ "\n")
    | some word =>
        let digits := word.toList
        if digits.head?.any Char.isDigit then
          if digits.all fun c => (digitIn? 8 c).isSome then
            set (digits.foldl (fun n c => 8 * n + (digitIn? 8 c).getD 0) 0 % 512)
          else step.refuse 1 (word ++ ": octal number out of range")
        else
          match appliedMask? digits.length digits (Mode.without mask 0o777) with
          | some rights => set (Mode.without rights 0o777)
          | none =>
              let sign := (digits.dropWhile fun c => ['u', 'g', 'o', 'a'].contains c).take 1
              step.refuse 1 ("\x60" ++ String.ofList sign ++ "\x27: invalid symbolic mode operator")

def chooseOption (arguments : List String) (step : Step) : Step :=
  match arguments with
  | letters :: name :: words =>
      if !isName name.toList then
        step.refuse 1 ("\x60" ++ name ++ "\x27: not a valid identifier")
      else
        let words := if words.isEmpty then step.process.arguments.tail else words
        let quiet := ":".isPrefixOf letters || step.process.value? "OPTERR" == some "0"
        let quietly := if ":".isPrefixOf letters then letters else ":" ++ letters
        let after := getOption quietly name words step
        if ":".isPrefixOf letters then after
        else
          -- The letter that is wrong is only told where nothing is said about it.
          let found := after.process.value? name
          let letter := (after.process.value? "OPTARG").getD ""
          let report (message : String) : Step :=
            let name := after.process.arguments.headD ""
            let text := name ++ ": " ++ message ++ " -- " ++ letter ++ "\n"
            if quiet then after else after.writeErrors (Utf8.encode text)
          let takesValue := ((optionLetters letters.toList).lookup
            (((found.getD "").toList.head?).getD '?')).getD false
          if after.process.status ≠ 0 then after
          else if found ≠ some "?" ∧ found ≠ some ":" ∧ !takesValue then
            { after with process := after.process.unset "OPTARG" }
          else if found = some "?" then
            let told := report "illegal option"
            { told with process := told.process.unset "OPTARG" }
          else if found = some ":" then
            let told := (report "option requires an argument").assign name "?"
            { told with process := told.process.unset "OPTARG" }
          else after
  | _ => step.explain "getopts optstring name [arg ...]"

def signalTable : String :=
  let name (number : Nat) : String :=
    if number < 32 then "SIG" ++ signalName number
    else if number = 34 then "SIGRTMIN"
    else if number = 64 then "SIGRTMAX"
    else if number < 50 then "SIGRTMIN+" ++ toString (number - 34)
    else "SIGRTMAX-" ++ toString (64 - number)
  let numbers := ((List.range 64).map (· + 1)).filter fun number => number ≠ 32 ∧ number ≠ 33
  String.join (numbers.zipIdx.map fun (number, place) =>
    let shown := toString number
    String.ofList (List.replicate (2 - shown.length) ' ') ++ shown ++ ") " ++ name number ++
      if place % 5 = 4 then "\n" else "\t") ++ "\n"

-- The number of a signal, whose name may have a mark in front.
def wideSignal? (name : String) : Option Nat :=
  let upper := name.toUpper
  signalNumber? (if "SIG".isPrefixOf upper then (upper.drop 3).toString else upper)

def killUsageText : String :=
  "kill [-s sigspec | -n signum | -sigspec] pid | jobspec ... or kill -l [sigspec]"

def sendTo (signal : Nat) (targets : List String) (step : Step) : Step :=
  if targets.isEmpty then step.explain killUsageText
  else
    targets.foldl
      (fun (step : Step) target =>
        if !step.isGoing then step
        else if "%".isPrefixOf target then
          match (step.process.job? target).filter fun job => !job.isOver with
          | some job => strikeJob signal job step
          | none => step.refuse 1 (target ++ ": no such job")
        else
          match signedNumber? target with
          | none => step.refuse 1 (target ++ ": arguments must be process or job IDs")
          | some _ =>
              if target = toString step.process.number then strike signal step
              else
                match step.process.job? target with
                | some job => strikeJob signal job step
                | none => step.refuse 1 ("(" ++ target ++ ") - No such process"))
      (step.withStatus 0)

def killProcesses (arguments : List String) (step : Step) : Step :=
  let wrong (name : String) : Step := step.refuse 1 (name ++ ": invalid signal specification")
  let send (name : String) (targets : List String) : Step :=
    match wideSignal? name with
    | some signal => sendTo signal targets step
    | none => wrong name
  match arguments with
  | [] => step.explain killUsageText
  | ["-l"] | ["-L"] => step.say signalTable
  | "-l" :: names =>
      names.foldl
        (fun (step : Step) name =>
          let status := step.process.status
          if isNumber name then
            let number := if 128 < numberOf name then numberOf name - 128 else numberOf name
            if 64 < number then step.refuse 1 (name ++ ": invalid signal specification")
            else
              let shown := if number = 0 then "EXIT" else signalName number
              (step.say (shown ++ "\n")).withStatus status
          else
            match wideSignal? name with
            | some number => (step.say (toString number ++ "\n")).withStatus status
            | none => step.refuse 1 (name ++ ": invalid signal specification"))
        (step.withStatus 0)
  | "-s" :: name :: targets | "-n" :: name :: targets => send name targets
  | ["-s"] | ["-n"] =>
      (step.complain (arguments.headD "" ++ ": option requires an argument")).withStatus 1
  | "--" :: targets => sendTo 15 targets step
  | word :: targets =>
      if "-".isPrefixOf word && 1 < word.length then send (word.drop 1).toString targets
      else sendTo 15 (word :: targets) step

def awaitJobs (arguments : List String) (step : Step) : Step :=
  step.withGiven ['f', 'n'] ['p'] "wait [-fn] [-p var] [id ...]" arguments fun letters words =>
    if words.isEmpty && letters.any (·.1 == 'n') then
      let running := step.process.jobs.filter fun job => !job.isOver
      match running.mergeSort fun a b => decide (a.endsAt ≤ b.endsAt) with
      | [] => step.withStatus 127
      | job :: _ =>
          let waited := step.waitUntil job.endsAt
          { waited with process := waited.process.settle [job] }.withStatus job.code
    else if words.isEmpty then
      let last := (step.process.jobs.map (·.endsAt)).foldl max step.process.time
      let waited := step.waitUntil last
      if !waited.isGoing then waited
      else { waited with process := waited.process.settle waited.process.jobs }.withStatus 0
    else
      words.foldl
        (fun (step : Step) word =>
          if !step.isGoing then step
          else
            match step.process.job? word with
            | some job =>
                let waited := step.waitUntil job.endsAt
                if !waited.isGoing then waited
                else { waited with process := waited.process.settle [job] }.withStatus job.code
            | none =>
                if "%".isPrefixOf word then step.refuse 127 (word ++ ": no such job")
                else if isNumber word then
                  step.refuse 127 ("pid " ++ word ++ " is not a child of this shell")
                else step.refuse 1 ("\x60" ++ word ++ "\x27: not a pid or valid job spec"))
        step

-- What occurs in a script counts as a signal beyond all others.
def eventNumbers : List (String × Nat) :=
  [("EXIT", 0), ("ERR", 1001), ("DEBUG", 1002), ("RETURN", 1003)]

def eventNumber? (name : String) : Option Nat :=
  match eventNumbers.lookup (name.toUpper) with
  | some number => some number
  | none => wideSignal? name

def trapLine (signal : Nat) (action : String) : String :=
  let name := match eventNumbers.find? fun entry => entry.2 == signal with
    | some (name, _) => name
    | none => "SIG" ++ signalName signal
  "trap -- " ++ singleQuoted action ++ " " ++ name ++ "\n"

def trapUsage : String := "trap [-lp] [[arg] signal_spec ...]"

def trapEvents (arguments : List String) (step : Step) : Step :=
  step.withGiven ['l', 'p'] [] trapUsage arguments fun letters words =>
    let has (letter : Char) : Bool := letters.any (·.1 == letter)
    let sorted := step.process.traps.mergeSort fun a b => decide (a.1 ≤ b.1)
    if has 'l' then step.say signalTable
    else if words.isEmpty then
      step.say (String.join (sorted.map fun (signal, action) => trapLine signal action))
    else if has 'p' then
      words.foldl
        (fun (step : Step) name =>
          match eventNumber? name with
          | none => step.refuse 1 (name ++ ": invalid signal specification")
          | some signal =>
              match step.process.traps.lookup signal with
              | some action => step.say (trapLine signal action)
              | none => step)
        (step.withStatus 0)
    else
      let (action, names) : String × List String := match words with
        | [name] => ("-", [name])
        | action :: names => (action, names)
        | [] => ("-", [])
      if words.length = 1 ∧ (eventNumber? (words.headD "")).isNone then step.explain trapUsage
      else
        names.foldl
          (fun (step : Step) name =>
            match eventNumber? name with
            | none => step.refuse 1 (name ++ ": invalid signal specification")
            | some signal =>
                let others := step.process.traps.filter fun entry => entry.1 != signal
                let traps := if action = "-" then others else (signal, action) :: others
                { step with process := { step.process with traps } })
          (step.withStatus 0)

def showCaller (arguments : List String) (step : Step) : Step :=
  match step.process.extras.calls with
  | [] => step.withStatus 1
  | (_, line, _) :: rest =>
      let script := match rest with
        | (_, _, script) :: _ => script
        | [] => "NULL"
      let name := match rest with
        | (name, _, _) :: _ => name
        | [] => "main"
      match arguments with
      | [] => step.say (toString line ++ " " ++ script ++ "\n")
      | _ =>
          if rest.isEmpty then step.withStatus 1
          else step.say (toString line ++ " " ++ name ++ " " ++ script ++ "\n")

-- A command of the extended dialect that the shell performs by itself.
def extension? (name : String) (arguments : List String) (step : Step) : Option Step :=
  match name with
  | "echo" => some (echoWords arguments step)
  | "printf" => some (printWords arguments step)
  | "test" | "[" => some (tryCondition name arguments step)
  | "cd" => some (enterPlace arguments step)
  | "exit" => some (leaveShell arguments step)
  | "return" => some (leaveFunction arguments step)
  | "break" => some (turnLoops .breaking arguments step)
  | "continue" => some (turnLoops .continuing arguments step)
  | "shift" => some (dropArguments arguments step)
  | "set" => some (changeSettings arguments step)
  | "shopt" => some (turnSwitches arguments step)
  | "let" => some (reckonAll arguments step)
  | "type" => some (describeNames arguments step)
  | "read" => some (readWords arguments step)
  | "mapfile" | "readarray" => some (readLines name arguments step)
  | "dirs" => some (listStack arguments step)
  | "pushd" => some (pushPlace arguments step)
  | "popd" => some (popPlace arguments step)
  | "alias" => some (nameTexts arguments step)
  | "unalias" => some (forgetTexts arguments step)
  | "umask" => some (changeRights arguments step)
  | "getopts" => some (chooseOption arguments step)
  | "kill" => some (killProcesses arguments step)
  | "wait" => some (awaitJobs arguments step)
  | "trap" => some (trapEvents arguments step)
  | "unset" => some (removeNames arguments step)
  | "declare" | "typeset" | "local" =>
      some (declareVariables name (arguments.map Declared.word) step)
  | "export" => some (exportVariables (arguments.map Declared.word) step)
  | "readonly" => some (fixVariables (arguments.map Declared.word) step)
  | "caller" => some (showCaller arguments step)
  | "hash" =>
      if arguments.isEmpty then some (step.say "hash: hash table empty\n")
      else some (reportMissing (arguments.filter (· != "-r")) step)
  | "disown" => some (step.refuse 1 "current: no such job")
  | "enable" =>
      match arguments.find? fun word => !"-".isPrefixOf word && !extendedNames.contains word with
      | some word => some (step.refuse 1 (word ++ ": not a shell builtin"))
      | none => some (step.withStatus 0)
  | "fc" | "history" | "bind" | "complete" | "compopt" => some (step.withStatus 0)
  | "bg" | "fg" => some (step.refuse 1 "no job control")
  | "suspend" => some (step.refuse 1 "cannot suspend: no job control")
  | "logout" => some (step.refuse 1 "not login shell: use \x60exit\x27")
  | _ => builtin? name arguments step

end MakeCheck.Shell
