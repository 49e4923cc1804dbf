import MakeCheck.Program.Options
import MakeCheck.Program.Plan
import MakeCheck.Program.Utility

namespace MakeCheck.Program

open Text

-- What `env` is asked for: which variables it takes away and sets, where it goes, and the command
-- that it starts then. Without a command it shows the variables, each with a stop behind it.
structure Launch where
  empties : Bool
  removed : List String
  directory : Option String
  values : List (String × String)
  command : List String
  stop : String

namespace Launch

def options : List OptionKind :=
  [plain 'i' "ignore-environment", plain '0' "null", plain 'v' "debug", valued 'u' "unset",
    valued 'C' "chdir", valued 'S' "split-string"]

def setting? (word : String) : Option (String × String) :=
  let name := word.toList.takeWhile (· != '=')
  match word.toList.drop name.length with
  | [] => none
  | _ :: value => some (String.ofList name, String.ofList value)

def words (text : String) : List String :=
  ((text.toList.splitOnP fun c => c == ' ' || c == '\t' || c == '\n').filter (· != [])).map
    String.ofList

-- Reads the arguments. A text among them stands for the words in it, which is looked for as often
-- as the first argument says.
def ofWords : Nat → List String → Except String Launch
  | depth, arguments => do
      let given ← readLeading options arguments
      let isBare := given.operands.head? == some "-"
      let operands := if isBare then given.operands.tail else given.operands
      let values := operands.takeWhile fun word => (setting? word).isSome
      let own : Launch :=
        { empties := given.has 'i' || isBare
          removed := given.values 'u'
          directory := given.value? 'C'
          values := values.filterMap setting?
          command := operands.drop values.length
          stop := if given.has '0' then "\x00" else "\n" }
      match given.value? 'S', depth with
      | some text, depth + 1 =>
          let inner ← ofWords depth (words text ++ operands)
          return { inner with
            empties := own.empties || inner.empties
            removed := own.removed ++ inner.removed
            directory := inner.directory.or own.directory }
      | _, _ => return own

def ofArguments (arguments : List String) : Except String Launch := do
  let launch ← ofWords 1 arguments
  if launch.stop != "\n" ∧ !launch.command.isEmpty then
    throw "cannot specify --null (-0) with command"
  return launch

end Launch

-- Takes variables away and sets others. One that is set already keeps its place.
def Launch.environment (launch : Launch) (around : Surroundings) : List (String × String) :=
  let start := if launch.empties then [] else around.environment
  let kept := start.filter fun entry => !launch.removed.contains entry.1
  launch.values.foldl
    (fun environment (name, value) =>
      if (environment.lookup name).isSome then
        environment.map fun entry => if entry.1 = name then (name, value) else entry
      else environment ++ [(name, value)])
    kept

-- The code of a program that could not start another one.
def refusalCode (fault : Fault) : Nat :=
  if fault = .notFound then 127 else 126

-- A name with a blank in it looks like a line of a script that names a program and its arguments.
def launchReport (program : String) (fault : Fault) : List String :=
  let hint := "use -[v]S to pass options in shebang lines"
  (quotedName program ++ ": " ++ fault.reason) ::
    (if fault = .notFound ∧ ' ' ∈ program.toList then [hint] else [])

-- Runs a program in an environment with changes, or shows the environment.
def withEnvironment (around : Surroundings) (arguments : List String) : Plan :=
  match Launch.ofArguments arguments with
  | .error message => .finish (around.misused 125 [message])
  | .ok launch =>
      let found : Except Fault (Option Location) :=
        match launch.directory with
        | none => .ok none
        | some path =>
            match around.files.find around.directory ⟨path⟩ with
            | .ok (location, { content := .directory, .. }) => .ok (some location)
            | .ok _ => .error .notADirectory
            | .error fault => .error fault
      match found, launch.command with
      | .error fault, _ =>
          .finish (around.outcome 125
            [around.complaint ("cannot change directory to " ++
              quotedName (launch.directory.getD "") ++ ": " ++ fault.reason)])
      | .ok _, [] =>
          let inner : Surroundings := { around with environment := launch.environment around }
          .finish (around.outcome 0 [said (environmentText launch.stop inner)])
      | .ok directory, program :: rest =>
          let errand : Errand := { Errand.plain (program :: rest) with
            environment := some (launch.environment around), directory }
          .become errand fun fault =>
            around.outcome (refusalCode fault) ((launchReport program fault).map around.complaint)

-- Gives the process over to a command that the operands make.
def handOn (around : Surroundings) (words : List String) (ignored : List Nat)
    (report : String → Fault → String) : Plan :=
  .become { Errand.plain words with ignored } fun fault =>
    around.outcome (refusalCode fault) [around.complaint (report (words.headD "") fault)]

-- How much a command is to be nice does not matter to it.
def lowerPriority (around : Surroundings) (arguments : List String) : Plan :=
  match readLeading [valued 'n' "adjustment"] (oldAdjustment arguments) with
  | .error message => .finish (around.misused 125 [message])
  | .ok given =>
      match given.operands with
      | [] => .finish (around.outcome 0 [said "0\n"])
      | ["nice"] => .finish (around.outcome 0 [said ((given.value? 'n').getD "10" ++ "\n")])
      | words => handOn around words [] fun name fault => quotedName name ++ ": " ++ fault.reason
where
  -- A hyphen with digits is an old way to tell a number.
  oldAdjustment (arguments : List String) : List String :=
    match arguments with
    | word :: rest =>
        if "-".isPrefixOf word && 1 < word.length && (word.toList.drop 1).all Char.isDigit then
          "-n" :: (word.drop 1).toString :: rest
        else arguments
    | [] => []

def ignoreHangup (around : Surroundings) (arguments : List String) : Plan :=
  match readLeading [] arguments with
  | .error message => .finish (around.misused 125 [message])
  | .ok given =>
      match given.operands with
      | [] => .finish (around.misused 125 ["missing operand"])
      | words =>
          handOn around words [1] fun name fault =>
            "failed to run command " ++ quotedName name ++ ": " ++ fault.reason

def bufferOptions : List OptionKind :=
  [valued 'i' "input", valued 'o' "output", valued 'e' "error"]

def sessionOptions : List OptionKind :=
  [plain 'c' "ctty", plain 'f' "fork", plain 'w' "wait"]

-- Programs that only change how the output of a command is put together, or its session.
def passOn (known : List OptionKind) (around : Surroundings) (arguments : List String) : Plan :=
  match readLeading known arguments with
  | .error message => .finish (around.misused 125 [message])
  | .ok given =>
      match given.operands with
      | [] => .finish (around.misused 125 ["missing operand"])
      | words =>
          handOn around words [] fun name fault =>
            "failed to run command " ++ quotedName name ++ ": " ++ fault.reason

def signalOfName? (text : String) : Option Nat :=
  let name := text.toUpper
  let full := if "SIG".isPrefixOf name then name else "SIG" ++ name
  if !text.isEmpty && text.toList.all Char.isDigit then some (decimalValue text.toList)
  else
    (Status.signalNames.find? fun entry => entry.2 == full).map (·.1)

def limitTime (around : Surroundings) (arguments : List String) : Plan :=
  let known := [valued 's' "signal", valued 'k' "kill-after", plain 'p' "preserve-status",
    plain 'f' "foreground", plain 'v' "verbose"]
  match readLeading known arguments with
  | .error message => .finish (around.misused 125 [message])
  | .ok given =>
      match given.operands with
      | [] | [_] => .finish (around.misused 125 [])
      | duration :: words =>
          let name := words.headD ""
          let signalText := (given.value? 's').getD "TERM"
          match pause? duration, signalOfName? signalText with
          | none, _ =>
              .finish (around.misused 125 ["invalid time interval " ++ quotedName duration])
          | _, none => .finish (around.misused 125 [quotedName signalText ++ ": invalid signal"])
          | some span, some signal =>
              let limit := match span with
                | .nanos 0 => none
                | .nanos count => some count
                | .endless => none
              .start { Errand.plain words with limit } fun reply =>
                let finish (code : Nat) (written : List (Channel × List UInt8)) : Plan :=
                  .finish { around.outcome code written with files := reply.files }
                match reply.result with
                | .error fault =>
                    finish (refusalCode fault)
                      [around.complaint ("failed to run command " ++ quotedName name ++ ": " ++
                        fault.reason)]
                | .ok status =>
                    if reply.isLate then
                      let sent := (Status.signalNames.lookup signal).getD ""
                      let told := if given.has 'v' then
                          [around.complaint ("sending signal " ++ (sent.drop 3).toString ++
                            " to command " ++ quotedName name)]
                        else []
                      if signal = 9 then .die 9
                      else finish (if given.has 'p' then 128 + signal else 124) told
                    else finish (codeOf status) []

-- The items of a text: words between blanks, where quotes and backslashes keep blanks in them, and
-- the line that each stands on. What has been read of an item comes in reverse order.
def quotedItems : Option Char → Option (List Char) → Nat → List Char →
    Except String (List (List Char × Nat))
  | some '\x22', _, _, [] => .error "double"
  | some _, _, _, [] => .error "single"
  | none, open?, line, [] => .ok (open?.toList.map fun item => (item.reverse, line))
  | some mark, open?, line, c :: rest =>
      if c = mark then quotedItems none (some (open?.getD [])) line rest
      else if c = '\n' then .error (if mark = '\x22' then "double" else "single")
      else quotedItems (some mark) (some (c :: open?.getD [])) line rest
  | none, open?, line, '\\' :: c :: rest => quotedItems none (some (c :: open?.getD [])) line rest
  | none, open?, line, c :: rest =>
      if c = '\x22' ∨ c = '\x27' then quotedItems (some c) (some (open?.getD [])) line rest
      else if c = ' ' ∨ c = '\t' ∨ c = '\n' then do
        let after ← quotedItems none none (if c = '\n' then line + 1 else line) rest
        return (open?.toList.map fun item => (item.reverse, line)) ++ after
      else quotedItems none (some (c :: open?.getD [])) line rest

-- The lines of a text as items, without the blanks before them.
def lineItems (text : List Char) : List (List Char) :=
  ((text.splitOn '\n').map fun line => line.dropWhile fun c => c == ' ' || c == '\t').filter
    (· != [])

-- Runs commands one after the other, up to one that ends with 255 or by a signal.
def runEach (around : Surroundings) (shows : Bool) :
    List (List String) → FileStore → Nat → Plan
  | [], files, code => .finish { around.outcome code [] with files }
  | words :: rest, _, code =>
      let finish (code : Nat) (message : String) (reply : Reply) : Plan :=
        .finish { around.outcome code [around.complaint message] with files := reply.files }
      let name := words.headD ""
      let next : Plan := .start { Errand.plain words with input := some [] } fun reply =>
        match reply.result with
        | .error fault => finish (refusalCode fault) (name ++ ": " ++ fault.reason) reply
        | .ok (.signalled signal) =>
            finish 125 (name ++ ": terminated by signal " ++ toString signal) reply
        | .ok (.exited 255) => finish 124 (name ++ ": exited with status 255; aborting") reply
        | .ok (.exited 0) => runEach around shows rest reply.files code
        | .ok (.exited _) => runEach around shows rest reply.files 123
      if shows then .say .errors (Utf8.encode (" ".intercalate words ++ "\n")) next
      else next

-- As many items as one command gets at most, where nothing else is asked for.
def maxItems : Nat := 20000

def gather (around : Surroundings) (arguments : List String) : Plan :=
  let known := [plain '0' "null", plain 'r' "no-run-if-empty", plain 't' "verbose",
    plain 'x' "exit", plain 'p' "interactive", valued 'n' "max-args", valued 'L' "max-lines",
    valued 'I' "replace", valued 'd' "delimiter", valued 'P' "max-procs", valued 's' "max-chars",
    valued 'a' "arg-file", valued 'E' "eof"]
  match readLeading known arguments with
  | .error message => .finish (around.misused 1 [message])
  | .ok given =>
      let command := if given.operands.isEmpty then ["echo"] else given.operands
      let number (letter : Char) : Option Nat :=
        (given.value? letter).map fun text => decimalValue text.toList
      let source : Except String (List UInt8) :=
        match (given.value? 'a').map fun name => (name, around.source name) with
        | some (name, .error fault) =>
            .error ("Cannot open input file " ++ quotedName name ++ ": " ++ fault.reason)
        | some (_, .ok bytes) => .ok bytes
        | none => .ok around.inputBytes
      match source, ['n', 'L'].find? fun letter => number letter == some 0 with
      | .error message, _ => .finish (around.outcome 1 [around.complaint message])
      | _, some letter =>
          .finish (around.misused 1
            ["value 0 for -" ++ letter.toString ++ " option should be >= 1"])
      | .ok bytes, none =>
          let text := (Utf8.decodeLossy bytes).toList
          let mark := if given.has '0' then some '\x00'
            else (given.value? 'd').bind fun word =>
              (Utf8.decodeLossy (unescape echoStyle 0 word.toList).1).toList.head?
          let split (mark : Char) : List (List Char) :=
            let pieces := text.splitOn mark
            if pieces.getLast? = some [] then pieces.dropLast else pieces
          let items : Except String (List (List Char × Nat)) :=
            match mark with
            | some mark => .ok ((split mark).map fun item => (item, 0))
            | none =>
                if given.has 'I' then .ok ((lineItems text).map fun item => (item, 0))
                else quotedItems none none 0 text
          match items with
          | .error kind =>
              .consume (.finish (around.outcome 1
                [around.complaint ("unmatched " ++ kind ++ " quote; by default quotes are " ++
                  "special to xargs unless you use the -0 option")]))
          | .ok items =>
              let stop := (given.value? 'E').map String.toList
              let items := items.takeWhile fun entry => stop != some entry.1
              let words := items.map fun entry => String.ofList entry.1
              let commands :=
                match given.value? 'I', number 'L', number 'n' with
                | some mark, _, _ =>
                    words.map fun item => command.map fun word => word.replace mark item
                | none, some count, _ =>
                    let lines := (items.splitBy fun a b => a.2 == b.2).map fun line =>
                      line.map fun entry => String.ofList entry.1
                    (groupsOf count lines).map fun group => command ++ group.flatten
                | none, none, count =>
                    (groupsOf (count.getD maxItems) words).map (command ++ ·)
              let commands := if commands.isEmpty && !given.has 'r' && !given.has 'I' then [command]
                else commands
              let next := runEach around (given.has 't') commands around.files 0
              if given.has 'a' then next else .consume next

end MakeCheck.Program
