import MakeCheck.Program.Scan.Evaluation
import MakeCheck.Program.Scan.Reading

namespace MakeCheck.Program.Scan

open Text Decimal

-- What the arguments ask for.
structure Asked where
  -- The files that hold the script, in place of the first operand.
  files : List String
  separator : Option String
  settings : List String
  showsVersion : Bool
  showsHelp : Bool
  -- Options that nobody knows and that do nothing.
  vacuous : List String
  operands : List String

inductive AskFault where
  | lacksArgument (option : String)
  | unknown (option : String)

def AskFault.message : AskFault → String
  | lacksArgument option => "option " ++ option ++ " lacks argument"
  | unknown option => "not an option: " ++ option

def Asked.take (asked : Asked) (letter : Char) (value : String) : Asked :=
  match letter with
  | 'f' => { asked with files := asked.files ++ [value] }
  | 'F' => { asked with separator := some value }
  | 'v' => { asked with settings := asked.settings ++ [value] }
  | _ =>
      if "version".startsWith value then { asked with showsVersion := true }
      else if "help".startsWith value || "usage".startsWith value then
        { asked with showsHelp := true }
      else if ["compat", "dump", "interactive", "posix", "sprintf", "random"].any fun known =>
          value.startsWith known then asked
      else { asked with vacuous := asked.vacuous ++ [value] }

def readAsked : List String → Asked → Except AskFault Asked
  | [], asked => .ok asked
  | word :: rest, asked =>
      match word.toList, rest with
      | ['-', '-'], rest => .ok { asked with operands := rest }
      | '-' :: '-' :: name, rest =>
          if name = "version".toList then readAsked rest { asked with showsVersion := true }
          else if name = "help".toList ∨ name = "usage".toList then
            readAsked rest { asked with showsHelp := true }
          else .error (.unknown word)
      | ['-', letter], rest =>
          if ['f', 'F', 'v', 'W'].contains letter then
            match rest with
            | value :: after => readAsked after (asked.take letter value)
            | [] => .error (.lacksArgument word)
          else .error (.unknown word)
      | '-' :: letter :: value, rest =>
          if ['f', 'F', 'v', 'W'].contains letter then
            readAsked rest (asked.take letter (String.ofList value))
          else .error (.unknown word)
      | _, _ => .ok { asked with operands := word :: rest }

def versionText : String :=
  "mawk 1.3.4 20240123\n\n" ++
  "random-funcs:       arc4random_stir/arc4random\n" ++
  "regex-funcs:        internal\n\n" ++
  "compiled limits:\n" ++
  "sprintf buffer      8192\n" ++
  "maximum-integer     9223372036854775808\n"

def helpText : String :=
  "Usage: mawk [Options] [Program] [file ...]\n\n" ++
  "Program:\n" ++
  "    The -f option value is the name of a file containing program text.\n" ++
  "    If no -f option is given, a \"--\" ends option processing; the following\n" ++
  "    parameters are the program text.\n\n" ++
  "Options:\n" ++
  "    -f program-file  Program  text is read from file instead of from the\n" ++
  "                     command-line.  Multiple -f options are accepted.\n" ++
  "    -F value         sets the field separator, FS, to value.\n" ++
  "    -v var=value     assigns value to program variable var.\n" ++
  "    --               unambiguous end of options.\n\n" ++
  "    Implementation-specific options are prefixed with \"-W\".  They can be\n" ++
  "    abbreviated:\n\n" ++
  "    -W version       show version information and exit.\n" ++
  "    -W compat        pre-POSIX 2001.\n" ++
  "    -W dump          show assembler-like listing of program and exit.\n" ++
  "    -W help          show this message and exit.\n" ++
  "    -W interactive   set unbuffered output, line-buffered input.\n" ++
  "    -W exec file     use file as program as well as last option.\n" ++
  "    -W posix         stricter POSIX checking.\n" ++
  "    -W random=number set initial random seed.\n" ++
  "    -W sprintf=number adjust size of sprintf buffer.\n" ++
  "    -W usage         show this message and exit.\n"

open Scanner

-- As many records as anybody waits for, and as many steps.
def maxRecords : Nat := Nat.pow 2 22
def maxSteps : Nat := Nat.pow 2 22

-- Whether a rule is followed for the record. A stretch of records is known by the number of its
-- rule.
def isTriggered (number : Nat) : Trigger → Scanner Bool
  | .always => return true
  | .when condition => return (← evaluate maxSteps condition).holds
  | .between first last => do
      let isBegun := (← look).begun.contains number
      let begins ← if isBegun then pure true else do pure (← evaluate maxSteps first).holds
      if begins then
        let ends := (← evaluate maxSteps last).holds
        alter fun machine =>
          let others := machine.begun.filter (· != number)
          { machine with begun := if ends then others else number :: others }
      return begins

def followRules : List (Nat × Trigger × List Statement) → Scanner Unit
  | [] => return ()
  | (number, trigger, body) :: rest => do
      if ← isTriggered number trigger then executeAll maxSteps body
      followRules rest

def skipFile : Scanner Unit := do
  let machine ← look
  if machine.isInput then
    let _ ← inputText
    endInput
    alter fun machine => { machine with input := some [] }
  else put { machine with current := none }

def eachRecord (rules : List (Nat × Trigger × List Statement)) : Nat → Scanner Unit
  | 0 => lose
  | fuel + 1 => do
      match ← nextRecord maxRecords with
      | none => return ()
      | some record =>
          countRecord
          alter fun machine => machine.setRecord record
          tryCatch (followRules rules) fun stop =>
            match stop with
            | .nextRecord => return ()
            | .nextFile => skipFile
            | stop => throw stop
          eachRecord rules fuel

-- Goes on where a part of the script has asked to end it all, unless something was wrong.
def finishing (work : Scanner Unit) : Scanner Bool :=
  tryCatch (do
      work
      return false)
    fun stop => match stop with
      | .finish => return true
      | stop => throw stop

def followScript (script : Script) : Scanner Unit := do
  let hasEnded ← finishing (script.starts.forM (executeAll maxSteps))
  let isPlain := script.rules.isEmpty && script.ends.isEmpty
  if !isPlain then
    let rules := script.rules.zipIdx.map fun (rule, number) => (number, rule)
    if !hasEnded then
      let _ ← finishing (eachRecord rules maxRecords)
    let _ ← finishing (script.ends.forM (executeAll maxSteps))

def closeCommands : List (String × Sink) → Scanner Unit
  | [] => return ()
  | (name, sink) :: rest => do
      match sink with
      | .command _ =>
          let _ ← closeSink name sink
      | sink => flushSink (name, sink)
      closeCommands rest

-- Closes what is open when all is over, whatever has become of it, unless it is not over.
def closing (work : Scanner Unit) : Scanner Unit := do
  tryCatch work fun stop =>
    match stop with
    | .ask errand => throw (.ask errand)
    | .endless => throw .endless
    | _ => return ()
  closeCommands (← look).sinks

def wholeWork (settings : List (String × List Char)) (script : Script) : Scanner Unit :=
  closing do
    settings.forM fun (name, value) => assign name (.outside value)
    followScript script

def Machine.outcome (machine : Machine) : Outcome :=
  let around := machine.around
  let whole := (around.input.toOption.map List.length).getD 0
  let intake := match machine.input, machine.inputEnds with
    | some rest, false => some (Intake.until (whole - rest.length))
    | _, _ => none
  let output := machine.buffer.reverse.flatten
  { around.outcome machine.code (if output.isEmpty then [] else [(.output, output)]) with
    intake
    lossReport := fun fault =>
      around.name ++ ": close failed on file \"/dev/stdout\" (" ++ fault.reason ++ ")\n"
    lossCode := 2 }

def tableOfTexts (entries : List (List Char × List Char)) : Table :=
  entries.foldl
    (fun (table : Table) (key, value) =>
      let (sought, _) := table.seek (.text key) true
      sought.set (.text key) (.outside value))
    .empty

def Machine.start (around : Surroundings) (script : Script) (operands : List String) : Machine :=
  let arguments := around.name :: operands
  let values := arguments.zipIdx.foldl
    (fun (table : Table) (word, (number : Nat)) =>
      let (sought, _) := table.seek (.whole number) true
      sought.set (.whole number) (.outside (patternChars word)))
    .empty
  let environment := tableOfTexts
    (around.environment.map fun (name, value) => (patternChars name, patternChars value))
  let known : List (String × Value) :=
    [("FS", .text [' ']), ("OFS", .text [' ']), ("ORS", .text ['\n']), ("RS", .text ['\n']),
      ("SUBSEP", .text ['\x1c']), ("CONVFMT", .text "%.6g".toList),
      ("OFMT", .text "%.6g".toList), ("NF", .ofNat 0), ("NR", .ofNat 0), ("FNR", .ofNat 0),
      ("ARGC", .ofNat arguments.length)]
  let names : List (String × Cell) :=
    (known.map fun (name, value) => (name, Cell.single value)) ++
      [("ARGV", .table 0), ("ENVIRON", .table 1)]
  { around
    functions := script.functions
    globals := Std.HashMap.ofList names
    locals := []
    tables := Std.HashMap.ofList [(0, values), (1, environment)]
    fields := []
    record := []
    fieldSeparator := .blanks
    recordSeparator := .char '\n'
    operand := 1
    hasFile := false
    current := none
    isInput := false
    input := none
    inputEnds := false
    feeds := []
    sinks := []
    buffer := []
    printed := 0
    code := 0
    begun := []
    seed := .ofInt 0
    replies := []
    deeds := [] }

def Deed.before (next : Plan) : Deed → Plan
  | say channel bytes => .say channel bytes next
  | place files => .change files next
  | consume => .consume next

def maxCommands : Nat := 100000

-- Follows a script as far as its commands are known, starts the next one, and begins anew with what
-- has become of it.
def planFor (work : Scanner Unit) (start : Machine) : Nat → List Reply → Plan
  | 0, _ => .finish { start.around.outcome 0 [] with takes := .endless }
  | fuel + 1, replies =>
      let (result, machine) := (ExceptT.run work).run { start with replies }
      let last : Plan :=
        match result with
        | .error (.ask errand) =>
            .start errand fun reply => planFor work start fuel (replies ++ [reply])
        | .error .endless => .finish { start.around.outcome 0 [] with takes := .endless }
        | _ => .finish machine.outcome
      machine.deeds.foldl Deed.before last

-- The text of a script, and the name that faults in it are told with.
def scriptText (around : Surroundings) (asked : Asked) :
    Except (String × Fault) (List Char × String × List String) :=
  match asked.files, asked.operands with
  | [], text :: operands => .ok (patternChars text, "", operands)
  | [], [] => .ok ([], "", [])
  | names, operands => do
      let texts ← names.mapM fun name =>
        match around.source name with
        | .ok bytes => .ok (byteChars bytes)
        | .error fault => .error (name, fault)
      return (['\n'].intercalate texts, (names.getLast?.getD "") ++ ": ", operands)

end MakeCheck.Program.Scan

namespace MakeCheck.Program

open Text Scan

-- Follows the rules of a script for the records of its input.
def scan (around : Surroundings) (arguments : List String) : Plan :=
  let told (code : Nat) (messages : List String) : Plan :=
    .finish (around.outcome code (messages.map around.complaint))
  match readAsked arguments ⟨[], none, [], false, false, [], []⟩ with
  | .error fault => told 2 [fault.message]
  | .ok asked =>
      let settings := asked.settings.map fun word => (word, Scanner.setting? (patternChars word))
      let isNothing := asked.files.isEmpty && asked.operands.isEmpty
      if asked.showsVersion then .finish (around.outcome 0 [said versionText])
      else if asked.showsHelp then .finish (around.outcome 0 [said helpText])
      else
        match settings.find? fun entry => entry.2.isNone, isNothing with
        | some (word, _), _ => told 2 ["improper assignment: -v " ++ word]
        | none, true => .finish (around.outcome 0 [(.errors, Utf8.encode helpText)])
        | none, false =>
            match scriptText around asked with
            | .error (name, fault) =>
                told 2 ["cannot open \"" ++ name ++ "\" (" ++ fault.reason ++ ")"]
            | .ok (text, name, operands) =>
                match Script.ofText text with
                | .error faults => told 2 (faults.map (name ++ ·))
                | .ok script =>
                    let values := settings.filterMap (·.2)
                    let separator := asked.separator.toList.map fun value =>
                      ("FS", patternChars value)
                    let all := (separator ++ values).map fun (name, value) =>
                      (name, Scanner.unescaped value)
                    let notes : Plan → Plan := fun plan =>
                      asked.vacuous.foldr
                        (fun word plan =>
                          let note := around.complaint ("vacuous option: -W \"" ++ word ++ "\"")
                          .say .errors note.2 plan)
                        plan
                    let start := Machine.start around script operands
                    notes (planFor (wholeWork all script) start maxCommands [])

end MakeCheck.Program
