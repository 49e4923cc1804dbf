import MakeCheck.Shell.Variable

namespace MakeCheck.Shell

open Text

def withArguments (arguments : List String) (step : Step) : Step :=
  let process := { step.process with
    arguments := step.process.arguments.take 1 ++ arguments
    optionIndex := 1
    optionOffset := none }
  { step with process }.withStatus 0

def shift (arguments : List String) (step : Step) : Step :=
  match arguments.head? with
  | some count =>
      if !isNumber count then step.fail ("Illegal number: " ++ count)
      else if step.process.arguments.length - 1 < numberOf count then
        step.fail "can't shift that many"
      else withArguments (step.process.arguments.tail.drop (numberOf count)) step
  | none =>
      if step.process.arguments.length ≤ 1 then step.fail "can't shift that many"
      else withArguments (step.process.arguments.tail.drop 1) step

-- What the options at the front of some words tell.
structure OptionReading where
  options : Options
  -- A script is given as a text.
  asksText : Bool
  -- Whether options are to be shown, and if so as a table.
  table : Option Bool
  -- The words behind the options. There are none if the arguments are to stay what they are.
  words : Option (List String)

-- Reads the letters of one word. Two of them are known only where a shell starts. The letter o
-- takes a name from the words behind it.
def readOptionLetters (starts on : Bool) : List Char → List String → OptionReading →
    Except String (OptionReading × List String)
  | [], words, reading => .ok (reading, words)
  | letter :: letters, words, reading =>
      if starts ∧ letter = 'c' then
        readOptionLetters starts on letters words { reading with asksText := true }
      else if starts ∧ letter = 'l' then readOptionLetters starts on letters words reading
      else if letter = 'o' then
        match words with
        | [] => readOptionLetters starts on letters words { reading with table := some on }
        | name :: rest =>
            if (Options.known.lookup name).isSome then
              readOptionLetters starts on letters rest
                { reading with options := reading.options.turn on name }
            else .error ("Illegal option -o " ++ name)
      else
        match Options.known.find? fun entry => entry.2 == some letter with
        | some (name, _) =>
            readOptionLetters starts on letters words
              { reading with options := reading.options.turn on name }
        | none => .error ("Illegal option -" ++ letter.toString)

-- Reads options up to the first word that is none. A hyphen ends them, and so do two. Each round
-- takes a word, which the first argument bounds.
def readOptionWords (starts : Bool) : Nat → List String → OptionReading →
    Except String OptionReading
  | 0, _, reading => .ok reading
  | _, [], reading => .ok reading
  | bound + 1, word :: rest, reading =>
      match word.toList with
      | ['-', '-'] => .ok { reading with words := some rest }
      | ['-'] =>
          let quiet := if starts then reading.options
            else (reading.options.turn false "xtrace").turn false "verbose"
          .ok { reading with options := quiet, words := if rest.isEmpty then none else some rest }
      | sign :: letters =>
          if sign = '-' ∨ sign = '+' then do
            let (reading, rest) ← readOptionLetters starts (sign == '-') letters rest reading
            readOptionWords starts bound rest reading
          else .ok { reading with words := some (word :: rest) }
      | [] => .ok { reading with words := some (word :: rest) }

def readOptions (starts : Bool) (words : List String) (options : Options) :
    Except String OptionReading :=
  readOptionWords starts words.length words ⟨options, false, none, none⟩

def Options.listing (options : Options) (asTable : Bool) : String :=
  let line (name : String) : String :=
    let on := options.has name
    if asTable then
      name ++ String.ofList (List.replicate (16 - name.length) ' ') ++ (if on then "on" else "off")
    else "set " ++ (if on then "-o " else "+o ") ++ name
  let lines := known.map fun entry => line entry.1 ++ "\n"
  (if asTable then "Current option settings\n" else "") ++ String.join lines

def setArguments (arguments : List String) (step : Step) : Step :=
  if arguments.isEmpty then listVariables "" (step.process.bindings.map (·.1)) step
  else
    match readOptions false arguments step.process.options with
    | .error message => step.fail message
    | .ok reading =>
        let listed :=
          match reading.table with
          | some asTable => step.say (reading.options.listing asTable)
          | none => step
        let controlled := if reading.options.has "monitor" then
            listed.complain "can't access tty; job control turned off"
          else listed
        let options := reading.options.turn false "monitor"
        let changed := { controlled with process := { controlled.process with options } }
        match reading.words with
        | some words => withArguments words changed
        | none => changed.withStatus 0

-- Which letters are options, and whether they take a value.
def optionLetters : List Char → List (Char × Bool)
  | [] => []
  | letter :: ':' :: rest => (letter, true) :: optionLetters rest
  | letter :: rest => (letter, false) :: optionLetters rest

-- The letters that are read next, and the place of the word behind them. A word of two hyphens is
-- passed over and ends the options.
def nextLetters (words : List String) (process : Process) : List Char × Nat :=
  let index := process.optionIndex
  let current :=
    match process.optionOffset with
    | some offset => ((words[index - 2]?).getD "").toList.drop offset
    | none => []
  if current != [] then (current, index)
  else
    match (words[index - 1]?).map String.toList with
    | some ['-', '-'] => ([], index + 1)
    | some ('-' :: letters) => if letters.isEmpty then ([], index) else (letters, index + 1)
    | _ => ([], index)

-- The next option of some words, given which letters are options.
def getOption (letters name : String) (words : List String) (step : Step) : Step :=
  let quiet := ":".isPrefixOf letters
  let (current, index) := nextLetters words step.process
  let settle (step : Step) (found : String) (index : Nat) (offset : Option Nat) : Step :=
    let told := (step.assign "OPTIND" (toString index)).assign name found
    { told with process := { told.process with optionIndex := index, optionOffset := offset } }
  let without (step : Step) : Step := { step with process := step.process.unset "OPTARG" }
  let wrong (letter : Char) (text : String) : Step :=
    if quiet then step.assign "OPTARG" letter.toString
    else (without step).writeErrors (Utf8.encode text)
  match current with
  | [] => (settle step "?" index none).withStatus 1
  | letter :: rest =>
      let size := ((words[index - 2]?).getD "").length
      let behind := some (size - rest.length)
      let known := optionLetters (letters.toList.drop (if quiet then 1 else 0))
      let settled :=
        match known.lookup letter with
        | none =>
            settle (wrong letter ("Illegal option -" ++ letter.toString ++ "\n")) "?" index behind
        | some false => settle (step.assign "OPTARG" "") letter.toString index behind
        | some true =>
            if !rest.isEmpty then
              settle (step.assign "OPTARG" (String.ofList rest)) letter.toString index none
            else
              match words[index - 1]? with
              | some value => settle (step.assign "OPTARG" value) letter.toString (index + 1) none
              | none =>
                  let text := "No arg for -" ++ letter.toString ++ " option\n"
                  settle (wrong letter text) (if quiet then ":" else "?") index none
      if settled.isGoing then settled.withStatus 0 else settled

end MakeCheck.Shell
