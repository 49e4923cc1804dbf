import MakeCheck.Decimal.Binary64
import MakeCheck.Decimal.Reading
import MakeCheck.Environment.Basic
import MakeCheck.Invocation
import MakeCheck.Path

namespace MakeCheck

open Decimal

-- What the program is asked to do.
inductive CommandLine where
  -- Lists what a Makefile says.
  | rules (path : Path) (definitions json : Bool)
  -- Calls make on targets.
  | run (targets : List String) (file : String) (directory : Option Path) (timeout : Binary64)
      (make : String)
deriving DecidableEq

-- Why the arguments name nothing to do.
inductive UsageError where
  | nothingAsked
  | helpAsked
  | versionAsked
  | unknownCommand
  | unknownArgument
  | missingArgument
  | repeated
  | valueUnwanted
  | valueMissing
  | valueMalformed
deriving DecidableEq

-- Help and version are what was asked for, all else is a mistake of the caller.
def UsageError.exitCode : UsageError → Nat
  | helpAsked => 0
  | versionAsked => 0
  | _ => 2

namespace CommandLine

-- A place that the arguments of a command fill.
inductive Key where
  | path
  | definitions
  | json
  | targets
  | file
  | directory
  | timeout
  | make
deriving DecidableEq

-- What a word with dashes stands for.
inductive Switch where
  | help
  | flag (key : Key)
  | option (key : Key)

-- The arguments that one command takes.
structure Grammar where
  long : String → Option Switch
  short : Char → Option Switch
  positional : Key
  -- Takes any number of words in its place.
  openEnded : Bool

def rulesGrammar : Grammar where
  long
    | "vars" => some (.flag .definitions)
    | "json" => some (.flag .json)
    | "help" => some .help
    | _ => none
  short
    | 'h' => some .help
    | _ => none
  positional := .path
  openEnded := false

def runGrammar : Grammar where
  long
    | "file" => some (.option .file)
    | "directory" => some (.option .directory)
    | "timeout" => some (.option .timeout)
    | "make" => some (.option .make)
    | "help" => some .help
    | _ => none
  short
    | 'f' => some (.option .file)
    | 'C' => some (.option .directory)
    | 'h' => some .help
    | _ => none
  positional := .targets
  openEnded := true

-- How a word looks.
inductive Word where
  | escape
  | long (name : String) (value : Option String)
  | short (letter : Char) (rest : List Char)
  | plain

-- A lone dash is a plain word.
def Word.ofText (text : String) : Word :=
  match text.toList with
  | ['-', '-'] => escape
  | '-' :: '-' :: body =>
      let name := body.takeWhile (· != '=')
      let value :=
        match body.dropWhile (· != '=') with
        | _ :: value => some (String.ofList value)
        | [] => none
      long (String.ofList name) value
  | '-' :: letter :: rest => short letter rest
  | _ => plain

-- How far the arguments of a command have been read.
structure Progress where
  taken : List (Key × List String)
  -- The last key with its values, which are looked at only when the next one comes.
  pending : Option (Key × List String)
  -- The next plain word is the value of the pending option.
  awaiting : Bool
  -- A double dash has been read, so all words are plain.
  trailing : Bool
  filled : Bool

namespace Progress

def start : Progress :=
  ⟨[], none, false, false, false⟩

def values (progress : Progress) (key : Key) : Option (List String) :=
  progress.taken.lookup key

-- A path must not be empty, and a time must be a number.
def checkValue (key : Key) (value : String) : Except UsageError Unit :=
  match key with
  | .path | .directory => if value.isEmpty then .error .valueMissing else .ok ()
  | .timeout => if (Binary64.read? value.toList).isNone then .error .valueMalformed else .ok ()
  | _ => .ok ()

def checkValues (key : Key) : List String → Except UsageError Unit
  | [] => .ok ()
  | value :: rest =>
      match checkValue key value with
      | .ok _ => checkValues key rest
      | .error e => .error e

def takesValue : Key → Bool
  | .definitions | .json => false
  | _ => true

-- A missing value is told before a repetition, and a repetition before a bad value. The words of
-- an open-ended place may come in several groups.
def take (progress : Progress) (key : Key) (values : List String) : Except UsageError Progress :=
  if takesValue key && values.isEmpty then .error .valueMissing
  else
    match progress.values key with
    | some earlier =>
        if key = .targets then
          .ok { progress with
            taken := (key, earlier ++ values) :: progress.taken.filter fun entry => entry.1 != key }
        else .error .repeated
    | none =>
        match checkValues key values with
        | .ok _ => .ok { progress with taken := (key, values) :: progress.taken }
        | .error e => .error e

def settle (progress : Progress) : Except UsageError Progress :=
  match progress.pending with
  | none => .ok progress
  | some (key, values) => take { progress with pending := none, awaiting := false } key values

def takeOption (progress : Progress) (key : Key) : Option String → Except UsageError Progress
  | some value => do (← progress.settle).take key [value]
  | none => do return { ← progress.settle with pending := some (key, []), awaiting := true }

def takePlain (grammar : Grammar) (progress : Progress) (word : String) :
    Except UsageError Progress :=
  if progress.filled && !grammar.openEnded then .error .unknownArgument
  else
    match progress.pending with
    | some (key, values) =>
        if key = grammar.positional ∧ grammar.openEnded then
          .ok { progress with pending := some (key, values ++ [word]) }
        else do
          let settled ← progress.settle
          return { settled with pending := some (grammar.positional, [word]), filled := true }
    | none => .ok { progress with pending := some (grammar.positional, [word]), filled := true }

def takeSwitch (progress : Progress) (value : Option String) : Switch → Except UsageError Progress
  | .option key => progress.takeOption key value
  | .flag key =>
      if value.isSome then .error .valueUnwanted
      else do (← progress.settle).take key []
  | .help =>
      if value.isSome then .error .valueUnwanted
      else do
        let _ ← progress.settle
        .error .helpAsked

-- An equals sign between a short option and its value is dropped.
def attached : List Char → Option String
  | [] => none
  | '=' :: value => some (String.ofList value)
  | value => some (String.ofList value)

def read (grammar : Grammar) (progress : Progress) (word : String) : Except UsageError Progress :=
  if progress.trailing then takePlain grammar progress word
  else
    match Word.ofText word with
    | .escape => .ok { progress with trailing := true, awaiting := false }
    | .long name value =>
        match grammar.long name with
        | some switch => progress.takeSwitch value switch
        | none => .error .unknownArgument
    | .short letter rest =>
        match grammar.short letter with
        | some (.option key) => progress.takeOption key (attached rest)
        | some switch => progress.takeSwitch none switch
        | none => .error .unknownArgument
    | .plain =>
        match progress.pending with
        | some (key, values) =>
            if progress.awaiting then
              .ok { progress with pending := some (key, values ++ [word]), awaiting := false }
            else takePlain grammar progress word
        | none => takePlain grammar progress word

def readAll (grammar : Grammar) (words : List String) : Except UsageError Progress := do
  (← words.foldlM (read grammar) start).settle

def one? (progress : Progress) (key : Key) : Option String :=
  (progress.values key).bind List.head?

end Progress

def readRules (words : List String) : Except UsageError CommandLine := do
  let found ← Progress.readAll rulesGrammar words
  match found.one? .path with
  | some path => .ok (.rules ⟨path⟩ (found.values .definitions).isSome (found.values .json).isSome)
  | none => .error .missingArgument

-- The variable `MAKE` names the program when the arguments do not.
def readRun (environment : Environment) (words : List String) : Except UsageError CommandLine := do
  let found ← Progress.readAll runGrammar words
  match found.values .targets with
  | some targets =>
      .ok (.run targets ((found.one? .file).getD defaultMakefileName)
        ((found.one? .directory).map Path.mk)
        (((found.one? .timeout).bind fun text => Binary64.read? text.toList).getD
          (.ofRatio false 15 1))
        ((found.one? .make).getD ((environment.text? "MAKE").getD "make")))
  | none => .error .missingArgument

def commandNames : List String :=
  ["rules", "run", "help"]

-- Help is given on the program or on one command.
def readHelp : List String → UsageError
  | [] => .helpAsked
  | [name] => if commandNames.contains name then .helpAsked else .unknownCommand
  | _ => .unknownCommand

-- Reads the arguments of the program. `trailing` says that a double dash came before them.
def readFrom (environment : Environment) (trailing : Bool) :
    List String → Except UsageError CommandLine
  | [] => .error .nothingAsked
  | word :: rest =>
      if trailing then
        .error (if commandNames.contains word then .unknownArgument else .unknownCommand)
      else
        match Word.ofText word with
        | .escape => readFrom environment true rest
        | .long name value =>
            if name = "help" ∨ name = "version" then
              .error (if value.isSome then .valueUnwanted
                else if name = "help" then .helpAsked else .versionAsked)
            else .error .unknownArgument
        | .short letter _ =>
            .error (if letter = 'h' then .helpAsked
              else if letter = 'V' then .versionAsked else .unknownArgument)
        | .plain =>
            match word with
            | "rules" => readRules rest
            | "run" => readRun environment rest
            | "help" => .error (readHelp rest)
            | _ => .error .unknownCommand

def read (environment : Environment) (words : List String) : Except UsageError CommandLine :=
  readFrom environment false words

end CommandLine

end MakeCheck
