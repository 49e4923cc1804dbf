import MakeCheck.Make.HashTable
import MakeCheck.Make.Words
import MakeCheck.Program.Utility
import MakeCheck.Program.Plan

namespace MakeCheck.Make

open Text Program

-- A line of a file that something was read from.
structure Place where
  file : String
  line : Nat
deriving DecidableEq

-- Where the value of a variable comes from. A value counts only if none from higher up is there.
inductive Origin where
  | builtin
  | environment
  | makefile
  | environmentFirst
  | commandLine
  | override
  | automatic
deriving DecidableEq

namespace Origin

def rank : Origin → Nat
  | builtin => 0
  | environment => 1
  | makefile => 2
  | environmentFirst => 3
  | commandLine => 4
  | override => 5
  | automatic => 6

def name : Origin → String
  | builtin => "default"
  | environment => "environment"
  | makefile => "file"
  | environmentFirst => "environment override"
  | commandLine => "command line"
  | override => "override"
  | automatic => "automatic"

end Origin

structure Variable where
  value : List Char
  -- Whether its value is looked at anew each time that it is used.
  isRecursive : Bool
  origin : Origin
  -- Whether commands see it, where that is said.
  isExported : Option Bool
  place : Option Place
  -- Whether its value goes behind that of the scope around.
  appends : Bool
  isPrivate : Bool

abbrev Scope := List (String × Variable)

def Variable.plain (value : List Char) (origin : Origin) : Variable :=
  { value
    isRecursive := false
    origin
    isExported := none
    place := none
    appends := false
    isPrivate := false }

-- What a target needs.
structure Need where
  name : String
  -- Needed to be there, whatever its age.
  isOrderOnly : Bool
  -- Whether it has changed, or is younger than the target.
  isChanged : Bool
  -- A text that is expanded only when the target is looked at, with what stands for its pattern.
  isLate : Bool
  stem : Option (List Char)

def Need.plain (name : String) (isOrderOnly : Bool) : Need :=
  ⟨name, isOrderOnly, false, false, none⟩

-- The commands of a rule, with the place of the first one. Those that are known from the start have
-- no place. The number tells rules apart.
structure Recipe where
  number : Nat
  place : Option Place
  text : List Char

-- A rule for all names of some shapes. A final one is not used for what is only on the way to
-- another name.
structure PatternRule where
  number : Nat
  targets : List (List Char)
  needs : List Need
  recipe : Option Recipe
  isFinal : Bool

-- When something was changed, in nanoseconds. What is not there is older than all that is, and what
-- is to be taken for new is younger.
abbrev Age := Int

namespace Age

def missing : Age := -(Int.pow 10 40)
def old : Age := missing + 1
def fresh : Age := Int.pow 10 40

end Age

inductive Verdict where
  | success
  | nothing
  | question
  | failure
deriving DecidableEq

namespace Verdict

def rank : Verdict → Nat
  | success => 0
  | nothing => 1
  | question => 2
  | failure => 3

def isBad (verdict : Verdict) : Bool :=
  decide (1 < verdict.rank)

def worse (a b : Verdict) : Verdict :=
  if a.rank < b.rank then b else a

end Verdict

-- How far the work on a target has come.
inductive Stage where
  | idle
  | running
  | finished
deriving DecidableEq

-- A name that is made or needed. Names with several rules of their own have an entry for each,
-- told apart by a number.
structure Target where
  name : String
  number : Nat
  isDouble : Bool
  needs : List Need
  recipe : Option Recipe
  stem : Option (List Char)
  -- Other names that are made by the same run of its commands.
  partners : List String
  scope : Scope
  -- Whether a rule names it as something to be made.
  isTarget : Bool
  isPhony : Bool
  isPrecious : Bool
  -- Only on the way to other names, so that it is removed in the end.
  isIntermediate : Bool
  isSecondary : Bool
  isGoal : Bool
  wasSearched : Bool
  isUpdating : Bool
  isUpdated : Bool
  isConsidered : Bool
  stage : Stage
  verdict : Verdict
  -- Whether it does not matter if it cannot be made, and whether that was not told.
  isOptional : Bool
  isUntold : Bool
  parent : Option String
  age : Option Age
  -- Its age before the work on it began.
  ageBefore : Option Age
  -- Where it was found on the search path, and whether that does not matter any more.
  foundAs : Option String
  isFoundHere : Bool

def Target.shown (target : Target) : String :=
  if target.isFoundHere then target.name else target.foundAs.getD target.name

def Target.start (name : String) (number : Nat) : Target :=
  { name
    number
    isDouble := false
    needs := []
    recipe := none
    stem := none
    partners := []
    scope := []
    isTarget := false
    isPhony := false
    isPrecious := false
    isIntermediate := false
    isSecondary := false
    isGoal := false
    wasSearched := false
    isUpdating := false
    isUpdated := false
    isConsidered := false
    stage := .idle
    verdict := .nothing
    isOptional := false
    isUntold := false
    parent := none
    age := none
    ageBefore := none
    foundAs := none
    isFoundHere := true }

-- What the command line asks for. Lists have the latest entry last.
structure Settings where
  makefiles : List String
  goals : List String
  -- Definitions on the command line.
  definitions : List String
  directories : List String
  includes : List String
  evaluated : List String
  old : List String
  new : List String
  -- How many commands may run at once, up to which load, and how their output is kept together. An
  -- empty text sets no bound.
  jobs : Option String
  load : Option String
  grouping : Option String
  isSilent : Bool
  showsOnly : Bool
  goesOn : Bool
  ignoresErrors : Bool
  makesAll : Bool
  touches : Bool
  questions : Bool
  environmentFirst : Bool
  showsDirectory : Bool
  hidesDirectory : Bool
  lacksRules : Bool
  lacksVariables : Bool
  warnsUndefined : Bool
  traces : Bool

def Settings.start : Settings :=
  { makefiles := []
    goals := []
    definitions := []
    directories := []
    includes := []
    evaluated := []
    old := []
    new := []
    jobs := none
    load := none
    grouping := none
    isSilent := false
    showsOnly := false
    goesOn := false
    ignoresErrors := false
    makesAll := false
    touches := false
    questions := false
    environmentFirst := false
    showsDirectory := false
    hidesDirectory := false
    lacksRules := false
    lacksVariables := false
    warnsUndefined := false
    traces := false }

-- How a definition goes together with what a variable holds.
inductive Joining where
  | recursive
  | simple
  | append
  -- The added text is not to be expanded.
  | appendText
  | ifUnset
  -- The value is the output of a command.
  | shell
deriving DecidableEq

-- A definition for all targets of a shape.
structure PatternVariable where
  shape : List Char
  name : String
  content : Variable
  joining : Joining

structure Workshop where
  around : Surroundings
  -- How deep this run lies in others, and the name that it goes by in messages.
  level : Nat
  program : String
  settings : Settings
  scope : Scope
  -- Scopes inside of that for all, the innermost first.
  scopes : List Scope
  -- The variables whose values are being looked at.
  expanding : List String
  -- What is being read, and where the variable was defined that is being looked at.
  place : Option Place
  definedAt : Option Place
  -- Whether variables that are private to all are out of sight.
  hidesPrivate : Bool
  targets : List Target
  rules : List PatternRule
  patternVariables : List PatternVariable
  counter : Nat
  -- Whether all makefiles have been read.
  isRead : Bool
  expandsTwice : Bool
  isOneShell : Bool
  exportsAll : Bool
  setsGoal : Bool
  recipeMark : Char
  commandsStarted : Nat
  -- Whether makefiles are brought up to date, and what is made just now.
  isRemaking : Bool
  goal : String
  impossible : List String
  -- The directories where names of a shape are looked for.
  searchPaths : List (List Char × List String)
  -- The files that were read, and whether each could be missing.
  read : List (String × Bool)
  -- Those that others ask for and that could not be read, where that was, and why.
  unread : List (String × Option Place × Fault)
  isEntered : Bool
  shellStatus : Nat

abbrev Shop (α : Type) := Work Workshop α

def Place.shown (place : Place) : String :=
  place.file ++ ":" ++ toString place.line

namespace Workshop

def label (shop : Workshop) : String :=
  if shop.level = 0 then shop.program ++ ": "
  else shop.program ++ "[" ++ toString shop.level ++ "]: "

def target? (shop : Workshop) (name : String) : Option Target :=
  shop.targets.find? fun target => target.name == name

def entry? (shop : Workshop) (name : String) (number : Nat) : Option Target :=
  shop.targets.find? fun target => target.name == name && target.number == number

def entries (shop : Workshop) (name : String) : List Target :=
  shop.targets.filter fun target => target.name == name

def change (shop : Workshop) (name : String) (number : Nat) (work : Target → Target) : Workshop :=
  { shop with targets := shop.targets.map fun target =>
      if target.name = name ∧ target.number = number then work target else target }

def changeAll (shop : Workshop) (name : String) (work : Target → Target) : Workshop :=
  { shop with targets := shop.targets.map fun target =>
      if target.name = name then work target else target }

def enter (shop : Workshop) (name : String) : Workshop :=
  if (shop.target? name).isSome then shop
  else { shop with targets := shop.targets ++ [.start name 0] }

def isNamed (shop : Workshop) (name : String) : Bool :=
  (shop.target? name).any (·.isTarget)

def variableOf (shop : Workshop) (name : String) : Option Variable :=
  (shop.scopes.findSome? fun scope => scope.lookup name).or
    ((shop.scope.lookup name).filter fun found => !(shop.hidesPrivate && found.isPrivate))

end Workshop

def Scope.put (scope : Scope) (name : String) (content : Variable) : Scope :=
  if (scope.lookup name).isSome then
    scope.map fun entry => if entry.1 = name then (name, content) else entry
  else scope ++ [(name, content)]

namespace Shop

def look : Shop Workshop :=
  Work.look

def alter (change : Workshop → Workshop) : Shop Unit :=
  Work.alter change

-- Says in which directory the work is done, before anything else is said.
def announce : Shop Unit := do
  let shop ← look
  if shop.settings.showsDirectory && !shop.settings.hidesDirectory && !shop.isEntered then
    alter fun shop => { shop with isEntered := true }
    Work.say .output (Utf8.encode (shop.label ++ "Entering directory '" ++
      directoryText shop.around.directory ++ "'\n"))

def write (channel : Channel) (text : String) : Shop Unit := do
  announce
  Work.say channel (Utf8.encode text)

-- Says something on the output, with the name of the program before it if the flag says so.
def tell (labelled : Bool) (message : String) : Shop Unit := do
  let shop ← look
  write .output ((if labelled then shop.label else "") ++ message ++ "\n")

def warn (place : Option Place) (message : String) : Shop Unit := do
  let shop ← look
  let front := match place with
    | some place => place.shown ++ ": "
    | none => shop.label
  write .errors (front ++ message ++ "\n")

-- Removes files one after the other, and tells of those that cannot be removed.
def removeFiles : List String → Shop Unit
  | [] => pure ()
  | name :: rest => do
      let shop ← look
      let around := shop.around
      match around.files.findName around.directory ⟨name⟩ with
      | .ok (_, { content := .directory, .. }) =>
          Work.say .errors (Utf8.encode (shop.label ++ "unlink: " ++ name ++ ": " ++
            Fault.isADirectory.reason ++ "\n"))
      | .ok (location, _) =>
          let files := around.files.removeTree location around.now
          alter fun shop => { shop with around := { shop.around with files } }
          Work.place files
      | .error _ => pure ()
      removeFiles rest

-- Removes what was only on the way to other names, and says so.
def removeIntermediates : Shop Unit := do
  let shop ← look
  let settings := shop.settings
  let isThere (name : String) : Bool :=
    settings.showsOnly || shop.around.files.hasName shop.around.directory ⟨name⟩
  let doomed := shop.targets.filter fun target =>
    target.isIntermediate && !target.isSecondary && !target.isGoal &&
      (target.isOptional || !target.isPrecious) && target.verdict != .nothing
  let names := (shop.targets.map (·.name)).eraseDups
  let found := ((inTableOrder fileNumber names).filter fun name =>
    doomed.any fun target => target.name == name).filter isThere
  if !settings.questions && !settings.touches && !found.isEmpty then
    if !settings.isSilent then
      Work.say .output (Utf8.encode ("rm " ++ " ".intercalate found))
    if !settings.showsOnly then removeFiles found
    if !settings.isSilent then Work.say .output [10]

-- Says that a directory is left, if it was said that it was entered.
def leave : Shop Unit := do
  let shop ← look
  if shop.isEntered then
    Work.say .output (Utf8.encode (shop.label ++ "Leaving directory '" ++
      directoryText shop.around.directory ++ "'\n"))

def finish {α : Type} (code : Nat) : Shop α := do
  removeIntermediates
  leave
  Work.stop fun shop => .finish { shop.around.outcome code [] with files := shop.around.files }

def fail {α : Type} (place : Option Place) (message : String) : Shop α := do
  warn place ("*** " ++ message ++ ".  Stop.")
  finish 2

end Shop

end MakeCheck.Make
