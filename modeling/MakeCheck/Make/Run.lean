import MakeCheck.Make.Update

namespace MakeCheck.Make

open Text Program

-- Expands the needs of a target that were left for later, one after the other.
def expandNeeds : Nat → String → Nat → List Need → List Need → Shop Unit
  | 0, _, _, _, _ => pure ()
  | _, name, number, done, [] =>
      Shop.alter fun shop => shop.change name number fun target => { target with needs := done }
  | fuel + 1, name, number, done, need :: rest => do
      if !need.isLate then expandNeeds fuel name number (done ++ [need]) rest
      else
        Shop.alter fun shop => shop.change name number fun target =>
          { target with
            needs := done ++ need :: rest
            stem := need.stem.or target.stem }
        let text ← inSight name number none (expanded evaluateText need.name.toList)
        let shop ← Shop.look
        let found := needsIn shop text
        let found := match need.stem with
          | some stem => needsOfStem stem found
          | none => found
        Shop.alter fun shop => shop.enterNeeds found
        expandNeeds fuel name number (done ++ found) rest

def expandTargets : List (String × Nat × List Need) → Shop Unit
  | [] => pure ()
  | (name, number, needs) :: rest => do
      if needs.any (·.isLate) then expandNeeds (needs.length + 1) name number [] needs
      expandTargets rest

def Workshop.listedBy (shop : Workshop) (special : String) : List String :=
  (shop.entries special).flatMap fun target => target.needs.map (·.name)

def Workshop.heedTargets (shop : Workshop) : Workshop :=
  let all (names : List String) (work : Target → Target) (shop : Workshop) : Workshop :=
    names.foldl (fun shop name => shop.changeAll name work) shop
  let listed (special : String) (work : Target → Target) (shop : Workshop) : Workshop :=
    all (shop.listedBy special) work shop
  let shop := listed ".PRECIOUS" (fun target => { target with isPrecious := true }) shop
  let shop := listed ".PHONY" (fun target => { target with
    isPhony := true, isTarget := true, age := some Age.missing }) shop
  let shop := listed ".INTERMEDIATE" (fun target => { target with isIntermediate := true }) shop
  let shop := listed ".SECONDARY"
    (fun target => { target with isIntermediate := true, isSecondary := true }) shop
  let sparesAll := (shop.entries ".SECONDARY").any fun target => target.needs.isEmpty
  let shop := if sparesAll then
      { shop with targets := shop.targets.map fun target =>
          { target with isIntermediate := true, isSecondary := true } }
    else shop
  let saysAll (special : String) : Bool :=
    (shop.target? special).any fun target => target.isTarget && target.needs.isEmpty
  { shop with
    exportsAll := shop.exportsAll || shop.isNamed ".EXPORT_ALL_VARIABLES"
    settings := { shop.settings with
      ignoresErrors := shop.settings.ignoresErrors || saysAll ".IGNORE"
      isSilent := shop.settings.isSilent || saysAll ".SILENT" } }

def Workshop.addGeneralPath (shop : Workshop) (text : List Char) : Workshop :=
  let pieces := ((wordsOf text).flatMap fun word => word.splitOn ':').filter (· != [])
  if pieces.isEmpty then shop
  else { shop with searchPaths := shop.searchPaths ++ [(['%'], pieces.map String.ofList)] }

-- Takes files for very old or for new, as the command line says.
def Workshop.heedAges (shop : Workshop) : Workshop :=
  let shop := shop.settings.old.foldl
    (fun (shop : Workshop) name =>
      (shop.enter name).change name 0 fun target => { target with
        age := some Age.old, ageBefore := some Age.old,
        isUpdated := true, verdict := .success, stage := .finished })
    shop
  shop.settings.new.foldl
    (fun (shop : Workshop) name =>
      (shop.enter name).change name 0 fun target => { target with
        age := some Age.fresh, ageBefore := some Age.fresh })
    shop

def settle : Shop Unit := do
  let shop ← Shop.look
  Shop.alter fun shop => { shop with isRead := true }
  expandTargets (shop.targets.map fun target => (target.name, target.number, target.needs))
  Shop.alter fun shop => shop.heedTargets
  let shop ← Shop.look
  Work.forAll shop.idleNeeds fun place =>
    Shop.warn place "warning: ignoring prerequisites on suffix rule definition"
  Shop.alter fun shop => shop.addKnownRules
  let shop ← Shop.look
  let path ← if (shop.variableOf "VPATH").isSome then
      variableValue evaluateText plentyDeep "VPATH"
    else pure []
  Shop.alter fun shop => (shop.addGeneralPath path).heedAges

-- The words that make a variable for commands tell of definitions on the command line.
def overridesName : String := "-*-command-variables-*-"

-- Tells commands of the options and definitions that they are to heed.
def defineFlags : Shop Unit :=
  Shop.alter fun shop =>
    let names := shop.settings.definitions
    let shown (name : String) : Option (List Char) :=
      (shop.scope.lookup name).map fun found =>
        quotedForFlags name.toList ++ (if found.isRecursive then ['='] else [':', '=']) ++
          quotedForFlags found.value
    let overrides := ofWords (names.filterMap shown)
    let flags := shop.settings.flagText
    let text := if names.isEmpty then flags else flags ++ " -- $(MAKEOVERRIDES)"
    let known (name : String) : Option Bool := (shop.scope.lookup name).bind (·.isExported)
    let define (shop : Workshop) (name : String) (content : Variable) : Workshop :=
      { shop with scope := shop.scope.put name content }
    let recursive (text : String) (origin : Origin) : Variable :=
      { Variable.plain text.toList origin with isRecursive := true }
    let flagged := define shop "MAKEFLAGS"
      { recursive text .makefile with isExported := (known "MAKEFLAGS").or (some true) }
    let told := define flagged "MFLAGS" (recursive shop.settings.flagWords .environment)
    if names.isEmpty then told
    else
      define (define told overridesName (.plain overrides .automatic)) "MAKEOVERRIDES"
        (recursive ("$\x7b" ++ overridesName ++ "\x7d") .environment)

-- The directory prefix of a name on the command line does not count where it is this one.
def commandLineName (word : String) : Shop String := do
  if word.isEmpty then Shop.fail none "empty string invalid as file name"
  else
    let shop ← Shop.look
    return String.ofList (bareName (homeName shop word.toList))

-- Heeds the items of a command line, or of a text that tells of options.
def heedItems (isText : Bool) : List Item → Shop Unit
  | [] => pure ()
  | .wrong _ :: rest => heedItems isText rest
  | .flag letter value :: rest => do
      let isForFiles := ['C', 'f', 'o', 'W', 'I'].contains letter
      let value ← match value with
        | some text =>
            if isForFiles && !(letter == 'f' && text == "-") then do
              let name ← commandLineName text
              pure (some name)
            else pure (some text)
        | none => pure none
      if !(isText && ['C', 'f', 'o', 'W'].contains letter) then
        Shop.alter fun shop => { shop with settings := shop.settings.turn letter value }
      heedItems isText rest
  | .operand word :: rest => do
      match assignmentOf? word.toList with
      | some assignment =>
          let name ← definedName evaluateText none assignment.name
          assign evaluateText none none .commandLine name assignment.joining assignment.value
          Shop.alter fun shop =>
            let names := shop.settings.definitions
            { shop with settings := { shop.settings with
                definitions := if names.contains name then names else name :: names } }
      | none =>
          if isText || word == "-" then pure ()
          else
            let name ← commandLineName word
            Shop.alter fun shop => { shop with settings := { shop.settings with
              goals := shop.settings.goals ++ [name] } }
      heedItems isText rest

def enterDirectories : List String → Shop Unit
  | [] => pure ()
  | name :: rest => do
      let shop ← Shop.look
      match shop.around.files.find shop.around.directory ⟨name⟩ with
      | .ok (location, { content := .directory, .. }) =>
          Shop.alter fun shop => { shop with around := { shop.around with directory := location } }
          enterDirectories rest
      | .ok _ => Shop.fail none (name ++ ": " ++ Fault.notADirectory.reason)
      | .error fault => Shop.fail none (name ++ ": " ++ fault.reason)

-- The variables that come from outside. The shell is not one of them.
def addEnvironment (shop : Workshop) : Workshop :=
  let known := ["SHELL", "MAKELEVEL", "MAKE_RESTARTS"]
  (shop.around.environment.filter fun entry => !known.contains entry.1).foldl
    (fun (shop : Workshop) (name, value) =>
      let content : Variable := { Variable.plain value.toList .environment with
        isRecursive := true
        isExported := some true }
      { shop with scope := shop.scope.put name content })
    shop

def freshWorkshop (around : Surroundings) : Workshop :=
  let level := ((around.environment.lookup "MAKELEVEL").bind (·.toNat?)).getD 0
  { around
    level
    program := String.ofList (filePart around.name.toList)
    settings := .start
    scope := []
    scopes := []
    expanding := []
    place := none
    definedAt := none
    hidesPrivate := false
    targets := []
    rules := []
    patternVariables := []
    counter := 0
    isRead := false
    expandsTwice := false
    isOneShell := false
    exportsAll := false
    setsGoal := true
    recipeMark := '\t'
    commandsStarted := 0
    isRemaking := false
    goal := ""
    impossible := []
    searchPaths := []
    read := []
    unread := []
    isEntered := false
    shellStatus := 0 }

def addStart (shop : Workshop) (command : String) (restarts : Nat) : Workshop :=
  let simple (shop : Workshop) (origin : Origin) (name value : String) : Workshop :=
    { shop with scope := shop.scope.put name (.plain value.toList origin) }
  let shop := simple shop .makefile "MAKEFILE_LIST" ""
  let shop := simple shop .makefile ".DEFAULT_GOAL" ""
  let shop := simple shop .makefile "CURDIR" (directoryText shop.around.directory)
  let shop := simple shop .builtin "MAKE_COMMAND" command
  let shop := simple shop .builtin "SHELL" standardShell
  let shop := simple shop .environment "MAKELEVEL" (toString shop.level)
  if restarts = 0 then shop else simple shop .makefile "MAKE_RESTARTS" (toString restarts)

def noteGoals : Shop Unit :=
  Shop.alter fun shop =>
    let goals := shop.settings.goals
    let entered := goals.foldl
      (fun (shop : Workshop) goal =>
        (shop.enter goal).change goal 0 fun target => { target with isGoal := true })
      shop
    if goals.isEmpty then entered
    else entered.put none "MAKECMDGOALS" (.plain (" ".intercalate goals).toList .builtin)

def standardNames : List String :=
  ["GNUmakefile", "makefile", "Makefile"]

def evaluateEach : List String → Shop Unit
  | [] => pure ()
  | text :: rest => do
      readSource deepestReading ⟨none, text.toList⟩
      evaluateEach rest

def readEach (isOptional : Bool) : List String → Shop Unit
  | [] => pure ()
  | name :: rest => do
      readFile (readSource deepestReading) name isOptional isOptional
      readEach isOptional rest

-- Reads all makefiles: those that a variable names, and those of the command line or one with a
-- name that is known.
def readMakefiles : Shop Unit := do
  let shop ← Shop.look
  evaluateEach shop.settings.evaluated
  let more ← variableValue evaluateText plentyDeep "MAKEFILES"
  Shop.alter fun shop => { shop with setsGoal := false }
  readEach true ((wordsOf more).map String.ofList)
  Shop.alter fun shop => { shop with setsGoal := true }
  if !shop.settings.makefiles.isEmpty then readEach false shop.settings.makefiles
  else
    let found := standardNames.find? fun name =>
      shop.around.files.has shop.around.directory ⟨name⟩
    match found with
    | some name => readEach false [name]
    | none =>
        Shop.alter fun shop => standardNames.foldl
          (fun (shop : Workshop) name => { shop.enter name with read := (name, true) :: shop.read })
          shop

-- What has become of the makefiles: they stay as they are, or some were made anew.
inductive Remaking where
  | same
  | anew
deriving DecidableEq

-- Tells which makefiles could not be made, and whether some were made.
def judgeMakefiles : Bool → Bool → List (String × Bool × Option Age) → Shop (Bool × Bool)
  | anew, failed, [] => pure (anew, failed)
  | anew, failed, (name, isOptional, before) :: rest => do
      let shop ← Shop.look
      match shop.target? name with
      | none => judgeMakefiles anew failed rest
      | some target =>
          let age := storedAge shop name
          if target.verdict = .success then
            judgeMakefiles (anew || some age != before) failed rest
          else if isOptional then judgeMakefiles anew failed rest
          else
            Shop.warn none ("Failed to remake makefile '" ++ name ++ "'.")
            let isNew := age != Age.missing && some age != before
            judgeMakefiles (anew || isNew) true rest

-- Brings the makefiles up to date. The flag tells whether one of them could not be made.
def remakeMakefiles : Shop (Remaking × Bool) := do
  let shop ← Shop.look
  let isEndless (name : String) : Bool :=
    (shop.entries name).any fun target =>
      target.isDouble && target.needs.isEmpty && target.recipe.isSome
  let goals := shop.read.filter fun entry => !isEndless entry.1
  let before := goals.map fun (name, isOptional) =>
    (name, isOptional, some (storedAge shop name))
  let settings := shop.settings
  Shop.alter fun shop => { shop with
    isRemaking := true
    settings := { settings with touches := false, questions := false, showsOnly := false } }
  startRound
  let verdict ← updateGoals .nothing goals
  Shop.alter fun shop => { shop with isRemaking := false, settings }
  match verdict with
  | .success => return (.anew, false)
  | .failure =>
      let (anew, failed) ← judgeMakefiles false false before
      return (if anew then .anew else .same, failed)
  | _ => return (.same, false)

-- What is to be made: the goals of the command line, or the one that the makefiles name.
def goalsToMake : Shop (List String) := do
  let shop ← Shop.look
  if !shop.settings.goals.isEmpty then return shop.settings.goals
  else
    let text ← variableValue evaluateText plentyDeep ".DEFAULT_GOAL"
    let whole := String.ofList text
    if text.isEmpty then
      let files := ((shop.scope.lookup "MAKEFILE_LIST").map (·.value)).getD []
      if files.isEmpty then
        Shop.fail none "No targets specified and no makefile found"
      else Shop.fail none "No targets"
    else if (shop.target? whole).isSome then return [whole]
    else
      match namesIn shop text with
      | [] => Shop.fail none "No targets"
      | [goal] =>
          Shop.alter fun shop => shop.enter goal
          return [goal]
      | _ => Shop.fail none ".DEFAULT_GOAL contains more than one target"

-- Heeds options that a makefile has added to those of the command line.
def heedAddedFlags : Shop Unit := do
  let text ← variableValue evaluateText plentyDeep "MAKEFLAGS"
  let shop ← Shop.look
  let lists := shop.settings
  heedItems true (itemsOfText text)
  Shop.alter fun shop => { shop with settings := { shop.settings with
    evaluated := lists.evaluated, includes := lists.includes } }

-- Shows in which directory the work is done where that is not clear.
def heedDirectory : Shop Unit :=
  Shop.alter fun shop =>
    let settings := shop.settings
    let isUnclear := !settings.isSilent && (!settings.directories.isEmpty || shop.level != 0)
    { shop with settings := { settings with
        showsDirectory := settings.showsDirectory || isUnclear } }

def versionLines : List String :=
  ["GNU Make 4.3", "Built for x86_64-pc-linux-gnu"]

-- Reads makefiles and makes the goals. Makefiles that were made anew are read again.
def work (arguments : List String) : Nat → Nat → Shop Unit
  | 0, _ => pure ()
  | fuel + 1, restarts => do
      let shop ← Shop.look
      let environment := shop.around.environment
      let name := shop.around.name
      let command := if name.toList.contains '/' && !name.startsWith "/" then
          directoryText shop.around.directory ++ "/" ++ name
        else name
      let home := shop.around.directory
      Shop.alter addEnvironment
      let items := itemsOf 0 arguments
      let told := itemsOfText ((environment.lookup "MAKEFLAGS").getD "").toList
      let wrong := (items.filterMap fun item => match item with
        | .wrong message => some message
        | .flag letter value => Settings.fault? letter value
        | .operand _ => none)
      if !wrong.isEmpty then
        Work.forAll wrong fun message => Shop.warn none message
        Shop.finish 2
      if items.any (fun item => item == .flag 'v' none) then
        Work.forAll versionLines fun line => Shop.write .output (line ++ "\n")
        Shop.finish 0
      Shop.alter fun shop => addStart shop command restarts
      heedItems true told
      heedItems false items
      let shop ← Shop.look
      enterDirectories shop.settings.directories
      heedDirectory
      Shop.alter fun shop =>
        let place : Variable := .plain (directoryText shop.around.directory).toList .makefile
        let placed := shop.put none "CURDIR" place
        placed.addKnownVariables.addKnownCommands
      noteGoals
      defineFlags
      readMakefiles
      heedAddedFlags
      heedDirectory
      defineFlags
      settle
      let (remaking, failed) ← remakeMakefiles
      if remaking = .anew then
        Shop.removeIntermediates
        Shop.alter fun shop =>
          let around := { shop.around with directory := home }
          { freshWorkshop around with isEntered := shop.isEntered }
        work arguments fuel (restarts + 1)
      else
        let goals ← goalsToMake
        startRound
        let verdict ← updateGoals .nothing (goals.map fun goal => (goal, false))
        match verdict with
        | .question => Shop.finish 1
        | .failure => Shop.finish 2
        | _ => Shop.finish (if failed then 2 else 0)

def mostRestarts : Nat := 1000

-- Runs commands to bring files up to date as makefiles say.
def make (around : Surroundings) (arguments : List String) : Plan :=
  Work.run (work arguments mostRestarts 0) (freshWorkshop around)
    fun shop => .finish { shop.around.outcome 0 [] with files := shop.around.files }

end MakeCheck.Make
