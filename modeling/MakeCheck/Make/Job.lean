import MakeCheck.Make.Search

namespace MakeCheck.Make

open Text Program

-- What signs before a command say of it.
structure Manner where
  isSilent : Bool
  ignoresErrors : Bool
  -- It runs even if commands are only shown.
  isForced : Bool

-- Reads the signs at the front of a command, and gives what follows them.
def mannerOf (manner : Manner) : List Char → Manner × List Char
  | [] => (manner, [])
  | c :: rest =>
      if c = '@' then mannerOf { manner with isSilent := true } rest
      else if c = '-' then mannerOf { manner with ignoresErrors := true } rest
      else if c = '+' then mannerOf { manner with isForced := true } rest
      else if isBlank c then mannerOf manner rest
      else (manner, c :: rest)

def containsText (text part : List Char) : Bool :=
  (List.range (text.length + 1)).any fun i => part.isPrefixOf (text.drop i)

-- What the text of a command says of it before it is expanded. One that starts this program anew is
-- forced.
def lineManner (line : List Char) : Manner :=
  let (manner, _) := mannerOf ⟨false, false, false⟩ line
  let startsAnew := containsText line "$(MAKE)".toList ||
    containsText line "$\x7bMAKE\x7d".toList
  { manner with isForced := manner.isForced || startsAnew }

-- The lines of commands. A backslash before a break keeps a line going.
def commandLines : Nat → List Char → List (List Char)
  | 0, _ => []
  | fuel + 1, text =>
      if text.isEmpty then []
      else
        match splitCommand text with
        | (line, none) => [line]
        | (line, some rest) => line :: commandLines fuel rest

-- The lines of a recipe, which are one where a single shell runs all of it.
def Recipe.lines (recipe : Recipe) (isOneShell : Bool) : List (List Char) :=
  if isOneShell then
    [if recipe.text.getLast? = some '\n' then recipe.text.dropLast else recipe.text]
  else commandLines (recipe.text.length + 1) recipe.text

-- A line in which breaks behind a backslash inside of references are blanks.
def joinedReferences : Option OpenBracket → List Char → List Char → List Char
  | _, before, [] => before.reverse
  | some bracket, before, '\\' :: '\n' :: rest =>
      if before.head? = some '\\' then
        joinedReferences (some bracket) ('\n' :: '\\' :: before) rest
      else skipBlanks bracket (' ' :: before.dropWhile isBlank) rest
  | some bracket, before, c :: rest => joinedReferences (bracket.step c) (c :: before) rest
  | none, before, '$' :: c :: rest =>
      joinedReferences (OpenBracket.ofChar? c) (c :: '$' :: before) rest
  | none, before, c :: rest => joinedReferences none (c :: before) rest
where
  skipBlanks (bracket : OpenBracket) : List Char → List Char → List Char
    | before, [] => before.reverse
    | before, c :: rest =>
        if isSpace c then skipBlanks bracket before rest
        else joinedReferences (bracket.step c) (c :: before) rest

-- A command without the mark of commands behind its breaks.
def withoutMarks (mark : Char) : List Char → List Char
  | '\n' :: c :: rest =>
      if c = mark then '\n' :: withoutMarks mark rest else '\n' :: withoutMarks mark (c :: rest)
  | c :: rest => c :: withoutMarks mark rest
  | [] => []

-- The lines of a text for a single shell, each without the signs at its front.
def withoutSigns : Bool → Bool → List Char → List Char
  | _, _, [] => []
  | true, _, c :: rest =>
      if isBlank c || c == '-' || c == '@' || c == '+' then withoutSigns true false rest
      else c :: withoutSigns (c == '\n') (c == '\\') rest
  | false, isHidden, c :: rest =>
      if c = '\n' then c :: withoutSigns (!isHidden) false rest
      else c :: withoutSigns false (c == '\\' && !isHidden) rest

-- Whether a shell is one of those that read commands alike.
def isCommonShell (name : String) : Bool :=
  ["sh", "bash", "dash", "ksh", "rksh", "zsh", "ash"].contains
    (String.ofList (filePart name.toList))

-- What a job needs to know of its target.
structure Job where
  name : String
  number : Nat
  recipe : Recipe
  choice : ShellChoice
  environment : List (String × String)
  isSilent : Bool
  ignoresErrors : Bool
  isOptional : Bool

def Recipe.placeOf (recipe : Recipe) (index : Nat) : Option Place :=
  recipe.place.map fun place => { place with line := place.line + index }

def placeName (place : Option Place) : String :=
  (place.map Place.shown).getD "<builtin>"

-- Tells once that the makefile which is made just now could not be read.
def tellUnread : Shop Unit := do
  let shop ← Shop.look
  match if shop.isRemaking then shop.unread.lookup shop.goal else none with
  | some (place, fault) =>
      Shop.alter fun shop => { shop with unread := shop.unread.filter (·.1 != shop.goal) }
      Shop.warn place (shop.goal ++ ": " ++ fault.reason)
  | none => pure ()

def tellFailure (job : Job) (index : Nat) (status : Status) (isIgnored : Bool) : Shop Unit := do
  let shop ← Shop.look
  if isIgnored && shop.settings.isSilent then return ()
  else
    let what := match status with
      | .exited code => "Error " ++ toString code
      | .signalled signal => Status.signalText signal
    tellUnread
    Shop.warn none ((if isIgnored then "" else "*** ") ++ "[" ++
      placeName (job.recipe.placeOf index) ++ ": " ++ job.name ++ "] " ++ what ++
      (if isIgnored then " (ignored)" else ""))

-- Takes over the files and the time that a command leaves behind.
def takeOver (reply : Reply) : Shop Unit :=
  Shop.alter fun shop => { shop with
    around := { shop.around with files := reply.files, now := reply.now } }

-- What a job has come to so far.
inductive Progress where
  | going
  -- There is something to do, which is all that was asked.
  | wanted
  | failed (status : Status)

-- Starts the words of a command, and tells how it ended.
def startCommand (job : Job) (words : List String) : Shop Status := do
  Shop.announce
  let reply ← Work.start { Errand.plain words with environment := some job.environment }
  takeOver reply
  match reply.result with
  | .ok status => return status
  | .error fault =>
      Shop.warn none (words.headD "" ++ ": " ++ fault.reason)
      return .exited 127

def runTexts (job : Job) (index : Nat) (manner : Manner) : Nat → List Char → Shop Progress
  | 0, _ => pure .going
  | fuel + 1, text => do
      if text.isEmpty then return .going
      else
        let shop ← Shop.look
        let settings := shop.settings
        let (own, body) := mannerOf manner text
        let body := withoutMarks shop.recipeMark body
        let (command, rest) := if shop.isOneShell then (body, none) else splitCommand body
        let next := runTexts job index { manner with isForced := own.isForced } fuel
          (rest.getD [])
        let line := if shop.isOneShell && isCommonShell job.choice.name then
            withoutSigns true false command else command
        match commandWords job.choice line with
        | [] => next
        | words =>
            if settings.questions && !own.isForced then return .wanted
            else if settings.touches && !own.isForced then next
            else
              let isQuiet := own.isSilent || job.isSilent || settings.isSilent
              if settings.showsOnly || settings.traces || !isQuiet then
                Shop.write .output (String.ofList command ++ "\n")
              Shop.alter fun shop => { shop with commandsStarted := shop.commandsStarted + 1 }
              let isIdle := words.tail == ["-c", ":"] && isCommonShell (words.headD "")
              if isIdle || (settings.showsOnly && !own.isForced) then next
              else
                let status ← startCommand job words
                if status == .exited 0 then next
                else if own.ignoresErrors || job.ignoresErrors || settings.ignoresErrors then
                  tellFailure job index status true
                  next
                else
                  let isAnswer := settings.questions && own.isForced && status == .exited 1
                  if !job.isOptional && !isAnswer then tellFailure job index status false
                  if isAnswer then return .wanted else return .failed status

def runLines (job : Job) : Nat → List (List Char × List Char) → Shop Progress
  | _, [] => pure .going
  | index, (source, text) :: rest => do
      let progress ← runTexts job index (lineManner source) (text.length + 1) text
      match progress with
      | .going => runLines job (index + 1) rest
      | other => return other

def expandLines (recipe : Recipe) : Nat → List (List Char) → Shop (List (List Char))
  | _, [] => pure []
  | index, line :: rest => do
      Shop.alter fun shop => { shop with place := recipe.placeOf index }
      let text ← expanded evaluateText (joinedReferences none [] line)
      let others ← expandLines recipe (index + 1) rest
      return text :: others

def isListed (shop : Workshop) (special name : String) : Bool :=
  (shop.entries special).any fun target => target.needs.any fun need => need.name == name

def traceWork (recipe : Recipe) (target : String) : Shop Unit := do
  let shop ← Shop.look
  if shop.settings.traces then
    let newer ← variableValue evaluateText plentyDeep "?"
    let place := placeName recipe.place
    if newer.isEmpty then
      Shop.write .output (place ++ ": target '" ++ target ++ "' does not exist\n")
    else
      Shop.write .output (place ++ ": update target '" ++ target ++ "' due to: " ++
        String.ofList newer ++ "\n")

def runRecipe (target : Target) (recipe : Recipe) : Shop Progress := do
  let shop ← Shop.look
  let lines := recipe.lines shop.isOneShell
  inSight target.name target.number recipe.place do
    let texts ← expandLines recipe 0 lines
    Shop.alter fun shop => { shop with place := recipe.place }
    traceWork recipe target.shown
    let name ← variableValue evaluateText plentyDeep "SHELL"
    let flags ← variableValue evaluateText plentyDeep ".SHELLFLAGS"
    let environment ← environmentForCommands
    let job : Job :=
      { name := target.shown
        number := target.number
        recipe
        choice := ⟨String.ofList (trim name), (wordsOf flags).map String.ofList, shop.isOneShell⟩
        environment
        isSilent := isListed shop ".SILENT" target.name
        ignoresErrors := isListed shop ".IGNORE" target.name
        isOptional := target.isOptional }
    runLines job 0 (lines.zip texts)

end MakeCheck.Make
