import MakeCheck.Make.Branch
import MakeCheck.Make.Rule

namespace MakeCheck.Make

open Text Program

-- A text that is read as a makefile. Without a file it belongs to the line that is being read.
structure Source where
  file : Option String
  text : List Char

-- A value that goes over several lines, up to the word that ends it.
structure OpenDefinition where
  place : Option Place
  name : String
  joining : Joining
  modifiers : Modifiers
  depth : Nat
  -- The latest line first.
  lines : List (List Char)

-- How far the reading of a makefile has come.
structure Reading where
  rule : Option OpenRule
  -- Whether the commands of a rule without targets follow.
  skipsCommands : Bool
  -- The innermost first.
  branches : List Branch
  -- Whether a definition is open in lines that are skipped.
  skipsDefinition : Bool
  definition : Option OpenDefinition

def Reading.start : Reading :=
  ⟨none, false, [], false, none⟩

-- The lines of a text, each with the number of breaks in it. One that ends in an odd number of
-- backslashes goes on.
def joinedLines : List (List Char) → List (Nat × List Char)
  | [] => []
  | [line] => [(1, line)]
  | line :: rest =>
      let slashes := (line.reverse.takeWhile (· == '\\')).length
      match joinedLines rest with
      | (count, more) :: others =>
          if slashes % 2 = 1 then (count + 1, line ++ '\n' :: more) :: others
          else (1, line) :: (count, more) :: others
      | [] => [(1, line)]

def withoutReturn (line : List Char) : List Char :=
  if line.getLast? = some '\r' then line.dropLast else line

-- The lines of a file, without the mark of its encoding.
def linesOfFile (text : List Char) : List (Nat × List Char) :=
  let text := if text.head? = some '\ufeff' then text.tail else text
  let pieces := text.splitOn '\n'
  let whole := pieces.dropLast.map withoutReturn
  let last := pieces.getLast?.getD []
  joinedLines (if last.isEmpty then whole else whole ++ [last])

def linesOfText (text : List Char) : List (Nat × List Char) :=
  (joinedLines (text.splitOn '\n')).map fun (_, line) => (0, line)

def withoutComment (line : List Char) : List Char :=
  (splitOutside (· == '#') none [] line).1

def currentLine : Shop Nat := do
  let shop ← Shop.look
  return (shop.place.map (·.line)).getD 1

def currentPlace : Shop Place := do
  let shop ← Shop.look
  return shop.place.getD ⟨"", 1⟩

namespace Reading

def record (reading : Reading) : Shop Reading := do
  match reading.rule with
  | some rule => recordRule rule
  | none => pure ()
  return { reading with rule := none, skipsCommands := false }

def continueDefinition (evaluate : List Char → Shop Unit) (reading : Reading)
    (definition : OpenDefinition) (line : List Char) : Shop Reading := do
  let shop ← Shop.look
  let line := joinLines [] line
  let more (depth : Nat) : Reading :=
    { reading with definition := some { definition with
        depth, lines := line :: definition.lines } }
  if line.head? = some shop.recipeMark then return more definition.depth
  else
    let (word, rest) := firstWord (dropSpace line)
    match String.ofList word with
    | "define" => return more (definition.depth + 1)
    | "endef" =>
        if !(dropSpace (withoutComment rest)).isEmpty then extraneous "endef"
        match definition.depth with
        | 0 =>
            let value := ['\n'].intercalate definition.lines.reverse
            assign evaluate none definition.place definition.modifiers.origin definition.name
              definition.joining value
            mark none definition.name definition.modifiers
            return { reading with definition := none }
        | depth + 1 => return more depth
    | _ => return more definition.depth

def openDefinition (evaluate : List Char → Shop Unit) (reading : Reading)
    (declaration : Declaration) : Shop Reading := do
  let shop ← Shop.look
  let assignment := assignmentOf? declaration.text
  let (text, joining) := match assignment with
    | some assignment => (assignment.name, assignment.joining)
    | none => (declaration.text, .recursive)
  match assignment with
  | some assignment => if !assignment.value.isEmpty then extraneous "define"
  | none => pure ()
  let name ← definedName evaluate shop.place text
  let definition : OpenDefinition :=
    ⟨shop.place, name, joining, declaration.modifiers, 0, []⟩
  return { reading with definition := some definition }

def declare (evaluate : List Char → Shop Unit) (reading : Reading) (declaration : Declaration) :
    Shop Reading := do
  let shop ← Shop.look
  match declaration.kind with
  | .define => reading.openDefinition evaluate declaration
  | .undefine =>
      let name ← definedName evaluate shop.place declaration.text
      Shop.alter fun shop => shop.remove name declaration.modifiers.origin
      return reading
  | .assign =>
      carryOut evaluate none shop.place declaration.modifiers declaration.text
      return reading

end Reading

def exportNames (evaluate : List Char → Shop Unit) (isExported : Bool) (text : List Char) :
    Shop Unit := do
  if text.isEmpty then
    Shop.alter fun shop => { shop with exportsAll := isExported }
  else
    let names ← expanded evaluate text
    Shop.alter fun shop => (wordsOf names).foldl
      (fun shop name =>
        let name := String.ofList name
        let content := (shop.scope.lookup name).getD { Variable.plain [] .makefile with
          place := shop.place }
        { shop with scope :=
            shop.scope.put name { content with isExported := some isExported } })
      shop

-- Adds directories where names of a shape are looked for, or forgets those that were given.
def addSearchPath (evaluate : List Char → Shop Unit) (text : List Char) : Shop Unit := do
  let words ← expanded evaluate text
  Shop.alter fun shop =>
    match wordsOf words with
    | [] => { shop with searchPaths := [] }
    | [shape] => { shop with searchPaths := shop.searchPaths.filter (·.1 != shape) }
    | shape :: directories =>
        let pieces := (directories.flatMap fun directory => directory.splitOn ':').filter (· != [])
        { shop with searchPaths := shop.searchPaths ++ [(shape, pieces.map String.ofList)] }

-- The directories where a file is looked for that is not here.
def includeDirectories (shop : Workshop) : List String :=
  shop.settings.includes ++ ["/usr/local/include", "/usr/include"]

-- Reads a file as a makefile, or remembers that it could not be read.
def readFile (read : Source → Shop Unit) (name : String) (isIncluded isOptional : Bool) :
    Shop Unit := do
  let shop ← Shop.look
  let attempt (name : String) : Except Fault (List UInt8) :=
    if name = "-" ∧ !isIncluded then shop.around.input
    else shop.around.files.sample shop.around.directory ⟨name⟩
  let others := if isIncluded && !name.startsWith "/" then
      (includeDirectories shop).map (· ++ "/" ++ name) else []
  let found := others.find? fun other => (attempt other).toOption.isSome
  let (name, content) := match attempt name with
    | .error .notFound => (found.getD name, attempt (found.getD name))
    | content => (name, content)
  match content with
  | .ok bytes =>
      Shop.alter fun shop => { shop.enter name with read := (name, isOptional) :: shop.read }
      if name = "-" ∧ !isIncluded then
        Work.consume
        Shop.alter fun shop => shop.change name 0 fun target =>
          { target with isUpdated := true, verdict := .success, stage := .finished }
      assign (fun _ => pure ()) none none .makefile "MAKEFILE_LIST" .appendText name.toList
      read ⟨some name, (Utf8.decodeLossy bytes).toList⟩
  | .error .isADirectory => Shop.fail none (name ++ ": " ++ Fault.isADirectory.reason)
  | .error fault =>
      if !isIncluded then Shop.warn none (name ++ ": " ++ fault.reason)
      Shop.alter fun shop =>
        let entered := (shop.enter name).changeAll name fun target =>
          { target with age := some Age.missing }
        { entered with
          read := (name, isOptional) :: shop.read
          unread := if isIncluded && !isOptional then (name, shop.place, fault) :: shop.unread
            else shop.unread }

def readFiles (read : Source → Shop Unit) (isOptional : Bool) : List String → Shop Unit
  | [] => pure ()
  | name :: rest => do
      readFile read name true isOptional
      readFiles read isOptional rest

def includeFiles (evaluate : List Char → Shop Unit) (read : Source → Shop Unit)
    (isOptional : Bool) (text : List Char) : Shop Unit := do
  let names ← expanded evaluate text
  let shop ← Shop.look
  readFiles read isOptional (namesIn shop names)

-- What a word of a rule line is.
inductive RuleWord where
  | ending
  | colon
  | plain
deriving DecidableEq

-- The length of a word of a rule line, which ends at a blank or a sign outside of references.
def ruleWordSize : Option OpenBracket → Nat → List Char → Nat
  | _, size, [] => size
  | some bracket, size, c :: rest => ruleWordSize (bracket.step c) (size + 1) rest
  | none, size, ['$'] => size + 1
  | none, size, '$' :: c :: rest => ruleWordSize (OpenBracket.ofChar? c) (size + 2) rest
  | none, size, '\\' :: c :: rest =>
      if [':', ';', '=', '\\'].contains c then ruleWordSize none (size + 2) rest
      else ruleWordSize none (size + 1) (c :: rest)
  | none, size, '?' :: '=' :: _ => size
  | none, size, '+' :: '=' :: _ => size
  | none, size, '&' :: ':' :: _ => size
  | none, size, c :: rest =>
      if isSpace c || c == '=' || c == ':' then size else ruleWordSize none (size + 1) rest

def nextRuleWord (s : List Char) : RuleWord × List Char × List Char :=
  let s := s.dropWhile isBlank
  let cut (kind : RuleWord) (size : Nat) : RuleWord × List Char × List Char :=
    (kind, s.take size, s.drop size)
  match s with
  | [] => cut .ending 0
  | ';' :: _ | '=' :: _ => cut .plain 1
  | ':' :: '=' :: _ => cut .plain 2
  | ':' :: ':' :: _ => cut .colon 2
  | ':' :: _ => cut .colon 1
  | '&' :: ':' :: ':' :: _ => cut .colon 3
  | '&' :: ':' :: _ => cut .colon 2
  | '+' :: '=' :: _ | '?' :: '=' :: _ | '!' :: '=' :: _ => cut .plain 2
  | _ => cut .plain (max 1 (ruleWordSize none 0 s))

-- What is known of a rule line when its first colon has been found, or none is there.
structure RuleFront where
  targets : List Char
  isGrouped : Bool
  -- What follows the colon, as far as it is expanded, and what is not.
  after : List Char
  rest : List Char
  commands : Option (List Char)

-- Expands a rule line word by word up to its first colon.
def ruleFront (evaluate : List Char → Shop Unit) : Nat → List Char → List Char → List Char →
    Option (List Char) → Shop (List Char × Option RuleFront)
  | 0, before, _, _, _ => pure (before, none)
  | fuel + 1, before, word, rest, commands => do
      let word ← expanded evaluate word
      let (word, found) := if commands.isSome then (word, none)
        else splitUnquoted (· == ';') [] word
      let (rest, commands) ← match found with
        | none => pure (rest, commands)
        | some (_, after) => do
            let more ← expanded evaluate rest
            pure ([], some (after ++ more))
      match splitUnquoted (· == ':') [] word with
      | (front, some (_, after)) =>
          let isGrouped := front.getLast? = some '&'
          let front := if isGrouped then front.dropLast else front
          return (before, some ⟨before ++ front, isGrouped, after, rest, commands⟩)
      | (word, none) =>
          match nextRuleWord rest with
          | (.ending, _, _) => return (before ++ word, none)
          | (_, next, rest) => ruleFront evaluate fuel (before ++ word ++ [' ']) next rest commands

def defineFor (evaluate : List Char → Shop Unit) (declaration : Declaration) :
    List String → Shop Unit
  | [] => pure ()
  | name :: rest => do
      let shop ← Shop.look
      match assignmentOf? declaration.text with
      | none =>
          Shop.fail shop.place "Malformed target-specific variable definition"
      | some assignment =>
          let modifiers := declaration.modifiers
          let key ← definedName evaluate shop.place assignment.name
          let isFirst (origin : Origin) : Bool :=
            origin == .commandLine || origin == .environmentFirst
          let above := if modifiers.isOverride then none
            else (shop.scope.lookup key).filter fun found => isFirst found.origin
          if (Shape.ofText name.toList).isOpen then
            let value ← if assignment.joining = .simple then expanded evaluate assignment.value
              else pure assignment.value
            let content : Variable :=
              { value
                isRecursive := assignment.joining != .simple
                origin := modifiers.origin
                isExported := if modifiers.isExported then some true else none
                place := shop.place
                appends := false
                isPrivate := modifiers.isPrivate }
            let content := match above with
              | some found => { content with
                  value := found.value, origin := found.origin, isRecursive := found.isRecursive }
              | none => content
            let joining := if above.isSome then .recursive else assignment.joining
            Shop.alter fun shop => { shop with patternVariables :=
              shop.patternVariables ++ [⟨name.toList, key, content, joining⟩] }
          else
            Shop.alter fun shop => shop.enter name
            let inner ← Shop.look
            Shop.alter fun shop => { shop with scopes := [inner.scopeOf (some name)] }
            assign evaluate (some name) shop.place modifiers.origin key assignment.joining
              assignment.value
            mark (some name) key modifiers
            Shop.alter fun after => { after with scopes := shop.scopes }
            match above with
            | some found =>
                Shop.alter fun shop =>
                  let scope := shop.scopeOf (some name)
                  shop.withScope (some name) (scope.map fun entry =>
                    if entry.1 = key then
                      (key, { entry.2 with
                        value := found.value, origin := found.origin,
                        isRecursive := found.isRecursive, appends := false })
                    else entry)
            | none => pure ()
          defineFor evaluate declaration rest

-- Whether a name may be what is made where nothing is asked for.
def isGoalName (shop : Workshop) (name : String) : Bool :=
  let suffixes := ((shop.target? ".SUFFIXES").map (·.needs.map (·.name))).getD []
  let isRule := suffixes.any fun first =>
    (!first.startsWith "." && name == first) ||
      suffixes.any fun second => name == second ++ first
  !(name.startsWith "." && !name.toList.contains '/') && !isRule

def chooseGoal (names : List String) : Shop Unit :=
  Shop.alter fun shop =>
    let isOpen := ((shop.scope.lookup ".DEFAULT_GOAL").map (·.value)).getD [] == []
    if !shop.setsGoal || !isOpen then shop
    else
      let candidates := names.takeWhile fun name => !name.toList.contains '%'
      match candidates.find? (isGoalName shop) with
      | some name =>
          shop.put none ".DEFAULT_GOAL" (.plain name.toList .makefile)
      | none => shop

-- Reads the part of a rule line behind its first colon.
def readRuleRest (evaluate : List Char → Shop Unit) (reading : Reading) (names : List String)
    (front : RuleFront) (isDouble : Bool) (after : List Char) : Shop Reading := do
  let place ← currentPlace
  -- An equals sign that is hidden in the needs comes out.
  let rest := front.rest
  let more ← if rest.isEmpty then pure [] else expanded evaluate (unhide '=' rest)
  let text := after ++ more
  let (text, commands) := if front.commands.isSome || rest.isEmpty then (text, front.commands)
    else match splitUnquoted (· == ';') [] text with
      | (text, none) => (text, none)
      | (text, some (_, commands)) => (text, some commands)
  let (pattern, needs) ← match splitUnquoted (· == ':') [] text with
    | (_, none) => pure (none, text)
    | (shape, some (_, needs)) => do
        match (rawNames (shape.length + 1) shape).map bareName with
        | [] => Shop.fail place "missing target pattern"
        | [shape] =>
            if !(Shape.ofText shape).isOpen then
              Shop.fail place "target pattern contains no '%'"
            else pure (some shape, needs)
        | _ => Shop.fail place "multiple target patterns"
  chooseGoal names
  let rule : OpenRule :=
    { names
      place
      isDouble
      isGrouped := front.isGrouped
      pattern
      needs := trim needs
      firstLine := place.line
      commands := [] }
  let rule := match commands with
    | some commands => rule.addCommand place.line commands
    | none => rule
  return { reading with rule := some rule, skipsCommands := false }

def readRule (evaluate : List Char → Shop Unit) (reading : Reading) (line : List Char) :
    Shop Reading := do
  let reading ← reading.record
  let place ← currentPlace
  let isMark (c : Char) : Bool := c == ';' || c == '#'
  let (text, found) := splitOutside isMark none [] line
  let commands := match found with
    | some (';', commands) => some commands
    | _ => none
  let text := joinLines [] text
  match nextRuleWord text with
  | (.ending, _, _) =>
      if commands.isSome then Shop.fail place "missing rule before recipe" else return reading
  | (.colon, _, _) => return { reading with skipsCommands := true }
  | (.plain, word, rest) =>
      let shop ← Shop.look
      let (seen, front) ← ruleFront evaluate (text.length + 1) [] word rest commands
      match front with
      | none =>
          if (dropSpace seen).isEmpty then return reading
          else if shop.recipeMark = '\t' ∧ (line.take 8).length = 8 ∧
              (line.take 8).all (· == ' ') then
            Shop.fail place "missing separator (did you mean TAB instead of 8 spaces?)"
          else Shop.fail place "missing separator"
      | some front =>
          let shop ← Shop.look
          match namesIn shop front.targets with
          | [] => return { reading with skipsCommands := true }
          | names =>
              let isDouble := front.after.head? = some ':'
              let after := if isDouble then front.after.tail else front.after
              let whole := after ++ front.rest
              match declarationOf? whole with
              | some declaration =>
                  let text := match found with
                    | some (';', commands) =>
                        declaration.text ++ joinLines [] (';' :: commands)
                    | _ => declaration.text
                  defineFor evaluate { declaration with text } names
                  return reading
              | none => readRuleRest evaluate reading names front isDouble after

def readPlainLine (evaluate : List Char → Shop Unit) (read : Source → Shop Unit)
    (reading : Reading) (line : List Char) : Shop Reading := do
  let shop ← Shop.look
  let text := dropSpace (withoutComment (joinLines [] line))
  let skips := skipsLines reading.branches
  match declarationOf? text with
  | some declaration =>
      if skips then
        return { reading with
          skipsDefinition := reading.skipsDefinition || declaration.kind == .define }
      else
        let reading ← reading.record
        reading.declare evaluate declaration
  | none =>
      let (word, rest) := firstWord text
      let word := String.ofList word
      if text.isEmpty then return reading
      else if reading.skipsDefinition then
        return { reading with skipsDefinition := !(word == "endef" && rest.isEmpty) }
      else
        let change ← branchLine evaluate reading.branches word rest
        match change with
        | .malformed => Shop.fail shop.place "invalid syntax in conditional"
        | .changed branches => return { reading with branches }
        | .unrelated =>
            if skips then return reading
            else
              match word with
              | "export" | "unexport" =>
                  let reading ← reading.record
                  exportNames evaluate (word == "export") rest
                  return reading
              | "vpath" =>
                  let reading ← reading.record
                  addSearchPath evaluate rest
                  return reading
              | "include" | "-include" | "sinclude" =>
                  let reading ← reading.record
                  includeFiles evaluate read (word != "include") rest
                  return reading
              | _ =>
                  if line.head? = some shop.recipeMark then
                    Shop.fail shop.place "recipe commences before first target"
                  else readRule evaluate reading line

-- Reads a line. One that begins with the mark of commands belongs to a rule before it.
def readLine (evaluate : List Char → Shop Unit) (read : Source → Shop Unit)
    (reading : Reading) (line : List Char) : Shop Reading := do
  let shop ← Shop.look
  match reading.definition with
  | some definition => reading.continueDefinition evaluate definition line
  | none =>
      if line.isEmpty then return reading
      else if line.head? = some shop.recipeMark && reading.skipsCommands then return reading
      else
        match if line.head? = some shop.recipeMark then reading.rule else none with
        | some rule =>
            if skipsLines reading.branches then return reading
            else
              let number ← currentLine
              return { reading with rule := some (rule.addCommand number line.tail) }
        | none => readPlainLine evaluate read reading line

-- Reads lines, each of which goes with the number of breaks in it.
def readLines (evaluate : List Char → Shop Unit) (read : Source → Shop Unit) :
    Reading → List (Nat × List Char) → Shop Reading
  | reading, [] => pure reading
  | reading, (count, line) :: rest => do
      let reading ← readLine evaluate read reading line
      Shop.alter fun shop => { shop with
        place := shop.place.map fun place => { place with line := place.line + count } }
      readLines evaluate read reading rest

def endReading (reading : Reading) : Shop Unit := do
  match reading.definition with
  | some definition =>
      Shop.fail definition.place "missing 'endef', unterminated 'define'"
  | none =>
      let shop ← Shop.look
      if !reading.branches.isEmpty then Shop.fail shop.place "missing 'endif'"
      let _ ← reading.record
      pure ()

-- Reads a text as a makefile, and texts in it so deep at most.
def readSource : Nat → Source → Shop Unit
  | 0, _ => pure ()
  | depth + 1, source => do
      let shop ← Shop.look
      let (place, lines) := match source.file with
        | some name => (some ⟨name, 1⟩, linesOfFile source.text)
        | none => (shop.place.or (some ⟨"", 1⟩), linesOfText source.text)
      Shop.alter fun shop => { shop with place }
      let evaluate (text : List Char) : Shop Unit := readSource depth ⟨none, text⟩
      let reading ← readLines evaluate (readSource depth) .start lines
      endReading reading
      Shop.alter fun after => { after with place := shop.place }

def deepestReading : Nat := 200

def evaluateText (text : List Char) : Shop Unit :=
  readSource deepestReading ⟨none, text⟩

end MakeCheck.Make
