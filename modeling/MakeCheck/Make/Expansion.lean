import MakeCheck.Make.Command
import MakeCheck.Shell.Glob

namespace MakeCheck.Make

open Text Program

-- A function that can be called in a text: how many arguments it needs and takes at most, where
-- nought stands for any number, and whether they are expanded before.
structure FunctionKind where
  name : String
  least : Nat
  most : Nat
  expands : Bool

def functionKinds : List FunctionKind :=
  [⟨"abspath", 0, 1, true⟩, ⟨"addprefix", 2, 2, true⟩, ⟨"addsuffix", 2, 2, true⟩,
    ⟨"basename", 0, 1, true⟩, ⟨"dir", 0, 1, true⟩, ⟨"notdir", 0, 1, true⟩,
    ⟨"subst", 3, 3, true⟩, ⟨"suffix", 0, 1, true⟩, ⟨"filter", 2, 2, true⟩,
    ⟨"filter-out", 2, 2, true⟩, ⟨"findstring", 2, 2, true⟩, ⟨"firstword", 0, 1, true⟩,
    ⟨"flavor", 0, 1, true⟩, ⟨"join", 2, 2, true⟩, ⟨"lastword", 0, 1, true⟩,
    ⟨"patsubst", 3, 3, true⟩, ⟨"realpath", 0, 1, true⟩, ⟨"shell", 0, 1, true⟩,
    ⟨"sort", 0, 1, true⟩, ⟨"strip", 0, 1, true⟩, ⟨"wildcard", 0, 1, true⟩, ⟨"word", 2, 2, true⟩,
    ⟨"wordlist", 3, 3, true⟩, ⟨"words", 0, 1, true⟩, ⟨"origin", 0, 1, true⟩,
    ⟨"foreach", 3, 3, false⟩, ⟨"call", 1, 0, true⟩, ⟨"info", 0, 1, true⟩, ⟨"error", 0, 1, true⟩,
    ⟨"warning", 0, 1, true⟩, ⟨"if", 2, 3, false⟩, ⟨"or", 1, 0, false⟩, ⟨"and", 1, 0, false⟩,
    ⟨"value", 0, 1, true⟩, ⟨"eval", 0, 1, true⟩, ⟨"file", 1, 2, true⟩]

def isFunctionChar (c : Char) : Bool :=
  c.isAlphanum || c == '-' || c == '_'

-- The function whose name a text begins with, and what follows the blanks behind the name.
def functionAt? (s : List Char) : Option (FunctionKind × List Char) :=
  let name := s.takeWhile isFunctionChar
  let rest := s.drop name.length
  if rest.head?.all isSpace then
    (functionKinds.find? fun kind => kind.name == String.ofList name).map fun kind =>
      (kind, dropSpace rest)
  else none

-- The text up to a closing bracket and what follows it, where brackets of the same kind come in
-- pairs in between.
def closing? (opening closer : Char) : Nat → List Char → List Char → Option (List Char × List Char)
  | _, _, [] => none
  | depth, before, c :: rest =>
      if c = opening then closing? opening closer (depth + 1) (c :: before) rest
      else if c = closer then
        match depth with
        | 0 => some (before.reverse, rest)
        | depth + 1 => closing? opening closer depth (c :: before) rest
      else closing? opening closer depth (c :: before) rest

-- Cuts arguments apart at commas that stand in no brackets, into so many at most.
def splitArguments (opening closer : Char) (most : Nat) :
    Nat → Nat → List Char → List Char → List (List Char)
  | _, _, before, [] => [before.reverse]
  | count, depth, before, c :: rest =>
      if c = ',' ∧ depth = 0 ∧ count ≠ most then
        before.reverse :: splitArguments opening closer most (count + 1) 0 [] rest
      else
        let depth := if c = opening then depth + 1 else if c = closer then depth - 1 else depth
        splitArguments opening closer most count depth (c :: before) rest

def asLine (s : List Char) : List Char :=
  let bare := (s.reverse.dropWhile (· == '\n')).reverse
  bare.map fun c => if c = '\n' then ' ' else c

def isGlob (name : List Char) : Bool :=
  name.any fun c => c == '*' || c == '?' || c == '['

def globbed (around : Surroundings) (pattern : List Char) : List String :=
  let marked : Shell.Marked := Shell.Marked.ofText false pattern
  let found := marked.paths around.files around.directory
  found.filter fun path => around.files.hasName around.directory ⟨path⟩

def shellOutput (choice : ShellChoice) (line : List Char) : Shop (List Char) := do
  match commandWords choice line with
  | [] => return []
  | words =>
      let reply ← Work.start { Errand.plain words with captures := true }
      let status : Nat := match reply.result with
        | .ok status => codeOf status
        | .error _ => 127
      Shop.alter fun shop => { shop with
        around := { shop.around with files := reply.files, now := reply.now }
        shellStatus := status
        scope := shop.scope.put ".SHELLSTATUS"
          (.plain (toString status).toList .override) }
      match reply.result with
      | .error fault =>
          Shop.warn none (words.headD "" ++ ": " ++ fault.reason)
          return []
      | .ok _ => return asLine (Utf8.decodeLossy reply.output).toList

def functionNumber (name which : String) (text : List Char) : Shop Nat := do
  let shop ← Shop.look
  let digits := trim text
  if digits.isEmpty || !digits.all Char.isDigit then
    Shop.fail (shop.definedAt.or shop.place)
      ("non-numeric " ++ which ++ " argument to '" ++ name ++ "' function: '" ++
        String.ofList text ++ "'")
  else return decimalValue digits

-- Writes to a file as the first argument asks for, or reads it.
def fileFunction (operation : List Char) (text : Option (List Char)) : Shop (List Char) := do
  let shop ← Shop.look
  let place := shop.definedAt.or shop.place
  let around := shop.around
  let name := String.ofList (trim (operation.dropWhile fun c => c == '>' || c == '<'))
  let refuse (name : String) (fault : Fault) : Shop (List Char) :=
    Shop.fail place ("open: " ++ name ++ ": " ++ fault.reason)
  let writeOut (old : List UInt8) : Shop (List Char) := do
    let shown := match text with
      | some text => if text.getLast? = some '\n' then text else text ++ ['\n']
      | none => []
    match around.files.writeAs around.directory ⟨name⟩ (old ++ Utf8.encode (String.ofList shown))
        (Mode.without around.mask FileStore.fileMode) around.now with
    | .ok files =>
        Shop.alter fun shop => { shop with around := { shop.around with files } }
        Work.place files
        return []
    | .error fault => refuse name fault
  match operation with
  | '>' :: '>' :: _ =>
      if name = "" then Shop.fail place "file: missing filename"
      else writeOut ((around.files.sample around.directory ⟨name⟩).toOption.getD [])
  | '>' :: _ =>
      if name = "" then Shop.fail place "file: missing filename" else writeOut []
  | '<' :: _ =>
      if name = "" then Shop.fail place "file: missing filename"
      else if text.isSome then Shop.fail place "file: too many arguments"
      else
        match around.files.sample around.directory ⟨name⟩ with
        | .ok bytes =>
            let s := (Utf8.decodeLossy bytes).toList
            return if s.getLast? = some '\n' then s.dropLast else s
        | .error .notFound => return []
        | .error fault => refuse name fault
  | _ => Shop.fail place ("file: invalid file operation: " ++ String.ofList operation)

-- Functions of texts that look at nothing else. The arguments are there in the right number.
def pureFunction? (around : Surroundings) (name : String) (arguments : List (List Char)) :
    Option (List Char) :=
  let first := arguments.headD []
  let second := (arguments[1]?).getD []
  let third := (arguments[2]?).getD []
  let each (work : List Char → List (List Char)) : Option (List Char) :=
    some (ofWords ((wordsOf first).flatMap work))
  let shapes := (wordsOf first).map Shape.ofText
  let place := (directoryText around.directory).toList
  match name with
  | "subst" => some (substitute first second third)
  | "patsubst" => some (substitutePattern first second third)
  | "strip" => some (ofWords (wordsOf first))
  | "findstring" =>
      let places := List.range (second.length + 1)
      some (if places.any fun i => first.isPrefixOf (second.drop i) then first else [])
  | "filter" => some (ofWords ((wordsOf second).filter fun word => shapes.any (·.fits word)))
  | "filter-out" =>
      some (ofWords ((wordsOf second).filter fun word => !shapes.any (·.fits word)))
  | "sort" => some (ofWords (sortedTexts (wordsOf first)).eraseDups)
  | "words" => some (toString (wordsOf first).length).toList
  | "firstword" => some ((wordsOf first).headD [])
  | "lastword" => some ((wordsOf first).getLast?.getD [])
  | "dir" => each fun word => [directoryPart word]
  | "notdir" => each fun word => [filePart word]
  | "suffix" => each fun word => (endingOf word).toList
  | "basename" => each fun word => [withoutEnding word]
  | "addsuffix" => some (ofWords ((wordsOf second).map (· ++ first)))
  | "addprefix" => some (ofWords ((wordsOf second).map (first ++ ·)))
  | "join" => some (ofWords (joinPairs (wordsOf first) (wordsOf second)))
  | "wildcard" =>
      each fun word =>
        if isGlob word then (globbed around word).map String.toList
        else if around.files.has around.directory ⟨String.ofList word⟩ then [word] else []
  | "abspath" => each fun word => [absoluteName place word]
  | "realpath" =>
      each fun word =>
        match around.files.find around.directory ⟨String.ofList word⟩ with
        | .ok (location, _) => [(directoryText location).toList]
        | .error _ => []
  | _ => none

def wordList (first last : Nat) (text : List Char) : List Char :=
  ofWords (((wordsOf text).drop (first - 1)).take (last + 1 - first))

-- What a text is in which variables and functions are to be looked up. Texts that a function reads
-- as makefiles go to the first argument.
mutual

def expand (evaluate : List Char → Shop Unit) : Nat → List Char → Shop (List Char)
  | 0, s => pure s
  | fuel + 1, s => do
      let before := s.takeWhile (· != '$')
      match s.drop before.length with
      | [] => return before
      | [_] => return before ++ ['$']
      | _ :: '$' :: rest =>
          let after ← expand evaluate fuel rest
          return before ++ '$' :: after
      | _ :: c :: rest =>
          if c = '(' ∨ c = '\x7b' then
            let closer := if c = '(' then ')' else '\x7d'
            match functionAt? rest with
            | some (kind, body) =>
                let shop ← Shop.look
                match closing? c closer 0 [] body with
                | none =>
                    Shop.fail (shop.definedAt.or shop.place)
                      ("unterminated call to function '" ++ kind.name ++ "': missing '" ++
                        closer.toString ++ "'")
                | some (body, rest) =>
                    let arguments := splitArguments c closer kind.most 1 0 [] body
                    let value ← callFunction evaluate fuel kind arguments
                    let after ← expand evaluate fuel rest
                    return before ++ value ++ after
            | none =>
                let plain := rest.takeWhile (· != closer)
                if plain.length = rest.length then
                  let shop ← Shop.look
                  Shop.fail (shop.definedAt.or shop.place) "unterminated variable reference"
                else
                  match if plain.contains '$' then closing? c closer 0 [] rest else none with
                  | some (inner, rest) =>
                      let name ← expand evaluate fuel inner
                      let value ← reference evaluate fuel name
                      let after ← expand evaluate fuel rest
                      return before ++ value ++ after
                  | none =>
                      let value ← reference evaluate fuel plain
                      let after ← expand evaluate fuel (rest.drop (plain.length + 1))
                      return before ++ value ++ after
          else
            let value ← variableValue evaluate fuel (String.ofList [c])
            let after ← expand evaluate fuel rest
            return before ++ value ++ after

-- What a name in brackets stands for, where the words of the value may be given other endings.
def reference (evaluate : List Char → Shop Unit) : Nat → List Char → Shop (List Char)
  | 0, _ => pure []
  | fuel + 1, name => do
      let variable_ := name.takeWhile (· != ':')
      let pair := name.drop (variable_.length + 1)
      let pattern := pair.takeWhile (· != '=')
      if variable_.length < name.length ∧ pattern.length < pair.length then
        let replacement := pair.drop (pattern.length + 1)
        let value ← variableValue evaluate fuel (String.ofList variable_)
        let isOpen := (Shape.ofText pattern).isOpen
        return if isOpen then substitutePattern pattern replacement value
          else substitutePattern ('%' :: pattern) ('%' :: replacement) value
      else variableValue evaluate fuel (String.ofList name)

def variableValue (evaluate : List Char → Shop Unit) : Nat → String → Shop (List Char)
  | 0, _ => pure []
  | fuel + 1, name => do
      let shop ← Shop.look
      match shop.variableOf name with
      | none =>
          if shop.settings.warnsUndefined then
            Shop.warn shop.place ("warning: undefined variable '" ++ name ++ "'")
          return []
      | some found =>
          if !found.isRecursive then return found.value
          else
            let place := found.place.or shop.definedAt
            if shop.expanding.contains name then
              Shop.fail (place.or shop.place)
                ("Recursive variable '" ++ name ++ "' references itself (eventually)")
            else
              Shop.alter fun shop => { shop with
                expanding := name :: shop.expanding, definedAt := place }
              let scopes := shop.scopes ++ [shop.scope]
              let value ←
                if found.appends then joined evaluate fuel (scopes.filterMap (·.lookup name))
                else expand evaluate fuel found.value
              Shop.alter fun after => { after with
                expanding := shop.expanding, definedAt := shop.definedAt }
              return value

-- Puts values of several scopes behind one another, up to the first that stands for itself.
def joined (evaluate : List Char → Shop Unit) : Nat → List Variable → Shop (List Char)
  | 0, _ => pure []
  | _, [] => pure []
  | fuel + 1, found :: outer => do
      let before ← if found.appends then joined evaluate fuel outer else pure []
      let own ← if found.isRecursive then expand evaluate fuel found.value else pure found.value
      return if before.isEmpty then own else before ++ ' ' :: own

def expandEach (evaluate : List Char → Shop Unit) : Nat → List (List Char) →
    Shop (List (List Char))
  | 0, texts => pure texts
  | _, [] => pure []
  | fuel + 1, text :: rest => do
      let value ← expand evaluate fuel text
      let others ← expandEach evaluate fuel rest
      return value :: others

-- Calls a function with arguments that are not expanded yet.
def callFunction (evaluate : List Char → Shop Unit) : Nat → FunctionKind → List (List Char) →
    Shop (List Char)
  | 0, _, _ => pure []
  | fuel + 1, kind, arguments => do
      let values ← if kind.expands then expandEach evaluate fuel arguments else pure arguments
      applyFunction evaluate fuel kind values

-- Calls a function with arguments that are expanded where it wants them so.
def applyFunction (evaluate : List Char → Shop Unit) : Nat → FunctionKind → List (List Char) →
    Shop (List Char)
  | 0, _, _ => pure []
  | fuel + 1, kind, values => do
      let shop ← Shop.look
      let place := shop.definedAt.or shop.place
      let first := values.headD []
      let second := (values[1]?).getD []
      let third := (values[2]?).getD []
      if values.length < kind.least then
        Shop.fail place ("insufficient number of arguments (" ++ toString values.length ++
          ") to function '" ++ kind.name ++ "'")
      else
        match pureFunction? shop.around kind.name values with
        | some value => return value
        | none =>
            match kind.name with
            | "word" =>
                let index ← functionNumber "word" "first" first
                if index = 0 then
                  Shop.fail place "first argument to 'word' function must be greater than 0"
                else return (wordsOf second)[index - 1]?.getD []
            | "wordlist" =>
                let start ← functionNumber "wordlist" "first" first
                if start = 0 then
                  Shop.fail place ("invalid first argument to 'wordlist' function: '" ++
                    String.ofList first ++ "'")
                else
                  let last ← functionNumber "wordlist" "second" second
                  return wordList start last third
            | "origin" =>
                let found := shop.variableOf (String.ofList first)
                return ((found.map (·.origin.name)).getD "undefined").toList
            | "flavor" =>
                return (match shop.variableOf (String.ofList first) with
                  | none => "undefined"
                  | some found => if found.isRecursive then "recursive" else "simple").toList
            | "value" =>
                return ((shop.variableOf (String.ofList first)).map (·.value)).getD []
            | "info" =>
                Shop.write .output (String.ofList first ++ "\n")
                return []
            | "warning" =>
                Shop.warn shop.place (String.ofList first)
                return []
            | "error" => Shop.fail shop.place (String.ofList first)
            | "eval" =>
                evaluate first
                return []
            | "shell" =>
                let name ← variableValue evaluate fuel "SHELL"
                let flags ← variableValue evaluate fuel ".SHELLFLAGS"
                let shop ← Shop.look
                let flags := (wordsOf flags).map String.ofList
                shellOutput ⟨String.ofList (trim name), flags, shop.isOneShell⟩ first
            | "file" => fileFunction first values[1]?
            | "if" =>
                let condition ← expand evaluate fuel (trim first)
                if !condition.isEmpty then expand evaluate fuel second
                else expand evaluate fuel third
            | "or" => firstFull evaluate fuel values
            | "and" => lastFull evaluate fuel [] values
            | "foreach" =>
                let name ← expand evaluate fuel first
                let words ← expand evaluate fuel second
                let shop ← Shop.look
                let name := String.ofList (trim name)
                let found ← forWords evaluate fuel name third (wordsOf words)
                Shop.alter fun after => { after with scopes := shop.scopes }
                return ofWords found
            | "call" => callVariable evaluate fuel first values.tail
            | _ => return []

def firstFull (evaluate : List Char → Shop Unit) : Nat → List (List Char) → Shop (List Char)
  | 0, _ => pure []
  | _, [] => pure []
  | fuel + 1, text :: rest => do
      let value ← expand evaluate fuel (trim text)
      if value.isEmpty then firstFull evaluate fuel rest else return value

def lastFull (evaluate : List Char → Shop Unit) : Nat → List Char → List (List Char) →
    Shop (List Char)
  | 0, last, _ => pure last
  | _, last, [] => pure last
  | fuel + 1, _, text :: rest => do
      let value ← expand evaluate fuel (trim text)
      if value.isEmpty then return [] else lastFull evaluate fuel value rest

-- The values of a text where a variable stands for one word after the other.
def forWords (evaluate : List Char → Shop Unit) : Nat → String → List Char → List (List Char) →
    Shop (List (List Char))
  | 0, _, _, _ => pure []
  | _, _, _, [] => pure []
  | fuel + 1, name, body, word :: rest => do
      let shop ← Shop.look
      Shop.alter fun shop => { shop with
        scopes := [(name, .plain word .automatic)] :: shop.scopes }
      let value ← expand evaluate fuel body
      Shop.alter fun after => { after with scopes := shop.scopes }
      let others ← forWords evaluate fuel name body rest
      return value :: others

-- The value of a variable in which numbers stand for arguments.
def callVariable (evaluate : List Char → Shop Unit) : Nat → List Char → List (List Char) →
    Shop (List Char)
  | 0, _, _ => pure []
  | fuel + 1, text, arguments => do
      let name := trim text
      match functionAt? name with
      | some (kind, []) => applyFunction evaluate fuel kind arguments
      | _ =>
          let shop ← Shop.look
          match shop.variableOf (String.ofList name) with
          | none => return []
          | some found =>
              if found.value.isEmpty then return []
              else
                let numbered := (name :: arguments).zipIdx.map fun (value, i) =>
                  (toString i, Variable.plain value .automatic)
                -- Arguments of a call around this one do not count.
                let outer := (shop.scopes.flatten.map (·.1)).filter fun key =>
                  key.toList.all Char.isDigit && (numbered.lookup key).isNone
                let hidden := outer.map fun key => (key, Variable.plain [] .automatic)
                Shop.alter fun shop => { shop with
                  scopes := (numbered ++ hidden) :: shop.scopes
                  -- A variable may call itself.
                  expanding := shop.expanding.filter (· != String.ofList name) }
                let value ← variableValue evaluate fuel (String.ofList name)
                Shop.alter fun after => { after with
                  scopes := shop.scopes, expanding := shop.expanding }
                return value

end

end MakeCheck.Make
