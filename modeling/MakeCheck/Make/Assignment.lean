import MakeCheck.Make.Expansion

namespace MakeCheck.Make

open Text Program

-- A name, the text that is its value, and the sign between them.
structure Assignment where
  name : List Char
  joining : Joining
  value : List Char

def joiningOf? (c : Char) : Option Joining :=
  if c = ':' then some .simple
  else if c = '+' then some .append
  else if c = '?' then some .ifUnset
  else if c = '!' then some .shell
  else none

-- The sign at the front of a text, and what follows it.
def signAt? : List Char → Option (Joining × List Char)
  | '=' :: rest => some (.recursive, rest)
  | ':' :: ':' :: '=' :: rest => some (.simple, rest)
  | c :: '=' :: rest => (joiningOf? c).map fun joining => (joining, rest)
  | _ => none

-- A line that gives a variable a value. Signs in references to variables do not count, and no
-- blank stands inside of a name. What was read comes in reverse order.
def assignmentFrom? : Option OpenBracket → List Char → List Char → Option Assignment
  | _, _, [] => none
  | some bracket, before, c :: rest => assignmentFrom? (bracket.step c) (c :: before) rest
  | none, _, ['$'] => none
  | none, before, '$' :: c :: rest =>
      assignmentFrom? (OpenBracket.ofChar? c) (c :: '$' :: before) rest
  | none, before, c :: rest =>
      if c = '#' then none
      else
        let isLast := isBlank c
        let sign := signAt? (if isLast then dropSpace rest else c :: rest)
        match sign with
        | some (joining, value) => some ⟨before.reverse, joining, dropSpace value⟩
        | none => if isLast || c == ':' then none else assignmentFrom? none (c :: before) rest

def assignmentOf? (line : List Char) : Option Assignment :=
  assignmentFrom? none [] (dropSpace line)

-- Words before a definition that say more about it.
structure Modifiers where
  isExported : Bool
  isOverride : Bool
  isPrivate : Bool

def Modifiers.plain : Modifiers :=
  ⟨false, false, false⟩

inductive DeclarationKind where
  | assign
  -- A value that goes over several lines.
  | define
  | undefine
deriving DecidableEq

-- A line about a variable, with the text behind the words that say what it is.
structure Declaration where
  kind : DeclarationKind
  modifiers : Modifiers
  text : List Char

def declarationFrom? : Nat → Modifiers → List Char → Option Declaration
  | 0, _, _ => none
  | fuel + 1, modifiers, line =>
      if (assignmentOf? line).isSome then some ⟨.assign, modifiers, line⟩
      else
        let (word, rest) := firstWord line
        match String.ofList word with
        | "define" => some ⟨.define, modifiers, rest⟩
        | "undefine" => some ⟨.undefine, modifiers, rest⟩
        | "export" => more fuel { modifiers with isExported := true } rest
        | "override" => more fuel { modifiers with isOverride := true } rest
        | "private" => more fuel { modifiers with isPrivate := true } rest
        | _ => none
where
  more (fuel : Nat) (modifiers : Modifiers) (rest : List Char) : Option Declaration :=
    if rest.isEmpty then none else declarationFrom? fuel modifiers rest

def declarationOf? (line : List Char) : Option Declaration :=
  let line := dropSpace line
  if line.isEmpty then none else declarationFrom? line.length .plain line

def Modifiers.origin (modifiers : Modifiers) : Origin :=
  if modifiers.isOverride then .override else .makefile

-- Whose variable something is: that of one target, or of all.
abbrev Owner := Option String

namespace Workshop

def scopeOf (shop : Workshop) (owner : Owner) : Scope :=
  match owner with
  | none => shop.scope
  | some name => ((shop.target? name).map (·.scope)).getD []

def withScope (shop : Workshop) (owner : Owner) (scope : Scope) : Workshop :=
  match owner with
  | none => { shop with scope := scope }
  | some name => shop.change name 0 fun target => { target with scope := scope }

-- What changes with a variable that means something to the program itself.
def heed (shop : Workshop) (owner : Owner) (name : String) (value : List Char) : Workshop :=
  if owner.isNone ∧ name = ".RECIPEPREFIX" then
    { shop with recipeMark := value.headD '\t' }
  else shop

-- Gives a variable a value, unless the one that it has comes from higher up.
def put (shop : Workshop) (owner : Owner) (name : String) (content : Variable) : Workshop :=
  let scope := shop.scopeOf owner
  match scope.lookup name with
  | none => (shop.withScope owner (scope.put name content)).heed owner name content.value
  | some old =>
      let origin := if shop.settings.environmentFirst && old.origin == .environment
        then .environmentFirst else old.origin
      if origin.rank ≤ content.origin.rank then
        (shop.withScope owner (scope.put name { content with
          isExported := old.isExported
          isPrivate := old.isPrivate })).heed owner name content.value
      else shop.withScope owner (scope.put name { old with origin, appends := content.appends })

def remove (shop : Workshop) (name : String) (origin : Origin) : Workshop :=
  match shop.scope.lookup name with
  | some old =>
      if old.origin.rank ≤ origin.rank then
        { shop with scope := shop.scope.filter fun entry => entry.1 != name }
      else shop
  | none => shop

end Workshop

-- The texts with a blank between them, if there is something before it.
def appended (old new : List Char) : List Char :=
  if old.isEmpty then new else old ++ ' ' :: new

def outputShell (evaluate : List Char → Shop Unit) (fuel : Nat) : Shop ShellChoice := do
  let name ← variableValue evaluate fuel "SHELL"
  let flags ← variableValue evaluate fuel ".SHELLFLAGS"
  let shop ← Shop.look
  return ⟨String.ofList (trim name), (wordsOf flags).map String.ofList, shop.isOneShell⟩

def plentyDeep : Nat := 1000000000

def expanded (evaluate : List Char → Shop Unit) (text : List Char) : Shop (List Char) :=
  expand evaluate plentyDeep text

def assign (evaluate : List Char → Shop Unit) (owner : Owner) (place : Option Place)
    (origin : Origin) (name : String) (joining : Joining) (value : List Char) : Shop Unit := do
  let shop ← Shop.look
  let content (value : List Char) (isRecursive appends : Bool) : Variable :=
    { value
      isRecursive
      origin
      isExported := none
      place
      appends
      isPrivate := false }
  let define (value : List Char) (isRecursive appends : Bool) : Shop Unit :=
    Shop.alter fun shop => shop.put owner name (content value isRecursive appends)
  match joining with
  | .recursive => define value true false
  | .simple =>
      let value ← expanded evaluate value
      define value false false
  | .shell =>
      let line ← expanded evaluate value
      let choice ← outputShell evaluate plentyDeep
      let output ← shellOutput choice line
      define output true false
  | .ifUnset => if (shop.variableOf name).isSome then return () else define value true false
  | .append | .appendText =>
      let own := (shop.scopeOf owner).lookup name
      let old := if owner.isSome then own else shop.variableOf name
      let appends := owner.isSome && own.all (·.appends)
      match old with
      | none => define value true appends
      | some old =>
          let added ←
            if old.isRecursive || joining == .appendText then pure value
            else expanded evaluate value
          if added.isEmpty then return ()
          else define (appended old.value added) old.isRecursive appends

-- Notes what the words before a definition say about the variable.
def mark (owner : Owner) (name : String) (modifiers : Modifiers) : Shop Unit :=
  Shop.alter fun shop =>
    let scope := shop.scopeOf owner
    match scope.lookup name with
    | some content =>
        shop.withScope owner (scope.put name { content with
          isExported := if modifiers.isExported then some true else content.isExported
          isPrivate := content.isPrivate || modifiers.isPrivate })
    | none => shop

-- The name of a variable that is defined, which must not be empty.
def definedName (evaluate : List Char → Shop Unit) (place : Option Place) (text : List Char) :
    Shop String := do
  let name ← expanded evaluate text
  if (trim name).isEmpty then Shop.fail place "empty variable name"
  else return String.ofList (trim name)

def carryOut (evaluate : List Char → Shop Unit) (owner : Owner) (place : Option Place)
    (modifiers : Modifiers) (text : List Char) : Shop Unit :=
  match assignmentOf? text with
  | none => pure ()
  | some assignment => do
      let name ← definedName evaluate place assignment.name
      assign evaluate owner place modifiers.origin name assignment.joining assignment.value
      mark owner name modifiers

end MakeCheck.Make
