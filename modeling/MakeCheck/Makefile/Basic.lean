import MakeCheck.Path

namespace MakeCheck

-- The left side of a rule. One name and a list of one name are different.
inductive Targets where
  | single (name : String)
  | multiple (names : List String)
deriving DecidableEq

namespace Targets

def names : Targets → List String
  | single name => [name]
  | multiple names => names

-- The form makes no difference here.
def contains (targets : Targets) (name : String) : Bool :=
  targets.names.contains name

def text : Targets → String
  | single name => name
  | multiple names => " ".intercalate names

-- Any space makes a list, and two spaces in a row give an empty name between them.
def ofText (text : List Char) : Targets :=
  if ' ' ∈ text then multiple ((text.splitOn ' ').map String.ofList)
  else single (String.ofList text)

end Targets

-- A rule with its recipe lines in order, without their indentation.
structure Rule where
  targets : Targets
  prerequisites : List String
  recipe : List String
deriving DecidableEq

namespace Rule

def isEmpty (rule : Rule) : Bool :=
  rule.recipe.isEmpty

def addLine (rule : Rule) (line : String) : Rule :=
  { rule with recipe := rule.recipe ++ [line] }

end Rule

-- An assignment of any flavour. The flavour itself is not kept.
structure VariableDefinition where
  name : String
  value : String
deriving DecidableEq

-- Where the text of a Makefile came from.
inductive Origin where
  | memory
  | path (place : Path)
deriving DecidableEq

def Origin.text : Origin → String
  | memory => "memory://Makefile"
  | path place => place.text

-- The rules and definitions of a text in file order. Without a search for definitions there is
-- no list of them, which is not the same as an empty list.
structure Makefile where
  origin : Origin
  rules : List Rule
  definitions : Option (List VariableDefinition)
deriving DecidableEq

namespace Makefile

-- The first rule with exactly these targets.
def rule? (makefile : Makefile) (targets : Targets) : Option Rule :=
  makefile.rules.find? fun rule => rule.targets == targets

def hasRule (makefile : Makefile) (targets : Targets) : Bool :=
  (makefile.rule? targets).isSome

-- The last definition of the name, since a later assignment hides an earlier one.
def definition? (makefile : Makefile) (name : String) : Option VariableDefinition :=
  makefile.definitions.bind fun definitions =>
    definitions.reverse.find? fun definition => definition.name == name

def targetNames (makefile : Makefile) : List String :=
  makefile.rules.flatMap fun rule => rule.targets.names

end Makefile

end MakeCheck
