import MakeCheck.Makefile.Basic

namespace MakeCheck

-- How a part of a listing stands out on a terminal.
inductive Tint where
  | bold
  | green
  | yellow
  | cyan

def Tint.code : Tint → String
  | bold => "1"
  | green => "32"
  | yellow => "33"
  | cyan => "36"

def Tint.apply (tint : Tint) (colours : Bool) (text : String) : String :=
  if colours then "\x1b[" ++ tint.code ++ "m" ++ text ++ "\x1b[0m" else text

namespace Makefile

def ruleLine (colours : Bool) (rule : Rule) : String :=
  "  " ++ Tint.green.apply colours rule.targets.text ++ ": " ++
    " ".intercalate rule.prerequisites ++ "  " ++
    if rule.isEmpty then Tint.yellow.apply colours "(empty)"
    else toString rule.recipe.length ++ " recipe line(s)"

def definitionLine (colours : Bool) (definition : VariableDefinition) : String :=
  "  " ++ Tint.cyan.apply colours definition.name ++ " = " ++ definition.value

def ruleLines (colours : Bool) (makefile : Makefile) : List String :=
  if makefile.rules.isEmpty then ["  " ++ Tint.yellow.apply colours "no rules found"]
  else makefile.rules.map (ruleLine colours)

def definitionLines (colours : Bool) (makefile : Makefile) : List String :=
  match makefile.definitions with
  | none => []
  | some definitions =>
      Tint.bold.apply colours "Variables" :: definitions.map (definitionLine colours)

-- The lines that tell a reader what was found: a head, a line for each rule, and the definitions
-- where they were looked for.
def listingLines (colours : Bool) (makefile : Makefile) : List String :=
  (Tint.bold.apply colours "Makefile" ++ " " ++ makefile.origin.text) ::
    (makefile.ruleLines colours ++ makefile.definitionLines colours)

def listing (colours : Bool) (makefile : Makefile) : String :=
  String.join ((makefile.listingLines colours).map (· ++ "\n"))

end Makefile

end MakeCheck
