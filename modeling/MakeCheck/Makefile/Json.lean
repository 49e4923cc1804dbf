import MakeCheck.Json.Printer
import MakeCheck.Makefile.Basic

namespace MakeCheck

private def strings (items : List String) : Json :=
  .array (items.map .string)

def Targets.toJson : Targets → Json
  | single name => .string name
  | multiple names => strings names

def Rule.toJson (rule : Rule) : Json :=
  .object
    [("targets", rule.targets.toJson), ("prerequisites", strings rule.prerequisites),
      ("recipe", strings rule.recipe)]

def VariableDefinition.toJson (definition : VariableDefinition) : Json :=
  .object [("name", .string definition.name), ("value", .string definition.value)]

def Origin.toJson : Origin → Json
  | memory => .string "Memory"
  | path place => .object [("Path", .string place.text)]

-- Where no definitions were looked for, the field is left out.
def Makefile.toJson (makefile : Makefile) : Json :=
  .object
    ([("path", makefile.origin.toJson), ("rules", .array (makefile.rules.map Rule.toJson))] ++
      match makefile.definitions with
      | some definitions =>
          [("variable_definitions", .array (definitions.map VariableDefinition.toJson))]
      | none => [])

end MakeCheck
