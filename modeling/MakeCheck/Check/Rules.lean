import MakeCheck.Check.Failure
import MakeCheck.Check.Template

namespace MakeCheck.Check

-- A template about a rule knows the target as it is displayed.
def customFor (template : String) (targets : Targets) : Failure :=
  .custom (renderTemplate template [("target_name", targets.text)])

-- The Makefile must have a rule with exactly these targets.
def hasRule (makefile : Makefile) (targets : Targets) : Except Failure Rule :=
  match makefile.rule? targets with
  | some rule => .ok rule
  | none => .error (.missingRule targets)

def hasRuleWith (makefile : Makefile) (targets : Targets) (template : String) :
    Except Failure Rule :=
  match hasRule makefile targets with
  | .ok rule => .ok rule
  | .error _ => .error (customFor template targets)

-- The rule must be there and have no recipe.
def recipeEmpty (makefile : Makefile) (targets : Targets) : Except Failure Unit :=
  match hasRule makefile targets with
  | .error failure => .error failure
  | .ok rule => if rule.isEmpty then .ok () else .error (.nonEmptyRecipe targets)

-- The template is for a recipe that is not empty. A missing rule keeps its own message.
def recipeEmptyWith (makefile : Makefile) (targets : Targets) (template : String) :
    Except Failure Unit :=
  match recipeEmpty makefile targets with
  | .error (.nonEmptyRecipe _) => .error (customFor template targets)
  | other => other

end MakeCheck.Check
