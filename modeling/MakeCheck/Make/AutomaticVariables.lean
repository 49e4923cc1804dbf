import MakeCheck.Make.Builtin
import MakeCheck.Make.Flags
import MakeCheck.Make.Reading

namespace MakeCheck.Make

open Text Program

-- What the commands of a target see: variables that stand for it and what it needs, those that were
-- set for it, and those of the targets that need it.

namespace Workshop

def shownName (shop : Workshop) (name : String) : String :=
  ((shop.target? name).map (·.shown)).getD name

-- What is left of a name without the first ending that is known.
def stemOf (shop : Workshop) (name : String) : List Char :=
  let fitting := shop.endings.find? fun ending =>
    ending.length < name.length && name.endsWith ending
  match fitting with
  | some ending => (name.toList.take (name.length - ending.length))
  | none => []

-- The needs that count as named, in their order, and each only once. One that is needed for its age
-- anywhere is so everywhere.
def distinctNeeds (needs : List Need) : List Need :=
  let firsts := needs.foldl
    (fun (seen : List Need) need =>
      if seen.any fun other => other.name == need.name then
        seen.map fun other =>
          if other.name = need.name then
            { other with
              isOrderOnly := other.isOrderOnly && need.isOrderOnly
              isChanged := other.isChanged }
          else other
      else seen ++ [need])
    []
  firsts

-- The variables that stand for a target and what it needs.
def automatic (shop : Workshop) (target : Target) : Scope :=
  let needs := target.needs.filter fun need => !need.isLate
  let named (needs : List Need) : List Char :=
    ofWords (needs.map fun need => (shop.shownName need.name).toList)
  let plain := needs.filter fun need => !need.isOrderOnly
  let distinct := distinctNeeds needs
  let distinctPlain := distinct.filter fun need => !need.isOrderOnly
  let isDefault := match target.recipe, (shop.target? ".DEFAULT").bind (·.recipe) with
    | some own, some other => own.number == other.number
    | _, _ => false
  let first := if isDefault then target.shown.toList
    else ((plain.head?.map fun need => shop.shownName need.name).getD "").toList
  let values : List (String × List Char) :=
    [("<", first), ("*", target.stem.getD (shop.stemOf target.shown)),
      ("@", target.shown.toList), ("%", []), ("+", named plain), ("^", named distinctPlain),
      ("?", named (distinctPlain.filter fun need => need.isChanged || shop.settings.makesAll)),
      ("|", named (distinct.filter (·.isOrderOnly)))]
  values.map fun (name, value) => (name, .plain value .automatic)

-- The variables that are set for all targets of a shape, where longer shapes come later.
def patternScope (shop : Workshop) (name : String) : Scope :=
  let fitting := shop.patternVariables.filter fun found =>
    (Shape.ofText found.shape).fits name.toList
  let sorted := fitting.mergeSort fun a b => decide (a.shape.length ≤ b.shape.length)
  sorted.foldl
    (fun (scope : Scope) found =>
      let content := found.content
      match found.joining, scope.lookup found.name with
      | .append, none =>
          scope.put found.name { content with isRecursive := true, appends := true }
      | .append, some old =>
          scope.put found.name { content with
            value := appended old.value content.value
            isRecursive := old.isRecursive
            appends := old.appends }
      | .ifUnset, old =>
          if old.isSome || (shop.variableOf found.name).isSome then scope
          else scope.put found.name content
      | _, _ => scope.put found.name content)
    []

-- The scopes of a target, the innermost first. What is private to a target is not seen by others.
def scopesFrom (shop : Workshop) : Nat → Bool → String → List Scope
  | 0, _, _ => []
  | fuel + 1, isOwn, name =>
      match shop.target? name with
      | none => []
      | some target =>
          let visible (scope : Scope) : Scope :=
            if isOwn then scope else scope.filter fun entry => !entry.2.isPrivate
          let outer := match target.parent with
            | some parent => shop.scopesFrom fuel false parent
            | none => []
          visible target.scope :: visible (shop.patternScope name) :: outer

def scopesFor (shop : Workshop) (target : Target) : List Scope :=
  shop.automatic target :: shop.scopesFrom (shop.targets.length + 1) true target.name

end Workshop

def inSight {α : Type} (name : String) (number : Nat) (place : Option Place) (work : Shop α) :
    Shop α := do
  let shop ← Shop.look
  match shop.entry? name number with
  | none => work
  | some target =>
      Shop.alter fun shop => { shop with
        scopes := shop.scopesFor target
        hidesPrivate := true
        place }
      let result ← work
      Shop.alter fun after => { after with
        scopes := shop.scopes, hidesPrivate := shop.hidesPrivate, place := shop.place }
      return result

def isShellName (name : String) : Bool :=
  match name.toList with
  | first :: rest =>
      (first.isAlpha || first == '_') && rest.all fun c => c.isAlphanum || c == '_'
  | [] => false

def isVisible (shop : Workshop) (name : String) (content : Variable) (isOwn : Bool) : Bool :=
  let said := match content.isExported, isOwn with
    | none, true => (shop.scope.lookup name).bind (·.isExported)
    | said, _ => said
  match said with
  | some isExported => isExported
  | none =>
      content.origin != .builtin && content.origin != .automatic && isShellName name &&
        (shop.exportsAll || content.origin == .commandLine || content.origin == .environment ||
          content.origin == .environmentFirst)

-- The values of variables for commands, in the sight that is set up.
def exportedValues : List (String × Variable) → Shop (List (String × String))
  | [] => pure []
  | (name, content) :: rest => do
      let fromOutside := content.origin == .environment || content.origin == .environmentFirst
      let value ← if content.isRecursive && !fromOutside then
          variableValue evaluateText plentyDeep name
        else pure content.value
      let others ← exportedValues rest
      return (name, String.ofList value) :: others

-- The environment of commands, in the sight that is set up. The shell that commands name there is
-- the one that was named to this program, if there was one.
def environmentForCommands : Shop (List (String × String)) := do
  let shop ← Shop.look
  let own := shop.scopes.flatten
  let all := own.map (fun entry => (entry, true)) ++ shop.scope.map fun entry => (entry, false)
  let visible := all.filter fun ((name, content), isOwn) => isVisible shop name content isOwn
  let firsts := visible.foldl
    (fun (seen : List (String × Variable)) (entry, _) =>
      if (seen.lookup entry.1).isSome then seen else seen ++ [entry])
    []
  let keepsOuter := (shop.around.environment.lookup "SHELL").isSome
  let values ← exportedValues (firsts.filter fun (name, content) =>
    name != "MAKELEVEL" && (name != "SHELL" || !keepsOuter || content.isExported == some true))
  let shell := if (values.lookup "SHELL").isSome then []
    else (shop.around.environment.filter fun entry => entry.1 == "SHELL")
  let entries := values ++ shell
  let ordered := (inTableOrder variableNumber (entries.map (·.1))).filterMap fun name =>
    (entries.lookup name).map fun value => (name, value)
  return ordered ++ [("MAKELEVEL", toString (shop.level + 1))]

end MakeCheck.Make
