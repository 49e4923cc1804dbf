import MakeCheck.Make.Assignment

namespace MakeCheck.Make

open Text Program

-- A rule whose commands may still follow. The commands come with the line of the first one.
structure OpenRule where
  names : List String
  place : Place
  isDouble : Bool
  -- Whether one run of the commands makes all targets.
  isGrouped : Bool
  pattern : Option (List Char)
  needs : List Char
  firstLine : Nat
  commands : List Char

def OpenRule.addCommand (rule : OpenRule) (line : Nat) (command : List Char) : OpenRule :=
  { rule with
    firstLine := if rule.commands.isEmpty then line else rule.firstLine
    commands := rule.commands ++ command ++ ['\n'] }

-- The words of a text that are names. A backslash takes a blank into a name.
def rawNames : Nat → List Char → List (List Char)
  | 0, _ => []
  | fuel + 1, s =>
      let s := dropSpace s
      if s.isEmpty then []
      else
        match splitUnquoted isSpace [] s with
        | (name, none) => [name]
        | (name, some (_, rest)) => name :: rawNames fuel rest

-- A name in which a tilde stands for the home of the user.
def homeName (shop : Workshop) (name : List Char) : List Char :=
  match name with
  | '~' :: rest =>
      if rest.head?.all (· == '/') then
        ((shop.variableOf "HOME").map (·.value)).getD ['~'] ++ rest
      else name
  | _ => name

-- The files that a name stands for. A pattern that fits none stands for itself.
def filesOf (shop : Workshop) (name : List Char) : List String :=
  let name := homeName shop name
  let found := if isGlob name then globbed shop.around name else []
  if found.isEmpty then [String.ofList name] else found

def namesIn (shop : Workshop) (text : List Char) : List String :=
  ((rawNames (text.length + 1) text).map bareName).flatMap (filesOf shop)

-- The names that are needed. Those behind a bar are needed whatever their age.
def needsIn (shop : Workshop) (text : List Char) : List Need :=
  let (front, rest) := splitUnquoted (· == '|') [] text
  let plain := (namesIn shop front).map fun name => Need.plain name false
  match rest with
  | none => plain
  | some (_, after) => plain ++ (namesIn shop after).map fun name => Need.plain name true

-- A text in which backslashes before a character lose their meaning.
def unhide (mark : Char) (s : List Char) : List Char :=
  let (front, rest) := splitUnquoted (· == mark) [] s
  match rest with
  | none => front
  | some _ => s

-- The same names with a stem in the place of the first sign of each.
def needsOfStem (stem : List Char) (needs : List Need) : List Need :=
  (needs.map fun need => { need with
    name := String.ofList ((Shape.ofText need.name.toList).fill stem)
    stem := some stem }).filter fun need => need.name != ""

namespace Workshop

-- Enters the names that are needed, so that they count as mentioned.
def enterNeeds (shop : Workshop) (needs : List Need) : Workshop :=
  needs.foldl (fun shop need => if need.isLate then shop else shop.enter need.name) shop

-- Adds a rule for patterns. One with the same patterns and needs goes, if the flag says so, and
-- otherwise stays instead.
def addPattern (shop : Workshop) (rule : PatternRule) (replaces : Bool) : Workshop :=
  let isSame (other : PatternRule) : Bool :=
    other.targets == rule.targets &&
      other.needs.map (·.name) == rule.needs.map (·.name)
  if shop.rules.any isSame then
    if replaces then
      { shop with rules := shop.rules.filter (fun other => !isSame other) ++ [rule] }
    else shop
  else { shop with rules := shop.rules ++ [rule] }

end Workshop

-- What a target gets from a rule.
structure RuleShare where
  name : String
  needs : List Need
  recipe : Option Recipe
  stem : Option (List Char)
  isDouble : Bool

-- Complains about a target that a rule does not go together with.
def checkTarget (place : Place) (share : RuleShare) : Shop Unit := do
  let shop ← Shop.look
  let both : Shop Unit :=
    Shop.fail place ("target file '" ++ share.name ++ "' has both : and :: entries")
  match shop.target? share.name with
  | none => pure ()
  | some target =>
      if share.isDouble then
        if target.isTarget && !target.isDouble then both
      else if target.isDouble then both
      else
        match share.recipe, target.recipe with
        | some recipe, some old =>
            if recipe.number = old.number then
              Shop.warn place
                ("target '" ++ share.name ++ "' given more than once in the same rule")
            else if target.isTarget then
              Shop.warn recipe.place
                ("warning: overriding recipe for target '" ++ share.name ++ "'")
              Shop.warn old.place ("warning: ignoring old recipe for target '" ++ share.name ++ "'")
        | _, _ => pure ()

namespace Workshop

-- Adds what a rule says about a target with other rules.
def addSingle (shop : Workshop) (share : RuleShare) : Workshop :=
  (shop.enter share.name).change share.name 0 fun target =>
    let clears := share.name == ".DEFAULT" && share.needs.isEmpty && share.recipe.isNone
    let kept := if share.name = ".SUFFIXES" ∧ share.needs = [] then [] else target.needs
    { target with
      isTarget := true
      recipe := if clears then none else share.recipe.or target.recipe
      needs := if share.recipe.isSome then share.needs ++ kept else kept ++ share.needs
      stem := share.stem.or target.stem }

-- Adds an entry of its own for a target with several rules.
def addDouble (shop : Workshop) (share : RuleShare) : Workshop :=
  let fill (target : Target) : Target :=
    { target with
      isTarget := true
      isDouble := true
      recipe := share.recipe
      needs := target.needs ++ share.needs
      stem := share.stem }
  match shop.target? share.name with
  | some target =>
      if target.isDouble then
        let number := (shop.entries share.name).length
        { shop with targets := shop.targets ++ [fill (.start share.name number)] }
      else shop.change share.name 0 fill
  | none => { shop with targets := shop.targets ++ [fill (.start share.name 0)] }

end Workshop

-- What variables hold where a makefile asks for the common ways of all such programs.
def plainWays : List (String × String) :=
  [(".SHELLFLAGS", "-ec"), ("CC", "c99"), ("CFLAGS", "-O1"), ("FC", "fort77"), ("FFLAGS", "-O1"),
    ("SCCSGETFLAGS", "-s"), ("ARFLAGS", "-rvU")]

-- The special target by which a makefile asks for another way to read it.
def heedSpecial (name : String) : Shop Unit :=
  Shop.alter fun shop =>
    match name with
    | ".SECONDEXPANSION" => { shop with expandsTwice := true }
    | ".ONESHELL" => { shop with isOneShell := true }
    | ".POSIX" => plainWays.foldl
        (fun shop (name, value) => shop.put none name (.plain value.toList .builtin)) shop
    | _ => shop

def recordTargets (rule : OpenRule) (needs : List Need) (recipe : Option Recipe) :
    List String → Shop Unit
  | [] => pure ()
  | name :: rest => do
      heedSpecial name
      let shape := rule.pattern.map Shape.ofText
      let stem := shape.bind fun shape => shape.stem? name.toList
      let fits := shape.isNone || stem.isSome
      if !fits then
        Shop.warn rule.place ("target '" ++ name ++ "' doesn't match the target pattern")
      let own := match stem with
        | none => needs
        | some stem =>
            let late := needs.filter (·.isLate)
            if late.isEmpty then needsOfStem stem needs
            else needs.map fun need => { need with stem := some stem }
      let share : RuleShare :=
        ⟨name, if fits then own else [], recipe, stem, rule.isDouble⟩
      checkTarget rule.place share
      Shop.alter fun shop =>
        let shop := if rule.isDouble then shop.addDouble share else shop.addSingle share
        shop.enterNeeds share.needs
      recordTargets rule needs recipe rest

def recordRule (rule : OpenRule) : Shop Unit := do
  let shop ← Shop.look
  if shop.isRead then
    Shop.fail rule.place "prerequisites cannot be defined in recipes"
  else
    let isImplicit := rule.names.head?.any fun name => (Shape.ofText name.toList).isOpen
    if rule.commands.isEmpty && rule.isGrouped then
      Shop.fail rule.place "grouped targets must provide a recipe"
    let number := shop.counter
    Shop.alter fun shop => { shop with counter := number + 1 }
    let recipe : Option Recipe :=
      if rule.commands.isEmpty then none
      else some ⟨number, some { rule.place with line := rule.firstLine }, rule.commands⟩
    let text := unhide ':' rule.needs
    let isLate := shop.expandsTwice && text.contains '$'
    let needs : List Need :=
      if isLate then
        let text := if rule.pattern.isSome then
            (text.flatMap fun c => if c = '%' then ['$', '*'] else [c]) else text
        [⟨String.ofList text, false, false, true, none⟩]
      else needsIn shop text
    if isImplicit then
      if rule.pattern.isSome then
        Shop.fail rule.place "mixed implicit and static pattern rules"
      else if rule.names.any fun name => !(Shape.ofText name.toList).isOpen then
        Shop.fail rule.place "mixed implicit and normal rules"
      else
        Shop.alter fun shop => shop.addPattern
          ⟨number, rule.names.map String.toList, needs, recipe, rule.isDouble⟩ true
    else
      if rule.names.any fun name => (Shape.ofText name.toList).isOpen then
        Shop.warn rule.place "*** mixed implicit and normal rules: deprecated syntax"
      recordTargets rule needs recipe rule.names
      if rule.isGrouped then
        Shop.alter fun shop => rule.names.foldl
          (fun shop name => shop.change name 0 fun target => { target with
            partners := rule.names.filter (· != name) })
          shop

end MakeCheck.Make
