import MakeCheck.Make.AutomaticVariables

namespace MakeCheck.Make

open Text Program

-- A rule for patterns that fits a name: by which pattern, with which stem, and in which directory
-- where the pattern does not count that.
structure Candidate where
  rule : PatternRule
  pattern : List Char
  stem : List Char
  directory : List Char

def Candidate.fullStem (candidate : Candidate) : List Char :=
  candidate.directory ++ candidate.stem

-- What a rule comes to for a name. Needs that are made by other rules come with what those come to.
inductive Finding where
  | mk (candidate : Candidate) (needs : List (Need × Option Finding))

def Finding.candidate : Finding → Candidate
  | .mk candidate _ => candidate

def Finding.needs : Finding → List (Need × Option Finding)
  | .mk _ needs => needs

-- The part of a name up to its last slash, where one at the end does not count.
def folderOf (name : List Char) : List Char :=
  let front := name.dropLast
  let file := (front.reverse.takeWhile (· != '/')).length
  front.take (front.length - file)

-- How a name fits a pattern. A pattern without a slash is about the part behind the last one.
def fitOf? (pattern name : List Char) : Option (List Char × List Char) :=
  let folder := folderOf name
  let isPart := !folder.isEmpty && !pattern.contains '/'
  let part := if isPart then name.drop folder.length else name
  if name.length < pattern.length then none
  else
    ((Shape.ofText pattern).stem? part).map fun stem => (stem, if isPart then folder else [])

def isAnyPattern (pattern : List Char) : Bool :=
  pattern == ['%']

-- The rules that fit a name, those with shorter stems first. Rules for all names only count if no
-- other one fits, or if they are final.
def candidatesFor (shop : Workshop) (name : List Char) (inUse : List Nat) (isInner : Bool) :
    List Candidate :=
  let usable := shop.rules.filter fun rule =>
    !(rule.recipe.isNone && !rule.needs.isEmpty) && !inUse.contains rule.number
  let fitting := usable.flatMap fun rule =>
    rule.targets.filterMap fun pattern =>
      if isInner && isAnyPattern pattern && !rule.isFinal then none
      else (fitOf? pattern name).map fun (stem, directory) =>
        (⟨rule, pattern, stem, directory⟩ : Candidate)
  let isSpecific := fitting.any fun candidate => !isAnyPattern candidate.pattern
  let real := fitting.filter fun candidate =>
    candidate.rule.recipe.isSome || !candidate.rule.needs.isEmpty
  let sorted := real.mergeSort fun a b => decide (a.fullStem.length ≤ b.fullStem.length)
  if isSpecific then
    sorted.filter fun candidate =>
      candidate.rule.isFinal || !candidate.rule.targets.any isAnyPattern
  else sorted

def found? (shop : Workshop) (name : String) : Option String :=
  if name.startsWith "/" then none
  else
    let directories := shop.searchPaths.flatMap fun (shape, directories) =>
      if (Shape.ofText shape).fits name.toList then directories else []
    let paths := directories.map (· ++ "/" ++ name)
    paths.find? fun path => shop.around.files.has shop.around.directory ⟨path⟩

def isAvailable (shop : Workshop) (name : String) : Bool :=
  (shop.target? name).isSome || shop.around.files.has shop.around.directory ⟨name⟩ ||
    (found? shop name).isSome

-- The words of a text, where blanks in references do not count.
def looseWords : Option OpenBracket → List Char → List Char → List (List Char)
  | _, word, [] => if word.isEmpty then [] else [word.reverse]
  | some bracket, word, c :: rest => looseWords (bracket.step c) (c :: word) rest
  | none, word, '$' :: c :: rest => looseWords (OpenBracket.ofChar? c) (c :: '$' :: word) rest
  | none, word, c :: rest =>
      if isSpace c then
        if word.isEmpty then looseWords none [] rest else word.reverse :: looseWords none [] rest
      else looseWords none (c :: word) rest

def plainNeeds (shop : Workshop) (candidate : Candidate) (need : Need) : List Need :=
  let shape := Shape.ofText need.name.toList
  let name := if shape.isOpen then candidate.directory ++ shape.fill candidate.stem
    else need.name.toList
  (filesOf shop (bareName name)).map fun name => { need with name }

-- Expands the words of needs for a name one by one. Behind a bar they are needed whatever their
-- age.
def lateNeeds (name : String) (candidate : Candidate) (own : List Need) :
    Bool → List (List Char) → Shop (List Need)
  | _, [] => pure []
  | _, ['|'] :: rest => lateNeeds name candidate own true rest
  | isOrderOnly, word :: rest => do
      let before := word.takeWhile (· != '%')
      let hasStem := before.length < word.length
      let text := if hasStem then before ++ ['$', '*'] ++ word.drop (before.length + 1) else word
      let shop ← Shop.look
      let target : Target := { Target.start name 0 with
        needs := own, stem := some candidate.stem }
      Shop.alter fun shop => { shop with
        scopes := shop.automatic target :: shop.scopesFrom (shop.targets.length + 1) true name
        hidesPrivate := true }
      let text ← expanded evaluateText text
      Shop.alter fun after => { after with
        scopes := shop.scopes, hidesPrivate := shop.hidesPrivate }
      let placed (need : Need) : Need :=
        { need with
          name := if hasStem then String.ofList candidate.directory ++ need.name else need.name
          isOrderOnly := need.isOrderOnly || isOrderOnly }
      let found := (needsIn shop text).map placed
      let others ← lateNeeds name candidate own
        (isOrderOnly || found.any (·.isOrderOnly)) rest
      return found ++ others

def needsFor (name : String) (candidate : Candidate) (own : List Need) :
    List Need → Shop (List Need)
  | [] => pure []
  | need :: rest => do
      let shop ← Shop.look
      let found ← if need.isLate then
          lateNeeds name candidate own false (looseWords none [] need.name.toList)
        else pure (plainNeeds shop candidate need)
      let others ← needsFor name candidate own rest
      return found ++ others

-- What has become of the needs of a rule: they can be had, cannot be had this time, or never.
inductive Outlook where
  | good (needs : List (Need × Option Finding))
  | bad
  | hopeless

mutual

-- Looks for a rule that makes a name. The numbers are those of rules that are being tried.
def search : Nat → String → List Need → List Nat → Bool → Shop (Option Finding)
  | 0, _, _, _, _ => pure none
  | fuel + 1, name, own, inUse, isInner => do
      let shop ← Shop.look
      let candidates := candidatesFor shop name.toList inUse isInner
      let (found, hopeful) ← tryEach fuel name own inUse false candidates
      match found with
      | some found => return some found
      | none =>
          let (found, _) ← tryEach fuel name own inUse true
            (hopeful.filter fun candidate => !candidate.rule.isFinal)
          return found

-- Tries one rule after the other. The flag tells whether needs may be made by other rules. Those
-- that may still be tried come with the result.
def tryEach : Nat → String → List Need → List Nat → Bool → List Candidate →
    Shop (Option Finding × List Candidate)
  | 0, _, _, _, _, _ => pure (none, [])
  | _, _, _, _, _, [] => pure (none, [])
  | fuel + 1, name, own, inUse, isDeep, candidate :: rest => do
      if candidate.rule.needs.isEmpty then return (some (.mk candidate []), [])
      else
        let needs ← needsFor name candidate own candidate.rule.needs
        let outlook ← tryNeeds fuel own (candidate.rule.number :: inUse) isDeep needs
        match outlook with
        | .good needs => return (some (.mk candidate needs), [])
        | .bad =>
            let (found, others) ← tryEach fuel name own inUse isDeep rest
            return (found, candidate :: others)
        | .hopeless => tryEach fuel name own inUse isDeep rest

def tryNeeds : Nat → List Need → List Nat → Bool → List Need → Shop Outlook
  | 0, _, _, _, _ => pure .bad
  | _, _, _, _, [] => pure (.good [])
  | fuel + 1, own, inUse, isDeep, need :: rest => do
      let shop ← Shop.look
      let goOn (found : Option Finding) : Shop Outlook := do
        let outlook ← tryNeeds fuel own inUse isDeep rest
        match outlook with
        | .good needs => return .good ((need, found) :: needs)
        | other => return other
      if shop.impossible.contains need.name then return .hopeless
      else if own.any (fun other => other.name == need.name) || isAvailable shop need.name then
        goOn none
      else if isDeep then
        let found ← search fuel need.name [] inUse true
        match found with
        | some found => goOn (some found)
        | none =>
            Shop.alter fun shop => { shop with impossible := need.name :: shop.impossible }
            return .bad
      else return .bad

end

def partnersOf (candidate : Candidate) : List String :=
  let others := candidate.rule.targets.filter (· != candidate.pattern)
  others.map fun pattern => String.ofList ((Shape.ofText pattern).fill candidate.fullStem)

namespace Workshop

def isPreciousPattern (shop : Workshop) (pattern : List Char) : Bool :=
  (shop.target? (String.ofList pattern)).any (·.isPrecious)

-- Enters what a rule comes to for a name, and for the names on the way to it.
def adopt : Nat → Workshop → String → Bool → Finding → Workshop
  | 0, shop, _, _, _ => shop
  | fuel + 1, shop, name, isInner, finding =>
      let candidate := finding.candidate
      let wasKnown := (shop.target? name).isSome
      let shop := finding.needs.foldl
        (fun (shop : Workshop) (need, found) =>
          match found with
          | some found => adopt fuel shop need.name true found
          | none =>
              let entered := shop.enter need.name
              if candidate.rule.isFinal then
                entered.change need.name 0 fun target => { target with wasSearched := true }
              else entered)
        shop
      let partners := partnersOf candidate
      let shop := partners.foldl
        (fun shop partner =>
          (shop.enter partner).change partner 0 fun target => { target with isTarget := true })
        shop
      let isPrecious := shop.isPreciousPattern candidate.pattern
      (shop.enter name).change name 0 fun target =>
        let own := finding.needs.map (·.1)
        { target with
          needs := own ++ target.needs
          recipe := candidate.rule.recipe
          stem := some candidate.fullStem
          partners := partners ++ target.partners
          isTarget := true
          isPrecious := target.isPrecious || isPrecious
          isIntermediate := target.isIntermediate || isInner
          isSecondary := target.isSecondary || (isInner && wasKnown)
          wasSearched := target.wasSearched || isInner }

end Workshop

def searchRule (name : String) (number : Nat) : Shop Unit := do
  let shop ← Shop.look
  match shop.entry? name number with
  | none => pure ()
  | some target =>
      let found ← search 1000000 name target.needs [] false
      match found with
      | some found =>
          Shop.alter fun shop => shop.adopt 1000000 name false found
      | none => pure ()
      Shop.alter fun shop => shop.change name number fun target =>
        { target with wasSearched := true }

end MakeCheck.Make
