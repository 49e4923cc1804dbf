import MakeCheck.Make.Job

namespace MakeCheck.Make

open Text Program

def storedAge (shop : Workshop) (name : String) : Age :=
  match shop.around.files.find shop.around.directory ⟨name⟩ with
  | .ok (_, node) => node.modified
  | .error _ => .missing

-- Notes the age of a name for those of its entries that have come as far. A file that was there
-- before its turn is not just on the way to another one.
def noteAge (name : String) (number : Nat) (age : Age) : Shop Unit :=
  Shop.alter fun shop =>
    let isUpdated := (shop.entry? name number).any (·.isUpdated)
    shop.changeAll name fun target =>
      let wasThere := age != Age.missing && target.stage == .idle && !target.wasSearched
      { target with
        isIntermediate := target.isIntermediate && !wasThere
        age := if target.isUpdated = isUpdated then some age else target.age }

-- Asks when a file was changed. One that is not here may be on the search path.
def askAge (name : String) (number : Nat) : Shop Age := do
  let shop ← Shop.look
  let path := ((shop.entry? name number).bind (·.foundAs)).getD name
  let age := storedAge shop path
  if age ≠ Age.missing ∨ path ≠ name then
    noteAge name number age
    return age
  else
    let elsewhere := found? shop name
    match elsewhere with
    | some path =>
        let age := storedAge shop path
        Shop.alter fun shop => shop.changeAll name fun target =>
          { target with foundAs := some path }
        noteAge name number age
        return age
    | none =>
        noteAge name number age
        return age

def ageOf (name : String) (number : Nat) : Shop Age := do
  let shop ← Shop.look
  match (shop.entry? name number).bind (·.age) with
  | some age => return age
  | none => askAge name number

-- Sets the time of a file that is only to look new, or makes an empty one.
def touchFile (target : Target) : Shop Verdict := do
  let shop ← Shop.look
  if !shop.settings.isSilent then Shop.write .output ("touch " ++ target.name ++ "\n")
  if shop.settings.showsOnly then return .success
  else
    let around := shop.around
    let path : Path := ⟨target.name⟩
    let changed : Except Fault FileStore :=
      if around.files.has around.directory path then
        .ok (around.files.setModified around.directory path around.now)
      else around.files.writeAs around.directory path []
        (Mode.without around.mask FileStore.fileMode) around.now
    match changed with
    | .ok files =>
        Shop.alter fun shop => { shop with around := { shop.around with files } }
        Work.place files
        return .success
    | .error fault =>
        Shop.warn none ("touch: " ++ target.name ++ ": " ++ fault.reason)
        return .failure

-- Whether a recipe has lines that run anyway, and whether it has others.
def forcedLines (shop : Workshop) (recipe : Recipe) : Bool × Bool :=
  let lines := (recipe.lines shop.isOneShell).map lineManner
  (lines.any (·.isForced), lines.any fun manner => !manner.isForced)

-- Gives the latest age of its entries to all of them, once each of them is up to date.
def joinAges (shop : Workshop) (name : String) (age : Option Age) : Workshop :=
  let entries := shop.entries name
  if !entries.all (·.isUpdated) then shop
  else
    let latest := entries.foldl
      (fun (latest : Option Age) target =>
        match latest, target.age with
        | some latest, some age => some (max latest age)
        | _, _ => none)
      age
    shop.changeAll name fun target => { target with age := latest }

-- Notes that the work on a target is over. The flag tells whether commands were run for it.
def finishTarget (name : String) (number : Nat) (hasRun : Bool) : Shop Unit := do
  let before ← Shop.look
  match before.entry? name number with
  | none => pure ()
  | some target =>
      Shop.alter fun shop => shop.change name number fun target =>
        { target with stage := .finished, isUpdated := true }
      let settings := before.settings
      let (hasForced, hasOthers) := (target.recipe.map (forcedLines before)).getD (false, true)
      let wantsTouch := settings.touches && target.verdict == .success && (!hasForced || hasOthers)
      let isTouched := wantsTouch && !target.isPhony && target.recipe.isSome
      if isTouched then
        let verdict ← touchFile target
        Shop.alter fun shop =>
          let changed := shop.change name number fun target => { target with verdict }
          { changed with commandsStarted := shop.commandsStarted + 1 }
      Shop.alter fun shop => shop.change name number fun target =>
        { target with ageBefore := target.ageBefore.or target.age }
      if (hasRun && !target.isPhony) || isTouched then
        let isPretended := settings.questions || settings.showsOnly || settings.touches
        let isNew := isPretended && target.recipe.isSome && hasOthers
        Shop.alter fun shop => shop.change name number fun target =>
          { target with age := if isNew then some Age.fresh else none }
      if target.isDouble then
        Shop.alter fun shop =>
          joinAges shop name ((shop.entry? name number).bind (·.age))
      let after ← Shop.look
      let verdict := ((after.entry? name number).map (·.verdict)).getD .nothing
      if hasRun && verdict != .nothing then
        Work.forAll target.partners fun partner => do
          Shop.alter fun shop => shop.change partner 0 fun target =>
            { target with stage := .finished, isUpdated := true, verdict }
          let shop ← Shop.look
          if (shop.target? partner).any fun target => !target.isPhony then
            let _ ← askAge partner 0
      else if verdict == .nothing then
        Shop.alter fun shop => shop.change name number fun target =>
          { target with verdict := .success }

def removeTarget (name : String) (owner : Option String) : Shop Unit := do
  let shop ← Shop.look
  match shop.target? name with
  | none => pure ()
  | some target =>
      let around := shop.around
      if target.isPrecious || target.isPhony then return ()
      else
        match around.files.find around.directory ⟨name⟩ with
        | .ok (_, node) =>
            if node.content.isFile && some node.modified != target.age then
              Shop.warn none ((match owner with
                | some owner => "*** [" ++ owner ++ "] Deleting file '"
                | none => "*** Deleting file '") ++ name ++ "'")
              match around.files.findName around.directory ⟨name⟩ with
              | .ok (location, _) =>
                  let files := around.files.removeTree location around.now
                  Shop.alter fun shop => { shop with around := { shop.around with files } }
                  Work.place files
              | .error _ => pure ()
        | .error _ => pure ()

-- Complains about what cannot be made: what a target needs that has failed quietly, or itself.
def complain : Nat → String → Shop Unit
  | 0, _ => pure ()
  | fuel + 1, name => do
      let shop ← Shop.look
      match shop.target? name with
      | none => pure ()
      | some target =>
          let culprit := target.needs.find? fun need =>
            target.isUntold &&
              (shop.target? need.name).any fun inner => inner.isUpdated && inner.verdict.isBad
          match culprit with
          | some need => complain fuel need.name
          | none =>
              tellUnread
              let what := "No rule to make target '" ++ target.shown ++ "'" ++
                match target.parent with
                | some parent => ", needed by '" ++ shop.shownName parent ++ "'"
                | none => ""
              if shop.settings.goesOn then
                Shop.warn none ("*** " ++ what ++ ".")
                Shop.alter fun shop => shop.change name 0 fun target =>
                  { target with isUntold := false }
              else Shop.fail none what

def setVerdict (name : String) (number : Nat) (verdict : Verdict) : Shop Unit :=
  Shop.alter fun shop => shop.change name number fun target => { target with verdict }

def makeTarget (name : String) (number : Nat) : Shop Unit := do
  let shop ← Shop.look
  match shop.entry? name number with
  | none => pure ()
  | some target =>
      match target.recipe with
      | none =>
          if target.isPhony || target.isTarget then
            setVerdict name number .success
          else
            if !shop.isRemaking || !target.isOptional then complain shop.targets.length.succ name
            setVerdict name number .failure
          finishTarget name number false
      | some recipe =>
          let (hasForced, _) := forcedLines shop recipe
          if shop.settings.touches && !hasForced then
            setVerdict name number .success
            finishTarget name number false
          else if recipe.text.all fun c => isSpace c || c == '-' || c == '@' || c == '+' then
            setVerdict name number .success
            finishTarget name number true
          else
            let progress ← runRecipe target recipe
            match progress with
            | .going =>
                setVerdict name number .success
                finishTarget name number true
            | .wanted =>
                setVerdict name number .question
                finishTarget name number false
            | .failed status =>
                setVerdict name number .failure
                let isSignalled := match status with
                  | .signalled _ => true
                  | .exited _ => false
                let shop ← Shop.look
                if isSignalled || shop.isNamed ".DELETE_ON_ERROR" then
                  removeTarget name none
                  Work.forAll target.partners fun partner => removeTarget partner (some name)
                finishTarget name number true
                if !target.isOptional && !shop.settings.goesOn then Shop.finish 2

-- Gives a target without commands those of a rule that makes it, or those for all that have none.
def findCommands (name : String) (number : Nat) : Shop Unit := do
  let shop ← Shop.look
  match shop.entry? name number with
  | none => pure ()
  | some target =>
      if !target.isPhony && target.recipe.isNone && !target.wasSearched then
        searchRule name number
      let shop ← Shop.look
      match (shop.target? ".DEFAULT").bind (·.recipe) with
      | some recipe =>
          Shop.alter fun shop => shop.change name number fun target =>
            if target.recipe.isNone && !target.isTarget then
              { target with recipe := some recipe }
            else target
      | none => pure ()

def setUpdating (name : String) (isUpdating : Bool) : Shop Unit :=
  Shop.alter fun shop => shop.change name 0 fun target => { target with isUpdating }

def Workshop.isUpdating (shop : Workshop) (name : String) : Bool :=
  (shop.target? name).any (·.isUpdating)

-- What looking at the needs of a target comes to: the needs as they are now, whether the target
-- must be made, and how well that went.
structure NeedsOutcome where
  needs : List Need
  mustMake : Bool
  verdict : Verdict

mutual

def updateName : Nat → Nat → String → Shop Verdict
  | 0, _, _ => pure .success
  | fuel + 1, depth, name => do
      let shop ← Shop.look
      match shop.target? name with
      | none => return .success
      | some target =>
          let isLoud := target.isUpdated && target.verdict.isBad && !target.isOptional &&
            target.isUntold
          if target.isConsidered && !isLoud then
            return if target.stage = .finished then target.verdict else .success
          else updateEntries fuel depth ((shop.entries name).map (·.number)) name .success

def updateEntries : Nat → Nat → List Nat → String → Verdict → Shop Verdict
  | 0, _, _, _, verdict => pure verdict
  | _, _, [], _, verdict => pure verdict
  | fuel + 1, depth, number :: rest, name, verdict => do
      Shop.alter fun shop => shop.change name number fun target =>
        { target with isConsidered := true }
      let new ← updateEntry fuel depth name number
      let shop ← Shop.look
      if new ≠ .success ∧ !shop.settings.goesOn then return new
      else updateEntries fuel depth rest name (verdict.worse new)

def updateEntry : Nat → Nat → String → Nat → Shop Verdict
  | 0, _, _, _ => pure .success
  | fuel + 1, depth, name, number => do
      let shop ← Shop.look
      match shop.entry? name number with
      | none => return .success
      | some target =>
          if target.isUpdated then
            if target.verdict.isBad then
              if target.isUntold && !target.isOptional then
                complain shop.targets.length.succ name
              return target.verdict
            else return .success
          else if target.stage = .finished then return target.verdict
          else
            Shop.alter fun shop => shop.change name number fun target =>
              { target with isUntold := target.isOptional }
            setUpdating name true
            let age ← ageOf name number
            findCommands name number
            decide fuel depth name number age

-- Looks at what a target needs, and makes it if it must be made.
def decide : Nat → Nat → String → Nat → Age → Shop Verdict
  | 0, _, _, _, _ => pure .success
  | fuel + 1, depth, name, number, age => do
      let shop ← Shop.look
      match shop.entry? name number with
      | none => return .success
      | some target =>
          let isMissing := age == Age.missing
          let owners := (name, number) :: target.partners.map fun partner => (partner, 0)
          let outcome ← updateOwners fuel depth (name, number) age owners isMissing .success
          let settings := shop.settings
          let current ← Shop.look
          let needs := ((current.entry? name number).map (·.needs)).getD []
          let mustMake := outcome.mustMake
          let outcome ← if mustMake || settings.makesAll then
              updateIntermediates fuel depth (name, number) [] needs outcome.verdict
            else pure ⟨needs, mustMake, outcome.verdict⟩
          Shop.alter fun shop => shop.change name number fun target =>
            { target with needs := outcome.needs }
          setUpdating name false
          if outcome.verdict ≠ .success then
            let verdict : Verdict :=
              if outcome.verdict = .nothing then .failure else outcome.verdict
            setVerdict name number verdict
            finishTarget name number false
            if depth = 0 ∧ settings.goesOn ∧ !settings.showsOnly ∧ !settings.questions then
              Shop.warn none ("Target '" ++ name ++ "' not remade because of errors.")
            return outcome.verdict
          else
            let (needs, changed, missing) ← compareNeeds fuel age outcome.needs
            Shop.alter fun shop => shop.change name number fun target => { target with needs }
            let shop ← Shop.look
            match shop.entry? name number with
            | none => return .success
            | some target =>
                let hasRecipe := target.recipe.isSome
                let mustMake := mustMake || missing
                let mustMake :=
                  if target.isDouble && needs.isEmpty then true
                  else if !isMissing && target.isTarget && !changed && !hasRecipe &&
                      !settings.makesAll then false
                  else mustMake || (hasRecipe && settings.makesAll)
                if !mustMake then
                  finishTarget name number false
                  Shop.alter fun shop => shop.changeAll name fun target =>
                    { target with isFoundHere := target.foundAs.isNone }
                  return .success
                else
                  Shop.alter fun shop => shop.changeAll name fun target =>
                    { target with foundAs := none, isFoundHere := true }
                  makeTarget name number
                  Shop.alter fun shop => shop.change name number fun target =>
                    { target with isUpdated := true }
                  let shop ← Shop.look
                  return ((shop.entry? name number).map (·.verdict)).getD .success

-- Looks at what each of several names needs that are made together.
def updateOwners : Nat → Nat → String × Nat → Age → List (String × Nat) → Bool → Verdict →
    Shop NeedsOutcome
  | 0, _, _, _, _, mustMake, verdict => pure ⟨[], mustMake, verdict⟩
  | _, _, _, _, [], mustMake, verdict => pure ⟨[], mustMake, verdict⟩
  | fuel + 1, depth, key, age, owner :: rest, mustMake, verdict => do
      let shop ← Shop.look
      let needs := ((shop.entry? owner.1 owner.2).map (·.needs)).getD []
      let outcome ← updateNeeds fuel depth key age [] needs mustMake verdict
      Shop.alter fun shop => shop.change owner.1 owner.2 fun target =>
        { target with needs := outcome.needs }
      updateOwners fuel depth key age rest outcome.mustMake outcome.verdict

def updateNeeds : Nat → Nat → String × Nat → Age → List Need → List Need → Bool → Verdict →
    Shop NeedsOutcome
  | 0, _, _, _, _, _, mustMake, verdict => pure ⟨[], mustMake, verdict⟩
  | _, _, _, _, done, [], mustMake, verdict => pure ⟨done.reverse, mustMake, verdict⟩
  | fuel + 1, depth, key, age, done, need :: rest, mustMake, verdict => do
      let before ← ageOf need.name 0
      let shop ← Shop.look
      if shop.isUpdating need.name then
        Shop.warn none ("Circular " ++ key.1 ++ " <- " ++ need.name ++ " dependency dropped.")
        updateNeeds fuel depth key age done rest mustMake verdict
      else
        let wasOptional := (shop.target? need.name).any (·.isOptional)
        let isOptional := (shop.entry? key.1 key.2).any (·.isOptional)
        Shop.alter fun shop => shop.change need.name 0 fun target =>
          { target with parent := some key.1, isOptional }
        let (new, must) ← checkNeed fuel (depth + 1) need.name age mustMake
        let verdict := verdict.worse new
        Shop.alter fun shop => shop.change need.name 0 fun target =>
          { target with isOptional := wasOptional }
        let mustMake := if need.isOrderOnly then mustMake else must
        let shop ← Shop.look
        if verdict ≠ .success ∧ !shop.settings.goesOn then
          return ⟨done.reverse ++ need :: rest, mustMake, verdict⟩
        else
          let after ← ageOf need.name 0
          let isChanged := after != before || before == Age.missing
          updateNeeds fuel depth key age ({ need with isChanged } :: done) rest mustMake verdict

-- Makes those needs that are only on the way, now that this must be.
def updateIntermediates : Nat → Nat → String × Nat → List Need → List Need → Verdict →
    Shop NeedsOutcome
  | 0, _, _, _, _, verdict => pure ⟨[], true, verdict⟩
  | _, _, _, done, [], verdict => pure ⟨done.reverse, true, verdict⟩
  | fuel + 1, depth, key, done, need :: rest, verdict => do
      let shop ← Shop.look
      match shop.target? need.name with
      | none => updateIntermediates fuel depth key (need :: done) rest verdict
      | some target =>
          if !target.isIntermediate then
            updateIntermediates fuel depth key (need :: done) rest verdict
          else
            let before ← ageOf need.name 0
            let isOptional := (shop.entry? key.1 key.2).any (·.isOptional)
            Shop.alter fun shop => shop.change need.name 0 fun target =>
              { target with parent := some key.1, isOptional, isConsidered := false }
            let new ← updateName fuel (depth + 1) need.name
            let verdict := verdict.worse new
            Shop.alter fun shop => shop.change need.name 0 fun inner =>
              { inner with isOptional := target.isOptional }
            if verdict ≠ .success ∧ !shop.settings.goesOn then
              return ⟨done.reverse ++ need :: rest, true, verdict⟩
            else
              let after ← ageOf need.name 0
              let shop ← Shop.look
              let isForced := (shop.entry? key.1 key.2).any fun target =>
                target.isPhony && target.recipe.isSome
              let isChanged := isForced || after != before
              updateIntermediates fuel depth key ({ need with isChanged } :: done) rest verdict

-- Brings a need up to date, and tells whether what needs it must be made. One that is only on the
-- way is not made yet.
def checkNeed : Nat → Nat → String → Age → Bool → Shop (Verdict × Bool)
  | 0, _, _, _, mustMake => pure (.success, mustMake)
  | fuel + 1, depth, name, age, mustMake => do
      let shop ← Shop.look
      match shop.target? name with
      | none => return (.success, mustMake)
      | some target =>
          setUpdating name true
          if target.isPhony || !target.isIntermediate then
            let verdict ← updateName fuel depth name
            let own ← ageOf name 0
            setUpdating name false
            return (verdict, mustMake || own == Age.missing || age < own)
          else
            findCommands name 0
            let own ← ageOf name 0
            if own ≠ Age.missing ∧ age < own then
              setUpdating name false
              return (.success, true)
            else
              Shop.alter fun shop => shop.change name 0 fun target =>
                { target with stage := .idle }
              let shop ← Shop.look
              let needs := ((shop.target? name).map (·.needs)).getD []
              let outcome ← checkNeeds fuel depth name age [] needs mustMake .success
              Shop.alter fun shop => shop.change name 0 fun target =>
                { target with needs := outcome.needs }
              setUpdating name false
              return (outcome.verdict, outcome.mustMake)

def checkNeeds : Nat → Nat → String → Age → List Need → List Need → Bool → Verdict →
    Shop NeedsOutcome
  | 0, _, _, _, _, _, mustMake, verdict => pure ⟨[], mustMake, verdict⟩
  | _, _, _, _, done, [], mustMake, verdict => pure ⟨done.reverse, mustMake, verdict⟩
  | fuel + 1, depth, name, age, done, need :: rest, mustMake, verdict => do
      let shop ← Shop.look
      if shop.isUpdating need.name then
        Shop.warn none ("Circular " ++ name ++ " <- " ++ need.name ++ " dependency dropped.")
        checkNeeds fuel depth name age done rest mustMake verdict
      else
        Shop.alter fun shop => shop.change need.name 0 fun target =>
          { target with parent := some name }
        let (new, must) ← checkNeed fuel (depth + 1) need.name age mustMake
        let verdict := verdict.worse new
        let mustMake := if need.isOrderOnly then mustMake else must
        let shop ← Shop.look
        if verdict ≠ .success ∧ !shop.settings.goesOn then
          return ⟨done.reverse ++ need :: rest, mustMake, verdict⟩
        else checkNeeds fuel depth name age (need :: done) rest mustMake verdict

-- Compares the ages of needs with that of a target. It is told whether some need has changed, and
-- whether one is not there.
def compareNeeds : Nat → Age → List Need → Shop (List Need × Bool × Bool)
  | 0, _, needs => pure (needs, false, false)
  | _, _, [] => pure ([], false, false)
  | fuel + 1, age, need :: rest => do
      let own ← ageOf need.name 0
      let shop ← Shop.look
      let isIntermediate := (shop.target? need.name).any (·.isIntermediate)
      let isGone := !need.isOrderOnly && own == Age.missing && !isIntermediate
      let counts := !need.isOrderOnly && need.isChanged
      let isChanged := need.isChanged || age == Age.missing || Decidable.decide (age < own)
      let (others, changed, missing) ← compareNeeds fuel age rest
      return ({ need with isChanged } :: others, counts || changed, isGone || missing)

end

-- What the work on goals comes to so far.
structure GoalState where
  verdict : Verdict
  isStopped : Bool

def tellIdle (name : String) : Shop Unit := do
  let shop ← Shop.look
  match shop.target? name with
  | none => pure ()
  | some target =>
      if target.verdict = .success ∧ !shop.settings.isSilent ∧ !shop.settings.questions then
        Shop.tell true (if target.isPhony || target.recipe.isNone then
            "Nothing to be done for '" ++ target.shown ++ "'."
          else "'" ++ target.shown ++ "' is up to date.")

-- Brings the entries of a goal up to date one by one. It is told whether commands were run.
def updateGoal (isOptional : Bool) (name : String) : Bool → Verdict → List Nat →
    Shop (Bool × GoalState)
  | hasRun, verdict, [] => pure (hasRun, ⟨verdict, false⟩)
  | hasRun, verdict, number :: rest => do
      Shop.alter fun shop =>
        { shop.change name number fun target => { target with isOptional } with goal := name }
      let before ← Shop.look
      let found ← updateName 1000000 (if before.isRemaking then 1 else 0) name
      let shop ← Shop.look
      let hasRun := hasRun || before.commandsStarted < shop.commandsStarted
      match shop.entry? name number with
      | none => return (hasRun, ⟨verdict, false⟩)
      | some target =>
          let counts := (found != .success || target.isUpdated) &&
            Decidable.decide (verdict.rank < Verdict.question.rank)
          let isFailed := counts && target.verdict != .success
          let age ← ageOf name number
          let isNew := counts && !isFailed && target.isUpdated && hasRun &&
            target.ageBefore != some age
          let pretends := shop.settings.showsOnly || shop.settings.questions
          let verdict := if isFailed then target.verdict
            else if isNew && (!shop.isRemaking || !pretends) then .success
            else verdict
          let isStopped :=
            if isFailed then
              shop.settings.questions && !shop.settings.goesOn && !shop.isRemaking
            else isNew && shop.isRemaking && isOptional
          Shop.alter fun shop => shop.change name number fun target =>
            { target with isOptional := false }
          if isStopped then return (hasRun, ⟨verdict, true⟩)
          else updateGoal isOptional name hasRun verdict rest

-- Brings goals up to date, each of which may be one that does not matter.
def updateGoals : Verdict → List (String × Bool) → Shop Verdict
  | verdict, [] => pure verdict
  | verdict, (name, isOptional) :: rest => do
      let shop ← Shop.look
      let numbers := (shop.entries name).map (·.number)
      let (hasRun, state) ← updateGoal isOptional name false verdict numbers
      if !shop.isRemaking && !hasRun then tellIdle name
      if state.isStopped then return state.verdict else updateGoals state.verdict rest

def startRound : Shop Unit :=
  Shop.alter fun shop => { shop with
    targets := shop.targets.map fun target => { target with isConsidered := false } }

end MakeCheck.Make
