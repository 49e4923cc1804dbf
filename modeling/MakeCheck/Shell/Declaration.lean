import MakeCheck.Shell.Quoting
import MakeCheck.Shell.Variable

namespace MakeCheck.Shell

-- A word behind a command that declares variables: a plain one, or one that gives a variable
-- something.
inductive Declared where
  | word (text : String)
  | given (given : Given)

def Given.ofText? (text : String) : Option Given :=
  match assignment? .extended [.text false text.toList] with
  | some (.to name key appends word) =>
      some (.value name (key.map fun text => String.ofList (Word.bareText text)) appends
        (String.ofList (Word.bareText word)))
  | none => none

def Declared.settle : Declared → Declared
  | word text =>
      match Given.ofText? text with
      | some found => .given found
      | none => .word text
  | other => other

-- The letters behind the signs at the front of the words, and the other words. The flag tells that
-- a letter is asked for, not taken back.
def signedLetters : List Declared → List (Bool × Char) × List Declared
  | .word text :: rest =>
      match text.toList with
      | sign :: letter :: letters =>
          if text = "--" then ([], rest)
          else if sign = '-' ∨ sign = '+' then
            let (found, words) := signedLetters rest
            ((letter :: letters).map (fun c => (sign == '-', c)) ++ found, words)
          else ([], .word text :: rest)
      | _ => ([], .word text :: rest)
  | words => ([], words)

-- A complaint about an option that a command does not know, with what it does know.
def Step.rejectOption (step : Step) (sign : Char) (letter : Char) (usage : String) : Step :=
  let name := step.process.running.getD ""
  let told := step.complain (String.ofList [sign, letter] ++ ": invalid option")
  (told.writeErrors (Text.Utf8.encode (name ++ ": usage: " ++ usage ++ "\n"))).withStatus 2

def declareUsage : String :=
  "[-aAfFgiIlnrtux] [name[=value] ...] or declare -p [-aAfFilnrtux] [name ...]"

namespace Process

-- Whether a variable is local to the function that runs.
def isLocal (process : Process) (name : String) : Bool :=
  (process.locals.head?.getD []).any fun outer => outer.name == name

def localize (process : Process) (name : String) : Process :=
  match process.locals with
  | [] => process
  | frame :: frames =>
      if process.isLocal name then process
      else
        let outer := process.outer name
        let aims := process.extras.aims.filter fun entry => entry.1 != name
        let bare := { process with
          locals := (outer :: frame) :: frames
          extras := { process.extras with aims } }.unset name
        -- What programs got to see they see still.
        if outer.isExported then bare.expose name else bare

-- Makes a variable a collection of a kind, which keeps a plain value as its first one.
def shape (process : Process) (name : String) (isTable : Bool) : Option Process :=
  match process.collection? name with
  | some collection => if collection.isTable = isTable then some process else none
  | none =>
      let value := process.bindings.lookup name
      some (process.collect name
        (if isTable then .table ((value.map fun value => ("0", value)).toList)
          else .row ((value.map fun value => (0, value)).toList)))

-- Tells of a variable without a value that it is there.
def markBare (process : Process) (name : String) : Process :=
  let isEmpty := (process.collection? name).all (·.size == 0)
  if isEmpty && (process.bindings.lookup name).isNone then
    process.withTraits name (bareMark :: (process.traits name).filter (· != bareMark))
  else process

def mark (process : Process) (name : String) (letters : List (Bool × Char)) : Process :=
  letters.foldl
    (fun (process : Process) (on, letter) =>
      let traits := process.traits name
      let others := traits.filter (· != letter)
      match letter, on with
      | 'i', true | 'u', true | 'l', true =>
          let others := if letter = 'i' then others
            else others.filter fun c => c != 'u' && c != 'l'
          process.withTraits name (letter :: others)
      | 'i', false | 'u', false | 'l', false => process.withTraits name others
      | 'x', true => process.expose name
      | 'x', false =>
          { process with exported := process.exported.filter (· != name) }
      | _, _ => process)
    process

end Process

-- Declares one variable. What it is given comes first, so that what is constant has a value.
def declareOne (command : String) (letters : List (Bool × Char)) (isLocal : Bool) (item : Declared)
    (step : Step) : Step :=
  let has (letter : Char) : Bool := letters.contains (true, letter)
  let prefixed := command != "export" && command != "readonly"
  let refuse (message : String) : Step :=
    if prefixed then step.refuse 1 message
    else ((step.performing none).refuse 1 message).performing step.process.running
  let name := match item with
    | .word text => text
    | .given given => given.name
  if !isName name.toList then
    let shown := match item with
      | .given (.value name key _ value) =>
          name ++ ((key.map fun key => "[" ++ key ++ "]").getD "") ++ "=" ++ value
      | _ => name
    step.refuse 1 ("\x60" ++ shown ++ "\x27: not a valid identifier")
  else if step.process.constant.contains name && (match item with | .given _ => true | _ => false)
  then refuse (name ++ ": readonly variable")
  else
    let process := if isLocal then step.process.localize name else step.process
    if has 'n' then
      let aim := match item with
        | .given (.value _ _ _ value) => value
        | _ => (process.bindings.lookup name).getD ""
      let bare := process.unset name
      let aims := (name, aim) :: bare.extras.aims.filter fun entry => entry.1 != name
      { step with process := { bare with extras := { bare.extras with aims } } }
    else if letters.contains (false, 'n') then
      let aims := process.extras.aims.filter fun entry => entry.1 != name
      { step with process := { process with extras := { process.extras with aims } } }
    else
      let shaped := if has 'A' then process.shape name true
        else if has 'a' then process.shape name false
        else some process
      match shaped with
      | none =>
          step.refuse 1 (name ++ ": cannot convert " ++
            if has 'A' then "indexed to associative array" else "associative to indexed array")
      | some process =>
          let marked := process.mark (process.aim name) letters
          let filled := match item with
            | .given given => marked.give given
            | .word _ => .ok (marked.markBare (process.aim name))
          match filled with
          | .error fault =>
              if fault.isGrave then step.abandon fault.message else refuse fault.message
          | .ok process =>
              let process := if has 'r' then
                  { process with constant := process.aim name :: process.constant }
                else process
              let process := if process.options.exportsAll then process.expose name else process
              { step with process }

def listDeclarations (step : Step) (letters : List Char) : Step :=
  let process := step.process
  let names := process.names.filter fun name =>
    letters.all fun letter => (process.traitLetters name).toList.contains letter
  step.say (String.join (names.map process.declarationText))

def showDeclarations (step : Step) (names : List String) : Step :=
  names.foldl
    (fun (step : Step) name =>
      let status := step.process.status
      if step.process.isKnown name then
        (step.say (step.process.declarationText name)).withStatus status
      else step.refuse 1 (name ++ ": not found"))
    (step.withStatus 0)

def Declared.text : Declared → String
  | word text => text
  | given gift => gift.name

def declarationLetters : List Char :=
  ['a', 'A', 'f', 'F', 'g', 'i', 'I', 'l', 'n', 'p', 'r', 't', 'u', 'x', 'c']

-- Gives variables values and says how they take them. In a function they are local.
def declareVariables (command : String) (items : List Declared) (step : Step) : Step :=
  let (letters, items) := signedLetters items
  let items := items.map Declared.settle
  let isInside := !step.process.locals.isEmpty
  let asked (letter : Char) : Bool := letters.contains (true, letter)
  match letters.find? fun (_, c) => !declarationLetters.contains c with
  | some (on, letter) =>
      step.rejectOption (if on then '-' else '+') letter
        (if command = "local" then "local [option] name[=value] ..."
          else command ++ " " ++ declareUsage)
  | none =>
      if command = "local" && !isInside then step.refuse 1 "can only be used in a function"
      else if asked 'f' || asked 'F' then
        if items.isEmpty then
          let names := (step.process.functions.map (·.1)).mergeSort fun a b => decide (a ≤ b)
          step.say (String.join (names.map fun name => "declare -f " ++ name ++ "\n"))
        else
          let names := items.map Declared.text
          let found := names.filter fun name => (step.process.functions.lookup name).isSome
          let shown := if asked 'F' then found.map (· ++ "\n") else []
          (step.say (String.join shown)).withStatus (if found.length = names.length then 0 else 1)
      else if items.isEmpty && command == "local" then
        let names := ((step.process.locals.head?.getD []).map (·.name)).mergeSort
          fun a b => decide (a ≤ b)
        step.say (String.join (names.map step.process.declarationText))
      else if items.isEmpty then
        let kinds := (letters.filter (·.1)).map (·.2)
        listDeclarations step (kinds.filter fun c => !(['p', 'g', 'I', 't'].contains c))
      else if asked 'p' then showDeclarations step (items.map Declared.text)
      else
        let isLocal := isInside && !asked 'g'
        items.foldl
          (fun (step : Step) item =>
            if step.isGoing then declareOne command letters isLocal item step else step)
          (step.withStatus 0)

def exportVariables (items : List Declared) (step : Step) : Step :=
  let (letters, items) := signedLetters items
  let items := items.map Declared.settle
  let asked (letter : Char) : Bool := letters.contains (true, letter)
  match letters.find? fun (_, c) => !(['f', 'n', 'p'].contains c) with
  | some (_, letter) =>
      step.rejectOption '-' letter "export [-fn] [name[=value] ...] or export -p"
  | none =>
      if items.isEmpty then listDeclarations step ['x']
      else if asked 'f' then
        items.foldl
          (fun (step : Step) item =>
            if (step.process.functions.lookup item.text).isSome then step
            else step.refuse 1 (item.text ++ ": not a function"))
          (step.withStatus 0)
      else
        items.foldl
          (fun (step : Step) item =>
            if step.isGoing then declareOne "export" [(!asked 'n', 'x')] false item step
            else step)
          (step.withStatus 0)

def fixVariables (items : List Declared) (step : Step) : Step :=
  let (letters, items) := signedLetters items
  let items := items.map Declared.settle
  match letters.find? fun (_, c) => !(['a', 'A', 'f', 'p'].contains c) with
  | some (_, letter) =>
      step.rejectOption '-' letter "readonly [-aAf] [name[=value] ...] or readonly -p"
  | none =>
      if items.isEmpty then listDeclarations step ['r']
      else
        items.foldl
          (fun (step : Step) item =>
            if step.isGoing then declareOne "readonly" ((true, 'r') :: letters) false item step
            else step)
          (step.withStatus 0)

-- Takes away variables, entries of collections, or functions.
def removeNames (words : List String) (step : Step) : Step :=
  let (letters, items) := signedLetters (words.map Declared.word)
  let asked (letter : Char) : Bool := letters.contains (true, letter)
  let dropFunction (step : Step) (name : String) : Step :=
    let functions := step.process.functions.filter fun entry => entry.1 != name
    { step with process := { step.process with functions } }
  let dropEntry (step : Step) (name key : String) : Step :=
    if key = "@" ∨ key = "*" then { step with process := step.process.unset name }
    else
      match step.process.keyFor name key with
      | .error _ => step.refuse 1 ("[" ++ key ++ "]: bad array subscript")
      | .ok (found, process) =>
          match process.collection? (process.aim name) with
          | some collection =>
              { step with process := process.collect (process.aim name) (collection.remove found) }
          | none =>
              if found = "0" then { step with process := process.unset name } else step
  let dropVariable (step : Step) (word : String) : Step :=
    let name := if asked 'n' then word else step.process.aim word
    if step.process.constant.contains name then
      step.refuse 1 (name ++ ": cannot unset: readonly variable")
    else if asked 'n' then
      let aims := step.process.extras.aims.filter fun entry => entry.1 != word
      { step with process := { step.process with extras := { step.process.extras with aims } } }
    else
      match word.toList.splitOn '[' with
      | base :: first :: rest =>
          let key := (['['].intercalate (first :: rest)).dropLast
          dropEntry step (String.ofList base) (String.ofList key)
      | _ =>
          if step.process.isKnown name || asked 'v' then
            { step with process := step.process.unset name }
          else dropFunction step word
  match letters.find? fun (_, c) => !(['f', 'v', 'n'].contains c) with
  | some (_, letter) => step.rejectOption '-' letter "unset [-f] [-v] [-n] [name ...]"
  | none =>
      (items.map Declared.text).foldl
        (fun step name => if asked 'f' then dropFunction step name else dropVariable step name)
        (step.withStatus 0)

end MakeCheck.Shell
