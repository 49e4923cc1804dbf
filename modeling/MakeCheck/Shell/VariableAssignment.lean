import MakeCheck.Shell.Reckoning

namespace MakeCheck.Shell

-- An entry of a collection as it is given: its key if there is one, whether its value is added to
-- what is there, and the value.
structure GivenEntry where
  key : Option String
  appends : Bool
  value : String

-- What a variable is given: a value, perhaps for one of its entries, or the entries of a
-- collection.
inductive Given where
  | value (name : String) (key : Option String) (appends : Bool) (value : String)
  | entries (name : String) (appends : Bool) (entries : List GivenEntry)

def Given.name : Given → String
  | value name .. => name
  | entries name .. => name

-- Why something cannot be given: to a constant, for want of a value, under such a key, or without
-- a key.
inductive GivingFault where
  | constant (name : String)
  | expression (fault : ReckoningFault)
  | subscript (text : String)
  | keyless (name text : String)
deriving DecidableEq

def GivingFault.message : GivingFault → String
  | constant name => name ++ ": readonly variable"
  | expression fault => fault.message
  | subscript text => text ++ ": bad array subscript"
  | keyless name text =>
      name ++ ": " ++ text ++ ": must use subscript when assigning associative array"

def GivingFault.isGrave : GivingFault → Bool
  | expression _ => true
  | _ => false

namespace Process

def traits (process : Process) (name : String) : List Char :=
  (process.extras.traits.lookup name).getD []

def withTraits (process : Process) (name : String) (traits : List Char) : Process :=
  let others := process.extras.traits.filter fun entry => entry.1 != name
  let extras := { process.extras with
    traits := if traits.isEmpty then others else (name, traits) :: others }
  { process with extras }

-- The mark of a variable that is declared, but has been given nothing.
def bareMark : Char := '-'

def markGiven (process : Process) (name : String) : Process :=
  process.withTraits name ((process.traits name).filter (· != bareMark))

-- A value as a variable takes it: as a number, or in letters of one case.
def taken (process : Process) (name : String) (old : Option String) (appends : Bool)
    (value : String) : Except GivingFault (String × Process) :=
  let traits := process.traits name
  if traits.contains 'i' then do
    let reckoned (text : String) (process : Process) : Except GivingFault (Int × Process) :=
      (process.reckon text).mapError GivingFault.expression
    let (added, process) ← reckoned value process
    let (before, process) ← if appends then reckoned (old.getD "") process else pure (0, process)
    return (toString (wrapped (before + added)), process)
  else
    let text := (if appends then old.getD "" else "") ++ value
    let shown := if traits.contains 'u' then text.toUpper
      else if traits.contains 'l' then text.toLower
      else text
    return (shown, process)

def notice (process : Process) (name value : String) : Process :=
  match name with
  | "RANDOM" =>
      let bare := process.unset name
      let seed := numberOf value % 4294967296
      { bare with extras := { bare.extras with seed, lastRandom := 0 } }
  | "SECONDS" =>
      let startedAt := process.time - numberOf value * 1000000000
      let extras := { process.extras with startedAt }
      { (process.unset name) with extras }
  | _ => process.withIndex name value

def keyFor (process : Process) (name key : String) : Except GivingFault (String × Process) :=
  if process.isTable name then
    if key = "" then .error (.subscript (name ++ "[]")) else .ok (key, process)
  else
    match process.reckon key with
    | .error fault => .error (.expression fault)
    | .ok (place, process) =>
        match process.placeKey? name place with
        | some key => .ok (key, process)
        | none => .error (.subscript (name ++ "[" ++ key ++ "]"))

def fill (process : Process) (name : String) : Nat → List GivenEntry →
    Except GivingFault Process
  | _, [] => .ok process
  | place, ⟨none, _, value⟩ :: rest => do
      let (value, process) ← process.taken name none false value
      fill (process.putEntry name (toString place) value) name (place + 1) rest
  | _, ⟨some key, appends, value⟩ :: rest => do
      let (key, process) ← process.keyFor name key
      let (value, process) ← process.taken name (process.entry? name key) appends value
      fill (process.putEntry name key value) name (Collection.placeOf key + 1) rest

-- Adds entries under texts. Without keys, keys and values take turns.
def fillTable (process : Process) (name : String) : List GivenEntry →
    Except GivingFault Process
  | [] => .ok process
  | ⟨some key, appends, value⟩ :: rest => do
      let (value, process) ← process.taken name (process.entry? name key) appends value
      fillTable (process.putEntry name key value) name rest
  | ⟨none, _, key⟩ :: ⟨none, _, value⟩ :: rest => do
      let (value, process) ← process.taken name none false value
      fillTable (process.putEntry name key value) name rest
  | ⟨none, _, key⟩ :: rest => do
      if rest.isEmpty then fillTable (process.putEntry name key "") name rest
      else .error (.keyless name key)

-- Gives a variable what it is given, or tells why it cannot take it.
def give (process : Process) (given : Given) : Except GivingFault Process := do
  let name := process.aim given.name
  if process.constant.contains name then throw (.constant name)
  match given with
  | .value _ none appends value =>
      let old := if appends then process.value? name else none
      let (value, process) ← process.taken name old appends value
      return (process.assign name value).notice name value
  | .value _ (some key) appends value =>
      let (key, process) ← process.keyFor name key
      let (value, process) ← process.taken name (process.entry? name key) appends value
      return process.putEntry name key value
  | .entries _ appends entries =>
      let old := (process.collection? name).getD
        (.row (((process.bindings.lookup name).map fun value => (0, value)).toList))
      let start : Collection := if appends then old else if old.isTable then .table [] else .row []
      let process := (process.collect name start).markGiven name
      if start.isTable then process.fillTable name entries
      else process.fill name start.nextPlace entries

end Process

end MakeCheck.Shell
