import MakeCheck.Program.Utility
import MakeCheck.Shell.Fields
import MakeCheck.Shell.Process

namespace MakeCheck.Shell

def isNumber (text : String) : Bool :=
  text != "" && text.toList.all Char.isDigit

def numberOf (text : String) : Nat :=
  text.toList.foldl (fun n d => n * 10 + (d.toNat - '0'.toNat)) 0

namespace Process

-- Values that the extended dialect keeps under names of its own.
def ownRow? (process : Process) (name : String) : Option (List String) :=
  let calls := process.extras.calls
  match name with
  | "PIPESTATUS" => some (process.extras.pipe.map toString)
  | "FUNCNAME" =>
      if calls.all (·.1 == "main") then none else some (calls.map (·.1))
  | "BASH_SOURCE" => if calls.isEmpty then none else some (calls.map (·.2.2))
  | "BASH_LINENO" => if calls.isEmpty then none else some (calls.map (toString ·.2.1))
  | "BASH_VERSINFO" => some ["5", "2", "21", "1", "release", "x86_64-pc-linux-gnu"]
  | "GROUPS" => some ["0"]
  | "DIRSTACK" => some (process.place :: process.extras.directories)
  | _ => none

def fixedValue? (process : Process) (name : String) : Option String :=
  let options := process.options
  match name with
  | "SHELLOPTS" =>
      some (":".intercalate ((Options.knownExtended.map (·.1)).filter options.has))
  | "BASHOPTS" =>
      some (":".intercalate ((Options.switches.map (·.1)).filter options.isSwitched))
  | _ => none

def ownValue? (process : Process) (name : String) : Option String :=
  match name with
  | "LINENO" => some (toString process.line)
  | "SECONDS" => some (toString ((process.time - process.extras.startedAt) / 1000000000))
  | "BASHPID" => some (toString (process.number + process.extras.depth))
  | "BASH_COMMAND" => if process.isExtended then some process.extras.command else none
  | "BASH_SUBSHELL" => some (toString process.extras.depth)
  | _ => ((process.ownRow? name).bind List.head?).or (process.fixedValue? name)

-- The entries of a collection. A plain value counts as the first one.
def entries (process : Process) (name : String) : List (String × String) :=
  let name := process.aim name
  match process.collection? name with
  | some collection => collection.entries
  | none =>
      match process.bindings.lookup name, process.ownRow? name with
      | some value, _ => [("0", value)]
      | none, some values => (Collection.ofList values).entries
      | none, none => (process.ownValue? name).toList.map fun value => ("0", value)

-- The key of a place, which may be counted from the end.
def placeKey? (process : Process) (name : String) (place : Int) : Option String :=
  let size := match process.collection? (process.aim name) with
    | some collection => collection.nextPlace
    | none =>
        match process.ownRow? name with
        | some values => values.length
        | none => if (process.bindings.lookup name).isSome then 1 else 0
  let place := if place < 0 then place + (size : Int) else place
  if place < 0 then none else some (toString place)

def isTable (process : Process) (name : String) : Bool :=
  (process.collection? (process.aim name)).any Collection.isTable

def entry? (process : Process) (name key : String) : Option String :=
  match process.collection? (process.aim name) with
  | some collection => collection.get? key
  | none => (process.entries name).lookup key

-- Gives an entry of a collection a value. A plain value becomes the first entry of one.
def putEntry (process : Process) (name key value : String) : Process :=
  let name := process.aim name
  let collection := (process.collection? name).getD
    (.row (((process.bindings.lookup name).map fun value => (0, value)).toList))
  process.collect name (collection.put key value)

def parameter? (process : Process) (name : String) : Option String :=
  match name with
  | "?" => some (toString process.status)
  | "#" => some (toString (process.arguments.length - 1))
  | "$" => some (toString process.number)
  | "!" => process.jobs.head?.map fun job => toString job.number
  | "-" => some process.options.letters
  | _ =>
      if isNumber name then process.arguments[numberOf name]?
      else
        match process.value? name with
        | some value => some value
        | none => if process.isExtended then process.ownValue? name else none

-- The next random number, which lies below the last one of fifteen bits.
def nextRandom (seed : Nat) : Nat × Nat :=
  let seed := if seed = 0 then 123459876 else seed
  let high := seed / 127773
  let next : Int := 16807 * ((seed % 127773 : Nat) : Int) - 2836 * (high : Int)
  let seed := (if next < 0 then next + 0x7fffffff else next).toNat
  (seed, ((seed / 65536) ^^^ (seed % 65536)) % 32768)

def drawn (process : Process) : String × Process :=
  let (first, value) := nextRandom process.extras.seed
  let (seed, value) := if value = process.extras.lastRandom then nextRandom first
    else (first, value)
  (toString value, { process with extras := { process.extras with seed, lastRandom := value } })

def parameter (process : Process) (name : String) : String :=
  (process.parameter? name).getD ""

-- Setting this variable tells which word `getopts` reads next.
def withIndex (process : Process) (name value : String) : Process :=
  if name = "OPTIND" then
    { process with optionIndex := max 1 (numberOf value), optionOffset := none }
  else process

-- The row of a variable in the table of a shell. Programs get the variables row by row.
def tableRow (name : String) : Nat :=
  let codes := name.toUTF8.toList.map UInt8.toNat
  codes.foldl (· + ·) (16 * codes.headD 0) % 39

def tabled (process : Process) : Process :=
  let place (name : String) : Nat :=
    if !process.isExtended then tableRow name
    else if name = "_" then shelves
    else shelf name
  { process with
    bindings := process.bindings.mergeSort fun a b => decide (place a.1 ≤ place b.1) }

def separators (process : Process) : List Char :=
  ((process.value? "IFS").getD blankSeparators).toList

-- What stands between arguments that are put into one text.
def argumentMark (process : Process) : String :=
  match process.value? "IFS" with
  | some text => String.ofList (text.toList.take 1)
  | none => " "

-- The value of a parameter. All arguments together are one value, which the flag leaves a NUL in
-- wherever it is to fall apart.
def whole? (process : Process) (name : String) (asFields : Bool) : Option String :=
  if name = "@" ∨ name = "*" then
    some ((if asFields then "\x00" else process.argumentMark).intercalate process.arguments.tail)
  else process.parameter? name

end Process

end MakeCheck.Shell
