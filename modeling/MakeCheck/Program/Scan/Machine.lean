import MakeCheck.Program.Plan
import MakeCheck.Program.Scan.Script
import MakeCheck.Program.Scan.Shape
import MakeCheck.Program.Scan.Table

namespace MakeCheck.Program.Scan

open Text Decimal

-- What a name stands for: a single value, a table, or what may still become a table where it was
-- handed over to a function.
inductive Cell where
  | single (value : Value)
  | table (id : Nat)
  | shared (id : Nat)

-- Where output goes that is not printed at once.
inductive Sink where
  | output
  | errors
  | file (pending : List UInt8)
  | command (pending : List UInt8)

-- What is read line by line besides the input. What a command has come to is kept.
structure Feed where
  name : String
  code : Option Nat
  rest : List Char

-- What is done for others to see.
inductive Deed where
  | say (channel : Channel) (bytes : List UInt8)
  | place (files : FileStore)
  | consume

-- What the work on records has come to.
structure Machine where
  around : Surroundings
  functions : List Function
  globals : Std.HashMap String Cell
  locals : List (String × Cell)
  tables : Std.HashMap Nat Table
  fields : List Value
  record : List Char
  fieldSeparator : Separator
  recordSeparator : Separator
  -- The number of the next operand, and whether there was a file among those before.
  operand : Nat
  hasFile : Bool
  -- What is left of the file that is being read, and of the input of the program.
  current : Option (List Char)
  isInput : Bool
  input : Option (List Char)
  inputEnds : Bool
  feeds : List Feed
  -- The one that was used last stands at the front.
  sinks : List (String × Sink)
  -- What was printed but not written yet, the latest first.
  buffer : List (List UInt8)
  printed : Nat
  code : Nat
  -- The stretches of records that have begun.
  begun : List Nat
  seed : Value
  -- What is known of the commands that are still to be started.
  replies : List Reply
  -- What was done since a command was started, the latest first.
  deeds : List Deed

-- Why work on a statement does not go on. It may have to be known what becomes of a command, or
-- there may be no end to it.
inductive Stop where
  | leave
  | again
  | nextRecord
  | nextFile
  | finish
  | failed
  | giveBack (value : Value)
  | ask (errand : Errand)
  | endless

abbrev Scanner := ExceptT Stop (StateM Machine)

namespace Machine

def single? (machine : Machine) (name : String) : Option Value :=
  match (machine.locals.lookup name).or (machine.globals.get? name) with
  | some (.single value) => some value
  | _ => none

def value (machine : Machine) (name : String) : Value :=
  (machine.single? name).getD .unset

def textOf (machine : Machine) (name : String) : List Char :=
  (machine.value name).toText "%.6g".toList

def numberForm (machine : Machine) : List Char := machine.textOf "CONVFMT"

def shown (machine : Machine) (value : Value) : List Char :=
  value.toText machine.numberForm

def setCell (machine : Machine) (name : String) (cell : Cell) : Machine :=
  if (machine.locals.lookup name).isSome then
    { machine with locals := machine.locals.map fun entry =>
        if entry.1 = name then (name, cell) else entry }
  else { machine with globals := machine.globals.insert name cell }

def setGlobal (machine : Machine) (name : String) (value : Value) : Machine :=
  { machine with globals := machine.globals.insert name (.single value) }

def split (machine : Machine) : Machine :=
  let fields := (fieldsOf machine.fieldSeparator machine.record).map Value.outside
  { machine with fields }.setGlobal "NF" (.ofNat fields.length)

def setRecord (machine : Machine) (record : List Char) : Machine :=
  { machine with record }.split

def rejoined (machine : Machine) : Machine :=
  let between := machine.textOf "OFS"
  let fields := machine.fields.map machine.shown
  { machine with record := between.intercalate fields }

def field (machine : Machine) (number : Nat) : Value :=
  if number = 0 then .outside machine.record
  else (machine.fields[number - 1]?).getD (.outside [])

def setFieldCount (machine : Machine) (count : Nat) : Machine :=
  let missing := List.replicate (count - machine.fields.length) (Value.text [])
  let fields := machine.fields.take count ++ missing
  ({ machine with fields }.setGlobal "NF" (.ofNat count)).rejoined

def setField (machine : Machine) (number : Nat) (value : Value) : Machine :=
  if number = 0 then machine.setRecord (machine.shown value)
  else
    let count := max number machine.fields.length
    let missing := List.replicate (count - machine.fields.length) (Value.text [])
    let fields := (machine.fields ++ missing).set (number - 1) value
    ({ machine with fields }.setGlobal "NF" (.ofNat count)).rejoined

def newTable (machine : Machine) : Machine × Nat :=
  let id := machine.tables.size
  ({ machine with tables := machine.tables.insert id .empty }, id)

-- The table that a name stands for. A name that stands for nothing gets one.
def tableOf (machine : Machine) (name : String) : Machine × Nat :=
  match (machine.locals.lookup name).or (machine.globals.get? name) with
  | some (.table id) => (machine, id)
  | some (.shared id) => (machine.setCell name (.table id), id)
  | _ =>
      let (fresh, id) := machine.newTable
      (fresh.setCell name (.table id), id)

def table (machine : Machine) (id : Nat) : Table :=
  (machine.tables.get? id).getD .empty

def setTable (machine : Machine) (id : Nat) (table : Table) : Machine :=
  { machine with tables := machine.tables.insert id table }

-- What a function gets for a name: its value, or the table that it stands for or may stand for yet.
def handed (machine : Machine) (name : String) : Machine × Cell :=
  match (machine.locals.lookup name).or (machine.globals.get? name) with
  | some (.single .unset) | none =>
      let (fresh, id) := machine.newTable
      (fresh.setCell name (.shared id), .shared id)
  | some cell => (machine, cell)

def indexOf (machine : Machine) : List Value → Index
  | [.number x] =>
      match x.whole? with
      | some n =>
          if -greatestSigned - 1 ≤ n ∧ n ≤ greatestSigned + 1 then .whole (min n greatestSigned)
          else .text (inForm machine.numberForm x)
      | none => .text (inForm machine.numberForm x)
  | values => .text ((machine.textOf "SUBSEP").intercalate (values.map machine.shown))

end Machine

namespace Scanner

def look : Scanner Machine :=
  get

def alter (change : Machine → Machine) : Scanner Unit :=
  modify change

def put (machine : Machine) : Scanner Unit :=
  set machine

def lose {α : Type} : Scanner α :=
  throw .endless

def perform (deed : Deed) : Scanner Unit :=
  alter fun machine => { machine with deeds := deed :: machine.deeds }

def say (channel : Channel) (bytes : List UInt8) : Scanner Unit :=
  if bytes.isEmpty then pure () else perform (.say channel bytes)

-- Starts a command. All work begins anew as soon as it is known what becomes of it.
def start (errand : Errand) : Scanner Reply := do
  let machine ← look
  match machine.replies with
  | [] => throw (.ask errand)
  | reply :: replies =>
      let around := { machine.around with files := reply.files, now := reply.now }
      put { machine with around, replies, deeds := [] }
      return reply

def onTable (id : Nat) (change : Table → Table) : Scanner Unit :=
  let changed (found : Option Table) : Option Table := some (change (found.getD .empty))
  alter fun machine => { machine with tables := machine.tables.alter id changed }

def flushOutput : Scanner Unit := do
  let machine ← look
  alter fun machine => { machine with buffer := [] }
  say .output machine.buffer.reverse.flatten

def append (path : String) (bytes : List UInt8) : Scanner Unit := do
  let machine ← look
  let around := machine.around
  let old := (around.files.sample around.directory ⟨path⟩).toOption.getD []
  match around.files.write around.directory ⟨path⟩ (old ++ bytes) around.now with
  | .ok files =>
      put { machine with around := { around with files } }
      perform (.place files)
  | .error _ => pure ()

def flushSink : String × Sink → Scanner Unit
  | (path, .file pending) => do
      if !pending.isEmpty then
        append path pending
        alter fun machine =>
          { machine with sinks := machine.sinks.map fun entry =>
              if entry.1 = path then (path, .file []) else entry }
  | _ => pure ()

def flushAll : Scanner Unit := do
  flushOutput
  for sink in (← look).sinks do
    flushSink sink

def fail {α : Type} (message : String) : Scanner α := do
  let machine ← look
  let text := machine.around.name ++ ": " ++ message ++ "\n"
  say .errors (Utf8.encode text)
  alter fun machine => { machine with code := 2 }
  throw .failed

-- Stops because of what happens on the way, and tells which record it was.
def breakOff {α : Type} (message : List Char) : Scanner α := do
  let machine ← look
  let shown (name : String) : List Char := machine.shown (machine.value name)
  let text := byteChars (Utf8.encode (machine.around.name ++ ": run time error: ")) ++ message ++
    "\n\tFILENAME=\"".toList ++ shown "FILENAME" ++ "\" FNR=".toList ++
    machine.shown (.number (machine.value "FNR").toNumber) ++ " NR=".toList ++
    machine.shown (.number (machine.value "NR").toNumber) ++ ['\n']
  say .errors (charBytes text)
  alter fun machine => { machine with code := 2 }
  throw .failed

def shapeBreak {α : Type} (fault : ShapeFault) (shape : List Char) : Scanner α :=
  breakOff (("regular expression compile failed (" ++ fault.message ++ ")\n").toList ++ shape)

-- Runs a command, and takes over what has become of the files.
def run (words : List String) (input : Option (List UInt8)) (captures : Bool) :
    Scanner Reply := do
  flushAll
  start { Errand.plain words with input, captures }

def codeIn (reply : Reply) : Nat :=
  match reply.result with
  | .ok (.exited code) => code
  | .ok (.signalled signal) => 256 + signal
  | .error _ => 127

-- Gives a variable its value, with all that hangs on it.
def assign (name : String) (value : Value) : Scanner Unit := do
  let machine ← look
  if (machine.locals.lookup name).isSome then put (machine.setCell name (.single value))
  else
    let text := value.toText machine.numberForm
    match name with
    | "NF" =>
        let count := wholeIn 0 (Int.pow 2 20) 0 value.toNumber
        put (machine.setFieldCount count.toNat)
    | "FS" =>
        match Scan.fieldSeparator text with
        | .ok fieldSeparator =>
            put ({ machine with fieldSeparator }.setGlobal name value)
        | .error fault => shapeBreak fault text
    | "RS" =>
        match Scan.recordSeparator text with
        | .ok recordSeparator =>
            put ({ machine with recordSeparator }.setGlobal name value)
        | .error fault => shapeBreak fault text
    | _ => put (machine.setCell name (.single value))

-- Prints bytes. Nobody reads on where there is no room any more.
def print (bytes : List UInt8) : Scanner Unit := do
  let machine ← look
  let printed := machine.printed + bytes.length
  put { machine with buffer := bytes :: machine.buffer, printed }
  if machine.around.room.any (· < printed) then throw .failed

def outputNames : List String := ["/dev/stdout", "-"]

def open? (direction : Direction) (name : String) : Scanner Sink := do
  let machine ← look
  let others := machine.sinks.filter fun entry => entry.1 != name
  let use (sink : Sink) : Scanner Sink := do
    alter fun machine => { machine with sinks := (name, sink) :: others }
    return sink
  match machine.sinks.lookup name, direction with
  | some sink, _ => use sink
  | none, .through => do
      flushAll
      use (.command [])
  | none, direction =>
      if outputNames.contains name then use .output
      else if name = "/dev/stderr" then use .errors
      else
        let around := machine.around
        let old := (around.files.sample around.directory ⟨name⟩).toOption.getD []
        let start := if direction == .behind then old else []
        match around.files.writeAs around.directory ⟨name⟩ start
            (Mode.without around.mask FileStore.fileMode) around.now with
        | .ok files =>
            put { machine with around := { around with files } }
            perform (.place files)
            use (.file [])
        | .error fault =>
            fail ("cannot open \"" ++ name ++ "\" for output (" ++ fault.reason ++ ")")

def send (direction : Direction) (name : String) (bytes : List UInt8) : Scanner Unit := do
  let more (sink : Sink) : Scanner Unit :=
    alter fun machine =>
      { machine with sinks := machine.sinks.map fun entry =>
          if entry.1 = name then (name, sink) else entry }
  match ← open? direction name with
  | .output => print bytes
  | .errors => say .errors bytes
  | .file pending => more (.file (pending ++ bytes))
  | .command pending => more (.command (pending ++ bytes))

def pipeWords (command : String) : List String := ["/bin/sh", "-c", command]

def closeSink (name : String) (sink : Sink) : Scanner Nat := do
  flushSink (name, sink)
  alter fun machine =>
    { machine with sinks := machine.sinks.filter fun entry => entry.1 != name }
  match sink with
  | .command pending =>
      return codeIn (← start { Errand.plain (pipeWords name) with input := some pending })
  | _ => return 0

def close (name : String) : Scanner Int := do
  let machine ← look
  let feed := machine.feeds.find? fun feed => feed.name == name
  match machine.sinks.lookup name, feed with
  | some sink, _ => return (← closeSink name sink)
  | none, some feed =>
      put { machine with feeds := machine.feeds.filter fun other => other.name != name }
      return (feed.code.getD 0 : Nat)
  | none, none => return -1

def advance (name : String) : Scanner (Option (List Char)) := do
  let machine ← look
  match machine.feeds.find? fun feed => feed.name == name with
  | none => return none
  | some feed =>
      match nextRecord? machine.recordSeparator feed.rest with
      | none => return none
      | some (record, rest) =>
          put { machine with feeds := machine.feeds.map fun other =>
            if other.name = name then { feed with rest } else other }
          return some record

-- What a file is told about that cannot be opened to be read.
def readFail {α : Type} (name : String) (fault : Fault) : Scanner α :=
  match fault with
  | .isADirectory | .badDescriptor => fail ("read error (" ++ fault.reason ++ ")")
  | fault => fail ("cannot open \"" ++ name ++ "\" (" ++ fault.reason ++ ")")

def inputText : Scanner (List Char) := do
  let machine ← look
  match machine.input, machine.around.input with
  | some rest, _ => return rest
  | none, .ok bytes => return byteChars bytes
  | none, .error fault => readFail "/dev/stdin" fault

def endInput : Scanner Unit := do
  let machine ← look
  if !machine.inputEnds then
    put { machine with inputEnds := true }
    perform .consume

def nextOfInput : Scanner (Option (List Char)) := do
  let text ← inputText
  let machine ← look
  match nextRecord? machine.recordSeparator text with
  | none =>
      endInput
      alter fun machine => { machine with input := some [] }
      return none
  | some (record, rest) =>
      alter fun machine => { machine with input := some rest }
      return some record

def inputNames : List String := ["-", "/dev/stdin"]

-- The name and the value of an operand that sets a variable.
def setting? (operand : List Char) : Option (String × List Char) :=
  let name := operand.takeWhile fun c => c.isAlphanum || c == '_'
  match name, operand.drop name.length with
  | c :: _, '=' :: value => if c.isDigit then none else some (String.ofList name, value)
  | _, _ => none

def unescaped (text : List Char) : List Char :=
  let style : EscapeStyle := ⟨false, true, ['\x22'], false, false⟩
  byteChars (unescape style 0 text).1

-- Goes on to the next file among the operands. The fuel is their number.
def nextFile : Nat → Scanner Bool
  | 0 => return false
  | fuel + 1 => do
      let machine ← look
      let count := wholeIn 0 (Int.pow 2 20) 0 (machine.value "ARGC").toNumber
      let (known, id) := machine.tableOf "ARGV"
      put known
      let isOver := decide (count ≤ machine.operand)
      let operand := known.shown ((known.table id).value (.whole machine.operand))
      let first := machine.isInput || machine.hasFile
      if isOver && first then return false
      else if isOver then
        alter fun machine => { machine with isInput := true, current := none }
        return true
      else
        alter fun machine => { machine with operand := machine.operand + 1 }
        match operand, setting? operand with
        | [], _ => nextFile fuel
        | _, some (name, value) =>
            assign name (.outside (unescaped value))
            nextFile fuel
        | _, none =>
            let name := Utf8.decodeLossy (charBytes operand)
            let isInput := inputNames.contains name
            alter fun machine =>
              ({ machine with hasFile := true, isInput }.setGlobal "FILENAME"
                (.outside operand)).setGlobal "FNR" (.ofNat 0)
            if isInput then
              alter fun machine => { machine with current := none }
              return true
            else
              match machine.around.files.sample machine.around.directory ⟨name⟩ with
              | .ok bytes =>
                  alter fun machine => { machine with current := some (byteChars bytes) }
                  return true
              | .error fault => readFail name fault

def nextRecord : Nat → Scanner (Option (List Char))
  | 0 => return none
  | fuel + 1 => do
      let machine ← look
      let found ←
        if machine.isInput then nextOfInput
        else
          match machine.current.bind (nextRecord? machine.recordSeparator) with
          | some (record, rest) => do
              alter fun machine => { machine with current := some rest }
              pure (some record)
          | none => pure none
      match found with
      | some record => return some record
      | none =>
          if ← nextFile (machine.operand + fuel) then nextRecord fuel
          else
            alter fun machine => { machine with isInput := false, current := none, hasFile := true }
            return none

def countRecord : Scanner Unit := do
  let raised (machine : Machine) (name : String) : Machine :=
    machine.setGlobal name (.number ((machine.value name).toNumber.add (.ofInt 1)))
  alter fun machine => raised (raised machine "NR") "FNR"

end Scanner

end MakeCheck.Program.Scan
