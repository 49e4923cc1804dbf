import MakeCheck.Program.Moment
import MakeCheck.Program.Scan.Machine
import MakeCheck.Program.Scan.Value

namespace MakeCheck.Program.Scan

open Text Decimal

-- What is wrong with a form: it asks for more values than there are, or a conversion makes no
-- sense.
inductive FormFault where
  | tooFew
  | improper (number : Nat)
deriving DecidableEq

def FormFault.message (caller : String) (form : List Char) : FormFault → List Char
  | tooFew => ("not enough arguments passed to " ++ caller ++ "(\"").toList ++ form ++ "\")".toList
  | improper number =>
      ("improper conversion(number " ++ toString number ++ ") in " ++ caller ++ "(\"").toList ++
        form ++ "\")".toList

def sizeLetters : List Char := ['h', 'l', 'L', 'q', 'j', 'z', 't']

-- An extent, and the values that are left. It is missing where there is no value for it.
def settleExtent? (values : List Value) : Extent → Option (Int × List Value)
  | .given count => some (count, values)
  | .argument =>
      match values with
      | value :: rest => some (wholeIn (-Int.pow 2 31) (Int.pow 2 31 - 1) 0 value.toNumber, rest)
      | [] => none

def valueIn (numberForm : List Char) (conversion : Conversion) (width : Int)
    (precision : Option Nat) (value : Value) : Option (List Char) :=
  let leftAligned := conversion.flags.contains '-' || width < 0
  let filled (s : List Char) : List Char :=
    let missing := List.replicate (width.natAbs - s.length) ' '
    if leftAligned then s ++ missing else missing ++ s
  let letter := conversion.letter
  if letter = 's' then
    let s := value.toText numberForm
    some (filled (s.take (precision.getD s.length)))
  else if letter = 'c' then
    some <| filled <| match value.settled with
      | .text s | .outside s => [s.headD '\x00']
      | .number x => [Char.ofNat ((wholeIn (-Int.pow 2 31) (Int.pow 2 31 - 1) 0 x).emod 256).toNat]
      | .unset => ['\x00']
  else if integerLetters.contains letter || (decimalLetters.contains letter && letter != 'F') then
    some (shownAs conversion width precision value.toNumber)
  else none

-- Values in a form, as far as that goes. The numbers are those of the conversions.
def formed (numberForm : List Char) : Nat → Nat → List Char → List Value →
    List Char × Option FormFault
  | 0, _, _, _ => ([], none)
  | _, _, [], _ => ([], none)
  | fuel + 1, number, '%' :: '%' :: rest, values =>
      let (shown, fault) := formed numberForm fuel number rest values
      ('%' :: shown, fault)
  | fuel + 1, number, '%' :: rest, values =>
      let flags := rest.takeWhile fun c => ['-', '+', ' ', '#', '0'].contains c
      let (width, rest) := readExtent (rest.drop flags.length)
      let (precision, rest) : Option Extent × List Char :=
        match rest with
        | '.' :: after =>
            let (found, after) := readExtent after
            (some found, after)
        | rest => (none, rest)
      let rest := rest.dropWhile fun c => sizeLetters.contains c
      let letter := rest.headD '\x00'
      let extents := do
        let (width, values) ← settleExtent? values width
        match precision with
        | some precision =>
            let (precision, values) ← settleExtent? values precision
            return (width, some precision, values)
        | none => return (width, none, values)
      match extents with
      | some (width, precision, value :: values) =>
          let precision := (precision.filter fun n => 0 ≤ n).map Int.toNat
          let conversion : Conversion := ⟨flags, .given 0, none, letter, [], []⟩
          match valueIn numberForm conversion width precision value with
          | some shown =>
              let (after, fault) := formed numberForm fuel (number + 1) rest.tail values
              (shown ++ after, fault)
          | none => ([], some (.improper number))
      | _ => ([], some .tooFew)
  | fuel + 1, number, c :: rest, values =>
      let (shown, fault) := formed numberForm fuel number rest values
      (c :: shown, fault)

-- A place that was found: a name, an entry of a table or a field.
inductive Place where
  | name (name : String)
  | entry (table : Nat) (index : Index)
  | field (number : Nat)

namespace Scanner

def fieldNumber (value : Value) : Scanner Nat := do
  let number := wholeIn (-Int.pow 2 31) (Int.pow 2 31 - 1) 0 value.toNumber
  if number < 0 then
    breakOff ("negative field index $".toList ++ (toString number).toList)
  return number.toNat

def valueAt : Place → Scanner Value
  | .name name => return (← look).value name
  | .field number => return (← look).field number
  | .entry id index => do
      onTable id fun table => (table.seek index true).1
      return ((← look).table id).value index

def setAt (place : Place) (value : Value) : Scanner Unit :=
  match place with
  | .name name => assign name value
  | .field number => alter fun machine => machine.setField number value
  | .entry id index =>
      onTable id fun table => ((table.seek index true).1).set index value

def reckoned (operator : Char) (x y : Binary64) : Binary64 :=
  match operator with
  | '+' => x.add y
  | '-' => x.sub y
  | '*' => x.mul y
  | '/' => x.div y
  | '%' => x.remainder y
  | _ => Binary64.applyBoth Float.pow x y

def compared (operator : String) (order : Ordering) : Bool :=
  match operator with
  | "<" => order == .lt
  | "<=" => order != .gt
  | ">" => order == .gt
  | ">=" => order != .lt
  | "==" => order == .eq
  | _ => order != .eq

def shapeIn (shape : List Char) : Scanner Pattern := do
  match readShape shape with
  | .ok pattern => return pattern
  | .error fault => shapeBreak fault shape

-- The part of a text from a place on, which counts from one. A place before the first leaves more
-- of the text.
def partOf (s : List Char) (start : Binary64) (count : Option Binary64) : List Char :=
  let limit : Int := Int.pow 2 31 - 1
  let start := wholeIn (-limit) limit 0 start
  let length := match count with
    | some count => wholeIn (-limit) limit 0 count + max 0 (-start)
    | none => s.length
  (s.drop (start - 1).toNat).take length.toNat

-- The place of a text in another one, which counts from one.
def placeOf (needle : List Char) : Nat → List Char → Nat
  | index, [] => if needle.isEmpty then index else 0
  | index, c :: rest =>
      if needle.isPrefixOf (c :: rest) then index else placeOf needle (index + 1) rest

def splitBy (text : List Char) (separator : Separator) : Scanner (List Value) :=
  return (fieldsOf separator text).map Value.outside

-- Opens what is read line by line, unless it is open. A file that is not there cannot be read.
def feedFrom (isCommand : Bool) (name : String) : Scanner Bool := do
  let machine ← look
  if machine.feeds.any fun feed => feed.name == name then return true
  else
    let use (code : Option Nat) (bytes : List UInt8) : Scanner Bool := do
      alter fun machine =>
        { machine with feeds := ⟨name, code, byteChars bytes⟩ :: machine.feeds }
      return true
    if isCommand then
      let reply ← run (pipeWords name) none true
      use (some (codeIn reply)) reply.output
    else if inputNames.contains name then
      -- What was taken for the records is lost to others.
      if machine.input.isSome then use none []
      else
        let text ← inputText
        endInput
        alter fun machine => { machine with input := some [] }
        use none (charBytes text)
    else
      match machine.around.files.sample machine.around.directory ⟨name⟩ with
      | .ok bytes => use none bytes
      | .error .isADirectory => readFail name .isADirectory
      | .error _ => return false

def lineOf (isCommand : Bool) (name : String) : Scanner (Bool × Option (List Char)) := do
  if ← feedFrom isCommand name then return (true, ← advance name)
  return (false, none)

-- Puts a line where it belongs, and tells whether there was one.
def takeLine (place : Option Place) (found : Bool × Option (List Char)) : Scanner Value := do
  match found with
  | (false, _) => return .ofInt (-1)
  | (true, none) => return .ofNat 0
  | (true, some line) =>
      match place with
      | some place => setAt place (.outside line)
      | none => alter fun machine => machine.setRecord line
      return .ofNat 1

def plainly (function : String) (arguments : List Value) : Scanner Value := do
  let machine ← look
  let text (i : Nat) : List Char := machine.shown ((arguments[i]?).getD .unset)
  let number (i : Nat) : Binary64 := ((arguments[i]?).getD .unset).toNumber
  let name (i : Nat) : String := Utf8.decodeLossy (charBytes (text i))
  match function with
  | "length" =>
      return .ofNat (if arguments.isEmpty then machine.record.length else (text 0).length)
  | "index" => return .ofNat (placeOf (text 1) 1 (text 0))
  | "substr" =>
      let size? : Option Binary64 := if arguments.length = 3 then some (number 2) else none
      return .text (partOf (text 0) (number 1) size?)
  | "sprintf" =>
      match formed machine.numberForm (text 0).length 1 (text 0) arguments.tail with
      | (shown, none) => return .text shown
      | (_, some fault) => breakOff (fault.message "sprintf" (text 0))
  | "sin" => return .number (Binary64.apply Float.sin (number 0))
  | "cos" => return .number (Binary64.apply Float.cos (number 0))
  | "atan2" => return .number (Binary64.applyBoth Float.atan2 (number 0) (number 1))
  | "exp" => return .number (Binary64.apply Float.exp (number 0))
  | "log" => return .number (Binary64.apply Float.log (number 0))
  | "sqrt" => return .number (Binary64.apply Float.sqrt (number 0))
  | "int" => return .number (number 0).truncate
  | "rand" => return .number (.ofRatio false 1 2)
  | "srand" =>
      let now := .ofInt (machine.around.now.fdiv Time.second)
      put { machine with seed := (arguments[0]?).getD now }
      return machine.seed
  | "tolower" => return .text ((text 0).map Char.toLower)
  | "toupper" => return .text ((text 0).map Char.toUpper)
  | "system" => return .ofNat (codeIn (← run ["sh", "-c", name 0] none false))
  | "close" => return .ofInt (← close (name 0))
  | "fflush" =>
      flushAll
      return .ofNat 0
  | "systime" => return .ofInt (machine.around.now.fdiv Time.second)
  | "strftime" =>
      let form := if arguments.isEmpty then "%c".toList else (name 0).toList
      let time : Int := if arguments.length < 2 then machine.around.now
        else (wholeIn 0 (Int.pow 2 40) 0 (number 1)) * Time.second
      return .text (patternChars (formatMoment (Moment.ofTime time) form))
  | _ => return .ofInt (-1)

end Scanner

open Scanner

-- Whether a script ends before all records are read may depend on what it prints.
def printedBy (machine : Machine) (arguments : List Value) : List Char :=
  let form := machine.textOf "OFMT"
  let values := arguments.map fun value => value.toText form
  (machine.textOf "OFS").intercalate values ++ machine.textOf "ORS"

mutual

def evaluate : Nat → Expression → Scanner Value
  | 0, _ => lose
  | fuel + 1, expression => do
      match expression with
      | .number value => return .number value
      | .text text => return .text text
      | .shape shape =>
          let pattern ← shapeIn shape
          return .ofBool (pattern.find? false (← look).record).isSome
      | .name name => return (← look).value name
      | .entry .. | .field _ => valueAt (← resolve fuel expression)
      | .row values => do
          let machine ← look
          return .text ((machine.textOf "SUBSEP").intercalate
            ((← evaluateAll fuel values).map machine.shown))
      | .group inner => evaluate fuel inner
      | .assign place operator value => do
          match operator with
          | none =>
              let given ← evaluate fuel value
              let place ← resolve fuel place
              setAt place given
              return given
          | some operator =>
              let place ← resolve fuel place
              let given ← evaluate fuel value
              let changed := reckoned operator (← valueAt place).toNumber given.toNumber
              setAt place (.number changed)
              return .number changed
      | .step isFirst isUp target => do
          let place ← resolve fuel target
          let before := (← valueAt place).toNumber
          let after := if isUp then before.add (.ofInt 1) else before.sub (.ofInt 1)
          setAt place (.number after)
          return .number (if isFirst then after else before)
      | .choice condition yes no => do
          if (← evaluate fuel condition).holds then evaluate fuel yes else evaluate fuel no
      | .and left right => do
          if !(← evaluate fuel left).holds then return .ofBool false
          return .ofBool (← evaluate fuel right).holds
      | .or left right => do
          if (← evaluate fuel left).holds then return .ofBool true
          return .ofBool (← evaluate fuel right).holds
      | .not operand => return .ofBool (!(← evaluate fuel operand).holds)
      | .minus operand => return .number (← evaluate fuel operand).toNumber.negate
      | .plus operand => return .number (← evaluate fuel operand).toNumber
      | .reckon operator left right => do
          let x ← evaluate fuel left
          let y ← evaluate fuel right
          return .number (reckoned operator x.toNumber y.toNumber)
      | .chain left right => do
          let x ← evaluate fuel left
          let y ← evaluate fuel right
          let machine ← look
          return .text (machine.shown x ++ machine.shown y)
      | .compare operator left right => do
          let x ← evaluate fuel left
          let y ← evaluate fuel right
          return .ofBool (compared operator (Value.compare (← look).numberForm x y))
      | .fits negated text shape => do
          let value ← evaluate fuel text
          let pattern ← patternOf fuel shape
          let found := pattern.find? false ((← look).shown value)
          return .ofBool (found.isSome != negated)
      | .within index name => do
          let values ← evaluateAll fuel index
          let (machine, id) := (← look).tableOf name
          put machine
          let index := machine.indexOf values
          onTable id fun table => (table.seek index false).1
          return .ofBool (((← look).table id).has index)
      | .call function arguments => call fuel function arguments
      | .builtin function arguments => callBuiltin fuel function arguments
      | .line place => do
          let place ← resolve? fuel place
          match ← nextRecord (Nat.pow 2 20) with
          | some record =>
              countRecord
              takeLine place (true, some record)
          | none => return .ofNat 0
      | .fileLine file place => do
          let name ← evaluateName fuel file
          let place ← resolve? fuel place
          takeLine place (← lineOf false name)
      | .commandLine command place => do
          let name ← evaluateName fuel command
          let place ← resolve? fuel place
          takeLine place (← lineOf true name)

def evaluateAll : Nat → List Expression → Scanner (List Value)
  | 0, _ => lose
  | _, [] => return []
  | fuel + 1, expression :: rest => do
      let value ← evaluate fuel expression
      return value :: (← evaluateAll fuel rest)

def evaluateName : Nat → Expression → Scanner String
  | 0, _ => lose
  | fuel + 1, expression => do
      let value ← evaluate fuel expression
      return Utf8.decodeLossy (charBytes ((← look).shown value))

def resolve : Nat → Expression → Scanner Place
  | 0, _ => lose
  | fuel + 1, expression => do
      match expression with
      | .entry name index =>
          let values ← evaluateAll fuel index
          let (machine, id) := (← look).tableOf name
          put machine
          return .entry id (machine.indexOf values)
      | .field index => return .field (← fieldNumber (← evaluate fuel index))
      | .name name => return .name name
      | _ => return .field 0

def resolve? : Nat → Option Expression → Scanner (Option Place)
  | 0, _ => lose
  | _, none => return none
  | fuel + 1, some expression => return some (← resolve fuel expression)

-- What an expression stands for where a shape is expected.
def patternOf : Nat → Expression → Scanner Pattern
  | 0, _ => lose
  | fuel + 1, expression => do
      match expression with
      | .shape shape => shapeIn shape
      | .group (.shape shape) => shapeIn shape
      | _ =>
          let value ← evaluate fuel expression
          shapeIn ((← look).shown value)

-- What a function is given for its parameters. A name may stand for a table.
def handOver : Nat → List Expression → Scanner (List Cell)
  | 0, _ => lose
  | _, [] => return []
  | fuel + 1, expression :: rest => do
      let cell ←
        match expression with
        | .name name => do
            let (machine, cell) := (← look).handed name
            put machine
            pure cell
        | _ => do pure (Cell.single (← evaluate fuel expression))
      return cell :: (← handOver fuel rest)

def call : Nat → String → List Expression → Scanner Value
  | 0, _, _ => lose
  | fuel + 1, name, arguments => do
      let cells ← handOver fuel arguments
      let machine ← look
      match machine.functions.find? fun function => function.name == name with
      | none => return .unset
      | some function =>
          let filled := cells ++
            List.replicate (function.parameters.length - cells.length) (Cell.single .unset)
          put { machine with locals := function.parameters.zip filled }
          let value ← tryCatch (do
              executeAll fuel function.body
              return Value.unset)
            fun stop => match stop with
              | .giveBack value => return value
              | stop => throw stop
          alter fun after => { after with locals := machine.locals }
          return value

def callBuiltin : Nat → String → List Expression → Scanner Value
  | 0, _, _ => lose
  | fuel + 1, function, arguments => do
      match function, arguments with
      | "length", [.name name] =>
          let machine ← look
          match (machine.locals.lookup name).or (machine.globals.get? name) with
          | some (.table id) | some (.shared id) => return .ofNat (machine.table id).size
          | _ => return .ofNat (machine.shown (machine.value name)).length
      | "split", text :: .name name :: separator => do
          let value ← evaluate fuel text
          let separator ← match separator with
            | [.shape shape] => do pure (Separator.pattern (← shapeIn shape))
            | [expression] => do
                let given ← evaluate fuel expression
                let shape := (← look).shown given
                match Scan.fieldSeparator shape with
                | .ok separator => pure separator
                | .error fault => shapeBreak fault shape
            | _ => do pure (← look).fieldSeparator
          let (machine, id) := (← look).tableOf name
          let values := (fieldsOf separator (machine.shown value)).map Value.outside
          put (machine.setTable id (.ofList values))
          return .ofNat values.length
      | "match", [text, shape] => do
          let value ← evaluate fuel text
          let pattern ← patternOf fuel shape
          let (start, length) : Int × Int :=
            match pattern.find? false ((← look).shown value) with
            | some (start, found) => (start + 1, found.stop - start)
            | none => (0, -1)
          assign "RSTART" (.ofInt start)
          assign "RLENGTH" (.ofInt length)
          return .ofInt start
      | "sub", shape :: form :: target => replace fuel false shape form target.head?
      | "gsub", shape :: form :: target => replace fuel true shape form target.head?
      | _, _ => plainly function (← evaluateAll fuel arguments)

def replace : Nat → Bool → Expression → Expression → Option Expression → Scanner Value
  | 0, _, _, _, _ => lose
  | fuel + 1, isGlobal, shape, form, target => do
      let pattern ← patternOf fuel shape
      let form ← evaluate fuel form
      let place ← resolve fuel (target.getD (.field (.number .zero)))
      let value ← valueAt place
      let machine ← look
      let (changed, count) :=
        replaceIn pattern isGlobal (machine.shown form) (machine.shown value)
      if 0 < count then setAt place (.text changed)
      return .ofNat count

def executeAll : Nat → List Statement → Scanner Unit
  | 0, _ => lose
  | _, [] => return ()
  | fuel + 1, statement :: rest => do
      execute fuel statement
      executeAll fuel rest

def execute : Nat → Statement → Scanner Unit
  | 0, _ => lose
  | fuel + 1, statement => do
      match statement with
      | .value expression =>
          let _ ← evaluate fuel expression
      | .print isFormed arguments target => do
          let values ← evaluateAll fuel arguments
          let machine ← look
          let (shown, fault) : List Char × Option (List Char) :=
            if isFormed then
              let form := machine.shown (values.headD .unset)
              let (shown, fault) := formed machine.numberForm form.length 1 form values.tail
              (shown, fault.map (·.message "printf" form))
            else
              let values := if arguments.isEmpty then [machine.field 0] else values
              (printedBy machine values, none)
          match target with
          | none => print (charBytes shown)
          | some (direction, name) => send direction (← evaluateName fuel name) (charBytes shown)
          match fault with
          | some message => breakOff message
          | none => return ()
      | .block body => executeAll fuel body
      | .choice condition yes no =>
          if (← evaluate fuel condition).holds then execute fuel yes else execute fuel no
      | .loop condition body step => loop fuel condition body step
      | .repeated body condition =>
          if ← round fuel body then loop fuel condition body (.block [])
      | .each name table body => do
          let (machine, id) := (← look).tableOf table
          put machine
          onTable id Table.named
          eachOf fuel name ((← look).table id).order body
      | .nextRecord => throw .nextRecord
      | .nextFile => throw .nextFile
      | .leave => throw .leave
      | .again => throw .again
      | .finish code => do
          match code with
          | some code =>
              let value ← evaluate fuel code
              let number := wholeIn (-Int.pow 2 31) (Int.pow 2 31 - 1) 0 value.toNumber
              alter fun machine => { machine with code := (number.emod 256).toNat }
          | none => pure ()
          throw .finish
      | .giveBack value => do
          match value with
          | some expression => throw (.giveBack (← evaluate fuel expression))
          | none => throw (.giveBack .unset)
      | .erase name index => do
          let values ← evaluateAll fuel index
          let (machine, id) := (← look).tableOf name
          put machine
          let index := machine.indexOf values
          onTable id fun table => table.erase index
      | .clear name => do
          let (machine, id) := (← look).tableOf name
          put (machine.setTable id .empty)

-- One round of a loop, and whether another one may follow.
def round : Nat → Statement → Scanner Bool
  | 0, _ => lose
  | fuel + 1, body =>
      tryCatch (do
          execute fuel body
          return true)
        fun stop => match stop with
          | .leave => return false
          | .again => return true
          | stop => throw stop

def loop : Nat → Expression → Statement → Statement → Scanner Unit
  | 0, _, _, _ => lose
  | fuel + 1, condition, body, step => do
      if (← evaluate fuel condition).holds then
        if ← round fuel body then
          execute fuel step
          loop fuel condition body step

def eachOf : Nat → String → List (List Char) → Statement → Scanner Unit
  | 0, _, _, _ => lose
  | _, _, [], _ => return ()
  | fuel + 1, name, key :: rest, body => do
      assign name (.text key)
      if ← round fuel body then eachOf fuel name rest body

end

end MakeCheck.Program.Scan
