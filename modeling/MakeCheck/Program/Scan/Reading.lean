import MakeCheck.Program.Scan.Script
import MakeCheck.Program.Scan.Token

namespace MakeCheck.Program.Scan

-- How far a script has been read, and what was found out on the way.
structure Reading where
  rest : List Placed
  -- What is wrong with it, the latest first.
  faults : List String
  -- The names that hold tables, and those that hold single values.
  kinds : List (String × Bool)
  -- The same for the parameters of the function that is being read.
  parameters : List (String × Option Bool)
  isFunction : Bool
  isRule : Bool
  loops : Nat
  functions : List Function
  calls : List (String × Nat × Nat)

-- Why reading does not go on: a token does not fit, or there is no use in going on at all.
inductive Upset where
  | token (reading : Reading)
  | final (faults : List String)

abbrev Reader := StateT Reading (Except Upset)

namespace Reader

def token : Reader Token := do
  return ((← get).rest.head?.map (·.token)).getD .finish

def following : Reader Token := do
  return ((← get).rest[1]?.map (·.token)).getD .finish

def line : Reader Nat := do
  return ((← get).rest.head?.map (·.line)).getD 1

def skip : Reader Unit :=
  modify fun reading => { reading with rest := reading.rest.tail }

def upset {α : Type} : Reader α := do
  throw (.token (← get))

def tell (message : String) : Reader Unit := do
  let line ← line
  modify fun reading =>
    { reading with faults := ("line " ++ toString line ++ ": " ++ message) :: reading.faults }

def quit {α : Type} (message : String) : Reader α := do
  tell message
  throw (.final (← get).faults)

def isNext (sign : String) : Reader Bool := do
  return (← token) == .sign sign

def take? (sign : String) : Reader Bool := do
  if ← isNext sign then
    skip
    return true
  return false

def expect (sign : String) : Reader Unit := do
  if !(← take? sign) then upset

def isWord (word : String) : Reader Bool := do
  return (← token) == .keyword word

def takeWord? (word : String) : Reader Bool := do
  if ← isWord word then
    skip
    return true
  return false

def skipLines : Reader Unit :=
  modify fun reading =>
    { reading with rest := reading.rest.dropWhile fun placed => placed.token == .newline }

def useAs (isTable : Bool) (name : String) : Reader Unit := do
  let reading ← get
  match reading.parameters.lookup name with
  | some (some kind) =>
      if kind != isTable then
        tell ("illegal reference to local " ++ (if kind then "array " else "variable ") ++ name)
  | some none =>
      let parameters := reading.parameters.map fun entry =>
        if entry.1 == name then (name, some isTable) else entry
      set { reading with parameters }
  | none =>
      match reading.kinds.lookup name with
      | some kind =>
          if kind != isTable then
            tell ("illegal reference to " ++ (if kind then "array " else "variable ") ++ name)
      | none => set { reading with kinds := (name, isTable) :: reading.kinds }

end Reader

open Reader

def assignSigns : List (String × Option Char) :=
  [("=", none), ("+=", some '+'), ("-=", some '-'), ("*=", some '*'), ("/=", some '/'),
    ("%=", some '%'), ("^=", some '^')]

def compareSigns : List String :=
  ["<", "<=", ">", ">=", "==", "!="]

-- Whether an operand that is chained to the one before can begin with a token.
def beginsOperand : Token → Bool
  | .number .. | .text .. | .name _ | .called _ | .builtin _ | .keyword "getline" => true
  | .sign "(" | .sign "$" | .sign "!" | .sign "++" | .sign "--" => true
  | _ => false

def checkShape (shape : List Char) : Reader Unit := do
  match readShape shape with
  | .ok _ => pure ()
  | .error fault =>
      quit ("regular expression compile failed (" ++ fault.message ++ ")\n" ++ String.ofList shape)

def checkAsShape : Expression → Reader Unit
  | .text text => checkShape text
  | _ => pure ()

-- The argument of a function that is a shape, if there is one. A single character that splits is
-- none.
def shapeArgument? (function : String) (arguments : List Expression) : Option Expression :=
  match function, arguments with
  | "sub", shape :: _ | "gsub", shape :: _ | "match", _ :: shape :: _ => some shape
  | "split", _ :: _ :: shape :: _ =>
      match shape with
      | .text [_] => none
      | shape => some shape
  | _, _ => none

def indexOf : Expression → List Expression
  | .row values => values
  | value => [value]

mutual

-- An expression. If it is bare, signs for more and for pipes do not belong to it.
def readExpression : Nat → Bool → Reader Expression
  | 0, _ => upset
  | fuel + 1, bare => do
      let condition ← readDisjunction fuel bare
      if ← take? "?" then
        let yes ← readExpression fuel bare
        expect ":"
        let no ← readExpression fuel bare
        return .choice condition yes no
      return condition

def readDisjunction : Nat → Bool → Reader Expression
  | 0, _ => upset
  | fuel + 1, bare => do
      readDisjunctionRest fuel bare (← readConjunction fuel bare)

def readDisjunctionRest : Nat → Bool → Expression → Reader Expression
  | 0, _, _ => upset
  | fuel + 1, bare, left => do
      if ← take? "||" then
        skipLines
        let right ← readConjunction fuel bare
        readDisjunctionRest fuel bare (.or left right)
      else return left

def readConjunction : Nat → Bool → Reader Expression
  | 0, _ => upset
  | fuel + 1, bare => do
      readConjunctionRest fuel bare (← readMembership fuel bare)

def readConjunctionRest : Nat → Bool → Expression → Reader Expression
  | 0, _, _ => upset
  | fuel + 1, bare, left => do
      if ← take? "&&" then
        skipLines
        let right ← readMembership fuel bare
        readConjunctionRest fuel bare (.and left right)
      else return left

def readMembership : Nat → Bool → Reader Expression
  | 0, _ => upset
  | fuel + 1, bare => do
      readMembershipRest fuel (← readMatching fuel bare)

def readMembershipRest : Nat → Expression → Reader Expression
  | 0, _ => upset
  | fuel + 1, left => do
      if ← takeWord? "in" then
        match ← token with
        | .name table =>
            useAs true table
            skip
            readMembershipRest fuel (.within (indexOf left) table)
        | _ => upset
      else return left

def readMatching : Nat → Bool → Reader Expression
  | 0, _ => upset
  | fuel + 1, bare => do
      readMatchingRest fuel bare (← readComparison fuel bare)

def readMatchingRest : Nat → Bool → Expression → Reader Expression
  | 0, _, _ => upset
  | fuel + 1, bare, left => do
      match ← token with
      | .sign sign =>
          if sign = "~" ∨ sign = "!~" then
            skip
            let right ← readComparison fuel bare
            checkAsShape right
            readMatchingRest fuel bare (.fits (sign == "!~") left right)
          else return left
      | _ => return left

def readComparison : Nat → Bool → Reader Expression
  | 0, _ => upset
  | fuel + 1, bare => do
      readComparisonRest fuel bare (← readSetting fuel bare)

def readComparisonRest : Nat → Bool → Expression → Reader Expression
  | 0, _, _ => upset
  | fuel + 1, bare, left => do
      match ← token with
      | .sign sign =>
          if compareSigns.contains sign && !(bare && sign == ">") then
            skip
            let right ← readSetting fuel bare
            readComparisonRest fuel bare (.compare sign left right)
          else return left
      | _ => return left

def readSetting : Nat → Bool → Reader Expression
  | 0, _ => upset
  | fuel + 1, bare => do
      let left ← readChain fuel bare (← readSum fuel bare)
      match left.isPlace, ← token with
      | true, .sign sign =>
          match assignSigns.lookup sign with
          | some operator =>
              skip
              return .assign left operator (← readExpression fuel bare)
          | none => return left
      | _, _ => return left

def readChain : Nat → Bool → Expression → Reader Expression
  | 0, _, _ => upset
  | fuel + 1, bare, left => do
      let isRow := match left with
        | .row _ => true
        | _ => false
      if !isRow && beginsOperand (← token) then
        let right ← readSum fuel bare
        readChain fuel bare (.chain left right)
      else return left

def readSum : Nat → Bool → Reader Expression
  | 0, _ => upset
  | fuel + 1, bare => do
      readSumRest fuel bare (← readProduct fuel bare)

def readSumRest : Nat → Bool → Expression → Reader Expression
  | 0, _, _ => upset
  | fuel + 1, bare, left => do
      if ← take? "+" then
        readSumRest fuel bare (.reckon '+' left (← readProduct fuel bare))
      else if ← take? "-" then
        readSumRest fuel bare (.reckon '-' left (← readProduct fuel bare))
      else return left

def readProduct : Nat → Bool → Reader Expression
  | 0, _ => upset
  | fuel + 1, bare => do
      readProductRest fuel bare (← readSigned fuel bare)

def readProductRest : Nat → Bool → Expression → Reader Expression
  | 0, _, _ => upset
  | fuel + 1, bare, left => do
      if ← take? "*" then
        readProductRest fuel bare (.reckon '*' left (← readSigned fuel bare))
      else if ← take? "/" then
        readProductRest fuel bare (.reckon '/' left (← readSigned fuel bare))
      else if ← take? "%" then
        readProductRest fuel bare (.reckon '%' left (← readSigned fuel bare))
      else return left

def readSigned : Nat → Bool → Reader Expression
  | 0, _ => upset
  | fuel + 1, bare => do
      if ← take? "!" then return .not (← readSigned fuel bare)
      else if ← take? "-" then return .minus (← readSigned fuel bare)
      else if ← take? "+" then return .plus (← readSigned fuel bare)
      else readPipes fuel bare (← readPower fuel)

def readPipes : Nat → Bool → Expression → Reader Expression
  | 0, _, _ => upset
  | fuel + 1, bare, left => do
      if !bare && (← isNext "|") && (← following) == .keyword "getline" then
        skip
        skip
        readPipes fuel bare (.commandLine left (← readPlace? fuel))
      else return left

def readPower : Nat → Reader Expression
  | 0 => upset
  | fuel + 1 => do
      let base ← readStepped fuel
      if ← take? "^" then return .reckon '^' base (← readExponent fuel)
      else return base

def readExponent : Nat → Reader Expression
  | 0 => upset
  | fuel + 1 => do
      if ← take? "!" then return .not (← readExponent fuel)
      else if ← take? "-" then return .minus (← readExponent fuel)
      else if ← take? "+" then return .plus (← readExponent fuel)
      else readPower fuel

def readStepped : Nat → Reader Expression
  | 0 => upset
  | fuel + 1 => do
      let place ← readOperand fuel
      if place.isPlace then
        if ← take? "++" then return .step false true place
        else if ← take? "--" then return .step false false place
        else return place
      else return place

def readPlace? : Nat → Reader (Option Expression)
  | 0 => upset
  | fuel + 1 => do
      match ← token with
      | .name _ | .sign "$" => return some (← readOperand fuel)
      | _ => return none

def readOperand : Nat → Reader Expression
  | 0 => upset
  | fuel + 1 => do
      match ← token with
      | .number value _ =>
          skip
          return .number value
      | .text text _ =>
          skip
          return .text text
      | .shape shape =>
          checkShape shape
          skip
          return .shape shape
      | .sign "(" =>
          skip
          match ← readList fuel false with
          | [value] =>
              expect ")"
              return .group value
          | values =>
              expect ")"
              return .row values
      | .sign "$" =>
          skip
          return .field (← readFieldNumber fuel)
      | .sign "++" =>
          skip
          readStep fuel true
      | .sign "--" =>
          skip
          readStep fuel false
      | .called function =>
          skip
          if (← get).kinds.lookup function == some false then return .name function
          readCall fuel function
      | .name name =>
          if (← get).functions.any (fun known => known.name == name) && (← following) == .sign "("
          then
            skip
            readCall fuel name
          else if (← following) == .sign "[" then
            useAs true name
            skip
            skip
            let index ← readList fuel false
            expect "]"
            return .entry name index
          else
            let next ← following
            if next != .sign "," && next != .sign ")" then useAs false name
            skip
            return .name name
      | .builtin function =>
          skip
          readBuiltin fuel function
      | .keyword "getline" =>
          skip
          let place ← readPlace? fuel
          if ← take? "<" then return .fileLine (← readPower fuel) place
          else return .line place
      | _ => upset

def readFieldNumber : Nat → Reader Expression
  | 0 => upset
  | fuel + 1 => do
      if ← take? "!" then return .not (← readFieldNumber fuel)
      else if ← take? "-" then return .minus (← readFieldNumber fuel)
      else if ← take? "+" then return .plus (← readFieldNumber fuel)
      else readOperand fuel

def readStep : Nat → Bool → Reader Expression
  | 0, _ => upset
  | fuel + 1, isUp => do
      let place ← readOperand fuel
      if place.isPlace then return .step true isUp place else upset

def readList : Nat → Bool → Reader (List Expression)
  | 0, _ => upset
  | fuel + 1, bare => do
      let first ← readExpression fuel bare
      if ← take? "," then
        skipLines
        return first :: (← readList fuel bare)
      return [first]

def readArguments : Nat → Reader (List Expression)
  | 0 => upset
  | fuel + 1 => do
      expect "("
      if ← take? ")" then return []
      let arguments ← readList fuel false
      expect ")"
      return arguments

def readCall : Nat → String → Reader Expression
  | 0, _ => upset
  | fuel + 1, function => do
      let line ← line
      let arguments ← readArguments fuel
      modify fun reading =>
        { reading with calls := (function, arguments.length, line) :: reading.calls }
      return .call function arguments

def readBuiltin : Nat → String → Reader Expression
  | 0, _ => upset
  | fuel + 1, function => do
      if function = "length" then
        if !(← isNext "(") then return .builtin function []
      let arguments ← readArguments fuel
      if function = "split" then
        let second : Option Expression := arguments[1]?
        match second with
        | some (.name table) => useAs true table
        | _ => pure ()
      match builtins.lookup function with
      | some (least, most) =>
          if arguments.length < least ∨ most < arguments.length then
            tell ("wrong number of arguments in call to " ++ function)
      | none => pure ()
      if let some shape := shapeArgument? function arguments then checkAsShape shape
      return .builtin function arguments

end

def endsStatement : Token → Bool
  | .newline | .finish | .sign ";" | .sign "\x7d" => true
  | _ => false

-- The end of a statement. A brace that closes what is around it ends it as well.
def readEnd : Reader Unit := do
  match ← token with
  | .newline | .sign ";" =>
      skip
      skipLines
  | .sign "\x7d" => pure ()
  | _ => upset

def readOptional (fuel : Nat) : Reader (Option Expression) := do
  if endsStatement (← token) then return none
  return some (← readExpression fuel false)

def readPrint (fuel : Nat) (isFormed : Bool) : Reader Statement := do
  let next ← token
  let isBare := endsStatement next || next == .sign ">" || next == .sign ">>" || next == .sign "|"
  let found ← if isBare then pure [] else readList fuel true
  let arguments := match found with
    | [.row values] => values
    | values => values
  if isFormed && arguments.isEmpty then tell "no arguments in call to printf"
  let direction : Option Direction := match ← token with
    | .sign ">" => some .over
    | .sign ">>" => some .behind
    | .sign "|" => some .through
    | _ => none
  match direction with
  | some direction =>
      skip
      return .print isFormed arguments (some (direction, ← readExpression fuel false))
  | none => return .print isFormed arguments none

def readErase (fuel : Nat) : Reader Statement := do
  match ← token with
  | .name table =>
      useAs true table
      skip
      if ← take? "[" then
        let index ← readList fuel false
        expect "]"
        return .erase table index
      return .clear table
  | _ => upset

def readSimple (fuel : Nat) : Reader Statement := do
  match ← token with
  | .keyword "print" =>
      skip
      readPrint fuel false
  | .keyword "printf" =>
      skip
      readPrint fuel true
  | .keyword "next" =>
      if !(← get).isRule then tell "improper use of next"
      skip
      return .nextRecord
  | .keyword "nextfile" =>
      if !(← get).isRule then tell "improper use of nextfile"
      skip
      return .nextFile
  | .keyword "break" =>
      if (← get).loops = 0 then tell "break statement outside of loop"
      skip
      return .leave
  | .keyword "continue" =>
      if (← get).loops = 0 then tell "continue statement outside of loop"
      skip
      return .again
  | .keyword "exit" =>
      skip
      return .finish (← readOptional fuel)
  | .keyword "return" =>
      if !(← get).isFunction then tell "return outside function body"
      skip
      return .giveBack (← readOptional fuel)
  | .keyword "delete" =>
      skip
      readErase fuel
  | _ => return .value (← readExpression fuel false)

def Placed.report (placed : Placed) : String × Bool :=
  let line := toString placed.line
  let shown := String.ofList placed.token.shown
  match placed.token with
  | .unexpected c => (line ++ ": unexpected character '" ++ c.toString ++ "'", false)
  | .endless isShape _ =>
      let kind := if isShape then "regular expression /" else "string constant \""
      ("line " ++ line ++ ": runaway " ++ kind ++ shown ++ " ...", true)
  | token =>
      let bracket :=
        if 0 < placed.brackets && endsStatement token then some ")"
        else if 0 < placed.braces && token == .finish then some "\x7d"
        else none
      let told := match bracket with
        | some bracket => "missing " ++ bracket ++ " near "
        | none =>
            if token == .sign ")" && placed.brackets == 0 then "extra '"
            else "syntax error at or near "
      let stop := if "extra".isPrefixOf told then "'" else ""
      ("line " ++ line ++ ": " ++ told ++ shown ++ stop, false)

def maxFaults : Nat := 5

def Reading.complained (reading : Reading) : Reading × Bool :=
  match reading.rest with
  | placed :: _ =>
      let (report, isFinal) := placed.report
      let faults := report :: reading.faults
      -- Brackets that are open here do not count any more.
      let rest := reading.rest.map fun other =>
        { other with brackets := other.brackets - placed.brackets }
      ({ reading with faults, rest }, isFinal || faults.length ≥ maxFaults)
  | [] => (reading, true)

-- Goes on behind the end of a statement that makes no sense. At the end of the script there is no
-- use in that.
def recover (reading : Reading) : Except Upset Reading :=
  let (told, isFinal) := reading.complained
  let left := told.rest.dropWhile fun placed => !endsStatement placed.token
  let found : Option Token := left.head?.map (·.token)
  match found with
  | none | some .finish => .error (.final told.faults)
  | some token =>
      if isFinal then .error (.final told.faults)
      else
        let rest := if token == .sign "\x7d" then left
          else (left.drop 1).dropWhile fun placed => placed.token == .newline
        .ok { told with rest }

mutual

-- A statement. One that makes no sense is told and passed over.
def readStatement : Nat → Reader Statement
  | 0 => upset
  | fuel + 1 => do
      let reading ← get
      match (readAnyStatement fuel).run reading with
      | .ok (statement, after) =>
          set after
          return statement
      | .error (.token stuck) =>
          let after ← liftM (recover stuck)
          set { after with loops := reading.loops }
          return .block []
      | .error fault => throw fault

def readAnyStatement : Nat → Reader Statement
  | 0 => upset
  | fuel + 1 => do
      match ← token with
      | .sign "\x7b" =>
          let body ← readBlock fuel
          return .block body
      | .newline | .sign ";" =>
          readEnd
          return .block []
      | .keyword "if" =>
          skip
          expect "("
          let condition ← readExpression fuel false
          expect ")"
          skipLines
          let yes ← readStatement fuel
          if ← takeWord? "else" then
            skipLines
            return .choice condition yes (← readStatement fuel)
          return .choice condition yes (.block [])
      | .keyword "while" =>
          skip
          expect "("
          let condition ← readExpression fuel false
          expect ")"
          return .loop condition (← readBody fuel) (.block [])
      | .keyword "do" =>
          skip
          let body ← readBody fuel
          if !(← takeWord? "while") then upset
          expect "("
          let condition ← readExpression fuel false
          expect ")"
          readEnd
          return .repeated body condition
      | .keyword "for" =>
          skip
          expect "("
          readFor fuel
      | _ =>
          let statement ← readSimple fuel
          readEnd
          return statement

def readBody : Nat → Reader Statement
  | 0 => upset
  | fuel + 1 => do
      skipLines
      modify fun reading => { reading with loops := reading.loops + 1 }
      let body ← readStatement fuel
      modify fun reading => { reading with loops := reading.loops - 1 }
      return body

def readFor : Nat → Reader Statement
  | 0 => upset
  | fuel + 1 => do
      let value (stop : String) : Reader (Option Expression) := do
        if ← isNext stop then return none
        return some (← readExpression fuel false)
      let coming : List Token := (← get).rest.map (·.token)
      match coming with
      | .name name :: .keyword "in" :: .name table :: .sign ")" :: _ =>
          useAs false name
          useAs true table
          modify fun reading => { reading with rest := reading.rest.drop 4 }
          return .each name table (← readBody fuel)
      | _ =>
          let start ← value ";"
          expect ";"
          skipLines
          let condition ← value ";"
          expect ";"
          skipLines
          let step ← value ")"
          expect ")"
          let body ← readBody fuel
          let done (value : Option Expression) : Statement :=
            value.elim (.block []) Statement.value
          let condition := condition.getD (.number (.ofInt 1))
          return .block [done start, .loop condition body (done step)]

def readBlock : Nat → Reader (List Statement)
  | 0 => upset
  | fuel + 1 => do
      expect "\x7b"
      skipLines
      let body ← readStatements fuel
      skip
      skipLines
      return body

def readStatements : Nat → Reader (List Statement)
  | 0 => upset
  | fuel + 1 => do
      if ← isNext "\x7d" then return []
      else
        let statement ← readStatement fuel
        return statement :: (← readStatements fuel)

end

-- The names of parameters up to the bracket that closes them.
def readParameters : Nat → Reader (List String)
  | 0 => upset
  | fuel + 1 => do
      match ← token with
      | .name name =>
          skip
          if ← take? "," then
            skipLines
            let others ← readParameters fuel
            if others.contains name then tell (name ++ " is duplicated in argument list")
            return name :: others
          return [name]
      | _ => upset

def readFunction (fuel : Nat) : Reader Unit := do
  let name ← match ← token with
    | .name name | .called name => pure name
    | _ => upset
  if (← get).functions.any fun known => known.name == name then tell ("redefinition of " ++ name)
  if (← get).kinds.any fun kind => kind.1 == name then
    tell ("illegal reference to variable " ++ name)
  skip
  expect "("
  let parameters ← if ← isNext ")" then pure [] else readParameters fuel
  expect ")"
  skipLines
  let start : Function := ⟨name, parameters, []⟩
  modify fun reading =>
    { reading with
      functions := reading.functions ++ [start]
      parameters := parameters.map fun parameter => (parameter, none)
      isFunction := true }
  let body ← readBlock fuel
  modify fun reading =>
    { reading with
      functions := reading.functions.map fun known =>
        if known.name == name then { known with body } else known
      parameters := []
      isFunction := false }

def readParts : Nat → Script → Reader Script
  | 0, _ => upset
  | fuel + 1, script => do
      skipLines
      match ← token with
      | .finish => return { script with functions := (← get).functions }
      | .keyword "BEGIN" =>
          skip
          let body ← readBlock fuel
          let _ ← take? ";"
          readParts fuel { script with starts := script.starts ++ [body] }
      | .keyword "END" =>
          skip
          let body ← readBlock fuel
          let _ ← take? ";"
          readParts fuel { script with ends := script.ends ++ [body] }
      | .keyword "function" =>
          skip
          readFunction fuel
          let _ ← take? ";"
          readParts fuel script
      | .sign "\x7d" =>
          if 0 < ((← get).rest.head?.map (·.braces)).getD 0 then upset
          tell "extra '\x7d'"
          skip
          if (← token) == .newline then upset
          readParts fuel script
      | token =>
          let trigger : Trigger ←
            if token == .sign "\x7b" then pure .always
            else do
              let first ← readExpression fuel false
              if ← take? "," then
                skipLines
                pure (.between first (← readExpression fuel false))
              else pure (.when first)
          let body ←
            if ← isNext "\x7b" then do
              modify fun reading => { reading with isRule := true }
              let body ← readBlock fuel
              modify fun reading => { reading with isRule := false }
              let _ ← take? ";"
              pure body
            else do
              if ← isNext "\x7d" then upset
              readEnd
              pure [.print false [] none]
          readParts fuel { script with rules := script.rules ++ [(trigger, body)] }

def callFaults (reading : Reading) (last : Nat) : List String :=
  reading.calls.filterMap fun (name, count, line) =>
    match reading.functions.find? fun known => known.name == name with
    | none => some ("line " ++ toString last ++ ": function " ++ name ++ " never defined")
    | some known =>
        if known.parameters.length < count then
          some ("line " ++ toString line ++ ": too many arguments in call to " ++ name)
        else none

def Script.ofText (text : List Char) : Except (List String) Script :=
  let all := tokens (text.length + 2) 1 0 0 none (text ++ ['\n'])
  let fuel := 40 * all.length + 100
  let start : Reading :=
    { rest := all
      faults := []
      kinds := []
      parameters := []
      isFunction := false
      isRule := false
      loops := 0
      functions := []
      calls := [] }
  match (readParts fuel ⟨[], [], [], []⟩).run start with
  | .error (.final faults) => .error faults.reverse
  | .error (.token stuck) => .error stuck.complained.1.faults.reverse
  | .ok (script, reading) =>
      let last := ((all.getLast?).map (·.line)).getD 1
      let faults := if reading.faults.isEmpty then callFaults reading last
        else reading.faults.reverse
      if faults.isEmpty then .ok script else .error faults

end MakeCheck.Program.Scan
