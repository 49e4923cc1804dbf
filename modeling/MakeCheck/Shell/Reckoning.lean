import MakeCheck.Shell.Arithmetic
import MakeCheck.Shell.Parameter

namespace MakeCheck.Shell

-- What was read last of an expression of the extended dialect.
inductive Mark where
  | finish
  | number
  | name
  | sign (text : String)
  -- An assignment that an operator may join with what is there.
  | setting (operator : Option String)
  -- One more or one less, in front of a variable or behind it.
  | before (operator : String)
  | behind (operator : String)
  | choice
deriving DecidableEq

-- Why an expression has no value: what is wrong with it, and what comes last of it.
inductive ReckoningFault where
  | wrong (expression reason last : String)
  | unset (name : String)
  | constant (name : String)
deriving DecidableEq

def ReckoningFault.message : ReckoningFault → String
  | wrong expression reason last =>
      expression ++ ": " ++ reason ++ " (error token is \x22" ++ last ++ "\x22)"
  | unset name => name ++ ": unbound variable"
  | constant name => name ++ ": readonly variable"

-- Where the reckoning of an expression stands.
structure Reckoner where
  process : Process
  whole : List Char
  rest : List Char
  -- The rest of the expression from the latest mark on.
  last : List Char
  mark : Mark
  lastMark : Mark
  -- The variable that was read last, perhaps with a key.
  target : Option (String × Option String)
  value : Int
  -- In how many parts that do not count the reckoning is.
  silence : Nat
  -- How many expressions are the values of variables of one another.
  depth : Nat

abbrev Reckoning := StateT Reckoner (Except ReckoningFault)

def maxReckoning : Nat := 1024

def reckoningSigns : List Char :=
  ['=', '>', '<', '+', '-', '*', '/', '%', '!', '(', ')', '&', '|', '^', '~', '?', ':', ',']

def longMarks : List (String × Mark) :=
  [("<<=", .setting (some "<<")), (">>=", .setting (some ">>")), ("==", .sign "=="),
    ("!=", .sign "!="), (">=", .sign ">="), ("<=", .sign "<="), ("<<", .sign "<<"),
    (">>", .sign ">>"), ("&&", .sign "&&"), ("||", .sign "||"), ("**", .sign "**"),
    ("*=", .setting (some "*")), ("/=", .setting (some "/")), ("%=", .setting (some "%")),
    ("+=", .setting (some "+")), ("-=", .setting (some "-")), ("&=", .setting (some "&")),
    ("|=", .setting (some "|")), ("^=", .setting (some "^"))]

-- The operators with two operands, from the loosest on.
def operatorLevels : List (List String) :=
  [["|"], ["^"], ["&"], ["==", "!="], ["<=", ">=", "<", ">"], ["<<", ">>"], ["+", "-"],
    ["*", "/", "%"]]

-- The value of a digit in a base. Beyond thirty-six the case of letters counts.
def wideDigit (base : Nat) (c : Char) : Nat :=
  if c.isDigit then c.toNat - '0'.toNat
  else if c.isLower then c.toNat - 'a'.toNat + 10
  else if c.isUpper then c.toNat - 'A'.toNat + if base ≤ 36 then 10 else 36
  else if c = '@' then 62
  else 63

-- The number that digits spell, or why they spell none.
def spelledDigits (base : Nat) : List Char → Int → Except String Int
  | [], value => .ok value
  | c :: rest, value =>
      let digit := wideDigit base c
      if base ≤ digit then .error "value too great for base"
      else spelledDigits base rest (wrapped (value * base + digit))

-- A number as an expression spells it: in a base of its own, or in one that a nought tells.
def numeral (text : List Char) : Except String Int :=
  match text with
  | ['0'] => .ok 0
  | '0' :: mark :: rest =>
      if text.contains '#' then .error "invalid number"
      else if mark = 'x' ∨ mark = 'X' then spelledDigits 16 rest 0
      else spelledDigits 8 (mark :: rest) 0
  | _ =>
      match text.splitOn '#' with
      | [base, digits] => do
          let base ← spelledDigits 10 base 0
          if base < 2 ∨ 64 < base then .error "invalid arithmetic base"
          else if digits.isEmpty then .error "invalid integer constant"
          else spelledDigits base.toNat digits 0
      | [digits] => spelledDigits 10 digits 0
      | _ => .error "invalid number"

-- A power that wraps around, by squares. The first argument bounds the steps.
def powerMod : Nat → Int → Nat → Int
  | 0, _, _ => 1
  | _, _, 0 => 1
  | fuel + 1, base, exponent =>
      let half := powerMod fuel (wrapped (base * base)) (exponent / 2)
      if exponent % 2 = 1 then wrapped (half * base) else half

namespace Reckoning

def wrong {α : Type} (reason : String) : Reckoning α := do
  let reckoner ← get
  let text := reckoner.whole.dropWhile isBlankSign
  throw (.wrong (String.ofList text) reason (String.ofList reckoner.last))

def mark : Reckoning Mark := do
  return (← get).mark

def isSign (text : String) : Reckoning Bool := do
  return (← get).mark == .sign text

-- Forgets what kind of mark came before, so that nothing can be given to what was read.
def settle : Reckoning Unit :=
  modify fun reckoner => { reckoner with lastMark := .number }

-- Runs a part of an expression that counts only if the flag says so.
def counting {α : Type} (counts : Bool) (part : Reckoning α) : Reckoning α := do
  if counts then part
  else
    modify fun reckoner => { reckoner with silence := reckoner.silence + 1 }
    let value ← part
    modify fun reckoner => { reckoner with silence := reckoner.silence - 1 }
    return value

-- Gives a variable a value, unless this part of the expression does not count.
def give (target : String × Option String) (value : Int) : Reckoning Unit := do
  let reckoner ← get
  if reckoner.silence = 0 then
    let (name, key) := target
    if reckoner.process.constant.contains name then throw (.constant name)
    let process := match key with
      | some key => reckoner.process.putEntry name key (toString value)
      | none =>
          let process := reckoner.process.assign name (toString value)
          if name = "RANDOM" then
            let seed := (value.emod 4294967296).toNat
            { process with extras := { process.extras with seed } }
          else process
    set { reckoner with process }

def moveTo (mark : Mark) (rest : List Char) : Reckoning Unit :=
  modify fun reckoner => { reckoner with mark, rest, lastMark := reckoner.mark }

-- What an operator makes of two values. A divisor of nought is a fault only where it counts.
def combine (operator : String) (a b : Int) : Reckoning Int := do
  match apply operator a b with
  | .ok value => return value
  | .error _ => if (← get).silence = 0 then wrong "division by 0" else return 1

-- The text up to the bracket that closes a key, and what follows it.
def upToBracket (depth : Nat) : List Char → Option (List Char × List Char)
  | [] => none
  | ']' :: rest =>
      if depth = 0 then some ([], rest)
      else (upToBracket (depth - 1) rest).map fun (inside, after) => (']' :: inside, after)
  | c :: rest =>
      (upToBracket (if c = '[' then depth + 1 else depth) rest).map
        fun (inside, after) => (c :: inside, after)

def sign (c : Char) (rest : List Char) : Reckoning Unit := do
  let reckoner ← get
  let s := c :: rest
  let isCount := (c == '+' || c == '-') && rest.head? == some c
  let twice := String.ofList [c, c]
  match longMarks.find? fun entry => entry.1.toList.isPrefixOf s with
  | some (text, mark) => moveTo mark (s.drop text.length)
  | none =>
      if isCount && reckoner.mark == .name then moveTo (.behind twice) rest.tail
      else if isCount && (rest.tail.dropWhile isBlankSign).head?.any isNameStart then
        moveTo (.before twice) rest.tail
      else if !reckoningSigns.contains c then
        match reckoner.mark with
        | .number | .name => wrong "syntax error: invalid arithmetic operator"
        | _ => wrong "syntax error: operand expected"
      else if c = '=' then moveTo (.setting none) rest
      else moveTo (.sign c.toString) rest

mutual

def nested : Nat → List Char → Reckoning Int
  | 0, _ => wrong "expression recursion level exceeded"
  | fuel + 1, text => do
      if text.all isBlankSign then return 0
      let outside ← get
      if maxReckoning ≤ outside.depth then wrong "expression recursion level exceeded"
      set { outside with
        whole := text
        rest := text
        last := text
        mark := .finish
        lastMark := .finish
        target := none
        silence := 0
        depth := outside.depth + 1 }
      next fuel
      let value ← row fuel
      if (← mark) ≠ .finish then wrong "syntax error in expression"
      modify fun inside => { outside with process := inside.process }
      return value

def next : Nat → Reckoning Unit
  | 0 => return ()
  | fuel + 1 => do
      let reckoner ← get
      match reckoner.rest.dropWhile isBlankSign with
      | [] => moveTo .finish []
      | c :: rest =>
          let s := c :: rest
          set { reckoner with rest := s, last := s }
          if isNameStart c then
            let name := s.takeWhile isNameChar
            let label := String.ofList name
            match s.drop name.length with
            | '[' :: after =>
                match upToBracket 0 after with
                | none => wrong "bad array subscript"
                | some (key, behind) =>
                    let key ← keyOf fuel label key
                    readVariable fuel (label, some key) behind
            | behind => readVariable fuel (label, none) behind
          else if c.isDigit then
            let digits := s.takeWhile fun d =>
              d.isAlphanum || d == '#' || d == '@' || d == '_'
            match numeral digits with
            | .ok value =>
                modify fun reckoner => { reckoner with value }
                moveTo .number (s.drop digits.length)
            | .error reason =>
                modify fun reckoner => { reckoner with last := digits }
                wrong reason
          else sign c rest

-- The key that a text stands for: a place that it reckons, or the text itself.
def keyOf : Nat → String → List Char → Reckoning String
  | 0, _, _ => return ""
  | fuel + 1, name, text => do
      let reckoner ← get
      if reckoner.process.isTable name then return String.ofList text
      else if reckoner.silence ≠ 0 then return "0"
      else
        let place ← nested fuel text
        match (← get).process.placeKey? name place with
        | some key => return key
        | none => wrong "bad array subscript"

-- Reads the value of a variable, unless it only gets one.
def readVariable : Nat → String × Option String → List Char → Reckoning Unit
  | 0, _, _ => return ()
  | fuel + 1, target, behind => do
      let reckoner ← get
      let isGiven := match behind.dropWhile isBlankSign with
        | '=' :: after => after.head? != some '='
        | _ => false
      let isCounted := match reckoner.mark with
        | .before _ => true
        | _ => !isGiven
      let value ← if isCounted && reckoner.silence == 0 then valueOf fuel target else pure 0
      modify fun reckoner => { reckoner with value, target := some target }
      moveTo .name behind

def valueOf : Nat → String × Option String → Reckoning Int
  | 0, _ => return 0
  | fuel + 1, (name, key) => do
      let process := (← get).process
      if name = "RANDOM" ∧ key.isNone then
        let (value, process) := process.drawn
        modify fun reckoner => { reckoner with process }
        nested fuel value.toList
      else
        let value? := match key with
          | some key => process.entry? name key
          | none => process.parameter? name
        if value?.isNone && process.options.needsParameters then throw (.unset name)
        nested fuel (value?.getD "").toList

def row : Nat → Reckoning Int
  | 0 => return 0
  | fuel + 1 => do
      let value ← assignment fuel
      if ← isSign "," then
        next fuel
        row fuel
      else return value

def assignment : Nat → Reckoning Int
  | 0 => return 0
  | fuel + 1 => do
      let value ← conditional fuel
      let reckoner ← get
      match reckoner.mark, reckoner.target with
      | .setting operator, some target =>
          if reckoner.lastMark ≠ .name then wrong "attempted assignment to non-variable"
          next fuel
          let given ← assignment fuel
          let result ← match operator with
            | some operator => combine operator value given
            | none => pure given
          give target result
          return result
      | .setting _, none => wrong "attempted assignment to non-variable"
      | _, _ => return value

def conditional : Nat → Reckoning Int
  | 0 => return 0
  | fuel + 1 => do
      let condition ← anyOf fuel
      if !(← isSign "?") then return condition
      let yes ← counting (condition ≠ 0) do
        next fuel
        if (← mark) = .finish ∨ (← mark) = .sign ":" then wrong "expression expected"
        row fuel
      if !(← isSign ":") then wrong "\x60:\x27 expected for conditional expression"
      let no ← counting (condition = 0) do
        next fuel
        if (← mark) = .finish then wrong "expression expected"
        conditional fuel
      modify fun reckoner => { reckoner with lastMark := .choice }
      return if condition ≠ 0 then yes else no

def anyOf : Nat → Reckoning Int
  | 0 => return 0
  | fuel + 1 => do
      let first ← allOf fuel
      anyFrom fuel first

def anyFrom : Nat → Int → Reckoning Int
  | 0, value => return value
  | fuel + 1, value => do
      if !(← isSign "||") then return value
      let other ← counting (value = 0) do
        next fuel
        allOf fuel
      settle
      anyFrom fuel (truth (value != 0 || other != 0))

def allOf : Nat → Reckoning Int
  | 0 => return 0
  | fuel + 1 => do
      let first ← level fuel operatorLevels
      allFrom fuel first

def allFrom : Nat → Int → Reckoning Int
  | 0, value => return value
  | fuel + 1, value => do
      if !(← isSign "&&") then return value
      let other ← counting (value ≠ 0) do
        next fuel
        level fuel operatorLevels
      settle
      allFrom fuel (truth (value != 0 && other != 0))

def level : Nat → List (List String) → Reckoning Int
  | 0, _ => return 0
  | fuel + 1, [] => power fuel
  | fuel + 1, operators :: tighter => do
      let first ← level fuel tighter
      levelFrom fuel operators tighter first

def levelFrom : Nat → List String → List (List String) → Int → Reckoning Int
  | 0, _, _, value => return value
  | fuel + 1, operators, tighter, value => do
      match ← mark with
      | .sign operator =>
          if !operators.contains operator then return value
          let start := (← get).rest.dropWhile isBlankSign
          next fuel
          let other ← level fuel tighter
          if other = 0 ∧ (operator = "/" ∨ operator = "%") then
            modify fun reckoner => { reckoner with last := start }
          let result ← combine operator value other
          settle
          levelFrom fuel operators tighter result
      | _ => return value

def power : Nat → Reckoning Int
  | 0 => return 0
  | fuel + 1 => do
      let base ← unary fuel
      if !(← isSign "**") then return base
      next fuel
      let exponent ← power fuel
      settle
      if exponent < 0 then wrong "exponent less than 0"
      return powerMod 64 base exponent.toNat

def unary : Nat → Reckoning Int
  | 0 => return 0
  | fuel + 1 => do
      match ← mark with
      | .sign operator =>
          if ["!", "~", "-", "+"].contains operator then
            next fuel
            let value ← unary fuel
            settle
            return match operator with
              | "!" => truth (value == 0)
              | "~" => -value - 1
              | "-" => wrapped (-value)
              | _ => value
          else operand fuel
      | _ => operand fuel

def operand : Nat → Reckoning Int
  | 0 => return 0
  | fuel + 1 => do
      let change (operator : String) : Int := if operator = "++" then 1 else -1
      match ← mark with
      | .before operator =>
          next fuel
          match (← get).target, ← mark with
          | some target, .name =>
              let value := wrapped ((← get).value + change operator)
              give target value
              modify fun reckoner => { reckoner with mark := .number }
              next fuel
              return value
          | _, _ => wrong "identifier expected after pre-increment or pre-decrement"
      | .sign "(" =>
          next fuel
          let value ← row fuel
          if !(← isSign ")") then wrong "missing \x60)\x27"
          next fuel
          return value
      | .number =>
          let value := (← get).value
          next fuel
          return value
      | .name =>
          let value := (← get).value
          let target := (← get).target
          next fuel
          match ← mark, target with
          | .behind operator, some target =>
              give target (wrapped (value + change operator))
              modify fun reckoner => { reckoner with mark := .number }
              next fuel
          | _, _ => pure ()
          return value
      | _ => wrong "syntax error: operand expected"

end

end Reckoning

def reckoningSteps : Nat := 1000000

-- The value of an expression, and the process whose variables it has changed. Quotes do not count.
def Process.reckon (process : Process) (expression : String) :
    Except ReckoningFault (Int × Process) :=
  let text := expression.toList.filter (· != '\x22')
  let start : Reckoner :=
    { process
      whole := text
      rest := text
      last := text
      mark := .finish
      lastMark := .finish
      target := none
      value := 0
      silence := 0
      depth := 0 }
  ((Reckoning.nested reckoningSteps text).run start).map fun (value, reckoner) =>
    (value, reckoner.process)

end MakeCheck.Shell
