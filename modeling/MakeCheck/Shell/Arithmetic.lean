import MakeCheck.Shell.Token

namespace MakeCheck.Shell

-- A token of an arithmetic expression.
inductive Sign where
  | number (value : Int)
  | name (name : String)
  | operator (text : String)
deriving DecidableEq

-- What can be wrong with an expression.
inductive FormulaFault where
  | expected (what : String)
  | divisionByZero
  | illegalNumber (text : String)
deriving DecidableEq

inductive Formula where
  | number (value : Int)
  | name (name : String)
  | unary (operator : String) (operand : Formula)
  | binary (operator : String) (left right : Formula)
  | choice (condition yes no : Formula)
  -- Gives a variable a value, which an operator may join with the one that it has then.
  | assign (name : String) (operator : Option String) (value : Formula)
  -- What was read before a fault, which shows when all of that is known.
  | broken (before : Formula) (fault : FormulaFault)
deriving DecidableEq

def FormulaFault.message (expression : String) : FormulaFault → String
  | expected what => "arithmetic expression: expecting " ++ what ++ ": \"" ++ expression ++ "\""
  | divisionByZero => "arithmetic expression: division by zero: \"" ++ expression ++ "\""
  | illegalNumber text => "Illegal number: " ++ text

def longOperators : List String :=
  ["<<=", ">>=", "==", "!=", "<=", ">=", "&&", "||", "<<", ">>", "+=", "-=", "*=", "/=", "%=",
    "&=", "|=", "^="]

-- Reads a number as far as its digits go. A nought at the front tells another base.
def readDigits (s : List Char) : Nat × List Char :=
  let (base, digits) :=
    match s with
    | '0' :: x :: d :: rest =>
        if (x = 'x' ∨ x = 'X') ∧ (digitIn? 16 d).isSome then (16, d :: rest) else (8, s)
    | '0' :: _ => (8, s)
    | _ => (10, s)
  let found := digits.takeWhile fun c => (digitIn? base c).isSome
  (found.foldl (fun n c => n * base + (digitIn? base c).getD 0) 0, digits.drop found.length)

def isBlankSign (c : Char) : Bool :=
  [' ', '\t', '\n', '\x0b', '\x0c', '\x0d'].contains c

-- Numbers have 64 bits. What is written too large counts as the largest one.
def limited (n : Int) : Int :=
  max (-(Int.pow 2 63)) (min n (Int.pow 2 63 - 1))

-- The number that a variable holds. An empty one counts as nought.
def numberOf? (text : String) : Option Int :=
  let s := text.toList.dropWhile isBlankSign
  let (negative, digits) :=
    match s with
    | '-' :: rest => (true, rest)
    | '+' :: rest => (false, rest)
    | rest => (false, rest)
  if s.isEmpty then some 0
  else if !(digits.head?.any Char.isDigit) then none
  else
    let (size, rest) := readDigits digits
    let value : Int := if negative then -size else size
    if value = limited value ∧ rest.all isBlankSign then some value else none

def signs : Nat → List Char → List Sign
  | 0, _ => []
  | _, [] => []
  | fuel + 1, c :: rest =>
      let s := c :: rest
      if c = ' ' ∨ c = '\t' ∨ c = '\n' then signs fuel rest
      else if c.isDigit then
        let (value, after) := readDigits s
        .number (limited value) :: signs fuel after
      else if c.isAlpha ∨ c = '_' then
        let name := s.takeWhile fun d => d.isAlphanum || d == '_'
        .name (String.ofList name) :: signs fuel (s.drop name.length)
      else
        match longOperators.find? fun operator => operator.toList.isPrefixOf s with
        | some operator => .operator operator :: signs fuel (s.drop operator.length)
        | none => .operator c.toString :: signs fuel rest

def strength? : String → Option Nat
  | "||" => some 1
  | "&&" => some 2
  | "|" => some 3
  | "^" => some 4
  | "&" => some 5
  | "==" | "!=" => some 6
  | "<" | ">" | "<=" | ">=" => some 7
  | "<<" | ">>" => some 8
  | "+" | "-" => some 9
  | "*" | "/" | "%" => some 10
  | _ => none

-- The operator that an assignment applies before it assigns, if any.
def assigning? : String → Option (Option String)
  | "=" => some none
  | "+=" => some (some "+")
  | "-=" => some (some "-")
  | "*=" => some (some "*")
  | "/=" => some (some "/")
  | "%=" => some (some "%")
  | "&=" => some (some "&")
  | "|=" => some (some "|")
  | "^=" => some (some "^")
  | "<<=" => some (some "<<")
  | ">>=" => some (some ">>")
  | _ => none

-- Something is missing where a formula is read. The rest does not count any more.
def missing (before : Formula) (what : String) : Formula × List Sign :=
  (.broken before (.expected what), [])

mutual

def readFormula : Nat → List Sign → Formula × List Sign
  | 0, _ => missing (.number 0) "primary"
  | fuel + 1, signs =>
      let assigned : Option (String × Option String × List Sign) :=
        match signs with
        | .name name :: .operator operator :: rest =>
            (assigning? operator).map fun before => (name, before, rest)
        | _ => none
      match assigned with
      | some (name, before, rest) =>
          let (value, after) := readFormula fuel rest
          (.assign name before value, after)
      | none => readChoice fuel signs

-- An assignment may stand between the signs of a choice, but not behind them.
def readChoice : Nat → List Sign → Formula × List Sign
  | 0, _ => missing (.number 0) "primary"
  | fuel + 1, signs =>
      let (first, after) := readOperand fuel signs
      let (condition, after) := readBinary fuel 1 first after
      match after with
      | .operator "?" :: after =>
          let (yes, after) := readFormula fuel after
          match after with
          | .operator ":" :: after =>
              let (no, after) := readChoice fuel after
              (.choice condition yes no, after)
          | _ => missing (.choice condition yes (.number 0)) "':'"
      | _ => (condition, after)

def readOperand : Nat → List Sign → Formula × List Sign
  | 0, _ => missing (.number 0) "primary"
  | fuel + 1, signs =>
      match signs with
      | .number value :: rest => (.number value, rest)
      | .name name :: rest => (.name name, rest)
      | .operator "(" :: rest =>
          let (inside, after) := readFormula fuel rest
          match after with
          | .operator ")" :: after => (inside, after)
          | _ => missing inside "')'"
      | .operator operator :: rest =>
          if ["-", "+", "!", "~"].contains operator then
            let (operand, after) := readOperand fuel rest
            (.unary operator operand, after)
          else missing (.number 0) "primary"
      | [] => missing (.number 0) "primary"

-- Goes on with the operators that bind at least as tightly as `tightness`.
def readBinary : Nat → Nat → Formula → List Sign → Formula × List Sign
  | 0, _, left, signs => (left, signs)
  | fuel + 1, tightness, left, signs =>
      match signs with
      | .operator operator :: rest =>
          match strength? operator with
          | none => (left, signs)
          | some strength =>
              if strength < tightness then (left, signs)
              else
                let (right, after) := readOperand fuel rest
                let (right, after) := readBinary fuel (strength + 1) right after
                readBinary fuel tightness (.binary operator left right) after
      | _ => (left, signs)

end

def Formula.ofText (text : List Char) : Formula :=
  let all := signs text.length text
  match readFormula (4 * all.length + 4) all with
  | (formula, []) => formula
  | (formula, _) => .broken formula (.expected "EOF")

def Formula.fault? : Formula → Option FormulaFault
  | .number _ | .name _ => none
  | .unary _ operand => operand.fault?
  | .binary _ left right => left.fault?.or right.fault?
  | .choice condition yes no => (condition.fault?.or yes.fault?).or no.fault?
  | .assign _ _ value => value.fault?
  | .broken before fault => before.fault?.or (some fault)

def truth (holds : Bool) : Int :=
  if holds then 1 else 0

def wrapped (n : Int) : Int :=
  n.bmod (Nat.pow 2 64)

def bitwise (operation : Nat → Nat → Nat) (a b : Int) : Int :=
  let bits (n : Int) : Nat := (n.emod (Int.pow 2 64)).toNat
  operation (bits a) (bits b)

def apply (operator : String) (a b : Int) : Except FormulaFault Int :=
  match operator with
  | "==" => .ok (truth (a == b))
  | "!=" => .ok (truth (a != b))
  | "<" => .ok (truth (decide (a < b)))
  | ">" => .ok (truth (decide (a > b)))
  | "<=" => .ok (truth (decide (a ≤ b)))
  | ">=" => .ok (truth (decide (a ≥ b)))
  | "+" => .ok (wrapped (a + b))
  | "-" => .ok (wrapped (a - b))
  | "*" => .ok (wrapped (a * b))
  | "/" => if b = 0 then .error .divisionByZero else .ok (wrapped (a.tdiv b))
  | "%" => if b = 0 then .error .divisionByZero else .ok (wrapped (a.tmod b))
  | "&" => .ok (wrapped (bitwise (· &&& ·) a b))
  | "|" => .ok (wrapped (bitwise (· ||| ·) a b))
  | "^" => .ok (wrapped (bitwise (· ^^^ ·) a b))
  | "<<" => .ok (wrapped (a * Int.pow 2 (b.emod 64).toNat))
  | ">>" => .ok (wrapped (a.fdiv (Int.pow 2 (b.emod 64).toNat)))
  | _ => .ok 0

-- The variables that an expression has set, the latest one first.
abbrev Formula.Evaluation := StateT (List (String × String)) (Except FormulaFault)

-- The value of a variable, which the expression may have set itself.
def variableValue (known : String → Option String) (name : String) : Formula.Evaluation Int := do
  let text := (((← get).lookup name).or (known name)).getD ""
  match numberOf? text with
  | some value => return value
  | none => throw (.illegalNumber text)

-- A formula whose value does not count. Only a fault in it does.
def Formula.skip (formula : Formula) : Formula.Evaluation Unit :=
  match formula.fault? with
  | some fault => throw fault
  | none => return ()

def Formula.value (known : String → Option String) : Formula → Formula.Evaluation Int
  | .number value => return value
  | .name label => variableValue known label
  | .unary operator operand => do
      let value ← operand.value known
      return match operator with
        | "-" => wrapped (-value)
        | "!" => truth (value == 0)
        | "~" => -value - 1
        | _ => value
  | .binary operator left right => do
      let a ← left.value known
      if (operator = "&&" ∧ a = 0) ∨ (operator = "||" ∧ a ≠ 0) then
        right.skip
        return truth (operator == "||")
      else
        let b ← right.value known
        if operator = "&&" ∨ operator = "||" then return truth (b != 0)
        else liftM (apply operator a b)
  | .choice condition yes no => do
      if (← condition.value known) ≠ 0 then
        let value ← yes.value known
        no.skip
        return value
      else
        yes.skip
        no.value known
  | .assign target before formula => do
      let given ← formula.value known
      let value ←
        match before with
        | some operator => liftM (apply operator (← variableValue known target) given)
        | none => pure given
      modify fun set => (target, toString value) :: set
      return value
  | .broken before fault => do
      let _ ← before.value known
      throw fault

-- The value of an expression, and the variables that it sets.
def evaluate (known : String → Option String) (expression : List Char) :
    Except FormulaFault (Int × List (String × String)) := do
  (Formula.ofText expression).value known |>.run []

end MakeCheck.Shell
