import MakeCheck.FileStore.Basic
import MakeCheck.Program.Format

namespace MakeCheck.Program

-- Why words make no condition.
inductive ConditionFault where
  | unexpectedOperator (word : String)
  | argumentExpected (operator : String)
  | illegalNumber (word : String)
  | bracketExpected
deriving DecidableEq

-- The files that conditions are about, and the operators that stand between two operands.
structure Scene where
  files : FileStore
  directory : Location
  operators : List String
  -- Only numbers of 64 bits can be compared.
  isBounded : Bool

def unaryOperators : List String :=
  ["-n", "-z", "-e", "-r", "-w", "-f", "-d", "-s", "-x", "-p", "-b", "-c", "-h", "-L", "-S", "-t",
    "-u", "-g", "-k", "-O", "-G"]

def binaryOperators : List String :=
  ["=", "!=", "<", ">", "-eq", "-ne", "-lt", "-le", "-gt", "-ge", "-nt", "-ot", "-ef"]

def hasBytes : Content → Bool
  | .file bytes => !bytes.isEmpty
  | .directory | .program _ => true
  | _ => false

def Scene.unary (scene : Scene) (operator argument : String) : Bool :=
  let node := (scene.files.find scene.directory ⟨argument⟩).toOption.map (·.2)
  let content := node.map (·.content)
  let name := (scene.files.findName scene.directory ⟨argument⟩).toOption.map (·.2.content)
  let hasBit (bit : Nat) : Bool := node.any fun node => node.mode &&& bit != 0
  match operator with
  | "-n" => argument != ""
  | "-z" => argument == ""
  | "-e" | "-r" | "-w" | "-O" | "-G" => node.isSome
  | "-f" => content.any Content.isFile
  | "-d" => content == some .directory
  | "-s" => content.any hasBytes
  | "-x" => node.any Node.isExecutable
  | "-h" | "-L" => name.any Content.isLink
  | "-p" => content.any (·.isQueue)
  | "-c" => content.any Content.isDevice
  | "-u" => hasBit 0o4000
  | "-g" => hasBit 0o2000
  | "-k" => hasBit 0o1000
  | _ => false

def comparison? : String → Option (Int → Int → Bool)
  | "-eq" => some fun a b => decide (a = b)
  | "-ne" => some fun a b => decide (a ≠ b)
  | "-lt" => some fun a b => decide (a < b)
  | "-le" => some fun a b => decide (a ≤ b)
  | "-gt" => some fun a b => decide (a > b)
  | "-ge" => some fun a b => decide (a ≥ b)
  | _ => none

-- A whole number in decimal digits, with blanks around it.
def wholeNumber? (text : String) : Option Int :=
  let isBlank (c : Char) : Bool := c == ' ' || c == '\t' || c == '\n'
  let s := ((text.toList.dropWhile isBlank).reverse.dropWhile isBlank).reverse
  let (negative, digits) :=
    match s with
    | '-' :: rest => (true, rest)
    | '+' :: rest => (false, rest)
    | rest => (false, rest)
  if digits.isEmpty || !digits.all Char.isDigit then none
  else
    let value := digits.foldl (fun n d => n * 10 + (d.toNat - '0'.toNat)) 0
    some (if negative then -(value : Int) else value)

def Scene.number? (scene : Scene) (word : String) : Option Int :=
  (wholeNumber? word).filter fun n =>
    !scene.isBounded || decide (-9223372036854775808 ≤ n ∧ n ≤ 9223372036854775807)

def Scene.changed (scene : Scene) (name : String) : Option Time :=
  (scene.files.find scene.directory ⟨name⟩).toOption.map fun entry => entry.2.modified

def Scene.binary (scene : Scene) (operator left right : String) : Except ConditionFault Bool :=
  match operator with
  | "=" | "==" => .ok (left == right)
  | "!=" => .ok (left != right)
  | "<" => .ok (decide (left < right))
  | ">" => .ok (decide (right < left))
  | "-nt" =>
      .ok (match scene.changed left, scene.changed right with
        | some a, some b => decide (b < a)
        | some _, none => true
        | none, _ => false)
  | "-ot" =>
      .ok (match scene.changed left, scene.changed right with
        | some a, some b => decide (a < b)
        | none, some _ => true
        | _, none => false)
  | "-ef" =>
      let place (name : String) : Option Location :=
        (scene.files.find scene.directory ⟨name⟩).toOption.map (·.1)
      .ok ((place left).any fun first => (place right).any (scene.files.isShared first))
  | _ =>
      match comparison? operator, scene.number? left, scene.number? right with
      | some compare, some a, some b => .ok (compare a b)
      | some _, none, _ => .error (.illegalNumber left)
      | some _, some _, none => .error (.illegalNumber right)
      | none, _, _ => .error (.unexpectedOperator operator)

abbrev ConditionReading := Except ConditionFault (Bool × List String)

-- A word is no operator where it must be an operand: before the end, or before an operator with
-- two operands.
def Scene.isUnary (scene : Scene) : List String → Bool
  | operator :: next :: rest =>
      unaryOperators.contains operator && (rest.isEmpty || !scene.operators.contains next)
  | _ => false

mutual

def anyOf (scene : Scene) : Nat → List String → ConditionReading
  | 0, words => .ok (false, words)
  | fuel + 1, words => do
      let (first, after) ← allOf scene fuel words
      match after with
      | "-o" :: rest =>
          let (second, after) ← anyOf scene fuel rest
          return (first || second, after)
      | _ => return (first, after)

def allOf (scene : Scene) : Nat → List String → ConditionReading
  | 0, words => .ok (false, words)
  | fuel + 1, words => do
      let (first, after) ← negatable scene fuel words
      match after with
      | "-a" :: rest =>
          let (second, after) ← allOf scene fuel rest
          return (first && second, after)
      | _ => return (first, after)

def negatable (scene : Scene) : Nat → List String → ConditionReading
  | 0, words => .ok (false, words)
  | fuel + 1, words =>
      match words with
      | "!" :: rest => do
          let (holds, after) ← negatable scene fuel rest
          return (!holds, after)
      | _ => single scene fuel words

def single (scene : Scene) : Nat → List String → ConditionReading
  | 0, words => .ok (false, words)
  | fuel + 1, words =>
      match words with
      | "(" :: ")" :: rest => .ok (false, rest)
      | "(" :: next :: rest => do
          let (holds, after) ← anyOf scene fuel (next :: rest)
          match after with
          | ")" :: after => return (holds, after)
          | _ => .error .bracketExpected
      | _ => operation scene words

def operation (scene : Scene) : List String → ConditionReading
  | [] => .ok (false, [])
  | word :: rest =>
      if scene.isUnary (word :: rest) then
        match rest with
        | argument :: after => .ok (scene.unary word argument, after)
        | [] => .error (.argumentExpected word)
      else
        match rest with
        | operator :: after =>
            if scene.operators.contains operator then
              match after with
              | right :: after => (scene.binary operator word right).map fun holds => (holds, after)
              | [] => .error (.argumentExpected operator)
            else .ok (word != "", rest)
        | [] => .ok (word != "", [])

end

-- Whether a condition of words holds. The complaint about a word too many names the one before it.
def Scene.holds (scene : Scene) (words : List String) : Except ConditionFault Bool :=
  let whole (words : List String) : Except ConditionFault Bool := do
    let (holds, after) ← anyOf scene (4 * words.length + 4) words
    if after.isEmpty then return holds
    else
      let taken := words.length - after.length
      throw (.unexpectedOperator ((words[taken - 1]?).getD ""))
  match words with
  | [left, operator, right] =>
      if scene.operators.contains operator then scene.binary operator left right
      else if left = "(" ∧ right = ")" then .ok (operator != "")
      else whole words
  | ["(", first, second, ")"] => whole [first, second]
  | _ => whole words

end MakeCheck.Program
