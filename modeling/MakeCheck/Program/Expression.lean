import MakeCheck.Program.Condition
import MakeCheck.Program.Outcome
import MakeCheck.Program.Pattern

namespace MakeCheck.Program

open Text

def expressionStrength? : String → Option Nat
  | "|" => some 1
  | "&" => some 2
  | "=" | "==" | "!=" | "<" | "<=" | ">" | ">=" => some 3
  | "+" | "-" => some 4
  | "*" | "/" | "%" => some 5
  | ":" => some 6
  | _ => none

def isFalse (value : String) : Bool :=
  value == "" || wholeNumber? value == some 0

-- A pattern counts from the front of a text. It tells what its first group has taken, or how many
-- characters fit.
def matchedText (text pattern : String) : Except String String :=
  match Pattern.ofChars false false (patternChars pattern) with
  | .error fault => .error fault.message
  | .ok (found, groups) =>
      let spot : Pattern.Spot := ⟨none, patternChars text, 0⟩
      match found.matchAt? false spot, groups with
      | some found, 0 => .ok (toString found.stop)
      | none, 0 => .ok "0"
      | some found, _ =>
          .ok (Utf8.decodeLossy (charBytes ((found.groups.lookup 1).getD [])))
      | none, _ => .ok ""

def applyExpression (operator left right : String) : Except String String :=
  let yes (holds : Bool) : Except String String := .ok (if holds then "1" else "0")
  let ordered (order : Int → Int → Bool) (other : String → String → Bool) : Except String String :=
    match wholeNumber? left, wholeNumber? right with
    | some a, some b => yes (order a b)
    | _, _ => yes (other left right)
  let number (operation : Int → Int → Except String Int) : Except String String :=
    match wholeNumber? left, wholeNumber? right with
    | some a, some b => (operation a b).map toString
    | _, _ => .error "non-integer argument"
  let divide (operation : Int → Int → Int) (a b : Int) : Except String Int :=
    if b = 0 then .error "division by zero" else .ok (operation a b)
  match operator with
  | "|" => .ok (if isFalse left then (if isFalse right then "0" else right) else left)
  | "&" => .ok (if isFalse left || isFalse right then "0" else left)
  | "=" | "==" => ordered (· == ·) (· == ·)
  | "!=" => ordered (· != ·) (· != ·)
  | "<" => ordered (fun a b => decide (a < b)) fun a b => decide (a < b)
  | "<=" => ordered (fun a b => decide (a ≤ b)) fun a b => decide (a ≤ b)
  | ">" => ordered (fun a b => decide (b < a)) fun a b => decide (b < a)
  | ">=" => ordered (fun a b => decide (b ≤ a)) fun a b => decide (b ≤ a)
  | "+" => number fun a b => .ok (a + b)
  | "-" => number fun a b => .ok (a - b)
  | "*" => number fun a b => .ok (a * b)
  | "/" => number (divide Int.tdiv)
  | ":" => matchedText left right
  | _ => number (divide Int.tmod)

-- The first place, counted from one, of a byte that is among others.
def firstPlace (text among : String) : Nat :=
  let wanted := Utf8.encode among
  match (Utf8.encode text).findIdx? fun byte => wanted.contains byte with
  | some i => i + 1
  | none => 0

-- A piece of a text, given where it begins and how long it is.
def pieceOf (text place length : String) : String :=
  match wholeNumber? place, wholeNumber? length with
  | some place, some length =>
      if place ≤ 0 ∨ length ≤ 0 then ""
      else
        Utf8.decodeLossy (((Utf8.encode text).drop (place - 1).toNat).take length.toNat)
  | _, _ => ""

abbrev ExpressionReading := Except String (String × List String)

-- What is wrong where an argument should follow the last one.
def argumentFault (last : Option String) : String :=
  match last with
  | some word => "syntax error: missing argument after '" ++ word ++ "'"
  | none => "missing operand"

mutual

def readOperand : Nat → Option String → List String → ExpressionReading
  | 0, last, _ => .error (argumentFault last)
  | fuel + 1, last, words =>
      match words with
      | [] => .error (argumentFault last)
      | "(" :: rest => do
          let (value, after) ← readWhole fuel (some "(") rest
          match after with
          | ")" :: after => return (value, after)
          | word :: _ =>
              let before := (rest[rest.length - after.length - 1]?).getD "("
              if word = "" then throw ("syntax error: expecting ')' after '" ++ before ++ "'")
              else throw ("syntax error: expecting ')' instead of '" ++ word ++ "'")
          | [] =>
              throw ("syntax error: expecting ')' after '" ++ (rest.getLast?).getD "(" ++ "'")
      | ")" :: _ => .error "syntax error: unexpected ')'"
      | "+" :: word :: rest => .ok (word, rest)
      | "length" :: rest => do
          let (text, after) ← readOperand fuel (some "length") rest
          return (toString text.utf8ByteSize, after)
      | "match" :: rest => do
          let (text, after) ← readOperand fuel (some "match") rest
          let (pattern, after) ← readOperand fuel (some text) after
          return (← matchedText text pattern, after)
      | "index" :: rest => do
          let (text, after) ← readOperand fuel (some "index") rest
          let (among, after) ← readOperand fuel (some text) after
          return (toString (firstPlace text among), after)
      | "substr" :: rest => do
          let (text, after) ← readOperand fuel (some "substr") rest
          let (place, after) ← readOperand fuel (some text) after
          let (length, after) ← readOperand fuel (some place) after
          return (pieceOf text place length, after)
      | word :: rest => .ok (word, rest)

def readWhole : Nat → Option String → List String → ExpressionReading
  | 0, last, _ => .error (argumentFault last)
  | fuel + 1, last, words => do
      let (left, after) ← readOperand fuel last words
      readOperators fuel 1 left after

-- Goes on with the operators that bind at least as tightly as `tightness`.
def readOperators : Nat → Nat → String → List String → ExpressionReading
  | 0, _, left, words => .ok (left, words)
  | fuel + 1, tightness, left, words =>
      match words with
      | operator :: rest =>
          match expressionStrength? operator with
          | none => .ok (left, words)
          | some strength =>
              if strength < tightness then .ok (left, words)
              else do
                let (right, after) ← readOperand fuel (some operator) rest
                let (right, after) ← readOperators fuel (strength + 1) right after
                readOperators fuel tightness (← applyExpression operator left right) after
      | [] => .ok (left, words)

end

-- A result that is nought or empty makes the program fail.
def expression (around : Surroundings) (arguments : List String) : Outcome :=
  let words := if arguments.head? = some "--" then arguments.tail else arguments
  let result := do
    let (value, after) ← readWhole (3 * words.length + 3) none words
    match after with
    | [] => return value
    | word :: _ => throw ("syntax error: unexpected argument '" ++ word ++ "'")
  if words.isEmpty then around.misused 2 ["missing operand"]
  else
    match result with
    | .ok value => around.outcome (if isFalse value then 1 else 0) [said (value ++ "\n")]
    | .error message => around.outcome 2 [around.complaint message]

end MakeCheck.Program
