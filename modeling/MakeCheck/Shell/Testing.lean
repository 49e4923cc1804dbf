import MakeCheck.Program.Condition
import MakeCheck.Shell.Builtin

namespace MakeCheck.Shell

-- Conditions of words as the extended dialect reads them, and the files that they are about.
structure Trial where
  scene : Program.Scene
  process : Process

namespace Trial

def unaryNames : List String :=
  Program.unaryOperators ++ ["-a", "-o", "-v", "-N", "-R"]

def binaryNames : List String :=
  "==" :: Program.binaryOperators

-- Whether a variable is set, or an entry of a collection.
def isSet (trial : Trial) (word : String) : Bool :=
  match word.toList.splitOn '[' with
  | name :: first :: rest =>
      let name := String.ofList name
      let key := String.ofList (['['].intercalate (first :: rest)).dropLast
      if key = "@" ∨ key = "*" then !(trial.process.entries name).isEmpty
      else
        match trial.process.keyFor name key with
        | .ok (key, process) => (process.entry? name key).isSome
        | .error _ => false
  | _ => (trial.process.parameter? word).isSome

def unary (trial : Trial) (operator word : String) : Bool :=
  match operator with
  | "-a" => trial.scene.unary "-e" word
  | "-v" => trial.isSet word
  | "-R" => (trial.process.extras.aims.lookup word).isSome
  | "-o" => trial.process.options.has word
  | _ => trial.scene.unary operator word

def binary (trial : Trial) (operator left right : String) : Except String Bool :=
  match trial.scene.binary operator left right with
  | .ok holds => .ok holds
  | .error (.illegalNumber word) => .error (word ++ ": integer expression expected")
  | .error _ => .error (operator ++ ": binary operator expected")

def isOption (word : String) : Bool :=
  "-".isPrefixOf word && word.length == 2

def one (word : String) : Bool :=
  word != ""

def two (trial : Trial) (first second : String) : Except String Bool :=
  if first = "!" then .ok (!one second)
  else if isOption first && unaryNames.contains first then .ok (trial.unary first second)
  else .error (first ++ ": unary operator expected")

def three (trial : Trial) (first second third : String) : Except String Bool :=
  if binaryNames.contains second then trial.binary second first third
  else if second = "-a" then .ok (one first && one third)
  else if second = "-o" then .ok (one first || one third)
  else if first = "!" then (trial.two second third).map (! ·)
  else if first = "(" ∧ third = ")" then .ok (one second)
  else .error (second ++ ": binary operator expected")

mutual

def anyOf (trial : Trial) : Nat → List String → Except String (Bool × List String)
  | 0, words => .ok (false, words)
  | fuel + 1, words => do
      let (first, after) ← allOf trial fuel words
      match after with
      | "-o" :: rest =>
          let (second, after) ← anyOf trial fuel rest
          return (first || second, after)
      | _ => return (first, after)

def allOf (trial : Trial) : Nat → List String → Except String (Bool × List String)
  | 0, words => .ok (false, words)
  | fuel + 1, words => do
      let (first, after) ← term trial fuel words
      match after with
      | "-a" :: rest =>
          let (second, after) ← allOf trial fuel rest
          return (first && second, after)
      | _ => return (first, after)

def term (trial : Trial) : Nat → List String → Except String (Bool × List String)
  | 0, words => .ok (false, words)
  | fuel + 1, words =>
      match words with
      | [] => .error "argument expected"
      | "!" :: rest => do
          let (holds, after) ← term trial fuel rest
          return (!holds, after)
      | "(" :: rest => do
          let (holds, after) ← anyOf trial fuel rest
          match after with
          | ")" :: after => return (holds, after)
          | [] => throw "\x60)\x27 expected"
          | word :: _ => throw ("\x60)\x27 expected, found " ++ word)
      | word :: rest =>
          match rest with
          | operator :: right :: after =>
              if binaryNames.contains operator then
                (trial.binary operator word right).map fun holds => (holds, after)
              else plain trial word rest
          | _ => plain trial word rest

def plain (trial : Trial) (word : String) (rest : List String) :
    Except String (Bool × List String) :=
  if isOption word then
    if unaryNames.contains word then
      match rest with
      | argument :: after => .ok (trial.unary word argument, after)
      | [] => .error "argument expected"
    else .error (word ++ ": unary operator expected")
  else .ok (one word, rest)

end

-- Whether a condition of words holds. How few words are read depends on their number.
def holds (trial : Trial) (words : List String) : Except String Bool :=
  let whole : Except String Bool := do
    let (found, after) ← trial.anyOf (4 * words.length + 4) words
    if after.isEmpty then return found else throw "too many arguments"
  match words with
  | [] => .ok false
  | [word] => .ok (one word)
  | [first, second] => trial.two first second
  | [first, second, third] => trial.three first second third
  | [first, second, third, fourth] =>
      if first = "!" then (trial.three second third fourth).map (! ·)
      else if first = "(" ∧ fourth = ")" then trial.two second third
      else whole
  | _ => whole

end Trial

def Step.trial (step : Step) : Trial :=
  ⟨step.scene, step.process⟩

-- The command that tests a condition. In brackets the last one has to be closed.
def tryCondition (name : String) (arguments : List String) (step : Step) : Step :=
  if name = "[" ∧ arguments.getLast? ≠ some "]" then step.refuse 2 "missing \x60]\x27"
  else
    let words := if name = "[" then arguments.dropLast else arguments
    match step.trial.holds words with
    | .ok holds => step.withStatus (if holds then 0 else 1)
    | .error message => step.refuse 2 message

end MakeCheck.Shell
