import MakeCheck.Program.Pattern
import MakeCheck.Shell.Expansion
import MakeCheck.Shell.Testing

namespace MakeCheck.Shell

open Text

-- Shows a part of a condition that is tried.
abbrev Shower := String → Step → Step

-- A pattern with a backslash before all that was quoted.
def Marked.escaped (marked : Marked) : String :=
  String.ofList (marked.flatMap fun (c, quoted) => if quoted then ['\\', c] else [c])

-- A pattern for a part of a text, in which what was quoted stands for itself.
def Marked.partPattern (marked : Marked) : List Char :=
  let signs := ".[]()*+?\x7b\x7d|^$\\".toList
  marked.flatMap fun (c, quoted) => if quoted && signs.contains c then ['\\', c] else [c]

-- Compares a text with a pattern, and keeps what the groups of the pattern have taken.
def matchPart (text : String) (pattern : Marked) (step : Step) : Except Nat Bool × Step :=
  let keep (values : List String) (step : Step) : Step :=
    { step with process := step.process.collect "BASH_REMATCH" (.ofList values) }
  match Program.Pattern.ofChars true false pattern.partPattern with
  | .error _ => (.error 2, step)
  | .ok (shape, count) =>
      let chars := text.toList
      let cut (start stop : Nat) : String := String.ofList ((chars.take stop).drop start)
      match shape.find? (step.process.options.isSwitched "nocasematch") chars with
      | none => (.ok false, keep [] step)
      | some (start, found) =>
          let groups := (List.range count).map fun number =>
            String.ofList ((found.groups.lookup (number + 1)).getD [])
          (.ok true, keep (cut start found.stop :: groups) step)

def emptyShown (text : String) : String :=
  if text = "" then "\x27\x27" else text

def compareNumbers (operator left right : String) (step : Step) : Except Nat Bool × Step :=
  let wrong (fault : ReckoningFault) (step : Step) : Except Nat Bool × Step :=
    match fault with
    | .unset _ => (.error 1, step.quit fault.message)
    | _ => (.error 1, step.complain ("[[: " ++ fault.message))
  match step.process.reckon left with
  | .error fault => wrong fault step
  | .ok (a, process) =>
      match process.reckon right with
      | .error fault => wrong fault { step with process }
      | .ok (b, process) =>
          let holds := match operator with
            | "-eq" => a == b
            | "-ne" => a != b
            | "-lt" => decide (a < b)
            | "-le" => decide (a ≤ b)
            | "-gt" => decide (b < a)
            | _ => decide (b ≤ a)
          (.ok holds, { step with process })

def relate (operator left right : String) (pattern : Marked) (step : Step) :
    Except Nat Bool × Step :=
  let fits : Bool := pattern.fitsBy (step.process.options.textRules true) left.toList
  match operator with
  | "=" | "==" => (.ok fits, step)
  | "!=" => (.ok !fits, step)
  | "=~" => matchPart left pattern step
  | "<" => (.ok (decide (left < right)), step)
  | ">" => (.ok (decide (right < left)), step)
  | "-nt" | "-ot" | "-ef" =>
      match step.trial.scene.binary operator left right with
      | .ok holds => (.ok holds, step)
      | .error _ => (.ok false, step)
  | _ => compareNumbers operator left right step

-- Whether a condition holds, or the status that stands for no answer. Of two conditions the second
-- one is tried only if it counts. The flag tells that the answer is turned round, which is shown.
def Condition.answer (perform : Performer) (show? : Shower) : Nat → Bool → Condition → Step →
    Except Nat Bool × Step
  | 0, _, _, step => (.ok false, step.loseItself)
  | fuel + 1, turned, condition, step =>
      let shown (text : String) (step : Step) : Step :=
        show? ("[[ " ++ (if turned then "! " else "") ++ text ++ " ]]") step
      let turn (holds : Bool) : Bool := holds != turned
      match condition with
      | .word operand =>
          let (text, after) := expandText perform fuel operand step
          (.ok (turn (text != "")), shown ("-n " ++ emptyShown text) after)
      | .unary operator operand =>
          let (text, after) := expandText perform fuel operand step
          (.ok (turn (after.trial.unary operator text)),
            shown (operator ++ " " ++ emptyShown text) after)
      | .binary operator left right =>
          let (text, ready) := expandText perform fuel left step
          let (pattern, after) := expandMarked perform fuel right ready
          if !after.isGoing then (.ok false, after)
          else
            let asksPattern := ["=", "==", "!=", "=~"].contains operator
            let other := if asksPattern then pattern.escaped else pattern.text
            let begun := shown
              (emptyShown text ++ " " ++ operator ++ " " ++ emptyShown other) after
            let (answer, last) := relate operator text pattern.text pattern begun
            (answer.map turn, last)
      | .negate inner => inner.answer perform show? fuel (!turned) step
      | .both first second =>
          let (answer, after) := first.answer perform show? fuel false step
          match answer with
          | .ok true =>
              let (other, last) := second.answer perform show? fuel false after
              (other.map turn, last)
          | .ok false => (.ok turned, after)
          | .error status => (.error status, after)
      | .either first second =>
          let (answer, after) := first.answer perform show? fuel false step
          match answer with
          | .ok false =>
              let (other, last) := second.answer perform show? fuel false after
              (other.map turn, last)
          | .ok true => (.ok !turned, after)
          | .error status => (.error status, after)

end MakeCheck.Shell
