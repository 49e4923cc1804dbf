import MakeCheck.Program.Pattern
import MakeCheck.Program.Sorting

namespace MakeCheck.Program

open Text

-- Which lines of a part of a page get a number.
inductive Numbering where
  | everything
  | fullLines
  | nothing
  | fitting (pattern : Pattern)

namespace Numbering

-- What is wrong with an option. The flag tells that help is pointed to.
abbrev Refusal := Bool × String

def ofText (part text : String) : Except Refusal Numbering :=
  let wrong := .error (true, "invalid " ++ part ++ " numbering style: " ++ quotedName text)
  match text.toList with
  | ['a'] => .ok .everything
  | ['t'] => .ok .fullLines
  | ['n'] => .ok .nothing
  | 'p' :: pattern =>
      match Pattern.ofChars false false (patternChars (String.ofList pattern)) with
      | .ok (pattern, _) => .ok (.fitting pattern)
      | .error fault => .error (false, fault.message)
  | _ => wrong

end Numbering

-- Where lines stand on a page.
inductive PagePart where
  | head
  | body
  | foot

-- How lines are numbered.
structure NumberRule where
  head : Numbering
  body : Numbering
  foot : Numbering
  first : Int
  step : Int
  separator : String
  width : Nat
  form : String
  -- How many empty lines count as one.
  joined : Nat
  keepsCounting : Bool
  mark : List UInt8

structure NumberState where
  part : PagePart
  number : Int
  blanks : Nat

namespace NumberRule

def numbering (rule : NumberRule) : PagePart → Numbering
  | .head => rule.head
  | .body => rule.body
  | .foot => rule.foot

def label (rule : NumberRule) (number : Int) : String :=
  let digits := toString number.natAbs
  let sign := if number < 0 then "-" else ""
  let size := sign.length + digits.length
  let gap (c : Char) : String := String.ofList (List.replicate (rule.width - size) c)
  if rule.form = "ln" then sign ++ digits ++ gap ' '
  else if rule.form = "rz" then sign ++ gap '0' ++ digits
  else gap ' ' ++ sign ++ digits

def part? (rule : NumberRule) (line : List UInt8) : Option PagePart :=
  let mark := rule.mark
  if mark.isEmpty then none
  else if line = mark ++ mark ++ mark then some .head
  else if line = mark ++ mark then some .body
  else if line = mark then some .foot
  else none

def display (rule : NumberRule) (state : NumberState) (line : List UInt8) :
    NumberState × List UInt8 :=
  match rule.part? line with
  | some part =>
      let number := if rule.keepsCounting then state.number else rule.first
      (⟨part, number, 0⟩, [10])
  | none =>
      let blanks := if line.isEmpty then state.blanks + 1 else 0
      let isNumbered :=
        match rule.numbering state.part with
        | .everything => !line.isEmpty || decide (rule.joined ≤ blanks)
        | .fullLines => !line.isEmpty
        | .nothing => false
        | .fitting pattern => (pattern.find? false (byteChars line)).isSome
      if isNumbered then
        let shown := Utf8.encode (rule.label state.number ++ rule.separator)
        (⟨state.part, state.number + rule.step, 0⟩, shown ++ line ++ [10])
      else
        let gap := List.replicate (rule.width + rule.separator.utf8ByteSize) (32 : UInt8)
        (⟨state.part, state.number, blanks⟩, gap ++ line ++ [10])

def ofGiven (given : Given) : Except Numbering.Refusal NumberRule := do
  let style (letter : Char) (part standard : String) :
      Except Numbering.Refusal Numbering :=
    Numbering.ofText part ((given.value? letter).getD standard)
  let number (letter : Char) (what : String) (standard : Int) :
      Except Numbering.Refusal Int :=
    match given.value? letter with
    | none => .ok standard
    | some text =>
        match decimal? text with
        | some (value, 0) => .ok value
        | _ => .error (false, "invalid " ++ what ++ ": " ++ quotedName text)
  let positive (letter : Char) (what : String) (standard : Int) :
      Except Numbering.Refusal Nat := do
    let value ← number letter what standard
    if value ≤ 0 then
      throw (false, "invalid " ++ what ++ ": " ++ quotedName ((given.value? letter).getD "") ++
        ": Numerical result out of range")
    return value.toNat
  let form := (given.value? 'n').getD "rn"
  if !(["ln", "rn", "rz"].contains form) then
    throw (true, "invalid line numbering format: " ++ quotedName form)
  let mark := (given.value? 'd').getD "\\:"
  return {
    head := ← style 'h' "header" "n"
    body := ← style 'b' "body" "t"
    foot := ← style 'f' "footer" "n"
    first := ← number 'v' "starting line number" 1
    step := ← number 'i' "line number increment" 1
    separator := (given.value? 's').getD "\t"
    width := ← positive 'w' "line number field width" 6
    form
    joined := ← positive 'l' "line number of blank lines" 1
    keepsCounting := given.has 'p'
    mark := Utf8.encode (if mark.length = 1 then mark ++ ":" else mark) }

end NumberRule

-- Shows sources with numbers before their lines. Counting goes on from source to source.
def showNumbered (around : Surroundings) (arguments : List String) : Outcome :=
  let known := [valued 'b' "body-numbering", valued 'd' "section-delimiter",
    valued 'f' "footer-numbering", valued 'h' "header-numbering", valued 'i' "line-increment",
    valued 'l' "join-blank-lines", valued 'n' "number-format", plain 'p' "no-renumber",
    valued 's' "number-separator", valued 'v' "starting-line-number", valued 'w' "number-width"]
  withArguments around known arguments fun given =>
    match NumberRule.ofGiven given with
    | .error (true, message) => around.misused 1 [message]
    | .error (false, message) => around.outcome 1 [around.complaint message]
    | .ok rule =>
        let names := if given.operands.isEmpty then ["-"] else given.operands
        let (_, written) := names.foldl
          (fun ((state, written) : NumberState × List (Channel × List UInt8)) name =>
            match around.source name with
            | .error fault => (state, around.complaint (readReport name fault) :: written)
            | .ok bytes =>
                let (state, shown) := (lines bytes).foldl
                  (fun ((state, shown) : NumberState × List (List UInt8)) line =>
                    let (state, text) := rule.display state line
                    (state, text :: shown))
                  (state, [])
                (state, (.output, shown.reverse.flatten) :: written))
          (⟨.body, rule.first, 0⟩, [])
        let isFine := written.all fun entry => entry.1 == .output
        { around.outcome (if isFine then 0 else 1) written.reverse with
          intake := Surroundings.intakeOf names }

end MakeCheck.Program
