import MakeCheck.Shell.Glob

namespace MakeCheck.Shell

-- What falls apart at separators: nothing, the values outside quotes, or the text outside quotes as
-- well.
inductive Splitting where
  | nothing
  | values
  | everything
deriving DecidableEq

-- Fields that are complete, and the one that is still growing if there is one.
structure Fields where
  complete : List Marked
  growing : Option Marked
  -- A blank has just closed a field, so that the next separator belongs to it.
  afterBlank : Bool

namespace Fields

def none : Fields :=
  ⟨[], Option.none, false⟩

def grow (fields : Fields) (quoted : Bool) (text : List Char) : Fields :=
  { fields with
    growing := some (fields.growing.getD [] ++ Marked.ofText quoted text)
    afterBlank := false }

def close (fields : Fields) : Fields :=
  match fields.growing with
  | some text => ⟨fields.complete ++ [text], Option.none, false⟩
  | Option.none => fields

-- A NUL stands between values that are fields of their own.
def growAll (fields : Fields) (value : List Char) : Fields :=
  match value.splitOn '\x00' with
  | [] => fields
  | first :: others =>
      others.foldl (fun fields text => fields.close.grow true text) (fields.grow true first)

-- Values outside quotes fall apart at separators. Those that are blank count as one, and so does
-- the NUL between two values.
def split (separators : List Char) (fields : Fields) : List Char → Fields
  | [] => fields
  | c :: rest =>
      let isBlank := c == ' ' || c == '\t' || c == '\n' || c == '\x00'
      if !separators.contains c && c != '\x00' then split separators (fields.grow false [c]) rest
      else if isBlank then
        let closed := fields.close
        let afterBlank := fields.growing.isSome || fields.afterBlank
        split separators { closed with afterBlank } rest
      else if fields.growing.isNone && fields.afterBlank then
        split separators { fields with afterBlank := false } rest
      else split separators (fields.grow false []).close rest

end Fields

def blankSeparators : String := " \t\n"

-- Cuts a line into at most so many words. The last one keeps the separators inside it, but not one
-- that only ends it. What is quoted separates nothing.
def cutWords (separators : List Char) : Nat → Marked → List String
  | 0, _ => []
  | count + 1, line =>
      let separates (entry : Char × Bool) : Bool := !entry.2 && separators.contains entry.1
      let isBlank (entry : Char × Bool) : Bool :=
        separates entry && (entry.1 == ' ' || entry.1 == '\t' || entry.1 == '\n')
      let line := line.dropWhile isBlank
      let word := line.takeWhile fun entry => !separates entry
      let after := (line.drop word.length).dropWhile isBlank
      let after := if after.head?.any separates then after.tail.dropWhile isBlank else after
      if count = 0 ∧ !after.isEmpty then [Marked.text (line.reverse.dropWhile isBlank).reverse]
      else Marked.text word :: cutWords separators count after

end MakeCheck.Shell
