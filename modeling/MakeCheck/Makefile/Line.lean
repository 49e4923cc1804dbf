import MakeCheck.Makefile.Basic
import MakeCheck.Text.Blank
import MakeCheck.Text.Word

namespace MakeCheck

open Text

namespace VariableDefinition

def isNameChar (c : Char) : Bool :=
  isWord c || c == '.' || c == '-'

-- What follows the assignment operator that the text starts with. Any number of colons may stand
-- before the equals sign, or else one of the three marks.
def afterOperator? : List Char → Option (List Char)
  | '?' :: '=' :: value => some value
  | '!' :: '=' :: value => some value
  | '+' :: '=' :: value => some value
  | text =>
      match text.dropWhile (· == ':') with
      | '=' :: value => some value
      | _ => none

-- Reads a line as an assignment.
def ofLine? (line : List Char) : Option VariableDefinition :=
  let name := line.takeWhile isNameChar
  if name.isEmpty then none
  else
    (afterOperator? (trimStart (line.dropWhile isNameChar))).map fun value =>
      ⟨String.ofList name, String.ofList (trim value)⟩

end VariableDefinition

-- What the line that opens a rule says.
structure Header where
  targets : Targets
  prerequisites : List String
deriving DecidableEq

namespace Header

-- Targets and prerequisites are made of these. The colon is not among them, so the targets of a
-- header end at its first colon.
def isHeaderChar (c : Char) : Bool :=
  isWord c || ['.', '-', '%', '$', '(', ')', ' ', '+'].contains c

-- What stands after a colon that belongs to one of the operators `:=`, `::=` and `:::=`.
def startsAssignment : List Char → Bool
  | '=' :: _ => true
  | ':' :: '=' :: _ => true
  | ':' :: ':' :: '=' :: _ => true
  | _ => false

-- The prerequisites end at the first character that cannot stand in a name.
def prerequisitesOf (rest : List Char) : List String :=
  (((rest.takeWhile isHeaderChar).splitOn ' ').filter fun name => !name.isEmpty).map String.ofList

-- Reads a line as the header of a rule.
def ofLine? (line : List Char) : Option Header :=
  let targets := line.takeWhile isHeaderChar
  match line.dropWhile isHeaderChar with
  | ':' :: rest =>
      if targets.isEmpty || startsAssignment rest then none
      else some ⟨Targets.ofText targets, prerequisitesOf rest⟩
  | _ => none

end Header

-- What a line of a Makefile turns out to be.
inductive Line where
  | blank
  | comment
  | definition (definition : VariableDefinition)
  | header (header : Header)
  | other (text : String)
deriving DecidableEq

-- Tells what a trimmed line is. With `detect` a line may be a definition.
def Line.ofText (detect : Bool) (text : List Char) : Line :=
  if text.isEmpty then blank
  else if text.head? = some '#' then comment
  else
    match if detect then VariableDefinition.ofLine? text else none with
    | some found => definition found
    | none =>
        match Header.ofLine? text with
        | some found => header found
        | none => other (String.ofList text)

-- The lines of a text. A carriage return counts for nothing wherever it stands.
def physicalLines (text : String) : List (List Char) :=
  (text.toList.splitOn '\n').map fun line => line.filter (· != '\r')

end MakeCheck
