namespace MakeCheck.Regex

-- A place in a pattern. Lines and columns count from one, columns in characters.
structure Place where
  line : Nat
  column : Nat
deriving DecidableEq

namespace Place

def first : Place :=
  ⟨1, 1⟩

def past (place : Place) (c : Char) : Place :=
  if c = '\n' then ⟨place.line + 1, 1⟩ else ⟨place.line, place.column + 1⟩

def isBefore (place other : Place) : Bool :=
  decide (place.line < other.line) ||
    (place.line == other.line && decide (place.column < other.column))

end Place

-- A stretch of a pattern, up to the place behind it.
structure Span where
  start : Place
  stop : Place
deriving DecidableEq

namespace Span

def one (place : Place) (c : Char) : Span :=
  ⟨place, place.past c⟩

def point (place : Place) : Span :=
  ⟨place, place⟩

def isOneLine (span : Span) : Bool :=
  span.start.line == span.stop.line

def isBefore (span other : Span) : Bool :=
  span.start.isBefore other.start || (span.start == other.start && span.stop.isBefore other.stop)

end Span

-- What can be wrong with a pattern.
inductive Complaint where
  | classEscapeInvalid
  | classRangeInvalid
  | classRangeLiteral
  | classUnclosed
  | decimalEmpty
  | decimalInvalid
  | hexEmpty
  | hexInvalid
  | hexInvalidDigit
  | escapeUnfinished
  | escapeUnrecognized
  | flagDanglingNegation
  | flagDuplicate
  | flagRepeatedNegation
  | flagUnfinished
  | flagUnrecognized
  | groupNameDuplicate
  | groupNameEmpty
  | groupNameInvalid
  | groupNameUnfinished
  | groupUnclosed
  | groupUnopened
  | nestingTooDeep (limit : Nat)
  | countInvalid
  | countEmpty
  | countUnclosed
  | repetitionMissing
  | wordEdgeUnclosed
  | wordEdgeUnrecognized
  | wordEdgeOrCountUnfinished
  | propertyNameInvalid
  | backreference
  | lookAround
  | unicodeNotAllowed
  | invalidUtf8
  | propertyNotFound
  | propertyValueNotFound
deriving DecidableEq

def Complaint.message : Complaint → String
  | classEscapeInvalid => "invalid escape sequence found in character class"
  | classRangeInvalid => "invalid character class range, the start must be <= the end"
  | classRangeLiteral => "invalid range boundary, must be a literal"
  | classUnclosed => "unclosed character class"
  | decimalEmpty => "decimal literal empty"
  | decimalInvalid => "decimal literal invalid"
  | hexEmpty => "hexadecimal literal empty"
  | hexInvalid => "hexadecimal literal is not a Unicode scalar value"
  | hexInvalidDigit => "invalid hexadecimal digit"
  | escapeUnfinished => "incomplete escape sequence, reached end of pattern prematurely"
  | escapeUnrecognized => "unrecognized escape sequence"
  | flagDanglingNegation => "dangling flag negation operator"
  | flagDuplicate => "duplicate flag"
  | flagRepeatedNegation => "flag negation operator repeated"
  | flagUnfinished => "expected flag but got end of regex"
  | flagUnrecognized => "unrecognized flag"
  | groupNameDuplicate => "duplicate capture group name"
  | groupNameEmpty => "empty capture group name"
  | groupNameInvalid => "invalid capture group character"
  | groupNameUnfinished => "unclosed capture group name"
  | groupUnclosed => "unclosed group"
  | groupUnopened => "unopened group"
  | nestingTooDeep limit =>
      "exceed the maximum number of nested parentheses/brackets (" ++ toString limit ++ ")"
  | countInvalid => "invalid repetition count range, the start must be <= the end"
  | countEmpty => "repetition quantifier expects a valid decimal"
  | countUnclosed => "unclosed counted repetition"
  | repetitionMissing => "repetition operator missing expression"
  | wordEdgeUnclosed =>
      "special word boundary assertion is either unclosed or contains an invalid character"
  | wordEdgeUnrecognized =>
      "unrecognized special word boundary assertion, valid choices are: start, end, start-half " ++
        "or end-half"
  | wordEdgeOrCountUnfinished =>
      "found either the beginning of a special word boundary or a bounded repetition on a \\b " ++
        "with an opening brace, but no closing brace"
  | propertyNameInvalid => "invalid Unicode character class"
  | backreference => "backreferences are not supported"
  | lookAround => "look-around, including look-ahead and look-behind, is not supported"
  | unicodeNotAllowed => "Unicode not allowed here"
  | invalidUtf8 => "pattern can match invalid UTF-8"
  | propertyNotFound => "Unicode property not found"
  | propertyValueNotFound => "Unicode property value not found"

-- What is wrong and where. Some complaints point at a second stretch as well.
structure Fault where
  complaint : Complaint
  span : Span
  other : Option Span
deriving DecidableEq

-- The lines of a text. A break at its end begins no line, and a return before a break is no part
-- of its line.
def lines (text : List Char) : List (List Char) :=
  let pieces := text.splitOn '\n'
  let whole := if pieces.getLast? = some [] then pieces.dropLast else pieces
  whole.zipIdx.map fun (line, i) =>
    if i + 1 < pieces.length ∧ line.getLast? = some '\r' then line.dropLast else line

-- Carets below the stretches of one line, given in order.
def underline (column : Nat) : List Span → List Char
  | [] => []
  | span :: rest =>
      let before := span.start.column - column
      let size := max 1 (span.stop.column - span.start.column)
      List.replicate before ' ' ++ List.replicate size '^' ++
        underline (column + before + size) rest

namespace Fault

def spans (fault : Fault) : List Span :=
  match fault.other with
  | none => [fault.span]
  | some other =>
      if other.isBefore fault.span then [other, fault.span] else [fault.span, other]

-- The pattern with carets below what is wrong. Lines have numbers where there are more than one.
def notes (fault : Fault) (pattern : List Char) : List (List Char) :=
  let all := lines pattern
  let count := all.length + if pattern.getLast? = some '\n' then 1 else 0
  let width := if count ≤ 1 then 0 else (toString count).length
  (all.zipIdx 1).flatMap fun (line, number) =>
    let digits := (toString number).toList
    let label :=
      if width = 0 then List.replicate 4 ' '
      else List.replicate (width - digits.length) ' ' ++ digits ++ [':', ' ']
    let here := fault.spans.filter fun span => span.isOneLine && span.start.line == number
    let carets := List.replicate label.length ' ' ++ underline 1 here
    (label ++ line) :: if here.isEmpty then [] else [carets]

def longSpanNote (span : Span) : String :=
  "on line " ++ toString span.start.line ++ " (column " ++ toString span.start.column ++
    ") through line " ++ toString span.stop.line ++ " (column " ++
    toString (span.stop.column - 1) ++ ")"

def report (fault : Fault) (pattern : String) : String :=
  let shown := (fault.notes pattern.toList).map String.ofList
  let rule := String.ofList (List.replicate 79 '~')
  let long := fault.spans.filter fun span => !span.isOneLine
  let body :=
    if '\n' ∈ pattern.toList then [rule] ++ shown ++ [rule] ++ long.map longSpanNote else shown
  "\n".intercalate
    (["regex parse error:"] ++ body ++ ["error: " ++ fault.complaint.message])

end Fault

end MakeCheck.Regex
