import MakeCheck.Regex.Escape

namespace MakeCheck.Regex

-- The sets of ASCII characters that have a name between colons.
def namedRanges : List (String × List (Char × Char)) :=
  [("alnum", [('0', '9'), ('A', 'Z'), ('a', 'z')]),
    ("alpha", [('A', 'Z'), ('a', 'z')]),
    ("ascii", [('\x00', '\x7f')]),
    ("blank", [('\t', '\t'), (' ', ' ')]),
    ("cntrl", [('\x00', '\x1f'), ('\x7f', '\x7f')]),
    ("digit", [('0', '9')]),
    ("graph", [('!', '~')]),
    ("lower", [('a', 'z')]),
    ("print", [(' ', '~')]),
    ("punct", [('!', '/'), (':', '@'), ('[', '\x60'), ('\x7b', '~')]),
    ("space", [('\t', '\r'), (' ', ' ')]),
    ("upper", [('A', 'Z')]),
    ("word", [('0', '9'), ('A', 'Z'), ('_', '_'), ('a', 'z')]),
    ("xdigit", [('0', '9'), ('A', 'F'), ('a', 'f')])]

def rangesNamed? (name : List Char) : Option (List (Nat × Nat)) :=
  (namedRanges.lookup (String.ofList name)).map fun ranges =>
    ranges.map fun (first, last) => (first.toNat, last.toNat)

namespace Reading

-- A set by its name, with the cursor on the opening bracket. Anything else is left where it is.
def namedClass? : Reading (Option CharClass) := do
  let before ← get
  if !(← bumpIf ['[', ':']) then return none
  else
    let negated ← bumpIf ['^']
    let name := (← get).rest.takeWhile (· != ':')
    for _ in name do bump
    match rangesNamed? name, ← bumpIf [':', ']'] with
    | some ranges, true => return some (.named ⟨before.place, ← place⟩ negated ranges)
    | _, _ =>
        set before
        return none

def classAtom : Reading Atom := do
  match ← next? with
  | some '\\' => escape
  | some c =>
      let span ← nextSpan
      bump
      return .literal ⟨span, c, false⟩
  | none => faultAt (← nextSpan) .classUnclosed

def itemOf (atom : Atom) : Reading CharClass :=
  match atom with
  | .literal written => return .literal written
  | .common span negated kind => return .common span negated kind
  | .property span negated property => return .property span negated property
  | .edge span _ => faultAt span .classEscapeInvalid

def boundOf (atom : Atom) : Reading Literal :=
  match atom with
  | .literal written => return written
  | other => faultAt other.span .classRangeLiteral

-- One character, one escape or a range. A hyphen before the closing bracket or before another
-- hyphen makes no range. `opening` is the stretch to complain about where the set does not end.
def classItem (opening : Span) : Reading CharClass := do
  let first ← classAtom
  bumpSpace
  if ← atEnd then faultAt opening .classUnclosed
  let second ← secondBeyondSpace?
  if (← next?) ≠ some '-' ∨ second = some ']' ∨ second = some '-' then itemOf first
  else
    advance
    if ← atEnd then faultAt opening .classUnclosed
    let last ← classAtom
    let low ← boundOf first
    let high ← boundOf last
    if high.c < low.c then faultAt ⟨low.span.start, high.span.stop⟩ .classRangeInvalid
    else return .range low high

-- The hyphens at the very front of a set stand for themselves.
def leadingHyphens (start : Place) : Nat → Reading (List CharClass)
  | 0 => return []
  | fuel + 1 => do
      if (← next?) = some '-' then
        let item := CharClass.literal ⟨← nextSpan, '-', false⟩
        advance
        if ← atEnd then faultAt (.point start) .classUnclosed
        return item :: (← leadingHyphens start fuel)
      else return []

-- The opening of a set: its stretch, whether it is negated, the place where its items begin, and
-- the items that only its front can hold.
def classOpening : Reading (Span × Bool × Place × List CharClass) := do
  let start ← place
  advance
  if ← atEnd then faultAt ⟨start, ← place⟩ .classUnclosed
  let negated := (← next?) == some '^'
  if negated then
    advance
    if ← atEnd then faultAt ⟨start, ← place⟩ .classUnclosed
  let items ← place
  let hyphens ← leadingHyphens start (← fuel)
  if hyphens.isEmpty && (← next?) == some ']' then
    let item := CharClass.literal ⟨← nextSpan, ']', false⟩
    advance
    if ← atEnd then faultAt ⟨start, ← place⟩ .classUnclosed
    return (⟨start, ← place⟩, negated, items, [item])
  else return (⟨start, ← place⟩, negated, items, hyphens)

def setOperation? : Reading (Option SetOperation) := do
  match ← next?, ← second? with
  | some '&', some '&' => return some .intersection
  | some '-', some '-' => return some .difference
  | some '~', some '~' => return some .symmetricDifference
  | _, _ => return none

-- What is on the left of an operator, with the operator.
abbrev Pending := Option (CharClass × SetOperation)

def Pending.close (pending : Pending) (right : CharClass) : CharClass :=
  match pending with
  | none => right
  | some (left, operation) =>
      .operation ⟨left.span.start, right.span.stop⟩ operation left right

mutual

def bracketed : Nat → Reading CharClass
  | 0 => do faultAt (← nextSpan) .classUnclosed
  | fuel + 1 => do
      let (opening, negated, items, front) ← classOpening
      let body ← classBody fuel opening none items front.reverse
      return .bracketed ⟨opening.start, ← place⟩ negated body

-- The items of a set up to its closing bracket. Those that were read come in reverse order.
def classBody : Nat → Span → Pending → Place → List CharClass → Reading CharClass
  | 0, opening, _, _, _ => faultAt opening .classUnclosed
  | fuel + 1, opening, pending, start, before => do
      bumpSpace
      match ← next? with
      | none => faultAt opening .classUnclosed
      | some '[' =>
          match ← namedClass? with
          | some named => classBody fuel opening pending start (named :: before)
          | none =>
              let inner ← bracketed fuel
              classBody fuel opening pending start (inner :: before)
      | some ']' =>
          bump
          return Pending.close pending (.ofItems start before.reverse)
      | some _ =>
          match ← setOperation? with
          | some operation =>
              bump
              bump
              let left := Pending.close pending (.ofItems start before.reverse)
              classBody fuel opening (some (left, operation)) (← place) []
          | none =>
              let item ← classItem opening
              classBody fuel opening pending start (item :: before)

end

end Reading

end MakeCheck.Regex
