import MakeCheck.Regex.Cursor
import MakeCheck.Regex.Expression

namespace MakeCheck.Regex

-- What one character or one escape stands for.
inductive Atom where
  | literal (literal : Literal)
  | edge (span : Span) (edge : Edge)
  | common (span : Span) (negated : Bool) (kind : CommonClass)
  | property (span : Span) (negated : Bool) (property : Property)

def Atom.span : Atom → Span
  | literal written => written.span
  | edge span _ => span
  | common span .. => span
  | property span .. => span

def operatorChars : List Char :=
  ['\\', '.', '+', '*', '?', '(', ')', '|', '[', ']', '\x7b', '\x7d', '^', '$', '#', '&', '-', '~']

-- Characters that stand for themselves after a backslash.
def standsForItself (c : Char) : Bool :=
  operatorChars.contains c ||
    (decide (c.toNat < 0x80) && !c.isAlphanum && c != '<' && c != '>')

def isHexDigit (c : Char) : Bool :=
  c.isDigit || ('a' ≤ c && c ≤ 'f') || ('A' ≤ c && c ≤ 'F')

def hexDigit (c : Char) : Nat :=
  if c.isDigit then c.toNat - '0'.toNat else c.toLower.toNat - 'a'.toNat + 10

def hexNumber (digits : List Char) : Nat :=
  digits.foldl (fun n digit => n * 16 + hexDigit digit) 0

namespace Reading

-- The character with a number. Numbers of surrogates and numbers that are too large have none.
def scalar (digits : List Char) (span : Span) : Reading Char :=
  let number := hexNumber digits
  if number.isValidChar then return Char.ofNat number else faultAt span .hexInvalid

def hexDigits : Nat → Reading (List Char)
  | 0 => return []
  | count + 1 => do
      match ← next? with
      | none => faultAt (← nextSpan) .escapeUnfinished
      | some c =>
          if isHexDigit c then
            advance
            return c :: (← hexDigits count)
          else faultAt (← nextSpan) .hexInvalidDigit

-- Digits between braces, with the cursor on the opening one.
def bracedHex (start : Place) : Reading Literal := do
  let brace ← place
  bump
  let first ← place
  bumpSpace
  let digits ← takeAll isHexDigit
  match ← next? with
  | none => faultAt ⟨brace, ← place⟩ .escapeUnfinished
  | some c =>
      if c = '\x7d' then
        let last ← place
        advance
        if digits.isEmpty then faultAt ⟨brace, ← place⟩ .hexEmpty
        else
          let c ← scalar digits ⟨first, last⟩
          return ⟨⟨start, ← place⟩, c, false⟩
      else faultAt (← nextSpan) .hexInvalidDigit

-- A character by its number, with the cursor on the letter that tells how many digits it has.
def hexLiteral (start : Place) (letter : Char) : Reading Literal := do
  advance
  match ← next? with
  | none => faultAt (← nextSpan) .escapeUnfinished
  | some '\x7b' => bracedHex start
  | some _ =>
      let first ← place
      let digits ← hexDigits (if letter = 'x' then 2 else if letter = 'u' then 4 else 8)
      let c ← scalar digits ⟨first, ← place⟩
      return ⟨⟨start, ← place⟩, c, letter == 'x'⟩

-- A name, or a name and a value with a sign between them, and whether the sign is one of denial.
def splitProperty (text : List Char) : Property × Bool :=
  let unequal := text.zip (text.drop 1) |>.findIdx? (· == ('!', '='))
  let cut (size i : Nat) : Property :=
    ⟨String.ofList (text.take i), some (String.ofList (text.drop (i + size)))⟩
  match unequal, text.findIdx? (· == ':'), text.findIdx? (· == '=') with
  | some i, _, _ => (cut 2 i, true)
  | none, some i, _ => (cut 1 i, false)
  | none, none, some i => (cut 1 i, false)
  | none, none, none => (⟨String.ofList text, none⟩, false)

-- The property that an escape names, by one letter or between braces, and whether it denies it.
def propertyName : Reading (Property × Bool) := do
  advance
  match ← next? with
  | none => faultAt (← nextSpan) .escapeUnfinished
  | some '\x7b' =>
      advance
      let text ← takeAll (· != '\x7d')
      if ← atEnd then faultAt (← nextSpan) .escapeUnfinished
      else
        bump
        return splitProperty text
  | some '\\' => faultAt (← nextSpan) .propertyNameInvalid
  | some c =>
      advance
      return (⟨c.toString, none⟩, false)

def edgeNames : List (String × Edge) :=
  [("start", .wordStart), ("end", .wordEnd), ("start-half", .wordStartHalf),
    ("end-half", .wordEndHalf)]

-- The kind of word edge between braces, with the cursor on the opening one. What cannot be such a
-- kind is left for a count.
def wordEdge? (start : Place) : Reading (Option Edge) := do
  let before ← get
  let fits (c : Char) : Bool := c.isAlpha || c == '-'
  advance
  match ← next? with
  | none => faultAt ⟨start, ← place⟩ .wordEdgeOrCountUnfinished
  | some c =>
      if !fits c then
        set before
        return none
      else
        let first ← place
        let name ← takeAll fits
        let last ← place
        if (← next?) = some '\x7d' then
          bump
          match edgeNames.lookup (String.ofList name) with
          | some edge => return some edge
          | none => faultAt ⟨first, last⟩ .wordEdgeUnrecognized
        else faultAt ⟨before.place, last⟩ .wordEdgeUnclosed

def controlChars : List (Char × Char) :=
  [('a', '\x07'), ('f', '\x0c'), ('t', '\t'), ('n', '\n'), ('r', '\r'), ('v', '\x0b')]

def edgeLetters : List (Char × Edge) :=
  [('A', .textStart), ('z', .textEnd), ('b', .word), ('B', .notWord), ('<', .wordStart),
    ('>', .wordEnd)]

def commonLetters : List (Char × CommonClass) :=
  [('d', .digit), ('s', .space), ('w', .word)]

def shortEscape (start : Place) (c : Char) : Reading Atom := do
  let span : Span := ⟨start, ← place⟩
  if standsForItself c then return .literal ⟨span, c, false⟩
  else
    match controlChars.lookup c, edgeLetters.lookup c with
    | some control, _ => return .literal ⟨span, control, false⟩
    | none, some .word =>
        if (← next?) = some '\x7b' then
          match ← wordEdge? start with
          | some edge => return .edge ⟨start, ← place⟩ edge
          | none => return .edge span .word
        else return .edge span .word
    | none, some edge => return .edge span edge
    | none, none => faultAt span .escapeUnrecognized

def escape : Reading Atom := do
  let start ← place
  bump
  match ← next? with
  | none => faultAt ⟨start, ← place⟩ .escapeUnfinished
  | some c =>
      if c.isDigit then faultAt ⟨start, (← nextSpan).stop⟩ .backreference
      else if c = 'x' ∨ c = 'u' ∨ c = 'U' then return .literal (← hexLiteral start c)
      else if c = 'p' ∨ c = 'P' then
        let (property, denied) ← propertyName
        return .property ⟨start, ← place⟩ ((c == 'P') != denied) property
      else
        bump
        match commonLetters.lookup c.toLower with
        | some kind => return .common ⟨start, ← place⟩ c.isUpper kind
        | none => shortEscape start c

end Reading

end MakeCheck.Regex
