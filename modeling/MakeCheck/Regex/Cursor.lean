import MakeCheck.Regex.Fault
import MakeCheck.Text.Blank

namespace MakeCheck.Regex

-- Where the reading of a pattern stands.
structure Cursor where
  rest : List Char
  place : Place
  -- Blanks and comments mean nothing.
  ignoresSpace : Bool
  -- The groups that have a name, with the place where it stands.
  names : List (String × Span)

-- A step of reading, which moves the cursor or finds a fault.
abbrev Reading := StateT Cursor (Except Fault)

namespace Reading

def faultAt {α : Type} (span : Span) (complaint : Complaint) : Reading α :=
  throw ⟨complaint, span, none⟩

def place : Reading Place := do
  return (← get).place

def next? : Reading (Option Char) := do
  return (← get).rest.head?

def atEnd : Reading Bool := do
  return (← get).rest.isEmpty

-- The stretch of the next character, which is empty at the end.
def nextSpan : Reading Span := do
  let cursor ← get
  match cursor.rest with
  | c :: _ => return .one cursor.place c
  | [] => return .point cursor.place

def bump : Reading Unit :=
  modify fun cursor =>
    match cursor.rest with
    | c :: rest => { cursor with rest, place := cursor.place.past c }
    | [] => cursor

def bumpIf (text : List Char) : Reading Bool := do
  if text.isPrefixOf (← get).rest then
    for _ in text do bump
    return true
  else return false

-- What follows blanks and comments. A comment runs from a number sign to the end of its line.
def skipIdle (inComment : Bool) : List Char → Place → List Char × Place
  | [], place => ([], place)
  | c :: rest, place =>
      if inComment then skipIdle (c != '\n') rest (place.past c)
      else if Text.isBlank c then skipIdle false rest (place.past c)
      else if c = '#' then skipIdle true rest (place.past c)
      else (c :: rest, place)

-- Passes over blanks and comments where they mean nothing.
def bumpSpace : Reading Unit :=
  modify fun cursor =>
    if cursor.ignoresSpace then
      let (rest, place) := skipIdle false cursor.rest cursor.place
      { cursor with rest, place }
    else cursor

-- Passes over the next character and what means nothing after it.
def advance : Reading Unit := do
  bump
  bumpSpace

def second? : Reading (Option Char) := do
  return (← get).rest.tail.head?

-- The character after the next one, where blanks do not count. A number sign is passed over once.
def secondBeyondSpace? : Reading (Option Char) := do
  let cursor ← get
  let after := cursor.rest.tail
  if !cursor.ignoresSpace then return after.head?
  else
    let found :=
      match after.dropWhile Text.isBlank with
      | '#' :: rest => rest.dropWhile Text.isBlank
      | rest => rest
    return found.head?.or after.head?

-- Passes over the characters of a kind, and whatever means nothing between them.
def takeAdvancing (fits : Char → Bool) : Nat → Reading (List Char)
  | 0 => return []
  | fuel + 1 => do
      match ← next? with
      | some c =>
          if fits c then
            advance
            return c :: (← takeAdvancing fits fuel)
          else return []
      | none => return []

def fuel : Reading Nat := do
  return (← get).rest.length

def takeAll (fits : Char → Bool) : Reading (List Char) := do
  takeAdvancing fits (← fuel)

end Reading

end MakeCheck.Regex
