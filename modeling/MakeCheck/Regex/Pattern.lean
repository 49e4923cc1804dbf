import MakeCheck.Regex.Expression
import MakeCheck.Text.Word

namespace MakeCheck.Regex

open Text

-- What a pattern means. Edges of words and ends of lines depend on what counts as one. A captured
-- part means what it is without that.
inductive Pattern where
  | empty
  | chars (set : CharSet)
  | edge (edge : Edge) (crlf unicode : Bool)
  | captured (body : Pattern)
  | row (parts : List Pattern)
  | choice (branches : List Pattern)
  | repeated (least : Nat) (most : Option Nat) (body : Pattern)

def isAsciiWord (c : Char) : Bool :=
  c.isAlphanum || c == '_'

-- Whether the condition of an edge holds between two characters, either of which may be missing.
def Edge.holds (edge : Edge) (crlf unicode : Bool) (before after : Option Char) : Bool :=
  let word (c : Option Char) : Bool := c.any (if unicode then isWord else isAsciiWord)
  match edge with
  | .textStart => before.isNone
  | .textEnd => after.isNone
  | .lineStart =>
      before.isNone || before == some '\n' || (crlf && before == some '\r' && after != some '\n')
  | .lineEnd =>
      if crlf then after.isNone || after == some '\r' || (after == some '\n' && before != some '\r')
      else after.isNone || after == some '\n'
  | .word => word before != word after
  | .notWord => word before == word after
  | .wordStart => !word before && word after
  | .wordEnd => word before && !word after
  | .wordStartHalf => !word before
  | .wordEndHalf => !word after

-- A set of places of a text: an entry for each place, from the one before the text to the one
-- behind it.
abbrev Places := List Bool

def Places.union (places other : Places) : Places :=
  places.zipWith (· || ·) other

def neighbours (text : List Char) : List (Option Char × Option Char) :=
  (none :: text.map some).zip (text.map some ++ [none])

-- Takes a step again and again, as often as told unless nothing changes any more.
def iterate (step : Places → Places) : Nat → Places → Places
  | 0, places => places
  | times + 1, places =>
      let next := step places
      if next = places then places else iterate step times next

mutual

-- The places where a match can end that begins at one of the given places.
def Pattern.ends (text : List Char) : Pattern → Places → Places
  | empty, places => places
  | chars set, places => false :: places.zipWith (fun here c => here && set.contains c) text
  | edge kind crlf unicode, places =>
      places.zipWith (fun here (before, after) => here && kind.holds crlf unicode before after)
        (neighbours text)
  | captured body, places => body.ends text places
  | row parts, places => Pattern.rowEnds text parts places
  | choice branches, places => Pattern.choiceEnds text branches places
  | repeated least most body, places =>
      let step := body.ends text
      -- Each place is reached after no more rounds than there are places.
      let further := (most.map (· - least)).getD places.length
      iterate (fun places => places.union (step places)) further (iterate step least places)

def Pattern.rowEnds (text : List Char) : List Pattern → Places → Places
  | [], places => places
  | part :: rest, places => Pattern.rowEnds text rest (part.ends text places)

def Pattern.choiceEnds (text : List Char) : List Pattern → Places → Places
  | [], places => places.map fun _ => false
  | branch :: rest, places =>
      (branch.ends text places).union (Pattern.choiceEnds text rest places)

end

def Pattern.occursIn (pattern : Pattern) (text : String) : Bool :=
  let text := text.toList
  (pattern.ends text (List.replicate (text.length + 1) true)).contains true

end MakeCheck.Regex
