import MakeCheck.Text.Bracket
import MakeCheck.Text.Utf8

namespace MakeCheck.Program

open Text

-- A pattern for lines of bytes, which stand for the characters of the same number.
inductive Pattern where
  | empty
  | char (c : Char)
  | any
  | set (negated : Bool) (entries : List BracketEntry)
  | start
  | finish
  -- Whether a word lies before a place and behind it.
  | edge (fits : Bool → Bool → Bool)
  -- What a group has taken comes again.
  | again (group : Nat)
  | group (number : Nat) (body : Pattern)
  | both (first second : Pattern)
  | either (first second : Pattern)
  | repeated (least : Nat) (most : Option Nat) (body : Pattern)

-- A sign of a pattern as it is written.
inductive PatternSign where
  | pattern (pattern : Pattern)
  | caret
  | dollar
  | repetition (least : Nat) (most : Option Nat) (text : List Char)
  | opening
  | closing
  | bar

inductive PatternFault where
  | incomplete
  | unmatchedBracket
  | unknownClass
  | badRange
  | bareClass (name : String)
  | unmatchedOpening
  | unmatchedClosing
  | unmatchedBrace
  | badInterval
  | tooBig
  | trailingBackslash
  | badReference
deriving DecidableEq

def PatternFault.message : PatternFault → String
  | incomplete => "Invalid regular expression"
  | unknownClass => "Invalid character class name"
  | badRange => "Invalid range end"
  | bareClass name => "character class syntax is [[:" ++ name ++ ":]], not [:" ++ name ++ ":]"
  | tooBig => "Regular expression too big"
  | unmatchedBracket => "Unmatched [, [^, [:, [., or [="
  | unmatchedOpening => "Unmatched ( or \\("
  | unmatchedClosing => "Unmatched ) or \\)"
  | unmatchedBrace => "Unmatched \\\x7b"
  | badInterval => "Invalid content of \\\x7b\\\x7d"
  | trailingBackslash => "Trailing backslash"
  | badReference => "Invalid back reference"

namespace Pattern

def literal (text : List Char) : Pattern :=
  text.foldr (fun c rest => both (char c) rest) empty

def isWordChar (c : Char) : Bool :=
  c.isAlphanum || c == '_'

def escape? : Char → Option Pattern
  | 'w' => some (set false [.named isWordChar])
  | 'W' => some (set true [.named isWordChar])
  | 's' => some (set false [.named Char.isWhitespace])
  | 'S' => some (set true [.named Char.isWhitespace])
  | '<' => some (edge fun before after => !before && after)
  | '>' => some (edge fun before after => before && !after)
  | 'b' => some (edge fun before after => before != after)
  | 'B' => some (edge fun before after => before == after)
  | '\x60' => some start
  | '\x27' => some finish
  | 'n' => some (char '\n')
  | 't' => some (char '\t')
  | _ => none

-- Whether counts of repetitions stand up to the next brace.
def isClosed (s : List Char) : Bool :=
  match s.dropWhile fun c => c.isDigit || c == ',' with
  | '\x7d' :: _ => s.head?.any Char.isDigit
  | _ => false

def maxRepetition : Nat := 32767

-- A count of repetitions up to the brace that closes it.
def readInterval (extended : Bool) (s : List Char) :
    Except PatternFault (Nat × Option Nat × List Char) :=
  let low := s.takeWhile Char.isDigit
  let rest := s.drop low.length
  let value (digits : List Char) : Nat := digits.foldl (fun n c => n * 10 + (c.toNat - 48)) 0
  let (most, rest) : Option Nat × List Char :=
    match rest with
    | ',' :: after =>
        let high := after.takeWhile Char.isDigit
        (if high.isEmpty then none else some (value high), after.drop high.length)
    | rest => (some (value low), rest)
  let isProper := (!low.isEmpty || s.head? == some ',') && most.all fun high => value low ≤ high
  match rest, extended with
  | '\x7d' :: after, true | '\\' :: '\x7d' :: after, false =>
      if !isProper then .error .badInterval
      else if maxRepetition < value low ∨ most.any (maxRepetition < ·) then .error .tooBig
      else .ok (value low, most, after)
  | [], _ => .error .unmatchedBrace
  | _, _ => .error .badInterval

-- The name of a class that stands at the front of a text, up to the two signs that close it.
def className? (s : List Char) : Option (List Char) :=
  let name := s.takeWhile fun c => c.isAlpha
  match s.drop name.length with
  | ':' :: ']' :: _ => some name
  | _ => none

-- Whether a set in brackets names a class that nobody knows.
def namesUnknown : List Char → Bool
  | '[' :: ':' :: rest =>
      (className? rest).any (fun name => (namedSets.lookup (String.ofList name)).isNone) ||
        namesUnknown rest
  | _ :: rest => namesUnknown rest
  | [] => false

-- What is wrong with a set in brackets whose end is missing or whose entries make no sense.
def bracketFault? (body : List Char) (entries? : Option (List BracketEntry × List Char)) :
    Option PatternFault :=
  match entries? with
  | none => some (if body.isEmpty then .incomplete else .unmatchedBracket)
  | some (entries, after) =>
      let inside := body.take (body.length - after.length)
      let isTurned (entry : BracketEntry) : Bool :=
        match entry with
        | .range first last => decide (last < first)
        | .named _ => false
      if namesUnknown inside then some .unknownClass
      else if entries.any isTurned then some .badRange
      else
        match body with
        | ':' :: rest =>
            let name := rest.takeWhile (· != ':')
            if inside = ':' :: name ++ [':', ']'] && (namedSets.lookup (String.ofList name)).isSome
            then some (.bareClass (String.ofList name))
            else none
        | _ => none

-- The sign at the front of a pattern. Extended patterns write operators without a backslash.
def readSign (extended : Bool) : List Char → Except PatternFault (PatternSign × List Char)
  | [] => .error .trailingBackslash
  | '[' :: rest =>
      let (negated, body) :=
        match rest with
        | '^' :: after => (true, after)
        | _ => (false, rest)
      let found := (bracketEntries (body.length + 1) true (body.map fun c => (c, false))).map
        fun (entries, after) => (entries, after.map (·.1))
      match bracketFault? body found, found with
      | some fault, _ => .error fault
      | none, some (entries, after) => .ok (.pattern (.set negated entries), after)
      | none, none => .error .unmatchedBracket
  | '.' :: rest => .ok (.pattern .any, rest)
  | '*' :: rest => .ok (.repetition 0 none ['*'], rest)
  | '^' :: rest => .ok (.caret, rest)
  | '$' :: rest => .ok (.dollar, rest)
  | c :: rest => do
      let (isEscaped, c, rest) ←
        match c, rest with
        | '\\', [] => throw .trailingBackslash
        | '\\', d :: after => pure (true, d, after)
        | _, _ => pure (false, c, rest)
      if isEscaped == extended then
        -- This is no operator.
        if isEscaped && c.isDigit && c != '0' then
          return (.pattern (.again (c.toNat - '0'.toNat)), rest)
        return (.pattern (if isEscaped then (escape? c).getD (.char c) else .char c), rest)
      else
        match c with
        | '(' => return (.opening, rest)
        | ')' => return (.closing, rest)
        | '|' => return (.bar, rest)
        | '+' => return (.repetition 1 none ['+'], rest)
        | '?' => return (.repetition 0 (some 1) ['?'], rest)
        | '\x7b' =>
            match readInterval extended rest with
            | .ok (least, most, after) => return (.repetition least most ['\x7b'], after)
            | .error fault =>
                if extended && fault != .tooBig && !(fault == .badInterval && isClosed rest) then
                  return (.pattern (.char c), rest)
                else throw fault
        | _ =>
            if isEscaped && c.isDigit && c != '0' then
              return (.pattern (.again (c.toNat - '0'.toNat)), rest)
            return (.pattern (if isEscaped then (escape? c).getD (.char c) else .char c), rest)

-- Whether a pattern or a part of one can begin behind a sign, or at the front.
def beginsPart : Option PatternSign → Bool
  | none | some .opening | some .bar => true
  | _ => false

-- The signs of a pattern behind another sign. A brace that has nothing to repeat stands for itself.
def readSigns (extended : Bool) : Nat → Option PatternSign → List Char →
    Except PatternFault (List PatternSign)
  | 0, _, _ => .ok []
  | _, _, [] => .ok []
  | fuel + 1, before, s => do
      let (sign, rest) ←
        match s, beginsPart before && !extended with
        | '\\' :: '\x7b' :: rest, true => pure (PatternSign.pattern (.char '\x7b'), rest)
        | _, _ => readSign extended s
      return sign :: (← readSigns extended fuel (some sign) rest)

-- Closing brackets that no opening one belongs to stand for themselves. The number is that of the
-- groups that are open.
def loosen : Nat → List PatternSign → List PatternSign
  | _, [] => []
  | depth, .opening :: rest => .opening :: loosen (depth + 1) rest
  | 0, .closing :: rest => .pattern (.char ')') :: loosen 0 rest
  | depth + 1, .closing :: rest => .closing :: loosen depth rest
  | depth, sign :: rest => sign :: loosen depth rest

def endsPart : Option PatternSign → Bool
  | none | some .closing | some .bar => true
  | _ => false

-- Signs that are operators only in some places are settled by their neighbours.
def settle (extended : Bool) (before : Option PatternSign) :
    List PatternSign → Except PatternFault (List PatternSign)
  | [] => .ok []
  | sign :: rest => do
      let settled : PatternSign ←
        match sign with
        | .caret =>
            pure (.pattern (if extended || beginsPart before then .start else .char '^'))
        | .dollar =>
            pure (.pattern (if extended || endsPart rest.head? then .finish else .char '$'))
        | .repetition _ _ text =>
            let isFree := beginsPart before || (match before with
              | some (.pattern .start) => !extended
              | _ => false)
            pure (if isFree then .pattern (literal text) else sign)
        | sign => pure sign
      return settled :: (← settle extended (some settled) rest)

-- Reading goes on with the number of the next group, and knows which groups are complete.
abbrev SignReading := StateT Nat (Except PatternFault)

mutual

def readEither : Nat → List PatternSign → SignReading (Pattern × List PatternSign)
  | 0, signs => return (.empty, signs)
  | fuel + 1, signs => do
      let (first, rest) ← readRow fuel .empty signs
      match rest with
      | .bar :: after =>
          let (second, rest) ← readEither fuel after
          return (.either first second, rest)
      | rest => return (first, rest)

def readRow : Nat → Pattern → List PatternSign → SignReading (Pattern × List PatternSign)
  | 0, before, signs => return (before, signs)
  | fuel + 1, before, signs => do
      match signs with
      | .pattern (.again number) :: rest =>
          if (← get) ≤ number then throw .badReference
          let (part, rest) ← readRepetitions fuel (.again number) rest
          readRow fuel (.both before part) rest
      | .pattern part :: rest =>
          let (part, rest) ← readRepetitions fuel part rest
          readRow fuel (.both before part) rest
      | .opening :: rest =>
          let number ← get
          modify (· + 1)
          let (body, rest) ← readEither fuel rest
          match rest with
          | .closing :: after =>
              let (part, rest) ← readRepetitions fuel (.group number body) after
              readRow fuel (.both before part) rest
          | _ => throw .unmatchedOpening
      | signs => return (before, signs)

def readRepetitions : Nat → Pattern → List PatternSign → SignReading (Pattern × List PatternSign)
  | 0, body, signs => return (body, signs)
  | fuel + 1, body, signs =>
      match signs with
      | .repetition least most _ :: rest => readRepetitions fuel (.repeated least most body) rest
      | signs => return (body, signs)

end

-- Reads a pattern. The number tells how many groups it has. Where it is loose, brackets need not
-- come in pairs.
def ofChars (extended loose : Bool) (s : List Char) : Except PatternFault (Pattern × Nat) := do
  let signs ← readSigns extended s.length none s
  let signs ← settle extended none (if loose then loosen 0 signs else signs)
  let ((pattern, rest), next) ← (readEither (3 * signs.length + 3) signs).run 1
  if rest.isEmpty then return (pattern, next - 1) else throw .unmatchedClosing

-- A place in a line: what lies before it, what comes, and how far it is from the front.
structure Spot where
  before : Option Char
  rest : List Char
  index : Nat

abbrev Groups := List (Nat × List Char)

-- Where a match ends, and what its groups have taken.
structure Found where
  stop : Nat
  groups : Groups

def Spot.next (spot : Spot) : Spot :=
  ⟨spot.rest.head?, spot.rest.tail, spot.index + 1⟩

def Spot.skip (spot : Spot) : Nat → Spot
  | 0 => spot
  | count + 1 => spot.next.skip count

-- Of two matches the longer one, and of equal ones the first.
def longer : Option Found → Option Found → Option Found
  | some first, some second => some (if first.stop < second.stop then second else first)
  | first, second => first.or second

def agrees (ignoreCase : Bool) (a b : Char) : Bool :=
  a == b || (ignoreCase && a.toLower == b.toLower)

-- Follows a pattern from a place and goes on behind it. Repetitions take as much as they can.
def follow (ignoreCase : Bool) : Nat → Pattern → Spot → Groups →
    (Spot → Groups → Option Found) → Option Found
  | 0, _, _, _, _ => none
  | fuel + 1, pattern, spot, groups, further =>
      let step (fits : Char → Bool) : Option Found :=
        if spot.rest.head?.any fits then further spot.next groups else none
      match pattern with
      | .empty => further spot groups
      | .char c => step (agrees ignoreCase c)
      | .any => step fun _ => true
      | .set negated entries =>
          let has (c : Char) : Bool := entries.any (·.fits c)
          step fun c =>
            (has c || (ignoreCase && (has c.toLower || has c.toUpper))) != negated
      | .start => if spot.index = 0 then further spot groups else none
      | .finish => if spot.rest.isEmpty then further spot groups else none
      | .edge fits =>
          if fits (spot.before.any isWordChar) (spot.rest.head?.any isWordChar) then
            further spot groups
          else none
      | .again number =>
          match groups.lookup number with
          | none => none
          | some taken =>
              let front := spot.rest.take taken.length
              if front.length = taken.length ∧
                  (front.zip taken).all fun pair => agrees ignoreCase pair.1 pair.2 then
                further (spot.skip taken.length) groups
              else none
      | .group number body =>
          follow ignoreCase fuel body spot groups fun after groups =>
            let taken := spot.rest.take (after.index - spot.index)
            further after ((number, taken) :: groups)
      | .both first second =>
          follow ignoreCase fuel first spot groups fun after groups =>
            follow ignoreCase fuel second after groups further
      | .either first second =>
          longer (follow ignoreCase fuel first spot groups further)
            (follow ignoreCase fuel second spot groups further)
      | .repeated least most body =>
          let more : Option Found :=
            if most = some 0 then none
            else
              follow ignoreCase fuel body spot groups fun after groups =>
                if after.index = spot.index ∧ least = 0 then none
                else
                  follow ignoreCase fuel (.repeated (least - 1) (most.map (· - 1)) body) after
                    groups further
          if more.isSome || 0 < least then more else further spot groups

def weight : Pattern → Nat
  | .group _ body => body.weight + 1
  | .both first second | .either first second => first.weight + second.weight + 1
  | .repeated least _ body => body.weight + least + 1
  | _ => 1

def matchAt? (pattern : Pattern) (ignoreCase : Bool) (spot : Spot) : Option Found :=
  follow ignoreCase (pattern.weight + spot.rest.length + 1) pattern spot []
    fun after groups => some ⟨after.index, groups⟩

-- The first match from a place on, and where it begins.
def findFrom (pattern : Pattern) (ignoreCase : Bool) (before : Option Char) (index : Nat) :
    List Char → Option (Nat × Found)
  | [] => (pattern.matchAt? ignoreCase ⟨before, [], index⟩).map fun found => (index, found)
  | c :: rest =>
      match pattern.matchAt? ignoreCase ⟨before, c :: rest, index⟩ with
      | some found => some (index, found)
      | none => pattern.findFrom ignoreCase (some c) (index + 1) rest

def find? (pattern : Pattern) (ignoreCase : Bool) (line : List Char) : Option (Nat × Found) :=
  pattern.findFrom ignoreCase none 0 line

-- All matches from the front on. One without characters does not follow another one at once. The
-- first argument bounds their number.
def findAll (pattern : Pattern) (ignoreCase : Bool) : Nat → Option Nat → Spot → List (Nat × Found)
  | 0, _, _ => []
  | fuel + 1, last, spot =>
      match pattern.findFrom ignoreCase spot.before spot.index spot.rest with
      | none => []
      | some (place, found) =>
          let isEmpty := found.stop == place
          let after := spot.skip (found.stop - spot.index)
          let next := if isEmpty then after.next else after
          let rest :=
            if isEmpty && after.rest.isEmpty then []
            else findAll pattern ignoreCase fuel (some found.stop) next
          if isEmpty && last == some place then rest else (place, found) :: rest

def allMatches (pattern : Pattern) (ignoreCase : Bool) (line : List Char) : List (Nat × Found) :=
  pattern.findAll ignoreCase (line.length + 2) none ⟨none, line, 0⟩

end Pattern

-- The bytes of a text as characters of the same numbers.
def byteChars (bytes : List UInt8) : List Char :=
  bytes.map fun byte => Char.ofNat byte.toNat

def charBytes (s : List Char) : List UInt8 :=
  s.map fun c => UInt8.ofNat c.toNat

def patternChars (text : String) : List Char :=
  byteChars (Utf8.encode text)

end MakeCheck.Program
