import MakeCheck.Decimal.Arithmetic
import MakeCheck.Decimal.Reading
import MakeCheck.Program.Format
import MakeCheck.Program.Pattern

namespace MakeCheck.Program.Scan

open Decimal

-- What a variable or a field holds. Texts are rows of bytes. One that comes from outside counts as
-- a number where it looks like one.
inductive Value where
  | unset
  | number (value : Binary64)
  | text (text : List Char)
  | outside (text : List Char)
deriving DecidableEq

def isSpace (c : Char) : Bool :=
  [' ', '\t', '\n', '\x0b', '\x0c', '\x0d'].contains c

-- The words for what is no decimal number, in any mix of capitals.
def namedNumber? (s : List Char) : Option (Binary64 × List Char) :=
  let starts (word : String) : Bool := (s.take word.length).map Char.toLower == word.toList
  if starts "infinity" then some (.infinite false, s.drop 8)
  else if starts "inf" then some (.infinite false, s.drop 3)
  else if starts "nan" then some (.nan, s.drop 3)
  else none

def hexadecimal? : List Char → Option (Binary64 × List Char)
  | '0' :: mark :: rest =>
      let isDigit (c : Char) : Bool := (digitValue? 16 c).isSome
      let digits := rest.takeWhile isDigit
      if (mark = 'x' ∨ mark = 'X') ∧ !digits.isEmpty then
        some (.ofRatio false (readNumber 16 digits.length digits 0).1 1, rest.drop digits.length)
      else none
  | _ => none

-- The number that a text begins with, and what follows it.
def leadingNumeral? (readsHexadecimal : Bool) (s : List Char) :
    Option (Binary64 × List Char) :=
  let (negative, body) := signOf (s.dropWhile isSpace)
  let other := if readsHexadecimal then hexadecimal? body else none
  let found : Option (Binary64 × List Char) :=
    match (namedNumber? body).or other with
    | some found => some found
    | none =>
        let (digits, rest) := decimalPart body
        if digits.isEmpty || !(body.head?.any fun c => c.isDigit || c == '.') then none
        else (Binary64.read? digits).map fun value => (value, rest)
  found.map fun (value, rest) => (if negative then value.negate else value, rest)

def numberIn (s : List Char) : Binary64 :=
  ((leadingNumeral? true s).map (·.1)).getD .zero

-- The number that a text looks like. Blanks around it do not count.
def looksLike? (s : List Char) : Option Binary64 :=
  match leadingNumeral? false s with
  | some (value, rest) => if rest.all isSpace then some value else none
  | none => none

-- What a number is cut down to where whole numbers are shown.
def wholeIn (least greatest : Int) (ifNone : Int) : Binary64 → Int
  | .nan => ifNone
  | .infinite negative => if negative then least else greatest
  | x@(.finite ..) => max least (min greatest ((x.truncated?).getD 0))

def greatestSigned : Int := Int.pow 2 63 - 1
def greatestUnsigned : Int := Int.pow 2 64 - 1

def integerLetters : List Char :=
  ['d', 'i', 'o', 'u', 'x', 'X']

def decimalLetters : List Char :=
  ['e', 'E', 'f', 'F', 'g', 'G']

def shownAs (conversion : Conversion) (width : Int) (precision : Option Nat) (x : Binary64) :
    List Char :=
  let leftAligned := conversion.flags.contains '-' || width < 0
  let zeroFilled := conversion.flags.contains '0' && !leftAligned
  let fill (zeroFilled : Bool) (text : String) : List Char :=
    byteChars (fillTo leftAligned zeroFilled width.natAbs (Text.Utf8.encode text))
  if integerLetters.contains conversion.letter then
    let least := -greatestSigned - 1
    let isSigned := conversion.letter = 'd' ∨ conversion.letter = 'i'
    let greatest := if conversion.letter = 'i' then greatestSigned else greatestUnsigned
    let lowest := if isSigned then least else -greatestUnsigned
    let value := wholeIn (lowest - 1) greatest least x
    let value := if value < lowest then (if isSigned then least + 1 else lowest) else value
    fill (zeroFilled && precision.isNone) (integerText conversion precision value)
  else
    match x with
    | .nan => fill false "-nan"
    | .infinite _ => fill false (decimalText conversion precision x)
    | _ => fill zeroFilled (decimalText conversion precision x)

-- A number in a form that holds one conversion, as the forms for texts and for output do.
def inForm (form : List Char) (x : Binary64) : List Char :=
  (formatPieces shellDialect form.length form).flatMap fun piece =>
    match piece with
    | .bytes bytes => byteChars bytes
    | .conversion conversion =>
        let extent (extent : Extent) : Nat := match extent with
          | .given count => count
          | .argument => 0
        shownAs conversion (extent conversion.width) (conversion.precision.map extent) x
    | _ => []

def numberText (form : List Char) (x : Binary64) : List Char :=
  match x.whole? with
  | some n =>
      if -greatestSigned - 1 ≤ n ∧ n ≤ greatestUnsigned + 1 then
        (toString (min n greatestUnsigned)).toList
      else inForm form x
  | none => inForm form x

namespace Value

def empty : Value := text []

def ofNat (n : Nat) : Value :=
  number (.ofInt n)

def ofInt (n : Int) : Value :=
  number (.ofInt n)

def ofBool (holds : Bool) : Value :=
  ofNat holds.toNat

def toNumber : Value → Binary64
  | unset => .zero
  | number value => value
  | text s | outside s => numberIn s

def toText (form : List Char) : Value → List Char
  | unset => []
  | number value => numberText form value
  | text s | outside s => s

-- A value from outside is settled where it counts what it is.
def settled : Value → Value
  | outside s =>
      match looksLike? s with
      | some value => number value
      | none => text s
  | value => value

def holds (value : Value) : Bool :=
  match value.settled with
  | unset => false
  | number value => !value.isZero
  | text s | outside s => !s.isEmpty

-- Two values are compared as numbers unless one of them is a text.
def compare (form : List Char) (a b : Value) : Ordering :=
  let asTexts : Ordering := Ord.compare (a.toText form) (b.toText form)
  match a.settled, b.settled with
  | text _, _ | _, text _ => asTexts
  | x, y => (x.toNumber.compare? y.toNumber).getD .eq

end Value

end MakeCheck.Program.Scan
