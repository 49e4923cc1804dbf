import MakeCheck.Decimal.Binary64

namespace MakeCheck.Decimal

-- The number that digits spell.
def digitsValue (digits : List Char) : Nat :=
  digits.foldl (fun value c => value * 10 + (c.toNat - '0'.toNat)) 0

-- What may follow the mantissa: nothing, or a mark with an optional sign and digits.
def readExponent? : List Char → Option Int
  | [] => some 0
  | mark :: rest =>
      if mark = 'e' ∨ mark = 'E' then
        let digits :=
          match rest with
          | '-' :: digits => digits
          | '+' :: digits => digits
          | digits => digits
        if digits.isEmpty || !digits.all Char.isDigit then none
        else if rest.head? = some '-' then some (-(digitsValue digits : Int))
        else some (digitsValue digits)
      else none

-- The number nearest to `digits * 10 ^ exponent`. A magnitude beyond four hundred places on either
-- side of the point is infinite or zero whatever its digits are.
def nearest (negative : Bool) (digits : Nat) (exponent : Int) : Binary64 :=
  let places := (Nat.toDigits 10 digits).length + exponent
  if digits = 0 ∨ places < -400 then .finite negative 0 Binary64.leastExponent
  else if 400 < places then .infinite negative
  else if exponent < 0 then .ofRatio negative digits (Nat.pow 10 (-exponent).toNat)
  else .ofRatio negative (digits * Nat.pow 10 exponent.toNat) 1

-- Digits with at most one point among them, then an exponent.
def readMagnitude? (negative : Bool) (text : List Char) : Option Binary64 :=
  let whole := text.takeWhile Char.isDigit
  let rest := text.dropWhile Char.isDigit
  let (part, rest) :=
    match rest with
    | '.' :: rest => (rest.takeWhile Char.isDigit, rest.dropWhile Char.isDigit)
    | _ => ([], rest)
  if whole.isEmpty && part.isEmpty then none
  else
    (readExponent? rest).map fun exponent =>
      nearest negative (digitsValue (whole ++ part)) (exponent - part.length)

-- Reads a number: a sign or none, then decimal digits or one of the words for infinity and for
-- no number at all, in any mix of capitals.
def Binary64.read? (text : List Char) : Option Binary64 :=
  let negative := text.head? == some '-'
  let body := if negative || text.head? == some '+' then text.drop 1 else text
  let word := String.ofList (body.map Char.toLower)
  if word = "nan" then some .nan
  else if word = "inf" ∨ word = "infinity" then some (.infinite negative)
  else readMagnitude? negative body

end MakeCheck.Decimal
