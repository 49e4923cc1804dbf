import MakeCheck.Decimal.Binary64

namespace MakeCheck.Decimal

-- The decimal number `digits * 10 ^ exponent`.
structure Numeral where
  digits : Nat
  exponent : Int
deriving DecidableEq

-- The exponent of the power of ten above a fraction: `10 ^ (k - 1) ≤ num / den < 10 ^ k`. For a
-- fraction below one the power that lifts it to one is searched for, and 330 are enough for the
-- least magnitude there is.
def powerAbove (num den : Nat) : Int :=
  if den ≤ num then ((Nat.toDigits 10 (num / den)).length : Int)
  else
    match (List.range 330).find? fun j => decide (den ≤ num * Nat.pow 10 (j + 1)) with
    | some j => -(j : Int)
    | none => -330

-- The numbers that round to one value: the fractions `low / den` and `high / den` bound them, and
-- belong to them if `closed` holds.
structure Interval where
  low : Nat
  high : Nat
  den : Nat
  closed : Bool

-- Half the way to each neighbour. The one below is nearer at a power of two.
def Interval.around (mantissa : Nat) (exponent : Int) : Interval :=
  let quarter := Binary64.fraction 1 (exponent - 2)
  let below := if mantissa = Nat.pow 2 52 ∧ Binary64.leastExponent < exponent then 1 else 2
  { low := (4 * mantissa - below) * quarter.1
    high := (4 * mantissa + 2) * quarter.1
    den := quarter.2
    closed := mantissa % 2 == 0 }

-- Whether `n * 10 ^ exponent` lies in the interval.
def Interval.holds (interval : Interval) (n : Nat) (exponent : Int) : Bool :=
  let top := (if exponent < 0 then n else n * Nat.pow 10 exponent.toNat) * interval.den
  let bottom := if exponent < 0 then Nat.pow 10 (-exponent).toNat else 1
  if interval.closed then
    decide (interval.low * bottom ≤ top) && decide (top ≤ interval.high * bottom)
  else decide (interval.low * bottom < top) && decide (top < interval.high * bottom)

-- The neighbours of the value on the grid of `count` digits, if one of them rounds to the value.
-- Of two that do, the nearer is taken.
def onGrid? (num den : Nat) (interval : Interval) (power : Int) (count : Nat) : Option Numeral :=
  let exponent := power - count
  let (top, bottom) :=
    if exponent < 0 then (num * Nat.pow 10 (-exponent).toNat, den)
    else (num, den * Nat.pow 10 exponent.toNat)
  let down := top / bottom
  match interval.holds down exponent, interval.holds (down + 1) exponent with
  | true, true => some ⟨if bottom ≤ 2 * (top % bottom) then down + 1 else down, exponent⟩
  | true, false => some ⟨down, exponent⟩
  | false, true => some ⟨down + 1, exponent⟩
  | false, false => none

-- The decimal number with the fewest digits that rounds to a finite magnitude. Seventeen digits
-- are always enough.
def shortest (mantissa : Nat) (exponent : Int) : Numeral :=
  if mantissa = 0 then ⟨0, 0⟩
  else
    let (num, den) := Binary64.fraction mantissa exponent
    let interval := Interval.around mantissa exponent
    let power := powerAbove num den
    match (List.range 17).findSome? fun count => onGrid? num den interval power (count + 1) with
    | some decimal => decimal
    | none => ⟨0, 0⟩

-- Digits behind the point, without the zeros at their end.
def fractionDigits (n width : Nat) : List Char :=
  let digits := Nat.toDigits 10 n
  let padded := List.replicate (width - digits.length) '0' ++ digits
  (padded.reverse.dropWhile (· == '0')).reverse

-- A point stands only before digits.
def withFraction (whole : Nat) (digits : List Char) : String :=
  String.ofList (Nat.toDigits 10 whole ++ if digits.isEmpty then [] else '.' :: digits)

-- All digits in their places, never a power of ten.
def Numeral.positional (numeral : Numeral) : String :=
  if numeral.exponent < 0 then
    let unit := Nat.pow 10 (-numeral.exponent).toNat
    withFraction (numeral.digits / unit)
      (fractionDigits (numeral.digits % unit) (-numeral.exponent).toNat)
  else String.ofList (Nat.toDigits 10 (numeral.digits * Nat.pow 10 numeral.exponent.toNat))

-- The fewest digits that read back as the number. A zero keeps its sign.
def Binary64.text : Binary64 → String
  | nan => "NaN"
  | infinite negative => (if negative then "-" else "") ++ "inf"
  | finite negative mantissa exponent =>
      (if negative then "-" else "") ++ (shortest mantissa exponent).positional

-- A whole number with a point before its last places.
def withPlaces (n places : Nat) : String :=
  let digits := Nat.toDigits 10 n
  let padded := List.replicate (places + 1 - digits.length) '0' ++ digits
  let (whole, fraction) := padded.splitAt (padded.length - places)
  String.ofList (whole ++ if places = 0 then [] else '.' :: fraction)

-- A fraction with so many places behind the point.
def fixedText (num den places : Nat) : String :=
  withPlaces (roundDiv (num * Nat.pow 10 places) den) places

-- The digits of a fraction, one of them before the point and so many behind it, and the power of
-- ten that belongs to them.
def scientificDigits (num den places : Nat) : Nat × Int :=
  if num = 0 then (0, 0)
  else
    let power := powerAbove num den - 1
    let shift : Int := places - power
    let digits := if shift < 0 then roundDiv num (den * Nat.pow 10 (-shift).toNat)
      else roundDiv (num * Nat.pow 10 shift.toNat) den
    -- Rounding up may need one digit more.
    if digits = Nat.pow 10 (places + 1) then (Nat.pow 10 places, power + 1) else (digits, power)

def exponentText (power : Int) : String :=
  let digits := toString power.natAbs
  (if power < 0 then "e-" else "e+") ++ (if digits.length < 2 then "0" else "") ++ digits

def scientificText (num den places : Nat) : String :=
  let (digits, power) := scientificDigits num den places
  withPlaces digits places ++ exponentText power

-- A point with nothing but noughts behind it is left out, as are noughts at the end.
def withoutTrailingNoughts (text : String) : String :=
  if text.toList.contains '.' then
    let shown := text.toList.reverse.dropWhile (· == '0')
    String.ofList (if shown.head? = some '.' then shown.tail else shown).reverse
  else text

-- A fraction with so many digits, in the shorter of both ways to write it.
def generalText (num den digits : Nat) (keepsNoughts : Bool) : String :=
  let count := max digits 1
  let (found, power) := scientificDigits num den (count - 1)
  let settle (text : String) : String := if keepsNoughts then text else withoutTrailingNoughts text
  if power < -4 ∨ (count : Int) ≤ power then
    settle (withPlaces found (count - 1)) ++ exponentText power
  else settle (fixedText num den ((count : Int) - 1 - power).toNat)

end MakeCheck.Decimal
