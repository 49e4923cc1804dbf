namespace MakeCheck.Decimal

-- The quotient rounded to the nearest integer, where a half goes to the even neighbour.
def roundDiv (num den : Nat) : Nat :=
  let low := num / den
  let rest := num % den
  if den < 2 * rest ∨ (2 * rest = den ∧ low % 2 = 1) then low + 1 else low

-- A number with 53 significant bits. A finite one is `mantissa * 2 ^ exponent`, where the
-- exponent is the least for which the mantissa has at most 53 bits, and at least -1074.
inductive Binary64 where
  | nan
  | infinite (negative : Bool)
  | finite (negative : Bool) (mantissa : Nat) (exponent : Int)
deriving DecidableEq

namespace Binary64

def leastExponent : Int := -1074
def greatestExponent : Int := 971

-- Numerator and denominator of `num / den / 2 ^ exponent`.
def scaled (num den : Nat) (exponent : Int) : Nat × Nat :=
  if exponent < 0 then (num * Nat.pow 2 (-exponent).toNat, den)
  else (num, den * Nat.pow 2 exponent.toNat)

-- The exponent at which the quotient has 53 bits before the point, or the least one.
def exponentOf (num den : Nat) : Int :=
  let guess := max ((num.log2 : Int) - den.log2 - 53) leastExponent
  let (top, bottom) := scaled num den guess
  if Nat.pow 2 53 ≤ top / bottom then guess + 1 else guess

-- The number nearest to a fraction. Of two nearest ones it is the one with an even mantissa.
def ofRatio (negative : Bool) (num den : Nat) : Binary64 :=
  if num = 0 then finite negative 0 leastExponent
  else
    let exponent := exponentOf num den
    let (top, bottom) := scaled num den exponent
    let mantissa := roundDiv top bottom
    -- Rounding up may need one bit more.
    let (mantissa, exponent) :=
      if mantissa = Nat.pow 2 53 then (Nat.pow 2 52, exponent + 1) else (mantissa, exponent)
    if greatestExponent < exponent then infinite negative else finite negative mantissa exponent

-- The magnitude of a finite number as a fraction.
def fraction (mantissa : Nat) (exponent : Int) : Nat × Nat :=
  if exponent < 0 then (mantissa, Nat.pow 2 (-exponent).toNat)
  else (mantissa * Nat.pow 2 exponent.toNat, 1)

-- The sum of two numbers that are finite and not negative, rounded once.
def addMagnitudes : Binary64 → Binary64 → Binary64
  | finite _ m e, finite _ m' e' =>
      let (a, b) := fraction m e
      let (a', b') := fraction m' e'
      ofRatio false (a * b' + a' * b) (b * b')
  | x, _ => x

def isZero : Binary64 → Bool
  | finite _ mantissa _ => mantissa == 0
  | _ => false

-- The 64 bits: sign, biased exponent and the mantissa without its leading bit.
def bits : Binary64 → Nat
  | nan => 0x7FF8000000000000
  | infinite negative => negative.toNat * Nat.pow 2 63 + 0x7FF * Nat.pow 2 52
  | finite negative mantissa exponent =>
      negative.toNat * Nat.pow 2 63 +
        if mantissa < Nat.pow 2 52 then mantissa
        else (exponent + 1075).toNat * Nat.pow 2 52 + (mantissa - Nat.pow 2 52)

end Binary64

end MakeCheck.Decimal
