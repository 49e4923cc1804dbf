import MakeCheck.Decimal.Binary64

namespace MakeCheck.Decimal.Binary64

def zero : Binary64 := finite false 0 leastExponent

-- A finite number as a fraction with a sign.
def parts? : Binary64 → Option (Int × Nat)
  | finite negative mantissa exponent =>
      let (num, den) := fraction mantissa exponent
      some (if negative then -(num : Int) else num, den)
  | _ => none

def ofParts (num : Int) (den : Nat) : Binary64 :=
  ofRatio (decide (num < 0)) num.natAbs den

def ofInt (n : Int) : Binary64 :=
  ofParts n 1

def isNegative : Binary64 → Bool
  | nan => false
  | infinite negative | finite negative _ _ => negative

def negate : Binary64 → Binary64
  | nan => nan
  | infinite negative => infinite (!negative)
  | finite negative mantissa exponent => finite (!negative) mantissa exponent

-- The sum, rounded once. Only two negative noughts make a negative one.
def add : Binary64 → Binary64 → Binary64
  | nan, _ | _, nan => nan
  | infinite a, infinite b => if a = b then infinite a else nan
  | infinite a, _ | _, infinite a => infinite a
  | x@(finite a _ _), y@(finite b _ _) =>
      match x.parts?, y.parts? with
      | some (n, d), some (n', d') =>
          let sum := n * d' + n' * d
          if sum = 0 then finite (a && b) 0 leastExponent else ofParts sum (d * d')
      | _, _ => nan

def sub (x y : Binary64) : Binary64 :=
  x.add y.negate

def mul (x y : Binary64) : Binary64 :=
  let negative := x.isNegative != y.isNegative
  match x, y with
  | nan, _ | _, nan => nan
  | infinite _, other | other, infinite _ => if other.isZero then nan else infinite negative
  | finite _ m e, finite _ m' e' =>
      let (n, d) := fraction m e
      let (n', d') := fraction m' e'
      ofRatio negative (n * n') (d * d')

-- The quotient, rounded once. What is divided by nought is endless, but nought is not.
def div (x y : Binary64) : Binary64 :=
  let negative := x.isNegative != y.isNegative
  match x, y with
  | nan, _ | _, nan | infinite _, infinite _ => nan
  | infinite _, _ => infinite negative
  | _, infinite _ => finite negative 0 leastExponent
  | finite _ m e, finite _ m' e' =>
      let (n, d) := fraction m e
      let (n', d') := fraction m' e'
      if m' = 0 then (if m = 0 then nan else infinite negative)
      else ofRatio negative (n * d') (d * n')

-- What is left of the first number when the second is taken away as often as it goes. It has the
-- sign of the first.
def remainder (x y : Binary64) : Binary64 :=
  match x, y with
  | nan, _ | _, nan | infinite _, _ => nan
  | _, infinite _ => x
  | finite negative m e, finite _ m' e' =>
      let (n, d) := fraction m e
      let (n', d') := fraction m' e'
      if m' = 0 then nan else ofRatio negative ((n * d') % (n' * d)) (d * d')

-- The order of two numbers, where there is one.
def compare? : Binary64 → Binary64 → Option Ordering
  | nan, _ | _, nan => none
  | infinite a, infinite b => some (if a = b then .eq else if a then .lt else .gt)
  | infinite a, _ => some (if a then .lt else .gt)
  | _, infinite b => some (if b then .gt else .lt)
  | x@(finite ..), y@(finite ..) =>
      match x.parts?, y.parts? with
      | some (n, d), some (n', d') => some (compare (n * d') (n' * d))
      | _, _ => none

-- The whole number next to a finite one on the way to nought.
def truncated? (x : Binary64) : Option Int :=
  x.parts?.map fun (num, den) => num.tdiv den

-- The whole number that a number is, if it is one.
def whole? (x : Binary64) : Option Int :=
  (x.parts?.filter fun (num, den) => decide (den ∣ num.natAbs)).map fun (num, den) => num.tdiv den

def truncate : Binary64 → Binary64
  | x@(finite negative _ _) =>
      match x.truncated? with
      | some 0 => finite negative 0 leastExponent
      | some n => ofInt n
      | none => x
  | x => x

-- The number that 64 bits stand for.
def ofBits (bits : Nat) : Binary64 :=
  let negative := decide (Nat.pow 2 63 ≤ bits)
  let biased : Nat := bits / Nat.pow 2 52 % Nat.pow 2 11
  let low : Nat := bits % Nat.pow 2 52
  if biased = 0x7FF then (if low = 0 then infinite negative else nan)
  else if biased = 0 then finite negative low leastExponent
  else finite negative (Nat.pow 2 52 + low) ((biased : Int) - 1075)

def toFloat (x : Binary64) : Float :=
  Float.ofBits (UInt64.ofNat x.bits)

-- What a function of the machine gives for a number.
def apply (function : Float → Float) (x : Binary64) : Binary64 :=
  ofBits (function x.toFloat).toBits.toNat

def applyBoth (function : Float → Float → Float) (x y : Binary64) : Binary64 :=
  ofBits (function x.toFloat y.toFloat).toBits.toNat

end MakeCheck.Decimal.Binary64
