import MakeCheck.Decimal.Shortest

namespace MakeCheck

open Decimal

-- A span of time.
structure Duration where
  secs : Nat
  nanos : Nat
  secs_lt : secs < 18446744073709551616 := by decide
  nanos_lt : nanos < 1000000000 := by decide
deriving DecidableEq

-- Why a number of seconds is no span of time.
inductive DurationFault where
  | negative
  | tooLarge
deriving DecidableEq

def DurationFault.message : DurationFault → String
  | negative => "cannot convert float seconds to Duration: value is negative"
  | tooLarge => "cannot convert float seconds to Duration: value is either too big or NaN"

namespace Duration

def toNanos (duration : Duration) : Nat :=
  duration.secs * 1000000000 + duration.nanos

def ofNanos? (nanos : Nat) : Option Duration :=
  if h : nanos / 1000000000 < 18446744073709551616 then
    some ⟨nanos / 1000000000, nanos % 1000000000, h, Nat.mod_lt _ (by decide)⟩
  else none

-- The nearest span of whole nanoseconds, where a half goes to the even one.
def ofSeconds : Binary64 → Except DurationFault Duration
  | .nan => .error .tooLarge
  | .infinite negative => .error (if negative then .negative else .tooLarge)
  | .finite negative mantissa exponent =>
      if negative ∧ mantissa ≠ 0 then .error .negative
      else
        let (num, den) := Binary64.fraction mantissa exponent
        match ofNanos? (roundDiv (num * 1000000000) den) with
        | some duration => .ok duration
        | none => .error .tooLarge

-- The span in seconds. Whole seconds and the rest are rounded each before they are added.
def seconds (duration : Duration) : Binary64 :=
  Binary64.addMagnitudes (.ofRatio false duration.secs 1) (.ofRatio false duration.nanos 1000000000)

-- The span in the largest unit that does not exceed it, with the digits that are needed.
def text (duration : Duration) : String :=
  if 0 < duration.secs then
    withFraction duration.secs (fractionDigits duration.nanos 9) ++ "s"
  else if 1000000 ≤ duration.nanos then
    withFraction (duration.nanos / 1000000) (fractionDigits (duration.nanos % 1000000) 6) ++ "ms"
  else if 1000 ≤ duration.nanos then
    withFraction (duration.nanos / 1000) (fractionDigits (duration.nanos % 1000) 3) ++ "µs"
  else toString duration.nanos ++ "ns"

end Duration

-- A point on the clock that never goes back: whole seconds in 64 bits with a sign, and nanoseconds on
-- top of them.
structure Instant where
  secs : Int
  nanos : Nat
  secs_ge : -9223372036854775808 ≤ secs
  secs_lt : secs < 9223372036854775808
  nanos_lt : nanos < 1000000000

namespace Instant

def toNanos (instant : Instant) : Int :=
  instant.secs * 1000000000 + instant.nanos

-- The point a span later, if there is one. The seconds are added first, and what the nanoseconds
-- carry is added to their sum.
def add? (instant : Instant) (span : Duration) : Option Instant :=
  if hsecs : instant.secs + span.secs < 9223372036854775808 then
    if hnanos : instant.nanos + span.nanos < 1000000000 then
      some
        { secs := instant.secs + span.secs
          nanos := instant.nanos + span.nanos
          secs_ge := by have := instant.secs_ge; omega
          secs_lt := hsecs
          nanos_lt := hnanos }
    else if hcarry : instant.secs + span.secs + 1 < 9223372036854775808 then
      some
        { secs := instant.secs + span.secs + 1
          nanos := instant.nanos + span.nanos - 1000000000
          secs_ge := by have := instant.secs_ge; omega
          secs_lt := hcarry
          nanos_lt := by have := instant.nanos_lt; have := span.nanos_lt; omega }
    else none
  else none

end Instant

end MakeCheck
