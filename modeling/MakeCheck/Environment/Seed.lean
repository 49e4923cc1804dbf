import MakeCheck.Environment.Basic
import MakeCheck.Log
import MakeCheck.Text.Quoted

namespace MakeCheck

open Text

-- Why a text is no unsigned number of 64 bits.
inductive NumberFault where
  | empty
  | invalidDigit
  | tooLarge
deriving DecidableEq

def NumberFault.message : NumberFault → String
  | empty => "cannot parse integer from empty string"
  | invalidDigit => "invalid digit found in string"
  | tooLarge => "number too large to fit in target type"

-- The first fault in reading order is told, so a letter beyond an overflow is never seen.
def readDigits (value : Nat) : List Char → Except NumberFault Nat
  | [] => .ok value
  | c :: rest =>
      if c.isDigit then
        let next := value * 10 + (c.toNat - '0'.toNat)
        if next < 18446744073709551616 then readDigits next rest else .error .tooLarge
      else .error .invalidDigit

-- One plus sign may stand before the digits.
def readUnsigned : List Char → Except NumberFault Nat
  | [] => .error .empty
  | ['+'] => .error .invalidDigit
  | '+' :: digits => readDigits 0 digits
  | digits => readDigits 0 digits

-- Where random test data starts from: a number that was asked for, or the milliseconds on the
-- clock.
inductive Seed where
  | given (value : UInt64)
  | clock (milliseconds : UInt64)
deriving DecidableEq

namespace Seed

def value : Seed → UInt64
  | given value => value
  | clock milliseconds => milliseconds

-- The seed in a variable. A value that is no number is passed over with a warning.
def ofVariable (environment : Environment) (now : UInt64) (name : String) : Seed × List Record :=
  match environment.text? name with
  | none => (clock now, [])
  | some text =>
      match readUnsigned (trim text.toList) with
      | .ok value => (given (UInt64.ofNat value), [])
      | .error fault =>
          (clock now, [⟨.warn, .switches,
            "Ignoring " ++ name ++ "=" ++ quoted text ++ ": " ++ fault.message⟩])

def ofEnvironment (environment : Environment) (now : UInt64) : Seed × List Record :=
  ofVariable environment now "SEED"

end Seed

end MakeCheck
