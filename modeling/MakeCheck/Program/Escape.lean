import MakeCheck.Text.Utf8

namespace MakeCheck.Program

open Text

-- How a program reads what follows a backslash.
structure EscapeStyle where
  -- An octal number may have a nought of its own in front.
  leadingNought : Bool
  hexadecimal : Bool
  -- Signs that may stand behind a backslash for themselves.
  signs : List Char
  -- The letter c ends all output.
  stops : Bool
  -- Characters may be spelled by the letter u and their numbers.
  hasNumbers : Bool

def shellTextStyle : EscapeStyle := ⟨true, false, [], true, false⟩
def shellFormatStyle : EscapeStyle := ⟨false, false, [], false, false⟩
def echoStyle : EscapeStyle := ⟨true, true, [], true, false⟩
def textStyle : EscapeStyle := ⟨true, true, ['\x22'], true, false⟩
def formatStyle : EscapeStyle := ⟨false, true, ['\x22'], true, false⟩
def wideEchoStyle : EscapeStyle := ⟨true, true, [], true, true⟩
def wideTextStyle : EscapeStyle := ⟨true, true, ['\x22'], true, true⟩
def signedFormatStyle : EscapeStyle := ⟨false, true, ['\x22', '\x27', '?'], false, true⟩

def controlByte? : Char → Option UInt8
  | 'a' => some 7
  | 'b' => some 8
  | 'f' => some 12
  | 'n' => some 10
  | 'r' => some 13
  | 't' => some 9
  | 'v' => some 11
  | '\\' => some 92
  | _ => none

def digitValue? (base : Nat) (c : Char) : Option Nat :=
  let value :=
    if c.isDigit then c.toNat - '0'.toNat
    else if c.isAlpha then c.toLower.toNat - 'a'.toNat + 10
    else base
  if value < base then some value else none

-- Reads as many digits as there are, but no more than the limit, and tells how many they were.
def readNumber (base : Nat) : Nat → List Char → Nat → Nat × Nat
  | limit + 1, c :: rest, value =>
      match digitValue? base c with
      | some digit =>
          let (number, count) := readNumber base limit rest (value * base + digit)
          (number, count + 1)
      | none => (value, 0)
  | _, _, value => (value, 0)

def decimalValue (digits : List Char) : Nat :=
  (readNumber 10 digits.length digits 0).1

-- The byte that is named after a backslash, and how many characters name it.
def namedByte? (style : EscapeStyle) (s : List Char) : Option (UInt8 × Nat) :=
  match s with
  | [] => none
  | c :: rest =>
      match controlByte? c with
      | some byte => some (byte, 1)
      | none =>
          if style.signs.contains c then some (UInt8.ofNat c.toNat, 1)
          else if c = 'e' then some (27, 1)
          else if c = 'x' ∧ style.hexadecimal then
            match readNumber 16 2 rest 0 with
            | (_, 0) => none
            | (value, count) => some (UInt8.ofNat value, count + 1)
          else if c = '0' ∧ style.leadingNought then
            let (value, count) := readNumber 8 3 rest 0
            some (UInt8.ofNat value, count + 1)
          else
            match readNumber 8 3 s 0 with
            | (_, 0) => none
            | (value, count) => some (UInt8.ofNat value, count)

-- The bytes of a character that is spelled by its number. Beyond the first ones it stays spelled.
def spelledBytes (value : Nat) : List UInt8 :=
  if value < 128 then [UInt8.ofNat value]
  else
    let digits := (Nat.toDigits 16 value).map Char.toUpper
    let size := if value < 65536 then 4 else 8
    let filled := List.replicate (size - digits.length) '0' ++ digits
    Utf8.encode (String.ofList ('\\' :: (if size = 4 then 'u' else 'U') :: filled))

-- The bytes that are named after a backslash, and how many characters name them.
def namedBytes? (style : EscapeStyle) (s : List Char) : Option (List UInt8 × Nat) :=
  let spelled (limit : Nat) (rest : List Char) : Option (List UInt8 × Nat) :=
    match readNumber 16 limit rest 0 with
    | (_, 0) => none
    | (value, count) => some (spelledBytes value, count + 1)
  match style.hasNumbers, s with
  | true, 'u' :: rest => spelled 4 rest
  | true, 'U' :: rest => spelled 8 rest
  | _, _ => (namedByte? style s).map fun (byte, count) => ([byte], count)

-- The bytes of a text with its escapes read, and whether one of them ends all output. The first
-- argument counts the characters still to be passed over.
def unescape (style : EscapeStyle) : Nat → List Char → List UInt8 × Bool
  | _, [] => ([], false)
  | skip + 1, _ :: rest => unescape style skip rest
  | 0, c :: rest =>
      if c = '\\' then
        if rest.head? = some 'c' ∧ style.stops then ([], true)
        else
          match namedBytes? style rest with
          | some (found, count) =>
              let (bytes, stopped) := unescape style count rest
              (found ++ bytes, stopped)
          | none =>
              let (bytes, stopped) := unescape style 0 rest
              (92 :: bytes, stopped)
      else
        let (bytes, stopped) := unescape style 0 rest
        (Utf8.encode c.toString ++ bytes, stopped)

end MakeCheck.Program
