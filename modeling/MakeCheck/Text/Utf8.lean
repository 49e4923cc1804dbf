namespace MakeCheck.Text.Utf8

-- A character that has begun: how many bytes are still owed, the least and the greatest value
-- that the next one may have, and the bits read so far.
structure Pending where
  owed : Nat
  low : UInt8
  high : UInt8
  bits : Nat
deriving DecidableEq

-- What one byte between characters means.
inductive Lead where
  | character (c : Char)
  | begins (pending : Pending)
  | stray

-- The ranges of the second byte shut out overlong forms, surrogates and all above U+10FFFF.
def lead (b : UInt8) : Lead :=
  if b < 0x80 then .character (Char.ofNat b.toNat)
  else if b < 0xC2 then .stray
  else if b < 0xE0 then .begins ⟨1, 0x80, 0xBF, b.toNat - 0xC0⟩
  else if b = 0xE0 then .begins ⟨2, 0xA0, 0xBF, 0⟩
  else if b = 0xED then .begins ⟨2, 0x80, 0x9F, 0xD⟩
  else if b < 0xF0 then .begins ⟨2, 0x80, 0xBF, b.toNat - 0xE0⟩
  else if b = 0xF0 then .begins ⟨3, 0x90, 0xBF, 0⟩
  else if b < 0xF4 then .begins ⟨3, 0x80, 0xBF, b.toNat - 0xF0⟩
  else if b = 0xF4 then .begins ⟨3, 0x80, 0x8F, 4⟩
  else .stray

mutual

-- The characters of a byte sequence, with `none` for every part that is none. Such a part is as
-- long as it could still have become a character.
def scan : List UInt8 → List (Option Char)
  | [] => []
  | b :: rest =>
      match lead b with
      | .character c => some c :: scan rest
      | .begins pending => scanTail pending rest
      | .stray => none :: scan rest

def scanTail (pending : Pending) : List UInt8 → List (Option Char)
  | [] => [none]
  | b :: rest =>
      if pending.low ≤ b ∧ b ≤ pending.high then
        let bits := pending.bits * 64 + (b.toNat - 0x80)
        if pending.owed ≤ 1 then some (Char.ofNat bits) :: scan rest
        else scanTail ⟨pending.owed - 1, 0x80, 0xBF, bits⟩ rest
      else
        match lead b with
        | .character c => none :: some c :: scan rest
        | .begins next => none :: scanTail next rest
        | .stray => none :: none :: scan rest

end

-- All characters, if every part is one.
def allSome : List (Option Char) → Option (List Char)
  | [] => some []
  | none :: _ => none
  | some c :: rest => (allSome rest).map (c :: ·)

-- The text that the bytes spell, if they spell one.
def decode? (bytes : List UInt8) : Option String :=
  (allSome (scan bytes)).map String.ofList

-- The text with U+FFFD in place of every part that is no character.
def decodeLossy (bytes : List UInt8) : String :=
  String.ofList ((scan bytes).map fun part => part.getD '\ufffd')

def encode (s : String) : List UInt8 :=
  s.toUTF8.data.toList

end MakeCheck.Text.Utf8
