namespace MakeCheck.Make

-- Tables of names spread them over their places by a number that comes from the bytes of a name.
-- What goes through all names of a table sees them in the order of their places.

structure Mixture where
  a : UInt32
  b : UInt32
  c : UInt32

def turned (x : UInt32) (count : UInt32) : UInt32 :=
  (x <<< count) ||| (x >>> (32 - count))

namespace Mixture

def mix (m : Mixture) : Mixture :=
  let a := (m.a - m.c) ^^^ turned m.c 4
  let c := m.c + m.b
  let b := (m.b - a) ^^^ turned a 6
  let a := a + c
  let c := (c - b) ^^^ turned b 8
  let b := b + a
  let a := (a - c) ^^^ turned c 16
  let c := c + b
  let b := (b - a) ^^^ turned a 19
  let a := a + c
  let c := (c - b) ^^^ turned b 4
  let b := b + a
  ⟨a, b, c⟩

def result (m : Mixture) : UInt32 :=
  let c := (m.c ^^^ m.b) - turned m.b 14
  let a := (m.a ^^^ c) - turned c 11
  let b := (m.b ^^^ a) - turned a 25
  let c := (c ^^^ b) - turned b 16
  let a := (a ^^^ c) - turned c 4
  let b := (b ^^^ a) - turned a 14
  (c ^^^ b) - turned b 24

end Mixture

def startingMix : UInt32 := 0xdeadbeef

def packed (bytes : List UInt8) : UInt32 :=
  bytes.foldr (fun byte rest => rest * 256 + byte.toUInt32) 0

def sizedNumber (m : Mixture) (bytes : List UInt8) : UInt32 :=
  match bytes with
  | b0 :: b1 :: b2 :: b3 :: b4 :: b5 :: b6 :: b7 :: b8 :: b9 :: b10 :: b11 :: next :: rest =>
      let added : Mixture :=
        ⟨m.a + packed [b0, b1, b2, b3], m.b + packed [b4, b5, b6, b7],
          m.c + packed [b8, b9, b10, b11]⟩
      sizedNumber added.mix (next :: rest)
  | [] => m.c
  | bytes =>
      let (m, bytes) := if 8 < bytes.length then
          ({ m with a := m.a + packed (bytes.take 4) }, bytes.drop 4) else (m, bytes)
      let (m, bytes) := if 4 < bytes.length then
          ({ m with b := m.b + packed (bytes.take 4) }, bytes.drop 4) else (m, bytes)
      Mixture.result { m with c := m.c + packed bytes }

def variableNumber (name : String) : Nat :=
  let bytes := name.toUTF8.toList
  let start := startingMix + UInt32.ofNat bytes.length
  (sizedNumber ⟨start, start, start⟩ bytes).toNat

-- The number of a name whose end shows only as it is read. How much was read whole counts too.
def endedNumber (m : Mixture) (read : Nat) (bytes : List UInt8) : UInt32 :=
  match bytes with
  | b0 :: b1 :: b2 :: b3 :: b4 :: b5 :: b6 :: b7 :: b8 :: b9 :: b10 :: b11 :: rest =>
      let added : Mixture :=
        ⟨m.a + packed [b0, b1, b2, b3], m.b + packed [b4, b5, b6, b7],
          m.c + packed [b8, b9, b10, b11]⟩
      endedNumber added.mix (read + 12) rest
  | bytes =>
      let m := { m with a := m.a + packed (bytes.take 4) }
      let m := { m with b := m.b + packed ((bytes.drop 4).take 4) }
      let m := { m with c := m.c + packed ((bytes.drop 8).take 4) }
      m.result + UInt32.ofNat (read + bytes.length / 4 * 4)

def fileNumber (name : String) : Nat :=
  (endedNumber ⟨startingMix, startingMix, startingMix⟩ 0 name.toUTF8.toList).toNat

-- The first free place from one on, in a table of some size.
def freePlace (size : Nat) (taken : List Nat) : Nat → Nat → Nat
  | 0, place => place
  | fuel + 1, place =>
      let place := place % size
      if taken.contains place then freePlace size taken fuel (place + 1) else place

-- Names with their places, in the order in which they were entered.
def placed (size : Nat) (number : String → Nat) (names : List String) : List (String × Nat) :=
  (names.foldl
    (fun (seen : List (String × Nat)) name =>
      (name, freePlace size (seen.map (·.2)) size (number name)) :: seen)
    []).reverse

def tableSize : Nat := 1024

def inTableOrder (number : String → Nat) (names : List String) : List String :=
  let sorted := (placed tableSize number names).mergeSort fun a b => decide (a.2 ≤ b.2)
  sorted.map (·.1)

end MakeCheck.Make
