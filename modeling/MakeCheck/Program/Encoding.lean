import MakeCheck.Program.Utility

namespace MakeCheck.Program

open Text

-- A way to write bytes in letters: how many bits each of them stands for, and how many make a group.
structure Letters where
  signs : List Char
  bits : Nat
  group : Nat
  -- What a group that is cut short tells is lost.
  losesRest : Bool

namespace Letters

def capitals : List Char := "ABCDEFGHIJKLMNOPQRSTUVWXYZ".toList

def sixBits : Letters :=
  ⟨capitals ++ capitals.map Char.toLower ++ "0123456789+/".toList, 6, 4, false⟩

def fiveBits : Letters :=
  ⟨capitals ++ "234567".toList, 5, 8, true⟩

def encode (letters : Letters) (bytes : List UInt8) : List Char :=
  (groupsOf (letters.group * letters.bits / 8) bytes).flatMap fun group =>
    let count := (8 * group.length + letters.bits - 1) / letters.bits
    let number := group.foldl (fun n byte => n * 256 + byte.toNat) 0
    let number := number <<< (count * letters.bits - 8 * group.length)
    let signs := (List.range count).reverse.map fun i =>
      letters.signs.getD ((number >>> (letters.bits * i)) % (1 <<< letters.bits)) '='
    signs ++ List.replicate (letters.group - count) '='

def decodeGroup (letters : Letters) (group : List Char) : List UInt8 × Bool :=
  let digits := (group.takeWhile letters.signs.contains).filterMap letters.signs.idxOf?
  let size := digits.length * letters.bits
  let isWhole := group.length == letters.group
  let number := digits.foldl (fun n digit => (n <<< letters.bits) + digit) 0 >>> (size % 8)
  let bytes := (List.range (size / 8)).reverse.map fun i => UInt8.ofNat (number >>> (8 * i))
  let isFine := isWhole && decide (size % 8 < letters.bits) &&
    (group.drop digits.length).all (· == '=')
  (if letters.losesRest && !isWhole then [] else bytes, isFine)

-- The bytes up to the first group that is none, and whether there is such a group.
def decode (letters : Letters) : List (List Char) → List UInt8 × Bool
  | [] => ([], true)
  | group :: rest =>
      match letters.decodeGroup group with
      | (bytes, false) => (bytes, false)
      | (bytes, true) =>
          let (after, isFine) := letters.decode rest
          (bytes ++ after, isFine)

end Letters

def encode (letters : Letters) (around : Surroundings) (arguments : List String) : Outcome :=
  let known := [plain 'd' "decode", plain 'i' "ignore-garbage", valued 'w' "wrap"]
  withArguments around known arguments fun given =>
    let wrap := (given.value? 'w').getD "76"
    let name := given.operands.headD "-"
    if wrap.isEmpty || !wrap.toList.all Char.isDigit then
      around.outcome 1 [around.complaint ("invalid wrap size: " ++ quotedName wrap)]
    else
      match given.operands.tail, around.source name with
      | extra :: _, _ => around.misused 1 ["extra operand " ++ quotedName extra]
      | [], .error fault =>
          let report := if fault = .isADirectory then "read error: " ++ fault.reason
            else readReport name fault
          around.outcome 1 [around.complaint report]
      | [], .ok bytes =>
          let finish (code : Nat) (written : List (Channel × List UInt8)) : Outcome :=
            { around.outcome code written with intake := Surroundings.intakeOf [name] }
          if given.has 'd' then
            let signs := (bytes.map fun byte => Char.ofNat byte.toNat).filter fun c =>
              c != '\n' && (!given.has 'i' || c == '=' || letters.signs.contains c)
            let (found, isFine) := letters.decode (groupsOf letters.group signs)
            if isFine then finish 0 [(.output, found)]
            else finish 1 [(.output, found), around.complaint "invalid input"]
          else
            let signs := letters.encode bytes
            let width := decimalValue wrap.toList
            let shown := if width = 0 then signs
              else (groupsOf width signs).flatMap (· ++ ['\n'])
            finish 0 [said (String.ofList shown)]

end MakeCheck.Program
