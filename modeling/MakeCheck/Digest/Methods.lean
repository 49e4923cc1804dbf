namespace MakeCheck.Digest

def wrap (bits n : Nat) : Nat :=
  n % (1 <<< bits)

def complement (bits n : Nat) : Nat :=
  (1 <<< bits) - 1 - n

def turnLeft (bits count n : Nat) : Nat :=
  wrap bits (n <<< count) ||| (n >>> (bits - count))

def turnRight (bits count n : Nat) : Nat :=
  turnLeft bits (bits - count) n

def ofBytes (bytes : List UInt8) : Nat :=
  bytes.foldl (fun n byte => n * 256 + byte.toNat) 0

def lightBytes : Nat → Nat → List UInt8
  | 0, _ => []
  | count + 1, n => UInt8.ofNat n :: lightBytes count (n / 256)

def heavyBytes (count n : Nat) : List UInt8 :=
  (lightBytes count n).reverse

def pieces (size : Nat) : Nat → List UInt8 → List (List UInt8)
  | 0, _ => []
  | count + 1, bytes => bytes.take size :: pieces size count (bytes.drop size)

-- How a state is mixed with the words of one block after another.
structure Method where
  -- How many bits a word has, and whether its heaviest byte comes first.
  bits : Nat
  isHeavyFirst : Bool
  start : List Nat
  -- How many words of the last state are told.
  told : Nat
  mix : List Nat → List Nat → List Nat

namespace Method

def wordSize (method : Method) : Nat := method.bits / 8

def blockSize (method : Method) : Nat := 16 * method.wordSize

-- The bytes up to a whole number of blocks: behind them a bit of its own, noughts, and at the end
-- how many bits there were.
def filled (method : Method) (bytes : List UInt8) : List UInt8 :=
  let size := 2 * method.wordSize
  let missing := method.blockSize - (bytes.length + 1 + size) % method.blockSize
  let noughts := if missing = method.blockSize then 0 else missing
  let count := 8 * bytes.length
  bytes ++ 0x80 :: List.replicate noughts 0 ++
    if method.isHeavyFirst then heavyBytes size count else lightBytes size count

def wordsOf (method : Method) (block : List UInt8) : List Nat :=
  (pieces method.wordSize 16 block).map fun word =>
    ofBytes (if method.isHeavyFirst then word else word.reverse)

def wordBytes (method : Method) (word : Nat) : List UInt8 :=
  if method.isHeavyFirst then heavyBytes method.wordSize word
  else lightBytes method.wordSize word

def digest (method : Method) (bytes : List UInt8) : List UInt8 :=
  let filled := method.filled bytes
  let state := (pieces method.blockSize (filled.length / method.blockSize) filled).foldl
    (fun state block =>
      let mixed := method.mix (method.wordsOf block) state
      (state.zip mixed).map fun (old, new) => wrap method.bits (old + new))
    method.start
  (state.take method.told).flatMap method.wordBytes

end Method

def root (power n : Nat) : Nat :=
  if h : n = 0 ∨ power = 0 then 0
  else
    let half := 2 * root power (n >>> power)
    if Nat.pow (half + 1) power ≤ n then half + 1 else half
termination_by n
decreasing_by
  rw [Nat.shiftRight_eq_div_pow]
  exact Nat.div_lt_self (Nat.pos_of_ne_zero fun isZero => h (Or.inl isZero))
    (Nat.one_lt_two_pow fun isZero => h (Or.inr isZero))

def primes : List Nat :=
  (List.range 410).filter fun n =>
    decide (2 ≤ n) && (List.range n).all fun d => decide (d < 2) || n % d != 0

-- So many bits behind the point of the roots of primes.
def squareBits (bits : Nat) (primes : List Nat) : List Nat :=
  primes.map fun p => wrap bits (root 2 (p <<< (2 * bits)))

def cubeBits (bits : Nat) (primes : List Nat) : List Nat :=
  primes.map fun p => wrap bits (root 3 (p <<< (3 * bits)))

-- How the words of a block are mixed in a method of the second family: by how much the words turn for
-- a new one, and by how much the first and the fifth word of the state.
structure Turns where
  near : Nat × Nat × Nat
  far : Nat × Nat × Nat
  first : Nat × Nat × Nat
  fifth : Nat × Nat × Nat

-- All words of a block: its own, and those that come of them. The latest come first.
def spread (next : List Nat → Nat) : Nat → List Nat → List Nat
  | 0, words => words
  | count + 1, words => spread next count (next words :: words)

def mixWide (bits : Nat) (turns : Turns) (keys words state : List Nat) : List Nat :=
  let turned (by_ : Nat × Nat × Nat) (n : Nat) : Nat :=
    turnRight bits by_.1 n ^^^ turnRight bits by_.2.1 n ^^^ turnRight bits by_.2.2 n
  let shifted (by_ : Nat × Nat × Nat) (n : Nat) : Nat :=
    turnRight bits by_.1 n ^^^ turnRight bits by_.2.1 n ^^^ (n >>> by_.2.2)
  let next (words : List Nat) : Nat :=
    let word (i : Nat) : Nat := words.getD i 0
    wrap bits (word 15 + shifted turns.near (word 14) + word 6 + shifted turns.far (word 1))
  let all := (spread next (keys.length - 16) words.reverse).reverse
  (keys.zip all).foldl
    (fun state (key, word) =>
      match state with
      | [a, b, c, d, e, f, g, h] =>
          let choice := (e &&& f) ^^^ (complement bits e &&& g)
          let most := (a &&& b) ^^^ (a &&& c) ^^^ (b &&& c)
          let first := h + turned turns.fifth e + choice + key + word
          [wrap bits (first + turned turns.first a + most), a, b, c, wrap bits (d + first), e, f, g]
      | state => state)
    state

def narrowTurns : Turns := ⟨(7, 18, 3), (17, 19, 10), (2, 13, 22), (6, 11, 25)⟩
def wideTurns : Turns := ⟨(1, 8, 7), (19, 61, 6), (28, 34, 39), (14, 18, 41)⟩

def narrowKeys : List Nat := cubeBits 32 (primes.take 64)
def wideKeys : List Nat := cubeBits 64 (primes.take 80)

def laterStart : List Nat := squareBits 64 ((primes.drop 8).take 8)

def sha256 : Method :=
  ⟨32, true, squareBits 32 (primes.take 8), 8, mixWide 32 narrowTurns narrowKeys⟩

def sha224 : Method :=
  ⟨32, true, laterStart.map (wrap 32), 7, mixWide 32 narrowTurns narrowKeys⟩

def sha512 : Method :=
  ⟨64, true, squareBits 64 (primes.take 8), 8, mixWide 64 wideTurns wideKeys⟩

def sha384 : Method :=
  ⟨64, true, laterStart, 6, mixWide 64 wideTurns wideKeys⟩

def firstState : List Nat :=
  [0x67452301, 0xefcdab89, 0x98badcfe, 0x10325476]

-- The words are mixed in four rounds, each in its own way.
def mixOld (words state : List Nat) : List Nat :=
  let next (words : List Nat) : Nat :=
    let word (i : Nat) : Nat := words.getD i 0
    turnLeft 32 1 (word 2 ^^^ word 7 ^^^ word 13 ^^^ word 15)
  let all := (spread next 64 words.reverse).reverse
  all.zipIdx.foldl
    (fun state (word, i) =>
      match state with
      | [a, b, c, d, e] =>
          let (mixed, key) :=
            match i / 20 with
            | 0 => ((b &&& c) ||| (complement 32 b &&& d), 0x5a827999)
            | 1 => (b ^^^ c ^^^ d, 0x6ed9eba1)
            | 2 => ((b &&& c) ||| (b &&& d) ||| (c &&& d), 0x8f1bbcdc)
            | _ => (b ^^^ c ^^^ d, 0xca62c1d6)
          [wrap 32 (turnLeft 32 5 a + mixed + e + key + word), a, turnLeft 32 30 b, c, d]
      | state => state)
    state

def sha1 : Method :=
  ⟨32, true, firstState ++ [0xc3d2e1f0], 5, mixOld⟩

-- So many bits behind the point of the sines of whole numbers.
def sineKeys : List Nat :=
  [0xd76aa478, 0xe8c7b756, 0x242070db, 0xc1bdceee, 0xf57c0faf, 0x4787c62a, 0xa8304613, 0xfd469501,
    0x698098d8, 0x8b44f7af, 0xffff5bb1, 0x895cd7be, 0x6b901122, 0xfd987193, 0xa679438e, 0x49b40821,
    0xf61e2562, 0xc040b340, 0x265e5a51, 0xe9b6c7aa, 0xd62f105d, 0x02441453, 0xd8a1e681, 0xe7d3fbc8,
    0x21e1cde6, 0xc33707d6, 0xf4d50d87, 0x455a14ed, 0xa9e3e905, 0xfcefa3f8, 0x676f02d9, 0x8d2a4c8a,
    0xfffa3942, 0x8771f681, 0x6d9d6122, 0xfde5380c, 0xa4beea44, 0x4bdecfa9, 0xf6bb4b60, 0xbebfbc70,
    0x289b7ec6, 0xeaa127fa, 0xd4ef3085, 0x04881d05, 0xd9d4d039, 0xe6db99e5, 0x1fa27cf8, 0xc4ac5665,
    0xf4292244, 0x432aff97, 0xab9423a7, 0xfc93a039, 0x655b59c3, 0x8f0ccc92, 0xffeff47d, 0x85845dd1,
    0x6fa87e4f, 0xfe2ce6e0, 0xa3014314, 0x4e0811a1, 0xf7537e82, 0xbd3af235, 0x2ad7d2bb, 0xeb86d391]

def sineTurns : List (List Nat) :=
  [[7, 12, 17, 22], [5, 9, 14, 20], [4, 11, 16, 23], [6, 10, 15, 21]]

def mixOldest (words state : List Nat) : List Nat :=
  sineKeys.zipIdx.foldl
    (fun state (key, i) =>
      match state with
      | [a, b, c, d] =>
          let (mixed, place) :=
            match i / 16 with
            | 0 => ((b &&& c) ||| (complement 32 b &&& d), i)
            | 1 => ((d &&& b) ||| (complement 32 d &&& c), 5 * i + 1)
            | 2 => (b ^^^ c ^^^ d, 3 * i + 5)
            | _ => (c ^^^ (b ||| complement 32 d), 7 * i)
          let turn := ((sineTurns.getD (i / 16) []).getD (i % 4) 0)
          let sum := wrap 32 (mixed + a + key + words.getD (place % 16) 0)
          [d, wrap 32 (b + turnLeft 32 turn sum), b, c]
      | state => state)
    state

def md5 : Method :=
  ⟨32, false, firstState, 4, mixOldest⟩

-- The remainder of bytes, and of their number behind them, by a polynomial. All its bits are turned
-- over at the end.
def remainder (bytes : List UInt8) : Nat :=
  let step (rest : Nat) : Nat :=
    let doubled := wrap 32 (rest <<< 1)
    if rest >>> 31 = 1 then doubled ^^^ 0x04c11db7 else doubled
  let add (rest : Nat) (byte : UInt8) : Nat :=
    (List.range 8).foldl (fun rest _ => step rest) (rest ^^^ (byte.toNat <<< 24))
  let size := (lightBytes 16 bytes.length).reverse.dropWhile (· == 0)
  complement 32 ((bytes ++ size.reverse).foldl add 0)

def turningSum (bytes : List UInt8) : Nat :=
  bytes.foldl (fun sum byte => wrap 16 (turnRight 16 1 sum + byte.toNat)) 0

-- A sum of bytes whose upper half is added to the lower one.
def foldedSum (bytes : List UInt8) : Nat :=
  let sum := wrap 32 (bytes.foldl (fun sum byte => sum + byte.toNat) 0)
  let folded := wrap 16 sum + sum >>> 16
  wrap 16 folded + folded >>> 16

end MakeCheck.Digest
