import MakeCheck.Regex.Pattern
import MakeCheck.Text.Utf8

namespace MakeCheck.Regex

open Text

-- The bytes of a text as ranges, one after another.
abbrev ByteRow := List (Nat × Nat)

def pointBytes (point : Nat) : List Nat :=
  (Utf8.encode (Char.ofNat point).toString).map UInt8.toNat

-- The last point of the front part of a range that has to be taken apart: points of one part have
-- equally many bytes, and where an early byte varies the later ones take all values.
def cutAt? (low high : Nat) : Option Nat :=
  match [0x7F, 0x7FF, 0xFFFF].find? fun last => low ≤ last && decide (last < high) with
  | some last => some last
  | none =>
      if high ≤ 0x7F then none
      else
        [0x40, 0x1000, 0x40000].findSome? fun size =>
          if low / size = high / size then none
          else if low % size ≠ 0 then some (low - low % size + size - 1)
          else if high % size ≠ size - 1 then some (high - high % size - 1)
          else none

def rangeRows (low high : Nat) : List ByteRow :=
  match cutAt? low high with
  | none => [(pointBytes low).zip (pointBytes high)]
  | some last =>
      if low ≤ last ∧ last < high then rangeRows low last ++ rangeRows (last + 1) high else []
termination_by high - low

-- The texts of all characters of a set, in increasing order.
def setRows (set : CharSet) : List ByteRow :=
  set.ranges.flatMap fun (low, high) =>
    (if low ≤ lastBeforeSurrogates then rangeRows low (min high lastBeforeSurrogates) else []) ++
      (if firstBehindSurrogates ≤ high then rangeRows (max low firstBehindSurrogates) high else [])

-- A pattern as it is written down for an automaton, without the parts that change nothing. The
-- characters of a row are one literal, and a set is kept with the texts of its characters, unless
-- they are single bytes.
inductive Shape where
  | empty
  | literal (bytes : List Nat)
  | chars (set : CharSet) (rows : List ByteRow)
  | edge (edge : Edge)
  | captured (body : Shape)
  | row (parts : List Shape)
  | choice (branches : List Shape)
  | repeated (least : Nat) (most : Option Nat) (body : Shape)

namespace Shape

mutual

def same : Shape → Shape → Bool
  | .empty, .empty => true
  | .literal bytes, .literal others => bytes == others
  | .chars set _, .chars other _ => set == other
  | .edge kind, .edge other => kind == other
  | .row parts, .row others => allSame parts others
  | .choice branches, .choice others => allSame branches others
  | .repeated least most body, .repeated least' most' other =>
      least == least' && most == most' && body.same other
  | _, _ => false

def allSame : List Shape → List Shape → Bool
  | [], [] => true
  | part :: rest, other :: others => part.same other && allSame rest others
  | _, _ => false

end

mutual

def isBlank : Shape → Bool
  | .empty | .edge _ => true
  | .literal bytes => bytes.isEmpty
  | .chars .. => false
  | .captured body => body.isBlank
  | .row parts => allBlank parts
  | .choice branches => allBlank branches
  | .repeated _ most body => most == some 0 || (most.isSome && body.isBlank)

def allBlank : List Shape → Bool
  | [] => true
  | part :: rest => part.isBlank && allBlank rest

end

mutual

-- The least number of bytes of a text that is meant, unless there is none.
def leastBytes : Shape → Option Nat
  | .empty | .edge _ => some 0
  | .literal bytes => some bytes.length
  | .chars set _ => if set.ranges.isEmpty then none else some 1
  | .captured body => body.leastBytes
  | .row parts => (allLeastBytes parts).map fun counts => counts.foldl (· + ·) 0
  | .choice branches => (allLeastBytes branches).bind List.min?
  | .repeated least _ body => body.leastBytes.map (least * ·)

def allLeastBytes : List Shape → Option (List Nat)
  | [] => some []
  | part :: rest =>
      match part.leastBytes, allLeastBytes rest with
      | some first, some others => some (first :: others)
      | _, _ => none

end

mutual

def beginsWith (kind : Edge) : Shape → Bool
  | .edge other => other == kind
  | .captured body => body.beginsWith kind
  | .row parts => rowBeginsWith kind parts
  | .choice branches => allBeginWith kind branches
  | .repeated least _ body => decide (0 < least) && body.beginsWith kind
  | .empty | .literal _ | .chars .. => false

def rowBeginsWith (kind : Edge) : List Shape → Bool
  | [] => false
  | part :: rest => part.beginsWith kind || (part.isBlank && rowBeginsWith kind rest)

def allBeginWith (kind : Edge) : List Shape → Bool
  | [] => true
  | branch :: rest => branch.beginsWith kind && allBeginWith kind rest

end

mutual

def reversed : Shape → Shape
  | .literal bytes => .literal bytes.reverse
  | .captured body => .captured body.reversed
  | .row parts => .row (allReversed parts).reverse
  | .choice branches => .choice (allReversed branches)
  | .repeated least most body => .repeated least most body.reversed
  | .empty => .empty
  | .chars set rows => .chars set rows
  | .edge kind => .edge kind

def allReversed : List Shape → List Shape
  | [] => []
  | part :: rest => part.reversed :: allReversed rest

end

-- The shape of a set. One character alone is a literal.
def ofSet (set : CharSet) : Shape :=
  match set.ranges with
  | [(low, high)] =>
      if low = high then .literal (pointBytes low)
      else .chars set (if set.isAscii then [] else setRows set)
  | _ => .chars set (if set.isAscii then [] else setRows set)

-- What means the empty text alone need not be repeated.
def ofRepetition (least : Nat) (most : Option Nat) (body : Shape) : Shape :=
  let (least, most) :=
    if body.isBlank then (min least 1, some (min (most.getD 1) 1)) else (least, most)
  if least = 0 ∧ most = some 0 then .empty
  else if least = 1 ∧ most = some 1 then body
  else .repeated least most body

def joinLiterals : List Shape → List Shape
  | .literal first :: rest =>
      match joinLiterals rest with
      | .literal second :: others => .literal (first ++ second) :: others
      | others => .literal first :: others
  | part :: rest => part :: joinLiterals rest
  | [] => []

def ofRow (parts : List Shape) : Shape :=
  let flat := parts.flatMap fun part =>
    match part with
    | .row inner => inner
    | .empty => []
    | other => [other]
  match joinLiterals flat with
  | [] => .empty
  | [part] => part
  | parts => .row parts

-- The point that a literal of one character stands for.
def point? : Shape → Option Nat
  | .literal bytes =>
      match Utf8.decode? (bytes.map Nat.toUInt8) with
      | some text => if text.length = 1 then text.toList.head?.map Char.toNat else none
      | none => none
  | _ => none

def set? : Shape → Option CharSet
  | .chars set _ => some set
  | _ => none

def parts? : Shape → Option (List Shape)
  | .row parts => some parts
  | _ => none

-- How many parts the rows have in common at their fronts.
def commonFront : List Shape → List (List Shape) → Nat
  | part :: rest, others =>
      if others.all fun other => other.head?.any part.same then
        commonFront rest (others.map (·.drop 1)) + 1
      else 0
  | [], _ => 0

-- Branches of single characters or of sets are one set.
def ofBranches (branches : List Shape) : Shape :=
  match branches.mapM point?, branches.mapM set? with
  | some points, _ => ofSet (.ofRanges (points.map fun point => (point, point)))
  | none, some sets => ofSet (.ofRanges (sets.flatMap (·.ranges)))
  | none, none => .choice branches

-- What all branches begin with stands before the choice. A choice inside one of them lies less deep
-- than the whole.
def choiceWithin : Nat → List Shape → Shape
  | 0, branches => .choice branches
  | fuel + 1, branches =>
      let flat := branches.flatMap fun branch =>
        match branch with
        | .choice inner => inner
        | other => [other]
      match flat with
      | [] => .chars .empty []
      | [branch] => branch
      | _ =>
          match ofBranches flat, flat.mapM parts? with
          | .choice _, some (first :: others) =>
              let size := commonFront first others
              if size = 0 then .choice flat
              else
                let rests := (first :: others).map fun parts => ofRow (parts.drop size)
                ofRow (first.take size ++ [choiceWithin fuel rests])
          | shape, _ => shape

def ofChoice (branches : List Shape) : Shape :=
  choiceWithin (maxNesting + 1) branches

end Shape

mutual

def Pattern.shape : Pattern → Shape
  | .empty => .empty
  | .chars set => .ofSet set
  | .edge kind _ _ => .edge kind
  | .captured body => .captured body.shape
  | .row parts => .ofRow (Pattern.shapes parts)
  | .choice branches => .ofChoice (Pattern.shapes branches)
  | .repeated least most body => .ofRepetition least most body.shape

def Pattern.shapes : List Pattern → List Shape
  | [] => []
  | part :: rest => part.shape :: Pattern.shapes rest

end

end MakeCheck.Regex
