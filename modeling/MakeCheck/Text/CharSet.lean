namespace MakeCheck.Text

-- A set of characters, given by closed ranges of code points in increasing order.
structure CharSet where
  ranges : List (Nat × Nat)
deriving DecidableEq

-- The ranges increase, so the first one that does not end before the point decides.
def rangesContain : List (Nat × Nat) → Nat → Bool
  | [], _ => false
  | (low, high) :: rest, point =>
      if point ≤ high then decide (low ≤ point) else rangesContain rest point

def maxPoint : Nat := 0x10FFFF

-- Makes one of ranges that meet or overlap, beginning with the given one.
def mergeFrom (low high : Nat) : List (Nat × Nat) → List (Nat × Nat)
  | [] => [(low, high)]
  | (first, last) :: rest =>
      if first ≤ high + 1 then mergeFrom low (max high last) rest
      else (low, high) :: mergeFrom first last rest

-- The surrogates between these two points are no characters.
def lastBeforeSurrogates : Nat := 0xD7FF

def firstBehindSurrogates : Nat := 0xE000

def pointAfter (point : Nat) : Nat :=
  if point = lastBeforeSurrogates then firstBehindSurrogates else point + 1

def pointBefore (point : Nat) : Nat :=
  if point = firstBehindSurrogates then lastBeforeSurrogates else point - 1

-- The ranges between the given ones, from a point on. Ranges that nothing but surrogates keeps
-- apart have these two neighbours between them.
def gapsFrom (start : Nat) : List (Nat × Nat) → List (Nat × Nat)
  | [] => if start ≤ maxPoint then [(start, maxPoint)] else []
  | (low, high) :: rest =>
      let last := pointBefore low
      (if low = 0 then [] else [(min start last, max start last)]) ++
        gapsFrom (pointAfter high) rest

-- What the two lists have in common, both in increasing order.
def commonRanges (ranges others : List (Nat × Nat)) : List (Nat × Nat) :=
  match ranges, others with
  | (low, high) :: rest, (first, last) :: more =>
      let here := if max low first ≤ min high last then [(max low first, min high last)] else []
      here ++ (if high ≤ last then commonRanges rest ((first, last) :: more)
        else commonRanges ((low, high) :: rest) more)
  | _, _ => []
termination_by ranges.length + others.length

-- What is left of the first list without the second one, both in increasing order.
def rangesWithout (ranges others : List (Nat × Nat)) : List (Nat × Nat) :=
  match ranges, others with
  | [], _ => []
  | _, [] => ranges
  | (low, high) :: rest, (first, last) :: more =>
      if last < low then rangesWithout ((low, high) :: rest) more
      else
        let front := if low < first then [(low, min high (pointBefore first))] else []
        front ++ (if high ≤ last then rangesWithout rest ((first, last) :: more)
          else rangesWithout ((max low (pointAfter last), high) :: rest) more)
termination_by ranges.length + others.length

namespace CharSet

def contains (set : CharSet) (c : Char) : Bool :=
  rangesContain set.ranges c.toNat

-- The set of ranges in any order.
def ofRanges (ranges : List (Nat × Nat)) : CharSet :=
  match ranges.mergeSort fun a b => decide (a.1 ≤ b.1) with
  | [] => ⟨[]⟩
  | (low, high) :: rest => ⟨mergeFrom low high rest⟩

def range (first last : Char) : CharSet :=
  ⟨[(first.toNat, last.toNat)]⟩

def empty : CharSet :=
  ⟨[]⟩

def all : CharSet :=
  ⟨[(0, maxPoint)]⟩

def ascii : CharSet :=
  ⟨[(0, 0x7F)]⟩

def union (set other : CharSet) : CharSet :=
  ofRanges (set.ranges ++ other.ranges)

def complement (set : CharSet) : CharSet :=
  ⟨gapsFrom 0 set.ranges⟩

def intersection (set other : CharSet) : CharSet :=
  ⟨commonRanges set.ranges other.ranges⟩

def difference (set other : CharSet) : CharSet :=
  ⟨rangesWithout set.ranges other.ranges⟩

def symmetricDifference (set other : CharSet) : CharSet :=
  (set.difference other).union (other.difference set)

def isAscii (set : CharSet) : Bool :=
  set.ranges.all fun entry => decide (entry.2 ≤ 0x7F)

end CharSet

end MakeCheck.Text
