import MakeCheck.Program.Moment
import MakeCheck.Program.Table

namespace MakeCheck.Program

open Text

-- A stretch of lines that takes the place of another one. Both run from a line up to another one,
-- which does not belong to them.
structure Hunk where
  start1 : Nat
  stop1 : Nat
  start2 : Nat
  stop2 : Nat
deriving DecidableEq

-- How far a search has come on each of the diagonals from one to another.
structure Front where
  low : Int
  high : Int
  reach : List (Int × Int)

namespace Front

def get (front : Front) (diagonal : Int) : Int :=
  (front.reach.lookup diagonal).getD 0

def set (front : Front) (diagonal place : Int) : Front :=
  { front with reach := (diagonal, place) :: front.reach }

-- Goes one diagonal further to both sides, or comes back from the edge. What lies outside is given
-- a place from which nobody goes on.
def widen (front : Front) (least greatest outside : Int) : Front :=
  let front := if least < front.low then
      { front.set (front.low - 2) outside with low := front.low - 1 }
    else { front with low := front.low + 1 }
  if front.high < greatest then { front.set (front.high + 2) outside with high := front.high + 1 }
  else { front with high := front.high - 1 }

-- The diagonals from the last one down, every other one.
def diagonals (front : Front) : List Int :=
  (List.range ((front.high - front.low).toNat / 2 + 1)).map fun (i : Nat) => front.high - 2 * i

end Front

-- A part of two lists of lines.
structure Box where
  left : Nat
  right : Nat
  top : Nat
  bottom : Nat

def sameAfter (a b : Array (List UInt8)) (right bottom : Nat) : Nat → Nat → Nat → Nat
  | 0, _, _ => 0
  | fuel + 1, x, y =>
      if x < right ∧ y < bottom ∧ a[x]? = b[y]? then
        sameAfter a b right bottom fuel (x + 1) (y + 1) + 1
      else 0

def sameBefore (a b : Array (List UInt8)) (left top : Nat) : Nat → Nat → Nat → Nat
  | 0, _, _ => 0
  | fuel + 1, x, y =>
      if left < x ∧ top < y ∧ a[x - 1]? = b[y - 1]? then
        sameBefore a b left top fuel (x - 1) (y - 1) + 1
      else 0

-- The place where searches from both ends of a box meet. The fuel bounds the steps.
def meeting (a b : Array (List UInt8)) (box : Box) : Nat → Front → Front → Nat × Nat
  | 0, _, _ => (box.right, box.bottom)
  | fuel + 1, ahead, back =>
      let size := a.size + b.size
      let least : Int := (box.left : Int) - box.bottom
      let greatest : Int := (box.right : Int) - box.top
      let isOdd :=
        (((box.left : Int) - box.top) - ((box.right : Int) - box.bottom)).natAbs % 2 == 1
      let ahead := ahead.widen least greatest (-1)
      let (ahead, met) := ahead.diagonals.foldl
        (fun ((front, met) : Front × Option (Nat × Nat)) d =>
          if met.isSome then (front, met)
          else
            let low := front.get (d - 1)
            let high := front.get (d + 1)
            let x := (if low < high then high else low + 1).toNat
            let y := ((x : Int) - d).toNat
            let x := x + sameAfter a b box.right box.bottom size x y
            let isMet := isOdd && decide (back.low ≤ d ∧ d ≤ back.high) &&
              decide (back.get d ≤ x)
            (front.set d x, if isMet then some (x, ((x : Int) - d).toNat) else none))
        (ahead, none)
      match met with
      | some place => place
      | none =>
          let back := back.widen least greatest (size + 1)
          let (back, met) := back.diagonals.foldl
            (fun ((front, met) : Front × Option (Nat × Nat)) d =>
              if met.isSome then (front, met)
              else
                let low := front.get (d - 1)
                let high := front.get (d + 1)
                let x := (if low < high then low else high - 1).toNat
                let y := ((x : Int) - d).toNat
                let x := x - sameBefore a b box.left box.top size x y
                let isMet := !isOdd && decide (ahead.low ≤ d ∧ d ≤ ahead.high) &&
                  decide ((x : Int) ≤ ahead.get d)
                (front.set d x, if isMet then some (x, ((x : Int) - d).toNat) else none))
            (back, none)
          match met with
          | some place => place
          | none => meeting a b box fuel ahead back

-- The lines of both sides that have no partner. The fuel bounds the depth.
def lonely (a b : Array (List UInt8)) : Nat → Box → List Nat × List Nat
  | 0, _ => ([], [])
  | fuel + 1, box =>
      let size := a.size + b.size
      let front := sameAfter a b box.right box.bottom size box.left box.top
      let left := box.left + front
      let top := box.top + front
      let back := sameBefore a b left top size box.right box.bottom
      let right := box.right - back
      let bottom := box.bottom - back
      if left = right then ([], (List.range (bottom - top)).map (top + ·))
      else if top = bottom then ((List.range (right - left)).map (left + ·), [])
      else
        let inner : Box := ⟨left, right, top, bottom⟩
        let first : Int := (left : Int) - top
        let last : Int := (right : Int) - bottom
        let (x, y) := meeting a b inner (size + 2) ⟨first, first, [(first, left)]⟩
          ⟨last, last, [(last, right)]⟩
        if (x = right ∧ y = bottom) ∨ (x = left ∧ y = top) then
          ((List.range (right - left)).map (left + ·), (List.range (bottom - top)).map (top + ·))
        else
          let (first1, first2) := lonely a b fuel ⟨left, x, top, y⟩
          let (second1, second2) := lonely a b fuel ⟨x, right, y, bottom⟩
          (first1 ++ second1, first2 ++ second2)

-- Walks along both sides and collects stretches without a partner. The fuel is their length.
def hunksFrom (lone1 lone2 : Nat → Bool) (size1 size2 : Nat) : Nat → Nat → Nat → List Hunk
  | 0, _, _ => []
  | fuel + 1, x, y =>
      if size1 ≤ x ∧ size2 ≤ y then []
      else if (x < size1 && lone1 x) || (y < size2 && lone2 y) then
        let stop (lone : Nat → Bool) (size place : Nat) : Nat :=
          place + ((List.range (size - place)).takeWhile fun i => lone (place + i)).length
        let next1 := stop lone1 size1 x
        let next2 := stop lone2 size2 y
        ⟨x, next1, y, next2⟩ :: hunksFrom lone1 lone2 size1 size2 fuel next1 next2
      else hunksFrom lone1 lone2 size1 size2 fuel (x + 1) (y + 1)

-- Moves a stretch that was only taken away, or only put in, down as far as its lines allow.
def lowered? (a b : Array (List UInt8)) (limit1 limit2 : Nat) : Nat → Hunk → Hunk
  | 0, hunk => hunk
  | fuel + 1, hunk =>
      let next : Hunk := ⟨hunk.start1 + 1, hunk.stop1 + 1, hunk.start2 + 1, hunk.stop2 + 1⟩
      let fits := hunk.stop1 < limit1 && hunk.stop2 < limit2
      if hunk.start2 = hunk.stop2 && fits && a[hunk.start1]? == a[hunk.stop1]? then
        lowered? a b limit1 limit2 fuel next
      else if hunk.start1 = hunk.stop1 && fits && b[hunk.start2]? == b[hunk.stop2]? then
        lowered? a b limit1 limit2 fuel next
      else hunk

def loweredHunks (a b : Array (List UInt8)) : List Hunk → List Hunk
  | [] => []
  | hunk :: rest =>
      let limit1 := (rest.head?.map (·.start1 - 1)).getD a.size
      let limit2 := (rest.head?.map (·.start2 - 1)).getD b.size
      lowered? a b limit1 limit2 (a.size + b.size) hunk :: loweredHunks a b rest

-- The least changes that make one list of lines another one. Lines without an equal one on the
-- other side are left out of the search.
def hunks (a b : List (List UInt8)) : List Hunk :=
  let shared1 := (a.zipIdx.filter fun entry => b.contains entry.1)
  let shared2 := (b.zipIdx.filter fun entry => a.contains entry.1)
  let (lone1, lone2) := lonely (shared1.map (·.1)).toArray (shared2.map (·.1)).toArray
    (shared1.length + shared2.length + 1) ⟨0, shared1.length, 0, shared2.length⟩
  let kept (shared : List (List UInt8 × Nat)) (lone : List Nat) : List Nat :=
    (shared.zipIdx.filter fun entry => !lone.contains entry.2).map (·.1.2)
  let kept1 := kept shared1 lone1
  let kept2 := kept shared2 lone2
  loweredHunks a.toArray b.toArray
    (hunksFrom (fun x => !kept1.contains x) (fun y => !kept2.contains y) a.length b.length
      (a.length + b.length + 1) 0 0)

-- How differences are looked for and shown.
inductive DiffForm where
  | normal
  | unified (around : Nat)
  | context (around : Nat)
  | brief
  | script
deriving DecidableEq

structure DiffRule where
  form : DiffForm
  folds : Bool
  blanks : Option Char
  skipsEmpty : Bool
  labels : List String
  tellsSame : Bool
  recurses : Bool
  takesMissing : Bool
  -- The options as they are shown before two files of a directory.
  options : List String

namespace DiffRule

def squeezeBlanks : List UInt8 → List UInt8
  | [] => []
  | byte :: rest =>
      let after := squeezeBlanks rest
      if isSpace byte then if after.head? = some 32 ∨ after.isEmpty then after else 32 :: after
      else byte :: after
where
  isSpace (byte : UInt8) : Bool := byte == 32 || (9 ≤ byte && byte ≤ 13)

def key (rule : DiffRule) (line : List UInt8) : List UInt8 :=
  let isSpace (byte : UInt8) : Bool := byte == 32 || (9 ≤ byte && byte ≤ 13)
  let line := if rule.folds then lowered line else line
  match rule.blanks with
  | some 'w' => line.filter fun byte => !isSpace byte
  | some 'b' => squeezeBlanks line
  | some _ => (line.reverse.dropWhile isSpace).reverse
  | none => line

-- A line with a sign before it. A missing line break is told.
def marked (sign : String) (line : List UInt8) : List UInt8 :=
  if line.getLast? = some 10 then Utf8.encode sign ++ line
  else Utf8.encode sign ++ line ++ Utf8.encode "\n\\ No newline at end of file\n"

def stretch (lines : List (List UInt8)) (start stop : Nat) : List (List UInt8) :=
  (lines.drop start).take (stop - start)

-- Line numbers from one to another. An empty stretch is told by the line before it.
def span (start stop : Nat) : String :=
  if stop = start then toString start
  else if stop = start + 1 then toString stop
  else toString (start + 1) ++ "," ++ toString stop

def normalHunk (a b : List (List UInt8)) (hunk : Hunk) : List UInt8 :=
  let letter :=
    if hunk.start1 = hunk.stop1 then "a" else if hunk.start2 = hunk.stop2 then "d" else "c"
  let head := span hunk.start1 hunk.stop1 ++ letter ++ span hunk.start2 hunk.stop2 ++ "\n"
  let gone := (stretch a hunk.start1 hunk.stop1).flatMap (marked "< ")
  let come := (stretch b hunk.start2 hunk.stop2).flatMap (marked "> ")
  Utf8.encode head ++ gone ++ (if letter = "c" then Utf8.encode "---\n" else []) ++ come

def scriptHunk (b : List (List UInt8)) (hunk : Hunk) : List UInt8 :=
  let come := stretch b hunk.start2 hunk.stop2
  let lines := come.flatten ++ Utf8.encode ".\n"
  if hunk.start1 = hunk.stop1 then Utf8.encode (toString hunk.start1 ++ "a\n") ++ lines
  else if come.isEmpty then Utf8.encode (span hunk.start1 hunk.stop1 ++ "d\n")
  else Utf8.encode (span hunk.start1 hunk.stop1 ++ "c\n") ++ lines

-- Changes that are so close to one another that the lines around them meet.
def groups (size : Nat) (hunks : List Hunk) : List (List Hunk) :=
  hunks.splitBy fun first second => decide (second.start1 ≤ first.stop1 + 2 * size)

-- Lines of two sides from the first change to the last one, with others around them. A line of both
-- sides is shown once.
def unifiedGroup (size : Nat) (a b : List (List UInt8)) (group : List Hunk) : List UInt8 :=
  match group.head?, group.getLast? with
  | some first, some last =>
      let before := min size first.start1
      let after := min size (a.length - last.stop1)
      let start1 := first.start1 - before
      let start2 := first.start2 - before
      let stop1 := last.stop1 + after
      let stop2 := last.stop2 + after
      let range (start stop : Nat) : String :=
        if stop = start + 1 then toString stop
        else toString (if stop = start then start else start + 1) ++ "," ++ toString (stop - start)
      let head := "@@ -" ++ range start1 stop1 ++ " +" ++ range start2 stop2 ++ " @@\n"
      let (place, body) := group.foldl
        (fun ((place, body) : Nat × List UInt8) hunk =>
          let same := (stretch a place hunk.start1).flatMap (marked " ")
          let gone := (stretch a hunk.start1 hunk.stop1).flatMap (marked "-")
          let come := (stretch b hunk.start2 hunk.stop2).flatMap (marked "+")
          (hunk.stop1, body ++ same ++ gone ++ come))
        (start1, [])
      Utf8.encode head ++ body ++ (stretch a place stop1).flatMap (marked " ")
  | _, _ => []

-- The same with one side after the other. A side on which nothing changes is left out.
def contextGroup (size : Nat) (a b : List (List UInt8)) (group : List Hunk) : List UInt8 :=
  match group.head?, group.getLast? with
  | some first, some last =>
      let before := min size first.start1
      let after := min size (a.length - last.stop1)
      let side (lines : List (List UInt8)) (sign : String) (start stop : Nat)
          (changes : List (Nat × Nat × Bool)) : List UInt8 :=
        if changes.all fun (from_, to_, _) => from_ == to_ then []
        else
          let (place, body) := changes.foldl
            (fun ((place, body) : Nat × List UInt8) (from_, to_, isBoth) =>
              let same := (stretch lines place from_).flatMap (marked "  ")
              let shown := (stretch lines from_ to_).flatMap
                (marked (if isBoth then "! " else sign))
              (to_, body ++ same ++ shown))
            (start, [])
          body ++ (stretch lines place stop).flatMap (marked "  ")
      let isBoth (hunk : Hunk) : Bool := hunk.start1 < hunk.stop1 && hunk.start2 < hunk.stop2
      let start1 := first.start1 - before
      let start2 := first.start2 - before
      let stop1 := last.stop1 + after
      let stop2 := last.stop2 + after
      Utf8.encode ("***************\n*** " ++ span start1 stop1 ++ " ****\n") ++
        side a "- " start1 stop1 (group.map fun h => (h.start1, h.stop1, isBoth h)) ++
        Utf8.encode ("--- " ++ span start2 stop2 ++ " ----\n") ++
        side b "+ " start2 stop2 (group.map fun h => (h.start2, h.stop2, isBoth h))
  | _, _ => []

-- Two files: their names, when they were changed, and what they hold.
structure Side where
  name : String
  modified : Time
  bytes : List UInt8

def headLine (rule : DiffRule) (sign : String) (label : Option String) (side : Side) : String :=
  let moment := Moment.ofTime side.modified
  let stamp :=
    match rule.form with
    | .context _ => formatMoment moment "%a %b %e %T %Y".toList
    | _ => formatMoment moment "%Y-%m-%d %H:%M:%S.%N %z".toList
  sign ++ " " ++ label.getD (side.name ++ "\t" ++ stamp) ++ "\n"

def compared (rule : DiffRule) (first second : Side) : List UInt8 × Bool :=
  let same : List UInt8 × Bool :=
    (if rule.tellsSame then
      Utf8.encode ("Files " ++ first.name ++ " and " ++ second.name ++ " are identical\n") else [],
      false)
  let differ (label : String) : List UInt8 × Bool :=
    (Utf8.encode (label ++ first.name ++ " and " ++ second.name ++ " differ\n"), true)
  let withBreaks (bytes : List UInt8) : List (List UInt8) :=
    let pieces := bytes.splitOn 10
    pieces.dropLast.map (· ++ [10]) ++ pieces.getLast?.toList.filter (· != [])
  if first.bytes = second.bytes then same
  else if first.bytes.contains 0 || second.bytes.contains 0 then
    differ (if rule.form = .brief then "Files " else "Binary files ")
  else
    let a := withBreaks first.bytes
    let b := withBreaks second.bytes
    let all := hunks (a.map rule.key) (b.map rule.key)
    let isEmptyLine (line : List UInt8) : Bool := line == [10]
    let counted := if rule.skipsEmpty then
        all.filter fun hunk =>
          !((stretch a hunk.start1 hunk.stop1).all isEmptyLine &&
            (stretch b hunk.start2 hunk.stop2).all isEmptyLine)
      else all
    if counted.isEmpty then same
    else
      let label (i : Nat) : Option String := rule.labels[i]?
      match rule.form with
      | .brief => differ "Files "
      | .normal => (counted.flatMap (normalHunk a b), true)
      | .script => (counted.reverse.flatMap (scriptHunk b), true)
      | .unified size =>
          (Utf8.encode (rule.headLine "---" (label 0) first ++
            rule.headLine "+++" (label 1) second) ++
            (groups size counted).flatMap (unifiedGroup size a b), true)
      | .context size =>
          (Utf8.encode (rule.headLine "***" (label 0) first ++
            rule.headLine "---" (label 1) second) ++
            (groups size counted).flatMap (contextGroup size a b), true)

end DiffRule

end MakeCheck.Program
