import MakeCheck.Program.Utility

namespace MakeCheck.Program

open Text

-- The prime factors of a number from a divisor on. The fuel bounds the divisors that are tried.
def factorsFrom : Nat → Nat → Nat → List Nat
  | 0, _, n => [n]
  | fuel + 1, divisor, n =>
      if n < 2 then []
      else if n < divisor * divisor then [n]
      else if n % divisor = 0 then divisor :: factorsFrom fuel divisor (n / divisor)
      else factorsFrom fuel (divisor + if divisor = 2 then 1 else 2) n

-- Takes numbers apart, those of the arguments or those that come in.
def factor (around : Surroundings) (arguments : List String) : Outcome :=
  withArguments around [plain 'h' "exponents"] arguments fun given =>
    let isBlank (c : Char) : Bool := c == ' ' || c == '\t' || c == '\n'
    let coming := ((Utf8.decodeLossy around.inputBytes).toList.splitOnP isBlank).filter (· != [])
    let words := if given.operands.isEmpty then coming.map String.ofList else given.operands
    let results := words.map fun word =>
      let s := word.toList.dropWhile (· == ' ')
      let digits := if s.head? = some '+' then s.tail else s
      if digits.isEmpty || !digits.all Char.isDigit then
        (false, around.complaint (quotedName word ++ " is not a valid positive integer"))
      else
        let n := decimalValue digits
        let factors := factorsFrom 2000000 2 n
        let shown := if given.has 'h' then
            (factors.splitBy (· == ·)).map fun same =>
              let base := toString (same.headD 0)
              if same.length = 1 then base else base ++ "^" ++ toString same.length
          else factors.map toString
        (true, said (toString n ++ ":" ++ String.join (shown.map (" " ++ ·)) ++ "\n"))
    -- The numbers are shown when all of them have been looked at.
    let (fine, wrong) := results.partition (·.1)
    { around.outcome (if wrong.isEmpty then 0 else 1) ((wrong ++ fine).map (·.2)) with
      intake := if given.operands.isEmpty then some .all else none }

-- Names with an order between some of them. Each has the ones that come after it, the one that was
-- told last in front, and how many come before it.
structure Ranking where
  names : Array String
  after : Array (List Nat)
  before : Array Nat
  isShown : Array Bool
  -- Names that have been shown and what had to be said between them, the latest first.
  told : List (Channel × String)

namespace Ranking

def ofPairs (pairs : List (String × String)) : Ranking :=
  let all := ((pairs.flatMap fun (a, b) => [a, b]).eraseDups.mergeSort
    fun a b => decide (a ≤ b)).toArray
  let place (name : String) : Nat := (all.idxOf? name).getD 0
  let empty : Ranking :=
    { names := all
      after := all.map fun _ => []
      before := all.map fun _ => 0
      isShown := all.map fun _ => false
      told := [] }
  pairs.foldl
    (fun ranking (a, b) =>
      if a = b then ranking
      else
        { ranking with
          after := ranking.after.modify (place a) (place b :: ·)
          before := ranking.before.modify (place b) (· + 1) })
    empty

-- Shows what stands in the queue, and puts there what has nothing before it any more.
def drain (ranking : Ranking) : Nat → List Nat → Ranking
  | 0, _ => ranking
  | _, [] => ranking
  | fuel + 1, place :: queue =>
      let (before, found) := (ranking.after.getD place []).foldl
        (fun (state : Array Nat × List Nat) next =>
          let before := state.1.modify next (· - 1)
          (before, if before.getD next 0 = 0 then state.2 ++ [next] else state.2))
        (ranking.before, [])
      let ranking := { ranking with
        before
        isShown := ranking.isShown.setIfInBounds place true
        told := (.output, ranking.names.getD place "") :: ranking.told }
      drain ranking fuel (queue ++ found)

-- A way back along names that have something before them, the latest first. Goes over all names in
-- their order, and adds one that stands before the latest one. It ends with a name that is on it.
def wayBack (ranking : Ranking) : Nat → List Nat → List Nat × Nat
  | 0, way => (way, way.headD 0)
  | fuel + 1, way =>
      let step (state : List Nat × Option Nat) (place : Nat) : List Nat × Option Nat :=
        match state with
        | (way, some found) => (way, some found)
        | ([], none) => if ranking.before.getD place 0 = 0 then ([], none) else ([place], none)
        | (latest :: rest, none) =>
            if ranking.before.getD place 0 = 0 then (latest :: rest, none)
            else if (ranking.after.getD place []).contains latest then
              -- The first name has nothing behind it yet, so it is not known to be on the way.
              if (latest :: rest).dropLast.contains place then
                (latest :: rest, some place)
              else (place :: latest :: rest, none)
            else (latest :: rest, none)
      match (List.range ranking.names.size).foldl step (way, none) with
      | (way, some found) => (way, found)
      | (way, none) => wayBack ranking fuel way

def breakLoop (ranking : Ranking) (source : String) : Ranking :=
  let (way, found) := ranking.wayBack (ranking.names.size + 1) []
  let loop := way.takeWhile (· != found) ++ [found]
  let latest := way.headD 0
  let names := loop.map fun place => ranking.names.getD place ""
  let notes := (source ++ ": input contains a loop:") :: names
  { ranking with
    before := ranking.before.modify latest (· - 1)
    after := ranking.after.modify found (·.erase latest)
    told := (notes.map fun note => (Channel.errors, note)).reverse ++ ranking.told }

def settle (ranking : Ranking) (source : String) : Nat → Ranking
  | 0 => ranking
  | fuel + 1 =>
      let free := (List.range ranking.names.size).filter fun place =>
        ranking.before.getD place 0 == 0 && !ranking.isShown.getD place true
      let drained := ranking.drain (ranking.names.size + 1) free
      if drained.isShown.all id then drained
      else (drained.breakLoop source).settle source fuel

end Ranking

-- Puts names into an order that fits the pairs of them that come in.
def rank (around : Surroundings) (arguments : List String) : Outcome :=
  withArguments around [] arguments fun given =>
    let name := given.operands.headD "-"
    match given.operands.tail, around.source name with
    | extra :: _, _ => around.misused 1 ["extra operand " ++ quotedName extra]
    | [], .error fault => around.outcome 1 [around.complaint (readReport name fault)]
    | [], .ok bytes =>
        let isBlank (c : Char) : Bool := c == ' ' || c == '\t' || c == '\n'
        let words := (((Utf8.decodeLossy bytes).toList.splitOnP isBlank).filter (· != [])).map
          String.ofList
        let finish (outcome : Outcome) : Outcome :=
          { outcome with intake := Surroundings.intakeOf [name] }
        if words.length % 2 = 1 then
          finish (around.outcome 1
            [around.complaint (shownName name ++ ": input contains an odd number of tokens")])
        else
          let pairs := (groupsOf 2 words).map fun pair => (pair.headD "", pair.getLastD "")
          let settled := (Ranking.ofPairs pairs).settle (shownName name) (words.length + 1)
          let written := settled.told.reverse.map fun (channel, text) =>
            if channel = .errors then around.complaint text else said (text ++ "\n")
          finish (around.outcome (if written.all (·.1 == .output) then 0 else 1) written)

end MakeCheck.Program
