import MakeCheck.Program.Table

namespace MakeCheck.Program

open Text

-- The pieces of a text, each with the mark that follows it or, if the flag says so, with the one
-- before it. What is still to come follows a piece in reverse order.
def markedPieces (mark : List UInt8) (before : Bool) :
    Nat → List UInt8 → List UInt8 → List (List UInt8)
  | 0, open_, rest => [open_.reverse ++ rest]
  | _, open_, [] => [open_.reverse]
  | fuel + 1, open_, byte :: rest =>
      if !mark.isEmpty && mark.isPrefixOf (byte :: rest) then
        let after := (byte :: rest).drop mark.length
        if before then open_.reverse :: markedPieces mark before fuel mark.reverse after
        else (open_.reverse ++ mark) :: markedPieces mark before fuel [] after
      else markedPieces mark before fuel (byte :: open_) rest

def reverseLines (around : Surroundings) (arguments : List String) : Outcome :=
  let known := [plain 'b' "before", plain 'r' "regex", valued 's' "separator"]
  withArguments around known arguments fun given =>
    let mark := Utf8.encode ((given.value? 's').getD "\n")
    let report (name : String) (fault : Fault) : String :=
      if fault = .isADirectory then shownName name ++ ": read error: Invalid argument"
      else "failed to open " ++ quotedName name ++ " for reading: " ++ fault.reason
    around.withSources given.operands report fun _ bytes =>
      ((markedPieces mark (given.has 'b') bytes.length [] bytes).reverse).flatten

def reverseChars (around : Surroundings) (arguments : List String) : Outcome :=
  withArguments around [] arguments fun given =>
    let report (name : String) (fault : Fault) : String :=
      "cannot open " ++ name ++ ": " ++ fault.reason
    around.withSources given.operands report fun _ bytes =>
      List.intercalate [10] ((bytes.splitOn 10).map List.reverse)

def mixed {α : Type} (seed : Nat) (items : List α) : List α :=
  let noise := Device.noiseFrom seed (3 * items.length)
  let weights := (List.range items.length).map fun i => (noise.drop (3 * i)).take 3
  ((weights.zip items).mergeSort fun a b => bytesBefore a.1 b.1 || a.1 == b.1).map (·.2)

def numberRange? (text : String) : Option (Nat × Nat) :=
  match text.toList.splitOn '-' with
  | [low, high] =>
      let isNumber (s : List Char) : Bool := !s.isEmpty && s.all Char.isDigit
      if isNumber low && isNumber high && decimalValue low ≤ decimalValue high + 1 then
        some (decimalValue low, decimalValue high)
      else none
  | _ => none

def shuffle (around : Surroundings) (arguments : List String) : Outcome :=
  let known := [plain 'e' "echo", valued 'i' "input-range", valued 'n' "head-count",
    valued 'o' "output", plain 'r' "repeat", plain 'z' "zero-terminated",
    valued 'S' "random-source"]
  withArguments around known arguments fun given =>
    let stop : UInt8 := if given.has 'z' then 0 else 10
    let counts := given.values 'n'
    let wrongCount? := counts.find? fun text => text.isEmpty || !text.toList.all Char.isDigit
    let range? := (given.value? 'i').map fun text => (text, numberRange? text)
    let shown (items : List (List UInt8)) (intake : Option Intake) : Outcome :=
      let order := mixed (around.now.natAbs / 1000 % Nat.pow 2 31) items
      let limit? := (counts.map fun text => decimalValue text.toList).min?
      let kept :=
        if given.has 'r' then
          (List.range (limit?.getD tooMany)).filterMap fun i => order[i % order.length]?
        else (limit?.map fun limit => order.take limit).getD order
      let bytes := kept.flatMap (· ++ [stop])
      if given.has 'r' && items.isEmpty && limit? != some 0 then
        around.outcome 1 [around.complaint "no lines to repeat"]
      else
        match given.value? 'o' with
        | none => { around.outcome 0 [(.output, bytes)] with intake }
        | some name =>
            match around.files.writeAs around.directory ⟨name⟩ bytes
                (Mode.without around.mask FileStore.fileMode) around.now with
            | .ok files => { around.outcome 0 [] with files, intake }
            | .error fault => around.outcome 1 [around.complaint (readReport name fault)]
    match wrongCount?, range? with
    | some text, _ =>
        around.outcome 1 [around.complaint ("invalid line count: " ++ quotedName text)]
    | _, some (text, none) =>
        around.outcome 1 [around.complaint ("invalid input range: " ++ quotedName text)]
    | none, some (_, some (low, high)) =>
        match given.has 'e', given.operands with
        | true, _ => around.misused 1 ["cannot combine -e and -i options"]
        | _, extra :: _ => around.misused 1 ["extra operand " ++ quotedName extra]
        | _, [] =>
            shown ((List.range (high + 1 - low)).map fun i =>
              Utf8.encode (toString (low + i))) none
    | none, none =>
        if given.has 'e' then shown (given.operands.map Utf8.encode) none
        else
          match given.operands with
          | _ :: extra :: _ => around.misused 1 ["extra operand " ++ quotedName extra]
          | operands =>
              let name := operands.headD "-"
              match around.source name with
              | .error .isADirectory =>
                  around.outcome 1 [around.complaint "read error: Is a directory"]
              | .error fault => around.outcome 1 [around.complaint (readReport name fault)]
              | .ok bytes => shown (linesBy stop bytes) (Surroundings.intakeOf [name])

-- What the names of parts end in: letters or digits, so many of them at first, and the number of
-- the first part. Where the number of letters is free, it grows before they are used up.
structure PartNames where
  digits : List Char
  size : Nat
  grows : Bool
  first : Nat

namespace PartNames

def spelled (digits : List Char) : Nat → Nat → List Char
  | 0, _ => []
  | size + 1, number =>
      spelled digits size (number / digits.length) ++
        ((digits[number % digits.length]?).toList)

-- The ending of a part. The fuel bounds how often it may grow.
def grown (digits : List Char) : Nat → Nat → Nat → List Char
  | 0, size, number => spelled digits size number
  | fuel + 1, size, number =>
      let count := (digits.length - 1) * Nat.pow digits.length (size - 1)
      if number < count then spelled digits size number
      else digits.getLast?.toList ++ grown digits fuel (size + 1) (number - count)

def name? (names : PartNames) (index : Nat) : Option String :=
  let number := names.first + index
  if names.grows then some (String.ofList (grown names.digits 10 names.size number))
  else if number < Nat.pow names.digits.length names.size then
    some (String.ofList (spelled names.digits names.size number))
  else none

end PartNames

-- How a source is cut into parts: by lines, by bytes, by bytes but at the end of lines, or into so
-- many parts of bytes, of whole lines, or dealt out line by line.
inductive Cutting where
  | byLines (count : Nat)
  | byBytes (size : Nat)
  | byFittingLines (size : Nat)
  | byParts (count : Nat)
  | byLineParts (count : Nat)
  | byTurns (count : Nat)

namespace Cutting

def withStops (stop : UInt8) (bytes : List UInt8) : List (List UInt8) :=
  let pieces := bytes.splitOn stop
  (pieces.dropLast.map (· ++ [stop])) ++ (pieces.getLast?.toList.filter (· != []))

-- Puts lines together as long as they fit. One that is too long is cut.
def fitted (size : Nat) (lines : List (List UInt8)) : List (List UInt8) :=
  let (done, open_) := lines.foldl
    (fun ((done, open_) : List (List UInt8) × List UInt8) line =>
      if open_.length + line.length ≤ size then (done, open_ ++ line)
      else
        let done := if open_.isEmpty then done else open_ :: done
        let cuts := groupsOf size line
        (cuts.dropLast.reverse ++ done, cuts.getLast?.getD []))
    ([], [])
  (if open_.isEmpty then done else open_ :: done).reverse

-- Where a part of equal ones ends. The first ones get what is left over.
def partEnd (size count index : Nat) : Nat :=
  (index + 1) * (size / count) + min (index + 1) (size % count)

def placed (lines : List (List UInt8)) : List (Nat × List UInt8) :=
  (lines.foldl
    (fun ((place, found) : Nat × List (Nat × List UInt8)) line =>
      (place + line.length, (place, line) :: found))
    (0, [])).2.reverse

def parts (cutting : Cutting) (stop : UInt8) (bytes : List UInt8) : List (List UInt8) :=
  let size := bytes.length
  match cutting with
  | byLines count => (groupsOf count (withStops stop bytes)).map List.flatten
  | byBytes size => groupsOf size bytes
  | byFittingLines size => fitted size (withStops stop bytes)
  | byParts count =>
      (List.range count).map fun i =>
        let start := if i = 0 then 0 else partEnd size count (i - 1)
        (bytes.drop start).take (partEnd size count i - start)
  | byLineParts count =>
      let all := placed (withStops stop bytes)
      (List.range count).map fun i =>
        let start := if i = 0 then 0 else partEnd size count (i - 1)
        let last := partEnd size count i
        ((all.filter fun entry => decide (start ≤ entry.1 ∧ entry.1 < last)).map (·.2)).flatten
  | byTurns count =>
      let all := withStops stop bytes
      (List.range count).map fun i => (dealt all count i).flatten

end Cutting

-- A number of bytes with a unit such as `k`, `KB` or `M`.
def sizeWithUnit? (text : String) : Option Nat :=
  let s := text.toList
  let digits := s.takeWhile Char.isDigit
  let units := ['K', 'M', 'G', 'T', 'P', 'E', 'Z', 'Y']
  let scale? : Option Nat :=
    match s.drop digits.length with
    | [] => some 1
    | ['b'] => some 512
    | letter :: rest =>
        let base? : Option Nat := match rest with
          | [] | ['i', 'B'] => some 1024
          | ['B'] => some 1000
          | _ => none
        match base?, units.idxOf? letter.toUpper with
        | some base, some power => some (Nat.pow base (power + 1))
        | _, _ => none
  if digits.isEmpty then none else scale?.map (decimalValue digits * ·)

-- Reads a number of parts such as `3`, `l/3` or `2/3`, with the one that is shown alone.
def partCount? (text : String) : Option (Cutting × Option Nat) :=
  let number? (s : List Char) : Option Nat :=
    if s.isEmpty || !s.all Char.isDigit || decimalValue s = 0 then none else some (decimalValue s)
  let ofWords (make : Nat → Cutting) (words : List (List Char)) : Option (Cutting × Option Nat) :=
    match words with
    | [count] => (number? count).map fun count => (make count, none)
    | [index, count] =>
        match number? index, number? count with
        | some index, some count => if index ≤ count then some (make count, some index) else none
        | _, _ => none
    | _ => none
  match text.toList.splitOn '/' with
  | ['l'] :: words => ofWords .byLineParts words
  | ['r'] :: words => ofWords .byTurns words
  | words => ofWords .byParts words

-- How a source is to be cut, and which part is shown alone.
def cutting? (given : Given) : Except String (Cutting × Option Nat) :=
  let positive (text : String) : Option Nat := (sizeWithUnit? text).filter (0 < ·)
  match given.options.filter fun entry => ['l', 'b', 'C', 'n'].contains entry.1 with
  | [] => .ok (.byLines 1000, none)
  | [('l', text)] =>
      match positive text with
      | some count => .ok (.byLines count, none)
      | none => .error ("invalid number of lines: " ++ quotedName text)
  | [('b', text)] =>
      match positive text with
      | some size => .ok (.byBytes size, none)
      | none => .error ("invalid number of bytes: " ++ quotedName text)
  | [('C', text)] =>
      match positive text with
      | some size => .ok (.byFittingLines size, none)
      | none => .error ("invalid number of lines: " ++ quotedName text)
  | [('n', text)] =>
      match partCount? text with
      | some found => .ok found
      | none => .error ("invalid number of chunks: " ++ quotedName text)
  | _ => .error "cannot split in more than one way"

def splitFile (around : Surroundings) (arguments : List String) : Outcome :=
  let known := [valued 'l' "lines", valued 'b' "bytes", valued 'C' "line-bytes",
    valued 'n' "number", valued 'a' "suffix-length", plain 'd' "", plain 'x' "",
    valued 'D' "numeric-suffixes", valued 'X' "hex-suffixes", plain 'e' "elide-empty-files",
    valued 'S' "additional-suffix", valued 't' "separator", plain 'u' "unbuffered",
    plain 'V' "verbose"]
  -- A hyphen with digits is an old way to ask for lines.
  let arguments := arguments.flatMap fun word =>
    match word.toList with
    | '-' :: digit :: digits =>
        if (digit :: digits).all Char.isDigit then ["-l", String.ofList (digit :: digits)]
        else if word = "--numeric-suffixes" then ["-d"]
        else if word = "--hex-suffixes" then ["-x"]
        else [word]
    | _ => [word]
  withArguments around known arguments fun given =>
    match cutting? given, given.operands with
    | .error "cannot split in more than one way", _ =>
        around.misused 1 ["cannot split in more than one way"]
    | .error message, _ => around.outcome 1 [around.complaint message]
    | .ok _, _ :: _ :: extra :: _ => around.misused 1 ["extra operand " ++ quotedName extra]
    | .ok (cutting, alone?), operands =>
        let name := operands.headD "-"
        let front := (operands.drop 1).headD "x"
        match around.source name with
        | .error .isADirectory =>
            around.outcome 1 [around.complaint (shownName name ++ ": Is a directory")]
        | .error fault =>
            around.outcome 1
              [around.complaint ("cannot open " ++ quotedName name ++ " for reading: " ++
                fault.reason)]
        | .ok bytes =>
            let intake := Surroundings.intakeOf [name]
            let stop : UInt8 :=
              match given.value? 't' with
              | some "\\0" => 0
              | some text => (Utf8.encode text).headD 10
              | none => 10
            let parts := cutting.parts stop bytes
            let letters := (List.range 26).map fun i => Char.ofNat ('a'.toNat + i)
            let decimals := (List.range 10).map fun i => Char.ofNat ('0'.toNat + i)
            let digits :=
              if given.has 'd' || given.has 'D' then decimals
              else if given.has 'x' || given.has 'X' then decimals ++ letters.take 6
              else letters
            let first := decimalValue (((given.value? 'D').or (given.value? 'X')).getD "0").toList
            let names : PartNames :=
              { digits
                size := max 1 (decimalValue ((given.value? 'a').getD "2").toList)
                grows := !given.has 'a' && !given.has 'n' && first == 0
                first }
            match alone? with
            | some index =>
                { around.outcome 0 [(.output, (parts[index - 1]?).getD [])] with intake }
            | none =>
                let parts := if given.has 'e' then parts.filter (· != []) else parts
                let start : Outcome := { around.outcome 0 [] with intake }
                parts.zipIdx.foldl
                  (fun (outcome : Outcome) (part, i) =>
                    if outcome.code != 0 then outcome
                    else
                      let refuse (message : String) : Outcome :=
                        { outcome with
                          code := 1
                          written := outcome.written ++ [around.complaint message] }
                      match names.name? i with
                      | none => refuse "output file suffixes exhausted"
                      | some ending =>
                          let path := front ++ ending ++ (given.value? 'S').getD ""
                          let told := if given.has 'V' then
                              [said ("creating file " ++ quotedName path ++ "\n")]
                            else []
                          match outcome.files.writeAs around.directory ⟨path⟩ part
                              (Mode.without around.mask FileStore.fileMode) around.now with
                          | .ok files =>
                              { outcome with files, written := outcome.written ++ told }
                          | .error fault => refuse (readReport path fault))
                  start

end MakeCheck.Program
