import MakeCheck.Program.Listing

namespace MakeCheck.Program

open Text

-- Numbers lines, or only those that hold something. Counting goes on from source to source.
def numberLines (onlyFull : Bool) (first : Nat) (lines : List (List UInt8)) (stop : List UInt8) :
    List UInt8 :=
  let (_, shown) := lines.foldl
    (fun ((number, shown) : Nat × List (List UInt8)) line =>
      if onlyFull && line.isEmpty then (number, (line ++ stop) :: shown)
      else
        let label := Utf8.encode (fillLeft 6 (toString number) ++ "\t")
        (number + 1, (label ++ line ++ stop) :: shown))
    (first, [])
  shown.reverse.flatten

-- A byte that cannot be printed, spelled with a caret, and with M and a hyphen before it where its
-- first bit is set.
def caretForm (byte : UInt8) : List UInt8 :=
  let low := byte % 128
  let spelled := if low < 32 then [94, low + 64] else if low = 127 then [94, 63] else [low]
  if byte < 128 then spelled else 77 :: 45 :: spelled

def dropBlanks (lines : List (List UInt8)) : List (List UInt8) :=
  (lines.splitBy fun a b => a.isEmpty && b.isEmpty).flatMap fun group =>
    if group.head?.any List.isEmpty then [[]] else group

def cat (around : Surroundings) (arguments : List String) : Outcome :=
  let known := [plain 'b' "number-nonblank", plain 'n' "number", plain 'u' "",
    plain 'E' "show-ends", plain 's' "squeeze-blank", plain 'T' "show-tabs",
    plain 'A' "show-all", plain 'e' "", plain 't' "", plain 'v' "show-nonprinting"]
  withArguments around known arguments fun given =>
    let names := if given.operands.isEmpty then ["-"] else given.operands
    let isPlain := given.options.all fun entry => entry.1 == 'u'
    if isPlain && names.all (· == "-") && around.input.toOption.isSome then
      { around.outcome 0 [] with intake := some .all, relays := true }
    else
      let found := names.map fun name => (name, around.source name)
      let isFine := found.all fun entry => entry.2.toOption.isSome
      let showsEnds := given.has 'E' || given.has 'A' || given.has 'e'
      let showsTabs := given.has 'T' || given.has 'A' || given.has 't'
      let showsAll := given.has 'A' || given.has 'v' || given.has 'e' || given.has 't'
      let spell (byte : UInt8) : List UInt8 :=
        if byte = 10 then if showsEnds then [36, 10] else [10]
        else if byte = 9 then if showsTabs then [94, 73] else [9]
        else if showsAll then caretForm byte
        else [byte]
      let written :=
        if isPlain then
          found.map fun (name, result) =>
            match result with
            | .ok bytes => (Channel.output, bytes)
            | .error fault => around.complaint (readReport name fault)
        else
          let bytes := found.flatMap fun entry => entry.2.toOption.getD []
          let faults := found.filterMap fun (name, result) =>
            match result with
            | .ok _ => none
            | .error fault => some (around.complaint (readReport name fault))
          let all := lines bytes
          let kept := if given.has 's' then dropBlanks all else all
          let spelled := kept.map fun line => (line.flatMap spell).filter (· != 10)
          let stop : List UInt8 := if showsEnds then [36, 10] else [10]
          let isOpen := bytes.getLast?.any (· != 10)
          let shown := if given.has 'n' || given.has 'b' then
              numberLines (given.has 'b') 1 spelled stop
            else spelled.flatMap (· ++ stop)
          faults ++ [(.output, if isOpen then shown.take (shown.length - stop.length) else shown)]
      let code := if isFine then 0 else 1
      { around.outcome code written with intake := Surroundings.intakeOf names }

-- How many bytes so many lines take. The third argument counts those before.
def sizeOfLines : Nat → List UInt8 → Nat → Nat
  | 0, _, size => size
  | _, [], size => size
  | count + 1, byte :: rest, size =>
      sizeOfLines (if byte = 10 then count else count + 1) rest (size + 1)

def firstLines (count : Nat) (bytes : List UInt8) : List UInt8 :=
  bytes.take (sizeOfLines count bytes 0)

-- A part at one end of a source: so many lines or bytes, or all but so many.
structure Portion where
  byBytes : Bool
  -- Whether the sign before the number turns its meaning around.
  isTurned : Bool
  count : Nat

def portion? (turningSign : Char) (byBytes : Bool) (number : String) : Option Portion :=
  let s := number.toList
  let isTurned := s.head? == some turningSign
  let digits := if s.head? = some '+' ∨ s.head? = some '-' then s.tail else s
  if digits.isEmpty || !digits.all Char.isDigit then none
  else some ⟨byBytes, isTurned, decimalValue digits⟩

def oldCount (arguments : List String) : List String :=
  match arguments with
  | word :: rest =>
      match word.toList with
      | '-' :: digit :: digits =>
          if (digit :: digits).all Char.isDigit then
            "-n" :: String.ofList (digit :: digits) :: rest
          else arguments
      | _ => arguments
  | [] => []

-- What is shown of sources one after the other, with their names where there are several. How much
-- of the input this takes depends on what is picked of it.
def showPortions (around : Surroundings) (turningSign : Char) (arguments : List String)
    (pick : Portion → List UInt8 → List UInt8 × Intake) : Outcome :=
  let known := [valued 'n' "lines", valued 'c' "bytes", plain 'q' "quiet", plain 'v' "verbose",
    plain 'z' "zero-terminated", plain 'q' "silent"] ++
    (if turningSign = '+' then [plain 'f' "follow", plain 'F' ""] else [])
  withArguments around known (oldCount arguments) fun given =>
    let (byBytes, number) :=
      match given.options.reverse.find? fun entry => entry.1 == 'n' || entry.1 == 'c' with
      | some (letter, value) => (letter == 'c', value)
      | none => (false, "10")
    match portion? turningSign byBytes number with
    | none =>
        around.outcome 1
          [around.complaint ("invalid number of " ++ (if byBytes then "bytes: " else "lines: ") ++
            quotedName number)]
    | some portion =>
        let names := if given.operands.isEmpty then ["-"] else given.operands
        let isTitled := (1 < names.length || given.has 'v') && !given.has 'q'
        let isShown (name : String) : Bool := (around.source name).toOption.isSome
        let written := names.zipIdx.flatMap fun (name, i) =>
          let label := if name = "-" then "standard input" else name
          -- A gap stands before every title but the first one that is shown.
          let isFirst := !((names.take i).any isShown)
          let title := if isTitled then
              [said ((if isFirst then "" else "\n") ++ "==> " ++ label ++ " <==\n")]
            else []
          match around.source name with
          | .ok bytes => title ++ [(Channel.output, (pick portion bytes).1)]
          | .error .isADirectory =>
              title ++
                [around.complaint ("error reading " ++ quotedName label ++ ": Is a directory")]
          | .error fault =>
              [around.complaint
                ("cannot open " ++ quotedName label ++ " for reading: " ++ fault.reason)]
        let fine := names.all isShown
        let intake :=
          if names.contains "-" then around.input.toOption.map fun bytes => (pick portion bytes).2
          else none
        { around.outcome (if fine then 0 else 1) written with intake }

def head (around : Surroundings) (arguments : List String) : Outcome :=
  showPortions around '-' arguments fun portion bytes =>
    let size := if portion.byBytes then bytes.length else bytes.count 10
    let all := if portion.byBytes then size else (lines bytes).length
    let count := if portion.isTurned then all - portion.count else portion.count
    let shown := if portion.byBytes then bytes.take count else firstLines count bytes
    let isEnough := !portion.isTurned && decide (count ≤ size)
    (shown, if isEnough then .until shown.length else .all)

def tail (around : Surroundings) (arguments : List String) : Outcome :=
  showPortions around '+' arguments fun portion bytes =>
    let size := if portion.byBytes then bytes.length else (lines bytes).length
    let passed := if portion.isTurned then portion.count - 1 else size - portion.count
    let shown := if portion.byBytes then bytes.drop passed
      else bytes.drop (firstLines passed bytes).length
    (shown, .all)

def isSpaceByte (byte : UInt8) : Bool :=
  byte == 32 || (9 ≤ byte && byte ≤ 13)

def isPrinting (byte : UInt8) : Bool :=
  32 ≤ byte && byte ≤ 126

-- A word is what stands between blanks, if there is something in it that can be printed.
def wordCount (bytes : List UInt8) : Nat :=
  let pieces := bytes.splitBy fun a b => isSpaceByte a == isSpaceByte b
  (pieces.filter fun piece => piece.any fun byte => isPrinting byte && !isSpaceByte byte).length

-- How wide a line is on a screen, where tabs go on to the next of the columns that are eight apart.
def screenWidth (line : List UInt8) : Nat :=
  (line.foldl
    (fun ((width, widest) : Nat × Nat) byte =>
      let width :=
        if byte = 9 then (width / 8 + 1) * 8
        else if byte = 13 ∨ byte = 12 then 0
        else if isPrinting byte then width + 1 else width
      (width, max widest width))
    (0, 0)).2

-- The counts that are asked for: lines, words, characters or bytes, and the longest line.
def countsOf (asked : List Char) (bytes : List UInt8) : List Nat :=
  asked.map fun letter =>
    if letter = 'l' then bytes.count 10
    else if letter = 'w' then wordCount bytes
    else if letter = 'L' then ((lines bytes).map screenWidth).foldl max 0
    else bytes.length

-- How wide the columns are: as the sum of all sizes, and wider where a source is no file. A single
-- number needs no column.
def countWidth (around : Surroundings) (columns : Nat) (names : List String) : Nat :=
  let node (name : String) : Option Node :=
    (around.files.find around.directory ⟨name⟩).toOption.map (·.2)
  let isThere (name : String) : Bool := name == "-" || (node name).isSome
  let isRegular (name : String) : Bool :=
    if name = "-" then around.inputIsFile else (node name).any (·.content.isFile)
  if names.length ≤ 1 ∧ columns = 1 then 1
  else if !names.head?.any isThere then 1
  else
    let found := names.filter isThere
    let sizes := (found.filter isRegular).map fun name =>
      ((around.source name).toOption.map List.length).getD 0
    max (toString (sizes.foldl (· + ·) 0)).length (if found.all isRegular then 1 else 7)

def count (around : Surroundings) (arguments : List String) : Outcome :=
  let known := [plain 'l' "lines", plain 'w' "words", plain 'm' "chars", plain 'c' "bytes",
    plain 'L' "max-line-length"]
  withArguments around known arguments fun given =>
    let asked := ['l', 'w', 'm', 'c', 'L'].filter given.has
    let asked := if asked.isEmpty then ['l', 'w', 'c'] else asked
    let names := if given.operands.isEmpty then ["-"] else given.operands
    let width := countWidth around asked.length names
    let row (counts : List Nat) (label : String) : List UInt8 :=
      let columns := counts.map fun n => fillLeft width (toString n)
      Utf8.encode (" ".intercalate columns ++ (if label = "" then "" else " " ++ label) ++ "\n")
    let found := names.map fun name => (name, around.source name)
    let label (name : String) : String := if given.operands.isEmpty then "" else name
    let written := found.flatMap fun (name, result) =>
      match result with
      | .ok bytes => [(Channel.output, row (countsOf asked bytes) (label name))]
      | .error fault =>
          around.complaint (readReport name fault) ::
            if fault = .isADirectory then
              [(Channel.output, row (asked.map fun _ => 0) (label name))]
            else []
    let sums := found.foldl
      (fun sums entry => (sums.zip (countsOf asked (entry.2.toOption.getD []))).map fun pair =>
        pair.1 + pair.2)
      (asked.map fun _ => 0)
    let total := if 1 < names.length then [(Channel.output, row sums "total")] else []
    let fine := found.all fun entry => entry.2.toOption.isSome
    { around.outcome (if fine then 0 else 1) (written ++ total) with
      intake := Surroundings.intakeOf names }

def tee (around : Surroundings) (arguments : List String) : Outcome :=
  let known := [plain 'a' "append", plain 'i' "ignore-interrupts", plain 'p' ""]
  withArguments around known arguments fun given =>
    match around.input with
    | .error fault => around.outcome 1 [around.complaint ("read error: " ++ fault.reason)]
    | .ok input =>
        let start : Outcome :=
          { around.outcome 0 [] with intake := some .all, relays := true }
        given.operands.foldl
          (fun (outcome : Outcome) name =>
            let also (channel : Channel) : Outcome :=
              { outcome with written := outcome.written ++ [(channel, input)] }
            match name with
            | "-" | "/dev/stdout" => also .output
            | "/dev/stderr" => also .errors
            | _ =>
                let old := if given.has 'a' then
                    (outcome.files.sample around.directory ⟨name⟩).toOption.getD []
                  else []
                match outcome.files.writeAs around.directory ⟨name⟩ (old ++ input)
                    (Mode.without around.mask FileStore.fileMode) around.now with
                | .ok files => { outcome with files }
                | .error fault =>
                    { outcome with
                      code := 1
                      written := around.complaint (readReport name fault) :: outcome.written })
          start

end MakeCheck.Program
