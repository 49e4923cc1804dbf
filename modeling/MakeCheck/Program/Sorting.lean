import MakeCheck.Program.Listing

namespace MakeCheck.Program

open Text

def bytesBefore : List UInt8 → List UInt8 → Bool
  | [], _ => true
  | _ :: _, [] => false
  | a :: rest, b :: others => a < b || (a == b && bytesBefore rest others)

def orderOfBytes (a b : List UInt8) : Ordering :=
  if a = b then .eq else if bytesBefore a b then .lt else .gt

def isBlankByte (byte : UInt8) : Bool :=
  byte == 32 || byte == 9

def digitsOf (s : List Char) : List Char :=
  s.takeWhile Char.isDigit

-- The number at the front of a text: without its point, and with as many places as asked for. What
-- follows it comes with it.
def leadingNumber (places : Nat) (s : List Char) : Int × List Char :=
  let s := s.dropWhile fun c => c == ' ' || c == '\t'
  let (negative, s) :=
    match s with
    | '-' :: rest => (true, rest)
    | rest => (false, rest)
  let whole := digitsOf s
  let after := s.drop whole.length
  let (fraction, after) :=
    match after with
    | '.' :: rest => (digitsOf rest, rest.dropWhile Char.isDigit)
    | rest => ([], rest)
  let filled := (fraction ++ List.replicate places '0').take places
  let value : Int := decimalValue (whole ++ filled)
  (if negative then -value else value, after)

def generalNumber? (s : List Char) : Option Int :=
  let s := s.dropWhile fun c => c == ' ' || c == '\t'
  let bare := if s.head? = some '+' then s.tail else s
  let digits := if bare.head? = some '-' then bare.tail else bare
  let starts := digits.head?.any Char.isDigit ||
    (digits.head? == some '.' && digits.tail.head?.any Char.isDigit)
  if !starts then none
  else
    let (value, after) := leadingNumber 40 bare
    let (power, _) := exponent after
    let power := max (-60) (min 60 power)
    some (value * Int.pow 10 (power + 60).toNat)

-- The place of a unit such as `K` among all of them, and the number before it.
def sizedNumber (s : List Char) : Int × Int :=
  let (value, after) := leadingNumber 20 s
  let unit : Nat := match after.head? with
    | some c => ((['K', 'M', 'G', 'T', 'P', 'E', 'Z', 'Y'].idxOf? (if c = 'k' then 'K' else c)).map
        (· + 1)).getD 0
    | none => 0
  (if value < 0 then -(unit : Int) else if value = 0 then 0 else (unit : Int), value)

def monthNumber (s : List Char) : Nat :=
  let s := s.dropWhile fun c => c == ' ' || c == '\t'
  let name := String.ofList ((s.take 3).map Char.toUpper)
  let names := Moment.monthNames.map fun month => (month.take 3).toString.toUpper
  ((names.idxOf? name).map (· + 1)).getD 0

def versionOrder : Nat → List Char → List Char → Ordering
  | 0, _, _ => .eq
  | _, [], [] => .eq
  | _, [], _ => .lt
  | _, _, [] => .gt
  | fuel + 1, a :: s, b :: t =>
      if a.isDigit && b.isDigit then
        let x := digitsOf (a :: s)
        let y := digitsOf (b :: t)
        match compare (decimalValue x) (decimalValue y) with
        | .eq => versionOrder fuel ((a :: s).drop x.length) ((b :: t).drop y.length)
        | found => found
      else if a = b then versionOrder fuel s t
      else
        let rank (c : Char) : Nat :=
          if c = '~' then 0 else if c.isDigit then 1 else if c.isAlpha then c.toNat
          else c.toNat + 256
        compare (rank a) (rank b)

-- What lines are compared by: a stretch from a field and a character in it to another one, both
-- counted from one, and letters that tell how.
structure SortKey where
  first : Nat
  firstChar : Nat
  last : Option (Nat × Nat)
  letters : List Char

-- Where a field begins: behind so many marks or, without a mark, behind so many words with the
-- blanks before them.
def fieldStart (mark : Option UInt8) : Nat → List UInt8 → List UInt8
  | 0, line => line
  | count + 1, line =>
      match mark with
      | some mark => fieldStart (some mark) count ((line.dropWhile (· != mark)).drop 1)
      | none =>
          fieldStart none count
            ((line.dropWhile isBlankByte).dropWhile fun byte => !isBlankByte byte)

def restBehind (mark : Option UInt8) (skips : Bool) (field char : Nat) (line : List UInt8) :
    List UInt8 :=
  let start := fieldStart mark (field - 1) line
  if char = 0 then
    match mark with
    | some mark => start.dropWhile (· != mark)
    | none => (start.dropWhile isBlankByte).dropWhile fun byte => !isBlankByte byte
  else
    let start := if skips then start.dropWhile isBlankByte else start
    start.drop char

namespace SortKey

def part (key : SortKey) (mark : Option UInt8) (line : List UInt8) : List UInt8 :=
  let skips := key.letters.contains 'b'
  let start := fieldStart mark (key.first - 1) line
  let start := if skips then start.dropWhile isBlankByte else start
  let start := start.drop (key.firstChar - 1)
  match key.last with
  | none => start
  | some (field, char) =>
      let rest := restBehind mark skips field char line
      start.take (start.length - rest.length)

def order (key : SortKey) (a b : List UInt8) : Ordering :=
  let has (letter : Char) : Bool := key.letters.contains letter
  let text (bytes : List UInt8) : List Char := (Utf8.decodeLossy bytes).toList
  let fold (bytes : List UInt8) : List UInt8 :=
    let kept := if has 'd' then
        bytes.filter fun byte => isBlankByte byte || (Char.ofNat byte.toNat).isAlphanum
      else if has 'i' then bytes.filter fun byte => 32 ≤ byte && byte ≤ 126
      else bytes
    if has 'f' then kept.map fun byte => if 97 ≤ byte ∧ byte ≤ 122 then byte - 32 else byte
    else kept
  let found :=
    if has 'n' then compare (leadingNumber 20 (text a)).1 (leadingNumber 20 (text b)).1
    else if has 'g' then
      match generalNumber? (text a), generalNumber? (text b) with
      | some x, some y => compare x y
      | none, some _ => .lt
      | some _, none => .gt
      | none, none => .eq
    else if has 'h' then
      (compare (sizedNumber (text a)).1 (sizedNumber (text b)).1).then
        (compare (sizedNumber (text a)).2 (sizedNumber (text b)).2)
    else if has 'M' then compare (monthNumber (text a)) (monthNumber (text b))
    else if has 'V' then versionOrder (a.length + b.length + 1) (text a) (text b)
    else orderOfBytes (fold a) (fold b)
  if has 'r' then found.swap else found

end SortKey

def orderingLetters : List Char :=
  ['n', 'r', 'f', 'b', 'd', 'i', 'g', 'h', 'M', 'V', 'R']

-- Reads a key such as `2.3,4nr`. One that tells no order of its own has that of all.
def sortKey? (common : List Char) (text : String) : Except String SortKey :=
  let (front, back) :=
    match text.toList.splitOn ',' with
    | [front, back] => (front, some back)
    | front :: _ => (front, none)
    | [] => ([], none)
  let place (s : List Char) : Nat × Option Nat × List Char :=
    let field := digitsOf s
    match s.drop field.length with
    | '.' :: rest =>
        (digitsValue field, some (digitsValue (digitsOf rest)), rest.dropWhile Char.isDigit)
    | rest => (digitsValue field, none, rest)
  let (first, firstChar, letters) := place front
  let (last, lastLetters) :=
    match back with
    | some s =>
        let (field, char, letters) := place s
        (some (field, char.getD 0), letters)
    | none => (none, [])
  let own := letters ++ lastLetters
  if (digitsOf front).isEmpty then
    .error ("invalid number at field start: invalid count at start of " ++ quotedName text)
  else if first = 0 then
    .error ("field number is zero: invalid field specification " ++ quotedName text)
  else if !own.all orderingLetters.contains then
    .error ("stray character in field spec: invalid field specification " ++ quotedName text)
  else .ok ⟨first, firstChar.getD 1, last, if own.isEmpty then common else own⟩

-- The order of lines by keys. Lines that are equal by all of them are compared whole.
def lineOrder (keys : List SortKey) (mark : Option UInt8) (isTurned isLoose : Bool)
    (a b : List UInt8) : Ordering :=
  let byKeys := keys.foldl
    (fun found key =>
      match found with
      | .eq => key.order (key.part mark a) (key.part mark b)
      | found => found)
    Ordering.eq
  match byKeys with
  | .eq =>
      if isLoose then .eq
      else if isTurned then (orderOfBytes a b).swap else orderOfBytes a b
  | found => found

def dropRepeats (same : List UInt8 → List UInt8 → Bool) (lines : List (List UInt8)) :
    List (List UInt8) :=
  (lines.foldl
    (fun kept line => if kept.head?.any fun last => same last line then kept else line :: kept)
    []).reverse

-- The first line that comes before the one above it, with its number.
def firstDisorder? (order : List UInt8 → List UInt8 → Ordering) (strict : Bool)
    (lines : List (List UInt8)) : Option (Nat × List UInt8) :=
  ((lines.zip lines.tail).zipIdx 2).findSome? fun ((a, b), number) =>
    let found := order a b
    if found == .gt || (strict && found == .eq) then some (number, b) else none

def sort (around : Surroundings) (arguments : List String) : Outcome :=
  let known := [plain 'n' "numeric-sort", plain 'r' "reverse", plain 'u' "unique",
    plain 'f' "ignore-case", plain 'b' "ignore-leading-blanks", plain 's' "stable",
    plain 'd' "dictionary-order", plain 'i' "ignore-nonprinting", plain 'g' "general-numeric-sort",
    plain 'h' "human-numeric-sort", plain 'M' "month-sort", plain 'V' "version-sort",
    plain 'R' "random-sort", plain 'c' "check", plain 'C' "", plain 'm' "merge",
    plain 'z' "zero-terminated", valued 'k' "key", valued 't' "field-separator",
    valued 'o' "output", valued 'S' "buffer-size", valued 'T' "temporary-directory"]
  let lossReport (fault : Fault) : String :=
    around.name ++ ": fflush failed: 'standard output': " ++ fault.reason ++ "\n" ++ around.name ++
      ": write error\n"
  match readArguments known arguments with
  | .error message => around.misused 2 [message]
  | .ok given =>
      let names := if given.operands.isEmpty then ["-"] else given.operands
      let found := names.map fun name => (name, around.source name)
      let common := orderingLetters.filter given.has
      let keys := (given.values 'k').mapM (sortKey? common)
      match found.find? fun entry => entry.2.toOption.isNone, keys with
      | _, .error message => around.outcome 2 [around.complaint message]
      | some (name, .error .isADirectory), _ =>
          around.outcome 2
            [around.complaint ("read failed: " ++ readReport name .isADirectory)]
      | some (name, .error fault), _ =>
          around.outcome 2 [around.complaint ("cannot read: " ++ readReport name fault)]
      | _, .ok keys =>
          let stop : UInt8 := if given.has 'z' then 0 else 10
          let split (bytes : List UInt8) : List (List UInt8) :=
            let pieces := bytes.splitOn stop
            if pieces.getLast? = some [] then pieces.dropLast else pieces
          let all := found.flatMap fun entry => split (entry.2.toOption.getD [])
          let mark := (given.value? 't').bind fun text =>
            if text = "\\0" then some 0 else (Utf8.encode text).head?
          let whole : SortKey := ⟨1, 1, none, common⟩
          let keys := if keys.isEmpty && common.any (· != 'r') then [whole] else keys
          let isLoose := given.has 'u' || given.has 's'
          let order :=
            if keys.isEmpty then
              if given.has 'r' then fun a b => (orderOfBytes a b).swap else orderOfBytes
            else lineOrder keys mark (given.has 'r') isLoose
          let intake := Surroundings.intakeOf names
          if given.has 'c' || given.has 'C' then
            match firstDisorder? order (given.has 'u') all with
            | none => { around.outcome 0 [] with intake }
            | some (number, line) =>
                let place := names.headD "-" ++ ":" ++ toString number ++ ": disorder: "
                let shown := Utf8.encode (around.name ++ ": " ++ place) ++ line ++ [10]
                { around.outcome 1 (if given.has 'C' then [] else [(.errors, shown)]) with intake }
          else
            let sorted := all.mergeSort fun a b => order a b != .gt
            let sorted := if given.has 'u' then dropRepeats (fun a b => order a b == .eq) sorted
              else sorted
            let bytes := sorted.flatMap (· ++ [stop])
            match given.value? 'o' with
            | none =>
                { around.outcome 0 [(.output, bytes)] with intake, lossReport, lossCode := 2 }
            | some name =>
                match around.files.writeAs around.directory ⟨name⟩ bytes
                    (Mode.without around.mask FileStore.fileMode) around.now with
                | .ok files => { around.outcome 0 [] with files, intake }
                | .error fault =>
                    around.outcome 2 [around.complaint ("open failed: " ++ readReport name fault)]

-- Lines that follow themselves are shown once, perhaps with their number.
def unique (around : Surroundings) (arguments : List String) : Outcome :=
  let known := [plain 'c' "count", plain 'd' "repeated", plain 'u' "unique",
    plain 'i' "ignore-case", plain 'D' "", valued 'f' "skip-fields", valued 's' "skip-chars",
    valued 'w' "check-chars", plain 'z' "zero-terminated"]
  let fold (line : List UInt8) : List UInt8 :=
    line.map fun byte => if 65 ≤ byte ∧ byte ≤ 90 then byte + 32 else byte
  withArguments around known arguments fun given =>
    let number (letter : Char) : Nat := digitsValue ((given.value? letter).getD "0").toList
    let key (line : List UInt8) : List UInt8 :=
      let behind := (fieldStart none (number 'f') line).drop (number 's')
      let kept := match given.value? 'w' with
        | some count => behind.take (digitsValue count.toList)
        | none => behind
      if given.has 'i' then fold kept else kept
    let stop : UInt8 := if given.has 'z' then 0 else 10
    let shown (bytes : List UInt8) : List UInt8 :=
      let pieces := bytes.splitOn stop
      let all := if pieces.getLast? = some [] then pieces.dropLast else pieces
      let groups := all.splitBy fun a b => key a == key b
      let isRepeated (group : List (List UInt8)) : Bool := 1 < group.length
      let groups := if given.has 'd' || given.has 'D' then groups.filter isRepeated else groups
      let groups := if given.has 'u' then groups.filter fun g => !isRepeated g else groups
      groups.flatMap fun group =>
        let label :=
          if given.has 'c' then Utf8.encode (fillLeft 7 (toString group.length) ++ " ") else []
        if given.has 'D' then group.flatMap (· ++ [stop])
        else label ++ group.headD [] ++ [stop]
    match given.operands with
    | _ :: _ :: extra :: _ => around.misused 1 ["extra operand " ++ quotedName extra]
    | operands =>
        let name := operands.head?.getD "-"
        match around.source name, operands.tail.head? with
        | .error .isADirectory, _ =>
            around.outcome 1
              [around.complaint ("error reading " ++ quotedName name ++ ": Is a directory")]
        | .error fault, _ => around.outcome 1 [around.complaint (readReport name fault)]
        | .ok bytes, none =>
            { around.outcome 0 [(.output, shown bytes)] with
              intake := Surroundings.intakeOf [name] }
        | .ok bytes, some target =>
            match around.files.writeAs around.directory ⟨target⟩ (shown bytes)
                (Mode.without around.mask FileStore.fileMode) around.now with
            | .ok files =>
                { around.outcome 0 [] with files, intake := Surroundings.intakeOf [name] }
            | .error fault => around.outcome 1 [around.complaint (readReport target fault)]

end MakeCheck.Program
