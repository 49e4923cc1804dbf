import MakeCheck.Program.Rearranging

namespace MakeCheck.Program

open Text

-- How bytes are shown: as names, as characters, or as numbers of so many bytes.
inductive DumpForm where
  | names
  | chars
  | signed
  | unsigned (base : Nat)
deriving DecidableEq

structure DumpType where
  form : DumpForm
  size : Nat
  -- Whether the characters are shown behind the row.
  showsText : Bool

namespace DumpType

def digits (kind : DumpType) : Nat :=
  match kind.form with
  | .names | .chars => 3
  | .signed => (toString (Nat.pow 2 (8 * kind.size - 1) : Nat)).length + 1
  | .unsigned base => (Nat.toDigits base (Nat.pow 2 (8 * kind.size) - 1)).length

def controlNames : List String :=
  ["nul", "soh", "stx", "etx", "eot", "enq", "ack", "bel", "bs", "ht", "nl", "vt", "ff", "cr",
    "so", "si", "dle", "dc1", "dc2", "dc3", "dc4", "nak", "syn", "etb", "can", "em", "sub", "esc",
    "fs", "gs", "rs", "us", "sp"]

def number (bytes : List UInt8) : Nat :=
  bytes.foldr (fun byte value => byte.toNat + 256 * value) 0

def padded (width : Nat) (fill : Char) (text : String) : String :=
  String.ofList (List.replicate (width - text.length) fill) ++ text

def item (kind : DumpType) (bytes : List UInt8) : String :=
  let byte := bytes.headD 0
  let octal := padded 3 '0' (String.ofList (Nat.toDigits 8 byte.toNat))
  match kind.form with
  | .names =>
      let low := byte.toNat % 128
      if low = 127 then "del" else (controlNames[low]?).getD (Char.ofNat low).toString
  | .chars =>
      if byte = 0 then "\\0"
      else
        match controlLetter? byte with
        | some letter => String.ofList ['\\', letter]
        | none => if 32 ≤ byte ∧ byte ≤ 126 then (Char.ofNat byte.toNat).toString else octal
  | .signed =>
      let value := number bytes
      let half := Nat.pow 2 (8 * kind.size - 1)
      toString (if value < half then (value : Int) else (value : Int) - 2 * half)
  | .unsigned base =>
      let text := String.ofList (Nat.toDigits base (number bytes))
      if base = 10 then text else padded kind.digits '0' text

-- One row of items. The blanks that are left of its width are spread over all of them. What is
-- missing counts as nought.
def row (kind : DumpType) (count width : Nat) (bytes : List UInt8) : String :=
  let gap := width - count * kind.digits
  let before (i : Nat) : Nat := gap * (count - i) / count
  let groups := groupsOf kind.size bytes
  let items := groups.zipIdx.map fun (group, i) =>
    padded (before i - before (i + 1) + kind.digits) ' '
      (kind.item (group ++ List.replicate (kind.size - group.length) 0))
  let missing := count - groups.length
  let text := if kind.showsText then
      let blank := List.replicate (missing * kind.digits + gap * missing / count) ' '
      let shown := bytes.map fun byte =>
        if 32 ≤ byte ∧ byte ≤ 126 then Char.ofNat byte.toNat else '.'
      String.ofList blank ++ "  >" ++ String.ofList shown ++ "<"
    else ""
  String.join items ++ text

end DumpType

-- Reads types such as `x1`, `c` or `o2z`. The fuel is the length.
def dumpTypes? : Nat → List Char → Option (List DumpType)
  | 0, _ => some []
  | _, [] => some []
  | fuel + 1, letter :: rest =>
      let digits := rest.takeWhile Char.isDigit
      let after := rest.drop digits.length
      let (named, after) :=
        match after with
        | 'C' :: after => (some 1, after)
        | 'S' :: after => (some 2, after)
        | 'I' :: after => (some 4, after)
        | 'L' :: after => (some 8, after)
        | after => (none, after)
      let showsText := after.head? == some 'z'
      let after := if showsText then after.tail else after
      let size := if digits.isEmpty then named.getD 4 else decimalValue digits
      let numeric (form : DumpForm) : Option DumpType :=
        if [1, 2, 4, 8].contains size then some ⟨form, size, showsText⟩ else none
      let kind? : Option DumpType :=
        match letter with
        | 'a' => some ⟨.names, 1, showsText⟩
        | 'c' => some ⟨.chars, 1, showsText⟩
        | 'd' => numeric .signed
        | 'o' => numeric (.unsigned 8)
        | 'u' => numeric (.unsigned 10)
        | 'x' => numeric (.unsigned 16)
        | _ => none
      match kind?, dumpTypes? fuel after with
      | some kind, some others => some (kind :: others)
      | _, _ => none

-- Shows bytes in rows. Rows that are like the one before are left out, but for a star.
def dumpRows (kinds : List DumpType) (width : Nat) (showsAll : Bool) (address : Nat → String)
    (start : Nat) (bytes : List UInt8) : List String :=
  let widths := kinds.map fun kind => (kind.digits + 1) * (width / kind.size)
  let widest := widths.foldl max 0
  let rows := (groupsOf width bytes).zipIdx
  let lines := rows.foldl
    (fun ((last, isStarred, shown) : Option (List UInt8) × Bool × List String) (row, i) =>
      if !showsAll && last == some row && row.length = width && i + 1 < rows.length then
        (last, true, if isStarred then shown else "*" :: shown)
      else
        let place := address (start + i * width)
        let text := kinds.zipIdx.map fun (kind, j) =>
          (if j = 0 then place else String.ofList (List.replicate place.length ' ')) ++
            kind.row (width / kind.size) widest row
        (some row, false, text.reverse ++ shown))
    (none, false, [])
  lines.2.2.reverse

def dump (around : Surroundings) (arguments : List String) : Outcome :=
  let known := [valued 'A' "address-radix", valued 'j' "skip-bytes", valued 'N' "read-bytes",
    valued 't' "format", plain 'v' "output-duplicates", valued 'w' "width", plain 'a' "",
    plain 'b' "", plain 'c' "", plain 'd' "", plain 'o' "", plain 's' "", plain 'x' "",
    plain 'i' "", plain 'l' ""]
  withArguments around known arguments fun given =>
    let asked := given.options.filterMap fun (letter, value) =>
      match letter with
      | 't' => some value
      | 'a' => some "a"
      | 'b' => some "o1"
      | 'c' => some "c"
      | 'd' => some "u2"
      | 'o' => some "o2"
      | 's' => some "d2"
      | 'x' => some "x2"
      | 'i' => some "d4"
      | 'l' => some "d8"
      | _ => none
    let asked := if asked.isEmpty then ["o2"] else asked
    let refuse (message : String) : Outcome := around.outcome 1 [around.complaint message]
    let number (letter : Char) : Option (Option Nat) :=
      (given.value? letter).map sizeWithUnit?
    let radix := (given.value? 'A').getD "o"
    match asked.find? fun text => (dumpTypes? text.length text.toList).isNone,
        ['j', 'N', 'w'].find? fun letter => number letter == some none with
    | some text, _ =>
        let size := (text.toList.drop 1).takeWhile Char.isDigit
        if size.isEmpty then
          refuse ("invalid character '" ++ (text.take 1).toString ++ "' in type string " ++
            quotedName text)
        else
          refuse ("invalid type string " ++ quotedName text ++
            ";\nthis system doesn't provide a " ++ String.ofList size ++ "-byte integral type")
    | _, some letter =>
        refuse ("invalid -" ++ letter.toString ++ " argument " ++
          quotedName ((given.value? letter).getD ""))
    | none, none =>
        if !(["d", "o", "x", "n"].contains radix) then
          refuse ("invalid output address radix '" ++ radix ++
            "'; it must be one character from [doxn]")
        else
          let kinds := (asked.filterMap fun text => dumpTypes? text.length text.toList).flatten
          let address (place : Nat) : String :=
            match radix with
            | "d" => DumpType.padded 7 '0' (toString place)
            | "x" => DumpType.padded 6 '0' (String.ofList (Nat.toDigits 16 place))
            | "n" => ""
            | _ => DumpType.padded 7 '0' (String.ofList (Nat.toDigits 8 place))
          let names := if given.operands.isEmpty then ["-"] else given.operands
          let found := names.map fun name => (name, around.source name)
          let complaints := found.filterMap fun (name, result) =>
            match result with
            | .error fault => some (around.complaint (readReport name fault))
            | .ok _ => none
          let all := found.flatMap fun entry => entry.2.toOption.getD []
          let skip := ((number 'j').join).getD 0
          let bytes := all.drop skip
          let bytes := ((number 'N').join.map fun limit => bytes.take limit).getD bytes
          let width := max 1 (((number 'w').join).getD 16)
          let rows := dumpRows kinds width (given.has 'v') address skip bytes
          let last := address (skip + bytes.length)
          let isLost := found.all fun entry => entry.2 matches .error .notFound
          let shown := if isLost then []
            else rows.map (· ++ "\n") ++ (if radix = "n" then [] else [last ++ "\n"])
          { around.outcome (if complaints.isEmpty then 0 else 1)
              (complaints ++ [said (String.join shown)]) with
            intake := Surroundings.intakeOf names }

end MakeCheck.Program
