import MakeCheck.Program.FileWork

namespace MakeCheck.Program

open Text

-- How `dd` copies: from where to where, in which blocks, how many of them, and what it changes.
structure BlockCopy where
  source : Option String
  target : Option String
  inputSize : Nat
  outputSize : Nat
  -- Blocks of one size are not put together anew.
  keepsBlocks : Bool
  count : Option Nat
  skip : Nat
  seek : Nat
  conversions : List String
  inputFlags : List String
  outputFlags : List String
  status : String

namespace BlockCopy

def start : BlockCopy :=
  { source := none
    target := none
    inputSize := 512
    outputSize := 512
    keepsBlocks := false
    count := none
    skip := 0
    seek := 0
    conversions := []
    inputFlags := []
    outputFlags := []
    status := "" }

def number? (text : String) : Option Nat :=
  let parts := text.toList.splitOn 'x'
  let sizes := parts.map fun part => sizeOfText? (String.ofList part)
  if sizes.all Option.isSome then some ((sizes.filterMap id).foldl (· * ·) 1) else none

-- What is wrong with the operands, and whether a hint on help follows.
abbrev Fault := String × Bool

def conversionNames : List String :=
  ["ascii", "ebcdic", "ibm", "block", "unblock", "lcase", "ucase", "sparse", "swab", "sync", "excl",
    "nocreat", "notrunc", "noerror", "fdatasync", "fsync"]

def flagNames : List String :=
  ["append", "direct", "directory", "dsync", "sync", "fullblock", "nonblock", "noatime", "nocache",
    "noctty", "nofollow", "count_bytes", "skip_bytes", "seek_bytes"]

def wordsOf (known : List String) (text kind : String) : Except Fault (List String) :=
  let words := (text.toList.splitOn ',').map String.ofList
  match words.find? fun word => !known.contains word with
  | some word => .error ("invalid " ++ kind ++ ": " ++ quotedName word, true)
  | none => .ok words

def add (copy : BlockCopy) (word : String) : Except Fault BlockCopy := do
  let name := word.toList.takeWhile (· != '=')
  let value := String.ofList (word.toList.drop (name.length + 1))
  let number (least : Nat) : Except Fault Nat :=
    match number? value with
    | some n =>
        if n < least then .error ("invalid number: " ++ quotedName value, false) else .ok n
    | none => .error ("invalid number: " ++ quotedName value, false)
  if name.length = word.length then throw ("unrecognized operand " ++ quotedName word, true)
  else
    match String.ofList name with
    | "if" => return { copy with source := some value }
    | "of" => return { copy with target := some value }
    | "bs" =>
        let size ← number 1
        return { copy with inputSize := size, outputSize := size, keepsBlocks := true }
    | "ibs" => return { copy with inputSize := ← number 1, keepsBlocks := false }
    | "obs" => return { copy with outputSize := ← number 1, keepsBlocks := false }
    | "cbs" =>
        let _ ← number 1
        return copy
    | "count" => return { copy with count := some (← number 0) }
    | "skip" | "iseek" => return { copy with skip := ← number 0 }
    | "seek" | "oseek" => return { copy with seek := ← number 0 }
    | "conv" =>
        let words ← wordsOf conversionNames value "conversion"
        return { copy with conversions := copy.conversions ++ words }
    | "iflag" =>
        return { copy with
          inputFlags := copy.inputFlags ++ (← wordsOf flagNames value "input flag") }
    | "oflag" =>
        return { copy with
          outputFlags := copy.outputFlags ++ (← wordsOf flagNames value "output flag") }
    | "status" =>
        if ["none", "noxfer", "progress"].contains value then return { copy with status := value }
        else throw ("invalid status level: " ++ quotedName value, true)
    | _ => throw ("unrecognized operand " ++ quotedName word, true)

def ofWords (words : List String) : Except Fault BlockCopy := do
  let copy ← words.foldlM add start
  if copy.conversions.contains "lcase" && copy.conversions.contains "ucase" then
    throw ("cannot combine lcase and ucase", false)
  return copy

def swapped : List UInt8 → List UInt8
  | a :: b :: rest => b :: a :: swapped rest
  | rest => rest

def convert (copy : BlockCopy) (block : List UInt8) : List UInt8 :=
  let does (name : String) : Bool := copy.conversions.contains name
  let block := if does "sync" then
      block ++ List.replicate (copy.inputSize - block.length) 0
    else block
  let block := if does "swab" then swapped block else block
  let cased (change : Char → Char) : List UInt8 :=
    block.map fun byte => UInt8.ofNat (change (Char.ofNat byte.toNat)).toNat
  if does "ucase" then cased Char.toUpper else if does "lcase" then cased Char.toLower else block

-- A number of bytes with a unit that leaves few digits.
def scaled (base : Nat) (units : List String) (n : Nat) : String :=
  let power := ((List.range units.length).find? fun i => n < Nat.pow base (i + 1)).getD 0
  let unit := Nat.pow base power
  let tenths := (n * 10 + unit - 1) / unit
  let shown := if tenths < 100 ∧ 0 < power then
      toString ((n * 10 + unit / 2) / unit / 10) ++ "." ++ toString ((n * 10 + unit / 2) / unit % 10)
    else toString ((n + unit / 2) / unit)
  shown ++ " " ++ units.getD power ""

def report (copy : BlockCopy) (size : Nat) (blocks : List (List UInt8)) (written : Nat) :
    List String :=
  let whole := (blocks.filter fun block => block.length == copy.inputSize).length
  let cut := blocks.length - whole
  let outSize := if copy.keepsBlocks then copy.inputSize else copy.outputSize
  let outWhole := if copy.keepsBlocks && !copy.conversions.contains "sync" then whole
    else written / outSize
  let outPartial := if copy.keepsBlocks && !copy.conversions.contains "sync" then cut
    else if written % outSize = 0 then 0 else 1
  let units := if 1000 ≤ size then
      " (" ++ scaled 1000 ["B", "kB", "MB", "GB", "TB"] size ++
        (if 1024 ≤ size then ", " ++ scaled 1024 ["B", "KiB", "MiB", "GiB", "TiB"] size else "") ++ ")"
    else ""
  let plural := if size = 1 then " byte" else " bytes"
  match copy.status with
  | "none" => []
  | status =>
      let records := [toString whole ++ "+" ++ toString cut ++ " records in\n",
        toString outWhole ++ "+" ++ toString outPartial ++ " records out\n"]
      if status = "noxfer" then records
      else
        records ++ [toString size ++ plural ++ units ++ " copied, 0.0001 s, " ++
          scaled 1000 ["B", "kB", "MB", "GB", "TB"] (size * 10000) ++ "/s\n"]

def content (copy : BlockCopy) (around : Surroundings) : Except MakeCheck.Fault (List UInt8) :=
  let device? := copy.source.bind fun name =>
    match around.files.find around.directory ⟨name⟩ with
    | .ok (_, node) =>
        match node.content with
        | .device .zero | .device .full => some (0 : UInt8)
        | _ => none
    | .error _ => none
  match copy.source, device?, copy.count with
  | some _, some byte, some count => .ok (List.replicate (count * copy.inputSize) byte)
  | some name, _, _ => around.files.sample around.directory ⟨name⟩
  | none, _, _ => around.input

end BlockCopy

def copyBlocks (around : Surroundings) (arguments : List String) : Outcome :=
  let option? := arguments.find? fun word => "-".isPrefixOf word && word != "--"
  match option?, BlockCopy.ofWords (arguments.filter (· != "--")) with
  | some word, _ =>
      around.misused 1
        [if "--".isPrefixOf word then "unrecognized option " ++ quotedName word
        else "invalid option -- " ++ quotedName ((word.toList.getD 1 '-').toString)]
  | none, .error (message, true) => around.misused 1 [message]
  | none, .error (message, false) => around.outcome 1 [around.complaint message]
  | none, .ok copy =>
      let unopened (name : String) (fault : Fault) : Outcome :=
        around.outcome 1
          [around.complaint ("failed to open " ++ quotedName name ++ ": " ++ fault.reason)]
      let sourceName := copy.source.getD "standard input"
      let told (lines : List String) : List (Channel × List UInt8) :=
        lines.map fun line => (.errors, Utf8.encode line)
      let finish (bytes : List UInt8) : Outcome :=
        let has (flag : String) : Bool := copy.inputFlags.contains flag
        let skip := if has "skip_bytes" then copy.skip else copy.skip * copy.inputSize
        let limit? := copy.count.map fun count =>
          if has "count_bytes" then count else count * copy.inputSize
        let isShort := decide (bytes.length < skip)
        let found := bytes.drop skip
        let found := (limit?.map fun limit => found.take limit).getD found
        let blocks := groupsOf copy.inputSize found
        let shown := blocks.flatMap copy.convert
        let notes := if isShort && copy.status != "none" then
            [around.complaint (shownName sourceName ++ ": cannot skip to specified offset")]
          else []
        let ending := told (copy.report shown.length blocks shown.length)
        let intake : Option Intake := if copy.source.isSome then none
          else some ((limit?.map fun limit => .exactly (skip + limit)).getD .all)
        match copy.target with
        | none => { around.outcome 0 (notes ++ [(.output, shown)] ++ ending) with intake }
        | some name =>
            let does (word : String) : Bool := copy.conversions.contains word
            let isThere := around.files.has around.directory ⟨name⟩
            let old := (around.files.sample around.directory ⟨name⟩).toOption.getD []
            let start := if copy.outputFlags.contains "append" then old.length
              else if copy.outputFlags.contains "seek_bytes" then copy.seek
              else copy.seek * copy.outputSize
            let after := if does "notrunc" then old.drop (start + shown.length) else []
            let new := old.take start ++ List.replicate (start - old.length) 0 ++ shown ++ after
            if does "excl" && isThere then unopened name .fileExists
            else if does "nocreat" && !isThere then unopened name .notFound
            else
              match around.files.writeAs around.directory ⟨name⟩ new
                  (Mode.without around.mask FileStore.fileMode) around.now with
              | .ok files => { around.outcome 0 (notes ++ ending) with files, intake }
              | .error fault => unopened name fault
      match copy.content around with
      | .ok bytes => finish bytes
      | .error .isADirectory =>
          around.outcome 1
            (around.complaint ("error reading " ++ quotedName sourceName ++ ": " ++
              Fault.isADirectory.reason) :: told (copy.report 0 [] 0))
      | .error fault => unopened sourceName fault

end MakeCheck.Program
