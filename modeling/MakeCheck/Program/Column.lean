import MakeCheck.Program.Table

namespace MakeCheck.Program

open Text

-- Where tabs lead to: to listed columns, and behind the last of them to every so many ones, or to
-- the very next column if there is no such number.
structure TabStops where
  listed : List Nat
  every : Option Nat

namespace TabStops

def standard : TabStops :=
  ⟨[], some 8⟩

def next (stops : TabStops) (column : Nat) : Nat :=
  match stops.listed.find? fun stop => column < stop with
  | some stop => stop
  | none =>
      match stops.every with
      | some size => (column / size + 1) * size
      | none => column + 1

def isBehind (stops : TabStops) (column : Nat) : Bool :=
  stops.every.isNone && stops.listed.all (· ≤ column)

def ofTexts (texts : List String) : Except String TabStops := do
  let pieces := (texts.flatMap fun text =>
    text.toList.splitOnP fun c => c == ',' || c == ' ' || c == '\t').filter (· != [])
  let rest? := pieces.getLast?.filter fun piece => piece.head? == some '/'
  let numbers := if rest?.isSome then pieces.dropLast else pieces
  match (numbers ++ (rest?.map List.tail).toList).find? fun s => !s.all Char.isDigit with
  | some s =>
      throw ("tab size contains invalid character(s): " ++
        quotedName (String.ofList (s.dropWhile Char.isDigit)))
  | none =>
      let values := numbers.map decimalValue
      if values.contains 0 then throw "tab size cannot be 0"
      else if !(values.zip values.tail).all fun pair => pair.1 < pair.2 then
        throw "tab sizes must be ascending"
      else
        match values, rest? with
        | [], none => return standard
        | [size], none => return ⟨[], some size⟩
        | _, none => return ⟨values, none⟩
        | _, some rest => return ⟨values, some (max 1 (decimalValue rest.tail))⟩

end TabStops

-- A hyphen with digits is an old way to tell a tab stop.
def oldStops (arguments : List String) : List String :=
  arguments.flatMap fun word =>
    match word.toList with
    | '-' :: digit :: digits =>
        if (digit :: digits).all fun c => c.isDigit || c == ',' then
          ["-t", String.ofList (digit :: digits)]
        else [word]
    | _ => [word]

-- Puts blanks in the place of tabs, or only in the place of those before any other character. The
-- first number is the column that has been reached.
def expandTabs (stops : TabStops) (onlyInitial : Bool) : Bool → Nat → List UInt8 → List UInt8
  | _, _, [] => []
  | isInitial, column, byte :: rest =>
      let converts := isInitial || !onlyInitial
      if byte = 10 then 10 :: expandTabs stops onlyInitial true 0 rest
      else if byte = 9 then
        let next := stops.next column
        let shown := if converts then List.replicate (next - column) 32 else [9]
        shown ++ expandTabs stops onlyInitial isInitial next rest
      else if byte = 8 then 8 :: expandTabs stops onlyInitial false (column - 1) rest
      else byte :: expandTabs stops onlyInitial (isInitial && byte == 32) (column + 1) rest

def expand (around : Surroundings) (arguments : List String) : Outcome :=
  let known := [valued 't' "tabs", plain 'i' "initial"]
  withArguments around known (oldStops arguments) fun given =>
    match TabStops.ofTexts (given.values 't') with
    | .error message => around.outcome 1 [around.complaint message]
    | .ok stops =>
        around.withSources given.operands readReport fun _ bytes =>
          expandTabs stops (given.has 'i') true 0 bytes

-- How far the work on a line has come in which tabs take the place of blanks. Blanks are kept back
-- as long as it is not known what becomes of them.
structure Gathering where
  converts : Bool
  column : Nat
  -- What was kept back, and whether the first of it is a lone blank that ends at a stop.
  pending : List UInt8
  isLone : Bool
  followsBlank : Bool
  written : List (List UInt8)

namespace Gathering

def start (written : List (List UInt8)) : Gathering :=
  ⟨true, 0, [], false, true, written⟩

def release (line : Gathering) (byte : UInt8) : Gathering :=
  let kept := if 1 < line.pending.length && line.isLone then 9 :: line.pending.drop 1
    else line.pending
  { line with pending := [], isLone := false, written := (kept ++ [byte]) :: line.written }

def step (stops : TabStops) (whole : Bool) (line : Gathering) (byte : UInt8) : Gathering :=
  if byte = 10 then start (line.release 10).written
  else if !line.converts then line.release byte
  else
    let isBlank := isBlankByte byte
    let settle (line : Gathering) (byte : UInt8) : Gathering :=
      { line.release byte with followsBlank := isBlank, converts := line.converts &&
          (whole || isBlank) }
    if !isBlank then
      let column := if byte = 8 then line.column - 1 else line.column + 1
      settle { line with column } byte
    else if stops.isBehind line.column then settle { line with converts := false } byte
    else
      let next := stops.next line.column
      let settled (line : Gathering) (pending : List UInt8) : Gathering :=
        settle { line with pending := if line.isLone then pending.take 1 else [] } 9
      if byte = 9 then
        settled { line with column := next } (9 :: line.pending.drop 1)
      else
        let column := line.column + 1
        if line.followsBlank && column == next then
          settled { line with column } (9 :: line.pending.drop 1)
        else
          { line with
            column
            isLone := line.isLone || column == next
            pending := line.pending ++ [byte]
            followsBlank := true }

end Gathering

-- Puts tabs in the place of blanks, at the front of lines or everywhere.
def unexpandTabs (stops : TabStops) (whole : Bool) (bytes : List UInt8) : List UInt8 :=
  let last := bytes.foldl (Gathering.step stops whole) (.start [])
  let kept := if last.pending.isEmpty then [] else (last.release 0).written.head?.getD []
  (last.written.reverse ++ [kept.dropLast]).flatten

def unexpand (around : Surroundings) (arguments : List String) : Outcome :=
  let known := [valued 't' "tabs", plain 'a' "all", plain 'f' "first-only"]
  withArguments around known (oldStops arguments) fun given =>
    match TabStops.ofTexts (given.values 't') with
    | .error message => around.outcome 1 [around.complaint message]
    | .ok stops =>
        let whole := (given.has 'a' || given.has 't') && !given.has 'f'
        around.withSources given.operands readReport fun _ bytes =>
          unexpandTabs stops whole bytes

-- The column behind a byte, where each byte may count as one.
def columnAfter (byBytes : Bool) (column : Nat) (byte : UInt8) : Nat :=
  if byBytes then column + 1
  else if byte = 8 then column - 1
  else if byte = 13 then 0
  else if byte = 9 then (column / 8 + 1) * 8
  else column + 1

-- Breaks lines that are too long. What stands on the line so far comes in reverse order. The fuel
-- bounds how often a byte is looked at.
def foldBytes (width : Nat) (byBytes atBlanks : Bool) :
    Nat → Nat → List UInt8 → List UInt8 → List UInt8
  | 0, _, line, rest => line.reverse ++ rest
  | _, _, line, [] => line.reverse
  | fuel + 1, column, line, byte :: rest =>
      if byte = 10 then
        (10 :: line).reverse ++ foldBytes width byBytes atBlanks fuel 0 [] rest
      else
        let next := columnAfter byBytes column byte
        if next ≤ width then foldBytes width byBytes atBlanks fuel next (byte :: line) rest
        else
          let tail := line.takeWhile fun other => !isBlankByte other
          if atBlanks && tail.length < line.length then
            let column := tail.reverse.foldl (columnAfter byBytes) 0
            (line.drop tail.length).reverse ++ [10] ++
              foldBytes width byBytes atBlanks fuel column tail (byte :: rest)
          else if line.isEmpty then foldBytes width byBytes atBlanks fuel next [byte] rest
          else
            (10 :: line).reverse ++ foldBytes width byBytes atBlanks fuel 0 [] (byte :: rest)

-- A hyphen with digits is an old way to tell the width.
def oldWidth (arguments : List String) : List String :=
  arguments.flatMap fun word =>
    match word.toList with
    | '-' :: digit :: digits =>
        if (digit :: digits).all Char.isDigit then ["-w", String.ofList (digit :: digits)]
        else [word]
    | _ => [word]

def fold (around : Surroundings) (arguments : List String) : Outcome :=
  let known := [plain 'b' "bytes", plain 's' "spaces", valued 'w' "width"]
  withArguments around known (oldWidth arguments) fun given =>
    let word := (given.value? 'w').getD "80"
    let refuse (more : String) : Outcome :=
      around.outcome 1
        [around.complaint ("invalid number of columns: " ++ quotedName word ++ more)]
    if word.isEmpty || !word.toList.all Char.isDigit then refuse ""
    else
      let width := decimalValue word.toList
      if width = 0 then refuse ": Numerical result out of range"
      else
        around.withSources given.operands readReport fun _ bytes =>
          foldBytes width (given.has 'b') (given.has 's') (3 * bytes.length + 1) 0 [] bytes

end MakeCheck.Program
