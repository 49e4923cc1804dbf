import MakeCheck.Shell.Grouped
import MakeCheck.Shell.Quoting

namespace MakeCheck.Shell

open Text

-- What stands for a parameter: one value if it has one, or several values under their keys.
structure Chosen where
  -- What complaints call the parameter.
  title : String
  -- The variable, and the key of an entry of it, which can be given a value.
  target : Option (String × Option String)
  entries : List (String × String)
  isMany : Bool
  -- All values make up one.
  joined : Bool

namespace Chosen

def one (title : String) (target : Option (String × Option String)) (value : Option String) :
    Chosen :=
  { title
    target
    entries := value.toList.map fun value => ("0", value)
    isMany := false
    joined := false }

def many (title : String) (entries : List (String × String)) (joined : Bool) : Chosen :=
  { title, target := none, entries, isMany := true, joined }

def row (title : String) (values : List String) (joined : Bool) : Chosen :=
  many title (values.zipIdx.map fun (value, place) => (toString (place + 1), value)) joined

def values (chosen : Chosen) : List String :=
  chosen.entries.map (·.2)

def isUnset (chosen : Chosen) : Bool :=
  !chosen.isMany && chosen.entries.isEmpty

def map (f : String → String) (chosen : Chosen) : Chosen :=
  { chosen with entries := chosen.entries.map fun (key, value) => (key, f value) }

def text (mark : String) (chosen : Chosen) : String :=
  (if chosen.joined then mark else " ").intercalate chosen.values

-- Adds the values to fields. Those in quotes are fields of their own, unless they make up one.
def spread (splitting : Splitting) (quoted : Bool) (process : Process) (chosen : Chosen)
    (fields : Fields) : Fields :=
  let splits := splitting != .nothing
  let mark := process.argumentMark
  let apart := "\x00".intercalate chosen.values
  if !splits then fields.grow quoted (chosen.text mark).toList
  else if !quoted then
    if chosen.entries.isEmpty then fields else fields.split process.separators apart.toList
  else if !chosen.isMany || chosen.joined then
    fields.grow true (chosen.text mark).toList
  else if chosen.entries.isEmpty then fields
  else fields.growAll apart.toList

def cutText (text : String) (start stop : Nat) : String :=
  Utf8.decodeLossy (((Utf8.encode text).take stop).drop start)

-- Where a slice begins and where it ends, counted from the end if it is negative. One that begins
-- outside is empty.
def sliceEnds? (length : Nat) (start : Int) (size? : Option Int) : Option (Int × Int) :=
  let start := if start < 0 then start + length else start
  if start < 0 ∨ (length : Int) < start then none
  else
    match size? with
    | none => some (start, length)
    | some size => some (start, if size < 0 then size + length else min (start + size) length)

-- The values between two places. The size comes with its text.
def slice (start : Int) (size? : Option (Int × String)) (chosen : Chosen) :
    Except String Chosen :=
  let negative (text : String) : String := text ++ ": substring expression < 0"
  if !chosen.isMany then
    match chosen.entries with
    | [] => .ok chosen
    | (_, text) :: _ =>
        match sliceEnds? text.utf8ByteSize start (size?.map (·.1)) with
        | none => .ok (chosen.map fun _ => "")
        | some (first, last) =>
            if last < first then .error (negative ((size?.map (·.2)).getD ""))
            else .ok (chosen.map fun text => cutText text first.toNat last.toNat)
  else
    let length := (chosen.entries.getLast?.map fun entry => Collection.placeOf entry.1 + 1).getD 0
    match sliceEnds? length start none, size? with
    | none, _ => .ok { chosen with entries := [] }
    | some (first, _), size? =>
        let behind := chosen.entries.dropWhile fun entry =>
          decide ((Collection.placeOf entry.1 : Int) < first)
        match size? with
        | none => .ok { chosen with entries := behind }
        | some (size, text) =>
            if size < 0 then .error (negative text)
            else .ok { chosen with entries := behind.take size.toNat }

-- What is put in the place of a text that fits a pattern. A mark stands for the text itself.
def filledIn (marksCount : Bool) (found : List Char) : Marked → List Char
  | ('\\', false) :: (c, quoted) :: rest =>
      if marksCount && !quoted && (c == '&' || c == '\\') then c :: filledIn marksCount found rest
      else '\\' :: filledIn marksCount found ((c, quoted) :: rest)
  | (c, quoted) :: rest =>
      if marksCount && !quoted && c == '&' then found ++ filledIn marksCount found rest
      else c :: filledIn marksCount found rest
  | [] => []
termination_by marked => marked.length

-- Exchanges what fits a pattern, at the first place or at every place. The first argument bounds
-- the places.
def exchangedFrom (rules : PatternRules) (pattern : Marked) (fill : List Char → List Char)
    (everywhere : Bool) : Nat → List Char → List Char
  | 0, text => text
  | fuel + 1, text =>
      match (pattern.sizes rules text).getLast?, text with
      | none, [] => []
      | none, c :: rest => c :: exchangedFrom rules pattern fill everywhere fuel rest
      | some 0, [] => fill []
      | some 0, c :: rest =>
          fill [] ++ c :: if everywhere then
              (if rest.isEmpty then [] else exchangedFrom rules pattern fill everywhere fuel rest)
            else rest
      | some size, _ =>
          let rest := text.drop size
          fill (text.take size) ++
            if everywhere && !rest.isEmpty then
              exchangedFrom rules pattern fill everywhere fuel rest
            else rest

def exchanged (rules : PatternRules) (place : Place) (pattern : Marked)
    (fill : List Char → List Char) (text : String) : String :=
  let chars := text.toList
  let found :=
    match place with
    | .first | .every =>
        if pattern.isEmpty then chars
        else exchangedFrom rules pattern fill (place == .every) (chars.length + 1) chars
    | .front =>
        match (pattern.sizes rules chars).getLast? with
        | some size => fill (chars.take size) ++ chars.drop size
        | none => chars
    | .back =>
        match (List.range (chars.length + 1)).find? fun start =>
          pattern.fitsBy rules (chars.drop start) with
        | some start => chars.take start ++ fill (chars.drop start)
        | none => chars
  String.ofList found

-- Changes the case of the letters that fit a pattern: of the first one, or of all.
def recased (rules : PatternRules) (letter : Char) (isAll : Bool) (pattern : Marked)
    (text : String) : String :=
  let change (c : Char) : Char :=
    if !pattern.isEmpty && !pattern.fitsBy rules [c] then c
    else
      match letter with
      | '^' => c.toUpper
      | ',' => c.toLower
      | _ => if c.isUpper then c.toLower else c.toUpper
  match text.toList with
  | [] => text
  | c :: rest => String.ofList (change c :: if isAll then rest.map change else rest)

-- A text with the characters that backslashes spell in it.
def unspelled (text : String) : String :=
  let ended := text.toList ++ ['\x27']
  let quoted := ended.flatMap fun c => if c = '\x27' then ['\\', c] else [c]
  match spelledText? 0 (quoted.dropLast.dropLast ++ ['\x27']) with
  | some (bytes, _) => Utf8.decodeLossy (bytes.takeWhile (· != 0))
  | none => text

def shown (letter : Char) (process : Process) (chosen : Chosen) : Chosen :=
  let name := (chosen.target.map (·.1)).getD chosen.title
  let pair (entry : String × String) : String := entry.1 ++ " " ++ doubleQuoted entry.2
  match letter with
  | 'Q' => chosen.map quotedAlways
  | 'E' => chosen.map unspelled
  | 'U' => chosen.map String.toUpper
  | 'L' => chosen.map String.toLower
  | 'u' => chosen.map fun text => String.ofList
      (match text.toList with
        | c :: rest => c.toUpper :: rest
        | [] => [])
  | 'a' =>
      let letters := process.traitLetters (process.aim name)
      if chosen.isMany then chosen.map fun _ => letters
      else if process.isKnown name then { chosen with entries := [("0", letters)] }
      else chosen
  | 'K' =>
      if chosen.isMany then
        let pairs := " ".intercalate (chosen.entries.map pair)
        let isTable := process.isTable name && pairs != ""
        { chosen with entries := [("0", if isTable then pairs ++ " " else pairs)] }
      else chosen.map quotedAlways
  | 'k' =>
      if chosen.isMany then
        { chosen with entries := chosen.entries.flatMap fun entry =>
            [(entry.1, entry.1), (entry.1, entry.2)] }
      else chosen.map quotedAlways
  | 'A' =>
      let letters := process.traitLetters name
      if chosen.title = "@" ∨ chosen.title = "*" then
        { chosen with entries := [("0", "set -- " ++ " ".intercalate
            (chosen.values.map quotedAlways))] }
      else if chosen.isMany then
        { chosen with entries :=
            if chosen.entries.isEmpty then []
            else [("0", String.ofList (process.declarationText name).toList.dropLast)] }
      else if chosen.entries.isEmpty then
        if letters = "" then chosen
        else { chosen with entries := [("0", "declare -" ++ letters ++ " " ++ name)] }
      else
        chosen.map fun value =>
          (if letters = "" then "" else "declare -" ++ letters ++ " ") ++ name ++ "=" ++
            quotedAlways value
  | _ => chosen

end Chosen

end MakeCheck.Shell
