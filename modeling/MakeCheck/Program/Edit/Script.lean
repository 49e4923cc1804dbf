import MakeCheck.Program.Pattern

namespace MakeCheck.Program.Edit

-- A pattern of a script. Without one the pattern that was used last is meant.
structure Wanted where
  pattern : Option Pattern
  ignoreCase : Bool

-- Which lines are chosen.
inductive Address where
  | line (number : Nat)
  | every (first step : Nat)
  | last
  | fits (wanted : Wanted)

-- Where a stretch of lines ends.
inductive Ending where
  | at (address : Address)
  | after (count : Nat)
  | multiple (step : Nat)

-- A part of a replacement: text, what a group has taken, or a change of case for what follows.
inductive Part where
  | text (c : Char)
  | group (number : Nat)
  | case (letter : Char)

inductive Action where
  | block
  | blockEnd
  | label (name : String)
  | jump (condition : Option Bool) (label : String)
  | substitute (wanted : Wanted) (parts : List Part) (occurrence : Nat) (everywhere prints : Bool)
  | exchangeChars (pairs : List (Char × Char))
  | append (text : List Char)
  | insert (text : List Char)
  | change (text : List Char)
  | readFile (name : String)
  | quit (code : Nat) (prints : Bool)
  -- A command that is its letter alone.
  | letter (c : Char)

structure Command where
  first : Option Address
  second : Option Ending
  negated : Bool
  action : Action

-- What is wrong with a script, and how many characters of it were still to come.
structure ScriptFault where
  left : Nat
  message : String

-- Reading keeps what is left of a script.
abbrev Reading := StateT (List Char) (Except ScriptFault)

namespace Reading

def fail {α : Type} (message : String) : Reading α := do
  throw ⟨(← get).length, message⟩

def peek : Reading (Option Char) := do
  return (← get).head?

def next : Reading (Option Char) := do
  let s ← get
  set s.tail
  return s.head?

def skipWhile (fits : Char → Bool) : Reading (List Char) := do
  let s ← get
  set (s.dropWhile fits)
  return s.takeWhile fits

def isGap (c : Char) : Bool :=
  c == ' ' || c == '\t'

def number : Reading Nat := do
  return (← skipWhile Char.isDigit).foldl (fun n c => n * 10 + (c.toNat - '0'.toNat)) 0

-- The text up to a mark. A mark behind a backslash belongs to the text, as does an end of line
-- that is named there.
def upTo (isPattern : Bool) (mark : Char) : List Char → Option (List Char × List Char)
  | [] => none
  | '\\' :: c :: rest =>
      (upTo isPattern mark rest).map fun (text, after) =>
        (if c = mark then c :: text
          else if c = 'n' ∧ isPattern then '\n' :: text
          else '\\' :: c :: text, after)
  | c :: rest =>
      if c = mark then some ([], rest)
      else (upTo isPattern mark rest).map fun (text, after) => (c :: text, after)

def delimited (isPattern : Bool) (mark : Char) (fault : String) : Reading (List Char) := do
  match upTo isPattern mark (← get) with
  | some (text, rest) =>
      set rest
      return text
  | none =>
      set ([] : List Char)
      fail fault

-- Reads a pattern, and tells how many groups it has. An empty one stands for the last one.
def wanted (extended ignoreCase : Bool) (text : List Char) : Reading (Wanted × Nat) := do
  if text.isEmpty then return (⟨none, ignoreCase⟩, 9)
  match Pattern.ofChars extended false text with
  | .ok (pattern, groups) => return (⟨some pattern, ignoreCase⟩, groups)
  | .error fault => fail fault.message

def address? (extended : Bool) : Reading (Option Address) := do
  match ← peek with
  | some '$' =>
      let _ ← next
      return some .last
  | some '/' =>
      let _ ← next
      pattern '/'
  | some '\\' =>
      let _ ← next
      match ← next with
      | some mark => pattern mark
      | none => fail "unterminated address regex"
  | some c =>
      if c.isDigit then
        let first ← number
        if (← peek) = some '~' then
          let _ ← next
          return some (.every first (← number))
        else return some (.line first)
      else return none
  | none => return none
where
  pattern (mark : Char) : Reading (Option Address) := do
    let text ← delimited true mark "unterminated address regex"
    let ignoreCase := (← peek) == some 'I'
    if ignoreCase then
      let _ ← next
    let (wanted, _) ← wanted extended ignoreCase text
    return some (.fits wanted)

def ending (extended : Bool) : Reading Ending := do
  match ← peek with
  | some '+' =>
      let _ ← next
      return .after (← number)
  | some '~' =>
      let _ ← next
      return .multiple (← number)
  | _ =>
      match ← address? extended with
      | some address => return .at address
      | none =>
          let _ ← next
          fail "unexpected `,'"

-- The text of a command: it may begin on the next line, and goes on behind a backslash.
def lineText : List Char → List Char × List Char
  | [] => ([], [])
  | '\\' :: c :: rest =>
      let (text, after) := lineText rest
      (c :: text, after)
  | '\n' :: rest => ([], rest)
  | c :: rest =>
      let (text, after) := lineText rest
      (c :: text, after)

def commandText : Reading (List Char) := do
  let _ ← skipWhile isGap
  match ← get with
  | [] => fail "expected \\ after `a', `c' or `i'"
  | '\\' :: rest =>
      let after := rest.dropWhile isGap
      match after with
      | '\n' :: text => set text
      | text => set text
  | _ => pure ()
  let (text, rest) := lineText (← get)
  set rest
  return text ++ ['\n']

def parts : List Char → List Part
  | [] => []
  | '\\' :: c :: rest =>
      (if c.isDigit then .group (c.toNat - '0'.toNat)
        else if ['U', 'L', 'E', 'u', 'l'].contains c then .case c
        else if c = 'n' then .text '\n'
        else if c = 't' then .text '\t'
        else .text c) :: parts rest
  | '&' :: rest => .group 0 :: parts rest
  | c :: rest => .text c :: parts rest

def highestGroup (parts : List Part) : Nat :=
  (parts.map fun part =>
    match part with
    | .group number => number
    | _ => 0).foldl max 0

-- A command ends at a semicolon, at a line end, or before a brace that closes its block.
def commandEnd : Reading Unit := do
  let _ ← skipWhile isGap
  match ← peek with
  | none | some '\x7d' | some '#' => return ()
  | some c =>
      let _ ← next
      if c != ';' && c != '\n' then fail "extra characters after command"

structure Flags where
  occurrence : Nat
  everywhere : Bool
  prints : Bool
  ignoreCase : Bool

def flags : Nat → Flags → Reading Flags
  | 0, found => return found
  | fuel + 1, found => do
      match ← peek with
      | some 'g' =>
          let _ ← next
          if found.everywhere then fail "multiple `g' options to `s' command"
          flags fuel { found with everywhere := true }
      | some 'p' =>
          let _ ← next
          if found.prints then fail "multiple `p' options to `s' command"
          flags fuel { found with prints := true }
      | some 'i' | some 'I' =>
          let _ ← next
          flags fuel { found with ignoreCase := true }
      | some c =>
          if c.isDigit then
            let occurrence ← number
            if occurrence = 0 then fail "number option to `s' command may not be zero"
            flags fuel { found with occurrence }
          else if c = ';' ∨ c = '\n' ∨ c = '\x7d' ∨ c = '#' ∨ isGap c then return found
          else
            let _ ← next
            fail "unknown option to `s'"
      | none => return found

def substitution (extended : Bool) : Reading Action := do
  let fault := "unterminated `s' command"
  match ← next with
  | none => fail fault
  | some mark =>
      let text ← delimited true mark fault
      let replacement ← delimited false mark fault
      let found ← flags ((← get).length + 1) ⟨1, false, false, false⟩
      let (wanted, groups) ← wanted extended found.ignoreCase text
      let parts := parts replacement
      if groups < highestGroup parts then
        fail ("invalid reference \\" ++ toString (highestGroup parts) ++ " on `s' command's RHS")
      commandEnd
      return .substitute wanted parts found.occurrence found.everywhere found.prints

-- Characters of a list in which a backslash names a line end or itself.
def listed : List Char → List Char
  | '\\' :: 'n' :: rest => '\n' :: listed rest
  | '\\' :: '\\' :: rest => '\\' :: listed rest
  | c :: rest => c :: listed rest
  | [] => []

def exchange : Reading Action := do
  let fault := "unterminated `y' command"
  match ← next with
  | none => fail fault
  | some mark =>
      let source := listed (← delimited false mark fault)
      let target := listed (← delimited false mark fault)
      if source.length ≠ target.length then
        fail "strings for `y' command are different lengths"
      commandEnd
      return .exchangeChars (source.zip target)

def labelName : Reading String := do
  let _ ← skipWhile isGap
  let name ← skipWhile fun c => c != ';' && c != '\n'
  if (← peek).isSome then
    let _ ← next
  return String.ofList (name.reverse.dropWhile isGap).reverse

def plainLetters : List Char :=
  ['=', 'd', 'D', 'g', 'G', 'h', 'H', 'l', 'n', 'N', 'p', 'P', 'x']

def action (extended : Bool) : Reading Action := do
  match ← next with
  | none => fail "missing command"
  | some '\x7b' => return .block
  | some '\x7d' =>
      commandEnd
      return .blockEnd
  | some 's' => substitution extended
  | some 'y' => exchange
  | some 'a' => return .append (← commandText)
  | some 'i' => return .insert (← commandText)
  | some 'c' => return .change (← commandText)
  | some ':' =>
      let name ← labelName
      if name = "" then fail "\":\" lacks a label"
      return .label name
  | some 'b' => return .jump none (← labelName)
  | some 't' => return .jump (some true) (← labelName)
  | some 'T' => return .jump (some false) (← labelName)
  | some 'r' =>
      let _ ← skipWhile isGap
      let name ← skipWhile (· != '\n')
      if name.isEmpty then fail "missing filename in r/R/w/W commands"
      return .readFile (String.ofList name)
  | some c =>
      if c = 'q' ∨ c = 'Q' then
        let _ ← skipWhile isGap
        let code ← number
        commandEnd
        return .quit code (c == 'q')
      else if plainLetters.contains c then
        commandEnd
        return .letter c
      else if c = '\n' ∨ c = ';' then fail "missing command"
      else fail ("unknown command: `" ++ c.toString ++ "'")

-- The commands of a script, given how many blocks are open. Each of them takes a character at
-- least, so that the length is enough.
def commands (extended : Bool) : Nat → Nat → Reading (List Command)
  | 0, _ => return []
  | fuel + 1, depth => do
      let _ ← skipWhile fun c => isGap c || c == ';' || c == '\n'
      match ← peek with
      | none =>
          -- A block without an end is not found at any place.
          if depth = 0 then return [] else throw ⟨0, "unmatched `\x7b'"⟩
      | some '#' =>
          let _ ← skipWhile (· != '\n')
          commands extended fuel depth
      | some _ =>
          let first ← address? extended
          let _ ← skipWhile isGap
          let second ←
            if first.isSome && (← peek) == some ',' then
              let _ ← next
              let _ ← skipWhile isGap
              pure (some (← ending extended))
            else pure none
          let _ ← skipWhile isGap
          let marks ← skipWhile (· == '!')
          let _ ← skipWhile isGap
          let isEnd := (← peek) == some '\x7d'
          if isEnd && depth == 0 then
            let _ ← next
            fail "unexpected `\x7d'"
          let action ← action extended
          let depth :=
            match action with
            | .block => depth + 1
            | .blockEnd => depth - 1
            | _ => depth
          return ⟨first, second, !marks.isEmpty, action⟩ :: (← commands extended fuel depth)

end Reading

-- The place behind the end of a block, given how many blocks inside it are open.
def blockSize : Nat → List Command → Nat
  | _, [] => 0
  | depth, command :: rest =>
      match command.action with
      | .block => blockSize (depth + 1) rest + 1
      | .blockEnd => if depth = 0 then 1 else blockSize (depth - 1) rest + 1
      | _ => blockSize depth rest + 1

def readScript (extended : Bool) (text : List Char) : Except ScriptFault (List Command) := do
  return (← (Reading.commands extended (text.length + 1) 0).run text).1

end MakeCheck.Program.Edit
