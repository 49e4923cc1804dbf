import MakeCheck.Shell.Script
import MakeCheck.Text.Utf8

namespace MakeCheck.Shell

open Text

inductive Token where
  | word (word : Word)
  | keyword (name : String)
  | sign (text : String)
  | redirect (channel : Nat) (kind : RedirectKind)
  | lineEnd
  | finish

namespace Token

def text : Token → String
  | word _ => "word"
  | keyword name => "\"" ++ name ++ "\""
  | sign text => "\"" ++ text ++ "\""
  | redirect .. => "redirection"
  | lineEnd => "newline"
  | finish => "end of file"

def isKeyword (name : String) : Token → Bool
  | keyword other => other == name
  | _ => false

def isSign (text : String) : Token → Bool
  | sign other => other == text
  | _ => false

def closesList : Token → Bool
  | keyword name => ["do", "done", "elif", "else", "esac", "fi", "then", "\x7d"].contains name
  | sign text => [")", ";;", ";&", ";;&"].contains text
  | finish => true
  | _ => false

end Token

def keywords : List String :=
  ["!", "case", "do", "done", "elif", "else", "esac", "fi", "for", "if", "in", "then", "until",
    "while", "\x7b", "\x7d"]

def Dialect.keywords : Dialect → List String
  | .plain => Shell.keywords
  | .extended => Shell.keywords ++ ["[[", "]]", "function", "time"]

-- The commands whose names no function can have. An error in one of them ends the script.
def specialBuiltins : List String :=
  [".", ":", "break", "continue", "eval", "exec", "exit", "export", "local", "readonly", "return",
    "set", "shift", "times", "trap", "unset"]

-- Commands whose arguments may assign variables. Such an argument is not split.
def declaringBuiltins : List String :=
  ["alias", "export", "local", "readonly"]

def Dialect.declaringBuiltins : Dialect → List String
  | .plain => Shell.declaringBuiltins
  | .extended => "declare" :: "typeset" :: Shell.declaringBuiltins

-- Only the plain dialect treats some commands in a way of their own.
def Dialect.specialBuiltins : Dialect → List String
  | .plain => Shell.specialBuiltins
  | .extended => []

-- A text that is no script: the line on which this shows, what is to be said about it, each with
-- its line, whether the line itself is told as well, and the status that it gives.
structure SyntaxFault where
  line : Nat
  messages : List (Nat × String)
  showsLine : Bool
  status : Nat

-- Where the reading of a script stands.
structure Cursor where
  dialect : Dialect
  rest : List Char
  line : Nat
  -- The lines of documents that lie behind the current line and are read already.
  documentLines : Nat
  -- A token that was looked at and is still to come.
  pushed : Option Token
  -- What was left of the text before the latest token and behind it.
  tokenStart : List Char
  tokenEnd : List Char
  -- The latest character has ended a line.
  beginsLine : Bool
  -- The line of the sign whose partner is looked for.
  openLine : Nat
  -- Whether patterns may have groups in brackets.
  hasGroups : Bool
  -- What is to be said before the commands run that were read, each with its line.
  warnings : List (Nat × String)
  -- Words that stand for other texts where a command begins. Those that are being read, each with
  -- the number of characters behind it, are not looked up again.
  aliases : List (String × String)
  unfolding : List (String × Nat)
  -- The text of a word that ends in a blank makes the next word stand for another text, too.
  unfoldsNext : Bool

def Cursor.ofText (text : String) : Cursor :=
  { dialect := .plain
    rest := text.toList
    line := 1
    documentLines := 0
    pushed := none
    tokenStart := text.toList
    tokenEnd := text.toList
    beginsLine := true
    openLine := 1
    hasGroups := false
    warnings := []
    aliases := []
    unfolding := []
    unfoldsNext := false }

-- The line of the end of the text, which counts as a line of its own.
def Cursor.lastLine (cursor : Cursor) : Nat :=
  let breaks := cursor.rest.count '\n'
  let endsInBreak := if cursor.rest.isEmpty then cursor.beginsLine
    else cursor.rest.getLast? == some '\n'
  cursor.line + breaks + if endsInBreak then 0 else 1

-- What a word stands for, with the blank at its end if there is one. Words whose text has been read
-- to its end may be looked up again.
def Cursor.unfold? (cursor : Cursor) (name : String) : Option Cursor :=
  match cursor.aliases.lookup name with
  | none => none
  | some text =>
      let size := cursor.rest.length
      let unfolding := cursor.unfolding.filter fun entry => entry.2 ≤ size
      if (unfolding.lookup name).isSome then none
      else
        let rest := text.toList ++ cursor.rest
        some { cursor with rest, unfolding := (name, size) :: unfolding }

-- How many characters the rest has up to the end of a line.
def Cursor.sizeUpTo (cursor : Cursor) (line : Nat) : Nat :=
  let lines := cursor.rest.splitOn '\n' |>.take (line + 1 - cursor.line)
  lines.foldl (fun count line => count + line.length + 1) 0

-- A step of reading, which moves the cursor or finds that the text is no script.
abbrev Reading := StateT Cursor (Except SyntaxFault)

namespace Reading

def failOn {α : Type} (line : Nat) (message : String) : Reading α := do
  throw ⟨line, [(line, message)], false, 2⟩

def fail {α : Type} (message : String) : Reading α := do
  failOn (← get).line message

def isExtended : Reading Bool := do
  return (← get).dialect == .extended

-- What the extended dialect says where a text ends too early.
def endMessage : String := "syntax error: unexpected end of file"

-- Complains about a token that cannot stand where it does. The extended dialect names the latest
-- token as it is written.
def unexpected {α : Type} (token : Token) (expected : Option Token) : Reading α := do
  let cursor ← get
  match cursor.dialect, token with
  | .plain, _ =>
      fail (token.text ++ " unexpected" ++
        match expected with
        | some expected => " (expecting " ++ expected.text ++ ")"
        | none => "")
  | .extended, .finish => failOn cursor.lastLine endMessage
  | .extended, _ =>
      let size := cursor.tokenStart.length - cursor.tokenEnd.length
      let (text, line) := match token with
        | .lineEnd => ("newline", cursor.line - 1)
        | _ => (String.ofList (cursor.tokenStart.take size), cursor.line)
      throw ⟨line, [(line, "syntax error near unexpected token \x60" ++ text ++ "\x27")], true, 2⟩

-- Complains that a sign which has to come does not. Only the extended dialect names it.
def missingPartner {α : Type} (sign plain : String) : Reading α := do
  if ← isExtended then
    let text := "unexpected EOF while looking for matching \x60" ++ sign ++ "\x27"
    failOn (← get).openLine text
  else fail plain

-- Reads what stands behind a sign on this line up to its partner.
def enclosed {α : Type} (inside : Reading α) : Reading α := do
  let before := (← get).openLine
  modify fun cursor => { cursor with openLine := cursor.line }
  let found ← inside
  modify fun cursor => { cursor with openLine := before }
  return found

def peek : Reading (Option Char) := do
  return (← get).rest.head?

def second? : Reading (Option Char) := do
  return (← get).rest.tail.head?

-- Passes over one character. The lines of documents count with the break before them.
def skip : Reading Unit :=
  modify fun cursor =>
    match cursor.rest with
    | '\n' :: rest =>
        { cursor with
          rest
          line := cursor.line + 1 + cursor.documentLines
          documentLines := 0
          beginsLine := true }
    | _ :: rest => { cursor with rest, beginsLine := false }
    | [] => cursor

def skipIf (c : Char) : Reading Bool := do
  if (← peek) = some c then
    skip
    return true
  else return false

def takeWhile (fits : Char → Bool) : Reading (List Char) := do
  let taken := (← get).rest.takeWhile fits
  for _ in taken do skip
  return taken

def unread (token : Token) : Reading Unit :=
  modify fun cursor => { cursor with pushed := some token }

-- Passes over blanks, comments and broken lines before a token.
def skipIdle : Nat → Reading Unit
  | 0 => return ()
  | fuel + 1 => do
      match ← peek, ← second? with
      | some ' ', _ | some '\t', _ =>
          skip
          skipIdle fuel
      | some '#', _ =>
          let _ ← takeWhile (· != '\n')
      | some '\\', some '\n' =>
          skip
          skip
          skipIdle fuel
      | _, _ => return ()

end Reading

-- Operators of conditions that stand before one word, and those between two words.
def unaryConditions : List String :=
  ["-a", "-b", "-c", "-d", "-e", "-f", "-g", "-h", "-k", "-n", "-o", "-p", "-r", "-s", "-t", "-u",
    "-v", "-w", "-x", "-z", "-G", "-L", "-N", "-O", "-R", "-S"]

def binaryConditions : List String :=
  ["=", "==", "!=", "=~", "<", ">", "-eq", "-ne", "-lt", "-le", "-gt", "-ge", "-nt", "-ot", "-ef"]

def digitIn? (base : Nat) (c : Char) : Option Nat :=
  let value :=
    if c.isDigit then c.toNat - '0'.toNat
    else if c.isAlpha then c.toLower.toNat - 'a'.toNat + 10
    else base
  if value < base then some value else none

-- The bytes of a character that is spelled by its number. Beyond the first ones it stays spelled.
def unicodeBytes (value : Nat) : List UInt8 :=
  if value < 128 then [UInt8.ofNat value]
  else
    let digits := (Nat.toDigits 16 value).map Char.toUpper
    let size := if value < 65536 then 4 else 8
    let filled := List.replicate (size - digits.length) '0' ++ digits
    Utf8.encode (String.ofList ('\\' :: (if size = 4 then 'u' else 'U') :: filled))

-- The byte that octal or hexadecimal digits spell, as far as they go, and how many they are.
def spelledNumber (base most : Nat) (s : List Char) : Nat × Nat :=
  let digits := (s.take most).takeWhile fun c => (digitIn? base c).isSome
  (digits.foldl (fun n c => n * base + (digitIn? base c).getD 0) 0, digits.length)

-- The bytes that stand for the character behind a backslash, and how many characters they take.
def escapedBytes (s : List Char) : List UInt8 × Nat :=
  let spelled (base most skipped : Nat) : Option (List UInt8 × Nat) :=
    match spelledNumber base most (s.drop skipped) with
    | (_, 0) => none
    | (value, count) => some ([UInt8.ofNat value], skipped + count)
  match s with
  | [] => ([92], 0)
  | c :: rest =>
      let plain : List UInt8 × Nat := (92 :: Utf8.encode c.toString, 1)
      match c with
      | 'a' => ([7], 1)
      | 'b' => ([8], 1)
      | 'e' | 'E' => ([27], 1)
      | 'f' => ([12], 1)
      | 'n' => ([10], 1)
      | 'r' => ([13], 1)
      | 't' => ([9], 1)
      | 'v' => ([11], 1)
      | '\\' | '\x27' | '\x22' | '?' => (Utf8.encode c.toString, 1)
      | 'x' => (spelled 16 2 1).getD plain
      | 'u' | 'U' =>
          match spelledNumber 16 (if c = 'u' then 4 else 8) rest with
          | (_, 0) => plain
          | (value, count) => (unicodeBytes value, count + 1)
      | 'c' =>
          match rest with
          | d :: _ => ([UInt8.ofNat (d.toUpper.toNat ^^^ 64 &&& 127)], 2)
          | [] => plain
      | _ => (spelled 8 3 0).getD plain

-- The bytes of a text in quotes in which backslashes spell characters, and what follows the quote
-- behind it. The first argument counts the characters still to be passed over.
def spelledText? : Nat → List Char → Option (List UInt8 × List Char)
  | _, [] => none
  | skip + 1, _ :: rest => spelledText? skip rest
  | 0, c :: rest =>
      if c = '\x27' then some ([], rest)
      else if c = '\\' then
        let (bytes, count) := escapedBytes rest
        (spelledText? count rest).map fun (inside, after) => (bytes ++ inside, after)
      else
        (spelledText? 0 rest).map fun (inside, after) => (Utf8.encode c.toString ++ inside, after)

def isMeta (c : Char) : Bool :=
  [' ', '\t', '\n', ';', '&', '|', '<', '>', '(', ')'].contains c

-- Where a word is read, which decides what ends it and what is special in it.
inductive Site where
  | bare
  | quotes
  | braces (quoted : Bool)
  -- Between braces up to a slash.
  | pieces (quoted : Bool)
  | arithmetic (depth : Nat)
  | document
  -- Up to the bracket that closes a key.
  | key (depth : Nat)
  -- Up to the bracket that closes a group of a pattern.
  | group
  -- A pattern for a condition, in which so many brackets are open.
  | pattern (depth : Nat)
deriving DecidableEq

namespace Site

def quoted : Site → Bool
  | bare | key _ | group | pattern _ => false
  | braces quoted | pieces quoted => quoted
  | _ => true

-- The characters that a backslash takes the meaning from inside quotes.
def escapable (site : Site) (c : Char) : Bool :=
  c == '$' || c == '\x60' || c == '\\' ||
    match site with
    | quotes | arithmetic _ => c == '\x22'
    | braces _ => c == '\x22' || c == '\x7d'
    | pieces _ => c == '\x22' || c == '\x7d' || c == '/'
    | _ => false

-- Whether quotes that keep values in one piece stand for themselves.
def keepsQuotes : Site → Bool
  | document | arithmetic _ => true
  | _ => false

-- The sign that is missing where the text ends too early, and how the plain dialect says so.
def endFault? : Site → Option (String × String)
  | bare | document | pattern _ => none
  | quotes => some ("\x22", "Unterminated quoted string")
  | braces true | pieces true => some ("\x7d", "Unterminated quoted string")
  | braces false | pieces false => some ("\x7d", "Missing '\x7d'")
  | arithmetic _ | group => some (")", "Missing '))'")
  | key _ => some ("]", "Missing ']'")

end Site

-- Cuts the lines of a document off a text, up to the line that is its mark. Tabs at the front of a
-- line may be taken away.
def splitDocument (mark : List Char) (strips : Bool) : List (List Char) →
    List Char × Nat × List (List Char)
  | [] => ([], 0, [])
  | line :: rest =>
      let shown := if strips then line.dropWhile (· == '\t') else line
      if shown = mark then ([], 1, rest)
      else
        let (body, count, after) := splitDocument mark strips rest
        -- The piece behind the last break has no break of its own, and is no line if it is empty.
        if rest.isEmpty then (shown, if shown.isEmpty then count else count + 1, after)
        else (shown ++ '\n' :: body, count + 1, after)

def endsDocument (mark : List Char) (strips : Bool) (lines : List (List Char)) : Bool :=
  lines.any fun line => (if strips then line.dropWhile (· == '\t') else line) == mark

-- The text between backquotes: some characters lose the backslash before them.
def backquoted (quoted : Bool) : List Char → Option (List Char × List Char)
  | [] => none
  | '\x60' :: rest => some ([], rest)
  | '\\' :: c :: rest =>
      let kept := if c == '\\' || c == '\x60' || c == '$' || (quoted && c == '\x22') then [c]
        else ['\\', c]
      (backquoted quoted rest).map fun (inside, after) => (kept ++ inside, after)
  | c :: rest => (backquoted quoted rest).map fun (inside, after) => (c :: inside, after)

-- Whether the bracket that closes this text comes twice. So many brackets are open in it.
def closesTwice : Nat → List Char → Bool
  | _, [] => true
  | depth, '(' :: rest => closesTwice (depth + 1) rest
  | 0, ')' :: rest => rest.head? == some ')'
  | depth + 1, ')' :: rest => closesTwice depth rest
  | depth, _ :: rest => closesTwice depth rest

-- Whether a text begins with the name of a collection and a key to which a value is given, so that
-- blanks in the key do not end the word. So many brackets are open.
def endsKey : Nat → List Char → Bool
  | _, [] => false
  | _, '\n' :: _ => false
  | 0, ']' :: rest => (assigningSign? rest).isSome
  | depth + 1, ']' :: rest => endsKey depth rest
  | depth, '[' :: rest => endsKey (depth + 1) rest
  | depth, _ :: rest => endsKey depth rest

-- The name of a collection in front of a key to which a value is given.
def keyedName? (text : List Char) : Option (List Char) :=
  let name := text.takeWhile isNameChar
  match text.drop name.length with
  | '[' :: rest => if isName name && endsKey 0 rest then some name else none
  | _ => none

end MakeCheck.Shell
