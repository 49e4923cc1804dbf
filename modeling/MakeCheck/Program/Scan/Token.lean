import MakeCheck.Program.Scan.Shape

namespace MakeCheck.Program.Scan

open Decimal

inductive Token where
  | number (value : Binary64) (written : List Char)
  | text (text written : List Char)
  | shape (shape : List Char)
  | name (name : String)
  -- A name with a bracket directly behind it.
  | called (name : String)
  | builtin (name : String)
  | keyword (word : String)
  | sign (sign : String)
  | newline
  | finish
  | unexpected (c : Char)
  -- What begins here has no end.
  | endless (isShape : Bool) (text : List Char)
deriving DecidableEq

-- A token, its line, and how many brackets and braces are open at it.
structure Placed where
  token : Token
  line : Nat
  brackets : Nat
  braces : Nat

def keywords : List String :=
  ["BEGIN", "END", "function", "if", "else", "while", "for", "do", "break", "continue", "return",
    "next", "nextfile", "exit", "delete", "in", "getline", "print", "printf"]

-- The functions that are always there, and how many arguments they take.
def builtins : List (String × Nat × Nat) :=
  [("length", 0, 1), ("index", 2, 2), ("substr", 2, 3), ("split", 2, 3), ("sub", 2, 3),
    ("gsub", 2, 3), ("match", 2, 2), ("sprintf", 1, 255), ("sin", 1, 1), ("cos", 1, 1),
    ("atan2", 2, 2), ("exp", 1, 1), ("log", 1, 1), ("sqrt", 1, 1), ("int", 1, 1), ("rand", 0, 0),
    ("srand", 0, 1), ("tolower", 1, 1), ("toupper", 1, 1), ("system", 1, 1), ("close", 1, 1),
    ("fflush", 0, 1), ("systime", 0, 0), ("mktime", 1, 1), ("strftime", 0, 3)]

def longSigns : List String :=
  ["&&", "||", "==", "!=", "<=", ">=", ">>", "!~", "++", "--", "+=", "-=", "*=", "/=", "%=",
    "^="]

def shortSigns : List Char :=
  ['{', '}', '(', ')', '[', ']', ';', ',', '+', '-', '*', '/', '%', '^', '!', '<', '>', '|', '?',
    ':', '~', '$', '=']

def Token.isOperand : Token → Bool
  | number .. | text .. | shape _ | name _ => true
  | sign ")" | sign "]" | sign "++" | sign "--" | sign "$" => true
  | keyword "getline" => true
  | _ => false

-- The text between quotes with its escapes read. What is not known keeps its backslash.
def readText : Nat → List Char → List Char
  | 0, _ => []
  | _, [] => []
  | fuel + 1, '\\' :: '\n' :: rest => readText fuel rest
  | fuel + 1, '\\' :: '\x22' :: rest => '\x22' :: readText fuel rest
  | fuel + 1, '\\' :: c :: rest =>
      let style : EscapeStyle := ⟨false, true, [], false, false⟩
      match if c = 'e' then none else namedByte? style (c :: rest) with
      | some (byte, count) =>
          Char.ofNat byte.toNat :: readText fuel ((c :: rest).drop count)
      | none => '\\' :: c :: readText fuel rest
  | fuel + 1, c :: rest => c :: readText fuel rest

-- What stands up to the quote that ends a text, and what follows it.
def untilQuote : List Char → Option (List Char × List Char)
  | [] => none
  | '\x22' :: rest => some ([], rest)
  | '\\' :: c :: rest => (untilQuote rest).map fun (text, after) => ('\\' :: c :: text, after)
  | c :: rest =>
      if c = '\n' then none else (untilQuote rest).map fun (text, after) => (c :: text, after)

-- What stands up to the slash that ends a shape. One inside of a set does not end it.
def untilSlash (inSet : Bool) : List Char → Option (List Char × List Char)
  | [] => none
  | '\\' :: c :: rest =>
      if c = '\n' then none
      else (untilSlash inSet rest).map fun (text, after) => ('\\' :: c :: text, after)
  | '[' :: '^' :: ']' :: rest =>
      (untilSlash true rest).map fun (text, after) => ('[' :: '^' :: ']' :: text, after)
  | '[' :: ']' :: rest =>
      (untilSlash true rest).map fun (text, after) => ('[' :: ']' :: text, after)
  | c :: rest =>
      if c = '\n' then none
      else if c = '/' && !inSet then some ([], rest)
      else
        let inside := if c = '[' then true else if c = ']' then false else inSet
        (untilSlash inside rest).map fun (text, after) => (c :: text, after)

def isNameStart (c : Char) : Bool := c.isAlpha || c == '_'

def isNameChar (c : Char) : Bool := c.isAlphanum || c == '_'

-- A name or a word that is known, by what stands behind it.
def wordToken (word : String) (rest : List Char) : Token :=
  if keywords.contains word then .keyword word
  else if builtins.any fun entry => entry.1 == word then .builtin word
  else if rest.head? = some '(' then .called word
  else .name word

-- The token at the front of a text, and what follows it. Blanks and comments are gone by now.
def readToken (divides : Bool) (s : List Char) : Token × List Char :=
  match s with
  | [] => (.finish, [])
  | '\n' :: rest => (.newline, rest)
  | '\x22' :: rest =>
      match untilQuote rest with
      | some (text, after) => (.text (readText text.length text) text, after)
      | none => (.endless false (rest.takeWhile (· != '\n')), [])
  | c :: rest =>
      if isNameStart c then
        let word := s.takeWhile isNameChar
        let after := s.drop word.length
        (wordToken (String.ofList word) after, after)
      else if c.isDigit || (c == '.' && rest.head?.any Char.isDigit) then
        match leadingNumeral? false s with
        | some (value, after) => (.number value (s.take (s.length - after.length)), after)
        | none => (.unexpected c, rest)
      else if c = '/' && !divides then
        match untilSlash false rest with
        | some (shape, after) => (.shape shape, after)
        | none => (.endless true (rest.takeWhile (· != '\n')), [])
      else
        match longSigns.find? fun sign => sign.toList.isPrefixOf s with
        | some sign => (.sign sign, s.drop sign.length)
        | none => if shortSigns.contains c then (.sign c.toString, rest) else (.unexpected c, rest)

-- Takes blanks, comments and broken line ends away, and counts the lines on the way.
def skipBlanks : Nat → Nat → List Char → Nat × List Char
  | 0, line, s => (line, s)
  | fuel + 1, line, s =>
      match s with
      | '\\' :: '\n' :: rest => skipBlanks fuel (line + 1) rest
      | '\\' :: '\x0d' :: '\n' :: rest => skipBlanks fuel (line + 1) rest
      | '#' :: rest => (line, rest.dropWhile (· != '\n'))
      | c :: rest =>
          if c = ' ' ∨ c = '\t' ∨ c = '\x0d' ∨ c = '\x0b' ∨ c = '\x0c' then
            skipBlanks fuel line rest
          else (line, s)
      | [] => (line, [])

-- All tokens of a script. The last ones tell that it is over.
def tokens : Nat → Nat → Nat → Nat → Option Token → List Char → List Placed
  | 0, line, brackets, braces, _, _ => [⟨.finish, line, brackets, braces⟩]
  | fuel + 1, line, brackets, braces, before, s =>
      let (line, s) := skipBlanks s.length line s
      let (token, rest) := readToken (before.any Token.isOperand) s
      let here : Placed := ⟨token, line, brackets, braces⟩
      let broken := (s.take (s.length - rest.length)).count '\n'
      let following := tokens fuel (line + broken)
      match token with
      | .finish => [here]
      | .sign "(" => here :: following (brackets + 1) braces (some token) rest
      | .sign ")" => here :: following (brackets - 1) braces (some token) rest
      | .sign "\x7b" => here :: following brackets (braces + 1) (some token) rest
      | .sign "\x7d" => here :: following brackets (braces - 1) (some token) rest
      | _ => here :: following brackets braces (some token) rest

def Token.shown : Token → List Char
  | number _ written => written
  | text _ written => written
  | shape s => '/' :: s ++ ['/']
  | name word | called word | builtin word => word.toList
  | keyword word => word.toList
  | sign mark => mark.toList
  | newline => "end of line".toList
  | finish => "end of file".toList
  | unexpected c => [c]
  | endless _ s => s

end MakeCheck.Program.Scan
