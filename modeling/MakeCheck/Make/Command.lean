import MakeCheck.Make.Workshop

namespace MakeCheck.Make

open Text Program

-- Characters that mean something to a shell, and commands that only a shell knows.
def shellMarks : List Char :=
  "#;\"*?[]&|<>()\x7b\x7d$\x60^~!".toList

def shellCommands : List String :=
  [".", ":", "alias", "bg", "break", "case", "cd", "command", "continue", "eval", "exec", "exit",
    "export", "fc", "fg", "for", "getopts", "hash", "if", "jobs", "login", "logout", "read",
    "readonly", "return", "set", "shift", "test", "times", "trap", "type", "ulimit", "umask",
    "unalias", "unset", "wait", "while"]

-- How far the reading of a command line has come: the words so far, the latest first, the word that
-- is open, whether all words before it held an equals sign, and whether it holds one.
structure WordReading where
  words : List (List Char)
  open? : Option (List Char)
  isLeading : Bool
  hasEquals : Bool

def WordReading.add (reading : WordReading) (c : Char) : WordReading :=
  { reading with open? := some (c :: reading.open?.getD []) }

-- Closes the open word. The first one must not be a command of the shell.
def WordReading.close? (reading : WordReading) : Option WordReading :=
  match reading.open? with
  | none => some reading
  | some word =>
      let isCommand := reading.words.isEmpty &&
        shellCommands.contains (String.ofList word.reverse)
      if isCommand || (reading.hasEquals && reading.isLeading) then none
      else
        some
          { words := word.reverse :: reading.words
            open? := none
            isLeading := reading.isLeading && reading.hasEquals
            hasEquals := false }

-- The words of a command line that no shell is needed for. A quote that is open comes with it.
def simpleWords? : Option Char → WordReading → List Char → Option WordReading
  | some _, _, [] => none
  | none, reading, [] => reading.close?
  | some mark, reading, c :: rest =>
      if c = mark then simpleWords? none reading rest
      else if mark = '\x22' ∧ ['\\', '$', '\x60'].contains c then none
      else simpleWords? (some mark) (reading.add c) rest
  | none, reading, '\\' :: '\n' :: rest =>
      simpleWords? none reading
        (if reading.open?.isNone then rest.dropWhile isBlank else rest)
  | none, reading, '\\' :: c :: rest => simpleWords? none (reading.add c) rest
  | none, reading, c :: rest =>
      if c = '\x27' ∨ c = '\x22' then
        simpleWords? (some c) { reading with open? := some (reading.open?.getD []) } rest
      else if shellMarks.contains c then none
      else if c = '=' then
        if reading.isLeading then none
        else simpleWords? none { reading.add c with hasEquals := true } rest
      else if isBlank c then
        match reading.close? with
        | some closed => simpleWords? none closed rest
        | none => none
      else simpleWords? none (reading.add c) rest
termination_by _ _ s => s.length
decreasing_by
  all_goals have := (List.dropWhile_suffix isBlank (l := rest)).length_le
  all_goals simp only [List.length_cons]
  case _ => omega
  case _ => omega
  case _ => split <;> omega
  all_goals omega

-- The shell that runs command lines, and its options.
structure ShellChoice where
  name : String
  flags : List String
  isOneShell : Bool

def standardShell : String := "/bin/sh"

-- A text with a backslash before each character that means something outside of quotes. A line
-- break that has one already stays behind it.
def shielded (means : Char → Bool) : List Char → List Char
  | [] => []
  | '\\' :: '\n' :: rest => '\\' :: '\\' :: '\n' :: shielded means rest
  | c :: rest => if means c then '\\' :: c :: shielded means rest else c :: shielded means rest

-- The line that hands a command line over to a shell, whose name may have several words.
def ShellChoice.handOver (choice : ShellChoice) (line : List Char) : List Char :=
  let means (c : Char) : Bool := c == '\\' || c == '\x27' || isSpace c || shellMarks.contains c
  shielded shellMarks.contains choice.name.toList ++ ' ' ::
    (" ".intercalate choice.flags).toList ++ ' ' :: shielded means line

def plainWords? (line : List Char) : Option (List String) :=
  (simpleWords? none ⟨[], none, true, false⟩ line).map fun reading =>
    reading.words.reverse.map String.ofList

def ShellChoice.words (choice : ShellChoice) (line : List Char) : List String :=
  if choice.isOneShell then choice.name :: choice.flags ++ [String.ofList line]
  else
    let line := choice.handOver line
    (plainWords? line).getD [standardShell, "-c", String.ofList line]

-- The words that run a command line: its own, or those of a shell that reads it.
def commandWords (choice : ShellChoice) (line : List Char) : List String :=
  let line := dropSpace line
  let isPlain := choice.name == standardShell && (choice.flags == ["-c"] || choice.flags == ["-ec"])
  if line.isEmpty then []
  else if !isPlain || (choice.isOneShell && line.contains '\n') then choice.words line
  else (plainWords? line).getD (choice.words line)

-- The first command of a text and the rest. A backslash keeps a line break from ending it.
def splitCommand : List Char → List Char × Option (List Char)
  | [] => ([], none)
  | '\\' :: c :: rest =>
      let (line, after) := splitCommand rest
      ('\\' :: c :: line, after)
  | '\n' :: rest => ([], some rest)
  | c :: rest =>
      let (line, after) := splitCommand rest
      (c :: line, after)

end MakeCheck.Make
