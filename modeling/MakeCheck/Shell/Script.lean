namespace MakeCheck.Shell

-- What a shell understands: what all shells have in common, or more than that, such as collections
-- of values and conditions of their own.
inductive Dialect where
  | plain
  | extended
deriving DecidableEq

-- Where a redirection leads: to the place of another channel, to a named file, or from one.
inductive RedirectKind where
  | duplicate
  | overwrite (always : Bool)
  | append
  | input
  -- Opens a file to be read and to be written, from its start.
  | update
  | document
  | line
  | everything (appends : Bool)
deriving DecidableEq

-- What stands in for the value of a parameter that is missing, or what is done about it.
inductive Otherwise where
  | use
  | assign
  | complain
  | replace
deriving DecidableEq

inductive Place where
  | first
  | every
  | front
  | back
deriving DecidableEq

-- What happens behind one of the cases that a text is compared with: nothing more, or the commands
-- of the next case, or the comparison with the next one.
inductive Continuation where
  | stop
  | proceed
  | compare
deriving DecidableEq

mutual

-- A stretch of a word. What is quoted is neither split nor left out when it is empty.
inductive Part where
  | text (quoted : Bool) (text : List Char)
  | parameter (quoted : Bool) (name : String) (use : Use)
  | arithmetic (quoted : Bool) (expression : List Part)
  | command (quoted : Bool) (body : Script)
  | chosen (quoted : Bool) (origin : Origin) (use : Use)
  | entries (words : List (List Part))
  -- A file that stands for what a command writes, or for what it reads.
  | passage (writes : Bool) (body : Script)
  -- What stands for no value, as it is written.
  | faulty (text : List Char)

-- Where values come from: a parameter, an entry of a collection, all of its entries, the parameter
-- that another one names, the keys of a collection, or the names that begin in some way. The flag
-- tells that all values make up one.
inductive Origin where
  | name (name : String)
  | entry (name : String) (key : List Part)
  | all (name : String) (joined : Bool)
  | through (origin : Origin)
  | keys (name : String) (joined : Bool)
  | beginning (text : String) (joined : Bool)

inductive Use where
  | plain
  | length
  | otherwise (kind : Otherwise) (ifEmpty : Bool) (word : List Part)
  | trim (atEnd longest : Bool) (pattern : List Part)
  | wrong
  | slice (start : List Part) (size : Option (List Part))
  | exchange (place : Place) (pattern replacement : List Part)
  -- Changes the case of letters: the first one or all of them, as far as they fit a pattern.
  | recase (letter : Char) (isAll : Bool) (pattern : List Part)
  | shown (letter : Char)

-- A variable gets a value, or an entry of a collection does. The flag tells that the value is
-- added to what is there.
inductive Assignment where
  | to (name : String) (key : Option (List Part)) (appends : Bool) (value : List Part)

inductive Condition where
  | word (word : List Part)
  | unary (operator : String) (word : List Part)
  | binary (operator : String) (left right : List Part)
  | negate (condition : Condition)
  | both (first second : Condition)
  | either (first second : Condition)

inductive Redirect where
  | to (channel : Nat) (kind : RedirectKind) (target : List Part)

-- A command of a script, with the line that it stands on where it can complain.
inductive Script where
  | nothing
  | simple (line : Nat) (assignments : List Assignment) (words : List (List Part))
      (redirects : List Redirect)
  | subshell (line : Nat) (body : Script) (redirects : List Redirect)
  | group (line : Nat) (body : Script) (redirects : List Redirect)
  | sequence (first second : Script)
  | both (first second : Script)
  | either (first second : Script)
  | negate (body : Script)
  | pipe (source target : Script)
  | background (body : Script)
  | choice (condition yes no : Script)
  | loop (inverted : Bool) (condition body : Script)
  | each (line : Nat) (name : String) (words : List (List Part)) (body : Script)
  | select (line : Nat) (word : List Part)
      (cases : List (List (List Part) × Script × Continuation))
  | function (name : String) (body : Script)
  | condition (line : Nat) (condition : Condition)
  | reckoning (line : Nat) (expression : List Part)
  | counting (line : Nat) (start condition next : List Part) (body : Script)
  | timed (body : Script)

end

abbrev Word := List Part

def isNameStart (c : Char) : Bool :=
  c.isAlpha || c == '_'

def isNameChar (c : Char) : Bool :=
  c.isAlphanum || c == '_'

def isName (s : List Char) : Bool :=
  s.head?.any isNameStart && s.all isNameChar

def Word.cons (quoted : Bool) (c : Char) : Word → Word
  | .text other text :: rest =>
      if other == quoted then .text quoted (c :: text) :: rest
      else .text quoted [c] :: .text other text :: rest
  | parts => .text quoted [c] :: parts

def plainText? : Word → Option (List Char)
  | [.text false text] => some text
  | _ => none

-- The text of a word whose quotes are taken away. Values are left as they are not known.
def Word.bareText (word : Word) : List Char :=
  word.flatMap fun part =>
    match part with
    | .text _ text => text
    | _ => []

def Part.isQuoted : Part → Bool
  | .text quoted _ => quoted
  | .parameter quoted .. => quoted
  | .arithmetic quoted _ => quoted
  | .command quoted _ => quoted
  | .chosen quoted .. => quoted
  | .entries _ | .passage .. | .faulty _ => false

-- What stands in front of the sign that a value follows, and whether the value is added.
def assigningSign? : List Char → Option (Bool × List Char)
  | '=' :: value => some (false, value)
  | '+' :: '=' :: value => some (true, value)
  | _ => none

def Word.behind (text : List Char) (rest : Word) : Word :=
  if text.isEmpty then rest else .text false text :: rest

-- What the text of a part shows of a key: so many brackets are open at its end, or the key ends and
-- a value follows it.
inductive KeyEnd where
  | open (depth : Nat)
  | value (key : List Char) (appends : Bool) (value : List Char)

-- Looks for the bracket that closes a key. What was read comes in reverse order.
def keyEnd? : Nat → List Char → List Char → Option KeyEnd
  | depth, _, [] => some (.open depth)
  | 0, before, ']' :: rest =>
      (assigningSign? rest).map fun (appends, value) => .value before.reverse appends value
  | depth + 1, before, ']' :: rest => keyEnd? depth (']' :: before) rest
  | depth, before, '[' :: rest => keyEnd? (depth + 1) ('[' :: before) rest
  | depth, before, c :: rest => keyEnd? depth (c :: before) rest

-- The key in brackets at the front of a word and the value behind it. The opening bracket has been
-- taken away.
def splitKey? : Nat → Word → Option (Word × Bool × Word)
  | _, [] => none
  | depth, .text false text :: rest =>
      match keyEnd? depth [] text with
      | some (.value key appends value) =>
          some (Word.behind key [], appends, Word.behind value rest)
      | some (.open depth) =>
          (splitKey? depth rest).map fun (key, appends, value) =>
            (.text false text :: key, appends, value)
      | none => none
  | depth, part :: rest =>
      (splitKey? depth rest).map fun (key, appends, value) => (part :: key, appends, value)

-- The assignment that a word is. Only the extended dialect has keys and values that are added.
def assignment? (dialect : Dialect) : Word → Option Assignment
  | .text false text :: rest =>
      let name := text.takeWhile isNameChar
      let after := text.drop name.length
      if !isName name then none
      else
        let name := String.ofList name
        match dialect, after with
        | _, '=' :: value => some (.to name none false (Word.behind value rest))
        | .extended, '+' :: '=' :: value => some (.to name none true (Word.behind value rest))
        | .extended, '[' :: key =>
            (splitKey? 0 (Word.behind key rest)).map fun (key, appends, value) =>
              .to name (some key) appends value
        | _, _ => none
  | _ => none

def entryKey? : Word → Option (Word × Bool × Word)
  | .text false ('[' :: key) :: rest => splitKey? 0 (Word.behind key rest)
  | _ => none

end MakeCheck.Shell
