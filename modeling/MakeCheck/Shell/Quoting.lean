import MakeCheck.Shell.Complaint

namespace MakeCheck.Shell

open Text

-- Signs that mean something to a script wherever they stand.
def meaningfulSigns : List Char :=
  [' ', '\t', '\n', '\x27', '\x22', '\\', '|', '&', ';', '(', ')', '<', '>', '!', '\x7b', '\x7d',
    '*', '[', ']', '?', '^', '$', '\x60']

-- Whether a script would have to quote a text. The character before it comes first.
def hasMeaning (before : Option Char) : List Char → Bool
  | [] => false
  | c :: rest =>
      meaningfulSigns.contains c ||
        (c == '~' && before.all fun d => d == '=' || d == ':') ||
        (c == '#' && before.isNone) || hasMeaning (some c) rest

def isShown (byte : UInt8) : Bool :=
  decide (32 ≤ byte ∧ byte < 127)

def hasHidden (text : String) : Bool :=
  (Utf8.encode text).any fun byte => !isShown byte

def singleQuoted (text : String) : String :=
  if text = "\x27" then "\\\x27"
  else
    "\x27" ++ String.join (text.toList.map fun c =>
      if c = '\x27' then "\x27\\\x27\x27" else c.toString) ++ "\x27"

-- A text in quotes in which backslashes spell what cannot be shown.
def spelledOut (text : String) : String :=
  let octal (byte : UInt8) : List Char :=
    [64, 8, 1].map fun place => Nat.digitChar (byte.toNat / place % 8)
  let shown (byte : UInt8) : List Char :=
    match byte with
    | 7 => ['\\', 'a']
    | 8 => ['\\', 'b']
    | 9 => ['\\', 't']
    | 10 => ['\\', 'n']
    | 11 => ['\\', 'v']
    | 12 => ['\\', 'f']
    | 13 => ['\\', 'r']
    | 27 => ['\\', 'E']
    | 39 => ['\\', '\x27']
    | 92 => ['\\', '\\']
    | _ => if isShown byte then [Char.ofNat byte.toNat] else '\\' :: octal byte
  "$\x27" ++ String.ofList ((Utf8.encode text).flatMap shown) ++ "\x27"

def tracedWord (text : String) : String :=
  if text = "" then "\x27\x27"
  else if hasMeaning none text.toList then singleQuoted text
  else if hasHidden text then spelledOut text
  else text

def readableValue (text : String) : String :=
  if hasHidden text then spelledOut text
  else if hasMeaning none text.toList then singleQuoted text
  else text

def quotedAlways (text : String) : String :=
  if hasHidden text then spelledOut text else singleQuoted text

def doubleQuoted (text : String) : String :=
  if hasHidden text then spelledOut text
  else
    "\x22" ++ String.join (text.toList.map fun c =>
      if ['$', '\x60', '\x22', '\\'].contains c then "\\" ++ c.toString else c.toString) ++ "\x22"

-- A word with a backslash before all that means something.
def escapedWord (text : String) : String :=
  if text = "" then "\x27\x27"
  else if hasHidden text then spelledOut text
  else
    let (shown, _) := text.toList.foldl
      (fun (shown, before) c =>
        let isEscaped := c == ',' || hasMeaning before [c]
        (shown ++ if isEscaped then ['\\', c] else [c], some c))
      (([], none) : List Char × Option Char)
    String.ofList shown

namespace Process

def traitLetters (process : Process) (name : String) : String :=
  let collection := process.collection? name
  let traits := process.traits name
  let letters :=
    (match collection with
      | some (.row _) => ['a']
      | some (.table _) => ['A']
      | none => if (process.ownRow? name).isSome then ['a'] else []) ++
    (if traits.contains 'i' then ['i'] else []) ++
    (if (process.extras.aims.lookup name).isSome then ['n'] else []) ++
    (if process.constant.contains name then ['r'] else []) ++
    (if process.exported.contains name then ['x'] else []) ++
    (if traits.contains 'l' then ['l'] else []) ++ if traits.contains 'u' then ['u'] else []
  String.ofList letters

-- The entries of a collection as a script would write them.
def entriesText (isTable : Bool) (entries : List (String × String)) : String :=
  let key (text : String) : String :=
    if hasHidden text then spelledOut text
    else if hasMeaning none text.toList then doubleQuoted text
    else text
  let shown := entries.map fun (name, value) => "[" ++ key name ++ "]=" ++ doubleQuoted value
  "(" ++ " ".intercalate shown ++ (if isTable && !entries.isEmpty then " " else "") ++ ")"

-- The value of a variable as a script would write it, if there is one.
def valueText? (process : Process) (name : String) (quote : String → String) : Option String :=
  match process.extras.aims.lookup name with
  | some aim => some (doubleQuoted aim)
  | none =>
      match process.collection? name, process.ownRow? name with
      | some collection, _ =>
          if collection.size == 0 && (process.traits name).contains bareMark then none
          else some (entriesText collection.isTable collection.entries)
      | none, some values => some (entriesText false (Collection.ofList values).entries)
      | none, none => ((process.bindings.lookup name).or (process.fixedValue? name)).map quote

def isKnown (process : Process) (name : String) : Bool :=
  (process.valueText? name id).isSome || process.exported.contains name ||
    process.constant.contains name || !(process.traits name).isEmpty

def declarationText (process : Process) (name : String) : String :=
  let letters := process.traitLetters name
  let value := match process.valueText? name doubleQuoted with
    | some text => "=" ++ text
    | none => ""
  "declare -" ++ (if letters = "" then "-" else letters) ++ " " ++ name ++ value ++ "\n"

def names (process : Process) : List String :=
  let all := process.bindings.map (·.1) ++ process.extras.collections.map (·.1) ++
    process.extras.aims.map (·.1) ++ process.extras.traits.map (·.1) ++ process.exported ++
    process.constant
  all.eraseDups.mergeSort fun a b => decide (a ≤ b)

end Process

end MakeCheck.Shell
