import MakeCheck.Program.Mode
import MakeCheck.Program.Pattern
import MakeCheck.Program.Utility
import MakeCheck.Shell.Glob

namespace MakeCheck.Program

open Text

-- A number that is met exactly, by more or by less.
structure Measure where
  sign : Ordering
  number : Nat

def Measure.fits (measure : Measure) (value : Int) : Bool :=
  compare value (measure.number : Int) == measure.sign

-- A pattern for names, where a backslash takes the meaning of what follows.
def escapedPattern : List Char → Shell.Marked
  | '\\' :: c :: rest => (c, true) :: escapedPattern rest
  | c :: rest => (c, false) :: escapedPattern rest
  | [] => []

-- What a file is asked, and what is done with it. What is done counts as fine unless it fails.
inductive FindTest where
  | both (first second : FindTest)
  | either (first second : FindTest)
  | inTurn (first second : FindTest)
  | negate (body : FindTest)
  | always (holds : Bool)
  | named (pattern : List Shell.Glob) (folds : Bool)
  | lying (pattern : List Shell.Glob) (folds : Bool)
  | leading (pattern : List Shell.Glob) (folds : Bool)
  | matching (pattern : Pattern) (folds : Bool)
  | kind (letters : List Char) (follows : Bool)
  | size (measure : Measure) (unit : Nat)
  | empty
  | newer (time : Time)
  | age (measure : Measure) (unit : Nat)
  | rights (sign : Option Char) (mode : Nat)
  | links (measure : Measure)
  | owned (isRoot : Bool)
  | executable
  | prune
  | quit
  | print (stop : List UInt8)
  | printForm (form : List Char)
  | start (inFolder : Bool) (words : List String)
  | gather (inFolder : Bool) (index : Nat) (words : List String)
  | delete

namespace FindTest

-- Whether something is done besides asking, so that names are not printed anyway.
def acts : FindTest → Bool
  | both first second | either first second | inTurn first second => first.acts || second.acts
  | negate body => body.acts
  | print _ | printForm _ | start .. | gather .. | delete | quit => true
  | _ => false

def asksDepth : FindTest → Bool
  | both first second | either first second | inTurn first second =>
      first.asksDepth || second.asksDepth
  | negate body => body.asksDepth
  | delete => true
  | _ => false

def gatherings : FindTest → List (Bool × Nat × List String)
  | both first second | either first second | inTurn first second =>
      first.gatherings ++ second.gatherings
  | negate body => body.gatherings
  | gather inFolder index words => [(inFolder, index, words)]
  | _ => []

end FindTest

-- What holds for a whole search.
structure FindLimits where
  least : Nat
  greatest : Option Nat
  depthFirst : Bool

-- What is read of a search: words that follow, and what was found out on the way.
structure FindReading where
  words : List String
  limits : FindLimits
  count : Nat
  last : Option String

abbrev FindReader (α : Type) := StateT FindReading (Except String) α

def tickedName (name : String) : String :=
  "\x60" ++ name ++ "'"

def findWord? : FindReader (Option String) := do
  let reading ← get
  return reading.words.head?

def skipWord : FindReader Unit :=
  modify fun reading => { reading with words := reading.words.tail }

def findArgument (name : String) : FindReader String := do
  let reading ← get
  match reading.words with
  | word :: rest =>
      set { reading with words := rest }
      return word
  | [] => throw ("missing argument to " ++ tickedName name)

def measure? (text : String) : Option Measure :=
  let (sign, digits) :=
    match text.toList with
    | '+' :: rest => (Ordering.gt, rest)
    | '-' :: rest => (.lt, rest)
    | rest => (.eq, rest)
  if digits.isEmpty || !digits.all Char.isDigit then none else some ⟨sign, decimalValue digits⟩

def sizeUnit? : Char → Option Nat
  | 'b' => some 512
  | 'c' => some 1
  | 'w' => some 2
  | 'k' => some (Nat.pow 2 10)
  | 'M' => some (Nat.pow 2 20)
  | 'G' => some (Nat.pow 2 30)
  | _ => none

-- The words of a command up to a semicolon, or up to a plus behind a pair of braces.
def commandWords : List String → List String → Option (Bool × List String × List String)
  | _, [] => none
  | found, ";" :: rest => some (false, found.reverse, rest)
  | "\x7b\x7d" :: found, "+" :: rest => some (true, found.reverse, rest)
  | found, word :: rest => commandWords (word :: found) rest

def findCommand (name : String) : FindReader FindTest := do
  let reading ← get
  let inFolder := name == "-execdir" || name == "-okdir"
  match commandWords [] reading.words with
  | none => throw ("missing argument to " ++ tickedName name)
  | some (false, [], _) =>
      throw ("invalid argument " ++ tickedName ";" ++ " to " ++ tickedName name)
  | some (gathers, words, rest) =>
      set { reading with words := rest, count := reading.count + 1 }
      return if gathers then .gather inFolder reading.count words else .start inFolder words

def globOf (text : String) : List Shell.Glob :=
  Shell.Marked.glob (escapedPattern text.toList)

-- Reads a question by its name. Some only set limits for the whole search.
def findNamed (around : Surroundings) (name : String) : FindReader FindTest := do
  let number (name : String) : FindReader Nat := do
    let text ← findArgument name
    if text.isEmpty || !text.toList.all Char.isDigit then
      throw ("Expected a positive decimal integer argument to " ++ name ++ ", but got " ++
        quotedName text)
    return decimalValue text.toList
  let measured (name : String) : FindReader Measure := do
    let text ← findArgument name
    match measure? text with
    | some measure => return measure
    | none => throw ("invalid argument " ++ tickedName text ++ " to " ++ tickedName name)
  match name with
  | "-name" => return .named (globOf (← findArgument name)) false
  | "-iname" => return .named (globOf (← findArgument name).toLower) true
  | "-path" | "-wholename" => return .lying (globOf (← findArgument name)) false
  | "-ipath" | "-iwholename" => return .lying (globOf (← findArgument name).toLower) true
  | "-lname" => return .leading (globOf (← findArgument name)) false
  | "-ilname" => return .leading (globOf (← findArgument name).toLower) true
  | "-regex" | "-iregex" =>
      let text ← findArgument name
      match Pattern.ofChars false false (patternChars text) with
      | .ok (pattern, _) => return .matching pattern (name == "-iregex")
      | .error fault => throw fault.message
  | "-regextype" =>
      let _ ← findArgument name
      return .always true
  | "-type" | "-xtype" =>
      let text ← findArgument name
      let letters := text.toList.splitOn ','
      match letters.find? fun s => !s.all ['f', 'd', 'l', 'p', 'c', 'b', 's', 'D'].contains with
      | some wrong =>
          throw ("Unknown argument to " ++ name ++ ": " ++ (wrong.headD ' ').toString)
      | none =>
          if letters.any fun s => s.length != 1 then
            throw ("Must separate multiple arguments to " ++ name ++ " using: ','")
          return .kind letters.flatten (name == "-xtype")
  | "-size" =>
      let text ← findArgument name
      let digits := text.toList.dropWhile fun c => c == '+' || c == '-'
      let after := digits.dropWhile Char.isDigit
      let front := String.ofList (text.toList.take (text.length - after.length))
      match after, measure? front with
      | [], some measure => return .size measure 512
      | [letter], some measure =>
          match sizeUnit? letter with
          | some unit => return .size measure unit
          | none => throw ("invalid -size type " ++ tickedName letter.toString)
      | last, _ =>
          throw ("invalid -size type " ++ tickedName ((last.getLast?.getD ' ').toString))
  | "-empty" => return .empty
  | "-newer" | "-anewer" | "-cnewer" | "-mnewer" =>
      let path ← findArgument name
      match around.files.find around.directory ⟨path⟩ with
      | .ok (_, node) => return .newer node.modified
      | .error fault => throw (quotedName path ++ ": " ++ fault.reason)
  | "-mtime" | "-atime" | "-ctime" => return .age (← measured name) 86400
  | "-mmin" | "-amin" | "-cmin" => return .age (← measured name) 60
  | "-perm" =>
      let text ← findArgument name
      let (sign, mode) :=
        match text.toList with
        | '-' :: rest => (some '-', String.ofList rest)
        | '/' :: rest => (some '/', String.ofList rest)
        | _ => (none, text)
      match changedMode? mode false 0 0 with
      | some mode => return .rights sign mode
      | none => throw ("invalid mode " ++ quotedName text)
  | "-links" => return .links (← measured name)
  | "-user" | "-group" =>
      let text ← findArgument name
      if text = "root" || text = "0" then return .owned true
      else if text.toList.all Char.isDigit then return .owned false
      else
        throw (quotedName text ++ " is not the name of " ++
          (if name = "-user" then "a known user" else "an existing group"))
  | "-uid" | "-gid" =>
      let measure ← measured name
      return .owned (measure.fits 0)
  | "-nouser" | "-nogroup" | "-false" => return .always false
  | "-readable" | "-writable" | "-true" => return .always true
  | "-executable" => return .executable
  | "-maxdepth" =>
      let greatest ← number name
      modify fun reading => { reading with limits.greatest := some greatest }
      return .always true
  | "-mindepth" =>
      let least ← number name
      modify fun reading => { reading with limits.least := least }
      return .always true
  | "-depth" | "-d" =>
      modify fun reading => { reading with limits.depthFirst := true }
      return .always true
  | "-xdev" | "-mount" | "-noleaf" | "-daystart" | "-follow" | "-warn" | "-nowarn"
  | "-ignore_readdir_race" | "-noignore_readdir_race" => return .always true
  | "-prune" => return .prune
  | "-quit" => return .quit
  | "-print" => return .print [10]
  | "-print0" => return .print [0]
  | "-printf" =>
      let form := (← findArgument name).toList
      let backs := (form.reverse.takeWhile (· == '%')).length
      if backs % 2 = 1 then throw "error: % at end of format string"
      return .printForm form
  | "-exec" | "-execdir" | "-ok" | "-okdir" => findCommand name
  | "-delete" => return .delete
  | _ => throw ("unknown predicate " ++ tickedName name)

def binaryTests : List String :=
  ["-o", "-or", "-a", "-and", ","]

def strayWord (around : Surroundings) (word : String) : FindReader Unit := do
  let reading ← get
  let hint := match reading.last with
    | some last =>
        if around.files.hasName around.directory ⟨word⟩ then
          "\n" ++ around.name ++ ": possible unquoted pattern after predicate " ++
            tickedName last ++ "?"
        else ""
    | none => ""
  throw ("paths must precede expression: " ++ tickedName word ++ hint)

mutual

-- Reads questions that are asked one after the other whatever becomes of them. The fuel bounds the
-- depth.
def readTurns (around : Surroundings) : Nat → FindReader FindTest
  | 0 => throw "invalid expression"
  | fuel + 1 => do
      let first ← readEitherTest around fuel
      match ← findWord? with
      | some "," =>
          skipWord
          if (← findWord?).isNone then throw "expected an expression after ','"
          return .inTurn first (← readTurns around fuel)
      | _ => return first

def readEitherTest (around : Surroundings) : Nat → FindReader FindTest
  | 0 => throw "invalid expression"
  | fuel + 1 => do
      let first ← readBothTests around fuel
      match ← findWord? with
      | some "-o" | some "-or" =>
          let word := (← findWord?).getD "-o"
          skipWord
          if (← findWord?).isNone then throw ("expected an expression after '" ++ word ++ "'")
          return .either first (← readEitherTest around fuel)
      | _ => return first

def readBothTests (around : Surroundings) : Nat → FindReader FindTest
  | 0 => throw "invalid expression"
  | fuel + 1 => do
      let first ← readOneTest around fuel
      match ← findWord? with
      | some "-a" | some "-and" =>
          let word := (← findWord?).getD "-a"
          skipWord
          if (← findWord?).isNone then throw ("expected an expression after '" ++ word ++ "'")
          return .both first (← readBothTests around fuel)
      | none | some ")" | some "," | some "-o" | some "-or" => return first
      | some _ => return .both first (← readBothTests around fuel)

def readOneTest (around : Surroundings) : Nat → FindReader FindTest
  | 0 => throw "invalid expression"
  | fuel + 1 => do
      match ← findWord? with
      | none => throw "invalid expression"
      | some "!" | some "-not" =>
          let word := (← findWord?).getD "!"
          skipWord
          if (← findWord?).isNone then throw ("expected an expression after '" ++ word ++ "'")
          return .negate (← readOneTest around fuel)
      | some "(" =>
          skipWord
          match ← findWord? with
          | none =>
              throw ("invalid expression; expected to find a ')' but didn't see one. " ++
                "Perhaps you need an extra predicate after '('")
          | some ")" => throw "invalid expression; empty parentheses are not allowed."
          | some _ =>
              let body ← readTurns around fuel
              match ← findWord? with
              | some ")" =>
                  skipWord
                  return body
              | _ =>
                  throw ("invalid expression; I was expecting to find a ')' somewhere " ++
                    "but did not see one.")
      | some ")" => throw "invalid expression; you have too many ')'"
      | some word =>
          if binaryTests.contains word then
            throw ("invalid expression; you have used a binary operator '" ++ word ++
              "' with nothing before it.")
          else if !"-".isPrefixOf word || word = "-" then
            strayWord around word
            throw "invalid expression"
          else
            skipWord
            modify fun reading => { reading with last := some word }
            findNamed around word

end

-- The paths that a search starts from: all words up to one that looks like a question.
def findPaths : List String → List String × List String
  | [] => ([], [])
  | word :: rest =>
      let isTest := ("-".isPrefixOf word && word != "-") || word == "(" || word == "!"
      if isTest then ([], word :: rest)
      else
        let (paths, others) := findPaths rest
        (word :: paths, others)

end MakeCheck.Program
