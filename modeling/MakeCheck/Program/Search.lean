import MakeCheck.Program.Pattern
import MakeCheck.Program.Filter

namespace MakeCheck.Program

open Text

def searchOptions : List OptionKind :=
  [plain 'E' "extended-regexp", plain 'F' "fixed-strings", plain 'G' "basic-regexp",
    plain 'i' "ignore-case", plain 'v' "invert-match", plain 'c' "count",
    plain 'l' "files-with-matches", plain 'L' "files-without-match", plain 'n' "line-number",
    plain 'o' "only-matching", plain 'q' "quiet", plain 's' "no-messages", plain 'w' "word-regexp",
    plain 'x' "line-regexp", plain 'h' "no-filename", plain 'H' "with-filename", plain 'a' "text",
    valued 'e' "regexp", valued 'm' "max-count", valued 'A' "after-context",
    valued 'B' "before-context", valued 'C' "context"]

-- What a search looks for. Each line of the text is a pattern of its own.
def searched (given : Given) (text : String) : Except PatternFault Pattern :=
  let one (line : List Char) : Except PatternFault Pattern :=
    if given.has 'F' then .ok (.literal line)
    else (Pattern.ofChars (given.has 'E') (given.has 'E') line).map (·.1)
  let around (found : Pattern) : Pattern :=
    if given.has 'x' then .both .start (.both found .finish)
    else if given.has 'w' then
      .both (.edge fun before _ => !before) (.both found (.edge fun _ after => !after))
    else found
  match (patternChars text).splitOn '\n' with
  | [] => .ok .empty
  | first :: rest => do
      let found ← rest.foldlM
        (fun found line => return Pattern.either found (← one line)) (← one first)
      return around found

-- A line with its number, and what was found in it.
structure SearchedLine where
  number : Nat
  bytes : List UInt8
  found : List (Nat × Pattern.Found)

def searchLines (pattern : Pattern) (ignoreCase : Bool) (bytes : List UInt8) : List SearchedLine :=
  ((lines bytes).zipIdx 1).map fun (line, number) =>
    ⟨number, line, pattern.allMatches ignoreCase (byteChars line)⟩

-- The lines around those that were chosen, and whether each was chosen itself.
def withNeighbours (before after : Nat) (lines : List (SearchedLine × Bool)) :
    List (SearchedLine × Bool) :=
  let chosen := (lines.filter (·.2)).map (·.1.number)
  lines.filter fun (line, _) =>
    chosen.any fun number => number ≤ line.number + before && line.number ≤ number + after

-- What is shown of one source: each line with the marks in front of it.
def shownLines (given : Given) (label : String) (lines : List (SearchedLine × Bool)) :
    List UInt8 :=
  let context (letter : Char) : Nat :=
    decimalValue (((given.value? letter).or (given.value? 'C')).getD "0").toList
  let before := context 'B'
  let after := context 'A'
  let isApart := given.has 'A' || given.has 'B' || given.has 'C'
  let shown := withNeighbours before after lines
  let numbers := shown.map (·.1.number)
  shown.flatMap fun (line, isChosen) =>
    let mark := if isChosen then ":" else "-"
    let start := (if label = "" then "" else label ++ mark) ++
      if given.has 'n' then toString line.number ++ mark else ""
    let gap := if isApart && line.number != numbers.headD 0 && !numbers.contains (line.number - 1)
      then Utf8.encode "--\n" else []
    if given.has 'o' then
      if !isChosen || given.has 'v' then []
      else
        (line.found.filter fun (place, found) => place < found.stop).flatMap fun (place, found) =>
          Utf8.encode start ++ (line.bytes.drop place).take (found.stop - place) ++ [10]
    else gap ++ Utf8.encode start ++ line.bytes ++ [10]

-- What a search makes of one source: the bytes to show, and whether something was chosen.
def searchSource (given : Given) (pattern : Pattern) (label name : String) (bytes : List UInt8) :
    List UInt8 × Bool :=
  let limit := ((given.value? 'm').map fun text => decimalValue text.toList)
  let all := searchLines pattern (given.has 'i') bytes
  let marked := all.map fun line => (line, line.found.isEmpty == given.has 'v')
  let chosen := (marked.filter (·.2)).map (·.1.number)
  let kept := match limit with
    | some count => chosen.take count
    | none => chosen
  let marked := marked.map fun (line, _) => (line, kept.contains line.number)
  let isFound := !kept.isEmpty
  let start := if label = "" then "" else label ++ ":"
  let shown :=
    if given.has 'q' then []
    else if given.has 'L' then (if isFound then [] else Utf8.encode (name ++ "\n"))
    else if given.has 'l' then (if isFound then Utf8.encode (name ++ "\n") else [])
    else if given.has 'c' then Utf8.encode (start ++ toString kept.length ++ "\n")
    else shownLines given label marked
  (shown, isFound)

-- How much of a source is looked at until enough has been found, if that is ever so.
def searchedSize? (given : Given) (pattern : Pattern) (bytes : List UInt8) : Option Nat :=
  let isBrief := given.has 'q' || given.has 'l' || given.has 'L'
  let limit := if isBrief then some 1
    else (given.value? 'm').map fun text => decimalValue text.toList
  match limit with
  | none => none
  | some 0 => some 0
  | some count =>
      let chosen := (searchLines pattern (given.has 'i') bytes).filter fun line =>
        line.found.isEmpty == given.has 'v'
      (chosen[count - 1]?).map fun last => sizeOfLines last.number bytes 0

-- Shows the lines that a pattern is found in. Nothing found is a failure.
def search (around : Surroundings) (arguments : List String) : Outcome :=
  let usage := "Usage: " ++ around.name ++ " [OPTION]... PATTERNS [FILE]...\nTry '" ++
    around.name ++ " --help' for more information.\n"
  match readArguments searchOptions arguments with
  | .error message =>
      around.outcome 2 [around.complaint message, (.errors, Utf8.encode usage)]
  | .ok given =>
      let (text?, names) :=
        match given.values 'e', given.operands with
        | [], [] => (none, [])
        | [], text :: names => (some text, names)
        | texts, names => (some ("\n".intercalate texts), names)
      match text? with
      | none => around.outcome 2 [(.errors, Utf8.encode usage)]
      | some text =>
          match searched given text with
          | .error fault => around.outcome 2 [around.complaint fault.message]
          | .ok pattern =>
              let names := if names.isEmpty then ["-"] else names
              let isLabelled := (1 < names.length || given.has 'H') && !given.has 'h'
              let results := names.map fun name =>
                let shown := if name = "-" then "(standard input)" else name
                (name, (around.source name).map
                  (searchSource given pattern (if isLabelled then shown else "") shown))
              let written := results.flatMap fun (name, result) =>
                match result with
                | .ok (bytes, _) => [(Channel.output, bytes)]
                | .error fault =>
                    if given.has 's' then [] else [around.complaint (name ++ ": " ++ fault.reason)]
              let isFound := results.any fun (_, result) =>
                match result with
                | .ok (_, found) => found
                | .error _ => false
              let isBroken := results.any fun (_, result) => result.toOption.isNone
              let code := if isBroken && !(isFound && given.has 'q') then 2
                else if isFound then 0 else 1
              let size? := around.input.toOption.bind (searchedSize? given pattern)
              let intake := (Surroundings.intakeOf names).map fun whole =>
                ((size?.filter fun _ => names == ["-"]).map Intake.until).getD whole
              { around.outcome code written with intake, lossCode := 2 }

end MakeCheck.Program
