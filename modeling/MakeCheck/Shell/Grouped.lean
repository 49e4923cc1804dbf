import MakeCheck.Shell.Glob
import MakeCheck.Shell.Options

namespace MakeCheck.Shell

open Text

-- A piece of a pattern of the extended dialect. The mark in front of a group tells how often one of
-- its choices comes.
inductive Grouped where
  | single (glob : Glob)
  | group (mark : Char) (choices : List (List Grouped))

-- How patterns are read, and which files they stand for.
structure PatternRules where
  hasGroups : Bool
  ignoresCase : Bool
  -- Names with a dot in front need not be asked for.
  takesDots : Bool
  -- Two stars stand for any number of directories.
  goesDeep : Bool
deriving DecidableEq

def groupMarks : List Char := ['?', '*', '+', '@', '!']

-- The set in brackets that a pattern begins with, behind the opening one.
def readSet? (rest : Marked) : Option (Glob × Marked) :=
  let (negated, body) :=
    match rest with
    | ('!', false) :: after | ('^', false) :: after => (true, after)
    | _ => (false, rest)
  (bracketEntries (body.length + 1) true body).map fun (entries, after) =>
    (.set negated entries, after)

mutual

-- Reads a pattern, in a group up to the end of a choice.
def readGrouped (rules : PatternRules) : Nat → Bool → Marked → List Grouped × Marked
  | 0, _, rest => ([], rest)
  | _, _, [] => ([], [])
  | fuel + 1, isInside, (c, quoted) :: rest =>
      let go (piece : Grouped) (rest : Marked) : List Grouped × Marked :=
        let (others, after) := readGrouped rules fuel isInside rest
        (piece :: others, after)
      if quoted then go (.single (.char c)) rest
      else if isInside && (c == '|' || c == ')') then ([], (c, quoted) :: rest)
      else
        match rules.hasGroups && groupMarks.contains c, rest with
        | true, ('(', false) :: body =>
            match readChoices rules fuel body with
            | some (choices, after) => go (.group c choices) after
            | none => go (.single (.char c)) rest
        | _, _ =>
            if c = '?' then go (.single .any) rest
            else if c = '*' then go (.single .many) rest
            else if c = '[' then
              match readSet? rest with
              | some (set, after) => go (.single set) after
              | none => go (.single (.char c)) rest
            else go (.single (.char c)) rest

-- The choices of a group up to the bracket that closes it, if there is one.
def readChoices (rules : PatternRules) : Nat → Marked → Option (List (List Grouped) × Marked)
  | 0, _ => none
  | fuel + 1, rest =>
      let (choice, after) := readGrouped rules fuel true rest
      match after with
      | (')', false) :: after => some ([choice], after)
      | ('|', false) :: after =>
          (readChoices rules fuel after).map fun (others, after) => (choice :: others, after)
      | _ => none

end

-- Ends of one text, of which those of one length are the same. The longest comes first.
def ordered (rests : List (List Char)) : List (List Char) :=
  let sorted := (rests.map fun rest => (rest.length, rest)).mergeSort fun a b => decide (b.1 ≤ a.1)
  (sorted.splitBy fun a b => a.1 == b.1).filterMap fun same => same.head?.map (·.2)

def allEnds (s : List Char) : List (List Char) :=
  (List.range (s.length + 1)).map fun count => s.drop count

def Glob.fitsChar (ignoresCase : Bool) (c : Char) : Glob → Bool
  | .char d => c == d || (ignoresCase && c.toLower == d.toLower)
  | .any => true
  | .many => false
  | .set negated entries =>
      let isIn := entries.any (·.fits c) ||
        (ignoresCase && (entries.any (·.fits c.toLower) || entries.any (·.fits c.toUpper)))
      isIn != negated

-- What can be left of a text behind a pattern, given what was left of it before. The first argument
-- bounds the steps.
def leftBehind (ignoresCase : Bool) : Nat → List Grouped → List (List Char) → List (List Char)
  | 0, _, _ => []
  | _, [], rests => rests
  | fuel + 1, piece :: others, rests =>
      let once (choices : List (List Grouped)) (rests : List (List Char)) : List (List Char) :=
        ordered (choices.flatMap fun choice => leftBehind ignoresCase fuel choice rests)
      let rounds (choices : List (List Grouped)) (start : List (List Char)) : List (List Char) :=
        (List.range ((rests.head?.getD []).length)).foldl
          (fun found _ => ordered (found ++ once choices found)) start
      let behind :=
        match piece with
        | .single .many => allEnds (rests.head?.getD [])
        | .single glob =>
            rests.filterMap fun rest =>
              match rest with
              | c :: after => if glob.fitsChar ignoresCase c then some after else none
              | [] => none
        | .group mark choices =>
            match mark with
            | '?' => ordered (rests ++ once choices rests)
            | '@' => once choices rests
            | '*' => rounds choices rests
            | '+' => rounds choices (once choices rests)
            | _ =>
                ordered (rests.flatMap fun rest =>
                  (allEnds rest).filter fun after =>
                    let front := rest.take (rest.length - after.length)
                    !(once choices [front]).any List.isEmpty)
      if behind.isEmpty then [] else leftBehind ignoresCase fuel others behind

def Marked.grouped (rules : PatternRules) (marked : Marked) : List Grouped :=
  (readGrouped rules (2 * marked.length + 2) false marked).1

-- Enough steps for a pattern: each of them goes to a part of it.
def Marked.depth (marked : Marked) : Nat :=
  marked.length + 1

def Marked.fitsBy (rules : PatternRules) (pattern : Marked) (text : List Char) : Bool :=
  (leftBehind rules.ignoresCase pattern.depth (pattern.grouped rules) [text]).any List.isEmpty

-- The lengths of what a pattern takes at the front of a text, the shortest first.
def Marked.sizes (rules : PatternRules) (pattern : Marked) (text : List Char) : List Nat :=
  let found := leftBehind rules.ignoresCase pattern.depth (pattern.grouped rules) [text]
  (found.map fun rest => text.length - rest.length).mergeSort

def Marked.trimBy (rules : PatternRules) (pattern : Marked) (atEnd longest : Bool)
    (text : List Char) : List Char :=
  if atEnd then
    let starts := List.range (text.length + 1)
    let fits (start : Nat) : Bool := pattern.fitsBy rules (text.drop start)
    let start := if longest then starts.find? fits else starts.reverse.find? fits
    text.take (start.getD text.length)
  else
    let sizes := pattern.sizes rules text
    let size := if longest then sizes.getLast? else sizes.head?
    text.drop (size.getD 0)

def Marked.isPatternBy (rules : PatternRules) (marked : Marked) : Bool :=
  marked.isPattern ||
    (rules.hasGroups && (marked.zip marked.tail).any fun (mark, next) =>
      !mark.2 && groupMarks.contains mark.1 && next == ('(', false))

def groupedNames (rules : PatternRules) (files : FileStore) (directory : Location)
    (pattern : Marked) : List String :=
  let asksDot := pattern.head?.any fun entry => entry.1 == '.'
  (files.names directory).filter fun name =>
    (asksDot || rules.takesDots || !".".isPrefixOf name) && pattern.fitsBy rules name.toList

-- The ways from a directory to all directories below it, and to it itself.
def waysBelow (rules : PatternRules) (files : FileStore) (withFiles : Bool) :
    Nat → Location → List String
  | 0, _ => [""]
  | fuel + 1, directory =>
      let names := (files.names directory).filter fun name =>
        rules.takesDots || !".".isPrefixOf name
      "" :: names.flatMap fun name =>
        match files.node? (directory ++ [name]) with
        | some { content := .directory, .. } =>
            (waysBelow rules files withFiles fuel (directory ++ [name])).map fun way =>
              if way = "" then name else name ++ "/" ++ way
        | _ => if withFiles then [name] else []

-- The paths that fit the pieces of a pattern, each with the text of the path before it. Slashes are
-- pieces of their own.
def groupedPieces (rules : PatternRules) (files : FileStore) (directory : Location) :
    Nat → List Marked → String → List String
  | 0, _, _ => []
  | _, [], before => [before]
  | fuel + 1, piece :: rest, before =>
      let place := files.find directory ⟨if before = "" then "." else before⟩
      let isDeep := rules.goesDeep && piece == [('*', false), ('*', false)]
      match isDeep, place with
      | true, .ok (location, { content := .directory, .. }) =>
          let ways := waysBelow rules files rest.isEmpty 64 location
          match rest with
          | _ :: others =>
              ways.flatMap fun way =>
                groupedPieces rules files directory fuel others
                  (before ++ if way = "" then "" else way ++ "/")
          | [] => ways.filterMap fun way =>
              if way = "" then none else some (before ++ way)
      | _, _ =>
          let names :=
            if piece.isPatternBy rules then
              match place with
              | .ok (location, { content := .directory, .. }) => groupedNames rules files location piece
              | _ => []
            else [piece.text]
          names.flatMap fun name => groupedPieces rules files directory fuel rest (before ++ name)

def slashPieces (marked : Marked) : List Marked :=
  marked.splitBy fun a b => (a.1 == '/') == (b.1 == '/')

-- The paths that a field with patterns in it stands for.
def Marked.pathsBy (rules : PatternRules) (files : FileStore) (directory : Location)
    (marked : Marked) : List String :=
  let pieces := slashPieces marked
  let found := (groupedPieces rules files directory (pieces.length + 1) pieces "").filter
    fun path => files.hasName directory ⟨path⟩
  found.eraseDups.mergeSort fun a b => decide (a ≤ b)

-- The rules for files, and those for texts that are compared with a pattern.
def Options.pathRules (options : Options) : PatternRules :=
  { hasGroups := options.isSwitched "extglob"
    ignoresCase := options.isSwitched "nocaseglob"
    takesDots := options.isSwitched "dotglob"
    goesDeep := options.isSwitched "globstar" }

def Options.textRules (options : Options) (hasGroups : Bool) : PatternRules :=
  { hasGroups := hasGroups || options.isSwitched "extglob"
    ignoresCase := options.isSwitched "nocasematch"
    takesDots := false
    goesDeep := false }

end MakeCheck.Shell
