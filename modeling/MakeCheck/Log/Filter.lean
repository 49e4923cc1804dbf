import MakeCheck.Log
import MakeCheck.Regex.Meaning
import MakeCheck.Text.Blank

namespace MakeCheck

-- Lets through what the named speakers have to say at a level or above. A directive without a
-- name is for all speakers, and one without a level lets nothing through.
structure Directive where
  name : Option String
  level : Option Level
deriving DecidableEq

def Directive.size (directive : Directive) : Nat :=
  (directive.name.map String.utf8ByteSize).getD 0

structure LogFilter where
  directives : List Directive
  -- What every message must have somewhere in it.
  pattern : Option Regex.Pattern

namespace LogFilter

def levelNames : List (String × Option Level) :=
  [("off", none), ("error", some .error), ("warn", some .warn), ("info", some .info),
    ("debug", some .debug), ("trace", some .trace)]

def readLevel? (text : String) : Option (Option Level) :=
  levelNames.lookup (String.ofList (text.toList.map Char.toLower))

def trimText (text : String) : String :=
  String.ofList (Text.trim text.toList)

def splitText (separator : Char) (text : String) : List String :=
  (text.toList.splitOn separator).map String.ofList

-- A level alone is for all, a name alone lets everything through.
def readDirective (text : String) : Except String Directive :=
  match splitText '=' text with
  | [word] =>
      match readLevel? word with
      | some level => .ok ⟨none, level⟩
      | none => .ok ⟨some word, some .trace⟩
  | [name, level] =>
      if trimText level = "" then .ok ⟨some name, some .trace⟩
      else
        match readLevel? (trimText level) with
        | some level => .ok ⟨some name, level⟩
        | none => .error ("invalid logging spec '" ++ trimText level ++ "'")
  | _ => .error ("invalid logging spec '" ++ text ++ "'")

-- A later directive takes the place of an earlier one with the same name.
def addDirective (directives : List Directive) (directive : Directive) : List Directive :=
  if directives.any fun other => other.name == directive.name then
    directives.map fun other => if other.name = directive.name then directive else other
  else directives ++ [directive]

-- The pattern after the slash. One that cannot be read counts for nothing.
def readPattern : Option String → Option Regex.Pattern × List String
  | none => (none, [])
  | some text =>
      match Regex.Pattern.ofText text with
      | .ok pattern => (some pattern, [])
      | .error report => (none, ["invalid regex filter - " ++ report])

-- Reads a filter: directives between commas, and after a slash the pattern to look for. What makes
-- no directive is passed over with a complaint. A filter without directives lets errors through.
def read (text : String) : LogFilter × List String :=
  let onlyErrors : List Directive := [⟨none, some .error⟩]
  match splitText '/' text with
  | front :: rest =>
      if 1 < rest.length then
        (⟨onlyErrors, none⟩, ["invalid logging spec '" ++ text ++ "' (too many '/'s)"])
      else
        let words := ((splitText ',' front).map trimText).filter (· != "")
        let found := words.map readDirective
        let directives := found.filterMap Except.toOption
        let complaints := found.filterMap fun result =>
          match result with
          | .error complaint => some complaint
          | .ok _ => none
        let (pattern, reports) := readPattern rest.head?
        (⟨if directives.isEmpty then onlyErrors else directives.foldl addDirective [], pattern⟩,
          complaints ++ reports)
  | [] => (⟨onlyErrors, none⟩, [])

-- The directive with the longest name that a speaker's path begins with decides.
def levelFor (filter : LogFilter) (speaker : Speaker) : Option Level :=
  let fitting := filter.directives.filter fun directive =>
    directive.name.all fun name => name.isPrefixOf speaker.path
  let longest := fitting.foldl
    (fun (best : Option Directive) directive =>
      match best with
      | some other => if other.size ≤ directive.size then some directive else best
      | none => some directive)
    none
  longest.bind (·.level)

def passes (filter : LogFilter) (record : Record) : Bool :=
  let loudEnough (level : Level) : Bool := decide (level.severity ≤ record.level.severity)
  (filter.levelFor record.speaker).any loudEnough &&
    filter.pattern.all (·.occursIn record.message)

end LogFilter

-- The lines that a record makes on a terminal. Those after the first are set in.
def Record.lines (record : Record) : List String :=
  let label := record.level.label ++ if record.level.label.length < 5 then " " else ""
  match (record.message.toList.splitOn '\n').map String.ofList with
  | first :: rest =>
      ("[" ++ label ++ " " ++ record.speaker.path ++ "] " ++ first) :: rest.map ("    " ++ ·)
  | [] => []

end MakeCheck
