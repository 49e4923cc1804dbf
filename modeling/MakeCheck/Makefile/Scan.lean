import MakeCheck.Log
import MakeCheck.Makefile.Line

namespace MakeCheck

open Text

structure ParseOptions where
  detectDefinitions : Bool
  -- Tells of every line at the level `debug` and not at `trace`.
  verbose : Bool
deriving DecidableEq

def ParseOptions.level (options : ParseOptions) : Level :=
  if options.verbose then .debug else .trace

-- What has been recovered from the lines read so far.
structure Scan where
  closed : List Rule
  -- The rule that still takes recipe lines.
  current : Option Rule
  definitions : List VariableDefinition
deriving DecidableEq

namespace Scan

def start : Scan :=
  ⟨[], none, []⟩

def close (scan : Scan) : Scan :=
  { scan with closed := scan.closed ++ scan.current.toList, current := none }

-- A line with a tab under an open rule is a command, even if it looks like an assignment.
def inRecipe (scan : Scan) (raw : List Char) : Bool :=
  scan.current.isSome && raw.head? == some '\t'

def lineOf (detect : Bool) (scan : Scan) (raw : List Char) : Line :=
  Line.ofText (detect && !scan.inRecipe raw) (trim raw)

def add (scan : Scan) : Line → Scan
  | .blank => scan.close
  | .comment => scan
  | .definition definition => { scan with definitions := scan.definitions ++ [definition] }
  | .header header => { scan.close with current := some ⟨header.targets, header.prerequisites, []⟩ }
  | .other text => { scan with current := scan.current.map (·.addLine text) }

def step (detect : Bool) (scan : Scan) (raw : List Char) : Scan :=
  scan.add (scan.lineOf detect raw)

def ofLines (detect : Bool) (lines : List (List Char)) : Scan :=
  lines.foldl (step detect) start

end Scan

-- Recovers rules and definitions from a text. No text is refused.
def Makefile.parse (options : ParseOptions) (text : String) : Makefile :=
  let scan := (Scan.ofLines options.detectDefinitions (physicalLines text)).close
  { origin := .memory
    rules := scan.closed
    definitions := if options.detectDefinitions then some scan.definitions else none }

end MakeCheck
