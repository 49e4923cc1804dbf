import MakeCheck.Makefile.Scan

namespace MakeCheck

open Text

-- A remark of the scan about one line.
inductive Note where
  | reading (line : String)
  | blankCloses (targets : Targets)
  | comment
  | defines (name : String)
  | opens (targets : Targets)
  | partOfRule
  | ignored
deriving DecidableEq

def Note.message : Note → String
  | reading line => "parsing '" ++ line ++ "'"
  | blankCloses targets => "  blank line closes rule '" ++ targets.text ++ "'"
  | comment => "  line is a comment"
  | defines name => "  line defines variable '" ++ name ++ "'"
  | opens targets => "  line opens rule '" ++ targets.text ++ "'"
  | partOfRule => "  line is part of the rule"
  | ignored => "  no current rule, ignore this line"

namespace Scan

-- A blank line outside a rule is passed over without a word.
def remark? (scan : Scan) : Line → Option Note
  | .blank => scan.current.map fun rule => .blankCloses rule.targets
  | .comment => some .comment
  | .definition definition => some (.defines definition.name)
  | .header header => some (.opens header.targets)
  | .other _ => if scan.current.isSome then some .partOfRule else some .ignored

def notes (detect : Bool) : Scan → List (List Char) → List Note
  | _, [] => []
  | scan, raw :: rest =>
      .reading (String.ofList (trim raw)) :: (scan.remark? (scan.lineOf detect raw)).toList ++
        notes detect (scan.step detect raw) rest

end Scan

-- What the scan of a text tells, line by line.
def Makefile.notes (options : ParseOptions) (text : String) : List Note :=
  Scan.start.notes options.detectDefinitions (physicalLines text)

def Makefile.records (options : ParseOptions) (text : String) : List Record :=
  (notes options text).map fun note => ⟨options.level, .scan, note.message⟩

end MakeCheck
