import MakeCheck.FileStore.Basic
import MakeCheck.Text.Bracket

namespace MakeCheck.Shell

open Text

-- A text in which every character tells whether it was quoted. A quoted one stands for itself.
abbrev Marked := List (Char × Bool)

def Marked.ofText (quoted : Bool) (text : List Char) : Marked :=
  text.map fun c => (c, quoted)

def Marked.text (marked : Marked) : String :=
  String.ofList (marked.map (·.1))

inductive Glob where
  | char (c : Char)
  | any
  | many
  | set (negated : Bool) (entries : List BracketEntry)

-- Whether a text is of the shape that a pattern asks for.
def Glob.fits : List Glob → List Char → Bool
  | [], s => s.isEmpty
  | .many :: rest, [] => Glob.fits rest []
  | .many :: rest, c :: s => Glob.fits rest (c :: s) || Glob.fits (.many :: rest) s
  | _ :: _, [] => false
  | .char d :: rest, c :: s => c == d && Glob.fits rest s
  | .any :: rest, _ :: s => Glob.fits rest s
  | .set negated entries :: rest, c :: s => (entries.any (·.fits c) != negated) && Glob.fits rest s
termination_by pattern s => pattern.length + s.length

-- Reads a pattern. A bracket without its partner stands for itself. The fuel is the length.
def readGlob : Nat → Marked → List Glob
  | 0, _ => []
  | _, [] => []
  | fuel + 1, (c, quoted) :: rest =>
      if quoted then .char c :: readGlob fuel rest
      else if c = '?' then .any :: readGlob fuel rest
      else if c = '*' then .many :: readGlob fuel rest
      else if c = '[' then
        let (negated, body) :=
          match rest with
          | ('!', false) :: after => (true, after)
          | _ => (false, rest)
        match bracketEntries (body.length + 1) true body with
        | some (entries, after) => .set negated entries :: readGlob fuel after
        | none => .char c :: readGlob fuel rest
      else .char c :: readGlob fuel rest

def Marked.glob (marked : Marked) : List Glob :=
  readGlob marked.length marked

def Marked.fits (pattern : Marked) (text : List Char) : Bool :=
  Glob.fits pattern.glob text

-- A text that holds several values, with a NUL between each two, is compared up to the first NUL.
def upToNul (text : List Char) : List Char :=
  text.takeWhile (· != '\x00')

def Marked.trim (pattern : Marked) (atEnd longest : Bool) (text : List Char) : List Char :=
  let glob := pattern.glob
  let sizes := List.range (text.length + 1)
  match atEnd, longest with
  | true, true =>
      let sizes := List.range ((upToNul text).length + 1)
      let found := sizes.find? fun size => Glob.fits glob (upToNul (text.drop size))
      text.take (found.getD text.length)
  | true, false =>
      let found := sizes.reverse.find? fun size => Glob.fits glob (upToNul (text.drop size))
      text.take (found.getD text.length)
  | false, true =>
      let found := sizes.reverse.find? fun size => Glob.fits glob (upToNul (text.take size))
      text.drop (found.getD 0)
  | false, false =>
      let found := sizes.find? fun size => Glob.fits glob (upToNul (text.take size))
      text.drop (found.getD 0)

def Marked.isPattern (marked : Marked) : Bool :=
  marked.any fun entry => !entry.2 && ['*', '?', '['].contains entry.1

-- The names in a directory that fit. A dot at the front has to be asked for.
def globNames (files : FileStore) (directory : Location) (pattern : Marked) : List String :=
  let asksDot := pattern.head?.any fun entry => entry.1 == '.'
  let names := files.names directory ++ if asksDot then [".", ".."] else []
  names.filter fun name => (asksDot || !".".isPrefixOf name) && pattern.fits name.toList

-- The paths that fit the pieces of a pattern, each with the text of the path before it. Slashes are
-- pieces of their own.
def globPieces (files : FileStore) (directory : Location) : List Marked → String → List String
  | [], before => [before]
  | piece :: rest, before =>
      let names :=
        if piece.isPattern then
          match files.find directory ⟨if before = "" then "." else before⟩ with
          | .ok (location, { content := .directory, .. }) => globNames files location piece
          | _ => []
        else [piece.text]
      names.flatMap fun name => globPieces files directory rest (before ++ name)

-- A field with patterns in it stands for the paths that fit, or for itself where none does.
def Marked.paths (files : FileStore) (directory : Location) (marked : Marked) : List String :=
  if !marked.isPattern then [marked.text]
  else
    let pieces := marked.splitBy fun a b => (a.1 == '/') == (b.1 == '/')
    let found := (globPieces files directory pieces "").filter fun path =>
      files.hasName directory ⟨path⟩
    if found.isEmpty then [marked.text] else found.mergeSort fun a b => decide (a ≤ b)

end MakeCheck.Shell
