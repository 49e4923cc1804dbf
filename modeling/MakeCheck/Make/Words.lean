namespace MakeCheck.Make

def isBlank (c : Char) : Bool :=
  c == ' ' || c == '\t'

def isSpace (c : Char) : Bool :=
  isBlank c || c == '\n' || c == '\x0b' || c == '\x0c' || c == '\r'

def dropSpace (s : List Char) : List Char :=
  s.dropWhile isSpace

def trimEnd (s : List Char) : List Char :=
  (s.reverse.dropWhile isSpace).reverse

def trim (s : List Char) : List Char :=
  trimEnd (dropSpace s)

def wordsOf (s : List Char) : List (List Char) :=
  (s.splitOnP isSpace).filter (· != [])

def ofWords (words : List (List Char)) : List Char :=
  [' '].intercalate words

-- The first word of a text and what follows the blanks behind it.
def firstWord (s : List Char) : List Char × List Char :=
  let word := s.takeWhile fun c => !isSpace c
  (word, dropSpace (s.drop word.length))

def sortedTexts (texts : List (List Char)) : List (List Char) :=
  texts.mergeSort fun a b => decide (String.ofList a ≤ String.ofList b)

-- Backslashes before a character that takes its meaning from them: half of them stay, and of an
-- odd number one takes the meaning away.
def halved (count : Nat) : List Char × Bool :=
  (List.replicate (count / 2) '\\', count % 2 == 1)

-- The text up to the first character of a kind, and that character with the text behind it if there
-- is one. Backslashes before such a character are cut by half, and an odd one hides it. What was
-- read comes in reverse order.
def splitUnquoted (isMark : Char → Bool) : List Char → List Char →
    List Char × Option (Char × List Char)
  | before, [] => (before.reverse, none)
  | before, c :: rest =>
      if isMark c then
        let slashes := (before.takeWhile (· == '\\')).length
        let (kept, isHidden) := halved slashes
        let before := kept ++ before.drop slashes
        if isHidden then splitUnquoted isMark (c :: before) rest
        else (before.reverse, some (c, rest))
      else splitUnquoted isMark (c :: before) rest

-- A bracket that is open, with how many more of its kind are open inside.
structure OpenBracket where
  opening : Char
  closer : Char
  depth : Nat

namespace OpenBracket

def ofChar? (c : Char) : Option OpenBracket :=
  if c = '(' then some ⟨'(', ')', 0⟩
  else if c = '\x7b' then some ⟨'\x7b', '\x7d', 0⟩
  else none

def step (bracket : OpenBracket) (c : Char) : Option OpenBracket :=
  if c = bracket.closer then
    if bracket.depth = 0 then none else some { bracket with depth := bracket.depth - 1 }
  else if c = bracket.opening then some { bracket with depth := bracket.depth + 1 }
  else some bracket

end OpenBracket

-- The same, but what stands in references to variables does not count.
def splitOutside (isMark : Char → Bool) : Option OpenBracket → List Char → List Char →
    List Char × Option (Char × List Char)
  | _, before, [] => (before.reverse, none)
  | some bracket, before, c :: rest =>
      splitOutside isMark (bracket.step c) (c :: before) rest
  | none, before, ['$'] => (before.reverse ++ ['$'], none)
  | none, before, '$' :: c :: rest =>
      splitOutside isMark (OpenBracket.ofChar? c) (c :: '$' :: before) rest
  | none, before, c :: rest =>
      if isMark c then
        let slashes := (before.takeWhile (· == '\\')).length
        let (kept, isHidden) := halved slashes
        let before := kept ++ before.drop slashes
        if isHidden then splitOutside isMark none (c :: before) rest
        else (before.reverse, some (c, rest))
      else splitOutside isMark none (c :: before) rest

-- Puts lines that go on behind a backslash together. The blanks around the break become one.
def joinLines : List Char → List Char → List Char
  | before, [] => before.reverse
  | before, '\n' :: rest =>
      let slashes := (before.takeWhile (· == '\\')).length
      let (kept, isHidden) := halved slashes
      let before := kept ++ before.drop slashes
      if isHidden then behindBreak (' ' :: before.dropWhile isBlank) rest
      else joinLines ('\n' :: before) rest
  | before, c :: rest => joinLines (c :: before) rest
where
  -- Drops the blanks at the front of the next line.
  behindBreak : List Char → List Char → List Char
    | before, [] => before.reverse
    | before, '\n' :: rest =>
        let slashes := (before.takeWhile (· == '\\')).length
        let (kept, isHidden) := halved slashes
        let before := kept ++ before.drop slashes
        if isHidden then behindBreak (' ' :: before.dropWhile isBlank) rest
        else joinLines ('\n' :: before) rest
    | before, c :: rest =>
        if isBlank c then behindBreak before rest else joinLines (c :: before) rest

-- A text with at most one place in it that stands for any text.
structure Shape where
  before : List Char
  after : Option (List Char)

namespace Shape

-- Backslashes before the sign are cut by half, and an odd one hides it.
def read : List Char → List Char → Shape
  | before, [] => ⟨before.reverse, none⟩
  | before, c :: rest =>
      if c = '%' then
        let slashes := (before.takeWhile (· == '\\')).length
        let (kept, isHidden) := halved slashes
        let before := kept ++ before.drop slashes
        if isHidden then read (c :: before) rest else ⟨before.reverse, some rest⟩
      else read (c :: before) rest

def ofText (s : List Char) : Shape :=
  read [] s

def stem? (shape : Shape) (word : List Char) : Option (List Char) :=
  match shape.after with
  | none => if shape.before = word then some [] else none
  | some after =>
      let size := shape.before.length + after.length
      if size ≤ word.length && shape.before.isPrefixOf word && after.isSuffixOf word then
        some ((word.drop shape.before.length).take (word.length - size))
      else none

def fits (shape : Shape) (word : List Char) : Bool :=
  (shape.stem? word).isSome

def isOpen (shape : Shape) : Bool :=
  shape.after.isSome

def fill (shape : Shape) (stem : List Char) : List Char :=
  match shape.after with
  | none => shape.before
  | some after => shape.before ++ stem ++ after

end Shape

-- Gives each word that is of a shape another one. The sign in it counts only where the first shape
-- has one.
def substitutePattern (pattern replacement : List Char) (text : List Char) : List Char :=
  let shape := Shape.ofText pattern
  let target : Shape := if shape.isOpen then .ofText replacement else ⟨replacement, none⟩
  ofWords ((wordsOf text).map fun word =>
    match shape.stem? word with
    | some stem => target.fill stem
    | none => word)

-- Puts a text in the place of another one wherever that stands.
def substituteText (old new : List Char) : Nat → List Char → List Char
  | 0, s => s
  | _, [] => []
  | fuel + 1, c :: rest =>
      if old.isPrefixOf (c :: rest) then
        new ++ substituteText old new fuel ((c :: rest).drop old.length)
      else c :: substituteText old new fuel rest

def substitute (old new text : List Char) : List Char :=
  if old.isEmpty then text ++ new else substituteText old new text.length text

def directoryPart (name : List Char) : List Char :=
  let file := (name.reverse.takeWhile (· != '/')).length
  let front := name.take (name.length - file)
  if front.isEmpty then ['.', '/'] else front

def filePart (name : List Char) : List Char :=
  (name.reverse.takeWhile (· != '/')).reverse

-- The last dot of the part behind the last slash and what follows it.
def endingOf (name : List Char) : Option (List Char) :=
  let file := filePart name
  let ending := (file.reverse.takeWhile (· != '.')).reverse
  if ending.length < file.length then some ('.' :: ending) else none

def withoutEnding (name : List Char) : List Char :=
  name.take (name.length - ((endingOf name).getD []).length)

-- The name without dots that lead nowhere, seen from a directory.
def absoluteName (directory : List Char) (name : List Char) : List Char :=
  let whole := if name.head? = some '/' then name else directory ++ '/' :: name
  let pieces := (whole.splitOn '/').foldl
    (fun (pieces : List (List Char)) piece =>
      if piece = [] ∨ piece = ['.'] then pieces
      else if piece = ['.', '.'] then pieces.tail
      else piece :: pieces)
    []
  '/' :: ['/'].intercalate pieces.reverse

def joinPairs : List (List Char) → List (List Char) → List (List Char)
  | a :: rest, b :: others => (a ++ b) :: joinPairs rest others
  | [], others => others
  | rest, [] => rest

def bareName : List Char → List Char
  | '.' :: '/' :: rest =>
      let after := rest.dropWhile (· == '/')
      if after.isEmpty then ['.', '/'] else bareName after
  | name => name
termination_by name => name.length
decreasing_by
  have := (List.dropWhile_suffix (· == '/') (l := rest)).length_le
  simp only [List.length_cons]
  omega

end MakeCheck.Make
