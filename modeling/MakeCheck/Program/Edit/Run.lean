import MakeCheck.Program.Edit.Script
import MakeCheck.Program.Utility

namespace MakeCheck.Program.Edit

open Text

-- A line without its break, and whether it had one.
structure InputLine where
  text : List Char
  isEnded : Bool

-- Where the editing of a text stands.
structure Editor where
  space : List Char
  isEnded : Bool
  hold : List Char
  number : Nat
  coming : List InputLine
  -- What was written, the latest piece first. Its last line may still need a break.
  written : List (List UInt8)
  needsBreak : Bool
  -- What is written behind the current line.
  queue : List (List UInt8)
  hasReplaced : Bool
  -- The stretches that have begun, each with its command and with the line at its end if that is
  -- known.
  begun : List (Nat × Option Nat)
  lastPattern : Option Wanted

-- What happens when the commands have run through.
inductive Turn where
  | finished
  | deleted
  -- The rest of the current text is treated once more.
  | again
  | quit (code : Nat) (prints : Bool)

namespace Editor

def write (editor : Editor) (bytes : List UInt8) (isEnded : Bool) : Editor :=
  let before := if editor.needsBreak then [[10]] else []
  let piece := if isEnded then bytes ++ [10] else bytes
  { editor with written := piece :: before ++ editor.written, needsBreak := !isEnded }

def printSpace (editor : Editor) : Editor :=
  editor.write (charBytes editor.space) editor.isEnded

def flush (editor : Editor) : Editor :=
  let written := editor.queue.foldl
    (fun (editor : Editor) bytes =>
      if bytes.isEmpty then editor
      else if bytes.getLast? = some 10 then editor.write bytes.dropLast true
      else editor.write bytes false)
    editor
  { written with queue := [] }

def advance? (editor : Editor) : Option (Editor × InputLine) :=
  match editor.coming with
  | [] => none
  | line :: coming =>
      some ({ editor with number := editor.number + 1, coming, isEnded := line.isEnded }, line)

def isLast (editor : Editor) : Bool :=
  editor.coming.isEmpty

def pattern (editor : Editor) (wanted : Wanted) : Option Pattern × Bool × Editor :=
  match wanted.pattern, editor.lastPattern with
  | some pattern, _ => (some pattern, wanted.ignoreCase, { editor with lastPattern := some wanted })
  | none, some last => (last.pattern, last.ignoreCase, editor)
  | none, none => (none, false, editor)

def fits (editor : Editor) : Address → Bool × Editor
  | .line number => (editor.number == number, editor)
  | .every first step =>
      (if step = 0 then editor.number == first
        else first ≤ editor.number && (editor.number - first) % step == 0, editor)
  | .last => (editor.isLast, editor)
  | .fits wanted =>
      let (pattern, ignoreCase, editor) := editor.pattern wanted
      ((pattern.bind fun pattern => pattern.find? ignoreCase editor.space).isSome, editor)

def begin (editor : Editor) (place : Nat) (last : Option Nat) : Editor :=
  { editor with begun := (place, last) :: editor.begun }

def leave (editor : Editor) (place : Nat) : Editor :=
  { editor with begun := editor.begun.filter fun entry => entry.1 != place }

-- Whether the line begins a stretch of lines, which may end with it at once.
def enters (editor : Editor) (place : Nat) (first : Address) (second : Ending) : Bool × Editor :=
  let (isFirst, editor) := editor.fits first
  if !isFirst then (false, editor)
  else
    let until_ (last : Nat) : Bool × Editor :=
      (true, if last ≤ editor.number then editor else editor.begin place (some last))
    match second with
    | .at (.line number) => until_ number
    | .at _ => (true, editor.begin place none)
    | .after count => until_ (editor.number + count)
    | .multiple step =>
        until_ (if step = 0 then editor.number else (editor.number + step - 1) / step * step)

def chooses (editor : Editor) (place : Nat) (command : Command) : Bool × Editor :=
  match command.first, command.second with
  | none, _ => (true, editor)
  | some first, none => editor.fits first
  | some first, some second =>
      match editor.begun.lookup place, second with
      | some (some last), _ =>
          let after := if last ≤ editor.number then editor.leave place else editor
          (decide (editor.number ≤ last), after)
      | some none, .at address =>
          let (isLast, after) := editor.fits address
          (true, if isLast then after.leave place else after)
      | some none, _ => (true, editor)
      | none, _ => editor.enters place first second

end Editor

-- The text of a replacement. A change of case holds for one character or up to the next change.
def replacement (line : List Char) (place : Nat) (found : Pattern.Found) :
    Option Char → Option Char → List Part → List Char
  | _, _, [] => []
  | lasting, once, part :: rest =>
      let whole := (line.drop place).take (found.stop - place)
      let shown (s : List Char) : List Char :=
        let changed (letter : Option Char) (c : Char) : Char :=
          if letter = some 'U' ∨ letter = some 'u' then c.toUpper
          else if letter = some 'L' ∨ letter = some 'l' then c.toLower
          else c
        match s with
        | c :: after =>
            changed (once.or lasting) c :: after.map (changed lasting)
        | [] => []
      match part with
      | .case letter =>
          if letter = 'u' ∨ letter = 'l' then
            replacement line place found lasting (some letter) rest
          else if letter = 'E' then replacement line place found none none rest
          else replacement line place found (some letter) once rest
      | .text c => shown [c] ++ replacement line place found lasting none rest
      | .group number =>
          let taken := if number = 0 then whole else (found.groups.lookup number).getD []
          shown taken ++
            replacement line place found lasting (if taken.isEmpty then once else none) rest

-- A line in which matches are replaced, counted from one. The matches come in their order.
def replaceAll (line : List Char) (parts : List Part) (occurrence : Nat) (everywhere : Bool)
    (last : Nat) : List ((Nat × Pattern.Found) × Nat) → List Char
  | [] => line.drop last
  | ((place, found), count) :: rest =>
      let between := (line.drop last).take (place - last)
      let isMeant := count = occurrence ∨ (everywhere ∧ occurrence ≤ count)
      let shown := if isMeant then replacement line place found none none parts
        else (line.drop place).take (found.stop - place)
      between ++ shown ++ replaceAll line parts occurrence everywhere found.stop rest

def Editor.substitute (editor : Editor) (wanted : Wanted) (parts : List Part) (occurrence : Nat)
    (everywhere prints : Bool) : Editor :=
  let (pattern, ignoreCase, editor) := editor.pattern wanted
  let found := (pattern.map fun pattern => pattern.allMatches ignoreCase editor.space).getD []
  if found.length < occurrence then editor
  else
    let space := replaceAll editor.space parts occurrence everywhere 0 (found.zipIdx 1)
    let changed := { editor with space, hasReplaced := true }
    if prints then changed.printSpace else changed

-- What the files hold that a script may read.
abbrev Sources := String → List UInt8

-- A character as it is shown where nothing may be in doubt.
def spelled (c : Char) : List Char :=
  let named := [('\x07', 'a'), ('\x08', 'b'), ('\x0c', 'f'), ('\n', 'n'), ('\r', 'r'), ('\t', 't'),
    ('\x0b', 'v'), ('\\', '\\')]
  let digit (n : Nat) : Char := Char.ofNat ('0'.toNat + n % 8)
  match named.lookup c with
  | some letter => ['\\', letter]
  | none =>
      if c.toNat < 32 ∨ 126 < c.toNat then
        ['\\', digit (c.toNat / 64), digit (c.toNat / 8), digit c.toNat]
      else [c]

-- Puts pieces into lines of at most so many characters. A line that goes on ends with a backslash.
def wrapped (width : Nat) : Nat → List (List Char) → List Char
  | _, [] => ['$', '\n']
  | used, piece :: rest =>
      if width < used + piece.length then
        ['\\', '\n'] ++ piece ++ wrapped width piece.length rest
      else piece ++ wrapped width (used + piece.length) rest

-- A command that is its letter alone, unless it ends the turn.
def Editor.perform (editor : Editor) (quiet : Bool) (c : Char) : Editor × Option Turn :=
  let goOn (editor : Editor) : Editor × Option Turn := (editor, none)
  match c with
  | '=' => goOn (editor.write (Utf8.encode (toString editor.number)) true)
  | 'd' => (editor, some .deleted)
  | 'D' =>
      if editor.space.contains '\n' then
        ({ editor with space := (editor.space.dropWhile (· != '\n')).tail }, some .again)
      else (editor, some .deleted)
  | 'g' => goOn { editor with space := editor.hold }
  | 'G' => goOn { editor with space := editor.space ++ '\n' :: editor.hold }
  | 'h' => goOn { editor with hold := editor.space }
  | 'H' => goOn { editor with hold := editor.hold ++ '\n' :: editor.space }
  | 'x' => goOn { editor with space := editor.hold, hold := editor.space }
  | 'p' => goOn editor.printSpace
  | 'l' =>
      let shown := wrapped 69 0 (editor.space.map spelled)
      goOn (editor.write (charBytes shown.dropLast) true)
  | 'P' => goOn (editor.write (charBytes (editor.space.takeWhile (· != '\n'))) true)
  | 'n' =>
      match editor.advance? with
      | none => (editor, some (.quit 0 true))
      | some _ =>
          let printed := (if quiet then editor else editor.printSpace).flush
          match printed.advance? with
          | some (next, line) => goOn { next with space := line.text }
          | none => goOn printed
  | 'N' =>
      match editor.flush.advance? with
      | none => (editor, some (.quit 0 true))
      | some (next, line) => goOn { next with space := editor.space ++ '\n' :: line.text }
  | _ => goOn editor

def placeOf (program : List Command) (name : String) : Nat :=
  match program.findIdx? fun command =>
    match command.action with
    | .label other => other == name
    | _ => false
  with
  | some place => if name = "" then program.length else place
  | none => program.length

-- Runs the commands from a place on. The fuel bounds the number of steps.
def runFrom (program : List Command) (quiet : Bool) (sources : Sources) :
    Nat → Nat → Editor → Editor × Turn
  | 0, _, editor => (editor, .quit 1 false)
  | fuel + 1, place, editor =>
      match program[place]? with
      | none => (editor, .finished)
      | some command =>
          let (chosen, editor) := editor.chooses place command
          let isMeant := chosen != command.negated
          let goOn := runFrom program quiet sources fuel
          match command.action, isMeant with
          | .block, false =>
              goOn (place + 1 + blockSize 0 (program.drop (place + 1))) editor
          | _, false => goOn (place + 1) editor
          | .block, true | .blockEnd, true | .label _, true => goOn (place + 1) editor
          | .jump condition name, true =>
              if condition.all fun replaced => editor.hasReplaced == replaced then
                goOn (placeOf program name)
                  (if condition = some true then { editor with hasReplaced := false } else editor)
              else if condition = some false then
                goOn (place + 1) { editor with hasReplaced := false }
              else goOn (place + 1) editor
          | .substitute wanted parts occurrence everywhere prints, true =>
              goOn (place + 1) (editor.substitute wanted parts occurrence everywhere prints)
          | .exchangeChars pairs, true =>
              let space := editor.space.map fun c => (pairs.lookup c).getD c
              goOn (place + 1) { editor with space }
          | .append text, true =>
              goOn (place + 1) { editor with queue := editor.queue ++ [charBytes text] }
          | .readFile name, true =>
              goOn (place + 1) { editor with queue := editor.queue ++ [sources name] }
          | .insert text, true =>
              goOn (place + 1) (editor.write (charBytes text.dropLast) true)
          | .change text, true =>
              let isInside := (editor.begun.lookup place).isSome && !command.negated
              (if isInside then editor else editor.write (charBytes text.dropLast) true, .deleted)
          | .quit code prints, true => (editor, .quit code prints)
          | .letter c, true =>
              match editor.perform quiet c with
              | (editor, none) => goOn (place + 1) editor
              | (editor, some turn) => (editor, turn)

def missingLabel? (program : List Command) : Option String :=
  program.findSome? fun command =>
    match command.action with
    | .jump _ name =>
        let isThere := name == "" || program.any fun other =>
          match other.action with
          | .label other => other == name
          | _ => false
        if isThere then none else some name
    | _ => none

-- Enough for any script that comes to an end in a sensible time.
def turnFuel : Nat := 100000

-- Treats the lines one by one, and gives the exit code.
def runLines (program : List Command) (quiet : Bool) (sources : Sources) :
    Nat → Bool → Editor → Editor × Nat
  | 0, _, editor => (editor, 0)
  | fuel + 1, hasLine, editor =>
      let ready : Option Editor :=
        if hasLine then some editor
        else
          editor.advance?.map fun (next, line) =>
            { next with space := line.text, hasReplaced := false }
      match ready with
      | none => (editor, 0)
      | some editor =>
          let (after, turn) := runFrom program quiet sources turnFuel 0 editor
          let printed := if quiet then after else after.printSpace
          match turn with
          | .finished => runLines program quiet sources fuel false printed.flush
          | .deleted => runLines program quiet sources fuel false after.flush
          | .again => runLines program quiet sources fuel true after.flush
          | .quit code true => (printed.flush, code)
          | .quit code false => (after, code)

-- The lines of a text. The last one may lack its break.
def inputLines (bytes : List UInt8) : List InputLine :=
  let isEnded := bytes.getLast? = some 10 ∨ bytes.isEmpty
  let all := (lines bytes).map fun line => InputLine.mk (byteChars line) true
  if isEnded then all
  else
    match all.reverse with
    | last :: before => (({ last with isEnded := false } : InputLine) :: before).reverse
    | [] => []

def Editor.ofLines (coming : List InputLine) : Editor :=
  { space := []
    isEnded := true
    hold := []
    number := 0
    coming
    written := []
    needsBreak := false
    queue := []
    hasReplaced := false
    begun := []
    lastPattern := none }

-- The bytes that a script makes of lines, the exit code, and how many bytes have not been looked
-- at.
def edited (program : List Command) (quiet : Bool) (sources : Sources) (coming : List InputLine) :
    List UInt8 × Nat × Nat :=
  let (editor, code) :=
    runLines program quiet sources (turnFuel + coming.length) false (.ofLines coming)
  let left := editor.coming.foldl
    (fun count line => count + line.text.length + line.isEnded.toNat) 0
  (editor.written.reverse.flatten, code, left)

end MakeCheck.Program.Edit

namespace MakeCheck.Program

open Text

def editOptions : List OptionKind :=
  [plain 'n' "quiet", plain 'E' "regexp-extended", plain 'r' "", plain 's' "separate",
    plain 'u' "unbuffered", valued 'e' "expression", valued 'f' "file", plain 'i' "in-place"]

def editUsage (name : String) : String :=
  "Usage: " ++ name ++ " [OPTION]... \x7bscript-only-if-no-other-script\x7d [input-file]...\n\n"

-- Where a fault of a script lies, among the parts that it was given in.
def faultPlace : Nat → Nat → List (List Char) → Nat × Nat
  | number, place, part :: next :: rest =>
      if place ≤ part.length then (number, place)
      else faultPlace (number + 1) (place - part.length - 1) (next :: rest)
  | number, place, _ => (number, place)

def edit (around : Surroundings) (arguments : List String) : Outcome :=
  match readArguments editOptions arguments with
  | .error message =>
      around.outcome 1 [around.complaint message, (.errors, Utf8.encode (editUsage around.name))]
  | .ok given =>
      let (parts, names) :=
        match given.values 'e' ++ given.values 'f', given.operands with
        | [], script :: names => ([script], names)
        | [], [] => ([], [])
        | _, names =>
            (given.options.filterMap fun (letter, value) =>
              if letter = 'e' then some value
              else if letter = 'f' then
                some (Utf8.decodeLossy ((around.source value).toOption.getD []))
              else none, names)
      if parts.isEmpty then around.outcome 1 [(.errors, Utf8.encode (editUsage around.name))]
      else
        let texts := parts.map patternChars
        let text := ['\n'].intercalate texts
        match Edit.readScript (given.has 'E' || given.has 'r') text with
        | .error fault =>
            let isOpen := fault.message = "unmatched `\x7b'"
            let (number, place) := if fault.left = 0 ∧ isOpen then (1, 0)
              else faultPlace 1 (text.length - fault.left) texts
            around.outcome 1
              [around.complaint ("-e expression #" ++ toString number ++ ", char " ++
                toString place ++ ": " ++ fault.message)]
        | .ok program =>
          match Edit.missingLabel? program with
          | some label =>
              around.outcome 4
                [around.complaint ("can't find label for jump to `" ++ label ++ "'")]
          | none =>
            let names := if names.isEmpty then ["-"] else names
            let found := names.map fun name => (name, around.source name)
            let faults := found.filterMap fun (name, result) =>
              match result with
              | .ok _ => none
              | .error fault =>
                  let start := if fault = .isADirectory then "read error on " else "can't read "
                  some (around.complaint (start ++ name ++ ": " ++ fault.reason))
            let code := if faults.isEmpty then 0 else 2
            let quiet := given.has 'n' || text.take 3 = ['#', 'n', '\n']
            let sources (name : String) : List UInt8 := (around.source name).toOption.getD []
            let lossReport (fault : Fault) : String :=
              around.name ++ ": couldn't flush stdout: " ++ fault.reason ++ "\n"
            let texts := found.filterMap fun (name, result) =>
              result.toOption.map fun bytes => (name, Edit.inputLines bytes)
            if given.has 'i' then
              let files := texts.foldl
                (fun files (name, lines) =>
                  let (bytes, _) := Edit.edited program quiet sources lines
                  (files.write around.directory ⟨name⟩ bytes around.now).toOption.getD files)
                around.files
              { around.outcome code faults with files, intake := Surroundings.intakeOf names }
            else
              let (bytes, quitCode, left) :=
                if given.has 's' then
                  let each := texts.map fun (_, lines) => Edit.edited program quiet sources lines
                  (each.flatMap (·.1), (each.map (·.2.1)).foldl max 0, 0)
                else Edit.edited program quiet sources (texts.flatMap (·.2))
              let intake := if names = ["-"] ∧ 0 < left then
                  some (.until (around.inputBytes.length - left))
                else Surroundings.intakeOf names
              { around.outcome (if quitCode = 0 then code else quitCode)
                  (faults ++ [(.output, bytes)]) with
                intake
                lossReport
                lossCode := 4 }

end MakeCheck.Program
