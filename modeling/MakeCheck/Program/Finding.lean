import MakeCheck.Program.FileWork
import MakeCheck.Program.FindExpression
import MakeCheck.Program.Inspection
import MakeCheck.Program.Plan

namespace MakeCheck.Program

open Text

-- How far a search has come: the files as they are now, what is still to be written, whether
-- something went wrong, whether it is over, and names that wait for their command.
structure Finding where
  around : Surroundings
  written : List (List UInt8)
  failed : Bool
  isOver : Bool
  waiting : List (Nat × String)

-- A file that was met: the path to it, the one that the search started from, how deep below it
-- lies, its place and what it is.
structure Met where
  path : String
  origin : String
  depth : Nat
  location : Location
  node : Node

abbrev Finder (α : Type) := Work Finding α

namespace Finder

def write (bytes : List UInt8) : Finder Unit :=
  Work.alter fun state => { state with written := bytes :: state.written }

def flush : Finder Unit := do
  let state ← Work.look
  Work.alter fun state => { state with written := [] }
  Work.say .output state.written.reverse.flatten

def complain (message : String) : Finder Unit := do
  flush
  let state ← Work.look
  Work.alter fun state => { state with failed := true }
  let (_, bytes) := state.around.complaint message
  Work.say .errors bytes

-- Runs a command, in a directory of its own if there is one, and tells whether it went well.
def command (words : List String) (folder : Option Location) (code : Bool) : Finder Bool := do
  flush
  let errand : Errand := { Errand.plain words with directory := folder }
  let reply ← Work.start errand
  Work.alter fun state =>
    { state with around := { state.around with files := reply.files, now := reply.now } }
  match reply.result with
  | .ok (.exited 0) => return true
  | .ok _ =>
      if code then Work.alter fun state => { state with failed := true }
      return false
  | .error fault =>
      let before := (← Work.look).failed
      complain (quotedName (words.headD "") ++ ": " ++ fault.reason)
      Work.alter fun state => { state with failed := before || code }
      return false

end Finder

namespace Met

-- The directory of a file, and its name seen from there.
def folder (met : Met) : Location × String :=
  if met.location.isEmpty then ([], "/") else (met.location.dropLast, "./" ++ ownName met.path)

def frontOf (path : String) : String :=
  match (path.toList.reverse.dropWhile (· != '/')).drop 1 with
  | [] => if path.toList.contains '/' then "" else "."
  | front => String.ofList front.reverse

def kindLetter (node : Node) : Char :=
  match node.content with
  | .directory => 'd'
  | .link _ => 'l'
  | .queue _ => 'p'
  | .device _ => 'c'
  | _ => 'f'

def shown (met : Met) (files : FileStore) (letter : Char) : String :=
  let target :=
    match met.node.content with
    | .link target => target.text
    | _ => ""
  let moment := Moment.ofTime met.node.modified
  match letter with
  | 'p' => met.path
  | 'f' => if ownName met.path = "" then met.path else ownName met.path
  | 'h' => frontOf met.path
  | 'P' => String.ofList ((met.path.toList.drop met.origin.length).dropWhile (· == '/'))
  | 'H' => met.origin
  | 'd' => toString met.depth
  | 's' => toString (sizeOf met.node.content)
  | 'b' => toString (2 * blocksOf met.node.content)
  | 'k' => toString (blocksOf met.node.content)
  | 'y' | 'Y' => (kindLetter met.node).toString
  | 'm' => String.ofList (Nat.toDigits 8 met.node.mode)
  | 'M' => modeLetters met.node.content met.node.mode
  | 'n' => toString (linksOf files met.location met.node)
  | 'l' => target
  | 'u' | 'g' => "root"
  | 'U' | 'G' => "0"
  | 't' | 'a' | 'c' => formatMoment moment "%a %b %e %H:%M:%S.%N0 %Y".toList
  | '%' => "%"
  | c => String.ofList ['%', c]

def told (met : Met) (files : FileStore) : List Char → String
  | '%' :: 'T' :: '@' :: rest =>
      let nanos := filled 9 '0' (Moment.ofTime met.node.modified).nanos
      toString (met.node.modified.fdiv Time.second) ++ "." ++ nanos ++ "0" ++ met.told files rest
  | '%' :: 'T' :: letter :: rest =>
      formatMoment (Moment.ofTime met.node.modified) ['%', letter] ++ met.told files rest
  | '%' :: letter :: rest => met.shown files letter ++ met.told files rest
  | '\\' :: 'n' :: rest => "\n" ++ met.told files rest
  | '\\' :: 't' :: rest => "\t" ++ met.told files rest
  | '\\' :: '0' :: rest => "\x00" ++ met.told files rest
  | '\\' :: '\\' :: rest => "\\" ++ met.told files rest
  | c :: rest => c.toString ++ met.told files rest
  | [] => ""

end Met

namespace Finder

-- The node that a link leads to, or the link where it leads nowhere.
def followed (files : FileStore) (met : Met) : Node :=
  match files.nodeAt met.location, met.node.content with
  | .ok _, .link target =>
      match files.find met.location.dropLast target with
      | .ok (_, node) => node
      | .error _ => met.node
  | _, _ => met.node

def isEmpty (files : FileStore) (met : Met) : Bool :=
  match met.node.content with
  | .directory => (files.names met.location).isEmpty
  | content => sizeOf content == 0

def delete (met : Met) : Finder Bool := do
  let state ← Work.look
  let files := state.around.files
  if met.path = "." then return true
  else if !(files.names met.location).isEmpty then
    complain ("cannot delete " ++ quotedName met.path ++ ": Directory not empty")
    return false
  else
    let left := files.removeTree met.location state.around.now
    Work.alter fun state => { state with around := { state.around with files := left } }
    Work.place left
    return true

-- Asks a file, and tells whether the answer is yes and whether what lies below is to be passed
-- over.
def ask (met : Met) : FindTest → Finder (Bool × Bool)
  | .both first second => do
      let (holds, prunes) ← ask met first
      if !holds || (← Work.look).isOver then return (false, prunes)
      let (also, more) ← ask met second
      return (also, prunes || more)
  | .either first second => do
      let (holds, prunes) ← ask met first
      if holds || (← Work.look).isOver then return (holds, prunes)
      let (also, more) ← ask met second
      return (also, prunes || more)
  | .inTurn first second => do
      let (_, prunes) ← ask met first
      if (← Work.look).isOver then return (false, prunes)
      let (also, more) ← ask met second
      return (also, prunes || more)
  | .negate body => do
      let (holds, prunes) ← ask met body
      return (!holds, prunes)
  | .always holds => pure (holds, false)
  | .named pattern folds =>
      let own := ownName met.path
      let name := if own = "" then met.path else own
      let name := if folds then name.toLower else name
      pure (Shell.Glob.fits pattern name.toList, false)
  | .lying pattern folds =>
      let path := if folds then met.path.toLower else met.path
      pure (Shell.Glob.fits pattern path.toList, false)
  | .leading pattern folds =>
      match met.node.content with
      | .link target =>
          let text := if folds then target.text.toLower else target.text
          pure (Shell.Glob.fits pattern text.toList, false)
      | _ => pure (false, false)
  | .matching pattern folds =>
      let path := patternChars met.path
      let found := pattern.matchAt? folds ⟨none, path, 0⟩
      pure (found.any fun found => found.stop == path.length, false)
  | .kind letters follows => do
      let state ← Work.look
      let node := if follows then followed state.around.files met else met.node
      return (letters.contains (Met.kindLetter node), false)
  | .size measure unit =>
      let size := sizeOf met.node.content
      pure (measure.fits ((size + unit - 1) / unit : Nat), false)
  | .empty => do
      let state ← Work.look
      return (isEmpty state.around.files met, false)
  | .newer time => pure (decide (time < met.node.modified), false)
  | .age measure unit => do
      let state ← Work.look
      let age := state.around.now - met.node.modified
      let span := (unit : Int) * Time.second
      let units := age.fdiv span
      -- Days are cut off. Minutes are not, so the first one has the number one.
      let units :=
        if unit != 60 || measure.sign == .lt then units
        else if measure.sign == .gt && units * span == age then units
        else units + 1
      return (measure.fits units, false)
  | .rights sign mode =>
      let own := met.node.mode
      let holds :=
        match sign with
        | some '-' => own &&& mode == mode
        | some _ => mode == 0 || own &&& mode != 0
        | none => own == mode
      pure (holds, false)
  | .links measure => do
      let state ← Work.look
      return (measure.fits (linksOf state.around.files met.location met.node : Nat), false)
  | .owned isRoot => pure (isRoot, false)
  | .executable =>
      pure (met.node.isExecutable || met.node.content == .directory, false)
  | .prune => pure (true, true)
  | .quit => do
      Work.alter fun state => { state with isOver := true }
      return (true, true)
  | .print stop => do
      write (Utf8.encode met.path ++ stop)
      return (true, false)
  | .printForm form => do
      let state ← Work.look
      write (Utf8.encode (met.told state.around.files form))
      return (true, false)
  | .start inFolder words => do
      let (folder, name) := if inFolder then met.folder else ([], met.path)
      let filled := words.map fun word => word.replace "\x7b\x7d" name
      let holds ← command filled (if inFolder then some folder else none) false
      return (holds, false)
  | .gather true _ words => do
      let (folder, name) := met.folder
      let holds ← command (words ++ [name]) (some folder) true
      return (holds || true, false)
  | .gather false index _ => do
      Work.alter fun state => { state with waiting := (index, met.path) :: state.waiting }
      return (true, false)
  | .delete => do
      let holds ← delete met
      return (holds, false)

-- How a search goes: what it asks, its limits, and which links are followed.
structure Way where
  test : FindTest
  limits : FindLimits
  follows : Bool

-- Asks a file and all that lies below it. The fuel bounds the depth.
def visit (way : Way) : Nat → Met → Finder Unit
  | 0, _ => pure ()
  | fuel + 1, met => do
      let inLimits := decide (way.limits.least ≤ met.depth)
      let state ← Work.look
      if state.isOver then pure ()
      else
        let (_, prunes) ←
          if inLimits && !way.limits.depthFirst then ask met way.test else pure (false, false)
        let mayDescend := way.limits.greatest.all (met.depth < ·)
        if met.node.content == .directory && !prunes && mayDescend then
          let state ← Work.look
          Work.forAll (state.around.files.names met.location) fun name => do
            let state ← Work.look
            let path := ((Path.mk met.path).join name).text
            let location := met.location ++ [name]
            match state.around.files.nodeAt location with
            | .ok (_, node) =>
                let found : Met := ⟨path, met.origin, met.depth + 1, location, node⟩
                let target := if way.follows then
                    (state.around.files.find met.location ⟨name⟩).toOption
                  else none
                match target with
                | some (location, node) => visit way fuel { found with location, node }
                | none => visit way fuel found
            | .error _ => pure ()
        let state ← Work.look
        if inLimits && way.limits.depthFirst && !state.isOver then
          let _ ← ask met way.test

def begin (way : Way) (followsFirst : Bool) (path : String) : Finder Unit := do
  let state ← Work.look
  let files := state.around.files
  let directory := state.around.directory
  let direct := files.findName directory ⟨path⟩
  let found :=
    if way.follows || followsFirst then
      match files.find directory ⟨path⟩ with
      | .ok found => .ok found
      | .error _ => direct
    else direct
  match found with
  | .ok (location, node) =>
      if state.isOver then pure () else visit way 1000 ⟨path, path, 0, location, node⟩
  | .error fault => complain (quotedName path ++ ": " ++ fault.reason)

def finish (test : FindTest) : Finder Unit :=
  Work.forAll test.gatherings fun (_, index, words) => do
    let state ← Work.look
    let names := (state.waiting.reverse.filter fun entry => entry.1 == index).map (·.2)
    if !names.isEmpty then
      let _ ← command (words ++ names) none true

end Finder

-- The options in front of all paths that tell which links are followed.
def linkOptions : List String → Bool × Bool × List String
  | "-H" :: rest =>
      let (_, follows, others) := linkOptions rest
      (true, follows, others)
  | "-L" :: rest =>
      let (first, _, others) := linkOptions rest
      (first, true, others)
  | "-P" :: rest => linkOptions rest
  | "--" :: rest => (false, false, rest)
  | words => (false, false, words)

def find (around : Surroundings) (arguments : List String) : Plan :=
  let (followsFirst, follows, words) := linkOptions arguments
  let (paths, words) := findPaths words
  let paths := if paths.isEmpty then ["."] else paths
  let start : FindReading := ⟨words, ⟨0, none, false⟩, 0, none⟩
  let read : FindReader FindTest :=
    if words.isEmpty then pure (.always true)
    else do
      let test ← readTurns around (4 * words.length + 4)
      match ← findWord? with
      | some ")" => throw "invalid expression; you have too many ')'"
      | some word =>
          strayWord around word
          return test
      | none => return test
  match read.run start with
  | .error message => .finish (around.outcome 1 [around.complaint message])
  | .ok (test, reading) =>
      let full := if test.acts then test else .both test (.print [10])
      let limits := { reading.limits with
        depthFirst := reading.limits.depthFirst || test.asksDepth }
      let way : Finder.Way := ⟨full, limits, follows || words.contains "-follow"⟩
      let work : Finder Unit := do
        Work.forAll paths (Finder.begin way followsFirst)
        Finder.finish full
        Finder.flush
      work.run ⟨around, [], false, false, []⟩ fun state =>
        .finish { around.outcome (if state.failed then 1 else 0) [] with
          files := state.around.files }

end MakeCheck.Program
