import MakeCheck.Program.Mode
import MakeCheck.Program.Moment
import MakeCheck.Program.Utility

namespace MakeCheck.Program

open Text

def listOptions : List OptionKind :=
  [plain 'a' "all", plain 'A' "almost-all", plain 'd' "directory", plain '1' "",
    plain 'r' "reverse", plain 'F' "classify", plain 'p' "", plain 'R' "recursive", plain 'C' "",
    plain 'm' "", plain 'l' "", plain 't' "", plain 'S' "", plain 'g' "", plain 'o' "",
    plain 'n' "numeric-uid-gid", plain 's' "size", plain 'i' "inode", plain 'L' "dereference",
    plain 'H' "", plain 'G' "no-group", plain 'B' "ignore-backups",
    plain 'x' "", plain 'b' "escape", plain 'N' "literal", plain 'q' "", plain 'h' "", plain 'k' "",
    plain 'U' "", plain 'f' "", plain 'c' "", plain 'u' "", plain 'v' "", plain 'X' ""]

-- What a listing shows of a node: its name, the node, and how many names it goes by.
structure Entry where
  name : String
  node : Node
  links : Nat

def sizeOf (content : Content) : Nat :=
  match content with
  | .directory => 4096
  | .file bytes => bytes.length
  | .program _ => 35000
  | .link target => target.text.utf8ByteSize
  | _ => 0

def blocksOf (content : Content) : Nat :=
  match content with
  | .directory => 4
  | .file bytes => (bytes.length + 4095) / 4096 * 4
  | .program _ => 36
  | _ => 0

-- A directory goes by its own name, by the dot in it, and by the two dots in each below it. Other
-- things go by the names that they were given.
def linksOf (files : FileStore) (location : Location) (node : Node) : Nat :=
  if node.content == .directory then
    2 + ((files.names location).filter fun name =>
      files.content? (location ++ [name]) == some .directory).length
  else (files.entries.filter fun entry => files.isShared location entry.1).length

def kindMark (given : Given) (node : Node) : String :=
  match node.content with
  | .directory => if given.has 'F' || given.has 'p' then "/" else ""
  | .file _ | .program _ => if given.has 'F' && node.isExecutable then "*" else ""
  | .link _ => if given.has 'F' then "@" else ""
  | .queue _ => if given.has 'F' then "|" else ""
  | .device _ => ""

def isLong (given : Given) : Bool :=
  given.has 'l' || given.has 'g' || given.has 'o' || given.has 'n'

def fillRight (width : Nat) (text : String) : String :=
  text ++ String.ofList (List.replicate (width - text.length) ' ')

def fillLeft (width : Nat) (text : String) : String :=
  String.ofList (List.replicate (width - text.length) ' ') ++ text

-- What is older than half a year, or younger than now, is shown with its year.
def changeTime (now time : Time) : String :=
  let moment := Moment.ofTime time
  let isRecent := decide (now - 15778476 * Time.second < time ∧ time ≤ now)
  let format := if isRecent then "%b %e %H:%M" else "%b %e  %Y"
  formatMoment moment format.toList

-- The rows of a long listing, whose columns are as wide as the widest of them.
def longRows (given : Given) (now : Time) (entries : List Entry) : List String :=
  let widest (column : Entry → String) : Nat :=
    (entries.map fun entry => (column entry).length).foldl max 0
  let links (entry : Entry) : String := toString entry.links
  let size (entry : Entry) : String := toString (sizeOf entry.node.content)
  let owner := if given.has 'n' then "0" else "root"
  entries.map fun entry =>
    let node := entry.node
    let owners := (if given.has 'g' then [] else [owner]) ++
      (if given.has 'o' || given.has 'G' then [] else [owner])
    let target :=
      match node.content with
      | .link target => " -> " ++ target.text
      | content => if content == .directory || given.has 'F' then kindMark given node else ""
    " ".intercalate
      ([modeLetters node.content node.mode, fillLeft (widest links) (links entry)] ++ owners ++
        [fillLeft (widest size) (size entry), changeTime now node.modified, entry.name ++ target])

def shownEntries (given : Given) (now : Time) (entries : List Entry) : String :=
  let rows :=
    if isLong given then longRows given now entries
    else entries.map fun entry => entry.name ++ kindMark given entry.node
  if given.has 'm' && !isLong given then
    if rows.isEmpty then "" else ", ".intercalate rows ++ "\n"
  else String.join (rows.map (· ++ "\n"))

-- Brings entries into the order that is asked for, by their names where nothing else tells them
-- apart.
def orderedEntries (given : Given) (entries : List Entry) : List Entry :=
  let byName := entries.mergeSort fun a b => decide (a.name ≤ b.name)
  let ordered :=
    if given.has 't' then byName.mergeSort fun a b => decide (b.node.modified ≤ a.node.modified)
    else if given.has 'S' then
      byName.mergeSort fun a b => decide (sizeOf b.node.content ≤ sizeOf a.node.content)
    else byName
  if given.has 'r' then ordered.reverse else ordered

-- The names in a directory. Those that begin with a dot are hidden unless they are asked for.
def entriesIn (files : FileStore) (given : Given) (location : Location) : List Entry :=
  let hidden := given.has 'a' || given.has 'A' || given.has 'f'
  let own := if given.has 'a' || given.has 'f' then [(".", location), ("..", location.dropLast)]
    else []
  let names := (files.names location).filter fun name => hidden || !".".isPrefixOf name
  let found := own ++ names.map fun name => (name, location ++ [name])
  found.filterMap fun (name, place) =>
    (files.node? place).map fun node => ⟨name, node, linksOf files place node⟩

def shownDirectory (files : FileStore) (given : Given) (now : Time) (location : Location) :
    String :=
  let entries := orderedEntries given (entriesIn files given location)
  let total := entries.foldl (fun count entry => count + blocksOf entry.node.content) 0
  (if isLong given || given.has 's' then "total " ++ toString total ++ "\n" else "") ++
    shownEntries given now entries

-- The directories below a place, each with the path that leads to it. The fuel bounds the depth.
def directoriesBelow (files : FileStore) (given : Given) :
    Nat → String → Location → List (String × Location)
  | 0, _, _ => []
  | fuel + 1, path, location =>
      let inside := orderedEntries given (entriesIn files given location)
      (path, location) ::
        inside.flatMap fun entry =>
          if entry.node.content == .directory && entry.name != "." && entry.name != ".." then
            directoriesBelow files given fuel (path ++ "/" ++ entry.name)
              (location ++ [entry.name])
          else []

-- What a name on the command line stands for. A link is followed unless the listing is about the
-- link itself.
def listed (around : Surroundings) (given : Given) (name : String) :
    Except Fault (Location × Node) :=
  let itself := around.files.findName around.directory ⟨name⟩
  if (isLong given || given.has 'd' || given.has 'F') && !given.has 'L' && !given.has 'H' then
    itself
  else
    match around.files.find around.directory ⟨name⟩ with
    | .ok found => .ok found
    | .error _ => itself

def list (around : Surroundings) (arguments : List String) : Outcome :=
  match readArguments listOptions arguments with
  | .error message => around.misused 2 [message]
  | .ok given =>
      let names := if given.operands.isEmpty then ["."] else given.operands
      let missing := names.filterMap fun name =>
        match listed around given name with
        | .error fault =>
            some (around.complaint ("cannot access " ++ quotedName name ++ ": " ++ fault.reason))
        | .ok _ => none
      let found := orderedEntries given (names.filterMap fun name =>
        match listed around given name with
        | .ok (location, node) => some ⟨name, node, linksOf around.files location node⟩
        | .error _ => none)
      let (directories, others) := found.partition fun entry =>
        entry.node.content == .directory && !given.has 'd'
      let places := directories.flatMap fun entry =>
        match listed around given entry.name with
        | .ok (location, _) =>
            if given.has 'R' then directoriesBelow around.files given 100 entry.name location
            else [(entry.name, location)]
        | .error _ => []
      let isTitled := 1 < names.length || given.has 'R'
      let blocks := places.map fun (name, location) =>
        (if isTitled then name ++ ":\n" else "") ++
          shownDirectory around.files given around.now location
      let blocks :=
        (if others.isEmpty then [] else [shownEntries given around.now others]) ++ blocks
      { around.outcome (if missing.isEmpty then 0 else 2)
          (missing ++ [said ("\n".intercalate blocks)]) with lossCode := 2 }

end MakeCheck.Program
