import MakeCheck.FileStore.Fault
import MakeCheck.FileStore.Utility
import MakeCheck.Path
import MakeCheck.Text.Utf8

namespace MakeCheck

-- A device that swallows what is written, and gives nothing, or noughts or noise without an end, or
-- refuses what is written as if there was no room.
inductive Device where
  | null
  | zero
  | full
  | noise
deriving DecidableEq

inductive Content where
  | directory
  | file (bytes : List UInt8)
  | program (utility : Utility)
  -- Stands for what its path leads to.
  | link (target : Path)
  -- Hands on what one process writes to one that reads: all that comes until nobody writes any
  -- more. One that nobody ever writes to keeps its reader waiting until the reader is stopped.
  | queue (incoming : Option (List UInt8))
  | device (device : Device)
deriving DecidableEq

namespace Content

def isFile : Content → Bool
  | file _ => true
  | program _ => true
  | _ => false

def isLink : Content → Bool
  | link _ => true
  | _ => false

def isQueue : Content → Bool
  | queue _ => true
  | _ => false

def isDevice : Content → Bool
  | device _ => true
  | _ => false

end Content

-- Nanoseconds since the beginning of 1970.
abbrev Time := Int

def Time.second : Time := 1000000000

-- Who works with files. The one with number nought may do everything.
structure User where
  number : Nat
  groups : List Nat
deriving DecidableEq

namespace User

def root : User :=
  ⟨0, [0]⟩

-- The group that gets what the user makes.
def group (user : User) : Nat :=
  user.groups.head?.getD 0

end User

inductive Right where
  | read
  | write
  -- To run a file, or to look for names in a directory.
  | enter
deriving DecidableEq

def Right.bit : Right → Nat
  | read => 4
  | write => 2
  | enter => 1

-- The rights of a node are the bits of a number: for its owner, for a group and for others, each of
-- them to read, to write and to run.
structure Node where
  content : Content
  mode : Nat
  modified : Time
  owner : Nat
  group : Nat
  -- Why the system does not get at what is in it, where it does not.
  failing : Option Trouble
deriving DecidableEq

namespace Node

def ofRoot (content : Content) (mode : Nat) (modified : Time) : Node :=
  { content, mode, modified, owner := 0, group := 0, failing := none }

-- An empty file to which nobody has a right.
def blank : Node :=
  ofRoot (.file []) 0 0

def runBits : Nat := 0o111

-- The right of anyone to run it is enough for the one who may do everything.
def isExecutable (node : Node) : Bool :=
  node.mode &&& runBits != 0

-- How many bits stand behind those that count for a user.
def shift (node : Node) (user : User) : Nat :=
  if user.number = node.owner then 6 else if node.group ∈ user.groups then 3 else 0

def allows (node : Node) (user : User) (right : Right) : Bool :=
  user.number == 0 || node.mode >>> node.shift user &&& right.bit != 0

def refusal? (node : Node) (user : User) (right : Right) : Option Fault :=
  if node.allows user right then node.failing.map (·.val) else some .permissionDenied

end Node

def FileStore.maxNameSize : Nat := 255

-- What keeps a user from looking for a name in a node. An empty name asks for a directory only.
def Node.obstacle? (node : Node) (user : User) (name : String) : Option Fault :=
  if node.content ≠ .directory then some .notADirectory
  else if name = "" then none
  else
    (node.refusal? user .enter).or
      (if FileStore.maxNameSize < name.utf8ByteSize then some .nameTooLong else none)

-- The rights that are left of those asked for, given the ones that a process never gives.
def Mode.without (mask mode : Nat) : Nat :=
  mode - (mode &&& mask)

-- The rights that nobody but the owner of a new file gets unless a process says otherwise.
def standardMask : Nat := 0o022

-- The names that lead from the root to a place.
abbrev Location := List String

-- What a node is known by, whatever names it has.
abbrev Identity := Nat

-- Files and directories, which several places may share, and the user who works with them.
structure FileStore where
  user : User
  entries : List (Location × Identity)
  inodes : List (Identity × Node)

namespace FileStore

-- A store for the root, in which all places have nodes of their own.
def ofNodes (nodes : List (Location × Node)) : FileStore where
  user := .root
  entries := nodes.zipIdx.map fun (entry, identity) => (entry.1, identity)
  inodes := nodes.zipIdx.map fun (entry, identity) => (identity, entry.2)

def identity? (store : FileStore) (location : Location) : Option Identity :=
  store.entries.lookup location

def inode (store : FileStore) (identity : Identity) : Node :=
  (store.inodes.lookup identity).getD .blank

def node? (store : FileStore) (location : Location) : Option Node :=
  (store.identity? location).map store.inode

def content? (store : FileStore) (location : Location) : Option Content :=
  (store.node? location).map (·.content)

def nodes (store : FileStore) : List (Location × Node) :=
  store.entries.map fun entry => (entry.1, store.inode entry.2)

-- Two places are names of one thing.
def isShared (store : FileStore) (location other : Location) : Bool :=
  location == other ||
    (store.identity? location).isSome && store.identity? location == store.identity? other

-- An identity that no place has.
def fresh (store : FileStore) : Identity :=
  store.entries.foldr (fun entry bound => max (entry.2 + 1) bound) 0

-- Makes a place a name of what has the identity.
def name (store : FileStore) (location : Location) (identity : Identity) : FileStore :=
  { store with
    entries := (location, identity) :: store.entries.filter fun entry => entry.1 != location }

-- What has the identity changes under all its names.
def alter (store : FileStore) (identity : Identity) (node : Node) : FileStore :=
  { store with
    inodes := (identity, node) :: store.inodes.filter fun entry => entry.1 != identity }

def create (store : FileStore) (location : Location) (node : Node) : FileStore :=
  (store.alter store.fresh node).name location store.fresh

-- What is at a place becomes another node.
def put (store : FileStore) (location : Location) (node : Node) : FileStore :=
  match store.identity? location with
  | some identity => store.alter identity node
  | none => store.create location node

-- A directory changes when a name in it comes or goes.
def stamp (store : FileStore) (location : Location) (now : Time) : FileStore :=
  match store.node? location with
  | some node => store.put location { node with modified := now }
  | none => store

def add (store : FileStore) (location : Location) (node : Node) (now : Time) : FileStore :=
  (store.create location node).stamp location.dropLast now

-- Gives what is at a place one more name.
def link (store : FileStore) (location other : Location) (now : Time) : FileStore :=
  match store.identity? location with
  | some identity => (store.name other identity).stamp other.dropLast now
  | none => store

-- A node as the user makes it.
def made (store : FileStore) (content : Content) (mode : Nat) (now : Time) : Node where
  content := content
  mode := mode
  modified := now
  owner := store.user.number
  group := store.user.group
  failing := none

-- Takes away a place with all that lies below it.
def removeTree (store : FileStore) (location : Location) (now : Time) : FileStore :=
  stamp { store with entries := store.entries.filter fun entry => !location.isPrefixOf entry.1 }
    location.dropLast now

-- What lies at a place gets another place, and so does all that lies below it.
def rename (store : FileStore) (location other : Location) (now : Time) : FileStore :=
  let kept := (store.removeTree other now).removeTree location now
  let moved := (store.entries.filter fun entry => location.isPrefixOf entry.1).map fun entry =>
    (other ++ entry.1.drop location.length, entry.2)
  { kept with entries := moved ++ kept.entries }.stamp other.dropLast now

def maxPathSize : Nat := 4095

-- How many links one walk may follow.
def maxLinks : Nat := 40

def startOf (directory : Location) (path : Path) : Location :=
  if path.isAbsolute then [] else directory

-- What keeps a walk from going on from a place by a piece of its path.
def obstacle? (store : FileStore) (location : Location) (piece : String) : Option Fault :=
  match store.node? location with
  | some node => node.obstacle? store.user piece
  | none => some .notFound

-- The walk goes through directories, and through links to them. Its end need not exist. The first
-- argument bounds the links, and the flag tells whether one at the end is followed.
def walk (store : FileStore) (links : Nat) (follows : Bool) (location : Location) :
    List String → Except Fault Location
  | [] => .ok location
  | piece :: rest =>
      match store.obstacle? location piece with
      | some fault => .error fault
      | none =>
          if piece = "" ∨ piece = "." then walk store links follows location rest
          else if piece = ".." then walk store links follows location.dropLast rest
          else
            match store.content? (location ++ [piece]) with
            | some (.link target) =>
                if rest.isEmpty && !follows then .ok (location ++ [piece])
                else
                  match links with
                  | 0 => .error .tooManyLevels
                  | links + 1 =>
                      walk store links follows (startOf location target) (target.pieces ++ rest)
            | _ => walk store links follows (location ++ [piece]) rest
termination_by pieces => (links, pieces.length)

def pathFault? (path : Path) : Option Fault :=
  if '\x00' ∈ path.text.toList then some .nulInPath
  else if path.text = "" then some .notFound
  else if maxPathSize < path.text.utf8ByteSize then some .nameTooLong
  else none

-- The place that a path leads to, seen from a directory.
def resolve (store : FileStore) (directory : Location) (path : Path) : Except Fault Location :=
  match pathFault? path with
  | some fault => .error fault
  | none => store.walk maxLinks true (startOf directory path) path.pieces

-- The same where a link at the end of the path stands for itself.
def resolveName (store : FileStore) (directory : Location) (path : Path) :
    Except Fault Location :=
  match pathFault? path with
  | some fault => .error fault
  | none => store.walk maxLinks false (startOf directory path) path.pieces

def nodeAt (store : FileStore) (location : Location) : Except Fault (Location × Node) :=
  match store.node? location with
  | some node => .ok (location, node)
  | none => .error .notFound

def find (store : FileStore) (directory : Location) (path : Path) :
    Except Fault (Location × Node) := do
  store.nodeAt (← store.resolve directory path)

def findName (store : FileStore) (directory : Location) (path : Path) :
    Except Fault (Location × Node) := do
  store.nodeAt (← store.resolveName directory path)

def has (store : FileStore) (directory : Location) (path : Path) : Bool :=
  (store.find directory path).toOption.isSome

def hasName (store : FileStore) (directory : Location) (path : Path) : Bool :=
  (store.findName directory path).toOption.isSome

def isFile (store : FileStore) (directory : Location) (path : Path) : Bool :=
  match store.find directory path with
  | .ok (_, node) => node.content.isFile
  | .error _ => false

def isDirectory (store : FileStore) (directory : Location) (path : Path) : Bool :=
  match store.find directory path with
  | .ok (_, node) => node.content == .directory
  | .error _ => false

-- A program is machine code, which spells no text.
def machineCode : List UInt8 :=
  [0x7F, 0x45, 0x4C, 0x46, 0x02, 0xFF]

-- All that there is to be read. What has no end fills the memory.
def bytesOf : Content → Except Fault (List UInt8)
  | .directory => .error .isADirectory
  | .file bytes => .ok bytes
  | .program _ => .ok machineCode
  | .link _ => .error .tooManyLevels
  | .queue none => .error .interrupted
  | .queue (some incoming) => .ok incoming
  | .device .null => .ok []
  | .device _ => .error .outOfMemory

-- Opens what is at a path to be read, as none but those may who have the right.
def openOld (store : FileStore) (directory : Location) (path : Path) :
    Except Fault (Location × Node) := do
  let (location, node) ← store.find directory path
  match node.refusal? store.user .read with
  | some fault => .error fault
  | none => .ok (location, node)

def read (store : FileStore) (directory : Location) (path : Path) : Except Fault (List UInt8) := do
  let (_, node) ← store.openOld directory path
  bytesOf node.content

-- The text of a file. Bytes that spell no text are an error.
def readText (store : FileStore) (directory : Location) (path : Path) : Except Fault String := do
  match Text.Utf8.decode? (← store.read directory path) with
  | some text => .ok text
  | none => .error .invalidText

-- The place of a file to be written. A slash after its name asks for a directory, which writing
-- does not make, whatever there is of that name.
def resolveNew (store : FileStore) (directory : Location) (path : Path) : Except Fault Location :=
  match path.pieces.reverse with
  | "" :: before =>
      match before.dropWhile (· == ""), pathFault? path with
      | name :: above, none =>
          if name = "." ∨ name = ".." then store.resolve directory path
          else
            match store.walk maxLinks true (startOf directory path) (above.reverse ++ ["."]) with
            | .ok _ => .error .isADirectory
            | .error fault => .error fault
      | _, _ => store.resolve directory path
  | _ => store.resolve directory path

-- Whether the user may bring a name into the directory of a place.
def entryFault? (store : FileStore) (location : Location) : Option Fault :=
  match store.node? location.dropLast with
  | some node => node.refusal? store.user .write
  | none => some .notFound

-- Opens a place for writing. A file that is there is emptied and keeps its own rights, and one that
-- is not there is made with the given ones.
def openNew (store : FileStore) (location : Location) (mode : Nat) (now : Time) :
    Except Fault FileStore :=
  match store.node? location with
  | none =>
      match store.entryFault? location with
      | some fault => .error fault
      | none => .ok (store.add location (store.made (.file []) mode now) now)
  | some node =>
      if node.content = .directory then .error .isADirectory
      else
        match node.refusal? store.user .write with
        | some fault => .error fault
        | none =>
            if node.content.isFile then
              .ok (store.put location { node with content := .file [], modified := now })
            else .ok store

-- Writes to what is open at a place. Only a file keeps the bytes.
def pour (store : FileStore) (location : Location) (bytes : List UInt8) (now : Time) :
    Except Fault FileStore :=
  match store.node? location with
  | none => .error .badDescriptor
  | some node =>
      if node.content.isFile then
        .ok (store.put location { node with content := .file bytes, modified := now })
      else if node.content = .device .full ∧ bytes ≠ [] then .error .storageFull
      else .ok store

def writeAs (store : FileStore) (directory : Location) (path : Path) (bytes : List UInt8)
    (mode : Nat) (now : Time) : Except Fault FileStore := do
  let location ← store.resolveNew directory path
  let opened ← store.openNew location mode now
  opened.pour location bytes now

def fileMode : Nat := 0o666
def directoryMode : Nat := 0o777

def write (store : FileStore) (directory : Location) (path : Path) (bytes : List UInt8)
    (now : Time) : Except Fault FileStore :=
  store.writeAs directory path bytes (Mode.without standardMask fileMode) now

def setMode (store : FileStore) (directory : Location) (path : Path) (mode : Nat) : FileStore :=
  match store.find directory path with
  | .ok (location, node) => store.put location { node with mode }
  | .error _ => store

-- Gives a file that is open the rights of another one, as none but its owner may.
def yield (store : FileStore) (location : Location) (mode : Nat) : Except Fault FileStore :=
  match store.node? location with
  | none => .error .badDescriptor
  | some node =>
      if !node.content.isFile then .ok store
      else if store.user.number = 0 ∨ store.user.number = node.owner then
        .ok (store.put location { node with mode })
      else .error .notPermitted

-- Hands the rights and the bytes of one place to another, which is open. What is done stays done
-- where a step fails.
def transfer (store : FileStore) (source target : Location) (node : Node) (now : Time) :
    FileStore × Except Fault Unit :=
  match store.yield target node.mode with
  | .error fault => (store, .error fault)
  | .ok ready =>
      match ready.content? source with
      | none => (ready, .error .badDescriptor)
      | some content =>
          match bytesOf content >>= fun bytes => ready.pour target bytes now with
          | .error fault => (ready, .error fault)
          | .ok written => (written, .ok ())

-- The places of a file that is to be copied and of the copy, and the file.
def openBoth (store : FileStore) (directory : Location) (source target : Path) (now : Time) :
    Except Fault (Location × Location × Node × FileStore) := do
  let (home, node) ← store.openOld directory source
  if !node.content.isFile then .error .notRegular
  else
    let place ← store.resolveNew directory target
    let opened ← store.openNew place (Mode.without standardMask node.mode) now
    .ok (home, place, node, opened)

-- Copies a regular file with its rights. The source is opened, then the target is made or emptied,
-- and only then are bytes read, so a file that is copied to a name of its own ends up empty.
def copy (store : FileStore) (directory : Location) (source target : Path) (now : Time) :
    FileStore × Except Fault Unit :=
  match store.openBoth directory source target now with
  | .error fault => (store, .error fault)
  | .ok (home, place, node, opened) => opened.transfer home place node now

-- Makes one directory inside another. What is there already is left alone.
def makeDirectory (store : FileStore) (directory : Location) (path : Path) (mode : Nat)
    (now : Time) : Except Fault FileStore := do
  let location ← store.resolveName directory path
  if (store.node? location).isSome then .error .fileExists
  else
    match store.entryFault? location with
    | some fault => .error fault
    | none => .ok (store.add location (store.made .directory mode now) now)

def makeDirectories (store : FileStore) (now : Time) (location : Location) : FileStore :=
  (List.range (location.length + 1)).foldl
    (fun store depth =>
      let above := location.take depth
      if (store.content? above).isSome then store
      else
        store.add above
          (store.made .directory (Mode.without standardMask directoryMode) now) now)
    store

def makePath (store : FileStore) (directory : Location) (path : Path) (now : Time) : FileStore :=
  let (_, made) := path.pieces.foldl
    (fun ((location, store) : Location × FileStore) piece =>
      let next := (store.walk maxLinks true location [piece]).toOption.getD location
      if (store.content? next).isSome then (next, store)
      else (next, store.makeDirectories now next))
    (startOf directory path, store)
  made

def names (store : FileStore) (location : Location) : List String :=
  let inside := store.entries.filterMap fun entry =>
    if entry.1.length = location.length + 1 ∧ location.isPrefixOf entry.1 then entry.1.getLast?
    else none
  inside.mergeSort fun a b => decide (a ≤ b)

end FileStore

end MakeCheck
