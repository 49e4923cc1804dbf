import MakeCheck.Program.Mode
import MakeCheck.Program.Moment
import MakeCheck.Program.Utility

namespace MakeCheck.Program

open Text

-- A change of the files for one name: the files, or a complaint, and what is told about it.
structure Change where
  files : Except String FileStore
  told : String

-- Applies a change for each name. A change that is refused leaves the files as they are.
def changeEach (around : Surroundings) (names : List String)
    (change : FileStore → String → Change) : Outcome :=
  names.foldl
    (fun outcome name =>
      let change := change outcome.files name
      match change.files with
      | .ok files =>
          let told := if change.told = "" then [] else [said (change.told ++ "\n")]
          { outcome with files, written := outcome.written ++ told }
      | .error message =>
          { outcome with code := 1, written := outcome.written ++ [around.complaint message] })
    (around.outcome 0 [])

def Surroundings.write (around : Surroundings) (files : FileStore) (name : String)
    (bytes : List UInt8) : Except Fault FileStore :=
  files.writeAs around.directory ⟨name⟩ bytes (Mode.without around.mask FileStore.fileMode)
    around.now

-- The time that options ask for, or a complaint about them.
def askedTime (around : Surroundings) (given : Given) : Except String Time :=
  match given.value? 'r', given.value? 't', given.value? 'd' with
  | some name, _, _ =>
      match around.files.find around.directory ⟨name⟩ with
      | .ok (_, node) => .ok node.modified
      | .error fault =>
          .error ("failed to get attributes of " ++ quotedName name ++ ": " ++ fault.reason)
  | none, some stamp, _ =>
      ((timeOfStamp? around.now stamp).map Except.ok).getD
        (.error ("invalid date format " ++ quotedName stamp))
  | none, none, some text =>
      ((timeOfText? around.now text).map Except.ok).getD
        (.error ("invalid date format " ++ quotedName text))
  | none, none, none => .ok around.now

def touch (around : Surroundings) (arguments : List String) : Outcome :=
  let known := [plain 'c' "no-create", plain 'a' "", plain 'm' "", plain 'f' "", valued 'd' "date",
    valued 't' "", valued 'r' "reference", plain 'h' "no-dereference"]
  withArguments around known arguments fun given =>
    if given.operands.isEmpty then around.misused 1 ["missing file operand"]
    else
      match askedTime around given with
      | .error message => around.outcome 1 [around.complaint message]
      | .ok time =>
          changeEach around given.operands fun files name =>
            if files.has around.directory ⟨name⟩ then
              ⟨.ok (if given.has 'a' && !given.has 'm' then files
                else files.setModified around.directory ⟨name⟩ time), ""⟩
            else if given.has 'c' then ⟨.ok files, ""⟩
            else if name.endsWith "/" then
              ⟨.error ("setting times of " ++ quotedName name ++ ": " ++ Fault.notFound.reason), ""⟩
            else
              match around.write files name [] with
              | .ok files => ⟨.ok (files.setModified around.directory ⟨name⟩ time), ""⟩
              | .error fault =>
                  ⟨.error ("cannot touch " ++ quotedName name ++ ": " ++ fault.reason), ""⟩

-- The name that a path ends in, where slashes at its end do not count.
def ownName (path : String) : String :=
  ((Path.pieces ⟨path⟩).filter (· != "")).getLast?.getD ""

-- The places below a directory and the directory itself, the deepest first.
def placesBelow (files : FileStore) : Nat → String → Location → List (String × Location)
  | 0, path, location => [(path, location)]
  | fuel + 1, path, location =>
      let inside := (files.names location).flatMap fun name =>
        placesBelow files fuel (path ++ "/" ++ name) (location ++ [name])
      inside ++ [(path, location)]

def remove (around : Surroundings) (arguments : List String) : Outcome :=
  let known := [plain 'r' "recursive", plain 'R' "", plain 'f' "force", plain 'v' "verbose",
    plain 'd' "dir", plain 'i' "", plain 'I' ""]
  withArguments around known arguments fun given =>
    let deep := given.has 'r' || given.has 'R'
    let forced := given.has 'f'
    if given.operands.isEmpty && !forced then around.misused 1 ["missing operand"]
    else
      changeEach around given.operands fun files name =>
        let told (files : FileStore) (name : String) (location : Location) : String :=
          let kind := if files.content? location == some .directory then "directory " else ""
          "removed " ++ kind ++ quotedName name
        let refuse (reason : String) : Change :=
          ⟨.error ("cannot remove " ++ quotedName name ++ ": " ++ reason), ""⟩
        match files.findName around.directory ⟨name⟩ with
        | .ok (location, node) =>
            let isDirectory := node.content == .directory
            let isEmpty := (files.names location).isEmpty
            if deep && (ownName name == "." || ownName name == "..") then
              ⟨.error ("refusing to remove '.' or '..' directory: skipping " ++
                quotedName name), ""⟩
            else if isDirectory && !deep && !given.has 'd' then refuse "Is a directory"
            else if isDirectory && !deep && !isEmpty then refuse "Directory not empty"
            else
              let shown := (placesBelow files 100 name location).map fun (path, place) =>
                told files path place
              ⟨.ok (files.removeTree location around.now),
                if given.has 'v' then "\n".intercalate shown else ""⟩
        | .error fault =>
            if forced && (fault == .notFound || fault == .notADirectory) then ⟨.ok files, ""⟩
            else refuse fault.reason

-- Makes all that is missing of a path, and tells of each directory that it makes. What is in the
-- way comes with the path up to it.
def makeAll (around : Surroundings) (mode : Nat) (path : String) (files : FileStore) :
    Except (String × Fault) FileStore × List String :=
  let start := if Path.isAbsolute ⟨path⟩ then "/" else ""
  let pieces := (Path.pieces ⟨path⟩).filter (· != "")
  let fronts := (List.range pieces.length).map fun i =>
    start ++ "/".intercalate (pieces.take (i + 1))
  fronts.foldl
    (fun (made, told) front =>
      match made with
      | .error fault => (.error fault, told)
      | .ok files =>
          if files.isDirectory around.directory ⟨front⟩ then (.ok files, told)
          else if files.hasName around.directory ⟨front⟩ then
            (.error (front, if front = path then .fileExists else .notADirectory), told)
          else
            match files.makeDirectory around.directory ⟨front⟩ mode around.now with
            | .ok files => (.ok files, told ++ [front])
            | .error fault => (.error (front, fault), told))
    (.ok files, [])

def makeDirectory (around : Surroundings) (arguments : List String) : Outcome :=
  let known := [plain 'p' "parents", plain 'v' "verbose", valued 'm' "mode"]
  withArguments around known arguments fun given =>
    let standard := Mode.without around.mask FileStore.directoryMode
    let mode? := match given.value? 'm' with
      | some text => changedMode? text true around.mask 0o777
      | none => some standard
    match given.operands, mode? with
    | [], _ => around.misused 1 ["missing operand"]
    | _, none =>
        around.outcome 1
          [around.complaint ("invalid mode " ++ quotedName ((given.value? 'm').getD ""))]
    | names, some mode =>
        changeEach around names fun files name =>
          let told (names : List String) : String :=
            if given.has 'v' then
              "\n".intercalate (names.map fun name =>
                around.name ++ ": created directory " ++ quotedName name)
            else ""
          let refuse (name : String) (fault : Fault) : Change :=
            ⟨.error ("cannot create directory " ++ quotedName name ++ ": " ++ fault.reason), ""⟩
          if given.has 'p' then
            match makeAll around standard name files with
            | (.ok made, names) =>
                ⟨.ok (if names.isEmpty then made else made.setMode around.directory ⟨name⟩ mode),
                  told names⟩
            | (.error (front, fault), _) => refuse front fault
          else if files.hasName around.directory ⟨name⟩ then refuse name .fileExists
          else
            match files.makeDirectory around.directory ⟨name⟩ mode around.now with
            | .ok files => ⟨.ok files, told [name]⟩
            | .error fault => refuse name fault

def removeDirectory (around : Surroundings) (arguments : List String) : Outcome :=
  let known := [plain 'p' "parents", plain 'v' "verbose", plain 'i' "ignore-fail-on-non-empty"]
  withArguments around known arguments fun given =>
    let fronts (name : String) : List String :=
      if !given.has 'p' then [name]
      else
        let pieces := (Path.pieces ⟨name⟩).filter (· != "")
        name :: ((List.range pieces.length).reverse.filter (0 < ·)).map fun count =>
          "/".intercalate (pieces.take count)
    if given.operands.isEmpty then around.misused 1 ["missing operand"]
    else
      changeEach around (given.operands.flatMap fronts) fun files name =>
        let told := if given.has 'v' then
            around.name ++ ": removing directory, " ++ quotedName name
          else ""
        let refuse (reason : String) : Change :=
          ⟨.error ("failed to remove " ++ quotedName name ++ ": " ++ reason), ""⟩
        match files.findName around.directory ⟨name⟩ with
        | .ok (location, node) =>
            if node.content != .directory then refuse Fault.notADirectory.reason
            else if name = "." then refuse "Invalid argument"
            else if !(files.names location).isEmpty then
              if given.has 'i' then ⟨.ok files, ""⟩ else refuse "Directory not empty"
            else ⟨.ok (files.removeTree location around.now), told⟩
        | .error fault => refuse fault.reason

def changeMode (around : Surroundings) (arguments : List String) : Outcome :=
  let known := [plain 'R' "recursive", plain 'v' "verbose", plain 'f' "quiet", plain 'c' "changes",
    valued 'Z' "reference"]
  let (options, words) := arguments.partition fun word =>
    "-".isPrefixOf word && !isMode word
  withArguments around known options fun given =>
    let reference := (given.value? 'Z').bind fun name =>
      (around.files.find around.directory ⟨name⟩).toOption.map fun entry => octal 4 entry.2.mode
    match reference.toList ++ words ++ given.operands with
    | [] => around.misused 1 ["missing operand"]
    | [mode] => around.misused 1 ["missing operand after " ++ quotedName mode]
    | mode :: names =>
        if !isMode mode then around.misused 1 ["invalid mode: " ++ quotedName mode]
        else
          changeEach around names fun files name =>
            match files.find around.directory ⟨name⟩ with
            | .error fault =>
                ⟨.error ("cannot access " ++ quotedName name ++ ": " ++ fault.reason), ""⟩
            | .ok (location, node) =>
                let places := if given.has 'R' && node.content == .directory then
                    (placesBelow files 100 name location).reverse
                  else [(name, location)]
                let change (told : FileStore × List String) (entry : String × Location) :
                    FileStore × List String :=
                  match told.1.node? entry.2 with
                  | none | some { content := .link _, .. } => told
                  | some node =>
                      let isDirectory := node.content == .directory
                      let next :=
                        (changedMode? mode isDirectory around.mask node.mode).getD node.mode
                      let shownMode (mode : Nat) : String :=
                        octal 4 mode ++ " (" ++ (modeLetters node.content mode).drop 1 ++ ")"
                      let line :=
                        if next = node.mode then
                          if given.has 'v' then
                            ["mode of " ++ quotedName entry.1 ++ " retained as " ++ shownMode next]
                          else []
                        else if given.has 'v' || given.has 'c' then
                          ["mode of " ++ quotedName entry.1 ++ " changed from " ++
                            shownMode node.mode ++ " to " ++ shownMode next]
                        else []
                      (told.1.put entry.2 { node with mode := next }, told.2 ++ line)
                let (changed, lines) := places.foldl change (files, [])
                ⟨.ok changed, "\n".intercalate lines⟩

def makeQueue (around : Surroundings) (arguments : List String) : Outcome :=
  withArguments around [valued 'm' "mode"] arguments fun given =>
    if given.operands.isEmpty then around.misused 1 ["missing operand"]
    else
      changeEach around given.operands fun files name =>
        let refuse (fault : Fault) : Change :=
          ⟨.error ("cannot create fifo " ++ quotedName name ++ ": " ++ fault.reason), ""⟩
        let mode := (((given.value? 'm').bind fun text => changedMode? text false 0 0o666)).getD
          (Mode.without around.mask FileStore.fileMode)
        match files.resolveName around.directory ⟨name⟩ with
        | .error fault => refuse fault
        | .ok location =>
            if (files.node? location).isSome then refuse .fileExists
            else ⟨.ok (files.add location (files.made (.queue none) mode around.now) around.now), ""⟩

-- Names of six letters or more, of which nobody has taken the one that is drawn.
def drawnLetters (count draw : Nat) : String :=
  let letters := "ABCDEFGHIJKLMNOPQRSTUVWXYZabcdefghijklmnopqrstuvwxyz0123456789".toList
  String.ofList ((List.range count).map fun place =>
    (letters[draw / Nat.pow letters.length place % letters.length]?).getD 'a')

-- Makes a file or a directory under a name that nobody has taken. The last letters X of a template
-- stand for letters to be drawn.
def makeTemporary (around : Surroundings) (arguments : List String) : Outcome :=
  let known := [plain 'd' "directory", plain 'u' "dry-run", plain 'q' "quiet", plain 't' "",
    valued 'p' "tmpdir", valued 'S' "suffix"]
  withArguments around known arguments fun given =>
    match given.operands with
    | _ :: _ :: _ => around.misused 1 ["too many templates"]
    | operands =>
        let template := operands.head?.getD "tmp.XXXXXXXXXX"
        let standard := (around.environment.lookup "TMPDIR").getD "/tmp"
        let above :=
          if operands.isEmpty || given.has 't' || given.has 'p' then
            some (((given.value? 'p').filter (· != "")).getD standard)
          else none
        let text := template.toList.reverse
        let after := text.takeWhile (· != 'X')
        let marks := (text.drop after.length).takeWhile (· == 'X')
        let before := (text.drop (after.length + marks.length)).reverse
        let suffix := String.ofList after.reverse ++ (given.value? 'S').getD ""
        if marks.length < 3 then
          around.outcome 1 [around.complaint ("too few X's in template " ++ quotedName template)]
        else
          let path (draw : Nat) : String :=
            let name := String.ofList before ++ drawnLetters marks.length draw ++ suffix
            match above with
            | some directory => (Path.join ⟨directory⟩ name).text
            | none => name
          let start := around.now.toNat + around.files.nodes.length
          let first := start * 6364136223846793005 / Nat.pow 2 24
          let free (attempt : Nat) : Bool :=
            !around.files.hasName around.directory ⟨path (first + attempt)⟩
          let name := path (first + ((List.range 1000).find? free).getD 0)
          let kind := if given.has 'd' then "directory" else "file"
          let made :=
            if given.has 'u' then .ok around.files
            else if given.has 'd' then
              around.files.makeDirectory around.directory ⟨name⟩ 0o700 around.now
            else around.files.writeAs around.directory ⟨name⟩ [] 0o600 around.now
          match made with
          | .ok files => { around.outcome 0 [said (name ++ "\n")] with files }
          | .error fault =>
              let marked := (above.map fun directory => (Path.join ⟨directory⟩ template).text).getD
                template
              around.outcome 1
                [around.complaint ("failed to create " ++ kind ++ " via template " ++
                  quotedName marked ++ ": " ++ fault.reason)]

def unlink (around : Surroundings) (arguments : List String) : Outcome :=
  withArguments around [] arguments fun given =>
    match given.operands with
    | [] => around.misused 1 ["missing operand"]
    | _ :: extra :: _ => around.misused 1 ["extra operand " ++ quotedName extra]
    | [name] =>
        let refuse (fault : Fault) : Outcome :=
          around.outcome 1
            [around.complaint ("cannot unlink " ++ quotedName name ++ ": " ++ fault.reason)]
        match around.files.findName around.directory ⟨name⟩ with
        | .ok (_, { content := .directory, .. }) => refuse .isADirectory
        | .ok (location, _) =>
            { around.outcome 0 [] with files := around.files.removeTree location around.now }
        | .error fault => refuse fault

def sizeOfText? (text : String) : Option Nat :=
  let digits := text.toList.takeWhile Char.isDigit
  let unit := String.ofList (text.toList.drop digits.length)
  let units := [("", 1), ("c", 1), ("w", 2), ("b", 512), ("K", 1024), ("k", 1024), ("KiB", 1024),
    ("kB", 1000), ("KB", 1000), ("M", 1048576), ("MiB", 1048576), ("MB", 1000000),
    ("G", 1073741824)]
  if digits.isEmpty then none else (units.lookup unit).map (digitsValue digits * ·)

-- The size of a file of an old size where a size is asked for behind a sign.
def sizeAfter (sign : Option Char) (size old : Nat) : Nat :=
  match sign with
  | some '+' => old + size
  | some '-' => old - size
  | some '<' => min old size
  | some '>' => max old size
  | some '/' => old / size * size
  | some '%' => (old + size - 1) / size * size
  | _ => size

def truncate (around : Surroundings) (arguments : List String) : Outcome :=
  let known := [valued 's' "size", valued 'r' "reference", plain 'c' "no-create"]
  withArguments around known arguments fun given =>
    let text := (given.value? 's').getD ""
    let sign := text.toList.head?.filter ['+', '-', '<', '>', '/', '%'].contains
    let number := if sign.isSome then (text.drop 1).toString else text
    let size? := match given.value? 'r' with
      | some name =>
          (around.files.find around.directory ⟨name⟩).toOption.map fun entry =>
            match entry.2.content with
            | .file bytes => bytes.length
            | _ => 0
      | none => sizeOfText? number
    if !given.has 's' && !given.has 'r' then
      around.misused 1 ["you must specify either '--size' or '--reference'"]
    else if given.operands.isEmpty then around.misused 1 ["missing file operand"]
    else
      match size?, given.value? 'r' with
      | none, some name =>
          around.outcome 1
            [around.complaint ("cannot stat " ++ quotedName name ++ ": " ++ Fault.notFound.reason)]
      | none, none =>
          around.outcome 1 [around.complaint ("Invalid number: " ++ quotedName number)]
      | some size, _ =>
          if size = 0 ∧ (sign = some '/' ∨ sign = some '%') then
            around.outcome 1 [around.complaint "division by zero"]
          else
            changeEach around given.operands fun files name =>
              if given.has 'c' && !files.has around.directory ⟨name⟩ then ⟨.ok files, ""⟩
              else
                let old := (files.sample around.directory ⟨name⟩).toOption.getD []
                let size := sizeAfter sign size old.length
                let bytes := old.take size ++ List.replicate (size - old.length) 0
                match around.write files name bytes with
                | .ok files => ⟨.ok files, ""⟩
                | .error fault =>
                    ⟨.error ("cannot open " ++ quotedName name ++ " for writing: " ++
                      fault.reason), ""⟩

end MakeCheck.Program
