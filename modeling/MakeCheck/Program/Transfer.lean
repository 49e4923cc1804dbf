import MakeCheck.Program.FileWork

namespace MakeCheck.Program

open Text

-- Where something goes: into a directory it goes under its own name.
def targetPath (files : FileStore) (directory : Location) (source target : String) : String :=
  if files.isDirectory directory ⟨target⟩ then
    (Path.join ⟨target⟩ (ownName source)).text
  else target

-- The last operand is the place where the others go, unless an option names the directory.
def sendEach (around : Surroundings) (given : Given)
    (change : FileStore → String → String → Change) : Outcome :=
  let refuse (target : String) : Outcome :=
    let reason := if around.files.has around.directory ⟨target⟩ then Fault.notADirectory.reason
      else Fault.notFound.reason
    let kind := if given.has 't' then "target directory " else "target "
    around.outcome 1 [around.complaint (kind ++ quotedName target ++ ": " ++ reason)]
  let isDirectory (name : String) : Bool := around.files.isDirectory around.directory ⟨name⟩
  let send (sources : List String) (target : String) : Outcome :=
    changeEach around sources fun files source =>
      change files source
        (if given.has 'T' then target else targetPath files around.directory source target)
  match given.value? 't', given.operands.reverse with
  | _, [] => around.misused 1 ["missing file operand"]
  | some target, sources =>
      if isDirectory target then send sources.reverse target else refuse target
  | none, [source] =>
      around.misused 1 ["missing destination file operand after " ++ quotedName source]
  | none, target :: sources =>
      if 1 < sources.length && !isDirectory target then refuse target
      else send sources.reverse target

def sameFile (source target : String) : String :=
  quotedName source ++ " and " ++ quotedName target ++ " are the same file"

-- Copies the bytes of a file. A new file gets the rights of the old one, but for the mask.
def copyBytes (around : Surroundings) (files : FileStore) (node : Node) (target : String) :
    Except Fault FileStore := do
  let bytes ← FileStore.sampleOf node.content
  let mode := if node.content.isFile then node.mode else FileStore.fileMode
  let location ← files.resolveNew around.directory ⟨target⟩
  match files.content? location, node.content with
  | none, .program _ =>
      let program := files.made node.content (Mode.without around.mask mode) around.now
      return files.add location program around.now
  | _, _ =>
      files.writeAs around.directory ⟨target⟩ bytes (Mode.without around.mask mode) around.now

-- The nodes of a tree at another place. What is there already stays below it.
def graft (files : FileStore) (source target : Location) (keepsTimes : Bool) (now : Time) :
    FileStore :=
  let copied := (files.nodes.filter fun entry => source.isPrefixOf entry.1).map fun entry =>
    (target ++ entry.1.drop source.length, entry.2)
  let put (files : FileStore) (entry : Location × Node) : FileStore :=
    files.put entry.1 (if keepsTimes then entry.2 else { entry.2 with modified := now })
  (copied.foldl put files).stamp target.dropLast now

def copyOne (around : Surroundings) (given : Given) (files : FileStore) (source target : String) :
    Except String FileStore :=
  let deep := given.has 'r' || given.has 'R' || given.has 'a'
  let keepsLinks := (deep && !given.has 'L' && !given.has 'H') || given.has 'P' || given.has 'd'
  let keepsTimes := given.has 'a' || given.has 'p'
  let found := if keepsLinks then files.findName around.directory ⟨source⟩
    else files.find around.directory ⟨source⟩
  let place := files.resolve around.directory ⟨target⟩
  let refuseFile (fault : Fault) : Except String FileStore :=
    let reason := if target.endsWith "/" && fault == .isADirectory then Fault.notADirectory.reason
      else fault.reason
    .error ("cannot create regular file " ++ quotedName target ++ ": " ++ reason)
  match found with
  | .error fault => .error ("cannot stat " ++ quotedName source ++ ": " ++ fault.reason)
  | .ok (location, node) =>
      if node.content == .directory then
        if !deep then .error ("-r not specified; omitting directory " ++ quotedName source)
        else
          match place with
          | .ok place =>
              if location.isPrefixOf place then
                .error ("cannot copy a directory, " ++ quotedName source ++ ", into itself, " ++
                  quotedName target)
              else if (files.content? place).any (· != .directory) then
                .error ("cannot overwrite non-directory " ++ quotedName target ++
                  " with directory " ++ quotedName source)
              else .ok (graft files location place keepsTimes around.now)
          | .error fault =>
              .error ("cannot create directory " ++ quotedName target ++ ": " ++ fault.reason)
      else if place.toOption.any (files.isShared location) then .error (sameFile source target)
      else if given.has 'n' && files.has around.directory ⟨target⟩ then .ok files
      else if files.isDirectory around.directory ⟨target⟩ then
        .error ("cannot overwrite directory " ++ quotedName target ++ " with non-directory")
      else
        match node.content with
        | .link _ | .queue _ =>
            match files.resolveName around.directory ⟨target⟩ with
            | .ok place =>
                .ok (files.add place { node with modified := around.now } around.now)
            | .error fault => refuseFile fault
        | _ =>
            let isDangling := files.hasName around.directory ⟨target⟩ &&
              !files.has around.directory ⟨target⟩
            if isDangling then
              .error ("not writing through dangling symlink " ++ quotedName target)
            else
              match copyBytes around files node target with
              | .ok written =>
                  let kept := if keepsTimes then
                      (written.setMode around.directory ⟨target⟩ node.mode).setModified
                        around.directory ⟨target⟩ node.modified
                    else written
                  .ok kept
              | .error fault => refuseFile fault

def copy (around : Surroundings) (arguments : List String) : Outcome :=
  let known := [plain 'r' "recursive", plain 'R' "", plain 'a' "archive", plain 'f' "force",
    plain 'p' "", plain 'v' "verbose", plain 'n' "no-clobber", plain 'i' "interactive",
    plain 'u' "update", plain 'd' "", plain 'P' "no-dereference", plain 'L' "dereference",
    plain 'H' "", plain 'l' "link", plain 's' "symbolic-link", valued 't' "target-directory",
    plain 'T' "no-target-directory", plain 'x' "one-file-system"]
  withArguments around known arguments fun given =>
    sendEach around given fun files source target =>
      let told := if given.has 'v' then quotedName source ++ " -> " ++ quotedName target else ""
      ⟨copyOne around given files source target, told⟩

-- Moves one thing to a path. What is there gives way, but for directories that hold something.
def moveOne (around : Surroundings) (given : Given) (files : FileStore) (source target : String) :
    Except String FileStore :=
  let found := files.findName around.directory ⟨source⟩
  let asDirectory := found.toOption.any fun entry => entry.2.content == .directory
  let trimmed := String.ofList (target.toList.reverse.dropWhile (· == '/')).reverse
  -- A slash at the end of a name asks for a directory.
  let goal := if asDirectory && trimmed != "" then trimmed else target
  match found, files.resolveName around.directory ⟨goal⟩ with
  | .error fault, _ => .error ("cannot stat " ++ quotedName source ++ ": " ++ fault.reason)
  | .ok _, .error fault =>
      .error ("cannot move " ++ quotedName source ++ " to " ++ quotedName target ++ ": " ++
        fault.reason)
  | .ok (old, node), .ok new =>
      let isDirectory := node.content == .directory
      let there := files.content? new
      let isEmpty := (files.names new).isEmpty
      if old = new then .error (sameFile source target)
      else if given.has 'n' && there.isSome then .ok files
      else if target.endsWith "/" && !isDirectory && there.isNone then
        .error ("cannot move " ++ quotedName source ++ " to " ++ quotedName target ++ ": " ++
          Fault.notADirectory.reason)
      else if isDirectory && old.isPrefixOf new then
        .error ("cannot move " ++ quotedName source ++ " to a subdirectory of itself, " ++
          quotedName target)
      else if there == some .directory && !isDirectory then
        .error ("cannot overwrite directory " ++ quotedName target ++ " with non-directory")
      else if there.isSome && there != some .directory && isDirectory then
        .error ("cannot overwrite non-directory " ++ quotedName target ++ " with directory " ++
          quotedName source)
      else if there == some .directory && !isEmpty then
        .error ("cannot overwrite " ++ quotedName target ++ ": " ++ Fault.notEmpty.reason)
      else
        .ok (files.rename old new around.now)

def move (around : Surroundings) (arguments : List String) : Outcome :=
  let known := [plain 'f' "force", plain 'v' "verbose", plain 'n' "no-clobber",
    plain 'i' "interactive", plain 'u' "update", valued 't' "target-directory",
    plain 'T' "no-target-directory"]
  withArguments around known arguments fun given =>
    sendEach around given fun files source target =>
      let told := if given.has 'v' then
          "renamed " ++ quotedName source ++ " -> " ++ quotedName target
        else ""
      ⟨moveOne around given files source target, told⟩

-- Gives a file one more name, or makes a link to a path.
def linkOne (around : Surroundings) (given : Given) (files : FileStore) (source target : String) :
    Except String FileStore :=
  let isSymbolic := given.has 's'
  let kind := if isSymbolic then "symbolic link " else "hard link "
  let refuse (fault : Fault) : Except String FileStore :=
    .error ("failed to create " ++ kind ++ quotedName target ++ ": " ++ fault.reason)
  let put (make : Location → FileStore) : Except String FileStore :=
    match files.resolveName around.directory ⟨target⟩ with
    | .error fault => refuse fault
    | .ok place =>
        if (files.node? place).isNone then .ok (make place)
        else if !given.has 'f' then refuse .fileExists
        else if files.content? place == some .directory then
          .error (target ++ ": cannot overwrite directory")
        else .ok (make place)
  if isSymbolic then
    let way :=
      if given.has 'r' then
        match files.resolve around.directory ⟨source⟩,
            files.resolve around.directory ⟨target⟩ with
        | .ok aim, .ok place => wayTo place.dropLast aim
        | _, _ => source
      else source
    if source = "" then refuse .notFound
    else
      put fun place => files.add place (files.made (.link ⟨way⟩) 0o777 around.now) around.now
  else
    let found := if given.has 'L' then files.find around.directory ⟨source⟩
      else files.findName around.directory ⟨source⟩
    match found with
    | .error fault => .error ("failed to access " ++ quotedName source ++ ": " ++ fault.reason)
    | .ok (location, node) =>
        if node.content == .directory then
          .error (source ++ ": hard link not allowed for directory")
        else put fun place => files.link location place around.now

def link (around : Surroundings) (arguments : List String) : Outcome :=
  let known := [plain 's' "symbolic", plain 'f' "force", plain 'n' "no-dereference",
    plain 'v' "verbose", plain 'T' "no-target-directory", plain 'r' "relative",
    valued 't' "target-directory", plain 'L' "logical", plain 'P' "physical",
    plain 'i' "interactive", plain 'b' ""]
  withArguments around known arguments fun given =>
    let given := match given.operands, given.value? 't' with
      | [single], none => { given with operands := [single, "."] }
      | _, _ => given
    -- A link to a directory may stand for itself.
    let last := given.operands.getLast?.getD ""
    let isItself := given.has 'n' &&
      (around.files.findName around.directory ⟨last⟩).toOption.any fun entry =>
        entry.2.content.isLink
    let given := if isItself then given.addOption 'T' "" else given
    sendEach around given fun files source target =>
      let arrow := if given.has 's' then " -> " else " => "
      let told := if given.has 'v' then quotedName target ++ arrow ++ quotedName source else ""
      ⟨linkOne around given files source target, told⟩

def linkPair (around : Surroundings) (arguments : List String) : Outcome :=
  withArguments around [] arguments fun given =>
    match given.operands with
    | [] => around.misused 1 ["missing operand"]
    | [name] => around.misused 1 ["missing operand after " ++ quotedName name]
    | _ :: _ :: extra :: _ => around.misused 1 ["extra operand " ++ quotedName extra]
    | [source, target] =>
        let refuse (fault : Fault) : Outcome :=
          around.outcome 1
            [around.complaint ("cannot create link " ++ quotedName target ++ " to " ++
              quotedName source ++ ": " ++ fault.reason)]
        match around.files.findName around.directory ⟨source⟩,
            around.files.resolveName around.directory ⟨target⟩ with
        | .ok (location, _), .ok place =>
            if (around.files.node? place).isSome then refuse .fileExists
            else
              { around.outcome 0 [] with files := around.files.link location place around.now }
        | .error fault, _ | _, .error fault => refuse fault

-- Copies files with rights of their own, or makes directories.
def install (around : Surroundings) (arguments : List String) : Outcome :=
  let known := [plain 'd' "directory", plain 'D' "", valued 'm' "mode", plain 'v' "verbose",
    valued 't' "target-directory", plain 'T' "no-target-directory", plain 'p' "", plain 'C' "",
    valued 'o' "owner", valued 'g' "group", plain 's' "strip", plain 'c' ""]
  withArguments around known arguments fun given =>
    let text := (given.value? 'm').getD "755"
    match changedMode? text false 0 0 with
    | none => around.outcome 1 [around.complaint ("invalid mode " ++ quotedName text)]
    | some mode =>
        let inner : Surroundings := { around with mask := 0o022 }
        if given.has 'd' then
          if given.operands.isEmpty then around.misused 1 ["missing file operand"]
          else
            changeEach around given.operands fun files name =>
              match makeAll inner 0o755 name files with
              | (.ok made, names) =>
                  ⟨.ok (made.setMode around.directory ⟨name⟩ mode),
                    if given.has 'v' then
                      "\n".intercalate (names.map fun name =>
                        around.name ++ ": creating directory " ++ quotedName name)
                    else ""⟩
              | (.error (front, fault), _) =>
                  ⟨.error ("cannot create directory " ++ quotedName front ++ ": " ++
                    fault.reason), ""⟩
        else
          sendEach around given fun files source target =>
            let files := if given.has 'D' then
                match (makeAll inner 0o755 (frontPieces target) files).1 with
                | .ok made => made
                | .error _ => files
              else files
            match files.find around.directory ⟨source⟩ with
            | .error fault =>
                ⟨.error ("cannot stat " ++ quotedName source ++ ": " ++ fault.reason), ""⟩
            | .ok (_, { content := .directory, .. }) =>
                ⟨.error ("omitting directory " ++ quotedName source), ""⟩
            | .ok (_, node) =>
                match copyBytes inner files node target with
                | .ok made =>
                    ⟨.ok (made.setMode around.directory ⟨target⟩ mode),
                      if given.has 'v' then quotedName source ++ " -> " ++ quotedName target
                      else ""⟩
                | .error fault =>
                    ⟨.error ("cannot create regular file " ++ quotedName target ++ ": " ++
                      fault.reason), ""⟩

end MakeCheck.Program
