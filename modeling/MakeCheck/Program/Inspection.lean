import MakeCheck.Program.Listing

namespace MakeCheck.Program

open Text

-- What may be missing of a path that is followed to its end: nothing, its last name, or all of it.
inductive Missing where
  | nothing
  | lastName
  | anything
deriving DecidableEq

def canonical? (around : Surroundings) (missing : Missing) (path : String) :
    Except Fault Location := do
  let place (path : String) : Except Fault Location :=
    around.files.resolve around.directory ⟨path⟩
  match around.files.find around.directory ⟨path⟩, missing with
  | .ok (location, _), _ => return location
  | .error fault, .nothing => throw fault
  | .error fault, .lastName =>
      if fault = .notFound then place path else throw fault
  | .error _, .anything =>
      let pieces := (Path.pieces ⟨path⟩).filter fun piece => piece != "" && piece != "."
      let start := if Path.isAbsolute ⟨path⟩ then [] else around.directory
      return pieces.foldl
        (fun location piece =>
          if piece = ".." then location.dropLast
          else (around.files.walk FileStore.maxLinks true location [piece]).toOption.getD
            (location ++ [piece]))
        start

def missingOf (given : Given) (standard : Missing) : Missing :=
  if given.has 'e' then .nothing
  else if given.has 'm' then .anything
  else if given.has 'f' then .lastName
  else standard

def readLink (around : Surroundings) (arguments : List String) : Outcome :=
  let known := [plain 'f' "canonicalize", plain 'e' "canonicalize-existing",
    plain 'm' "canonicalize-missing", plain 'n' "no-newline", plain 'q' "quiet",
    plain 's' "silent", plain 'v' "verbose", plain 'z' "zero"]
  withArguments around known arguments fun given =>
    if given.operands.isEmpty then around.misused 1 ["missing operand"]
    else
      let follows := given.has 'f' || given.has 'e' || given.has 'm'
      let stop := if given.has 'z' then "\x00"
        else if given.has 'n' && given.operands.length == 1 then "" else "\n"
      let results := given.operands.map fun name =>
        if follows then (canonical? around (missingOf given .lastName) name).map directoryText
        else
          match around.files.findName around.directory ⟨name⟩ with
          | .ok (_, { content := .link target, .. }) => .ok target.text
          | .ok _ => .error .notRegular
          | .error fault => .error fault
      let written := (given.operands.zip results).flatMap fun (name, result) =>
        match result with
        | .ok text => [said (text ++ stop)]
        | .error fault =>
            let reason := if fault = .notRegular then "Invalid argument" else fault.reason
            if given.has 'v' then [around.complaint (shownName name ++ ": " ++ reason)] else []
      around.outcome (if results.all fun result => result.toOption.isSome then 0 else 1) written

def realPath (around : Surroundings) (arguments : List String) : Outcome :=
  let known := [plain 'e' "canonicalize-existing", plain 'm' "canonicalize-missing",
    plain 'L' "logical", plain 'P' "physical", plain 'q' "quiet", plain 's' "strip",
    plain 'z' "zero", valued 'R' "relative-to", valued 'B' "relative-base"]
  withArguments around known arguments fun given =>
    if given.operands.isEmpty then around.misused 1 ["missing operand"]
    else
      let base := (given.value? 'R').bind fun name =>
        (canonical? around .lastName name).toOption
      let results := given.operands.map fun name =>
        canonical? around (missingOf given .lastName) name
      let written := (given.operands.zip results).flatMap fun (name, result) =>
        match result with
        | .ok place =>
            let text := (base.map fun start => wayTo start place).getD (directoryText place)
            [said (text ++ (if given.has 'z' then "\x00" else "\n"))]
        | .error fault =>
            if given.has 'q' then []
            else [around.complaint (shownName name ++ ": " ++ fault.reason)]
      around.outcome (if results.all fun result => result.toOption.isSome then 0 else 1) written

def kindName (node : Node) : String :=
  match node.content with
  | .directory => "directory"
  | .file [] => "regular empty file"
  | .file _ | .program _ => "regular file"
  | .link _ => "symbolic link"
  | .queue _ => "fifo"
  | .device _ => "character special file"

def statusText (name : String) (location : Location) (node : Node) (links : Nat) :
    List Char → String
  | '%' :: c :: rest =>
      let seconds := toString (node.modified.fdiv Time.second)
      let moment := formatMoment (Moment.ofTime node.modified) "%F %T.%N %z".toList
      let target :=
        match node.content with
        | .link target => " -> " ++ quotedName target.text
        | _ => ""
      let found :=
        match c with
        | 'n' => name
        | 'N' => quotedName name ++ target
        | 's' => toString (sizeOf node.content)
        | 'a' => String.ofList (Nat.toDigits 8 node.mode)
        | 'A' => modeLetters node.content node.mode
        | 'F' => kindName node
        | 'h' => toString links
        | 'u' | 'g' => "0"
        | 'U' | 'G' => "root"
        | 'i' => toString (1000 + location.length)
        | 'b' => toString (2 * blocksOf node.content)
        | 'B' => "512"
        | 'o' => "4096"
        | 'W' => "0"
        | 'X' | 'Y' | 'Z' => seconds
        | 'x' | 'y' | 'z' => moment
        | 'w' => "-"
        | '%' => "%"
        | _ => "?"
      found ++ statusText name location node links rest
  | c :: rest => c.toString ++ statusText name location node links rest
  | [] => ""

def standardStatus : String :=
  "  File: %N\n  Size: %s\t\tBlocks: %b\tIO Block: %o   %F\nAccess: (%a/%A)\n"

def stat (around : Surroundings) (arguments : List String) : Outcome :=
  let known := [valued 'c' "format", valued 'p' "printf", plain 'L' "dereference",
    plain 't' "terse", plain 'f' "file-system"]
  withArguments around known arguments fun given =>
    if given.operands.isEmpty then around.misused 1 ["missing operand"]
    else
      let format :=
        match given.value? 'p', given.value? 'c' with
        | some text, _ => Utf8.decodeLossy (unescape echoStyle 0 text.toList).1
        | none, some text => text ++ "\n"
        | none, none => standardStatus
      let written := given.operands.map fun name =>
        let found := if given.has 'L' then around.files.find around.directory ⟨name⟩
          else around.files.findName around.directory ⟨name⟩
        match found with
        | .ok (location, node) =>
            let links := linksOf around.files location node
            said (statusText name location node links format.toList)
        | .error fault =>
            around.complaint ("cannot statx " ++ quotedName name ++ ": " ++ fault.reason)
      around.outcome (if written.all fun entry => entry.1 == .output then 0 else 1) written

def date (around : Surroundings) (arguments : List String) : Outcome :=
  let known := [plain 'u' "utc", valued 'd' "date", valued 'r' "reference", plain 'R' "rfc-email",
    valued 's' "set", plain 'I' "iso-8601"]
  withArguments around known arguments fun given =>
    let time : Except String Time :=
      match given.value? 'd', given.value? 'r' with
      | some text, _ =>
          ((timeOfText? around.now text).map Except.ok).getD
            (.error ("invalid date " ++ quotedName text))
      | none, some name =>
          match around.files.find around.directory ⟨name⟩ with
          | .ok (_, node) => .ok node.modified
          | .error fault => .error (quotedName name ++ ": " ++ fault.reason)
      | none, none => .ok around.now
    let format :=
      match given.operands with
      | word :: _ => if "+".isPrefixOf word then some (word.drop 1).toString else none
      | [] =>
          some (if given.has 'R' then "%a, %d %b %Y %H:%M:%S %z"
            else if given.has 'I' then "%Y-%m-%d" else "%a %b %e %H:%M:%S %Z %Y")
    match time, format with
    | .error message, _ => around.outcome 1 [around.complaint message]
    | .ok _, none =>
        around.outcome 1
          [around.complaint ("invalid date " ++ quotedName (given.operands.headD ""))]
    | .ok time, some format =>
        around.outcome 0 [said (formatMoment (Moment.ofTime time) format.toList ++ "\n")]

end MakeCheck.Program
