import MakeCheck.Program.Utility

namespace MakeCheck.Program

-- There is one user, who may do everything and has a group of the same name.
def identity (around : Surroundings) (arguments : List String) : Outcome :=
  let known := [plain 'u' "user", plain 'g' "group", plain 'G' "groups", plain 'n' "name",
    plain 'r' "real", plain 'z' "zero", plain 'a' ""]
  withArguments around known arguments fun given =>
    let asked := ['u', 'g', 'G'].filter given.has
    let stranger? := given.operands.find? fun name => name != "root" && name != "0"
    if 1 < asked.length then
      around.outcome 1 [around.complaint "cannot print \"only\" of more than one choice"]
    else if asked.isEmpty && (given.has 'n' || given.has 'r') then
      around.outcome 1
        [around.complaint "cannot print only names or real IDs in default format"]
    else
      match stranger? with
      | some name => around.outcome 1 [around.complaint (quotedName name ++ ": no such user")]
      | none =>
          let text := if asked.isEmpty then "uid=0(root) gid=0(root) groups=0(root)"
            else if given.has 'n' then "root" else "0"
          around.outcome 0 [said (text ++ if given.has 'z' then "\x00" else "\n")]

def sayAlone (text : String) (around : Surroundings) (arguments : List String) : Outcome :=
  withArguments around [] arguments fun given =>
    match given.operands with
    | [] => around.outcome 0 [said text]
    | word :: _ => around.misused 1 ["extra operand " ++ quotedName word]

def groups (around : Surroundings) (arguments : List String) : Outcome :=
  withArguments around [] arguments fun given =>
    if given.operands.isEmpty then around.outcome 0 [said "root\n"]
    else
      let written := given.operands.map fun name =>
        if name = "root" then said "root : root\n"
        else around.complaint (quotedName name ++ ": no such user")
      around.outcome (if given.operands.all (· == "root") then 0 else 1) written

def terminal (around : Surroundings) (arguments : List String) : Outcome :=
  withArguments around [plain 's' "silent", plain 's' "quiet"] arguments fun given =>
    match given.operands with
    | word :: _ => around.misused 2 ["extra operand " ++ quotedName word]
    | [] => around.outcome 1 (if given.has 's' then [] else [said "not a tty\n"])

def loginName (around : Surroundings) (arguments : List String) : Outcome :=
  withArguments around [] arguments fun given =>
    match given.operands with
    | word :: _ => around.misused 1 ["extra operand " ++ quotedName word]
    | [] => around.outcome 1 [around.complaint "no login name"]

def systemName (around : Surroundings) (arguments : List String) : Outcome :=
  let known := [plain 's' "kernel-name", plain 'm' "machine", plain 'p' "processor",
    plain 'i' "hardware-platform", plain 'o' "operating-system", plain 'n' "nodename",
    plain 'r' "kernel-release", plain 'v' "kernel-version", plain 'a' "all"]
  withArguments around known arguments fun given =>
    match given.operands with
    | word :: _ => around.misused 1 ["extra operand " ++ quotedName word]
    | [] =>
        let asked := ['s', 'n', 'm', 'p', 'i', 'o'].filter given.has
        let asked := if asked.isEmpty then ['s'] else asked
        let shown := asked.map fun letter =>
          if letter = 's' then "Linux" else if letter = 'o' then "GNU/Linux"
          else if letter = 'n' then "localhost" else "x86_64"
        around.outcome 0 [said (" ".intercalate shown ++ "\n")]

def which (around : Surroundings) (arguments : List String) : Outcome :=
  let options := arguments.takeWhile fun word =>
    "-".isPrefixOf word && word != "-" && word != "--"
  let rest := arguments.drop options.length
  let names := if rest.head? = some "--" then rest.tail else rest
  let letters := options.flatMap fun word => word.toList.tail
  let search := (((around.environment.lookup "PATH").getD "").toList.splitOn ':').map String.ofList
  let runs (path : String) : Bool :=
    (around.files.find around.directory ⟨path⟩).toOption.any fun entry =>
      entry.2.content.isFile && entry.2.isExecutable
  let found := names.map fun name =>
    if '/' ∈ name.toList then (if runs name then [name] else [])
    else
      let paths := search.map fun entry => (if entry = "" then "." else entry) ++ "/" ++ name
      let paths := paths.filter runs
      if letters.contains 'a' then paths else paths.take 1
  match letters.find? fun c => c != 'a' && c != 's' with
  | some letter =>
      around.outcome 2
        [(.errors, Text.Utf8.encode ("Illegal option -" ++ letter.toString ++ "\n")),
          said "Usage: /usr/bin/which [-as] args\n"]
  | none =>
      let isFine := !names.isEmpty && found.all fun paths => !paths.isEmpty
      let shown := if letters.contains 's' then [] else found.flatten
      around.outcome (if isFine then 0 else 1) [said (String.join (shown.map (· ++ "\n")))]

end MakeCheck.Program
