import MakeCheck.Program.Difference
import MakeCheck.Program.FileWork
import MakeCheck.Program.Filter
import MakeCheck.Program.Rearranging

namespace MakeCheck.Program

open Text

-- A complaint about the arguments where the hint on help has the name before it as well.
def Surroundings.misusedTwice (around : Surroundings) (message : String) : Outcome :=
  around.outcome 2
    [around.complaint message,
      around.complaint ("Try '" ++ around.name ++ " --help' for more information.")]

namespace DiffRule

def known : List OptionKind :=
  [plain 'u' "", plain 'c' "", valued 'U' "unified", valued 'C' "context", plain 'q' "brief",
    plain 's' "report-identical-files", plain 'r' "recursive", plain 'N' "new-file",
    plain 'i' "ignore-case", plain 'w' "ignore-all-space", plain 'b' "ignore-space-change",
    plain 'Z' "ignore-trailing-space", plain 'B' "ignore-blank-lines", plain 'a' "text",
    plain 'e' "ed", plain 'd' "minimal", plain 'n' "normal", valued 'L' "label",
    plain 'p' "show-c-function", plain 't' "expand-tabs", valued 'x' "exclude"]

def ofGiven (given : Given) (options : List String) : DiffRule :=
  let size (letter : Char) : Nat :=
    match given.value? letter with
    | some text => decimalValue (text.toList.takeWhile Char.isDigit)
    | none => 3
  let form : DiffForm :=
    if given.has 'q' then .brief
    else if given.has 'u' || given.has 'U' then .unified (size 'U')
    else if given.has 'c' || given.has 'C' then .context (size 'C')
    else if given.has 'e' then .script
    else .normal
  { form
    folds := given.has 'i'
    blanks := ['w', 'b', 'Z'].find? given.has
    skipsEmpty := given.has 'B'
    labels := given.values 'L'
    tellsSame := given.has 's'
    recurses := given.has 'r'
    takesMissing := given.has 'N'
    options }

-- What two places have come to: what is shown, and whether they differ or could not be compared.
structure Verdict where
  written : List (Channel × List UInt8)
  code : Nat

def Verdict.add (first second : Verdict) : Verdict :=
  ⟨first.written ++ second.written, max first.code second.code⟩

-- Compares two directories name by name. The fuel bounds their depth.
def directories (rule : DiffRule) (files : FileStore) :
    Nat → String × Location → String × Location → Verdict
  | 0, _, _ => ⟨[], 0⟩
  | fuel + 1, (name1, place1), (name2, place2) =>
      let names := (files.names place1 ++ files.names place2).mergeSort fun a b => decide (a ≤ b)
      let node? (place : Location) (name : String) : Option Node :=
        (files.find place ⟨name⟩).toOption.map (·.2)
      names.eraseDups.foldl
        (fun (verdict : Verdict) name =>
          let path (folder : String) : String := (Path.mk folder).join name |>.text
          let side (folder : String) (node : Node) : Side :=
            ⟨path folder, node.modified, (FileStore.sampleOf node.content).toOption.getD []⟩
          let both (first second : Side) : Verdict :=
            let (shown, differs) := rule.compared first second
            let head := if rule.form = .brief || !differs then []
              else Utf8.encode (" ".intercalate ("diff" :: rule.options ++
                [shownName first.name, shownName second.name]) ++ "\n")
            ⟨[(.output, head ++ shown)], if differs then 1 else 0⟩
          let only (folder : String) : Verdict :=
            ⟨[said ("Only in " ++ folder ++ ": " ++ name ++ "\n")], 1⟩
          let empty (folder : String) : Side := ⟨path folder, 0, []⟩
          let found : Verdict :=
            match node? place1 name, node? place2 name with
            | some first, some second =>
                match first.content == .directory, second.content == .directory with
                | true, true =>
                    if rule.recurses then
                      directories rule files fuel (path name1, place1 ++ [name])
                        (path name2, place2 ++ [name])
                    else
                      ⟨[said ("Common subdirectories: " ++ path name1 ++ " and " ++ path name2 ++
                        "\n")], 0⟩
                | false, false => both (side name1 first) (side name2 second)
                | isFirst, _ =>
                    let kind (isDirectory : Bool) : String :=
                      if isDirectory then "directory" else "regular file"
                    ⟨[said ("File " ++ path name1 ++ " is a " ++ kind isFirst ++ " while file " ++
                      path name2 ++ " is a " ++ kind (!isFirst) ++ "\n")], 1⟩
            | some first, none =>
                if rule.takesMissing && first.content != .directory then
                  both (side name1 first) (empty name2)
                else only name1
            | none, some second =>
                if rule.takesMissing && second.content != .directory then
                  both (empty name1) (side name2 second)
                else only name2
            | none, none => ⟨[], 0⟩
          verdict.add found)
        ⟨[], 0⟩

def verdict (rule : DiffRule) (around : Surroundings) (first second : String) : Verdict :=
  let find (name : String) : Except Fault (Location × Node) :=
    if name = "-" then
      around.input.map fun bytes => ([], .ofRoot (.file bytes) 0 around.now)
    else around.files.find around.directory ⟨name⟩
  let isFolder (found : Except Fault (Location × Node)) : Bool :=
    match found with
    | .ok (_, node) => node.content == .directory
    | .error _ => false
  let found1 := find first
  let found2 := find second
  let inside (folder name : String) : String := ((Path.mk folder).join (ownName name)).text
  -- A file is compared with the one of its name in a directory.
  let isMixed := found1.toOption.isSome && found2.toOption.isSome &&
    isFolder found1 != isFolder found2
  let first := if isMixed && isFolder found1 then inside first second else first
  let second := if isMixed && isFolder found2 then inside second first else second
  let found1 := if isMixed then find first else found1
  let found2 := if isMixed then find second else found2
  let faults := [(first, found1), (second, found2)].filterMap fun (name, found) =>
    match found with
    | .error fault => some (around.complaint (name ++ ": " ++ fault.reason))
    | .ok _ => none
  let side (name : String) (node : Node) : Side :=
    ⟨name, node.modified, (FileStore.sampleOf node.content).toOption.getD []⟩
  let both (first second : Side) : Verdict :=
    let (shown, differs) := rule.compared first second
    ⟨[(.output, shown)], if differs then 1 else 0⟩
  match found1, found2 with
  | .ok (place1, node1), .ok (place2, node2) =>
      if node1.content == .directory && node2.content == .directory then
        rule.directories around.files 100 (first, place1) (second, place2)
      else both (side first node1) (side second node2)
  | .ok (_, node), .error .notFound =>
      if rule.takesMissing then both (side first node) ⟨second, 0, []⟩ else ⟨faults, 2⟩
  | .error .notFound, .ok (_, node) =>
      if rule.takesMissing then both ⟨first, 0, []⟩ (side second node) else ⟨faults, 2⟩
  | _, _ => ⟨faults, 2⟩

end DiffRule

def difference (around : Surroundings) (arguments : List String) : Outcome :=
  let options := (arguments.takeWhile (· != "--")).filter fun word =>
    "-".isPrefixOf word && word != "-"
  -- A hyphen with a number and a letter tells how many lines are shown around changes.
  let words := arguments.map fun word =>
    match word.toList with
    | '-' :: digit :: rest =>
        if digit.isDigit && rest.all Char.isDigit then "-U" ++ String.ofList (digit :: rest)
        else if word = "--unified" then "-u"
        else if word = "--context" then "-c"
        else word
    | _ => word
  match readArguments DiffRule.known words with
  | .error message => around.misusedTwice message
  | .ok given =>
      match given.operands with
      | [] => around.misusedTwice ("missing operand after " ++
          quotedName ((around.name :: arguments).getLast?.getD ""))
      | [name] => around.misusedTwice ("missing operand after " ++ quotedName name)
      | [first, second] =>
          let verdict := (DiffRule.ofGiven given options).verdict around first second
          { around.outcome verdict.code verdict.written with
            intake := Surroundings.intakeOf [first, second] }
      | _ :: _ :: extra :: _ => around.misusedTwice ("extra operand " ++ quotedName extra)

-- The number of a byte in octal digits, filled up with blanks.
def octalText (byte : UInt8) : String :=
  fillLeft 3 (String.ofList (Nat.toDigits 8 byte.toNat))

def compareFiles (around : Surroundings) (arguments : List String) : Outcome :=
  let known := [plain 's' "silent", plain 'l' "verbose", plain 'b' "print-bytes",
    valued 'n' "bytes", valued 'i' "ignore-initial", plain 's' "quiet"]
  match readArguments known arguments with
  | .error message => around.misusedTwice message
  | .ok given =>
      let names := given.operands.take 2
      let skips := given.operands.drop 2 ++
        ((given.value? 'i').map fun text => (text.toList.splitOn ':').map String.ofList).getD []
      let wrong? := skips.find? fun text => (sizeWithUnit? text).isNone
      match names, wrong?, given.operands.drop 4 with
      | [], _, _ =>
          around.misusedTwice ("missing operand after " ++
            quotedName ((around.name :: arguments).getLast?.getD ""))
      | _, some text, _ =>
          around.misusedTwice ("invalid --ignore-initial value " ++ quotedName text)
      | _, _, extra :: _ => around.misusedTwice ("extra operand " ++ quotedName extra)
      | first :: others, none, [] =>
          let second := others.headD "-"
          let amounts := skips.filterMap sizeWithUnit?
          let skip1 := amounts.headD 0
          let skip2 := (amounts[1]?).getD (if given.has 'i' then skip1 else 0)
          let intake := Surroundings.intakeOf [first, second]
          let isQuiet := given.has 's'
          let fault (name : String) (fault : Fault) : Outcome :=
            around.outcome 2
              (if isQuiet && fault = .notFound then []
              else [around.complaint (name ++ ": " ++ fault.reason)])
          match around.source first, around.source second with
          | .error reason, _ => fault first reason
          | _, .error reason => fault second reason
          | .ok a, .ok b =>
              let limit? := (given.value? 'n').bind sizeWithUnit?
              let cut (bytes : List UInt8) : List UInt8 :=
                (limit?.map fun limit => bytes.take limit).getD bytes
              let a := cut (a.drop skip1)
              let b := cut (b.drop skip2)
              let pairs := (a.zip b).zipIdx
              let isShort := a.length != b.length
              let shorter := if a.length < b.length then first else second
              let size := min a.length b.length
              let lineOf (place : Nat) : Nat := (a.take place).count 10 + 1
              let spelled (byte : UInt8) : String := Utf8.decodeLossy (caretForm byte)
              let ended : List (Channel × List UInt8) :=
                let whole := (a.take size)
                let line :=
                  if size = 0 then " which is empty"
                  else if given.has 'l' then " after byte " ++ toString size
                  else " after byte " ++ toString size ++
                    (if whole.getLast? = some 10 then ", line " ++ toString (lineOf size - 1)
                    else ", in line " ++ toString (lineOf size))
                [around.complaint ("EOF on " ++ shorter ++ line)]
              let outcome (code : Nat) (written : List (Channel × List UInt8)) : Outcome :=
                { around.outcome code (if isQuiet then [] else written) with intake }
              let differing := pairs.filter fun entry => entry.1.1 != entry.1.2
              if given.has 'l' then
                let width := (toString (max a.length b.length)).length
                let rows := differing.map fun ((x, y), place) =>
                  let gap (byte : UInt8) : String :=
                    if given.has 'b' then " " ++ fillRight 4 (spelled byte) else ""
                  let last := if given.has 'b' then " " ++ spelled y else ""
                  fillLeft width (toString (place + 1)) ++ " " ++ octalText x ++ gap x ++ " " ++
                    octalText y ++ last ++ "\n"
                outcome (if differing.isEmpty && !isShort then 0 else 1)
                  (said (String.join rows) :: (if isShort then ended else []))
              else
                match differing with
                | ((x, y), place) :: _ =>
                    let shown := if given.has 'b' then
                        " is " ++ octalText x ++ " " ++ spelled x ++ " " ++ octalText y ++ " " ++
                          spelled y
                      else ""
                    let unit := if given.has 'b' then "byte " else "char "
                    outcome 1
                      [said (first ++ " " ++ second ++ " differ: " ++ unit ++
                        toString (place + 1) ++ ", line " ++ toString (lineOf place) ++ shown ++
                        "\n")]
                | [] => if isShort then outcome 1 ended else outcome 0 []

end MakeCheck.Program
