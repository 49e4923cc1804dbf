import MakeCheck.Digest.Methods
import MakeCheck.Program.Utility

namespace MakeCheck.Program

open Text

-- A digest that programs tell, and its name beside a file.
structure DigestKind where
  title : String
  method : Digest.Method

def DigestKind.tell (kind : DigestKind) (bytes : List UInt8) : String :=
  String.ofList ((kind.method.digest bytes).flatMap fun byte =>
    [Nat.digitChar (byte.toNat / 16), Nat.digitChar (byte.toNat % 16)])

def DigestKind.size (kind : DigestKind) : Nat :=
  2 * kind.method.wordSize * kind.method.told

def digestKinds : List (String × DigestKind) :=
  [("md5", ⟨"MD5", Digest.md5⟩), ("sha1", ⟨"SHA1", Digest.sha1⟩),
    ("sha224", ⟨"SHA224", Digest.sha224⟩), ("sha256", ⟨"SHA256", Digest.sha256⟩),
    ("sha384", ⟨"SHA384", Digest.sha384⟩), ("sha512", ⟨"SHA512", Digest.sha512⟩)]

-- A name on a line of its own, and whether that changes it.
def nameOnLine (name : String) : String × Bool :=
  let spelled := String.ofList (name.toList.flatMap fun c =>
    match c with
    | '\\' => ['\\', '\\']
    | '\n' => ['\\', 'n']
    | '\x0d' => ['\\', 'r']
    | c => [c])
  (spelled, spelled != name)

def nameFromLine : List Char → List Char
  | '\\' :: '\\' :: rest => '\\' :: nameFromLine rest
  | '\\' :: 'n' :: rest => '\n' :: nameFromLine rest
  | '\\' :: 'r' :: rest => '\x0d' :: nameFromLine rest
  | c :: rest => c :: nameFromLine rest
  | [] => []

def DigestKind.readLine? (kind : DigestKind) (line : String) : Option (String × String) :=
  let isDigest (s : List Char) : Bool :=
    s.length == kind.size && s.all fun c => (digitValue? 16 c).isSome
  let s := line.toList
  let (isSpelled, s) := match s with
    | '\\' :: rest => (true, rest)
    | s => (false, s)
  let name (s : List Char) : String := String.ofList (if isSpelled then nameFromLine s else s)
  let opening := (kind.title ++ " (").toList
  if opening.isPrefixOf s then
    let rest := (s.drop opening.length).reverse
    let digest := rest.take kind.size
    let after := rest.drop kind.size
    if isDigest digest && " = )".toList.isPrefixOf after then
      some (String.ofList digest.reverse, name (after.drop 4).reverse)
    else none
  else
    match s.drop kind.size with
    | ' ' :: mark :: rest =>
        if isDigest (s.take kind.size) && !rest.isEmpty then
          some (String.ofList (s.take kind.size),
            name (if mark = ' ' ∨ mark = '*' then rest else mark :: rest))
        else none
    | _ => none

-- What the lines of a file of digests have come to.
structure DigestCount where
  written : List (Channel × List UInt8)
  fine : Nat
  mismatched : Nat
  unread : Nat
  improper : Nat

def DigestKind.checkLines (kind : DigestKind) (around : Surroundings) (given : Given)
    (source : String) (lines : List String) : DigestCount :=
  let say (count : DigestCount) (text : String) : DigestCount :=
    if given.has 'σ' then count else { count with written := count.written ++ [said text] }
  lines.zipIdx.foldl
    (fun count (line, i) =>
      if line = "" ∨ "#".isPrefixOf line then count
      else
        match kind.readLine? line with
        | none =>
            let count := { count with improper := count.improper + 1 }
            if given.has 'w' then
              { count with written := count.written ++ [around.complaint (shownName source ++ ": " ++
                toString (i + 1) ++ ": improperly formatted " ++ kind.title ++ " checksum line")] }
            else count
        | some (digest, name) =>
            let (shown, isSpelled) := nameOnLine name
            let shown := if isSpelled then "\\" ++ shown else shown
            match around.source name with
            | .error fault =>
                if given.has 'ι' && fault == .notFound then count
                else
                  let told := { count with
                    unread := count.unread + 1
                    written := count.written ++ [around.complaint (readReport name fault)] }
                  say told (shown ++ ": FAILED open or read\n")
            | .ok bytes =>
                if kind.tell bytes == digest.toLower then
                  let fine := { count with fine := count.fine + 1 }
                  if given.has 'κ' then fine else say fine (shown ++ ": OK\n")
                else say { count with mismatched := count.mismatched + 1 } (shown ++ ": FAILED\n"))
    ⟨[], 0, 0, 0, 0⟩

def DigestKind.check (kind : DigestKind) (around : Surroundings) (given : Given) (source : String) :
    Bool × List (Channel × List UInt8) :=
  match around.source source with
  | .error fault => (false, [around.complaint (readReport source fault)])
  | .ok bytes =>
      let lines := (lines bytes).map Utf8.decodeLossy
      let count := kind.checkLines around given source lines
      let named := if source = "-" then "'standard input'" else shownName source
      let warn (n : Nat) (one many : String) : List (Channel × List UInt8) :=
        if n = 0 ∨ given.has 'σ' then []
        else
          let text := "WARNING: " ++ toString n ++ " " ++ (if n = 1 then one else many)
          [around.complaint text]
      if count.fine + count.mismatched + count.unread = 0 ∧ !(given.has 'ι' && count.improper == 0)
      then
        (false, count.written ++
          [around.complaint (named ++ ": no properly formatted checksum lines found")])
      else
        let nothing := given.has 'ι' && count.fine + count.mismatched == 0
        let notes := warn count.improper "line is improperly formatted"
            "lines are improperly formatted" ++
          warn count.unread "listed file could not be read" "listed files could not be read" ++
          warn count.mismatched "computed checksum did NOT match"
            "computed checksums did NOT match" ++
          if nothing && !given.has 'σ' then [around.complaint (named ++ ": no file was verified")]
          else []
        (count.mismatched == 0 && count.unread == 0 && !nothing &&
          !(given.has 'ρ' && count.improper != 0), count.written ++ notes)

def DigestKind.line (kind : DigestKind) (tagged isBinary : Bool) (stop name : String)
    (bytes : List UInt8) : String :=
  let (shown, isSpelled) := if stop = "\n" then nameOnLine name else (name, false)
  let start := if isSpelled then "\\" else ""
  let digest := kind.tell bytes
  if tagged then start ++ kind.title ++ " (" ++ shown ++ ") = " ++ digest ++ stop
  else start ++ digest ++ (if isBinary then " *" else "  ") ++ shown ++ stop

def tellDigests (kind : DigestKind) (around : Surroundings) (arguments : List String) : Outcome :=
  -- What has no letter goes by one that nobody gives.
  let known := [plain 'b' "binary", plain 't' "text", plain 'c' "check", plain 'τ' "tag",
    plain 'z' "zero", plain 'κ' "quiet", plain 'σ' "status", plain 'w' "warn",
    plain 'ρ' "strict", plain 'ι' "ignore-missing"]
  withArguments around known arguments fun given =>
    let checking (letter : Char) (name : String) : Option String :=
      if given.has letter && !given.has 'c' then
        some ("the --" ++ name ++ " option is meaningful only when verifying checksums")
      else none
    let wrong? :=
      if given.has 'τ' && given.has 't' then some "--tag does not support --text mode"
      else if given.has 'c' && given.has 'τ' then
        some "the --tag option is meaningless when verifying checksums"
      else
        [checking 'ι' "ignore-missing", checking 'σ' "status", checking 'w' "warn",
          checking 'κ' "quiet", checking 'ρ' "strict"].findSome? id
    let names := if given.operands.isEmpty then ["-"] else given.operands
    match wrong? with
    | some message => around.misused 1 [message]
    | none =>
        if given.has 'c' then
          let results := names.map (kind.check around given)
          let isFine := results.all (·.1)
          { around.outcome (if isFine then 0 else 1) (results.flatMap (·.2)) with
            intake := Surroundings.intakeOf names }
        else
          let stop := if given.has 'z' then "\x00" else "\n"
          around.withSources names readReport fun name bytes =>
            Utf8.encode (kind.line (given.has 'τ') (given.has 'b') stop name bytes)

-- A number and a count of blocks for each file, or whatever is asked for by its name.
def checkSums (around : Surroundings) (arguments : List String) : Outcome :=
  let known := [valued 'a' "algorithm", plain 'u' "untagged", plain 'z' "zero"]
  withArguments around known arguments fun given =>
    let asked := (given.value? 'a').getD "crc"
    let stop := if given.has 'z' then "\x00" else "\n"
    let named (name : String) : String := if given.operands.isEmpty then "" else " " ++ name
    match digestKinds.lookup asked with
    | some kind =>
        around.withSources given.operands readReport fun name bytes =>
          Utf8.encode (kind.line (!given.has 'u') false stop name bytes)
    | none =>
        if asked = "crc" then
          around.withSources given.operands readReport fun name bytes =>
            Utf8.encode (toString (Digest.remainder bytes) ++ " " ++ toString bytes.length ++
              named name ++ stop)
        else around.misused 1 ["invalid argument " ++ quotedName asked ++ " for '--algorithm'"]

def sumBlocks (around : Surroundings) (arguments : List String) : Outcome :=
  withArguments around [plain 'r' "", plain 's' "sysv"] arguments fun given =>
    let isFolded := (given.options.getLast?.map (·.1)) == some 's'
    let padded (width : Nat) (fill : Char) (n : Nat) : String :=
      let digits := (toString n).toList
      String.ofList (List.replicate (width - digits.length) fill ++ digits)
    around.withSources given.operands readReport fun name bytes =>
      let named := if given.operands.isEmpty then "" else " " ++ name
      Utf8.encode (
        if isFolded then
          toString (Digest.foldedSum bytes) ++ " " ++ toString ((bytes.length + 511) / 512) ++
            named ++ "\n"
        else
          padded 5 '0' (Digest.turningSum bytes) ++ " " ++
            padded 5 ' ' ((bytes.length + 1023) / 1024) ++ named ++ "\n")

end MakeCheck.Program
