import MakeCheck.Program.Utility

namespace MakeCheck.Program

open Text

-- The bytes that a set of `tr` names: ranges, classes and escapes.
def namedBytes : Nat → List Char → List UInt8
  | 0, _ => []
  | _, [] => []
  | fuel + 1, c :: rest =>
      let s := String.ofList (c :: rest)
      let range (low high : Nat) : List UInt8 :=
        (List.range (high + 1 - low)).map fun i => UInt8.ofNat (low + i)
      let classes : List (String × List UInt8) :=
        [("[:upper:]", range 65 90), ("[:lower:]", range 97 122), ("[:digit:]", range 48 57),
          ("[:alpha:]", range 65 90 ++ range 97 122),
          ("[:alnum:]", range 48 57 ++ range 65 90 ++ range 97 122),
          ("[:space:]", range 9 13 ++ [32]), ("[:blank:]", [9, 32]),
          ("[:punct:]", range 33 47 ++ range 58 64 ++ range 91 96 ++ range 123 126),
          ("[:cntrl:]", range 0 31 ++ [127]), ("[:print:]", range 32 126),
          ("[:graph:]", range 33 126),
          ("[:xdigit:]", range 48 57 ++ range 65 70 ++ range 97 102)]
      match classes.find? fun entry => entry.1.isPrefixOf s with
      | some (name, bytes) => bytes ++ namedBytes fuel ((c :: rest).drop name.length)
      | none =>
          if c = '\\' then
            match namedByte? shellFormatStyle rest with
            | some (byte, count) => byte :: namedBytes fuel (rest.drop count)
            | none =>
                match rest with
                | d :: after => UInt8.ofNat d.toNat :: namedBytes fuel after
                | [] => [92]
          else
            match rest with
            | '-' :: last :: after =>
                if c.toNat ≤ last.toNat then range c.toNat last.toNat ++ namedBytes fuel after
                else UInt8.ofNat c.toNat :: namedBytes fuel rest
            | _ => UInt8.ofNat c.toNat :: namedBytes fuel rest

-- The last byte of the second set stands for all that the first has more.
def translateByte (first second : List UInt8) (byte : UInt8) : UInt8 :=
  match first.findIdx? (· == byte) with
  | some i => ((second[i]?).or second.getLast?).getD byte
  | none => byte

def squeeze (set : UInt8 → Bool) (bytes : List UInt8) : List UInt8 :=
  (bytes.foldl
    (fun kept byte => if kept.head? == some byte && set byte then kept else byte :: kept)
    []).reverse

def turnedRange? : List Char → Option String
  | '\\' :: _ :: rest => turnedRange? rest
  | low :: '-' :: high :: rest =>
      if high.toNat < low.toNat && high != '\\' then some (String.ofList [low, '-', high])
      else turnedRange? (high :: rest)
  | _ :: rest => turnedRange? rest
  | [] => none

def translate (around : Surroundings) (arguments : List String) : Outcome :=
  let known := [plain 'c' "complement", plain 'C' "", plain 'd' "delete",
    plain 's' "squeeze-repeats", plain 't' "truncate-set1"]
  withLeading around known arguments fun given =>
    let turned := given.has 'c' || given.has 'C'
    let deletes := given.has 'd'
    let squeezes := given.has 's'
    let sets := given.operands.map fun text =>
      let s := (Utf8.encode text).map fun byte => Char.ofNat byte.toNat
      namedBytes (s.length + 1) s
    let least := if deletes == squeezes then 2 else 1
    let most := if deletes && !squeezes then 1 else 2
    match given.operands with
    | [] => around.misused 1 ["missing operand"]
    | operands =>
        if operands.length < least then
          let last := (operands.getLast?).getD ""
          let need := if deletes then
              "Two strings must be given when both deleting and squeezing repeats."
            else "Two strings must be given when translating."
          let hint := "Try '" ++ around.name ++ " --help' for more information.\n"
          around.outcome 1
            [around.complaint ("missing operand after " ++ quotedName last),
              (.errors, Utf8.encode (need ++ "\n" ++ hint))]
        else
          match operands.drop most, operands.findSome? fun text => turnedRange? text.toList,
              around.input with
          | extra :: _, _, _ => around.misused 1 ["extra operand " ++ quotedName extra]
          | [], some range, _ =>
              around.outcome 1
                [around.complaint ("range-endpoints of " ++ quotedName range ++
                  " are in reverse collating sequence order")]
          | [], none, .error fault =>
              around.outcome 1 [around.complaint ("read error: " ++ fault.reason)]
          | [], none, .ok input =>
              let first := sets.headD []
              let inFirst (byte : UInt8) : Bool := first.contains byte != turned
              let changed :=
                if deletes then input.filter fun byte => !inFirst byte
                else
                  match sets with
                  | _ :: second :: _ =>
                      input.map fun byte =>
                        if turned then
                          if first.contains byte then byte else second.getLast?.getD byte
                        else translateByte first second byte
                  | _ => input
              let squeezed (byte : UInt8) : Bool :=
                match sets with
                | _ :: second :: _ => second.contains byte
                | _ => inFirst byte
              let shown := if squeezes then squeeze squeezed changed else changed
              { around.outcome 0 [(.output, shown)] with intake := some .all }

-- A stretch of places, counted from one. One without an end goes on to the last place.
structure Stretch where
  first : Nat
  last : Option Nat

def Stretch.has (stretch : Stretch) (place : Nat) : Bool :=
  decide (stretch.first ≤ place) && stretch.last.all fun last => decide (place ≤ last)

def readStretches (byFields : Bool) (text : String) : Except String (List Stretch) :=
  (text.toList.splitOn ',').mapM fun piece => do
    let wrong := "invalid " ++
      (if byFields then "field value" else "byte/character position") ++ " "
    let number (digits : List Char) : Except String Nat :=
      if !digits.all Char.isDigit then .error (wrong ++ quotedName (String.ofList digits))
      else if decimalValue digits = 0 then
        .error (if byFields then "fields are numbered from 1"
          else "byte/character positions are numbered from 1")
      else .ok (decimalValue digits)
    match piece.splitOn '-' with
    | [single] =>
        let place ← number single
        return ⟨place, some place⟩
    | [[], []] => throw "invalid range with no endpoint: -"
    | [low, high] =>
        let first ← if low.isEmpty then pure 1 else number low
        if high.isEmpty then return ⟨first, none⟩
        let last ← number high
        if last < first then throw "invalid decreasing range"
        return ⟨first, some last⟩
    | _ => throw (wrong ++ quotedName (String.ofList piece))

def cut (around : Surroundings) (arguments : List String) : Outcome :=
  let known := [valued 'd' "delimiter", valued 'f' "fields", valued 'c' "characters",
    valued 'b' "bytes", plain 's' "only-delimited", plain 'n' "", plain 'K' "complement",
    valued 'O' "output-delimiter"]
  withArguments around known arguments fun given =>
    let lists := given.options.filter fun entry => ['f', 'c', 'b'].contains entry.1
    let marks := Utf8.encode ((given.value? 'd').getD "\t")
    match lists with
    | [] => around.misused 1 ["you must specify a list of bytes, characters, or fields"]
    | _ :: _ :: _ => around.misused 1 ["only one list may be specified"]
    | [(letter, text)] =>
        let byFields := letter = 'f'
        match readStretches byFields text, marks with
        | .error message, _ => around.misused 1 [message]
        | .ok _, _ :: _ :: _ => around.misused 1 ["the delimiter must be a single character"]
        | .ok stretches, marks =>
            let mark := marks.headD 0
            let isKept (place : Nat) : Bool :=
              (stretches.any (·.has place)) != given.has 'K'
            let pick {α : Type} (items : List α) : List α :=
              ((items.zipIdx 1).filter fun entry => isKept entry.2).map (·.1)
            let between := ((given.value? 'O').map Utf8.encode).getD [mark]
            around.withSources given.operands readReport fun _ bytes =>
              (lines bytes).flatMap fun line =>
                if byFields then
                  if !line.contains mark then (if given.has 's' then [] else line ++ [10])
                  else between.intercalate (pick (line.splitOn mark)) ++ [10]
                else pick line ++ [10]

end MakeCheck.Program
