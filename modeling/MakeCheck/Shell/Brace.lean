import MakeCheck.Shell.Script

namespace MakeCheck.Shell

-- A piece of a word for the sake of its braces: a character outside quotes, or any other part.
inductive BracePiece where
  | char (c : Char)
  | part (part : Part)

namespace BracePiece

def isChar (c : Char) : BracePiece → Bool
  | char d => d == c
  | part _ => false

def ofWord (word : Word) : List BracePiece :=
  word.flatMap fun piece =>
    match piece with
    | .text false text => text.map char
    | other => [part other]

def toWord (pieces : List BracePiece) : Word :=
  pieces.foldr
    (fun piece word =>
      match piece with
      | char c => Word.cons false c word
      | part other => other :: word)
    []

def text? (pieces : List BracePiece) : Option (List Char) :=
  pieces.mapM fun piece =>
    match piece with
    | char c => some c
    | part _ => none

end BracePiece

open BracePiece

-- The pieces up to the brace that closes this text, and those behind it. So many braces are open.
def upToBrace? : Nat → List BracePiece → Option (List BracePiece × List BracePiece)
  | _, [] => none
  | 0, .char '\x7d' :: rest => some ([], rest)
  | depth, piece :: rest =>
      let deeper := if piece.isChar '\x7b' then depth + 1
        else if piece.isChar '\x7d' then depth - 1
        else depth
      (upToBrace? deeper rest).map fun (inside, after) => (piece :: inside, after)

-- Cuts pieces at the commas that lie in no other braces.
def cutCommas : Nat → List BracePiece → List (List BracePiece)
  | _, [] => [[]]
  | depth, piece :: rest =>
      if depth = 0 ∧ piece.isChar ',' then [] :: cutCommas 0 rest
      else
        let deeper := if piece.isChar '\x7b' then depth + 1
          else if piece.isChar '\x7d' then depth - 1
          else depth
        match cutCommas deeper rest with
        | first :: others => (piece :: first) :: others
        | [] => [[piece]]

def integer? (text : List Char) : Option Int :=
  let (negative, digits) :=
    match text with
    | '-' :: rest => (true, rest)
    | '+' :: rest => (false, rest)
    | rest => (false, rest)
  if digits.isEmpty || !digits.all Char.isDigit then none
  else
    let size := digits.foldl (fun n d => n * 10 + (d.toNat - '0'.toNat)) 0
    some (if negative then -(size : Int) else size)

def stepped (first last : Int) (step : Nat) : List Int :=
  let count := (last - first).natAbs / step + 1
  (List.range count).map fun i =>
    if first ≤ last then first + ((i * step : Nat) : Int) else first - ((i * step : Nat) : Int)

def cutDots : List Char → List (List Char)
  | [] => [[]]
  | '.' :: '.' :: rest => [] :: cutDots rest
  | c :: rest =>
      match cutDots rest with
      | first :: others => (c :: first) :: others
      | [] => [[c]]

-- A number with a nought in front asks for numbers of one width.
def isPadded (text : List Char) : Bool :=
  match text with
  | '0' :: _ :: _ | '-' :: '0' :: _ :: _ => true
  | _ => false

def paddedText (width : Nat) (value : Int) : List Char :=
  let digits := (toString value.natAbs).toList
  let sign := if value < 0 then ['-'] else []
  sign ++ List.replicate (width - sign.length - digits.length) '0' ++ digits

def rangeTexts? (text : List Char) : Option (List (List Char)) :=
  let range? (first last : List Char) (step : Nat) : Option (List (List Char)) :=
    match integer? first, integer? last, first, last with
    | some a, some b, _, _ =>
        let width := if isPadded first || isPadded last then max first.length last.length else 0
        some ((stepped a b step).map (paddedText width))
    | none, none, [a], [b] =>
        if a.isAlpha && b.isAlpha then
          some ((stepped a.toNat b.toNat step).map fun code => [Char.ofNat code.toNat])
        else none
    | _, _, _, _ => none
  match cutDots text with
  | [first, last] => range? first last 1
  | [first, last, step] =>
      match integer? step with
      | some step => range? first last (if step = 0 then 1 else step.natAbs)
      | none => none
  | _ => none

-- What pieces stand for: each of the choices between braces in turn. The fuel bounds the braces
-- that lie in one another and behind one another.
def braceChoices : Nat → List BracePiece → List (List BracePiece)
  | 0, pieces => [pieces]
  | _, [] => [[]]
  | fuel + 1, piece :: rest =>
      let plain : List (List BracePiece) := (braceChoices fuel rest).map fun after => piece :: after
      if !piece.isChar '\x7b' then plain
      else
        match upToBrace? 0 rest with
        | none => plain
        | some (inside, after) =>
            let choices : Option (List (List BracePiece)) :=
              match cutCommas 0 inside with
              | [_] => ((text? inside).bind rangeTexts?).map (·.map (·.map BracePiece.char))
              | choices => some (choices.flatMap (braceChoices fuel))
            match choices with
            | none =>
                -- Braces without a choice stand for themselves. Those inside them may not.
                (braceChoices fuel inside).flatMap fun inside =>
                  (braceChoices fuel after).map fun after =>
                    piece :: inside ++ BracePiece.char '\x7d' :: after
            | some choices =>
                choices.flatMap fun choice =>
                  (braceChoices fuel after).map fun after => choice ++ after

def Word.choices (word : Word) : List Word :=
  let pieces := ofWord word
  if !pieces.any (·.isChar '\x7b') then [word]
  else (braceChoices (pieces.length + 1) pieces).map toWord

end MakeCheck.Shell
