import MakeCheck.Program.Scan.Value

namespace MakeCheck.Program.Scan

open Text

-- What is wrong with a shape for texts.
inductive ShapeFault where
  | missingOperand
  | missingClosing
  | badSet
  | badInterval
deriving DecidableEq

def ShapeFault.message : ShapeFault → String
  | missingOperand => "missing operand"
  | missingClosing => "missing ')'"
  | badSet => "bad class -- [], [^] or ["
  | badInterval => "bad interval expression"

-- The character that is named behind a backslash, and what follows. Others stand for themselves.
def namedChar (s : List Char) : Char × List Char :=
  match s with
  | [] => ('\\', [])
  | c :: rest =>
      match if c = 'e' then none else controlByte? c with
      | some byte => (Char.ofNat byte.toNat, rest)
      | none =>
          match readNumber 8 3 s 0, if c = 'x' then readNumber 16 2 rest 0 else (0, 0) with
          | (_, 0), (_, 0) => (c, rest)
          | (_, 0), (value, count) => (Char.ofNat value, rest.drop count)
          | (value, count), _ => (Char.ofNat (value % 256), s.drop count)

-- The characters of a set, where a backslash takes the meaning of what follows.
def markedChars : Nat → List Char → List (Char × Bool)
  | 0, _ => []
  | _, [] => []
  | fuel + 1, '\\' :: rest =>
      let (c, after) := namedChar rest
      (c, true) :: markedChars fuel after
  | fuel + 1, c :: rest => (c, false) :: markedChars fuel rest

-- How many characters so many marked ones were written with.
def writtenSize : Nat → Nat → List Char → Nat
  | 0, _, _ => 0
  | _, 0, _ => 0
  | _, _, [] => 0
  | fuel + 1, count + 1, '\\' :: rest =>
      let after := (namedChar rest).2
      (rest.length - after.length) + 1 + writtenSize fuel count after
  | fuel + 1, count + 1, _ :: rest => writtenSize fuel count rest + 1

def setIn (s : List Char) : Except ShapeFault (Pattern × List Char) :=
  let (negated, body) :=
    match s with
    | '^' :: rest => (true, rest)
    | _ => (false, s)
  let marked := markedChars body.length body
  match bracketEntries (marked.length + 1) true marked with
  | none => .error .badSet
  | some (entries, after) =>
      let count := writtenSize body.length (marked.length - after.length) body
      .ok (.set negated entries, body.drop count)

-- Counts of repetitions in braces: the least, and the most if there is one.
def interval? (s : List Char) : Option (Nat × Option Nat × List Char) :=
  let low := s.takeWhile Char.isDigit
  match s.drop low.length with
  | '\x7d' :: rest =>
      if low.isEmpty then none else some (decimalValue low, some (decimalValue low), rest)
  | ',' :: after =>
      let high := after.takeWhile Char.isDigit
      match after.drop high.length with
      | '\x7d' :: rest =>
          if low.isEmpty && high.isEmpty then none
          else
            some (decimalValue low, if high.isEmpty then none else some (decimalValue high), rest)
      | _ => none
  | _ => none

def repeatedBy : Nat → Pattern → List Char → Except ShapeFault (Pattern × List Char)
  | 0, body, s => .ok (body, s)
  | fuel + 1, body, s =>
      match s with
      | '*' :: rest => repeatedBy fuel (.repeated 0 none body) rest
      | '+' :: rest => repeatedBy fuel (.repeated 1 none body) rest
      | '?' :: rest => repeatedBy fuel (.repeated 0 (some 1) body) rest
      | '\x7b' :: rest =>
          match interval? rest with
          | some (least, most, after) =>
              if most.any (· < least) then .error .badInterval
              else repeatedBy fuel (.repeated least most body) after
          | none => .ok (body, s)
      | s => .ok (body, s)

mutual

-- Choices between bars. The flag tells that a bracket is open around them.
def choicesIn : Nat → Bool → List Char → Except ShapeFault (Pattern × List Char)
  | 0, _, s => .ok (.empty, s)
  | fuel + 1, isInner, s => do
      let (first, rest) ← chainIn fuel isInner none s
      match rest with
      | '|' :: after =>
          let (second, rest) ← choicesIn fuel isInner after
          return (.either first second, rest)
      | rest => return (first, rest)

def chainIn : Nat → Bool → Option Pattern → List Char → Except ShapeFault (Pattern × List Char)
  | 0, _, before, s => .ok (before.getD .empty, s)
  | fuel + 1, isInner, before, s => do
      let isOver := match s with
        | [] | '|' :: _ => true
        | ')' :: _ => isInner
        | _ => false
      match isOver, before with
      | true, none => throw (if isInner && s.isEmpty then .missingClosing else .missingOperand)
      | true, some pattern => return (pattern, s)
      | false, _ =>
          let (operand, rest) ← operandIn fuel s
          let (part, rest) ← repeatedBy rest.length operand rest
          chainIn fuel isInner (some (before.elim part fun front => .both front part)) rest

def operandIn : Nat → List Char → Except ShapeFault (Pattern × List Char)
  | 0, s => .ok (.empty, s)
  | fuel + 1, s =>
      match s with
      | '(' :: rest => do
          let (body, rest) ← choicesIn fuel true rest
          match rest with
          | ')' :: after => return (body, after)
          | _ => throw .missingClosing
      | '[' :: rest => setIn rest
      | '.' :: rest => .ok (.any, rest)
      | '^' :: rest => .ok (.start, rest)
      | '$' :: rest => .ok (.finish, rest)
      | '\\' :: rest =>
          let (c, after) := namedChar rest
          .ok (.char c, after)
      | c :: rest =>
          if c = '*' ∨ c = '+' ∨ c = '?' then .error .missingOperand else .ok (.char c, rest)
      | [] => .error .missingOperand

end

-- The pattern that a shape stands for. An empty one fits everywhere.
def readShape (s : List Char) : Except ShapeFault Pattern :=
  if s.isEmpty then .ok .empty
  else (choicesIn (4 * s.length + 4) false s).map (·.1)

-- What stands between fields or between records.
inductive Separator where
  | blanks
  | nothing
  | char (c : Char)
  | pattern (pattern : Pattern)
  -- One empty line or more.
  | emptyLines

def fieldSeparator (s : List Char) : Except ShapeFault Separator :=
  match s with
  | [] => .ok .nothing
  | [c] => .ok (if c = ' ' then .blanks else .char c)
  | s => (readShape s).map .pattern

def recordSeparator (s : List Char) : Except ShapeFault Separator :=
  match s with
  | [] => .ok .emptyLines
  | [c] => .ok (.char c)
  | s => (readShape s).map .pattern

def nextMatch (pattern : Pattern) (before : Option Char) (index : Nat) :
    List Char → Option (Nat × Nat)
  | [] => none
  | c :: rest =>
      match pattern.matchAt? false ⟨before, c :: rest, index⟩ with
      | some found =>
          if found.stop = index then nextMatch pattern (some c) (index + 1) rest
          else some (index, found.stop)
      | none => nextMatch pattern (some c) (index + 1) rest

-- The pieces of a text between matches. The fuel bounds their number.
def piecesBy (pattern : Pattern) : Nat → Nat → Option Char → List Char → List (List Char)
  | 0, _, _, s => [s]
  | fuel + 1, index, before, s =>
      match nextMatch pattern before index s with
      | none => [s]
      | some (start, stop) =>
          let taken := s.take (stop - index)
          s.take (start - index) ::
            piecesBy pattern fuel stop (taken.getLast?.or before) (s.drop (stop - index))

def words (isBlank : Char → Bool) (s : List Char) : List (List Char) :=
  (s.splitBy fun a b => isBlank a == isBlank b).filter fun word => !word.head?.any isBlank

def fieldsOf (separator : Separator) (s : List Char) : List (List Char) :=
  if s.isEmpty then []
  else
    match separator with
    | .blanks => words isSpace s
    | .nothing => s.map fun c => [c]
    | .char c => s.splitOn c
    | .pattern pattern => piecesBy pattern (s.length + 1) 0 none s
    | .emptyLines => s.splitOn '\n'

-- What stands before the first empty line, and what follows all of them.
def untilEmptyLine : List Char → List Char × List Char
  | '\n' :: '\n' :: rest => ([], rest.dropWhile (· == '\n'))
  | ['\n'] => ([], [])
  | c :: rest =>
      let (front, after) := untilEmptyLine rest
      (c :: front, after)
  | [] => ([], [])

-- The next record, if there is one, and what follows it.
def nextRecord? (separator : Separator) (s : List Char) : Option (List Char × List Char) :=
  match separator with
  | .emptyLines =>
      let text := s.dropWhile (· == '\n')
      if text.isEmpty then none else some (untilEmptyLine text)
  | .char c =>
      if s.isEmpty then none
      else
        let front := s.takeWhile (· != c)
        some (front, s.drop (front.length + 1))
  | .pattern pattern =>
      if s.isEmpty then none
      else
        match nextMatch pattern none 0 s with
        | some (start, stop) =>
            -- A break at the very end belongs to no further record.
            some (s.take start, s.drop stop)
        | none => some (s, [])
  | .blanks | .nothing => if s.isEmpty then none else some (s, [])

-- What a match is replaced by. The sign for the match itself and the backslash may be quoted.
def replacement (matched : List Char) : List Char → List Char
  | '\\' :: '\\' :: rest => '\\' :: replacement matched rest
  | '\\' :: '&' :: rest => '&' :: replacement matched rest
  | '&' :: rest => matched ++ replacement matched rest
  | c :: rest => c :: replacement matched rest
  | [] => []

-- Replaces matches from the front on, and tells how many they were.
def replaceIn (pattern : Pattern) (isGlobal : Bool) (form s : List Char) : List Char × Nat :=
  let all := pattern.allMatches false s
  let chosen := if isGlobal then all else all.take 1
  let (done, last) := chosen.foldl
    (fun (state : List Char × Nat) (start, found) =>
      let matched := (s.drop start).take (found.stop - start)
      (state.1 ++ (s.drop state.2).take (start - state.2) ++ replacement matched form, found.stop))
    ([], 0)
  (done ++ s.drop last, chosen.length)

end MakeCheck.Program.Scan
