import MakeCheck.Regex.Bracket
import MakeCheck.Regex.Property

namespace MakeCheck.Regex

-- Letters that names may have although the tables of properties leave them unassigned: they came
-- with the version of the standard after the one of the tables.
def laterLetters : List String :=
  ["88F C5C CDC A7CE-A7CF A7D2 A7D4 A7F1 10940-10959 10EC5-10EC7 10EFA-10EFB 11B60-11B67",
    "11DB0-11DDB 16EA0-16EB8 16EBB-16ED3 16FF2-16FF6 187F8-187FF 18D09-18D1E 18D80-18DF2",
    "1E6C0-1E6DE 1E6E0-1E6F5 1E6FE-1E6FF 2B73A-2B73F 2CEA2-2CEAD 323B0-33479"]

def laterDigits : List String :=
  ["11DE0-11DE9 16FF4-16FF6"]

def isAlphabetic (c : Char) : Bool :=
  c.isAlpha || (decide (0x7F < c.toNat) &&
    ((Trait.set? traits "alphabetic").any (·.contains c) ||
      Text.rangesContain (rangesOf laterLetters) c.toNat))

def isNumeric (c : Char) : Bool :=
  c.isDigit || (decide (0x7F < c.toNat) &&
    ((category? "number").any (·.contains c) ||
      Text.rangesContain (rangesOf laterDigits) c.toNat))

def flagOf? : Char → Option Flag
  | 'i' => some .caseInsensitive
  | 'm' => some .multiLine
  | 's' => some .dotAll
  | 'U' => some .swapGreed
  | 'u' => some .unicode
  | 'R' => some .crlf
  | 'x' => some .ignoreSpace
  | _ => none

-- A flag, or the hyphen that negates those after it, with its place.
abbrev FlagItem := Option Flag × Span

def settingsOf : Bool → List FlagItem → Settings
  | _, [] => []
  | on, (some flag, _) :: rest => (flag, on) :: settingsOf on rest
  | _, (none, _) :: rest => settingsOf false rest

-- Which characters a group's name may hold. A digit, a dot or a bracket cannot come first.
def fitsName (first : Bool) (c : Char) : Bool :=
  c == '_' || isAlphabetic c ||
    (!first && (c == '.' || c == '[' || c == ']' || isNumeric c))

-- What an opening bracket begins: settings that hold from here on, or a group, which can remember
-- where it was found.
inductive GroupOpening where
  | settings (span : Span) (settings : Settings)
  | group (opening : Span) (captures : Bool) (settings : Settings)

namespace Reading

def addFlag (before : List FlagItem) (item : Option Flag) : Reading (List FlagItem) := do
  let here ← nextSpan
  match before.find? fun other => other.1 == item with
  | some (_, other) =>
      let complaint := if item.isNone then Complaint.flagRepeatedNegation else .flagDuplicate
      throw ⟨complaint, here, some other⟩
  | none =>
      bump
      if ← atEnd then faultAt (← nextSpan) .flagUnfinished
      return before ++ [(item, here)]

def flagItems : Nat → List FlagItem → Reading (List FlagItem)
  | 0, before => return before
  | fuel + 1, before => do
      match ← next? with
      | none | some ':' | some ')' =>
          match before.getLast? with
          | some (none, span) => faultAt span .flagDanglingNegation
          | _ => return before
      | some '-' => flagItems fuel (← addFlag before none)
      | some c =>
          match flagOf? c with
          | some flag => flagItems fuel (← addFlag before (some flag))
          | none => faultAt (← nextSpan) .flagUnrecognized

def nameChars : Nat → Bool → Reading (List Char)
  | 0, _ => return []
  | fuel + 1, first => do
      match ← next? with
      | none => faultAt (← nextSpan) .groupNameUnfinished
      | some '>' => return []
      | some c =>
          if fitsName first c then
            bump
            return c :: (← nameChars fuel false)
          else faultAt (← nextSpan) .groupNameInvalid

-- The name of a group, with the sign that ends it. No two groups share one.
def groupName : Reading Unit := do
  let start ← place
  let name ← nameChars ((← fuel) + 1) true
  let span : Span := ⟨start, ← place⟩
  bump
  if name.isEmpty then faultAt (.point start) .groupNameEmpty
  let names := (← get).names
  match names.lookup (String.ofList name) with
  | some other => throw ⟨.groupNameDuplicate, span, some other⟩
  | none => modify fun cursor => { cursor with names := (String.ofList name, span) :: names }

def groupOpening : Reading GroupOpening := do
  let opening ← nextSpan
  advance
  for sign in ["?=", "?!", "?<=", "?<!"] do
    if ← bumpIf sign.toList then faultAt ⟨opening.start, ← place⟩ .lookAround
  let inner ← place
  if (← bumpIf "?P<".toList) || (← bumpIf "?<".toList) then
    groupName
    return .group opening true []
  else if ← bumpIf ['?'] then
    if ← atEnd then faultAt opening .groupUnclosed
    let settings := settingsOf true (← flagItems ((← fuel) + 1) [])
    let last ← next?
    bump
    if last = some ')' then
      if settings.isEmpty then faultAt (.point inner) .repetitionMissing
      return .settings ⟨opening.start, ← place⟩ settings
    else return .group opening false settings
  else return .group opening true []

def maxCount : Nat := Nat.pow 2 32 - 1

-- A number between blanks. What is wrong with it is told only if the rest of the count is right.
def decimal : Reading (Except Fault Nat) := do
  for _ in (← get).rest.takeWhile Text.isBlank do bump
  let start ← place
  let digits ← takeAll Char.isDigit
  let span : Span := ⟨start, ← place⟩
  let _ ← takeAll Text.isBlank
  let number := digits.foldl (fun n digit => n * 10 + hexDigit digit) 0
  if digits.isEmpty then return .error ⟨.countEmpty, span, none⟩
  else if maxCount < number then return .error ⟨.decimalInvalid, span, none⟩
  else return .ok number

-- How often something is repeated, with the cursor on the opening brace.
def count : Reading (Nat × Option Nat) := do
  let start ← place
  let unclosed : Reading Unit := do
    if ← atEnd then faultAt ⟨start, ← place⟩ .countUnclosed
  advance
  unclosed
  let least ← decimal
  unclosed
  let (least, most) ←
    if (← next?) = some ',' then
      advance
      unclosed
      let least ← liftM least
      if (← next?) = some '\x7d' then pure (least, none)
      else
        let most ← liftM (← decimal)
        pure (least, some most)
    else
      let least ← liftM least
      pure (least, some least)
  if (← next?) ≠ some '\x7d' then faultAt ⟨start, ← place⟩ .countUnclosed
  advance
  if (← next?) = some '?' then bump
  if most.any fun most => decide (most < least) then faultAt ⟨start, ← place⟩ .countInvalid
  return (least, most)

-- How often the operator at the cursor repeats what is before it.
def repetitionCount (operator : Char) : Reading (Nat × Option Nat) := do
  if operator = '\x7b' then count
  else
    bump
    if (← next?) = some '?' then bump
    return (if operator = '+' then 1 else 0, if operator = '?' then some 1 else none)

def isRepeatable : Option Expression → Bool
  | none | some (.empty _) | some (.settings ..) => false
  | some _ => true

def part : Reading Expression := do
  let span ← nextSpan
  match ← next? with
  | some '\\' =>
      match ← escape with
      | .literal written => return .literal written
      | .edge span edge => return .edge span edge
      | .common span negated kind => return .charClass (.common span negated kind)
      | .property span negated property => return .charClass (.property span negated property)
  | some c =>
      bump
      if c = '.' then return .dot span
      else if c = '^' then return .edge span .lineStart
      else if c = '$' then return .edge span .lineEnd
      else return .literal ⟨span, c, false⟩
  | none => return .empty span

-- What was read of the branches that lie between two brackets. All lists are in reverse order.
structure Branches where
  -- The opening bracket, unless the whole pattern is meant.
  opening : Option Span
  first : Place
  done : List Expression
  start : Place
  parts : List Expression

namespace Branches

def atPlace (opening : Option Span) (place : Place) : Branches :=
  ⟨opening, place, [], place, []⟩

def push (branches : Branches) (part : Expression) : Branches :=
  { branches with parts := part :: branches.parts }

def next (branches : Branches) (stop start : Place) : Branches :=
  { branches with
    done := .ofParts ⟨branches.start, stop⟩ branches.parts.reverse :: branches.done
    start
    parts := [] }

def close (branches : Branches) (stop : Place) : Expression :=
  let last := Expression.ofParts ⟨branches.start, stop⟩ branches.parts.reverse
  if branches.done.isEmpty then last
  else .alternation ⟨branches.first, stop⟩ (branches.done.reverse ++ [last])

end Branches

def expression : Nat → Branches → Reading Expression
  | 0, branches => return branches.close (← place)
  | fuel + 1, branches => do
      bumpSpace
      match ← next? with
      | none =>
          match branches.opening with
          | some opening => faultAt opening .groupUnclosed
          | none => return branches.close (← place)
      | some ')' =>
          if branches.opening.isNone then faultAt (← nextSpan) .groupUnopened
          else return branches.close (← place)
      | some '|' =>
          let stop ← place
          bump
          expression fuel (branches.next stop (← place))
      | some '(' =>
          let outer := (← get).ignoresSpace
          match ← groupOpening with
          | .settings span settings =>
              let ignoresSpace := (settings.lookup .ignoreSpace).getD outer
              modify fun cursor => { cursor with ignoresSpace }
              expression fuel (branches.push (.settings span settings))
          | .group opening captures settings =>
              let ignoresSpace := (settings.lookup .ignoreSpace).getD outer
              modify fun cursor => { cursor with ignoresSpace }
              let body ← expression fuel (.atPlace (some opening) (← place))
              modify fun cursor => { cursor with ignoresSpace := outer }
              bump
              let span : Span := ⟨opening.start, ← place⟩
              expression fuel (branches.push (.group span captures settings body))
      | some '[' =>
          let body ← bracketed (fuel + 2)
          expression fuel (branches.push (.charClass body))
      | some c =>
          if c = '?' ∨ c = '*' ∨ c = '+' ∨ c = '\x7b' then
            match branches.parts with
            | last :: before =>
                if !isRepeatable (some last) then faultAt (.point (← place)) .repetitionMissing
                let (least, most) ← repetitionCount c
                let span : Span := ⟨last.span.start, ← place⟩
                expression fuel
                  { branches with parts := .repetition span least most last :: before }
            | [] => faultAt (.point (← place)) .repetitionMissing
          else
            let part ← part
            expression fuel (branches.push part)

end Reading

def read (pattern : String) : Except Fault Expression := do
  let source := pattern.toList
  let start : Cursor := ⟨source, .first, false, []⟩
  let (expression, _) ← Reading.expression (source.length + 1) (.atPlace none .first) |>.run start
  match expression.tooDeep? maxNesting with
  | some span => throw ⟨.nestingTooDeep maxNesting, span, none⟩
  | none => return expression

end MakeCheck.Regex
