import MakeCheck.Regex.Fault

namespace MakeCheck.Regex

inductive Flag where
  | caseInsensitive
  | multiLine
  | dotAll
  | swapGreed
  | unicode
  | crlf
  | ignoreSpace
deriving DecidableEq

-- The flags that are switched on or off, in the order in which they are written.
abbrev Settings := List (Flag × Bool)

-- A condition on what stands on both sides of a place.
inductive Edge where
  | lineStart
  | lineEnd
  | textStart
  | textEnd
  | word
  | notWord
  | wordStart
  | wordEnd
  | wordStartHalf
  | wordEndHalf
deriving DecidableEq

-- A character of a pattern. Some spellings name a byte where characters are bytes.
structure Literal where
  span : Span
  c : Char
  isByte : Bool
deriving DecidableEq

inductive CommonClass where
  | digit
  | space
  | word
deriving DecidableEq

-- A property of characters by its name, or by its name and a value of it.
structure Property where
  name : String
  value : Option String
deriving DecidableEq

inductive SetOperation where
  | intersection
  | difference
  | symmetricDifference
deriving DecidableEq

-- A set of characters as it is written.
inductive CharClass where
  | empty (span : Span)
  | literal (literal : Literal)
  | range (first last : Literal)
  | named (span : Span) (negated : Bool) (ranges : List (Nat × Nat))
  | common (span : Span) (negated : Bool) (kind : CommonClass)
  | property (span : Span) (negated : Bool) (property : Property)
  | bracketed (span : Span) (negated : Bool) (body : CharClass)
  | union (span : Span) (items : List CharClass)
  | operation (span : Span) (operation : SetOperation) (left right : CharClass)

def CharClass.span : CharClass → Span
  | empty span => span
  | literal written => written.span
  | range first last => ⟨first.span.start, last.span.stop⟩
  | named span .. => span
  | common span .. => span
  | property span .. => span
  | bracketed span .. => span
  | union span _ => span
  | operation span .. => span

def CharClass.ofItems (place : Place) : List CharClass → CharClass
  | [] => empty (.point place)
  | [item] => item
  | item :: rest =>
      union ⟨item.span.start, ((rest.getLast?).getD item).span.stop⟩ (item :: rest)

-- A pattern as it is written, with the stretches that a fault can be about.
inductive Expression where
  | empty (span : Span)
  | settings (span : Span) (settings : Settings)
  | literal (literal : Literal)
  | dot (span : Span)
  | edge (span : Span) (edge : Edge)
  | charClass (body : CharClass)
  | repetition (span : Span) (least : Nat) (most : Option Nat) (body : Expression)
  | group (span : Span) (captures : Bool) (settings : Settings) (body : Expression)
  | alternation (span : Span) (branches : List Expression)
  | concatenation (span : Span) (parts : List Expression)

def Expression.span : Expression → Span
  | empty span => span
  | settings span _ => span
  | literal written => written.span
  | dot span => span
  | edge span _ => span
  | charClass body => body.span
  | repetition span .. => span
  | group span .. => span
  | alternation span _ => span
  | concatenation span _ => span

def Expression.ofParts (span : Span) : List Expression → Expression
  | [] => empty span
  | [part] => part
  | parts => concatenation span parts

def maxNesting : Nat := 250

mutual

-- The first stretch that lies too deep, given the levels that are left.
def CharClass.tooDeep? : Nat → CharClass → Option Span
  | 0, .bracketed span .. => some span
  | 0, .union span _ => some span
  | 0, .operation span .. => some span
  | levels + 1, .bracketed _ _ body => body.tooDeep? levels
  | levels + 1, .union _ items => CharClass.anyTooDeep? levels items
  | levels + 1, .operation _ _ left right =>
      (left.tooDeep? levels).or (right.tooDeep? levels)
  | _, _ => none

def CharClass.anyTooDeep? : Nat → List CharClass → Option Span
  | _, [] => none
  | levels, item :: rest => (item.tooDeep? levels).or (CharClass.anyTooDeep? levels rest)

end

mutual

def Expression.tooDeep? : Nat → Expression → Option Span
  | levels, .charClass body => body.tooDeep? levels
  | 0, .repetition span .. => some span
  | 0, .group span .. => some span
  | 0, .alternation span _ => some span
  | 0, .concatenation span _ => some span
  | levels + 1, .repetition _ _ _ body => body.tooDeep? levels
  | levels + 1, .group _ _ _ body => body.tooDeep? levels
  | levels + 1, .alternation _ branches => Expression.anyTooDeep? levels branches
  | levels + 1, .concatenation _ parts => Expression.anyTooDeep? levels parts
  | _, _ => none

def Expression.anyTooDeep? : Nat → List Expression → Option Span
  | _, [] => none
  | levels, part :: rest => (part.tooDeep? levels).or (Expression.anyTooDeep? levels rest)

end

end MakeCheck.Regex
