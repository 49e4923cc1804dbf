import MakeCheck.Regex.Automaton
import MakeCheck.Regex.Group
import MakeCheck.Text.Blank
import MakeCheck.Text.Lowercase

namespace MakeCheck.Regex

open Text

-- How the characters of a pattern are to be understood.
structure Flags where
  caseInsensitive : Bool
  multiLine : Bool
  dotAll : Bool
  unicode : Bool
  crlf : Bool

namespace Flags

def standard : Flags :=
  ⟨false, false, false, true, false⟩

def apply (flags : Flags) (settings : Settings) : Flags :=
  settings.foldl
    (fun flags (flag, on) =>
      match flag with
      | .caseInsensitive => { flags with caseInsensitive := on }
      | .multiLine => { flags with multiLine := on }
      | .dotAll => { flags with dotAll := on }
      | .unicode => { flags with unicode := on }
      | .crlf => { flags with crlf := on }
      | .swapGreed | .ignoreSpace => flags)
    flags

end Flags

-- Each capital with its lower form. The later letters have none here.
def capitalPairs : List (Nat × Nat) :=
  let pairs := lowerRuns.flatMap fun (first, last, step, distance) =>
    (List.range ((last - first) / step + 1)).map fun i =>
      let capital := first + i * step
      (capital, ((capital : Int) + distance).toNat)
  let later := rangesOf laterLetters
  pairs.filter fun (capital, _) => !rangesContain later capital

def asciiPairs : List (Nat × Nat) :=
  (List.range 26).map fun i => (0x41 + i, 0x61 + i)

-- Letters that differ from another one only in a way that counts as case.
def variantPairs : List (Nat × Nat) :=
  [(0x17F, 0x73), (0xB5, 0x3BC), (0x345, 0x3B9), (0x1FBE, 0x3B9), (0x3C2, 0x3C3), (0x3D0, 0x3B2),
    (0x3D1, 0x3B8), (0x3D5, 0x3C6), (0x3D6, 0x3C0), (0x3F0, 0x3BA), (0x3F1, 0x3C1),
    (0x3F5, 0x3B5), (0x1C80, 0x432), (0x1C81, 0x434), (0x1C82, 0x43E), (0x1C83, 0x441),
    (0x1C84, 0x442), (0x1C85, 0x442), (0x1C86, 0x44A), (0x1C87, 0x463), (0x1C88, 0xA64B),
    (0x1E9B, 0x1E61), (0x1FD3, 0x390), (0x1FE3, 0x3B0), (0xFB05, 0xFB06)]

-- Adds the characters that are one with some of the set except for case: first their lower forms,
-- then all that share a lower form.
def closeUnder (pairs : List (Nat × Nat)) (set : CharSet) : CharSet :=
  let lower := pairs.filter fun (capital, _) => rangesContain set.ranges capital
  let withLower := set.union (.ofRanges (lower.map fun (_, small) => (small, small)))
  let upper := pairs.filter fun (_, small) => rangesContain withLower.ranges small
  withLower.union (.ofRanges (upper.map fun (capital, _) => (capital, capital)))

def Flags.closeCase (flags : Flags) (set : CharSet) : CharSet :=
  if !flags.caseInsensitive then set
  else if flags.unicode then closeUnder (asciiPairs ++ capitalPairs ++ variantPairs) set
  else closeUnder asciiPairs set

-- The complement of a set, if it is negated. Bytes above ASCII would spell no text.
def Flags.negate (flags : Flags) (span : Span) (negated : Bool) (set : CharSet) :
    Except Fault CharSet :=
  let result := if negated then set.complement else set
  if !flags.unicode && !result.isAscii then .error ⟨.invalidUtf8, span, none⟩ else .ok result

def asciiWord : List (Nat × Nat) :=
  [(0x30, 0x39), (0x41, 0x5A), (0x5F, 0x5F), (0x61, 0x7A)]

def CommonClass.set (kind : CommonClass) (unicode : Bool) : CharSet :=
  match kind, unicode with
  | .digit, true => categorySet ["Nd"]
  | .space, true => .ofRanges (blanks.map fun c => (c.toNat, c.toNat))
  | .word, true => .ofRanges (asciiWord ++ wordBeyondAscii.ranges)
  | .digit, false => ⟨[(0x30, 0x39)]⟩
  | .space, false => ⟨[(0x9, 0xD), (0x20, 0x20)]⟩
  | .word, false => ⟨asciiWord⟩

-- The character that is written, unless it is a byte that spells none.
def Flags.char (flags : Flags) (written : Literal) : Except Fault Char :=
  if !flags.unicode && written.isByte && decide (0x7F < written.c.toNat) then
    .error ⟨.invalidUtf8, written.span, none⟩
  else .ok written.c

-- The character that is written in a set. A set of bytes holds ASCII alone.
def Flags.member (flags : Flags) (written : Literal) : Except Fault Char := do
  let c ← flags.char written
  if !flags.unicode && decide (0x7F < c.toNat) then
    throw ⟨.unicodeNotAllowed, written.span, none⟩
  return c

mutual

def CharClass.meaning (flags : Flags) : CharClass → Except Fault CharSet
  | .empty _ => .ok .empty
  | .literal written => do
      let c ← flags.member written
      return .range c c
  | .range first last => do
      let low ← flags.member first
      let high ← flags.member last
      return .range low high
  | .named span negated ranges => flags.negate span negated (flags.closeCase (.ofRanges ranges))
  | .common span negated kind => flags.negate span negated (kind.set flags.unicode)
  | .property span negated chosen =>
      if !flags.unicode then .error ⟨.unicodeNotAllowed, span, none⟩
      else
        match chosen.set with
        | .error complaint => .error ⟨complaint, span, none⟩
        | .ok set => flags.negate span negated (flags.closeCase set)
  | .bracketed span negated body => do
      flags.negate span negated (flags.closeCase (← body.meaning flags))
  | .union _ items => CharClass.unionMeaning flags items
  | .operation _ join left right => do
      let left := flags.closeCase (← left.meaning flags)
      let right := flags.closeCase (← right.meaning flags)
      return match join with
        | .intersection => left.intersection right
        | .difference => left.difference right
        | .symmetricDifference => left.symmetricDifference right

def CharClass.unionMeaning (flags : Flags) : List CharClass → Except Fault CharSet
  | [] => .ok .empty
  | item :: rest => do
      let first ← item.meaning flags
      return first.union (← CharClass.unionMeaning flags rest)

end

-- The set of a dot: all that does not end a line, unless line ends count as well.
def Flags.dotSet (flags : Flags) : CharSet :=
  if flags.dotAll then .all
  else if flags.crlf then CharSet.complement ⟨[(0xA, 0xA), (0xD, 0xD)]⟩
  else CharSet.complement ⟨[(0xA, 0xA)]⟩

def Flags.edge (flags : Flags) : Edge → Edge
  | .lineStart => if flags.multiLine then .lineStart else .textStart
  | .lineEnd => if flags.multiLine then .lineEnd else .textEnd
  | other => other

mutual

-- The meaning of an expression and the flags that hold behind it. Settings inside a group end
-- with it.
def Expression.meaning (flags : Flags) : Expression → Except Fault (Pattern × Flags)
  | .empty _ => .ok (.empty, flags)
  | .settings _ changes => .ok (.empty, flags.apply changes)
  | .literal written => do
      let c ← flags.char written
      return (.chars (flags.closeCase (.range c c)), flags)
  | .dot span =>
      if !flags.unicode then .error ⟨.invalidUtf8, span, none⟩
      else .ok (.chars flags.dotSet, flags)
  | .edge _ kind => .ok (.edge (flags.edge kind) flags.crlf flags.unicode, flags)
  | .charClass body => do
      return (.chars (← body.meaning flags), flags)
  | .repetition _ least most body => do
      let (body, after) ← body.meaning flags
      return (.repeated least most body, after)
  | .group _ captures changes body => do
      let (body, _) ← body.meaning (flags.apply changes)
      return (if captures then .captured body else body, flags)
  | .alternation _ branches => do
      let (branches, after) ← Expression.listMeaning flags branches
      return (.choice branches, after)
  | .concatenation _ parts => do
      let (parts, after) ← Expression.listMeaning flags parts
      return (.row parts, after)

def Expression.listMeaning (flags : Flags) :
    List Expression → Except Fault (List Pattern × Flags)
  | [] => .ok ([], flags)
  | part :: rest => do
      let (first, flags) ← part.meaning flags
      let (others, flags) ← Expression.listMeaning flags rest
      return (first :: others, flags)

end

-- The meaning of a pattern, or what is to be said about it. A pattern that takes too much room is
-- refused.
def Pattern.ofText (text : String) : Except String Pattern :=
  let found := do
    let expression ← read text
    expression.meaning .standard
  match found with
  | .error fault => .error (fault.report text)
  | .ok (pattern, _) =>
      if pattern.fits then .ok pattern
      else .error ("Compiled regex exceeds size limit of " ++ toString maxBytes ++ " bytes.")

end MakeCheck.Regex
