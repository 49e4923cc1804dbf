namespace MakeCheck.Text

-- An entry of a set in brackets.
inductive BracketEntry where
  | range (first last : Char)
  | named (fits : Char → Bool)

def BracketEntry.fits (c : Char) : BracketEntry → Bool
  | range first last => decide (first ≤ c ∧ c ≤ last)
  | named fits => fits c

def isPunctuation (c : Char) : Bool :=
  decide ('!' ≤ c ∧ c ≤ '~') && !c.isAlphanum

def namedSets : List (String × (Char → Bool)) :=
  [("alpha", Char.isAlpha), ("digit", Char.isDigit), ("alnum", Char.isAlphanum),
    ("upper", Char.isUpper), ("lower", Char.isLower), ("space", Char.isWhitespace),
    ("blank", fun c => c == ' ' || c == '\t'), ("punct", isPunctuation),
    ("cntrl", fun c => c.toNat < 32 || c.toNat == 127),
    ("print", fun c => decide (' ' ≤ c ∧ c ≤ '~')), ("graph", fun c => decide ('!' ≤ c ∧ c ≤ '~')),
    ("xdigit", fun c => c.isDigit || (decide ('a' ≤ c.toLower ∧ c.toLower ≤ 'f')))]

-- The entries up to the bracket that closes a set. One at the very front is an entry itself. Every
-- character tells whether it is quoted, which makes it an entry as well.
def bracketEntries : Nat → Bool → List (Char × Bool) →
    Option (List BracketEntry × List (Char × Bool))
  | 0, _, _ => none
  | fuel + 1, isFirst, text =>
      match text with
      | [] => none
      | (']', false) :: rest =>
          if isFirst then
            (bracketEntries fuel false rest).map fun (entries, after) =>
              (.range ']' ']' :: entries, after)
          else some ([], rest)
      | ('[', false) :: (':', false) :: rest =>
          let name := (rest.takeWhile fun entry => entry.1 != ':').map (·.1)
          match namedSets.lookup (String.ofList name), rest.drop name.length with
          | some fits, (':', _) :: (']', _) :: after =>
              (bracketEntries fuel false after).map fun (entries, after) =>
                (.named fits :: entries, after)
          | _, _ =>
              (bracketEntries fuel false ((':', false) :: rest)).map fun (entries, after) =>
                (.range '[' '[' :: entries, after)
      | (first, _) :: ('-', false) :: (last, quoted) :: rest =>
          if last = ']' ∧ !quoted then
            (bracketEntries fuel false (('-', true) :: (last, quoted) :: rest)).map
              fun (entries, after) => (.range first first :: entries, after)
          else
            (bracketEntries fuel false rest).map fun (entries, after) =>
              (.range first last :: entries, after)
      | (c, _) :: rest =>
          (bracketEntries fuel false rest).map fun (entries, after) =>
            (.range c c :: entries, after)

end MakeCheck.Text
