import MakeCheck.Shell.Token

namespace MakeCheck.Shell

namespace Reading

def isSpecial (c : Char) : Bool :=
  ['@', '*', '#', '?', '$', '!', '-'].contains c

-- What follows the name of a parameter between braces, apart from the word after it. Nothing means
-- that no word may follow.
inductive Operator where
  | stop
  | otherwise (kind : Otherwise) (ifEmpty : Bool)
  | trim (atEnd longest : Bool)
  | wrong

def otherwise? : Char → Option Otherwise
  | '-' => some .use
  | '=' => some .assign
  | '?' => some .complain
  | '+' => some .replace
  | _ => none

def parameterOperator : Reading Operator := do
  match ← peek, ← second? with
  | some '\x7d', _ =>
      skip
      return .stop
  | some ':', some c =>
      skip
      skip
      match otherwise? c with
      | some kind => return .otherwise kind true
      | none => return .wrong
  | some c, after =>
      if c = '#' ∨ c = '%' then
        skip
        let longest := after == some c
        if longest then skip
        return .trim (c == '%') longest
      else
        skip
        match otherwise? c with
        | some kind => return .otherwise kind false
        | none => return .wrong
  | none, _ => return .wrong

-- The name of a parameter between braces. A number sign before it asks for its length.
def bracedName : Reading (Bool × Option String) := do
  let rest := (← get).rest
  let plain : Reading (Option String) := do
    match ← peek with
    | some c =>
        if isNameStart c then return some (String.ofList (← takeWhile isNameChar))
        else if c.isDigit then return some (String.ofList (← takeWhile Char.isDigit))
        else if c = '\x7d' then return none
        else
          skip
          return if isSpecial c then some c.toString else none
    | none => return none
  match rest with
  | '#' :: c :: d :: _ =>
      if isNameChar c || (isSpecial c && c != '\x7d' && d == '\x7d') then
        skip
        return (true, ← plain)
      else return (false, ← plain)
  | _ => return (false, ← plain)

-- What follows the name of a parameter between braces in the extended dialect.
inductive Change where
  | operator (operator : Operator)
  | slice
  | exchange (place : Place)
  | recase (letter : Char) (isAll : Bool)
  | shown (letter : Char)

def shownLetters : List Char := ['Q', 'E', 'P', 'A', 'a', 'K', 'k', 'U', 'u', 'L']

def parameterChange : Reading Change := do
  match (← get).rest with
  | ':' :: c :: _ =>
      if (otherwise? c).isSome then return .operator (← parameterOperator)
      else
        skip
        return .slice
  | '/' :: rest =>
      skip
      let place : Place := match rest.head? with
        | some '/' => .every
        | some '#' => .front
        | some '%' => .back
        | _ => .first
      if place != .first then skip
      return .exchange place
  | '@' :: letter :: '\x7d' :: _ =>
      if shownLetters.contains letter then
        for _ in List.range 3 do skip
        return .shown letter
      else return .operator .wrong
  | c :: rest =>
      if c = '^' ∨ c = ',' ∨ c = '~' then
        skip
        let isAll := rest.head? == some c
        if isAll then skip
        return .recase c isAll
      else if c = '\x7d' ∨ c = '#' ∨ c = '%' ∨ (otherwise? c).isSome then
        return .operator (← parameterOperator)
      else return .operator .wrong
  | [] => return .operator .wrong

-- What a sign that separates pieces of an expression leaves of it, up to the first one outside of
-- brackets and of choices.
def cutExpression (stop : Char) : Nat → List Char → List Char × Option (List Char)
  | _, [] => ([], none)
  | depth, c :: rest =>
      if c = stop ∧ depth = 0 then ([], some rest)
      else
        let deeper := if c = '(' ∨ (c = '?' ∧ stop = ':') then depth + 1
          else if c = ')' ∨ (c = ':' ∧ stop = ':') then depth - 1
          else depth
        let (before, after) := cutExpression stop deeper rest
        (c :: before, after)

-- Cuts an expression at the first sign of a kind. What stands for a value stays in one piece.
def cutWord (stop : Char) : Word → Word × Option Word
  | [] => ([], none)
  | .text quoted text :: rest =>
      match cutExpression stop 0 text with
      | (before, some after) => ([.text quoted before], some (.text quoted after :: rest))
      | (_, none) =>
          let (before, after) := cutWord stop rest
          (.text quoted text :: before, after)
  | part :: rest =>
      let (before, after) := cutWord stop rest
      (part :: before, after)

-- Whether what follows can name a channel. In the extended dialect anything else names a file.
def namesChannel : List Char → Bool
  | c :: _ => c.isDigit || c == '-' || c == '$'
  | [] => true

def redirectSign (channel : Option Nat) : Reading Token := do
  let isExtended ← isExtended
  let first ← peek
  skip
  let rest := (← get).rest
  let standard := channel.getD (if first = some '>' then 1 else 0)
  let done (count : Nat) (kind : RedirectKind) : Reading Token := do
    for _ in List.range count do skip
    return .redirect standard kind
  match first, rest with
  | some '>', '>' :: _ => done 1 .append
  | some '>', '&' :: after =>
      if isExtended && standard == 1 && !namesChannel (after.dropWhile (· == ' ')) then
        done 1 (.everything false)
      else done 1 .duplicate
  | _, '&' :: _ => done 1 .duplicate
  | some '>', '|' :: _ => done 1 (.overwrite true)
  | some '>', _ => done 0 (.overwrite false)
  | _, '<' :: '<' :: _ => if isExtended then done 2 .line else done 1 .document
  | _, '<' :: _ => done 1 .document
  | _, '>' :: _ => done 1 .update
  | _, _ => done 0 .input

-- Complains about a token that has no place in a condition.
def wrongCondition {α : Type} (token : Token) (message : String) : Reading α := do
  let cursor ← get
  let size := cursor.tokenStart.length - cursor.tokenEnd.length
  let text := match token with
    | .lineEnd => "newline"
    | _ => String.ofList (cursor.tokenStart.take size)
  let line := cursor.line
  throw ⟨line, [(line, message), (line, "syntax error near \x60" ++ text ++ "\x27")], true, 2⟩

def isConditionEnd : Token → Bool
  | .word word => plainText? word == some [']', ']']
  | _ => false

-- Which commands a list is made of: those of one line, those up to a closing token, or perhaps none
-- up to one.
inductive Extent where
  | line
  | block
  | perhaps
deriving DecidableEq

-- A text in quotes in which backslashes spell characters, behind the opening quote.
def spelled : Reading Part := do
  let cursor ← get
  match spelledText? 0 cursor.rest with
  | some (bytes, after) =>
      for _ in List.range (cursor.rest.length - after.length) do skip
      return .text true (Text.Utf8.decodeLossy (bytes.takeWhile (· != 0))).toList
  | none => missingPartner "\x27" ""

mutual

-- The parts of a word up to its end, which is passed over if it is a sign of its own.
def parts : Nat → Site → Reading Word
  | 0, _ => return []
  | fuel + 1, site => do
      let cursor ← get
      let isExtended := cursor.dialect == .extended
      match ← peek, ← second? with
      | none, _ =>
          match site.endFault? with
          | some (sign, message) => missingPartner sign message
          | none => return []
      | some c, after =>
          if isExtended && site == .bare && (c == '<' || c == '>') && after == some '(' then
            let part ← passage fuel
            return part :: (← parts fuel site)
          else if isExtended && cursor.hasGroups && !site.quoted && after == some '(' &&
              ['?', '*', '+', '@', '!'].contains c then
            skip
            skip
            let inside ← enclosed (parts fuel .group)
            let rest ← parts fuel site
            return Word.cons false c (Word.cons false '(' (inside ++ Word.cons false ')' rest))
          else if site = .bare ∧ isMeta c then return []
          else if site = .pattern 0 ∧ ([' ', '\t', '\n', ')'].contains c) then return []
          else if c = '\\' then
            skip
            escaped fuel site
          else if c = '\x27' ∧ !site.quoted then
            skip
            let inside ← enclosed do
              let inside ← takeWhile (· != '\x27')
              if !(← skipIf '\x27') then missingPartner "\x27" "Unterminated quoted string"
              pure inside
            return .text true inside :: (← parts fuel site)
          else if c = '\x22' ∧ site = .quotes then
            skip
            return []
          else if c = '\x22' ∧ !site.keepsQuotes then
            skip
            let inside ← enclosed (parts fuel .quotes)
            -- Nothing between quotes is still a word.
            let inside : Word := if inside.isEmpty then [.text true []] else inside
            return inside ++ (← parts fuel site)
          else if c = '$' ∧ isExtended ∧ !site.quoted ∧ after = some '\x27' then
            skip
            skip
            let part ← enclosed spelled
            return part :: (← parts fuel site)
          else if c = '$' ∧ isExtended ∧ !site.quoted ∧ after = some '\x22' then
            -- A text that could be told in another language.
            skip
            parts fuel site
          else if c = '$' then
            skip
            let part ← value fuel site.quoted
            return part :: (← parts fuel site)
          else if c = '\x60' then
            skip
            let part ← enclosed (oldCommand fuel site.quoted)
            return part :: (← parts fuel site)
          else if site matches .pieces _ ∧ c = '\x7d' then return []
          else
            skip
            match site, c with
            | .braces _, '\x7d' => return []
            | .pieces _, '/' => return []
            | .arithmetic depth, '(' =>
                return Word.cons true c (← parts fuel (.arithmetic (depth + 1)))
            | .arithmetic (depth + 1), ')' =>
                return Word.cons true c (← parts fuel (.arithmetic depth))
            | .arithmetic 0, ')' =>
                if ← skipIf ')' then return []
                else return Word.cons true c (← parts fuel site)
            | .key depth, '[' => return Word.cons false c (← parts fuel (.key (depth + 1)))
            | .key (depth + 1), ']' => return Word.cons false c (← parts fuel (.key depth))
            | .key 0, ']' => return []
            | .group, ')' => return []
            | .group, '(' =>
                let inside ← parts fuel .group
                let rest ← parts fuel site
                return Word.cons false c (inside ++ Word.cons false ')' rest)
            | .pattern depth, '(' =>
                return Word.cons false c (← parts fuel (.pattern (depth + 1)))
            | .pattern (depth + 1), ')' =>
                return Word.cons false c (← parts fuel (.pattern depth))
            | _, _ => return Word.cons site.quoted c (← parts fuel site)

-- A command that stands for a file which it writes or reads.
def passage : Nat → Reading Part
  | 0 => return .text false []
  | fuel + 1 => do
      let writes := (← peek) == some '<'
      skip
      skip
      return .passage writes (← inner fuel)

-- The commands up to the bracket that closes them, which is passed over.
def inner : Nat → Reading Script
  | 0 => return .nothing
  | fuel + 1 => do
      let start ← get
      let inside : Reading Script := do
        let body ← list fuel .perhaps true .nothing
        let last ← token fuel false true
        match last with
        | .finish =>
            if start.dialect == .extended then
              modify fun cursor => { cursor with openLine := cursor.lastLine }
              missingPartner ")" ""
            else unexpected last (some (.sign ")"))
        | _ =>
            if !last.isSign ")" then unexpected last (some (.sign ")"))
            return body
      tryCatch inside fun fault =>
        throw (if fault.showsLine then { fault with status := 127 } else fault)

def escaped : Nat → Site → Reading Word
  | 0, _ => return []
  | fuel + 1, site => do
      match ← peek with
      | none => return Word.cons true '\\' (← parts fuel site)
      | some '\n' =>
          skip
          parts fuel site
      | some c =>
          if !site.quoted || site.escapable c then
            skip
            return Word.cons true c (← parts fuel site)
          else return Word.cons true '\\' (← parts fuel site)

-- What a dollar sign introduces. Before anything else it stands for itself.
def value : Nat → Bool → Reading Part
  | 0, quoted => return .text quoted ['$']
  | fuel + 1, quoted => do
      let cursor ← get
      let isExtended := cursor.dialect == .extended
      let named (name : String) : Part :=
        if isExtended then .chosen quoted (.name name) .plain else .parameter quoted name .plain
      match ← peek, ← second? with
      | some '(', some '(' =>
          if isExtended && !closesTwice 0 (cursor.rest.drop 2) then
            skip
            return .command quoted (← inner fuel)
          else
            let expression ← enclosed do
              skip
              skip
              parts fuel (.arithmetic 0)
            return .arithmetic quoted expression
      | some '(', _ =>
          skip
          return .command quoted (← inner fuel)
      | some '\x7b', _ =>
          enclosed do
            skip
            if isExtended then choose fuel quoted else braced fuel quoted
      | some '[', _ =>
          if !isExtended then return .text quoted ['$']
          else
            enclosed do
              skip
              return .arithmetic quoted (← parts fuel (.key 0))
      | some c, _ =>
          if isNameStart c then return named (String.ofList (← takeWhile isNameChar))
          else if c.isDigit || isSpecial c then
            skip
            return named c.toString
          else return .text quoted ['$']
      | none, _ => return .text quoted ['$']

def braced : Nat → Bool → Reading Part
  | 0, quoted => return .text quoted ['$']
  | fuel + 1, quoted => do
      let (asksLength, name?) ← bracedName
      let name := name?.getD ""
      let wrong : Reading Part := do
        let _ ← parts fuel (.braces quoted)
        return .parameter quoted name .wrong
      if name?.isNone then wrong
      else
        let operator ← parameterOperator
        match operator, asksLength with
        | .stop, true => return .parameter quoted name .length
        | _, true => wrong
        | .stop, false => return .parameter quoted name .plain
        | .otherwise kind ifEmpty, false =>
            let word ← parts fuel (.braces quoted)
            return .parameter quoted name (.otherwise kind ifEmpty word)
        | .trim atEnd longest, false =>
            let pattern ← parts fuel (.braces false)
            return .parameter quoted name (.trim atEnd longest pattern)
        | .wrong, false => wrong

-- Where the values of a parameter between braces come from. A sign in front may ask for the length,
-- or for what the parameter names.
def origin : Nat → Reading (Bool × Option Origin)
  | 0 => return (false, none)
  | fuel + 1 => do
      match (← get).rest with
      | '#' :: c :: d :: _ =>
          if isNameChar c || (isSpecial c && c != '\x7d' && d == '\x7d') then
            skip
            return (true, ← direct fuel)
          else return (false, ← direct fuel)
      | '!' :: c :: d :: _ =>
          if isNameChar c || (isSpecial c && d == '\x7d') then
            skip
            let through? ← direct fuel
            match through?, (← get).rest with
            | some (.all name joined), _ => return (false, some (.keys name joined))
            | some (.name name), mark :: '\x7d' :: _ =>
                if mark = '@' ∨ mark = '*' then
                  skip
                  return (false, some (.beginning name (mark == '*')))
                else return (false, some (.through (.name name)))
            | some other, _ => return (false, some (.through other))
            | none, _ => return (false, none)
          else return (false, ← direct fuel)
      | _ => return (false, ← direct fuel)

-- A parameter, or a collection with one of its keys or all of them.
def direct : Nat → Reading (Option Origin)
  | 0 => return none
  | fuel + 1 => do
      match ← peek with
      | none => return none
      | some c =>
          if isNameStart c then
            let name := String.ofList (← takeWhile isNameChar)
            match (← get).rest with
            | '[' :: mark :: ']' :: _ =>
                if mark = '@' ∨ mark = '*' then
                  for _ in List.range 3 do skip
                  return some (.all name (mark == '*'))
                else
                  skip
                  return some (.entry name (← enclosed (parts fuel (.key 0))))
            | '[' :: _ =>
                skip
                return some (.entry name (← enclosed (parts fuel (.key 0))))
            | _ => return some (.name name)
          else if c.isDigit then return some (.name (String.ofList (← takeWhile Char.isDigit)))
          else if c = '\x7d' ∨ !isSpecial c then return none
          else
            skip
            return some (.name c.toString)

-- A parameter between braces in the extended dialect, behind the opening one.
def choose : Nat → Bool → Reading Part
  | 0, quoted => return .text quoted ['$']
  | fuel + 1, quoted => do
      let start := (← get).rest
      let faulty : Reading Part := do
        let _ ← parts fuel (.braces quoted)
        let size := start.length - (← get).rest.length
        return .faulty ('$' :: '\x7b' :: start.take size)
      let (asksLength, origin?) ← origin fuel
      match origin? with
      | none => faulty
      | some origin =>
          let change ← parameterChange
          let chosen (use : Use) : Reading Part := return .chosen quoted origin use
          match change, asksLength with
          | .operator .stop, true => chosen .length
          | .operator .stop, false => chosen .plain
          | _, true => faulty
          | .operator (.otherwise kind ifEmpty), false =>
              chosen (.otherwise kind ifEmpty (← parts fuel (.braces quoted)))
          | .operator (.trim atEnd longest), false =>
              chosen (.trim atEnd longest (← parts fuel (.braces false)))
          | .operator .wrong, false => faulty
          | .slice, false =>
              let (start, size) := cutWord ':' (← parts fuel (.braces true))
              chosen (.slice start size)
          | .exchange place, false =>
              let pattern ← parts fuel (.pieces false)
              let replacement ← parts fuel (.braces false)
              chosen (.exchange place pattern replacement)
          | .recase letter isAll, false =>
              chosen (.recase letter isAll (← parts fuel (.braces false)))
          | .shown letter, false => chosen (.shown letter)

-- A command between backquotes, behind the opening one.
def oldCommand : Nat → Bool → Reading Part
  | 0, quoted => return .text quoted []
  | fuel + 1, quoted => do
      let cursor ← get
      match backquoted quoted cursor.rest with
      | none =>
          let _ ← takeWhile fun _ => true
          missingPartner "\x60" "EOF in backquote substitution"
      | some (inside, after) =>
          -- The lines inside count for themselves.
          let line := if cursor.dialect == .extended then cursor.line else 1
          set { cursor with rest := inside, line, documentLines := 0 }
          let body ← list fuel .perhaps true .nothing
          let breaks := (cursor.rest.take (cursor.rest.length - after.length)).count '\n'
          set { cursor with rest := after, line := cursor.line + breaks }
          return .command quoted body

def rawToken : Nat → Reading Token
  | 0 => return .finish
  | fuel + 1 => do
      skipIdle ((← get).rest.length + 1)
      let start := (← get).rest
      let token ← bareToken fuel
      modify fun cursor => { cursor with tokenStart := start, tokenEnd := cursor.rest }
      return token

def bareToken : Nat → Reading Token
  | 0 => return .finish
  | fuel + 1 => do
      let cursor ← get
      let isExtended := cursor.dialect == .extended
      match ← peek, ← second? with
      | none, _ => return .finish
      | some '\n', _ =>
          skip
          return .lineEnd
      | some c, after =>
          if (c = '<' ∨ c = '>') ∧ !(isExtended && after == some '(') then redirectSign none
          else if c = '(' ∨ c = ')' then
            skip
            return .sign c.toString
          else if c = '&' ∨ c = '|' ∨ c = ';' then
            let longer := if isExtended then [";;&", ";&", "|&", "&>"] else []
            match longer.find? fun text => text.toList.isPrefixOf cursor.rest with
            | some "&>" =>
                skip
                skip
                return .redirect 1 (.everything (← skipIf '>'))
            | some text =>
                for _ in text.toList do skip
                return .sign text
            | none =>
                skip
                if after = some c then
                  skip
                  return .sign (String.ofList [c, c])
                else return .sign c.toString
          else
            let word ← keyed fuel
            let channel? (digits : List Char) : Option Nat :=
              if digits.all Char.isDigit && (digits.length == 1 || isExtended) then
                some (digits.foldl (fun n d => n * 10 + (d.toNat - '0'.toNat)) 0)
              else none
            match plainText? word, ← peek with
            | some (digit :: digits), some '<' | some (digit :: digits), some '>' =>
                match channel? (digit :: digits) with
                | some channel => redirectSign (some channel)
                | none => return .word word
            | _, _ => return .word word

-- A word, which may begin with a key to which a value is given, and may end with the values of a
-- collection.
def keyed : Nat → Reading Word
  | 0 => return []
  | fuel + 1 => do
      let cursor ← get
      if cursor.dialect = .plain then parts fuel .bare
      else
        let word ←
          match keyedName? cursor.rest with
          | some name =>
              for _ in name do skip
              skip
              let key ← parts fuel (.key 0)
              let rest ← parts fuel .bare
              pure (.text false (name ++ ['[']) :: key ++ Word.cons false ']' rest)
          | none => parts fuel .bare
        match assignment? .extended word, ← peek with
        | some (.to _ _ _ []), some '(' =>
            let words ← enclosed do
              skip
              values fuel
            return word ++ [.entries words]
        | _, _ => return word

-- The words up to the bracket that closes the values of a collection.
def values : Nat → Reading (List Word)
  | 0 => return []
  | fuel + 1 => do
      match ← rawToken fuel with
      | .word word => return word :: (← values fuel)
      | .lineEnd => values fuel
      | .sign ")" => return []
      | .finish => missingPartner ")" ""
      | other => unexpected other none

-- The next token, past line ends if they do not count, and as a keyword or as what it stands for
-- where a command begins.
def token : Nat → Bool → Bool → Reading Token
  | 0, _, _ => return .finish
  | fuel + 1, skipBreaks, isFirst => do
      let pushed := (← get).pushed
      let next ←
        match pushed with
        | some token =>
            modify fun cursor => { cursor with pushed := none }
            pure token
        | none => rawToken fuel
      match next with
      | .lineEnd => if skipBreaks then token fuel skipBreaks isFirst else return .lineEnd
      | .word word =>
          match plainText? word with
          | some text =>
              let name := String.ofList text
              let cursor ← get
              if isFirst && cursor.dialect.keywords.contains name then return .keyword name
              let unfolds := isFirst || cursor.unfoldsNext
              match if pushed.isNone && unfolds then cursor.unfold? name else none with
              | some unfolded =>
                  let value := (cursor.aliases.lookup name).getD ""
                  let unfoldsNext := value.endsWith " " || value.endsWith "\t"
                  set { unfolded with unfoldsNext := false }
                  let first ← token fuel skipBreaks isFirst
                  if unfoldsNext then modify fun cursor => { cursor with unfoldsNext }
                  return first
              | none =>
                  if pushed.isNone then modify fun cursor => { cursor with unfoldsNext := false }
                  return .word word
          | none => return .word word
      | other => return other

-- The target of a redirection. The text of a document is cut out of the lines behind this one.
def target : Nat → RedirectKind → Reading Word
  | 0, _ => return []
  | fuel + 1, kind => do
      let strips ← if kind = .document then skipIf '-' else pure false
      match ← token fuel false false with
      | .word word =>
          if kind ≠ .document then return word
          else
            let cursor ← get
            let lines := cursor.rest.splitOn '\n'
            let (body, count, after) := splitDocument word.bareText strips lines.tail
            let here := (lines.head?).getD []
            let rest := if after.isEmpty then here ++ ['\n']
              else here ++ '\n' :: ['\n'].intercalate after
            let documentLines := cursor.documentLines + count
            let isEnded := endsDocument word.bareText strips lines.tail
            if cursor.dialect == .extended && !isEnded then
              let stop := cursor.line + documentLines
              let text := "here-document at line " ++ toString cursor.line ++
                " delimited by end-of-file (wanted \x60" ++ String.ofList word.bareText ++ "\x27)"
              modify fun cursor => { cursor with warnings := (stop, text) :: cursor.warnings }
            let cursor ← get
            if word.any Part.isQuoted then
              set { cursor with rest, documentLines }
              return [.text true body]
            else
              set { cursor with rest := body }
              let text ← parts fuel .document
              set { cursor with rest, documentLines }
              return text
      | other => unexpected other none

def redirects : Nat → Reading (List Redirect)
  | 0 => return []
  | fuel + 1 => do
      match ← token fuel false true with
      | .redirect channel kind =>
          let target ← target fuel kind
          return .to channel kind target :: (← redirects fuel)
      | other =>
          unread other
          return []

-- Commands in a row. The flag tells that none has come yet.
def list : Nat → Extent → Bool → Script → Reading Script
  | 0, _, _, before => return before
  | fuel + 1, extent, isFirst, before => do
      let next ← token fuel (extent ≠ .line) true
      match next with
      | .lineEnd => return before
      | .finish =>
          unread .finish
          return before
      | _ =>
          unread next
          if next.closesList && (extent = .perhaps || (extent = .block && !isFirst)) then
            return before
          let command ← joined fuel
          let after ← token fuel false false
          let command := if after.isSign "&" then .background command else command
          let before := if isFirst then command else .sequence before command
          match after with
          | .finish =>
              unread .finish
              return before
          | .lineEnd =>
              unread .lineEnd
              list fuel extent false before
          | _ =>
              if after.isSign "&" || after.isSign ";" then list fuel extent false before
              else if extent = .line then unexpected after none
              else
                unread after
                return before

-- Pipes joined by `&&` and `||`, which bind alike and to the left.
def joined : Nat → Reading Script
  | 0 => return .nothing
  | fuel + 1 => do
      let first ← pipe fuel
      joinedFrom fuel first

def joinedFrom : Nat → Script → Reading Script
  | 0, left => return left
  | fuel + 1, left => do
      let next ← token fuel false false
      if next.isSign "&&" || next.isSign "||" then
        unread (← token fuel true true)
        let right ← pipe fuel
        joinedFrom fuel (if next.isSign "&&" then .both left right else .either left right)
      else
        unread next
        return left

def pipe : Nat → Reading Script
  | 0 => return .nothing
  | fuel + 1 => do
      let next ← token fuel false true
      let isExtended ← isExtended
      if next.isKeyword "!" then
        if isExtended then return .negate (← modified fuel)
        else return .negate (← piped fuel)
      else if next.isKeyword "time" then return .timed (← modified fuel)
      else
        unread next
        piped fuel

-- A pipe behind a keyword that changes what becomes of it. There may be none at all.
def modified : Nat → Reading Script
  | 0 => return .nothing
  | fuel + 1 => do
      let next ← token fuel false true
      unread next
      match next with
      | .lineEnd | .finish | .sign ";" => return .nothing
      | _ => pipe fuel

def piped : Nat → Reading Script
  | 0 => return .nothing
  | fuel + 1 => do
      let source ← command fuel
      let line := (← get).line
      let next ← token fuel false false
      if next.isSign "|" then
        unread (← token fuel true true)
        return .pipe source (← piped fuel)
      else if next.isSign "|&" then
        unread (← token fuel true true)
        let source : Script := .group line source [.to 2 .duplicate [.text false ['1']]]
        return .pipe source (← piped fuel)
      else
        unread next
        return source

def expect : Nat → Token → Reading Unit
  | 0, _ => return ()
  | fuel + 1, expected => do
      let next ← token fuel false true
      if next.text != expected.text then unexpected next (some expected)

def command : Nat → Reading Script
  | 0 => return .nothing
  | fuel + 1 => do
      let next ← token fuel false true
      let line := (← get).line
      let block : Reading Script := list fuel .block true .nothing
      let withRedirects (body : Script) : Reading Script := do
        let redirects ← redirects fuel
        return if redirects.isEmpty then body else .group line body redirects
      match next with
      | .keyword "if" => withRedirects (← choice fuel)
      | .keyword "while" | .keyword "until" =>
          let condition ← block
          expect fuel (.keyword "do")
          let body ← block
          expect fuel (.keyword "done")
          withRedirects (.loop (next.isKeyword "until") condition body)
      | .keyword "for" => withRedirects (← each fuel line)
      | .keyword "case" => withRedirects (← select fuel line)
      | .keyword "[[" =>
          let before := (← get).hasGroups
          modify fun cursor => { cursor with hasGroups := true }
          let condition ← enclosed (anyCondition fuel)
          modify fun cursor => { cursor with hasGroups := before }
          withRedirects (.condition line condition)
      | .keyword "function" =>
          match ← token fuel false false with
          | .word word =>
              match plainText? word with
              | some name =>
                  let open? ← token fuel true true
                  if open?.isSign "(" then
                    expect fuel (.sign ")")
                    unread (← token fuel true true)
                  else unread open?
                  return .function (String.ofList name) (← body fuel)
              | none => unexpected (.word word) none
          | other => unexpected other none
      | .sign "(" =>
          let cursor ← get
          match cursor.dialect, cursor.rest with
          | .extended, '(' :: rest =>
              if closesTwice 0 rest then
                let expression ← enclosed do
                  skip
                  parts fuel (.arithmetic 0)
                return ← withRedirects (.reckoning line expression)
          | _, _ => pure ()
          let body ← block
          expect fuel (.sign ")")
          return .subshell line body (← redirects fuel)
      | .keyword "\x7b" =>
          let body ← block
          expect fuel (.keyword "\x7d")
          withRedirects body
      | .word _ | .redirect .. =>
          unread next
          simple fuel line [] [] []
      | _ => unexpected next none

def anyCondition : Nat → Reading Condition
  | 0 => return .word []
  | fuel + 1 => do
      let first ← allConditions fuel
      let next ← conditionToken fuel
      if next.isSign "||" then return .either first (← anyCondition fuel)
      else if isConditionEnd next then return first
      else
        unread next
        return first

def allConditions : Nat → Reading Condition
  | 0 => return .word []
  | fuel + 1 => do
      let first ← singleCondition fuel
      let next ← conditionToken fuel
      if next.isSign "&&" then return .both first (← allConditions fuel)
      else
        unread next
        return first

-- The next token of a condition. Line ends do not count.
def conditionToken : Nat → Reading Token
  | 0 => return .finish
  | fuel + 1 => do
      match ← token fuel true false with
      | .finish =>
          let cursor ← get
          let text := "unexpected EOF while looking for \x60]]\x27"
          let messages := [(cursor.openLine, text), (cursor.lastLine, endMessage)]
          throw ⟨cursor.openLine, messages, false, 2⟩
      | other => return other

def singleCondition : Nat → Reading Condition
  | 0 => return .word []
  | fuel + 1 => do
      match ← conditionToken fuel with
      | .sign "(" =>
          let inside ← anyCondition fuel
          let next ← conditionToken fuel
          if !next.isSign ")" then wrongCondition next "expected \x60)\x27"
          return inside
      | .word first =>
          let text := String.ofList ((plainText? first).getD [])
          if text = "!" then return .negate (← singleCondition fuel)
          else if text = "]]" then unexpected (.word first) none
          else
            let next ← conditionToken fuel
            match next with
            | .word second =>
                let other := String.ofList ((plainText? second).getD [])
                if unaryConditions.contains text && other != "]]" then
                  return .unary text second
                else if other = "]]" then
                  if unaryConditions.contains text then
                    wrongCondition next
                      "unexpected argument \x60]]\x27 to conditional unary operator"
                  else
                    unread next
                    return .word first
                else if binaryConditions.contains other then
                  let right ← if other = "=~" then conditionPattern fuel else operand fuel
                  return .binary other first right
                else wrongCondition next "conditional binary operator expected"
            | .redirect _ kind =>
                let operator := if kind = .input then "<" else ">"
                return .binary operator first (← operand fuel)
            | _ =>
                unread next
                return .word first
      | other => unexpected other none

def operand : Nat → Reading Word
  | 0 => return []
  | fuel + 1 => do
      let next ← conditionToken fuel
      match next with
      | .word word =>
          if plainText? word = some [']', ']'] then
            wrongCondition next "unexpected argument \x60]]\x27 to conditional binary operator"
          else return word
      | _ => unexpected next none

-- A pattern in which brackets and bars do not end the word.
def conditionPattern : Nat → Reading Word
  | 0 => return []
  | fuel + 1 => do
      skipIdle ((← get).rest.length + 1)
      parts fuel (.pattern 0)

def choice : Nat → Reading Script
  | 0 => return .nothing
  | fuel + 1 => do
      let condition ← list fuel .block true .nothing
      expect fuel (.keyword "then")
      let yes ← list fuel .block true .nothing
      let next ← token fuel false true
      if next.isKeyword "elif" then return .choice condition yes (← choice fuel)
      else if next.isKeyword "else" then
        let no ← list fuel .block true .nothing
        expect fuel (.keyword "fi")
        return .choice condition yes no
      else
        unread next
        expect fuel (.keyword "fi")
        return .choice condition yes .nothing

def words : Nat → Reading (List Word)
  | 0 => return []
  | fuel + 1 => do
      match ← token fuel false false with
      | .word word => return word :: (← words fuel)
      | .lineEnd => return []
      | .sign ";" => return []
      | other => unexpected other none

-- What follows `for`. Without words the arguments of the script are meant.
def each : Nat → Nat → Reading Script
  | 0, _ => return .nothing
  | fuel + 1, line => do
      let isExtended ← isExtended
      if isExtended then skipIdle ((← get).rest.length + 1)
      let begun := (← get).rest
      if isExtended && ['(', '('].isPrefixOf begun then
        let expression ← enclosed do
          skip
          skip
          parts fuel (.arithmetic 0)
        let (start, others) := cutWord ';' expression
        let (condition, last) := cutWord ';' (others.getD [])
        match others, last with
        | some _, some next =>
            let after ← token fuel true true
            if !after.isSign ";" then unread after
            return .counting line start condition next (← loopBody fuel)
        | _, _ =>
            let after ← get
            let text := String.ofList (begun.take (begun.length - after.rest.length))
            let second := "syntax error: \x60" ++ text ++ "\x27"
            let first := "syntax error: arithmetic expression required"
            throw ⟨after.line, [(after.line, first), (after.line, second)], false, 2⟩
      else
        let word ← token fuel false false
        let name? :=
          match word with
          | .word word => (plainText? word).filter isName
          | _ => none
        match name? with
        | none => if isExtended then unexpected word none else fail "Bad for loop variable"
        | some name =>
            let next ← token fuel true true
            let arguments : Part := if isExtended then .chosen true (.name "@") .plain
              else .parameter true "@" .plain
            let values ←
              if next.isKeyword "in" then words fuel
              else
                if !next.isSign ";" then unread next
                pure [[arguments]]
            return .each line (String.ofList name) values (← loopBody fuel)

-- The commands of a loop between keywords, or between braces.
def loopBody : Nat → Reading Script
  | 0 => return .nothing
  | fuel + 1 => do
      let start ← token fuel true true
      let isExtended ← isExtended
      if start.isKeyword "\x7b" && isExtended then
        let body ← list fuel .block true .nothing
        expect fuel (.keyword "\x7d")
        return body
      else
        if !start.isKeyword "do" then unexpected start (some (.keyword "do"))
        let body ← list fuel .block true .nothing
        expect fuel (.keyword "done")
        return body

def select : Nat → Nat → Reading Script
  | 0, _ => return .nothing
  | fuel + 1, line => do
      match ← token fuel false false with
      | .word word =>
          let next ← token fuel true true
          if !next.isKeyword "in" then unexpected next (some (.keyword "in"))
          return .select line word (← branches fuel)
      | other => unexpected other (some (.word []))

-- The patterns of one branch, the first of which has been read, up to the bracket behind them.
def patterns : Nat → Token → Reading (List Word)
  | 0, _ => return []
  | fuel + 1, first => do
      let word : Word :=
        match first with
        | .word word => word
        | .keyword name => [.text false name.toList]
        | _ => []
      let next ← token fuel false false
      if next.isSign "|" then
        let other ← token fuel false false
        return word :: (← patterns fuel other)
      else if next.isSign ")" then return [word]
      else unexpected next (some (.sign ")"))

def branches : Nat → Reading (List (List Word × Script × Continuation))
  | 0 => return []
  | fuel + 1 => do
      let first ← token fuel true true
      if first.isKeyword "esac" then return []
      let first ← if first.isSign "(" then token fuel false false else pure first
      let patterns ← patterns fuel first
      let body ← list fuel .perhaps true .nothing
      let next ← token fuel true true
      if next.isKeyword "esac" then return [(patterns, body, .stop)]
      else
        match next with
        | .sign ";;" => return (patterns, body, .stop) :: (← branches fuel)
        | .sign ";&" => return (patterns, body, .proceed) :: (← branches fuel)
        | .sign ";;&" => return (patterns, body, .compare) :: (← branches fuel)
        | _ => unexpected next (some (.sign ";;"))

-- A command of words and redirections, or the definition of a function. What was read comes in
-- reverse order.
def simple : Nat → Nat → List Assignment → List Word → List Redirect → Reading Script
  | 0, _, _, _, _ => return .nothing
  | fuel + 1, line, assignments, found, redirects => do
      -- Behind assignments a command begins as well.
      if found.isEmpty && (← get).pushed.isNone then
        modify fun cursor => { cursor with unfoldsNext := true }
      let next ← token fuel false false
      let dialect := (← get).dialect
      -- In the extended dialect a command stands where its second part does.
      let line ← match dialect, assignments.length + found.length + redirects.length with
        | .extended, 1 => pure ((← get).line - if next matches .lineEnd then 1 else 0)
        | _, _ => pure line
      match next with
      | .word word =>
          match if found.isEmpty then assignment? dialect word else none with
          | some assignment => simple fuel line (assignment :: assignments) found redirects
          | none => simple fuel line assignments (word :: found) redirects
      | .redirect channel kind =>
          let target ← target fuel kind
          simple fuel line assignments found (.to channel kind target :: redirects)
      | _ =>
          match next.isSign "(", found, assignments, redirects with
          | true, [word], [], [] => function fuel word
          | _, _, _, _ =>
              unread next
              return .simple line assignments.reverse found.reverse redirects.reverse

-- The rest of the definition of a function, behind the opening bracket.
def function : Nat → Word → Reading Script
  | 0, _ => return .nothing
  | fuel + 1, word => do
      let close ← token fuel false false
      if !close.isSign ")" then unexpected close (some (.sign ")"))
      let isExtended ← isExtended
      match (plainText? word).filter fun name => isExtended || isName name with
      | none => fail "Bad function name"
      | some name =>
          if !isExtended && specialBuiltins.contains (String.ofList name) then
            fail "Bad function name"
          unread (← token fuel true true)
          return .function (String.ofList name) (← body fuel)

-- The commands of a function. The extended dialect wants signs around them.
def body : Nat → Reading Script
  | 0 => return .nothing
  | fuel + 1 => do
      if ← isExtended then
        let next ← token fuel true true
        if next matches .word _ | .redirect .. then unexpected next none
        unread next
      command fuel

end

-- Enough for any text of a length: a character is looked at by a few nested steps only.
def fuelFor (text : List Char) : Nat :=
  12 * text.length + 100

end Reading

-- Reads the commands of one line. At the end of the text there are none.
def Cursor.nextLine (cursor : Cursor) : Except SyntaxFault (Option Script × Cursor) :=
  let step : Reading (Option Script) := do
    let fuel := Reading.fuelFor cursor.rest
    match ← Reading.token fuel false true with
    | .finish => return none
    | .lineEnd => return some .nothing
    | first =>
        Reading.unread first
        return some (← Reading.list fuel .line true .nothing)
  step.run cursor

end MakeCheck.Shell
