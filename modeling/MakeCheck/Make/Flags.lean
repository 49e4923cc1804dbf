import MakeCheck.Make.Workshop

namespace MakeCheck.Make

open Text Program

-- What goes with an option: nothing, a word, what is written right behind it, or a number that may
-- also be the next word.
inductive Companion where
  | nothing
  | word
  | attached
  | number
deriving DecidableEq

-- An option by its letter, its long names, and what goes with it.
structure FlagKind where
  letter : Char
  names : List String
  companion : Companion

-- Options without a letter of their own have one that cannot be written.
def flagKinds : List FlagKind :=
  [⟨'b', [], .nothing⟩, ⟨'B', ["always-make"], .nothing⟩, ⟨'d', [], .nothing⟩,
    ⟨'e', ["environment-overrides"], .nothing⟩, ⟨'E', ["eval"], .word⟩, ⟨'h', ["help"], .nothing⟩,
    ⟨'i', ["ignore-errors"], .nothing⟩, ⟨'k', ["keep-going"], .nothing⟩,
    ⟨'L', ["check-symlink-times"], .nothing⟩, ⟨'m', [], .nothing⟩,
    ⟨'n', ["just-print", "dry-run", "recon"], .nothing⟩, ⟨'p', ["print-data-base"], .nothing⟩,
    ⟨'q', ["question"], .nothing⟩, ⟨'r', ["no-builtin-rules"], .nothing⟩,
    ⟨'R', ["no-builtin-variables"], .nothing⟩, ⟨'s', ["silent", "quiet"], .nothing⟩,
    ⟨'S', ["no-keep-going", "stop"], .nothing⟩, ⟨'t', ["touch"], .nothing⟩,
    ⟨'v', ["version"], .nothing⟩, ⟨'w', ["print-directory"], .nothing⟩,
    ⟨'C', ["directory"], .word⟩, ⟨'f', ["file", "makefile"], .word⟩,
    ⟨'I', ["include-dir"], .word⟩, ⟨'j', ["jobs"], .number⟩,
    ⟨'l', ["load-average", "max-load"], .number⟩, ⟨'o', ["old-file", "assume-old"], .word⟩,
    ⟨'O', ["output-sync"], .attached⟩, ⟨'W', ["what-if", "new-file", "assume-new"], .word⟩,
    ⟨'\x01', ["debug"], .attached⟩, ⟨'\x02', ["jobserver-auth"], .word⟩,
    ⟨'\x03', ["trace"], .nothing⟩, ⟨'\x04', ["no-print-directory"], .nothing⟩,
    ⟨'\x05', ["warn-undefined-variables"], .nothing⟩, ⟨'\x06', ["sync-mutex"], .word⟩,
    ⟨'\x07', ["no-silent"], .nothing⟩]

-- A word of the command line, as far as it is understood.
inductive Item where
  | flag (letter : Char) (value : Option String)
  | operand (word : String)
  | wrong (message : String)
deriving DecidableEq

-- Whether the next word is a number that goes with an option before it.
def isNumberNext (words : List String) : Bool :=
  (words.head?.bind fun word => word.toList.head?).any Char.isDigit

-- The items of a word of letters. The last one may wait for the next word, of which it is told how
-- many there are.
def letterItems (rest : List String) : List Char → List Item × Nat
  | [] => ([], 0)
  | letter :: letters =>
      match flagKinds.find? fun kind => kind.letter == letter && ' ' ≤ letter with
      | none =>
          let (items, used) := letterItems rest letters
          (.wrong ("invalid option -- '" ++ letter.toString ++ "'") :: items, used)
      | some kind =>
          let attached := if letters.isEmpty then none else some (String.ofList letters)
          match kind.companion with
          | .nothing =>
              let (items, used) := letterItems rest letters
              (.flag letter none :: items, used)
          | .attached => ([.flag letter attached], 0)
          | .number =>
              if attached.isNone && isNumberNext rest then ([.flag letter rest.head?], 1)
              else ([.flag letter attached], 0)
          | .word =>
              if attached.isSome then ([.flag letter attached], 0)
              else if rest.isEmpty then
                ([.wrong ("option requires an argument -- '" ++ letter.toString ++ "'")], 0)
              else ([.flag letter rest.head?], 1)

def flagOfName (name : String) : Except String FlagKind :=
  let fitting := flagKinds.filter fun kind => kind.names.any (name.isPrefixOf ·)
  match fitting.find? fun kind => kind.names.contains name, fitting with
  | some kind, _ => .ok kind
  | none, [] => .error ("unrecognized option '--" ++ name ++ "'")
  | none, [kind] => .ok kind
  | none, several =>
      let possible := several.flatMap fun kind => kind.names.filter (name.isPrefixOf ·)
      .error ("option '--" ++ name ++ "' is ambiguous; possibilities:" ++
        String.join (possible.map fun name => " '--" ++ name ++ "'"))

def nameItem (text : List Char) (rest : List String) : Item × Nat :=
  let name := text.takeWhile (· != '=')
  let attached := if name.length < text.length then
      some (String.ofList (text.drop (name.length + 1))) else none
  match flagOfName (String.ofList name) with
  | .error message => (.wrong message, 0)
  | .ok kind =>
      let shown := kind.names.find? (String.ofList name).isPrefixOf
      match kind.companion, attached with
      | .nothing, some _ =>
          (.wrong ("option '--" ++ shown.getD "" ++ "' doesn't allow an argument"), 0)
      | .word, none =>
          if rest.isEmpty then
            (.wrong ("option '--" ++ shown.getD "" ++ "' requires an argument"), 0)
          else (.flag kind.letter rest.head?, 1)
      | .number, none =>
          if isNumberNext rest then (.flag kind.letter rest.head?, 1)
          else (.flag kind.letter none, 0)
      | _, attached => (.flag kind.letter attached, 0)

-- The items of the words of a command line. Two hyphens end the options. The first number is of
-- words that belong to an item before them.
def itemsOf : Nat → List String → List Item
  | _, [] => []
  | count + 1, _ :: rest => itemsOf count rest
  | 0, word :: rest =>
      match word.toList with
      | ['-', '-'] => rest.map .operand
      | '-' :: '-' :: text =>
          let (item, used) := nameItem text rest
          item :: itemsOf used rest
      | '-' :: letter :: letters =>
          let (items, used) := letterItems rest (letter :: letters)
          items ++ itemsOf used rest
      | _ => .operand word :: itemsOf 0 rest

namespace Settings

def turn (settings : Settings) (letter : Char) (value : Option String) : Settings :=
  let text := value.getD ""
  match letter with
  | 'B' => { settings with makesAll := true }
  | 'e' => { settings with environmentFirst := true }
  | 'E' => { settings with evaluated := settings.evaluated ++ [text] }
  | 'i' => { settings with ignoresErrors := true }
  | 'k' => { settings with goesOn := true }
  | 'n' => { settings with showsOnly := true }
  | 'q' => { settings with questions := true }
  | 'r' => { settings with lacksRules := true }
  | 'R' => { settings with lacksRules := true, lacksVariables := true }
  | 's' => { settings with isSilent := true }
  | 'S' => { settings with goesOn := false }
  | 't' => { settings with touches := true }
  | 'w' => { settings with showsDirectory := true }
  | 'C' => { settings with directories := settings.directories ++ [text] }
  | 'f' => { settings with makefiles := settings.makefiles ++ [text] }
  | 'I' => { settings with includes := settings.includes ++ [text] }
  | 'j' => { settings with jobs := some text }
  | 'l' => { settings with load := some text }
  | 'o' => { settings with old := settings.old ++ [text] }
  | 'O' => { settings with grouping := some (value.getD "target") }
  | 'W' => { settings with new := settings.new ++ [text] }
  | '\x03' => { settings with traces := true }
  | '\x04' => { settings with hidesDirectory := true }
  | '\x05' => { settings with warnsUndefined := true }
  | '\x07' => { settings with isSilent := false }
  | _ => settings

def fault? (letter : Char) (value : Option String) : Option String :=
  if letter = 'j' ∧ value.any (fun text => text.toNat?.all (· == 0)) then
    some "the '-j' option requires a positive integer argument"
  else none

-- The letters of the options that commands are told of.
def letters (settings : Settings) : List Char :=
  let entries : List (Bool × Char) :=
    [(settings.makesAll, 'B'), (settings.environmentFirst, 'e'), (settings.ignoresErrors, 'i'),
      (settings.goesOn, 'k'), (settings.showsOnly, 'n'), (settings.questions, 'q'),
      (settings.lacksRules, 'r'), (settings.lacksVariables, 'R'), (settings.isSilent, 's'),
      (settings.touches, 't'), (settings.showsDirectory && !settings.hidesDirectory, 'w')]
  (entries.filter (·.1)).map (·.2)

end Settings

-- A text in which blanks and backslashes stand behind a backslash, and dollar signs are doubled.
def quotedForFlags (text : List Char) : List Char :=
  text.flatMap fun c =>
    if c = '$' then ['$', '$']
    else if isBlank c ∨ c = '\\' then ['\\', c]
    else [c]

def Settings.longFlags (settings : Settings) : List String :=
  let named (name : String) (values : List String) : List String := values.map (name ++ ·)
  named "--eval=" (settings.evaluated.map fun text =>
      String.ofList (quotedForFlags text.toList)) ++
    named "-I" settings.includes ++ named "-j" settings.jobs.toList ++
    named "-l" settings.load.toList ++ named "-O" settings.grouping.toList ++
    (if settings.jobs.any fun text => text != "" && text != "1" then ["--jobserver-auth=3,4"]
      else []) ++
    (if settings.traces then ["--trace"] else []) ++
    (if settings.hidesDirectory then ["--no-print-directory"] else []) ++
    if settings.warnsUndefined then ["--warn-undefined-variables"] else []

-- The options as commands are told of them, first their letters without a hyphen.
def Settings.flagText (settings : Settings) : String :=
  let letters := String.ofList settings.letters
  letters ++ String.join (settings.longFlags.map (" " ++ ·))

def Settings.flagWords (settings : Settings) : String :=
  let letters := settings.letters
  " ".intercalate ((if letters.isEmpty then [] else [String.ofList ('-' :: letters)]) ++
    settings.longFlags)

-- The words of a text that tells of options. A backslash keeps its next character as it is.
def flagWordsIn : Option (List Char) → List Char → List (List Char)
  | open?, [] => open?.toList.map List.reverse
  | open?, ['\\'] => [('\\' :: open?.getD []).reverse]
  | open?, '\\' :: c :: rest => flagWordsIn (some (c :: open?.getD [])) rest
  | open?, c :: rest =>
      if isBlank c then open?.toList.map List.reverse ++ flagWordsIn none rest
      else flagWordsIn (some (c :: open?.getD [])) rest

-- The items that a text tells of. Its first word may lack its hyphen.
def itemsOfText (text : List Char) : List Item :=
  match (flagWordsIn none text).map String.ofList with
  | [] => []
  | first :: rest =>
      let isBare := !first.startsWith "-" && !first.toList.contains '='
      itemsOf 0 ((if isBare then "-" ++ first else first) :: rest)

end MakeCheck.Make
