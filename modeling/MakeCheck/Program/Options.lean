namespace MakeCheck.Program

-- An option that a program knows by a letter and by a long name.
structure OptionKind where
  letter : Char
  name : String
  takesValue : Bool

def plain (letter : Char) (name : String) : OptionKind :=
  ⟨letter, name, false⟩

def valued (letter : Char) (name : String) : OptionKind :=
  ⟨letter, name, true⟩

-- What the arguments of a program give: options in their order, each with its value, and operands.
structure Given where
  options : List (Char × String)
  operands : List String

namespace Given

def has (given : Given) (letter : Char) : Bool :=
  given.options.any fun entry => entry.1 == letter

def value? (given : Given) (letter : Char) : Option String :=
  given.options.reverse.lookup letter

def values (given : Given) (letter : Char) : List String :=
  given.options.filterMap fun entry => if entry.1 = letter then some entry.2 else none

def addOption (given : Given) (letter : Char) (value : String) : Given :=
  { given with options := (letter, value) :: given.options }

def addOperand (given : Given) (word : String) : Given :=
  { given with operands := word :: given.operands }

end Given

-- The options of a word of letters. The last one may take its value from the next word, which the
-- flag asks for.
def readLetters (known : List OptionKind) : List Char →
    Except String (List (Char × String) × Option Char)
  | [] => .ok ([], none)
  | letter :: rest =>
      match known.find? fun kind => kind.letter == letter with
      | none => .error ("invalid option -- '" ++ letter.toString ++ "'")
      | some kind =>
          if !kind.takesValue then
            (readLetters known rest).map fun (found, open?) => ((letter, "") :: found, open?)
          else if rest.isEmpty then .ok ([], some letter)
          else .ok ([(letter, String.ofList rest)], none)

-- The option that a long name stands for. It may be cut short as long as it is clear.
def longOption (known : List OptionKind) (name : String) : Except String OptionKind :=
  let exact := known.filter fun kind => kind.name == name
  let close := known.filter fun kind => name.isPrefixOf kind.name && kind.name != ""
  match exact ++ close with
  | [] => .error ("unrecognized option '--" ++ name ++ "'")
  | [kind] => .ok kind
  | kind :: _ =>
      if !exact.isEmpty then .ok kind
      else
        .error ("option '--" ++ name ++ "' is ambiguous; possibilities:" ++
          String.join (close.map fun kind => " '--" ++ kind.name ++ "'"))

-- Reads arguments. Two hyphens end the options. The flag tells whether options may stand behind
-- operands.
def readWords (mixed : Bool) (known : List OptionKind) : List String → Except String Given
  | [] => .ok ⟨[], []⟩
  | word :: rest =>
      match word.toList with
      | ['-', '-'] => .ok ⟨[], rest⟩
      | '-' :: '-' :: text => do
          let name := text.takeWhile (· != '=')
          let kind ← longOption known (String.ofList name)
          match kind.takesValue, text.drop name.length with
          | false, [] => return (← readWords mixed known rest).addOption kind.letter ""
          | false, _ => throw ("option '--" ++ kind.name ++ "' doesn't allow an argument")
          | true, _ :: value =>
              return (← readWords mixed known rest).addOption kind.letter (String.ofList value)
          | true, [] =>
              match rest with
              | value :: after =>
                  return (← readWords mixed known after).addOption kind.letter value
              | [] => throw ("option '--" ++ kind.name ++ "' requires an argument")
      | '-' :: letter :: letters => do
          let (found, open?) ← readLetters known (letter :: letters)
          match open? with
          | none =>
              let given ← readWords mixed known rest
              return { given with options := found ++ given.options }
          | some letter =>
              match rest with
              | value :: after =>
                  let given ← readWords mixed known after
                  return { given with options := found ++ (letter, value) :: given.options }
              | [] => throw ("option requires an argument -- '" ++ letter.toString ++ "'")
      | _ =>
          if mixed then return (← readWords mixed known rest).addOperand word
          else return ⟨[], word :: rest⟩

def readArguments (known : List OptionKind) (arguments : List String) : Except String Given :=
  readWords true known arguments

-- Reads the options in front of the first operand only.
def readLeading (known : List OptionKind) (arguments : List String) : Except String Given :=
  readWords false known arguments

end MakeCheck.Program
