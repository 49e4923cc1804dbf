import MakeCheck.Shell.Extension

namespace MakeCheck.Shell

-- Where a shell takes its script from.
inductive Source where
  | script (name text : String) (arguments : List String)
  | file (name : String) (arguments : List String)
  | input (name : String) (arguments : List String)
  | wrong (message : String)
  -- A text is told instead, as an error or not, and the shell ends with a status.
  | told (isError : Bool) (text : String) (status : Nat)

-- Reads the options of a shell and chooses its script. The letter c asks for a text, the letter s
-- for the input.
def Source.ofArguments (name : String) (arguments : List String) : Source × Options :=
  match readOptions true arguments .standard with
  | .error message => (.wrong message, .standard)
  | .ok reading =>
      let words := reading.words.getD []
      match words, reading.asksText with
      | [], true => (.wrong "-c requires an argument", reading.options)
      | [], false => (.input name [], reading.options.turn true "stdin")
      | text :: own :: rest, true => (.script own text rest, reading.options)
      | [text], true => (.script name text [], reading.options)
      | first :: rest, false =>
          if reading.options.has "stdin" then (.input name words, reading.options)
          else (.file first rest, reading.options)

-- What a shell of the extended dialect is asked for in front of its script.
structure Request where
  options : Options
  asksText : Bool
  -- Tables of options that are to be shown.
  tables : List String
  words : List String

def longOptions : List String :=
  ["--debugger", "--login", "--noediting", "--noprofile", "--norc", "--posix", "--pretty-print",
    "--restricted", "--verbose"]

def shellUsage : String :=
  "Usage:\tbash [GNU long option] [option] ...\n" ++
    "\tbash [GNU long option] [option] script-file ...\n" ++
    "GNU long options:\n" ++
    String.join (["debug", "debugger", "dump-po-strings", "dump-strings", "help", "init-file",
      "login", "noediting", "noprofile", "norc", "posix", "pretty-print", "rcfile", "restricted",
      "verbose", "version"].map fun name => "\t--" ++ name ++ "\n") ++
    "Shell options:\n" ++
    "\t-ilrsD or -c command or -O shopt_option\t\t(invocation only)\n" ++
    "\t-abefhkmnptuvxBCEHPT or -o option\n"

namespace Request

-- Reads the letters of one word. Two of them take a name from the words behind it.
def readLetters (own word : String) (on : Bool) : List Char → Request → Except String Request
  | [], request => .ok request
  | letter :: letters, request =>
      let go (options : Options) (words : List String) : Except String Request :=
        readLetters own word on letters { request with options, words }
      let options := request.options
      match letter, request.words with
      | 'c', _ => readLetters own word on letters { request with asksText := true }
      | 's', words => go (options.turn true "stdin") words
      | 'i', words | 'l', words | 'r', words | 'D', words => go options words
      | 'o', [] =>
          readLetters own word on letters
            { request with tables := request.tables ++ [optionTable options (!on)] }
      | 'o', name :: words =>
          if (Options.knownExtended.lookup name).isSome then go (options.turn on name) words
          else .error (own ++ ": line 0: " ++ own ++ ": " ++ name ++ ": invalid option name\n")
      | 'O', [] =>
          let lines := Options.switches.map fun (name, _) =>
            switchLine (!on) name (options.isSwitched name)
          readLetters own word on letters
            { request with tables := request.tables ++ [String.join lines] }
      | 'O', name :: words =>
          if (Options.switches.lookup name).isSome then go (options.switch on name) words
          else .error (own ++ ": line 0: " ++ name ++ ": invalid shell option name\n")
      | letter, words =>
          match Options.knownExtended.find? fun entry => entry.2 == some letter with
          | some (name, _) => go (options.turn on name) words
          | none => .error (own ++ ": " ++ word ++ ": invalid option\n" ++ shellUsage)

-- Reads the options in front. The first argument bounds the words.
def read (own : String) : Nat → Request → Except String Request
  | 0, request => .ok request
  | fuel + 1, request =>
      match request.words with
      | [] => .ok request
      | word :: words =>
          let rest := { request with words }
          match word.toList with
          | ['-'] | ['-', '-'] => .ok rest
          | '-' :: '-' :: _ =>
              if word = "--rcfile" ∨ word = "--init-file" then
                read own fuel { rest with words := words.drop 1 }
              else if longOptions.contains word then
                let name := (word.drop 2).toString
                let options := if name = "posix" ∨ name = "verbose" then rest.options.turn true name
                  else rest.options
                read own fuel { rest with options }
              else .error (own ++ ": " ++ word ++ ": invalid option\n" ++ shellUsage)
          | sign :: letter :: letters =>
              if sign = '-' ∨ sign = '+' then do
                let after ← readLetters own (String.ofList [sign, letter]) (sign == '-')
                  (letter :: letters) rest
                read own fuel after
              else .ok request
          | _ => .ok request

end Request

-- Reads the options of a shell of the extended dialect and chooses its script.
def Source.ofWideArguments (own : String) (arguments : List String) : Source × Options :=
  let start : Request := ⟨Options.extended, false, [], arguments⟩
  match start.read own arguments.length with
  | .error text => (.told true text 2, start.options)
  | .ok request =>
      let options := request.options
      if !request.tables.isEmpty then (.told false (String.join request.tables) 0, options)
      else
        match request.words, request.asksText with
        | [], true => (.told true (own ++ ": -c: option requires an argument\n") 2, options)
        | [], false => (.input own [], options.turn true "stdin")
        | text :: name :: rest, true => (.script name text rest, options.turn true "text")
        | [text], true => (.script own text [], options.turn true "text")
        | first :: rest, false =>
            if options.has "stdin" then (.input own request.words, options)
            else (.file first rest, options)

end MakeCheck.Shell
