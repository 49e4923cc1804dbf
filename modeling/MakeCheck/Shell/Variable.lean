import MakeCheck.Shell.Fields
import MakeCheck.Shell.Signal

namespace MakeCheck.Shell

open Text

def givenValue (argument : String) : String × Option String :=
  match argument.toList.splitOn '=' with
  | name :: first :: rest =>
      (String.ofList name, some (String.ofList (['='].intercalate (first :: rest))))
  | _ => (argument, none)

-- The letters of the options at the front of the arguments, if the command knows them all, and the
-- rest of the arguments.
def letterOptions (known : List Char) : List String → Except Char (List Char × List String)
  | [] => .ok ([], [])
  | word :: rest =>
      match word.toList with
      | '-' :: letter :: letters =>
          if word = "--" then .ok ([], rest)
          else
            match (letter :: letters).find? fun c => !known.contains c with
            | some c => .error c
            | none => (letterOptions known rest).map fun (found, words) =>
                (letter :: letters ++ found, words)
      | _ => .ok ([], word :: rest)

-- Goes on with the options and the other arguments, or complains about an unknown option.
def Step.withOptions (step : Step) (known : List Char) (arguments : List String)
    (further : List Char → List String → Step) : Step :=
  match letterOptions known arguments with
  | .error letter => step.fail ("Illegal option -" ++ letter.toString)
  | .ok (letters, words) => further letters words

def listVariables (mark : String) (names : List String) (step : Step) : Step :=
  let sorted := names.mergeSort fun a b => a ≤ b
  let shown := sorted.map fun name =>
    match step.process.value? name with
    | some value => mark ++ name ++ "=" ++ quotedText value ++ "\n"
    | none => mark ++ name ++ "\n"
  step.say (String.join shown)

-- Names with or without values, each of which is treated further.
def declare (arguments : List String) (further : Process → String → Process) (step : Step) : Step :=
  arguments.foldl
    (fun (step : Step) argument =>
      let (name, value) := givenValue argument
      if !step.isGoing then step
      else if !isName name.toList then step.fail (name ++ ": bad variable name")
      else
        let assigned :=
          match value with
          | some value => step.assign name value
          | none => step
        { assigned with process := further assigned.process name })
    (step.withStatus 0)

def exportNames (arguments : List String) (step : Step) : Step :=
  step.withOptions ['p'] arguments fun _ words =>
    if words.isEmpty then listVariables "export " step.process.exported step
    else declare words Process.expose step

def makeConstant (arguments : List String) (step : Step) : Step :=
  step.withOptions ['p'] arguments fun _ words =>
    if words.isEmpty then listVariables "readonly " step.process.constant.eraseDups step
    else
      declare words (fun process name => { process with constant := name :: process.constant }) step

-- Keeps what the variables were until the function ends.
def makeLocal (arguments : List String) (step : Step) : Step :=
  match step.process.locals with
  | [] => step.fail "not in a function"
  | frame :: frames =>
      let names := arguments.map fun argument => (givenValue argument).1
      let frame := names.map step.process.outer ++ frame
      declare arguments (fun process _ => process)
        { step with process := { step.process with locals := frame :: frames } }

def unsetNames (arguments : List String) (step : Step) : Step :=
  step.withOptions ['f', 'v'] arguments fun letters names =>
    if letters.contains 'f' then
      let functions := step.process.functions.filter fun entry => !names.contains entry.1
      { step with process := { step.process with functions } }.withStatus 0
    else
      (names.map fun name => (givenValue name).1).foldl
        (fun (step : Step) name =>
          if !step.isGoing then step
          else if !isName name.toList then step.fail (name ++ ": bad variable name")
          else if step.process.constant.contains name then step.fail (name ++ ": is read only")
          else { step with process := step.process.unset name })
        (step.withStatus 0)

-- The bytes of a line, where a backslash quotes the next one and joins lines, and how many bytes it
-- takes with its break. The flag tells whether it has one.
structure ReadLine where
  bytes : List (UInt8 × Bool)
  size : Nat
  isEnded : Bool

-- Reads a line. What was read before comes in reverse order.
def joinLine (raw : Bool) (before : List (UInt8 × Bool)) (size : Nat) : List UInt8 → ReadLine
  | [] => ⟨before.reverse, size, false⟩
  | 10 :: _ => ⟨before.reverse, size + 1, true⟩
  | 92 :: byte :: rest =>
      if raw then joinLine raw ((92, false) :: before) (size + 1) (byte :: rest)
      else if byte = 10 then joinLine raw before (size + 2) rest
      else joinLine raw ((byte, true) :: before) (size + 2) rest
  | byte :: rest =>
      joinLine raw (if byte = 0 then before else (byte, false) :: before) (size + 1) rest
termination_by bytes => bytes.length

-- The characters that bytes spell. One that takes several bytes is quoted if the first of them is.
def markedChars (bytes : List (UInt8 × Bool)) : Marked :=
  if bytes.all fun entry => entry.1 < 128 then
    bytes.map fun entry => (Char.ofNat entry.1.toNat, entry.2)
  else
    let groups := bytes.splitBy fun a b => a.2 == b.2
    groups.flatMap fun group =>
      Marked.ofText (group.head?.any (·.2)) (Utf8.decodeLossy (group.map (·.1))).toList

-- Takes one line of the input. The last name gets all that the others leave.
def readInto (raw : Bool) (names : List String) (step : Step) : Step :=
  match step.input? with
  | none => step.withStatus 1
  | some (_, opened) =>
      match opened.content step.trace.files with
      | .error _ => step.withStatus 1
      | .ok bytes =>
          let line := joinLine raw [] 0 bytes
          let words := cutWords step.process.separators names.length (markedChars line.bytes)
          let values := names.zip (words ++ List.replicate names.length "")
          let taken := step.readInput (if line.isEnded then .exactly line.size else .all)
          if !taken.isGoing then taken
          else
            let assigned := values.foldl
              (fun (step : Step) (name, value) => step.assign name value) taken
            if !assigned.isGoing then assigned
            else assigned.withStatus (if line.isEnded then 0 else 1)

-- A prompt is shown to people only, so that it does not count here.
def readLine (arguments : List String) (step : Step) : Step :=
  let arguments :=
    match arguments with
    | "-p" :: _ :: rest => rest
    | "-rp" :: _ :: rest => "-r" :: rest
    | "-r" :: "-p" :: _ :: rest => "-r" :: rest
    | arguments => arguments
  step.withOptions ['r'] arguments fun letters names =>
    if names.isEmpty then step.fail "arg count" else readInto (letters.contains 'r') names step

end MakeCheck.Shell
