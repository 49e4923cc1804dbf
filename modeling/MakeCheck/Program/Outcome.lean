import MakeCheck.FileStore.Opened
import MakeCheck.FileStore.Times
import MakeCheck.Text.Utf8

namespace MakeCheck.Program

open Text

-- Bytes that mean something to a shell, so that a name with them is shown in quotes. The flag tells
-- whether the byte is the first one.
def isTelling (isFirst : Bool) (byte : UInt8) : Bool :=
  let c := Char.ofNat byte.toNat
  byte < 32 || 126 < byte ||
    ['\x27', ' ', '!', '\x22', '$', '&', '(', ')', '*', ';', '<', '=', '>', '[', '^', '\x60', '|',
      '?', '\\'].contains c ||
    (isFirst && (c == '#' || c == '~'))

-- Whether a name with single quotes can stand between double ones as it is.
def fitsDoubleQuotes (bytes : List UInt8) : Bool :=
  bytes.all fun byte =>
    let c := Char.ofNat byte.toNat
    c.isAlphanum ||
      ['\x27', ' ', '%', '+', ',', '-', '.', '/', ':', ']', '_', '@'].contains c

def controlLetter? (byte : UInt8) : Option Char :=
  [(7, 'a'), (8, 'b'), (9, 't'), (10, 'n'), (11, 'v'), (12, 'f'), (13, 'r')].lookup byte

-- The bytes between single quotes. The flag tells that escapes have been opened, in which bytes
-- that cannot be printed are spelled out.
def quoteBytes : Bool → List UInt8 → List Char
  | _, [] => ['\x27']
  | escaping, byte :: rest =>
      let c := Char.ofNat byte.toNat
      let start := if escaping then [] else ['\x27', '$', '\x27']
      let stop := if escaping then ['\x27', '\x27'] else []
      let digit (n : Nat) : Char := Char.ofNat ('0'.toNat + n % 8)
      if byte < 32 ∨ 126 < byte then
        let spelled :=
          match controlLetter? byte with
          | some letter => ['\\', letter]
          | none => ['\\', digit (byte.toNat / 64), digit (byte.toNat / 8), digit byte.toNat]
        start ++ spelled ++ quoteBytes true rest
      else if c = '\x27' then
        -- A quote stands outside of the quotes, behind a backslash.
        ['\x27', '\\', '\x27', '\x27'] ++ quoteBytes false rest
      else stop ++ c :: quoteBytes false rest

def quotedName (name : String) : String :=
  let bytes := Utf8.encode name
  if bytes.contains 39 && fitsDoubleQuotes bytes then "\"" ++ name ++ "\""
  else String.ofList ('\x27' :: quoteBytes false bytes)

def shownName (name : String) : String :=
  let bytes := Utf8.encode name
  let isTold := bytes.isEmpty || name == "\x7b" || name == "\x7d" ||
    (bytes.zipIdx.any fun (byte, i) => isTelling (i == 0) byte)
  if isTold then quotedName name else name

inductive Channel where
  | output
  | errors
deriving DecidableEq

-- How long something takes: so many nanoseconds, or for ever.
inductive Span where
  | nanos (count : Nat)
  | endless
deriving DecidableEq

def Span.add : Span → Span → Span
  | .nanos a, .nanos b => .nanos (a + b)
  | _, _ => .endless

-- What a program comes to: its exit code, what it writes, how long it takes, and the
-- files it leaves behind.
structure Outcome where
  code : Nat
  written : List (Channel × List UInt8)
  takes : Span
  files : FileStore
  -- How much it takes of the input, and whether that goes out as it comes in.
  intake : Option Intake
  relays : Bool
  -- What it says where its output is lost, and the code that it ends with then.
  lossReport : Fault → String
  lossCode : Nat

-- What a program sees of the system.
structure Surroundings where
  -- The name that it was started by.
  name : String
  files : FileStore
  directory : Location
  now : Time
  -- What comes in, and whether it is a file that can be asked for its size.
  input : Except Fault (List UInt8)
  inputIsFile : Bool
  -- How much can go out before it is clear that nobody reads on, if somebody may stop to read.
  room : Option Nat
  -- The rights that new files do not get.
  mask : Nat
  environment : List (String × String)

def said (text : String) : Channel × List UInt8 :=
  (.output, Utf8.encode text)

namespace Surroundings

def complaint (around : Surroundings) (message : String) : Channel × List UInt8 :=
  (.errors, Utf8.encode (around.name ++ ": " ++ message ++ "\n"))

def outcome (around : Surroundings) (code : Nat) (written : List (Channel × List UInt8)) :
    Outcome :=
  { code
    written
    takes := .nanos 0
    files := around.files
    intake := none
    relays := false
    lossReport := fun fault => around.name ++ ": write error: " ++ fault.reason ++ "\n"
    lossCode := 1 }

-- A complaint about the arguments, which tells where to find help.
def misused (around : Surroundings) (code : Nat) (messages : List String) : Outcome :=
  let hint := "Try '" ++ around.name ++ " --help' for more information.\n"
  around.outcome code (messages.map around.complaint ++ [(.errors, Utf8.encode hint)])

-- What a file holds, or what comes in where a hyphen or its own path stands for it.
def source (around : Surroundings) (name : String) : Except Fault (List UInt8) :=
  if name = "-" ∨ name = "/dev/stdin" then around.input
  else around.files.sample around.directory ⟨name⟩

-- How much of the input is taken if files of these names are read.
def intakeOf (names : List String) : Option Intake :=
  if names.any fun name => name == "-" || name == "/dev/stdin" then some .all else none

def inputBytes (around : Surroundings) : List UInt8 :=
  around.input.toOption.getD []

-- Works on each of the named files, or on the input if there are none. A file that cannot be read
-- is complained about.
def withSources (around : Surroundings) (names : List String)
    (report : String → Fault → String) (work : String → List UInt8 → List UInt8) : Outcome :=
  let names := if names.isEmpty then ["-"] else names
  let written := names.map fun name =>
    match around.source name with
    | .ok bytes => (Channel.output, work name bytes)
    | .error fault => around.complaint (report name fault)
  let fine := written.all fun entry => entry.1 == .output
  { around.outcome (if fine then 0 else 1) written with intake := intakeOf names }

end Surroundings

def readReport (name : String) (fault : Fault) : String :=
  shownName name ++ ": " ++ fault.reason

-- The lines of a file without their breaks. A break at the end begins no line.
def lines (bytes : List UInt8) : List (List UInt8) :=
  let pieces := bytes.splitOn 10
  if pieces.getLast? = some [] then pieces.dropLast else pieces

def groupsOf {α : Type} (size : Nat) (items : List α) : List (List α) :=
  if _h : size = 0 ∨ items = [] then []
  else items.take size :: groupsOf size (items.drop size)
termination_by items.length
decreasing_by
  have := List.length_pos_iff.mpr fun isEmpty => _h (Or.inr isEmpty)
  simp only [List.length_drop]
  omega

end MakeCheck.Program
