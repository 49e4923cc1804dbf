import MakeCheck.Program.Condition
import MakeCheck.Program.Options
import MakeCheck.Program.Outcome

namespace MakeCheck.Program

open Text

-- Reads the arguments of a program and goes on with them, or complains about them.
def withArguments (around : Surroundings) (known : List OptionKind) (arguments : List String)
    (further : Given → Outcome) : Outcome :=
  match readArguments known arguments with
  | .error message => around.misused 1 [message]
  | .ok given => further given

def withLeading (around : Surroundings) (known : List OptionKind) (arguments : List String)
    (further : Given → Outcome) : Outcome :=
  match readLeading known arguments with
  | .error message => around.misused 1 [message]
  | .ok given => further given

-- Only the letters n, e and E make an option of `echo`, and the last word on escapes counts.
def echoOptions (newline escapes : Bool) : List String → Bool × Bool × List String
  | [] => (newline, escapes, [])
  | word :: rest =>
      match word.toList with
      | '-' :: letter :: letters =>
          let letters := letter :: letters
          if letters.all fun c => c == 'n' || c == 'e' || c == 'E' then
            let last := (letters.filter fun c => c != 'n').getLast?
            let escapes := (last.map (· == 'e')).getD escapes
            echoOptions (newline && !letters.contains 'n') escapes rest
          else (newline, escapes, word :: rest)
      | _ => (newline, escapes, word :: rest)

def echoed (newline : Bool) (escapes : Option EscapeStyle) (words : List String) : List UInt8 :=
  let text := " ".intercalate words
  let (bytes, stopped) :=
    match escapes with
    | some style => unescape style 0 text.toList
    | none => (Utf8.encode text, false)
  if newline && !stopped then bytes ++ [10] else bytes

def echo (around : Surroundings) (arguments : List String) : Outcome :=
  let (newline, escapes, words) := echoOptions true false arguments
  around.outcome 0 [(.output, echoed newline (if escapes then some echoStyle else none) words)]

def formatMessage : FormatNote → String
  | .notNumber word => quotedName word ++ ": expected a numeric value"
  | .partNumber word => quotedName word ++ ": value not completely converted"
  | .outOfRange word => quotedName word ++ ": Numerical result out of range"
  | .ignoredRest rest =>
      "warning: " ++ rest ++ ": character(s) following character constant have been ignored"
  | .ignoredWords first =>
      "warning: ignoring excess arguments, starting with " ++ quotedName first
  | .unknownConversion text | .noConversion text => text ++ ": invalid conversion specification"
  | .noDigits => "missing hexadecimal number in escape"

def printf (around : Surroundings) (arguments : List String) : Outcome :=
  match if arguments.head? = some "--" then arguments.tail else arguments with
  | [] => around.misused 1 ["missing operand"]
  | text :: arguments =>
      let events := format standardDialect text arguments
      let written := events.map fun event =>
        match event with
        | .bytes bytes => (Channel.output, bytes)
        | .note note => around.complaint (formatMessage note)
      let fine := events.all fun event =>
        match event with
        | .bytes _ => true
        | .note note => !note.isFinal && !note.isWrongNumber
      around.outcome (if fine then 0 else 1) written

def directoryText (directory : Location) : String :=
  "/" ++ "/".intercalate directory

def printDirectory (around : Surroundings) (arguments : List String) : Outcome :=
  withArguments around [plain 'L' "logical", plain 'P' "physical"] arguments fun given =>
    let place := directoryText around.directory
    let way := (around.environment.lookup "PWD").getD ""
    let leadsHere := Path.isAbsolute ⟨way⟩ &&
      (around.files.resolve [] ⟨way⟩).toOption == some around.directory
    let shown := said ((if given.has 'L' && leadsHere then way else place) ++ "\n")
    around.outcome 0
      (if given.operands.isEmpty then [shown]
      else [around.complaint "ignoring non-option arguments", shown])

def unitSeconds? : List Char → Option Nat
  | [] => some 1
  | ['s'] => some 1
  | ['m'] => some 60
  | ['h'] => some 3600
  | ['d'] => some 86400
  | _ => none

-- The power of ten that a number ends in, and what follows it.
def exponent (s : List Char) : Int × List Char :=
  let (sign, digits) :=
    match s with
    | _ :: '-' :: rest => (-1, rest)
    | _ :: '+' :: rest => (1, rest)
    | _ :: rest => (1, rest)
    | [] => (1, [])
  let power := digits.takeWhile Char.isDigit
  if (s.head? = some 'e' ∨ s.head? = some 'E') ∧ !power.isEmpty then
    (sign * decimalValue power, digits.drop power.length)
  else (0, s)

def pause? (word : String) : Option Span :=
  let s := word.toList
  let whole := s.takeWhile Char.isDigit
  let rest := s.drop whole.length
  let (fraction, after) :=
    match rest with
    | '.' :: after => (after.takeWhile Char.isDigit, after.dropWhile Char.isDigit)
    | rest => ([], rest)
  let letters := String.ofList (s.map Char.toLower)
  if letters = "inf" ∨ letters = "infinity" then some .endless
  else if whole.isEmpty && fraction.isEmpty then none
  else
    let (power, unit) := exponent after
    let power := power - fraction.length + 9
    (unitSeconds? unit).map fun seconds =>
      let value := decimalValue (whole ++ fraction) * seconds
      .nanos (value * Nat.pow 10 (min power 100).toNat / Nat.pow 10 (min (-power) 100).toNat)

def sleep (around : Surroundings) (arguments : List String) : Outcome :=
  withArguments around [] arguments fun given =>
    let words := given.operands
    if words.isEmpty then around.misused 1 ["missing operand"]
    else
      match words.filter fun word => (pause? word).isNone with
      | [] =>
          { around.outcome 0 [] with takes := (words.filterMap pause?).foldl Span.add (.nanos 0) }
      | wrong =>
          around.misused 1 (wrong.map fun word => "invalid time interval " ++ quotedName word)

-- Writes a line over and over again. It ends only when nobody reads it any more.
def repeatLine (around : Surroundings) (arguments : List String) : Outcome :=
  withArguments around [] arguments fun given =>
    let words := if given.operands.isEmpty then ["y"] else given.operands
    let line := Utf8.encode (" ".intercalate words ++ "\n")
    match around.room with
    | some room =>
        around.outcome 0 [(.output, (List.replicate (room / line.length + 1) line).flatten)]
    | none => { around.outcome 0 [] with takes := .endless }

def conditionReport (words : List String) : ConditionFault → String
  | .illegalNumber word => "invalid integer '" ++ word ++ "'"
  | .argumentExpected operator => "missing argument after '" ++ operator ++ "'"
  | .bracketExpected => "')' expected"
  | .unexpectedOperator word =>
      match words with
      | [_, last] => "missing argument after '" ++ last ++ "'"
      | [_, middle, _] => "'" ++ middle ++ "': binary operator expected"
      | _ =>
          let next := (words.drop (words.idxOf word + 1)).head?.getD word
          "extra argument '" ++ next ++ "'"

def test (around : Surroundings) (arguments : List String) : Outcome :=
  let isBracket := around.name.toList.getLast? == some '['
  let refuse (message : String) : Outcome := around.outcome 2 [around.complaint message]
  if isBracket && arguments.getLast? != some "]" then refuse "missing ']'"
  else
    let words := if isBracket then arguments.dropLast else arguments
    let scene : Scene := ⟨around.files, around.directory, "==" :: binaryOperators, false⟩
    match scene.holds words with
    | .ok holds => around.outcome (if holds then 0 else 1) []
    | .error fault => refuse (conditionReport words fault)

def endlessNumber : Int := Int.pow 10 30

-- A decimal number: the number without its point, and how many places stand behind the point.
def decimal? (word : String) : Option (Int × Nat) :=
  let (negative, s) := signOf word.toList
  let whole := s.takeWhile Char.isDigit
  let (fraction, rest) :=
    match s.drop whole.length with
    | '.' :: after => (after.takeWhile Char.isDigit, after.dropWhile Char.isDigit)
    | rest => ([], rest)
  if s = ['i', 'n', 'f'] then some (if negative then -endlessNumber else endlessNumber, 0)
  else if (whole.isEmpty && fraction.isEmpty) || !rest.isEmpty then none
  else
    let value : Int := decimalValue (whole ++ fraction)
    some (if negative then -value else value, fraction.length)

def decimalShown (value : Int) (places width : Nat) : String :=
  let shown := Decimal.withPlaces value.natAbs places
  let sign := if value < 0 then "-" else ""
  sign ++ String.ofList (List.replicate (width - sign.length - shown.length) '0') ++ shown

def tooMany : Nat := 5000000

def sequence (around : Surroundings) (arguments : List String) : Outcome :=
  -- Numbers below nought are no options.
  let isNumber (word : String) : Bool := (decimal? word).isSome
  let (before, after) := arguments.span fun word => !isNumber word
  let known := [valued 's' "separator", plain 'w' "equal-width"]
  withArguments around known before fun given =>
    let words := given.operands ++ after
    let numbers (first step last : Int × Nat) : Outcome :=
      let places := max first.2 step.2
      let scale (number : Int × Nat) : Int := number.1 * Int.pow 10 (places - number.2)
      -- The last number may have more places than are shown.
      let beyond := Int.pow 10 (last.2 - places)
      let end_ : Int := if last.2 ≤ places then scale last else last.1.fdiv beyond
      let end_ := if last.2 ≤ places ∨ 0 < step.1 then end_ else -((-last.1).fdiv beyond)
      let start := scale first
      let stride := scale step
      let count := if 0 < stride then (end_ - start).fdiv stride + 1
        else (start - end_).fdiv (-stride) + 1
      let count := match around.room with
        | some room => min count.toNat (room / 2 + 1)
        | none => min count.toNat tooMany
      let values := (List.range count).map fun (i : Nat) => start + (i : Int) * stride
      let plainText (value : Int) : String := decimalShown value places 0
      let width := if given.has 'w' then
          ((values.map fun value => (plainText value).length)).foldl max 0
        else 0
      let separator := (given.value? 's').getD "\n"
      let shown := separator.intercalate (values.map fun value => decimalShown value places width)
      let outcome := around.outcome 0 (if values.isEmpty then [] else [said (shown ++ "\n")])
      if count = tooMany then { outcome with takes := .endless } else outcome
    let one : Int × Nat := (1, 0)
    match words.find? fun word => !isNumber word, words with
    | _, [] => around.misused 1 ["missing operand"]
    | _, _ :: _ :: _ :: extra :: _ => around.misused 1 ["extra operand " ++ quotedName extra]
    | some word, _ => around.misused 1 ["invalid floating point argument: " ++ quotedName word]
    | none, words =>
        match words.filterMap decimal? with
        | [last] => numbers one one last
        | [first, last] => numbers first one last
        | [first, step, last] =>
            if step.1 = 0 then
              around.misused 1
                ["invalid Zero increment value: " ++ quotedName ((words[1]?).getD "")]
            else numbers first step last
        | _ => around.outcome 0 []

def wayTo (start place : Location) : String :=
  let common := ((start.zip place).takeWhile fun pair => pair.1 == pair.2).length
  let pieces := List.replicate (start.length - common) ".." ++ place.drop common
  if pieces.isEmpty then "." else "/".intercalate pieces

-- The part of a path behind the last slash, where slashes at its end do not count.
def lastPiece (text : String) : String :=
  let s := (text.toList.reverse.dropWhile (· == '/')).reverse
  if s.isEmpty then (if text = "" then "" else "/")
  else String.ofList (s.reverse.takeWhile (· != '/')).reverse

def dropSuffix (suffix piece : String) : String :=
  if suffix != "" && suffix != piece && piece.endsWith suffix then
    String.ofList (piece.toList.take (piece.length - suffix.length))
  else piece

def baseName (around : Surroundings) (arguments : List String) : Outcome :=
  let known := [plain 'a' "multiple", valued 's' "suffix", plain 'z' "zero"]
  withLeading around known arguments fun given =>
    let stop := if given.has 'z' then "\x00" else "\n"
    let shown (suffix : String) (names : List String) : Outcome :=
      around.outcome 0
        [said (String.join (names.map fun name => dropSuffix suffix (lastPiece name) ++ stop))]
    match given.operands, given.has 'a' || given.has 's' with
    | [], _ => around.misused 1 ["missing operand"]
    | names, true => shown ((given.value? 's').getD "") names
    | [name], false => shown "" [name]
    | [name, suffix], false => shown suffix [name]
    | _ :: _ :: extra :: _, false => around.misused 1 ["extra operand " ++ quotedName extra]

def frontPieces (text : String) : String :=
  let trim (s : List Char) : List Char := s.dropWhile (· == '/')
  let reversed := trim text.toList.reverse
  if reversed.isEmpty then (if text = "" then "." else "/")
  else
    match reversed.dropWhile (· != '/') with
    | [] => "."
    | before =>
        let front := trim before
        if front.isEmpty then "/" else String.ofList front.reverse

def directoryName (around : Surroundings) (arguments : List String) : Outcome :=
  withArguments around [plain 'z' "zero"] arguments fun given =>
    let stop := if given.has 'z' then "\x00" else "\n"
    if given.operands.isEmpty then around.misused 1 ["missing operand"]
    else
      around.outcome 0
        [said (String.join (given.operands.map fun name => frontPieces name ++ stop))]

def environmentText (stop : String) (around : Surroundings) : String :=
  String.join (around.environment.map fun (name, value) => name ++ "=" ++ value ++ stop)

def printEnvironment (around : Surroundings) (arguments : List String) : Outcome :=
  match readLeading [plain '0' "null"] arguments with
  | .error message => around.misused 2 [message]
  | .ok given =>
      let stop := if given.has '0' then "\x00" else "\n"
      if given.operands.isEmpty then around.outcome 0 [said (environmentText stop around)]
      else
        let values := given.operands.map fun name => around.environment.lookup name
        around.outcome (if values.all Option.isSome then 0 else 1)
          [said (String.join ((values.filterMap id).map (· ++ stop)))]

end MakeCheck.Program
