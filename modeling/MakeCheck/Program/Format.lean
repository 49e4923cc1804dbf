import MakeCheck.Decimal.Shortest
import MakeCheck.Decimal.Reading
import MakeCheck.Program.Escape

namespace MakeCheck.Program

open Text Decimal

-- How a program reads formats.
structure FormatDialect where
  formatEscapes : EscapeStyle
  textEscapes : EscapeStyle
  -- Letters for the size of a number are passed over.
  passesSizes : Bool
  -- Flags have to fit their letter, and arguments that nothing asks for are told.
  isStrict : Bool
  -- How a text is written that a script could read again, if that can be asked for.
  quote? : Option (String → String)
  -- How the moment of an argument is written in a format of its own, if that can be asked for.
  date? : Option (String → String → String)

def shellDialect : FormatDialect := ⟨shellFormatStyle, shellTextStyle, false, false, none, none⟩
def standardDialect : FormatDialect := ⟨formatStyle, textStyle, true, true, none, none⟩

-- What can be said about a format or about an argument.
inductive FormatNote where
  | notNumber (word : String)
  | partNumber (word : String)
  | outOfRange (word : String)
  | ignoredRest (rest : String)
  | ignoredWords (first : String)
  | unknownConversion (text : String)
  | noConversion (text : String)
  | noDigits
deriving DecidableEq

def FormatNote.isFinal : FormatNote → Bool
  | unknownConversion _ | noConversion _ | noDigits => true
  | _ => false

def FormatNote.isWrongNumber : FormatNote → Bool
  | notNumber _ | partNumber _ | outOfRange _ => true
  | _ => false

inductive FormatEvent where
  | bytes (bytes : List UInt8)
  | note (note : FormatNote)

-- A width or a precision: a number, or the next argument.
inductive Extent where
  | given (count : Nat)
  | argument
deriving DecidableEq

structure Conversion where
  flags : List Char
  width : Extent
  precision : Option Extent
  letter : Char
  -- The conversion as it is written, for complaints.
  text : List Char
  -- The format of a moment.
  inside : List Char

-- A piece of a format: bytes, or a conversion of an argument, or what ends the format.
inductive FormatPiece where
  | bytes (bytes : List UInt8)
  | stop
  | fault (note : FormatNote)
  | conversion (conversion : Conversion)

def readExtent : List Char → Extent × List Char
  | '*' :: rest => (.argument, rest)
  | s =>
      let digits := s.takeWhile Char.isDigit
      (.given (decimalValue digits), s.drop digits.length)

def conversionLetters : List Char :=
  ['b', 'c', 's', 'd', 'i', 'o', 'u', 'x', 'X', 'e', 'E', 'f', 'F', 'g', 'G']

-- Whether a letter makes sense with its flags and its precision.
def Conversion.isFitting (conversion : Conversion) : Bool :=
  let has (c : Char) : Bool := conversion.flags.contains c
  match conversion.letter with
  | 'b' => conversion.text.length == 2
  | 'c' => !has '#' && !has '0' && conversion.precision.isNone
  | 's' => !has '#' && !has '0'
  | 'd' | 'i' | 'u' => !has '#'
  | _ => true

def readConversion (dialect : FormatDialect) (s : List Char) : FormatPiece × List Char :=
  let flags := s.takeWhile fun c => ['-', '+', ' ', '#', '0'].contains c
  let (width, rest) := readExtent (s.drop flags.length)
  let (precision, rest) :=
    match rest with
    | '.' :: after =>
        let (found, after) := readExtent after
        (some found, after)
    | rest => (none, rest)
  let rest :=
    if dialect.passesSizes then rest.dropWhile fun c => ['l', 'L', 'h', 'j', 't', 'z'].contains c
    else rest
  let written := '%' :: s.take (s.length - rest.length)
  match s, rest with
  | '%' :: after, _ => (.bytes [37], after)
  | _, letter :: after =>
      let conversion : Conversion := ⟨flags, width, precision, letter, written ++ [letter], []⟩
      let inside := after.takeWhile (· != ')')
      let isKnown := conversionLetters.contains letter || (letter == 'q' && dialect.quote?.isSome)
      let isMoment := letter == '(' && (after.drop inside.length).take 2 == [')', 'T']
      if isMoment && dialect.date?.isSome then
        (.conversion { conversion with letter := 'T', inside }, after.drop (inside.length + 2))
      else if !isKnown || (dialect.isStrict && !conversion.isFitting) then
        (.fault (.unknownConversion (String.ofList (written ++ [letter]))), [])
      else (.conversion conversion, after)
  | _, [] => (.fault (.noConversion (String.ofList written)), [])

def formatPieces (dialect : FormatDialect) : Nat → List Char → List FormatPiece
  | 0, _ => []
  | _, [] => []
  | fuel + 1, c :: rest =>
      if c = '%' then
        let (piece, after) := readConversion dialect rest
        piece :: formatPieces dialect fuel after
      else if c = '\\' then
        let style := dialect.formatEscapes
        if rest.head? = some 'c' ∧ style.stops then [.stop]
        else
          match namedBytes? style rest with
          | some (bytes, count) => .bytes bytes :: formatPieces dialect fuel (rest.drop count)
          | none =>
              if rest.head? = some 'x' ∧ style.hexadecimal then [.fault .noDigits]
              else .bytes [92] :: formatPieces dialect fuel rest
      else .bytes (Utf8.encode c.toString) :: formatPieces dialect fuel rest

-- Fills a text up to a width. Noughts go behind a sign or the mark of a base.
def fillTo (leftAligned zeroFilled : Bool) (width : Nat) (shown : List UInt8) : List UInt8 :=
  let missing := width - shown.length
  if leftAligned then shown ++ List.replicate missing 32
  else if zeroFilled then
    let sign := shown.takeWhile fun byte => byte == 45 || byte == 43 || byte == 32
    let rest := shown.drop sign.length
    let mark := if rest.take 2 = [48, 120] ∨ rest.take 2 = [48, 88] then rest.take 2 else []
    sign ++ mark ++ List.replicate missing 48 ++ rest.drop mark.length
  else List.replicate missing 32 ++ shown

def signOf (s : List Char) : Bool × List Char :=
  match s with
  | '-' :: rest => (true, rest)
  | '+' :: rest => (false, rest)
  | rest => (false, rest)

-- What is to be said about a number of which so many characters are left over.
def numberNotes (text : String) (taken : Bool) (rest : List Char) : List FormatNote :=
  if text = "" ∨ (taken ∧ rest.isEmpty) then []
  else if taken then [.partNumber text]
  else [.notNumber text]

-- The code of the character behind a quote stands for a number.
def quotedValue? (s : List Char) : Option (Nat × List FormatNote) :=
  match s with
  | mark :: c :: rest =>
      if mark = '\x27' ∨ mark = '\x22' then
        let bytes := Utf8.encode (String.ofList (c :: rest))
        let ignored := Utf8.decodeLossy bytes.tail
        some ((bytes.headD 0).toNat, if ignored = "" then [] else [.ignoredRest ignored])
      else none
  | _ => none

-- A whole number as an argument spells it. A nought at the front tells another base.
def readInteger (text : String) : Int × List FormatNote :=
  match quotedValue? text.toList with
  | some (value, notes) => (value, notes)
  | none =>
      let s := text.toList.dropWhile fun c => c == ' ' || c == '\t' || c == '\n'
      let (negative, digits) := signOf s
      let hasDigit (s : List Char) : Bool := s.head?.any fun c => (digitValue? 16 c).isSome
      let (base, found) :=
        match digits with
        | '0' :: mark :: rest =>
            if (mark = 'x' ∨ mark = 'X') ∧ hasDigit rest then (16, rest) else (8, digits)
        | '0' :: _ => (8, digits)
        | _ => (10, digits)
      let (value, count) := readNumber base found.length found 0
      (if negative then -(value : Int) else value,
        numberNotes text (0 < count) (found.drop count))

-- The part of a text that spells a decimal number, and what follows it.
def decimalPart (s : List Char) : List Char × List Char :=
  let sign := s.takeWhile fun c => c == '-' || c == '+'
  let sign := sign.take 1
  let rest := s.drop sign.length
  let whole := rest.takeWhile Char.isDigit
  let rest := rest.drop whole.length
  let fraction :=
    match rest with
    | '.' :: after => '.' :: after.takeWhile Char.isDigit
    | _ => []
  let rest := rest.drop fraction.length
  let power :=
    match rest with
    | mark :: after =>
        let (_, digits) := signOf after
        if (mark = 'e' ∨ mark = 'E') ∧ digits.head?.any Char.isDigit then
          rest.take (rest.length - (digits.dropWhile Char.isDigit).length)
        else []
    | [] => []
  if whole.isEmpty ∧ fraction.length ≤ 1 then ([], s)
  else (sign ++ whole ++ fraction ++ power, rest.drop power.length)

def readDecimal (text : String) : Binary64 × List FormatNote :=
  match quotedValue? text.toList with
  | some (value, notes) => (.ofRatio false value 1, notes)
  | none =>
      let s := text.toList.dropWhile fun c => c == ' ' || c == '\t' || c == '\n'
      let (found, rest) := decimalPart s
      let zero : Binary64 := .ofRatio false 0 1
      ((Binary64.read? found).getD zero, numberNotes text (!found.isEmpty) rest)

def signText (conversion : Conversion) (negative : Bool) : String :=
  if negative then "-"
  else if conversion.flags.contains '+' then "+"
  else if conversion.flags.contains ' ' then " "
  else ""

-- A whole number in digits. Without a sign, numbers below nought count from the other end.
def integerText (conversion : Conversion) (precision : Option Nat) (value : Int) : String :=
  let letter := conversion.letter
  let signed := letter = 'd' ∨ letter = 'i'
  let magnitude := if signed then value.natAbs else (value.emod (Int.pow 2 64)).toNat
  let base := if letter = 'o' then 8 else if letter = 'x' ∨ letter = 'X' then 16 else 10
  let digits := if magnitude = 0 ∧ precision = some 0 then [] else Nat.toDigits base magnitude
  let digits := List.replicate (precision.getD 1 - digits.length) '0' ++ digits
  let marked := conversion.flags.contains '#'
  let digits := if marked ∧ letter = 'o' ∧ digits.head? ≠ some '0' then '0' :: digits else digits
  let mark := if marked && base == 16 && magnitude != 0 then ['0', 'x'] else []
  let shown := String.ofList (mark ++ digits)
  (if signed then signText conversion (value < 0) else "") ++
    if letter = 'X' then shown.toUpper else shown

def decimalText (conversion : Conversion) (precision : Option Nat) : Binary64 → String
  | .nan => "nan"
  | .infinite negative => signText conversion negative ++ "inf"
  | .finite negative mantissa exponent =>
      let (num, den) := Binary64.fraction mantissa exponent
      let places := precision.getD 6
      let letter := conversion.letter.toLower
      let shown :=
        if letter = 'f' then fixedText num den places
        else if letter = 'e' then scientificText num den places
        else generalText num den places (conversion.flags.contains '#')
      signText conversion negative ++ if conversion.letter.isUpper then shown.toUpper else shown

-- The bytes of one argument, whether output ends here, and what is to be said.
def convert (dialect : FormatDialect) (conversion : Conversion) (width : Int)
    (precision : Option Nat) (argument : String) : List UInt8 × Bool × List FormatNote :=
  let letter := conversion.letter
  let leftAligned := conversion.flags.contains '-' || width < 0
  let fill (zeroFilled : Bool) (bytes : List UInt8) : List UInt8 :=
    fillTo leftAligned zeroFilled width.natAbs bytes
  let cutShort (bytes : List UInt8) : List UInt8 := bytes.take (precision.getD bytes.length)
  let asked := conversion.flags.contains '0'
  if letter = 'T' then
    let shown := (dialect.date?.getD fun _ text => text) (String.ofList conversion.inside) argument
    (fill false (cutShort (Utf8.encode shown)), false, [])
  else if letter = 's' then (fill false (cutShort (Utf8.encode argument)), false, [])
  else if letter = 'q' then
    (fill false (Utf8.encode ((dialect.quote?.getD id) argument)), false, [])
  else if letter = 'b' then
    let (bytes, stopped) := unescape dialect.textEscapes 0 argument.toList
    (fill false (cutShort bytes), stopped, [])
  else if letter = 'c' then
    let bytes := (Utf8.encode argument).take 1
    (fill false (if bytes.isEmpty then [0] else bytes), false, [])
  else if ['d', 'i', 'o', 'u', 'x', 'X'].contains letter then
    let (value, notes) := readInteger argument
    let isSigned := letter = 'd' ∨ letter = 'i'
    let least : Int := if isSigned then -(Int.pow 2 63) else -(Int.pow 2 64 - 1)
    let most : Int := if isSigned then Int.pow 2 63 - 1 else Int.pow 2 64 - 1
    let isOut := value < least ∨ most < value
    let limited := if isSigned then max least (min value most) else if isOut then most else value
    let bytes := Utf8.encode (integerText conversion precision limited)
    (fill (asked && precision.isNone) bytes, false,
      if isOut then [.outOfRange argument] else notes)
  else
    let (value, notes) := readDecimal argument
    (fill asked (Utf8.encode (decimalText conversion precision value)), false, notes)

-- The number that an extent stands for, and the arguments that are left.
def Extent.settle (arguments : List String) : Extent → Int × List String × List FormatNote
  | given count => (count, arguments, [])
  | argument =>
      let (value, notes) := readInteger (arguments.head?.getD "")
      (value, arguments.tail, notes)

-- One pass over the pieces: what happens, the arguments that are left, and whether output ends
-- here.
def formatOnce (dialect : FormatDialect) : List FormatPiece → List String →
    List FormatEvent × List String × Bool
  | [], arguments => ([], arguments, false)
  | .stop :: _, arguments => ([], arguments, true)
  | .fault note :: _, arguments => ([.note note], arguments, true)
  | .bytes bytes :: rest, arguments =>
      let (after, left, stopped) := formatOnce dialect rest arguments
      (.bytes bytes :: after, left, stopped)
  | .conversion conversion :: rest, arguments =>
      let (width, arguments, first) := conversion.width.settle arguments
      let (precision, arguments, second) : Option Int × List String × List FormatNote :=
        match conversion.precision with
        | some extent =>
            let (value, arguments, notes) := extent.settle arguments
            (some value, arguments, notes)
        | none => (none, arguments, [])
      let precision := (precision.filter fun value => 0 ≤ value).map Int.toNat
      let (shown, ends, notes) :=
        convert dialect conversion width precision (arguments.head?.getD "")
      let events := (first ++ second ++ notes).map FormatEvent.note ++ [.bytes shown]
      if ends then (events, arguments.tail, true)
      else
        let (after, left, stopped) := formatOnce dialect rest arguments.tail
        (events ++ after, left, stopped)

-- The format is used again as long as it takes arguments and some are left.
def formatAll (dialect : FormatDialect) (pieces : List FormatPiece) : Nat → List String →
    List FormatEvent
  | 0, _ => []
  | fuel + 1, arguments =>
      let (events, left, stopped) := formatOnce dialect pieces arguments
      match stopped || left.length == arguments.length, left with
      | true, word :: _ =>
          if dialect.isStrict && !stopped then events ++ [.note (.ignoredWords word)] else events
      | _, [] => events
      | false, _ => events ++ formatAll dialect pieces fuel left

-- Arguments written in a format, and what is to be said about them on the way.
def format (dialect : FormatDialect) (text : String) (arguments : List String) :
    List FormatEvent :=
  formatAll dialect (formatPieces dialect text.length text.toList) (arguments.length + 1) arguments

end MakeCheck.Program
