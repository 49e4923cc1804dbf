import MakeCheck.Shell.Declaration

namespace MakeCheck.Shell

open Text

-- A letter of an option with what it is given, which is empty for most of them.
abbrev GivenOption := Char × String

-- The options at the front of some words, of which some take a value from the same word or the next
-- one, and the other words. An unknown letter, or one without its value, is told with the flag that
-- it is known. The first argument bounds the words.
def givenOptions (bare valued : List Char) : Nat → List String →
    Except (Char × Bool) (List GivenOption × List String)
  | 0, words => .ok ([], words)
  | _, [] => .ok ([], [])
  | fuel + 1, word :: rest =>
      match word.toList with
      | '-' :: letter :: letters =>
          if word = "--" then .ok ([], rest)
          else do
            let all := letter :: letters
            let flags := all.takeWhile bare.contains
            let found := flags.map fun c => (c, "")
            match all.drop flags.length with
            | [] =>
                let (others, words) ← givenOptions bare valued fuel rest
                return (found ++ others, words)
            | c :: value =>
                if !valued.contains c then throw (c, false)
                match value, rest with
                | [], next :: rest =>
                    let (others, words) ← givenOptions bare valued fuel rest
                    return (found ++ (c, next) :: others, words)
                | [], [] => throw (c, true)
                | _, _ =>
                    let (others, words) ← givenOptions bare valued fuel rest
                    return (found ++ (c, String.ofList value) :: others, words)
      | _ => .ok ([], word :: rest)

def Step.explain (step : Step) (usage : String) : Step :=
  let text := step.process.running.getD "" ++ ": usage: " ++ usage ++ "\n"
  (step.writeErrors (Utf8.encode text)).withStatus 2

-- Goes on with the options and the other words, or complains about an option.
def Step.withGiven (step : Step) (bare valued : List Char) (usage : String)
    (arguments : List String) (further : List GivenOption → List String → Step) : Step :=
  match givenOptions bare valued arguments.length arguments with
  | .ok (options, words) => further options words
  | .error (letter, isKnown) =>
      if isKnown then
        (step.complain ("-" ++ letter.toString ++ ": option requires an argument")).explain usage
      else step.rejectOption '-' letter usage

-- What reading a line asks for.
structure LineRequest where
  stop : Option UInt8
  raw : Bool
  -- How many characters are read at most.
  limit : Option Nat
  -- Nothing but the limit ends the line.
  isExact : Bool

-- Reads a line. What was read before comes in reverse order, and the size tells how many bytes.
def lineUpTo (request : LineRequest) : Nat → List (UInt8 × Bool) → Nat → List UInt8 → ReadLine
  | 0, before, size, _ => ⟨before.reverse, size, true⟩
  | _, before, size, [] => ⟨before.reverse, size, false⟩
  | count + 1, before, size, byte :: rest =>
      if !request.isExact && request.stop == some byte then ⟨before.reverse, size + 1, true⟩
      else if byte = 92 ∧ !request.raw then
        match rest with
        | [] => ⟨before.reverse, size + 1, false⟩
        | 10 :: after => lineUpTo request (count + 1) before (size + 2) after
        | next :: after => lineUpTo request count ((next, true) :: before) (size + 2) after
      else
        let isPart := decide (128 ≤ byte ∧ byte < 192)
        lineUpTo request (if isPart then count + 1 else count)
          (if byte = 0 then before else (byte, false) :: before) (size + 1) rest
termination_by _ _ _ bytes => bytes.length

def allWords (separators : List Char) : Nat → Marked → List String
  | 0, _ => []
  | fuel + 1, line =>
      let separates (entry : Char × Bool) : Bool := !entry.2 && separators.contains entry.1
      let isBlank (entry : Char × Bool) : Bool :=
        separates entry && (entry.1 == ' ' || entry.1 == '\t' || entry.1 == '\n')
      let line := line.dropWhile isBlank
      if line.isEmpty then []
      else
        let word := line.takeWhile fun entry => !separates entry
        let after := (line.drop word.length).dropWhile isBlank
        let after := if after.head?.any separates then after.tail.dropWhile isBlank else after
        Marked.text word :: allWords separators fuel after

def Step.readingFrom (step : Step) (channel : Nat) (further : Step → Step) : Step :=
  if channel = 0 then further step
  else
    let process := match step.process.channel? channel with
      | some number => step.process.connect 0 number
      | none => step.process.close 0
    let after := further { step with process }
    { after with process := after.process.restore step.process 0 }

def channelOf (options : List GivenOption) : Nat :=
  ((options.lookup 'u').map numberOf).getD 0

def firstByte (text : String) : Option UInt8 :=
  some ((Utf8.encode text).headD 0)

def readUsage : String :=
  "read [-ers] [-a array] [-d delim] [-i text] [-n nchars] [-N nchars] [-p prompt] " ++
    "[-t timeout] [-u fd] [name ...]"

-- Takes one line of the input, or as much as is asked for.
def readWords (arguments : List String) (step : Step) : Step :=
  step.withGiven ['e', 'r', 's'] ['a', 'd', 'i', 'n', 'N', 'p', 't', 'u'] readUsage arguments
    fun options names =>
      let has (letter : Char) : Bool := options.any (·.1 == letter)
      let wrong := names.find? fun name => !isName (name.toList.takeWhile (· != '['))
      match wrong with
      | some name => step.refuse 1 ("\x60" ++ name ++ "\x27: not a valid identifier")
      | none =>
          step.readingFrom (channelOf options) fun step =>
            let request : LineRequest :=
              { stop := match options.lookup 'd' with
                  | some text => firstByte text
                  | none => some 10
                raw := has 'r'
                limit := ((options.lookup 'N').or (options.lookup 'n')).map numberOf
                isExact := has 'N' }
            match step.input? with
            | none =>
                let channel := toString (channelOf options)
                step.refuse 1 (channel ++ ": invalid file descriptor: Bad file descriptor")
            | some (_, opened) =>
                let bytes := (opened.content step.trace.files).toOption.getD []
                let line := lineUpTo request (request.limit.getD (bytes.length + 1)) [] 0 bytes
                let marked := markedChars line.bytes
                let separators := step.process.separators
                let taken := step.readInput (if line.isEnded then .exactly line.size else .all)
                if !taken.isGoing then taken
                else
                  let assigned :=
                    match options.lookup 'a', names with
                    | some array, _ =>
                        let words := allWords separators (marked.length + 1) marked
                        let entries := words.map fun word => ⟨none, false, word⟩
                        taken.give (.entries array false entries)
                    | none, [] => taken.give (.value "REPLY" none false (Marked.text marked))
                    | none, _ =>
                        let words := if has 'N' then [Marked.text marked]
                          else cutWords separators names.length marked
                        let values := names.zip (words ++ List.replicate names.length "")
                        values.foldl
                          (fun (step : Step) (name, value) =>
                            match Given.ofText? (name ++ "=") with
                            | some (.value name key _ _) => step.give (.value name key false value)
                            | _ => step)
                          taken
                  if !assigned.isGoing then assigned
                  else assigned.withStatus (if line.isEnded then 0 else 1)

def cutBehind (stop : UInt8) : List UInt8 → List (List UInt8)
  | [] => []
  | byte :: rest =>
      if byte = stop then [byte] :: cutBehind stop rest
      else
        match cutBehind stop rest with
        | line :: lines => (byte :: line) :: lines
        | [] => [[byte]]

def mapUsage : String :=
  "[-d delim] [-n count] [-O origin] [-s count] [-t] [-u fd] [-C callback] [-c quantum] [array]"

def readLines (command : String) (arguments : List String) (step : Step) : Step :=
  step.withGiven ['t'] ['d', 'n', 'O', 's', 'u', 'C', 'c'] (command ++ " " ++ mapUsage) arguments
    fun options words =>
      let name := words.headD "MAPFILE"
      let number (letter : Char) : Nat := ((options.lookup letter).map numberOf).getD 0
      if !isName name.toList then
        step.refuse 1 ("\x60" ++ name ++ "\x27: not a valid identifier")
      else
        step.readingFrom (channelOf options) fun step =>
          let bytes := match step.input? with
            | some (_, opened) => (opened.content step.trace.files).toOption.getD []
            | none => []
          let stop := (options.lookup 'd').bind firstByte |>.getD 10
          let lines := cutBehind stop bytes
          let skipped := lines.drop (number 's')
          let kept := if number 'n' = 0 then skipped else skipped.take (number 'n')
          let size := (lines.take (number 's') ++ kept).flatten.length
          let shown := kept.map fun line =>
            let bare := if options.any (·.1 == 't') && line.getLast? == some stop then line.dropLast
              else line
            Utf8.decodeLossy (bare.filter (· != 0))
          let taken := step.readInput (if size = bytes.length then .all else .exactly size)
          if !taken.isGoing then taken
          else
            let start := number 'O'
            let entries := shown.zipIdx.map fun (text, place) =>
              (⟨some (toString (start + place)), false, text⟩ : GivenEntry)
            let given := taken.give (.entries name (options.any (·.1 == 'O')) entries)
            if given.isGoing then given.withStatus 0 else given

end MakeCheck.Shell
