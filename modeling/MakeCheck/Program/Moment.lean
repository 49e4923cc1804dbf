import MakeCheck.FileStore.Basic

namespace MakeCheck.Program

-- A moment on the calendar, to the nanosecond.
structure Moment where
  year : Int
  month : Nat
  day : Nat
  hour : Nat
  minute : Nat
  second : Nat
  nanos : Nat
deriving DecidableEq

-- The number of a day, counted from the first of 1970. Years begin in March here, so that the day
-- that is missing at times comes last.
def dayNumber (year : Int) (month day : Nat) : Int :=
  let year := if month ≤ 2 then year - 1 else year
  let era := year.fdiv 400
  let yearOfEra := year - era * 400
  let fromMarch := (month + 9) % 12
  let dayOfYear : Int := (153 * fromMarch + 2) / 5 + day - 1
  era * 146097 + yearOfEra * 365 + yearOfEra / 4 - yearOfEra / 100 + dayOfYear - 719468

def dateOf (number : Int) : Int × Nat × Nat :=
  let z := number + 719468
  let era := z.fdiv 146097
  let day := (z - era * 146097).toNat
  let yearOfEra := (day - day / 1460 + day / 36524 - day / 146096) / 365
  let dayOfYear := day - (365 * yearOfEra + yearOfEra / 4 - yearOfEra / 100)
  let fromMarch := (5 * dayOfYear + 2) / 153
  let month := if fromMarch < 10 then fromMarch + 3 else fromMarch - 9
  (yearOfEra + era * 400 + (if month ≤ 2 then 1 else 0), month,
    dayOfYear - (153 * fromMarch + 2) / 5 + 1)

namespace Moment

def time (moment : Moment) : Time :=
  let seconds := dayNumber moment.year moment.month moment.day * 86400 +
    (moment.hour * 3600 + moment.minute * 60 + moment.second : Nat)
  seconds * Time.second + moment.nanos

def ofTime (time : Time) : Moment :=
  let seconds := time.fdiv Time.second
  let number := seconds.fdiv 86400
  let rest := (seconds - number * 86400).toNat
  let (year, month, day) := dateOf number
  { year, month, day
    hour := rest / 3600
    minute := rest / 60 % 60
    second := rest % 60
    nanos := (time - seconds * Time.second).toNat }

def monthNames : List String :=
  ["January", "February", "March", "April", "May", "June", "July", "August", "September",
    "October", "November", "December"]

def dayNames : List String :=
  ["Sunday", "Monday", "Tuesday", "Wednesday", "Thursday", "Friday", "Saturday"]

def monthName (moment : Moment) : String :=
  (monthNames[moment.month - 1]?).getD ""

def weekday (moment : Moment) : Nat :=
  ((dayNumber moment.year moment.month moment.day + 4) % 7).toNat

def yearDay (moment : Moment) : Nat :=
  (dayNumber moment.year moment.month moment.day - dayNumber moment.year 1 1 + 1).toNat

end Moment

def filled (width : Nat) (fill : Char) (n : Int) : String :=
  let text := toString n
  String.ofList (List.replicate (width - text.length) fill) ++ text

def formatMoment (moment : Moment) : List Char → String
  | '%' :: c :: rest =>
      let two (n : Nat) : String := filled 2 '0' n
      let date := toString moment.year ++ "-" ++ two moment.month ++ "-" ++ two moment.day
      let clock := two moment.hour ++ ":" ++ two moment.minute ++ ":" ++ two moment.second
      let dayName := (Moment.dayNames[moment.weekday]?).getD ""
      let hour12 := (moment.hour + 11) % 12 + 1
      let short (name : String) : String := (name.take 3).toString
      let found :=
        match c with
        | 'Y' => toString moment.year
        | 'C' => two (moment.year / 100).toNat
        | 'y' => two (moment.year % 100).toNat
        | 'm' => two moment.month
        | 'd' => two moment.day
        | 'e' => filled 2 ' ' moment.day
        | 'H' => two moment.hour
        | 'k' => filled 2 ' ' moment.hour
        | 'I' => two hour12
        | 'l' => filled 2 ' ' hour12
        | 'M' => two moment.minute
        | 'S' => two moment.second
        | 'N' => filled 9 '0' moment.nanos
        | 'p' => if moment.hour < 12 then "AM" else "PM"
        | 'j' => filled 3 '0' moment.yearDay
        | 'u' => toString ((moment.weekday + 6) % 7 + 1)
        | 'w' => toString moment.weekday
        | 's' => toString (moment.time.fdiv Time.second)
        | 'F' => date
        | 'T' => clock
        | 'X' => clock
        | 'R' => two moment.hour ++ ":" ++ two moment.minute
        | 'D' | 'x' =>
            two moment.month ++ "/" ++ two moment.day ++ "/" ++ two (moment.year % 100).toNat
        | 'a' => short dayName
        | 'A' => dayName
        | 'b' | 'h' => short moment.monthName
        | 'B' => moment.monthName
        | 'Z' => "UTC"
        | 'z' => "+0000"
        | 'c' =>
            short dayName ++ " " ++ short moment.monthName ++ " " ++ filled 2 ' ' moment.day ++
              " " ++ clock ++ " " ++ toString moment.year
        | 'n' => "\n"
        | 't' => "\t"
        | '%' => "%"
        | c => String.ofList ['%', c]
      found ++ formatMoment moment rest
  | c :: rest => c.toString ++ formatMoment moment rest
  | [] => ""

def digitsValue (s : List Char) : Nat :=
  s.foldl (fun n c => n * 10 + (c.toNat - '0'.toNat)) 0

-- The numbers of a text whose pieces stand between a mark.
def numbersBetween? (mark : Char) (s : List Char) : Option (List Nat) :=
  (s.splitOn mark).mapM fun piece =>
    if !piece.isEmpty && piece.all Char.isDigit then some (digitsValue piece) else none

def isValidDate (month day hour minute second : Nat) : Bool :=
  1 ≤ month && month ≤ 12 && 1 ≤ day && day ≤ 31 && hour < 24 && minute < 60 && second ≤ 60

-- A day of the calendar such as `2020-01-31` at nought.
def date? (word : List Char) : Option Moment :=
  match numbersBetween? '-' word with
  | some [year, month, day] =>
      if isValidDate month day 0 0 0 then some ⟨year, month, day, 0, 0, 0, 0⟩ else none
  | _ => none

-- A time of a day such as `12:30:00.5`, put on a moment.
def onClock? (word : List Char) (moment : Moment) : Option Moment :=
  let whole := word.takeWhile (· != '.')
  let fraction := (word.drop whole.length).tail
  let nanos := digitsValue ((fraction ++ List.replicate 9 '0').take 9)
  if !fraction.all Char.isDigit then none
  else
    match numbersBetween? ':' whole with
    | some [hour, minute] =>
        if isValidDate 1 1 hour minute 0 then some { moment with hour, minute, second := 0, nanos }
        else none
    | some [hour, minute, second] =>
        if isValidDate 1 1 hour minute second then some { moment with hour, minute, second, nanos }
        else none
    | _ => none

def unitNanos? (word : String) : Option Int :=
  let name := if word.endsWith "s" && word != "s" then (word.dropEnd 1).toString else word
  ([("second", 1), ("sec", 1), ("minute", 60), ("min", 60), ("hour", 3600), ("day", 86400),
    ("week", 604800), ("fortnight", 1209600), ("year", 31536000), ("month", 2592000)].lookup
      name).map fun seconds => seconds * Time.second

-- The time that words tell: a date, a time of day, or a distance from now.
def timeOfWords? (now : Time) : Nat → List String → Option Time
  | _, [] => some now
  | 0, _ => none
  | fuel + 1, word :: rest =>
      let s := word.toList
      let next (time : Time) : Option Time := timeOfWords? time fuel rest
      match s with
      | '@' :: number =>
          let digits := number.dropWhile (· == '-')
          let seconds : Int := digitsValue (digits.takeWhile Char.isDigit)
          if digits.isEmpty || !(digits.all fun c => c.isDigit || c == '.') then none
          else next ((if number.head? = some '-' then -seconds else seconds) * Time.second)
      | _ =>
          match word with
          | "now" | "today" | "UTC" | "Z" | "GMT" | "ago" => next now
          | "yesterday" => next (now - 86400 * Time.second)
          | "tomorrow" => next (now + 86400 * Time.second)
          | _ =>
              match s.splitOn 'T' with
              | [day, clock] =>
                  match (date? day).bind (onClock? (clock.filter (· != 'Z'))) with
                  | some moment => next moment.time
                  | none => none
              | _ =>
                  match date? s with
                  | some moment => next moment.time
                  | none =>
                      match onClock? s (Moment.ofTime now) with
                      | some moment => next moment.time
                      | none =>
                          let (sign, digits) :=
                            match s with
                            | '-' :: digits => (-1, digits)
                            | '+' :: digits => (1, digits)
                            | digits => (1, digits)
                          let number := digits.takeWhile Char.isDigit
                          let unit := String.ofList (digits.drop number.length)
                          let amount : Int := if number.isEmpty then 1 else digitsValue number
                          let (unit?, rest) :=
                            if unit != "" then (unitNanos? unit, rest)
                            else ((rest.head?).bind unitNanos?, rest.tail)
                          let isPast := rest.head? == some "ago"
                          match unit? with
                          | some nanos =>
                              let distance := sign * amount * nanos
                              timeOfWords? (if isPast then now - distance else now + distance)
                                fuel rest
                          | none => none

def timeOfText? (now : Time) (text : String) : Option Time :=
  let words := (text.toList.splitOnP fun c => c == ' ' || c == '\t').filter (· != [])
  let isDate := words.any fun word => (date? word).isSome
  let words := words.map String.ofList
  -- The day counts before the time on it.
  let (dates, others) := words.partition fun word => (date? word.toList).isSome
  timeOfWords? now (2 * words.length + 2) (if isDate then dates ++ others else words)

-- The time of a stamp such as `202001311230.00`. Without a year this year is meant.
def timeOfStamp? (now : Time) (text : String) : Option Time :=
  let whole := text.toList.takeWhile (· != '.')
  let seconds := (text.toList.drop whole.length).tail
  let year := (Moment.ofTime now).year
  if !(whole ++ seconds).all Char.isDigit then none
  else
    let pair (place : Nat) : Nat := digitsValue ((whole.drop place).take 2)
    let moment (year : Int) (start : Nat) : Option Time :=
      let second := digitsValue seconds
      let month := pair start
      let day := pair (start + 2)
      let hour := pair (start + 4)
      let minute := pair (start + 6)
      if isValidDate month day hour minute second then
        some (Moment.time ⟨year, month, day, hour, minute, second, 0⟩)
      else none
    match whole.length with
    | 8 => moment year 0
    | 10 => moment (if pair 0 < 69 then 2000 + pair 0 else 1900 + pair 0) 2
    | 12 => moment (digitsValue (whole.take 4)) 4
    | _ => none

end MakeCheck.Program
