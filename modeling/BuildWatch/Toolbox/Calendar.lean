import BuildWatch.Toolbox.Options

/-! A program that tells the time. Days are counted by the calendar that is used all over the world, and there is no
other time zone than the universal one. -/

namespace BuildWatch.Toolbox

open Machine

/-- A moment, taken apart. -/
structure Moment where
  year : Int
  month : Nat
  day : Nat
  second : Nat
  deriving Inhabited

namespace Moment

def isLeap (year : Int) : Bool := year % 4 = 0 && (year % 100 != 0 || year % 400 = 0)

def monthLengths (year : Int) : List Nat := [31, if isLeap year then 29 else 28, 31, 30, 31, 30, 31, 31, 30, 31, 30, 31]

/-- The days from the first one of the year 1970 up to the first one of another year. -/
def daysBefore (year : Int) : Int :=
  let before := year - 1
  (before * 365 + before / 4 - before / 100 + before / 400) - 719162

def yearOf (days : Int) : Int :=
  let guess := 1970 + days / 366
  let candidates := (List.range 200).map fun (offset : Nat) => guess + (offset : Int) - 100
  ((candidates.reverse.find? fun year => daysBefore year ≤ days)).getD guess

/-- The month and the day of a day of a year. -/
def monthOf (lengths : List Nat) (month rest : Nat) : Nat × Nat :=
  match lengths with
  | [] => (month, rest + 1)
  | length :: later => if rest < length then (month, rest + 1) else monthOf later (month + 1) (rest - length)

def ofSeconds (seconds : Int) : Moment :=
  let days := seconds / 86400
  let year := yearOf days
  let (month, day) := monthOf (monthLengths year) 1 (days - daysBefore year).toNat
  { year, month, day, second := (seconds % 86400).toNat }

def dayOfYear (moment : Moment) : Nat := ((monthLengths moment.year).take (moment.month - 1)).foldl (· + ·) 0 + moment.day

def toSeconds (moment : Moment) : Int := (daysBefore moment.year + moment.dayOfYear - 1) * 86400 + moment.second

/-- Sunday is zero. -/
def weekday (moment : Moment) : Nat := ((moment.toSeconds / 86400 + 4) % 7).toNat

def isValid (moment : Moment) : Bool :=
  1 ≤ moment.month && moment.month ≤ 12 && 1 ≤ moment.day && moment.day ≤ (monthLengths moment.year).getD (moment.month - 1) 0

def weekdays : List String := ["Sunday", "Monday", "Tuesday", "Wednesday", "Thursday", "Friday", "Saturday"]

def months : List String :=
  ["January", "February", "March", "April", "May", "June", "July", "August", "September", "October", "November", "December"]

def brief (name : String) : String := String.ofList (name.toList.take 3)

def hour (moment : Moment) : Nat := moment.second / 3600

def two (value : Nat) : String := (if value < 10 then "0" else "") ++ toString value

def blankTwo (value : Nat) : String := (if value < 10 then " " else "") ++ toString value

/-- The week of a year in which weeks begin with a Monday, and the year that it belongs to. -/
def week (moment : Moment) : Int × Nat :=
  let weekday := (moment.weekday + 6) % 7
  let number : Int := ((moment.dayOfYear : Int) - weekday + 9) / 7
  let weeksOf (year : Int) : Int :=
    let start := { year, month := 1, day := 1, second := 0 : Moment }.weekday
    if start = 4 || (isLeap year && start = 3) then 53 else 52
  if number < 1 then (moment.year - 1, (weeksOf (moment.year - 1)).toNat)
  else if weeksOf moment.year < number then (moment.year + 1, 1)
  else (moment.year, number.toNat)

/-- What a letter of a format stands for. -/
def directive? (moment : Moment) (letter : Char) : Option String :=
  let hour := moment.hour
  let half := if hour % 12 = 0 then 12 else hour % 12
  let weekday := weekdays.getD moment.weekday ""
  let month := months.getD (moment.month - 1) ""
  let clock := two hour ++ ":" ++ two (moment.second / 60 % 60)
  let time := clock ++ ":" ++ two (moment.second % 60)
  let date := two moment.month ++ "/" ++ two moment.day ++ "/" ++ two (moment.year % 100).toNat
  match letter with
  | '%' => some "%"
  | 'a' => some (brief weekday)
  | 'A' => some weekday
  | 'b' => some (brief month)
  | 'h' => some (brief month)
  | 'B' => some month
  | 'c' => some s!"{brief weekday} {brief month} {blankTwo moment.day} {time} {moment.year}"
  | 'C' => some (two (moment.year / 100).toNat)
  | 'd' => some (two moment.day)
  | 'D' => some date
  | 'e' => some (blankTwo moment.day)
  | 'F' => some s!"{moment.year}-{two moment.month}-{two moment.day}"
  | 'g' => some (two (moment.week.1 % 100).toNat)
  | 'G' => some (toString moment.week.1)
  | 'H' => some (two hour)
  | 'I' => some (two half)
  | 'j' => some ((if moment.dayOfYear < 100 then "0" else "") ++ two moment.dayOfYear)
  | 'k' => some (blankTwo hour)
  | 'l' => some (blankTwo half)
  | 'm' => some (two moment.month)
  | 'M' => some (two (moment.second / 60 % 60))
  | 'n' => some "\n"
  | 'N' => some "000000000"
  | 'p' => some (if hour < 12 then "AM" else "PM")
  | 'P' => some (if hour < 12 then "am" else "pm")
  | 'q' => some (toString ((moment.month + 2) / 3))
  | 'r' => some (two half ++ ":" ++ two (moment.second / 60 % 60) ++ ":" ++ two (moment.second % 60) ++ (if hour < 12 then " AM" else " PM"))
  | 'R' => some clock
  | 's' => some (toString moment.toSeconds)
  | 'S' => some (two (moment.second % 60))
  | 't' => some "\t"
  | 'T' => some time
  | 'X' => some time
  | 'u' => some (toString (if moment.weekday = 0 then 7 else moment.weekday))
  | 'U' => some (two ((moment.dayOfYear + 6 - moment.weekday) / 7))
  | 'V' => some (two moment.week.2)
  | 'w' => some (toString moment.weekday)
  | 'W' => some (two ((moment.dayOfYear + 6 - (moment.weekday + 6) % 7) / 7))
  | 'x' => some date
  | 'y' => some (two (moment.year % 100).toNat)
  | 'Y' => some (toString moment.year)
  | 'z' => some "+0000"
  | 'Z' => some "UTC"
  | _ => none

/-- What stands in front of the letters that are numbers until they have as many digits as they should. -/
def filling (letter : Char) : Char := if ['e', 'k', 'l'].contains letter then ' ' else '0'

/-- How a letter is to be written. -/
structure Manner where
  /-- What numbers are filled up with, if that is not left to the letter. -/
  filler : Option Char := none
  /-- Numbers are not filled up. -/
  bare : Bool := false
  upper : Bool := false
  width : Nat := 0

def isNumber (letter : Char) : Bool := "CdegGHIjklmMsSuUVwWyYN".toList.contains letter

/-- A text as a manner has it. -/
def mannered (manner : Manner) (letter : Char) (text : List Char) : List Char :=
  let text := if manner.upper then text.map Char.toUpper else text
  if !isNumber letter then List.replicate (manner.width - text.length) (manner.filler.getD ' ') ++ text
  else
    let digits := text.dropWhile fun c => c = '0' || c = ' '
    let digits := if digits.isEmpty then text.drop (text.length - 1) else digits
    if manner.bare then digits
    else
      let width := max text.length manner.width
      List.replicate (width - digits.length) (manner.filler.getD (filling letter)) ++ digits

/-- The marks behind a percent sign, and what follows them. -/
def readManner (manner : Manner) : List Char → Manner × List Char
  | '-' :: rest => readManner { manner with bare := true } rest
  | '_' :: rest => readManner { manner with filler := some ' ' } rest
  | '0' :: rest => readManner { manner with filler := some '0' } rest
  | '^' :: rest => readManner { manner with upper := true } rest
  | rest =>
    let digits := rest.takeWhile Char.isDigit
    ({ manner with width := Ascii.number 10 digits }, rest.drop digits.length)

/-- A format with its letters carried out. -/
def formatted (moment : Moment) (fuel : Nat) (format : List Char) : List Char :=
  match fuel, format with
  | 0, _ => []
  | _, [] => []
  | fuel + 1, '%' :: rest =>
    match readManner {} rest with
    | (manner, letter :: after) =>
      match moment.directive? letter with
      | some text => mannered manner letter text.toList ++ formatted moment fuel after
      | none => '%' :: formatted moment fuel rest
    | (_, []) => '%' :: rest
  | fuel + 1, c :: rest => c :: formatted moment fuel rest

/-- Hours, minutes and seconds, as far as they are given. -/
def clock? (text : String) : Option Nat :=
  match (text.splitOn ":").map decimal? with
  | [some hour, some minute] => if hour < 24 && minute < 60 then some (hour * 3600 + minute * 60) else none
  | [some hour, some minute, some second] =>
    if hour < 24 && minute < 60 && second < 61 then some (hour * 3600 + minute * 60 + second) else none
  | _ => none

def date? (text : String) (second : Nat) : Option Int :=
  match (text.splitOn "-").map decimal? with
  | [some year, some month, some day] =>
    let moment : Moment := { year, month, day, second }
    if moment.isValid then some moment.toSeconds else none
  | _ => none

/-- The moment that a text names. -/
def seconds? (now : Int) (text : String) : Option Int :=
  let words := ((text.map fun c => if (c = 'T' || c = 'Z') && text.toList.contains ':' then ' ' else c).splitOn " ").filter fun word =>
    !word.isEmpty && word != "UTC" && word != "Z" && word != "GMT"
  match words with
  | [] => some (now - now % 86400)
  | ["now"] => some now
  | ["today"] => some now
  | ["yesterday"] => some (now - 86400)
  | ["tomorrow"] => some (now + 86400)
  | [word] =>
    if word.startsWith "@" then integer? (String.ofList (word.toList.drop 1))
    else
      match date? word 0 with
      | some seconds => some seconds
      | none => (clock? word).map fun second => now - now % 86400 + second
  | [date, clock] => (clock? clock).bind (date? date)
  | _ => none

end Moment

def dateTable : OptionTable :=
  { tool := "date", letters := "d:uI::Rr:s:",
    names := [("date", 'd'), ("utc", 'u'), ("universal", 'u'), ("iso-8601", 'I'), ("rfc-email", 'R'), ("reference", 'r')] }

/-- The moment at which every machine begins. -/
def firstMoment : Int := 1700000000

def date : Tool := withOptions dateTable fun given _ =>
  let text := (given.value? 'd').getD "now"
  match Moment.seconds? firstMoment text with
  | none => refuse "date" s!"invalid date '{text}'"
  | some seconds =>
    let moment := Moment.ofSeconds seconds
    let show' (format : String) : Program := writeLines "date" [String.ofList (moment.formatted (format.length + 1) format.toList)] 0
    match given.operands with
    | _ :: extra :: _ => extraOperand "date" extra
    | [format] =>
      if format.startsWith "+" then show' (String.ofList (format.toList.drop 1)) else refuse "date" s!"invalid date '{format}'"
    | [] =>
      if given.has 'R' then show' "%a, %d %b %Y %H:%M:%S %z"
      else
        match given.value? 'I' with
        | some "seconds" => show' "%FT%T+00:00"
        | some "minutes" => show' "%FT%R+00:00"
        | some _ => show' "%F"
        | none => show' "%a %b %e %H:%M:%S %Z %Y"

end BuildWatch.Toolbox
