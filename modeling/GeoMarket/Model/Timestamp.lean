import GeoMarket.Record.Codec
import GeoMarket.Text.Ascii
import GeoMarket.Text.Blank

/-!
# Timestamps

A timestamp is a date and a time of day in the proleptic Gregorian calendar, with an offset from
universal time in minutes. A second of 60 is a leap second. Reading follows RFC 3339 with some
freedom: numbers may lack leading zeros, white space may stand in front of a number or a mark,
and the offset may be written `UTC`. Writing uses the fewest of 0, 3, 6 or 9 fraction digits,
and `Z` for no offset.
-/
namespace GeoMarket

/-- A local date and time with its offset from universal time. -/
structure Timestamp where
  /-- The year. -/
  year : Int
  /-- The month, from 1. -/
  month : Nat
  /-- The day of the month, from 1. -/
  day : Nat
  /-- The hour. -/
  hour : Nat
  /-- The minute. -/
  minute : Nat
  /-- The second; 60 is a leap second. -/
  second : Nat
  /-- The nanosecond. -/
  nanosecond : Nat
  /-- How many minutes the local time is ahead of universal time. -/
  offset : Int
  deriving DecidableEq

namespace Timestamp

/-- A year with a twenty-ninth of February. -/
def isLeapYear (year : Int) : Bool := year % 4 == 0 && (year % 100 != 0 || year % 400 == 0)

/-- The number of days of a month. -/
def daysInMonth (year : Int) (month : Nat) : Nat :=
  match month with
  | 2 => if isLeapYear year then 29 else 28
  | 4 | 6 | 9 | 11 => 30
  | _ => 31

/-- The number of a day, counted from the first of March of the year zero. -/
def dayNumber (year : Int) (month day : Nat) : Int :=
  let shifted := if month ≤ 2 then year - 1 else year
  let monthFromMarch := (month + 9) % 12
  365 * shifted + shifted / 4 - shifted / 100 + shifted / 400
    + ((153 * monthFromMarch + 2) / 5 : Nat) + ((day : Int) - 1)

/-- The first year that a date can have. -/
def firstYear : Int := -262143

/-- The last year that a date can have. -/
def lastYear : Int := 262142

/-- Seconds of universal time; a leap second counts as the second before it. -/
def universalSeconds (stamp : Timestamp) : Int :=
  dayNumber stamp.year stamp.month stamp.day * 86400
    + (stamp.hour * 3600 + stamp.minute * 60 + min stamp.second 59 : Nat) - stamp.offset * 60

/-- Nanoseconds within the second, a leap second continuing behind the second before it. -/
def universalNanoseconds (stamp : Timestamp) : Nat :=
  stamp.nanosecond + if stamp.second = 60 then 1000000000 else 0

/-- The same point of universal time, whatever the offsets. -/
def sameInstant (left right : Timestamp) : Bool :=
  left.universalSeconds == right.universalSeconds
    && left.universalNanoseconds == right.universalNanoseconds

instance : BEq Timestamp := ⟨sameInstant⟩

/-- The parts lie in their ranges, and so does the point of universal time. -/
def isValid (stamp : Timestamp) : Bool :=
  decide (firstYear ≤ stamp.year) && decide (stamp.year ≤ lastYear)
    && decide (1 ≤ stamp.month) && decide (stamp.month ≤ 12)
    && decide (1 ≤ stamp.day) && decide (stamp.day ≤ daysInMonth stamp.year stamp.month)
    && decide (stamp.hour ≤ 23) && decide (stamp.minute ≤ 59) && decide (stamp.second ≤ 60)
    && decide (stamp.nanosecond < 1000000000) && decide (stamp.offset.natAbs < 1440)
    && decide (dayNumber firstYear 1 1 * 86400 ≤ stamp.universalSeconds)
    && decide (stamp.universalSeconds < (dayNumber lastYear 12 31 + 1) * 86400)

/-- The sign, hour and minute of an offset. -/
def offsetText (offset : Int) : String :=
  if offset = 0 then "Z"
  else
    (if offset < 0 then "-" else "+") ++ Text.padded 2 (offset.natAbs / 60) ++ ":"
      ++ Text.padded 2 (offset.natAbs % 60)

/-- The fraction of a second with the fewest digits, in groups of three, that lose nothing. -/
def fractionText (nanosecond : Nat) : String :=
  if nanosecond = 0 then ""
  else if nanosecond % 1000000 = 0 then "." ++ Text.padded 3 (nanosecond / 1000000)
  else if nanosecond % 1000 = 0 then "." ++ Text.padded 6 (nanosecond / 1000)
  else "." ++ Text.padded 9 nanosecond

/-- The year in four digits; with its sign when it has more of them or is negative. -/
def yearText (year : Int) : String :=
  if 0 ≤ year ∧ year ≤ 9999 then Text.padded 4 year.natAbs
  else (if year < 0 then "-" else "+") ++ Text.padded 4 year.natAbs

/-- The timestamp as a text. -/
def text (stamp : Timestamp) : String :=
  yearText stamp.year ++ "-" ++ Text.padded 2 stamp.month ++ "-" ++ Text.padded 2 stamp.day
    ++ "T" ++ Text.padded 2 stamp.hour ++ ":" ++ Text.padded 2 stamp.minute
    ++ ":" ++ Text.padded 2 stamp.second ++ fractionText stamp.nanosecond
    ++ offsetText stamp.offset

/-- The text from its first character that is not white space. -/
def skipBlank (text : List Char) : List Char := text.dropWhile Text.isBlank

/-- At most `width` leading digits as a number, and how many there were. -/
def digitsUpTo : Nat → Nat → Nat → List Char → Nat × Nat × List Char
  | 0, value, count, rest => (value, count, rest)
  | width + 1, value, count, character :: rest =>
    match Text.digitValue? character with
    | some digit => digitsUpTo width (value * 10 + digit) (count + 1) rest
    | none => (value, count, character :: rest)
  | _ + 1, value, count, [] => (value, count, [])

/-- A number of one to `width` digits behind white space. -/
def number? (width : Nat) (text : List Char) : Option (Nat × List Char) :=
  match digitsUpTo width 0 0 (skipBlank text) with
  | (_, 0, _) => none
  | (value, _, rest) => some (value, rest)

/-- A number of any length directly at the front of a text. -/
def longNumber? (text : List Char) : Option (Nat × List Char) :=
  match digitsUpTo text.length 0 0 text with
  | (_, 0, _) => none
  | (value, _, rest) => some (value, rest)

/-- A year: up to four digits, or any number of them behind a sign. -/
def year? (text : List Char) : Option (Int × List Char) :=
  match skipBlank text with
  | '-' :: rest => (longNumber? rest).map fun (value, rest) => (-(value : Int), rest)
  | '+' :: rest => (longNumber? rest).map fun (value, rest) => ((value : Int), rest)
  | rest => (number? 4 rest).map fun (value, rest) => ((value : Int), rest)

/-- A mark behind white space. -/
def mark? (mark : Char) (text : List Char) : Option (List Char) :=
  match skipBlank text with
  | character :: rest => if character == mark then some rest else none
  | [] => none

/-- The fraction of a second; digits beyond the ninth count for nothing. -/
def fraction? : List Char → Option (Nat × List Char)
  | '.' :: rest =>
    match digitsUpTo 9 0 0 rest with
    | (_, 0, _) => none
    | (value, count, rest) => some (value * Nat.pow 10 (9 - count), rest.dropWhile Char.isDigit)
  | rest => some (0, rest)

/-- Exactly two digits. -/
def twoDigits? : List Char → Option (Nat × List Char)
  | first :: second :: rest => do
    let tens ← Text.digitValue? first
    let units ← Text.digitValue? second
    some (tens * 10 + units, rest)
  | _ => none

/-- Hours and minutes of an offset; colons and white space may stand between them. -/
def signedOffset? (sign : Int) (text : List Char) : Option (Int × List Char) := do
  let (hours, rest) ← twoDigits? text
  let (minutes, rest) ← twoDigits? (rest.dropWhile fun c => c == ':' || Text.isBlank c)
  if minutes < 60 then some (sign * (hours * 60 + minutes : Nat), rest) else none

/-- The offset of a timestamp. -/
def offset? (text : List Char) : Option (Int × List Char) :=
  if (text.take 3).map Char.toLower = ['u', 't', 'c'] then some (0, text.drop 3)
  else match text with
    | 'Z' :: rest => some (0, rest)
    | 'z' :: rest => some (0, rest)
    | '+' :: rest => signedOffset? 1 rest
    | '-' :: rest => signedOffset? (-1) rest
    | '−' :: rest => signedOffset? (-1) rest
    | _ => none

/-- The mark between date and time. -/
def separator? : List Char → Option (List Char)
  | character :: rest => if "tT ".toList.contains character then some rest else none
  | [] => none

/-- The timestamp that a text stands for. -/
def ofText? (text : String) : Option Timestamp := do
  let (year, rest) ← year? text.toList
  let rest ← mark? '-' rest
  let (month, rest) ← number? 2 rest
  let rest ← mark? '-' rest
  let (day, rest) ← number? 2 rest
  let rest ← separator? rest
  let (hour, rest) ← number? 2 rest
  let rest ← mark? ':' rest
  let (minute, rest) ← number? 2 rest
  let rest ← mark? ':' rest
  let (second, rest) ← number? 2 rest
  let (nanosecond, rest) ← fraction? rest
  let (offset, rest) ← offset? (skipBlank rest)
  let stamp := { year, month, day, hour, minute, second, nanosecond, offset }
  if (skipBlank rest).isEmpty && stamp.isValid then some stamp else none

/-- The codec of timestamps. -/
def codec : Codec Timestamp := Codec.text.refine ofText? text

end Timestamp
end GeoMarket
