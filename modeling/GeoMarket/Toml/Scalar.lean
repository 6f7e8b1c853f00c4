import GeoMarket.Json.Number
import GeoMarket.Model.Timestamp
import GeoMarket.Toml.Basic

/-!
# Scalars of settings documents

Texts come in four kinds: in one line or in several, with escapes or without. Whole numbers have
64 bits and may be written to the base 2, 8, 10 or 16; an underscore may stand between two
digits. Dates and times follow the calendar. Lines end with a line feed here.
-/
namespace GeoMarket.Toml

/-- A space or a tab. -/
def isGap (character : Char) : Bool := character == ' ' || character == '\t'

/-- The text behind spaces and tabs. -/
def skipGap (text : List Char) : List Char := text.dropWhile isGap

/-- A character that is no control character, or a tab. -/
def isPrintable (character : Char) : Bool :=
  character == '\t' || (decide (32 ≤ character.toNat) && character.toNat != 127)

/-- The text behind gaps, ends of lines and comments; the first argument tells whether the text
starts inside a comment. -/
def skipLines : Bool → List Char → List Char
  | _, [] => []
  | inComment, character :: rest =>
    if character = '\n' then skipLines false rest
    else if inComment then
      if isPrintable character then skipLines true rest else character :: rest
    else if character = '#' then skipLines true rest
    else if isGap character then skipLines false rest
    else character :: rest

section Texts

/-- The number that some hexadecimal digits name. -/
def hexNumber? (digits : List Char) : Option Nat :=
  (digits.mapM Text.hexValue?).map fun values =>
    values.foldl (fun sum digit => sum * 16 + digit.val) 0

/-- The character that a number of hexadecimal digits at the front name. -/
def codePoint? (count : Nat) (text : List Char) : Option (Char × List Char) :=
  if text.length < count then none
  else
    match hexNumber? (text.take count) with
    | some code => if code.isValidChar then some (Char.ofNat code, text.drop count) else none
    | none => none

/-- The character of an escape without its backslash. -/
def escape? : List Char → Option (Char × List Char)
  | 'b' :: rest => some (Char.ofNat 8, rest)
  | 't' :: rest => some ('\t', rest)
  | 'n' :: rest => some ('\n', rest)
  | 'f' :: rest => some (Char.ofNat 12, rest)
  | 'r' :: rest => some ('\r', rest)
  | '"' :: rest => some ('"', rest)
  | '\\' :: rest => some ('\\', rest)
  | 'u' :: rest => codePoint? 4 rest
  | 'U' :: rest => codePoint? 8 rest
  | _ => none

/-- A text with escapes on one line, behind its opening mark, after the reversed characters
found so far. -/
def escapedText? : Nat → List Char → List Char → Option (String × List Char)
  | 0, _, _ => none
  | _ + 1, found, '"' :: rest => some (String.ofList found.reverse, rest)
  | fuel + 1, found, '\\' :: rest =>
    (escape? rest).bind fun (character, rest) => escapedText? fuel (character :: found) rest
  | fuel + 1, found, character :: rest =>
    if isPrintable character then escapedText? fuel (character :: found) rest else none
  | _ + 1, _, [] => none

/-- A text without escapes on one line, behind its opening mark. -/
def literalText? (text : List Char) : Option (String × List Char) :=
  let (inside, rest) := (text.takeWhile (· != '\''), text.dropWhile (· != '\''))
  if inside.all isPrintable ∧ rest ≠ [] then some (String.ofList inside, rest.drop 1) else none

/-- The text behind gaps and ends of lines. -/
def skipSpace (text : List Char) : List Char :=
  text.dropWhile fun character => isGap character || character == '\n'

/-- The marks that belong to a text in several lines and the text behind it, if three marks or
more at the front end it; two more marks than that belong to the text. -/
def closing? (mark : Char) (text : List Char) : Option (List Char × List Char) :=
  let marks := ((text.takeWhile (· == mark)).take 5).length
  if 3 ≤ marks then some (List.replicate (marks - 3) mark, text.drop marks) else none

/-- A text in several lines behind its opening marks, after the reversed characters found so
far. Behind a backslash at the end of a line, gaps and ends of lines do not count. -/
def longText? (mark : Char) : Nat → List Char → List Char → Option (String × List Char)
  | 0, _, _ => none
  | _ + 1, _, [] => none
  | fuel + 1, found, character :: rest =>
    match closing? mark (character :: rest) with
    | some (marks, rest) => some (String.ofList (found.reverse ++ marks), rest)
    | none =>
      if character = '\\' ∧ mark = '"' then
        match skipGap rest with
        | '\n' :: rest => longText? mark fuel found (skipSpace rest)
        | _ =>
          (escape? rest).bind fun (character, rest) =>
            longText? mark fuel (character :: found) rest
      else if character = '\n' ∨ isPrintable character then
        longText? mark fuel (character :: found) rest
      else none

/-- A text in several lines behind its opening marks; an end of a line right behind these does
not count. -/
def openedText? (mark : Char) (text : List Char) : Option (String × List Char) :=
  let body := match text with
    | '\n' :: rest => rest
    | text => text
  longText? mark (body.length + 1) [] body

/-- A text of one line. -/
def shortText? : List Char → Option (String × List Char)
  | '"' :: rest => escapedText? (rest.length + 1) [] rest
  | '\'' :: rest => literalText? rest
  | _ => none

/-- A text of any kind. -/
def text? : List Char → Option (String × List Char)
  | '"' :: '"' :: '"' :: rest => openedText? '"' rest
  | '\'' :: '\'' :: '\'' :: rest => openedText? '\'' rest
  | text => shortText? text

end Texts

section Numbers

/-- The digits to a base at the front, with underscores between them. -/
def digits? (digit? : Char → Option Nat) : List Char → Option (List Nat × List Char)
  | [] => none
  | character :: rest =>
    match digit? character with
    | none => none
    | some digit =>
      match rest with
      | '_' :: rest => (digits? digit? rest).map fun (digits, rest) => (digit :: digits, rest)
      | rest =>
        match digits? digit? rest with
        | some (digits, rest) => some (digit :: digits, rest)
        | none => some ([digit], rest)

/-- The value of a digit to a base. -/
def digitBelow? (base : Nat) (character : Char) : Option Nat :=
  (Text.hexValue? character).bind fun value => if value.val < base then some value.val else none

/-- The number that digits to a base name. -/
def numberOf (base : Nat) (digits : List Nat) : Nat :=
  digits.foldl (fun sum digit => sum * base + digit) 0

/-- The sign at the front, and the text behind it. -/
def sign : List Char → Bool × List Char
  | '-' :: rest => (true, rest)
  | '+' :: rest => (false, rest)
  | text => (false, text)

/-- Decimal digits that do not start with a zero, or the zero alone. -/
def decimal? (text : List Char) : Option (List Nat × List Char) :=
  match text with
  | '0' :: rest => some ([0], rest)
  | text => digits? (digitBelow? 10) text

/-- A whole number of 64 bits. -/
def bounded? (value : Int) : Option Toml :=
  if -0x8000000000000000 ≤ value ∧ value < 0x8000000000000000 then some (.integer value) else none

/-- A whole number to a base behind its mark. -/
def based? (base : Nat) (text : List Char) : Option (Toml × List Char) := do
  let (digits, rest) ← digits? (digitBelow? base) text
  (bounded? (numberOf base digits)).map fun value => (value, rest)

/-- A whole number. -/
def integer? (text : List Char) : Option (Toml × List Char) :=
  match text with
  | '0' :: 'x' :: rest => based? 16 rest
  | '0' :: 'o' :: rest => based? 8 rest
  | '0' :: 'b' :: rest => based? 2 rest
  | text => do
    let (negative, unsigned) := sign text
    let (digits, rest) ← decimal? unsigned
    let value : Int := numberOf 10 digits
    (bounded? (if negative then -value else value)).map fun value => (value, rest)

/-- The fraction of a number, if it has one. -/
def fraction? : List Char → Option (Option (List Nat) × List Char)
  | '.' :: rest => (digits? (digitBelow? 10) rest).map fun (digits, rest) => (some digits, rest)
  | text => some (none, text)

/-- The power of ten of a number, if it has one. -/
def power? : List Char → Option (Option (Bool × List Nat) × List Char)
  | mark :: text =>
    if mark = 'e' ∨ mark = 'E' then
      let (down, rest) := sign text
      (digits? (digitBelow? 10) rest).map fun (digits, rest) => (some (down, digits), rest)
    else some (none, mark :: text)
  | [] => some (none, [])

/-- A number with a fraction or an exponent; a positive one must not be too large. -/
def fractional? (text : List Char) : Option (Toml × List Char) := do
  let (negative, unsigned) := sign text
  let (whole, rest) ← decimal? unsigned
  let (fraction, rest) ← fraction? rest
  let (power, rest) ← power? rest
  let literal : Json.Literal := { negative, whole, fraction, power }
  if fraction.isNone ∧ power.isNone then none
  else if literal.magnitude?.isNone ∧ !negative then none
  else some (.real, rest)

/-- A name for a number that is not finite. -/
def specialNumber? (text : List Char) : Option (Toml × List Char) :=
  match (sign text).2 with
  | 'i' :: 'n' :: 'f' :: rest => some (.real, rest)
  | 'n' :: 'a' :: 'n' :: rest => some (.real, rest)
  | _ => none

end Numbers

section Moments

/-- A number of exactly so many digits within bounds. -/
def counted? (count least greatest : Nat) (text : List Char) : Option (Nat × List Char) :=
  let front := text.take count
  if front.length = count ∧ front.all Char.isDigit then
    let value := numberOf 10 (front.filterMap Text.digitValue?)
    if least ≤ value ∧ value ≤ greatest then some (value, text.drop count) else none
  else none

/-- The text behind a mark. -/
def behind? (mark : Char) : List Char → Option (List Char)
  | character :: rest => if character = mark then some rest else none
  | [] => none

/-- The text behind a date. -/
def afterDate? (text : List Char) : Option (List Char) := do
  let (year, rest) ← counted? 4 0 9999 text
  let (month, rest) ← counted? 2 1 12 (← behind? '-' rest)
  let (_, rest) ← counted? 2 1 (Timestamp.daysInMonth year month) (← behind? '-' rest)
  some rest

/-- The text behind the fraction of a second, which is missing or has a digit. -/
def afterFraction : List Char → List Char
  | '.' :: rest =>
    if (rest.takeWhile Char.isDigit).isEmpty then '.' :: rest else rest.dropWhile Char.isDigit
  | text => text

/-- The text behind a time of day. -/
def afterTime? (text : List Char) : Option (List Char) := do
  let (_, rest) ← counted? 2 0 23 text
  let (_, rest) ← counted? 2 0 59 (← behind? ':' rest)
  let (_, rest) ← counted? 2 0 60 (← behind? ':' rest)
  some (afterFraction rest)

/-- The text behind an hour and a minute. -/
def afterMinute? (text : List Char) : Option (List Char) := do
  let (_, rest) ← counted? 2 0 23 text
  let (_, rest) ← counted? 2 0 59 (← behind? ':' rest)
  some rest

/-- The text behind an offset from universal time, which may be missing. -/
def afterOffset? : List Char → Option (List Char)
  | mark :: rest =>
    if mark = 'Z' ∨ mark = 'z' then some rest
    else if mark = '+' ∨ mark = '-' then afterMinute? rest
    else some (mark :: rest)
  | [] => some []

/-- The text behind a time of day with its mark and an offset, or the whole text. -/
def afterClock? (text : List Char) : Option (List Char) :=
  match text with
  | mark :: rest =>
    if mark = 'T' ∨ mark = 't' ∨ mark = ' ' then
      match afterTime? rest with
      | some rest => afterOffset? rest
      | none => some text
    else some text
  | [] => some []

/-- A date, a time of day or both. -/
def moment? (text : List Char) : Option (Toml × List Char) :=
  match afterDate? text with
  | some rest => (afterClock? rest).map fun rest => (.moment, rest)
  | none => (afterTime? text).map fun rest => (.moment, rest)

end Moments

/-- A value that is no array and no table. -/
def scalar? (text : List Char) : Option (Toml × List Char) :=
  match text with
  | 't' :: 'r' :: 'u' :: 'e' :: rest => some (.flag true, rest)
  | 'f' :: 'a' :: 'l' :: 's' :: 'e' :: rest => some (.flag false, rest)
  | '"' :: _ => (text? text).map fun (value, rest) => (.string value, rest)
  | '\'' :: _ => (text? text).map fun (value, rest) => (.string value, rest)
  | _ =>
    (moment? text).orElse fun _ => (fractional? text).orElse fun _ =>
      (specialNumber? text).orElse fun _ => integer? text

end GeoMarket.Toml
