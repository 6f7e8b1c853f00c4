import GeoMarket.Number.Binary64
import GeoMarket.Text.Ascii

/-!
# Decimal text of binary numbers

The shortest decimal that reads back as a given number is found in exact integer arithmetic:
the decimals that round to the number form an interval, and the coarsest decimal grid with a
point inside it decides how many digits are needed. From it come the two layouts with all the
digits; a layout with a fixed number of places is rounded from the exact value instead.
-/
namespace GeoMarket

/-- The decimal number `digits * 10 ^ exponent`. -/
structure Decimal where
  /-- The digits, read as one natural number. -/
  digits : Nat
  /-- The power of ten that the last digit counts. -/
  exponent : Int

namespace Decimal

/-- The decimal with its trailing zero digits moved into the exponent, at most `bound` of them. -/
def trimmed : Nat → Decimal → Decimal
  | 0, decimal => decimal
  | bound + 1, decimal =>
    if decimal.digits ≠ 0 ∧ decimal.digits % 10 = 0 then
      trimmed bound ⟨decimal.digits / 10, decimal.exponent + 1⟩
    else decimal

/-- The digits as characters. -/
def digitText (decimal : Decimal) : List Char := (toString decimal.digits).toList

/-- The power of ten that the first digit counts. -/
def leadingExponent (decimal : Decimal) : Int :=
  decimal.digitText.length + decimal.exponent - 1

/-- The digits before the decimal point, none of them a needless zero except a single one. -/
def wholeText (decimal : Decimal) : List Char :=
  let digits := decimal.digitText
  if 0 ≤ decimal.exponent then digits ++ List.replicate decimal.exponent.toNat '0'
  else
    let places := (-decimal.exponent).toNat
    if digits.length ≤ places then ['0'] else digits.take (digits.length - places)

/-- The digits after the decimal point. -/
def fractionText (decimal : Decimal) : List Char :=
  let digits := decimal.digitText
  if 0 ≤ decimal.exponent then []
  else
    let places := (-decimal.exponent).toNat
    List.replicate (places - digits.length) '0' ++ digits.drop (digits.length - places)

/-- All digits in place, with a decimal point only if a fraction follows. -/
def positional (decimal : Decimal) : String :=
  let fraction := decimal.fractionText
  String.ofList (decimal.wholeText ++ if fraction.isEmpty then [] else '.' :: fraction)

/-- One digit before the decimal point, and the power of ten behind `e` with its sign. -/
def scientific (decimal : Decimal) : String :=
  let power := decimal.leadingExponent
  let sign := if power < 0 then "-" else "+"
  let mantissa := match decimal.digitText with
    | [] => []
    | [digit] => [digit]
    | digit :: rest => digit :: '.' :: rest
  String.ofList mantissa ++ "e" ++ sign ++ toString power.natAbs

end Decimal

namespace Binary64

/-- Numerator and denominator of `factor * 2 ^ power`. -/
def scaled (factor : Nat) (power : Int) : Nat × Nat :=
  if 0 ≤ power then (factor * Nat.pow 2 power.toNat, 1) else (factor, Nat.pow 2 (-power).toNat)

/-- The exponent of the greatest power of ten not above a positive fraction. -/
def decimalExponent (numerator denominator : Nat) : Int :=
  if denominator ≤ numerator then
    ((toString (numerator / denominator)).length : Int) - 1
  else
    let close := (toString (denominator / numerator)).length
    if denominator ≤ numerator * Nat.pow 10 (close - 1) then 1 - (close : Int)
    else -(close : Int)

/-- The decimals of one grid that round to a positive number, described by four times the
number and its interval, all over one denominator. -/
structure RoundingInterval where
  /-- The lower end. -/
  low : Nat
  /-- The number itself. -/
  middle : Nat
  /-- The upper end. -/
  high : Nat
  /-- The common denominator. -/
  denominator : Nat
  /-- The ends belong to the interval. -/
  closed : Bool

/-- The interval of a positive finite number; below a power of two the gap is half as wide. -/
def roundingInterval (number : Binary64) : RoundingInterval :=
  let narrow := number.fractionField == 0 && decide (1 < number.exponentField)
  let (unit, denominator) := scaled 1 (number.exponent - 2)
  { low := (4 * number.significand - if narrow then 1 else 2) * unit
    middle := 4 * number.significand * unit
    high := (4 * number.significand + 2) * unit
    denominator
    closed := number.significand % 2 == 0 }

/-- The point of the grid of multiples of `10 ^ power` in the interval that is nearest to its
middle, a tie going to the even one. -/
def RoundingInterval.gridPoint? (interval : RoundingInterval) (power : Int) : Option Nat :=
  let shift := if power < 0 then Nat.pow 10 (-power).toNat else 1
  let step :=
    if power < 0 then interval.denominator else interval.denominator * Nat.pow 10 power.toNat
  let middle := interval.middle * shift
  let below := middle / step
  let above := below + 1
  let belowInside := if interval.closed then decide (interval.low * shift ≤ below * step)
    else decide (interval.low * shift < below * step)
  let aboveInside := if interval.closed then decide (above * step ≤ interval.high * shift)
    else decide (above * step < interval.high * shift)
  let downward := middle - below * step
  let upward := above * step - middle
  match belowInside, aboveInside with
  | false, false => none
  | true, false => some below
  | false, true => some above
  | true, true =>
    some (if downward < upward ∨ (downward = upward ∧ below % 2 = 0) then below else above)

/-- The first hit on grids that get finer step by step. -/
def RoundingInterval.coarsest (interval : RoundingInterval) : Nat → Int → Decimal
  | 0, power => ⟨(interval.gridPoint? power).getD 0, power⟩
  | finer + 1, power =>
    match interval.gridPoint? power with
    | some digits => ⟨digits, power⟩
    | none => interval.coarsest finer (power - 1)

/-- The decimal with the fewest digits that reads back as the absolute value of a finite number;
of several, the one nearest to it. -/
def shortest (number : Binary64) : Decimal :=
  if number.significand = 0 then ⟨0, 0⟩
  else
    let interval := number.roundingInterval
    let power := decimalExponent interval.middle interval.denominator
    (interval.coarsest 17 power).trimmed 20

/-- The sign of a negative pattern. -/
def signText (number : Binary64) : String := if number.isSigned then "-" else ""

/-- The text of a number that is not finite. -/
def specialText (number : Binary64) : String :=
  if number.isNaN then "NaN" else number.signText ++ "inf"

/-- All digits in place, without an exponent and without a needless fraction. -/
def plainText (number : Binary64) : String :=
  if number.isFinite then number.signText ++ number.shortest.positional else number.specialText

/-- The exact value rounded to a number of decimal places, a half going to the even neighbour. -/
def fixedText (places : Nat) (number : Binary64) : String :=
  if number.isFinite then
    let (numerator, denominator) := scaled (number.significand * Nat.pow 10 places) number.exponent
    let whole := numerator / denominator
    let rest := numerator % denominator
    let rounded :=
      if denominator < 2 * rest ∨ (2 * rest = denominator ∧ whole % 2 = 1) then whole + 1
      else whole
    let unit := Nat.pow 10 places
    let fraction := if places = 0 then "" else "." ++ Text.padded places (rounded % unit)
    number.signText ++ toString (rounded / unit) ++ fraction
  else number.specialText

end Binary64
end GeoMarket
