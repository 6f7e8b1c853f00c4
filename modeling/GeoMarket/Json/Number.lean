import GeoMarket.Number.Decimal

/-!
# Numbers of a JSON text

A number is a whole number of 64 bits or a finite `Binary64`. A literal without fraction and
exponent is a whole number as long as it fits; every other literal is read as a significand of
at most 64 bits and a power of ten, and their product is the number.
-/
namespace GeoMarket.Json

/-- A number as an atom of a JSON tree. -/
inductive Number
  /-- A whole number that is not negative. -/
  | natural (value : UInt64)
  /-- The negative whole number one below `-value`. -/
  | belowMinus (value : Fin 0x8000000000000000)
  /-- A number written with a fraction or an exponent, or too large for a whole number. -/
  | real (value : Binary64) (finite : value.isFinite = true)
  deriving DecidableEq

namespace Number

/-- The whole number that the atom is, if it is one. -/
def integer? : Number → Option Int
  | natural value => some value.toNat
  | belowMinus value => some (Int.negSucc value.val)
  | real _ _ => none

/-- The number as a `Binary64`, rounded to the nearest. -/
def toBinary64 : Number → Binary64
  | natural value => Binary64.ofInt value.toNat
  | belowMinus value => Binary64.ofInt (Int.negSucc value.val)
  | real value _ => value

/-- Every number of a JSON text is finite as a `Binary64`. -/
theorem isFinite_toBinary64 (number : Number) : number.toBinary64.isFinite = true := by
  cases number with
  | natural value =>
    exact Binary64.isFinite_ofInt (by simpa using value.toNat_lt)
  | belowMinus value =>
    apply Binary64.isFinite_ofInt
    have := value.isLt
    omega
  | real value finite => exact finite

/-- Numbers agree when they are the same kind of number with equal values. -/
def agrees : Number → Number → Bool
  | natural left, natural right => left == right
  | belowMinus left, belowMinus right => left == right
  | real left _, real right _ => left == right
  | _, _ => false

instance : BEq Number := ⟨agrees⟩

/-- The text of a finite number: positional from `1e-5` up to `1e16`, always with a fraction,
and with an exponent beyond. -/
def realText (value : Binary64) : String :=
  let decimal := value.shortest
  let power := decimal.leadingExponent
  let body :=
    if value.significand = 0 then "0.0"
    else if -5 ≤ power ∧ power < 16 then
      if 0 ≤ decimal.exponent then decimal.positional ++ ".0" else decimal.positional
    else decimal.scientific
  value.signText ++ body

/-- The text of a number. -/
def text : Number → String
  | natural value => toString value.toNat
  | belowMinus value => "-" ++ toString (value.val + 1)
  | real value _ => realText value

end Number

/-- A number literal by its parts. -/
structure Literal where
  /-- A minus sign stands in front. -/
  negative : Bool
  /-- The digits before the decimal point. -/
  whole : List Nat
  /-- The digits after the decimal point, if there is one. -/
  fraction : Option (List Nat)
  /-- The sign and the digits of the power of ten, if there is one. -/
  power : Option (Bool × List Nat)

namespace Literal

/-- The greatest significand. -/
def significandLimit : Nat := 0xffffffffffffffff

/-- Append digits to a significand as long as it stays within 64 bits; the second component
counts the digits taken. -/
def absorb : Nat → List Nat → Nat × Nat
  | significand, [] => (significand, 0)
  | significand, digit :: rest =>
    let next := significand * 10 + digit
    if next ≤ significandLimit then
      let (final, taken) := absorb next rest
      (final, taken + 1)
    else (significand, 0)

/-- Whole powers of ten go up to this one in a single multiplication. -/
def greatestPower : Nat := 308

/-- The number `significand * 10 ^ power` for a power that is not negative; nothing when it is
too large. -/
def scaleUp? (significand : Nat) (power : Nat) : Option Binary64 :=
  let start := Binary64.ofNat significand
  if power ≤ greatestPower then
    let product := Binary64.mul start (Binary64.tenToThe power)
    if product.isFinite then some product else none
  else if significand = 0 then some start else none

/-- Divide by `10 ^ power`, first by the greatest powers. -/
def scaleDown (start : Binary64) (power : Nat) : Binary64 :=
  if power ≤ greatestPower then Binary64.div start (Binary64.tenToThe power)
  else if start.place = 0 then start
  else scaleDown (Binary64.div start (Binary64.tenToThe greatestPower)) (power - greatestPower)
termination_by power
decreasing_by simp_all [greatestPower]; omega

/-- The number `significand * 10 ^ power`. -/
def scale? (significand : Nat) (power : Int) : Option Binary64 :=
  if 0 ≤ power then scaleUp? significand power.toNat
  else some (scaleDown (Binary64.ofNat significand) (-power).toNat)

/-- The greatest power of ten that a literal may name. -/
def powerLimit : Nat := 0x7fffffff

/-- The digits as one natural number. -/
def value (digits : List Nat) : Nat := digits.foldl (fun sum digit => sum * 10 + digit) 0

/-- The absolute value of a literal that is not a whole number of 64 bits. -/
def magnitude? (literal : Literal) : Option Binary64 :=
  let (begun, taken) := absorb 0 literal.whole
  let (significand, places) := absorb begun (literal.fraction.getD [])
  let shift : Int := (literal.whole.length - taken : Nat) - (places : Int)
  match literal.power with
  | none => scale? significand shift
  | some (down, digits) =>
    let named := value digits
    if powerLimit < named then
      if significand ≠ 0 ∧ !down then none else some Binary64.zero
    else scale? significand (if down then shift - named else shift + named)

/-- A number with a sign, as an atom. -/
def real? (negative : Bool) (magnitude : Binary64) : Option Number :=
  let signed := if negative then magnitude.negate else magnitude
  if finite : signed.isFinite = true then some (.real signed finite) else none

/-- The number that a literal stands for; nothing when it is too large for a `Binary64`. A minus
sign in front of zero makes the negative zero, which is no whole number. -/
def number? (literal : Literal) : Option Number :=
  let whole := value literal.whole
  let large := literal.magnitude?.bind (real? literal.negative)
  match literal.fraction, literal.power with
  | none, none =>
    if literal.negative then
      if small : 0 < whole ∧ whole ≤ 0x8000000000000000 then
        some (.belowMinus ⟨whole - 1, by omega⟩)
      else large
    else if whole ≤ significandLimit then some (.natural (UInt64.ofNat whole))
    else large
  | _, _ => large

end Literal
end GeoMarket.Json
