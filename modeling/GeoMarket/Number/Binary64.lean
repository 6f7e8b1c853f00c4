/-!
# Binary64 numbers

A number of the IEEE 754 interchange format of 64 bits, kept as its bit pattern, so that equal
values are equal patterns and the total order of the standard can be read off. Sums, products
and quotients are those of the standard; conversion from natural numbers and rounding to whole
numbers are exact integer arithmetic on significand and exponent.
-/
namespace GeoMarket

/-- A bit pattern of the binary interchange format of 64 bits. -/
structure Binary64 where
  /-- Sign, eleven exponent bits and fifty-two fraction bits, from the top. -/
  bits : UInt64
  deriving DecidableEq

namespace Binary64

instance : Inhabited Binary64 := ⟨⟨0⟩⟩

/-- The pattern without its sign bit. -/
def magnitudeBits (number : Binary64) : Nat := number.bits.toNat % 0x8000000000000000

/-- The sign bit is set. -/
def isSigned (number : Binary64) : Bool := decide (0x8000000000000000 ≤ number.bits.toNat)

/-- The biased exponent. -/
def exponentField (number : Binary64) : Nat := number.magnitudeBits / 0x10000000000000

/-- The stored part of the significand. -/
def fractionField (number : Binary64) : Nat := number.bits.toNat % 0x10000000000000

/-- A number that is neither infinite nor NaN. -/
def isFinite (number : Binary64) : Bool := decide (number.exponentField < 2047)

/-- Not a number. -/
def isNaN (number : Binary64) : Bool :=
  number.exponentField == 2047 && number.fractionField != 0

/-- The absolute value of a finite number is `significand * 2 ^ exponent`. -/
def significand (number : Binary64) : Nat :=
  if number.exponentField = 0 then number.fractionField
  else 0x10000000000000 + number.fractionField

/-- The exponent that goes with `significand`. -/
def exponent (number : Binary64) : Int := (max number.exponentField 1 : Nat) - 1075

/-- The pattern with the given sign and the given other bits. -/
def ofParts (signed : Bool) (magnitude : Nat) : Binary64 :=
  ⟨UInt64.ofNat ((if signed then 0x8000000000000000 else 0) + magnitude)⟩

/-- Positive zero. -/
def zero : Binary64 := ⟨0⟩

/-- The number with its sign turned round. -/
def negate (number : Binary64) : Binary64 := ofParts (!number.isSigned) number.magnitudeBits

/-- The significand of fifty-three bits nearest to a positive number, a tie going to the even
one; it may come out as `2 ^ 53`. -/
def roundedSignificand (value : Nat) : Nat :=
  if value.log2 ≤ 52 then value * Nat.pow 2 (52 - value.log2)
  else
    let unit := Nat.pow 2 (value.log2 - 52)
    let whole := value / unit
    let rest := value % unit
    if unit < 2 * rest ∨ (unit = 2 * rest ∧ whole % 2 = 1) then whole + 1 else whole

/-- The bits of infinity without the sign. -/
def infinityBits : Nat := 0x7ff0000000000000

/-- The bits of the number nearest to a natural number; a carry out of the significand moves
into the exponent, and what is too large is infinite. -/
def magnitudeOfNat (value : Nat) : Nat :=
  if value = 0 then 0
  else if 1023 < value.log2 then infinityBits
  else (value.log2 + 1022) * 0x10000000000000 + roundedSignificand value

/-- The number nearest to a natural number, a tie going to the even significand. -/
def ofNat (value : Nat) : Binary64 := ofParts false (magnitudeOfNat value)

/-- The number nearest to an integer, a tie going to the even significand. -/
def ofInt (value : Int) : Binary64 :=
  ofParts (decide (value < 0)) (magnitudeOfNat value.natAbs)

/-- The rounded significand has fifty-three bits, or is the next power of two. -/
theorem roundedSignificand_le (value : Nat) :
    roundedSignificand value ≤ 0x20000000000000 := by
  have small := Nat.lt_log2_self (n := value)
  unfold roundedSignificand
  split
  · rename_i few
    calc value * Nat.pow 2 (52 - value.log2)
        ≤ Nat.pow 2 (value.log2 + 1) * Nat.pow 2 (52 - value.log2) :=
          Nat.mul_le_mul_right _ (Nat.le_of_lt small)
      _ = Nat.pow 2 (value.log2 + 1 + (52 - value.log2)) := (Nat.pow_add 2 _ _).symm
      _ = Nat.pow 2 53 := congrArg (Nat.pow 2) (by omega)
      _ ≤ 0x20000000000000 := by decide
  · rename_i many
    have whole : Nat.pow 2 (value.log2 - 52) * 0x20000000000000 = Nat.pow 2 (value.log2 + 1) :=
      (Nat.pow_add 2 (value.log2 - 52) 53).symm.trans (congrArg (Nat.pow 2) (by omega))
    have quotient : value / Nat.pow 2 (value.log2 - 52) < 0x20000000000000 :=
      Nat.div_lt_of_lt_mul (whole ▸ small)
    simp only
    split <;> omega

/-- A natural number below `2 ^ 64` has a finite nearest number. -/
theorem magnitudeOfNat_lt {value : Nat} (bounded : value < 0x10000000000000000) :
    magnitudeOfNat value < infinityBits := by
  unfold magnitudeOfNat
  split
  · decide
  · rename_i nonzero
    have small : value.log2 < 64 := (Nat.log2_lt nonzero).2 bounded
    have narrow := roundedSignificand_le value
    rw [if_neg (by omega), infinityBits]
    omega

/-- The sign of a pattern that is put together. -/
theorem isSigned_ofParts (signed : Bool) {magnitude : Nat} (bounded : magnitude < infinityBits) :
    (ofParts signed magnitude).isSigned = signed := by
  rw [infinityBits] at bounded
  simp only [isSigned, ofParts, UInt64.toNat_ofNat']
  cases signed <;> simp <;> omega

/-- The other bits of a pattern that is put together. -/
theorem magnitudeBits_ofParts (signed : Bool) {magnitude : Nat}
    (bounded : magnitude < infinityBits) :
    (ofParts signed magnitude).magnitudeBits = magnitude := by
  rw [infinityBits] at bounded
  simp only [magnitudeBits, ofParts, UInt64.toNat_ofNat']
  cases signed <;> simp <;> omega

/-- A sign and bits below those of infinity make a finite number. -/
theorem isFinite_ofParts {signed : Bool} {magnitude : Nat}
    (bounded : magnitude < infinityBits) :
    (ofParts signed magnitude).isFinite = true := by
  have kept := magnitudeBits_ofParts signed bounded
  simp only [isFinite, exponentField, kept, decide_eq_true_eq]
  rw [infinityBits] at bounded
  omega

/-- The number nearest to an integer of absolute value below `2 ^ 64` is finite. -/
theorem isFinite_ofInt {value : Int} (bounded : value.natAbs < 0x10000000000000000) :
    (ofInt value).isFinite = true :=
  isFinite_ofParts (magnitudeOfNat_lt bounded)

/-- The power of ten nearest to `10 ^ exponent`. -/
def tenToThe (exponent : Nat) : Binary64 := ofNat (Nat.pow 10 exponent)

/-- The arithmetic of the standard on a pair of patterns. -/
def viaFloat (operation : Float → Float → Float) (left right : Binary64) : Binary64 :=
  ⟨(operation (Float.ofBits left.bits) (Float.ofBits right.bits)).toBits⟩

/-- The sum, rounded to the nearest number. -/
def add : Binary64 → Binary64 → Binary64 := viaFloat Float.add

/-- The product, rounded to the nearest number. -/
def mul : Binary64 → Binary64 → Binary64 := viaFloat Float.mul

/-- The quotient, rounded to the nearest number. -/
def div : Binary64 → Binary64 → Binary64 := viaFloat Float.div

/-- The nearest whole number, a half going away from zero; numbers without a fraction, among
them the infinities and NaN, stay as they are. -/
def roundAway (number : Binary64) : Binary64 :=
  if 1075 ≤ number.exponentField then number
  else
    let unit := Nat.pow 2 (1075 - max number.exponentField 1)
    ofParts number.isSigned (magnitudeOfNat ((2 * number.significand + unit) / (2 * unit)))

/-- The place of a number on the line, with the two zeros together; it is meant for numbers
other than NaN. -/
def place (number : Binary64) : Int :=
  if number.isSigned then -(number.magnitudeBits : Int) else number.magnitudeBits

/-- Numeric comparison; nothing compares with NaN. -/
def le (left right : Binary64) : Bool :=
  !left.isNaN && !right.isNaN && decide (left.place ≤ right.place)

/-- Numeric equality: the two zeros are equal, and NaN equals nothing. -/
def sameNumber (left right : Binary64) : Bool :=
  !left.isNaN && !right.isNaN && left.place == right.place

instance : BEq Binary64 := ⟨sameNumber⟩

/-- The place of a pattern in the total order of the standard: a negative pattern comes before
a positive one, so `-0` comes before `0`, and the NaNs stand at both ends. -/
def rank (number : Binary64) : Int :=
  if number.isSigned then -(number.magnitudeBits : Int) - 1 else number.magnitudeBits

/-- Patterns of equal rank are equal. -/
theorem rank_injective {left right : Binary64} (same : left.rank = right.rank) : left = right := by
  have leftBound := left.bits.toNat_lt
  have rightBound := right.bits.toNat_lt
  have equal : left.bits.toNat = right.bits.toNat := by
    simp only [rank, isSigned, magnitudeBits, decide_eq_true_eq] at same
    split at same <;> split at same <;> omega
  cases left; cases right
  exact congrArg Binary64.mk (UInt64.toNat_inj.mp equal)

end Binary64
end GeoMarket
