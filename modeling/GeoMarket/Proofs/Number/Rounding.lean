import GeoMarket.Number.Binary64
import Mathlib.Data.Rat.Floor
import Mathlib.Tactic.FieldSimp
import Mathlib.Tactic.Linarith
import Mathlib.Tactic.NormNum
import Mathlib.Tactic.Positivity
import Mathlib.Tactic.Ring

/-!
# Rounding in exact arithmetic

The multiple of a unit nearest to an amount, of two that are equally near the one that is farther
from zero. There is one such multiple for every amount, and all that is said about rounding follows
from this description: it keeps the order of amounts, it commutes with a change of sign, and it
leaves the multiples of the unit alone.

A finite binary number stands for an exact amount. Its rounding to a whole number, done on
significand and exponent, is the exact rounding of the amount, and a whole number below `2 ^ 53` is
kept exactly.
-/
namespace GeoMarket

/-! ## Nearest multiples -/

/-- An amount is a whole number of units. -/
def IsMultiple (unit amount : ℚ) : Prop := ∃ count : ℤ, amount = count * unit

/-- Whole numbers of units add up to a whole number of them. -/
theorem IsMultiple.add {unit left right : ℚ} (one : IsMultiple unit left)
    (other : IsMultiple unit right) : IsMultiple unit (left + right) := by
  obtain ⟨count, rfl⟩ := one
  obtain ⟨more, rfl⟩ := other
  refine ⟨count + more, ?_⟩
  rw [Int.cast_add, add_mul]

/-- The multiple of a unit nearest to an amount; of two that are equally near, the one that is
farther from zero. -/
structure NearestMultiple (unit amount multiple : ℚ) : Prop where
  /-- It is a whole number of units. -/
  whole : IsMultiple unit multiple
  /-- It is at most half a unit away. -/
  near : |multiple - amount| ≤ unit / 2
  /-- If it is half a unit away, it is farther from zero. -/
  away : |multiple - amount| = unit / 2 → |amount| < |multiple|

namespace NearestMultiple

variable {unit amount multiple : ℚ}

/-- A multiple of the unit is nearest to itself. -/
theorem self (positive : 0 < unit) (whole : IsMultiple unit amount) :
    NearestMultiple unit amount amount where
  whole := whole
  near := by
    rw [sub_self, abs_zero]
    linarith only [positive]
  away apart := by
    rw [sub_self, abs_zero] at apart
    linarith only [positive, apart]

/-- The nearest multiple changes its sign with the amount. -/
theorem neg (nearest : NearestMultiple unit amount multiple) :
    NearestMultiple unit (-amount) (-multiple) := by
  have distance : |-multiple - -amount| = |multiple - amount| := by
    rw [← neg_sub', abs_neg]
  obtain ⟨count, counted⟩ := nearest.whole
  refine ⟨⟨-count, ?_⟩, ?_, ?_⟩
  · rw [counted, Int.cast_neg, neg_mul]
  · rw [distance]
    exact nearest.near
  · rw [distance, abs_neg, abs_neg]
    exact nearest.away

/-- The nearest multiple is divided with the unit and the amount. -/
theorem div {divisor : ℚ} (nearest : NearestMultiple unit amount multiple)
    (positive : 0 < divisor) :
    NearestMultiple (unit / divisor) (amount / divisor) (multiple / divisor) := by
  have distance : |multiple / divisor - amount / divisor| = |multiple - amount| / divisor := by
    rw [← sub_div, abs_div, abs_of_pos positive]
  have half : unit / divisor / 2 = unit / 2 / divisor := div_right_comm unit divisor 2
  obtain ⟨count, counted⟩ := nearest.whole
  refine ⟨⟨count, ?_⟩, ?_, ?_⟩
  · rw [counted, mul_div_assoc]
  · rw [distance, half]
    exact div_le_div_of_nonneg_right nearest.near positive.le
  · rw [distance, half, abs_div, abs_div, abs_of_pos positive]
    intro apart
    have apart : |multiple - amount| = unit / 2 := (div_left_inj' positive.ne').mp apart
    exact div_lt_div_of_pos_right (nearest.away apart) positive

/-- An amount in the middle below its nearest multiple is rounded up, and so the multiple is
positive. -/
theorem pos_of_middle (positive : 0 < unit) (nearest : NearestMultiple unit amount multiple)
    (middle : amount = multiple - unit / 2) : 0 < multiple := by
  have apart : |multiple - amount| = unit / 2 := by
    rw [middle, sub_sub_cancel, abs_of_pos (half_pos positive)]
  have farther := nearest.away apart
  by_contra below
  have below := not_lt.mp below
  have beyond : amount < 0 := by linarith only [middle, below, positive]
  rw [abs_of_neg beyond, abs_of_nonpos below] at farther
  linarith only [farther, middle, positive]

/-- A greater amount does not have a smaller nearest multiple. -/
theorem le {other larger : ℚ} (positive : 0 < unit) (nearest : NearestMultiple unit amount multiple)
    (also : NearestMultiple unit larger other) (ordered : amount ≤ larger) : multiple ≤ other := by
  by_contra swapped
  obtain ⟨count, rfl⟩ := nearest.whole
  obtain ⟨fewer, rfl⟩ := also.whole
  have units {gap : ℤ} (apart : fewer + gap ≤ count) : fewer * unit + gap * unit ≤ count * unit := by
    have apart : (fewer : ℚ) + gap ≤ count := by exact_mod_cast apart
    rw [← add_mul]
    exact mul_le_mul_of_nonneg_right apart positive.le
  have counts : fewer < count := by
    exact_mod_cast (mul_lt_mul_iff_of_pos_right positive).mp (not_le.mp swapped)
  have step := units (Int.add_one_le_iff.mpr counts)
  rw [Int.cast_one, one_mul] at step
  have above := (abs_le.mp nearest.near).2
  have below := (abs_le.mp also.near).1
  -- The multiples are neighbours with both amounts in the middle, and zero is strictly between them.
  have upper : 0 < count * unit :=
    nearest.pos_of_middle positive (by linarith only [ordered, step, above, below])
  have lower : 0 < -(fewer * unit) :=
    also.neg.pos_of_middle positive (by linarith only [ordered, step, above, below])
  have counted : 0 < count := by exact_mod_cast (mul_pos_iff_of_pos_right positive).mp upper
  have negative : fewer < 0 := by
    exact_mod_cast neg_of_mul_neg_left (neg_pos.mp lower) positive.le
  have wide := units (show fewer + 2 ≤ count by omega)
  push_cast at wide
  linarith only [ordered, wide, above, below, positive]

/-- There is no second nearest multiple. -/
theorem unique {other : ℚ} (positive : 0 < unit) (nearest : NearestMultiple unit amount multiple)
    (also : NearestMultiple unit amount other) : multiple = other :=
  le_antisymm (nearest.le positive also le_rfl) (also.le positive nearest le_rfl)

end NearestMultiple

/-! ## Whole numbers -/

/-- The whole number nearest to an exact amount, a half going away from zero. -/
def roundedAway (amount : ℚ) : ℤ := if 0 ≤ amount then ⌊amount + 1 / 2⌋ else ⌈amount - 1 / 2⌉

/-- The whole number nearest to an amount that is not negative. -/
theorem nearestMultiple_floor {amount : ℚ} (nonnegative : 0 ≤ amount) :
    NearestMultiple 1 amount ⌊amount + 1 / 2⌋ := by
  have below := Int.floor_le (amount + 1 / 2)
  have above := Int.lt_floor_add_one (amount + 1 / 2)
  refine ⟨⟨_, (mul_one _).symm⟩, ?_, fun apart => ?_⟩
  · rw [abs_le]
    constructor <;> linarith only [below, above]
  · rcases abs_eq (by norm_num : (0 : ℚ) ≤ 1 / 2) |>.mp apart with up | down
    · rw [abs_of_nonneg nonnegative, abs_of_nonneg] <;> linarith only [up, nonnegative]
    · linarith only [down, above]

/-- Rounding to a whole number finds the nearest one. -/
theorem nearestMultiple_roundedAway (amount : ℚ) :
    NearestMultiple 1 amount (roundedAway amount) := by
  unfold roundedAway
  by_cases sign : 0 ≤ amount
  · rw [if_pos sign]
    exact nearestMultiple_floor sign
  · have opposite : 0 ≤ -amount := by linarith only [not_le.mp sign]
    have reflected : ⌈amount - 1 / 2⌉ = -⌊-amount + 1 / 2⌋ := by
      rw [← Int.ceil_neg, neg_add', neg_neg]
    rw [if_neg sign, reflected, Int.cast_neg]
    simpa only [neg_neg] using (nearestMultiple_floor opposite).neg

/-- What is nearest to an amount is what it is rounded to. -/
theorem roundedAway_eq {amount : ℚ} {whole : ℤ} (nearest : NearestMultiple 1 amount whole) :
    roundedAway amount = whole := by
  exact_mod_cast (nearestMultiple_roundedAway amount).unique one_pos nearest

/-- Rounding commutes with a change of sign. -/
theorem roundedAway_neg (amount : ℚ) : roundedAway (-amount) = -roundedAway amount := by
  have nearest := (nearestMultiple_roundedAway amount).neg
  exact roundedAway_eq (by exact_mod_cast nearest)

/-- A whole number is rounded to itself. -/
theorem roundedAway_intCast (whole : ℤ) : roundedAway whole = whole :=
  roundedAway_eq (.self one_pos ⟨whole, (mul_one _).symm⟩)

/-- A quotient of natural numbers is rounded in natural numbers. -/
theorem roundedAway_div (numerator : ℕ) {denominator : ℕ} (positive : 0 < denominator) :
    roundedAway (numerator / denominator) =
      ((2 * numerator + denominator) / (2 * denominator) : ℕ) := by
  have nonzero : (denominator : ℚ) ≠ 0 := by exact_mod_cast positive.ne'
  have shifted : (numerator : ℚ) / denominator + 1 / 2 =
      ((2 * numerator + denominator : ℕ) : ℚ) / (2 * denominator : ℕ) := by
    push_cast
    field_simp
  rw [roundedAway, if_pos (by positivity), shifted, Rat.floor_natCast_div_natCast]
  rfl

/-! ## Binary numbers as exact amounts -/

namespace Binary64

/-- The amount that a finite number stands for; the patterns that are not finite are read as if the
exponents went on. -/
def toRat (number : Binary64) : ℚ :=
  (if number.isSigned then -1 else 1) * (number.significand * 2 ^ number.exponent)

/-- The stored part of the significand is the lower part of the bits without the sign. -/
theorem fractionField_eq (number : Binary64) :
    number.fractionField = number.magnitudeBits % 0x10000000000000 := by
  unfold fractionField magnitudeBits
  omega

/-- The significand has fifty-three bits. -/
theorem significand_lt (number : Binary64) : number.significand < 0x20000000000000 := by
  have bounded : number.fractionField < 0x10000000000000 := Nat.mod_lt _ (by decide)
  unfold significand
  split <;> omega

/-- A positive whole number of at most fifty-three bits has exactly that many when it is moved until
its first bit is the implicit one. -/
theorem moved_bounds {value : Nat} (nonzero : value ≠ 0) (few : value.log2 ≤ 52) :
    0x10000000000000 ≤ value * 2 ^ (52 - value.log2) ∧
      value * 2 ^ (52 - value.log2) < 0x20000000000000 := by
  have whole : 2 ^ value.log2 * 2 ^ (52 - value.log2) = 0x10000000000000 := by
    rw [← Nat.pow_add, Nat.add_sub_cancel' few]
  have first : 2 ^ value.log2 ≤ value := Nat.log2_self_le nonzero
  have next : value < 2 ^ value.log2 * 2 := Nat.lt_log2_self
  have low := Nat.mul_le_mul_right (2 ^ (52 - value.log2)) first
  have high := Nat.mul_lt_mul_of_pos_right next (Nat.two_pow_pos (52 - value.log2))
  rw [Nat.mul_right_comm, whole] at high
  rw [whole] at low
  exact ⟨low, high⟩

/-- The number nearest to a positive whole number of at most fifty-three bits has its bits. -/
theorem magnitudeOfNat_eq {value : Nat} (nonzero : value ≠ 0) (few : value.log2 ≤ 52) :
    magnitudeOfNat value =
      (value.log2 + 1022) * 0x10000000000000 + value * 2 ^ (52 - value.log2) := by
  rw [magnitudeOfNat, if_neg nonzero, if_neg (by omega), roundedSignificand, if_pos few]
  rfl

/-- The number nearest to a whole number below `2 ^ 53`, with either sign, is that number. -/
theorem toRat_ofParts_magnitudeOfNat (signed : Bool) {value : Nat}
    (small : value < 0x20000000000000) :
    (ofParts signed (magnitudeOfNat value)).toRat = (if signed then -1 else 1) * value := by
  have finite : magnitudeOfNat value < infinityBits :=
    magnitudeOfNat_lt (Nat.lt_trans small (by decide))
  unfold toRat
  rw [isSigned_ofParts signed finite]
  refine congrArg _ ?_
  unfold significand exponent exponentField
  rw [fractionField_eq, magnitudeBits_ofParts signed finite]
  by_cases zero : value = 0
  · rw [zero]
    norm_num [magnitudeOfNat]
  · have few : value.log2 ≤ 52 := Nat.le_of_lt_succ ((Nat.log2_lt zero).mpr small)
    have bits := magnitudeOfNat_eq zero few
    obtain ⟨low, high⟩ := moved_bounds zero few
    have exponentField : magnitudeOfNat value / 0x10000000000000 = value.log2 + 1023 := by omega
    have fractionField : magnitudeOfNat value % 0x10000000000000 =
        value * 2 ^ (52 - value.log2) - 0x10000000000000 := by omega
    have exponent : ((max (value.log2 + 1023) 1 : ℕ) : ℤ) - 1075 = -((52 - value.log2 : ℕ) : ℤ) := by
      omega
    have moved : ((value * 2 ^ (52 - value.log2) : ℕ) : ℚ) =
        value * 2 ^ ((52 - value.log2 : ℕ) : ℤ) := by
      rw [zpow_natCast]
      push_cast
      rfl
    rw [exponentField, fractionField, if_neg (Nat.succ_ne_zero _), Nat.add_sub_cancel' low, exponent,
      moved, mul_assoc, ← zpow_add₀ two_ne_zero, add_neg_cancel, zpow_zero, mul_one]

/-- A whole number below `2 ^ 53` is kept exactly. -/
theorem toRat_ofNat {value : Nat} (small : value < 0x20000000000000) :
    (ofNat value).toRat = value := by
  have exact := toRat_ofParts_magnitudeOfNat false small
  rwa [if_neg Bool.false_ne_true, one_mul] at exact

/-- A number with a fraction is its significand over a power of two, with its sign. -/
theorem toRat_eq_div {number : Binary64} (fractional : number.exponentField < 1075) :
    number.toRat = (if number.isSigned then -1 else 1) *
      ((number.significand : ℚ) / (2 ^ (1075 - max number.exponentField 1) : ℕ)) := by
  have exponent : number.exponent = -((1075 - max number.exponentField 1 : ℕ) : ℤ) := by
    unfold Binary64.exponent
    omega
  rw [toRat, exponent, zpow_neg, zpow_natCast, div_eq_mul_inv]
  push_cast
  rfl

/-- A number with a large exponent is whole. -/
theorem exists_toRat_eq_intCast {number : Binary64} (large : 1075 ≤ number.exponentField) :
    ∃ whole : ℤ, number.toRat = whole := by
  have exponent : number.exponent = ((number.exponentField - 1075 : ℕ) : ℤ) := by
    unfold Binary64.exponent
    omega
  refine ⟨(if number.isSigned then -1 else 1) *
    (number.significand * 2 ^ (number.exponentField - 1075)), ?_⟩
  rw [toRat, exponent, zpow_natCast]
  push_cast
  rfl

/-- Rounding a binary number to a whole number rounds the amount that it stands for. -/
theorem toRat_roundAway (number : Binary64) :
    number.roundAway.toRat = roundedAway number.toRat := by
  unfold roundAway
  by_cases large : 1075 ≤ number.exponentField
  · obtain ⟨whole, stands⟩ := exists_toRat_eq_intCast large
    rw [if_pos large, stands, roundedAway_intCast]
  · rw [if_neg large]
    have unitPositive := Nat.two_pow_pos (1075 - max number.exponentField 1)
    have small : (2 * number.significand + 2 ^ (1075 - max number.exponentField 1)) /
        (2 * 2 ^ (1075 - max number.exponentField 1)) < 0x20000000000000 := by
      have bounded := number.significand_lt
      rw [Nat.div_lt_iff_lt_mul (by omega)]
      omega
    refine (toRat_ofParts_magnitudeOfNat number.isSigned small).trans ?_
    have rounded := roundedAway_div number.significand unitPositive
    rw [toRat_eq_div (by omega)]
    cases number.isSigned with
    | false =>
      rw [if_neg Bool.false_ne_true, one_mul, one_mul, rounded]
      rfl
    | true =>
      rw [if_pos rfl, neg_one_mul, neg_one_mul, roundedAway_neg, rounded]
      push_cast
      rfl

end Binary64
end GeoMarket
