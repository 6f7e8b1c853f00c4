import GeoMarket.Model.Pricing
import GeoMarket.Proofs.Number.Rounding

/-!
# Quotes in exact arithmetic

With prices as exact amounts, the totals of a quote are determined by its price without tax and the
tax rate: the tax is the share of the price, and the total the sum of the two, each rounded to whole
cents. Free models are no exception, since the share of nothing is nothing. So the order of quotes
and their change of sign come from the rounding alone, and a price in whole cents is added to its
tax without another error.
-/
namespace GeoMarket

/-- Prices as exact amounts. -/
instance : PriceArithmetic ℚ where
  ofNat whole := whole
  add left right := left + right
  mul left right := left * right
  div left right := left / right
  roundAway amount := roundedAway amount

/-- A cent, as a part of the currency. -/
def cent : ℚ := 1 / 100

/-- A cent is something. -/
theorem cent_pos : 0 < cent := by
  norm_num [cent]

/-! ## Rounding to cents -/

namespace PricingTotals

/-- Rounding to cents finds the nearest number of them. -/
theorem nearestMultiple_roundToCents (amount : ℚ) :
    NearestMultiple cent amount (roundToCents amount) := by
  have hundred : (0 : ℚ) < 100 := by norm_num
  have nearest := (nearestMultiple_roundedAway (amount * 100)).div hundred
  rwa [mul_div_cancel_right₀ amount hundred.ne'] at nearest

/-- An amount is rounded to cents as its nearest number of them describes. -/
theorem roundToCents_eq_iff {amount cents : ℚ} :
    roundToCents amount = cents ↔ NearestMultiple cent amount cents := by
  constructor
  · rintro rfl
    exact nearestMultiple_roundToCents amount
  · exact (nearestMultiple_roundToCents amount).unique cent_pos

/-- An amount of whole cents stays as it is. -/
theorem roundToCents_of_isMultiple {amount : ℚ} (whole : IsMultiple cent amount) :
    roundToCents amount = amount :=
  roundToCents_eq_iff.mpr (.self cent_pos whole)

/-- Rounding to cents commutes with a change of sign. -/
theorem roundToCents_neg (amount : ℚ) : roundToCents (-amount) = -roundToCents amount :=
  roundToCents_eq_iff.mpr (nearestMultiple_roundToCents amount).neg

/-- Rounding to cents keeps the order of amounts. -/
theorem monotone_roundToCents : Monotone (roundToCents : ℚ → ℚ) := by
  intro amount larger ordered
  exact (nearestMultiple_roundToCents amount).le cent_pos (nearestMultiple_roundToCents larger) ordered

/-! ## Totals of a price -/

variable (id other : Uuid) (price : ℚ) (percent : UInt32)

/-- The tax of a price is the nearest number of cents to its share. -/
theorem tax_ofPrice :
    (ofPrice id price percent).tax = roundToCents (price * percent.toNat / 100) := rfl

/-- The price with tax is the nearest number of cents to the sum of the two. -/
theorem totalPrice_ofPrice :
    (ofPrice id price percent).totalPrice =
      roundToCents (price + (ofPrice id price percent).tax) := rfl

/-- What costs nothing has the totals of the price zero. -/
theorem zero_eq_ofPrice : zero id percent = ofPrice id (PriceArithmetic.ofNat 0 : ℚ) percent := by
  have nothing : (PriceArithmetic.ofNat 0 : ℚ) = 0 := Nat.cast_zero
  have whole : IsMultiple cent 0 := ⟨0, by rw [Int.cast_zero, zero_mul]⟩
  have tax : (ofPrice id (0 : ℚ) percent).tax = 0 := by
    rw [tax_ofPrice, zero_mul, zero_div, roundToCents_of_isMultiple whole]
  have total : (ofPrice id (0 : ℚ) percent).totalPrice = 0 := by
    rw [totalPrice_ofPrice, tax, add_zero, roundToCents_of_isMultiple whole]
  calc zero id percent
      = ⟨id, defaultCurrency, 0, percent, 0, 0⟩ := by rw [zero, nothing]
    _ = ⟨id, defaultCurrency, (ofPrice id (0 : ℚ) percent).tax, percent,
          (ofPrice id (0 : ℚ) percent).totalPrice, 0⟩ := by rw [tax, total]
    _ = ofPrice id (PriceArithmetic.ofNat 0) percent := by
      rw [nothing]
      rfl

/-- A price in whole cents and its tax add up without another rounding. -/
theorem totalPrice_of_isMultiple (whole : IsMultiple cent price) :
    (ofPrice id price percent).totalPrice = price + (ofPrice id price percent).tax := by
  have tax : IsMultiple cent (ofPrice id price percent).tax :=
    (nearestMultiple_roundToCents _).whole
  rw [totalPrice_ofPrice, roundToCents_of_isMultiple (whole.add tax)]

/-- The opposite price has the opposite tax and the opposite total. -/
theorem ofPrice_neg :
    (ofPrice other (-price) percent).tax = -(ofPrice id price percent).tax ∧
      (ofPrice other (-price) percent).totalPrice = -(ofPrice id price percent).totalPrice := by
  have tax : (ofPrice other (-price) percent).tax = -(ofPrice id price percent).tax := by
    rw [tax_ofPrice, tax_ofPrice, neg_mul, neg_div, roundToCents_neg]
  refine ⟨tax, ?_⟩
  rw [totalPrice_ofPrice, tax, totalPrice_ofPrice, ← neg_add, roundToCents_neg]

variable {price percent}

/-- A price that is not smaller, with a share that is not smaller, has a tax and a total that are
not smaller. -/
theorem ofPrice_le {higher : ℚ} {rate : UInt32} (ordered : price ≤ higher)
    (share : price * percent.toNat ≤ higher * rate.toNat) :
    (ofPrice id price percent).tax ≤ (ofPrice other higher rate).tax ∧
      (ofPrice id price percent).totalPrice ≤ (ofPrice other higher rate).totalPrice := by
  have hundred : (0 : ℚ) ≤ 100 := by norm_num
  have tax : (ofPrice id price percent).tax ≤ (ofPrice other higher rate).tax :=
    monotone_roundToCents (div_le_div_of_nonneg_right share hundred)
  exact ⟨tax, monotone_roundToCents (add_le_add ordered tax)⟩

end PricingTotals

/-! ## Quotes -/

namespace PricingModelCommand

/-- In any arithmetic, a quote has the kind, the identifier, the tax rate and the price without tax
that it was asked for. -/
theorem quote_keeps {α : Type} [PriceArithmetic α] (command : PricingModelCommand α) (id : Uuid)
    (percent : UInt32) :
    let model := command.quote id percent
    model.kind = command.kind ∧ model.totals.id = id ∧ model.totals.taxPercent = percent ∧
      model.totals.totalPriceExcludingTax = command.priceExcludingTax := by
  cases command <;> exact ⟨rfl, rfl, rfl, rfl⟩

/-- The totals of a quote are those of its price without tax. -/
theorem totals_quote (command : PricingModelCommand ℚ) (id : Uuid) (percent : UInt32) :
    (command.quote id percent).totals = .ofPrice id command.priceExcludingTax percent := by
  cases command with
  | free => exact PricingTotals.zero_eq_ofPrice id percent
  | fixed terms price => rfl
  | subscription terms => rfl

/-- **Quotes in exact arithmetic.** In any arithmetic a quote keeps what it was asked for. In exact
arithmetic its tax is the number of cents nearest to the share of the price, and its total the
number of cents nearest to their sum, with a half going away from zero; a price in whole cents and
its tax add up exactly. Opposite prices have opposite taxes and totals, and neither the tax nor the
total falls when the price rises, or the rate of a price that is not negative. Rounding to cents is
described by the nearest number of them; rounded again an amount stays as it is, and a greater
amount is not rounded to less. Of the amounts that are computed with, the rounding to whole numbers
and the rates are exact. -/
theorem quote_nearest_cents :
    (∀ (α : Type) [PriceArithmetic α] (command : PricingModelCommand α) (id : Uuid)
        (percent : UInt32),
      let model := command.quote id percent
      model.kind = command.kind ∧ model.totals.id = id ∧ model.totals.taxPercent = percent ∧
        model.totals.totalPriceExcludingTax = command.priceExcludingTax) ∧
    (∀ (command : PricingModelCommand ℚ) (id : Uuid) (percent : UInt32),
      let price := command.priceExcludingTax
      let totals := (command.quote id percent).totals
      NearestMultiple cent (price * percent.toNat / 100) totals.tax ∧
        NearestMultiple cent (price + totals.tax) totals.totalPrice ∧
        (IsMultiple cent price → totals.totalPrice = price + totals.tax)) ∧
    (∀ (command opposite : PricingModelCommand ℚ) (id other : Uuid) (percent : UInt32),
      opposite.priceExcludingTax = -command.priceExcludingTax →
      let totals := (command.quote id percent).totals
      let opposites := (opposite.quote other percent).totals
      opposites.tax = -totals.tax ∧ opposites.totalPrice = -totals.totalPrice) ∧
    (∀ (cheap dear : PricingModelCommand ℚ) (id other : Uuid) (percent : UInt32),
      cheap.priceExcludingTax ≤ dear.priceExcludingTax →
      let totals := (cheap.quote id percent).totals
      let others := (dear.quote other percent).totals
      totals.tax ≤ others.tax ∧ totals.totalPrice ≤ others.totalPrice) ∧
    (∀ (command : PricingModelCommand ℚ) (id other : Uuid) (low high : UInt32),
      0 ≤ command.priceExcludingTax → low ≤ high →
      let totals := (command.quote id low).totals
      let others := (command.quote other high).totals
      totals.tax ≤ others.tax ∧ totals.totalPrice ≤ others.totalPrice) ∧
    (∀ amount cents : ℚ,
      PricingTotals.roundToCents amount = cents ↔ NearestMultiple cent amount cents) ∧
    (∀ amount : ℚ, PricingTotals.roundToCents (PricingTotals.roundToCents amount) =
      PricingTotals.roundToCents amount) ∧
    Monotone (PricingTotals.roundToCents : ℚ → ℚ) ∧
    (∀ amount : Binary64, (PriceArithmetic.roundAway amount).toRat =
      PriceArithmetic.roundAway amount.toRat) ∧
    ∀ percent : UInt32, (PriceArithmetic.ofNat percent.toNat : Binary64).toRat =
      PriceArithmetic.ofNat percent.toNat := by
  refine ⟨fun α _ => quote_keeps, ?_, ?_, ?_, ?_, fun amount cents => PricingTotals.roundToCents_eq_iff,
    ?_, PricingTotals.monotone_roundToCents, Binary64.toRat_roundAway, ?_⟩
  · intro command id percent price totals
    have same : totals = .ofPrice id price percent := totals_quote command id percent
    rw [same]
    exact ⟨PricingTotals.nearestMultiple_roundToCents _, PricingTotals.nearestMultiple_roundToCents _,
      PricingTotals.totalPrice_of_isMultiple id price percent⟩
  · intro command opposite id other percent prices
    rw [totals_quote, totals_quote, prices]
    exact PricingTotals.ofPrice_neg id other _ percent
  · intro cheap dear id other percent ordered
    rw [totals_quote, totals_quote]
    exact PricingTotals.ofPrice_le id other ordered
      (mul_le_mul_of_nonneg_right ordered (Nat.cast_nonneg _))
  · intro command id other low high nonnegative ordered
    have rates : (low.toNat : ℚ) ≤ high.toNat := by
      exact_mod_cast UInt32.le_iff_toNat_le.mp ordered
    rw [totals_quote, totals_quote]
    exact PricingTotals.ofPrice_le id other le_rfl (mul_le_mul_of_nonneg_left rates nonnegative)
  · intro amount
    exact PricingTotals.roundToCents_of_isMultiple
      (PricingTotals.nearestMultiple_roundToCents amount).whole
  · intro percent
    have bounded := percent.toNat_lt
    exact Binary64.toRat_ofNat (by omega)

/-- A quarter at ten percent: the tax of two and a half cents goes up to three, and down to three
for the opposite price. A subscription for half a year costs more, and so does the same quarter at
twenty-four percent. -/
theorem quote_nearest_cents_quarter :
    let fixed (price : ℚ) : PricingModelCommand ℚ := .fixed ⟨false, 0⟩ price
    let monthly : PricingModelCommand ℚ := .subscription ⟨6, 10⟩
    let quoted (command : PricingModelCommand ℚ) (percent : UInt32) :=
      (command.quote default percent).totals
    IsMultiple cent (1 / 4) ∧ (quoted (fixed (1 / 4)) 10).tax = 3 / 100 ∧
      (quoted (fixed (1 / 4)) 10).totalPrice = 28 / 100 ∧
      (quoted (fixed (-(1 / 4))) 10).tax = -(3 / 100) ∧
      (quoted (fixed (1 / 4)) 10).tax ≤ (quoted monthly 10).tax ∧
      (quoted (fixed (1 / 4)) 10).tax ≤ (quoted (fixed (1 / 4)) 24).tax := by
  intro fixed monthly quoted
  obtain ⟨-, sums, opposites, prices, rates, rounded, -⟩ := quote_nearest_cents
  have whole : IsMultiple cent (1 / 4) := ⟨25, by norm_num [cent]⟩
  have tax : (quoted (fixed (1 / 4)) 10).tax = 3 / 100 := by
    refine (rounded (1 / 4 * 10 / 100) (3 / 100)).mpr ⟨⟨3, by norm_num [cent]⟩, ?_, fun _ => ?_⟩
    · norm_num [cent, abs_of_pos]
    · norm_num [abs_of_pos]
  have total := (sums (fixed (1 / 4)) default 10).2.2 whole
  refine ⟨whole, tax, ?_, ?_, ?_, ?_⟩
  · rw [total, tax]
    change (1 / 4 + 3 / 100 : ℚ) = 28 / 100
    norm_num
  · exact (opposites (fixed (1 / 4)) (fixed (-(1 / 4))) default default 10 rfl).1.trans
      (congrArg Neg.neg tax)
  · have ordered : (1 / 4 : ℚ) ≤ 10 * (6 : ℕ) := by norm_num
    exact (prices (fixed (1 / 4)) monthly default default 10 ordered).1
  · have nonnegative : (0 : ℚ) ≤ 1 / 4 := by norm_num
    exact (rates (fixed (1 / 4)) default default 10 24 nonnegative (by decide)).1

end PricingModelCommand
end GeoMarket
