import GeoMarket.Model.Catalogue

/-!
# The cheapest pricing model

Prices are compared by the total order of the standard on bit patterns, in which every pattern has a
place of its own: negative zero before zero, and infinities and NaNs at the ends. Going through the
pricing models of an item from the front, the cheapest one so far gives way only to a strictly
cheaper one, so that in the end it is the first of the cheapest. Which one of several that is
depends on their order in the list, but their price does not.
-/
namespace GeoMarket

namespace Binary64

/-- The total order of the standard: a pattern with the sign bit comes before one without it; of two
with the sign bit the greater one comes first, of two without it the smaller one. -/
def TotalLe (left right : Binary64) : Prop :=
  match left.isSigned, right.isSigned with
  | true, true => right.bits ≤ left.bits
  | true, false => True
  | false, true => False
  | false, false => left.bits ≤ right.bits

/-- The rank of a pattern is its place in the total order. -/
theorem totalLe_iff_rank_le {left right : Binary64} :
    left.TotalLe right ↔ left.rank ≤ right.rank := by
  have leftBound := left.bits.toNat_lt
  have rightBound := right.bits.toNat_lt
  unfold TotalLe rank
  cases leftSign : left.isSigned <;> cases rightSign : right.isSigned <;>
    simp only [isSigned, decide_eq_true_eq, decide_eq_false_iff_not] at leftSign rightSign <;>
    simp only [UInt64.le_iff_toNat_le, magnitudeBits] <;> simp <;> omega

instance (left right : Binary64) : Decidable (left.TotalLe right) :=
  decidable_of_iff (left.rank ≤ right.rank) totalLe_iff_rank_le.symm

/-- A pattern is not after itself. -/
theorem totalLe_refl (number : Binary64) : number.TotalLe number :=
  totalLe_iff_rank_le.mpr (Int.le_refl _)

/-- What is not after a pattern is not after a later one. -/
theorem TotalLe.trans {left middle right : Binary64} (first : left.TotalLe middle)
    (second : middle.TotalLe right) : left.TotalLe right :=
  totalLe_iff_rank_le.mpr
    (Int.le_trans (totalLe_iff_rank_le.mp first) (totalLe_iff_rank_le.mp second))

/-- Two patterns of which neither is after the other are one. -/
theorem TotalLe.antisymm {left right : Binary64} (first : left.TotalLe right)
    (second : right.TotalLe left) : left = right :=
  rank_injective (Int.le_antisymm (totalLe_iff_rank_le.mp first) (totalLe_iff_rank_le.mp second))

end Binary64

namespace PricingModel

/-- A pricing model is the first of the cheapest of a list: those in front of it cost more, and none
costs less. -/
structure FirstCheapest (models : List PricingModel) (model : PricingModel) : Prop where
  /-- Those in front of it cost more. -/
  stands : ∃ before after, models = before ++ model :: after ∧
    ∀ earlier ∈ before, ¬ earlier.totalPrice.TotalLe model.totalPrice
  /-- None costs less. -/
  least : ∀ other ∈ models, model.totalPrice.TotalLe other.totalPrice

namespace FirstCheapest

variable {seen models : List PricingModel} {champion model : PricingModel}

/-- A pricing model alone is the first of the cheapest. -/
theorem singleton (model : PricingModel) : FirstCheapest [model] model where
  stands := ⟨[], [], rfl, nofun⟩
  least _ listed := List.mem_singleton.mp listed ▸ Binary64.totalLe_refl _

/-- The first of the cheapest is in the list. -/
theorem mem (first : FirstCheapest models model) : model ∈ models := by
  obtain ⟨before, after, split, -⟩ := first.stands
  rw [split]
  exact List.mem_append_right before List.mem_cons_self

/-- With one more pricing model at the end of the list, the cheaper one of the two is the first of
the cheapest. -/
theorem cheaper (first : FirstCheapest seen champion) (next : PricingModel) :
    FirstCheapest (seen ++ [next]) (champion.cheaper next) := by
  unfold PricingModel.cheaper
  by_cases undercut : next.totalPrice.rank < champion.totalPrice.rank
  · rw [if_pos undercut]
    have passed : next.totalPrice.TotalLe champion.totalPrice :=
      Binary64.totalLe_iff_rank_le.mpr (Int.le_of_lt undercut)
    refine ⟨⟨seen, [], rfl, fun earlier listed reached => ?_⟩, fun other listed => ?_⟩
    · have behind := Binary64.totalLe_iff_rank_le.mp ((first.least earlier listed).trans reached)
      omega
    · rcases List.mem_append.mp listed with listed | last
      · exact passed.trans (first.least other listed)
      · exact List.mem_singleton.mp last ▸ Binary64.totalLe_refl _
  · rw [if_neg undercut]
    obtain ⟨before, after, split, dearer⟩ := first.stands
    refine ⟨⟨before, after ++ [next], by rw [split]; simp, dearer⟩, fun other listed => ?_⟩
    rcases List.mem_append.mp listed with listed | last
    · exact first.least other listed
    · rw [List.mem_singleton.mp last, Binary64.totalLe_iff_rank_le]
      omega

/-- Going on through a list, the cheapest so far becomes the first of the cheapest of all. -/
theorem foldl_cheaper (first : FirstCheapest seen champion) (rest : List PricingModel) :
    FirstCheapest (seen ++ rest) (rest.foldl PricingModel.cheaper champion) := by
  induction rest generalizing seen champion with
  | nil => simpa using first
  | cons next rest ih => simpa using ih (first.cheaper next)

/-- The first of the cheapest does not stand in front of one that all in front of it cost more
than. -/
theorem notMem_before {other : PricingModel} {before after : List PricingModel}
    (first : FirstCheapest models model) (split : models = before ++ other :: after)
    (dearer : ∀ earlier ∈ before, ¬ earlier.totalPrice.TotalLe other.totalPrice) :
    model ∉ before := by
  intro listed
  have present : other ∈ models := split ▸ List.mem_append_right before List.mem_cons_self
  exact dearer model listed (first.least other present)

/-- There is no second first of the cheapest. -/
theorem unique {other : PricingModel} (first : FirstCheapest models model)
    (also : FirstCheapest models other) : model = other := by
  obtain ⟨before, after, split, dearer⟩ := first.stands
  obtain ⟨front, back, divided, costlier⟩ := also.stands
  -- If the two stand in different places, one of them stands in front of the other.
  rcases List.append_eq_append_iff.mp (split.symm.trans divided) with
    ⟨gap, longer, rest⟩ | ⟨gap, longer, rest⟩
  · cases gap with
    | nil => exact (List.cons.inj rest).1
    | cons head gap =>
      obtain ⟨rfl, -⟩ := List.cons.inj rest
      have listed : model ∈ front := longer ▸ List.mem_append_right before List.mem_cons_self
      exact absurd listed (first.notMem_before divided costlier)
  · cases gap with
    | nil => exact (List.cons.inj rest).1.symm
    | cons head gap =>
      obtain ⟨rfl, -⟩ := List.cons.inj rest
      have listed : other ∈ before := longer ▸ List.mem_append_right front List.mem_cons_self
      exact absurd listed (also.notMem_before split dearer)

/-- The price of the first of the cheapest does not depend on the order of the list. -/
theorem totalPrice_eq_of_perm {others : List PricingModel} {other : PricingModel}
    (first : FirstCheapest models model) (also : FirstCheapest others other)
    (permuted : others.Perm models) : other.totalPrice = model.totalPrice :=
  (also.least model (permuted.mem_iff.mpr first.mem)).antisymm
    (first.least other (permuted.mem_iff.mp also.mem))

end FirstCheapest

/-- A list of pricing models has a cheapest one unless it is empty. -/
theorem cheapest?_eq_none_iff {models : List PricingModel} :
    cheapest? models = none ↔ models = [] := by
  cases models <;> simp [cheapest?]

/-- The cheapest pricing model of a list is the first of the cheapest. -/
theorem cheapest?_eq_some_iff {models : List PricingModel} {model : PricingModel} :
    cheapest? models = some model ↔ FirstCheapest models model := by
  have found {model : PricingModel} (chosen : cheapest? models = some model) :
      FirstCheapest models model := by
    cases models with
    | nil => cases chosen
    | cons head rest =>
      obtain rfl := Option.some.inj chosen
      exact (FirstCheapest.singleton head).foldl_cheaper rest
  refine ⟨found, fun first => ?_⟩
  cases chosen : cheapest? models with
  | none =>
    rw [cheapest?_eq_none_iff.mp chosen] at first
    exact absurd first.mem List.not_mem_nil
  | some other => rw [(found chosen).unique first]

/-- The price of the cheapest pricing model does not depend on the order of the list. -/
theorem totalPrice_cheapest?_of_perm {models others : List PricingModel}
    (permuted : others.Perm models) :
    (cheapest? others).map totalPrice = (cheapest? models).map totalPrice := by
  cases chosen : cheapest? models with
  | none =>
    rw [cheapest?_eq_none_iff.mp chosen] at permuted
    rw [permuted.eq_nil]
    rfl
  | some model =>
    have first := cheapest?_eq_some_iff.mp chosen
    have listed : model ∈ others := permuted.mem_iff.mpr first.mem
    cases also : cheapest? others with
    | none =>
      rw [cheapest?_eq_none_iff.mp also] at listed
      exact absurd listed List.not_mem_nil
    | some other =>
      exact congrArg some (first.totalPrice_eq_of_perm (cheapest?_eq_some_iff.mp also) permuted)

end PricingModel

namespace CatalogueItem

/-- **The first of the cheapest.** An item without pricing models has no cheapest one. Otherwise the
cheapest one is that element of the list of which, in the total order of the prices with tax, no
element costs less and every element in front of it costs more. Its price is the same for every
order of the list. -/
theorem cheapest?_first_least (item : CatalogueItem) :
    (item.cheapest? = none ↔ item.pricingModels = []) ∧
      (∀ model, item.cheapest? = some model ↔
        (∃ before after, item.pricingModels = before ++ model :: after ∧
          ∀ earlier ∈ before, ¬ earlier.totalPrice.TotalLe model.totalPrice) ∧
        ∀ other ∈ item.pricingModels, model.totalPrice.TotalLe other.totalPrice) ∧
      ∀ other : CatalogueItem, other.pricingModels.Perm item.pricingModels →
        other.cheapest?.map PricingModel.totalPrice =
          item.cheapest?.map PricingModel.totalPrice := by
  refine ⟨PricingModel.cheapest?_eq_none_iff, fun model => ?_,
    fun other => PricingModel.totalPrice_cheapest?_of_perm⟩
  refine PricingModel.cheapest?_eq_some_iff.trans ⟨fun first => ⟨first.stands, first.least⟩, ?_⟩
  rintro ⟨stands, least⟩
  exact ⟨stands, least⟩

/-- Of prices that are not a number, zero, negative zero and negative zero again, the third one is
the cheapest; from behind it is the fourth one, at the same price. -/
theorem cheapest?_first_least_zeros :
    let priced (bits : UInt64) (years : UInt32) : PricingModel :=
      .fixed ⟨default, "EUR", .zero, 0, ⟨bits⟩, .zero⟩ ⟨true, years⟩
    let offering (models : List PricingModel) : CatalogueItem :=
      ⟨default, {}, models, none, default, {}⟩
    let models := [priced 0x7ff8000000000000 1, priced 0 2, priced 0x8000000000000000 3,
      priced 0x8000000000000000 4]
    (offering models).cheapest? = some (priced 0x8000000000000000 3) ∧
      (offering models.reverse).cheapest?.map PricingModel.totalPrice =
        (offering models).cheapest?.map PricingModel.totalPrice := by
  intro priced offering models
  obtain ⟨-, first, price⟩ := cheapest?_first_least (offering models)
  have beyond : ¬ (⟨0x7ff8000000000000⟩ : Binary64).TotalLe ⟨0x8000000000000000⟩ := by decide
  have above : ¬ (⟨0⟩ : Binary64).TotalLe ⟨0x8000000000000000⟩ := by decide
  have number : (⟨0x8000000000000000⟩ : Binary64).TotalLe ⟨0x7ff8000000000000⟩ := by decide
  have zero : (⟨0x8000000000000000⟩ : Binary64).TotalLe ⟨0⟩ := by decide
  have same := Binary64.totalLe_refl ⟨0x8000000000000000⟩
  refine ⟨(first _).mpr ⟨⟨[priced 0x7ff8000000000000 1, priced 0 2], _, rfl, ?_⟩, ?_⟩,
    price _ models.reverse_perm⟩
  · exact List.forall_mem_cons.mpr ⟨beyond, List.forall_mem_singleton.mpr above⟩
  · exact List.forall_mem_cons.mpr ⟨number, List.forall_mem_cons.mpr ⟨zero,
      List.forall_mem_cons.mpr ⟨same, List.forall_mem_singleton.mpr same⟩⟩⟩

end CatalogueItem
end GeoMarket
