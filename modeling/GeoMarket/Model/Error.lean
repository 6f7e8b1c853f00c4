import GeoMarket.Model.Identifier
import GeoMarket.Number.Decimal

/-!
# Errors of commands

Why a command cannot be built from the values given for it.
-/
namespace GeoMarket

/-- Why a command cannot be built. -/
inductive ModelError
  /-- The catalogue item does not offer the pricing model. -/
  | unknownPricingModel (item pricingModel : Uuid)
  /-- The rating lies outside the scale. -/
  | ratingOutOfRange (value : Binary64)

/-- The text shown for an error. -/
def ModelError.message : ModelError → String
  | unknownPricingModel item pricingModel =>
    "Catalogue item " ++ item.text ++ " does not offer pricing model " ++ pricingModel.text
  | ratingOutOfRange value =>
    "Rating value " ++ value.plainText ++ " is outside the range [0, 5]"

end GeoMarket
