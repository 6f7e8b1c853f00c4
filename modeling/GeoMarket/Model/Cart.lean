import GeoMarket.Model.Catalogue
import GeoMarket.Model.Error

/-!
# The cart

The server keeps the cart and computes its totals. An item is put into the cart by naming a
catalogue item and one of the pricing models that it offers.
-/
namespace GeoMarket

/-- An entry of the cart. -/
structure CartItem where
  /-- The identifier of the entry. -/
  id : Uuid
  /-- The catalogue item. -/
  product : CatalogueItem
  /-- When it was added. -/
  addedAt : Option Timestamp
  /-- The pricing model that was chosen. -/
  pricingModel : PricingModel
  deriving BEq

namespace CartItem

/-- The members of an entry. -/
def record : Record CartItem :=
  (Record.field (.required "id" Uuid.codec) <|
    Record.field (.required "product" CatalogueItem.codec) <|
    Record.field (.optional "addedAt" Timestamp.codec) <|
    Record.field (.required "pricingModel" PricingModel.codec) <|
    Record.empty).isomorphic
    (fun (id, product, addedAt, pricingModel, ()) => ⟨id, product, addedAt, pricingModel⟩)
    (fun entry => (entry.id, entry.product, entry.addedAt, entry.pricingModel, ()))

/-- The codec of entries. -/
def codec : Codec CartItem := record.codec

end CartItem

/-- The cart. -/
structure Cart where
  /-- The entries. -/
  items : List CartItem
  /-- The coupons that were applied. -/
  appliedCoupons : List String
  /-- The price of all entries with tax. -/
  totalPrice : Binary64
  /-- The price of all entries without tax. -/
  totalPriceExcludingTax : Binary64
  /-- The tax on all entries. -/
  taxTotal : Binary64
  /-- The currency of the amounts. -/
  currency : String
  /-- The number of entries. -/
  totalItems : UInt32
  /-- When the cart was created. -/
  createdAt : Option Timestamp
  /-- When the cart was changed. -/
  modifiedAt : Option Timestamp
  deriving BEq

namespace Cart

/-- The cart has no entries. -/
def isEmpty (cart : Cart) : Bool := cart.items.isEmpty

/-- Some entry is for the given catalogue item. -/
def containsProduct (cart : Cart) (product : Uuid) : Bool :=
  cart.items.any fun entry => entry.product.id == product

/-- The members of a cart. -/
def record : Record Cart :=
  (Record.field (.defaulted "items" CartItem.codec.listOf []) <|
    Record.field (.defaulted "appliedCoupons" Codec.text.listOf []) <|
    Record.field (.required "totalPrice" .amount) <|
    Record.field (.required "totalPriceExcludingTax" .amount) <|
    Record.field (.required "taxTotal" .amount) <|
    Record.field (.required "currency" .text) <|
    Record.field (.required "totalItems" .word32) <|
    Record.field (.optional "createdAt" Timestamp.codec) <|
    Record.field (.optional "modifiedAt" Timestamp.codec) <|
    Record.empty).isomorphic
    (fun (items, appliedCoupons, totalPrice, totalPriceExcludingTax, taxTotal, currency,
        totalItems, createdAt, modifiedAt, ()) =>
      ⟨items, appliedCoupons, totalPrice, totalPriceExcludingTax, taxTotal, currency, totalItems,
        createdAt, modifiedAt⟩)
    (fun cart =>
      (cart.items, cart.appliedCoupons, cart.totalPrice, cart.totalPriceExcludingTax,
        cart.taxTotal, cart.currency, cart.totalItems, cart.createdAt, cart.modifiedAt, ()))

/-- The codec of carts. -/
def codec : Codec Cart := record.codec

end Cart

/-- A command that puts an item into the cart. -/
structure CartAddItemCommand where
  /-- The catalogue item. -/
  productId : Uuid
  /-- The pricing model that was chosen. -/
  pricingModelId : Uuid
  deriving DecidableEq

namespace CartAddItemCommand

/-- The command for a catalogue item and one of its own pricing models. -/
def forItem (item : CatalogueItem) (pricingModel : Uuid) : Except ModelError CartAddItemCommand :=
  if (item.pricingModel? pricingModel).isSome then .ok ⟨item.id, pricingModel⟩
  else .error (.unknownPricingModel item.id pricingModel)

/-- The members of the command. -/
def record : Record CartAddItemCommand :=
  (Record.field (.required "productId" Uuid.codec) <|
    Record.field (.required "pricingModelId" Uuid.codec) <|
    Record.empty).isomorphic
    (fun (productId, pricingModelId, ()) => ⟨productId, pricingModelId⟩)
    (fun command => (command.productId, command.pricingModelId, ()))

end CartAddItemCommand
end GeoMarket
