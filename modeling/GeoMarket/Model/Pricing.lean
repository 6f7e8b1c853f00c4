import GeoMarket.Model.Identifier
import GeoMarket.Record.Union

/-!
# Pricing models

An asset is free, has a fixed price, or is sold by subscription. A provider states the price in
a command; the quote of a command is the pricing model that the server makes of it, with the tax
and the total rounded to cents. Quotes are stated for any kind of amount that has the arithmetic
of prices, of which `Binary64` is the one that runs.
-/
namespace GeoMarket

/-- The arithmetic of prices. -/
class PriceArithmetic (α : Type) where
  /-- A whole number as an amount. -/
  ofNat : Nat → α
  /-- The sum of two amounts. -/
  add : α → α → α
  /-- The product of two amounts. -/
  mul : α → α → α
  /-- The quotient of two amounts. -/
  div : α → α → α
  /-- The nearest whole amount, a half going away from zero. -/
  roundAway : α → α

instance : PriceArithmetic Binary64 where
  ofNat := Binary64.ofNat
  add := Binary64.add
  mul := Binary64.mul
  div := Binary64.div
  roundAway := Binary64.roundAway

/-- The currency of every price. -/
def defaultCurrency : String := "EUR"

/-- The kind of a pricing model. -/
inductive PricingKind
  /-- The asset costs nothing. -/
  | free
  /-- The asset has one price. -/
  | fixed
  /-- The asset is paid monthly. -/
  | subscription
  deriving DecidableEq

namespace PricingKind

/-- The name of a kind. -/
def name : PricingKind → String
  | free => "FREE"
  | fixed => "FIXED"
  | subscription => "SUBSCRIPTION"

/-- Every kind under its name. -/
def named : List (String × PricingKind) :=
  [free, fixed, subscription].map fun kind => (kind.name, kind)

/-- The codec of kinds. -/
def codec : Codec PricingKind := Codec.choice (fun text => named.lookup text) name

end PricingKind

/-- The totals of a pricing model. -/
structure PricingTotals (α : Type := Binary64) where
  /-- The identifier of the pricing model. -/
  id : Uuid
  /-- The currency of the amounts. -/
  currency : String
  /-- The tax. -/
  tax : α
  /-- The tax rate in percent. -/
  taxPercent : UInt32
  /-- The price with tax. -/
  totalPrice : α
  /-- The price without tax. -/
  totalPriceExcludingTax : α
  deriving BEq

namespace PricingTotals

variable {α : Type} [PriceArithmetic α]

/-- An amount rounded to cents, a half going away from zero. -/
def roundToCents (value : α) : α :=
  let hundred := PriceArithmetic.ofNat 100
  PriceArithmetic.div (PriceArithmetic.roundAway (PriceArithmetic.mul value hundred)) hundred

/-- The totals of a price without tax: the tax rounded to cents, and its sum with the price
rounded to cents. -/
def ofPrice (id : Uuid) (price : α) (taxPercent : UInt32) : PricingTotals α :=
  let share := PriceArithmetic.mul price (PriceArithmetic.ofNat taxPercent.toNat)
  let tax := roundToCents (PriceArithmetic.div share (PriceArithmetic.ofNat 100))
  { id
    currency := defaultCurrency
    tax
    taxPercent
    totalPrice := roundToCents (PriceArithmetic.add price tax)
    totalPriceExcludingTax := price }

/-- The totals of what costs nothing. -/
def zero (id : Uuid) (taxPercent : UInt32) : PricingTotals α :=
  let nothing := PriceArithmetic.ofNat 0
  { id
    currency := defaultCurrency
    tax := nothing
    taxPercent
    totalPrice := nothing
    totalPriceExcludingTax := nothing }

/-- The members of totals. -/
def record : Record PricingTotals :=
  (Record.field (.required "id" Uuid.codec) <|
    Record.field (.defaulted "currency" .text defaultCurrency) <|
    Record.field (.required "tax" .amount) <|
    Record.field (.required "taxPercent" .word32) <|
    Record.field (.required "totalPrice" .amount) <|
    Record.field (.required "totalPriceExcludingTax" .amount) <|
    Record.empty).isomorphic
    (fun (id, currency, tax, taxPercent, totalPrice, totalPriceExcludingTax, ()) =>
      ⟨id, currency, tax, taxPercent, totalPrice, totalPriceExcludingTax⟩)
    (fun totals =>
      (totals.id, totals.currency, totals.tax, totals.taxPercent, totals.totalPrice,
        totals.totalPriceExcludingTax, ()))

end PricingTotals

/-- What a fixed price includes. -/
structure UpdateTerms where
  /-- Updates are included. -/
  includesUpdates : Bool
  /-- For how many years. -/
  yearsOfUpdates : UInt32
  deriving DecidableEq

/-- What a subscription costs. -/
structure SubscriptionTerms (α : Type := Binary64) where
  /-- The duration in months. -/
  duration : UInt32
  /-- The price of a month without tax. -/
  monthlyPrice : α
  deriving BEq

/-- The members of the terms of a subscription. -/
def SubscriptionTerms.record : Record SubscriptionTerms :=
  (Record.field (.required "duration" .word32) <|
    Record.field (.required "monthlyPrice" .amount) <|
    Record.empty).isomorphic
    (fun (duration, monthlyPrice, ()) => ⟨duration, monthlyPrice⟩)
    (fun terms => (terms.duration, terms.monthlyPrice, ()))

/-- A pricing model of a catalogue item. -/
inductive PricingModel (α : Type := Binary64)
  /-- The asset costs nothing. -/
  | free (totals : PricingTotals α)
  /-- The asset has one price. -/
  | fixed (totals : PricingTotals α) (terms : UpdateTerms)
  /-- The asset is paid monthly. -/
  | subscription (totals : PricingTotals α) (terms : SubscriptionTerms α)
  deriving BEq

namespace PricingModel

variable {α : Type}

/-- The kind of a pricing model. -/
def kind : PricingModel α → PricingKind
  | free _ => .free
  | fixed _ _ => .fixed
  | subscription _ _ => .subscription

/-- The totals of a pricing model. -/
def totals : PricingModel α → PricingTotals α
  | free totals => totals
  | fixed totals _ => totals
  | subscription totals _ => totals

/-- The identifier of a pricing model. -/
def id (model : PricingModel α) : Uuid := model.totals.id

/-- The price with tax. -/
def totalPrice (model : PricingModel α) : α := model.totals.totalPrice

/-- The members of a free model: its totals. -/
def freeRecord : Record PricingTotals := PricingTotals.record.embed

/-- The members of a model with one price. -/
def fixedRecord : Record (PricingTotals × UpdateTerms) :=
  PricingTotals.record.embed.append <|
    (Record.field (.defaulted "includesUpdates" .flag false) <|
      Record.field (.defaulted "yearsOfUpdates" .word32 0) <|
      Record.empty).isomorphic
      (fun (includesUpdates, yearsOfUpdates, ()) => ⟨includesUpdates, yearsOfUpdates⟩)
      (fun terms => (terms.includesUpdates, terms.yearsOfUpdates, ()))

/-- The members of a model that is paid monthly. -/
def subscriptionRecord : Record (PricingTotals × SubscriptionTerms) :=
  PricingTotals.record.embed.append SubscriptionTerms.record

/-- What stands beside the tag of a kind. -/
def readKind (kind : PricingKind) (tree : Json) : Option PricingModel :=
  match kind with
  | .free => (Union.readRecord freeRecord tree).map free
  | .fixed => (Union.readRecord fixedRecord tree).map fun (totals, terms) => fixed totals terms
  | .subscription =>
    (Union.readRecord subscriptionRecord tree).map fun (totals, terms) => subscription totals terms

/-- The members of a pricing model beside its tag. -/
def members : PricingModel → List (String × Json)
  | free totals => freeRecord.write totals
  | fixed totals terms => fixedRecord.write (totals, terms)
  | subscription totals terms => subscriptionRecord.write (totals, terms)

/-- The codec of pricing models. -/
def codec : Codec PricingModel :=
  Union.codec PricingKind.named readKind (fun model => model.kind.name) members

/-- Of two pricing models the cheaper one, by the total order of prices; the first one if they
cost the same. -/
def cheaper (first second : PricingModel) : PricingModel :=
  if second.totalPrice.rank < first.totalPrice.rank then second else first

/-- The first of the cheapest pricing models. -/
def cheapest? : List PricingModel → Option PricingModel
  | [] => none
  | first :: rest => some (rest.foldl cheaper first)

end PricingModel

/-- A pricing model as a provider states it. -/
inductive PricingModelCommand (α : Type := Binary64)
  /-- The asset costs nothing. -/
  | free
  /-- The asset has one price. -/
  | fixed (terms : UpdateTerms) (totalPriceExcludingTax : α)
  /-- The asset is paid monthly. -/
  | subscription (terms : SubscriptionTerms α)
  deriving BEq

namespace PricingModelCommand

variable {α : Type}

/-- The kind of pricing model that is asked for. -/
def kind : PricingModelCommand α → PricingKind
  | free => .free
  | fixed _ _ => .fixed
  | subscription _ => .subscription

/-- The price without tax: a subscription costs its monthly price for each of its months. -/
def priceExcludingTax [PriceArithmetic α] : PricingModelCommand α → α
  | free => PriceArithmetic.ofNat 0
  | fixed _ price => price
  | subscription terms =>
    PriceArithmetic.mul terms.monthlyPrice (PriceArithmetic.ofNat terms.duration.toNat)

/-- The pricing model that the server makes of a command, under an identifier and a tax rate. -/
def quote [PriceArithmetic α] (command : PricingModelCommand α) (id : Uuid) (taxPercent : UInt32) :
    PricingModel α :=
  match command with
  | free => .free (PricingTotals.zero id taxPercent)
  | fixed terms price => .fixed (PricingTotals.ofPrice id price taxPercent) terms
  | subscription terms =>
    .subscription (PricingTotals.ofPrice id command.priceExcludingTax taxPercent) terms

/-- The members of a command for one price. -/
def fixedRecord : Record (UpdateTerms × Binary64) :=
  (Record.field (.required "includesUpdates" .flag) <|
    Record.field (.required "yearsOfUpdates" .word32) <|
    Record.field (.required "totalPriceExcludingTax" .amount) <|
    Record.empty).isomorphic
    (fun (includesUpdates, yearsOfUpdates, price, ()) => (⟨includesUpdates, yearsOfUpdates⟩, price))
    (fun (terms, price) => (terms.includesUpdates, terms.yearsOfUpdates, price, ()))

/-- What stands beside the tag of a kind. -/
def readKind (kind : PricingKind) (tree : Json) : Option PricingModelCommand :=
  match kind with
  | .free => Union.readBare free tree
  | .fixed => (Union.readRecord fixedRecord tree).map fun (terms, price) => fixed terms price
  | .subscription => (Union.readRecord SubscriptionTerms.record tree).map subscription

/-- The members of a command beside its tag. -/
def members : PricingModelCommand → List (String × Json)
  | free => []
  | fixed terms price => fixedRecord.write (terms, price)
  | subscription terms => SubscriptionTerms.record.write terms

/-- The codec of pricing commands. -/
def codec : Codec PricingModelCommand :=
  Union.codec PricingKind.named readKind (fun command => command.kind.name) members

end PricingModelCommand
end GeoMarket
