import GeoMarket.Proofs.Model.Arrangement
import GeoMarket.Proofs.Record.Contents

/-!
# Pricing models and the objects that state them

A pricing model is stated by the members of an object: the tag names its kind, and beside it stand
the totals and the terms of the kind. An object is read as the model that its members state, and
refused if they state none. An item of the catalogue is refused with any of its pricing models, and
otherwise has one for each tree of its array.
-/
namespace GeoMarket

/-! ## What members state -/

/-- Members state the totals of a pricing model; a currency that is left out is the default. -/
structure PricingTotals.Stated (look : String → Option Json) (totals : PricingTotals) : Prop where
  /-- The identifier is a text that stands for it. -/
  id : ∃ text, look "id" = some (.str text) ∧ Uuid.ofText? text = some totals.id
  /-- The currency is a text. -/
  currency : look "currency" = some (.str totals.currency) ∨
    (look "currency" = none ∧ totals.currency = defaultCurrency)
  /-- The tax is a number. -/
  tax : StatesAmount (look "tax") totals.tax
  /-- The tax rate is a whole number. -/
  taxPercent : StatesWord (look "taxPercent") totals.taxPercent
  /-- The price with tax is a number. -/
  totalPrice : StatesAmount (look "totalPrice") totals.totalPrice
  /-- The price without tax is a number. -/
  totalPriceExcludingTax : StatesAmount (look "totalPriceExcludingTax")
    totals.totalPriceExcludingTax

/-- Members state what a fixed price includes; without them it includes no updates. -/
structure UpdateTerms.Stated (look : String → Option Json) (terms : UpdateTerms) : Prop where
  /-- Whether updates are included is a truth value. -/
  includesUpdates : look "includesUpdates" = some (.bool terms.includesUpdates) ∨
    (look "includesUpdates" = none ∧ terms.includesUpdates = false)
  /-- The number of years is a whole number. -/
  yearsOfUpdates : StatesWord (look "yearsOfUpdates") terms.yearsOfUpdates ∨
    (look "yearsOfUpdates" = none ∧ terms.yearsOfUpdates = 0)

/-- Members state the terms of a subscription. -/
structure SubscriptionTerms.Stated (look : String → Option Json) (terms : SubscriptionTerms) :
    Prop where
  /-- The duration is a whole number. -/
  duration : StatesWord (look "duration") terms.duration
  /-- The price of a month is a number. -/
  monthlyPrice : StatesAmount (look "monthlyPrice") terms.monthlyPrice

/-- Members state the terms of a pricing model, if its kind has any. -/
def PricingModel.TermsStated (look : String → Option Json) : PricingModel → Prop
  | free _ => True
  | fixed _ terms => terms.Stated look
  | subscription _ terms => terms.Stated look

/-- Members state a pricing model: the tag names its kind, and the others state its totals and the
terms of its kind. -/
structure PricingModel.Stated (look : String → Option Json) (model : PricingModel) : Prop where
  /-- The tag is the name of the kind. -/
  tag : look "type" = some (.str model.kind.name)
  /-- The totals are stated. -/
  totals : model.totals.Stated look
  /-- The terms of the kind are stated. -/
  terms : model.TermsStated look

/-! ## What is read is what is stated -/

variable {reading : Reading} {look : String → Option Json}

/-- The totals that are read are the ones that are stated. -/
theorem PricingTotals.read_iff {totals : PricingTotals} :
    record.read reading look = some totals ↔ totals.Stated look := by
  rw [record, Record.read_isomorphic_iff]
  simp only [Prod.exists, Record.read_field_iff, Field.read_id_iff, Field.read_amount_iff,
    Field.read_word_iff, Field.read_text_or_default_iff, Field.name_required, Field.name_defaulted]
  constructor
  · rintro ⟨_, _, _, _, _, _, _, ⟨id, currency, tax, percent, price, net, -⟩, rfl⟩
    exact ⟨id, currency, tax, percent, price, net⟩
  · intro stated
    exact ⟨_, _, _, _, _, _, (), ⟨stated.id, stated.currency, stated.tax, stated.taxPercent,
      stated.totalPrice, stated.totalPriceExcludingTax, rfl⟩, rfl⟩

/-- The terms of a subscription that are read are the ones that are stated. -/
theorem SubscriptionTerms.read_iff {terms : SubscriptionTerms} :
    record.read reading look = some terms ↔ terms.Stated look := by
  rw [record, Record.read_isomorphic_iff]
  simp only [Prod.exists, Record.read_field_iff, Field.read_amount_iff, Field.read_word_iff,
    Field.name_required]
  constructor
  · rintro ⟨_, _, _, ⟨duration, price, -⟩, rfl⟩
    exact ⟨duration, price⟩
  · intro stated
    exact ⟨_, _, (), ⟨stated.duration, stated.monthlyPrice, rfl⟩, rfl⟩

/-- Of a free model the totals are read, and no terms. -/
theorem PricingModel.read_freeRecord_iff {totals : PricingTotals} :
    freeRecord.read reading look = some totals ↔ totals.Stated look :=
  PricingTotals.read_iff

/-- Of a model with a fixed price the totals are read, and the terms of updates. -/
theorem PricingModel.read_fixedRecord_iff {totals : PricingTotals} {terms : UpdateTerms} :
    fixedRecord.read reading look = some (totals, terms) ↔
      totals.Stated look ∧ terms.Stated look := by
  rw [fixedRecord, Record.read_append_iff, Record.read_isomorphic_iff]
  simp only [Prod.exists, Record.read_field_iff, Field.read_word_or_default_iff,
    Field.read_flag_or_default_iff, Field.name_defaulted]
  refine and_congr PricingTotals.read_iff ?_
  constructor
  · rintro ⟨_, _, _, ⟨included, years, -⟩, rfl⟩
    exact ⟨included, years⟩
  · intro stated
    exact ⟨_, _, (), ⟨stated.includesUpdates, stated.yearsOfUpdates, rfl⟩, rfl⟩

/-- Of a subscription the totals are read, and the terms of the subscription. -/
theorem PricingModel.read_subscriptionRecord_iff {totals : PricingTotals}
    {terms : SubscriptionTerms} :
    subscriptionRecord.read reading look = some (totals, terms) ↔
      totals.Stated look ∧ terms.Stated look := by
  rw [subscriptionRecord, Record.read_append_iff]
  exact and_congr PricingTotals.read_iff SubscriptionTerms.read_iff

/-- A kind is found under its own name and under no other. -/
theorem PricingKind.lookup_named_iff {text : String} {kind : PricingKind} :
    named.lookup text = some kind ↔ text = kind.name := by
  constructor
  · intro found
    simp only [named, List.map_cons, List.map_nil, List.lookup_cons, List.lookup_nil] at found
    grind
  · rintro rfl
    cases kind <;> decide

namespace PricingModel

section Members

variable {members : List (String × Json)} (distinct : (members.map Prod.fst).Nodup)
  (readable : ∀ member ∈ members, member.2.readable = true)

include distinct readable

/-- Beside the tag, each kind reads the models of this kind that the members state. -/
theorem readKind_iff {kind : PricingKind} {model : PricingModel} :
    readKind kind (.obj (members.filter fun member => member.1 != Union.tagKey)) = some model ↔
      model.kind = kind ∧ model.totals.Stated (fun key => members.lookup key) ∧
        model.TermsStated fun key => members.lookup key := by
  cases kind with
  | free =>
    rw [readKind, Union.readRecord_beside distinct readable freeRecord (by decide),
      Option.map_eq_some_iff]
    simp only [read_freeRecord_iff]
    cases model with
    | free totals => simp [kind, PricingModel.totals, TermsStated]
    | _ => simp [kind]
  | fixed =>
    rw [readKind, Union.readRecord_beside distinct readable fixedRecord (by decide),
      Option.map_eq_some_iff]
    simp only [Prod.exists, read_fixedRecord_iff]
    cases model with
    | fixed totals terms => simp [kind, PricingModel.totals, TermsStated]
    | _ => simp [kind]
  | subscription =>
    rw [readKind, Union.readRecord_beside distinct readable subscriptionRecord (by decide),
      Option.map_eq_some_iff]
    simp only [Prod.exists, read_subscriptionRecord_iff]
    cases model with
    | subscription totals terms => simp [kind, PricingModel.totals, TermsStated]
    | _ => simp [kind]

/-- Readable members are read as the pricing model that they state. -/
theorem read_iff {model : PricingModel} :
    codec.read .direct (.obj members) = some model ↔
      model.Stated fun key => members.lookup key := by
  rw [codec, Union.read_obj_iff distinct readable]
  simp only [PricingKind.lookup_named_iff, readKind_iff distinct readable]
  constructor
  · rintro ⟨_, _, tag, rfl, rfl, totals, terms⟩
    exact ⟨tag, totals, terms⟩
  · intro stated
    exact ⟨_, _, stated.tag, rfl, rfl, stated.totals, stated.terms⟩

end Members

end PricingModel

/-! ## Pricing models of an item -/

namespace CatalogueItem

/-- An item that finds an array of pricing models reads all of them, and reads everything else as
it would with an empty array. -/
theorem read_iff_of_models {other : String → Option Json} {elements : List Json}
    {item : CatalogueItem} (models : look "pricingModels" = some (.arr elements))
    (empty : other "pricingModels" = some (.arr []))
    (agree : ∀ key, key ≠ "pricingModels" → look key = other key) :
    record.read reading look = some item ↔
      List.Forall₂ (fun element model => PricingModel.codec.read reading element = some model)
        elements item.pricingModels ∧
      record.read reading other = some { item with pricingModels := [] } := by
  have metadata : Metadata.record.read .gathered look = Metadata.record.read .gathered other := by
    refine Record.Local.read_congr .gathered fun key known => agree key ?_
    rintro rfl
    exact absurd known (by decide)
  have offers {elements : List Json} {offered : List PricingModel} :
      (Field.defaulted "pricingModels" PricingModel.codec.listOf []).read reading
          (some (.arr elements)) = some offered ↔
        List.Forall₂ (fun element model => PricingModel.codec.read reading element = some model)
          elements offered := by
    simp [Field.read_defaulted_iff, Codec.read_listOf_iff]
  obtain ⟨id, data, offered, publisher, publisherId, statistics⟩ := item
  simp only [record, Record.read_isomorphic_iff, Record.read_append_iff, Record.read_field_iff,
    Prod.exists, Record.embed, metadata, Field.name_required, Field.name_defaulted,
    Field.name_omitted, models, empty, offers, agree "id" (by decide),
    agree "publisher" (by decide), agree "publisherId" (by decide),
    agree "statistics" (by decide)]
  constructor
  · rintro ⟨_, _, _, _, _, _, _, ⟨id, data, along, rest⟩, whole⟩
    cases whole
    exact ⟨along, _, _, [], _, _, _, (), ⟨id, data, .nil, rest⟩, rfl⟩
  · rintro ⟨along, _, _, _, _, _, _, _, ⟨id, data, -, rest⟩, whole⟩
    cases whole
    exact ⟨_, _, offered, _, _, _, (), ⟨id, data, along, rest⟩, rfl⟩

/-- An item reads all trees of its array of pricing models, and is refused with any of them. -/
theorem read_pricingModels_iff {before after : List (String × Json)} {elements : List Json}
    {item : CatalogueItem} :
    codec.read reading (.obj (before ++ ("pricingModels", .arr elements) :: after)) = some item ↔
      List.Forall₂ (fun element model => PricingModel.codec.read reading element = some model)
        elements item.pricingModels ∧
      codec.read reading (.obj (before ++ ("pricingModels", .arr []) :: after)) =
        some { item with pricingModels := [] } := by
  change record.ofMembers? reading _ = _ ↔ _ ∧ record.ofMembers? reading _ = _
  have owned : "pricingModels" ∈ record.own := by decide
  have known : "pricingModels" ∈ record.keys := List.mem_append_left _ owned
  have same : record.accepts (before ++ ("pricingModels", .arr elements) :: after) =
      record.accepts (before ++ ("pricingModels", .arr []) :: after) := Record.accepts_middle owned
  rw [Record.ofMembers?_eq_some_iff, Record.ofMembers?_eq_some_iff, same, and_left_comm]
  refine and_congr_right fun accepted => ?_
  have models := Record.lookup_middle (Record.occurrences_le_of_accepts (same.trans accepted) known)
  have empty := Record.lookup_middle (Record.occurrences_le_of_accepts accepted known)
  exact read_iff_of_models models empty fun key apart => Record.lookup_middle_ne apart

end CatalogueItem

/-- **The pricing models of an item.** An object with distinct keys and a value in every part is
read as exactly the pricing model that its members state: the tag is `FREE`, `FIXED` or
`SUBSCRIPTION` and names the kind of the model; identifier, tax, tax rate and both prices are stated
in the members of the totals, and the currency is stated or the default; the terms of a subscription
are stated, and those of a fixed price are stated or left out one by one. Any other object is
refused. An item with an array of pricing models has one for each tree of the array, in this order,
and is refused if one of the trees is. -/
theorem PricingModel.read_stated :
    (∀ (members : List (String × Json)) (model : PricingModel),
      (members.map Prod.fst).Nodup → (∀ member ∈ members, member.2.readable = true) →
      (codec.read .direct (.obj members) = some model ↔
        model.Stated fun key => members.lookup key)) ∧
    ∀ (reading : Reading) (before after : List (String × Json)) (elements : List Json)
      (item : CatalogueItem),
      CatalogueItem.codec.read reading
          (.obj (before ++ ("pricingModels", .arr elements) :: after)) = some item ↔
        List.Forall₂ (fun element model => codec.read reading element = some model)
          elements item.pricingModels ∧
        CatalogueItem.codec.read reading
          (.obj (before ++ ("pricingModels", .arr []) :: after)) =
            some { item with pricingModels := [] } :=
  ⟨fun _ _ distinct readable => read_iff distinct readable,
    fun _ _ _ _ _ => CatalogueItem.read_pricingModels_iff⟩

/-- A fixed price without a currency and without terms is in euros and includes no updates. -/
theorem PricingModel.read_stated_fixed :
    let members : List (String × Json) :=
      [("tax", .ofNat 19), ("taxPercent", .ofNat 19), ("totalPrice", .ofNat 119), ("type", "FIXED"),
        ("totalPriceExcludingTax", .ofNat 100), ("id", "00000000-0000-0000-0000-000000000000")]
    let model : PricingModel :=
      .fixed ⟨default, "EUR", Binary64.ofNat 19, 19, Binary64.ofNat 119, Binary64.ofNat 100⟩
        ⟨false, 0⟩
    (members.map Prod.fst).Nodup ∧ (∀ member ∈ members, member.2.readable = true) ∧
      codec.read .direct (.obj members) = some model ∧
      model.Stated fun key => members.lookup key := by
  intro members model
  have distinct : (members.map Prod.fst).Nodup := by decide
  have readable : ∀ member ∈ members, member.2.readable = true := by decide
  have read : codec.read .direct (.obj members) = some model := by rfl
  exact ⟨distinct, readable, read, (read_stated.1 members model distinct readable).mp read⟩

end GeoMarket
