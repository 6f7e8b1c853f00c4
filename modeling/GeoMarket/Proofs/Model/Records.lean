import GeoMarket.Model.Account
import GeoMarket.Model.Cart
import GeoMarket.Model.Rating
import GeoMarket.Proofs.Model.Timestamp
import GeoMarket.Proofs.Record.Members

/-!
# What the server sends

Every value that is read from an answer of the server is written so that it reads back as itself.
For each record this follows from its members: the parts of a record are put together one to one,
no key stands for two of them, and each default is a value that survives. Values that an item or a
profile embeds are gathered before they are read, so most records are sound for both ways of
reading; nothing at all is sound only when it is read straight from the text, since gathered members
also bring it as an empty object.
-/
namespace GeoMarket

variable {α : Type} (reading : Reading)

instance (document : Json.Document) : documentCodec.Survives document where
  restores layout _ := by
    change Json.document? (layout.apply document.tree) = some document
    rw [layout.apply_of_settled document.isSettled, Json.document?_tree]
  readable := Json.readable_of_settled document.tree document.isSettled

instance : documentCodec.Sound reading where
  survives _ := inferInstance
  present {tree document} read something := by
    change Json.document? tree = some document at read
    unfold Json.document? at read
    split at read
    · cases read
      refine ⟨fun empty => something ?_⟩
      cases tree <;> simp_all [documentCodec, Json.sorted]
    · cases read

/-! ## Accounts -/

instance (address : Address) : Address.record.codec.Survives address :=
  Record.Survives.codec (Record.survives_isomorphic rfl) (by decide)

instance (fields : ProfileFields) : ProfileFields.record.Survives fields :=
  Record.survives_isomorphic rfl

instance : ProfileFields.record.Sound reading := Record.sound_isomorphic fun _ => rfl

instance : Profile.record.codec.Sound reading :=
  Record.Sound.codec (Record.sound_isomorphic fun _ => rfl) (by decide)

-- An account without a profile has the profile of an empty object.
instance : Profile.record.codec.Survives {} :=
  Codec.Sound.survives (show Profile.record.codec.read .direct (.obj []) = some {} from rfl)

instance : Account.codec.Sound reading :=
  Record.Sound.codec (Record.sound_isomorphic fun _ => rfl) (by decide)

instance : CsrfToken.codec.Sound reading :=
  Record.Sound.codec (Record.sound_isomorphic fun _ => rfl) (by decide)

/-! ## The configuration -/

instance (fileType : FileType) : FileType.record.codec.Survives fileType :=
  Record.Survives.codec (Record.survives_isomorphic rfl) (by decide)

instance (asset : AssetSettings) : AssetSettings.record.codec.Survives asset :=
  Record.Survives.codec (Record.survives_isomorphic rfl) (by decide)

instance : Configuration.codec.Sound reading :=
  Record.Sound.codec (Record.sound_isomorphic fun _ => rfl) (by decide)

/-! ## Prices -/

instance : PricingTotals.record.Sound reading := Record.sound_isomorphic fun _ => rfl

instance : SubscriptionTerms.record.Sound reading := Record.sound_isomorphic fun _ => rfl

instance : PricingModel.freeRecord.Sound reading :=
  inferInstanceAs (PricingTotals.record.embed.Sound reading)

instance : PricingModel.fixedRecord.Sound reading :=
  @Record.sound_append _ _ _ _ _ inferInstance (Record.sound_isomorphic fun _ => rfl)

instance : PricingModel.subscriptionRecord.Sound reading :=
  inferInstanceAs ((PricingTotals.record.embed.append SubscriptionTerms.record).Sound reading)

instance : PricingModel.codec.Sound reading := by
  refine Union.sound reading fun {kind tree value} read => ?_
  cases kind with
  | free =>
    exact Union.survives_of_read .free PricingModel.freeRecord .free (by decide) (fun _ => rfl)
      (fun _ => rfl) (fun _ => rfl) read
  | fixed =>
    exact Union.survives_of_read .fixed PricingModel.fixedRecord
      (fun (totals, terms) => .fixed totals terms) (by decide) (fun _ => rfl) (fun _ => rfl)
      (fun _ => rfl) read
  | subscription =>
    exact Union.survives_of_read .subscription PricingModel.subscriptionRecord
      (fun (totals, terms) => .subscription totals terms) (by decide) (fun _ => rfl) (fun _ => rfl)
      (fun _ => rfl) read

/-! ## The catalogue, the cart and ratings -/

instance : Publisher.codec.Sound reading :=
  Record.Sound.codec (Record.sound_isomorphic fun _ => rfl) (by decide)

instance : Statistics.record.codec.Sound reading :=
  Record.Sound.codec (Record.sound_isomorphic fun _ => rfl) (by decide)

-- An item without statistics has those of an empty object.
instance : Statistics.record.codec.Survives {} :=
  Codec.Sound.survives (show Statistics.record.codec.read .direct (.obj []) = some {} from rfl)

-- Thirty-two members take the search for instances further than it goes by default.
set_option synthInstance.maxSize 512 in
instance : Metadata.record.Sound reading := Record.sound_isomorphic fun _ => rfl

instance : CatalogueItem.codec.Sound reading :=
  Record.Sound.codec (Record.sound_isomorphic fun _ => rfl) (by decide)

instance : CartItem.codec.Sound reading :=
  Record.Sound.codec (Record.sound_isomorphic fun _ => rfl) (by decide)

instance : Cart.codec.Sound reading :=
  Record.Sound.codec (Record.sound_isomorphic fun _ => rfl) (by decide)

instance : Rating.codec.Sound reading :=
  Record.Sound.codec (Record.sound_isomorphic fun _ => rfl) (by decide)

/-! ## Pages and envelopes -/

instance (request : PageRequest) : PageRequest.record.codec.Survives request :=
  Record.Survives.codec (Record.survives_isomorphic rfl) (by decide)

instance (items : Codec α) [items.Sound reading] : (ResultPage.record items).codec.Sound reading :=
  Record.Sound.codec (Record.sound_isomorphic fun _ => rfl)
    (show ["pageRequest", "count", "items"].Nodup by decide)

instance (message : Message) : Message.record.codec.Survives message :=
  Record.Survives.codec (Record.survives_isomorphic rfl) (by decide)

instance (payload : Codec α) [payload.Sound reading] : (Envelope.codec payload).Sound reading :=
  Record.Sound.codec (Record.sound_isomorphic fun _ => rfl)
    (show ["messages", "result", "success"].Nodup by decide)

/-! ## Answers -/

namespace Codec

/-- The codecs of what the server sends: a record, some records or a page of them, and an envelope
around any of these or around nothing. -/
inductive Received : {α : Type} → Codec α → Prop
  | account : Received Account.codec
  | profile : Received Profile.record.codec
  | address : Received Address.record.codec
  | catalogueItem : Received CatalogueItem.codec
  | publisher : Received Publisher.codec
  | statistics : Received Statistics.record.codec
  | pricingModel : Received PricingModel.codec
  | cart : Received Cart.codec
  | cartItem : Received CartItem.codec
  | configuration : Received Configuration.codec
  | rating : Received Rating.codec
  | csrfToken : Received CsrfToken.codec
  | list {α : Type} {items : Codec α} (received : Received items) : Received items.listOf
  | page {α : Type} {items : Codec α} (received : Received items) :
    Received (ResultPage.record items).codec
  | envelope {α : Type} {payload : Codec α} (received : Received payload) :
    Received (Envelope.codec payload)
  | receipt : Received (Envelope.codec .nothing)

/-- What the server sends is read soundly. -/
theorem Received.sound {codec : Codec α} (received : codec.Received) : codec.Sound .direct := by
  induction received with
  | _ => infer_instance

/-- **What was received is written so that it reads back.** The tree of an answer may hold any
members in any order; once it has been read as a value, that value reads back from what is written
for it, in either layout. -/
theorem restored_of_received {codec : Codec α} (received : codec.Received) {tree : Json}
    {value : α} (read : codec.read .direct tree = some value) (layout : Json.Layout)
    (reading : Reading) : codec.read reading (layout.apply (codec.write value)) = some value :=
  have sound := received.sound
  (sound.survives read).restores layout reading

end Codec

/-- The answer for an item as a server may send it: the members of the item, of its description and
of its price stand in no particular order, amounts are whole numbers, and defaults are left out. -/
def parcelsAnswer : Json :=
  let zeros : Json := "00000000-0000-0000-0000-000000000000"
  let price : Json := .obj [("totalPrice", .ofNat 12), ("id", zeros), ("taxPercent", .ofNat 20),
    ("type", "FIXED"), ("tax", .ofNat 2), ("yearsOfUpdates", .ofNat 3),
    ("totalPriceExcludingTax", .ofNat 10)]
  let point : Json := .obj [("type", "Point"), ("coordinates", .arr [.ofNat 2, .ofNat 1])]
  let item : Json := .obj [("type", "vector"), ("id", zeros), ("geometry", point),
    ("pricingModels", .arr [price]), ("publisherId", zeros), ("title", "Parcels"),
    ("version", .null)]
  .obj [("result", item), ("success", .bool true)]

/-- The item that the answer brings. -/
def parcels : CatalogueItem where
  id := default
  metadata :=
    { title := some "Parcels"
      resourceType := some "vector"
      geometry := some
        ⟨.obj [("coordinates", .arr [.ofNat 2, .ofNat 1]), ("type", "Point")], by decide⟩ }
  pricingModels :=
    [.fixed
      { id := default
        currency := defaultCurrency
        tax := Binary64.ofNat 2
        taxPercent := 20
        totalPrice := Binary64.ofNat 12
        totalPriceExcludingTax := Binary64.ofNat 10 }
      ⟨false, 3⟩]
  publisher := none
  publisherId := default
  statistics := {}

/-- The item is read from its answer and restored from what is written for it. -/
theorem restored_parcels :
    (Envelope.codec CatalogueItem.codec).read .direct parcelsAnswer = some (.ok parcels) ∧
      (Envelope.codec CatalogueItem.codec).read .direct
        (Json.sorted ((Envelope.codec CatalogueItem.codec).write (.ok parcels))) =
          some (.ok parcels) :=
  have read : (Envelope.codec CatalogueItem.codec).read .direct parcelsAnswer =
      some (.ok parcels) := rfl
  ⟨read, Codec.restored_of_received (.envelope .catalogueItem) read .sorted .direct⟩

end GeoMarket
