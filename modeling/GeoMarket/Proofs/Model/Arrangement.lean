import GeoMarket.Model.Account
import GeoMarket.Model.Cart
import GeoMarket.Model.Rating
import GeoMarket.Proofs.Record.Arrangement
import GeoMarket.Record.Document

/-!
# Objects in any arrangement

The value of an object does not depend on the order of its members, nor on members under keys that
its type does not know. Types with an embedded part and types with a tag gather the members of an
object before they look at the keys, and there a member without a value is not passed over.
-/
namespace GeoMarket

variable {α : Type}

instance : ProfileFields.record.Local := by unfold ProfileFields.record; infer_instance

instance : Profile.record.Local := by unfold Profile.record; infer_instance

instance : ProfileCommand.record.Local := by unfold ProfileCommand.record; infer_instance

instance : AccountCommand.record.Local := by unfold AccountCommand.record; infer_instance

instance : Account.record.Local := by unfold Account.record; infer_instance

instance : Configuration.record.Local := by unfold Configuration.record; infer_instance

instance : Rating.record.Local := by unfold Rating.record; infer_instance

instance : Publisher.record.Local := by unfold Publisher.record; infer_instance

set_option synthInstance.maxSize 512 in
instance : Metadata.record.Local := by unfold Metadata.record; infer_instance

instance : CatalogueItem.record.Local := by unfold CatalogueItem.record; infer_instance

instance : CatalogueAddItemCommand.record.Local := by
  unfold CatalogueAddItemCommand.record; infer_instance

instance : CartItem.record.Local := by unfold CartItem.record; infer_instance

instance : Cart.record.Local := by unfold Cart.record; infer_instance

instance (items : Codec α) : (ResultPage.record items).Local := by
  unfold ResultPage.record; infer_instance

instance (payload : Codec α) : (Envelope.record payload).Local := by
  unfold Envelope.record; infer_instance

instance : SearchEnvelope.record.Local := by unfold SearchEnvelope.record; infer_instance

instance : PricingTotals.record.Local := by unfold PricingTotals.record; infer_instance

instance : SubscriptionTerms.record.Local := by unfold SubscriptionTerms.record; infer_instance

/-- The keys of pricing models of any kind, beside the tag. -/
def PricingModel.keys : List String :=
  freeRecord.keys ++ fixedRecord.keys ++ subscriptionRecord.keys

instance : PricingModel.freeRecord.Local := by unfold PricingModel.freeRecord; infer_instance

instance : PricingModel.fixedRecord.Local := by unfold PricingModel.fixedRecord; infer_instance

instance : PricingModel.subscriptionRecord.Local := by
  unfold PricingModel.subscriptionRecord; infer_instance

/-- A pricing model does not depend on the arrangement of its members. -/
theorem PricingModel.codec_unordered : codec.Unordered (Union.Spare keys) := by
  refine Union.codec_unordered _ _ _ _ fun kind members others rearranged => ?_
  cases kind with
  | free =>
    have same := Union.readRecord_rearranged freeRecord (by decide) rearranged
    rw [readKind, readKind, same]
  | fixed =>
    have same := Union.readRecord_rearranged fixedRecord (by decide) rearranged
    rw [readKind, readKind, same]
  | subscription =>
    have same := Union.readRecord_rearranged subscriptionRecord (by decide) rearranged
    rw [readKind, readKind, same]

/-- The keys of pricing commands of any kind, beside the tag. -/
def PricingModelCommand.keys : List String := fixedRecord.keys ++ SubscriptionTerms.record.keys

instance : PricingModelCommand.fixedRecord.Local := by
  unfold PricingModelCommand.fixedRecord; infer_instance

/-- A pricing command does not depend on the arrangement of its members. -/
theorem PricingModelCommand.codec_unordered : codec.Unordered (Union.Spare keys) := by
  refine Union.codec_unordered _ _ _ _ fun kind members others rearranged => ?_
  cases kind with
  | free => rfl
  | fixed =>
    have same := Union.readRecord_rearranged fixedRecord (by decide) rearranged
    rw [readKind, readKind, same]
  | subscription =>
    have same := Union.readRecord_rearranged SubscriptionTerms.record (by decide) rearranged
    rw [readKind, readKind, same]

namespace Codec

/-- The codecs of types with named members, with the keys that they know and whether they gather
members before they look at the keys. -/
inductive Described : {α : Type} → Codec α → List String → Bool → Prop
  | account : Described Account.codec Account.record.keys false
  | profile : Described Profile.record.codec Profile.record.keys true
  | profileCommand : Described ProfileCommand.record.codec ProfileCommand.record.keys true
  | accountCommand : Described AccountCommand.record.codec AccountCommand.record.keys false
  | catalogueItem : Described CatalogueItem.codec CatalogueItem.record.keys true
  | catalogueAddItemCommand :
    Described CatalogueAddItemCommand.record.codec CatalogueAddItemCommand.record.keys true
  | pricingModel : Described PricingModel.codec (Union.tagKey :: PricingModel.keys) true
  | pricingModelCommand :
    Described PricingModelCommand.codec (Union.tagKey :: PricingModelCommand.keys) true
  | cart : Described Cart.codec Cart.record.keys false
  | cartItem : Described CartItem.codec CartItem.record.keys false
  | publisher : Described Publisher.codec Publisher.record.keys false
  | configuration : Described Configuration.codec Configuration.record.keys false
  | rating : Described Rating.codec Rating.record.keys false
  | envelope {α : Type} (payload : Codec α) :
    Described (Envelope.codec payload) (Envelope.record payload).keys false
  | page {α : Type} (items : Codec α) :
    Described (ResultPage.record items).codec (ResultPage.record items).keys false
  | searchEnvelope : Described SearchEnvelope.codec SearchEnvelope.record.keys true

/-- The codec of a record depends on the keys of the record, and on values of other members only if
the record gathers them. -/
theorem unordered_of_record (record : Record α) [record.Local] {gathers : Bool}
    (form : record.row?.isNone = gathers) :
    record.codec.Unordered fun member =>
      member.1 ∉ record.keys ∧ (gathers = true → member.2.readable = true) := by
  intro reading members others rearranged
  refine record.codec_unordered reading (rearranged.mono fun member spare => ⟨spare.1, ?_⟩)
  intro embeds
  exact spare.2 (form ▸ Option.isNone_iff_eq_none.mpr embeds)

/-- **Members in any arrangement.** An object is read as before, or refused as before, when its
members are put in another order and when members are added or removed under keys that its type does
not know; of types that gather members, these need values. -/
theorem read_rearranged {codec : Codec α} {keys : List String} {gathers : Bool}
    (described : codec.Described keys gathers) (reading : Reading)
    {members others added removed : List (String × Json)}
    (spare : ∀ member ∈ added ++ removed,
      member.1 ∉ keys ∧ (gathers = true → member.2.readable = true))
    (balanced : (others ++ removed).Perm (members ++ added)) :
    codec.read reading (.obj others) = codec.read reading (.obj members) := by
  suffices unordered : codec.Unordered fun member =>
      member.1 ∉ keys ∧ (gathers = true → member.2.readable = true) from
    unordered reading ⟨added, removed, spare, balanced⟩
  cases described with
  | pricingModel =>
    intro reading members others rearranged
    exact PricingModel.codec_unordered reading
      (rearranged.mono fun member spare => ⟨spare.1, spare.2 rfl⟩)
  | pricingModelCommand =>
    intro reading members others rearranged
    exact PricingModelCommand.codec_unordered reading
      (rearranged.mono fun member spare => ⟨spare.1, spare.2 rfl⟩)
  | _ => exact unordered_of_record _ rfl

/-- The command for a subscription is read with its tag at the end, with a member that it does not
know and without another one. -/
theorem read_rearranged_subscription :
    let members : List (String × Json) :=
      [("note", .null), ("type", "SUBSCRIPTION"), ("duration", .ofNat 12),
        ("monthlyPrice", .ofNat 5)]
    let others : List (String × Json) :=
      [("trial", .bool true), ("monthlyPrice", .ofNat 5), ("duration", .ofNat 12),
        ("type", "SUBSCRIPTION")]
    let added : List (String × Json) := [("trial", .bool true)]
    let removed : List (String × Json) := [("note", .null)]
    (∀ member ∈ added ++ removed,
      member.1 ∉ Union.tagKey :: PricingModelCommand.keys ∧ member.2.readable = true) ∧
    (others ++ removed).Perm (members ++ added) ∧
    PricingModelCommand.codec.read .direct (.obj members) =
      some (.subscription ⟨12, Binary64.ofNat 5⟩) ∧
    PricingModelCommand.codec.read .direct (.obj others) =
      PricingModelCommand.codec.read .direct (.obj members) := by
  intro members others added removed
  have spare : ∀ member ∈ added ++ removed,
      member.1 ∉ Union.tagKey :: PricingModelCommand.keys ∧ member.2.readable = true := by
    rw [List.forall_mem_append, List.forall_mem_singleton, List.forall_mem_singleton]
    decide
  have balanced : (others ++ removed).Perm (members ++ added) :=
    List.reverse_perm (members ++ added)
  refine ⟨spare, balanced, rfl, read_rearranged .pricingModelCommand .direct ?_ balanced⟩
  exact fun member inside => ⟨(spare member inside).1, fun _ => (spare member inside).2⟩

/-- A profile gathers a member under a key that it does not know, and is refused if the member is a
number that has no value. -/
theorem decode?_gathered_unreadable :
    "x" ∉ Profile.record.keys ∧
      (Profile.record.codec.decode? "\x7b\x7d").isSome = true ∧
      (Profile.record.codec.decode? "\x7b\"x\": 1e999\x7d").isSome = false := by
  decide +kernel

end Codec
end GeoMarket
