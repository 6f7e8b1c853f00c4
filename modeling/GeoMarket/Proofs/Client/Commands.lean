import GeoMarket.Client.Marketplace
import GeoMarket.Proofs.Client.Call
import GeoMarket.Proofs.Http.Headers
import GeoMarket.Proofs.Model.Records

/-!
# Commands in request bodies

The calls of the server that carry a command put its JSON value into the body of their request, and
the value reads back as the command, so that nothing is lost on the way. Only two parts of a command
have values that JSON cannot keep: an amount that is not finite, and a geometry that is the JSON
value `null`, which reads back as no geometry.
-/
namespace GeoMarket

variable {σ α γ : Type}

instance (command : AddressCommand) : AddressCommand.record.codec.Survives command :=
  Record.Survives.codec (Record.survives_isomorphic rfl) (by decide)

instance (command : ActivationTokenCommand) :
    ActivationTokenCommand.record.codec.Survives command :=
  Record.Survives.codec (Record.survives_isomorphic rfl) (by decide)

instance (command : ProfileCommand) : ProfileCommand.record.codec.Survives command :=
  Record.Survives.codec (Record.survives_isomorphic rfl) (by decide)

instance (command : AccountCommand) : AccountCommand.record.codec.Survives command :=
  Record.Survives.codec (Record.survives_isomorphic rfl) (by decide)

instance (command : CartAddItemCommand) : CartAddItemCommand.record.codec.Survives command :=
  Record.Survives.codec (Record.survives_isomorphic rfl) (by decide)

instance (query : CatalogueQuery) : CatalogueQuery.record.codec.Survives query :=
  Record.Survives.codec (Record.survives_isomorphic rfl) (by decide)

/-- A rating with a finite value survives. -/
theorem RatingCommand.survives {command : RatingCommand} (finite : command.value.isFinite = true) :
    RatingCommand.record.codec.Survives command := by
  have value := Codec.survives_amount finite
  exact Record.Survives.codec (Record.survives_isomorphic rfl) (by decide)

-- As for the descriptions that are read, the search for instances goes further than by default.
set_option synthInstance.maxSize 512 in
/-- A description survives if its geometry is not the JSON value `null`. -/
theorem Metadata.survives {data : Metadata}
    (geometry : ∀ document, data.geometry = some document → document.tree ≠ .null) :
    Metadata.record.Survives data := by
  have whole : documentCodec.nullable.Survives data.geometry :=
    Codec.survives_nullable (fun _ _ => inferInstance) fun document same => ⟨geometry document same⟩
  exact Record.survives_isomorphic rfl

namespace PricingModelCommand

/-- Every amount of the command is finite. -/
def isFinite : PricingModelCommand → Bool
  | free => true
  | fixed _ price => price.isFinite
  | subscription terms => terms.monthlyPrice.isFinite

/-- A pricing command with finite amounts survives. -/
theorem survives {command : PricingModelCommand} (finite : command.isFinite = true) :
    codec.Survives command := by
  cases command with
  | free => exact Union.survives rfl (by decide) nofun fun _ _ _ => rfl
  | fixed terms price =>
    have amount := Codec.survives_amount finite
    have whole : fixedRecord.Survives (terms, price) := Record.survives_isomorphic rfl
    exact Union.survives_of_record PricingKind.fixed fixedRecord (fun part => fixed part.1 part.2)
      (by decide) (fun _ => rfl) (fun _ => rfl) (fun _ => rfl) (terms, price) whole
  | subscription terms =>
    have amount := Codec.survives_amount finite
    have whole : SubscriptionTerms.record.Survives terms := Record.survives_isomorphic rfl
    exact Union.survives_of_record PricingKind.subscription SubscriptionTerms.record subscription
      (by decide) (fun _ => rfl) (fun _ => rfl) (fun _ => rfl) terms whole

end PricingModelCommand

namespace CatalogueAddItemCommand

/-- The parts of a command that not every value of their type keeps in JSON. -/
structure Sendable (command : CatalogueAddItemCommand) : Prop where
  /-- Amounts are finite. -/
  finite : ∀ model ∈ command.pricingModels, model.isFinite = true
  /-- The geometry, if there is one, is not the JSON value `null`. -/
  geometry : ∀ document, command.metadata.geometry = some document → document.tree ≠ .null

/-- A command that adds an item survives if it can be sent. -/
theorem survives {command : CatalogueAddItemCommand} (sendable : command.Sendable) :
    record.codec.Survives command := by
  have description := Metadata.survives sendable.geometry
  have prices : PricingModelCommand.codec.listOf.Survives command.pricingModels :=
    Codec.survives_listOf fun model among =>
      PricingModelCommand.survives (sendable.finite model among)
  exact Record.Survives.codec (Record.survives_isomorphic rfl) (by decide)

end CatalogueAddItemCommand

namespace Resource.Call

/-- Whatever the settings of the client and the state of the world, the call hands one request to
the transport, and the JSON value in its body reads back as the command in either layout. -/
def Delivers (call : Call α) (codec : Codec γ) (command : γ) : Prop :=
  ∀ {σ : Type} (config : ClientConfig) (transport : Http.Transport σ) (world : World σ),
    ∃ request tree,
      ((call.perform (MarketplaceClient.gatewayFor config transport)).behind world).sent =
        world.sent ++ [request] ∧
      request.body = .json tree ∧
      ∀ layout : Json.Layout, codec.read .direct (layout.apply tree) = some command

/-- A call delivers the command that its body is written for, if the command survives. -/
theorem delivers_of_survives {call : Call α} (record : Record γ) (command : γ)
    (written : call.base.body = .ok (.json (record.codec.write command)))
    (whole : record.codec.Survives command) : call.Delivers record.codec command := by
  intro σ config transport world
  have sent := (call.sends (MarketplaceClient.gatewayFor config transport)).sent world
  have kept := (Http.Interceptor.standard_keeps config.csrfHeader world.session
    (call.base.request (MarketplaceClient.gatewayFor config transport)
      (.json (record.codec.write command)))).2.2
  rw [Gateway.Call.requests, written] at sent
  exact ⟨_, record.codec.write command, sent, kept,
    fun layout => whole.restores layout .direct⟩

/-- **Every body reads back as its command.** Each call that carries a command delivers it: all
fields, in the case of an item also the description and every pricing model in order. -/
theorem delivers_command :
    (∀ command : CatalogueAddItemCommand, command.Sendable →
      (createItem command).Delivers CatalogueAddItemCommand.record.codec command) ∧
    (∀ command : AccountCommand, (register command).Delivers AccountCommand.record.codec command) ∧
    (∀ command : ProfileCommand,
      (setProfile command).Delivers ProfileCommand.record.codec command) ∧
    (∀ command : AddressCommand,
      (createAddress command).Delivers AddressCommand.record.codec command ∧
        ∀ key, (updateAddress key command).Delivers AddressCommand.record.codec command) ∧
    (∀ command : ActivationTokenCommand,
      (requestToken command).Delivers ActivationTokenCommand.record.codec command) ∧
    (∀ command : CartAddItemCommand,
      (addCartItem command).Delivers CartAddItemCommand.record.codec command) ∧
    (∀ command : RatingCommand, command.value.isFinite = true → ∀ target id,
      (addRating target id command).Delivers RatingCommand.record.codec command) ∧
    (∀ query : CatalogueQuery, (find query).Delivers CatalogueQuery.record.codec query) := by
  refine ⟨fun command sendable => ?_, fun command => ?_, fun command => ?_,
    fun command => ⟨?_, fun key => ?_⟩, fun command => ?_, fun command => ?_,
    fun command finite target id => ?_, fun query => ?_⟩
  · exact delivers_of_survives _ _ rfl (CatalogueAddItemCommand.survives sendable)
  · exact delivers_of_survives _ _ rfl inferInstance
  · exact delivers_of_survives _ _ rfl inferInstance
  · exact delivers_of_survives _ _ rfl inferInstance
  · exact delivers_of_survives _ _ rfl inferInstance
  · exact delivers_of_survives _ _ rfl inferInstance
  · exact delivers_of_survives _ _ rfl inferInstance
  · exact delivers_of_survives _ _ rfl (RatingCommand.survives finite)
  · exact delivers_of_survives _ _ rfl inferInstance

/-- A command that adds an item with a price of each kind. -/
def addParcels : CatalogueAddItemCommand where
  metadata :=
    { title := some "Parcels"
      keywords := ["land", "boundary"]
      resourceType := some "vector"
      geometry := some ⟨.obj [("type", "Point")], by decide⟩ }
  pricingModels :=
    [.free, .fixed ⟨true, 2⟩ (Binary64.ofNat 10), .subscription ⟨12, Binary64.ofNat 3⟩]

/-- The command can be sent and is delivered. -/
theorem delivers_addParcels :
    addParcels.Sendable ∧
      (createItem addParcels).Delivers CatalogueAddItemCommand.record.codec addParcels :=
  have sendable : addParcels.Sendable :=
    { finite := by decide
      geometry := by rintro _ ⟨⟩; nofun }
  ⟨sendable, delivers_command.1 addParcels sendable⟩

end Resource.Call
end GeoMarket
