import GeoMarket.Proofs.Console.Reporting
import GeoMarket.Proofs.Http.Headers

/-!
# Adding an item to the cart

An item is put into the cart only with a pricing model of its own. The client checks this before it
sends anything, so a request for the cart is one for a model that the item offers. The command of
the console knows the item by its identifier alone: it looks the item up first, and the request for
the cart names the item that the answer has brought, which need not be the one that was asked for.
-/
namespace GeoMarket

open Http

variable {σ : Type}

/-- A request asks for what a call of the gateway asks for; what its headers hold is another
matter. -/
structure Gateway.Call.AskedBy (call : Gateway.Call) (gateway : Gateway σ) (request : Request) :
    Prop where
  /-- The verb of the call. -/
  method : request.method = call.method
  /-- The URL of its path. -/
  url : request.url = gateway.url call.path
  /-- Its body. -/
  body : call.body = .ok request.body

/-- The request of a call asks for it when it is handed to the transport. -/
theorem Gateway.Call.askedBy_handed (config : ClientConfig) (transport : Transport σ)
    (session : Session) {call : Gateway.Call} {body : Body} (written : call.body = .ok body) :
    let gateway := MarketplaceClient.gatewayFor config transport
    call.AskedBy gateway (gateway.handed session (call.request gateway body)) := by
  intro gateway
  obtain ⟨method, url, kept⟩ :=
    Interceptor.standard_keeps config.csrfHeader session (call.request gateway body)
  exact ⟨method, url, written.trans (congrArg Except.ok kept.symm)⟩

/-- The call that looks up an item of the catalogue. -/
def Gateway.Call.lookup (product : Uuid) : Gateway.Call :=
  .get ("/action/catalogue/items/" ++ product.text)

/-- The call that puts an item into the cart with a pricing model. -/
def Gateway.Call.adding (item pricingModel : Uuid) : Gateway.Call :=
  .post "/action/cart"
    (some (.tree (.obj [("productId", .str item.text), ("pricingModelId", .str pricingModel.text)])))

namespace MarketplaceClient

/-- How a client puts an item into the cart with a pricing model. -/
structure GuardsCart (client : MarketplaceClient σ) (item : CatalogueItem) (pricingModel : Uuid) :
    Prop where
  /-- Something is sent exactly if the item offers the pricing model. -/
  sends : ∀ world, ((client.addItemToCart item pricingModel).behind world).sent ≠ world.sent ↔
    item.Offers pricingModel
  /-- An item that offers the pricing model is added without any further check. -/
  offered : item.Offers pricingModel →
    client.addItemToCart item pricingModel =
      do return (← client.addToCart ⟨item.id, pricingModel⟩).mapError .api
  /-- The one request names the item and the pricing model. -/
  asks : item.Offers pricingModel → ∀ world, ∃ request,
    ((client.addItemToCart item pricingModel).behind world).sent = world.sent ++ [request] ∧
      (Gateway.Call.adding item.id pricingModel).AskedBy client.gateway request
  /-- Any other item is refused, with a reason that names it and the pricing model. -/
  refused : ¬item.Offers pricingModel → ∀ world,
    (client.addItemToCart item pricingModel).value world =
        .error (.model (.unknownPricingModel item.id pricingModel)) ∧
      (client.addItemToCart item pricingModel).behind world = world

/-- A command for the cart is sent as one request that names its item and its pricing model. -/
theorem exists_sent_addToCart (config : ClientConfig) (transport : Transport σ)
    (navigator : Navigation.Navigator) (command : CartAddItemCommand) (world : World σ) :
    let client : MarketplaceClient σ :=
      { config, gateway := gatewayFor config transport, navigator }
    ∃ request, ((client.addToCart command).behind world).sent = world.sent ++ [request] ∧
      (Gateway.Call.adding command.productId command.pricingModelId).AskedBy client.gateway
        request := by
  intro client
  have sends := (Resource.Call.addCartItem command).sends client.gateway
  exact ⟨_, sent_keepingCart sends world,
    Gateway.Call.askedBy_handed config transport world.session rfl⟩

/-- A client puts an item into the cart only with a pricing model that the item offers. -/
theorem guardsCart (config : ClientConfig) (transport : Transport σ)
    (navigator : Navigation.Navigator) (item : CatalogueItem) (pricingModel : Uuid) :
    let client : MarketplaceClient σ :=
      { config, gateway := gatewayFor config transport, navigator }
    client.GuardsCart item pricingModel := by
  intro client
  have offered (offers : item.Offers pricingModel) :
      client.addItemToCart item pricingModel =
        do return (← client.addToCart ⟨item.id, pricingModel⟩).mapError .api := by
    rw [addItemToCart, CartAddItemCommand.forItem_of_offers offers]
  have asks (offers : item.Offers pricingModel) (world : World σ) : ∃ request,
      ((client.addItemToCart item pricingModel).behind world).sent = world.sent ++ [request] ∧
        (Gateway.Call.adding item.id pricingModel).AskedBy client.gateway request := by
    rw [offered offers]
    exact exists_sent_addToCart config transport navigator ⟨item.id, pricingModel⟩ world
  have refused (unoffered : ¬item.Offers pricingModel) (world : World σ) :
      (client.addItemToCart item pricingModel).value world =
          .error (.model (.unknownPricingModel item.id pricingModel)) ∧
        (client.addItemToCart item pricingModel).behind world = world := by
    rw [addItemToCart, CartAddItemCommand.forItem_of_not_offers unoffered]
    exact ⟨rfl, rfl⟩
  refine ⟨fun world => ⟨fun changed => ?_, fun offers same => ?_⟩, offered, asks, refused⟩
  · by_contra unoffered
    exact changed (congrArg World.sent (refused unoffered world).2)
  · obtain ⟨request, sent, -⟩ := asks offers world
    rw [same] at sent
    exact absurd (List.self_eq_append_right.mp sent) (List.cons_ne_nil request [])

end MarketplaceClient

/-- The answer brings an item in an envelope of success. -/
def Exchange.Finds (lookup : Exchange) (item : CatalogueItem) : Prop :=
  ∃ messages, lookup.Brings (Envelope.codec CatalogueItem.codec) ⟨messages, some item, true⟩

/-- An answer brings one item only. -/
theorem Exchange.Finds.unique {lookup : Exchange} {item other : CatalogueItem}
    (finds : lookup.Finds item) (also : lookup.Finds other) : other = item := by
  obtain ⟨_, response, answered, -, -, decoded⟩ := finds
  obtain ⟨_, twin, answeredToo, -, -, decodedToo⟩ := also
  obtain rfl : response = twin := Except.ok.inj (answered.symm.trans answeredToo)
  rw [decoded] at decodedToo
  cases decodedToo
  rfl

/-- The exchange that looks up an item in some world. -/
def Gateway.lookup (gateway : Gateway σ) (product : Uuid) (world : World σ) : Exchange :=
  .made gateway.transport world.wire
    (gateway.handed world.session ((Gateway.Call.lookup product).request gateway .empty))

/-- What is looked up is the item. -/
theorem Gateway.askedBy_lookup (config : ClientConfig) (transport : Transport σ) (product : Uuid)
    (world : World σ) :
    let gateway := MarketplaceClient.gatewayFor config transport
    (Gateway.Call.lookup product).AskedBy gateway (gateway.lookup product world).request :=
  Gateway.Call.askedBy_handed config transport world.session rfl

/-- A lookup makes one exchange, and ends with an envelope of success for what the exchange
finds. -/
theorem Resource.findOne_asks (gateway : Gateway σ) (product : Uuid) (world : World σ) :
    ((findOne gateway product).behind world).sent =
        world.sent ++ [(gateway.lookup product world).request] ∧
      ∀ item, (gateway.lookup product world).Finds item ↔
        ∃ messages, (findOne gateway product).value world = .ok ⟨messages, some item, true⟩ := by
  let request := (gateway.lookup product world).request
  have behind : (findOne gateway product).behind world =
      gateway.answered (Envelope.codec CatalogueItem.codec) request world :=
    Gateway.behind_send gateway _ _ world
  have ends : (findOne gateway product).value world =
      (gateway.answer (Envelope.codec CatalogueItem.codec) request world.wire).map Reply.data :=
    congrArg (Except.map Reply.data) (Gateway.value_send gateway _ _ world)
  refine ⟨by rw [behind, Gateway.sent_answered], fun item => exists_congr fun messages => ?_⟩
  rw [ends, gateway.answer_eq_ok_iff]
  rfl

namespace Console

/-- The command that adds an item looks it up and sends some further requests. -/
structure Command.AddsBehind (client : MarketplaceClient σ) (json : Bool)
    (product pricingModel : Uuid) (world : World σ) (lookup : Exchange) (further : List Request) :
    Prop where
  /-- What is looked up is the item that the command names. -/
  asks : (Gateway.Call.lookup product).AskedBy client.gateway lookup.request
  /-- The transport answers. -/
  answered : lookup.answer = (client.gateway.transport lookup.request world.wire).1
  /-- Nothing else is sent, and nothing before the lookup. -/
  sent : ((perform client json (.cart (.add product pricingModel))).behind world).sent =
    world.sent ++ lookup.request :: further
  /-- The cart is posted to exactly if the lookup finds an item with the pricing model. -/
  posts : (∃ request ∈ lookup.request :: further,
      request.method = .post ∧ request.url = client.gateway.url "/action/cart") ↔
    ∃ item, lookup.Finds item ∧ item.Offers pricingModel
  /-- The one request behind the lookup names the item that was found. -/
  names : ∀ item, lookup.Finds item → item.Offers pricingModel → ∃ request, further = [request] ∧
    (Gateway.Call.adding item.id pricingModel).AskedBy client.gateway request
  /-- Without such an item the lookup is all. -/
  stops : (∀ item, lookup.Finds item → ¬item.Offers pricingModel) → further = []

namespace Command

section

variable (config : ClientConfig) (transport : Transport σ) (navigator : Navigation.Navigator)
  (json : Bool) (product : Uuid) {pricingModel : Uuid} (world : World σ)

/-- An item that is found and offers the pricing model is put into the cart. -/
theorem addsBehind_of_finds {item : CatalogueItem}
    (finds : ((MarketplaceClient.gatewayFor config transport).lookup product world).Finds item)
    (offers : item.Offers pricingModel) :
    let client : MarketplaceClient σ :=
      { config, gateway := MarketplaceClient.gatewayFor config transport, navigator }
    ∃ post, AddsBehind client json product pricingModel world (client.gateway.lookup product world)
      [post] := by
  intro client
  have asks := Gateway.askedBy_lookup config transport product world
  obtain ⟨sent, found⟩ := Resource.findOne_asks client.gateway product world
  obtain ⟨messages, ended⟩ := (found item).mp finds
  obtain ⟨post, added, adding⟩ := MarketplaceClient.exists_sent_addToCart config transport
    navigator ⟨item.id, pricingModel⟩ ((Resource.findOne client.gateway product).behind world)
  refine ⟨post, asks, rfl, ?_, ?_, ?_, ?_⟩
  · rw [(perform_add_of_offers client ended offers json).1]
    refine added.trans ?_
    rw [sent, List.append_assoc]
    rfl
  · refine iff_of_true ⟨post, ?_, adding.method, adding.url⟩ ⟨item, finds, offers⟩
    exact List.mem_cons_of_mem _ (List.mem_singleton_self post)
  · intro other also _
    rw [finds.unique also]
    exact ⟨post, rfl, adding⟩
  · intro none
    exact absurd offers (none item finds)

/-- Without an item that offers the pricing model nothing but the lookup is sent. -/
theorem addsBehind_of_not_finds
    (none : ∀ item, ((MarketplaceClient.gatewayFor config transport).lookup product world).Finds
      item → ¬item.Offers pricingModel) :
    let client : MarketplaceClient σ :=
      { config, gateway := MarketplaceClient.gatewayFor config transport, navigator }
    AddsBehind client json product pricingModel world (client.gateway.lookup product world) [] := by
  intro client
  have asks := Gateway.askedBy_lookup config transport product world
  obtain ⟨sent, found⟩ := Resource.findOne_asks client.gateway product world
  refine ⟨asks, rfl, ?_, ?_, ?_, fun _ => rfl⟩
  · rw [(perform_add_of_not_offers client (fun messages item ended =>
      none item ((found item).mpr ⟨messages, ended⟩)) json).1]
    exact sent
  · refine iff_of_false ?_ ?_
    · -- The lookup itself does not post.
      rintro ⟨only, inside, isPost, -⟩
      rw [List.mem_singleton.mp inside, asks.method] at isPost
      cases isPost
    · rintro ⟨item, finds, offers⟩
      exact none item finds offers
  · intro item finds offers
    exact absurd offers (none item finds)

end

/-- **Only what an item offers gets into the cart.** Whatever the settings are and whatever the
transport answers, a client sends a request for an item and a pricing model exactly if the item
offers the pricing model, and refuses to otherwise without touching anything. The command that adds
an item looks it up, and posts to the cart exactly if the answer is an envelope of success with an
item that offers the pricing model; what it posts names that item and the pricing model. -/
theorem posts_only_offered (config : ClientConfig) (transport : Transport σ)
    (navigator : Navigation.Navigator) :
    let client : MarketplaceClient σ :=
      { config, gateway := MarketplaceClient.gatewayFor config transport, navigator }
    (∀ item pricingModel, client.GuardsCart item pricingModel) ∧
      ∀ json product pricingModel world, ∃ lookup further,
        AddsBehind client json product pricingModel world lookup further := by
  intro client
  refine ⟨MarketplaceClient.guardsCart config transport navigator, ?_⟩
  intro json product pricingModel world
  by_cases found : ∃ item, (client.gateway.lookup product world).Finds item ∧
      item.Offers pricingModel
  · obtain ⟨item, finds, offers⟩ := found
    obtain ⟨post, adds⟩ :=
      addsBehind_of_finds config transport navigator json product world finds offers
    exact ⟨_, [post], adds⟩
  · have none : ∀ item, (client.gateway.lookup product world).Finds item →
        ¬item.Offers pricingModel := fun item finds offers => found ⟨item, finds, offers⟩
    exact ⟨_, [], addsBehind_of_not_finds config transport navigator json product world none⟩

end Command
end Console
end GeoMarket
