import GeoMarket.Client.Marketplace
import GeoMarket.Proofs.Client.Call
import Mathlib.Data.List.Induction

/-!
# The cart over whole runs

Five flows concern the cart. Each makes one call, whose envelope brings the cart as the server has
it now, and keeps that cart exactly if the envelope is one of success. So behind any number of them
the session holds the cart of the latest envelope of success, and has not changed otherwise. Only an
item that does not offer the pricing model is refused before any call.
-/
namespace GeoMarket

variable {σ ε : Type}

/-- An item offers a pricing model. -/
def CatalogueItem.Offers (item : CatalogueItem) (pricingModel : Uuid) : Prop :=
  ∃ model ∈ item.pricingModels, model.id = pricingModel

/-- There is a command for an item and a pricing model that it offers. -/
theorem CartAddItemCommand.forItem_of_offers {item : CatalogueItem} {pricingModel : Uuid}
    (offers : item.Offers pricingModel) :
    forItem item pricingModel = .ok ⟨item.id, pricingModel⟩ := by
  have found : (item.pricingModel? pricingModel).isSome = true := by
    simpa [CatalogueItem.pricingModel?, CatalogueItem.Offers] using offers
  rw [forItem, if_pos found]

/-- There is no command for an item and a pricing model that it does not offer. -/
theorem CartAddItemCommand.forItem_of_not_offers {item : CatalogueItem} {pricingModel : Uuid}
    (unoffered : ¬item.Offers pricingModel) :
    forItem item pricingModel = .error (.unknownPricingModel item.id pricingModel) := by
  have missing : ¬(item.pricingModel? pricingModel).isSome = true := by
    simpa [CatalogueItem.pricingModel?, CatalogueItem.Offers] using unoffered
  rw [forItem, if_neg missing]

namespace MarketplaceClient

/-- An ending is an envelope of success. -/
def Succeeded : Except ε (Envelope Cart) → Prop
  | .ok envelope => envelope.success = true
  | .error _ => False

/-- The session with the cart of an ending, if the ending is an envelope of success. -/
def withCart (session : Session) : Except ε (Envelope Cart) → Session
  | .ok ⟨_, cart, true⟩ => { session with shop := { cart } }
  | _ => session

/-- Without success the session is what it was. -/
theorem withCart_of_not_succeeded {session : Session} {ending : Except ε (Envelope Cart)}
    (failed : ¬Succeeded ending) : withCart session ending = session := by
  rcases ending with error | ⟨messages, cart, _ | _⟩
  · rfl
  · rfl
  · exact absurd rfl failed

/-- Nothing but the cart changes. -/
theorem withCart_eq (session : Session) (ending : Except ε (Envelope Cart)) :
    withCart session ending =
      { session with shop := { cart := (withCart session ending).shop.cart } } := by
  rcases ending with error | ⟨messages, cart, _ | _⟩ <;> rfl

/-- What is told of a failure makes no difference to the cart. -/
theorem withCart_mapError {δ : Type} (session : Session) (change : ε → δ)
    (ending : Except ε (Envelope Cart)) :
    withCart session (ending.mapError change) = withCart session ending := by
  rcases ending with error | ⟨messages, cart, _ | _⟩ <;> rfl

section Keeping

variable {requests : Session → List Http.Request} {call : Flow σ (Resource.Answer Cart)}

/-- Keeping the cart passes on what the call brings. -/
theorem value_keepingCart (call : Flow σ (Resource.Answer Cart)) (world : World σ) :
    (keepingCart call).value world = call.value world := by
  simp only [keepingCart, Flow.value_bind]
  rcases call.value world with error | ⟨messages, cart, _ | _⟩ <;> rfl

/-- The cart of an envelope of success is kept, and nothing else happens to the session. -/
theorem session_keepingCart (sends : Flow.Sends requests call) (world : World σ) :
    ((keepingCart call).behind world).session = withCart world.session (call.value world) := by
  have kept := sends.session world
  simp only [keepingCart, Flow.behind_bind]
  rcases call.value world with error | ⟨messages, cart, _ | _⟩
  · exact kept
  · exact kept
  · simp [withCart, Session.apply, kept]

/-- Keeping the cart sends no request beside those of the call. -/
theorem sent_keepingCart (sends : Flow.Sends requests call) (world : World σ) :
    ((keepingCart call).behind world).sent = world.sent ++ requests world.session := by
  have sent := sends.sent world
  simp only [keepingCart, Flow.behind_bind]
  rcases call.value world with error | ⟨messages, cart, _ | _⟩
  · exact sent
  · exact sent
  · simpa using sent

end Keeping

/-- Something that a program does with the cart. -/
inductive CartAction
  /-- Ask for the cart. -/
  | refresh
  /-- Add an item with one of its pricing models. -/
  | add (command : CartAddItemCommand)
  /-- Add a known item, if it offers the pricing model. -/
  | addItem (item : CatalogueItem) (pricingModel : Uuid)
  /-- Remove an entry. -/
  | remove (id : Uuid)
  /-- Remove all entries. -/
  | clear

namespace CartAction

/-- Do something with the cart. -/
def perform (client : MarketplaceClient σ) :
    CartAction → Flow σ (Except ClientError (Envelope Cart))
  | refresh => do return (← client.refreshCart).mapError .api
  | add command => do return (← client.addToCart command).mapError .api
  | addItem item pricingModel => client.addItemToCart item pricingModel
  | remove id => do return (← client.removeFromCart id).mapError .api
  | clear => do return (← client.clearCart).mapError .api

/-- The call of an action, or why there is none. -/
def call : CartAction → Except ModelError (Resource.Call Cart)
  | refresh => .ok .getCart
  | add command => .ok (.addCartItem command)
  | addItem item pricingModel => (CartAddItemCommand.forItem item pricingModel).map .addCartItem
  | remove id => .ok (.removeCartItem id)
  | clear => .ok .clearCart

/-- An action makes its call and keeps the cart, or is refused. -/
theorem perform_eq (client : MarketplaceClient σ) (action : CartAction) :
    action.perform client =
      match action.call with
      | .ok call => do return (← keepingCart (call.perform client.gateway)).mapError .api
      | .error error => return .error (.model error) := by
  cases action with
  | addItem item pricingModel =>
    simp only [perform, call, addItemToCart]
    cases CartAddItemCommand.forItem item pricingModel <;> rfl
  | _ => rfl

/-- The session behind an action. -/
theorem session_perform (client : MarketplaceClient σ) (action : CartAction) (world : World σ) :
    ((action.perform client).behind world).session =
      withCart world.session ((action.perform client).value world) := by
  rw [perform_eq]
  cases action.call with
  | error error => rfl
  | ok call =>
    have sends := call.sends client.gateway
    simp only [Flow.value_bind, Flow.behind_bind, Flow.value_pure, Flow.behind_pure]
    rw [session_keepingCart sends, value_keepingCart, withCart_mapError]

/-- An action with a call hands one request to the transport. -/
theorem sent_perform (client : MarketplaceClient σ) {action : CartAction}
    {call : Resource.Call Cart} (named : action.call = .ok call) (world : World σ) :
    ∃ request, ((action.perform client).behind world).sent = world.sent ++ [request] := by
  obtain ⟨body, written⟩ := call.exists_body
  have sent := sent_keepingCart (call.sends client.gateway) world
  rw [Gateway.Call.requests, written] at sent
  rw [perform_eq, named]
  exact ⟨_, sent⟩

/-- An action makes one request, unless it names an item that does not offer the pricing model: that
is refused, and nothing happens. -/
theorem requests_perform (client : MarketplaceClient σ) (action : CartAction) (world : World σ) :
    let ending := (action.perform client).value world
    let after := (action.perform client).behind world
    match action with
    | addItem item pricingModel =>
      (item.Offers pricingModel ∧ ∃ request, after.sent = world.sent ++ [request]) ∨
      (¬item.Offers pricingModel ∧ after = world ∧
        ending = .error (.model (.unknownPricingModel item.id pricingModel)))
    | _ => ∃ request, after.sent = world.sent ++ [request] := by
  intro ending after
  cases action with
  | addItem item pricingModel =>
    by_cases offers : item.Offers pricingModel
    · have named :
          (addItem item pricingModel).call = .ok (.addCartItem ⟨item.id, pricingModel⟩) := by
        rw [call, CartAddItemCommand.forItem_of_offers offers]
        rfl
      exact .inl ⟨offers, sent_perform client named world⟩
    · have refused : (addItem item pricingModel).perform client =
          pure (.error (.model (.unknownPricingModel item.id pricingModel))) := by
        rw [perform_eq, call, CartAddItemCommand.forItem_of_not_offers offers]
        rfl
      exact .inr ⟨offers, congrArg (Flow.behind · world) refused,
        congrArg (Flow.value · world) refused⟩
  | _ => exact sent_perform client rfl world

end CartAction

/-- A cart is that of the latest among some endings that are envelopes of success, or the first one
if there is none. -/
def Latest (first : Option Cart) (endings : List (Except ε (Envelope Cart)))
    (cart : Option Cart) : Prop :=
  (∃ earlier messages later, endings = earlier ++ .ok ⟨messages, cart, true⟩ :: later ∧
    ∀ ending ∈ later, ¬Succeeded ending) ∨
  ((∀ ending ∈ endings, ¬Succeeded ending) ∧ cart = first)

/-- A further ending leaves the latest cart in the session. -/
theorem Latest.concat {first : Option Cart} {endings : List (Except ε (Envelope Cart))}
    {session : Session} (latest : Latest first endings session.shop.cart)
    (ending : Except ε (Envelope Cart)) :
    Latest first (endings ++ [ending]) (withCart session ending).shop.cart := by
  by_cases succeeded : Succeeded ending
  · rcases ending with error | ⟨messages, cart, success⟩
    · exact succeeded.elim
    · cases succeeded
      exact .inl ⟨endings, messages, [], rfl, nofun⟩
  · rw [withCart_of_not_succeeded succeeded]
    rcases latest with ⟨earlier, messages, later, rfl, failed⟩ | ⟨failed, same⟩
    · refine .inl ⟨earlier, messages, later ++ [ending], by simp, ?_⟩
      rw [List.forall_mem_append]
      exact ⟨failed, List.forall_mem_singleton.mpr succeeded⟩
    · refine .inr ⟨?_, same⟩
      rw [List.forall_mem_append]
      exact ⟨failed, List.forall_mem_singleton.mpr succeeded⟩

/-- Behind some actions the session holds the latest cart, and has not changed otherwise. -/
theorem latest_behind_actions (client : MarketplaceClient σ) (world : World σ)
    (actions : List CartAction) :
    let run := actions.mapM (CartAction.perform client)
    let after := (run.behind world).session
    Latest world.session.shop.cart (run.value world) after.shop.cart ∧
      after = { world.session with shop := { cart := after.shop.cart } } := by
  -- The last action acts on the session that the ones before it have left.
  induction actions using List.reverseRecOn with
  | nil => exact ⟨.inr ⟨nofun, rfl⟩, rfl⟩
  | append_singleton before action ih =>
    obtain ⟨latest, same⟩ := ih
    dsimp only
    rw [Flow.behind_mapM_concat, Flow.value_mapM_concat, CartAction.session_perform]
    refine ⟨latest.concat _, ?_⟩
    rw [withCart_eq, same]

end MarketplaceClient
end GeoMarket
