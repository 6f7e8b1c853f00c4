import GeoMarket.Client.Marketplace
import GeoMarket.Proofs.Client.Call

/-!
# Runs of a client

A program changes the session directly, calls the server, navigates, or uses one of the flows of
the client, any number of times and in any order. Whatever the server answers, every such run keeps
each property of the world that is stable over the gateway of the client.
-/
namespace GeoMarket.MarketplaceClient

variable {σ : Type} {property : World σ → Prop}

section Flows

variable {gateway : Gateway σ}

/-- Committing the token of an answer keeps a stable property. -/
theorem keeps_commitToken (stable : gateway.Stable property) (token : Option CsrfToken) :
    Flow.Keeps property (commitToken token) := by
  cases token with
  | none => exact .pure _
  | some token => exact stable.commit _

/-- Committing the account of an answer keeps a stable property. -/
theorem keeps_commitAccount (stable : gateway.Stable property)
    (response : Envelope Account) : Flow.Keeps property (commitAccount response) := by
  unfold commitAccount
  split
  · exact .bind (stable.commit _) fun _ => stable.note _
  · exact stable.note _

/-- Keeping the cart of a call keeps a stable property that the call keeps. -/
theorem keeps_keepingCart (stable : gateway.Stable property)
    {call : Flow σ (Resource.Answer Cart)} (keepsCall : Flow.Keeps property call) :
    Flow.Keeps property (keepingCart call) := by
  refine .bind keepsCall fun outcome => ?_
  cases outcome with
  | error error => exact .pure _
  | ok response =>
    dsimp only
    split
    · exact .bind (stable.commit _) fun _ => .pure _
    · exact .pure _

end Flows

variable (client : MarketplaceClient σ)

/-- Signing in keeps a stable property. -/
theorem keeps_signIn (stable : client.gateway.Stable property)
    (username password : String) : Flow.Keeps property (client.signIn username password) := by
  have keepsLogin := (Resource.Call.login username password).keeps client.gateway stable
  have keepsUserData := Resource.Call.getUserData.keeps client.gateway stable
  refine .bind keepsLogin fun outcome => ?_
  rcases outcome with error | login
  · exact .pure _
  · dsimp only
    split
    · refine .bind (keeps_commitToken stable _) fun _ => .bind keepsUserData fun outcome => ?_
      rcases outcome with error | response
      · exact .pure _
      · exact .bind (keeps_commitAccount stable _) fun _ => .pure _
    · exact .bind (stable.note _) fun _ => .pure _

/-- Signing out keeps a stable property. -/
theorem keeps_signOut (stable : client.gateway.Stable property) :
    Flow.Keeps property client.signOut := by
  have keepsLogout := Resource.Call.logout.keeps client.gateway stable
  refine .bind keepsLogout fun outcome => ?_
  rcases outcome with error | response
  · exact .pure _
  · exact .bind (stable.commit _) fun _ => .bind (keeps_commitToken stable _) fun _ =>
      .bind (stable.note _) fun _ => .pure _

/-- Loading the configuration keeps a stable property. -/
theorem keeps_loadConfiguration (stable : client.gateway.Stable property)
    (locale : Option String) : Flow.Keeps property (client.loadConfiguration locale) := by
  have keepsCall := (Resource.Call.getConfiguration (locale.getD client.config.locale)).keeps
    client.gateway stable
  refine .bind (stable.commit _) fun _ => .bind keepsCall fun outcome =>
    .bind (stable.commit _) fun _ => ?_
  rcases outcome with error | response
  · exact .pure _
  · dsimp only
    split
    · exact .bind (stable.commit _) fun _ => .pure _
    · exact .pure _

/-- Navigating keeps a stable property. -/
theorem keeps_navigate (stable : client.gateway.Stable property) (path : String) :
    Flow.Keeps property (client.navigate path) :=
  .bind .session fun _ => .bind (.forM fun _ => stable.note _) fun _ => .pure _

/-- What a program does with a client: it changes the session directly, makes a call of the server,
navigates, or uses a flow. -/
inductive Action : Type 1
  /-- Change the session. -/
  | change (mutation : Session.Mutation)
  /-- Make a call of the server. -/
  | call {α : Type} (call : Resource.Call α)
  /-- Navigate to a path. -/
  | navigate (path : String)
  /-- Sign in. -/
  | signIn (username password : String)
  /-- Sign out. -/
  | signOut
  /-- Load the configuration for a locale. -/
  | loadConfiguration (locale : Option String)
  /-- Ask for the cart. -/
  | refreshCart
  /-- Add an item with one of its pricing models to the cart. -/
  | addToCart (command : CartAddItemCommand)
  /-- Add a known item to the cart, if it offers the pricing model. -/
  | addItemToCart (item : CatalogueItem) (pricingModel : Uuid)
  /-- Remove an entry from the cart. -/
  | removeFromCart (id : Uuid)
  /-- Remove all entries from the cart. -/
  | clearCart

/-- Do something with a client, whatever comes of it. -/
def perform (client : MarketplaceClient σ) : Action → Flow σ Unit
  | .change mutation => Flow.commit mutation
  | .call call => do let _ ← call.perform client.gateway
  | .navigate path => do let _ ← client.navigate path
  | .signIn username password => do let _ ← client.signIn username password
  | .signOut => do let _ ← client.signOut
  | .loadConfiguration locale => do let _ ← client.loadConfiguration locale
  | .refreshCart => do let _ ← client.refreshCart
  | .addToCart command => do let _ ← client.addToCart command
  | .addItemToCart item pricingModel => do let _ ← client.addItemToCart item pricingModel
  | .removeFromCart id => do let _ ← client.removeFromCart id
  | .clearCart => do let _ ← client.clearCart

/-- The world behind some actions of a program that has just made its client. -/
def run (client : MarketplaceClient σ) (actions : List Action) (wire : σ) : World σ :=
  (actions.forM client.perform).behind { wire }

/-- Every action keeps a stable property. -/
theorem keeps_perform (stable : client.gateway.Stable property) (action : Action) :
    Flow.Keeps property (client.perform action) := by
  have keepsCart (call : Resource.Call Cart) :
      Flow.Keeps property (keepingCart (call.perform client.gateway)) :=
    keeps_keepingCart stable (call.keeps client.gateway stable)
  cases action with
  | change mutation => exact stable.commit mutation
  | call call => exact .bind (call.keeps client.gateway stable) fun _ => .pure _
  | navigate path => exact .bind (client.keeps_navigate stable path) fun _ => .pure _
  | signIn username password =>
    exact .bind (client.keeps_signIn stable username password) fun _ => .pure _
  | signOut => exact .bind (client.keeps_signOut stable) fun _ => .pure _
  | loadConfiguration locale =>
    exact .bind (client.keeps_loadConfiguration stable locale) fun _ => .pure _
  | refreshCart => exact .bind (keepsCart .getCart) fun _ => .pure _
  | addToCart command => exact .bind (keepsCart (.addCartItem command)) fun _ => .pure _
  | addItemToCart item pricingModel =>
    refine .bind ?_ fun _ => .pure _
    unfold addItemToCart
    cases CartAddItemCommand.forItem item pricingModel with
    | error error => exact .pure _
    | ok command => exact .bind (keepsCart (.addCartItem command)) fun _ => .pure _
  | removeFromCart id => exact .bind (keepsCart (.removeCartItem id)) fun _ => .pure _
  | clearCart => exact .bind (keepsCart .clearCart) fun _ => .pure _

end GeoMarket.MarketplaceClient
