import GeoMarket.Console.Report

/-!
# Commands

Every command of the command line runs flows of the client and reports on the last envelope that
they bring. Whether the report is raw JSON makes no difference to the flows.
-/
namespace GeoMarket.Console

/-- What to do with the cart. -/
inductive CartCommand
  /-- Show the cart. -/
  | display
  /-- Put a catalogue item with one of its pricing models into the cart. -/
  | add (product pricingModel : Uuid)
  /-- Remove an entry. -/
  | remove (id : Uuid)
  /-- Remove every entry. -/
  | clear

/-- A command. -/
inductive Command
  /-- Show the configuration of the server. -/
  | config (locale : Option String)
  /-- Search the catalogue. -/
  | search (query : String) (page : UInt32) (size : Option UInt32)
  /-- Show an item of the catalogue. -/
  | item (id : Uuid)
  /-- Do something with the cart. -/
  | cart (action : CartCommand)
  /-- Show the ratings of a target. -/
  | ratings (target : Resource.RatingTarget) (id : Uuid)
  /-- Show where navigation to a path ends up. -/
  | route (path : String)

/-- Where a navigation ends up. -/
inductive Forecast
  /-- The navigation to a path may proceed and arrives at a route. -/
  | arrival (asked : String) (reached : Navigation.ResolvedRoute)
  /-- The guard sends a navigation to a route away to a path. -/
  | redirect (resolved : Navigation.ResolvedRoute) (target : String)

namespace Forecast

/-- The path where the navigation ends up. -/
def target : Forecast → String
  | arrival _ reached => reached.path
  | redirect _ target => target

/-- The name of a route in brackets. -/
def nameText (resolved : Navigation.ResolvedRoute) : String :=
  "(" ++ resolved.name.getD "unnamed" ++ ")"

/-- The text shown for a forecast. -/
def text : Forecast → String
  | arrival asked reached => asked ++ " -> " ++ reached.path ++ " " ++ nameText reached
  | redirect resolved target =>
    resolved.path ++ " " ++ nameText resolved ++ " redirected by guard to " ++ target

end Forecast

namespace Command

variable {σ α : Type}

/-- Run a call of the server and report on its answer. -/
def reporting (json : Bool) (codec : Codec α) (listing : α → String)
    (call : Flow σ (Resource.Answer α)) : Flow σ Report := do
  return Report.ofOutcome json codec listing ((← call).mapError .api)

/-- Look an item up in the catalogue and put it into the cart. An answer without the item ends
the command with its messages. -/
def addToCart (client : MarketplaceClient σ) (json : Bool) (product pricingModel : Uuid) :
    Flow σ Report := do
  match ← Resource.findOne client.gateway product with
  | .error error => return Report.ofError (.api error)
  | .ok lookup =>
    match lookup.result, lookup.success with
    | some found, true =>
      let outcome ← client.addItemToCart found pricingModel
      return Report.ofOutcome json Cart.codec cartListing outcome
    | _, _ =>
      return { notices := messageListing lookup.messages, failure := some (.itemMissing product) }

/-- Do something with the cart. -/
def performCart (client : MarketplaceClient σ) (json : Bool) : CartCommand → Flow σ Report
  | .display => reporting json Cart.codec cartListing client.refreshCart
  | .add product pricingModel => addToCart client json product pricingModel
  | .remove id => reporting json Cart.codec cartListing (client.removeFromCart id)
  | .clear => reporting json Cart.codec cartListing client.clearCart

/-- Where navigation to a path ends up: at the end of all redirects if the guard lets it proceed,
else where the guard sends it first. -/
def forecast (client : MarketplaceClient σ) (path : String) :
    Flow σ (Except Navigation.NavigationError Forecast) := do
  match client.navigator.check (← Flow.session) path with
  | .error error => return .error error
  | .ok (_, .proceed) => return (← client.navigate path).map (.arrival path)
  | .ok (resolved, .redirect location) =>
    return (client.navigator.locationPath location).map (.redirect resolved)

/-- Show where navigation to a path ends up. -/
def performRoute (client : MarketplaceClient σ) (path : String) : Flow σ Report := do
  match ← forecast client path with
  | .error error => return Report.ofError (.navigation error)
  | .ok found => return { printed := lines [found.text] }

/-- The size of the pages of a search. -/
def pageSize (client : MarketplaceClient σ) (size : Option UInt32) : UInt32 :=
  size.getD client.config.pageSize

/-- Carry out a command. -/
def perform (client : MarketplaceClient σ) (json : Bool) : Command → Flow σ Report
  | config locale =>
    reporting json Configuration.codec configurationListing (client.loadConfiguration locale)
  | search query page size =>
    reporting json (ResultPage.record CatalogueItem.codec).codec pageListing
      (Resource.find client.gateway ⟨query, page, pageSize client size⟩)
  | item id =>
    reporting json CatalogueItem.codec itemListing (Resource.findOne client.gateway id)
  | cart action => performCart client json action
  | ratings target id =>
    reporting json Rating.codec.listOf ratingListing
      (Resource.getRatings client.gateway target id)
  | route path => performRoute client path

end Command
end GeoMarket.Console
