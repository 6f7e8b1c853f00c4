import GeoMarket.Client.Resource
import GeoMarket.Navigation.Application
import GeoMarket.Settings.ClientConfig

/-!
# The marketplace client

The client ties settings, gateway and navigation together. Its flows call the server and commit
what the answers say to the session. An envelope that reports failure commits nothing.
-/
namespace GeoMarket

/-- A client of the marketplace. -/
structure MarketplaceClient (σ : Type) where
  /-- The settings. -/
  config : ClientConfig
  /-- The gateway to the server. -/
  gateway : Gateway σ
  /-- The routes of the application. -/
  navigator : Navigation.Navigator := Navigation.Application.navigator

/-- Why a flow fails. -/
inductive ClientError
  /-- The settings cannot be used. -/
  | config (error : ConfigError)
  /-- A request fails. -/
  | api (error : Http.ApiError)
  /-- A navigation fails. -/
  | navigation (error : Navigation.NavigationError)
  /-- A command cannot be built. -/
  | model (error : ModelError)

/-- The text shown for an error. -/
def ClientError.message : ClientError → String
  | config error => error.message
  | api error => error.message
  | navigation error => error.message
  | model error => error.message

namespace MarketplaceClient

variable {σ : Type}

/-- The gateway that belongs to some settings. -/
def gatewayFor (config : ClientConfig) (transport : Http.Transport σ) : Gateway σ :=
  Gateway.create config.baseUrl (Http.Interceptor.standard config.csrfHeader) transport

/-- A client over a transport, if the settings make sense. -/
def create (config : ClientConfig) (transport : Http.Transport σ) :
    Except ConfigError (MarketplaceClient σ) :=
  config.validate.map fun () => { config, gateway := gatewayFor config transport }

/-- Navigate to a path, following redirects. -/
def navigate (client : MarketplaceClient σ) (path : String) :
    Flow σ (Except Navigation.NavigationError Navigation.ResolvedRoute) := do
  let (hops, outcome) := client.navigator.navigate (← Flow.session) path
  hops.forM fun hop => Flow.note (.redirected hop)
  return outcome

/-- Commit the token of an answer, if there is one. -/
def commitToken (token : Option CsrfToken) : Flow σ Unit :=
  match token with
  | some token => Flow.commit (.setCsrfToken token.csrfHeader token.csrfToken)
  | none => return ()

/-- Commit the account of an answer, if it is one of success. -/
def commitAccount (response : Envelope Account) : Flow σ Unit := do
  match response.result, response.success with
  | some account, true =>
    Flow.commit (.setUserData account)
    Flow.note (.signedIn account.username)
  | _, _ => Flow.note .accountMissing

/-- Sign in, keep the new token, and load and keep the account. A login that the server refuses
changes nothing and is returned with its messages. -/
def signIn (client : MarketplaceClient σ) (username password : String) :
    Flow σ (Resource.Answer Account) := do
  match ← Resource.login client.gateway username password with
  | .error error => return .error error
  | .ok login =>
    if login.success then
      commitToken login.result
      match ← Resource.getUserData client.gateway with
      | .error error => return .error error
      | .ok response =>
        commitAccount response
        return .ok response
    else
      Flow.note (.loginRejected username)
      return .ok (Envelope.failure login.messages)

/-- Sign out, forget the user, and keep the token of the session that follows. -/
def signOut (client : MarketplaceClient σ) : Flow σ (Resource.Answer CsrfToken) := do
  match ← Resource.logout client.gateway with
  | .error error => return .error error
  | .ok response =>
    Flow.commit .logout
    commitToken response.result
    Flow.note .signedOut
    return .ok response

/-- Load and keep the configuration for a locale, or for that of the settings. -/
def loadConfiguration (client : MarketplaceClient σ) (locale : Option String) :
    Flow σ (Resource.Answer Configuration) := do
  Flow.commit (.setLoading true)
  let outcome ← Resource.getConfiguration client.gateway (locale.getD client.config.locale)
  Flow.commit (.setLoading false)
  match outcome with
  | .error error => return .error error
  | .ok response =>
    if response.success then Flow.commit (.setConfiguration response.result)
    return .ok response

/-- Make a call that brings the cart, and keep the cart if the call succeeds. -/
def keepingCart (call : Flow σ (Resource.Answer Cart)) : Flow σ (Resource.Answer Cart) := do
  match ← call with
  | .error error => return .error error
  | .ok response =>
    if response.success then Flow.commit (.setCart response.result)
    return .ok response

/-- Load and keep the cart. -/
def refreshCart (client : MarketplaceClient σ) : Flow σ (Resource.Answer Cart) :=
  keepingCart (Resource.getCart client.gateway)

/-- Put an item into the cart, and keep the cart. -/
def addToCart (client : MarketplaceClient σ) (command : CartAddItemCommand) :
    Flow σ (Resource.Answer Cart) :=
  keepingCart (Resource.addCartItem client.gateway command)

/-- Put a catalogue item into the cart with one of its own pricing models. -/
def addItemToCart (client : MarketplaceClient σ) (item : CatalogueItem) (pricingModel : Uuid) :
    Flow σ (Except ClientError (Envelope Cart)) := do
  match CartAddItemCommand.forItem item pricingModel with
  | .error error => return .error (.model error)
  | .ok command => return (← client.addToCart command).mapError .api

/-- Remove an entry from the cart, and keep the cart. -/
def removeFromCart (client : MarketplaceClient σ) (id : Uuid) : Flow σ (Resource.Answer Cart) :=
  keepingCart (Resource.removeCartItem client.gateway id)

/-- Remove every entry from the cart, and keep the cart. -/
def clearCart (client : MarketplaceClient σ) : Flow σ (Resource.Answer Cart) :=
  keepingCart (Resource.clearCart client.gateway)

end MarketplaceClient
end GeoMarket
