import GeoMarket.Client.Gateway
import GeoMarket.Model.Rating
import GeoMarket.Text.Percent

/-!
# Calls of the server

Every call of the server, with its path, its payload and the type of its answer. A call returns
the envelope of the answer as it came; only a search joins the publishers to its items.
-/
namespace GeoMarket.Resource

variable {σ α : Type}

/-- How a call ends that brings an envelope. -/
abbrev Answer (α : Type) := Outcome (Envelope α)

/-- The data of an answer, without its status. -/
def unwrapped (flow : Flow σ (Outcome (Reply α))) : Flow σ (Outcome α) := do
  return (← flow).map Reply.data

section Account

/-- The path of the profile. -/
def profilePath : String := "/action/profile"

/-- The path of the addresses of the profile. -/
def addressesPath : String := profilePath ++ "/address"

/-- The path of an address. -/
def addressPath (key : Uuid) : String := addressesPath ++ "/" ++ key.text

/-- Sign in with name and password. -/
def login (gateway : Gateway σ) (username password : String) : Flow σ (Answer CsrfToken) :=
  unwrapped <| gateway.submit (Envelope.codec CsrfToken.codec) "/login"
    [("username", username), ("password", password)]

/-- Sign out. -/
def logout (gateway : Gateway σ) : Flow σ (Answer CsrfToken) :=
  unwrapped <| gateway.submit (Envelope.codec CsrfToken.codec) "/logout" []

/-- The account of the user. -/
def getUserData (gateway : Gateway σ) : Flow σ (Answer Account) :=
  unwrapped <| gateway.get (Envelope.codec Account.codec) "/action/account/user-data"

/-- The profile of the user. -/
def getProfile (gateway : Gateway σ) : Flow σ (Answer Profile) :=
  unwrapped <| gateway.get (Envelope.codec Profile.record.codec) profilePath

/-- Update the profile of the user. -/
def setProfile (gateway : Gateway σ) (command : ProfileCommand) : Flow σ (Answer Account) :=
  unwrapped <| gateway.post (Envelope.codec Account.codec) profilePath
    (some (.of ProfileCommand.record.codec command))

/-- Add an address to the profile. -/
def createAddress (gateway : Gateway σ) (command : AddressCommand) : Flow σ (Answer Profile) :=
  unwrapped <| gateway.post (Envelope.codec Profile.record.codec) addressesPath
    (some (.of AddressCommand.record.codec command))

/-- Change an address of the profile. -/
def updateAddress (gateway : Gateway σ) (key : Uuid) (command : AddressCommand) :
    Flow σ (Answer Profile) :=
  unwrapped <| gateway.put (Envelope.codec Profile.record.codec) (addressPath key)
    (.of AddressCommand.record.codec command)

/-- Remove an address from the profile. -/
def deleteAddress (gateway : Gateway σ) (key : Uuid) : Flow σ (Answer Profile) :=
  unwrapped <| gateway.delete (Envelope.codec Profile.record.codec) (addressPath key)

/-- Register an account. -/
def register (gateway : Gateway σ) (command : AccountCommand) : Flow σ (Answer Account) :=
  unwrapped <| gateway.post (Envelope.codec Account.codec) "/action/account/register"
    (some (.of AccountCommand.record.codec command))

/-- Ask for a new activation token. -/
def requestToken (gateway : Gateway σ) (command : ActivationTokenCommand) : Flow σ (Answer Unit) :=
  unwrapped <| gateway.post (Envelope.codec .nothing) "/action/account/token/request"
    (some (.of ActivationTokenCommand.record.codec command))

/-- The path that verifies an activation token. -/
def verificationPath (token : String) : String :=
  "/action/account/token/verify/" ++ Text.Percent.segment token

/-- Verify an activation token. -/
def verifyToken (gateway : Gateway σ) (token : String) : Flow σ (Answer Unit) :=
  unwrapped <| gateway.post (Envelope.codec .nothing) (verificationPath token) none

end Account

section Cart

/-- The path of the cart. -/
def cartPath : String := "/action/cart"

/-- The path of an entry of the cart. -/
def cartItemPath (id : Uuid) : String := cartPath ++ "/" ++ id.text

/-- The cart. -/
def getCart (gateway : Gateway σ) : Flow σ (Answer Cart) :=
  unwrapped <| gateway.get (Envelope.codec Cart.codec) cartPath

/-- Put an item into the cart. -/
def addCartItem (gateway : Gateway σ) (command : CartAddItemCommand) : Flow σ (Answer Cart) :=
  unwrapped <| gateway.post (Envelope.codec Cart.codec) cartPath
    (some (.of CartAddItemCommand.record.codec command))

/-- Remove an entry from the cart. -/
def removeCartItem (gateway : Gateway σ) (id : Uuid) : Flow σ (Answer Cart) :=
  unwrapped <| gateway.delete (Envelope.codec Cart.codec) (cartItemPath id)

/-- Remove every entry from the cart. -/
def clearCart (gateway : Gateway σ) : Flow σ (Answer Cart) :=
  unwrapped <| gateway.delete (Envelope.codec Cart.codec) cartPath

end Cart

section Catalogue

/-- The path of the catalogue. -/
def cataloguePath : String := "/action/catalogue"

/-- The path of the items of the catalogue. -/
def itemsPath : String := cataloguePath ++ "/items"

/-- The path of an item. -/
def itemPath (id : Uuid) : String := itemsPath ++ "/" ++ id.text

/-- Search the catalogue; each item of a successful page has its publisher joined to it. -/
def find (gateway : Gateway σ) (query : CatalogueQuery) :
    Flow σ (Answer (ResultPage CatalogueItem)) := do
  match ← gateway.post SearchEnvelope.codec cataloguePath
      (some (.of CatalogueQuery.record.codec query)) with
  | .error error => return .error error
  | .ok reply =>
    Flow.note (.publishersFound reply.data.publishers.length)
    return .ok reply.data.joined

/-- An item of the catalogue. -/
def findOne (gateway : Gateway σ) (id : Uuid) : Flow σ (Answer CatalogueItem) :=
  unwrapped <| gateway.get (Envelope.codec CatalogueItem.codec) (itemPath id)

/-- Add an item to the catalogue. -/
def createItem (gateway : Gateway σ) (command : CatalogueAddItemCommand) : Flow σ (Answer Unit) :=
  unwrapped <| gateway.post (Envelope.codec .nothing) itemsPath
    (some (.of CatalogueAddItemCommand.record.codec command))

end Catalogue

section Configuration

/-- The path of the configuration for a locale. -/
def configurationPath (locale : String) : String :=
  "/action/configuration/" ++ Text.Percent.segment locale

/-- The configuration of the server for a locale. -/
def getConfiguration (gateway : Gateway σ) (locale : String) : Flow σ (Answer Configuration) :=
  unwrapped <| gateway.get (Envelope.codec Configuration.codec) (configurationPath locale)

end Configuration

section Rating

/-- What is rated. -/
inductive RatingTarget
  /-- An asset. -/
  | asset
  /-- A provider. -/
  | provider
  deriving DecidableEq

/-- The path of the ratings of a target. -/
def ratingPath (target : RatingTarget) (id : Uuid) : String :=
  match target with
  | .asset => "/action/rating/asset/" ++ id.text
  | .provider => "/action/rating/provider/" ++ id.text

/-- The ratings of a target. -/
def getRatings (gateway : Gateway σ) (target : RatingTarget) (id : Uuid) :
    Flow σ (Answer (List Rating)) :=
  unwrapped <| gateway.get (Envelope.codec Rating.codec.listOf) (ratingPath target id)

/-- Rate a target. -/
def addRating (gateway : Gateway σ) (target : RatingTarget) (id : Uuid)
    (command : RatingCommand) : Flow σ (Answer Unit) :=
  unwrapped <| gateway.post (Envelope.codec .nothing) (ratingPath target id)
    (some (.of RatingCommand.record.codec command))

end Rating

end GeoMarket.Resource
