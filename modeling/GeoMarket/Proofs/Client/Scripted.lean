import GeoMarket.Client.Marketplace

/-!
# A client over a script

What is proved of the flows of a client holds over every transport. Where a law is tried on one
server, the server is a script: each request uses up the next answer, whatever it asks for. The
answers here are those of a server that knows one user.
-/
namespace GeoMarket.MarketplaceClient

/-- A client over the answers of a script. -/
def scripted : MarketplaceClient (List Http.ScriptEntry) :=
  { config := {}, gateway := gatewayFor {} Http.scripted }

/-- An answer of success that brings nothing. -/
def bareSuccess : Http.ScriptEntry := .answer ⟨200, "\x7b\"success\":true\x7d"⟩

/-- An answer of success that brings the account of a user. -/
def adaSuccess : Http.ScriptEntry :=
  .answer ⟨200, "\x7b\"success\":true,\"result\":\x7b\"email\":\"ada@geomarket.example\","
    ++ "\"username\":\"ada\",\"roles\":[\"ROLE_USER\"]\x7d\x7d"⟩

/-- The account of a user. -/
def ada : Account where
  email := "ada@geomarket.example"
  locale := Account.defaultLocale
  activatedAt := none
  activationStatus := none
  emailVerified := false
  emailVerifiedAt := none
  idpName := none
  idpUserAlias := none
  idpUserImage := none
  registeredAt := none
  profile := {}
  username := "ada"
  roles := [.user]

/-- A session in which an administrator is signed in. -/
def graceSession : Session :=
  { user := { username := some "grace", roles := [.admin], profile := some {} } }

end GeoMarket.MarketplaceClient
