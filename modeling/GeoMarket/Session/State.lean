import GeoMarket.Model.Account
import GeoMarket.Model.Cart

/-!
# Session state

What the client remembers between requests: who is signed in and with which tokens, the cart
that the server reported last, and the configuration of the server. The state changes only by
mutations, each of which sets some of its fields and leaves the others alone.
-/
namespace GeoMarket

/-- Who is signed in, and with which tokens. -/
structure UserState where
  /-- The bearer token of a session that is based on tokens. -/
  authToken : Option String := none
  /-- The header in which the server expects the token against forged requests. -/
  csrfHeader : Option String := none
  /-- The token against forged requests. -/
  csrfToken : Option String := none
  /-- The name of the user. -/
  username : Option String := none
  /-- The roles of the user. -/
  roles : List Role := []
  /-- The profile of the user. -/
  profile : Option Profile := none
  deriving BEq

/-- What concerns the shop. -/
structure ShopState where
  /-- The cart as the server reported it last. -/
  cart : Option Cart := none
  deriving BEq

/-- What concerns the configuration of the server. -/
structure ConfigState where
  /-- The configuration as the server reported it last. -/
  configuration : Option Configuration := none
  /-- The first configuration has not arrived yet, or another one is on its way. -/
  loading : Bool := true
  deriving BEq

/-- The state of a session. -/
structure Session where
  /-- Who is signed in. -/
  user : UserState := {}
  /-- What concerns the shop. -/
  shop : ShopState := {}
  /-- What concerns the configuration. -/
  config : ConfigState := {}
  deriving BEq

namespace UserState

/-- A bearer token that is not empty. -/
def bearer? (user : UserState) : Option String := user.authToken.filter fun token => token != ""

/-- A bearer token or a profile is there. -/
def isAuthenticated (user : UserState) : Bool := user.bearer?.isSome || user.profile.isSome

/-- The role is among those of the user. -/
def hasRole (user : UserState) (role : Role) : Bool := user.roles.contains role

end UserState

namespace Session

/-- Somebody is signed in. -/
def isAuthenticated (session : Session) : Bool := session.user.isAuthenticated

/-- The user has a role. -/
def hasRole (session : Session) (role : Role) : Bool := session.user.hasRole role

/-- A change of the session. -/
inductive Mutation
  /-- Set header and token against forged requests. -/
  | setCsrfToken (header token : Option String)
  /-- Set the bearer token. -/
  | setAuthToken (token : Option String)
  /-- Set name, roles and profile of the user together. -/
  | setUserData (account : Account)
  /-- Forget the user and the bearer token, but not the token against forged requests. -/
  | logout
  /-- Set the cart. -/
  | setCart (cart : Option Cart)
  /-- Set the configuration. -/
  | setConfiguration (configuration : Option Configuration)
  /-- Set whether a configuration is on its way. -/
  | setLoading (loading : Bool)
  /-- Forget everything. -/
  | reset

/-- The session after a mutation. -/
def apply (session : Session) : Mutation → Session
  | .setCsrfToken header token =>
    { session with user := { session.user with csrfHeader := header, csrfToken := token } }
  | .setAuthToken token => { session with user := { session.user with authToken := token } }
  | .setUserData account =>
    { session with
      user :=
        { session.user with
          username := some account.username
          roles := account.roles
          profile := some account.profile } }
  | .logout =>
    { session with
      user :=
        { session.user with authToken := none, username := none, roles := [], profile := none } }
  | .setCart cart => { session with shop := { cart } }
  | .setConfiguration configuration =>
    { session with config := { session.config with configuration } }
  | .setLoading loading => { session with config := { session.config with loading } }
  | .reset => {}

/-- The session after some mutations, from the first to the last. -/
def applyAll (session : Session) (mutations : List Mutation) : Session :=
  mutations.foldl apply session

/-- Further mutations act on what the ones before them have left. -/
theorem applyAll_append (session : Session) (before after : List Mutation) :
    session.applyAll (before ++ after) = (session.applyAll before).applyAll after :=
  List.foldl_append

/-- A last mutation acts on what the ones before it have left. -/
theorem applyAll_concat (session : Session) (mutations : List Mutation) (mutation : Mutation) :
    session.applyAll (mutations ++ [mutation]) = (session.applyAll mutations).apply mutation :=
  applyAll_append session mutations [mutation]

/-- The session that a new client has after some mutations. -/
def run (mutations : List Mutation) : Session := applyAll {} mutations

end Session
end GeoMarket
