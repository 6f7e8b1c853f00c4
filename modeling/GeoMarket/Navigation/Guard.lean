import GeoMarket.Navigation.Table
import GeoMarket.Session.State

/-!
# The navigation guard

Before a route is entered, the guard looks at the session: users who are signed in are kept away
from routes that are hidden from them, and a route that is reserved for a role is closed to
users without it.
-/
namespace GeoMarket.Navigation

/-- A target of navigation. -/
inductive Location
  /-- A path. -/
  | path (path : String)
  /-- The route with a name. -/
  | named (name : String)
  deriving DecidableEq

/-- The text shown for a location. -/
def Location.text : Location → String
  | .path target => target
  | .named name => "\x7bname: " ++ name ++ "\x7d"

/-- What the guard decides. -/
inductive Decision
  /-- The route may be entered. -/
  | proceed
  /-- Another location is to be visited instead. -/
  | redirect (location : Location)
  deriving DecidableEq

/-- Where the guard sends users. -/
structure Guard where
  /-- For users who are signed in and open a route that is hidden from them. -/
  authenticatedHome : Location := .named "DashboardHome"
  /-- For users without the role of a route. -/
  unauthorized : Location := .path "/error/401"
  deriving DecidableEq

/-- The decision about a route: first whether it is hidden, then whether its role is missing. -/
def Guard.check (guard : Guard) (details : RouteMeta) (session : Session) : Decision :=
  if details.hideForAuth && session.isAuthenticated then .redirect guard.authenticatedHome
  else match details.requiresRole with
    | some role => if session.hasRole role then .proceed else .redirect guard.unauthorized
    | none => .proceed

end GeoMarket.Navigation
