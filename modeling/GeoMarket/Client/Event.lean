import GeoMarket.Http.Error
import GeoMarket.Navigation.Navigator

/-!
# Events

What the client notes in its log while it works. Every event has a level and a text.
-/
namespace GeoMarket

/-- The level of an event. -/
inductive EventLevel
  /-- Of interest to developers. -/
  | debug
  /-- For information. -/
  | info
  /-- A warning. -/
  | warn
  /-- An error. -/
  | error
  deriving DecidableEq

/-- The name of a level. -/
def EventLevel.name : EventLevel → String
  | debug => "DEBUG"
  | info => "INFO"
  | warn => "WARN"
  | error => "ERROR"

/-- An event. -/
inductive Event
  /-- A request is about to be sent. -/
  | sending (method : Http.Method) (url : String)
  /-- A request has failed. -/
  | failed (error : Http.ApiError)
  /-- A user with some roles was put into the session. -/
  | userSet (roles : Nat)
  /-- The user was removed from the session. -/
  | userCleared
  /-- A search has brought some publishers. -/
  | publishersFound (count : Nat)
  /-- The server has refused to sign a user in. -/
  | loginRejected (username : String)
  /-- A user has signed in, but the account could not be loaded. -/
  | accountMissing
  /-- A user has signed in. -/
  | signedIn (username : String)
  /-- The user has signed out. -/
  | signedOut
  /-- A navigation was redirected. -/
  | redirected (hop : Navigation.Hop)

namespace Event

/-- The level of an event. -/
def level : Event → EventLevel
  | sending .. => .debug
  | failed _ => .error
  | userSet _ => .debug
  | userCleared => .info
  | publishersFound _ => .debug
  | loginRejected _ => .warn
  | accountMissing => .warn
  | signedIn _ => .debug
  | signedOut => .info
  | redirected _ => .debug

/-- The text of an event. -/
def message : Event → String
  | sending method url => method.name ++ " " ++ url
  | failed error => error.stage.headline ++ ": " ++ error.message
  | userSet roles => "Session user set with " ++ toString roles ++ " role(s)"
  | userCleared => "Session user cleared"
  | publishersFound count => "Catalogue search returned " ++ toString count ++ " publisher(s)"
  | loginRejected username => "Login for " ++ username ++ " was rejected"
  | accountMissing => "User data request failed after login"
  | signedIn username => "Signed in as " ++ username
  | signedOut => "Signed out"
  | redirected (.byRoute path target) => "Route " ++ path ++ " redirects to " ++ target
  | redirected (.byGuard path location) => "Guard redirected " ++ path ++ " to " ++ location.text

/-- The line of an event in the log. -/
def line (event : Event) : String := event.level.name ++ " " ++ event.message

/-- The event that a change of the session brings about. -/
def ofMutation? : Session.Mutation → Option Event
  | .setUserData account => some (userSet account.roles.length)
  | .logout => some userCleared
  | _ => none

end Event
end GeoMarket
