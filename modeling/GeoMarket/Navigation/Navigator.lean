import GeoMarket.Navigation.Guard

/-!
# Navigation

Navigation to a path goes in steps. A step at a target finds the route of the target. A route
that redirects leads to the next target, whatever the guard says; at any other route the guard
decides whether the navigation stops there or goes on to another location. After too many steps
the navigation is given up.
-/
namespace GeoMarket.Navigation

/-- Why a navigation fails. -/
inductive NavigationError
  /-- No route has the name. -/
  | unknownRoute (name : String)
  /-- No route stands for the path. -/
  | noMatch (path : String)
  /-- The navigation to a path was redirected too often. -/
  | redirectLoop (path : String) (hops : Nat)
  deriving DecidableEq

/-- The text shown for an error. -/
def NavigationError.message : NavigationError → String
  | unknownRoute name => "Unknown route name: " ++ name
  | noMatch path => "No route matches " ++ path
  | redirectLoop path hops =>
    "Navigation to " ++ path ++ " exceeded " ++ toString hops ++ " redirects"

/-- A redirect on the way. -/
inductive Hop
  /-- A route redirects to a path. -/
  | byRoute (path target : String)
  /-- The guard redirects to a location. -/
  | byGuard (path : String) (location : Location)
  deriving DecidableEq

/-- What a step at a target leads to. -/
inductive Step
  /-- The navigation stops at a route. -/
  | arrive (route : ResolvedRoute)
  /-- The navigation goes on to another target. -/
  | move (hop : Hop) (target : String)
  /-- The navigation fails, after a last redirect that leads nowhere or without one. -/
  | fail (hop : Option Hop) (error : NavigationError)

/-- A table of routes with its guard. -/
structure Navigator where
  /-- The routes. -/
  table : RouteTable
  /-- The guard. -/
  guard : Guard := {}
  deriving DecidableEq

/-- How many redirects a navigation follows. -/
def greatestHops : Nat := 10

namespace Navigator

/-- The path of a location. -/
def locationPath (navigator : Navigator) : Location → Except NavigationError String
  | .path target => .ok target
  | .named name =>
    match navigator.table.pathFor? name with
    | some path => .ok path
    | none => .error (.unknownRoute name)

/-- The route of a path and the decision of the guard about it. -/
def check (navigator : Navigator) (session : Session) (path : String) :
    Except NavigationError (ResolvedRoute × Decision) :=
  match navigator.table.resolve? path with
  | some route => .ok (route, navigator.guard.check route.details session)
  | none => .error (.noMatch path)

/-- One step at a target. -/
def step (navigator : Navigator) (session : Session) (target : String) : Step :=
  match navigator.check session target with
  | .error error => .fail none error
  | .ok (route, decision) =>
    match route.redirect, decision with
    | some next, _ => .move (.byRoute route.path next) next
    | none, .proceed => .arrive route
    | none, .redirect location =>
      let hop := Hop.byGuard route.path location
      match navigator.locationPath location with
      | .ok next => .move hop next
      | .error error => .fail (some hop) error

/-- Take at most `fuel` steps from a target; the path where the navigation began is named when
they do not suffice. -/
def follow (navigator : Navigator) (session : Session) (start : String) :
    Nat → String → List Hop × Except NavigationError ResolvedRoute
  | 0, _ => ([], .error (.redirectLoop start greatestHops))
  | fuel + 1, target =>
    match navigator.step session target with
    | .arrive route => ([], .ok route)
    | .fail hop error => (hop.toList, .error error)
    | .move hop next =>
      let (hops, outcome) := navigator.follow session start fuel next
      (hop :: hops, outcome)

/-- Navigate to a path: the redirects on the way, and the route where the session ends up. -/
def navigate (navigator : Navigator) (session : Session) (path : String) :
    List Hop × Except NavigationError ResolvedRoute :=
  navigator.follow session path (greatestHops + 1) path

end Navigator
end GeoMarket.Navigation
