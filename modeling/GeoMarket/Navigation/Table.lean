import GeoMarket.Model.Role
import GeoMarket.Navigation.Pattern

/-!
# Route tables

Routes are declared as a forest; a child continues the pattern of its parent. The table lists every
route of the forest with its full pattern, children before their parent, and a path belongs to the
first route whose pattern stands for it. A pattern may have any length: a table that is refused
because a matcher for one of its patterns would be too large is left out of consideration, so that
every forest has a table.
-/
namespace GeoMarket.Navigation

/-- What the guard wants to know about a route. -/
structure RouteMeta where
  /-- The role that the route is reserved for. -/
  requiresRole : Option Role := none
  /-- Users who are signed in are sent elsewhere. -/
  hideForAuth : Bool := false
  /-- The layout of the page. -/
  layout : Option String := none
  deriving DecidableEq

/-- A declared route. -/
inductive Route
  /-- A route with its pattern below its parent, its name, what the guard wants to know, the path
  that it redirects to, and its children. -/
  | node (path : String) (name : Option String) (details : RouteMeta) (redirect : Option String)
    (children : List Route)

/-- A route of a table. -/
structure RouteRecord where
  /-- The full pattern. -/
  pattern : String
  /-- The name. -/
  name : Option String
  /-- What the guard wants to know. -/
  details : RouteMeta
  /-- The path that the route redirects to. -/
  redirect : Option String
  deriving DecidableEq

/-- A route with a path that belongs to it. -/
structure ResolvedRoute where
  /-- The path without query and fragment. -/
  path : String
  /-- The full pattern of the route. -/
  pattern : String
  /-- The name of the route. -/
  name : Option String
  /-- The values of the parameters. -/
  params : Captures
  /-- What the guard wants to know. -/
  details : RouteMeta
  /-- The path that the route redirects to. -/
  redirect : Option String
  deriving DecidableEq

/-- The value of a parameter. -/
def ResolvedRoute.param? (route : ResolvedRoute) (name : String) : Option String :=
  route.params.lookup name

/-- The pattern of a child below the pattern of its parent: an absolute child stands alone, an
empty one repeats its parent, and below an empty pattern a child keeps its own. -/
def joinPatterns (parent child : String) : String :=
  if parent = "" ∨ child.toList.head? = some '/' then child
  else if child = "" then parent
  else String.ofList (Text.dropTrailing '/' parent.toList) ++ "/" ++ child

mutual

/-- The records of a route and its descendants below a pattern. -/
def Route.records (parent : String) : Route → List RouteRecord
  | .node path name details redirect children =>
    let pattern := joinPatterns parent path
    Route.forestRecords pattern children ++ [{ pattern, name, details, redirect }]

/-- The records of some siblings and their descendants below a pattern. -/
def Route.forestRecords (parent : String) : List Route → List RouteRecord
  | [] => []
  | route :: rest => route.records parent ++ Route.forestRecords parent rest

end

/-- An ordered table of routes. -/
structure RouteTable where
  /-- The records in the order in which they are tried. -/
  records : List RouteRecord
  deriving DecidableEq

/-- The path without query and fragment. -/
def barePath (path : String) : List Char :=
  path.toList.takeWhile fun character => character != '?' && character != '#'

/-- The route of a record with a path, if the path belongs to it. -/
def RouteRecord.resolve? (record : RouteRecord) (path : List Char) : Option ResolvedRoute :=
  ((Pattern.ofText record.pattern).captures? path).map fun captures =>
    { path := String.ofList path
      pattern := record.pattern
      name := record.name
      params := captures.settled
      details := record.details
      redirect := record.redirect }

namespace RouteTable

/-- The table of a forest of routes. -/
def ofRoutes (routes : List Route) : RouteTable := ⟨Route.forestRecords "" routes⟩

/-- The number of records. -/
def size (table : RouteTable) : Nat := table.records.length

/-- The first route that a path belongs to. -/
def resolve? (table : RouteTable) (path : String) : Option ResolvedRoute :=
  table.records.findSome? fun record => record.resolve? (barePath path)

/-- The pattern of the first route with a name. -/
def pathFor? (table : RouteTable) (name : String) : Option String :=
  (table.records.find? fun record => record.name == some name).map (·.pattern)

end RouteTable
end GeoMarket.Navigation
