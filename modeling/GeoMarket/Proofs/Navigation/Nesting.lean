import GeoMarket.Navigation.Application
import Mathlib.Data.List.Forall2

/-!
# Tables of nested routes

A route stands at a place in its forest: its position among its siblings, behind the positions of
its ancestors. A route comes before those that it stands below, and otherwise before another one if
it is on the earlier side where their places part. The table of a forest lists every route once and
in this order. So a path goes to the first route in it whose full pattern stands for the path, and
never to a route above another one with the same full pattern.
-/
namespace GeoMarket.Navigation

/-- Where a route stands in a forest, from the top down. -/
abbrev Place := List Nat

/-- One place of a forest comes before another. -/
inductive Place.Precedes : Place → Place → Prop
  /-- What stands below a route comes before it. -/
  | descendant {position : Nat} {rest : Place} : Precedes (position :: rest) []
  /-- An earlier sibling comes before a later one, each with all that stands below it. -/
  | sibling {position later : Nat} {rest others : Place} (earlier : position < later) :
      Precedes (position :: rest) (later :: others)
  /-- Below the same route the further places decide. -/
  | within {position : Nat} {rest others : Place} (first : Precedes rest others) :
      Precedes (position :: rest) (position :: others)

/-- No place comes before one that comes before it. -/
theorem Place.Precedes.asymm {first second : Place} (ordered : first.Precedes second) :
    ¬second.Precedes first := by
  induction ordered with
  | descendant => nofun
  | sibling earlier =>
    intro reversed
    cases reversed with
    | sibling later => exact Nat.lt_asymm earlier later
    | within further => exact Nat.lt_irrefl _ earlier
  | within further ih =>
    intro reversed
    cases reversed with
    | sibling later => exact Nat.lt_irrefl _ later
    | within reversed => exact ih reversed

namespace Route

/-! ## Routes and their full patterns -/

/-- The pattern that a route declares below that of its parent. -/
def declared : Route → String
  | .node path _ _ _ _ => path

/-- The routes below a route. -/
def children : Route → List Route
  | .node _ _ _ _ children => children

/-- The record of a route with a full pattern. -/
def record (pattern : String) : Route → RouteRecord
  | .node _ name details redirect _ => { pattern, name, details, redirect }

/-- The route without children that declares the pattern of a record. -/
def ofRecord (record : RouteRecord) : Route :=
  .node record.pattern record.name record.details record.redirect []

/-- The routes on the way from the top of a forest to a place, the last of them at that place. -/
def lineage? (routes : List Route) : Place → Option (List Route)
  | [] => some []
  | position :: rest =>
    routes[position]?.bind fun route => (lineage? route.children rest).map (route :: ·)

/-- The patterns of a lineage joined one after another. -/
def fullPattern (above : String) (lineage : List Route) : String :=
  (lineage.map declared).foldl joinPatterns above

/-- The record of the last route of a lineage, with its full pattern. -/
def recordOf? (above : String) (lineage : List Route) : Option RouteRecord :=
  lineage.getLast?.map (record (fullPattern above lineage))

/-- The record of the route at a place of a forest. -/
def recordAt? (above : String) (routes : List Route) (place : Place) : Option RouteRecord :=
  (lineage? routes place).bind (recordOf? above)

/-- The record at a place below a route, or that of the route itself. -/
def recordBelow? (above : String) (route : Route) : Place → Option RouteRecord
  | [] => some (route.record (joinPatterns above route.declared))
  | place => recordAt? (joinPatterns above route.declared) route.children place

variable {above : String} {routes : List Route} {place : Place}

/-- At a place of a forest stands a route of the top, or one below it. -/
theorem recordAt?_cons (above : String) (routes : List Route) (position : Nat) (rest : Place) :
    recordAt? above routes (position :: rest) =
      routes[position]?.bind fun route => route.recordBelow? above rest := by
  rw [recordAt?, lineage?, Option.bind_assoc]
  refine Option.bind_congr fun route _ => ?_
  rw [Option.bind_map]
  cases rest with
  | nil => rfl
  | cons next rest =>
    refine Option.bind_congr fun lineage traced => ?_
    -- The lineage goes on below the route, so its last route is that of the lineage.
    obtain ⟨child, -, descendants, -, rfl⟩ := by
      simpa only [lineage?, Option.mem_def, Option.bind_eq_some_iff, Option.map_eq_some_iff]
        using traced
    rfl

/-! ## The places of a forest -/

mutual

/-- The places of a route and its descendants, in the order in which they are registered. -/
def places : Route → List Place
  | .node _ _ _ _ children => forestPlaces children ++ [[]]

/-- The places of some siblings and their descendants, in the order in which they are registered. -/
def forestPlaces : List Route → List Place
  | [] => []
  | route :: rest => route.places.map (0 :: ·) ++ (forestPlaces rest).map (List.modifyHead (· + 1))

end

/-- A place of a forest is that of a route of the top, or one below it. -/
theorem mem_forestPlaces_iff :
    place ∈ forestPlaces routes ↔
      ∃ position rest route, place = position :: rest ∧ routes[position]? = some route ∧
        rest ∈ route.places := by
  induction routes generalizing place with
  | nil => simp [forestPlaces]
  | cons route routes ih =>
    rw [forestPlaces, List.mem_append, List.mem_map, List.mem_map]
    constructor
    · rintro (⟨rest, inside, rfl⟩ | ⟨place, inside, rfl⟩)
      · exact ⟨0, rest, route, rfl, rfl, inside⟩
      · obtain ⟨position, rest, other, rfl, listed, below⟩ := ih.mp inside
        exact ⟨position + 1, rest, other, rfl, listed, below⟩
    · rintro ⟨position, rest, other, rfl, listed, below⟩
      cases position with
      | zero =>
        obtain rfl := Option.some.inj listed
        exact .inl ⟨rest, below, rfl⟩
      | succ position =>
        exact .inr ⟨position :: rest, ih.mpr ⟨position, rest, other, rfl, listed, below⟩, rfl⟩

/-- A route stands at its own place and above those of its children. -/
theorem mem_places_iff {route : Route} :
    place ∈ route.places ↔ place ∈ forestPlaces route.children ∨ place = [] := by
  cases route
  simp [places, children]

/-- The places of a forest are those where it has a route. -/
theorem mem_forestPlaces_iff_isSome :
    place ∈ forestPlaces routes ↔ (recordAt? above routes place).isSome = true := by
  induction place generalizing above routes with
  | nil => simp [mem_forestPlaces_iff, recordAt?, lineage?, recordOf?]
  | cons position rest ih =>
    rw [mem_forestPlaces_iff, recordAt?_cons]
    cases listed : routes[position]? with
    | none => simp [listed]
    | some route =>
      cases rest with
      | nil => simp [listed, mem_places_iff, recordBelow?]
      | cons next rest =>
        have below := @ih (joinPatterns above route.declared) route.children
        simp [listed, mem_places_iff, recordBelow?, below]

/-- One position further on stand the siblings behind the first. -/
theorem recordAt?_modifyHead (route : Route) (position : Nat) (rest : Place) :
    recordAt? above (route :: routes) ((position :: rest).modifyHead (· + 1)) =
      recordAt? above routes (position :: rest) := by
  rw [List.modifyHead_cons, recordAt?_cons, recordAt?_cons, List.getElem?_cons_succ]

mutual

/-- A route registers the records at its places, one after another. -/
theorem registers_places (above : String) : ∀ route : Route,
    List.Forall₂ (fun place record => route.recordBelow? above place = some record)
      route.places (route.records above)
  | .node path name details redirect children => by
    rw [places, records]
    refine List.rel_append ?_ (.cons rfl .nil)
    have inside := registers_forestPlaces (joinPatterns above path) children
    refine inside.imp fun place record found => ?_
    cases place with
    | nil => cases found
    | cons position rest => exact found

/-- Siblings register the records at their places, one after another. -/
theorem registers_forestPlaces (above : String) : ∀ routes : List Route,
    List.Forall₂ (fun place record => recordAt? above routes place = some record)
      (forestPlaces routes) (forestRecords above routes)
  | [] => .nil
  | route :: routes => by
    rw [forestPlaces, forestRecords]
    refine List.rel_append ?_ ?_
    · rw [List.forall₂_map_left_iff]
      refine (registers_places above route).imp fun place record found => ?_
      rw [recordAt?_cons]
      exact found
    · rw [List.forall₂_map_left_iff]
      refine (registers_forestPlaces above routes).imp fun place record found => ?_
      cases place with
      | nil => cases found
      | cons position rest => rw [recordAt?_modifyHead, found]

end

mutual

/-- A route comes behind its descendants, which are in order. -/
theorem pairwise_places : ∀ route : Route, route.places.Pairwise Place.Precedes
  | .node path name details redirect children => by
    rw [places, List.pairwise_append]
    refine ⟨pairwise_forestPlaces children, List.pairwise_singleton _ _, ?_⟩
    intro place inside last own
    obtain ⟨position, rest, -, rfl, -⟩ := mem_forestPlaces_iff.mp inside
    obtain rfl := List.mem_singleton.mp own
    exact .descendant

/-- Siblings come one after another, each with its descendants. -/
theorem pairwise_forestPlaces : ∀ routes : List Route, (forestPlaces routes).Pairwise Place.Precedes
  | [] => .nil
  | route :: routes => by
    rw [forestPlaces, List.pairwise_append, List.pairwise_map, List.pairwise_map]
    refine ⟨(pairwise_places route).imp .within, ?_, ?_⟩
    · refine (pairwise_forestPlaces routes).imp fun {first second} ordered => ?_
      cases ordered with
      | descendant => exact .descendant
      | sibling earlier => exact .sibling (Nat.succ_lt_succ earlier)
      | within first => exact .within first
    · intro first before second behind
      obtain ⟨rest, -, rfl⟩ := List.mem_map.mp before
      obtain ⟨place, inside, rfl⟩ := List.mem_map.mp behind
      obtain ⟨position, others, -, rfl, -⟩ := mem_forestPlaces_iff.mp inside
      exact .sibling (Nat.succ_pos position)

end

/-! ## Forests laid flat -/

/-- The routes at some places of a forest, each alone at the top and with its full pattern. -/
def flattened (routes : List Route) (places : List Place) : List Route :=
  (places.filterMap (recordAt? "" routes)).map ofRecord

/-- Values that a function finds one after another are all that it finds. -/
theorem filterMap_of_forall₂ {α β : Type} {find : α → Option β} {keys : List α} {values : List β}
    (found : List.Forall₂ (fun key value => find key = some value) keys values) :
    keys.filterMap find = values := by
  induction found with
  | nil => rfl
  | cons first _ ih => rw [List.filterMap_cons_some first, ih]

/-- The records of a forest are those at its places. -/
theorem forestRecords_eq (routes : List Route) :
    forestRecords "" routes = (forestPlaces routes).filterMap (recordAt? "" routes) :=
  (filterMap_of_forall₂ (registers_forestPlaces "" routes)).symm

/-- Routes that stand alone register their records. -/
theorem forestRecords_ofRecord (records : List RouteRecord) :
    forestRecords "" (records.map ofRecord) = records := by
  induction records with
  | nil => rfl
  | cons record records ih =>
    rw [List.map_cons, forestRecords, ih]
    simp [ofRecord, Route.records, forestRecords, joinPatterns]

end Route

/-! ## What a table of nested routes answers -/

/-- Below a route its descendants come first. -/
theorem Place.precedes_append {below : Place} (further : below ≠ []) (place : Place) :
    Precedes (place ++ below) place := by
  induction place with
  | nil =>
    obtain ⟨position, rest, rfl⟩ := List.exists_cons_of_ne_nil further
    exact .descendant
  | cons position rest ih => exact .within ih

/-- Records with the same pattern resolve the same paths. -/
theorem RouteRecord.resolve?_eq_none_congr {first second : RouteRecord}
    (same : first.pattern = second.pattern) {path : List Char} :
    first.resolve? path = none ↔ second.resolve? path = none := by
  rw [resolve?, resolve?, Option.map_eq_none_iff, Option.map_eq_none_iff, same]

namespace RouteTable

open Route

variable {routes : List Route} {path : String} {resolved : ResolvedRoute}

/-- The table of a forest has one record for each place with a route, in the order of the places. -/
structure Lists (table : RouteTable) (routes : List Route) (places : List Place) : Prop where
  /-- The places are those with a route. -/
  exact : ∀ place, place ∈ places ↔ (recordAt? "" routes place).isSome = true
  /-- Each place comes once. -/
  once : places.Nodup
  /-- Siblings are in order, and every route is behind all of its descendants. -/
  ordered : places.Pairwise Place.Precedes
  /-- Each place has the record of its route, with the full pattern. -/
  registered :
    List.Forall₂ (fun place record => recordAt? "" routes place = some record) places table.records
  /-- There are as many records as places. -/
  counted : table.size = places.length

/-- Two tables have the same answer to every question. -/
structure Alike (first second : RouteTable) : Prop where
  /-- Every path has the same route. -/
  resolve? : ∀ path, first.resolve? path = second.resolve? path
  /-- Every name has the same pattern. -/
  pathFor? : ∀ name, first.pathFor? name = second.pathFor? name
  /-- There are as many records. -/
  size : first.size = second.size

/-- The route at a place of a forest answers for a path: its pattern stands for the path, and that
of no route before it does. -/
structure Answers (routes : List Route) (path : String) (place : Place) (resolved : ResolvedRoute) :
    Prop where
  /-- The pattern of the route stands for the path. -/
  own : (recordAt? "" routes place).bind (·.resolve? (barePath path)) = some resolved
  /-- No pattern before it does. -/
  first : ∀ earlier : Place, earlier.Precedes place →
    (recordAt? "" routes earlier).bind (·.resolve? (barePath path)) = none

/-- The table of a forest lists its places. -/
theorem lists_ofRoutes (routes : List Route) :
    (ofRoutes routes).Lists routes (forestPlaces routes) where
  exact _ := mem_forestPlaces_iff_isSome
  once := (pairwise_forestPlaces routes).imp fun ordered same =>
    (same ▸ ordered).asymm (same ▸ ordered)
  ordered := pairwise_forestPlaces routes
  registered := registers_forestPlaces "" routes
  counted := (registers_forestPlaces "" routes).length_eq.symm

/-- A forest laid flat along its places has the same table. -/
theorem ofRoutes_flattened (routes : List Route) :
    ofRoutes (flattened routes (forestPlaces routes)) = ofRoutes routes := by
  rw [ofRoutes, flattened, forestRecords_ofRecord, ← forestRecords_eq, ofRoutes]

/-- The table of a forest tries the places one after another. -/
theorem resolve?_eq_findSome? (routes : List Route) (path : String) :
    (ofRoutes routes).resolve? path = (forestPlaces routes).findSome? fun place =>
      (recordAt? "" routes place).bind (·.resolve? (barePath path)) := by
  rw [resolve?, ofRoutes, forestRecords_eq, ← List.head?_filterMap, List.filterMap_filterMap,
    List.head?_filterMap]

/-- A path has the route that answers for it. -/
theorem resolve?_eq_some_iff_answers :
    (ofRoutes routes).resolve? path = some resolved ↔
      ∃ place, Answers routes path place resolved := by
  have ordered := pairwise_forestPlaces routes
  rw [resolve?_eq_findSome?]
  constructor
  · intro found
    obtain ⟨before, place, after, split, own, missed⟩ := List.findSome?_eq_some_iff.mp found
    refine ⟨place, own, fun earlier precedes => ?_⟩
    rw [split, List.pairwise_append] at ordered
    obtain ⟨-, behind, -⟩ := ordered
    by_contra answered
    -- A place with a record is listed, and only what is listed before comes before.
    have standing : (recordAt? "" routes earlier).isSome = true := by
      cases found : recordAt? "" routes earlier with
      | none => simp [found] at answered
      | some record => rfl
    have listed := mem_forestPlaces_iff_isSome.mpr standing
    rw [split, List.mem_append, List.mem_cons] at listed
    rcases listed with inside | rfl | inside
    · exact answered (missed earlier inside)
    · exact precedes.asymm precedes
    · exact precedes.asymm (List.rel_of_pairwise_cons behind inside)
  · rintro ⟨place, own, first⟩
    have standing : (recordAt? "" routes place).isSome = true := by
      obtain ⟨record, found, -⟩ := Option.bind_eq_some_iff.mp own
      exact Option.isSome_of_eq_some found
    obtain ⟨before, after, split⟩ := List.append_of_mem (mem_forestPlaces_iff_isSome.mpr standing)
    refine List.findSome?_eq_some_iff.mpr ⟨before, place, after, split, own, ?_⟩
    intro earlier inside
    rw [split, List.pairwise_append] at ordered
    exact first earlier (ordered.2.2 earlier inside place List.mem_cons_self)

/-- A route above another one with the same full pattern does not answer. -/
theorem not_answers_of_descendant {parent below : Place} {upper lower : RouteRecord}
    (further : below ≠ []) (above : recordAt? "" routes parent = some upper)
    (beneath : recordAt? "" routes (parent ++ below) = some lower)
    (same : lower.pattern = upper.pattern) : ¬Answers routes path parent resolved := by
  rintro ⟨own, first⟩
  have missed := first (parent ++ below) (Place.precedes_append further parent)
  rw [above, Option.bind_some] at own
  rw [beneath, Option.bind_some, RouteRecord.resolve?_eq_none_congr same, own] at missed
  contradiction

/-- **Nested routes.** The table of a forest has one record for each route of the forest, with its
full pattern: siblings in order, and every route behind all of its descendants. It gives the same
answers as the table of these routes laid flat. A path has the route that answers for it, and a
route above another one with the same full pattern never does. -/
theorem ofRoutes_nested (routes : List Route) :
    ∃ places, (ofRoutes routes).Lists routes places ∧
      Alike (ofRoutes (flattened routes places)) (ofRoutes routes) ∧
      (∀ path resolved, (ofRoutes routes).resolve? path = some resolved ↔
        ∃ place, Answers routes path place resolved) ∧
      ∀ parent below upper lower, below ≠ [] → recordAt? "" routes parent = some upper →
        recordAt? "" routes (parent ++ below) = some lower → lower.pattern = upper.pattern →
        ∀ path resolved, ¬Answers routes path parent resolved := by
  refine ⟨forestPlaces routes, lists_ofRoutes routes, ?_, fun path resolved =>
    resolve?_eq_some_iff_answers, ?_⟩
  · rw [ofRoutes_flattened]
    exact ⟨fun _ => rfl, fun _ => rfl, rfl⟩
  · intro parent below upper lower further above beneath same path resolved
    exact not_answers_of_descendant further above beneath same

/-- The dashboard of the application has a page of its own pattern below it, which answers in its
place. -/
theorem ofRoutes_nested_dashboard :
    ∃ upper lower, recordAt? "" Application.routes [6] = some upper ∧
      recordAt? "" Application.routes ([6] ++ [0]) = some lower ∧ lower.pattern = upper.pattern ∧
      upper.name = none ∧ lower.name = some "DashboardHome" ∧
      ∀ path resolved, ¬Answers Application.routes path [6] resolved := by
  obtain ⟨places, -, -, -, never⟩ := ofRoutes_nested Application.routes
  refine ⟨_, _, rfl, rfl, by decide, rfl, rfl, ?_⟩
  exact never [6] [0] _ _ (by decide) rfl rfl (by decide)

end RouteTable
end GeoMarket.Navigation
