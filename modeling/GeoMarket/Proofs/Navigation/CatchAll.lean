import GeoMarket.Proofs.Navigation.Arrival

/-!
# What the last route catches

The lone wildcard stands for any text on one line. So a table with a route of that pattern finds a
route for every path that has no line feed before its query and fragment; a path that has one is
left without a route unless another pattern stands for it. In the application a navigation fails at
such paths and nowhere else, and every other path of no page ends at the page for errors.
-/
namespace GeoMarket.Navigation

/-- The lone wildcard accepts the texts on one line, and no others. -/
theorem accepts_lone_iff {path : List Char} : Accepts "*" path ↔ '\n' ∉ path := by
  constructor
  · intro accepted
    have lone : Pattern.ofText "*" = .anything := rfl
    cases accepted with
    | anything oneLine => exact oneLine
    | split declared splits => simp [ofText_of_declares declared] at lone
  · exact Accepts.anything

/-- A record of the lone wildcard misses the texts with a line feed. -/
theorem RouteRecord.resolve?_lone_eq_none_iff {record : RouteRecord} (lone : record.pattern = "*")
    {path : List Char} : record.resolve? path = none ↔ '\n' ∈ path := by
  have rooted : Rooted record.pattern := .inl lone
  rw [RouteRecord.resolve?_eq_none_iff rooted, lone, accepts_lone_iff, not_not]

/-- Every route of some siblings has its record. -/
theorem Route.mem_forestRecords {path : String} {name : Option String} {details : RouteMeta}
    {redirect : Option String} {children : List Route} {routes : List Route} (parent : String)
    (listed : .node path name details redirect children ∈ routes) :
    { pattern := joinPatterns parent path, name, details, redirect } ∈
      Route.forestRecords parent routes := by
  induction routes with
  | nil => cases listed
  | cons route rest ih =>
    rw [Route.forestRecords, List.mem_append]
    rcases List.mem_cons.mp listed with rfl | later
    · left
      rw [Route.records]
      exact List.mem_append_right _ (List.mem_singleton.mpr rfl)
    · exact .inr (ih later)

/-- Among some routes, and not below another one, there is one with the lone wildcard. -/
def HasCatchAll (routes : List Route) : Prop :=
  ∃ name details redirect children, .node "*" name details redirect children ∈ routes

/-- The table of such routes has a record of the lone wildcard. -/
theorem HasCatchAll.exists_record {routes : List Route} (caught : HasCatchAll routes) :
    ∃ record ∈ (RouteTable.ofRoutes routes).records, record.pattern = "*" := by
  obtain ⟨name, details, redirect, children, listed⟩ := caught
  have joined : joinPatterns "" "*" = "*" := by decide
  exact ⟨_, Route.mem_forestRecords "" listed, joined⟩

/-- With a record of the lone wildcard a path has no route exactly when it has a line feed and all
other records miss it. -/
theorem resolve?_eq_none_of_lone_iff {table : RouteTable}
    (caught : ∃ record ∈ table.records, record.pattern = "*") (path : String) :
    table.resolve? path = none ↔
      '\n' ∈ barePath path ∧
      ∀ record ∈ table.records, record.pattern ≠ "*" → record.resolve? (barePath path) = none := by
  rw [RouteTable.resolve?, List.findSome?_eq_none_iff]
  constructor
  · intro missed
    obtain ⟨catcher, listed, lone⟩ := caught
    have lineFeed := (RouteRecord.resolve?_lone_eq_none_iff lone).mp (missed catcher listed)
    exact ⟨lineFeed, fun record inside _ => missed record inside⟩
  · intro unmatched record inside
    obtain ⟨lineFeed, others⟩ := unmatched
    by_cases lone : record.pattern = "*"
    · exact (RouteRecord.resolve?_lone_eq_none_iff lone).mpr lineFeed
    · exact others record inside lone

namespace Application

variable {session : Session} {path : String}

/-- The routes of the application end with one of the lone wildcard. -/
theorem routes_hasCatchAll : HasCatchAll routes :=
  ⟨none, {}, some "/error/404", [], List.mem_of_getLast? rfl⟩

/-- A navigation to a path of no page fails at once if the path has a line feed. -/
theorem navigate_of_lineFeed (unlisted : Unlisted (barePath path))
    (lineFeed : '\n' ∈ barePath path) :
    (navigator.navigate session path).2 = .error (.noMatch path) := by
  have missing : navigator.table.resolve? path = none := by
    change table.resolve? path = none
    rw [resolve?_of_unlisted unlisted]
    exact (RouteRecord.resolve?_lone_eq_none_iff rfl).mpr lineFeed
  have failed : navigator.Fails session path (.noMatch path) := .noMatch missing
  exact Navigator.follow_error_iff.mpr (.inr ⟨0, by decide, path, .here path, failed⟩)

/-- A navigation to a path of no page ends at the page for errors if the path has no line feed. -/
theorem navigate_of_oneLine (unlisted : Unlisted (barePath path)) (oneLine : '\n' ∉ barePath path) :
    (navigator.navigate session path).2 = .ok (errorPage "404") := by
  have arrives : navigator.Arrives session path 1 (errorPage "404") :=
    arrives_of_unlisted unlisted oneLine
  obtain ⟨hops, navigated, -⟩ := arrives
  exact congrArg Prod.snd navigated

/-- A navigation to the path of a page arrives. -/
theorem navigate_of_listed (listed : ¬ Unlisted (barePath path)) :
    ∃ route, (navigator.navigate session path).2 = .ok route := by
  have ended {redirects : Nat} {route : ResolvedRoute}
      (arrived : navigator.Arrives session path redirects route) :
      ∃ route, (navigator.navigate session path).2 = .ok route := by
    obtain ⟨hops, navigated, -⟩ := arrived
    exact ⟨route, congrArg Prod.snd navigated⟩
  by_cases redundant : Redundant session (barePath path)
  · cases granted : session.hasRole .user with
    | true => exact ended (arrives_of_redundant redundant granted)
    | false => exact ended (arrives_of_redundant_of_missing redundant granted)
  by_cases lacking : TurnedAway session (barePath path)
  · exact ended (arrives_of_turnedAway lacking)
  · obtain ⟨route, -, arrived⟩ := arrives_of_admitted listed redundant lacking
    exact ended arrived

/-- A navigation in the application fails exactly when the path is that of no page and has a line
feed, and then it fails for want of a route. -/
theorem navigate_eq_error_iff (error : NavigationError) :
    (navigator.navigate session path).2 = .error error ↔
      error = .noMatch path ∧ Unlisted (barePath path) ∧ '\n' ∈ barePath path := by
  constructor
  · intro failed
    by_cases unlisted : Unlisted (barePath path)
    · by_cases lineFeed : '\n' ∈ barePath path
      · rw [navigate_of_lineFeed unlisted lineFeed] at failed
        exact ⟨(Except.error.inj failed).symm, unlisted, lineFeed⟩
      · rw [navigate_of_oneLine unlisted lineFeed] at failed
        contradiction
    · have arrives : ∃ route, (navigator.navigate session path).2 = .ok route :=
        navigate_of_listed unlisted
      obtain ⟨route, arrived⟩ := arrives
      rw [arrived] at failed
      contradiction
  · rintro ⟨rfl, unlisted, lineFeed⟩
    exact navigate_of_lineFeed unlisted lineFeed

/-- **What the catch-all catches.** In every table of routes with the lone wildcard at the top, a
path has no route exactly when it has a line feed before its query and fragment and no other record
stands for it. In the application, whatever the session, navigation fails exactly for the paths of
no page that have such a line feed, namely for want of a route, and every other path of no page ends
at the page for errors. -/
theorem navigate_unless_lineFeed {listed : List Route} (caught : HasCatchAll listed)
    (session : Session) (path : String) :
    ((RouteTable.ofRoutes listed).resolve? path = none ↔
      '\n' ∈ barePath path ∧
      ∀ record ∈ (RouteTable.ofRoutes listed).records,
        record.pattern ≠ "*" → record.resolve? (barePath path) = none) ∧
    (∀ error, (navigator.navigate session path).2 = .error error ↔
      error = .noMatch path ∧ Unlisted (barePath path) ∧ '\n' ∈ barePath path) ∧
    (Unlisted (barePath path) → '\n' ∉ barePath path →
      (navigator.navigate session path).2 = .ok (errorPage "404")) := by
  have missed := resolve?_eq_none_of_lone_iff caught.exists_record path
  exact ⟨missed, navigate_eq_error_iff, navigate_of_oneLine⟩

/-- A path with a line feed in its query is one of no page, and ends at the page for errors. -/
theorem navigate_unless_lineFeed_query :
    HasCatchAll routes ∧ Unlisted (barePath "/no/such/page?\n") ∧
      '\n' ∉ barePath "/no/such/page?\n" ∧
      table.resolve? "/no/such/page?\n" ≠ none ∧
      (navigator.navigate {} "/no/such/page?\n").2 = .ok (errorPage "404") := by
  obtain ⟨missed, -, ended⟩ := navigate_unless_lineFeed routes_hasCatchAll {} "/no/such/page?\n"
  have oneLine : '\n' ∉ barePath "/no/such/page?\n" := by decide
  have others : pages.findSome? (·.resolve? (barePath "/no/such/page?\n")) = none := by
    decide +kernel
  have unlisted : Unlisted (barePath "/no/such/page?\n") :=
    (findSome?_eq_none_iff rooted_pages).mp others
  have found : table.resolve? "/no/such/page?\n" ≠ none := fun missing =>
    oneLine (missed.mp missing).1
  exact ⟨routes_hasCatchAll, unlisted, oneLine, found, ended unlisted oneLine⟩

/-- A path with a line feed has no route, though the table has the lone wildcard at its top. -/
theorem resolve?_lineFeed_eq_none :
    table = RouteTable.ofRoutes routes ∧ HasCatchAll routes ∧ table.resolve? "/x\ny" = none ∧
      (navigator.navigate {} "/x\ny").2 = .error (.noMatch "/x\ny") ∧
      (navigator.navigate {} "/x\ny").2 ≠ .ok (errorPage "404") := by
  have missing : table.resolve? "/x\ny" = none := by decide +kernel
  have failed : (navigator.navigate {} "/x\ny").2 = .error (.noMatch "/x\ny") := by decide +kernel
  refine ⟨rfl, routes_hasCatchAll, missing, failed, ?_⟩
  rw [failed]
  nofun

end Application
end GeoMarket.Navigation
