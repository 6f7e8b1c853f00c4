import GeoMarket.Proofs.Navigation.Admission
import GeoMarket.Proofs.Navigation.Language

/-!
# Arrivals in the application

Every page of the application begins with letters of its own, so the first piece of a path, its
entrance, tells what the guard asks of a session: the dashboard and the page of the administrators
are reserved for a role, the page for signing in is hidden from users who are signed in, and all
other pages are open. The guard sends a session to the dashboard or to the page for errors and
nowhere else. So every navigation in the application arrives after at most two redirects.
-/
namespace GeoMarket.Navigation

open Text

/-! ## Entrances -/

/-- The first piece of a path, up to the case of its letters. -/
def entrance (path : List Char) : List Char :=
  ((path.drop 1).takeWhile Pattern.isPlain).map foldCase

/-- An ASCII letter is small, or no letter at all. -/
def isSmall (letter : Char) : Bool := letter.toNat < 65 || (90 < letter.toNat && letter.toNat < 128)

/-- Small letters fold to themselves. -/
theorem foldCase_of_isSmall {letter : Char} (small : isSmall letter = true) :
    foldCase letter = letter := by
  have capital : ∀ run ∈ foldingRuns, 65 ≤ run.first ∧ (run.last ≤ 90 ∨ 128 ≤ run.first) := by
    decide +kernel
  -- The capitals of ASCII are a run of their own, and all other runs begin behind ASCII.
  have outside : foldingRuns.find? (·.covers letter.toNat) = none := by
    rw [List.find?_eq_none]
    intro run listed covered
    have bounds := capital run listed
    simp only [isSmall, FoldingRun.covers, Bool.or_eq_true, Bool.and_eq_true,
      decide_eq_true_eq] at small covered
    omega
  rw [foldCase, outside]

/-- The entrance that all paths of a pattern share: its first segment, if that is a literal of
small letters. -/
def Pattern.entrance? : Pattern → Option (List Char)
  | .path [] => some []
  | .path (.literal letters :: _) => if letters.all isSmall then some letters else none
  | _ => none

/-- A text folds to the small letters that it consists of up to their case. -/
theorem map_foldCase_eq {letters piece : List Char} (small : letters.all isSmall = true)
    (same : List.Forall₂ (fun letter character => foldCase letter = foldCase character)
      letters piece) :
    piece.map foldCase = letters := by
  induction same with
  | nil => rfl
  | cons head _ ih =>
    rw [List.all_cons, Bool.and_eq_true] at small
    rw [List.map_cons, ← head, foldCase_of_isSmall small.1, ih small.2]

/-- A path has the entrance of a pattern that accepts it. -/
theorem entrance_of_accepts {text : String} {first path : List Char}
    (fixed : (Pattern.ofText text).entrance? = some first) (accepted : Accepts text path) :
    entrance path = first := by
  cases accepted with
  | anything oneLine => cases fixed
  | @split _ segments _ _ declared splits =>
    rw [ofText_of_declares declared] at fixed
    cases segments with
    | nil =>
      obtain ⟨-, rfl | rfl⟩ := splits_nil_iff.mp splits
      · exact Option.some.inj fixed
      · exact Option.some.inj fixed
    | cons segment others =>
      obtain ⟨piece, pieces, rest, -, rfl, fit, remaining⟩ := splits_cons_iff.mp splits
      have free : segment ≠ ['*'] → '/' ∉ piece :=
        fit.slashFree (declared.slashFree segment List.mem_cons_self)
      cases fit with
      | parameter inhabited slashFree => cases fixed
      | wildcard oneLine => cases fixed
      | literal named single same =>
        rw [List.map_cons, ofPiece_literal named single] at fixed
        obtain ⟨small, shared⟩ := Option.ite_none_right_eq_some.mp fixed
        obtain rfl := Option.some.inj shared
        change ((piece ++ rest).takeWhile Pattern.isPlain).map foldCase = segment
        rw [(span_piece (free single) remaining.head?).1]
        exact map_foldCase_eq small same

/-! ## Routes of a path -/

/-- A list of records finds no route for a path that no pattern accepts. -/
theorem findSome?_eq_none_iff {records : List RouteRecord}
    (rooted : ∀ record ∈ records, Rooted record.pattern) {bare : List Char} :
    records.findSome? (·.resolve? bare) = none ↔
      ∀ record ∈ records, ¬ Accepts record.pattern bare := by
  rw [List.findSome?_eq_none_iff]
  exact forall₂_congr fun record inside =>
    RouteRecord.resolve?_eq_none_iff (rooted record inside)

/-- What the first record of a list that accepts a path makes of it. -/
def FirstAccepting (records : List RouteRecord) (bare : List Char) (route : ResolvedRoute) : Prop :=
  ∃ before record after, records = before ++ record :: after ∧
    (∀ earlier ∈ before, ¬ Accepts earlier.pattern bare) ∧
    Accepts record.pattern bare ∧ record.Yields bare route

/-- A list of records finds the route of the first record that accepts the path. -/
theorem firstAccepting_of_findSome? {records : List RouteRecord}
    (rooted : ∀ record ∈ records, Rooted record.pattern) {bare : List Char} {route : ResolvedRoute}
    (found : records.findSome? (·.resolve? bare) = some route) :
    FirstAccepting records bare route := by
  obtain ⟨before, record, after, listed, resolved, missed⟩ := List.findSome?_eq_some_iff.mp found
  refine ⟨before, record, after, listed, fun earlier inside => ?_, ?_, record.yields resolved⟩
  · have member : earlier ∈ records := listed ▸ List.mem_append_left _ inside
    exact (RouteRecord.resolve?_eq_none_iff (rooted earlier member)).mp (missed earlier inside)
  · have member : record ∈ records := by simp [listed]
    by_contra refused
    rw [(RouteRecord.resolve?_eq_none_iff (rooted record member)).mpr refused] at resolved
    contradiction

/-! ## Chains of moves -/

namespace Navigator

variable {navigator : Navigator} {session : Session}

/-- The steps follow a chain of moves to the route where the chain stops, one redirect for each
move. -/
theorem follow_of_chain {start target last : String} {route : ResolvedRoute} {moves fuel : Nat}
    (chain : Chain navigator session moves target last)
    (stopped : Stops navigator session last route) (enough : moves < fuel) :
    ∃ hops, navigator.follow session start fuel target = (hops, .ok route) ∧
      hops.length = moves := by
  induction chain generalizing fuel with
  | here target =>
    obtain ⟨fuel, rfl⟩ := Nat.exists_eq_add_of_lt enough
    refine ⟨[], ?_, rfl⟩
    rw [follow, step_of_stops stopped]
  | onward first rest ih =>
    obtain ⟨fuel, rfl⟩ := Nat.exists_eq_succ_of_ne_zero (Nat.ne_zero_of_lt enough)
    obtain ⟨hops, followed, counted⟩ := ih stopped (Nat.lt_of_succ_lt_succ enough)
    obtain ⟨hop, moved⟩ := step_of_moves first
    refine ⟨hop :: hops, ?_, congrArg Nat.succ counted⟩
    rw [follow, moved]
    dsimp only
    rw [followed]

/-- A navigation arrives at a route after a number of redirects. -/
def Arrives (navigator : Navigator) (session : Session) (path : String) (redirects : Nat)
    (route : ResolvedRoute) : Prop :=
  ∃ hops, navigator.navigate session path = (hops, .ok route) ∧ hops.length = redirects

/-- A navigation arrives at once where it stops. -/
theorem Stops.arrives {path : String} {route : ResolvedRoute}
    (stopped : Stops navigator session path route) : navigator.Arrives session path 0 route :=
  follow_of_chain (.here path) stopped (Nat.succ_pos _)

/-- A navigation arrives with one redirect where it stops after a move. -/
theorem Moves.arrives {path next : String} {route : ResolvedRoute}
    (moved : Moves navigator session path next) (stopped : Stops navigator session next route) :
    navigator.Arrives session path 1 route :=
  follow_of_chain (.onward moved (.here next)) stopped (by decide)

end Navigator

namespace Application

/-! ## The table of the application -/

/-- The pages of the application: all of its routes but the last. -/
def pages : List RouteRecord := table.records.dropLast

/-- The last route of the application, which stands for the paths of no page. -/
def catchAll : RouteRecord where
  pattern := "*"
  name := none
  details := {}
  redirect := some "/error/404"

/-- The page for signing in. -/
def signInPage : RouteRecord where
  pattern := "/signin"
  name := some "Login"
  details := { hideForAuth := true }
  redirect := none

/-- The page of the administrators. -/
def adminPage : RouteRecord where
  pattern := "/admin"
  name := some "Admin"
  details := { requiresRole := some .admin }
  redirect := none

/-- The pages of the dashboard. -/
def dashboardPages : List RouteRecord := dashboard.records ""

/-- The page that shows an error. -/
def errorPage (code : String) : ResolvedRoute where
  path := "/error/" ++ code
  pattern := "/error/:error"
  name := some "Error"
  params := [("error", code)]
  details := {}
  redirect := none

/-- The first page of the dashboard. -/
def dashboardHome : ResolvedRoute where
  path := "/dashboard"
  pattern := "/dashboard"
  name := some "DashboardHome"
  params := []
  details := { requiresRole := some .user, layout := some "dashboard" }
  redirect := none

/-- The table of the application is that of its pages with the last route behind them. -/
theorem records_table : table.records = pages ++ [catchAll] := by decide

/-- Every pattern of a page is rooted. -/
theorem rooted_pages : ∀ page ∈ pages, Rooted page.pattern := fun page listed =>
  rooted page (records_table ▸ List.mem_append_left _ listed)

/-- The entrance of the page for signing in. -/
def signInEntrance : List Char := "signin".toList

/-- The entrance of the dashboard. -/
def dashboardEntrance : List Char := "dashboard".toList

/-- The entrance of the page of the administrators. -/
def adminEntrance : List Char := "admin".toList

/-- The role that the pages behind an entrance are reserved for. -/
def roleBehind (first : List Char) : Option Role :=
  if first = dashboardEntrance then some .user
  else if first = adminEntrance then some .admin
  else none

/-- What the guard asks at a page depends on the entrance of the page alone. -/
theorem details_pages : ∀ page ∈ pages,
    ((Pattern.ofText page.pattern).entrance?.map fun first =>
      (first == signInEntrance, roleBehind first)) =
        some (page.details.hideForAuth, page.details.requiresRole) := by
  decide +kernel

/-- No page redirects. -/
theorem redirect_pages : ∀ page ∈ pages, page.redirect = none := by decide

/-- The page for signing in has its entrance to itself. -/
theorem signIn_exact : ∀ page ∈ pages,
    (Pattern.ofText page.pattern).entrance? = some signInEntrance ↔ page ∈ [signInPage] := by
  decide +kernel

/-- The page of the administrators has its entrance to itself. -/
theorem admin_exact : ∀ page ∈ pages,
    (Pattern.ofText page.pattern).entrance? = some adminEntrance ↔ page ∈ [adminPage] := by
  decide +kernel

/-- The pages of the dashboard have their entrance to themselves. -/
theorem dashboard_exact : ∀ page ∈ pages,
    (Pattern.ofText page.pattern).entrance? = some dashboardEntrance ↔ page ∈ dashboardPages := by
  decide +kernel

/-! ## What the guard does at a page -/

/-- No page of the application accepts a path. -/
def Unlisted (bare : List Char) : Prop := ∀ page ∈ pages, ¬ Accepts page.pattern bare

/-- A page of a group accepts a listed path exactly when the path has the entrance of the group. -/
theorem exists_accepting_iff {first : List Char} {group : List RouteRecord}
    (inside : group ⊆ pages)
    (exact : ∀ page ∈ pages,
      (Pattern.ofText page.pattern).entrance? = some first ↔ page ∈ group)
    {bare : List Char} (listed : ¬ Unlisted bare) :
    (∃ page ∈ group, Accepts page.pattern bare) ↔ entrance bare = first := by
  constructor
  · rintro ⟨page, among, accepted⟩
    have fixed := (exact page (inside among)).mpr among
    exact entrance_of_accepts fixed accepted
  · -- Whichever page accepts the path has its entrance, and only pages of the group have that one.
    intro same
    unfold Unlisted at listed
    push Not at listed
    obtain ⟨page, member, accepted⟩ := listed
    obtain ⟨own, fixed, -⟩ := Option.map_eq_some_iff.mp (details_pages page member)
    have shared : own = first := (entrance_of_accepts fixed accepted).symm.trans same
    rw [shared] at fixed
    exact ⟨page, (exact page member).mp fixed, accepted⟩

/-- The route of a page is asked what its entrance asks, and does not redirect. -/
theorem details_of_firstAccepting {bare : List Char} {route : ResolvedRoute}
    (first : FirstAccepting pages bare route) :
    route.details.hideForAuth = (entrance bare == signInEntrance) ∧
      route.details.requiresRole = roleBehind (entrance bare) ∧ route.redirect = none := by
  obtain ⟨before, page, after, written, -, accepted, yields⟩ := first
  have member : page ∈ pages := by simp [written]
  obtain ⟨own, fixed, asked⟩ := Option.map_eq_some_iff.mp (details_pages page member)
  obtain ⟨hidden, reserved⟩ := Prod.mk.inj asked
  rw [yields.details, yields.redirect, entrance_of_accepts fixed accepted]
  exact ⟨hidden.symm, reserved.symm, redirect_pages page member⟩

/-- The path of a page leads to the first page that accepts it. -/
theorem exists_resolve?_of_listed {path : String} (listed : ¬ Unlisted (barePath path)) :
    ∃ route, table.resolve? path = some route ∧ FirstAccepting pages (barePath path) route := by
  cases found : pages.findSome? (·.resolve? (barePath path)) with
  | none => exact absurd ((findSome?_eq_none_iff rooted_pages).mp found) listed
  | some route =>
    refine ⟨route, ?_, firstAccepting_of_findSome? rooted_pages found⟩
    rw [RouteTable.resolve?, records_table, List.findSome?_append, found]
    rfl

/-- The path of no page is left to the last route. -/
theorem resolve?_of_unlisted {path : String} (unlisted : Unlisted (barePath path)) :
    table.resolve? path = catchAll.resolve? (barePath path) := by
  have missed := (findSome?_eq_none_iff rooted_pages).mpr unlisted
  rw [RouteTable.resolve?, records_table, List.findSome?_append, missed, List.findSome?_singleton]
  rfl

/-- The last route accepts every path on one line. -/
theorem exists_resolve?_of_unlisted {path : String} (unlisted : Unlisted (barePath path))
    (oneLine : '\n' ∉ barePath path) :
    ∃ route, table.resolve? path = some route ∧ route.redirect = some "/error/404" := by
  rw [resolve?_of_unlisted unlisted]
  cases found : catchAll.resolve? (barePath path) with
  | none =>
    have refused := (RouteRecord.resolve?_eq_none_iff (.inl rfl)).mp found
    exact absurd (.anything oneLine) refused
  | some route => exact ⟨route, rfl, (RouteRecord.yields found).redirect⟩

/-! ## What the guard says -/

variable {session : Session} {bare : List Char} {path : String}

/-- A user who is signed in opens the page for signing in. -/
def Redundant (session : Session) (bare : List Char) : Prop :=
  Accepts "/signin" bare ∧ session.isAuthenticated = true

/-- A session opens a page that is reserved for a role without having the role. -/
def TurnedAway (session : Session) (bare : List Char) : Prop :=
  ((∃ page ∈ dashboardPages, Accepts page.pattern bare) ∧ session.hasRole .user = false) ∨
    (Accepts "/admin" bare ∧ session.hasRole .admin = false)

/-- The page for signing in is among the pages. -/
theorem signInPage_subset : [signInPage] ⊆ pages := by decide

/-- The page of the administrators is among the pages. -/
theorem adminPage_subset : [adminPage] ⊆ pages := by decide

/-- The pages of the dashboard are among the pages. -/
theorem dashboardPages_subset : dashboardPages ⊆ pages := by decide

/-- The path of the page for signing in is listed. -/
theorem listed_of_redundant (redundant : Redundant session bare) : ¬ Unlisted bare :=
  fun unlisted => unlisted signInPage (signInPage_subset List.mem_cons_self) redundant.1

/-- The path of a page that is reserved for a role is listed. -/
theorem listed_of_turnedAway (lacking : TurnedAway session bare) : ¬ Unlisted bare := by
  intro unlisted
  rcases lacking with ⟨⟨page, among, accepted⟩, -⟩ | ⟨accepted, -⟩
  · exact unlisted page (dashboardPages_subset among) accepted
  · exact unlisted adminPage (adminPage_subset List.mem_cons_self) accepted

/-- A listed path is that of the page for signing in if it has its entrance. -/
theorem redundant_iff (listed : ¬ Unlisted bare) :
    Redundant session bare ↔ entrance bare = signInEntrance ∧ session.isAuthenticated = true := by
  rw [Redundant, ← exists_accepting_iff signInPage_subset signIn_exact listed]
  simp [signInPage]

/-- A session is turned away from a listed path if the role behind its entrance is missing. -/
theorem turnedAway_iff (listed : ¬ Unlisted bare) :
    TurnedAway session bare ↔
      ∃ role, roleBehind (entrance bare) = some role ∧ session.hasRole role = false := by
  have administrators : Accepts "/admin" bare ↔ entrance bare = adminEntrance := by
    rw [← exists_accepting_iff adminPage_subset admin_exact listed]
    simp [adminPage]
  have apart : dashboardEntrance ≠ adminEntrance := by decide
  rw [TurnedAway, exists_accepting_iff dashboardPages_subset dashboard_exact listed,
    administrators, roleBehind]
  by_cases user : entrance bare = dashboardEntrance
  · simp [user, apart]
  · by_cases admin : entrance bare = adminEntrance
    · simp [admin, apart.symm]
    · simp [user, admin]

/-- No role is missing behind the page for signing in. -/
theorem not_turnedAway_of_redundant (redundant : Redundant session bare) :
    ¬ TurnedAway session bare := by
  have listed := listed_of_redundant redundant
  have own := ((redundant_iff listed).mp redundant).1
  have free : roleBehind signInEntrance = none := by decide
  rw [turnedAway_iff listed, own, free]
  simp

/-- A path leads to a route that does not redirect, and the guard decides about the route. -/
structure Judged (session : Session) (path : String) (route : ResolvedRoute)
    (decision : Decision) : Prop where
  /-- The path leads to the route. -/
  found : navigator.table.resolve? path = some route
  /-- The route does not redirect. -/
  stays : route.redirect = none
  /-- The guard decides so. -/
  decided : navigator.guard.check route.details session = decision

/-- Who is signed in is sent from the page for signing in to the dashboard. -/
theorem judged_of_redundant (redundant : Redundant session (barePath path)) :
    ∃ route, Judged session path route (.redirect (.named "DashboardHome")) := by
  have listed := listed_of_redundant redundant
  obtain ⟨own, signedIn⟩ := (redundant_iff listed).mp redundant
  obtain ⟨route, found, first⟩ := exists_resolve?_of_listed listed
  obtain ⟨hides, -, stays⟩ := details_of_firstAccepting first
  have hidden : route.details.hideForAuth = true := hides.trans (beq_iff_eq.mpr own)
  exact ⟨route, found, stays, Guard.check_of_hidden hidden signedIn⟩

/-- Who is turned away is sent to the page for errors. -/
theorem judged_of_turnedAway (lacking : TurnedAway session (barePath path)) :
    ∃ route, Judged session path route (.redirect (.path "/error/401")) := by
  have listed := listed_of_turnedAway lacking
  obtain ⟨role, behind, missing⟩ := (turnedAway_iff listed).mp lacking
  obtain ⟨route, found, first⟩ := exists_resolve?_of_listed listed
  obtain ⟨hides, reserves, stays⟩ := details_of_firstAccepting first
  have visible : (route.details.hideForAuth && session.isAuthenticated) = false := by
    rw [Bool.eq_false_iff]
    intro away
    rw [Bool.and_eq_true, hides, beq_iff_eq] at away
    exact not_turnedAway_of_redundant ((redundant_iff listed).mpr away) lacking
  have reserved : route.details.requiresRole = some role := reserves.trans behind
  exact ⟨route, found, stays, Guard.check_of_missing visible reserved missing⟩

/-- Everybody else may enter the first page that accepts the path. -/
theorem judged_of_admitted (listed : ¬ Unlisted (barePath path))
    (needed : ¬ Redundant session (barePath path))
    (admitted : ¬ TurnedAway session (barePath path)) :
    ∃ route, FirstAccepting pages (barePath path) route ∧ Judged session path route .proceed := by
  obtain ⟨route, found, first⟩ := exists_resolve?_of_listed listed
  obtain ⟨hides, reserves, stays⟩ := details_of_firstAccepting first
  refine ⟨route, first, found, stays, Guard.check_eq_proceed_iff.mpr ⟨?_, ?_⟩⟩
  · intro hidden
    have own : entrance (barePath path) = signInEntrance := beq_iff_eq.mp (hides.symm.trans hidden)
    rw [redundant_iff listed] at needed
    exact Bool.eq_false_iff.mpr fun signedIn => needed ⟨own, signedIn⟩
  · intro role reserved
    rw [turnedAway_iff listed] at admitted
    by_contra missing
    rw [← Session.hasRole_iff, Bool.not_eq_true] at missing
    exact admitted ⟨role, reserves.symm.trans reserved, missing⟩

/-! ## Where navigations end -/

/-- Every session enters the pages that show the errors of navigation. -/
theorem stops_errorPage : ∀ code ∈ ["401", "404"],
    navigator.Stops session ("/error/" ++ code) (errorPage code) := by
  have found : ∀ code ∈ ["401", "404"],
      table.resolve? ("/error/" ++ code) = some (errorPage code) := by decide +kernel
  exact fun code shown => .enter (found code shown) rfl rfl

/-- The path of the dashboard leads to its first page. -/
theorem resolve?_dashboard : table.resolve? "/dashboard" = some dashboardHome := by decide +kernel

/-- The path of no page leads to the page for errors. -/
theorem arrives_of_unlisted (unlisted : Unlisted (barePath path)) (oneLine : '\n' ∉ barePath path) :
    navigator.Arrives session path 1 (errorPage "404") := by
  obtain ⟨route, found, redirects⟩ := exists_resolve?_of_unlisted unlisted oneLine
  have moved : navigator.Moves session path "/error/404" := .byRoute found redirects
  exact moved.arrives (stops_errorPage "404" (by decide))

/-- Who is turned away is shown the page for errors. -/
theorem arrives_of_turnedAway (lacking : TurnedAway session (barePath path)) :
    navigator.Arrives session path 1 (errorPage "401") := by
  obtain ⟨route, judged⟩ := judged_of_turnedAway lacking
  have moved : navigator.Moves session path "/error/401" :=
    .toPath judged.found judged.stays judged.decided
  exact moved.arrives (stops_errorPage "401" (by decide))

/-- Who is signed in moves on from the page for signing in to the dashboard. -/
theorem moves_of_redundant (redundant : Redundant session (barePath path)) :
    navigator.Moves session path "/dashboard" := by
  obtain ⟨route, judged⟩ := judged_of_redundant redundant
  have named : navigator.table.pathFor? "DashboardHome" = some "/dashboard" := by decide
  exact .toName judged.found judged.stays judged.decided named

/-- From the page for signing in a user with the role of users is brought to the dashboard. -/
theorem arrives_of_redundant (redundant : Redundant session (barePath path))
    (granted : session.hasRole .user = true) : navigator.Arrives session path 1 dashboardHome := by
  have admitted : navigator.guard.check dashboardHome.details session = .proceed := by
    refine Guard.check_eq_proceed_iff.mpr ⟨nofun, ?_⟩
    rintro role ⟨⟩
    exact Session.hasRole_iff.mp granted
  exact (moves_of_redundant redundant).arrives (.enter resolve?_dashboard rfl admitted)

/-- From the page for signing in a user without the role of users is brought to the page for errors
by way of the dashboard. -/
theorem arrives_of_redundant_of_missing (redundant : Redundant session (barePath path))
    (missing : session.hasRole .user = false) :
    navigator.Arrives session path 2 (errorPage "401") := by
  have onward : navigator.Moves session "/dashboard" "/error/401" :=
    .toPath resolve?_dashboard rfl (Guard.check_of_missing rfl rfl missing)
  have chain : navigator.Chain session 2 path "/error/401" :=
    .onward (moves_of_redundant redundant) (.onward onward (.here _))
  exact Navigator.follow_of_chain chain (stops_errorPage "401" (by decide)) (by decide)

/-- Everybody else enters the first page that accepts the path. -/
theorem arrives_of_admitted (listed : ¬ Unlisted (barePath path))
    (needed : ¬ Redundant session (barePath path))
    (admitted : ¬ TurnedAway session (barePath path)) :
    ∃ route, FirstAccepting pages (barePath path) route ∧ navigator.Arrives session path 0 route := by
  obtain ⟨route, first, judged⟩ := judged_of_admitted listed needed admitted
  have stopped : navigator.Stops session path route :=
    .enter judged.found judged.stays judged.decided
  exact ⟨route, first, stopped.arrives⟩

/-- What becomes of a navigation to a path in a session. -/
structure Ends (session : Session) (bare : List Char) (route : ResolvedRoute) : Prop where
  /-- The path of no page leads to the page for errors. -/
  unlisted : Unlisted bare → route = errorPage "404"
  /-- A user who has nothing to do at the page for signing in is shown the dashboard. -/
  welcomed : Redundant session bare → session.hasRole .user = true → route = dashboardHome
  /-- Without the role of users, such a user is sent on from there to the page for errors. -/
  detoured : Redundant session bare → session.hasRole .user = false → route = errorPage "401"
  /-- Who lacks the role of a page is shown the page for errors. -/
  refused : TurnedAway session bare → route = errorPage "401"
  /-- Otherwise the first page that accepts the path is entered. -/
  entered : ¬ Unlisted bare → ¬ Redundant session bare → ¬ TurnedAway session bare →
    FirstAccepting pages bare route

/-- **Arrival.** Every navigation to a path on one line ends after at most two redirects: at the
page for errors if no page accepts the path or a role is missing, at the dashboard if there is no
need to sign in, and otherwise at the first page that accepts the path. -/
theorem navigate_arrives (session : Session) (path : String) (oneLine : '\n' ∉ barePath path) :
    ∃ redirects route, redirects ≤ 2 ∧ navigator.Arrives session path redirects route ∧
      Ends session (barePath path) route := by
  by_cases unlisted : Unlisted (barePath path)
  · have arrived : navigator.Arrives session path 1 (errorPage "404") :=
      arrives_of_unlisted unlisted oneLine
    refine ⟨1, _, by decide, arrived, ⟨fun _ => rfl, ?_, ?_, ?_, ?_⟩⟩
    · exact fun redundant => absurd unlisted (listed_of_redundant redundant)
    · exact fun redundant => absurd unlisted (listed_of_redundant redundant)
    · exact fun lacking => absurd unlisted (listed_of_turnedAway lacking)
    · exact fun listed => absurd unlisted listed
  by_cases redundant : Redundant session (barePath path)
  · have served := not_turnedAway_of_redundant redundant
    cases granted : session.hasRole .user with
    | true =>
      exact ⟨1, _, by decide, arrives_of_redundant redundant granted,
        ⟨(absurd · unlisted), fun _ _ => rfl, by simp [granted], (absurd · served),
          fun _ needed => absurd redundant needed⟩⟩
    | false =>
      exact ⟨2, _, by decide, arrives_of_redundant_of_missing redundant granted,
        ⟨(absurd · unlisted), by simp [granted], fun _ _ => rfl, (absurd · served),
          fun _ needed => absurd redundant needed⟩⟩
  by_cases lacking : TurnedAway session (barePath path)
  · exact ⟨1, _, by decide, arrives_of_turnedAway lacking,
      ⟨(absurd · unlisted), (absurd · redundant), (absurd · redundant), fun _ => rfl,
        fun _ _ admitted => absurd lacking admitted⟩⟩
  · obtain ⟨route, first, arrived⟩ := arrives_of_admitted unlisted redundant lacking
    exact ⟨0, route, by decide, arrived,
      ⟨(absurd · unlisted), (absurd · redundant), (absurd · redundant), (absurd · lacking),
        fun _ _ _ => first⟩⟩

/-- A session with a token but no role is brought from the page for signing in to the page for
errors. -/
theorem navigate_arrives_tokenOnly :
    '\n' ∉ barePath "/SignIn/?next=%2F" ∧
    ∃ redirects ≤ 2, navigator.Arrives { user := { authToken := some "jwt" } } "/SignIn/?next=%2F"
      redirects (errorPage "401") := by
  have oneLine : '\n' ∉ barePath "/SignIn/?next=%2F" := by decide
  have asked : Accepts "/signin" (barePath "/SignIn/?next=%2F") :=
    (captures?_isSome_iff (.inr rfl)).mp (by decide +kernel)
  obtain ⟨redirects, route, few, arrived, ends⟩ :=
    navigate_arrives { user := { authToken := some "jwt" } } "/SignIn/?next=%2F" oneLine
  have shown : route = errorPage "401" := ends.detoured ⟨asked, rfl⟩ rfl
  exact ⟨oneLine, redirects, few, shown ▸ arrived⟩

end Application
end GeoMarket.Navigation
