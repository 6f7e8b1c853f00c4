import GeoMarket.Proofs.Navigation.Arrival

/-!
# Navigations that agree

What a navigation does at a target depends on the route of the target and on what the guard says
there. So paths with the same text before query and fragment lead to the same route, and the path of
a route where a navigation has arrived leads back to it without a redirect. Two sessions are led the
same way as long as the guard says the same to both; for that it is enough that both are signed in
or neither is, and that both have the role of each route on the way or neither has it.
-/
namespace GeoMarket.Navigation

/-! ## Paths with the same text before query and fragment -/

/-- What stands before query and fragment has neither of them. -/
theorem barePath_ofList_barePath (path : String) :
    barePath (String.ofList (barePath path)) = barePath path := by
  rw [barePath, String.toList_ofList, barePath, List.takeWhile_takeWhile]
  simp only [and_self, Bool.decide_eq_true]

/-- A text begins a query or a fragment. -/
def BeginsTrailer (suffix : String) : Prop :=
  suffix.toList.head? = some '?' ∨ suffix.toList.head? = some '#'

/-- A query or a fragment leaves alone what stands before it. -/
theorem barePath_append {suffix : String} (trailer : BeginsTrailer suffix) (path : String) :
    barePath (path ++ suffix) = barePath path := by
  have stops : suffix.toList.takeWhile (fun character => character != '?' && character != '#') =
      [] := by
    rcases trailer with query | fragment
    · obtain ⟨rest, written⟩ := List.head?_eq_some_iff.mp query
      simp [written]
    · obtain ⟨rest, written⟩ := List.head?_eq_some_iff.mp fragment
      simp [written]
  rw [barePath, barePath, String.toList_append, List.takeWhile_append, stops, List.append_nil]
  split
  next whole => exact ((List.takeWhile_prefix _).eq_of_length whole).symm
  next => rfl

namespace RouteTable

variable {table : RouteTable}

/-- Paths with the same text before query and fragment have the same route. -/
theorem resolve?_congr {first second : String} (same : barePath first = barePath second) :
    table.resolve? first = table.resolve? second := by
  rw [resolve?, resolve?, same]

/-- A route is that of a record, with the path that was asked for. -/
theorem exists_yields {path : String} {route : ResolvedRoute}
    (found : table.resolve? path = some route) :
    ∃ record ∈ table.records, record.Yields (barePath path) route := by
  obtain ⟨record, listed, resolved⟩ := List.exists_of_findSome?_eq_some found
  exact ⟨record, listed, RouteRecord.yields resolved⟩

/-- The path of a route has that route. -/
theorem resolve?_path {path : String} {route : ResolvedRoute}
    (found : table.resolve? path = some route) : table.resolve? route.path = some route := by
  obtain ⟨record, -, yields⟩ := exists_yields found
  have same : barePath route.path = barePath path := by
    rw [yields.path, barePath_ofList_barePath]
  rw [resolve?_congr same, found]

end RouteTable

namespace Navigator

variable {navigator : Navigator} {session : Session} {target other : String}

/-- A target with the route of another one is left for the same next target. -/
theorem Moves.of_same {next : String} (moved : Moves navigator session target next)
    (same : navigator.table.resolve? other = navigator.table.resolve? target) :
    Moves navigator session other next := by
  cases moved with
  | byRoute found redirects => exact .byRoute (same.trans found) redirects
  | toPath found stays refused => exact .toPath (same.trans found) stays refused
  | toName found stays refused named => exact .toName (same.trans found) stays refused named

/-- A navigation stops at a target with the route of another one where it stops. -/
theorem Stops.of_same {route : ResolvedRoute} (stopped : Stops navigator session target route)
    (same : navigator.table.resolve? other = navigator.table.resolve? target) :
    Stops navigator session other route := by
  obtain ⟨found, stays, admitted⟩ := stopped
  exact ⟨same.trans found, stays, admitted⟩

/-- A navigation arrives at the same route from each target with the same route. -/
theorem navigate_ok_of_same {route : ResolvedRoute}
    (same : navigator.table.resolve? other = navigator.table.resolve? target)
    (reached : (navigator.navigate session target).2 = .ok route) :
    (navigator.navigate session other).2 = .ok route := by
  rw [navigate, follow_ok_iff, within_succ_iff] at reached ⊢
  -- Only the first step looks at the target itself.
  rcases reached with stopped | ⟨next, moved, rest⟩
  · exact .inl (stopped.of_same same)
  · exact .inr ⟨next, moved.of_same same, rest⟩

/-- **Navigation settles.** Where a navigation has arrived, its path leads to the same route again,
without a redirect. A query or a fragment behind a path changes neither the route of the path nor
where a navigation to it arrives. -/
theorem navigate_settles (navigator : Navigator) (session : Session) (path : String) :
    (∀ route, (navigator.navigate session path).2 = .ok route →
      navigator.navigate session route.path = ([], .ok route)) ∧
    ∀ suffix, BeginsTrailer suffix →
      navigator.table.resolve? (path ++ suffix) = navigator.table.resolve? path ∧
      ∀ route, (navigator.navigate session (path ++ suffix)).2 = .ok route ↔
        (navigator.navigate session path).2 = .ok route := by
  constructor
  · intro route reached
    rw [navigate, follow_ok_iff] at reached
    obtain ⟨moves, below, last, chain, stopped⟩ := reached
    obtain ⟨found, stays, admitted⟩ := stopped
    have again : Stops navigator session route.path route :=
      ⟨RouteTable.resolve?_path found, stays, admitted⟩
    obtain ⟨hops, navigated, counted⟩ := again.arrives
    rw [navigated, List.length_eq_zero_iff.mp counted]
  · intro suffix trailer
    have same : navigator.table.resolve? (path ++ suffix) = navigator.table.resolve? path :=
      RouteTable.resolve?_congr (barePath_append trailer path)
    exact ⟨same, fun route => ⟨navigate_ok_of_same same.symm, navigate_ok_of_same same⟩⟩

/-- A thread of messages is asked for in capitals, with a query and a fragment; the route keeps the
path as it was written, and is found again under it. -/
theorem navigate_settles_thread :
    let path := "/Dashboard/messages/A.1/"
    let session : Session := { user := { roles := [.user] } }
    let navigator := Application.navigator
    let thread : ResolvedRoute :=
      { path, pattern := "/dashboard/messages/:id", name := some "MessagesThread"
        params := [("id", "A.1")]
        details := { requiresRole := some .user, layout := some "dashboard" }, redirect := none }
    BeginsTrailer "?tab=1#top" ∧ (navigator.navigate session path).2 = .ok thread ∧
      navigator.navigate session path = ([], .ok thread) ∧
      (navigator.navigate session (path ++ "?tab=1#top")).2 = .ok thread := by
  intro path session navigator thread
  have trailer : BeginsTrailer "?tab=1#top" := .inl (by decide)
  have reached : (navigator.navigate session path).2 = .ok thread := by decide
  obtain ⟨again, behind⟩ := navigate_settles navigator session path
  exact ⟨trailer, reached, again thread reached, ((behind _ trailer).2 thread).mpr reached⟩

end Navigator

/-! ## Sessions with the same authority -/

/-- The guard says the same to two sessions if both are signed in or neither is, and if both have
the role of a visible route or neither has it. -/
theorem Guard.check_congr {guard : Guard} {details : RouteMeta} {first second : Session}
    (standing : first.isAuthenticated = second.isAuthenticated)
    (roles : (details.hideForAuth && first.isAuthenticated) = false →
      ∀ role, details.requiresRole = some role → first.hasRole role = second.hasRole role) :
    guard.check details first = guard.check details second := by
  unfold check
  rw [← standing]
  split
  next hidden => rfl
  next visible =>
    cases reserved : details.requiresRole with
    | none => rfl
    | some role =>
      have same := roles (Bool.eq_false_iff.mpr visible) role reserved
      simp only [same]

namespace Navigator

variable {navigator : Navigator} {first second : Session} {target : String}

/-- The steps of two sessions at a target are the same if the guard says the same to both. -/
theorem step_congr
    (agree : ∀ route, navigator.table.resolve? target = some route → route.redirect = none →
      navigator.guard.check route.details first = navigator.guard.check route.details second) :
    navigator.step first target = navigator.step second target := by
  cases found : navigator.table.resolve? target with
  | none => simp only [step, check, found]
  | some route =>
    cases redirects : route.redirect with
    | some next => simp only [step, check, found, redirects]
    | none => simp only [step, check, found, redirects, agree route found redirects]

/-- Two sessions are led the same way if they take the same step at each target on the way of the
first one. -/
theorem follow_congr {start : String} {fuel : Nat}
    (agree : ∀ moves < fuel, ∀ last, Chain navigator first moves target last →
      navigator.step first last = navigator.step second last) :
    navigator.follow first start fuel target = navigator.follow second start fuel target := by
  induction fuel generalizing target with
  | zero => rfl
  | succ fuel ih =>
    have same := agree 0 (Nat.succ_pos fuel) target (.here target)
    rw [follow, follow, ← same]
    cases stepped : navigator.step first target with
    | arrive route => rfl
    | fail hop error => rfl
    | move hop next =>
      have moved : Moves navigator first target next := moves_iff.mpr ⟨hop, stepped⟩
      have rest := ih fun moves below last chain =>
        agree (moves + 1) (Nat.succ_lt_succ below) last (.onward moved chain)
      dsimp only
      rw [rest]

/-- There is one next target only. -/
theorem Moves.unique {next another : String} (one : Moves navigator first target next)
    (also : Moves navigator first target another) : next = another := by
  obtain ⟨hop, stepped⟩ := moves_iff.mp one
  obtain ⟨twin, again⟩ := moves_iff.mp also
  rw [stepped] at again
  exact (Step.move.inj again).2

/-- A navigation does not move on from where it stops. -/
theorem Stops.not_moves {route : ResolvedRoute} (stopped : Stops navigator first target route)
    (next : String) : ¬Moves navigator first target next := by
  intro moved
  obtain ⟨hop, stepped⟩ := moves_iff.mp moved
  rw [stops_iff.mp stopped] at stepped
  cases stepped

/-- A session lacks the role of the route of a target, and is turned away from it for that: the
route does not redirect, and the guard does not send the session home from it. -/
inductive Barred (navigator : Navigator) (session : Session) (target : String) : Prop
  /-- The role is missing. -/
  | lacking {route : ResolvedRoute} {role : Role}
      (found : navigator.table.resolve? target = some route) (stays : route.redirect = none)
      (visible : (route.details.hideForAuth && session.isAuthenticated) = false)
      (reserved : route.details.requiresRole = some role) (missing : role ∉ session.user.roles)

/-- A session that is turned away for want of a role is sent where the guard sends such sessions. -/
theorem Barred.refused (barred : Barred navigator first target) :
    ∃ route, navigator.table.resolve? target = some route ∧
      navigator.guard.check route.details first = .redirect navigator.guard.unauthorized := by
  obtain ⟨found, stays, visible, reserved, missing⟩ := barred
  have lacks : first.hasRole _ = false :=
    Bool.eq_false_iff.mpr fun granted => missing (Session.hasRole_iff.mp granted)
  exact ⟨_, found, Guard.check_of_missing visible reserved lacks⟩

/-- **Authority.** Of two sessions that are both signed in, or both not, let the second have every
role of the first one. If the first one is turned away for want of a role at no target on its way,
the second one is led the same way, to the same route. If both have the same roles among those that
the routes of the table are reserved for, they are led the same way to every path, whatever else the
sessions hold. -/
theorem navigate_by_authority (navigator : Navigator) (first second : Session)
    (standing : first.isAuthenticated = second.isAuthenticated) :
    (first.user.roles ⊆ second.user.roles →
      ∀ path, (∀ moves ≤ 10, ∀ target, Chain navigator first moves path target →
          ¬Barred navigator first target) →
        navigator.navigate first path = navigator.navigate second path) ∧
    ((∀ record ∈ navigator.table.records, ∀ role, record.details.requiresRole = some role →
        (role ∈ first.user.roles ↔ role ∈ second.user.roles)) →
      ∀ path, navigator.navigate first path = navigator.navigate second path) := by
  constructor
  · intro granted path unbarred
    refine follow_congr fun moves below target chain => step_congr fun route found stays => ?_
    refine Guard.check_congr standing fun visible role reserved => ?_
    have held : role ∈ first.user.roles := by
      by_contra missing
      exact unbarred moves (Nat.lt_succ_iff.mp below) target chain
        (.lacking found stays visible reserved missing)
    rw [Session.hasRole_iff.mpr held, Session.hasRole_iff.mpr (granted held)]
  · intro shared path
    refine follow_congr fun moves below target chain => step_congr fun route found stays => ?_
    refine Guard.check_congr standing fun visible role reserved => ?_
    obtain ⟨record, listed, yields⟩ := RouteTable.exists_yields found
    rw [yields.details] at reserved
    have same := shared record listed role reserved
    rw [Bool.eq_iff_iff, Session.hasRole_iff, Session.hasRole_iff, same]

/-- A user who is also an administrator is led from the page for signing in to the dashboard, as a
user without that role is who has signed in another way. -/
theorem navigate_by_authority_signIn :
    let user : Session := { user := { authToken := some "jwt", roles := [.user] } }
    let administrator : Session :=
      { user := { username := some "ada", roles := [.admin, .user], profile := some {} } }
    let navigator := Application.navigator
    user.isAuthenticated = administrator.isAuthenticated ∧
    user.user.roles ⊆ administrator.user.roles ∧
    (∀ moves ≤ 10, ∀ target, Chain navigator user moves "/signin" target →
      ¬Barred navigator user target) ∧
    (navigator.navigate user "/signin").2 = .ok Application.dashboardHome ∧
    (navigator.navigate administrator "/signin").2 = .ok Application.dashboardHome := by
  intro user administrator navigator
  have standing : user.isAuthenticated = administrator.isAuthenticated := by decide
  have granted : user.user.roles ⊆ administrator.user.roles := by decide
  have asked : Accepts "/signin" (barePath "/signin") := (captures?_isSome_iff (.inr rfl)).mp rfl
  have redundant : Application.Redundant user (barePath "/signin") := ⟨asked, by decide⟩
  have moved : Moves navigator user "/signin" "/dashboard" := Application.moves_of_redundant redundant
  have entered : Stops navigator user "/dashboard" Application.dashboardHome :=
    .enter Application.resolve?_dashboard rfl (by decide)
  have unbarred : ∀ moves ≤ 10, ∀ target, Chain navigator user moves "/signin" target →
      ¬Barred navigator user target := by
    intro moves _ target chain barred
    obtain ⟨route, found, refused⟩ := barred.refused
    rcases chain with _ | ⟨first, _ | ⟨second, _⟩⟩
    · obtain ⟨own, judged⟩ := Application.judged_of_redundant redundant
      obtain rfl : own = route := Option.some.inj (judged.found.symm.trans found)
      rw [judged.decided] at refused
      cases refused
    · obtain rfl := moved.unique first
      obtain ⟨home, -, admitted⟩ := entered
      obtain rfl : Application.dashboardHome = route := Option.some.inj (home.symm.trans found)
      rw [admitted] at refused
      cases refused
    · obtain rfl := moved.unique first
      exact entered.not_moves _ second
  have same := (navigate_by_authority navigator user administrator standing).1 granted "/signin"
    unbarred
  obtain ⟨hops, navigated, -⟩ := moved.arrives entered
  have reached : (navigator.navigate user "/signin").2 = .ok Application.dashboardHome :=
    congrArg Prod.snd navigated
  exact ⟨standing, granted, unbarred, reached, same ▸ reached⟩

end Navigator
end GeoMarket.Navigation
