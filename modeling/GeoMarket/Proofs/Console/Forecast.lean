import GeoMarket.Console.Command
import GeoMarket.Proofs.Client.Flow
import GeoMarket.Proofs.Navigation.Arrival

/-!
# Forecasts of navigation

The command about a path asks the guard once. If the guard lets the session proceed, the command
navigates and names the path where it arrives; if not, it names the path to which the guard sends
the session. A session that lacks the role of the dashboard is sent on from there, and the command
then names a path where the navigation does not end.
-/
namespace GeoMarket

variable {σ : Type}

namespace Navigation

/-! ## What a check finds -/

/-- A navigation fails at once with the error of its first check. -/
theorem Navigator.navigate_of_check_error {navigator : Navigator} {session : Session}
    {path : String} {error : NavigationError}
    (checked : navigator.check session path = .error error) :
    (navigator.navigate session path).2 = .error error := by
  have failed : navigator.step session path = .fail none error := by rw [step, checked]
  rw [navigate, greatestHops, follow, failed]

namespace Application

variable {session : Session} {path : String}

/-- A check finds the decision of the guard. -/
theorem Judged.check {route : ResolvedRoute} {decision : Decision}
    (judged : Judged session path route decision) :
    navigator.check session path = .ok (route, decision) := by
  rw [Navigator.check, judged.found, ← judged.decided]

/-- The guard lets every session proceed at the path of no page. -/
theorem check_of_unlisted (unlisted : Unlisted (barePath path)) {route : ResolvedRoute}
    {decision : Decision} (checked : navigator.check session path = .ok (route, decision)) :
    decision = .proceed := by
  have left : navigator.table.resolve? path = catchAll.resolve? (barePath path) :=
    resolve?_of_unlisted unlisted
  rw [Navigator.check, left] at checked
  cases found : catchAll.resolve? (barePath path) with
  | none =>
    rw [found] at checked
    contradiction
  | some reached =>
    have plain : reached.details = {} := (RouteRecord.yields found).details
    rw [found] at checked
    cases checked
    rw [plain]
    rfl

/-- The guard redirects for two reasons only: there is no need to sign in, or a role is missing. -/
theorem redirect_cases {route : ResolvedRoute} {location : Location}
    (checked : navigator.check session path = .ok (route, .redirect location)) :
    (Redundant session (barePath path) ∧ location = .named "DashboardHome") ∨
      (TurnedAway session (barePath path) ∧ location = .path "/error/401") := by
  by_cases redundant : Redundant session (barePath path)
  · obtain ⟨own, judged⟩ := judged_of_redundant redundant
    rw [judged.check] at checked
    cases checked
    exact .inl ⟨redundant, rfl⟩
  by_cases lacking : TurnedAway session (barePath path)
  · obtain ⟨own, judged⟩ := judged_of_turnedAway lacking
    rw [judged.check] at checked
    cases checked
    exact .inr ⟨lacking, rfl⟩
  by_cases unlisted : Unlisted (barePath path)
  · have proceeds := check_of_unlisted unlisted checked
    contradiction
  · obtain ⟨own, -, judged⟩ := judged_of_admitted unlisted redundant lacking
    rw [judged.check] at checked
    cases checked

end Application
end Navigation

open Navigation Application

/-- The value of a navigation is its outcome in the session. -/
theorem MarketplaceClient.value_navigate (client : MarketplaceClient σ) (path : String)
    (world : World σ) :
    (client.navigate path).value world = (client.navigator.navigate world.session path).2 := rfl

namespace Console.Command

variable {client : MarketplaceClient σ} {path : String} {world : World σ} {session : Session}

/-! ## What a forecast says -/

/-- A forecast fails with the error of the check. -/
theorem forecast_of_error {error : NavigationError}
    (checked : client.navigator.check world.session path = .error error) :
    (forecast client path).value world = .error error := by
  rw [forecast, Flow.value_bind, Flow.value_session, checked]
  rfl

/-- A session that may proceed arrives where its navigation ends. -/
theorem forecast_of_proceed {route : ResolvedRoute}
    (checked : client.navigator.check world.session path = .ok (route, .proceed)) :
    (forecast client path).value world =
      ((client.navigate path).value world).map (.arrival path) := by
  rw [forecast, Flow.value_bind, Flow.value_session, checked]
  rfl

/-- A session that may not proceed is told where the guard sends it. -/
theorem forecast_of_redirect {route : ResolvedRoute} {location : Location}
    (checked : client.navigator.check world.session path = .ok (route, .redirect location)) :
    (forecast client path).value world =
      (client.navigator.locationPath location).map (.redirect route) := by
  rw [forecast, Flow.value_bind, Flow.value_session, checked]
  rfl

/-- The command reports on the forecast. -/
theorem value_performRoute :
    (performRoute client path).value world =
      match (forecast client path).value world with
      | .error error => Report.ofError (.navigation error)
      | .ok found => { printed := lines [found.text] } := by
  rw [performRoute, Flow.value_bind]
  cases (forecast client path).value world <;> rfl

/-- A user who is signed in without the role of users opens the page for signing in. -/
def Bounced (session : Session) (bare : List Char) : Prop :=
  Redundant session bare ∧ session.hasRole .user = false

/-- A forecast against the route where the navigation to its path ends. -/
structure Foretells (session : Session) (bare : List Char) (found : Forecast)
    (route : ResolvedRoute) : Prop where
  /-- The forecast names the path where the navigation ends. -/
  faithful : ¬ Bounced session bare → found.target = route.path
  /-- Who is sent on from the dashboard is told about the dashboard only. -/
  astray : Bounced session bare → found.target = "/dashboard" ∧ route.path = "/error/401"

/-- Where the guard lets the session proceed, the forecast is the end of the navigation itself. -/
theorem foretells_of_proceed {resolved : ResolvedRoute}
    (checked : navigator.check session path = .ok (resolved, .proceed)) (route : ResolvedRoute) :
    Foretells session (barePath path) (.arrival path route) route := by
  refine ⟨fun _ => rfl, ?_⟩
  rintro ⟨redundant, -⟩
  obtain ⟨own, judged⟩ := judged_of_redundant redundant
  rw [judged.check] at checked
  cases checked

/-- From the page for signing in the guard sends a session to the dashboard, which is where the
navigation ends if the session has the role of users. -/
theorem foretells_of_redundant (redundant : Redundant session (barePath path))
    (resolved : ResolvedRoute) :
    ∃ route, (navigator.navigate session path).2 = .ok route ∧
      Foretells session (barePath path) (.redirect resolved "/dashboard") route := by
  cases granted : session.hasRole .user with
  | true =>
    obtain ⟨hops, arrived, -⟩ := arrives_of_redundant redundant granted
    have steady : ¬ Bounced session (barePath path) := fun bounced =>
      Bool.eq_false_iff.mp bounced.2 granted
    rw [arrived]
    exact ⟨dashboardHome, rfl, fun _ => rfl, fun bounced => absurd bounced steady⟩
  | false =>
    obtain ⟨hops, arrived, -⟩ := arrives_of_redundant_of_missing redundant granted
    have bounced : Bounced session (barePath path) := ⟨redundant, granted⟩
    rw [arrived]
    exact ⟨errorPage "401", rfl, fun steady => absurd bounced steady, fun _ => ⟨rfl, rfl⟩⟩

/-- Who is turned away is sent where the navigation ends. -/
theorem foretells_of_turnedAway (lacking : TurnedAway session (barePath path))
    (resolved : ResolvedRoute) :
    ∃ route, (navigator.navigate session path).2 = .ok route ∧
      Foretells session (barePath path) (.redirect resolved "/error/401") route := by
  obtain ⟨hops, arrived, -⟩ := arrives_of_turnedAway lacking
  have steady : ¬ Bounced session (barePath path) := fun bounced =>
    not_turnedAway_of_redundant bounced.1 lacking
  rw [arrived]
  exact ⟨errorPage "401", rfl, fun _ => rfl, fun bounced => absurd bounced steady⟩

/-- Where the guard sends a session has a path, and so has the end of the navigation. -/
theorem foretells_of_redirect {resolved : ResolvedRoute} {location : Location}
    (checked : navigator.check session path = .ok (resolved, .redirect location)) :
    ∃ target route, navigator.locationPath location = .ok target ∧
      (navigator.navigate session path).2 = .ok route ∧
      Foretells session (barePath path) (.redirect resolved target) route := by
  rcases redirect_cases checked with ⟨redundant, rfl⟩ | ⟨lacking, rfl⟩
  · have home : navigator.locationPath (.named "DashboardHome") = .ok "/dashboard" := by decide
    obtain ⟨route, ended, foretold⟩ := foretells_of_redundant redundant resolved
    exact ⟨"/dashboard", route, home, ended, foretold⟩
  · obtain ⟨route, ended, foretold⟩ := foretells_of_turnedAway lacking resolved
    exact ⟨"/error/401", route, rfl, ended, foretold⟩

/-- **Forecasts.** The command about a path fails exactly when the navigation to the path fails, and
with the same error. Otherwise it prints the path where the navigation ends, unless the navigation
goes by way of the dashboard to the page for errors: then it prints the path of the dashboard. -/
theorem performRoute_foretells (config : ClientConfig) (gateway : Gateway σ) (path : String)
    (world : World σ) :
    let client : MarketplaceClient σ := { config, gateway }
    (∃ error, (client.navigate path).value world = .error error ∧
      (performRoute client path).value world = Report.ofError (.navigation error)) ∨
    ∃ found route, (performRoute client path).value world = { printed := lines [found.text] } ∧
      (forecast client path).value world = .ok found ∧
      (client.navigate path).value world = .ok route ∧
      Foretells world.session (barePath path) found route := by
  intro client
  rw [value_performRoute]
  -- The forecast branches on the check with which the navigation begins as well.
  cases checked : navigator.check world.session path with
  | error error =>
    have foreseen : (forecast client path).value world = .error error := forecast_of_error checked
    have failed : (client.navigate path).value world = .error error :=
      Navigator.navigate_of_check_error checked
    rw [foreseen]
    exact .inl ⟨error, failed, rfl⟩
  | ok outcome =>
    obtain ⟨resolved, decision⟩ := outcome
    cases decision with
    | proceed =>
      have foreseen : (forecast client path).value world =
          ((client.navigate path).value world).map (.arrival path) := forecast_of_proceed checked
      rw [foreseen]
      cases (client.navigate path).value world with
      | error error => exact .inl ⟨error, rfl, rfl⟩
      | ok route =>
        have foretold := foretells_of_proceed checked route
        exact .inr ⟨.arrival path route, route, rfl, rfl, rfl, foretold⟩
    | redirect location =>
      obtain ⟨target, route, located, ended, foretold⟩ := foretells_of_redirect checked
      have foreseen : (forecast client path).value world =
          (navigator.locationPath location).map (.redirect resolved) := forecast_of_redirect checked
      have followed : (client.navigate path).value world =
          (navigator.navigate world.session path).2 := client.value_navigate path world
      rw [foreseen, located, followed, ended]
      exact .inr ⟨.redirect resolved target, route, rfl, rfl, rfl, foretold⟩

/-- A session with a token but no role is told about the dashboard and ends at the page for
errors. -/
theorem performRoute_astray :
    let client : MarketplaceClient (List Http.ScriptEntry) :=
      { config := {}, gateway := MarketplaceClient.gatewayFor {} Http.scripted }
    let world : World (List Http.ScriptEntry) :=
      { session := { user := { authToken := some "jwt" } }, wire := [] }
    ((performRoute client "/signin").value world).failure = none ∧
      ((performRoute client "/signin").value world).printed =
        "/signin (Login) redirected by guard to /dashboard\n" ∧
      (client.navigate "/signin").value world = .ok (errorPage "401") ∧
      (errorPage "401").path = "/error/401" := by
  decide +kernel

end Console.Command
end GeoMarket
