import GeoMarket.Proofs.Client.Course
import GeoMarket.Proofs.Navigation.Admission

/-!
# Access to reserved and hidden routes

Roles enter a session only with an account, and leave it when the user is replaced or forgotten. So
whatever a program has done with its client, and whatever the server has answered, the user of the
session holds exactly the roles of the last account, and a navigation never ends at a route that is
reserved for another role.
-/
namespace GeoMarket.MarketplaceClient

open Navigation

variable {σ : Type}

/-- **Access over whole runs.** When a navigation behind a run ends at a route that is reserved for
a role, then the run has put an account with that role into the session and has neither replaced
nor forgotten the user since. When it ends at a route that is hidden from signed-in users, then
there is neither a profile nor a bearer token that is not empty. -/
theorem navigate_behind_run (client : MarketplaceClient σ) (actions : List Action) (wire : σ)
    (navigator : Navigator) (path : String) (route : ResolvedRoute)
    (reached : (navigator.navigate (client.run actions wire).session path).2 = .ok route) :
    (∀ role, route.details.requiresRole = some role →
      ∃ before account after,
        (client.run actions wire).committed = before ++ .setUserData account :: after ∧
        (∀ later ∈ after, later ≠ .logout ∧ later ≠ .reset ∧
          ∀ another, later ≠ .setUserData another) ∧
        role ∈ account.roles) ∧
    (route.details.hideForAuth = true →
      (client.run actions wire).session.user.profile = none ∧
      ∀ token, (client.run actions wire).session.user.authToken = some token → token = "") := by
  have admitted := Navigator.admitted_of_navigate reached
  obtain ⟨visible, granted⟩ := Guard.check_eq_proceed_iff.mp admitted
  constructor
  · intro role reserved
    have holds : role ∈ (Session.run (client.run actions wire).committed).user.roles := by
      rw [← client.session_run]
      exact granted role reserved
    exact Session.granted_of_mem_roles holds
  · intro hidden
    exact Session.isAuthenticated_eq_false_iff.mp (visible hidden)

/-- The account of an administrator. -/
def administrator : Account where
  email := "admin@geomarket.example"
  locale := Account.defaultLocale
  activatedAt := none
  activationStatus := none
  emailVerified := true
  emailVerifiedAt := none
  idpName := none
  idpUserAlias := none
  idpUserImage := none
  registeredAt := none
  profile := {}
  username := "admin"
  roles := [.user, .admin]

/-- An administrator who has signed out and in again opens the page for administrators. -/
theorem navigate_behind_run_administrator :
    let client : MarketplaceClient (List Http.ScriptEntry) :=
      { config := {}, gateway := gatewayFor {} Http.scripted }
    let actions : List Action :=
      [.change (.setUserData administrator), .signOut, .change .logout,
        .change (.setUserData administrator), .navigate "/signin", .refreshCart]
    ∃ before account after,
      (client.run actions []).committed = before ++ .setUserData account :: after ∧
      (∀ later ∈ after, later ≠ .logout ∧ later ≠ .reset ∧
        ∀ another, later ≠ .setUserData another) ∧
      Role.admin ∈ account.roles :=
  (navigate_behind_run { config := {}, gateway := gatewayFor {} Http.scripted }
    [.change (.setUserData administrator), .signOut, .change .logout,
      .change (.setUserData administrator), .navigate "/signin", .refreshCart] []
    Application.navigator "/admin"
    { path := "/admin", pattern := "/admin", name := some "Admin", params := [],
      details := { requiresRole := some .admin }, redirect := none }
    (by decide)).1 .admin rfl

end GeoMarket.MarketplaceClient
