import GeoMarket.Proofs.Navigation.Chain

/-!
# Who is let in

The guard lets a session into a route that is hidden from signed-in users only when nobody is
signed in, and into a route that is reserved for a role only when the user has the role. A
navigation ends only at a route into which the guard lets the session, however many redirects there
were before it.
-/
namespace GeoMarket

/-- Nobody is signed in when there is no profile and no bearer token but an empty one. -/
theorem Session.isAuthenticated_eq_false_iff {session : Session} :
    session.isAuthenticated = false ↔
      session.user.profile = none ∧ ∀ token, session.user.authToken = some token → token = "" := by
  rw [isAuthenticated, UserState.isAuthenticated, UserState.bearer?, Bool.or_eq_false_iff, and_comm]
  cases session.user.authToken <;> simp

/-- The user has the roles of the session. -/
theorem Session.hasRole_iff {session : Session} {role : Role} :
    session.hasRole role = true ↔ role ∈ session.user.roles := by
  simp [hasRole, UserState.hasRole]

namespace Navigation

/-- The guard lets a session in when the route is not hidden from it and its role is there. -/
theorem Guard.check_eq_proceed_iff {guard : Guard} {details : RouteMeta} {session : Session} :
    guard.check details session = .proceed ↔
      (details.hideForAuth = true → session.isAuthenticated = false) ∧
        ∀ role, details.requiresRole = some role → role ∈ session.user.roles := by
  unfold Guard.check
  by_cases hidden : (details.hideForAuth && session.isAuthenticated) = true
  · rw [if_pos hidden]
    rw [Bool.and_eq_true] at hidden
    simp [hidden]
  · have visible : details.hideForAuth = true → session.isAuthenticated = false := by
      intro hides
      rw [hides, Bool.true_and, Bool.not_eq_true] at hidden
      exact hidden
    rw [if_neg hidden]
    cases reserved : details.requiresRole with
    | none => simpa using visible
    | some role =>
      by_cases granted : session.hasRole role = true
      · have listed : role ∈ session.user.roles := Session.hasRole_iff.mp granted
        simpa [granted, listed] using visible
      · have missing : role ∉ session.user.roles := fun listed =>
          granted (Session.hasRole_iff.mpr listed)
        simp [granted, missing]

/-- The guard sends a session that is signed in home from a hidden route. -/
theorem Guard.check_of_hidden {guard : Guard} {details : RouteMeta} {session : Session}
    (hidden : details.hideForAuth = true) (signedIn : session.isAuthenticated = true) :
    guard.check details session = .redirect guard.authenticatedHome := by
  have away : (details.hideForAuth && session.isAuthenticated) = true := by
    rw [hidden, signedIn]
    rfl
  rw [check, if_pos away]

/-- The guard turns a session away from a route that is not hidden from it if its role is
missing. -/
theorem Guard.check_of_missing {guard : Guard} {details : RouteMeta} {session : Session}
    {role : Role} (visible : (details.hideForAuth && session.isAuthenticated) = false)
    (reserved : details.requiresRole = some role) (missing : session.hasRole role = false) :
    guard.check details session = .redirect guard.unauthorized := by
  rw [check, visible, reserved]
  simp [missing]

/-- A navigation ends only at a route into which the guard lets the session. -/
theorem Navigator.admitted_of_navigate {navigator : Navigator} {session : Session} {path : String}
    {route : ResolvedRoute} (reached : (navigator.navigate session path).2 = .ok route) :
    navigator.guard.check route.details session = .proceed := by
  rw [navigate, follow_ok_iff] at reached
  obtain ⟨moves, below, last, chain, stopped⟩ := reached
  obtain ⟨found, stays, admitted⟩ := stopped
  exact admitted

end Navigation
end GeoMarket
