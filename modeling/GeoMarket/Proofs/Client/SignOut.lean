import GeoMarket.Proofs.Client.Course
import GeoMarket.Proofs.Client.Scripted
import GeoMarket.Proofs.Client.SignIn
import GeoMarket.Proofs.Client.Tokens

/-!
# Signing out

A sign-out that fails leaves the session as it was. Any other forgets the user and the bearer token,
keeps cart and configuration, and takes over the token that comes with the answer. From then on no
request is authorized by a bearer token, until a program sets one.
-/
namespace GeoMarket

open Http Session

variable {σ : Type}

namespace Session

/-- The only mutation that writes a bearer token, and not that there is none, is the one that sets
it. -/
theorem Mutation.eq_setAuthToken {mutation : Mutation} {token : String}
    (wrote : mutation.written? .authToken = some (some token)) :
    mutation = .setAuthToken (some token) := by
  cases mutation with
  | setAuthToken set =>
    cases wrote
    rfl
  | _ => cases wrote

/-- Without a bearer token that is set, none is there but an empty one. -/
theorem authToken_along {session : Session} {course : List Happening}
    (forgotten : session.user.authToken = none)
    (unset : ∀ token, .committed (.setAuthToken (some token)) ∈ course → token = "")
    (token : String) (held : (session.along course).user.authToken = some token) : token = "" := by
  have inForce : Gateway.InForce .authToken session (course.filterMap Happening.mutation?) token :=
    Gateway.inForce_of_eq held
  rcases inForce with ⟨before, mutation, after, split, wrote, _⟩ | ⟨_, untouched⟩
  · have setting : mutation = .setAuthToken (some token) := mutation.eq_setAuthToken wrote
    have among : mutation ∈ course.filterMap Happening.mutation? := by
      rw [split]
      exact List.mem_append_right before (.head after)
    obtain ⟨happening, inside, changes⟩ := List.mem_filterMap.mp among
    cases happening with
    | committed other =>
      cases changes
      exact unset token (setting ▸ inside)
    | sent request => cases changes
    | noted event => cases changes
  · have absent : some token = none := untouched.trans forgotten
    cases absent

end Session

namespace Gateway

/-- The request of a call is not authorized in a session without a bearer token, unless the token
against forged requests is sent under that header. -/
theorem unauthorized_handed (config : ClientConfig) (transport : Transport σ) (session : Session)
    (call : Call) (body : Body)
    (forgotten : ∀ token, session.user.authToken = some token → token = "")
    (elsewhere : Text.sameIgnoringCase (Interceptor.csrfName config.csrfHeader session.user)
      "Authorization" = false) :
    ((MarketplaceClient.gatewayFor config transport).handed session
      (call.request (MarketplaceClient.gatewayFor config transport) body)).header?
        "Authorization" = none := by
  have bearer : Interceptor.bearerValue? session.user "Authorization" = none := by
    unfold Interceptor.bearerValue?
    cases held : session.user.authToken with
    | none => rfl
    | some token => simp [forgotten token held]
  have csrf (method : Method) :
      Interceptor.csrfValue? config.csrfHeader session.user method "Authorization" = none := by
    unfold Interceptor.csrfValue?
    cases session.user.csrfToken with
    | none => rfl
    | some token => simp [elsewhere]
  have own : call.own? "Authorization" = none := by
    cases call with
    | submit path fields =>
      have apart : ¬Text.sameIgnoringCase "Content-Type" "Authorization" = true := by decide
      rw [Call.own?, if_neg apart]
    | _ => rfl
  have headers := Interceptor.header?_standard config.csrfHeader session
    (call.request (MarketplaceClient.gatewayFor config transport) body) "Authorization"
  rw [bearer, csrf, header?_request, own] at headers
  exact headers

end Gateway

namespace MarketplaceClient

variable (client : MarketplaceClient σ)

/-- The session with the user forgotten and the token of an answer taken over. -/
def signedOut (session : Session) (token : Option CsrfToken) : Session :=
  { session.apply .logout with user := (session.apply .logout).user.withToken token }

/-- A sign-out ends as its request does. -/
theorem value_signOut (world : World σ) :
    client.signOut.value world = (Resource.logout client.gateway).value world := by
  simp only [signOut, Flow.value_bind]
  cases (Resource.logout client.gateway).value world with
  | error error => rfl
  | ok response => rfl

/-- A sign-out whose request brings an envelope forgets the user and takes over the token. -/
theorem session_signOut (world : World σ) :
    (client.signOut.behind world).session =
      match (Resource.logout client.gateway).value world with
      | .error _ => world.session
      | .ok response => signedOut world.session response.result := by
  have kept := (Resource.Call.logout.sends client.gateway).session world
  change ((Resource.logout client.gateway).behind world).session = world.session at kept
  simp only [signOut, Flow.behind_bind]
  cases (Resource.logout client.gateway).value world with
  | error error => exact kept
  | ok response => simp [session_commitToken, signedOut, kept]

/-- Of the user a sign-out leaves nothing but the token against forged requests. -/
theorem user_signedOut (session : Session) (token : Option CsrfToken) :
    let user := (signedOut session token).user
    user.authToken = none ∧ user.username = none ∧ user.roles = [] ∧ user.profile = none ∧
      (user.csrfHeader, user.csrfToken) =
        match token with
        | some token => (token.csrfHeader, token.csrfToken)
        | none => (session.user.csrfHeader, session.user.csrfToken) := by
  cases token <;> exact ⟨rfl, rfl, rfl, rfl, rfl⟩

/-- **Signing out ends the session.** A sign-out that fails leaves the session as it was. Any other
leaves no bearer token, no name, no roles and no profile; it takes over the token against forged
requests if the answer brings one, and keeps cart and configuration. And whatever a program does
with its client from then on: up to the moment when a bearer token that is not empty is set, every
request whose moment does not name `Authorization` as the header for the token against forged
requests goes without that header. -/
theorem signOut_ends_session (config : ClientConfig) (transport : Transport σ)
    (navigator : Navigation.Navigator) (world : World σ) :
    let client : MarketplaceClient σ :=
      { config, gateway := gatewayFor config transport, navigator }
    let after := client.signOut.behind world
    (∀ error, client.signOut.value world = .error error → after.session = world.session) ∧
    ∀ response, client.signOut.value world = .ok response →
      after.session.user.authToken = none ∧ after.session.user.username = none ∧
      after.session.user.roles = [] ∧ after.session.user.profile = none ∧
      (after.session.user.csrfHeader, after.session.user.csrfToken) =
        (match response.result with
        | some token => (token.csrfHeader, token.csrfToken)
        | none => (world.session.user.csrfHeader, world.session.user.csrfToken)) ∧
      after.session.shop = world.session.shop ∧ after.session.config = world.session.config ∧
      ∀ actions : List Action, ∃ further,
        ((actions.forM client.perform).behind after).course = after.course ++ further ∧
        ∀ before request rest, further = before ++ .sent request :: rest →
          (∀ token, .committed (.setAuthToken (some token)) ∈ before → token = "") →
          Text.sameIgnoringCase
            (Interceptor.csrfName config.csrfHeader (after.session.along before).user)
            "Authorization" = false →
          request.header? "Authorization" = none := by
  intro client after
  have ended := client.session_signOut world
  rw [← value_signOut] at ended
  constructor
  · intro error failed
    rw [failed] at ended
    exact ended
  · intro response brought
    rw [brought] at ended
    change after.session = signedOut world.session response.result at ended
    obtain ⟨token, name, roles, profile, csrf⟩ := user_signedOut world.session response.result
    rw [← ended] at token name roles profile csrf
    refine ⟨token, name, roles, profile, csrf, by rw [ended]; rfl, by rw [ended]; rfl,
      fun actions => ?_⟩
    obtain ⟨further, course, _, dressed⟩ := client.reached_behind_actions actions after
    refine ⟨further, course, ?_⟩
    -- The request is dressed in the session of its moment, which holds no token since the sign-out.
    rintro before request rest rfl unset elsewhere
    obtain ⟨call, body, _, rfl⟩ := dressed.request
    exact Gateway.unauthorized_handed config transport (after.session.along before) call body
      (authToken_along token unset) elsewhere

/-- A world in which a token opens a session, and in which the server says yes twice. -/
def opened : World (List ScriptEntry) :=
  { session := { user := { authToken := some "secret" } }, wire := [bareSuccess, bareSuccess] }

/-- A user who has signed out asks for the cart without authorization. -/
theorem signOut_ends_session_cart :
    let after := scripted.signOut.behind opened
    ∃ before request rest,
      ((List.forM [Action.call .getCart] scripted.perform).behind after).course =
        after.course ++ (before ++ .sent request :: rest) ∧
      request = scripted.gateway.handed after.session
        { method := .get, url := "http://localhost:8080/action/cart" } ∧
      request.header? "Authorization" = none := by
  have ended : scripted.signOut.value opened = .ok ⟨[], none, true⟩ := by
    decide +kernel
  have law := (signOut_ends_session {} Http.scripted Navigation.Application.navigator opened).2
    ⟨[], none, true⟩ ended
  obtain ⟨_, _, _, _, _, _, _, course⟩ := law
  obtain ⟨further, split, silent⟩ := course [.call .getCart]
  have asked (world : World (List ScriptEntry)) :
      let request := scripted.gateway.handed world.session
        { method := .get, url := scripted.gateway.url Resource.cartPath }
      ∃ rest, ((List.forM [Action.call .getCart] scripted.perform).behind world).course =
        world.course ++
          ([.noted (.sending request.method request.url)] ++ .sent request :: rest) := by
    rw [Flow.behind_forM_cons]
    simp only [perform, Resource.Call.perform, Resource.getCart, Gateway.get, Flow.behind_bind,
      Resource.behind_unwrapped, Gateway.behind_send]
    exact ⟨_, rfl⟩
  obtain ⟨rest, requested⟩ := asked (scripted.signOut.behind opened)
  have same := List.append_cancel_left (split.symm.trans requested)
  refine ⟨_, _, rest, requested, rfl, silent _ _ rest same ?_ ?_⟩
  · intro token among
    simp at among
  · decide +kernel

end MarketplaceClient
end GeoMarket
