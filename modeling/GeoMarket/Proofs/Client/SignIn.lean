import GeoMarket.Client.Marketplace
import GeoMarket.Proofs.Client.Call
import GeoMarket.Proofs.Client.Scripted
import GeoMarket.Proofs.Http.Headers
import Mathlib.Data.List.Basic

/-!
# Signing in

Signing in takes two calls: the login, which may bring a new token, and the user data, which may
bring an account. Each of the two may fail or report failure, and what a sign-in commits follows
from the two answers alone. A login that fails or is refused commits nothing. Behind any other login
the token is kept, and the user is replaced exactly by the account of an envelope of success.
-/
namespace GeoMarket

variable {σ α : Type}

namespace UserState

/-- The user with the token of an answer, if the answer brings one. -/
def withToken (user : UserState) : Option CsrfToken → UserState
  | some token => { user with csrfHeader := token.csrfHeader, csrfToken := token.csrfToken }
  | none => user

/-- The user with the name, the roles and the profile of an account, if there is one. -/
def withAccount (user : UserState) : Option Account → UserState
  | some account =>
    { user with
      username := some account.username
      roles := account.roles
      profile := some account.profile }
  | none => user

/-- A new token leaves the bearer token alone. -/
@[simp] theorem authToken_withToken (user : UserState) (token : Option CsrfToken) :
    (user.withToken token).authToken = user.authToken := by
  cases token <;> rfl

/-- An account leaves the bearer token alone. -/
@[simp] theorem authToken_withAccount (user : UserState) (account : Option Account) :
    (user.withAccount account).authToken = user.authToken := by
  cases account <;> rfl

/-- A user with an account is signed in. -/
theorem isAuthenticated_withAccount (user : UserState) (account : Account) :
    (user.withAccount (some account)).isAuthenticated = true := by
  simp [withAccount, isAuthenticated]

end UserState

namespace MarketplaceClient

variable (client : MarketplaceClient σ)

/-- The request of a login, as it is handed to the transport in a session. -/
def loginRequest (session : Session) (username password : String) : Http.Request :=
  client.gateway.handed session
    { method := .post
      url := client.gateway.url "/login"
      headers := [("Content-Type", Gateway.formType)]
      body := .form [("username", username), ("password", password)] }

/-- The request for the user data, as it is handed to the transport in a session. -/
def userDataRequest (session : Session) : Http.Request :=
  client.gateway.handed session
    { method := .get, url := client.gateway.url "/action/account/user-data" }

/-- What a transport makes of a login. -/
def loginAnswer (request : Http.Request) (wire : σ) : Resource.Answer CsrfToken :=
  (client.gateway.answer (Envelope.codec CsrfToken.codec) request wire).map Reply.data

/-- What a transport makes of a request for the user data. -/
def userDataAnswer (request : Http.Request) (wire : σ) : Resource.Answer Account :=
  (client.gateway.answer (Envelope.codec Account.codec) request wire).map Reply.data

/-- The account that an answer brings, if it is an envelope of success. -/
def account? : Resource.Answer Account → Option Account
  | .ok ⟨_, account, true⟩ => account
  | _ => none

/-- The answer to a login is that of the transport. -/
theorem value_login (world : World σ) (username password : String) :
    (Resource.login client.gateway username password).value world =
      client.loginAnswer (client.loginRequest world.session username password) world.wire := by
  simp [Resource.login, Gateway.submit, loginAnswer, loginRequest]

/-- A login sends its request. -/
theorem behind_login (world : World σ) (username password : String) :
    (Resource.login client.gateway username password).behind world =
      client.gateway.answered (Envelope.codec CsrfToken.codec)
        (client.loginRequest world.session username password) world := by
  simp [Resource.login, Gateway.submit, loginRequest]

/-- The answer to a request for the user data is that of the transport. -/
theorem value_getUserData (world : World σ) :
    (Resource.getUserData client.gateway).value world =
      client.userDataAnswer (client.userDataRequest world.session) world.wire := by
  simp [Resource.getUserData, Gateway.get, userDataAnswer, userDataRequest]

/-- A request for the user data is sent. -/
theorem behind_getUserData (world : World σ) :
    (Resource.getUserData client.gateway).behind world =
      client.gateway.answered (Envelope.codec Account.codec)
        (client.userDataRequest world.session) world := by
  simp [Resource.getUserData, Gateway.get, userDataRequest]

/-- Committing a token puts it into the session. -/
theorem session_commitToken (token : Option CsrfToken) (world : World σ) :
    ((commitToken token).behind world).session =
      { world.session with user := world.session.user.withToken token } := by
  cases token <;> rfl

/-- Committing a token sends nothing. -/
theorem sent_commitToken (token : Option CsrfToken) (world : World σ) :
    ((commitToken token).behind world).sent = world.sent := by
  cases token <;> simp [commitToken]

/-- Committing a token leaves the transport alone. -/
theorem wire_commitToken (token : Option CsrfToken) (world : World σ) :
    ((commitToken token).behind world).wire = world.wire := by
  cases token <;> rfl

/-- Committing the account of an envelope puts it into the session if the envelope is one of
success. -/
theorem session_commitAccount (response : Envelope Account) (world : World σ) :
    ((commitAccount response).behind world).session =
      { world.session with user := world.session.user.withAccount (account? (.ok response)) } := by
  rcases response with ⟨messages, _ | account, _ | _⟩ <;> rfl

/-- Committing an account sends nothing. -/
theorem sent_commitAccount (response : Envelope Account) (world : World σ) :
    ((commitAccount response).behind world).sent = world.sent := by
  rcases response with ⟨messages, _ | account, _ | _⟩ <;>
    simp [commitAccount, List.filterMap_cons]

section Courses

variable {client} {world : World σ} {username password : String}

/-- The session in which a sign-in asks for the user data. -/
def sessionBetween (session : Session) (token : Option CsrfToken) : Session :=
  { session with user := session.user.withToken token }

/-- A login that fails ends a sign-in with its error, and nothing is committed. -/
theorem signIn_of_error {error : Http.ApiError}
    (failed : client.loginAnswer (client.loginRequest world.session username password)
      world.wire = .error error) :
    (client.signIn username password).value world = .error error ∧
      ((client.signIn username password).behind world).sent =
        world.sent ++ [client.loginRequest world.session username password] ∧
      ((client.signIn username password).behind world).session = world.session := by
  simp [signIn, value_login, behind_login, failed]

/-- A login that is refused ends a sign-in with its messages, and nothing is committed. -/
theorem signIn_of_refused {messages : List Message} {token : Option CsrfToken}
    (refused : client.loginAnswer (client.loginRequest world.session username password)
      world.wire = .ok ⟨messages, token, false⟩) :
    (client.signIn username password).value world = .ok (Envelope.failure messages) ∧
      ((client.signIn username password).behind world).sent =
        world.sent ++ [client.loginRequest world.session username password] ∧
      ((client.signIn username password).behind world).session = world.session := by
  simp [signIn, value_login, behind_login, refused]

/-- Behind a login that is accepted a sign-in asks for the user data and ends with the answer; it
commits the token of the login and the account of the answer. -/
theorem signIn_of_accepted {messages : List Message} {token : Option CsrfToken}
    (accepted : client.loginAnswer (client.loginRequest world.session username password)
      world.wire = .ok ⟨messages, token, true⟩) :
    let login := client.loginRequest world.session username password
    let between := sessionBetween world.session token
    let userData := client.userDataRequest between
    let answer := client.userDataAnswer userData (client.gateway.transport login world.wire).2
    (client.signIn username password).value world = answer ∧
      ((client.signIn username password).behind world).sent = world.sent ++ [login, userData] ∧
      ((client.signIn username password).behind world).session =
        { between with user := between.user.withAccount (account? answer) } := by
  intro login between userData answer
  simp only [signIn, Flow.value_bind, Flow.behind_bind, value_login, behind_login, accepted,
    if_true]
  -- Of the first call the second sees the session, the requests sent and the wire, no more.
  generalize kept : (commitToken token).behind (client.gateway.answered _ login world) = asking
  have session : asking.session = between := by
    rw [← kept, session_commitToken]
    rfl
  have sent : asking.sent = world.sent ++ [login] := by
    rw [← kept, sent_commitToken, Gateway.sent_answered]
  have wire : asking.wire = (client.gateway.transport login world.wire).2 := by
    rw [← kept, wire_commitToken]
    rfl
  have brought : (Resource.getUserData client.gateway).value asking = answer := by
    rw [value_getUserData, session, wire]
  simp only [brought, behind_getUserData, session]
  cases answer with
  | error error => simp [session, sent, userData, account?, UserState.withAccount]
  | ok response =>
    simp [session, sent, userData, session_commitAccount, sent_commitAccount]

end Courses

/-- The request of a login posts the form with name and password. -/
theorem loginRequest_keeps (config : ClientConfig) (transport : Http.Transport σ)
    (navigator : Navigation.Navigator) (session : Session) (username password : String) :
    let client : MarketplaceClient σ :=
      { config, gateway := gatewayFor config transport, navigator }
    let request := client.loginRequest session username password
    request.method = .post ∧ request.url = client.gateway.baseUrl ++ "/login" ∧
      request.body = .form [("username", username), ("password", password)] :=
  Http.Interceptor.standard_keeps config.csrfHeader session _

/-- The request for the user data has no body. -/
theorem userDataRequest_keeps (config : ClientConfig) (transport : Http.Transport σ)
    (navigator : Navigation.Navigator) (session : Session) :
    let client : MarketplaceClient σ :=
      { config, gateway := gatewayFor config transport, navigator }
    let request := client.userDataRequest session
    request.method = .get ∧
      request.url = client.gateway.baseUrl ++ "/action/account/user-data" ∧
      request.body = .empty :=
  Http.Interceptor.standard_keeps config.csrfHeader session _

/-- **Commit law of signing in.** A login that fails or is refused is the only request and leaves
the session as it was. Behind any other login the user data is requested and its answer returned as
it came; the session has the token of the login, if there is one, and the name, the roles and the
profile of the account of an envelope of success, if there is one. The bearer token, the cart and
the configuration are never touched. -/
theorem signIn_commits (config : ClientConfig) (transport : Http.Transport σ)
    (navigator : Navigation.Navigator) (world : World σ) (username password : String) :
    let client : MarketplaceClient σ :=
      { config, gateway := gatewayFor config transport, navigator }
    let ending := (client.signIn username password).value world
    let after := (client.signIn username password).behind world
    let login := client.loginRequest world.session username password
    (login.method = .post ∧ login.url = client.gateway.baseUrl ++ "/login" ∧
      login.body = .form [("username", username), ("password", password)]) ∧
    (match client.loginAnswer login world.wire with
    | .error error =>
      ending = .error error ∧ after.sent = world.sent ++ [login] ∧ after.session = world.session
    | .ok ⟨messages, _, false⟩ =>
      ending = .ok ⟨messages, none, false⟩ ∧ after.sent = world.sent ++ [login] ∧
        after.session = world.session
    | .ok ⟨_, token, true⟩ =>
      let between := { world.session with user := world.session.user.withToken token }
      let userData := client.userDataRequest between
      let answer := client.userDataAnswer userData (client.gateway.transport login world.wire).2
      (userData.method = .get ∧
        userData.url = client.gateway.baseUrl ++ "/action/account/user-data" ∧
        userData.body = .empty) ∧
      ending = answer ∧ after.sent = world.sent ++ [login, userData] ∧
        after.session.user = (world.session.user.withToken token).withAccount (account? answer)) ∧
    after.session.user.authToken = world.session.user.authToken ∧
    after.session.shop = world.session.shop ∧ after.session.config = world.session.config := by
  intro client ending after login
  refine ⟨loginRequest_keeps config transport navigator world.session username password, ?_⟩
  cases answered : client.loginAnswer login world.wire with
  | error error =>
    obtain ⟨returned, sent, kept⟩ := signIn_of_error answered
    exact ⟨⟨returned, sent, kept⟩, by rw [kept], by rw [kept], by rw [kept]⟩
  | ok reply =>
    obtain ⟨messages, token, success⟩ := reply
    cases success with
    | false =>
      obtain ⟨returned, sent, kept⟩ := signIn_of_refused answered
      exact ⟨⟨returned, sent, kept⟩, by rw [kept], by rw [kept], by rw [kept]⟩
    | true =>
      obtain ⟨returned, sent, committed⟩ := signIn_of_accepted answered
      have asked := userDataRequest_keeps config transport navigator
        (sessionBetween world.session token)
      refine ⟨⟨asked, returned, sent, congrArg Session.user committed⟩, ?_, ?_, ?_⟩
      · rw [committed, UserState.authToken_withAccount]
        exact world.session.user.authToken_withToken token
      · rw [committed]
        rfl
      · rw [committed]
        rfl

/-- An answer that is an envelope of success came from the transport behind an accepted login. -/
theorem accepted_of_success {world : World σ} {username password : String}
    {response : Envelope Account}
    (returned : (client.signIn username password).value world = .ok response)
    (success : response.success = true) :
    ∃ messages token, client.loginAnswer (client.loginRequest world.session username password)
      world.wire = .ok ⟨messages, token, true⟩ := by
  cases answered : client.loginAnswer (client.loginRequest world.session username password)
      world.wire with
  | error error =>
    rw [(signIn_of_error answered).1] at returned
    cases returned
  | ok reply =>
    obtain ⟨messages, token, accepted⟩ := reply
    cases accepted with
    | true => exact ⟨messages, token, rfl⟩
    | false =>
      rw [(signIn_of_refused answered).1] at returned
      cases returned
      cases success

/-- **A successful sign-in with an account means a signed-in session.** A sign-in that ends with an
envelope of success has had its login accepted, and passes on the answer to its request for the user
data as the server sent it. When there is an account in the envelope, the session is that of the
account; when there is none, the name, the roles and the profile are what they were. -/
theorem signIn_success (world : World σ) (username password : String)
    (response : Envelope Account)
    (returned : (client.signIn username password).value world = .ok response)
    (success : response.success = true) :
    let login := client.loginRequest world.session username password
    let after := ((client.signIn username password).behind world).session
    (∃ messages token, client.loginAnswer login world.wire = .ok ⟨messages, token, true⟩ ∧
      (client.signIn username password).value world =
        client.userDataAnswer
          (client.userDataRequest
            { world.session with user := world.session.user.withToken token })
          (client.gateway.transport login world.wire).2) ∧
    match response.result with
    | some account =>
      after.isAuthenticated = true ∧ after.user.username = some account.username ∧
        after.user.roles = account.roles ∧ after.user.profile = some account.profile
    | none =>
      after.user.username = world.session.user.username ∧
        after.user.roles = world.session.user.roles ∧
        after.user.profile = world.session.user.profile := by
  intro login after
  obtain ⟨messages, token, accepted⟩ := client.accepted_of_success returned success
  obtain ⟨answer, _, committed⟩ := signIn_of_accepted accepted
  refine ⟨⟨messages, token, accepted, answer⟩, ?_⟩
  -- The sign-in returns the answer of the second call, so what it committed is what it returned.
  rw [← answer, returned] at committed
  obtain ⟨notes, account, succeeded⟩ := response
  cases success
  have identity : after.user = (world.session.user.withToken token).withAccount account :=
    congrArg Session.user committed
  cases account with
  | some account =>
    refine ⟨?_, ?_, ?_, ?_⟩
    · rw [Session.isAuthenticated, identity]
      exact UserState.isAuthenticated_withAccount _ account
    all_goals rw [identity]; rfl
  | none =>
    rw [identity]
    cases token <;> exact ⟨rfl, rfl, rfl⟩

/-- **Identity behind an accepted login.** When the server accepts a login, the sign-in asks for the
user data and ends as that request ends. If it ends with an envelope of success that brings an
account, the name, the roles and the profile are those of the account; however else it ends, the
three are what they were before the sign-in. -/
theorem signIn_identity (world : World σ) (username password : String) (messages : List Message)
    (token : Option CsrfToken)
    (accepted : client.loginAnswer (client.loginRequest world.session username password)
      world.wire = .ok ⟨messages, token, true⟩) :
    let login := client.loginRequest world.session username password
    let userData := client.userDataRequest
      { world.session with user := world.session.user.withToken token }
    let ending := (client.signIn username password).value world
    let after := ((client.signIn username password).behind world).session.user
    ending = client.userDataAnswer userData (client.gateway.transport login world.wire).2 ∧
      match ending with
      | .ok ⟨_, some account, true⟩ =>
        after.username = some account.username ∧ after.roles = account.roles ∧
          after.profile = some account.profile
      | _ =>
        after.username = world.session.user.username ∧ after.roles = world.session.user.roles ∧
          after.profile = world.session.user.profile := by
  intro login userData ending after
  obtain ⟨returned, _, committed⟩ := signIn_of_accepted accepted
  -- What is committed is the account of the answer, and the answer is what is returned.
  rw [← returned] at committed
  have identity : after = (world.session.user.withToken token).withAccount (account? ending) :=
    congrArg Session.user committed
  refine ⟨returned, ?_⟩
  rw [identity]
  rcases ending with error | ⟨notes, _ | account, _ | _⟩
  case ok.some.true => exact ⟨rfl, rfl, rfl⟩
  all_goals cases token <;> exact ⟨rfl, rfl, rfl⟩

/-- A user who signs in takes the place of the one before. -/
theorem signIn_identity_ada :
    let world : World (List Http.ScriptEntry) :=
      { session := graceSession, wire := [bareSuccess, adaSuccess] }
    let after := ((scripted.signIn "ada" "secret").behind world).session.user
    scripted.loginAnswer (scripted.loginRequest world.session "ada" "secret") world.wire =
        .ok ⟨[], none, true⟩ ∧
      after.username = some "ada" ∧ after.roles = [.user] ∧ after.profile = some {} := by
  have accepted : scripted.loginAnswer (scripted.loginRequest graceSession "ada" "secret")
      [bareSuccess, adaSuccess] = .ok ⟨[], none, true⟩ := by
    decide +kernel
  have ending : (scripted.signIn "ada" "secret").value
      { session := graceSession, wire := [bareSuccess, adaSuccess] } =
        .ok ⟨[], some ada, true⟩ := by
    decide +kernel
  have reached := scripted.signIn_identity
    { session := graceSession, wire := [bareSuccess, adaSuccess] } "ada" "secret" [] none accepted
  simp only [ending] at reached
  exact ⟨accepted, reached.2⟩

/-- Behind an accepted login the one before may stay signed in with all roles, because the request
for the user data gets no answer. -/
theorem signIn_keeps_previous_user :
    let world : World (List Http.ScriptEntry) :=
      { session := graceSession, wire := [bareSuccess, .requestFailure "connection closed"] }
    let login := scripted.loginRequest world.session "ada" "secret"
    let after := ((scripted.signIn "ada" "secret").behind world).session.user
    scripted.loginAnswer login world.wire = .ok ⟨[], none, true⟩ ∧
      (scripted.signIn "ada" "secret").value world =
        .error (.request .get "http://localhost:8080/action/account/user-data"
          "connection closed") ∧
      after.username = some "grace" ∧ after.roles = [.admin] ∧ after.profile = some {} := by
  decide +kernel

/-- A user signs in whom the server knows. -/
theorem signIn_success_ada :
    let world : World (List Http.ScriptEntry) := { wire := [bareSuccess, adaSuccess] }
    let after := ((scripted.signIn "ada" "secret").behind world).session
    after.isAuthenticated = true ∧ after.user.username = some "ada" ∧
      after.user.roles = [.user] ∧ after.user.profile = some {} :=
  (scripted.signIn_success { wire := [bareSuccess, adaSuccess] } "ada" "secret"
    ⟨[], some ada, true⟩ (by decide +kernel) rfl).2

/-- A sign-in may end with an envelope of success that brings no account, and then nobody is signed
in. -/
theorem signIn_success_without_account :
    let world : World (List Http.ScriptEntry) := { wire := [bareSuccess, bareSuccess] }
    (scripted.signIn "ada" "secret").value world = .ok ⟨[], none, true⟩ ∧
      ((scripted.signIn "ada" "secret").behind world).session.isAuthenticated = false := by
  decide +kernel

end MarketplaceClient
end GeoMarket
