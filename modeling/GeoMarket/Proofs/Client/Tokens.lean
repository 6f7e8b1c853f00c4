import GeoMarket.Client.Marketplace
import GeoMarket.Proofs.Client.Call
import GeoMarket.Proofs.Http.Headers
import GeoMarket.Proofs.Session.Fields
import Mathlib.Data.List.Forall2

/-!
# The tokens that requests carry

A program changes the session and calls the server, in any order. Each call whose body can be
written hands one request to the transport, and the headers of that request are those that the
session demands at that very moment. So no request carries a token that was replaced or cleared
before it.
-/
namespace GeoMarket.Gateway

open Http Session

variable {σ : Type}

/-- The value that a call itself gives to a header. -/
def Call.own? : Call → String → Option String
  | .submit _ _, name =>
    if Text.sameIgnoringCase "Content-Type" name then some "application/x-www-form-urlencoded"
    else none
  | _, _ => none

/-- The value that a header of the request of a call has to have, for a user and with the header of
the settings for the token against forged requests. -/
def Call.header? (call : Call) (fallback : String) (user : UserState) (name : String) :
    Option String :=
  (Interceptor.bearerValue? user name).or
    ((Interceptor.csrfValue? fallback user call.method name).or (call.own? name))

/-- A token that was written last to a field by the changes of a session, or that the session had in
the field before and that no change has replaced or cleared. -/
def InForce (field : Session.Field (Option String)) (initial : Session) (past : List Mutation)
    (token : String) : Prop :=
  Prevails (·.written? field) past (· = field.read initial) (some token)

/-- A request reflects a call and the session at the moment of the call, which is an initial session
behind some changes. -/
structure Reflects (config : ClientConfig) (initial : Session) (past : List Mutation) (call : Call)
    (request : Request) : Prop where
  /-- The verb is that of the call. -/
  method : request.method = call.method
  /-- The URL is the path of the call below the URL of the server. -/
  url : request.url = String.ofList (Text.dropTrailing '/' config.baseUrl.toList) ++ call.path
  /-- The body is that of the call. -/
  body : call.body = .ok request.body
  /-- Every header has the value that the session demands at the moment of the call. -/
  header : ∀ name, request.header? name =
    call.header? config.csrfHeader (initial.applyAll past).user name
  /-- A value that is not of the call itself is a token that is in force at that moment. -/
  unexpired : ∀ name value, request.header? name = some value → call.own? name ≠ some value →
    (∃ token, value = "Bearer " ++ token ∧ InForce .authToken initial past token) ∨
    InForce .csrfToken initial past value

/-- A token that a session holds is in force. -/
theorem inForce_of_eq {field : Session.Field (Option String)} {initial : Session}
    {past : List Mutation} {token : String}
    (held : field.read (initial.applyAll past) = some token) :
    InForce field initial past token := by
  have prevails := prevails_applyAll field initial past
  rw [held] at prevails
  exact prevails

/-- A header that the bearer token demands carries the bearer token. -/
theorem authToken_of_bearerValue? {user : UserState} {name value : String}
    (demanded : Interceptor.bearerValue? user name = some value) :
    ∃ token, user.authToken = some token ∧ value = "Bearer " ++ token := by
  unfold Interceptor.bearerValue? at demanded
  cases held : user.authToken with
  | none => simp [held] at demanded
  | some token =>
    rw [held] at demanded
    dsimp only at demanded
    split at demanded
    · exact ⟨token, rfl, (Option.some.inj demanded).symm⟩
    · cases demanded

/-- A header that the token against forged requests demands carries that token. -/
theorem csrfToken_of_csrfValue? {fallback : String} {user : UserState} {method : Method}
    {name value : String}
    (demanded : Interceptor.csrfValue? fallback user method name = some value) :
    user.csrfToken = some value := by
  unfold Interceptor.csrfValue? at demanded
  cases held : user.csrfToken with
  | none => simp [held] at demanded
  | some token =>
    rw [held] at demanded
    dsimp only at demanded
    split at demanded
    · exact demanded
    · cases demanded

/-- The request of a call holds what the call itself sets. -/
theorem header?_request (gateway : Gateway σ) (call : Call) (body : Body) (name : String) :
    (call.request gateway body).header? name = call.own? name := by
  cases call with
  | submit path fields =>
    cases same : Text.sameIgnoringCase "Content-Type" name <;>
      simp [Call.request, Call.headers, Call.own?, Request.header?, Headers.find?, formType, same]
  | _ => rfl

/-- The request of a call, as the gateway of some settings hands it to the transport, reflects the
call and the session. -/
theorem reflects_handed (config : ClientConfig) (transport : Transport σ) (initial : Session)
    (past : List Mutation) (call : Call) (body : Body) (written : call.body = .ok body) :
    Reflects config initial past call
      ((MarketplaceClient.gatewayFor config transport).handed (initial.applyAll past)
        (call.request (MarketplaceClient.gatewayFor config transport) body)) := by
  have kept := Interceptor.standard_keeps config.csrfHeader (initial.applyAll past)
    (call.request (MarketplaceClient.gatewayFor config transport) body)
  have headers (name : String) := Interceptor.header?_standard config.csrfHeader
    (initial.applyAll past) (call.request (MarketplaceClient.gatewayFor config transport) body) name
  simp only [header?_request] at headers
  obtain ⟨method, url, kept⟩ := kept
  refine ⟨method, url, written.trans (congrArg _ kept.symm), headers, ?_⟩
  intro name value carried foreign
  have demanded := (headers name).symm.trans carried
  rcases Option.or_eq_some_iff.mp demanded with bearer | ⟨_, demanded⟩
  · obtain ⟨token, held, rfl⟩ := authToken_of_bearerValue? bearer
    exact .inl ⟨token, rfl, inForce_of_eq held⟩
  · rcases Option.or_eq_some_iff.mp demanded with csrf | ⟨_, own⟩
    · have held := csrfToken_of_csrfValue? csrf
      exact .inr (inForce_of_eq held)
    · exact absurd own foreign

/-- What a program does with a session and a gateway: it changes the session, or makes a call of the
gateway directly or through a resource. -/
inductive Step : Type 1
  /-- Change the session. -/
  | change (mutation : Mutation)
  /-- Make a call of the gateway. -/
  | call {α : Type} (codec : Codec α) (call : Call)
  /-- Make a call of the server. -/
  | resource {α : Type} (call : Resource.Call α)

/-- Take a step, whatever comes of it. -/
def perform (gateway : Gateway σ) : Step → Flow σ Unit
  | .change mutation => Flow.commit mutation
  | .call codec call => do let _ ← call.perform gateway codec
  | .resource call => do let _ ← call.perform gateway

/-- The moment of a call with some changes before it, if the body of the call can be written. -/
def moment (past : List Mutation) (call : Call) : List (List Mutation × Call) :=
  match call.body with
  | .ok _ => [(past, call)]
  | .error _ => []

/-- The moments at which some steps send a request, in order. -/
def moments (past : List Mutation) : List Step → List (List Mutation × Call)
  | [] => []
  | .change mutation :: rest => moments (past ++ [mutation]) rest
  | .call _ call :: rest => moment past call ++ moments past rest
  | .resource call :: rest => moment past call.base ++ moments past rest

/-- Requests reflect the moments at which they are sent, one after another. -/
def Reflect (config : ClientConfig) (initial : Session) :
    List (List Mutation × Call) → List Request → Prop :=
  List.Forall₂ fun moment request => Reflects config initial moment.1 moment.2 request

/-- The requests of a call reflect its moment. -/
theorem reflect_requests (config : ClientConfig) (transport : Transport σ) (initial : Session)
    (past : List Mutation) (call : Call) :
    Reflect config initial (moment past call)
      (call.requests (MarketplaceClient.gatewayFor config transport) (initial.applyAll past)) := by
  unfold Reflect moment Call.requests
  cases written : call.body with
  | ok body => exact .cons (reflects_handed config transport initial past call body written) .nil
  | error reason => exact .nil

/-- The requests of a flow that makes one call follow those that were sent before, and reflect the
moment of the call. -/
theorem reflect_sends {α : Type} {config : ClientConfig} {transport : Transport σ}
    {initial : Session} {past : List Mutation} {call : Call} {flow : Flow σ α}
    (sends : Flow.Sends (call.requests (MarketplaceClient.gatewayFor config transport)) flow)
    (world : World σ) (current : world.session = initial.applyAll past) :
    (flow.behind world).session = initial.applyAll past ∧
      ∃ requests, (flow.behind world).sent = world.sent ++ requests ∧
        Reflect config initial (moment past call) requests := by
  have kept := (sends.session world).trans current
  have sent := sends.sent world
  rw [current] at sent
  exact ⟨kept, _, sent, reflect_requests config transport initial past call⟩

/-- The requests that some steps send follow those that were sent before, and reflect the moments of
the steps. -/
theorem reflect_steps (config : ClientConfig) (transport : Transport σ) (initial : Session)
    (steps : List Step) (past : List Mutation) (world : World σ)
    (current : world.session = initial.applyAll past) :
    ∃ requests,
      ((steps.forM (MarketplaceClient.gatewayFor config transport).perform).behind world).sent =
        world.sent ++ requests ∧
      Reflect config initial (moments past steps) requests := by
  induction steps generalizing past world with
  | nil => exact ⟨[], (List.append_nil _).symm, .nil⟩
  | cons step rest ih =>
    have further {past : List Mutation} {call : Call} {flow : Flow σ Unit}
        (sends : Flow.Sends (call.requests (MarketplaceClient.gatewayFor config transport)) flow)
        (current : world.session = initial.applyAll past) :
        ∃ requests,
          ((rest.forM (MarketplaceClient.gatewayFor config transport).perform).behind
            (flow.behind world)).sent = world.sent ++ requests ∧
          Reflect config initial (moment past call ++ moments past rest) requests := by
      obtain ⟨kept, first, sentFirst, reflectFirst⟩ := reflect_sends sends world current
      obtain ⟨others, sentOthers, reflectOthers⟩ := ih past _ kept
      refine ⟨first ++ others, ?_, List.rel_append reflectFirst reflectOthers⟩
      rw [sentOthers, sentFirst, List.append_assoc]
    rw [Flow.behind_forM_cons]
    cases step with
    | change mutation =>
      have next : (world.session.apply mutation) = initial.applyAll (past ++ [mutation]) := by
        rw [applyAll_concat, current]
      have silent : ((Flow.commit mutation).behind world).sent = world.sent := by simp
      have others := ih (past ++ [mutation]) ((Flow.commit mutation).behind world) next
      rw [silent] at others
      exact others
    | call codec call => exact further ((call.sends _ codec).pure fun _ => ()) current
    | resource call => exact further ((call.sends _).pure fun _ => ()) current

/-- **Headers reflect the session at the moment of sending.** For all settings, whatever a program
does with a session and a gateway in whatever order, the requests handed to the transport are those
of its calls with a body that can be written, each with the verb, the URL and the body of its call,
and with the headers that the session demands at that moment, so that no token in them was replaced
or cleared before. -/
theorem sent_reflects_moments (config : ClientConfig) (transport : Transport σ) (initial : Session)
    (wire : σ) (steps : List Step) :
    List.Forall₂ (fun moment request => Reflects config initial moment.1 moment.2 request)
      (moments [] steps)
      ((steps.forM (MarketplaceClient.gatewayFor config transport).perform).behind
        { session := initial, wire }).sent := by
  obtain ⟨requests, sent, reflected⟩ :=
    reflect_steps config transport initial steps [] { session := initial, wire } rfl
  rw [sent]
  exact reflected

end GeoMarket.Gateway
