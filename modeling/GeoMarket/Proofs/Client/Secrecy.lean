import GeoMarket.Client.Marketplace
import GeoMarket.Proofs.Client.Call
import GeoMarket.Proofs.Http.Headers
import Mathlib.Data.List.Forall2

/-!
# Secrets

The tokens of a session and the password of a login are secrets: they leave the client in the
requests that need them and nowhere else. Two runs that differ in the secrets alone end with the
same value and note the same events. Their requests differ in headers and in the password alone,
and their sessions still differ in the tokens alone.
-/
namespace GeoMarket

variable {σ α β : Type}

/-! ## What may differ -/

/-- The session without its tokens. -/
def Session.masked (session : Session) : Session :=
  { session with
    user := { session.user with authToken := none, csrfHeader := none, csrfToken := none } }

/-- Sessions that differ in their tokens alone. -/
def Session.Alike (session other : Session) : Prop := session.masked = other.masked

/-- What a change of the session does beside the tokens does not depend on them. -/
theorem Session.masked_apply (session : Session) (mutation : Mutation) :
    (session.apply mutation).masked = (session.masked.apply mutation).masked := by
  cases mutation <;> rfl

/-- The same change leaves sessions alike. -/
theorem Session.Alike.apply {session other : Session} (alike : session.Alike other)
    (mutation : Mutation) : (session.apply mutation).Alike (other.apply mutation) := by
  rw [Alike, masked_apply, alike, ← masked_apply]

namespace Http

/-- A field of a form without the password that it may hold. -/
def maskedField (field : String × String) : String × String :=
  if field.1 = "password" then (field.1, "") else field

/-- A body without the password that it may hold. -/
def Body.masked : Body → Body
  | .form fields => .form (fields.map maskedField)
  | body => body

/-- Requests that differ in their headers and in the password alone. -/
structure Request.Alike (request other : Request) : Prop where
  /-- They have the same verb. -/
  method : request.method = other.method
  /-- They have the same URL. -/
  url : request.url = other.url
  /-- Beside the password their bodies are the same. -/
  body : request.body.masked = other.body.masked

/-- The answers of a transport depend on nothing of a request but its verb and its URL. -/
def Transport.Blind (transport : Transport σ) : Prop :=
  ∀ request other wire, request.method = other.method → request.url = other.url →
    transport request wire = transport other wire

/-- The answers of a script are fixed beforehand. -/
theorem scripted_blind : Transport.Blind scripted := by
  intro request other wire method url
  cases wire with
  | nil => rw [scripted, scripted, method, url]
  | cons entry rest =>
    have responds : entry.respond request = entry.respond other := by
      cases entry with
      | answer response => rfl
      | setupFailure reason => rfl
      | requestFailure reason => rw [ScriptEntry.respond, ScriptEntry.respond, method, url]
    rw [scripted, scripted, responds]

end Http

/-- Worlds in which the same things have happened but for the secrets. -/
structure World.Alike (world other : World σ) : Prop where
  /-- The sessions differ in their tokens alone. -/
  session : world.session.Alike other.session
  /-- The transport is in the same state. -/
  wire : world.wire = other.wire
  /-- The same events have been noted. -/
  events : world.events = other.events
  /-- As many requests have been sent, each of them like the other. -/
  sent : List.Forall₂ Http.Request.Alike world.sent other.sent

/-- Worlds stay alike when the same happens further but for the secrets. -/
theorem World.Alike.extend {world other : World σ} (alike : world.Alike other)
    {session twin : Session} (sessions : session.Alike twin) (wire : σ)
    {further onward : List Happening}
    (events : further.filterMap Happening.event? = onward.filterMap Happening.event?)
    (sent : List.Forall₂ Http.Request.Alike (further.filterMap Happening.request?)
      (onward.filterMap Happening.request?)) :
    World.Alike ⟨session, wire, world.course ++ further⟩ ⟨twin, wire, other.course ++ onward⟩ where
  session := sessions
  wire := rfl
  events := by rw [World.events_append, World.events_append, alike.events, events]
  sent := by
    rw [World.sent_append, World.sent_append]
    exact List.rel_append alike.sent sent

/-! ## Discreet flows -/

namespace Flow

/-- Two flows, run in worlds that are alike, end with the same value and leave worlds that are
alike. -/
def Discreet (flow twin : Flow σ α) : Prop :=
  ∀ world other, World.Alike world other →
    flow.value world = twin.value other ∧ World.Alike (flow.behind world) (twin.behind other)

namespace Discreet

/-- A flow that does nothing is discreet. -/
theorem pure (result : α) : Discreet (σ := σ) (pure result) (pure result) :=
  fun _ _ alike => ⟨rfl, alike⟩

/-- Discreet flows one after another are discreet. -/
theorem bind {first twin : Flow σ β} {next onward : β → Flow σ α} (begins : Discreet first twin)
    (continues : ∀ result, Discreet (next result) (onward result)) :
    Discreet (first >>= next) (twin >>= onward) := by
  intro world other alike
  obtain ⟨same, behind⟩ := begins world other alike
  rw [value_bind, value_bind, behind_bind, behind_bind, ← same]
  exact continues _ _ _ behind

/-- Noting an event is discreet: the event is the same. -/
theorem note (event : Event) : Discreet (σ := σ) (note event) (note event) := by
  intro world other alike
  rw [behind_note, behind_note, alike.wire]
  exact ⟨rfl, alike.extend alike.session _ rfl .nil⟩

/-- A change of the session is discreet: the change is the same. -/
theorem commit (mutation : Session.Mutation) :
    Discreet (σ := σ) (commit mutation) (commit mutation) := by
  intro world other alike
  rw [behind_commit, behind_commit, alike.wire]
  refine ⟨rfl, alike.extend (alike.session.apply mutation) _ rfl ?_⟩
  rw [Happening.filterMap_request?_ofMutation]
  exact .nil

/-- Noting some events is discreet. -/
theorem noting (events : List Event) (result : α) :
    Discreet (σ := σ) (noting events result) (noting events result) := by
  intro world other alike
  rw [behind_noting, behind_noting, alike.wire]
  refine ⟨rfl, alike.extend alike.session _ rfl ?_⟩
  rw [Happening.filterMap_request?_noted]
  exact .nil

/-- A failure is noted and returned alike. -/
theorem fail (error : Http.ApiError) :
    Discreet (σ := σ) (Gateway.fail error : Flow σ (Outcome α)) (Gateway.fail error) :=
  .bind (.note _) fun _ => .pure _

end Discreet
end Flow

/-! ## The gateway -/

namespace Gateway

/-- A gateway that does not depend on the secrets: its interceptors set headers only, and its
transport does not look at headers and bodies. -/
structure Discreet (gateway : Gateway σ) : Prop where
  /-- A request keeps its verb, its URL and its body on the way to the transport. -/
  keeps : ∀ session request,
    (gateway.handed session request).method = request.method ∧
      (gateway.handed session request).url = request.url ∧
      (gateway.handed session request).body = request.body
  /-- The transport looks at the verb and the URL only. -/
  blind : gateway.transport.Blind

namespace Discreet

variable {gateway : Gateway σ}

/-- Requests that are alike are handed to the transport alike. -/
theorem handed (discreet : gateway.Discreet) {request other : Http.Request}
    (alike : request.Alike other) (session twin : Session) :
    (gateway.handed session request).Alike (gateway.handed twin other) := by
  obtain ⟨method, url, body⟩ := discreet.keeps session request
  obtain ⟨otherMethod, otherUrl, otherBody⟩ := discreet.keeps twin other
  refine ⟨?_, ?_, ?_⟩
  · rw [method, otherMethod, alike.method]
  · rw [url, otherUrl, alike.url]
  · rw [body, otherBody, alike.body]

/-- Requests that are alike end the same way. -/
theorem answer (discreet : gateway.Discreet) (codec : Codec α) {request other : Http.Request}
    (alike : request.Alike other) (wire : σ) :
    gateway.answer codec request wire = gateway.answer codec other wire := by
  have transported := discreet.blind request other wire alike.method alike.url
  rw [Gateway.answer, Gateway.answer, transported]
  cases (gateway.transport other wire).1 with
  | error error => rfl
  | ok response =>
    dsimp only
    rw [interpret, interpret, alike.method, alike.url]

/-- Sending requests that are alike is discreet. -/
theorem send (discreet : gateway.Discreet) (codec : Codec α) {request other : Http.Request}
    (alike : request.Alike other) :
    Flow.Discreet (gateway.send codec request) (gateway.send codec other) := by
  intro world twin worlds
  have outgoing := discreet.handed alike world.session twin.session
  have ends := discreet.answer codec outgoing
  have transported := discreet.blind _ _ twin.wire outgoing.method outgoing.url
  rw [value_send, value_send, behind_send, behind_send, worlds.wire, ends]
  refine ⟨rfl, ?_⟩
  rw [answered, answered, worlds.wire, transported, outgoing.method, outgoing.url, ends]
  refine worlds.extend worlds.session _ ?_ ?_
  · simp [List.filterMap_cons]
  · simpa [List.filterMap_cons] using outgoing

/-- A call of the gateway is discreet. -/
theorem perform (discreet : gateway.Discreet) (codec : Codec α) (call : Call) :
    Flow.Discreet (call.perform gateway codec) (call.perform gateway codec) := by
  rw [Call.perform_eq]
  cases call.body with
  | ok body => exact discreet.send codec ⟨rfl, rfl, rfl⟩
  | error reason => exact .fail _

/-- A call of the server is discreet. -/
theorem call (discreet : gateway.Discreet) (call : Resource.Call α) :
    Flow.Discreet (call.perform gateway) (call.perform gateway) := by
  obtain ⟨β, codec, events, result, performs⟩ := call.perform_eq
  rw [performs]
  exact .bind (discreet.perform codec call.base) fun _ => .noting _ _

/-- Logins of one user with different passwords are discreet. -/
theorem login (discreet : gateway.Discreet) (username password another : String) :
    Flow.Discreet (Resource.login gateway username password)
      (Resource.login gateway username another) := by
  have forms : Http.Body.masked (.form [("username", username), ("password", password)]) =
      .masked (.form [("username", username), ("password", another)]) := by
    simp [Http.Body.masked, Http.maskedField]
  exact .bind (discreet.send _ ⟨rfl, rfl, forms⟩) fun _ => .pure _

end Discreet
end Gateway

/-! ## The client -/

namespace MarketplaceClient

/-- The gateway of a client does not depend on the secrets. -/
theorem gatewayFor_discreet (config : ClientConfig) {transport : Http.Transport σ}
    (blind : transport.Blind) : (gatewayFor config transport).Discreet where
  keeps session request := Http.Interceptor.standard_keeps config.csrfHeader session request
  blind := blind

/-- Keeping the token of an answer is discreet. -/
theorem commitToken_discreet (token : Option CsrfToken) :
    Flow.Discreet (σ := σ) (commitToken token) (commitToken token) := by
  cases token with
  | none => exact .pure _
  | some token => exact .commit _

/-- Keeping the account of an answer is discreet. -/
theorem commitAccount_discreet (response : Envelope Account) :
    Flow.Discreet (σ := σ) (commitAccount response) (commitAccount response) := by
  unfold commitAccount
  split
  · exact .bind (.commit _) fun _ => .note _
  · exact .note _

/-- Keeping the cart of a discreet call is discreet. -/
theorem keepingCart_discreet {call : Flow σ (Resource.Answer Cart)}
    (discreet : Flow.Discreet call call) :
    Flow.Discreet (keepingCart call) (keepingCart call) := by
  refine .bind discreet fun outcome => ?_
  cases outcome with
  | error error => exact .pure _
  | ok response =>
    dsimp only
    split
    · exact .bind (.commit _) fun _ => .pure _
    · exact .pure _

variable {client : MarketplaceClient σ}

/-- Signing in is discreet, also about the password. -/
theorem signIn_discreet (discreet : client.gateway.Discreet) (username password another : String) :
    Flow.Discreet (client.signIn username password) (client.signIn username another) := by
  refine .bind (discreet.login username password another) fun outcome => ?_
  cases outcome with
  | error error => exact .pure _
  | ok login =>
    dsimp only
    split
    · refine .bind (commitToken_discreet _) fun _ => .bind (discreet.call .getUserData) ?_
      rintro (error | response)
      · exact .pure _
      · exact .bind (commitAccount_discreet response) fun _ => .pure _
    · exact .bind (.note _) fun _ => .pure _

/-- Signing out is discreet. -/
theorem signOut_discreet (discreet : client.gateway.Discreet) :
    Flow.Discreet client.signOut client.signOut := by
  refine .bind (discreet.call .logout) fun outcome => ?_
  cases outcome with
  | error error => exact .pure _
  | ok response =>
    exact .bind (.commit _) fun _ => .bind (commitToken_discreet _) fun _ =>
      .bind (.note _) fun _ => .pure _

/-- Loading the configuration is discreet. -/
theorem loadConfiguration_discreet (discreet : client.gateway.Discreet) (locale : Option String) :
    Flow.Discreet (client.loadConfiguration locale) (client.loadConfiguration locale) := by
  have called := discreet.call (.getConfiguration (locale.getD client.config.locale))
  refine .bind (.commit _) fun _ => .bind called fun outcome => .bind (.commit _) fun _ => ?_
  cases outcome with
  | error error => exact .pure _
  | ok response =>
    dsimp only
    split
    · exact .bind (.commit _) fun _ => .pure _
    · exact .pure _

/-- Putting an item into the cart is discreet. -/
theorem addItemToCart_discreet (discreet : client.gateway.Discreet) (item : CatalogueItem)
    (pricingModel : Uuid) :
    Flow.Discreet (client.addItemToCart item pricingModel)
      (client.addItemToCart item pricingModel) := by
  unfold addItemToCart
  cases CartAddItemCommand.forItem item pricingModel with
  | error error => exact .pure _
  | ok command =>
    have called := discreet.call (.addCartItem command)
    exact .bind (keepingCart_discreet called) fun _ => .pure _

/-- Pairs of flows with the same arguments but for the password. Navigation is left out: it asks
whether somebody is signed in, and so whether there is a token. -/
inductive Paired (client : MarketplaceClient σ) : {α : Type} → Flow σ α → Flow σ α → Prop
  /-- A call of the server is paired with itself. -/
  | call {α : Type} (call : Resource.Call α) :
    Paired client (call.perform client.gateway) (call.perform client.gateway)
  /-- Logins of one user are paired. -/
  | login (username password another : String) :
    Paired client (Resource.login client.gateway username password)
      (Resource.login client.gateway username another)
  | signIn (username password another : String) :
    Paired client (client.signIn username password) (client.signIn username another)
  | signOut : Paired client client.signOut client.signOut
  | loadConfiguration (locale : Option String) :
    Paired client (client.loadConfiguration locale) (client.loadConfiguration locale)
  | refreshCart : Paired client client.refreshCart client.refreshCart
  | addToCart (command : CartAddItemCommand) :
    Paired client (client.addToCart command) (client.addToCart command)
  | addItemToCart (item : CatalogueItem) (pricingModel : Uuid) :
    Paired client (client.addItemToCart item pricingModel) (client.addItemToCart item pricingModel)
  | removeFromCart (id : Uuid) : Paired client (client.removeFromCart id) (client.removeFromCart id)
  | clearCart : Paired client client.clearCart client.clearCart

/-- **Secrecy.** Over a transport that answers without regard to headers and bodies, flows with the
same arguments but for the password, run from worlds that are alike but for the secrets, end with
the same value and leave worlds that are alike: with the same events, with requests that differ in
headers and in the password alone, and with sessions that differ in their tokens alone. -/
theorem paired_alike (config : ClientConfig) {transport : Http.Transport σ}
    (blind : transport.Blind) (navigator : Navigation.Navigator) {flow twin : Flow σ α}
    (paired : Paired { config, gateway := gatewayFor config transport, navigator } flow twin)
    {world other : World σ} (alike : world.Alike other) :
    flow.value world = twin.value other ∧ (flow.behind world).Alike (twin.behind other) := by
  have discreet := gatewayFor_discreet config blind
  suffices Flow.Discreet flow twin from this world other alike
  cases paired with
  | call call => exact discreet.call call
  | login username password another => exact discreet.login username password another
  | signIn username password another => exact signIn_discreet discreet username password another
  | signOut => exact signOut_discreet discreet
  | loadConfiguration locale => exact loadConfiguration_discreet discreet locale
  | refreshCart => exact keepingCart_discreet (discreet.call .getCart)
  | addToCart command => exact keepingCart_discreet (discreet.call (.addCartItem command))
  | addItemToCart item pricingModel => exact addItemToCart_discreet discreet item pricingModel
  | removeFromCart id => exact keepingCart_discreet (discreet.call (.removeCartItem id))
  | clearCart => exact keepingCart_discreet (discreet.call .clearCart)

/-- Two sign-ins of one user, from sessions with different tokens and with different passwords, note
the same events and send requests that are alike. -/
theorem paired_alike_signIn :
    let client : MarketplaceClient (List Http.ScriptEntry) :=
      { config := {}, gateway := gatewayFor {} Http.scripted }
    let script : List Http.ScriptEntry := [.answer ⟨403, "denied"⟩]
    let world : World (List Http.ScriptEntry) :=
      { session := { user := { csrfToken := some "one" } }, wire := script }
    let other : World (List Http.ScriptEntry) :=
      { session := { user := { authToken := some "jwt" } }, wire := script }
    Http.Transport.Blind Http.scripted ∧ world.Alike other ∧
      (client.signIn "ada" "secret").value world = (client.signIn "ada" "guess").value other ∧
      ((client.signIn "ada" "secret").behind world).Alike
        ((client.signIn "ada" "guess").behind other) := by
  intro client script world other
  have alike : world.Alike other := ⟨rfl, rfl, rfl, .nil⟩
  have paired : Paired client (client.signIn "ada" "secret") (client.signIn "ada" "guess") :=
    .signIn "ada" "secret" "guess"
  exact ⟨Http.scripted_blind, alike,
    paired_alike {} Http.scripted_blind Navigation.Application.navigator paired alike⟩

end MarketplaceClient
end GeoMarket
