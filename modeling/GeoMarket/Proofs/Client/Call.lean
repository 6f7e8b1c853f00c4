import GeoMarket.Client.Resource
import GeoMarket.Proofs.Client.Flow

/-!
# Calls as data

A call of the gateway is a verb with a path and a payload; a call of a resource is one of the calls
of the server with its arguments. Both are data here, so that runs can be made of them. A call of
the gateway sends one request or fails before sending any; a call of a resource makes one call of
the gateway, notes what it found, and touches nothing else.
-/
namespace GeoMarket

variable {σ α : Type}

namespace Gateway

/-- The events that an outcome leaves in the log. -/
def failures : Outcome α → List Event
  | .error error => [.failed error]
  | .ok _ => []

/-- A request as the gateway hands it to the transport. -/
def handed (gateway : Gateway σ) (session : Session) (request : Http.Request) : Http.Request :=
  Http.Interceptor.applyAll gateway.chain session request

/-- How a request ends that is handed to the transport. -/
def answer (gateway : Gateway σ) (codec : Codec α) (request : Http.Request) (wire : σ) :
    Outcome (Reply α) :=
  match (gateway.transport request wire).1 with
  | .error error => .error error
  | .ok response => interpret codec request response

/-- The world behind a request that is handed to the transport. -/
def answered (gateway : Gateway σ) (codec : Codec α) (request : Http.Request) (world : World σ) :
    World σ :=
  { world with
    wire := (gateway.transport request world.wire).2
    course := world.course ++
      .noted (.sending request.method request.url) :: .sent request ::
        (failures (gateway.answer codec request world.wire)).map .noted }

/-- A request that is handed to the transport leaves the session alone. -/
@[simp] theorem session_answered (gateway : Gateway σ) (codec : Codec α) (request : Http.Request)
    (world : World σ) : (gateway.answered codec request world).session = world.session := rfl

/-- A request that is handed to the transport is the only one that is sent. -/
@[simp] theorem sent_answered (gateway : Gateway σ) (codec : Codec α) (request : Http.Request)
    (world : World σ) :
    (gateway.answered codec request world).sent = world.sent ++ [request] := by
  simp [answered, List.filterMap_cons]

/-- A failure is returned as it is. -/
@[simp] theorem value_fail (error : Http.ApiError) (world : World σ) :
    (fail error : Flow σ (Outcome α)).value world = .error error := rfl

/-- A failure is noted once. -/
@[simp] theorem behind_fail (error : Http.ApiError) (world : World σ) :
    (fail error : Flow σ (Outcome α)).behind world =
      { world with course := world.course ++ [.noted (.failed error)] } := rfl

/-- A request that is sent ends as the transport and the codec have it. -/
@[simp] theorem value_send (gateway : Gateway σ) (codec : Codec α) (request : Http.Request)
    (world : World σ) :
    (gateway.send codec request).value world =
      gateway.answer codec (gateway.handed world.session request) world.wire := by
  unfold answer handed
  generalize passed : Http.Interceptor.applyAll gateway.chain world.session request = outgoing
  cases transported : (gateway.transport outgoing world.wire).1 with
  | error error => simp [send, passed, transported]
  | ok response =>
    cases interpreted : interpret codec outgoing response with
    | error error => simp [send, passed, transported, interpreted]
    | ok reply => simp [send, passed, transported, interpreted]

/-- Sending a request hands it to the transport once and notes it, and its failure behind it. -/
@[simp] theorem behind_send (gateway : Gateway σ) (codec : Codec α) (request : Http.Request)
    (world : World σ) :
    (gateway.send codec request).behind world =
      gateway.answered codec (gateway.handed world.session request) world := by
  unfold answered answer handed
  generalize passed : Http.Interceptor.applyAll gateway.chain world.session request = outgoing
  cases transported : (gateway.transport outgoing world.wire).1 with
  | error error => simp [send, passed, transported, failures]
  | ok response =>
    cases interpreted : interpret codec outgoing response with
    | error error => simp [send, passed, transported, interpreted, failures]
    | ok reply => simp [send, passed, transported, interpreted, failures]

/-- A call of the gateway. -/
inductive Call
  /-- Ask for something. -/
  | get (path : String)
  /-- Delete something. -/
  | delete (path : String)
  /-- Send a payload, if there is one. -/
  | post (path : String) (payload : Option Payload)
  /-- Replace something by a payload. -/
  | put (path : String) (payload : Payload)
  /-- Send the fields of a form. -/
  | submit (path : String) (fields : List (String × String))

namespace Call

/-- The verb of a call. -/
def method : Call → Http.Method
  | get _ => .get
  | delete _ => .delete
  | post _ _ => .post
  | put _ _ => .put
  | submit _ _ => .post

/-- The path of a call. -/
def path : Call → String
  | get path => path
  | delete path => path
  | post path _ => path
  | put path _ => path
  | submit path _ => path

/-- The body of a payload, or why there is none. -/
def written : Payload → Except String Http.Body
  | .tree value => .ok (.json value)
  | .refused reason => .error reason

/-- The body of a call, or why it cannot be written. -/
def body : Call → Except String Http.Body
  | get _ => .ok .empty
  | delete _ => .ok .empty
  | post _ none => .ok .empty
  | post _ (some payload) => written payload
  | put _ payload => written payload
  | submit _ fields => .ok (.form fields)

/-- The headers that a call sets itself. -/
def headers : Call → Http.Headers
  | submit _ _ => [("Content-Type", formType)]
  | _ => []

/-- The request of a call with a body. -/
def request (call : Call) (gateway : Gateway σ) (body : Http.Body) : Http.Request :=
  { method := call.method, url := gateway.url call.path, headers := call.headers, body }

/-- Make a call. -/
def perform (gateway : Gateway σ) (codec : Codec α) : Call → Flow σ (Outcome (Reply α))
  | get path => gateway.get codec path
  | delete path => gateway.delete codec path
  | post path payload => gateway.post codec path payload
  | put path payload => gateway.put codec path payload
  | submit path fields => gateway.submit codec path fields

/-- A call sends its request, or fails if its body cannot be written. -/
theorem perform_eq (gateway : Gateway σ) (codec : Codec α) (call : Call) :
    call.perform gateway codec =
      match call.body with
      | .ok body => gateway.send codec (call.request gateway body)
      | .error reason => fail (.setup ("Failed to serialize request body: " ++ reason)) := by
  rcases call with path | path | ⟨path, _ | payload | reason⟩ | ⟨path, payload | reason⟩ | path <;>
    rfl

/-- A call whose body can be written sends its request. -/
theorem perform_of_written {call : Call} {body : Http.Body} (written : call.body = .ok body)
    (gateway : Gateway σ) (codec : Codec α) :
    call.perform gateway codec = gateway.send codec (call.request gateway body) := by
  rw [perform_eq, written]

/-- A call whose body cannot be written fails. -/
theorem perform_of_unwritten {call : Call} {reason : String} (unwritten : call.body = .error reason)
    (gateway : Gateway σ) (codec : Codec α) :
    call.perform gateway codec =
      fail (.setup ("Failed to serialize request body: " ++ reason)) := by
  rw [perform_eq, unwritten]

/-- The requests that a call hands to the transport in a session: one, or none if its body cannot
be written. -/
def requests (call : Call) (gateway : Gateway σ) (session : Session) : List Http.Request :=
  match call.body with
  | .ok body => [gateway.handed session (call.request gateway body)]
  | .error _ => []

/-- A call sends its requests and leaves the session untouched. -/
theorem sends (gateway : Gateway σ) (codec : Codec α) (call : Call) :
    Flow.Sends (call.requests gateway) (call.perform gateway codec) := by
  cases written : call.body with
  | ok body =>
    rw [perform_of_written written]
    refine ⟨fun world => by simp, fun world => ?_⟩
    rw [behind_send]
    refine ⟨_, rfl, ?_, ?_⟩
    · simp
    · simp [requests, written, List.filterMap_cons]
  | error reason =>
    rw [perform_of_unwritten written]
    refine ⟨fun world => by simp, fun world => ?_⟩
    rw [behind_fail]
    refine ⟨_, rfl, rfl, ?_⟩
    simp [requests, written]

end Call

/-- A property of the world that nothing destroys from which the flows over a gateway are built. -/
structure Stable (gateway : Gateway σ) (property : World σ → Prop) : Prop where
  /-- Noting an event keeps it. -/
  note : ∀ event, Flow.Keeps property (Flow.note event)
  /-- Changing the session keeps it. -/
  commit : ∀ mutation, Flow.Keeps property (Flow.commit mutation)
  /-- A call of the gateway keeps it. -/
  call : ∀ {α : Type} (codec : Codec α) (call : Call),
    Flow.Keeps property (call.perform gateway codec)

end Gateway

namespace Resource

/-- The answer of a call is the data of its reply. -/
@[simp] theorem value_unwrapped (flow : Flow σ (Outcome (Reply α))) (world : World σ) :
    (unwrapped flow).value world = (flow.value world).map Reply.data := rfl

/-- Taking the data out of a reply leaves the world as the call has left it. -/
@[simp] theorem behind_unwrapped (flow : Flow σ (Outcome (Reply α))) (world : World σ) :
    (unwrapped flow).behind world = flow.behind world := rfl

/-- A call of the server with its arguments, by the type of what its envelope brings. -/
inductive Call : Type → Type
  | login (username password : String) : Call CsrfToken
  | logout : Call CsrfToken
  | getUserData : Call Account
  | getProfile : Call Profile
  | setProfile (command : ProfileCommand) : Call Account
  | createAddress (command : AddressCommand) : Call Profile
  | updateAddress (key : Uuid) (command : AddressCommand) : Call Profile
  | deleteAddress (key : Uuid) : Call Profile
  | register (command : AccountCommand) : Call Account
  | requestToken (command : ActivationTokenCommand) : Call Unit
  | verifyToken (token : String) : Call Unit
  | getCart : Call Cart
  | addCartItem (command : CartAddItemCommand) : Call Cart
  | removeCartItem (id : Uuid) : Call Cart
  | clearCart : Call Cart
  | find (query : CatalogueQuery) : Call (ResultPage CatalogueItem)
  | findOne (id : Uuid) : Call CatalogueItem
  | createItem (command : CatalogueAddItemCommand) : Call Unit
  | getConfiguration (locale : String) : Call Configuration
  | getRatings (target : RatingTarget) (id : Uuid) : Call (List Rating)
  | addRating (target : RatingTarget) (id : Uuid) (command : RatingCommand) : Call Unit

namespace Call

/-- Make a call. -/
def perform (gateway : Gateway σ) : Call α → Flow σ (Answer α)
  | login username password => Resource.login gateway username password
  | logout => Resource.logout gateway
  | getUserData => Resource.getUserData gateway
  | getProfile => Resource.getProfile gateway
  | setProfile command => Resource.setProfile gateway command
  | createAddress command => Resource.createAddress gateway command
  | updateAddress key command => Resource.updateAddress gateway key command
  | deleteAddress key => Resource.deleteAddress gateway key
  | register command => Resource.register gateway command
  | requestToken command => Resource.requestToken gateway command
  | verifyToken token => Resource.verifyToken gateway token
  | getCart => Resource.getCart gateway
  | addCartItem command => Resource.addCartItem gateway command
  | removeCartItem id => Resource.removeCartItem gateway id
  | clearCart => Resource.clearCart gateway
  | find query => Resource.find gateway query
  | findOne id => Resource.findOne gateway id
  | createItem command => Resource.createItem gateway command
  | getConfiguration locale => Resource.getConfiguration gateway locale
  | getRatings target id => Resource.getRatings gateway target id
  | addRating target id command => Resource.addRating gateway target id command

/-- The payload of a command. -/
def payload (record : Record α) (command : α) : Payload := .of record.codec command

/-- The call of the gateway that a call makes. -/
def base : Call α → Gateway.Call
  | login username password =>
    .submit "/login" [("username", username), ("password", password)]
  | logout => .submit "/logout" []
  | getUserData => .get "/action/account/user-data"
  | getProfile => .get profilePath
  | setProfile command => .post profilePath (payload ProfileCommand.record command)
  | createAddress command => .post addressesPath (payload AddressCommand.record command)
  | updateAddress key command => .put (addressPath key) (payload AddressCommand.record command)
  | deleteAddress key => .delete (addressPath key)
  | register command => .post "/action/account/register" (payload AccountCommand.record command)
  | requestToken command =>
    .post "/action/account/token/request" (payload ActivationTokenCommand.record command)
  | verifyToken token => .post (verificationPath token) none
  | getCart => .get cartPath
  | addCartItem command => .post cartPath (payload CartAddItemCommand.record command)
  | removeCartItem id => .delete (cartItemPath id)
  | clearCart => .delete cartPath
  | find query => .post cataloguePath (payload CatalogueQuery.record query)
  | findOne id => .get (itemPath id)
  | createItem command => .post itemsPath (payload CatalogueAddItemCommand.record command)
  | getConfiguration locale => .get (configurationPath locale)
  | getRatings target id => .get (ratingPath target id)
  | addRating target id command =>
    .post (ratingPath target id) (payload RatingCommand.record command)

/-- The body of a call can be written, whatever its arguments. -/
theorem exists_body (call : Call α) : ∃ body, call.base.body = .ok body := by
  cases call <;> exact ⟨_, rfl⟩

/-- A search notes how many publishers it has found, and joins them to the items. -/
theorem perform_find (gateway : Gateway σ) (query : CatalogueQuery) :
    (find query).perform gateway =
      (find query).base.perform gateway SearchEnvelope.codec >>= fun outcome =>
        Flow.noting
          (outcome.toOption.toList.map fun reply => .publishersFound reply.data.publishers.length)
          (outcome.map fun reply => reply.data.joined) := by
  refine bind_congr (x := gateway.post _ cataloguePath _) fun outcome => ?_
  cases outcome <;> rfl

/-- A call makes its call of the gateway and notes what it found. -/
theorem perform_eq (call : Call α) :
    ∃ (β : Type) (codec : Codec β) (events : Outcome (Reply β) → List Event)
      (result : Outcome (Reply β) → Answer α), ∀ {σ : Type} (gateway : Gateway σ),
      call.perform gateway =
        call.base.perform gateway codec >>= fun outcome =>
          Flow.noting (events outcome) (result outcome) := by
  cases call with
  | find query => exact ⟨_, _, _, _, fun gateway => perform_find gateway query⟩
  | _ => exact ⟨_, _, fun _ => [], fun outcome => outcome.map Reply.data, fun _ => rfl⟩

/-- A call sends the requests of its call of the gateway and leaves the session untouched. -/
theorem sends (gateway : Gateway σ) (call : Call α) :
    Flow.Sends (call.base.requests gateway) (call.perform gateway) := by
  obtain ⟨β, codec, events, result, performs⟩ := call.perform_eq
  rw [performs]
  exact (call.base.sends gateway codec).noting events result

/-- A call keeps a stable property. -/
theorem keeps {property : World σ → Prop} (gateway : Gateway σ) (call : Call α)
    (stable : gateway.Stable property) : Flow.Keeps property (call.perform gateway) := by
  obtain ⟨β, codec, events, result, performs⟩ := call.perform_eq
  rw [performs]
  exact .bind (stable.call codec call.base) fun _ => .noting stable.note _ _

end Call
end Resource
end GeoMarket
