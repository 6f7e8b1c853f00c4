import GeoMarket.Client.Event
import GeoMarket.Http.Interceptor
import GeoMarket.Http.Transport
import GeoMarket.Record.Document
import GeoMarket.Text.Quoted

/-!
# The gateway to the server

A gateway builds requests below a base URL, passes them through its interceptors, hands them to a
transport and decodes the answers. Every failure is noted once in the log and returned as it is.
All that a run of the client touches is a world: the session, the state of the transport, and the
course of what has happened so far: changes committed, requests sent and events noted. A run does
one thing at a time, and flows do not share their world with others.
-/
namespace GeoMarket

/-- Something that happens in a run of the client. -/
inductive Happening
  /-- A change of the session is committed. -/
  | committed (mutation : Session.Mutation)
  /-- A request is handed to the transport. -/
  | sent (request : Http.Request)
  /-- An event is noted in the log. -/
  | noted (event : Event)

namespace Happening

/-- The change that is committed. -/
@[simp] def mutation? : Happening → Option Session.Mutation
  | committed mutation => some mutation
  | sent _ => none
  | noted _ => none

/-- The request that is handed to the transport. -/
@[simp] def request? : Happening → Option Http.Request
  | committed _ => none
  | sent request => some request
  | noted _ => none

/-- The event that is noted. -/
@[simp] def event? : Happening → Option Event
  | committed _ => none
  | sent _ => none
  | noted event => some event

/-- What happens when the session is changed: the change, and the event that goes with it. -/
def ofMutation (mutation : Session.Mutation) : List Happening :=
  committed mutation :: (Event.ofMutation? mutation).toList.map noted

end Happening

/-- What a run of the client touches; the state of the transport has any type. -/
structure World (σ : Type) where
  /-- The session. -/
  session : Session := {}
  /-- The state of the transport. -/
  wire : σ
  /-- What has happened so far, in order. -/
  course : List Happening := []

namespace World

variable {σ : Type}

/-- The changes of the session, in order. -/
def committed (world : World σ) : List Session.Mutation :=
  world.course.filterMap Happening.mutation?

/-- The requests handed to the transport, in order. -/
def sent (world : World σ) : List Http.Request := world.course.filterMap Happening.request?

/-- The events noted in the log, in order. -/
def events (world : World σ) : List Event := world.course.filterMap Happening.event?

end World

/-- A run of the client that ends with a value. -/
abbrev Flow (σ : Type) := StateM (World σ)

namespace Flow

variable {σ : Type}

/-- The session as it is now. -/
def session : Flow σ Session := do return (← get).session

/-- Note an event. -/
def note (event : Event) : Flow σ Unit :=
  modify fun world => { world with course := world.course ++ [.noted event] }

/-- Change the session, noting the event that goes with the change. -/
def commit (mutation : Session.Mutation) : Flow σ Unit :=
  modify fun world =>
    { world with
      session := world.session.apply mutation
      course := world.course ++ Happening.ofMutation mutation }

/-- Hand a request to the transport. -/
def exchange (transport : Http.Transport σ) (request : Http.Request) :
    Flow σ (Except Http.ApiError Http.Response) := fun world =>
  let (answer, wire) := transport request world.wire
  (answer, { world with wire, course := world.course ++ [.sent request] })

end Flow

/-- The gateway to a server. -/
structure Gateway (σ : Type) where
  /-- The base URL without slashes at its end. -/
  baseUrl : String
  /-- The interceptors that every request passes. -/
  chain : List Http.Interceptor
  /-- What answers the requests. -/
  transport : Http.Transport σ

/-- A value to be sent, if it has a JSON form. -/
inductive Payload
  /-- The JSON form of the value. -/
  | tree (value : Json)
  /-- The value has none, for a reason. -/
  | refused (reason : String)

/-- The payload of a value with a codec. -/
def Payload.of {α : Type} (codec : Codec α) (value : α) : Payload := .tree (codec.write value)

/-- A decoded answer. -/
structure Reply (α : Type) where
  /-- The status of the answer. -/
  status : Nat
  /-- The value of its body. -/
  data : α

/-- How a call of the server ends. -/
abbrev Outcome (α : Type) := Except Http.ApiError α

namespace Gateway

variable {σ α : Type}

/-- The gateway below a base URL. -/
def create (baseUrl : String) (chain : List Http.Interceptor) (transport : Http.Transport σ) :
    Gateway σ :=
  { baseUrl := String.ofList (Text.dropTrailing '/' baseUrl.toList), chain, transport }

/-- What developers are shown of a chain of interceptors. -/
def chainSummary (chain : List Http.Interceptor) : String :=
  "InterceptorChain \x7b len: " ++ toString chain.length ++ " \x7d"

/-- What developers are shown of a gateway. -/
def summary (gateway : Gateway σ) : String :=
  "ApiClient \x7b base_url: " ++ Text.quoted gateway.baseUrl ++ ", interceptors: "
    ++ chainSummary gateway.chain ++ ", .. \x7d"

/-- The URL of a path. -/
def url (gateway : Gateway σ) (path : String) : String := gateway.baseUrl ++ path

/-- Note a failure and return it. -/
def fail (error : Http.ApiError) : Flow σ (Outcome α) := do
  Flow.note (.failed error)
  return .error error

/-- The value of an answer with a status of success. -/
def interpret (codec : Codec α) (request : Http.Request) (response : Http.Response) :
    Outcome (Reply α) :=
  if response.isSuccess then
    match codec.decode? response.body with
    | some data => .ok ⟨response.status, data⟩
    | none => .error (.decode request.url none)
  else .error (.response request.method request.url response.status response.body)

/-- Send a request and decode the answer. -/
def send (gateway : Gateway σ) (codec : Codec α) (request : Http.Request) :
    Flow σ (Outcome (Reply α)) := do
  let request := Http.Interceptor.applyAll gateway.chain (← Flow.session) request
  Flow.note (.sending request.method request.url)
  match ← Flow.exchange gateway.transport request with
  | .error error => fail error
  | .ok response =>
    match interpret codec request response with
    | .error error => fail error
    | .ok reply => return .ok reply

/-- Send a request with a payload, which may turn out to have no JSON form. -/
def sendPayload (gateway : Gateway σ) (codec : Codec α) (request : Http.Request)
    (payload : Payload) : Flow σ (Outcome (Reply α)) :=
  match payload with
  | .tree value => gateway.send codec (request.withBody (.json value))
  | .refused reason => fail (.setup ("Failed to serialize request body: " ++ reason))

/-- Look at something. -/
def get (gateway : Gateway σ) (codec : Codec α) (path : String) : Flow σ (Outcome (Reply α)) :=
  gateway.send codec { method := .get, url := gateway.url path }

/-- Remove something. -/
def delete (gateway : Gateway σ) (codec : Codec α) (path : String) : Flow σ (Outcome (Reply α)) :=
  gateway.send codec { method := .delete, url := gateway.url path }

/-- Create or do something, with or without a payload. -/
def post (gateway : Gateway σ) (codec : Codec α) (path : String) (payload : Option Payload) :
    Flow σ (Outcome (Reply α)) :=
  let request : Http.Request := { method := .post, url := gateway.url path }
  match payload with
  | some payload => gateway.sendPayload codec request payload
  | none => gateway.send codec request

/-- Replace something. -/
def put (gateway : Gateway σ) (codec : Codec α) (path : String) (payload : Payload) :
    Flow σ (Outcome (Reply α)) :=
  gateway.sendPayload codec { method := .put, url := gateway.url path } payload

/-- The media type of forms. -/
def formType : String := "application/x-www-form-urlencoded"

/-- Send a form. -/
def submit (gateway : Gateway σ) (codec : Codec α) (path : String)
    (fields : List (String × String)) : Flow σ (Outcome (Reply α)) :=
  gateway.send codec
    { method := .post
      url := gateway.url path
      headers := [("Content-Type", formType)]
      body := .form fields }

end Gateway
end GeoMarket
