import GeoMarket.Json.Basic
import GeoMarket.Text.Ascii

/-!
# Requests

A request as the client hands it to a transport. Header names are compared without regard to
the case of ASCII letters; setting a header changes the first one of its name in place, or adds
it at the end.
-/
namespace GeoMarket.Http

/-- The verbs that the server understands. -/
inductive Method
  /-- Look at something. -/
  | get
  /-- Create or do something. -/
  | post
  /-- Replace something. -/
  | put
  /-- Remove something. -/
  | delete
  deriving DecidableEq

namespace Method

/-- The name of a verb. -/
def name : Method → String
  | get => "GET"
  | post => "POST"
  | put => "PUT"
  | delete => "DELETE"

/-- The verb with a given name. -/
def ofName? (name : String) : Option Method :=
  [get, post, put, delete].find? fun method => method.name == name

/-- The verb changes something on the server. -/
def isMutating : Method → Bool
  | get => false
  | _ => true

end Method

/-- The payload of a request. -/
inductive Body
  /-- No payload. -/
  | empty
  /-- A JSON value. -/
  | json (value : Json)
  /-- The fields of a form, in order. -/
  | form (fields : List (String × String))

/-- Names with their values, in order. -/
abbrev Headers := List (String × String)

namespace Headers

/-- The value of the first header with a name. -/
def find? (headers : Headers) (name : String) : Option String :=
  (List.find? (fun header => Text.sameIgnoringCase header.1 name) headers).map (·.2)

/-- The headers with one of them set: the first one of the name gets the value and keeps its
spelling; a new name goes to the end. -/
def set (name value : String) : Headers → Headers
  | [] => [(name, value)]
  | (other, old) :: rest =>
    if Text.sameIgnoringCase other name then (other, value) :: rest
    else (other, old) :: set name value rest

end Headers

/-- A request. -/
structure Request where
  /-- The verb. -/
  method : Method
  /-- The absolute URL. -/
  url : String
  /-- The headers, in order. -/
  headers : Headers := []
  /-- The payload. -/
  body : Body := .empty

namespace Request

/-- The value of a header. -/
def header? (request : Request) (name : String) : Option String := request.headers.find? name

/-- The request with a header set. -/
def withHeader (request : Request) (name value : String) : Request :=
  { request with headers := request.headers.set name value }

/-- The request with a payload. -/
def withBody (request : Request) (body : Body) : Request := { request with body }

end Request

/-- What the server answered. -/
structure Response where
  /-- The status. -/
  status : Nat
  /-- The body as a text. -/
  body : String
  deriving DecidableEq

/-- The status tells of success. -/
def Response.isSuccess (response : Response) : Bool :=
  decide (200 ≤ response.status) && decide (response.status < 300)

end GeoMarket.Http
