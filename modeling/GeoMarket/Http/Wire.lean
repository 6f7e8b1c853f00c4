import GeoMarket.Http.Cookie
import GeoMarket.Http.Transport
import GeoMarket.Json.Writer

/-!
# Requests on the wire

The transport over HTTP puts a request into the form that goes over the connection: lower-case
header names, a JSON body without white space and with sorted keys, a form in its encoding, and
the cookies that the server has set. A request with a URL, a header name or a header value that
HTTP does not allow is not sent at all. What lies below the connection is left out, encryption and
names of hosts among it, and so are answers that send the client elsewhere: they are answers like
any other here.
-/
namespace GeoMarket.Http

/-- A request as it goes over the connection. -/
structure WireRequest where
  /-- The verb. -/
  method : Method
  /-- The path with the query. -/
  target : String
  /-- The headers, with names in small letters. -/
  headers : Headers
  /-- The body. -/
  body : String

/-- What a server does with a request. -/
inductive WireReply
  /-- It answers; the connection may end before the announced length. -/
  | answer (status : Nat) (headers : Headers) (body : String) (truncated : Bool)
  /-- It closes the connection. -/
  | dropped

/-- A server with the replies that it is going to give. -/
structure Server where
  /-- Scheme, host and port. -/
  origin : String
  /-- The replies to come. -/
  replies : List WireReply

/-- What the transport keeps between requests. -/
structure Wire where
  /-- The only server that can be reached, if there is one. -/
  server : Option Server
  /-- Cookies are kept. -/
  keepsCookies : Bool
  /-- The cookies of the server. -/
  cookies : List Cookie := []
  /-- The requests that the server has received, in order. -/
  received : List WireRequest := []

namespace WireRequest

/-- A character of a header name. -/
def isNameCharacter (character : Char) : Bool :=
  character.isAlphanum || "!#$%&'*+-.^_`|~".toList.contains character

/-- A name that a header can have. -/
def isName (name : String) : Bool := name != "" && name.toList.all isNameCharacter

/-- A value that a header can have. -/
def isValue (value : String) : Bool :=
  value.toList.all fun character =>
    character == '\t' || (32 ≤ character.toNat && character.toNat != 127)

/-- The text of a payload and its media type. -/
def payload : Body → Option (String × String)
  | .empty => none
  | .json value => some (value.sorted.compact, "application/json")
  | .form fields => some (Text.Percent.form fields, "application/x-www-form-urlencoded")

/-- The headers with one more, unless there is one of its name. -/
def withDefault (headers : Headers) (name : String) (value : Option String) : Headers :=
  match value, headers.find? name with
  | some value, none => headers ++ [(name, value)]
  | _, _ => headers

/-- The form of a request to a URL with some cookies. -/
def ofRequest? (request : Request) (url : Url) (cookies : List Cookie) : Option WireRequest :=
  if request.headers.all fun header => isName header.1 && isValue header.2 then
    let content := payload request.body
    let headers := request.headers.map fun (name, value) =>
      (String.ofList (Text.lower name), value)
    let headers := withDefault headers "content-type" (content.map (·.2))
    some
      { method := request.method
        target := url.target
        headers := withDefault headers "cookie" (Cookie.header? cookies url)
        body := (content.map (·.1)).getD "" }
  else none

end WireRequest

namespace Wire

/-- A connection that finds no server. -/
def offline (keepsCookies : Bool) : Wire := { server := none, keepsCookies }

/-- Statuses that come without a body. -/
def isBodiless (status : Nat) : Bool := status == 204 || status == 304

/-- A failed connection. -/
def noAnswer (request : Request) (url : Url) : ApiError :=
  .request request.method request.url ("error sending request for url (" ++ url.text ++ ")")

/-- A request that cannot be built. -/
def invalid (request : Request) : ApiError :=
  .setup ("Invalid request " ++ request.method.name ++ " " ++ request.url ++ ": builder error")

/-- The cookies after an answer. -/
def cookiesAfter (wire : Wire) (url : Url) (headers : Headers) : List Cookie :=
  if wire.keepsCookies then
    (headers.filter fun header => Text.sameIgnoringCase header.1 "set-cookie").foldl
      (fun cookies header => Cookie.store cookies url header.2) wire.cookies
  else wire.cookies

/-- What a reply means for a request. -/
def interpret (request : Request) (url : Url) : WireReply → Except ApiError Response
  | .dropped => .error (noAnswer request url)
  | .answer status _ body truncated =>
    if status < 200 ∨ 999 < status then .error (noAnswer request url)
    else if isBodiless status then .ok ⟨status, ""⟩
    else if truncated then .error (.decode request.url none)
    else .ok ⟨status, body⟩

/-- The headers of a reply. -/
def replyHeaders : WireReply → Headers
  | .dropped => []
  | .answer _ headers _ _ => headers

/-- The transport over HTTP. -/
def transport : Transport Wire := fun request wire =>
  match Url.parse? request.url with
  | none => (.error (invalid request), wire)
  | some url =>
    match WireRequest.ofRequest? request url wire.cookies with
    | none => (.error (invalid request), wire)
    | some sent =>
      match wire.server with
      | none => (.error (noAnswer request url), wire)
      | some server =>
        if server.origin == url.origin then
          let reply := server.replies.headD .dropped
          (interpret request url reply,
            { wire with
              server := some { server with replies := server.replies.drop 1 }
              cookies := wire.cookiesAfter url (replyHeaders reply)
              received := wire.received ++ [sent] })
        else (.error (noAnswer request url), wire)

end Wire
end GeoMarket.Http
