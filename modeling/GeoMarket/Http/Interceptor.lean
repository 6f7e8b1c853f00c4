import GeoMarket.Http.Request
import GeoMarket.Session.State

/-!
# Interceptors

Every request passes a chain of interceptors on its way to the transport. An interceptor may look
at the session as it is at that moment. The two standard ones add the token against forged
requests and the bearer token; an empty token counts as none.
-/
namespace GeoMarket.Http

/-- A change of requests that may depend on the session. -/
abbrev Interceptor := Session → Request → Request

namespace Interceptor

/-- The header for the token against forged requests when the session names none. -/
def defaultCsrfHeader : String := "X-CSRF-TOKEN"

/-- The text, unless it is empty. -/
def nonEmpty? (text : Option String) : Option String := text.filter fun value => value != ""

/-- The header that carries the token against forged requests. -/
def csrfHeader (defaultHeader : String) (session : Session) : String :=
  (nonEmpty? session.user.csrfHeader).getD defaultHeader

/-- Add the token against forged requests to a request that changes something. -/
def csrf (defaultHeader : String) : Interceptor := fun session request =>
  match request.method.isMutating, nonEmpty? session.user.csrfToken with
  | true, some token => request.withHeader (csrfHeader defaultHeader session) token
  | _, _ => request

/-- The header that carries the bearer token. -/
def authorizationHeader : String := "Authorization"

/-- Add the bearer token. -/
def bearer : Interceptor := fun session request =>
  match session.user.bearer? with
  | some token => request.withHeader authorizationHeader ("Bearer " ++ token)
  | none => request

/-- Set a header to a fixed value. -/
def setting (name value : String) : Interceptor := fun _ request => request.withHeader name value

/-- Put a text behind the value of a header, which may be missing. -/
def appending (name text : String) : Interceptor := fun _ request =>
  request.withHeader name ((request.header? name).getD "" ++ text)

/-- The request behind a chain of interceptors, from the first to the last. -/
def applyAll (chain : List Interceptor) (session : Session) (request : Request) : Request :=
  chain.foldl (fun request interceptor => interceptor session request) request

/-- The standard chain. -/
def standard (defaultHeader : String) : List Interceptor := [csrf defaultHeader, bearer]

end Interceptor
end GeoMarket.Http
