import GeoMarket.Http.Request

/-!
# Failed requests

A request fails before it is sent, without an answer, or with an answer that is of no use. A
refusal that arrives in an envelope is not among these failures. Of a body that cannot be read it is
told where it came from; the words of the parser about it are left out, so that a failure to decode
has a reason only if somebody else gives one.
-/
namespace GeoMarket.Http

/-- Why a request fails. -/
inductive ApiError
  /-- The request cannot be built. -/
  | setup (reason : String)
  /-- No answer has come. -/
  | request (method : Method) (url reason : String)
  /-- The status of the answer is not one of success. -/
  | response (method : Method) (url : String) (status : Nat) (body : String)
  /-- The body of the answer cannot be read; the reason is given if it is known. -/
  | decode (url : String) (reason : Option String)
  deriving DecidableEq

/-- The stage at which a request fails. -/
inductive FailureStage
  /-- While the request is built. -/
  | setup
  /-- While the answer is awaited. -/
  | request
  /-- When the answer is there. -/
  | response
  deriving DecidableEq

namespace FailureStage

/-- The name of a stage. -/
def name : FailureStage → String
  | setup => "Setup"
  | request => "Request"
  | response => "Response"

/-- What the log says about a failure at a stage. -/
def headline : FailureStage → String
  | setup => "Error setting up request"
  | request => "No response received"
  | response => "Server responded with an error"

end FailureStage

namespace ApiError

/-- The stage of a failure. -/
def stage : ApiError → FailureStage
  | setup _ => .setup
  | request .. => .request
  | response .. => .response
  | decode .. => .response

/-- The status of an answer without success. -/
def status? : ApiError → Option Nat
  | response _ _ status _ => some status
  | _ => none

/-- The text shown for a failure. -/
def message : ApiError → String
  | setup reason => "Request setup failed: " ++ reason
  | request method url reason =>
    "No response for " ++ method.name ++ " " ++ url ++ ": " ++ reason
  | response method url status _ =>
    method.name ++ " " ++ url ++ " failed with status " ++ toString status
  | decode url reason =>
    "Failed to decode response from " ++ url ++ (reason.map (": " ++ ·)).getD ""

end ApiError
end GeoMarket.Http
