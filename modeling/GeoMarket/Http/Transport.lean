import GeoMarket.Http.Error

/-!
# Transports

A transport answers requests, one after another, and keeps a state of its own between them. The
scripted transport takes its answers from a list.
-/
namespace GeoMarket.Http

/-- What answers requests: an answer or a failure for a request, and the next state. -/
abbrev Transport (σ : Type) := Request → σ → Except ApiError Response × σ

/-- An entry of a script. -/
inductive ScriptEntry
  /-- An answer. -/
  | answer (response : Response)
  /-- A request that cannot be built, for a reason. -/
  | setupFailure (reason : String)
  /-- A request that gets no answer, for a reason. -/
  | requestFailure (reason : String)

/-- What an entry makes of a request. -/
def ScriptEntry.respond (request : Request) : ScriptEntry → Except ApiError Response
  | answer response => .ok response
  | setupFailure reason => .error (.setup reason)
  | requestFailure reason => .error (.request request.method request.url reason)

/-- The transport that answers from a script; behind its end no request gets an answer. -/
def scripted : Transport (List ScriptEntry)
  | request, [] => (.error (.request request.method request.url "no scripted response"), [])
  | request, entry :: rest => (entry.respond request, rest)

end GeoMarket.Http
