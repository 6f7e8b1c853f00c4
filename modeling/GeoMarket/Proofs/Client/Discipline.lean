import GeoMarket.Proofs.Client.Call

/-!
# The discipline of calls

A call of the gateway whose body cannot be written is noted as a failure and sends nothing. Any
other call is announced in the log, handed to the transport once as the interceptors have left it,
and concluded from the answer alone. A failure is noted once, behind everything else, and returned
as it is; what succeeds is not noted. The session is never touched.
-/
namespace GeoMarket.Gateway

open Http

variable {σ α : Type}

/-- How a request has to be concluded that got an answer, or none, from the transport. -/
inductive Concludes (codec : Codec α) (request : Request) :
    Except ApiError Response → Outcome (Reply α) → Prop
  /-- A failure of the transport stays as it is. -/
  | unanswered (error : ApiError) : Concludes codec request (.error error) (.error error)
  /-- A status that is not one of success is a failure, whatever the body says. -/
  | unsuccessful (response : Response) (outside : ¬(200 ≤ response.status ∧ response.status ≤ 299)) :
      Concludes codec request (.ok response)
        (.error (.response request.method request.url response.status response.body))
  /-- A body that does not hold a value of the expected type is a failure. -/
  | undecodable (response : Response) (inside : 200 ≤ response.status ∧ response.status ≤ 299)
      (unreadable : codec.decode? response.body = none) :
      Concludes codec request (.ok response) (.error (.decode request.url none))
  /-- Any value of the expected type, an envelope that reports failure too, is brought with its
  status. -/
  | decoded (response : Response) (data : α)
      (inside : 200 ≤ response.status ∧ response.status ≤ 299)
      (readable : codec.decode? response.body = some data) :
      Concludes codec request (.ok response) (.ok ⟨response.status, data⟩)

/-- The lines of a log. -/
def log (world : World σ) : List String := world.events.map Event.line

/-- The line that announces a request. -/
def announcement (request : Request) : String :=
  "DEBUG " ++ request.method.name ++ " " ++ request.url

/-- The lines that an outcome leaves in the log: one for a failure, which tells its stage. -/
def complaints : Outcome α → List String
  | .error error => ["ERROR " ++ error.stage.headline ++ ": " ++ error.message]
  | .ok _ => []

/-- A status of success is one from 200 to 299. -/
theorem isSuccess_iff (response : Response) :
    response.isSuccess = true ↔ 200 ≤ response.status ∧ response.status ≤ 299 := by
  unfold Response.isSuccess
  rw [Bool.and_eq_true, decide_eq_true_iff, decide_eq_true_iff]
  omega

/-- A request is concluded from what the transport makes of it. -/
theorem concludes_answer (gateway : Gateway σ) (codec : Codec α) (request : Request) (wire : σ) :
    Concludes codec request (gateway.transport request wire).1
      (gateway.answer codec request wire) := by
  unfold answer
  cases (gateway.transport request wire).1 with
  | error error => exact .unanswered error
  | ok response =>
    dsimp only [interpret]
    split
    next success =>
      have inside := (isSuccess_iff response).mp success
      split
      next data readable => exact .decoded response data inside readable
      next unreadable => exact .undecodable response inside unreadable
    next failure =>
      exact .unsuccessful response fun inside => failure ((isSuccess_iff response).mpr inside)

/-- A conclusion brings a value exactly if an answer with a status of success holds it. -/
theorem Concludes.map_data_eq_ok_iff {codec : Codec α} {request : Request}
    {answer : Except ApiError Response} {ending : Outcome (Reply α)}
    (concluded : Concludes codec request answer ending) (value : α) :
    ending.map Reply.data = .ok value ↔
      ∃ response, answer = .ok response ∧ 200 ≤ response.status ∧ response.status ≤ 299 ∧
        codec.decode? response.body = some value := by
  cases concluded with
  | unanswered error => simp [Except.map]
  | unsuccessful response outside =>
    simp [Except.map]
    omega
  | undecodable response inside unreadable => simp [Except.map, unreadable]
  | decoded response data inside readable => simp [Except.map, readable, inside]

/-- The line of a failure tells its stage and its message. -/
theorem line_failed (error : ApiError) :
    (Event.failed error).line = "ERROR " ++ error.stage.headline ++ ": " ++ error.message := by
  have spaced : "ERROR" ++ " " = "ERROR " := by decide
  change "ERROR" ++ " " ++ (error.stage.headline ++ ": " ++ error.message) = _
  rw [spaced]
  simp only [String.append_assoc]

/-- The line of a request that is about to be sent announces it. -/
theorem line_sending (request : Request) :
    (Event.sending request.method request.url).line = announcement request := by
  have spaced : "DEBUG" ++ " " = "DEBUG " := by decide
  change "DEBUG" ++ " " ++ (request.method.name ++ " " ++ request.url) = _
  rw [spaced]
  simp only [announcement, String.append_assoc]

/-- The events of an outcome leave its lines in the log. -/
theorem map_line_failures (outcome : Outcome α) :
    (failures outcome).map Event.line = complaints outcome := by
  cases outcome with
  | error error => exact congrArg (fun line => [line]) (line_failed error)
  | ok reply => rfl

/-- A failure before any request is the only line that the log gets. -/
theorem log_behind_fail (error : ApiError) (world : World σ) :
    log ((fail error : Flow σ (Outcome (Reply α))).behind world) =
      log world ++ ["ERROR " ++ error.stage.headline ++ ": " ++ error.message] := by
  rw [behind_fail, log, World.events_append, List.map_append, log]
  exact congrArg (fun line => world.events.map Event.line ++ [line]) (line_failed error)

/-- A request leaves its announcement in the log, and a complaint behind it if it fails. -/
theorem log_answered (gateway : Gateway σ) (codec : Codec α) (request : Request)
    (world : World σ) :
    log (gateway.answered codec request world) =
      log world ++ announcement request :: complaints (gateway.answer codec request world.wire) := by
  have noted (events : List Event) :
      (events.map Happening.noted).filterMap Happening.event? = events := by
    rw [List.filterMap_map]
    exact List.filterMap_some
  rw [answered, log, World.events_append, List.map_append, log]
  simp only [List.filterMap_cons, Happening.event?, noted, List.map_cons, line_sending,
    map_line_failures]

/-- **Failure discipline.** For every chain of interceptors, every call and every transport: a body
that cannot be written is a failure of the setup, which is noted, and nothing is sent. Otherwise the
request that the chain has left is announced, then handed to the transport once, and the call ends
as the answer concludes it; the failure, if it is one, is noted behind that, and nothing else is.
The session stays as it is. -/
theorem perform_discipline (gateway : Gateway σ) (codec : Codec α) (call : Call)
    (world : World σ) :
    let ending := (call.perform gateway codec).value world
    let after := (call.perform gateway codec).behind world
    after.session = world.session ∧
    match call.body with
    | .error reason =>
      let error : ApiError := .setup ("Failed to serialize request body: " ++ reason)
      ending = .error error ∧ after.wire = world.wire ∧
        after.course = world.course ++ [.noted (.failed error)] ∧
        log after = log world ++ ["ERROR Error setting up request: " ++ error.message]
    | .ok body =>
      let request := Interceptor.applyAll gateway.chain world.session (call.request gateway body)
      let (answer, wire) := gateway.transport request world.wire
      Concludes codec request answer ending ∧ after.wire = wire ∧
        after.course = world.course ++
          .noted (.sending request.method request.url) :: .sent request ::
            (failures ending).map .noted ∧
        log after = log world ++ announcement request :: complaints ending := by
  intro ending after
  refine ⟨(call.sends gateway codec).session world, ?_⟩
  cases written : call.body with
  | error reason =>
    have failed := Call.perform_of_unwritten written gateway codec
    have ended := congrArg (Flow.value · world) failed
    have left : after = _ := congrArg (Flow.behind · world) failed
    rw [left]
    exact ⟨ended, rfl, rfl, log_behind_fail _ world⟩
  | ok body =>
    have sent := Call.perform_of_written written gateway codec
    have ended : ending = gateway.answer codec _ world.wire :=
      (congrArg (Flow.value · world) sent).trans (value_send gateway codec _ world)
    have left : after = gateway.answered codec _ world :=
      (congrArg (Flow.behind · world) sent).trans (behind_send gateway codec _ world)
    rw [ended, left]
    exact ⟨concludes_answer gateway codec _ world.wire, rfl, rfl, log_answered gateway codec _ world⟩

end GeoMarket.Gateway
