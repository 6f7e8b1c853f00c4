import GeoMarket.Client.Marketplace
import GeoMarket.Proofs.Client.Course
import GeoMarket.Proofs.Client.Discipline
import GeoMarket.Proofs.Http.Headers

/-!
# Loading the configuration

Loading takes one request, which stands in the course between two changes of the session: the first
one says that a configuration is on its way, and the second one takes this back, however the request
has ended. A further change follows behind an envelope of success only; it puts the configuration of
the envelope in place of the one before.
-/
namespace GeoMarket.MarketplaceClient

open Http

variable {σ : Type} (client : MarketplaceClient σ)

/-- The request for the configuration for a locale, as it is handed to the transport in a
session. -/
def configurationRequest (session : Session) (locale : String) : Request :=
  client.gateway.handed session
    { method := .get, url := client.gateway.url (Resource.configurationPath locale) }

/-- How a request for the configuration ends, given what the transport makes of it. -/
def configurationReply (request : Request) (wire : σ) : Outcome (Reply (Envelope Configuration)) :=
  client.gateway.answer (Envelope.codec Configuration.codec) request wire

/-- A call for the configuration ends with the data of its reply. -/
theorem value_getConfiguration (locale : String) (world : World σ) :
    (Resource.getConfiguration client.gateway locale).value world =
      (client.configurationReply (client.configurationRequest world.session locale)
        world.wire).map Reply.data := by
  rw [Resource.getConfiguration, Resource.value_unwrapped, Gateway.get, Gateway.value_send]
  rfl

/-- A call for the configuration sends its request. -/
theorem behind_getConfiguration (locale : String) (world : World σ) :
    (Resource.getConfiguration client.gateway locale).behind world =
      client.gateway.answered (Envelope.codec Configuration.codec)
        (client.configurationRequest world.session locale) world := by
  rw [Resource.getConfiguration, Resource.behind_unwrapped, Gateway.get, Gateway.behind_send]
  rfl

/-! ## What is kept of an answer -/

/-- The change that an answer brings about: an envelope of success sets the configuration. -/
def configurationKept : Resource.Answer Configuration → List Session.Mutation
  | .ok ⟨_, configuration, true⟩ => [.setConfiguration configuration]
  | _ => []

/-- The last part of loading: to keep the configuration of an answer, if it is one of success. -/
def keepConfiguration : Resource.Answer Configuration → Flow σ (Resource.Answer Configuration)
  | .error error => return .error error
  | .ok response => do
    if response.success then Flow.commit (.setConfiguration response.result)
    return .ok response

/-- Keeping the configuration of an answer passes the answer on. -/
theorem value_keepConfiguration (answer : Resource.Answer Configuration) (world : World σ) :
    (keepConfiguration answer).value world = answer := by
  rcases answer with error | ⟨messages, configuration, _ | _⟩ <;> rfl

/-- Keeping the configuration of an answer changes the session as the answer demands, and does no
more. -/
theorem behind_keepConfiguration (answer : Resource.Answer Configuration) (world : World σ) :
    (keepConfiguration answer).behind world =
      { world with
        session := world.session.applyAll (configurationKept answer)
        course := world.course ++ (configurationKept answer).map .committed } := by
  rcases answer with error | ⟨messages, configuration, _ | _⟩
  · simp [keepConfiguration, configurationKept, Session.applyAll]
  · simp [keepConfiguration, configurationKept, Session.applyAll]
  · rfl

/-! ## Two changes around a request -/

/-- Loading marks the session, makes its request, takes the mark back, and keeps what it may. -/
theorem loadConfiguration_eq (locale : Option String) :
    client.loadConfiguration locale = (do
      Flow.commit (.setLoading true)
      let answer ← Resource.getConfiguration client.gateway (locale.getD client.config.locale)
      Flow.commit (.setLoading false)
      keepConfiguration answer) := rfl

/-- What happens between the two changes: the request, and nothing that changes the session. -/
def whileLoading (request : Request) (reply : Outcome (Reply (Envelope Configuration))) :
    List Happening :=
  .noted (.sending request.method request.url) :: .sent request ::
    (Gateway.failures reply).map .noted

/-- What happens while the configuration is loaded. -/
def loadingCourse (request : Request) (reply : Outcome (Reply (Envelope Configuration))) :
    List Happening :=
  .committed (.setLoading true) :: whileLoading request reply ++
    .committed (.setLoading false) :: (configurationKept (reply.map Reply.data)).map .committed

/-- Loading the configuration ends as its request does. -/
theorem value_loadConfiguration (locale : Option String) (world : World σ) :
    (client.loadConfiguration locale).value world =
      (client.configurationReply (client.configurationRequest
        (world.session.apply (.setLoading true)) (locale.getD client.config.locale))
        world.wire).map Reply.data := by
  rw [loadConfiguration_eq]
  simp only [Flow.value_bind, Flow.behind_commit, value_keepConfiguration, value_getConfiguration]

/-- Loading the configuration leaves the world with its course behind the one before, and with the
session that the changes in the course make. -/
theorem behind_loadConfiguration (locale : Option String) (world : World σ) :
    let marked := world.session.apply (.setLoading true)
    let request := client.configurationRequest marked (locale.getD client.config.locale)
    let reply := client.configurationReply request world.wire
    (client.loadConfiguration locale).behind world =
      { session := (marked.apply (.setLoading false)).applyAll
          (configurationKept (reply.map Reply.data))
        wire := (client.gateway.transport request world.wire).2
        course := world.course ++ loadingCourse request reply } := by
  intro marked request reply
  rw [loadConfiguration_eq]
  simp only [Flow.behind_bind, Flow.behind_commit, behind_keepConfiguration,
    value_getConfiguration, behind_getConfiguration, Gateway.answered]
  simp only [List.append_assoc]
  rfl

/-- Up to the second change, the session is marked as loading. -/
theorem loading_along {session : Session} {passed : List Happening} {request : Request}
    {reply : Outcome (Reply (Envelope Configuration))}
    (part : passed <+: whileLoading request reply) :
    (session.along (.committed (.setLoading true) :: passed)).config.loading = true := by
  have silent : (whileLoading request reply).filterMap Happening.mutation? = [] :=
    Happening.filterMap_mutation?_noted (Gateway.failures reply)
  have unchanged : passed.filterMap Happening.mutation? = [] := by
    have fewer := part.filterMap Happening.mutation?
    rw [silent] at fewer
    exact List.prefix_nil.mp fewer
  rw [Session.along, List.filterMap_cons, Happening.mutation?, unchanged]
  rfl

/-- One request is sent while the configuration is loaded. -/
theorem requests_loadingCourse (request : Request)
    (reply : Outcome (Reply (Envelope Configuration))) :
    (loadingCourse request reply).filterMap Happening.request? = [request] := by
  simp [loadingCourse, whileLoading, List.filterMap_cons]

/-- Behind both changes, the session differs from the one before in what concerns the configuration
only. -/
theorem session_loaded (session : Session) (answer : Resource.Answer Configuration) :
    ((session.apply (.setLoading true)).apply (.setLoading false)).applyAll
        (configurationKept answer) =
      { session with
        config :=
          { configuration :=
              match answer with
              | .ok ⟨_, configuration, true⟩ => configuration
              | _ => session.config.configuration
            loading := false } } := by
  rcases answer with error | ⟨messages, configuration, _ | _⟩ <;> rfl

/-- **Loading the configuration.** For every session, every locale and every transport: loading
hands one request to the transport, which looks at the configuration for the locale, or for that of
the settings when none is given. At every moment from before the request up to its conclusion the
session is marked as loading. However the request is concluded, loading ends with this, and behind
it the session is not marked. It holds the configuration that an envelope of success has brought,
which may be none, and the one from before behind everything else. What concerns the user and the
shop stays as it was. -/
theorem loadConfiguration_commits (config : ClientConfig) (transport : Transport σ)
    (navigator : Navigation.Navigator) (locale : Option String) (world : World σ) :
    let client : MarketplaceClient σ :=
      { config, gateway := gatewayFor config transport, navigator }
    let request := client.configurationRequest (world.session.apply (.setLoading true))
      (locale.getD config.locale)
    let ending := (client.loadConfiguration locale).value world
    let after := (client.loadConfiguration locale).behind world
    (request.method = .get ∧ request.body = .empty ∧
      request.url = client.gateway.baseUrl ++
        ("/action/configuration/" ++ Text.Percent.segment (locale.getD config.locale))) ∧
    (∃ reply,
      Gateway.Concludes (Envelope.codec Configuration.codec) request
        (transport request world.wire).1 reply ∧
      ending = reply.map Reply.data ∧
      after.sent = world.sent ++ [request] ∧ after.wire = (transport request world.wire).2 ∧
      after.course = world.course ++ loadingCourse request reply ∧
      ∀ passed, passed <+: whileLoading request reply →
        (world.session.along (.committed (.setLoading true) :: passed)).config.loading = true) ∧
    after.session =
      { world.session with
        config :=
          { configuration :=
              match ending with
              | .ok ⟨_, configuration, true⟩ => configuration
              | _ => world.session.config.configuration
            loading := false } } := by
  intro client request ending after
  have ended : ending = (client.configurationReply request world.wire).map Reply.data :=
    client.value_loadConfiguration locale world
  have left : after = _ := client.behind_loadConfiguration locale world
  refine ⟨?_, ⟨client.configurationReply request world.wire, ?_, ended, ?_, ?_, ?_, ?_⟩, ?_⟩
  · obtain ⟨method, url, body⟩ := Interceptor.standard_keeps config.csrfHeader
      (world.session.apply (.setLoading true))
      { method := .get
        url := client.gateway.url (Resource.configurationPath (locale.getD config.locale)) }
    exact ⟨method, body, url⟩
  · exact client.gateway.concludes_answer _ request world.wire
  · rw [left, World.sent_append, requests_loadingCourse]
  · exact congrArg World.wire left
  · exact congrArg World.course left
  · exact fun passed part => loading_along part
  · rw [left, session_loaded, ended]

end GeoMarket.MarketplaceClient
