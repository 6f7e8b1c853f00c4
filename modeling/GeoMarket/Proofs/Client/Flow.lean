import GeoMarket.Client.Gateway

/-!
# Running flows

A flow takes the world from one state to another and ends with a value. The session, the wire and
the course behind a flow follow from those behind its parts, and a property of the world that each
part keeps is kept by the whole.
-/
namespace GeoMarket

variable {σ : Type}

namespace Happening

/-- Events that are noted change nothing. -/
theorem filterMap_mutation?_noted (events : List Event) :
    (events.map noted).filterMap mutation? = [] := by
  simp

/-- Events that are noted send nothing. -/
theorem filterMap_request?_noted (events : List Event) :
    (events.map noted).filterMap request? = [] := by
  simp

/-- A change of the session is the only one that is committed with it. -/
@[simp] theorem filterMap_mutation?_ofMutation (mutation : Session.Mutation) :
    (ofMutation mutation).filterMap mutation? = [mutation] := by
  simp [ofMutation]

/-- A change of the session sends nothing. -/
@[simp] theorem filterMap_request?_ofMutation (mutation : Session.Mutation) :
    (ofMutation mutation).filterMap request? = [] := by
  simp [ofMutation]

end Happening

namespace World

variable (session : Session) (wire : σ) (world : World σ) (further : List Happening)

/-- What happens further adds its requests to those before. -/
@[simp] theorem sent_append :
    sent ⟨session, wire, world.course ++ further⟩ =
      world.sent ++ further.filterMap Happening.request? :=
  List.filterMap_append

/-- What happens further adds its events to those before. -/
@[simp] theorem events_append :
    events ⟨session, wire, world.course ++ further⟩ =
      world.events ++ further.filterMap Happening.event? :=
  List.filterMap_append

end World

namespace Flow

universe u

variable {α β : Type}

/-- The value with which a flow ends. -/
def value (flow : Flow σ α) (world : World σ) : α := (flow world).1

/-- The world behind a flow. -/
def behind (flow : Flow σ α) (world : World σ) : World σ := (flow world).2

/-- A flow that does nothing ends with its value. -/
@[simp] theorem value_pure (result : α) (world : World σ) :
    value (pure result) world = result := rfl

/-- A flow that does nothing leaves the world alone. -/
@[simp] theorem behind_pure (result : α) (world : World σ) :
    behind (pure result) world = world := rfl

/-- The second of two flows gives the value. -/
@[simp] theorem value_bind (first : Flow σ α) (next : α → Flow σ β) (world : World σ) :
    value (first >>= next) world = value (next (value first world)) (behind first world) := rfl

/-- The second of two flows runs behind the first. -/
@[simp] theorem behind_bind (first : Flow σ α) (next : α → Flow σ β) (world : World σ) :
    behind (first >>= next) world = behind (next (value first world)) (behind first world) := rfl

/-- A flow with its value changed ends with the changed value. -/
@[simp] theorem value_map (change : α → β) (flow : Flow σ α) (world : World σ) :
    value (change <$> flow) world = change (value flow world) := rfl

/-- Changing the value of a flow touches nothing else. -/
@[simp] theorem behind_map (change : α → β) (flow : Flow σ α) (world : World σ) :
    behind (change <$> flow) world = behind flow world := rfl

/-- Looking at the session gives the session. -/
@[simp] theorem value_session (world : World σ) : value session world = world.session := rfl

/-- Looking at the session leaves the world alone. -/
@[simp] theorem behind_session (world : World σ) : behind session world = world := rfl

/-- Noting an event puts it at the end of the log. -/
@[simp] theorem behind_note (event : Event) (world : World σ) :
    behind (note event) world = { world with course := world.course ++ [.noted event] } := rfl

/-- A change of the session is committed and applied. -/
@[simp] theorem behind_commit (mutation : Session.Mutation) (world : World σ) :
    behind (commit mutation) world =
      { world with
        session := world.session.apply mutation
        course := world.course ++ Happening.ofMutation mutation } := rfl

/-- The answer to a request is that of the transport. -/
@[simp] theorem value_exchange (transport : Http.Transport σ) (request : Http.Request)
    (world : World σ) :
    value (exchange transport request) world = (transport request world.wire).1 := rfl

/-- A request that is handed to the transport changes the state of the transport. -/
@[simp] theorem behind_exchange (transport : Http.Transport σ) (request : Http.Request)
    (world : World σ) :
    behind (exchange transport request) world =
      { world with
        wire := (transport request world.wire).2
        course := world.course ++ [.sent request] } := rfl

/-- Note some events and end with a result. -/
def noting (events : List Event) (result : α) : Flow σ α := do
  events.forM note
  return result

/-- The flow for a first item runs before those for the other items. -/
theorem behind_forM_cons {ι : Type u} (item : ι) (rest : List ι) (body : ι → Flow σ PUnit)
    (world : World σ) :
    behind ((item :: rest).forM body) world =
      behind (rest.forM body) (behind (body item) world) := rfl

/-- The flow for a last item runs behind those for the others. -/
theorem behind_mapM_concat (items : List α) (item : α) (body : α → Flow σ β) (world : World σ) :
    behind ((items ++ [item]).mapM body) world =
      behind (body item) (behind (items.mapM body) world) := by
  rw [List.mapM_append]
  simp [List.mapM_cons]

/-- The value for a last item comes behind those for the others. -/
theorem value_mapM_concat (items : List α) (item : α) (body : α → Flow σ β) (world : World σ) :
    value ((items ++ [item]).mapM body) world =
      value (items.mapM body) world ++ [value (body item) (behind (items.mapM body) world)] := by
  rw [List.mapM_append]
  simp [List.mapM_cons]

/-- The events stand in the log in their order. -/
theorem behind_forM_note (events : List Event) (world : World σ) :
    behind (events.forM note) world =
      { world with course := world.course ++ events.map .noted } := by
  induction events generalizing world with
  | nil => simp
  | cons event rest ih =>
    rw [behind_forM_cons, behind_note, ih]
    simp

/-- Noting some events changes nothing but the log. -/
@[simp] theorem behind_noting (events : List Event) (result : α) (world : World σ) :
    behind (noting events result) world =
      { world with course := world.course ++ events.map .noted } := by
  rw [noting, behind_bind, behind_forM_note, behind_pure]

/-- Noting some events ends with the result. -/
@[simp] theorem value_noting (events : List Event) (result : α) (world : World σ) :
    value (noting events result) world = result := rfl

/-- A flow leaves the session untouched, commits no change and hands requests to the transport that
depend on the session alone. -/
structure Sends (requests : Session → List Http.Request) (flow : Flow σ α) : Prop where
  /-- The session is what it was. -/
  session : ∀ world, (flow.behind world).session = world.session
  /-- What happens is that the requests are sent and events are noted. -/
  course : ∀ world, ∃ further, (flow.behind world).course = world.course ++ further ∧
    further.filterMap Happening.mutation? = [] ∧
    further.filterMap Happening.request? = requests world.session

namespace Sends

variable {requests : Session → List Http.Request} {flow : Flow σ β}

/-- The requests follow those that were sent before. -/
theorem sent (sends : Sends requests flow) (world : World σ) :
    (flow.behind world).sent = world.sent ++ requests world.session := by
  obtain ⟨further, course, _, sent⟩ := sends.course world
  rw [World.sent, course, List.filterMap_append, sent]
  rfl

/-- What is noted behind a flow adds nothing to what the flow sends. -/
theorem noting (sends : Sends requests flow) (events : β → List Event) (result : β → α) :
    Sends requests (flow >>= fun ending => noting (events ending) (result ending)) where
  session world := by simp [sends.session]
  course world := by
    obtain ⟨further, course, changes, sent⟩ := sends.course world
    refine ⟨further ++ (events (flow.value world)).map .noted, ?_, ?_, ?_⟩
    · simp [course]
    · rw [List.filterMap_append, changes, Happening.filterMap_mutation?_noted]
      rfl
    · rw [List.filterMap_append, sent, Happening.filterMap_request?_noted, List.append_nil]

/-- What becomes of the value of a flow adds nothing to what the flow sends. -/
theorem pure (sends : Sends requests flow) (result : β → α) :
    Sends requests (flow >>= fun ending => pure (result ending)) :=
  sends.noting (fun _ => []) result

end Sends

/-- A flow sends nothing and leaves the transport alone. -/
structure Quiet (flow : Flow σ α) : Prop where
  /-- Nothing is sent. -/
  sent : ∀ world, (flow.behind world).sent = world.sent
  /-- The transport stays in its state. -/
  wire : ∀ world, (flow.behind world).wire = world.wire

namespace Quiet

/-- A flow that does nothing sends nothing. -/
theorem pure (result : α) : Quiet (pure result : Flow σ α) := ⟨fun _ => rfl, fun _ => rfl⟩

/-- A change of the session sends nothing. -/
theorem commit (mutation : Session.Mutation) : Quiet (commit mutation : Flow σ Unit) :=
  ⟨fun world => by simp, fun _ => rfl⟩

/-- One flow after another sends nothing if neither does. -/
theorem bind {first : Flow σ β} {next : β → Flow σ α} (quietFirst : Quiet first)
    (quietNext : ∀ result, Quiet (next result)) : Quiet (first >>= next) where
  sent world := ((quietNext _).sent _).trans (quietFirst.sent world)
  wire world := ((quietNext _).wire _).trans (quietFirst.wire world)

end Quiet

/-- A flow keeps a property of the world. -/
def Keeps (property : World σ → Prop) (flow : Flow σ α) : Prop :=
  ∀ world, property world → property (flow.behind world)

variable {property : World σ → Prop}

/-- A flow that does nothing keeps everything. -/
theorem Keeps.pure (result : α) : Keeps property (pure result) := fun _ holds => holds

/-- Looking at the session keeps everything. -/
theorem Keeps.session : Keeps property session := fun _ holds => holds

/-- Two flows keep what each of them keeps. -/
theorem Keeps.bind {first : Flow σ α} {next : α → Flow σ β} (keepsFirst : Keeps property first)
    (keepsNext : ∀ result, Keeps property (next result)) : Keeps property (first >>= next) := by
  intro world holds
  rw [behind_bind]
  exact keepsNext _ _ (keepsFirst world holds)

/-- A flow for each of some items keeps what each of these flows keeps. -/
theorem Keeps.forM {ι : Type u} {items : List ι} {body : ι → Flow σ PUnit}
    (keepsEach : ∀ item, Keeps property (body item)) : Keeps property (items.forM body) := by
  induction items with
  | nil => exact .pure _
  | cons item rest ih => exact .bind (keepsEach item) fun _ => ih

/-- Noting some events keeps what noting each event keeps. -/
theorem Keeps.noting (keepsNote : ∀ event, Keeps property (note event)) (events : List Event)
    (result : α) : Keeps property (Flow.noting events result) :=
  .bind (.forM keepsNote) fun _ => .pure result

end Flow
end GeoMarket
