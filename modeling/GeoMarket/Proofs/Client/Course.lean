import GeoMarket.Proofs.Client.Run
import GeoMarket.Proofs.Session.Fields

/-!
# The course of a run

A course tells in which order changes were committed, requests sent and events noted. So it tells
the session at each of its moments. Whatever a program does with a client, every request in the
course is that of a call of the gateway, as the interceptors leave it in the session of its moment.
-/
namespace GeoMarket

variable {σ : Type}

namespace Session

/-- The session behind a course. -/
def along (session : Session) (course : List Happening) : Session :=
  session.applyAll (course.filterMap Happening.mutation?)

/-- A course runs behind the one before it. -/
theorem along_append (session : Session) (before after : List Happening) :
    session.along (before ++ after) = (session.along before).along after := by
  rw [along, List.filterMap_append, applyAll_append]
  rfl

end Session

namespace Gateway

/-- Every request of a course is that of a call, as the gateway hands it over in the session of its
moment. -/
def Dressed (gateway : Gateway σ) : Session → List Happening → Prop
  | _, [] => True
  | session, .committed mutation :: rest => gateway.Dressed (session.apply mutation) rest
  | session, .sent request :: rest =>
    (∃ call body, Call.body call = .ok body ∧
      request = gateway.handed session (call.request gateway body)) ∧
    gateway.Dressed session rest
  | session, .noted _ :: rest => gateway.Dressed session rest

/-- A course is dressed if its parts are, each from the session where it begins. -/
theorem dressed_append {gateway : Gateway σ} {session : Session} {before after : List Happening} :
    gateway.Dressed session (before ++ after) ↔
      gateway.Dressed session before ∧ gateway.Dressed (session.along before) after := by
  -- A change in the first part moves the session in which all that follows is dressed.
  induction before generalizing session with
  | nil => simp [Dressed, Session.along, Session.applyAll]
  | cons happening rest ih =>
    cases happening with
    | committed mutation => exact ih
    | sent request =>
      rw [List.cons_append, Dressed, Dressed, ih, and_assoc]
      rfl
    | noted event => exact ih

/-- A request of a dressed course is that of a call in the session of its moment. -/
theorem Dressed.request {gateway : Gateway σ} {session : Session} {before after : List Happening}
    {request : Http.Request}
    (dressed : gateway.Dressed session (before ++ .sent request :: after)) :
    ∃ call body, Call.body call = .ok body ∧
      request = gateway.handed (session.along before) (call.request gateway body) :=
  (dressed_append.mp dressed).2.1

/-- A course without changes is dressed if each of its requests is that of a call in one and the
same session. -/
theorem dressed_of_unchanged {gateway : Gateway σ} {session : Session} {course : List Happening}
    (unchanged : course.filterMap Happening.mutation? = [])
    (requests : ∀ request ∈ course.filterMap Happening.request?, ∃ call body,
      Call.body call = .ok body ∧ request = gateway.handed session (call.request gateway body)) :
    gateway.Dressed session course := by
  induction course with
  | nil => trivial
  | cons happening rest ih =>
    cases happening with
    | committed mutation => cases unchanged
    | sent request =>
      have others := ih unchanged fun other among => requests other (.tail _ among)
      exact ⟨requests request (.head _), others⟩
    | noted event => exact ih unchanged requests

/-- A world is reached from another one: the session has changed as committed, and the requests are
dressed for their moments. -/
def Reached (gateway : Gateway σ) (start world : World σ) : Prop :=
  ∃ further, world.course = start.course ++ further ∧
    world.session = start.session.along further ∧ gateway.Dressed start.session further

/-- A world is reached from itself. -/
theorem Reached.refl (gateway : Gateway σ) (world : World σ) : gateway.Reached world world :=
  ⟨[], (List.append_nil _).symm, rfl, trivial⟩

/-- A world is reached if it goes on from one that is. -/
theorem Reached.extend {gateway : Gateway σ} {start middle world : World σ}
    (reached : gateway.Reached start middle) (further : List Happening)
    (course : world.course = middle.course ++ further)
    (session : world.session = middle.session.along further)
    (dressed : gateway.Dressed middle.session further) : gateway.Reached start world := by
  obtain ⟨earlier, courseBefore, sessionBefore, dressedBefore⟩ := reached
  refine ⟨earlier ++ further, ?_, ?_, dressed_append.mpr ⟨dressedBefore, ?_⟩⟩
  · rw [course, courseBefore, List.append_assoc]
  · rw [session, sessionBefore, Session.along_append]
  · rw [← sessionBefore]
    exact dressed

/-- What is reached stays reached, whatever is noted, changed or called. -/
theorem reached_stable (gateway : Gateway σ) (start : World σ) :
    gateway.Stable (gateway.Reached start) where
  note event world reached := reached.extend [.noted event] rfl rfl trivial
  commit mutation world reached := by
    have dressed : gateway.Dressed world.session (Happening.ofMutation mutation) := by
      change gateway.Dressed (world.session.apply mutation)
        ((Event.ofMutation? mutation).toList.map .noted)
      exact dressed_of_unchanged (Happening.filterMap_mutation?_noted _) (by simp)
    refine reached.extend (Happening.ofMutation mutation) rfl ?_ dressed
    rw [Session.along, Happening.filterMap_mutation?_ofMutation]
    rfl
  call codec call world reached := by
    have sends := call.sends gateway codec
    obtain ⟨further, course, unchanged, requests⟩ := sends.course world
    refine reached.extend further course ?_ (dressed_of_unchanged unchanged ?_)
    · rw [sends.session, Session.along, unchanged]
      rfl
    · intro request among
      rw [requests, Call.requests] at among
      cases written : call.body with
      | ok body =>
        rw [written] at among
        exact ⟨call, body, written, List.mem_singleton.mp among⟩
      | error reason =>
        rw [written] at among
        cases among

end Gateway

namespace MarketplaceClient

variable (client : MarketplaceClient σ)

/-- Whatever a program does with a client, the world behind it is reached from the one before. -/
theorem reached_behind_actions (actions : List Action) (world : World σ) :
    client.gateway.Reached world ((actions.forM client.perform).behind world) :=
  Flow.Keeps.forM (client.keeps_perform (client.gateway.reached_stable world)) world
    (.refl client.gateway world)

/-- Behind every run of a new client, the session is what the committed changes have made of an
empty one. -/
theorem session_run (actions : List Action) (wire : σ) :
    (client.run actions wire).session = Session.run (client.run actions wire).committed := by
  obtain ⟨further, course, session, _⟩ := client.reached_behind_actions actions { wire }
  change (client.run actions wire).course = further at course
  change (client.run actions wire).session = Session.along {} further at session
  rw [session, World.committed, course]
  rfl

end MarketplaceClient
end GeoMarket
