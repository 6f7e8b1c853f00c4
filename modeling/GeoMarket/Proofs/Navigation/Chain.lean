import GeoMarket.Navigation.Navigator

/-!
# Navigation as a chain of moves

From a target a navigation moves on, stops, or fails; which of the three it is depends on the
table, the guard and the session alone. A chain is a number of moves one after another. The outcome
of a navigation is that of the first ten moves of its chain: the route where the chain stops, the
error with which it fails, or the report of a loop if there is an eleventh move.
-/
namespace GeoMarket.Navigation.Navigator

variable {navigator : Navigator} {session : Session}

/-- A move from a target to the next one. -/
inductive Moves (navigator : Navigator) (session : Session) (target : String) : String → Prop
  /-- The route of the target redirects, whatever the guard says. -/
  | byRoute {route : ResolvedRoute} {next : String}
      (found : navigator.table.resolve? target = some route)
      (redirects : route.redirect = some next) : Moves navigator session target next
  /-- The guard sends the session to a path. -/
  | toPath {route : ResolvedRoute} {next : String}
      (found : navigator.table.resolve? target = some route) (stays : route.redirect = none)
      (refused : navigator.guard.check route.details session = .redirect (.path next)) :
      Moves navigator session target next
  /-- The guard sends the session to the route with a name. -/
  | toName {route : ResolvedRoute} {name next : String}
      (found : navigator.table.resolve? target = some route) (stays : route.redirect = none)
      (refused : navigator.guard.check route.details session = .redirect (.named name))
      (named : navigator.table.pathFor? name = some next) : Moves navigator session target next

/-- The route of a target does not redirect, and the guard lets the session in. -/
inductive Stops (navigator : Navigator) (session : Session) (target : String) :
    ResolvedRoute → Prop
  /-- The session enters the route. -/
  | enter {route : ResolvedRoute} (found : navigator.table.resolve? target = some route)
      (stays : route.redirect = none)
      (admitted : navigator.guard.check route.details session = .proceed) :
      Stops navigator session target route

/-- A target from which there is neither a move nor a route to stop at. -/
inductive Fails (navigator : Navigator) (session : Session) (target : String) :
    NavigationError → Prop
  /-- No route stands for the target. -/
  | noMatch (missing : navigator.table.resolve? target = none) :
      Fails navigator session target (.noMatch target)
  /-- The guard sends the session to a name that no route has. -/
  | unknownRoute {route : ResolvedRoute} {name : String}
      (found : navigator.table.resolve? target = some route) (stays : route.redirect = none)
      (refused : navigator.guard.check route.details session = .redirect (.named name))
      (unnamed : navigator.table.pathFor? name = none) :
      Fails navigator session target (.unknownRoute name)

/-- A number of moves from one target to another. -/
inductive Chain (navigator : Navigator) (session : Session) : Nat → String → String → Prop
  /-- No move. -/
  | here (target : String) : Chain navigator session 0 target target
  /-- A move before a chain. -/
  | onward {moves : Nat} {target next last : String}
      (first : Moves navigator session target next)
      (rest : Chain navigator session moves next last) :
      Chain navigator session (moves + 1) target last

/-- A move is what the step at a target takes. -/
theorem step_of_moves {target next : String} (moved : Moves navigator session target next) :
    ∃ hop, navigator.step session target = .move hop next := by
  cases moved with
  | byRoute found redirects =>
    simp only [step, check, found, redirects]
    exact ⟨_, rfl⟩
  | toPath found stays refused =>
    simp only [step, check, found, stays, refused, locationPath]
    exact ⟨_, rfl⟩
  | toName found stays refused named =>
    simp only [step, check, found, stays, refused, locationPath, named]
    exact ⟨_, rfl⟩

/-- Where a navigation stops, the step arrives. -/
theorem step_of_stops {target : String} {route : ResolvedRoute}
    (stopped : Stops navigator session target route) :
    navigator.step session target = .arrive route := by
  obtain ⟨found, stays, admitted⟩ := stopped
  simp only [step, check, found, stays, admitted]

/-- Where a navigation fails, so does the step. -/
theorem step_of_fails {target : String} {error : NavigationError}
    (failed : Fails navigator session target error) :
    ∃ hop, navigator.step session target = .fail hop error := by
  cases failed with
  | noMatch missing =>
    simp only [step, check, missing]
    exact ⟨_, rfl⟩
  | unknownRoute found stays refused unnamed =>
    simp only [step, check, found, stays, refused, locationPath, unnamed]
    exact ⟨_, rfl⟩

/-- A step is a move, a stop or a failure of the chain. -/
theorem step_cases (navigator : Navigator) (session : Session) (target : String) :
    match navigator.step session target with
    | .move _ next => Moves navigator session target next
    | .arrive route => Stops navigator session target route
    | .fail _ error => Fails navigator session target error := by
  cases found : navigator.table.resolve? target with
  | none =>
    simp only [step, check, found]
    exact .noMatch found
  | some route =>
    cases redirects : route.redirect with
    | some next =>
      simp only [step, check, found, redirects]
      exact .byRoute found redirects
    | none =>
      cases decided : navigator.guard.check route.details session with
      | proceed =>
        simp only [step, check, found, redirects, decided]
        exact .enter found redirects decided
      | redirect location =>
        cases location with
        | path next =>
          simp only [step, check, found, redirects, decided, locationPath]
          exact .toPath found redirects decided
        | named name =>
          cases named : navigator.table.pathFor? name with
          | some next =>
            simp only [step, check, found, redirects, decided, locationPath, named]
            exact .toName found redirects decided named
          | none =>
            simp only [step, check, found, redirects, decided, locationPath, named]
            exact .unknownRoute found redirects decided named

/-- The step at a target moves to the next one exactly when the navigation does. -/
theorem moves_iff {target next : String} :
    Moves navigator session target next ↔
      ∃ hop, navigator.step session target = .move hop next := by
  refine ⟨step_of_moves, fun ⟨hop, stepped⟩ => ?_⟩
  have taken := step_cases navigator session target
  rw [stepped] at taken
  exact taken

/-- The step at a target arrives exactly when the navigation stops. -/
theorem stops_iff {target : String} {route : ResolvedRoute} :
    Stops navigator session target route ↔ navigator.step session target = .arrive route := by
  refine ⟨step_of_stops, fun stepped => ?_⟩
  have taken := step_cases navigator session target
  rw [stepped] at taken
  exact taken

/-- The step at a target fails exactly when the navigation does. -/
theorem fails_iff {target : String} {error : NavigationError} :
    Fails navigator session target error ↔
      ∃ hop, navigator.step session target = .fail hop error := by
  refine ⟨step_of_fails, fun ⟨hop, stepped⟩ => ?_⟩
  have taken := step_cases navigator session target
  rw [stepped] at taken
  exact taken

/-- A chain without moves stays at its target. -/
@[simp] theorem chain_zero_iff {target last : String} :
    Chain navigator session 0 target last ↔ last = target := by
  constructor
  · rintro ⟨⟩
    rfl
  · rintro rfl
    exact .here last

/-- A longer chain is a move before a chain. -/
theorem chain_succ_iff {moves : Nat} {target last : String} :
    Chain navigator session (moves + 1) target last ↔
      ∃ next, Moves navigator session target next ∧ Chain navigator session moves next last := by
  constructor
  · rintro (_ | ⟨first, rest⟩)
    exact ⟨_, first, rest⟩
  · rintro ⟨next, first, rest⟩
    exact .onward first rest

/-- Fewer than a number of moves lead from a target to one with a property. -/
def Within (navigator : Navigator) (session : Session) (bound : Nat) (target : String)
    (property : String → Prop) : Prop :=
  ∃ moves < bound, ∃ last, Chain navigator session moves target last ∧ property last

/-- No target is reached in fewer than no moves. -/
@[simp] theorem not_within_zero {target : String} {property : String → Prop} :
    ¬ Within navigator session 0 target property := by
  rintro ⟨moves, below, _⟩
  exact Nat.not_lt_zero moves below

/-- A property within a bound holds at once, or behind a first move. -/
theorem within_succ_iff {bound : Nat} {target : String} {property : String → Prop} :
    Within navigator session (bound + 1) target property ↔
      property target ∨ ∃ next, Moves navigator session target next ∧
        Within navigator session bound next property := by
  constructor
  · rintro ⟨moves, below, last, chain, holds⟩
    cases moves with
    | zero =>
      obtain rfl := chain_zero_iff.mp chain
      exact .inl holds
    | succ moves =>
      obtain ⟨next, first, rest⟩ := chain_succ_iff.mp chain
      exact .inr ⟨next, first, moves, Nat.lt_of_succ_lt_succ below, last, rest, holds⟩
  · rintro (holds | ⟨next, first, moves, below, last, rest, holds⟩)
    · exact ⟨0, Nat.succ_pos bound, target, .here target, holds⟩
    · exact ⟨moves + 1, Nat.succ_lt_succ below, last, .onward first rest, holds⟩

/-- Following a target ends at the route where the chain stops before its steps are used up. -/
theorem follow_ok_iff {start : String} {fuel : Nat} {target : String} {route : ResolvedRoute} :
    (navigator.follow session start fuel target).2 = .ok route ↔
      Within navigator session fuel target fun last => Stops navigator session last route := by
  induction fuel generalizing target with
  | zero => simp [follow]
  | succ fuel ih =>
    rw [within_succ_iff]
    simp only [stops_iff, moves_iff]
    cases stepped : navigator.step session target with
    | arrive other => simp [follow, stepped]
    | fail hop error => simp [follow, stepped]
    | move hop next => simp [follow, stepped, ih, stops_iff]

/-- Following a target ends with an error when the chain fails before its steps are used up, and
with the report of a loop when the chain goes on behind them. -/
theorem follow_error_iff {start : String} {fuel : Nat} {target : String}
    {error : NavigationError} :
    (navigator.follow session start fuel target).2 = .error error ↔
      (error = .redirectLoop start greatestHops ∧
        ∃ last, Chain navigator session fuel target last) ∨
      Within navigator session fuel target fun last => Fails navigator session last error := by
  induction fuel generalizing target with
  | zero => simp [follow, eq_comm]
  | succ fuel ih =>
    rw [within_succ_iff]
    simp only [fails_iff, moves_iff, chain_succ_iff]
    cases stepped : navigator.step session target with
    | arrive route => simp [follow, stepped]
    | fail hop other => simp [follow, stepped]
    | move hop next => simp [follow, stepped, ih, fails_iff]

/-- No step fails with the report of a loop. -/
theorem not_fails_redirectLoop {target path : String} {hops : Nat} :
    ¬ Fails navigator session target (.redirectLoop path hops) := by
  rintro ⟨⟩

/-- **The outcome of a navigation.** It is a route exactly when the chain of the path stops there
after at most ten moves, the report of a loop exactly when eleven moves follow one another, and any
other error exactly when the chain fails with it after at most ten moves. -/
theorem navigate_outcome (navigator : Navigator) (session : Session) (path : String) :
    (∀ route, (navigator.navigate session path).2 = .ok route ↔
      ∃ moves ≤ 10, ∃ last, Chain navigator session moves path last ∧
        Stops navigator session last route) ∧
    ((navigator.navigate session path).2 = .error (.redirectLoop path 10) ↔
      ∃ last, Chain navigator session 11 path last) ∧
    (∀ error, (navigator.navigate session path).2 = .error error ∧
        error ≠ .redirectLoop path 10 ↔
      ∃ moves ≤ 10, ∃ last, Chain navigator session moves path last ∧
        Fails navigator session last error) := by
  have atMost : ∀ moves, moves < greatestHops + 1 ↔ moves ≤ 10 := fun _ => Nat.lt_succ_iff
  refine ⟨fun route => ?_, ?_, fun error => ?_⟩
  · rw [navigate, follow_ok_iff]
    simp only [Within, atMost]
  · rw [navigate, follow_error_iff]
    simp only [Within, not_fails_redirectLoop, and_false, exists_false, or_false]
    exact ⟨fun ⟨_, chain⟩ => chain, fun chain => ⟨rfl, chain⟩⟩
  · rw [navigate, follow_error_iff]
    simp only [Within, atMost]
    constructor
    · rintro ⟨loop | failed, other⟩
      · exact absurd loop.1 other
      · exact failed
    · intro failed
      obtain ⟨moves, below, last, chain, fails⟩ := failed
      refine ⟨.inr ⟨moves, below, last, chain, fails⟩, ?_⟩
      rintro rfl
      exact not_fails_redirectLoop fails

end GeoMarket.Navigation.Navigator
