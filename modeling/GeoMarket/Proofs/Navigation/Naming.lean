import GeoMarket.Proofs.Navigation.Chain
import GeoMarket.Proofs.Navigation.Language

/-!
# Named locations

The path of a named location is the pattern of the first route with the name. A pattern stands for
itself as a path: a parameter for its own marker, a wildcard for its own star, and a literal for its
own letters. It may end in one slash, and it must not begin a query or a fragment, which a path
would lose. So the table finds a route for such a location, that of the name or one that is tried
earlier, and a redirect to the location never leads to a path without a route.
-/
namespace GeoMarket.Navigation

open Text

/-! ## Patterns as paths -/

/-- A pattern that can serve as a path. -/
structure Usable (pattern : String) : Prop where
  /-- It is the lone wildcard or begins with a slash. -/
  rooted : Rooted pattern
  /-- It has no query. -/
  queryless : '?' ∉ pattern.toList
  /-- It has no fragment. -/
  fragmentless : '#' ∉ pattern.toList
  /-- It ends in at most one slash. -/
  ended : ¬['/', '/'] <:+ pattern.toList

/-- A pattern that can serve as a path stands for itself. -/
theorem Usable.accepts {pattern : String} (usable : Usable pattern) :
    Accepts pattern pattern.toList := by
  rcases usable.rooted with rfl | slashed
  · exact .anything (by decide)
  · obtain ⟨segments, declared⟩ := exists_declares slashed
    have fits : List.Forall₂ Fits segments segments :=
      List.forall₂_same.mpr fun segment inside => fits_self (declared.slashFree segment inside)
    obtain ⟨count, written⟩ := declared.written
    refine .split declared ⟨fits, ?_⟩
    -- Two slashes more than the segments would be two slashes at the end.
    rcases count with _ | _ | count
    · exact .inl (by simpa using written)
    · exact .inr written
    · refine absurd ⟨behindMarks '/' segments ++ List.replicate count '/', ?_⟩ usable.ended
      have twice : ['/', '/'] = List.replicate 2 '/' := rfl
      rw [written, List.append_assoc, twice, List.replicate_append_replicate]

/-- Nothing of such a pattern is lost as a path. -/
theorem Usable.barePath_eq {pattern : String} (usable : Usable pattern) :
    barePath pattern = pattern.toList :=
  barePath_eq_toList usable.queryless usable.fragmentless

namespace RouteTable

/-- The pattern of a name is that of the first record with the name. -/
theorem exists_record_of_pathFor? {table : RouteTable} {name pattern : String}
    (located : table.pathFor? name = some pattern) :
    ∃ before record after, table.records = before ++ record :: after ∧ record.name = some name ∧
      record.pattern = pattern ∧ ∀ earlier ∈ before, earlier.name ≠ some name := by
  obtain ⟨record, found, rfl⟩ := Option.map_eq_some_iff.mp located
  obtain ⟨named, before, after, split, others⟩ := List.find?_eq_some_iff_append.mp found
  refine ⟨before, record, after, split, by simpa using named, rfl, fun earlier inside => ?_⟩
  simpa using others earlier inside

/-- The path of a name has a route: that of the first record with the name, or of one before it. -/
theorem resolve?_of_pathFor? {table : RouteTable} {name pattern : String}
    (located : table.pathFor? name = some pattern) (usable : Usable pattern) :
    ∃ before record after, table.records = before ++ record :: after ∧ record.name = some name ∧
      (∀ earlier ∈ before, earlier.name ≠ some name) ∧
      ∃ front found back route, before ++ [record] = front ++ found :: back ∧
        (∀ earlier ∈ front, earlier.resolve? (barePath pattern) = none) ∧
        found.resolve? (barePath pattern) = some route ∧ table.resolve? pattern = some route := by
  obtain ⟨before, record, after, split, named, rfl, others⟩ := exists_record_of_pathFor? located
  refine ⟨before, record, after, split, named, others, ?_⟩
  have accepted : record.resolve? (barePath record.pattern) ≠ none := by
    rw [usable.barePath_eq, ne_eq, RouteRecord.resolve?_eq_none_iff usable.rooted, not_not]
    exact usable.accepts
  cases first : (before ++ [record]).findSome? (·.resolve? (barePath record.pattern)) with
  | none =>
    have missed := List.findSome?_eq_none_iff.mp first record (by simp)
    exact absurd missed accepted
  | some route =>
    obtain ⟨front, found, back, listed, resolved, missed⟩ := List.findSome?_eq_some_iff.mp first
    refine ⟨front, found, back, route, listed, missed, resolved, ?_⟩
    rw [resolve?, split, List.append_cons, List.findSome?_append, first]
    rfl

end RouteTable

/-! ## Redirects to named locations -/

/-- The target that a redirect leads to. -/
def Hop.LeadsTo (navigator : Navigator) (next : String) : Hop → Prop
  | .byRoute _ target => target = next
  | .byGuard _ location => navigator.locationPath location = .ok next

namespace Navigator

variable {navigator : Navigator} {session : Session}

/-- A move goes where its redirect leads. -/
theorem leadsTo_of_move {target next : String} {hop : Hop}
    (moved : navigator.step session target = .move hop next) : hop.LeadsTo navigator next := by
  unfold step at moved
  split at moved
  · cases moved
  · split at moved
    · cases moved
      rfl
    · cases moved
    · dsimp only at moved
      split at moved
      · cases moved
        assumption
      · cases moved

/-- A step fails for want of a route only if its target has none, and then without a redirect. -/
theorem step_noMatch {target unmatched : String} {hop : Option Hop}
    (failed : navigator.step session target = .fail hop (.noMatch unmatched)) :
    hop = none ∧ unmatched = target ∧ navigator.table.resolve? target = none := by
  have fails : Fails navigator session target (.noMatch unmatched) := fails_iff.mpr ⟨hop, failed⟩
  cases fails with
  | noMatch missing =>
    simp only [step, check, missing, Step.fail.injEq, and_true] at failed
    exact ⟨failed.symm, rfl, missing⟩

/-- When a navigation fails for want of a route, the path without one is that where it began, or
that where its last redirect led. -/
theorem follow_noMatch {start target unmatched : String} {fuel : Nat} {hops : List Hop}
    (failed : navigator.follow session start fuel target = (hops, .error (.noMatch unmatched))) :
    navigator.table.resolve? unmatched = none ∧ (hops = [] → unmatched = target) ∧
      ∀ hop, hops.getLast? = some hop → hop.LeadsTo navigator unmatched := by
  induction fuel generalizing target hops with
  | zero => simp [follow] at failed
  | succ fuel ih =>
    rw [follow] at failed
    cases stepped : navigator.step session target with
    | arrive route => simp [stepped] at failed
    | fail last error =>
      simp only [stepped, Prod.mk.injEq, Except.error.injEq] at failed
      obtain ⟨rfl, rfl⟩ := failed
      obtain ⟨rfl, rfl, missing⟩ := step_noMatch stepped
      exact ⟨missing, fun _ => rfl, by simp⟩
    | move first next =>
      cases followed : navigator.follow session start fuel next with
      | mk rest outcome =>
        simp only [stepped, followed, Prod.mk.injEq] at failed
        obtain ⟨rfl, rfl⟩ := failed
        obtain ⟨missing, onward, last⟩ := ih followed
        refine ⟨missing, fun empty => absurd empty (List.cons_ne_nil _ _), fun hop ended => ?_⟩
        -- The last redirect is that of this step, or the last one behind it.
        cases rest with
        | nil =>
          obtain rfl := Option.some.inj ended
          exact onward rfl ▸ leadsTo_of_move stepped
        | cons second rest =>
          rw [List.getLast?_cons_cons] at ended
          exact last hop ended

/-- **Named locations.** If the path of a name can serve as one, the table finds a route for it:
that of the first record with the name, or of one that is tried before. So a navigation that was
last redirected to the name by the guard does not fail for want of a route. -/
theorem named_location_found (navigator : Navigator) {name pattern : String}
    (located : navigator.table.pathFor? name = some pattern) (usable : Usable pattern) :
    (∃ before record after, navigator.table.records = before ++ record :: after ∧
      record.name = some name ∧ (∀ earlier ∈ before, earlier.name ≠ some name) ∧
      ∃ front found back route, before ++ [record] = front ++ found :: back ∧
        (∀ earlier ∈ front, earlier.resolve? (barePath pattern) = none) ∧
        found.resolve? (barePath pattern) = some route ∧
        navigator.table.resolve? pattern = some route) ∧
    ∀ session path hops place error,
      navigator.navigate session path = (hops ++ [.byGuard place (.named name)], .error error) →
      ∀ unmatched, error ≠ .noMatch unmatched := by
  have resolved := RouteTable.resolve?_of_pathFor? located usable
  refine ⟨resolved, ?_⟩
  rintro session path hops place error navigated unmatched rfl
  obtain ⟨missing, -, last⟩ := follow_noMatch navigated
  have led : navigator.locationPath (.named name) = .ok unmatched :=
    last (.byGuard place (.named name)) List.getLast?_concat
  simp only [locationPath, located, Except.ok.injEq] at led
  subst led
  obtain ⟨-, -, -, -, -, -, -, -, -, route, -, -, -, found⟩ := resolved
  rw [missing] at found
  contradiction

/-- Users who lack a role are sent to a thread of messages by its name, and from there to it again:
the pattern of the thread has a route, so they go round in a loop and are never without one. -/
theorem named_location_found_thread :
    let pattern := "/dashboard/messages/:id"
    let navigator : Navigator :=
      { table := Application.table, guard := { unauthorized := .named "MessagesThread" } }
    let again : Hop := .byGuard pattern (.named "MessagesThread")
    navigator.table.pathFor? "MessagesThread" = some pattern ∧ Usable pattern ∧
      (∃ route, navigator.table.resolve? pattern = some route) ∧
      ∃ hops error, navigator.navigate {} "/admin" = (hops ++ [again], .error error) ∧
        ∀ unmatched, error ≠ .noMatch unmatched := by
  intro pattern navigator again
  have located : navigator.table.pathFor? "MessagesThread" = some pattern := by decide
  have usable : Usable pattern := ⟨by decide, by decide, by decide, by decide⟩
  obtain ⟨⟨-, -, -, -, -, -, -, -, -, route, -, -, -, found⟩, matched⟩ :=
    named_location_found navigator located usable
  have navigated : navigator.navigate {} "/admin" =
      (.byGuard "/admin" (.named "MessagesThread") :: List.replicate 9 again ++ [again],
        .error (.redirectLoop "/admin" 10)) := by
    decide +kernel
  exact ⟨located, usable, ⟨route, found⟩, _, _, navigated, matched _ _ _ _ _ navigated⟩

end Navigator
end GeoMarket.Navigation
