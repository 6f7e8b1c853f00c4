import GeoMarket.Proofs.Change.Prevailing
import GeoMarket.Proofs.Http.Headers

/-!
# Headers as a map without case

A header that is set either changes the value of the first header with its name or stands behind all
of them. So the names of a list change only where a new one is added, and headers that are set one
after another, from none on, never share a name: each name stands once, under the spelling and in
the place of its first setting, with the value of its last one. A list of any origin may hold a name
twice; the first of them is the one that is read, and it is the one that is changed.
-/
namespace GeoMarket.Http

namespace Headers

/-- A name that is not found is that of no header. -/
theorem find?_eq_none_iff {headers : Headers} {name : String} :
    headers.find? name = none ↔
      ∀ header ∈ headers, Text.sameIgnoringCase header.1 name = false := by
  simp [find?]

/-- A name is looked up alike in every case. -/
theorem find?_congr (headers : Headers) {name other : String}
    (same : Text.sameIgnoringCase name other = true) :
    headers.find? name = headers.find? other := by
  unfold find?
  simp only [Text.sameIgnoringCase_congr_right same]

/-- A header that is set changes the value of the first header with its name, or is added behind
headers with other names. -/
theorem set_cases (headers : Headers) (name value : String) :
    (∃ before header after, headers = before ++ header :: after ∧
      Text.sameIgnoringCase header.1 name = true ∧
      (∀ earlier ∈ before, Text.sameIgnoringCase earlier.1 name = false) ∧
      headers.set name value = before ++ (header.1, value) :: after) ∨
    (∀ header ∈ headers, Text.sameIgnoringCase header.1 name = false) ∧
      headers.set name value = headers ++ [(name, value)] := by
  induction headers with
  | nil => exact .inr ⟨nofun, rfl⟩
  | cons first rest ih =>
    cases named : Text.sameIgnoringCase first.1 name with
    | true =>
      refine .inl ⟨[], first, rest, rfl, named, nofun, ?_⟩
      rw [set, if_pos named]
      rfl
    | false =>
      have passed : set name value (first :: rest) = first :: set name value rest := by
        rw [set, if_neg (Bool.eq_false_iff.mp named)]
      rcases ih with ⟨before, header, after, split, found, apart, changed⟩ | ⟨apart, added⟩
      · refine .inl ⟨first :: before, header, after, ?_, found, ?_, ?_⟩
        · rw [split, List.cons_append]
        · exact List.forall_mem_cons.mpr ⟨named, apart⟩
        · rw [passed, changed, List.cons_append]
      · refine .inr ⟨List.forall_mem_cons.mpr ⟨named, apart⟩, ?_⟩
        rw [passed, added, List.cons_append]

/-- The names of headers, in order. -/
def names (headers : Headers) : List String := headers.map Prod.fst

/-- Headers keep their names when one of them is set, and a new name is added at the end. -/
theorem names_set (headers : Headers) (name value : String) :
    (headers.set name value).names =
      if headers.find? name = none then headers.names ++ [name] else headers.names := by
  rcases set_cases headers name value with ⟨before, header, after, rfl, found, -, changed⟩ |
    ⟨apart, added⟩
  · have listed : find? (before ++ header :: after) name ≠ none := by
      intro absent
      have apart := find?_eq_none_iff.mp absent header (by simp)
      rw [found] at apart
      cases apart
    rw [changed, if_neg listed]
    simp [names]
  · rw [added, if_pos (find?_eq_none_iff.mpr apart)]
    simp [names]

/-- No two names are equal up to case. -/
def Distinct (headers : Headers) : Prop :=
  headers.names.Pairwise fun earlier later => Text.sameIgnoringCase earlier later = false

/-- Headers with distinct names have distinct names when one of them is set. -/
theorem Distinct.set {headers : Headers} (distinct : headers.Distinct) (name value : String) :
    (headers.set name value).Distinct := by
  unfold Distinct
  rw [names_set]
  split
  · rename_i absent
    rw [List.pairwise_append]
    refine ⟨distinct, List.pairwise_singleton _ _, fun earlier listed later last => ?_⟩
    obtain ⟨header, held, rfl⟩ := List.mem_map.mp listed
    rw [List.mem_singleton.mp last]
    exact find?_eq_none_iff.mp absent header held
  · exact distinct

end Headers

namespace Request

/-- The request with headers set one after another. -/
def withHeaders (request : Request) (settings : List (String × String)) : Request :=
  settings.foldl (fun request setting => request.withHeader setting.1 setting.2) request

/-- Distinct names stay distinct while headers are set. -/
theorem distinct_withHeaders {request : Request} (distinct : request.headers.Distinct)
    (settings : List (String × String)) : (request.withHeaders settings).headers.Distinct := by
  induction settings generalizing request with
  | nil => exact distinct
  | cons setting rest ih => exact ih (distinct.set setting.1 setting.2)

/-- While headers are set, the names stay where they are, and behind them stand the new ones, each
where and how it is set first. -/
theorem names_withHeaders (request : Request) (settings : List (String × String)) :
    (request.withHeaders settings).headers.names = request.headers.names ++
      ((settings.map Prod.fst).filter fun name => request.header? name = none).eraseDupsBy
        Text.sameIgnoringCase := by
  induction settings generalizing request with
  | nil => simp [withHeaders]
  | cons setting rest ih =>
    obtain ⟨name, value⟩ := setting
    have following : (request.withHeaders ((name, value) :: rest)).headers.names =
        ((request.withHeader name value).withHeaders rest).headers.names := rfl
    have set : (request.withHeader name value).headers.names =
        if request.header? name = none then request.headers.names ++ [name]
        else request.headers.names := Headers.names_set request.headers name value
    rw [following, ih, set, List.map_cons, List.filter_cons]
    cases found : request.header? name with
    | none =>
      -- The name is new, and from here on it is known.
      have known : (fun other => decide ((request.withHeader name value).header? other = none)) =
          fun other => decide (Text.sameIgnoringCase other name = false) &&
            decide (request.header? other = none) := by
        funext other
        rw [header?_withHeader, Text.sameIgnoringCase_comm other name]
        cases Text.sameIgnoringCase name other <;> simp
      rw [if_pos rfl, if_pos (by simp), List.eraseDupsBy_cons, List.filter_filter, known,
        List.append_assoc, List.singleton_append]
    | some old =>
      -- The name is there already, in every case.
      have known : (fun other => decide ((request.withHeader name value).header? other = none)) =
          fun other => decide (request.header? other = none) := by
        funext other
        rw [header?_withHeader]
        cases same : Text.sameIgnoringCase name other with
        | true =>
          have held : request.header? other = some old :=
            (Headers.find?_congr request.headers same).symm.trans found
          simp [held]
        | false => simp
      rw [if_neg nofun, if_neg (by simp), known]

/-- What a setting gives a header: its value, if it has the name. -/
def given? (name : String) (setting : String × String) : Option (Option String) :=
  if Text.sameIgnoringCase setting.1 name then some (some setting.2) else none

/-- A setting overwrites the headers of its name and no others. -/
theorem overwrites_header? (name : String) :
    Overwrites (fun request setting => request.withHeader setting.1 setting.2)
      (fun request : Request => request.header? name) (given? name) := by
  intro request setting
  change (request.withHeader setting.1 setting.2).header? name = _
  rw [header?_withHeader, given?]
  split <;> rfl

/-- A header that was absent has what the settings give it last, and is absent if they give it
nothing. -/
theorem header?_withHeaders_iff {request : Request} {name : String}
    (absent : request.header? name = none) {settings : List (String × String)}
    {value : Option String} :
    (request.withHeaders settings).header? name = value ↔
      Prevails (given? name) settings (· = none) value := by
  have prevails : Prevails (given? name) settings (· = none)
      ((request.withHeaders settings).header? name) :=
    (overwrites_header? name).prevails request settings absent
  constructor
  · rintro rfl
    exact prevails
  · exact prevails.unique fun _ _ left right => left.trans right.symm

/-- What a setting gives under its own name is its value. -/
theorem given?_eq_some_iff {name : String} {setting : String × String} {value : Option String} :
    given? name setting = some value ↔
      Text.sameIgnoringCase setting.1 name = true ∧ some setting.2 = value := by
  unfold given?
  cases Text.sameIgnoringCase setting.1 name <;> simp

/-- A setting gives nothing to headers of other names. -/
theorem given?_eq_none_iff {name : String} {setting : String × String} :
    given? name setting = none ↔ Text.sameIgnoringCase setting.1 name = false := by
  unfold given?
  cases Text.sameIgnoringCase setting.1 name <;> simp

/-- A header that was absent has a value exactly if the last setting of its name gives it. -/
theorem header?_withHeaders_eq_some_iff {request : Request} {name value : String}
    (absent : request.header? name = none) {settings : List (String × String)} :
    (request.withHeaders settings).header? name = some value ↔
      ∃ before spelling after, settings = before ++ (spelling, value) :: after ∧
        Text.sameIgnoringCase spelling name = true ∧
        ∀ later ∈ after, Text.sameIgnoringCase later.1 name = false := by
  rw [header?_withHeaders_iff absent]
  constructor
  · rintro (⟨before, setting, after, split, given, silent⟩ | ⟨-, nothing⟩)
    · obtain ⟨spelling, last⟩ := setting
      obtain ⟨named, value⟩ := given?_eq_some_iff.mp given
      obtain rfl := Option.some.inj value
      exact ⟨before, spelling, after, split, named,
        fun later listed => given?_eq_none_iff.mp (silent later listed)⟩
    · cases nothing
  · rintro ⟨before, spelling, after, split, named, silent⟩
    exact .inl ⟨before, (spelling, value), after, split, given?_eq_some_iff.mpr ⟨named, rfl⟩,
      fun later listed => given?_eq_none_iff.mpr (silent later listed)⟩

/-- A header that was absent stays absent exactly if no setting has its name. -/
theorem header?_withHeaders_eq_none_iff {request : Request} {name : String}
    (absent : request.header? name = none) {settings : List (String × String)} :
    (request.withHeaders settings).header? name = none ↔
      ∀ setting ∈ settings, Text.sameIgnoringCase setting.1 name = false := by
  rw [header?_withHeaders_iff absent]
  constructor
  · rintro (⟨before, setting, after, -, given, -⟩ | ⟨silent, -⟩)
    · obtain ⟨-, value⟩ := given?_eq_some_iff.mp given
      cases value
    · exact fun setting listed => given?_eq_none_iff.mp (silent setting listed)
  · intro silent
    exact .inr ⟨fun setting listed => given?_eq_none_iff.mpr (silent setting listed), rfl⟩

/-- **Headers as a map without case.** In a new request in which headers are set one after another,
no two names are equal up to case; a header has the value of the last setting of its name, in any
case, and none without such a setting; and the names stand in the order of their first settings, as
these spell them. In any request, with names held once or more often, setting a header gives it the
value under every spelling of its name and leaves all others as they were; it changes the value of
the first header with the name and nothing else, or adds one header behind all if there is none. -/
theorem headers_map_without_case :
    (∀ (method : Method) (url : String) (settings : List (String × String)),
      let request := withHeaders { method, url } settings
      (request.headers.map Prod.fst).Pairwise
          (fun earlier later => Text.sameIgnoringCase earlier later = false) ∧
        (∀ name value, request.header? name = some value ↔
          ∃ before spelling after, settings = before ++ (spelling, value) :: after ∧
            Text.sameIgnoringCase spelling name = true ∧
            ∀ later ∈ after, Text.sameIgnoringCase later.1 name = false) ∧
        (∀ name, request.header? name = none ↔
          ∀ setting ∈ settings, Text.sameIgnoringCase setting.1 name = false) ∧
        request.headers.map Prod.fst =
          (settings.map Prod.fst).eraseDupsBy Text.sameIgnoringCase) ∧
    ∀ (request : Request) (name value : String),
      (∀ other, (request.withHeader name value).header? other =
        if Text.sameIgnoringCase name other then some value else request.header? other) ∧
      ((∃ before header after, request.headers = before ++ header :: after ∧
          Text.sameIgnoringCase header.1 name = true ∧
          (∀ earlier ∈ before, Text.sameIgnoringCase earlier.1 name = false) ∧
          (request.withHeader name value).headers = before ++ (header.1, value) :: after) ∨
        (∀ header ∈ request.headers, Text.sameIgnoringCase header.1 name = false) ∧
          (request.withHeader name value).headers = request.headers ++ [(name, value)]) := by
  refine ⟨fun method url settings => ?_, fun request name value =>
    ⟨header?_withHeader request name value, Headers.set_cases request.headers name value⟩⟩
  intro request
  have unheld : (headers { method, url }).Distinct := List.Pairwise.nil
  have distinct : request.headers.Distinct := distinct_withHeaders unheld settings
  have names := names_withHeaders { method, url } settings
  have unknown (name : String) : decide (header? { method, url } name = none) = true := rfl
  rw [List.filter_eq_self.mpr fun name _ => unknown name] at names
  exact ⟨distinct, fun name value => header?_withHeaders_eq_some_iff rfl,
    fun name => header?_withHeaders_eq_none_iff rfl, names⟩

/-- A header that is set in two spellings stands where and how it was set first. -/
example :
    (withHeaders { method := .get, url := "/" }
      [("Accept", "text"), ("X-Page", "1"), ("ACCEPT", "json")]).headers =
        [("Accept", "json"), ("X-Page", "1")] := by
  decide

end Request
end GeoMarket.Http
