import GeoMarket.Proofs.Http.Headers

/-!
# The standard chain applied again

Setting a header touches one place of the list: the first header of the name, which keeps its
spelling, or the end. So the standard chain leaves every header where it is, and it has done its
work once for all: a header that it has set has the value that it would set again. The one exception
is a token against forged requests in the header of the bearer token, where the second interceptor
hides the work of the first; applied again, the chain writes that place twice, and the same value
stays.
-/
namespace GeoMarket.Http

namespace Headers

/-- A header that has a value already may be set to it without a change. -/
theorem set_of_find? {headers : Headers} {name value : String}
    (holds : headers.find? name = some value) : headers.set name value = headers := by
  induction headers with
  | nil => simp [find?] at holds
  | cons header rest ih =>
    obtain ⟨first, old⟩ := header
    by_cases named : Text.sameIgnoringCase first name = true
    · have same : old = value := by simpa [find?, named] using holds
      rw [set, if_pos named, same]
    · have further : find? rest name = some value := by simpa [find?, named] using holds
      rw [set, if_neg named, ih further]

/-- A header that is set twice, under two spellings, has the first spelling and the second value. -/
theorem set_set {headers : Headers} {name again : String}
    (same : Text.sameIgnoringCase name again = true) (value last : String) :
    (headers.set name value).set again last = headers.set name last := by
  have agree (other : String) :
      Text.sameIgnoringCase other again = Text.sameIgnoringCase other name :=
    (Text.sameIgnoringCase_congr_right same other).symm
  induction headers with
  | nil => simp [set, same]
  | cons header rest ih =>
    obtain ⟨first, old⟩ := header
    by_cases named : Text.sameIgnoringCase first name = true
    · have renamed : Text.sameIgnoringCase first again = true := (agree first).trans named
      rw [set, if_pos named, set, if_pos renamed, set, if_pos named]
    · have apart : ¬ Text.sameIgnoringCase first again = true := by rwa [agree first]
      rw [set, if_neg named, set, if_neg apart, ih, set, if_neg named]

/-- Two headers that have been set one after the other may be set again, in the same order and to
the same values, without a change. -/
theorem set_pair_again (headers : Headers) (first second firstValue secondValue : String) :
    let once := (headers.set first firstValue).set second secondValue
    (once.set first firstValue).set second secondValue = once := by
  intro once
  have secondHeld : once.find? second = some secondValue := by
    rw [find?_set, if_pos (Text.sameIgnoringCase_refl second)]
  by_cases same : Text.sameIgnoringCase first second = true
  · -- The second header is the first one, so that its value stands under the name of both.
    have hidden : once.find? first = some secondValue := by
      rw [find?_set, if_pos (by rwa [Text.sameIgnoringCase_comm])]
    rw [set_set same, set_of_find? hidden]
  · have firstHeld : once.find? first = some firstValue := by
      rw [find?_set, if_neg (by rwa [Text.sameIgnoringCase_comm]), find?_set,
        if_pos (Text.sameIgnoringCase_refl first)]
    rw [set_of_find? firstHeld, set_of_find? secondHeld]

/-- The place of the first header with a name. -/
def place? (headers : Headers) (name : String) : Option Nat :=
  headers.findIdx? fun header => Text.sameIgnoringCase header.1 name

/-- Some headers become others by nothing but the setting of headers with given names. -/
structure Touches (names : List String) (before after : Headers) : Prop where
  /-- Every header stays in its place under its name, and it keeps its value unless it is the first
  of one of the names. -/
  kept : ∀ place header, before[place]? = some header →
    ∃ value, after[place]? = some (header.1, value) ∧
      (value = header.2 ∨ ∃ name ∈ names, before.place? name = some place)
  /-- What stands behind them has one of the names. -/
  added : ∀ place header, before.length ≤ place → after[place]? = some header → header.1 ∈ names
  /-- For every name there is at most one more header. -/
  length_le : after.length ≤ before.length + names.length

namespace Touches

/-- Nothing need be set. -/
theorem refl (names : List String) (headers : Headers) : Touches names headers headers where
  kept _ header found := ⟨header.2, found, .inl rfl⟩
  added place header beyond found := by
    rw [List.getElem?_eq_none beyond] at found
    cases found
  length_le := Nat.le_add_right _ _

/-- Where there is no header, one may be added. -/
theorem nil (name value : String) : Touches [name] [] [(name, value)] where
  kept _ _ found := by cases found
  added
    | 0, header, _, found => by
      obtain rfl : (name, value) = header := Option.some.inj found
      exact List.mem_singleton.mpr rfl
    | _ + 1, _, _, found => by cases found
  length_le := Nat.le_refl 1

/-- A header in front may get another value if it has the name. -/
theorem head {name : String} (header : String × String)
    (named : Text.sameIgnoringCase header.1 name = true) (value : String) (rest : Headers) :
    Touches [name] (header :: rest) ((header.1, value) :: rest) where
  kept
    | 0, other, found => by
      obtain rfl : header = other := Option.some.inj found
      have first : place? (header :: rest) name = some 0 := by
        simp [place?, List.findIdx?_cons, named]
      exact ⟨value, rfl, .inr ⟨name, List.mem_singleton.mpr rfl, first⟩⟩
    | _ + 1, other, found => ⟨other.2, found, .inl rfl⟩
  added place other beyond found := by
    have outside : ((header.1, value) :: rest)[place]? = none := List.getElem?_eq_none beyond
    rw [outside] at found
    cases found
  length_le := Nat.le_add_right _ _

/-- A header in front stays there if what happens behind it concerns other names. -/
theorem cons {name : String} {before after : Headers} (header : String × String)
    (apart : ¬ Text.sameIgnoringCase header.1 name = true) (touches : Touches [name] before after) :
    Touches [name] (header :: before) (header :: after) where
  kept
    | 0, other, found => by
      obtain rfl : header = other := Option.some.inj found
      exact ⟨header.2, rfl, .inl rfl⟩
    | place + 1, later, found => by
      obtain ⟨value, stands, kept⟩ := touches.kept place later found
      refine ⟨value, stands, kept.imp_right ?_⟩
      rintro ⟨other, listed, first⟩
      obtain rfl := List.mem_singleton.mp listed
      exact ⟨other, listed, by simpa [place?, List.findIdx?_cons, apart] using first⟩
  added
    | 0, _, beyond, _ => absurd beyond (Nat.not_succ_le_zero _)
    | place + 1, later, beyond, found =>
      touches.added place later (Nat.le_of_succ_le_succ beyond) found
  length_le := by
    have bound := touches.length_le
    simp only [List.length_cons] at bound ⊢
    omega

/-- Setting a header touches the first header of its name, or adds one. -/
theorem of_set (headers : Headers) (name value : String) :
    Touches [name] headers (headers.set name value) := by
  induction headers with
  | nil => exact nil name value
  | cons header rest ih =>
    by_cases named : Text.sameIgnoringCase header.1 name = true
    · rw [set, if_pos named]
      exact head header named value rest
    · rw [set, if_neg named]
      exact cons header named ih

/-- A header has the same name in its place before and after. -/
theorem getElem_fst {names : List String} {before after : Headers}
    (touches : Touches names before after) {place : Nat} (inside : place < before.length)
    (within : place < after.length) : after[place].1 = before[place].1 := by
  obtain ⟨value, stands, -⟩ := touches.kept place _ (List.getElem?_eq_getElem inside)
  rw [List.getElem?_eq_getElem within] at stands
  rw [Option.some.inj stands]

/-- What is first of its name afterwards was so before, unless it was added. -/
theorem place?_eq_some {names : List String} {before after : Headers}
    (touches : Touches names before after) {name : String} {place : Nat}
    (first : after.place? name = some place) (inside : place < before.length) :
    before.place? name = some place := by
  obtain ⟨within, named, unnamed⟩ := List.findIdx?_eq_some_iff_getElem.mp first
  refine List.findIdx?_eq_some_iff_getElem.mpr ⟨inside, ?_, fun earlier less => ?_⟩
  · rwa [← touches.getElem_fst inside within]
  · rw [← touches.getElem_fst (Nat.lt_trans less inside) (Nat.lt_trans less within)]
    exact unnamed earlier less

/-- Headers that are touched twice are touched under the names of both times. -/
theorem trans {names further : List String} {before between after : Headers}
    (one : Touches names before between) (two : Touches further between after) :
    Touches (names ++ further) before after where
  kept place header found := by
    obtain ⟨middle, stands, oneKept⟩ := one.kept place header found
    obtain ⟨value, stays, twoKept⟩ := two.kept place _ stands
    refine ⟨value, stays, ?_⟩
    rcases twoKept with unchanged | ⟨name, listed, first⟩
    · rw [unchanged]
      refine oneKept.imp_right ?_
      rintro ⟨name, listed, first⟩
      exact ⟨name, List.mem_append_left _ listed, first⟩
    · -- No header has moved, so what is the first of a name in between was the first before.
      obtain ⟨inside, -⟩ := List.getElem?_eq_some_iff.mp found
      exact .inr ⟨name, List.mem_append_right _ listed, one.place?_eq_some first inside⟩
  added place header beyond found := by
    by_cases inside : place < between.length
    · have stands := List.getElem?_eq_getElem inside
      obtain ⟨value, stays, -⟩ := two.kept place _ stands
      obtain rfl : (between[place].1, value) = header :=
        Option.some.inj (stays.symm.trans found)
      exact List.mem_append_left _ (one.added place between[place] beyond stands)
    · exact List.mem_append_right _ (two.added place header (Nat.le_of_not_lt inside) found)
  length_le := by
    have one := one.length_le
    have two := two.length_le
    rw [List.length_append]
    omega

end Touches
end Headers

namespace Interceptor

/-- In a session, an interceptor leaves all requests with a verb alone, or it sets one header to one
value in all of them. -/
def SetsAtMost (interceptor : Interceptor) (session : Session) (method : Method) (name : String) :
    Prop :=
  (∀ request : Request, request.method = method → interceptor session request = request) ∨
    ∃ value, ∀ request : Request, request.method = method →
      interceptor session request = request.withHeader name value

namespace SetsAtMost

variable {interceptor : Interceptor} {session : Session} {method : Method} {name : String}
  {request : Request}

/-- An interceptor that sets at most one header touches no other. -/
theorem touches (sets : interceptor.SetsAtMost session method name)
    (verb : request.method = method) :
    Headers.Touches [name] request.headers (interceptor session request).headers := by
  rcases sets with skips | ⟨value, sets⟩
  · rw [skips request verb]
    exact .refl _ _
  · rw [sets request verb]
    exact .of_set _ _ _

/-- An interceptor that sets at most one header keeps the verb. -/
theorem method_eq (sets : interceptor.SetsAtMost session method name)
    (verb : request.method = method) : (interceptor session request).method = method := by
  rcases sets with skips | ⟨value, sets⟩
  · rwa [skips request verb]
  · rwa [sets request verb]

/-- An interceptor that sets at most one header may be applied again without a change. -/
theorem twice (sets : interceptor.SetsAtMost session method name)
    (verb : request.method = method) :
    interceptor session (interceptor session request) = interceptor session request := by
  have again := sets.method_eq verb
  rcases sets with skips | ⟨value, sets⟩
  · exact skips _ again
  · have held : (request.withHeader name value).headers.find? name = some value := by
      change (request.headers.set name value).find? name = _
      rw [Headers.find?_set, if_pos (Text.sameIgnoringCase_refl name)]
    rw [sets _ again, sets request verb, Request.withHeader, Headers.set_of_find? held]

/-- Two interceptors in a row, of which each sets at most one header, may be applied again without a
change, though they set the same header. -/
theorem pair_again {further : Interceptor} {other : String}
    (one : interceptor.SetsAtMost session method name)
    (two : further.SetsAtMost session method other) (verb : request.method = method) :
    let once := further session (interceptor session request)
    further session (interceptor session once) = once := by
  intro once
  have between := one.method_eq verb
  have after : once.method = method := two.method_eq between
  have settled : further session once = once := two.twice between
  rcases one with skips | ⟨value, sets⟩
  · rw [skips once after, settled]
  · rcases two with skips | ⟨last, setsToo⟩
    · have first : once = interceptor session request := skips _ between
      rw [first, twice (.inr ⟨value, sets⟩) verb, ← first, settled]
    · have written : once = (request.withHeader name value).withHeader other last := by
        rw [← sets request verb, ← setsToo _ between]
      rw [sets once after, setsToo (once.withHeader name value) after, written]
      exact congrArg (fun headers => { request with headers })
        (Headers.set_pair_again request.headers name other value last)

end SetsAtMost

/-- The interceptor for the bearer token sets at most the header that carries it. -/
theorem bearer_setsAtMost (session : Session) (method : Method) :
    bearer.SetsAtMost session method "Authorization" := by
  unfold SetsAtMost bearer
  cases session.user.bearer? with
  | none => exact .inl fun _ _ => rfl
  | some token => exact .inr ⟨"Bearer " ++ token, fun _ _ => rfl⟩

/-- The interceptor for the token against forged requests sets at most the header that carries
it. -/
theorem csrf_setsAtMost (fallback : String) (session : Session) (method : Method) :
    (csrf fallback).SetsAtMost session method (csrfName fallback session.user) := by
  unfold SetsAtMost csrf
  rw [csrfHeader_eq_csrfName]
  cases changes : method.isMutating with
  | false => exact .inl fun request verb => by rw [verb, changes]
  | true =>
    cases nonEmpty? session.user.csrfToken with
    | none => exact .inl fun request verb => by rw [verb, changes]
    | some token => exact .inr ⟨token, fun request verb => by rw [verb, changes]⟩

/-- **The standard chain applied again.** The standard chain, applied to what it has made of a
request, changes nothing, and neither does another interceptor for the bearer token behind it. It
keeps the verb, the URL, the body and every header in its place with its name; it touches at most
the first header with the name for the token against forged requests and the first with the name for
the bearer token, and adds at most these two. What it has set is what the session demands: the
bearer token, else the token against forged requests, else nothing but what the request held
before. -/
theorem standard_idempotent (fallback : String) (session : Session) (request : Request) :
    let once := applyAll (standard fallback) session request
    applyAll (standard fallback) session once = once ∧
      bearer session once = once ∧
      (once.method = request.method ∧ once.url = request.url ∧ once.body = request.body) ∧
      Headers.Touches [csrfName fallback session.user, "Authorization"]
        request.headers once.headers ∧
      ∀ name, once.header? name =
        (bearerValue? session.user name).or
          ((csrfValue? fallback session.user request.method name).or (request.header? name)) := by
  intro once
  have csrfSets := csrf_setsAtMost fallback session request.method
  have bearerSets := bearer_setsAtMost session request.method
  have between : (csrf fallback session request).method = request.method := csrfSets.method_eq rfl
  refine ⟨csrfSets.pair_again bearerSets rfl, bearerSets.twice between,
    standard_keeps fallback session request, ?_, header?_standard fallback session request⟩
  exact (csrfSets.touches rfl).trans (bearerSets.touches between)

/-- A token against forged requests whose header is that of the bearer token: both interceptors
write one place, and the spelling of the first one stays. -/
example :
    let session : Session :=
      { user := { csrfHeader := some "AUTHORIZATION", csrfToken := some "c", authToken := some "b" } }
    (applyAll (standard "X-CSRF-TOKEN") session { method := .post, url := "/login" }).headers =
      [("AUTHORIZATION", "Bearer b")] := by
  decide

end Interceptor
end GeoMarket.Http
