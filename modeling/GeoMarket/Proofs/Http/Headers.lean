import GeoMarket.Http.Interceptor

/-!
# Headers behind the standard chain

Setting a header changes the value of its name, in any case, and of no other name. From this follows
what each header of a request holds behind the standard chain: the bearer token where there is one,
else the token against forged requests where it belongs, else what the request held before.
-/
namespace GeoMarket.Http

/-- A header that is set has its value under every spelling of its name, and every other header has
the value that it had. -/
theorem Headers.find?_set (headers : Headers) (name value other : String) :
    (headers.set name value).find? other =
      if Text.sameIgnoringCase name other then some value else headers.find? other := by
  induction headers with
  | nil =>
    cases same : Text.sameIgnoringCase name other <;> simp [set, find?, same]
  | cons header rest ih =>
    obtain ⟨first, old⟩ := header
    by_cases renamed : Text.sameIgnoringCase first name = true
    · have agree := Text.sameIgnoringCase_congr renamed other
      rw [set, if_pos renamed]
      cases same : Text.sameIgnoringCase name other <;> simp [find?, agree, same]
    · rw [set, if_neg renamed]
      by_cases found : Text.sameIgnoringCase first other = true
      · have apart : Text.sameIgnoringCase name other = false := by
          rw [Text.sameIgnoringCase_comm, ← Text.sameIgnoringCase_congr found]
          exact Bool.eq_false_iff.mpr renamed
        simp [find?, found, apart]
      · simpa [find?, found] using ih

/-- The value of a header of a request in which a header was set. -/
theorem Request.header?_withHeader (request : Request) (name value other : String) :
    (request.withHeader name value).header? other =
      if Text.sameIgnoringCase name other then some value else request.header? other :=
  Headers.find?_set request.headers name value other

namespace Interceptor

/-- The value that a session demands for a header because of its bearer token. -/
def bearerValue? (user : UserState) (name : String) : Option String :=
  match user.authToken with
  | none => none
  | some token =>
    if token ≠ "" ∧ Text.sameIgnoringCase "Authorization" name then some ("Bearer " ++ token)
    else none

/-- The header for the token against forged requests: that of the session, or that of the settings
when the session has none or an empty one. -/
def csrfName (fallback : String) (user : UserState) : String :=
  match user.csrfHeader with
  | none => fallback
  | some header => if header = "" then fallback else header

/-- The value that a session demands for a header of a request because of its token against forged
requests. -/
def csrfValue? (fallback : String) (user : UserState) (method : Method) (name : String) :
    Option String :=
  match user.csrfToken with
  | none => none
  | some token =>
    if token ≠ "" ∧ method ∈ [Method.post, Method.put, Method.delete] ∧
        Text.sameIgnoringCase (csrfName fallback user) name then some token
    else none

/-- An empty text counts as none. -/
@[simp] theorem nonEmpty?_some (text : String) :
    nonEmpty? (some text) = if text = "" then none else some text := by
  unfold nonEmpty?
  rw [Option.filter_some]
  by_cases empty : text = "" <;> simp [empty]

/-- The interceptor for the bearer token sets the header that carries it. -/
theorem header?_bearer (session : Session) (request : Request) (name : String) :
    (bearer session request).header? name =
      (bearerValue? session.user name).or (request.header? name) := by
  have token : session.user.bearer? = nonEmpty? session.user.authToken := rfl
  unfold bearer bearerValue? authorizationHeader
  rw [token]
  cases session.user.authToken with
  | none => rfl
  | some token =>
    by_cases empty : token = ""
    · simp [empty]
    · rw [nonEmpty?_some, if_neg empty]
      simp only [Request.header?_withHeader, ne_eq, empty, not_false_eq_true, true_and]
      split <;> rfl

/-- The header of the interceptor for the token against forged requests. -/
theorem csrfHeader_eq_csrfName (fallback : String) (session : Session) :
    csrfHeader fallback session = csrfName fallback session.user := by
  unfold csrfHeader csrfName
  cases session.user.csrfHeader with
  | none => rfl
  | some header => by_cases empty : header = "" <;> simp [empty]

/-- The verbs that change something. -/
theorem isMutating_iff (method : Method) :
    method.isMutating = true ↔ method ∈ [Method.post, Method.put, Method.delete] := by
  cases method <;> decide

/-- The interceptor for the token against forged requests sets the header that carries it in the
requests that change something. -/
theorem header?_csrf (fallback : String) (session : Session) (request : Request) (name : String) :
    (csrf fallback session request).header? name =
      (csrfValue? fallback session.user request.method name).or (request.header? name) := by
  unfold csrf csrfValue?
  rw [csrfHeader_eq_csrfName]
  cases session.user.csrfToken with
  | none => cases request.method.isMutating <;> rfl
  | some token =>
    by_cases empty : token = ""
    · cases request.method.isMutating <;> simp [empty]
    · rw [nonEmpty?_some, if_neg empty]
      simp only [← isMutating_iff, ne_eq, empty, not_false_eq_true, true_and]
      cases request.method.isMutating with
      | false => simp
      | true =>
        simp only [Request.header?_withHeader, true_and]
        split <;> rfl

/-- The standard chain first adds the token against forged requests, then the bearer token. -/
theorem applyAll_standard (fallback : String) (session : Session) (request : Request) :
    applyAll (standard fallback) session request =
      bearer session (csrf fallback session request) := rfl

/-- A request keeps its verb, its URL and its body in the interceptor for the bearer token. -/
theorem bearer_keeps (session : Session) (request : Request) :
    (bearer session request).method = request.method ∧
      (bearer session request).url = request.url ∧
      (bearer session request).body = request.body := by
  unfold bearer
  split <;> exact ⟨rfl, rfl, rfl⟩

/-- A request keeps its verb, its URL and its body in the interceptor for the token against forged
requests. -/
theorem csrf_keeps (fallback : String) (session : Session) (request : Request) :
    (csrf fallback session request).method = request.method ∧
      (csrf fallback session request).url = request.url ∧
      (csrf fallback session request).body = request.body := by
  unfold csrf
  split <;> exact ⟨rfl, rfl, rfl⟩

/-- A request keeps its verb, its URL and its body in the standard chain. -/
theorem standard_keeps (fallback : String) (session : Session) (request : Request) :
    (applyAll (standard fallback) session request).method = request.method ∧
      (applyAll (standard fallback) session request).url = request.url ∧
      (applyAll (standard fallback) session request).body = request.body := by
  obtain ⟨method, url, body⟩ := bearer_keeps session (csrf fallback session request)
  obtain ⟨firstMethod, firstUrl, firstBody⟩ := csrf_keeps fallback session request
  rw [applyAll_standard]
  exact ⟨method.trans firstMethod, url.trans firstUrl, body.trans firstBody⟩

/-- Behind the standard chain a header holds what the bearer token demands, else what the token
against forged requests demands, else what it held before. -/
theorem header?_standard (fallback : String) (session : Session) (request : Request)
    (name : String) :
    (applyAll (standard fallback) session request).header? name =
      (bearerValue? session.user name).or
        ((csrfValue? fallback session.user request.method name).or (request.header? name)) := by
  rw [applyAll_standard, header?_bearer, header?_csrf]

end Interceptor
end GeoMarket.Http
