import GeoMarket.Proofs.Change.Prevailing
import GeoMarket.Session.State

/-!
# The fields of a session

A session has nine fields, and what each of them holds depends on the last mutation that writes it,
whatever else has happened. From what a field holds, one can therefore tell the mutation that wrote
it. Mutations overlap in what they write, but the name, the roles and the profile of the user are
written together, so that roles never outlive the user who holds them.
-/
namespace GeoMarket.Session

variable {α : Type}

/-- A field of a session, by the type of what it holds. -/
inductive Field : Type → Type
  /-- The bearer token. -/
  | authToken : Field (Option String)
  /-- The header for the token against forged requests. -/
  | csrfHeader : Field (Option String)
  /-- The token against forged requests. -/
  | csrfToken : Field (Option String)
  /-- The name of the user. -/
  | username : Field (Option String)
  /-- The roles of the user. -/
  | roles : Field (List Role)
  /-- The profile of the user. -/
  | profile : Field (Option Profile)
  /-- The cart. -/
  | cart : Field (Option Cart)
  /-- The configuration of the server. -/
  | configuration : Field (Option Configuration)
  /-- Whether a configuration is on its way. -/
  | loading : Field Bool

namespace Field

/-- What a field holds in a session. -/
def read : Field α → Session → α
  | authToken, session => session.user.authToken
  | csrfHeader, session => session.user.csrfHeader
  | csrfToken, session => session.user.csrfToken
  | username, session => session.user.username
  | roles, session => session.user.roles
  | profile, session => session.user.profile
  | cart, session => session.shop.cart
  | configuration, session => session.config.configuration
  | loading, session => session.config.loading

/-- What a field holds in the session of a new client. -/
def standard : Field α → α
  | authToken => none
  | csrfHeader => none
  | csrfToken => none
  | username => none
  | roles => []
  | profile => none
  | cart => none
  | configuration => none
  | loading => true

/-- The session of a new client holds the standard values. -/
theorem read_empty (field : Field α) : field.read {} = field.standard := by
  cases field <;> rfl

end Field

/-- A session consists of its fields. -/
theorem eq_of_read_eq {session other : Session}
    (same : ∀ {α : Type} (field : Field α), field.read session = field.read other) :
    session = other := by
  obtain ⟨⟨authToken, csrfHeader, csrfToken, username, roles, profile⟩, ⟨cart⟩,
    ⟨configuration, loading⟩⟩ := session
  obtain ⟨⟨_, _, _, _, _, _⟩, ⟨_⟩, ⟨_, _⟩⟩ := other
  cases same .authToken
  cases same .csrfHeader
  cases same .csrfToken
  cases same .username
  cases same .roles
  cases same .profile
  cases same .cart
  cases same .configuration
  cases same .loading
  rfl

/-- The value that a mutation writes to a field, if it writes the field. -/
def Mutation.written? : Mutation → Field α → Option α
  | .setCsrfToken header _, .csrfHeader => some header
  | .setCsrfToken _ token, .csrfToken => some token
  | .setAuthToken token, .authToken => some token
  | .setUserData account, .username => some (some account.username)
  | .setUserData account, .roles => some account.roles
  | .setUserData account, .profile => some (some account.profile)
  | .logout, .authToken => some none
  | .logout, .username => some none
  | .logout, .roles => some []
  | .logout, .profile => some none
  | .setCart cart, .cart => some cart
  | .setConfiguration configuration, .configuration => some configuration
  | .setLoading loading, .loading => some loading
  | .reset, field => some field.standard
  | _, _ => none

/-- A mutation writes its fields and no others. -/
theorem overwrites (field : Field α) : Overwrites apply field.read (·.written? field) := by
  intro session mutation
  cases mutation with
  | reset => exact field.read_empty
  | _ => cases field <;> rfl

/-- Behind some mutations a field holds what the last of them to write it has written, or what it
held before if none writes it. -/
theorem prevails_applyAll (field : Field α) (session : Session) (mutations : List Mutation) :
    Prevails (·.written? field) mutations (· = field.read session)
      (field.read (session.applyAll mutations)) :=
  (overwrites field).prevails session mutations rfl

/-- A value of a field is the one that the last of some mutations to write the field has written, or
the standard one if none writes it. -/
def Holds (mutations : List Mutation) (field : Field α) (value : α) : Prop :=
  Prevails (·.written? field) mutations (· = field.standard) value

/-- The session behind some mutations is the only one of its kind. -/
theorem eq_run_iff (mutations : List Mutation) (session : Session) :
    session = run mutations ↔
      ∀ {α : Type} (field : Field α), Holds mutations field (field.read session) := by
  have held {α : Type} (field : Field α) : Holds mutations field (field.read (run mutations)) :=
    (overwrites field).prevails {} mutations field.read_empty
  constructor
  · rintro rfl α field
    exact held field
  · intro holds
    refine eq_of_read_eq fun field => ?_
    exact (holds field).unique (fun left right first second => first.trans second.symm) (held field)

/-- Only an account that is put into the session grants a role. -/
theorem Mutation.eq_setUserData_of_mem {mutation : Mutation} {roles : List Role} {role : Role}
    (wrote : mutation.written? .roles = some roles) (granted : role ∈ roles) :
    ∃ account, mutation = .setUserData account ∧ role ∈ account.roles := by
  cases mutation with
  | setUserData account =>
    cases wrote
    exact ⟨account, rfl, granted⟩
  | logout | reset =>
    cases wrote
    cases granted
  | _ => cases wrote

/-- A mutation leaves the roles alone unless it replaces or forgets the user. -/
theorem Mutation.written?_roles_eq_none_iff {mutation : Mutation} :
    mutation.written? .roles = none ↔
      mutation ≠ .logout ∧ mutation ≠ .reset ∧ ∀ account, mutation ≠ .setUserData account := by
  cases mutation <;> simp [written?]

/-- A role of the user of a new client was granted by an account that was put into the session,
behind which the user was neither replaced nor forgotten. -/
theorem granted_of_mem_roles {mutations : List Mutation} {role : Role}
    (granted : role ∈ (run mutations).user.roles) :
    ∃ before account after, mutations = before ++ .setUserData account :: after ∧
      (∀ later ∈ after, later ≠ .logout ∧ later ≠ .reset ∧
        ∀ another, later ≠ .setUserData another) ∧
      role ∈ account.roles := by
  rcases prevails_applyAll .roles {} mutations with written | ⟨_, untouched⟩
  · obtain ⟨before, mutation, after, split, wrote, silent⟩ := written
    obtain ⟨account, rfl, listed⟩ := mutation.eq_setUserData_of_mem wrote granted
    refine ⟨before, account, after, split, ?_, listed⟩
    intro later inside
    exact Mutation.written?_roles_eq_none_iff.mp (silent later inside)
  · have none : (run mutations).user.roles = [] := untouched
    rw [none] at granted
    cases granted

/-- The user of a session is known by name and profile together, and only a known user has roles. -/
structure Coupled (session : Session) : Prop where
  /-- There is a name exactly if there is a profile. -/
  named : session.user.username.isSome = session.user.profile.isSome
  /-- There are roles only if there is a profile. -/
  known : session.user.roles ≠ [] → session.user.profile.isSome = true

/-- A mutation keeps name, roles and profile together. -/
theorem Coupled.apply {session : Session} (coupled : session.Coupled) (mutation : Mutation) :
    (session.apply mutation).Coupled := by
  cases mutation with
  | setUserData account => exact ⟨rfl, fun _ => rfl⟩
  | logout => exact ⟨rfl, fun granted => absurd rfl granted⟩
  | reset => exact ⟨rfl, fun granted => absurd rfl granted⟩
  | _ => exact ⟨coupled.named, coupled.known⟩

/-- Some mutations keep name, roles and profile together. -/
theorem Coupled.applyAll {session : Session} (coupled : session.Coupled)
    (mutations : List Mutation) : (session.applyAll mutations).Coupled := by
  induction mutations generalizing session with
  | nil => exact coupled
  | cons mutation rest ih => exact ih (coupled.apply mutation)

/-- A role is granted only to a user who is signed in. -/
theorem Coupled.isAuthenticated_of_hasRole {session : Session} (coupled : session.Coupled)
    {role : Role} (granted : session.hasRole role = true) : session.isAuthenticated = true := by
  have inhabited : session.user.roles ≠ [] := by
    intro none
    rw [hasRole, UserState.hasRole, none] at granted
    cases granted
  rw [isAuthenticated, UserState.isAuthenticated, coupled.known inhabited, Bool.or_true]

/-- **The last writer wins.** The session of a new client behind some mutations is the one in which
every field holds what the last mutation to write it has written, or its standard value if none has.
In it the user has a name exactly if there is a profile, roles only if there are both, and any role
only if somebody is signed in. -/
theorem last_writer_wins (mutations : List Mutation) :
    (∀ session, session = run mutations ↔
      ∀ {α : Type} (field : Field α), Holds mutations field (field.read session)) ∧
    ((run mutations).user.username.isSome = true ↔ (run mutations).user.profile.isSome = true) ∧
    ((run mutations).user.roles ≠ [] →
      (run mutations).user.username.isSome = true ∧ (run mutations).user.profile.isSome = true) ∧
    ∀ role, (run mutations).hasRole role = true → (run mutations).isAuthenticated = true := by
  have empty : Coupled {} := ⟨rfl, fun granted => absurd rfl granted⟩
  have coupled : (run mutations).Coupled := empty.applyAll mutations
  refine ⟨eq_run_iff mutations, by rw [coupled.named], fun granted => ?_,
    fun role => coupled.isAuthenticated_of_hasRole⟩
  have known := coupled.known granted
  exact ⟨coupled.named.trans known, known⟩

end GeoMarket.Session
