import Mathlib.Data.List.Induction

/-!
# Values that prevail over some changes

A state goes through some changes, each of which gives a new value to some of its fields and leaves
the others alone. Behind them a field holds the value of the last change that gives it one, or what
it held before if there is none. So what it holds is determined by the changes alone.
-/
namespace GeoMarket

variable {ι σ α : Type}

/-- A value that one of some changes gives, and that no later one replaces. -/
def GivenLast (given? : ι → Option α) (changes : List ι) (value : α) : Prop :=
  ∃ before change after, changes = before ++ change :: after ∧
    given? change = some value ∧ ∀ later ∈ after, given? later = none

/-- The value of the last change that gives one, or one from below the changes if none does. -/
def Prevails (given? : ι → Option α) (changes : List ι) (below : α → Prop) (value : α) : Prop :=
  GivenLast given? changes value ∨ (∀ change ∈ changes, given? change = none) ∧ below value

variable {given? : ι → Option α} {changes : List ι} {below : α → Prop} {value other : α}

/-- A last change that gives a value prevails. -/
theorem Prevails.of_given {change : ι} (given : given? change = some value) :
    Prevails given? (changes ++ [change]) below value :=
  .inl ⟨changes, change, [], rfl, given, nofun⟩

/-- A last change that gives no value lets the ones before it prevail. -/
theorem Prevails.of_silent {change : ι} (silent : given? change = none)
    (prevails : Prevails given? changes below value) :
    Prevails given? (changes ++ [change]) below value := by
  rcases prevails with ⟨before, giver, after, rfl, given, silentAfter⟩ | ⟨untouched, held⟩
  · refine .inl ⟨before, giver, after ++ [change], by simp, given, ?_⟩
    rw [List.forall_mem_append]
    exact ⟨silentAfter, List.forall_mem_singleton.mpr silent⟩
  · refine .inr ⟨?_, held⟩
    rw [List.forall_mem_append]
    exact ⟨untouched, List.forall_mem_singleton.mpr silent⟩

/-- A value is given last if it is what a search from the last change to the first finds. -/
theorem GivenLast.findSome? (last : GivenLast given? changes value) :
    changes.reverse.findSome? given? = some value := by
  obtain ⟨before, change, after, rfl, given, silent⟩ := last
  rw [List.findSome?_eq_some_iff]
  refine ⟨after.reverse, change, before.reverse, by simp, given, ?_⟩
  intro later inside
  exact silent later (List.mem_reverse.mp inside)

/-- If one value at most comes from below, then one value at most prevails. -/
theorem Prevails.unique (determined : ∀ left right, below left → below right → left = right)
    (prevails : Prevails given? changes below value)
    (alsoPrevails : Prevails given? changes below other) : value = other := by
  have untouched (none : ∀ change ∈ changes, given? change = none) {left : α}
      (last : GivenLast given? changes left) : False := by
    obtain ⟨before, change, after, rfl, given, _⟩ := last
    have silent := none change (by simp)
    rw [given] at silent
    cases silent
  rcases prevails with last | ⟨silent, held⟩
  · rcases alsoPrevails with otherLast | ⟨silent, _⟩
    · exact Option.some.inj (last.findSome?.symm.trans otherLast.findSome?)
    · exact (untouched silent last).elim
  · rcases alsoPrevails with otherLast | ⟨_, otherHeld⟩
    · exact (untouched silent otherLast).elim
    · exact determined value other held otherHeld

/-- Every change gives a field its value, or leaves the field alone. -/
def Overwrites (apply : σ → ι → σ) (read : σ → α) (given? : ι → Option α) : Prop :=
  ∀ state change, read (apply state change) = (given? change).getD (read state)

/-- Behind some changes a field holds the value that prevails over what was below them. -/
theorem Overwrites.prevails {apply : σ → ι → σ} {read : σ → α}
    (overwrites : Overwrites apply read given?) (state : σ) (changes : List ι)
    (held : below (read state)) :
    Prevails given? changes below (read (changes.foldl apply state)) := by
  -- The last change decides, and leaves the decision to the ones before it if it gives no value.
  induction changes using List.reverseRecOn with
  | nil => exact .inr ⟨nofun, held⟩
  | append_singleton before change ih =>
    rw [List.foldl_append, List.foldl_cons, List.foldl_nil, overwrites]
    cases given : given? change with
    | some value => exact .of_given given
    | none => exact .of_silent given ih

end GeoMarket
