import GeoMarket.Json.Basic

/-!
# Trees in settled form

A settled tree has a value in every part, and the keys of each of its objects ascend strictly.
Sorting a readable tree settles it, and a settled tree is its own sorting, so each JSON value
has exactly one settled tree.
-/
namespace GeoMarket.Json

mutual

/-- Every part has a value, and the keys of every object ascend strictly. -/
def settled : Json → Bool
  | .arr items => settledItems items
  | .obj members => settledMembers members
  | .unreadable => false
  | _ => true

/-- Every tree of a list is settled. -/
def settledItems : List Json → Bool
  | [] => true
  | item :: rest => item.settled && settledItems rest

/-- The values are settled, and each key stands before all later ones. -/
def settledMembers : List (String × Json) → Bool
  | [] => true
  | (key, value) :: rest =>
    value.settled && rest.all (fun member => Text.precedes key member.1) && settledMembers rest

end

/-- A member of the result was put in or was there before. -/
theorem mem_insertMember {key : String} {value : Json} {members : List (String × Json)}
    {member : String × Json} (inside : member ∈ insertMember key value members) :
    member.1 = key ∨ member ∈ members := by
  induction members with
  | nil => simp_all [insertMember]
  | cons head rest ih =>
    obtain ⟨other, old⟩ := head
    unfold insertMember at inside
    split at inside
    · simp at inside
      rcases inside with rfl | inside
      · exact .inl rfl
      · exact .inr (by simp [inside])
    · split at inside
      · simp at inside
        rcases inside with rfl | inside
        · exact .inl rfl
        · exact .inr (by simpa using inside)
      · simp at inside
        rcases inside with rfl | inside
        · exact .inr (by simp)
        · rcases ih inside with same | inside
          · exact .inl same
          · exact .inr (by simp [inside])

/-- Putting a settled value into settled members keeps them settled. -/
theorem settledMembers_insertMember {key : String} {value : Json}
    {members : List (String × Json)} (member : value.settled = true)
    (rest : settledMembers members = true) :
    settledMembers (insertMember key value members) = true := by
  induction members with
  | nil => simp [insertMember, settledMembers, member]
  | cons head tail ih =>
    obtain ⟨other, old⟩ := head
    simp only [settledMembers, Bool.and_eq_true, List.all_eq_true] at rest
    obtain ⟨⟨oldSettled, above⟩, tailSettled⟩ := rest
    unfold insertMember
    split
    · rename_i same
      simp only [beq_iff_eq] at same
      subst same
      simp [settledMembers, member, tailSettled]
      intro _ _ found
      exact above _ found
    · rename_i different
      simp only [beq_iff_eq] at different
      split
      · rename_i below
        simp only [settledMembers, member, oldSettled, tailSettled, Bool.and_eq_true,
          List.all_eq_true, List.mem_cons, Bool.true_and, Bool.and_true]
        refine ⟨?_, above⟩
        rintro _ (rfl | found)
        · exact below
        · exact Text.precedes_trans below (above _ found)
      · rename_i notBelow
        simp only [settledMembers, oldSettled, ih tailSettled, Bool.true_and, Bool.and_true,
          List.all_eq_true]
        intro found inside
        rcases mem_insertMember inside with same | inside
        · rw [same]; exact Text.precedes_total different (Bool.eq_false_iff.mpr notBelow)
        · exact above _ inside

mutual

/-- Sorting a readable tree settles it. -/
theorem settled_sorted : (tree : Json) → tree.readable = true → tree.sorted.settled = true
  | .null, _ => rfl
  | .bool _, _ => rfl
  | .num _, _ => rfl
  | .str _, _ => rfl
  | .unreadable, impossible => by simp [readable] at impossible
  | .arr items, whole => by
    simp only [readable] at whole
    simpa [sorted, settled] using settledItems_sortedItems items whole
  | .obj members, whole => by
    simp only [readable] at whole
    simpa [sorted, settled] using settledMembers_sortedMembers members [] whole rfl

/-- Sorting the trees of a list settles them. -/
theorem settledItems_sortedItems :
    (items : List Json) → allReadable items = true → settledItems (sortedItems items) = true
  | [], _ => rfl
  | item :: rest, whole => by
    simp only [allReadable, Bool.and_eq_true] at whole
    simp [sortedItems, settledItems, settled_sorted item whole.1,
      settledItems_sortedItems rest whole.2]

/-- Inserting readable members into settled ones keeps them settled. -/
theorem settledMembers_sortedMembers :
    (members found : List (String × Json)) → allMembersReadable members = true →
      settledMembers found = true → settledMembers (sortedMembers members found) = true
  | [], _, _, before => before
  | (key, value) :: rest, found, whole, before => by
    simp only [allMembersReadable, Bool.and_eq_true] at whole
    exact settledMembers_sortedMembers rest _ whole.2
      (settledMembers_insertMember (settled_sorted value whole.1) before)

end

/-- A member above all others goes to the end. -/
theorem insertMember_of_above {key : String} {value : Json} {members : List (String × Json)}
    (above : ∀ member ∈ members, Text.precedes member.1 key = true) :
    insertMember key value members = members ++ [(key, value)] := by
  induction members with
  | nil => rfl
  | cons head rest ih =>
    obtain ⟨other, old⟩ := head
    have first : Text.precedes other key = true := above (other, old) (by simp)
    have different : key ≠ other := by
      rintro rfl
      simp at first
    have notBelow : Text.precedes key other = false := by
      refine Bool.eq_false_iff.mpr fun below => ?_
      simpa using Text.precedes_trans first below
    have kept := ih fun member inside => above member (by simp [inside])
    simp [insertMember, different, notBelow, kept]

mutual

/-- A settled tree is its own sorting. -/
theorem sorted_of_settled : (tree : Json) → tree.settled = true → tree.sorted = tree
  | .null, _ => rfl
  | .bool _, _ => rfl
  | .num _, _ => rfl
  | .str _, _ => rfl
  | .unreadable, _ => rfl
  | .arr items, whole => by
    simp only [settled] at whole
    simp [sorted, sortedItems_of_settledItems items whole]
  | .obj members, whole => by
    simp only [settled] at whole
    simpa [sorted] using sortedMembers_of_settledMembers members [] whole (by simp)

/-- Settled trees of a list stay as they are. -/
theorem sortedItems_of_settledItems :
    (items : List Json) → settledItems items = true → sortedItems items = items
  | [], _ => rfl
  | item :: rest, whole => by
    simp only [settledItems, Bool.and_eq_true] at whole
    simp [sortedItems, sorted_of_settled item whole.1, sortedItems_of_settledItems rest whole.2]

/-- Settled members are appended one by one to members with lower keys. -/
theorem sortedMembers_of_settledMembers :
    (members found : List (String × Json)) → settledMembers members = true →
      (∀ before ∈ found, ∀ member ∈ members, Text.precedes before.1 member.1 = true) →
      sortedMembers members found = found ++ members
  | [], found, _, _ => by simp [sortedMembers]
  | (key, value) :: rest, found, whole, apart => by
    simp only [settledMembers, Bool.and_eq_true, List.all_eq_true] at whole
    obtain ⟨⟨valueSettled, above⟩, restSettled⟩ := whole
    rw [sortedMembers, sorted_of_settled value valueSettled,
      insertMember_of_above fun member inside => apart member inside (key, value) (by simp),
      sortedMembers_of_settledMembers rest _ restSettled]
    · simp
    · intro before inside member later
      simp only [List.mem_append, List.mem_singleton] at inside
      rcases inside with inside | rfl
      · exact apart before inside member (by simp [later])
      · exact above member later

end

mutual

/-- A settled tree is readable. -/
theorem readable_of_settled : (tree : Json) → tree.settled = true → tree.readable = true
  | .null, _ => rfl
  | .bool _, _ => rfl
  | .num _, _ => rfl
  | .str _, _ => rfl
  | .unreadable, impossible => by simp [settled] at impossible
  | .arr items, whole => by
    simp only [settled] at whole
    simpa [readable] using allReadable_of_settledItems items whole
  | .obj members, whole => by
    simp only [settled] at whole
    simpa [readable] using allMembersReadable_of_settledMembers members whole

/-- Settled trees of a list are readable. -/
theorem allReadable_of_settledItems :
    (items : List Json) → settledItems items = true → allReadable items = true
  | [], _ => rfl
  | item :: rest, whole => by
    simp only [settledItems, Bool.and_eq_true] at whole
    simp [allReadable, readable_of_settled item whole.1, allReadable_of_settledItems rest whole.2]

/-- Settled members are readable. -/
theorem allMembersReadable_of_settledMembers :
    (members : List (String × Json)) → settledMembers members = true →
      allMembersReadable members = true
  | [], _ => rfl
  | (_, value) :: rest, whole => by
    simp only [settledMembers, Bool.and_eq_true] at whole
    simp [allMembersReadable, readable_of_settled value whole.1.1,
      allMembersReadable_of_settledMembers rest whole.2]

end

/-- A free JSON value, by its settled tree. -/
structure Document where
  /-- The tree. -/
  tree : Json
  /-- Keys ascend and nothing is without a value. -/
  isSettled : tree.settled = true

/-- The value of a tree, if every part of it has one. -/
def document? (tree : Json) : Option Document :=
  if whole : tree.readable = true then some ⟨tree.sorted, settled_sorted tree whole⟩ else none

/-- The tree of a value has that value. -/
theorem document?_tree (document : Document) : document? document.tree = some document := by
  have whole := readable_of_settled document.tree document.isSettled
  unfold document?
  rw [dif_pos whole]
  cases document
  simp [sorted_of_settled _ ‹_›]

instance : BEq Document := ⟨fun left right => left.tree == right.tree⟩

end GeoMarket.Json
