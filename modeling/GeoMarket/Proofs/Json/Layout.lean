import GeoMarket.Json.Settled
import Mathlib.Data.List.Nodup

/-!
# Layouts of a JSON value

The members of an object are in no order, so a value that was written member by member may be laid
out as it was written or, as a map keeps it, sorted by key at every depth. Either layout finds the
same values under the same keys as long as no key is repeated.
-/
namespace GeoMarket.Json

/-- The order in which the members of objects stand. -/
inductive Layout
  /-- The order in which they were written. -/
  | written
  /-- The order of their keys. -/
  | sorted

/-- The tree in a layout. -/
def Layout.apply : Layout → Json → Json
  | written, tree => tree
  | sorted, tree => tree.sorted

/-- The trees of a list are readable when each of them is. -/
theorem allReadable_iff {items : List Json} :
    allReadable items = true ↔ ∀ item ∈ items, item.readable = true := by
  induction items with
  | nil => simp [allReadable]
  | cons item rest ih => simp [allReadable, ih]

/-- Members are readable when each value is. -/
theorem allMembersReadable_iff {members : List (String × Json)} :
    allMembersReadable members = true ↔ ∀ member ∈ members, member.2.readable = true := by
  induction members with
  | nil => simp [allMembersReadable]
  | cons member rest ih =>
    obtain ⟨key, value⟩ := member
    simp only [allMembersReadable, Bool.and_eq_true, ih, List.mem_cons, forall_eq_or_imp]

/-- The trees of a list are sorted one by one. -/
theorem sortedItems_eq_map (items : List Json) : sortedItems items = items.map Json.sorted := by
  induction items with
  | nil => rfl
  | cons item rest ih => rw [sortedItems, ih, List.map_cons]

/-- The first member is found under its key, and the others behind it. -/
theorem lookup_cons_eq_ite (key : String) (value : Json) (rest : List (String × Json))
    (other : String) :
    ((key, value) :: rest).lookup other =
      if other = key then some value else rest.lookup other := by
  by_cases same : other = key <;> simp [List.lookup_cons, same, beq_eq_false_iff_ne.mpr]

/-- Members with other keys are not found under a key. -/
theorem lookup_eq_none_of_notMem {key : String} {members : List (String × Json)}
    (apart : key ∉ members.map Prod.fst) : members.lookup key = none := by
  rw [List.lookup_eq_none_iff]
  intro member inside
  have different : key ≠ member.1 := fun same =>
    apart (List.mem_map.mpr ⟨member, inside, same.symm⟩)
  simpa using different

/-- A key that is not repeated is the key of the member that is found under it alone. -/
theorem filter_eq_of_lookup {members : List (String × Json)}
    (distinct : (members.map Prod.fst).Nodup) {key : String} {value : Json}
    (found : members.lookup key = some value) :
    members.filter (fun member => member.1 == key) = [(key, value)] := by
  induction members with
  | nil => cases found
  | cons head rest ih =>
    obtain ⟨first, old⟩ := head
    obtain ⟨once, distinct⟩ := List.nodup_cons.mp distinct
    rw [lookup_cons_eq_ite] at found
    by_cases here : key = first
    · subst here
      rw [if_pos rfl] at found
      have others : rest.filter (fun member => member.1 == key) = [] := by
        refine List.filter_eq_nil_iff.mpr fun member inside => ?_
        have different : member.1 ≠ key := fun same =>
          once (List.mem_map.mpr ⟨member, inside, same⟩)
        simpa using different
      rw [List.filter_cons_of_pos (by simp), others, Option.some.inj found]
    · rw [if_neg here] at found
      rw [List.filter_cons_of_neg (by simpa using Ne.symm here), ih distinct found]

/-- Members beside a key are found as before, and none under the key. -/
theorem lookup_filter_ne (members : List (String × Json)) (key other : String) :
    (members.filter fun member => member.1 != key).lookup other =
      if other = key then none else members.lookup other := by
  induction members with
  | nil => simp
  | cons head rest ih =>
    obtain ⟨first, old⟩ := head
    by_cases dropped : first = key
    · subst dropped
      rw [List.filter_cons_of_neg (by simp), ih, lookup_cons_eq_ite]
      split <;> rfl
    · rw [List.filter_cons_of_pos (by simpa using dropped), lookup_cons_eq_ite, ih,
        lookup_cons_eq_ite]
      by_cases here : other = first
      · rw [if_pos here, if_pos here, if_neg (here ▸ dropped)]
      · rw [if_neg here, if_neg here]

/-- A member that is put in is found under its key, and the others stay. -/
theorem lookup_insertMember (key : String) (value : Json) (members : List (String × Json))
    (other : String) :
    (insertMember key value members).lookup other =
      if other = key then some value else members.lookup other := by
  induction members with
  | nil => exact lookup_cons_eq_ite key value [] other
  | cons head rest ih =>
    obtain ⟨first, old⟩ := head
    -- The member takes the place of an old one, goes before a larger key, or goes further behind.
    unfold insertMember
    split
    · rename_i same
      obtain rfl := beq_iff_eq.mp same
      simp only [lookup_cons_eq_ite]
      split <;> rfl
    · rename_i different
      have apart : key ≠ first := by simpa using different
      split
      · rw [lookup_cons_eq_ite]
      · simp only [lookup_cons_eq_ite, ih]
        split
        · rename_i found
          rw [if_neg (found ▸ apart.symm)]
        · rfl

/-- Sorted members hold the sorted values under the same keys. -/
theorem lookup_sortedMembers {members : List (String × Json)}
    (distinct : (members.map Prod.fst).Nodup) (found : List (String × Json)) (key : String) :
    (sortedMembers members found).lookup key =
      ((members.lookup key).map Json.sorted).or (found.lookup key) := by
  induction members generalizing found with
  | nil => simp [sortedMembers]
  | cons head rest ih =>
    obtain ⟨first, value⟩ := head
    obtain ⟨once, distinct⟩ := List.nodup_cons.mp distinct
    rw [sortedMembers, ih distinct, lookup_insertMember]
    rw [lookup_cons_eq_ite]
    split
    · rename_i here
      subst here
      simp [lookup_eq_none_of_notMem once]
    · rfl

/-- No key of settled members is repeated. -/
theorem nodup_of_settledMembers {members : List (String × Json)}
    (settled : settledMembers members = true) : (members.map Prod.fst).Nodup := by
  induction members with
  | nil => exact .nil
  | cons head rest ih =>
    obtain ⟨key, value⟩ := head
    simp only [settledMembers, Bool.and_eq_true, List.all_eq_true] at settled
    obtain ⟨⟨-, above⟩, settled⟩ := settled
    refine List.nodup_cons.mpr ⟨fun again => ?_, ih settled⟩
    obtain ⟨member, inside, same⟩ := List.mem_map.mp again
    have below := above member inside
    rw [same, Text.precedes_irrefl] at below
    cases below

namespace Layout

/-- What has no parts has one layout. -/
@[simp] theorem apply_null (layout : Layout) : layout.apply .null = .null := by
  cases layout <;> rfl

/-- A text has one layout. -/
@[simp] theorem apply_str (layout : Layout) (text : String) :
    layout.apply (.str text) = .str text := by
  cases layout <;> rfl

/-- A truth value has one layout. -/
@[simp] theorem apply_bool (layout : Layout) (value : Bool) :
    layout.apply (.bool value) = .bool value := by
  cases layout <;> rfl

/-- A number has one layout. -/
@[simp] theorem apply_num (layout : Layout) (number : Number) :
    layout.apply (.num number) = .num number := by
  cases layout <;> rfl

/-- Something is not laid out as nothing. -/
@[simp] theorem apply_eq_null_iff {layout : Layout} {tree : Json} :
    layout.apply tree = .null ↔ tree = .null := by
  cases layout with
  | written => rfl
  | sorted => cases tree <;> simp [apply, Json.sorted]

/-- A settled tree has one layout. -/
theorem apply_of_settled (layout : Layout) {tree : Json} (settled : tree.settled = true) :
    layout.apply tree = tree := by
  cases layout with
  | written => rfl
  | sorted => exact sorted_of_settled tree settled

/-- The items of an array stay in order. -/
theorem apply_arr (layout : Layout) (items : List Json) :
    layout.apply (.arr items) = .arr (items.map layout.apply) := by
  cases layout with
  | written => exact congrArg arr (List.map_id items).symm
  | sorted => exact congrArg arr (sortedItems_eq_map items)

/-- Members with the values of others in a layout, in whatever order. -/
structure Places (layout : Layout) (members placed : List (String × Json)) : Prop where
  /-- No key is repeated. -/
  distinct : (placed.map Prod.fst).Nodup
  /-- Every part of the members has a value. -/
  readable : ∀ member ∈ placed, member.2.readable = true
  /-- Under each key stands the value laid out. -/
  lookup : ∀ key, placed.lookup key = (members.lookup key).map layout.apply

/-- The members of an object find their places in each layout. -/
theorem exists_places (layout : Layout) {members : List (String × Json)}
    (distinct : (members.map Prod.fst).Nodup)
    (readable : ∀ member ∈ members, member.2.readable = true) :
    ∃ placed, layout.apply (.obj members) = .obj placed ∧ layout.Places members placed := by
  cases layout with
  | written =>
    refine ⟨members, rfl, distinct, readable, fun key => ?_⟩
    cases members.lookup key <;> rfl
  | sorted =>
    -- Sorting settles the members, and that gives both their distinct keys and their values.
    have settled : settledMembers (sortedMembers members []) = true :=
      settledMembers_sortedMembers members [] (allMembersReadable_iff.mpr readable) rfl
    refine ⟨sortedMembers members [], rfl, nodup_of_settledMembers settled, ?_, fun key => ?_⟩
    · exact allMembersReadable_iff.mp (allMembersReadable_of_settledMembers _ settled)
    · rw [lookup_sortedMembers distinct, List.lookup_nil, Option.or_none]
      rfl

/-- A member is placed once, and the others are placed beside it. -/
theorem Places.beside {layout : Layout} {key : String} {value : Json}
    {members placed : List (String × Json)} (apart : key ∉ members.map Prod.fst)
    (places : layout.Places ((key, value) :: members) placed) :
    placed.filter (fun member => member.1 == key) = [(key, layout.apply value)] ∧
      layout.Places members (placed.filter fun member => member.1 != key) := by
  refine ⟨filter_eq_of_lookup places.distinct ?_, ?_, ?_, fun other => ?_⟩
  · rw [places.lookup, lookup_cons_eq_ite, if_pos rfl]
    rfl
  · exact places.distinct.sublist (List.filter_sublist.map Prod.fst)
  · exact fun member inside => places.readable member (List.mem_filter.mp inside).1
  · rw [lookup_filter_ne, places.lookup, lookup_cons_eq_ite]
    split
    · rename_i same
      rw [same, lookup_eq_none_of_notMem apart]
      rfl
    · rfl

end Layout
end GeoMarket.Json
