import GeoMarket.Proofs.Record.Contents

/-!
# One part in place of another

The tree of a record may get another part under one of its keys: an object has the part wherever a
member may stand, and an array in the place of the member. If the part can be read, so can the tree,
and the value is what it was but for the part. The law is one of descriptions, and follows from
where the member stands among the others.
-/
namespace GeoMarket

variable {α β γ δ : Type}

/-- A tree with a part under a key in place of what it had there, if it had anything: an object may
have the member anywhere among the others, an array has it in its place. -/
inductive Json.Replaced (key : String) (place : Nat) (part : Json) : Json → Json → Prop
  /-- An object with the member among those under other keys. -/
  | member {members before after : List (String × Json)}
      (others : before ++ after = members.filter fun member => member.1 != key) :
      Replaced key place part (.obj members) (.obj (before ++ (key, part) :: after))
  /-- An array with the part in its place, which is not behind a gap. -/
  | item {items : List Json} (enough : place ≤ items.length) :
      Replaced key place part (.arr items)
        (.arr (items.take place ++ part :: items.drop (place + 1)))

/-- A member is written under its key. -/
theorem Field.name_of_mem_write {field : Field γ} {value : γ} {member : String × Json}
    (written : member ∈ field.write value) : member.1 = field.name := by
  unfold Field.write at written
  split at written
  · exact absurd written List.not_mem_nil
  · rw [List.mem_singleton.mp written]

/-- The next item of an array is used up by its member, if there is one. -/
theorem Field.rest_of_readRow {field : Field γ} {reading : Reading} {items rest : List Json}
    {value : γ} (read : field.readRow reading items = some (value, rest)) :
    rest = items.drop 1 := by
  cases items with
  | nil =>
    obtain ⟨_, -, same⟩ := Option.map_eq_some_iff.mp read
    exact (Prod.mk.inj same).2.symm
  | cons tree others =>
    obtain ⟨_, -, same⟩ := Option.map_eq_some_iff.mp read
    exact (Prod.mk.inj same).2.symm

namespace Record

section Object

variable {record : Record α} {key other : String} {part : Json}
  {members before after : List (String × Json)}

/-- The member that was put in is the only one under its key, and other keys occur as they did. -/
theorem occurrences_replaced
    (others : before ++ after = members.filter fun member => member.1 != key) :
    occurrences other (before ++ (key, part) :: after) =
      if key = other then 1 else occurrences other members := by
  have kept : occurrences other before + occurrences other after =
      occurrences other (members.filter fun member => member.1 != key) := by
    rw [← others, occurrences, occurrences, occurrences, List.countP_append]
  rw [occurrences_middle, kept, occurrences, occurrences, List.countP_filter]
  split
  next same =>
    subst same
    simp
  next apart =>
    rw [Nat.add_zero]
    refine List.countP_congr fun member _ => ?_
    have different : member.1 = other → member.1 ≠ key := fun same found =>
      apart (found.symm.trans same)
    simpa using different

/-- Members are accepted as they were with another one under a key that the record owns. -/
theorem accepts_replaced (owned : key ∈ record.own)
    (others : before ++ after = members.filter fun member => member.1 != key)
    (accepted : record.accepts members = true) :
    record.accepts (before ++ (key, part) :: after) = true := by
  simp only [accepts, Bool.and_eq_true, List.all_eq_true, Bool.or_eq_true, decide_eq_true_eq]
    at accepted ⊢
  obtain ⟨once, whole⟩ := accepted
  refine ⟨fun known inside => ?_, whole.imp_right fun readable member inside => ?_⟩
  · rw [occurrences_replaced others]
    split
    · exact Nat.le_refl 1
    · exact once known inside
  · by_cases same : member.1 = key
    · exact .inl (List.contains_iff_mem.mpr (same ▸ owned))
    · have among : member ∈ before ++ after := by
        rcases List.mem_append.mp inside with early | late
        · exact List.mem_append_left _ early
        · rcases List.mem_cons.mp late with rfl | late
          · exact absurd rfl same
          · exact List.mem_append_right _ late
      rw [others] at among
      exact readable member (List.mem_of_mem_filter among)

/-- The key leads to the member that was put in. -/
theorem lookup_replaced
    (others : before ++ after = members.filter fun member => member.1 != key) :
    (before ++ (key, part) :: after).lookup key = some part := by
  refine lookup_middle (Nat.le_of_eq ?_)
  rw [occurrences_replaced others, if_pos rfl]

/-- Other keys lead where they led. -/
theorem lookup_replaced_ne
    (others : before ++ after = members.filter fun member => member.1 != key)
    (apart : other ≠ key) :
    (before ++ (key, part) :: after).lookup other = members.lookup other := by
  have kept : (before ++ after).lookup other = members.lookup other := by
    rw [others, Json.lookup_filter_ne, if_neg apart]
  rw [← kept, List.lookup_append, List.lookup_append, Json.lookup_cons_eq_ite, if_neg apart]

end Object

/-- The items of an array are read by the first field and then by the others. -/
theorem exists_row_of_field {first : Field δ} {rest : Record β}
    {row : Reading → List Json → Option ((δ × β) × List Json)}
    (form : (field first rest).row? = some row) :
    ∃ others, rest.row? = some others ∧ ∀ {reading items value left},
      row reading items = some (value, left) ↔
        ∃ middle, first.readRow reading items = some (value.1, middle) ∧
          others reading middle = some (value.2, left) := by
  simp only [field, append, single, Option.bind_eq_bind, Option.bind_some,
    Option.bind_eq_some_iff, Option.some.injEq] at form
  obtain ⟨others, behind, rfl⟩ := form
  refine ⟨others, behind, fun {reading items value left} => ?_⟩
  obtain ⟨here, there⟩ := value
  simp only [Option.bind_eq_some_iff, Option.some.injEq, Prod.mk.injEq, Prod.exists]
  constructor
  · rintro ⟨_, middle, before, _, _, after, ⟨rfl, rfl⟩, rfl⟩
    exact ⟨middle, before, after⟩
  · rintro ⟨middle, before, after⟩
    exact ⟨here, middle, before, there, left, after, ⟨rfl, rfl⟩, rfl⟩

/-- A member of a record may be replaced: another value that its field reads takes the place of the
one before, and `set` says what becomes of the value of the record. -/
structure Replaces (record : Record α) (field : Field γ) (place : Nat) (set : γ → α → α) :
    Prop where
  /-- The key is one that the record owns. -/
  owned : field.name ∈ record.own
  /-- Under the keys of an object. -/
  read : ∀ {reading} {look other : String → Option Json} {value part},
    record.read reading look = some value →
    field.read reading (other field.name) = some part →
    (∀ key, key ≠ field.name → other key = look key) →
    record.read reading other = some (set part value)
  /-- In its place in an array. -/
  row : ∀ {row}, record.row? = some row → ∀ {reading items value rest tree part},
    row reading items = some (value, rest) →
    field.codec.read reading tree = some part →
    place ≤ items.length ∧
      row reading (items.take place ++ tree :: items.drop (place + 1)) = some (set part value, rest)
  /-- Written under its key, and nothing else is. -/
  written : ∀ value part,
    (record.write (set part value)).filter (fun member => member.1 == field.name) = field.write part

namespace Replaces

/-- The first member may be replaced if no other one has its key. -/
theorem here {field : Field γ} {rest : Record β} [within : rest.Local]
    (apart : field.name ∉ rest.keys)
    (silent : ∀ value, ∀ member ∈ rest.write value, member.1 ≠ field.name) :
    (Record.field field rest).Replaces field 0 fun part value => (part, value.2) where
  owned := List.mem_cons_self
  read {reading look other value part} whole found agree := by
    obtain ⟨-, behind⟩ := read_field_iff.mp whole
    refine read_field_iff.mpr ⟨found, ?_⟩
    rw [within.read_congr reading fun key known => agree key fun same => apart (same ▸ known)]
    exact behind
  row {row} form {reading items value rest tree part} whole found := by
    obtain ⟨others, -, reads⟩ := exists_row_of_field form
    obtain ⟨middle, before, after⟩ := reads.mp whole
    obtain rfl := Field.rest_of_readRow before
    refine ⟨Nat.zero_le _, reads.mpr ⟨_, ?_, after⟩⟩
    change (field.codec.read reading tree).map _ = _
    rw [found]
    rfl
  written value part := by
    change (field.write part ++ rest.write value.2).filter _ = field.write part
    have own :
        (field.write part).filter (fun member => member.1 == field.name) = field.write part :=
      List.filter_eq_self.mpr fun member inside =>
        beq_iff_eq.mpr (Field.name_of_mem_write inside)
    have others : (rest.write value.2).filter (fun member => member.1 == field.name) = [] :=
      List.filter_eq_nil_iff.mpr fun member inside same =>
        silent value.2 member inside (beq_iff_eq.mp same)
    rw [List.filter_append, own, others, List.append_nil]

/-- A member may be replaced behind a first one with another key; if it is the next one, an array
has to have the first one. -/
theorem there {field : Field γ} {place : Nat} {set : γ → β → β} {first : Field δ}
    {rest : Record β} (inner : rest.Replaces field place set)
    (apart : first.name ≠ field.name := by decide)
    (needed : first.absentInRow = none ∨ 0 < place := by decide) :
    (Record.field first rest).Replaces field (place + 1)
      fun part value => (value.1, set part value.2) where
  owned := List.mem_cons_of_mem _ inner.owned
  read {reading look other value part} whole found agree := by
    obtain ⟨before, behind⟩ := read_field_iff.mp whole
    refine read_field_iff.mpr ⟨?_, inner.read behind found agree⟩
    rw [agree first.name apart]
    exact before
  row {row} form {reading items value rest tree part} whole found := by
    obtain ⟨others, behind, reads⟩ := exists_row_of_field form
    obtain ⟨middle, before, after⟩ := reads.mp whole
    obtain ⟨enough, replaced⟩ := inner.row behind after found
    cases items with
    | nil =>
      -- An array that ends before the first member has no place for a later one either.
      obtain rfl := Field.rest_of_readRow before
      rcases needed with needed | later
      · obtain ⟨_, absent, -⟩ := Option.map_eq_some_iff.mp before
        rw [needed] at absent
        cases absent
      · exact absurd later (Nat.not_lt.mpr enough)
    | cons item items =>
      obtain rfl := Field.rest_of_readRow before
      refine ⟨Nat.succ_le_succ enough, reads.mpr ⟨_, ?_, replaced⟩⟩
      obtain ⟨_, read, same⟩ := Option.map_eq_some_iff.mp before
      change (first.codec.read reading item).map _ = _
      rw [read]
      exact congrArg (fun part => some (part, _)) (Prod.mk.inj same).1
  written value part := by
    change (first.write value.1 ++ rest.write (set part value.2)).filter _ = field.write part
    have others : (first.write value.1).filter (fun member => member.1 == field.name) = [] :=
      List.filter_eq_nil_iff.mpr fun member inside same =>
        apart ((Field.name_of_mem_write inside).symm.trans (beq_iff_eq.mp same))
    rw [List.filter_append, others, List.nil_append, inner.written]

/-- What a value is put together from makes no difference. -/
theorem isomorphic {field : Field γ} {place : Nat} {set : γ → α → α} {record : Record α}
    (inner : record.Replaces field place set) {pack : α → β} {unpack : β → α} {change : γ → β → β}
    (packs : ∀ part value, pack (set part value) = change part (pack value))
    (unpacks : ∀ part value, unpack (change part value) = set part (unpack value)) :
    (record.isomorphic pack unpack).Replaces field place change where
  owned := inner.owned
  read whole found agree := by
    obtain ⟨value, read, rfl⟩ := read_isomorphic_iff.mp whole
    exact read_isomorphic_iff.mpr ⟨_, inner.read read found agree, packs _ value⟩
  row {row} form {reading items value rest tree part} whole found := by
    obtain ⟨own, below, rfl⟩ := Option.map_eq_some_iff.mp form
    obtain ⟨⟨whole, left⟩, read, same⟩ := Option.map_eq_some_iff.mp whole
    obtain ⟨rfl, rfl⟩ := Prod.mk.inj same
    obtain ⟨enough, replaced⟩ := inner.row below read found
    refine ⟨enough, ?_⟩
    dsimp only
    rw [replaced, Option.map_some, packs]
  written value part := by
    change (record.write (unpack (change part value))).filter _ = _
    rw [unpacks, inner.written]

section Tree

variable {record : Record α} {field : Field γ} {place : Nat} {set : γ → α → α}
  {reading : Reading} {tree part : Json} {value : α} {new : γ}

include record set in
/-- A tree that is read may get another part in place of the one before. -/
theorem exists_replaced (replaces : record.Replaces field place set)
    (read : record.codec.read reading tree = some value)
    (found : field.codec.read reading part = some new) :
    ∃ other, Json.Replaced field.name place part tree other := by
  cases tree with
  | obj members => exact ⟨_, .member (List.nil_append _)⟩
  | arr items =>
    obtain ⟨row, form, inside⟩ := ofRow?_eq_some_iff.mp read
    exact ⟨_, .item (replaces.row form inside found).1⟩
  | _ => cases read

/-- A tree is read with another part in place of the one before. -/
theorem read_codec {other : Json} (replaces : record.Replaces field place set)
    (read : record.codec.read reading tree = some value)
    (replaced : Json.Replaced field.name place part tree other)
    (found : field.codec.read reading part = some new) :
    record.codec.read reading other = some (set new value) := by
  cases replaced with
  | member others =>
    obtain ⟨accepted, inside⟩ := ofMembers?_eq_some_iff.mp read
    refine ofMembers?_eq_some_iff.mpr ⟨accepts_replaced replaces.owned others accepted, ?_⟩
    refine replaces.read inside ?_ fun key apart => lookup_replaced_ne others apart
    rw [lookup_replaced others]
    exact found
  | item enough =>
    obtain ⟨row, form, inside⟩ := ofRow?_eq_some_iff.mp read
    exact ofRow?_eq_some_iff.mpr ⟨row, form, (replaces.row form inside found).2⟩

end Tree
end Replaces
end Record
end GeoMarket
