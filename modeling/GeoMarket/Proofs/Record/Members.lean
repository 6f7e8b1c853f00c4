import GeoMarket.Proofs.Record.RoundTrip
import GeoMarket.Record.Union
import Mathlib.Data.List.Nodup

/-!
# Members that are read back

The members of a record are read back when no key is known twice: what an appended record writes
then stands under none of the keys of the record before it, so each part finds its own members
among all of them. The law is stated for a value of a record, which serves for what is sent, and
for all values that a record reads, which serves for what is received. A union adds a tag, whose key
none of its kinds may use.
-/
namespace GeoMarket

open Json (Layout)

variable {α β : Type}

/-! ## Single members -/

namespace Field

/-- The value survives under the key, or is the one that a missing key stands for. -/
class Survives (field : Field α) (value : α) : Prop where
  /-- A value that is written survives. -/
  written : field.omits value = false → field.codec.Survives value
  /-- A value that is not written is the default. -/
  omitted : field.omits value = true → field.absent = some value

/-- Every value that the member is read with survives. -/
class Sound (field : Field α) (reading : Reading) : Prop where
  /-- A value found under the key. -/
  found : ∀ {tree value}, field.codec.read reading tree = some value → field.Survives value
  /-- The value that a missing key stands for. -/
  absent : ∀ {value}, field.absent = some value → field.Survives value
  /-- The value that a missing item stands for. -/
  absentInRow : ∀ {value}, field.absentInRow = some value → field.Survives value

section Kinds

variable (name : String) (codec : Codec α) (reading : Reading)

instance (value : α) [whole : codec.Survives value] : (required name codec).Survives value :=
  ⟨fun _ => whole, nofun⟩

instance [sound : codec.Sound reading] : (required name codec).Sound reading where
  found read := ⟨fun _ => sound.survives read, nofun⟩
  absent := nofun
  absentInRow := nofun

instance (default value : α) [whole : codec.Survives value] :
    (defaulted name codec default).Survives value := ⟨fun _ => whole, nofun⟩

instance (default : α) [sound : codec.Sound reading] [whole : codec.Survives default] :
    (defaulted name codec default).Sound reading where
  found read := ⟨fun _ => sound.survives read, nofun⟩
  absent := by rintro _ ⟨⟩; exact ⟨fun _ => whole, nofun⟩
  absentInRow := by rintro _ ⟨⟩; exact ⟨fun _ => whole, nofun⟩

instance (value : Option α) [whole : codec.nullable.Survives value] :
    (optional name codec).Survives value := ⟨fun _ => whole, nofun⟩

instance (value : Option α) [whole : codec.nullable.Survives value] :
    (omitted name codec).Survives value where
  written _ := whole
  omitted empty := by
    obtain rfl := Option.isNone_iff_eq_none.mp empty
    rfl

instance [sound : codec.Sound reading] : (optional name codec).Sound reading :=
  inferInstanceAs ((defaulted name codec.nullable none).Sound reading)

instance [sound : codec.Sound reading] : (omitted name codec).Sound reading where
  found read :=
    have : codec.nullable.Survives _ := Codec.Sound.survives read
    inferInstance
  absent := by rintro _ ⟨⟩; infer_instance
  absentInRow := by rintro _ ⟨⟩; infer_instance

instance [sound : codec.Sound reading] : (nullable name codec).Sound reading where
  found read :=
    have : codec.nullable.Survives _ := Codec.Sound.survives read
    ⟨fun _ => this, nofun⟩
  absent := by rintro _ ⟨⟩; exact ⟨fun _ => inferInstanceAs (codec.nullable.Survives none), nofun⟩
  absentInRow := nofun

end Kinds

-- What an array ends with plays no part when an object is read.
instance (field : Field α) (default : Option α) (value : α) [whole : field.Survives value] :
    Field.Survives { field with absentInRow := default } value :=
  ⟨whole.written, whole.omitted⟩

end Field

/-! ## Values of a record -/

namespace Record

/-- A value is read back from its members wherever these stand under the keys of the record. -/
class Survives (record : Record α) (value : α) : Prop where
  /-- Only known keys are written. -/
  known : (record.write value).map Prod.fst ⊆ record.keys
  /-- Every part of the members has a value. -/
  readable : ∀ member ∈ record.write value, member.2.readable = true
  /-- No key is written twice. -/
  apart : record.keys.Nodup → ((record.write value).map Prod.fst).Nodup
  /-- Reading undoes writing, in whatever layout. -/
  restores : record.keys.Nodup → ∀ (layout : Layout) reading look,
    (∀ key ∈ record.keys, look key = ((record.write value).lookup key).map layout.apply) →
      record.read reading look = some value

/-- Every value that is read from the members of an object or the items of an array survives. -/
class Sound (record : Record α) (reading : Reading) : Prop where
  /-- From the members of an object. -/
  survives : ∀ {look value}, record.read reading look = some value → record.Survives value
  /-- From the items of an array. -/
  survivesRow : ∀ {row items value rest}, record.row? = some row →
    row reading items = some (value, rest) → record.Survives value

/-- Members are not found under a key that their record does not know. -/
theorem Survives.lookup_eq_none {record : Record α} {value : α} (whole : record.Survives value)
    {key : String} (unknown : key ∉ record.keys) : (record.write value).lookup key = none :=
  Json.lookup_eq_none_of_notMem fun written => unknown (whole.known written)

/-- Two records together know what each of them knows. -/
theorem keys_append_perm (first : Record α) (second : Record β) :
    (first.append second).keys.Perm (first.keys ++ second.keys) := by
  rw [List.perm_iff_count]
  intro key
  simp only [keys, append, List.count_append]
  omega

/-- Two records together know no key twice when neither does and they share none. -/
theorem nodup_keys_append {first : Record α} {second : Record β} :
    (first.append second).keys.Nodup ↔
      first.keys.Nodup ∧ second.keys.Nodup ∧ first.keys.Disjoint second.keys := by
  rw [(keys_append_perm first second).nodup_iff, List.nodup_append']

instance (value : Unit) : empty.Survives value :=
  ⟨nofun, nofun, fun _ => .nil, fun _ _ _ _ _ => rfl⟩

instance (field : Field α) (value : α) [whole : field.Survives value] :
    (single field).Survives value := by
  cases omits : field.omits value with
  | true =>
    have members : (single field).write value = [] := if_pos omits
    constructor <;> rw [members]
    · nofun
    · nofun
    · exact fun _ => .nil
    · intro _ layout reading look agree
      have missing : look field.name = none := agree field.name (by simp [keys, single])
      change field.read reading (look field.name) = some value
      rw [missing]
      exact whole.omitted omits
  | false =>
    have members : (single field).write value = [(field.name, field.codec.write value)] := by
      simp [single, Field.write, omits]
    have inner := whole.written omits
    constructor <;> rw [members]
    · simp [keys, single]
    · simpa using inner.readable
    · simp
    · intro _ layout reading look agree
      have found : look field.name = some (layout.apply (field.codec.write value)) := by
        rw [agree field.name (by simp [keys, single])]
        simp
      change field.read reading (look field.name) = some value
      rw [found]
      exact inner.restores layout reading

instance (first : Record α) (second : Record β) (value : α × β)
    [left : first.Survives value.1] [right : second.Survives value.2] :
    (first.append second).Survives value where
  known key written := by
    change key ∈ (first.write value.1 ++ second.write value.2).map Prod.fst at written
    rw [List.map_append, List.mem_append] at written
    rw [(keys_append_perm first second).mem_iff, List.mem_append]
    exact written.imp (fun before => left.known before) fun after => right.known after
  readable member inside :=
    (List.mem_append.mp inside).elim (left.readable member) (right.readable member)
  apart distinct := by
    obtain ⟨firstDistinct, secondDistinct, disjoint⟩ := nodup_keys_append.mp distinct
    change ((first.write value.1 ++ second.write value.2).map Prod.fst).Nodup
    rw [List.map_append, List.nodup_append']
    exact ⟨left.apart firstDistinct, right.apart secondDistinct,
      fun key before after => disjoint (left.known before) (right.known after)⟩
  restores distinct layout reading look agree := by
    obtain ⟨firstDistinct, secondDistinct, disjoint⟩ := nodup_keys_append.mp distinct
    have known {key : String} (either : key ∈ first.keys ∨ key ∈ second.keys) :
        look key = (((first.write value.1).lookup key).or
          ((second.write value.2).lookup key)).map layout.apply := by
      have inside := (keys_append_perm first second).mem_iff.mpr (List.mem_append.mpr either)
      rw [agree key inside]
      exact congrArg _ List.lookup_append
    have before : first.read reading look = some value.1 :=
      left.restores firstDistinct layout reading look fun key inside => by
        rw [known (.inl inside), right.lookup_eq_none (disjoint inside), Option.or_none]
    have after : second.read reading look = some value.2 :=
      right.restores secondDistinct layout reading look fun key inside => by
        rw [known (.inr inside), left.lookup_eq_none fun before => disjoint before inside,
          Option.none_or]
    simp [append, before, after]

instance (first : Field α) (rest : Record β) (value : α × β) [first.Survives value.1]
    [rest.Survives value.2] : (Record.field first rest).Survives value :=
  inferInstanceAs (((single first).append rest).Survives value)

-- The keys of an embedded record are the keys that the embedding one knows, so only the reading
-- of the members changes, and the inner law holds for every reading.
instance (record : Record α) (value : α) [whole : record.Survives value] :
    record.embed.Survives value :=
  ⟨whole.known, whole.readable, whole.apart,
    fun distinct layout _ => whole.restores distinct layout .gathered⟩

/-- A value put together from another one survives with it. -/
theorem survives_isomorphic {record : Record α} {pack : α → β} {unpack : β → α} {value : β}
    (packs : pack (unpack value) = value) [whole : record.Survives (unpack value)] :
    (record.isomorphic pack unpack).Survives value where
  known := whole.known
  readable := whole.readable
  apart := whole.apart
  restores distinct layout reading look agree := by
    change (record.read reading look).map pack = some value
    rw [whole.restores distinct layout reading look agree, Option.map_some, packs]

/-- Members without repeated keys and unreadable parts are accepted. -/
theorem accepts_of_distinct (record : Record α) {members : List (String × Json)}
    (distinct : (members.map Prod.fst).Nodup)
    (readable : ∀ member ∈ members, member.2.readable = true) :
    record.accepts members = true := by
  have once (key : String) : occurrences key members ≤ 1 := by
    have counted : occurrences key members = (members.map Prod.fst).count key := by
      rw [List.count, List.countP_map]; rfl
    rw [counted]
    exact List.nodup_iff_count_le_one.mp distinct key
  simp only [Record.accepts, Bool.and_eq_true, List.all_eq_true, Bool.or_eq_true,
    decide_eq_true_eq]
  exact ⟨fun key _ => once key, .inr fun member inside => .inr (readable member inside)⟩

/-- A value that survives is read from its members, wherever a layout has placed them. -/
theorem Survives.ofMembers {record : Record α} {value : α} (whole : record.Survives value)
    (distinct : record.keys.Nodup) {layout : Layout} {placed : List (String × Json)}
    (places : layout.Places (record.write value) placed) (reading : Reading) :
    record.ofMembers? reading placed = some value := by
  rw [ofMembers?, if_pos (accepts_of_distinct record places.distinct places.readable)]
  exact whole.restores distinct layout reading _ fun key _ => places.lookup key

/-- A value that survives as members survives as an object. -/
theorem Survives.codec {record : Record α} {value : α} (whole : record.Survives value)
    (distinct : record.keys.Nodup) : record.codec.Survives value where
  restores layout reading := by
    obtain ⟨placed, written, places⟩ :=
      layout.exists_places (whole.apart distinct) whole.readable
    change record.codec.read reading (layout.apply (.obj (record.write value))) = some value
    rw [written]
    exact whole.ofMembers distinct places reading
  readable := Json.allMembersReadable_iff.mpr whole.readable

instance (record : Record α) (value : α) : record.codec.Present value := ⟨nofun⟩

/-! ## Values that a record reads -/

instance (reading : Reading) : empty.Sound reading :=
  ⟨fun _ => inferInstance, fun _ _ => inferInstance⟩

instance (field : Field α) (reading : Reading) [sound : field.Sound reading] :
    (single field).Sound reading where
  survives {look value} read := by
    have inner : field.Survives value := by
      change field.read reading (look field.name) = some value at read
      cases found : look field.name with
      | some tree => rw [found] at read; exact sound.found read
      | none => rw [found] at read; exact sound.absent read
    infer_instance
  survivesRow {row items value rest} form read := by
    obtain rfl : field.readRow = row := Option.some.inj form
    have inner : field.Survives value := by
      cases items with
      | cons tree others =>
        obtain ⟨_, inside, same⟩ := Option.map_eq_some_iff.mp read
        cases same
        exact sound.found inside
      | nil =>
        obtain ⟨_, default, same⟩ := Option.map_eq_some_iff.mp read
        cases same
        exact sound.absentInRow default
    infer_instance

instance sound_append (first : Record α) (second : Record β) (reading : Reading)
    [left : first.Sound reading] [right : second.Sound reading] :
    (first.append second).Sound reading where
  survives {look value} read := by
    simp only [append, Option.bind_eq_bind, Option.bind_eq_some_iff, Option.some.injEq] at read
    obtain ⟨before, readBefore, after, readAfter, rfl⟩ := read
    have := left.survives readBefore
    have := right.survives readAfter
    infer_instance
  survivesRow {row items value rest} form read := by
    simp only [append, Option.bind_eq_bind, Option.bind_eq_some_iff, Option.some.injEq] at form
    obtain ⟨firstRow, firstForm, secondRow, secondForm, rfl⟩ := form
    simp only [Option.bind_eq_some_iff, Option.some.injEq, Prod.mk.injEq] at read
    obtain ⟨⟨before, middle⟩, readBefore, ⟨after, last⟩, readAfter, rfl, rfl⟩ := read
    have := left.survivesRow firstForm readBefore
    have := right.survivesRow secondForm readAfter
    infer_instance

instance (first : Field α) (rest : Record β) (reading : Reading) [first.Sound reading]
    [rest.Sound reading] : (Record.field first rest).Sound reading :=
  inferInstanceAs (((single first).append rest).Sound reading)

instance (record : Record α) (reading : Reading) [sound : record.Sound .gathered] :
    record.embed.Sound reading where
  survives read :=
    have := sound.survives read
    inferInstance
  survivesRow := nofun

/-- Records whose values are put together one to one are sound together. -/
theorem sound_isomorphic {record : Record α} {pack : α → β} {unpack : β → α} {reading : Reading}
    (unpacks : ∀ value, unpack (pack value) = value) [sound : record.Sound reading] :
    (record.isomorphic pack unpack).Sound reading := by
  have whole {value : α} (inner : record.Survives value) :
      (record.isomorphic pack unpack).Survives (pack value) :=
    have : record.Survives (unpack (pack value)) := by rwa [unpacks]
    survives_isomorphic (congrArg pack (unpacks value))
  constructor
  · intro look value read
    obtain ⟨part, inside, rfl⟩ := Option.map_eq_some_iff.mp read
    exact whole (sound.survives inside)
  · intro row items value rest form read
    obtain ⟨inner, innerForm, rfl⟩ := Option.map_eq_some_iff.mp form
    obtain ⟨⟨part, left⟩, inside, same⟩ := Option.map_eq_some_iff.mp read
    cases same
    exact whole (sound.survivesRow innerForm inside)

/-- The value of a tree survives as members. -/
theorem Sound.survives_of_tree {record : Record α} {reading : Reading}
    (sound : record.Sound reading) {tree : Json} {value : α}
    (read : record.codec.read reading tree = some value) : record.Survives value := by
  cases tree with
  | obj members =>
    change record.ofMembers? reading members = some value at read
    unfold ofMembers? at read
    split at read
    · exact sound.survives read
    · cases read
  | arr items =>
    change record.ofRow? reading items = some value at read
    unfold ofRow? at read
    split at read
    · cases read
    · rename_i row form
      split at read
      · rename_i whole
        cases read
        exact sound.survivesRow form whole
      · cases read
  | _ => cases read

/-- A sound record that knows no key twice is sound as a tree. -/
theorem Sound.codec {record : Record α} {reading : Reading} (sound : record.Sound reading)
    (distinct : record.keys.Nodup) : record.codec.Sound reading :=
  ⟨fun read => (sound.survives_of_tree read).codec distinct, fun _ _ => inferInstance⟩

end Record

/-! ## Unions -/

namespace Union

variable {κ : Type} {kinds : List (String × κ)} {read : κ → Json → Option α} {name : α → String}
  {write : α → List (String × Json)}

/-- A value with readable members beside its tag is read back if its kind reads them back. -/
theorem survives {value : α} {kind : κ} (named : kinds.lookup (name value) = some kind)
    (apart : (tagKey :: (write value).map Prod.fst).Nodup)
    (readable : ∀ member ∈ write value, member.2.readable = true)
    (restores : ∀ (layout : Layout) beside, layout.Places (write value) beside →
      read kind (.obj beside) = some value) :
    (Union.codec kinds read name write).Survives value where
  restores layout reading := by
    have whole : ∀ member ∈ (tagKey, Json.str (name value)) :: write value,
        member.2.readable = true := by simpa [Json.readable] using readable
    have distinct : (((tagKey, Json.str (name value)) :: write value).map Prod.fst).Nodup := apart
    obtain ⟨placed, written, places⟩ := layout.exists_places distinct whole
    obtain ⟨tagged, beside⟩ := places.beside (List.nodup_cons.mp apart).1
    have split : split? placed =
        some (.str (name value), placed.filter fun member => member.1 != tagKey) := by
      simp only [split?, tagged, Layout.apply_str]
      exact if_pos (List.all_eq_true.mpr beside.readable)
    have chosen : kind? kinds reading (.str (name value)) = some kind := named
    change (Union.codec kinds read name write).read reading (layout.apply (.obj _)) = some value
    rw [written]
    simp only [codec, split, chosen, Option.bind_eq_bind, Option.bind_some]
    exact restores layout _ beside
  readable := by
    change Json.allMembersReadable _ = true
    rw [Json.allMembersReadable_iff]
    simpa [Json.readable] using readable

section OfRecord

variable (kind : κ) (record : Record β) (wrap : β → α)
  (distinct : (tagKey :: record.keys).Nodup)
  (named : ∀ part, kinds.lookup (name (wrap part)) = some kind)
  (writes : ∀ part, write (wrap part) = record.write part)
  (reads : ∀ tree, read kind tree = (readRecord record tree).map wrap)

include distinct named writes reads

/-- A value with the members of a record beside its tag survives with the record. -/
theorem survives_of_record (part : β) (whole : record.Survives part) :
    (Union.codec kinds read name write).Survives (wrap part) := by
  obtain ⟨untagged, distinct⟩ := List.nodup_cons.mp distinct
  refine survives (named part) ?_ (writes part ▸ whole.readable) fun layout beside places => ?_
  · rw [writes]
    exact List.nodup_cons.mpr ⟨fun written => untagged (whole.known written), whole.apart distinct⟩
  · rw [writes] at places
    rw [reads]
    change (record.ofMembers? .gathered beside).map wrap = _
    rw [whole.ofMembers distinct places .gathered, Option.map_some]

/-- A value that a kind reads through a sound record survives. -/
theorem survives_of_read [sound : record.Sound .gathered] {tree : Json} {value : α}
    (found : read kind tree = some value) : (Union.codec kinds read name write).Survives value := by
  rw [reads] at found
  obtain ⟨part, inside, rfl⟩ := Option.map_eq_some_iff.mp found
  exact survives_of_record kind record wrap distinct named writes reads part
    (sound.survives_of_tree inside)

end OfRecord

instance (value : α) : (Union.codec kinds read name write).Present value := ⟨nofun⟩

/-- A union is sound when every value that one of its kinds reads survives. -/
theorem sound (reading : Reading) (survives : ∀ {kind tree value}, read kind tree = some value →
      (Union.codec kinds read name write).Survives value) :
    (Union.codec kinds read name write).Sound reading where
  survives {tree value} found := by
    cases tree with
    | obj members =>
      simp only [codec, Option.bind_eq_bind, Option.bind_eq_some_iff] at found
      obtain ⟨⟨tag, beside⟩, -, kind, -, found⟩ := found
      exact survives found
    | arr items =>
      cases items with
      | nil => cases found
      | cons tag rest =>
        simp only [codec, Option.bind_eq_bind, Option.bind_eq_some_iff] at found
        obtain ⟨kind, -, found⟩ := found
        split at found
        · exact survives found
        · cases found
    | _ => cases found
  present _ _ := inferInstance

end Union
end GeoMarket
