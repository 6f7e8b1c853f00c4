import GeoMarket.Model.Configuration
import GeoMarket.Model.Envelope
import GeoMarket.Model.Identifier
import GeoMarket.Model.Role
import GeoMarket.Proofs.Json.Layout

/-!
# Reading back what was written

A value survives when what is written for it reads back as the value in either layout and has a
value in every part, so that it can also stand among members that an embedding record gathers. Some
codecs write every value so; others do it at least for the values they read. Both laws are classes,
so that the law of a description follows from the laws of its parts.
-/
namespace GeoMarket

open Json (Layout)

variable {α β : Type}

namespace Codec

/-- What is written for the value reads back as the value, however it is laid out and however the
reader came by it. -/
class Survives (codec : Codec α) (value : α) : Prop where
  /-- Reading undoes writing. -/
  restores : ∀ (layout : Layout) reading,
    codec.read reading (layout.apply (codec.write value)) = some value
  /-- Every part of the tree has a value. -/
  readable : (codec.write value).readable = true

/-- The value is told apart from nothing: it is not written as `null`. -/
class Present (codec : Codec α) (value : α) : Prop where
  /-- The tree is not `null`. -/
  notNull : codec.write value ≠ .null

/-- Every value read in the given way survives, and is present unless it was read from `null`. -/
class Sound (codec : Codec α) (reading : Reading) : Prop where
  /-- What was read survives. -/
  survives : ∀ {tree value}, codec.read reading tree = some value → codec.Survives value
  /-- What was read from something is not written as nothing. -/
  present : ∀ {tree value}, codec.read reading tree = some value → tree ≠ .null →
    codec.Present value

/-- A codec that writes every value so that it survives is sound. -/
instance (priority := low) (codec : Codec α) (reading : Reading)
    [∀ value, codec.Survives value] [∀ value, codec.Present value] : codec.Sound reading where
  survives _ := inferInstance
  present _ _ := inferInstance

instance (value : String) : text.Survives value := ⟨by simp [text], rfl⟩

instance (value : String) : text.Present value := ⟨nofun⟩

instance (value : Bool) : flag.Survives value := ⟨by simp [flag], rfl⟩

instance (value : Bool) : flag.Present value := ⟨nofun⟩

instance (value : UInt32) : word32.Survives value where
  restores layout reading := by
    have small : value.toUInt64.toNat < 0x100000000 := by simpa using value.toNat_lt
    have same : UInt32.ofNat value.toUInt64.toNat = value := by simp
    simp only [word32, Layout.apply_num, natural?, if_pos small, Option.map_some, same]
  readable := rfl

instance (value : UInt32) : word32.Present value := ⟨nofun⟩

instance (value : UInt64) : word64.Survives value := ⟨by simp [word64], rfl⟩

instance (value : UInt64) : word64.Present value := ⟨nofun⟩

/-- A finite amount is written as a number. -/
theorem write_amount {value : Binary64} (finite : value.isFinite = true) :
    amount.write value = .num (.real value finite) := dif_pos finite

/-- A finite amount survives. -/
theorem survives_amount {value : Binary64} (finite : value.isFinite = true) :
    amount.Survives value where
  restores layout reading := by rw [write_amount finite, Layout.apply_num]; rfl
  readable := by rw [write_amount finite]; rfl

/-- A finite amount is present. -/
theorem present_amount {value : Binary64} (finite : value.isFinite = true) :
    amount.Present value := ⟨by rw [write_amount finite]; nofun⟩

/-- Every amount that is read is finite. -/
theorem isFinite_of_read_amount {reading : Reading} {tree : Json} {value : Binary64}
    (read : amount.read reading tree = some value) : value.isFinite = true := by
  cases tree with
  | num number =>
    obtain rfl : number.toBinary64 = value := Option.some.inj read
    exact number.isFinite_toBinary64
  | _ => cases read

instance (reading : Reading) : amount.Sound reading where
  survives read := survives_amount (isFinite_of_read_amount read)
  present read _ := present_amount (isFinite_of_read_amount read)

/-- Straight from a text, nothing is read from `null` alone. -/
instance : nothing.Sound .direct where
  survives _ := ⟨by simp [nothing], rfl⟩
  present {tree _} read something := by
    cases tree <;> simp_all [nothing]

/-- What is not `null` is read as a value. -/
theorem read_nullable (codec : Codec α) (reading : Reading) {tree : Json}
    (something : tree ≠ .null) :
    codec.nullable.read reading tree = (codec.read reading tree).map some := by
  cases tree with
  | null => exact absurd rfl something
  | _ => rfl

/-- An optional value survives when it is a value that survives and is present, or none at all. -/
theorem survives_nullable {codec : Codec α} {value : Option α}
    (survives : ∀ inner, value = some inner → codec.Survives inner)
    (present : ∀ inner, value = some inner → codec.Present inner) :
    codec.nullable.Survives value := by
  cases value with
  | none => exact ⟨by simp [nullable], rfl⟩
  | some inner =>
    have whole := survives inner rfl
    refine ⟨fun layout reading => ?_, whole.readable⟩
    change codec.nullable.read reading (layout.apply (codec.write inner)) = _
    have something : layout.apply (codec.write inner) ≠ .null := by
      simpa using (present inner rfl).notNull
    rw [read_nullable codec reading something, whole.restores layout reading]
    rfl

instance (codec : Codec α) : codec.nullable.Survives none := survives_nullable nofun nofun

instance (codec : Codec α) (value : Option α) [∀ value, codec.Survives value]
    [∀ value, codec.Present value] : codec.nullable.Survives value :=
  survives_nullable (fun _ _ => inferInstance) fun _ _ => inferInstance

instance (codec : Codec α) (reading : Reading) [sound : codec.Sound reading] :
    codec.nullable.Sound reading where
  survives {tree value} read := by
    have part (inner : α) (same : value = some inner) :
        codec.Survives inner ∧ codec.Present inner := by
      subst same
      have something : tree ≠ .null := by rintro rfl; cases read
      rw [read_nullable codec reading something] at read
      have inside : codec.read reading tree = some inner := by simpa using read
      exact ⟨sound.survives inside, sound.present inside something⟩
    exact survives_nullable (fun inner same => (part inner same).1)
      fun inner same => (part inner same).2
  present {tree value} read something := by
    rw [read_nullable codec reading something] at read
    obtain ⟨inner, inside, rfl⟩ := Option.map_eq_some_iff.mp read
    exact ⟨(sound.present inside something).notNull⟩

/-- A list survives when each of its values does. -/
theorem survives_listOf {codec : Codec α} {values : List α}
    (survives : ∀ value ∈ values, codec.Survives value) : codec.listOf.Survives values where
  restores layout reading := by
    change codec.listOf.read reading (layout.apply (.arr (values.map codec.write))) = _
    rw [Layout.apply_arr]
    change ((values.map codec.write).map layout.apply).mapM (codec.read reading) = some values
    induction values with
    | nil => rfl
    | cons value rest ih =>
      have first := (survives value (by simp)).restores layout reading
      have others := ih fun value inside => survives value (by simp [inside])
      simp only [List.map_cons, List.mapM_cons, first, others]
      rfl
  readable := by
    change Json.allReadable (values.map codec.write) = true
    rw [Json.allReadable_iff]
    intro tree inside
    obtain ⟨value, among, rfl⟩ := List.mem_map.mp inside
    exact (survives value among).readable

instance (codec : Codec α) (values : List α) [∀ value, codec.Survives value] :
    codec.listOf.Survives values := survives_listOf fun _ _ => inferInstance

instance (codec : Codec α) : codec.listOf.Survives [] := survives_listOf (by simp)

instance (codec : Codec α) (values : List α) : codec.listOf.Present values := ⟨nofun⟩

/-- Each value of a list was read from an item. -/
theorem read_of_mem_mapM {read : Json → Option α} {items : List Json} {values : List α}
    (whole : items.mapM read = some values) {value : α} (among : value ∈ values) :
    ∃ item ∈ items, read item = some value := by
  induction items generalizing values with
  | nil =>
    obtain rfl : [] = values := by simpa using whole
    simp at among
  | cons item rest ih =>
    simp only [List.mapM_cons, Option.bind_eq_bind, Option.bind_eq_some_iff, Option.pure_def,
      Option.some.injEq] at whole
    obtain ⟨first, here, others, there, rfl⟩ := whole
    rcases List.mem_cons.mp among with rfl | among
    · exact ⟨item, by simp, here⟩
    · obtain ⟨item, inside, found⟩ := ih there among
      exact ⟨item, by simp [inside], found⟩

instance (codec : Codec α) (reading : Reading) [sound : codec.Sound reading] :
    codec.listOf.Sound reading where
  survives {tree values} read := by
    cases tree with
    | arr items =>
      refine survives_listOf fun value among => ?_
      obtain ⟨item, -, found⟩ := read_of_mem_mapM read among
      exact sound.survives found
    | _ => cases read
  present _ _ := inferInstance

/-- A value packed from another one survives with it. -/
theorem survives_refine {codec : Codec α} {pack : α → Option β} {unpack : β → α} {value : β}
    (inner : codec.Survives (unpack value)) (packs : pack (unpack value) = some value) :
    (codec.refine pack unpack).Survives value where
  restores layout reading := by
    change (codec.read reading (layout.apply (codec.write (unpack value)))).bind pack = some value
    rw [inner.restores layout reading, Option.bind_some, packs]
  readable := inner.readable

instance (codec : Codec α) (pack : α → Option β) (unpack : β → α) (value : β)
    [inner : codec.Present (unpack value)] : (codec.refine pack unpack).Present value :=
  ⟨inner.notNull⟩

/-- A name out of a choice survives if it is a name of the choice. -/
theorem survives_choice {ofName? : String → Option α} {name : α → String} {value : α}
    (named : ofName? (name value) = some value) : (choice ofName? name).Survives value :=
  ⟨by simp [choice, named], rfl⟩

instance (ofName? : String → Option α) (name : α → String) (value : α) :
    (choice ofName? name).Present value := ⟨nofun⟩

end Codec

instance (id : Uuid) : Uuid.codec.Survives id :=
  Codec.survives_refine inferInstance id.ofText?_text

instance (id : Uuid) : Uuid.codec.Present id := ⟨nofun⟩

/-- Only a role without a meaning for the client has a tag of its own choice. -/
theorem Role.survives_of_ofTag {role : Role} (same : ofTag role.tag = role) :
    codec.Survives role := Codec.survives_refine inferInstance (congrArg some same)

instance (reading : Reading) : Role.codec.Sound reading where
  survives {tree role} read := by
    obtain ⟨tag, -, packed⟩ := Option.bind_eq_some_iff.mp read
    obtain rfl : Role.ofTag tag = role := Option.some.inj packed
    exact Role.survives_of_ofTag (by rw [Role.tag_ofTag])
  present _ _ := ⟨nofun⟩

instance (provider : AuthProvider) : AuthProvider.codec.Survives provider :=
  Codec.survives_choice (by cases provider <;> decide)

instance (provider : AuthProvider) : AuthProvider.codec.Present provider := ⟨nofun⟩

instance (severity : Severity) : Severity.codec.Survives severity :=
  Codec.survives_choice (by cases severity <;> decide)

instance (severity : Severity) : Severity.codec.Present severity := ⟨nofun⟩

end GeoMarket
