import GeoMarket.Proofs.Record.Arrangement
import Mathlib.Data.List.Forall2

/-!
# What is read

A codec accepts certain trees, and its value is determined by what stands in them. For each way to
build a codec it is told here which trees a value is read from. So the trees from which a record or
a union reads a value can be told member by member, whether members are missing or stand beside
others of no concern.
-/
namespace GeoMarket

variable {α β κ : Type} {reading : Reading} {tree : Json}

namespace Codec

/-- A text is read from the tree of the text. -/
theorem read_text_iff {value : String} :
    text.read reading tree = some value ↔ tree = .str value := by
  cases tree <;> simp [text]

/-- A truth value is read from the tree of the truth value. -/
theorem read_flag_iff {value : Bool} :
    flag.read reading tree = some value ↔ tree = .bool value := by
  cases tree <;> simp [flag]

/-- An amount is read from the atoms of all numbers that round to it. -/
theorem read_amount_iff {value : Binary64} :
    amount.read reading tree = some value ↔
      ∃ number, tree = .num number ∧ number.toBinary64 = value := by
  cases tree <;> simp [amount]

/-- A whole number is read from those atoms that are whole numbers in its range. -/
theorem natural?_eq_some_iff {limit value : Nat} :
    natural? limit tree = some value ↔
      ∃ number, tree = .num number ∧ number.integer? = some (value : Int) ∧ value < limit := by
  cases tree with
  | num number =>
    cases number with
    | natural word =>
      have same :
          (Json.Number.natural word).integer? = some (value : Int) ↔ word.toNat = value := by
        rw [Json.Number.integer?, Option.some.injEq, Int.natCast_inj]
      simp only [natural?, Json.num.injEq, exists_eq_left', same]
      split <;> simp <;> omega
    | belowMinus below =>
      have negative : Int.negSucc below.val ≠ (value : Int) := by omega
      simp [natural?, Json.Number.integer?, negative]
    | real amount finite => simp [natural?, Json.Number.integer?]
  | _ => simp [natural?]

/-- A word of 32 bits is read from the atoms of its whole number. -/
theorem read_word32_iff {value : UInt32} :
    word32.read reading tree = some value ↔
      ∃ number, tree = .num number ∧ number.integer? = some (value.toNat : Int) := by
  change (natural? 0x100000000 tree).map UInt32.ofNat = some value ↔ _
  rw [Option.map_eq_some_iff]
  constructor
  · rintro ⟨whole, found, rfl⟩
    obtain ⟨number, same, integer, small⟩ := natural?_eq_some_iff.mp found
    have kept : (UInt32.ofNat whole).toNat = whole := UInt32.toNat_ofNat_of_lt small
    exact ⟨number, same, by rw [kept, integer]⟩
  · rintro ⟨number, same, integer⟩
    have found := natural?_eq_some_iff.mpr ⟨number, same, integer, value.toNat_lt⟩
    exact ⟨value.toNat, found, UInt32.ofNat_toNat⟩

/-- A refined codec reads a value where the codec behind it reads what stands for the value. -/
theorem read_refine_iff {codec : Codec α} {pack : α → Option β} {unpack : β → α} {value : β} :
    (codec.refine pack unpack).read reading tree = some value ↔
      ∃ raw, codec.read reading tree = some raw ∧ pack raw = some value :=
  Option.bind_eq_some_iff

/-- Values are read from a list of trees if each of them is read from the tree in its place. -/
theorem mapM_eq_some_iff {read : Json → Option α} {items : List Json} {values : List α} :
    items.mapM read = some values ↔
      List.Forall₂ (fun item value => read item = some value) items values := by
  induction items generalizing values with
  | nil => simp [eq_comm]
  | cons item rest ih =>
    simp only [List.mapM_cons, Option.bind_eq_bind, Option.bind_eq_some_iff, Option.pure_def,
      Option.some.injEq, ih, List.forall₂_cons_left_iff]
    constructor
    · rintro ⟨value, read, others, along, rfl⟩
      exact ⟨value, others, read, along, rfl⟩
    · rintro ⟨value, others, read, along, rfl⟩
      exact ⟨value, read, others, along, rfl⟩

/-- A list is read from an array, item by item. -/
theorem read_listOf_iff {codec : Codec α} {values : List α} :
    codec.listOf.read reading tree = some values ↔
      ∃ items, tree = .arr items ∧
        List.Forall₂ (fun item value => codec.read reading item = some value) items values := by
  cases tree with
  | arr items =>
    simp only [Json.arr.injEq, exists_eq_left']
    exact mapM_eq_some_iff
  | _ => simp [listOf]

end Codec

/-- An identifier is read from every text that spells it. -/
theorem Uuid.read_codec_iff {id : Uuid} :
    Uuid.codec.read reading tree = some id ↔
      ∃ text, tree = .str text ∧ Uuid.ofText? text = some id := by
  simp only [Uuid.codec, Codec.read_refine_iff, Codec.read_text_iff]

/-! ## Members -/

/-- A number is found that rounds to an amount. -/
def StatesAmount (found : Option Json) (amount : Binary64) : Prop :=
  ∃ number, found = some (.num number) ∧ number.toBinary64 = amount

/-- A whole number of 32 bits is found. -/
def StatesWord (found : Option Json) (word : UInt32) : Prop :=
  ∃ number, found = some (.num number) ∧ number.integer? = some (word.toNat : Int)

namespace Field

variable {name : String} {codec : Codec α} {found : Option Json} {value : α}

/-- A member that must be there stands under its name. -/
@[simp] theorem name_required : (required name codec).name = name := rfl

/-- A member with a default stands under its name. -/
@[simp] theorem name_defaulted {default : α} : (defaulted name codec default).name = name := rfl

/-- A member that may be left out stands under its name. -/
@[simp] theorem name_omitted : (omitted name codec).name = name := rfl

/-- A member that must be there is read from the tree that is found. -/
theorem read_required_iff :
    (required name codec).read reading found = some value ↔
      ∃ tree, found = some tree ∧ codec.read reading tree = some value := by
  cases found <;> simp [required, read]

/-- A member with a default is read from the tree that is found, and is the default if none is. -/
theorem read_defaulted_iff {default : α} :
    (defaulted name codec default).read reading found = some value ↔
      (∃ tree, found = some tree ∧ codec.read reading tree = some value) ∨
        (found = none ∧ default = value) := by
  cases found <;> simp [defaulted, read]

/-- A member that is an identifier is read where a text is found that spells it. -/
theorem read_id_iff {id : Uuid} :
    (required name Uuid.codec).read reading found = some id ↔
      ∃ text, found = some (.str text) ∧ Uuid.ofText? text = some id := by
  simp only [read_required_iff, Uuid.read_codec_iff]
  grind

/-- A member that is an amount is read where the amount is stated. -/
theorem read_amount_iff {amount : Binary64} :
    (required name .amount).read reading found = some amount ↔ StatesAmount found amount := by
  simp only [read_required_iff, Codec.read_amount_iff, StatesAmount]
  grind

/-- A member that is a word is read where the word is stated. -/
theorem read_word_iff {word : UInt32} :
    (required name .word32).read reading found = some word ↔ StatesWord found word := by
  simp only [read_required_iff, Codec.read_word32_iff, StatesWord]
  grind

/-- A word with a default is the one that is stated, or the default where nothing is found. -/
theorem read_word_or_default_iff {default word : UInt32} :
    (defaulted name .word32 default).read reading found = some word ↔
      StatesWord found word ∨ (found = none ∧ word = default) := by
  simp only [read_defaulted_iff, Codec.read_word32_iff, StatesWord]
  grind

/-- A text with a default is the one that is found, or the default where nothing is found. -/
theorem read_text_or_default_iff {default text : String} :
    (defaulted name .text default).read reading found = some text ↔
      found = some (.str text) ∨ (found = none ∧ text = default) := by
  simp only [read_defaulted_iff, Codec.read_text_iff]
  grind

/-- A truth value with a default is the one that is found, or the default where nothing is found. -/
theorem read_flag_or_default_iff {default flag : Bool} :
    (defaulted name .flag default).read reading found = some flag ↔
      found = some (.bool flag) ∨ (found = none ∧ flag = default) := by
  simp only [read_defaulted_iff, Codec.read_flag_iff]
  grind

end Field

namespace Record

variable {look : String → Option Json}

/-- Of two records side by side, each reads its own part. -/
theorem read_append_iff {first : Record α} {second : Record β} {value : α × β} :
    (first.append second).read reading look = some value ↔
      first.read reading look = some value.1 ∧ second.read reading look = some value.2 := by
  obtain ⟨left, right⟩ := value
  simp only [append, Option.bind_eq_bind, Option.bind_eq_some_iff, Option.some.injEq,
    Prod.mk.injEq]
  constructor
  · rintro ⟨_, before, _, after, rfl, rfl⟩
    exact ⟨before, after⟩
  · rintro ⟨before, after⟩
    exact ⟨left, before, right, after, rfl, rfl⟩

/-- A record reads its first member from what stands under the name of the member, and the others
behind it. -/
theorem read_field_iff {first : Field α} {rest : Record β} {value : α × β} :
    (field first rest).read reading look = some value ↔
      first.read reading (look first.name) = some value.1 ∧ rest.read reading look = some value.2 :=
  read_append_iff

/-- A record in another shape reads what it reads in its own, and packs it. -/
theorem read_isomorphic_iff {record : Record α} {pack : α → β} {unpack : β → α} {value : β} :
    (record.isomorphic pack unpack).read reading look = some value ↔
      ∃ inner, record.read reading look = some inner ∧ pack inner = value :=
  Option.map_eq_some_iff

/-- A record is read from members that it accepts, by what stands under its keys. -/
theorem ofMembers?_eq_some_iff {record : Record α} {members : List (String × Json)} {value : α} :
    record.ofMembers? reading members = some value ↔
      record.accepts members = true ∧
        record.read reading (fun key => members.lookup key) = some value := by
  unfold ofMembers?
  split <;> simp_all

/-- An array is read item by item, with none left over. -/
theorem ofRow?_eq_some_iff {record : Record α} {reading : Reading} {items : List Json} {value : α} :
    record.ofRow? reading items = some value ↔
      ∃ row, record.row? = some row ∧ row reading items = some (value, []) := by
  unfold ofRow?
  constructor
  · intro read
    split at read
    · cases read
    next row form =>
      split at read
      next whole inside =>
        cases read
        exact ⟨row, form, inside⟩
      · cases read
  · rintro ⟨row, form, inside⟩
    rw [form]
    dsimp only
    rw [inside]

/-- Accepted members do not repeat a key that the record knows. -/
theorem occurrences_le_of_accepts {record : Record α} {members : List (String × Json)}
    (accepted : record.accepts members = true) {key : String} (known : key ∈ record.keys) :
    occurrences key members ≤ 1 := by
  rw [accepts, Bool.and_eq_true, List.all_eq_true] at accepted
  exact of_decide_eq_true (accepted.1 key known)

/-! ## One member in place of another -/

variable {before after : List (String × Json)} {key other : String} {instead : Json}

/-- A member counts once more for its own key. -/
theorem occurrences_middle (before after : List (String × Json)) (key other : String)
    (tree : Json) :
    occurrences other (before ++ (key, tree) :: after) =
      occurrences other before + occurrences other after + if key = other then 1 else 0 := by
  simp only [occurrences, List.countP_append, List.countP_cons, beq_iff_eq]
  omega

/-- Members are accepted as before if one that the record owns gets another value. -/
theorem accepts_middle {record : Record α} (owned : key ∈ record.own) :
    record.accepts (before ++ (key, instead) :: after) =
      record.accepts (before ++ (key, tree) :: after) := by
  simp only [accepts, occurrences_middle, List.all_append, List.all_cons,
    List.contains_iff_mem.mpr owned, Bool.true_or]

/-- A key that is not repeated leads to its member wherever it stands. -/
theorem lookup_middle (once : occurrences key (before ++ (key, tree) :: after) ≤ 1) :
    (before ++ (key, tree) :: after).lookup key = some tree := by
  rw [occurrences_middle, if_pos rfl] at once
  have absent : before.lookup key = none := by
    have none : occurrences key before = 0 := by omega
    rw [List.lookup_eq_none_iff]
    intro member inside
    have apart := List.countP_eq_zero.mp none member inside
    simpa using fun same : key = member.1 => apart (beq_iff_eq.mpr same.symm)
  rw [List.lookup_append, absent, Option.none_or, List.lookup_cons_self]

/-- Other keys lead where they led. -/
theorem lookup_middle_ne (apart : other ≠ key) :
    (before ++ (key, instead) :: after).lookup other =
      (before ++ (key, tree) :: after).lookup other := by
  rw [List.lookup_append, List.lookup_append, Json.lookup_cons_eq_ite, Json.lookup_cons_eq_ite,
    if_neg apart, if_neg apart]

end Record

/-! ## Unions -/

namespace Union

variable {members : List (String × Json)}

/-- Straight from a text, the kind is the one whose name is the tag. -/
theorem kind?_direct_iff {kinds : List (String × κ)} {tag : Json} {kind : κ} :
    kind? kinds .direct tag = some kind ↔
      ∃ text, tag = .str text ∧ kinds.lookup text = some kind := by
  cases tag <;> simp [kind?]

section Readable

variable (distinct : (members.map Prod.fst).Nodup)
  (readable : ∀ member ∈ members, member.2.readable = true)

include distinct readable

/-- The tag of readable members is what stands under its key. -/
theorem split?_eq_some_iff {tag : Json} {beside : List (String × Json)} :
    split? members = some (tag, beside) ↔
      members.lookup tagKey = some tag ∧
        members.filter (fun member => member.1 != tagKey) = beside := by
  have whole : (members.filter fun member => member.1 != tagKey).all
      (fun member => member.2.readable) = true :=
    List.all_eq_true.mpr fun member inside => readable member (List.mem_of_mem_filter inside)
  cases found : members.lookup tagKey with
  | some value =>
    rw [split?, Json.filter_eq_of_lookup distinct found]
    simp [whole]
  | none =>
    have untagged : members.filter (fun member => member.1 == tagKey) = [] := by
      refine List.filter_eq_nil_iff.mpr fun member inside => ?_
      have apart : tagKey ≠ member.1 :=
        bne_iff_ne.mp (List.lookup_eq_none_iff.mp found member inside)
      simpa using apart.symm
    rw [split?, untagged]
    simp

/-- A union reads what the kind named by the tag reads beside the tag. -/
theorem read_obj_iff {kinds : List (String × κ)} {read : κ → Json → Option α} {name : α → String}
    {write : α → List (String × Json)} {value : α} :
    (Union.codec kinds read name write).read .direct (.obj members) = some value ↔
      ∃ text kind, members.lookup tagKey = some (.str text) ∧ kinds.lookup text = some kind ∧
        read kind (.obj (members.filter fun member => member.1 != tagKey)) = some value := by
  simp only [codec, Option.bind_eq_bind, Option.bind_eq_some_iff, Prod.exists,
    split?_eq_some_iff distinct readable, kind?_direct_iff]
  constructor
  · rintro ⟨tag, beside, ⟨found, rfl⟩, kind, ⟨text, rfl, named⟩, inside⟩
    exact ⟨text, kind, found, named, inside⟩
  · rintro ⟨text, kind, found, named, inside⟩
    exact ⟨.str text, _, ⟨found, rfl⟩, kind, ⟨text, rfl, named⟩, inside⟩

/-- Beside the tag, a record finds what stands among all members. -/
theorem readRecord_beside (record : Record α) [within : record.Local]
    (untagged : tagKey ∉ record.keys) :
    readRecord record (.obj (members.filter fun member => member.1 != tagKey)) =
      record.read .gathered fun key => members.lookup key := by
  have accepted : record.accepts (members.filter fun member => member.1 != tagKey) = true := by
    refine record.accepts_of_distinct ?_ fun member inside =>
      readable member (List.mem_of_mem_filter inside)
    exact distinct.sublist (List.filter_sublist.map Prod.fst)
  change record.ofMembers? .gathered _ = _
  rw [Record.ofMembers?, if_pos accepted]
  refine within.read_congr .gathered fun key known => ?_
  have apart : key ≠ tagKey := fun same => untagged (same ▸ known)
  rw [Json.lookup_filter_ne, if_neg apart]

end Readable

end Union
end GeoMarket
