import GeoMarket.Proofs.Record.Members
import Mathlib.Data.List.Perm.Basic

/-!
# Members in any arrangement

A record looks each of its keys up, so it reads the same value from the same members in another
order, and members under other keys make no difference. A record that embeds another one and a union
gather all members first, and then the members under other keys need values, but nothing else is
asked of them. A tag that is left out of the gathered members may stand anywhere among them.
-/
namespace GeoMarket

variable {α β κ : Type}

/-- The members with a key are enough to look the key up. -/
theorem lookup_filter_eq (members : List (String × Json)) (key : String) :
    (members.filter fun member => member.1 == key).lookup key = members.lookup key := by
  induction members with
  | nil => rfl
  | cons head rest ih =>
    obtain ⟨first, value⟩ := head
    rw [List.filter_cons, Json.lookup_cons_eq_ite]
    by_cases here : key = first
    · rw [if_pos (beq_iff_eq.mpr here.symm), if_pos here, Json.lookup_cons_eq_ite, if_pos here]
    · rw [if_neg (by simpa using Ne.symm here), if_neg here, ih]

/-- A list of at most one item has no other order. -/
theorem eq_of_perm_of_short {left right : List α} (same : left.Perm right)
    (short : right.length ≤ 1) : left = right := by
  match right with
  | [] => exact same.eq_nil
  | [item] => exact List.perm_singleton.mp same
  | _ :: _ :: _ => simp at short

/-- The same members in another order, but for spare members that were added or removed. -/
def Rearranged (spare : String × Json → Prop) (members others : List (String × Json)) : Prop :=
  ∃ added removed, (∀ member ∈ added ++ removed, spare member) ∧
    (others ++ removed).Perm (members ++ added)

namespace Rearranged

variable {spare wider : String × Json → Prop} {members others : List (String × Json)}

/-- Members that are spare for one reader are spare for another one that minds fewer. -/
theorem mono (rearranged : Rearranged spare members others)
    (weaker : ∀ member, spare member → wider member) : Rearranged wider members others := by
  obtain ⟨added, removed, spared, balanced⟩ := rearranged
  exact ⟨added, removed, fun member inside => weaker member (spared member inside), balanced⟩

/-- Members that were added one way are removed the other way. -/
theorem symm (rearranged : Rearranged spare members others) : Rearranged spare others members := by
  obtain ⟨added, removed, spared, balanced⟩ := rearranged
  refine ⟨removed, added, fun member inside => spared member ?_, balanced.symm⟩
  exact List.mem_append.mpr (List.mem_append.mp inside).symm

/-- A part of the members is rearranged as the whole is. -/
theorem filter (rearranged : Rearranged spare members others) (keep : String × Json → Bool) :
    Rearranged spare (members.filter keep) (others.filter keep) := by
  obtain ⟨added, removed, spared, balanced⟩ := rearranged
  refine ⟨added.filter keep, removed.filter keep, fun member inside => ?_, ?_⟩
  · rw [← List.filter_append] at inside
    exact spared member (List.mem_of_mem_filter inside)
  · rw [← List.filter_append, ← List.filter_append]
    exact balanced.filter keep

/-- A part without spare members is the same but for the order. -/
theorem perm_filter (rearranged : Rearranged spare members others) (mind : String × Json → Bool)
    (ignores : ∀ member, spare member → mind member = false) :
    (others.filter mind).Perm (members.filter mind) := by
  obtain ⟨added, removed, spared, balanced⟩ := rearranged
  have nothing {list : List (String × Json)} (among : list ⊆ added ++ removed) :
      list.filter mind = [] := by
    refine List.filter_eq_nil_iff.mpr fun member inside => ?_
    rw [ignores member (spared member (among inside))]
    exact Bool.false_ne_true
  have filtered := balanced.filter mind
  rw [List.filter_append, List.filter_append, nothing (List.subset_append_left ..),
    nothing (List.subset_append_right ..), List.append_nil, List.append_nil] at filtered
  exact filtered

/-- What all spare members satisfy, all members satisfy before as after. -/
theorem all_eq (rearranged : Rearranged spare members others) (test : String × Json → Bool)
    (passes : ∀ member, spare member → test member = true) :
    others.all test = members.all test := by
  obtain ⟨added, removed, spared, balanced⟩ := rearranged
  have pass {list : List (String × Json)} (among : list ⊆ added ++ removed) :
      list.all test = true :=
    List.all_eq_true.mpr fun member inside => passes member (spared member (among inside))
  have balance := balanced.all_eq (f := test)
  rw [List.all_append, List.all_append, pass (List.subset_append_left ..),
    pass (List.subset_append_right ..), Bool.and_true, Bool.and_true] at balance
  exact balance

variable {key : String}

/-- A key that no spare member has occurs as often as before. -/
theorem occurrences_eq (rearranged : Rearranged spare members others)
    (apart : ∀ member, spare member → member.1 ≠ key) :
    Record.occurrences key others = Record.occurrences key members := by
  have same := rearranged.perm_filter (fun member => member.1 == key) fun member spared =>
    beq_false_of_ne (apart member spared)
  rw [Record.occurrences, Record.occurrences, List.countP_eq_length_filter,
    List.countP_eq_length_filter, same.length_eq]

/-- A key that no spare member has and that is not repeated leads to the same value as before. -/
theorem lookup_eq (rearranged : Rearranged spare members others)
    (apart : ∀ member, spare member → member.1 ≠ key)
    (once : Record.occurrences key members ≤ 1) : others.lookup key = members.lookup key := by
  have same := rearranged.perm_filter (fun member => member.1 == key) fun member spared =>
    beq_false_of_ne (apart member spared)
  rw [Record.occurrences, List.countP_eq_length_filter] at once
  rw [← lookup_filter_eq others, eq_of_perm_of_short same once, lookup_filter_eq]

end Rearranged

/-- A codec reads the same value from an object however its members are rearranged. -/
def Codec.Unordered (codec : Codec α) (spare : String × Json → Prop) : Prop :=
  ∀ reading {members others}, Rearranged spare members others →
    codec.read reading (.obj others) = codec.read reading (.obj members)

/-! ## Records -/

namespace Record

/-- What a record reads depends on its own keys and on those of its parts alone. -/
class Local (record : Record α) : Prop where
  /-- Where the same is found under each of these keys, the same value is read. -/
  read_congr : ∀ reading {look other : String → Option Json},
    (∀ key ∈ record.keys, look key = other key) →
      record.read reading look = record.read reading other

instance : empty.Local := ⟨fun _ _ _ _ => rfl⟩

instance (field : Field α) : (single field).Local where
  read_congr reading look other agree := by
    have found : look field.name = other field.name := agree field.name (by simp [keys, single])
    change field.read reading (look field.name) = field.read reading (other field.name)
    rw [found]

instance local_append (first : Record α) (second : Record β) [left : first.Local]
    [right : second.Local] : (first.append second).Local where
  read_congr reading look other agree := by
    have known {key : String} (either : key ∈ first.keys ∨ key ∈ second.keys) :
        look key = other key := by
      apply agree key
      rw [(keys_append_perm first second).mem_iff]
      exact List.mem_append.mpr either
    have before := left.read_congr reading fun key inside => known (.inl inside)
    have after := right.read_congr reading fun key inside => known (.inr inside)
    simp only [append, before, after]

instance (first : Field α) (rest : Record β) [rest.Local] : (Record.field first rest).Local :=
  inferInstanceAs ((single first).append rest).Local

instance (record : Record α) [inner : record.Local] : record.embed.Local :=
  ⟨fun _ _ _ agree => inner.read_congr .gathered agree⟩

instance (record : Record α) (pack : α → β) (unpack : β → α) [inner : record.Local] :
    (record.isomorphic pack unpack).Local where
  read_congr reading _ _ agree := congrArg (Option.map pack) (inner.read_congr reading agree)

/-- Members of no concern to a record: their keys are unknown, and they have values if the record
gathers them. -/
def Spare (record : Record α) (member : String × Json) : Prop :=
  member.1 ∉ record.keys ∧ (record.row? = none → member.2.readable = true)

/-- Rearranged members are accepted as before. -/
theorem accepts_eq (record : Record α) {members others : List (String × Json)}
    (rearranged : Rearranged record.Spare members others) :
    record.accepts others = record.accepts members := by
  have repeated (key : String) (known : key ∈ record.keys) :
      decide (occurrences key others ≤ 1) = decide (occurrences key members ≤ 1) := by
    rw [rearranged.occurrences_eq fun member spared same => spared.1 (same ▸ known)]
  have repeats : record.keys.all (fun key => decide (occurrences key others ≤ 1)) =
      record.keys.all fun key => decide (occurrences key members ≤ 1) := by
    rw [Bool.eq_iff_iff, List.all_eq_true, List.all_eq_true]
    exact forall₂_congr fun key known => by rw [repeated key known]
  rw [accepts, accepts, repeats]
  cases gathers : record.row? with
  | some row => rfl
  | none =>
    have whole := rearranged.all_eq
      (fun member => record.own.contains member.1 || member.2.readable)
      fun member spared => by rw [spared.2 gathers, Bool.or_true]
    rw [whole]

/-- A record reads the same value from rearranged members. -/
theorem codec_unordered (record : Record α) [within : record.Local] :
    record.codec.Unordered record.Spare := by
  intro reading members others rearranged
  change record.ofMembers? reading others = record.ofMembers? reading members
  rw [ofMembers?, ofMembers?, record.accepts_eq rearranged]
  by_cases accepted : record.accepts members = true
  · rw [if_pos accepted, if_pos accepted]
    refine within.read_congr reading fun key known => ?_
    refine rearranged.lookup_eq (fun member spared same => spared.1 (same ▸ known)) ?_
    rw [accepts, Bool.and_eq_true, List.all_eq_true] at accepted
    exact of_decide_eq_true (accepted.1 key known)
  · rw [if_neg accepted, if_neg accepted]

end Record

/-! ## Unions -/

namespace Union

/-- Members of no concern to a union with some keys: their keys are unknown, and they have
values. -/
def Spare (keys : List String) (member : String × Json) : Prop :=
  member.1 ∉ tagKey :: keys ∧ member.2.readable = true

variable {keys : List String} {members others : List (String × Json)}

/-- The tag is found wherever it stands, and the members beside it are rearranged. -/
theorem split?_of_rearranged (rearranged : Rearranged (Spare keys) members others) {tag : Json}
    {beside : List (String × Json)} (found : split? members = some (tag, beside)) :
    ∃ remaining, split? others = some (tag, remaining) ∧
      Rearranged (Spare keys) beside remaining := by
  have tags := rearranged.perm_filter (fun member => member.1 == tagKey) fun member spared =>
    beq_false_of_ne fun same => spared.1 (same ▸ List.mem_cons_self)
  have rest := rearranged.filter fun member => member.1 != tagKey
  have whole := rest.all_eq (fun member => member.2.readable) fun member spared => spared.2
  unfold split? at found
  split at found
  · rename_i key own tagged
    -- The members with the tag are a single one, so they have no other order.
    rw [tagged, List.perm_singleton] at tags
    dsimp only at found
    split at found
    · rename_i readable
      obtain ⟨rfl, rfl⟩ := Prod.mk.inj (Option.some.inj found)
      refine ⟨_, ?_, rest⟩
      rw [split?, tags]
      exact if_pos (whole.trans readable)
    · contradiction
  · contradiction

variable (kinds : List (String × κ)) (read : κ → Json → Option α) (name : α → String)
  (write : α → List (String × Json))

/-- A union reads the same value from rearranged members when each of its kinds does. -/
theorem codec_unordered
    (each : ∀ kind {members others}, Rearranged (Spare keys) members others →
      read kind (.obj others) = read kind (.obj members)) :
    (Union.codec kinds read name write).Unordered (Spare keys) := by
  intro reading members others rearranged
  simp only [codec]
  cases found : split? members with
  | some parts =>
    obtain ⟨tag, beside⟩ := parts
    obtain ⟨remaining, parted, besides⟩ := split?_of_rearranged rearranged found
    rw [parted]
    exact congrArg (Option.bind _) (funext fun kind => each kind besides)
  | none =>
    cases parted : split? others with
    | none => rfl
    | some parts =>
      obtain ⟨beside, again, -⟩ := split?_of_rearranged rearranged.symm parted
      rw [found] at again
      contradiction

/-- A kind with a record of its own reads the same value from rearranged members. -/
theorem readRecord_rearranged (record : Record α) [record.Local] (known : record.keys ⊆ keys)
    (rearranged : Rearranged (Spare keys) members others) :
    readRecord record (.obj others) = readRecord record (.obj members) := by
  refine record.codec_unordered .gathered (rearranged.mono fun member spared => ⟨?_, ?_⟩)
  · exact fun inside => spared.1 (List.mem_cons_of_mem _ (known inside))
  · exact fun _ => spared.2

end Union
end GeoMarket
