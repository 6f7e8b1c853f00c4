import GeoMarket.Model.Configuration
import Mathlib.Data.List.Forall2

/-!
# The file type for an extension

The file type for an extension is the first enabled one, in the order of the configuration, that
lists it; extensions are compared without their leading dots and without regard to the case of ASCII
letters. So the place of the file type does not change when extensions are spelled otherwise in this
sense, asked for or listed, and what comes behind the place has no influence on it.
-/
namespace GeoMarket

namespace FileType

/-- Two extensions that are the same but for leading dots and the case of ASCII letters. -/
def SameExtension (left right : String) : Prop :=
  Text.sameIgnoringCase (String.ofList (Text.dropLeading '.' left.toList))
    (String.ofList (Text.dropLeading '.' right.toList)) = true

/-- A file type is enabled and lists an extension. -/
def Accepts (fileType : FileType) (extension : String) : Prop :=
  fileType.enabled = true ∧ ∃ listed ∈ fileType.extensions, SameExtension listed extension

/-- An extension becomes another one by adding and removing leading dots and by changing the case of
ASCII letters. -/
inductive Respelled : String → String → Prop
  /-- A dot is put in front. -/
  | dotted (extension : String) : Respelled extension ("." ++ extension)
  /-- A dot in front is removed. -/
  | undotted (extension : String) : Respelled ("." ++ extension) extension
  /-- Letters change their case. -/
  | recased {extension other : String} (same : Text.sameIgnoringCase extension other = true) :
    Respelled extension other
  /-- One change comes after another. -/
  | trans {first second third : String} (one : Respelled first second)
    (two : Respelled second third) : Respelled first third

/-- A file type whose listed extensions are spelled otherwise, one by one. -/
def Relisted (before after : FileType) : Prop :=
  ∃ extensions, List.Forall₂ Respelled before.extensions extensions ∧
    after = { before with extensions }

/-- Extensions are the same if they are normalized to the same. -/
theorem sameExtension_iff {left right : String} :
    SameExtension left right ↔ normalized left = normalized right := by
  unfold SameExtension normalized
  rw [Text.sameIgnoringCase_iff]
  simp only [Text.lower, String.toList_ofList]

/-- A file type accepts an extension if it is enabled and lists one that is normalized to the
same. -/
theorem accepts_iff {fileType : FileType} {extension : String} :
    fileType.Accepts extension ↔
      fileType.enabled = true ∧ normalized extension ∈ fileType.extensions.map normalized := by
  simp only [Accepts, sameExtension_iff, List.mem_map]

/-- The test of the configuration is whether a file type accepts an extension. -/
theorem enabled_and_lists_iff {fileType : FileType} {extension : String} :
    (fileType.enabled && fileType.lists extension) = true ↔ fileType.Accepts extension := by
  rw [accepts_iff, Bool.and_eq_true, lists, List.any_eq_true, List.mem_map]
  simp only [beq_iff_eq]

/-- Only a dot becomes a dot when letters are made small. -/
theorem toLower_eq_dot_iff {character : Char} : character.toLower = '.' ↔ character = '.' := by
  unfold Char.toLower
  split
  · rename_i capital
    have above : 65 ≤ character.val.toNat := capital.1
    have below : character.val.toNat ≤ 90 := capital.2
    have moved : (character.val + ('a'.val - 'A'.val)).toNat = character.val.toNat + 32 := by
      rw [UInt32.toNat_add]
      exact Nat.mod_eq_of_lt (by change _ + 32 < _; omega)
    constructor
    · intro lowered
      have dot : (character.val + ('a'.val - 'A'.val)).toNat = 46 :=
        congrArg (fun letter : Char => letter.val.toNat) lowered
      omega
    · rintro rfl
      exact absurd above (by decide)
  · rfl

/-- The leading dots may as well be removed after the letters have been made small. -/
theorem normalized_eq_dropLeading (extension : String) :
    normalized extension = Text.dropLeading '.' (Text.lower extension) := by
  have dots : ((· == '.') ∘ Char.toLower) = (· == '.') := by
    funext character
    exact Bool.eq_iff_iff.mpr (by simp [toLower_eq_dot_iff])
  rw [normalized, Text.dropLeading, Text.dropLeading, Text.lower, List.dropWhile_map, dots]

/-- A respelled extension is normalized to the same. -/
theorem Respelled.normalized_eq {extension other : String} (respelled : Respelled extension other) :
    normalized other = normalized extension := by
  induction respelled with
  | dotted extension => simp [normalized, Text.dropLeading]
  | undotted extension => simp [normalized, Text.dropLeading]
  | recased same =>
    rw [normalized_eq_dropLeading, normalized_eq_dropLeading, Text.sameIgnoringCase_iff.mp same]
  | trans _ _ one two => exact two.trans one

/-- Extensions that are respelled one by one are normalized to the same. -/
theorem map_normalized_eq {before after : List String}
    (pairs : List.Forall₂ Respelled before after) :
    after.map normalized = before.map normalized := by
  induction pairs with
  | nil => rfl
  | cons pair _ ih => rw [List.map_cons, List.map_cons, pair.normalized_eq, ih]

/-- A relisted file type accepts a respelled extension if the file type accepts the extension. -/
theorem Relisted.accepts_iff {before after : FileType} {extension other : String}
    (relisted : before.Relisted after) (respelled : Respelled extension other) :
    after.Accepts other ↔ before.Accepts extension := by
  obtain ⟨extensions, pairs, rfl⟩ := relisted
  rw [FileType.accepts_iff, FileType.accepts_iff, respelled.normalized_eq, map_normalized_eq pairs]

end FileType

namespace Configuration

/-- The first file type that accepts an extension, with its place in the configuration. -/
structure FirstFor (configuration : Configuration) (extension : String) (place : Nat)
    (fileType : FileType) : Prop where
  /-- The file type stands in its place. -/
  stands : configuration.asset.fileTypes[place]? = some fileType
  /-- It accepts the extension. -/
  accepts : fileType.Accepts extension
  /-- No file type in front of it does. -/
  first : ∀ earlier < place, ∀ other, configuration.asset.fileTypes[earlier]? = some other →
    ¬ other.Accepts extension

variable {configuration other : Configuration} {extension spelling : String} {place : Nat}
  {fileType : FileType}

/-- The first file type for an extension has one place. -/
theorem FirstFor.place_eq {again : Nat} {second : FileType}
    (one : configuration.FirstFor extension place fileType)
    (two : configuration.FirstFor extension again second) : place = again := by
  rcases Nat.lt_trichotomy place again with before | same | behind
  · exact absurd one.accepts (two.first place before fileType one.stands)
  · exact same
  · exact absurd two.accepts (one.first again behind second two.stands)

/-- The file type for an extension is the first one that accepts it. -/
theorem fileTypeFor?_eq_some_iff :
    configuration.fileTypeFor? extension = some fileType ↔
      ∃ place, configuration.FirstFor extension place fileType := by
  rw [fileTypeFor?, List.find?_eq_some_iff_getElem, FileType.enabled_and_lists_iff]
  constructor
  · rintro ⟨accepts, place, inside, stands, refused⟩
    refine ⟨place, List.getElem?_eq_some_iff.mpr ⟨inside, stands⟩, accepts, ?_⟩
    intro earlier before other found accepted
    obtain ⟨_, rfl⟩ := List.getElem?_eq_some_iff.mp found
    have refuses := refused earlier before
    rw [FileType.enabled_and_lists_iff.mpr accepted] at refuses
    cases refuses
  · rintro ⟨place, stands, accepts, first⟩
    obtain ⟨inside, stands⟩ := List.getElem?_eq_some_iff.mp stands
    refine ⟨accepts, place, inside, stands, fun earlier before => ?_⟩
    have found := List.getElem?_eq_getElem (Nat.lt_trans before inside)
    rw [Bool.not_eq_true', ← Bool.not_eq_true, FileType.enabled_and_lists_iff]
    exact first earlier before _ found

/-- There is no file type for an extension if none accepts it. -/
theorem fileTypeFor?_eq_none_iff :
    configuration.fileTypeFor? extension = none ↔
      ∀ fileType ∈ configuration.asset.fileTypes, ¬ fileType.Accepts extension := by
  rw [fileTypeFor?, List.find?_eq_none]
  simp only [FileType.enabled_and_lists_iff]

/-- Lists that are related one by one are related in every place. -/
theorem exists_getElem?_of_forall₂ {α β : Type} {relation : α → β → Prop} {before : List α}
    {after : List β} (pairs : List.Forall₂ relation before after) {place : Nat} {element : α}
    (found : before[place]? = some element) :
    ∃ counterpart, after[place]? = some counterpart ∧ relation element counterpart := by
  obtain ⟨inside, rfl⟩ := List.getElem?_eq_some_iff.mp found
  obtain ⟨sameLength, related⟩ := List.forall₂_iff_get.mp pairs
  have within : place < after.length := sameLength ▸ inside
  exact ⟨after[place], List.getElem?_eq_getElem within, related place inside within⟩

/-- The first file type for an extension keeps its place if extensions are respelled. -/
theorem FirstFor.respelled (firstFor : configuration.FirstFor extension place fileType)
    (respelled : FileType.Respelled extension spelling)
    (relisted : List.Forall₂ FileType.Relisted configuration.asset.fileTypes
      other.asset.fileTypes) :
    ∃ counterpart, fileType.Relisted counterpart ∧ other.FirstFor spelling place counterpart := by
  obtain ⟨counterpart, stands, pair⟩ := exists_getElem?_of_forall₂ relisted firstFor.stands
  refine ⟨counterpart, pair, stands, (pair.accepts_iff respelled).mpr firstFor.accepts, ?_⟩
  intro earlier before later found accepted
  obtain ⟨original, stood, pair⟩ := exists_getElem?_of_forall₂ relisted.flip found
  exact firstFor.first earlier before original stood
    ((FileType.Relisted.accepts_iff pair respelled).mp accepted)

/-- If there is no file type for an extension, there is none if extensions are respelled. -/
theorem fileTypeFor?_eq_none_of_respelled (none : configuration.fileTypeFor? extension = none)
    (respelled : FileType.Respelled extension spelling)
    (relisted : List.Forall₂ FileType.Relisted configuration.asset.fileTypes
      other.asset.fileTypes) :
    other.fileTypeFor? spelling = .none := by
  rw [fileTypeFor?_eq_none_iff] at none ⊢
  intro counterpart listed accepted
  obtain ⟨place, stands⟩ := List.mem_iff_getElem?.mp listed
  obtain ⟨original, stood, pair⟩ := exists_getElem?_of_forall₂ relisted.flip stands
  exact none original (List.mem_of_getElem? stood)
    ((FileType.Relisted.accepts_iff pair respelled).mp accepted)

/-- The first file type for an extension stays what it is if nothing changes up to its place. -/
theorem FirstFor.of_take_eq (firstFor : configuration.FirstFor extension place fileType)
    (unchanged : other.asset.fileTypes.take (place + 1) =
      configuration.asset.fileTypes.take (place + 1)) :
    other.FirstFor extension place fileType := by
  have same {earlier : Nat} (early : earlier < place + 1) :
      other.asset.fileTypes[earlier]? = configuration.asset.fileTypes[earlier]? := by
    rw [← List.getElem?_take_of_lt early, unchanged, List.getElem?_take_of_lt early]
  refine ⟨(same (Nat.lt_succ_self place)).trans firstFor.stands, firstFor.accepts, ?_⟩
  intro earlier before later found
  exact firstFor.first earlier before later ((same (Nat.lt_succ_of_lt before)).symm.trans found)

/-- **The first file type that accepts an extension.** The file type for an extension is the first
one of the configuration that is enabled and lists the extension, up to leading dots and the case of
ASCII letters, in the one place where it stands; and there is none exactly if no file type does. If
the extension asked for and extensions that are listed are respelled in this way, the file type is
in the same place, or there is none as before. If nothing changes up to its place, it stays the
same. -/
theorem fileTypeFor?_first_accepting (configuration : Configuration) (extension : String) :
    (∀ fileType, configuration.fileTypeFor? extension = some fileType ↔
      ∃! place, configuration.FirstFor extension place fileType) ∧
    (configuration.fileTypeFor? extension = none ↔
      ∀ fileType ∈ configuration.asset.fileTypes, ¬ fileType.Accepts extension) ∧
    (∀ (other : Configuration) spelling, FileType.Respelled extension spelling →
      List.Forall₂ FileType.Relisted configuration.asset.fileTypes other.asset.fileTypes →
      (configuration.fileTypeFor? extension = none → other.fileTypeFor? spelling = none) ∧
      ∀ place fileType, configuration.FirstFor extension place fileType →
        ∃ counterpart, fileType.Relisted counterpart ∧
          other.FirstFor spelling place counterpart) ∧
    ∀ (other : Configuration) place fileType, configuration.FirstFor extension place fileType →
      other.asset.fileTypes.take (place + 1) = configuration.asset.fileTypes.take (place + 1) →
      other.FirstFor extension place fileType := by
  refine ⟨fun fileType => ?_, fileTypeFor?_eq_none_iff, fun other spelling respelled relisted =>
    ⟨fun none => fileTypeFor?_eq_none_of_respelled none respelled relisted,
      fun place fileType firstFor => firstFor.respelled respelled relisted⟩,
    fun other place fileType firstFor unchanged => firstFor.of_take_eq unchanged⟩
  rw [fileTypeFor?_eq_some_iff]
  refine ⟨?_, ExistsUnique.exists⟩
  rintro ⟨place, firstFor⟩
  exact ⟨place, firstFor, fun again also => also.place_eq firstFor⟩

/-- A file type behind a disabled one and in front of another one that lists the same extension: it
is found in capitals behind a dot, and in the same place when two dots are put in front of the
extension that it lists and when the file type behind it is disabled. -/
theorem fileTypeFor?_first_accepting_geojson :
    let disabled : FileType := ⟨"VECTOR", "Old GeoJSON", ["geojson"], none, false⟩
    let geojson (listed : String) : FileType := ⟨"VECTOR", "GeoJSON", ["json", listed], none, true⟩
    let another (enabled : Bool) : FileType := ⟨"VECTOR", "Other", ["geojson"], none, enabled⟩
    let offering (listed : String) (enabled : Bool) : Configuration :=
      ⟨[], ⟨[disabled, geojson listed, another enabled]⟩⟩
    (offering "geojson" true).fileTypeFor? ".GEOJSON" = some (geojson "geojson") ∧
      (∃ counterpart, (geojson "geojson").Relisted counterpart ∧
        (offering "..geojson" true).FirstFor "geojson" 1 counterpart) ∧
      (offering "geojson" false).FirstFor ".GEOJSON" 1 (geojson "geojson") ∧
      (offering "..geojson" true).fileTypeFor? "TIF" = none := by
  intro disabled geojson another offering
  have same (extension : String) : FileType.Respelled extension extension :=
    .recased (Text.sameIgnoringCase_refl extension)
  have relisted : List.Forall₂ FileType.Relisted (offering "geojson" true).asset.fileTypes
      (offering "..geojson" true).asset.fileTypes :=
    .cons ⟨_, .cons (same _) .nil, rfl⟩ <|
      .cons ⟨_, .cons (same _) (.cons (.trans (.dotted _) (.dotted _)) .nil), rfl⟩ <|
      .cons ⟨_, .cons (same _) .nil, rfl⟩ .nil
  have firstFor : (offering "geojson" true).FirstFor ".GEOJSON" 1 (geojson "geojson") := by
    refine ⟨rfl, ⟨rfl, "geojson", .tail _ (.head _), by unfold FileType.SameExtension; decide⟩, ?_⟩
    intro earlier before other found accepted
    obtain rfl : earlier = 0 := Nat.lt_one_iff.mp before
    obtain rfl : disabled = other := Option.some.inj found
    cases accepted.1
  have lowered : FileType.Respelled ".GEOJSON" "geojson" :=
    .trans (.undotted "GEOJSON") (.recased (by decide))
  obtain ⟨found, -, respelled, edited⟩ :=
    fileTypeFor?_first_accepting (offering "geojson" true) ".GEOJSON"
  obtain ⟨-, -, also, -⟩ := fileTypeFor?_first_accepting (offering "geojson" true) "tif"
  refine ⟨(found _).mpr ⟨1, firstFor, fun again second => second.place_eq firstFor⟩,
    (respelled _ _ lowered relisted).2 1 _ firstFor, edited _ 1 _ firstFor rfl,
    (also _ _ (.recased (by decide)) relisted).1 (by decide)⟩

end Configuration
end GeoMarket
