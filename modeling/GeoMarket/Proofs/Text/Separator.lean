import GeoMarket.Text.Ascii
import Mathlib.Data.List.DropRight

/-!
# Pieces behind separators

A text is made of pieces with a separator before each of them except the first. Splitting it at the
separator finds the pieces again, so every text is written in exactly one way, and removing the
separators at the end of a text leaves one that does not end with a separator.
-/
namespace GeoMarket.Text

/-- Pieces with a separator before each of them. -/
def behindMarks (mark : Char) (pieces : List (List Char)) : List Char :=
  pieces.flatMap fun piece => mark :: piece

/-- No pieces are the empty text. -/
@[simp] theorem behindMarks_nil (mark : Char) : behindMarks mark [] = [] := rfl

/-- The first piece stands behind the first separator. -/
@[simp] theorem behindMarks_cons (mark : Char) (piece : List Char) (pieces : List (List Char)) :
    behindMarks mark (piece :: pieces) = mark :: (piece ++ behindMarks mark pieces) := by
  simp [behindMarks]

/-- Pieces in two parts are written one part after the other. -/
@[simp] theorem behindMarks_append (mark : Char) (left right : List (List Char)) :
    behindMarks mark (left ++ right) = behindMarks mark left ++ behindMarks mark right := by
  simp [behindMarks]

/-- Text without a separator becomes the front of the first piece behind it. -/
theorem splitAt_append {mark : Char} {front rest first : List Char} {others : List (List Char)}
    (free : mark ∉ front) (split : splitAt mark rest = first :: others) :
    splitAt mark (front ++ rest) = (front ++ first) :: others := by
  induction front with
  | nil => exact split
  | cons character front ih =>
    have different : (character == mark) = false := by
      simp only [beq_eq_false_iff_ne]
      exact fun same => free (same ▸ List.mem_cons_self)
    have tail := ih fun inside => free (List.mem_cons_of_mem _ inside)
    simp only [List.cons_append, splitAt, different, Bool.false_eq_true, ↓reduceIte, tail]

/-- Splitting finds the pieces behind the separators, below an empty first piece. -/
theorem splitAt_behindMarks {mark : Char} {pieces : List (List Char)}
    (free : ∀ piece ∈ pieces, mark ∉ piece) :
    splitAt mark (behindMarks mark pieces) = [] :: pieces := by
  induction pieces with
  | nil => rfl
  | cons piece pieces ih =>
    have tail := ih fun other inside => free other (List.mem_cons_of_mem _ inside)
    have split := splitAt_append (free piece List.mem_cons_self) tail
    rw [List.append_nil] at split
    simp only [behindMarks_cons, splitAt, beq_self_eq_true, ↓reduceIte, split]

/-- Every text is a piece followed by pieces behind separators. -/
theorem exists_behindMarks (mark : Char) (text : List Char) :
    ∃ first others, text = first ++ behindMarks mark others ∧ mark ∉ first ∧
      ∀ piece ∈ others, mark ∉ piece := by
  induction text with
  | nil => exact ⟨[], [], rfl, List.not_mem_nil, fun _ inside => absurd inside List.not_mem_nil⟩
  | cons character text ih =>
    obtain ⟨first, others, written, free, othersFree⟩ := ih
    by_cases same : character = mark
    · refine ⟨[], first :: others, by simp [same, written], List.not_mem_nil, ?_⟩
      intro piece inside
      rcases List.mem_cons.mp inside with rfl | inside
      · exact free
      · exact othersFree piece inside
    · refine ⟨character :: first, others, by simp [written], ?_, othersFree⟩
      intro inside
      rcases List.mem_cons.mp inside with rfl | inside
      · exact same rfl
      · exact free inside

/-- Pieces whose last one is not empty do not end with a separator. -/
theorem getLast?_behindMarks_ne {mark : Char} {pieces : List (List Char)}
    (free : ∀ piece ∈ pieces, mark ∉ piece) (ended : pieces.getLast? ≠ some []) :
    (behindMarks mark pieces).getLast? ≠ some mark := by
  rcases List.eq_nil_or_concat pieces with rfl | ⟨front, last, rfl⟩
  · simp
  · have inhabited : last ≠ [] := by
      rintro rfl
      simp at ended
    have lastFree : mark ∉ last := free last (by simp)
    intro marked
    apply lastFree
    have found : last.getLast? = some mark := by
      cases last with
      | nil => exact absurd rfl inhabited
      | cons character rest => simpa [List.getLast?_append] using marked
    exact List.mem_of_getLast? found

/-- Removal from the end is that of the longest end of separators. -/
theorem dropTrailing_eq_rdropWhile (mark : Char) (text : List Char) :
    dropTrailing mark text = text.rdropWhile fun character => character == mark := rfl

/-- Separators at the end of a text are removed. -/
theorem dropTrailing_append_replicate (mark : Char) (text : List Char) (count : Nat) :
    dropTrailing mark (text ++ List.replicate count mark) = dropTrailing mark text := by
  induction count with
  | zero => simp
  | succ count ih =>
    rw [List.replicate_succ', ← List.append_assoc, dropTrailing_eq_rdropWhile,
      List.rdropWhile_concat_pos _ _ _ (by simp)]
    exact ih

/-- A text that does not end with a separator is kept. -/
theorem dropTrailing_eq_self {mark : Char} {text : List Char} (ended : text.getLast? ≠ some mark) :
    dropTrailing mark text = text := by
  rw [dropTrailing_eq_rdropWhile, List.rdropWhile_eq_self_iff]
  intro inhabited same
  apply ended
  rw [List.getLast?_eq_some_getLast inhabited, eq_of_beq same]

/-- What is removed from a text are separators. -/
theorem exists_dropTrailing_append (mark : Char) (text : List Char) :
    ∃ count, text = dropTrailing mark text ++ List.replicate count mark := by
  let removed := text.rtakeWhile fun character => character == mark
  have separators : removed = List.replicate removed.length mark := by
    refine List.eq_replicate_iff.mpr ⟨rfl, fun character inside => ?_⟩
    exact eq_of_beq (List.mem_rtakeWhile_imp (p := fun character => character == mark) inside)
  refine ⟨removed.length, ?_⟩
  rw [← separators, dropTrailing_eq_rdropWhile]
  exact List.rdropWhile_append_rtakeWhile.symm

/-- What is left of a text does not end with a separator. -/
theorem getLast?_dropTrailing_ne (mark : Char) (text : List Char) :
    (dropTrailing mark text).getLast? ≠ some mark := by
  rw [dropTrailing_eq_rdropWhile]
  intro marked
  have inhabited : (text.rdropWhile fun character => character == mark) ≠ [] := by
    intro empty
    simp [empty] at marked
  apply List.rdropWhile_last_not _ text inhabited
  rw [List.getLast?_eq_some_getLast inhabited, Option.some.injEq] at marked
  simp [marked]

end GeoMarket.Text
