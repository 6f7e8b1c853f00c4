import GeoMarket.Navigation.Application
import GeoMarket.Proofs.Text.Separator
import Mathlib.Data.List.Forall2

/-!
# The language of path patterns

A pattern declares segments, and a path is split into pieces, one for each segment: a parameter
stands for a piece that is neither empty nor interrupted by a slash, a wildcard for any text on one
line, and every other segment for its own characters up to simple case folding. The matcher accepts
exactly the paths with such a split. Without wildcards there is at most one split, and the captures
are its pieces, so a table resolves a path to the first route whose pattern accepts it.
-/
namespace GeoMarket.Navigation

open Text

/-- The segments that the text of a pattern declares, written behind slashes and followed by any
number of further slashes. -/
structure Declares (text : String) (segments : List (List Char)) : Prop where
  /-- No segment has a slash. -/
  slashFree : ∀ segment ∈ segments, '/' ∉ segment
  /-- The last segment is not empty. -/
  ended : segments.getLast? ≠ some []
  /-- The text is that of the segments. -/
  written : ∃ count, text.toList = behindMarks '/' segments ++ List.replicate count '/'

/-- A piece of a path that a segment of a pattern stands for. -/
inductive Fits : List Char → List Char → Prop
  /-- A parameter stands for a piece between slashes. -/
  | parameter {name piece : List Char} (inhabited : piece ≠ []) (slashFree : '/' ∉ piece) :
      Fits (':' :: name) piece
  /-- A wildcard stands for any text on one line. -/
  | wildcard {piece : List Char} (oneLine : '\n' ∉ piece) : Fits ['*'] piece
  /-- Any other segment stands for its own letters. -/
  | literal {letters piece : List Char} (named : letters.head? ≠ some ':')
      (single : letters ≠ ['*'])
      (same : List.Forall₂ (fun letter character => foldCase letter = foldCase character)
        letters piece) :
      Fits letters piece

/-- A path split into pieces for the segments of a pattern, with at most one more slash. -/
structure Splits (segments pieces : List (List Char)) (path : List Char) : Prop where
  /-- Each piece fits its segment. -/
  fits : List.Forall₂ Fits segments pieces
  /-- The path is written as the pieces. -/
  written : path = behindMarks '/' pieces ∨ path = behindMarks '/' pieces ++ ['/']

/-- The paths that the text of a pattern stands for. -/
inductive Accepts : String → List Char → Prop
  /-- The lone wildcard stands for any text on one line. -/
  | anything {path : List Char} (oneLine : '\n' ∉ path) : Accepts "*" path
  /-- Segments stand for the paths that can be split along them. -/
  | split {text : String} {segments pieces : List (List Char)} {path : List Char}
      (declared : Declares text segments) (splits : Splits segments pieces path) :
      Accepts text path

/-- A pattern that is the lone wildcard or begins with a slash. -/
def Rooted (text : String) : Prop := text = "*" ∨ text.toList.head? = some '/'

instance : DecidablePred Rooted := fun _ => inferInstanceAs (Decidable (_ ∨ _))

/-- A rooted pattern other than the lone wildcard declares segments. -/
theorem exists_declares {text : String} (rooted : text.toList.head? = some '/') :
    ∃ segments, Declares text segments := by
  obtain ⟨count, trimmed⟩ := exists_dropTrailing_append '/' text.toList
  obtain ⟨first, others, written, free, othersFree⟩ :=
    exists_behindMarks '/' (dropTrailing '/' text.toList)
  have absent : first = [] := by
    cases first with
    | nil => rfl
    | cons character rest =>
      rw [trimmed, written] at rooted
      simp only [List.cons_append, List.head?_cons, Option.some.injEq] at rooted
      exact absurd (rooted ▸ List.mem_cons_self) free
  rw [absent, List.nil_append] at written
  refine ⟨others, othersFree, fun last => ?_, count, written ▸ trimmed⟩
  apply getLast?_dropTrailing_ne '/' text.toList
  obtain ⟨front, rfl⟩ := List.getLast?_eq_some_iff.mp last
  simp [written]

/-- Split at its slashes, without those at its end, a pattern is the segments that it declares. -/
theorem splitAt_of_declares {text : String} {segments : List (List Char)}
    (declared : Declares text segments) :
    splitAt '/' (dropTrailing '/' text.toList) = [] :: segments := by
  obtain ⟨count, written⟩ := declared.written
  rw [written, dropTrailing_append_replicate,
    dropTrailing_eq_self (getLast?_behindMarks_ne declared.slashFree declared.ended),
    splitAt_behindMarks declared.slashFree]

/-- A pattern that declares segments reads as these segments. -/
theorem ofText_of_declares {text : String} {segments : List (List Char)}
    (declared : Declares text segments) :
    Pattern.ofText text = .path (segments.map Segment.ofPiece) := by
  have notLone : text ≠ "*" := by
    rintro rfl
    have split : [['*']] = [] :: segments := splitAt_of_declares declared
    cases split
  simp only [Pattern.ofText, notLone, ↓reduceIte, splitAt_of_declares declared,
    List.drop_succ_cons, List.drop_zero]

/-- A path split along no segments is empty or a lone slash. -/
theorem splits_nil_iff {pieces : List (List Char)} {path : List Char} :
    Splits [] pieces path ↔ pieces = [] ∧ (path = [] ∨ path = ['/']) := by
  constructor
  · rintro ⟨fits, written⟩
    obtain rfl := List.forall₂_nil_left_iff.mp fits
    exact ⟨rfl, by simpa using written⟩
  · rintro ⟨rfl, written⟩
    exact ⟨.nil, by simpa using written⟩

/-- A path split along segments begins with a slash and a piece for the first of them. -/
theorem splits_cons_iff {segment : List Char} {segments pieces : List (List Char)}
    {path : List Char} :
    Splits (segment :: segments) pieces path ↔
      ∃ piece others rest, pieces = piece :: others ∧ path = '/' :: (piece ++ rest) ∧
        Fits segment piece ∧ Splits segments others rest := by
  constructor
  · rintro ⟨fits, written⟩
    obtain ⟨piece, others, fit, rest, rfl⟩ := List.forall₂_cons_left_iff.mp fits
    rcases written with rfl | rfl
    · exact ⟨piece, others, behindMarks '/' others, rfl, by simp, fit, rest, .inl rfl⟩
    · exact ⟨piece, others, behindMarks '/' others ++ ['/'], rfl, by simp, fit, rest, .inr rfl⟩
  · rintro ⟨piece, others, rest, rfl, rfl, fit, fits, rfl | rfl⟩
    · exact ⟨.cons fit fits, .inl (by simp)⟩
    · exact ⟨.cons fit fits, .inr (by simp)⟩

/-- What is split along segments is empty or begins with a slash. -/
theorem Splits.head? {segments pieces : List (List Char)} {path : List Char}
    (splits : Splits segments pieces path) : path = [] ∨ path.head? = some '/' := by
  cases segments with
  | nil =>
    obtain ⟨-, rfl | rfl⟩ := splits_nil_iff.mp splits
    · exact .inl rfl
    · exact .inr rfl
  | cons segment segments =>
    obtain ⟨piece, others, rest, -, rfl, -⟩ := splits_cons_iff.mp splits
    exact .inr rfl

/-- A literal leaves what stands behind its letters. -/
theorem afterLiteral?_eq_some_iff {letters text rest : List Char} :
    Pattern.afterLiteral? letters text = some rest ↔
      ∃ piece, text = piece ++ rest ∧
        List.Forall₂ (fun letter character => foldCase letter = foldCase character)
          letters piece := by
  induction letters generalizing text with
  | nil => simp [Pattern.afterLiteral?]
  | cons letter letters ih =>
    cases text with
    | nil => simp [Pattern.afterLiteral?, List.forall₂_cons_left_iff]
    | cons character text =>
      by_cases same : foldCase letter = foldCase character
      · simp only [Pattern.afterLiteral?, sameLetter_iff.mpr same, ↓reduceIte, ih]
        constructor
        · rintro ⟨piece, rfl, fits⟩
          exact ⟨character :: piece, rfl, .cons same fits⟩
        · rintro ⟨piece, written, fits⟩
          obtain ⟨first, tail, -, tailFits, rfl⟩ := List.forall₂_cons_left_iff.mp fits
          exact ⟨tail, (List.cons.inj written).2, tailFits⟩
      · have different : sameLetter letter character = false := by
          rw [Bool.eq_false_iff, ne_eq, sameLetter_iff]
          exact same
        simp only [Pattern.afterLiteral?, different, Bool.false_eq_true, ↓reduceIte, reduceCtorEq,
          false_iff]
        rintro ⟨piece, written, fits⟩
        obtain ⟨first, tail, fit, -, rfl⟩ := List.forall₂_cons_left_iff.mp fits
        exact same ((List.cons.inj written).1 ▸ fit)

/-- A wildcard may leave whatever stands behind a text on one line. -/
theorem mem_afterWildcard_iff {text rest : List Char} :
    rest ∈ Pattern.afterWildcard text ↔ ∃ piece, text = piece ++ rest ∧ '\n' ∉ piece := by
  induction text with
  | nil => simp [Pattern.afterWildcard, eq_comm, and_comm]
  | cons character text ih =>
    have split : rest ∈ Pattern.afterWildcard (character :: text) ↔
        (character ≠ '\n' ∧ rest ∈ Pattern.afterWildcard text) ∨ rest = character :: text := by
      by_cases feed : character = '\n' <;> simp [Pattern.afterWildcard, feed]
    rw [split, ih]
    constructor
    · rintro (⟨plain, piece, rfl, oneLine⟩ | rfl)
      · exact ⟨character :: piece, rfl, by simp [oneLine, Ne.symm plain]⟩
      · exact ⟨[], rfl, List.not_mem_nil⟩
    · rintro ⟨piece, written, oneLine⟩
      cases piece with
      | nil => exact .inr written.symm
      | cons first piece =>
        obtain ⟨rfl, rfl⟩ := List.cons.inj written
        rw [List.mem_cons, not_or] at oneLine
        exact .inl ⟨Ne.symm oneLine.1, piece, rfl, oneLine.2⟩

/-- The characters of a parameter value are those other than the slash. -/
theorem isPlain_iff {character : Char} : Pattern.isPlain character = true ↔ character ≠ '/' := by
  simp [Pattern.isPlain]

/-- The value of a parameter is the piece up to the next slash. -/
theorem span_piece {piece rest : List Char} (slashFree : '/' ∉ piece)
    (ended : rest = [] ∨ rest.head? = some '/') :
    (piece ++ rest).takeWhile Pattern.isPlain = piece ∧
      (piece ++ rest).dropWhile Pattern.isPlain = rest := by
  have plain : ∀ character ∈ piece, Pattern.isPlain character = true := fun character inside =>
    isPlain_iff.mpr fun same => slashFree (same ▸ inside)
  rw [List.takeWhile_append_of_pos plain, List.dropWhile_append_of_pos plain]
  cases rest with
  | nil => simp
  | cons character rest =>
    obtain rfl : character = '/' := by simpa using ended
    simp [Pattern.isPlain]

/-- A segment that neither names a parameter nor is the wildcard is read as a literal. -/
theorem ofPiece_literal {segment : List Char} (named : segment.head? ≠ some ':')
    (single : segment ≠ ['*']) : Segment.ofPiece segment = .literal segment := by
  unfold Segment.ofPiece
  split
  · exact absurd rfl named
  · exact absurd rfl single
  · rfl

-- The equations of the matcher are made once, for all proofs that start from them.
attribute [grind =] Pattern.captureSegments?

/-- Segments need a path that begins with a slash. -/
theorem exists_slash {segment : Segment} {segments : List Segment} {path : List Char}
    {captures : Captures}
    (found : Pattern.captureSegments? (segment :: segments) path = some captures) :
    ∃ rest, path = '/' :: rest := by
  cases path with
  | nil => simp [Pattern.captureSegments?] at found
  | cons character rest =>
    by_cases slash : character = '/'
    · exact ⟨rest, by rw [slash]⟩
    · simp [Pattern.captureSegments?, slash] at found

/-- The captures behind a literal. -/
theorem captureSegments?_literal (letters : List Char) (segments : List Segment)
    (rest : List Char) :
    Pattern.captureSegments? (.literal letters :: segments) ('/' :: rest) =
      (Pattern.afterLiteral? letters rest).bind (Pattern.captureSegments? segments) := by
  rw [Pattern.captureSegments?]

/-- The captures behind a wildcard. -/
theorem captureSegments?_wildcard (segments : List Segment) (rest : List Char) :
    Pattern.captureSegments? (.wildcard :: segments) ('/' :: rest) =
      (Pattern.afterWildcard rest).findSome? (Pattern.captureSegments? segments) := by
  rw [Pattern.captureSegments?]

/-- A parameter captures the piece before an end or a slash. -/
theorem captureSegments?_parameter (name : String) (segments : List Segment)
    {piece rest : List Char} (inhabited : piece ≠ []) (slashFree : '/' ∉ piece)
    (ended : rest = [] ∨ rest.head? = some '/') :
    Pattern.captureSegments? (.parameter name :: segments) ('/' :: (piece ++ rest)) =
      (Pattern.captureSegments? segments rest).map fun captures =>
        (name, String.ofList piece) :: captures := by
  obtain ⟨value, remainder⟩ := span_piece slashFree ended
  simp only [Pattern.captureSegments?, value, remainder, List.isEmpty_iff, inhabited, ↓reduceIte]

/-- The matcher finds captures only along a split of the path. -/
theorem exists_splits {segments : List (List Char)} {path : List Char} {captures : Captures}
    (found : Pattern.captureSegments? (segments.map Segment.ofPiece) path = some captures) :
    ∃ pieces, Splits segments pieces path := by
  induction segments generalizing path captures with
  | nil =>
    simp only [List.map_nil, Pattern.captureSegments?, Option.ite_none_right_eq_some] at found
    exact ⟨[], splits_nil_iff.mpr ⟨rfl, found.1⟩⟩
  | cons segment segments ih =>
    obtain ⟨text, rfl⟩ := exists_slash found
    simp only [List.map_cons] at found
    -- The head of the split is the piece that the matcher takes, by the kind of the segment.
    suffices ∃ piece rest captures, text = piece ++ rest ∧ Fits segment piece ∧
        Pattern.captureSegments? (segments.map Segment.ofPiece) rest = some captures by
      obtain ⟨piece, rest, captures, rfl, fit, found⟩ := this
      obtain ⟨others, splits⟩ := ih found
      exact ⟨piece :: others,
        splits_cons_iff.mpr ⟨piece, others, rest, rfl, rfl, fit, splits⟩⟩
    by_cases named : segment.head? = some ':'
    · obtain ⟨name, rfl⟩ := List.head?_eq_some_iff.mp named
      simp only [Segment.ofPiece, Pattern.captureSegments?] at found
      split at found
      · contradiction
      · rename_i inhabited
        obtain ⟨captures, found, -⟩ := Option.map_eq_some_iff.mp found
        refine ⟨text.takeWhile Pattern.isPlain, text.dropWhile Pattern.isPlain, captures,
          List.takeWhile_append_dropWhile.symm, .parameter ?_ ?_, found⟩
        · simpa [List.isEmpty_iff] using inhabited
        · intro inside
          exact isPlain_iff.mp (List.mem_takeWhile_imp inside) rfl
    · by_cases single : segment = ['*']
      · subst single
        rw [Segment.ofPiece, captureSegments?_wildcard] at found
        obtain ⟨rest, inside, found⟩ := List.exists_of_findSome?_eq_some found
        obtain ⟨piece, written, oneLine⟩ := mem_afterWildcard_iff.mp inside
        exact ⟨piece, rest, captures, written, .wildcard oneLine, found⟩
      · rw [ofPiece_literal named single, captureSegments?_literal] at found
        obtain ⟨rest, inside, found⟩ := Option.bind_eq_some_iff.mp found
        obtain ⟨piece, written, same⟩ := afterLiteral?_eq_some_iff.mp inside
        exact ⟨piece, rest, captures, written, .literal named single same, found⟩

/-- The matcher finds captures along every split of the path. -/
theorem captureSegments?_isSome {segments pieces : List (List Char)} {path : List Char}
    (splits : Splits segments pieces path) :
    (Pattern.captureSegments? (segments.map Segment.ofPiece) path).isSome = true := by
  induction segments generalizing pieces path with
  | nil =>
    obtain ⟨-, written⟩ := splits_nil_iff.mp splits
    simp only [List.map_nil, Pattern.captureSegments?, written, ↓reduceIte, Option.isSome_some]
  | cons segment segments ih =>
    obtain ⟨piece, others, rest, rfl, rfl, fit, remaining⟩ := splits_cons_iff.mp splits
    have found := ih remaining
    rw [List.map_cons]
    cases fit with
    | parameter inhabited slashFree =>
      rw [Segment.ofPiece, captureSegments?_parameter _ _ inhabited slashFree remaining.head?]
      simpa using found
    | wildcard oneLine =>
      rw [Segment.ofPiece, captureSegments?_wildcard, List.findSome?_isSome_iff]
      exact ⟨rest, mem_afterWildcard_iff.mpr ⟨piece, rfl, oneLine⟩, found⟩
    | literal named single same =>
      have taken : Pattern.afterLiteral? segment (piece ++ rest) = some rest :=
        afterLiteral?_eq_some_iff.mpr ⟨piece, rfl, same⟩
      rw [ofPiece_literal named single, captureSegments?_literal, taken]
      exact found

/-- A rooted pattern accepts a path exactly when the matcher finds captures. -/
theorem captures?_isSome_iff {text : String} (rooted : Rooted text) {path : List Char} :
    ((Pattern.ofText text).captures? path).isSome = true ↔ Accepts text path := by
  rcases rooted with rfl | rooted
  · have lone : Pattern.ofText "*" = .anything := rfl
    simp only [lone, Pattern.captures?]
    constructor
    · intro found
      refine .anything fun inside => ?_
      simp [inside] at found
    · intro accepted
      cases accepted with
      | anything oneLine => simp [oneLine]
      | split declared splits => simp [ofText_of_declares declared] at lone
  · obtain ⟨segments, declared⟩ := exists_declares rooted
    constructor
    · intro found
      obtain ⟨captures, found⟩ := Option.isSome_iff_exists.mp found
      rw [ofText_of_declares declared] at found
      obtain ⟨pieces, splits⟩ := exists_splits found
      exact .split declared splits
    · intro accepted
      cases accepted with
      | anything oneLine => simp at rooted
      | split declared splits =>
        rw [ofText_of_declares declared]
        exact captureSegments?_isSome splits

/-- The code of the character with a code is that code, or zero if there is no such character. -/
theorem toNat_ofNat_eq (code : Nat) :
    (Char.ofNat code).toNat = code ∨ (Char.ofNat code).toNat = 0 := by
  by_cases valid : code.isValidChar
  · left
    rw [Char.ofNat, dif_pos valid]
    rfl
  · right
    rw [Char.ofNat, dif_neg valid]
    rfl

/-- No other character folds to the slash. -/
theorem eq_slash_of_foldCase {character : Char} (same : foldCase character = '/') :
    character = '/' := by
  unfold foldCase at same
  split at same
  · rename_i run found
    have above : ∀ run ∈ foldingRuns, 47 < run.image := by decide +kernel
    have image := above run (List.mem_of_find?_eq_some found)
    have code := toNat_ofNat_eq (character.toNat - run.first + run.image)
    have slash : '/'.toNat = 47 := rfl
    rw [same, slash] at code
    omega
  · exact same

/-- Each value of the right list is related to one of the left list. -/
theorem exists_mem_left {α β : Type} {relation : α → β → Prop} {left : List α} {right : List β}
    (related : List.Forall₂ relation left right) {value : β} (inside : value ∈ right) :
    ∃ origin ∈ left, relation origin value := by
  induction related with
  | nil => exact absurd inside List.not_mem_nil
  | cons head _ ih =>
    rcases List.mem_cons.mp inside with rfl | inside
    · exact ⟨_, List.mem_cons_self, head⟩
    · obtain ⟨origin, member, holds⟩ := ih inside
      exact ⟨origin, List.mem_cons_of_mem _ member, holds⟩

/-- A segment without slashes stands for itself. -/
theorem fits_self {segment : List Char} (free : '/' ∉ segment) : Fits segment segment := by
  by_cases named : segment.head? = some ':'
  · obtain ⟨name, rfl⟩ := List.head?_eq_some_iff.mp named
    exact .parameter (List.cons_ne_nil _ _) free
  · by_cases single : segment = ['*']
    · subst single
      exact .wildcard (by decide)
    · exact .literal named single (List.forall₂_same.mpr fun _ _ => rfl)

/-- The piece of a segment without slashes has none either, unless the segment is a wildcard. -/
theorem Fits.slashFree {segment piece : List Char} (fit : Fits segment piece)
    (free : '/' ∉ segment) (single : segment ≠ ['*']) : '/' ∉ piece := by
  cases fit with
  | parameter inhabited slashFree => exact slashFree
  | wildcard oneLine => exact absurd rfl single
  | literal named single same =>
    intro inside
    obtain ⟨letter, member, fold⟩ := exists_mem_left same inside
    have plain : foldCase '/' = '/' := by decide
    exact free (eq_slash_of_foldCase (fold.trans plain) ▸ member)

/-- The piece of a segment that is not empty is not empty, unless the segment is a wildcard. -/
theorem Fits.inhabited {segment piece : List Char} (fit : Fits segment piece)
    (inhabited : segment ≠ []) (single : segment ≠ ['*']) : piece ≠ [] := by
  cases fit with
  | parameter inhabited slashFree => exact inhabited
  | wildcard oneLine => exact absurd rfl single
  | literal named single same =>
    rintro rfl
    exact inhabited (List.forall₂_nil_right_iff.mp same)

/-- The pieces of a split without wildcards have no slash, and the last one is not empty. -/
theorem pieces_ended {text : String} {segments pieces : List (List Char)}
    (declared : Declares text segments) (single : ['*'] ∉ segments)
    (fits : List.Forall₂ Fits segments pieces) :
    (∀ piece ∈ pieces, '/' ∉ piece) ∧ pieces.getLast? ≠ some [] := by
  constructor
  · intro piece inside
    obtain ⟨segment, member, fit⟩ := exists_mem_left fits inside
    exact fit.slashFree (declared.slashFree segment member) fun same => single (same ▸ member)
  · intro last
    obtain ⟨front, rfl⟩ := List.getLast?_eq_some_iff.mp last
    have reversed := List.forall₂_reverse_iff.mpr fits
    rw [List.reverse_append, List.reverse_singleton, List.singleton_append] at reversed
    obtain ⟨segment, others, fit, -, written⟩ := List.forall₂_cons_right_iff.mp reversed
    have member : segment ∈ segments := by
      rw [← List.mem_reverse, written]
      exact List.mem_cons_self
    refine fit.inhabited ?_ (fun same => single (same ▸ member)) rfl
    rintro rfl
    apply declared.ended
    rw [← List.head?_reverse, written, List.head?_cons]

/-- Splitting a path at its slashes finds the pieces, and an empty one behind a slash at the end. -/
theorem splitAt_of_written {pieces : List (List Char)} {path : List Char}
    (free : ∀ piece ∈ pieces, '/' ∉ piece)
    (written : path = behindMarks '/' pieces ∨ path = behindMarks '/' pieces ++ ['/']) :
    splitAt '/' path = [] :: pieces ∨ splitAt '/' path = [] :: (pieces ++ [[]]) := by
  rcases written with rfl | rfl
  · exact .inl (splitAt_behindMarks free)
  · right
    have longer : ∀ piece ∈ pieces ++ [[]], '/' ∉ piece := by
      intro piece inside
      rcases List.mem_append.mp inside with inside | inside
      · exact free piece inside
      · simp [List.mem_singleton.mp inside]
    rw [← splitAt_behindMarks longer]
    simp

/-- The pieces of a path are determined by it. -/
theorem pieces_unique {pieces others : List (List Char)} {path : List Char}
    (left : (∀ piece ∈ pieces, '/' ∉ piece) ∧ pieces.getLast? ≠ some [])
    (right : (∀ piece ∈ others, '/' ∉ piece) ∧ others.getLast? ≠ some [])
    (leftWritten : path = behindMarks '/' pieces ∨ path = behindMarks '/' pieces ++ ['/'])
    (rightWritten : path = behindMarks '/' others ∨ path = behindMarks '/' others ++ ['/']) :
    others = pieces := by
  -- Only an empty last piece could stand for the slash at the end, and there is none.
  rcases splitAt_of_written left.1 leftWritten with leftSplit | leftSplit <;>
    rcases splitAt_of_written right.1 rightWritten with rightSplit | rightSplit <;>
    rw [leftSplit, List.cons.injEq] at rightSplit
  · exact rightSplit.2.symm
  · simp [rightSplit.2] at left
  · simp [← rightSplit.2] at right
  · exact (List.append_cancel_right rightSplit.2).symm

/-- Without wildcards a path has at most one split. -/
theorem splits_unique {text : String} {segments pieces others : List (List Char)}
    {path : List Char} (declared : Declares text segments) (single : ['*'] ∉ segments)
    (left : Splits segments pieces path) (right : Splits segments others path) :
    others = pieces :=
  pieces_unique (pieces_ended declared single left.fits) (pieces_ended declared single right.fits)
    left.written right.written

/-- The capture of a segment with its piece. -/
def binding? : List Char × List Char → Option (String × String)
  | (':' :: name, piece) => some (String.ofList name, String.ofList piece)
  | _ => none

/-- A segment that names no parameter captures nothing. -/
theorem binding?_of_unnamed {segment piece : List Char} (named : segment.head? ≠ some ':') :
    binding? (segment, piece) = none := by
  unfold binding?
  split
  · rename_i written
    rw [Prod.mk.injEq] at written
    exact absurd (congrArg List.head? written.1) named
  · rfl

/-- Without wildcards the captures are the pieces of the parameters, in order. -/
theorem captureSegments?_eq_bindings {segments pieces : List (List Char)} {path : List Char}
    (single : ['*'] ∉ segments) (splits : Splits segments pieces path) :
    Pattern.captureSegments? (segments.map Segment.ofPiece) path =
      some ((segments.zip pieces).filterMap binding?) := by
  induction segments generalizing pieces path with
  | nil =>
    obtain ⟨-, written⟩ := splits_nil_iff.mp splits
    simp only [List.map_nil, Pattern.captureSegments?, written, ↓reduceIte, List.zip_nil_left,
      List.filterMap_nil]
  | cons segment segments ih =>
    obtain ⟨piece, others, rest, rfl, rfl, fit, remaining⟩ := splits_cons_iff.mp splits
    have found := ih (fun inside => single (List.mem_cons_of_mem _ inside)) remaining
    rw [List.map_cons, List.zip_cons_cons]
    cases fit with
    | parameter inhabited slashFree =>
      rw [Segment.ofPiece, captureSegments?_parameter _ _ inhabited slashFree remaining.head?,
        found]
      rfl
    | wildcard oneLine => exact absurd List.mem_cons_self single
    | literal named notWildcard same =>
      have taken : Pattern.afterLiteral? segment (piece ++ rest) = some rest :=
        afterLiteral?_eq_some_iff.mpr ⟨piece, rfl, same⟩
      rw [ofPiece_literal named notWildcard, captureSegments?_literal, taken,
        List.filterMap_cons_none (binding?_of_unnamed named)]
      exact found

/-- A name that is captured again gets the new value, and the other names keep theirs. -/
theorem lookup_insert (captures : Captures) (name value other : String) :
    (captures.insert name value).lookup other =
      if other = name then some value else captures.lookup other := by
  rw [Captures.insert, List.lookup_append]
  by_cases same : other = name
  · subst same
    have removed : (captures.filter fun entry => entry.1 != other).lookup other = none := by
      refine List.lookup_eq_none_iff.mpr fun entry inside => ?_
      exact bne_iff_ne.mpr (bne_iff_ne.mp (List.mem_filter.mp inside).2).symm
    simp [removed]
  · have kept : (captures.filter fun entry => entry.1 != name).lookup other =
        captures.lookup other := by
      induction captures with
      | nil => rfl
      | cons entry captures ih =>
        obtain ⟨first, old⟩ := entry
        by_cases again : first = name
        · simp [again, List.lookup_cons, beq_false_of_ne same, ih]
        · simp [again, List.lookup_cons, ih]
    simp [kept, same, List.lookup_cons, beq_false_of_ne same]

/-- Each name keeps the value that was captured last. -/
theorem lookup_settled (captures : Captures) (name : String) :
    captures.settled.lookup name = captures.reverse.lookup name := by
  have step : ∀ found : Captures,
      (captures.foldl (fun found entry => found.insert entry.1 entry.2) found).lookup name =
        (captures.reverse ++ found).lookup name := by
    induction captures with
    | nil => simp
    | cons entry captures ih =>
      intro found
      obtain ⟨other, value⟩ := entry
      rw [List.foldl_cons, ih, List.reverse_cons, List.append_assoc, List.lookup_append,
        List.lookup_append, lookup_insert, List.singleton_append, List.lookup_cons]
      by_cases same : name = other
      · simp [same]
      · simp [same, beq_false_of_ne same]
  rw [← List.append_nil captures.reverse]
  exact step []

/-- The binding of a name is the piece that stands for the parameter with the name. -/
theorem lookup_bindings (pairs : List (List Char × List Char)) (name : String) :
    (pairs.filterMap binding?).lookup name =
      (pairs.lookup (':' :: name.toList)).map String.ofList := by
  induction pairs with
  | nil => rfl
  | cons pair pairs ih =>
    obtain ⟨segment, piece⟩ := pair
    by_cases named : segment.head? = some ':'
    · obtain ⟨other, rfl⟩ := List.head?_eq_some_iff.mp named
      rw [List.filterMap_cons_some (by rfl), List.lookup_cons, List.lookup_cons, ih]
      by_cases same : name.toList = other
      · simp [← same]
      · have different : (name == String.ofList other) = false := by
          refine beq_false_of_ne fun equal => same ?_
          rw [equal, String.toList_ofList]
        have apart : (':' :: name.toList == ':' :: other) = false :=
          beq_false_of_ne fun equal => same (List.cons.inj equal).2
        rw [different, apart]
    · rw [List.filterMap_cons_none (binding?_of_unnamed named), List.lookup_cons, ih]
      have apart : (':' :: name.toList == segment) = false := by
        refine beq_false_of_ne fun equal => named ?_
        rw [← equal, List.head?_cons]
      rw [apart]

/-- What a record makes of a path: a route with the data of the record, and with the unique split of
the path as its parameters if the pattern has no wildcard; a name keeps its last piece. -/
structure RouteRecord.Yields (record : RouteRecord) (bare : List Char) (route : ResolvedRoute) :
    Prop where
  /-- The path is returned as it is. -/
  path : route.path = String.ofList bare
  /-- The pattern is that of the record. -/
  pattern : route.pattern = record.pattern
  /-- The name is that of the record. -/
  name : route.name = record.name
  /-- What the guard wants to know is that of the record. -/
  details : route.details = record.details
  /-- The redirect is that of the record. -/
  redirect : route.redirect = record.redirect
  /-- Each parameter has the piece of its last segment. -/
  params : ∀ segments, Declares record.pattern segments → ['*'] ∉ segments →
    ∃ pieces, Splits segments pieces bare ∧
      (∀ others, Splits segments others bare → others = pieces) ∧
      ∀ name, route.param? name =
        ((segments.zip pieces).reverse.lookup (':' :: name.toList)).map String.ofList

/-- A path without query and fragment is kept whole. -/
theorem barePath_eq_toList {path : String} (queryless : '?' ∉ path.toList)
    (fragmentless : '#' ∉ path.toList) : barePath path = path.toList := by
  refine List.takeWhile_eq_self_iff.mpr fun character inside => ?_
  have query : character ≠ '?' := fun same => queryless (same ▸ inside)
  have fragment : character ≠ '#' := fun same => fragmentless (same ▸ inside)
  simp [query, fragment]

/-- A rooted record resolves exactly the paths that its pattern accepts. -/
theorem RouteRecord.resolve?_eq_none_iff {record : RouteRecord} (rooted : Rooted record.pattern)
    {path : List Char} : record.resolve? path = none ↔ ¬ Accepts record.pattern path := by
  rw [← captures?_isSome_iff rooted, RouteRecord.resolve?, Option.map_eq_none_iff,
    Bool.not_eq_true, Option.isSome_eq_false_iff, Option.isNone_iff_eq_none]

/-- A route is what its record makes of the path. -/
theorem RouteRecord.yields {record : RouteRecord} {path : List Char} {route : ResolvedRoute}
    (resolved : record.resolve? path = some route) : record.Yields path route := by
  obtain ⟨captures, found, rfl⟩ := Option.map_eq_some_iff.mp resolved
  refine ⟨rfl, rfl, rfl, rfl, rfl, fun segments declared single => ?_⟩
  rw [ofText_of_declares declared] at found
  obtain ⟨pieces, splits⟩ := exists_splits found
  refine ⟨pieces, splits, fun others => splits_unique declared single splits, fun name => ?_⟩
  have bindings : captures = (segments.zip pieces).filterMap binding? :=
    Option.some.inj (found.symm.trans (captureSegments?_eq_bindings single splits))
  rw [ResolvedRoute.param?, lookup_settled, bindings, ← List.filterMap_reverse, lookup_bindings]

/-- **Path matching.** In a table of rooted patterns a path has no route exactly when no pattern
accepts what stands before its query and fragment, and its route is otherwise that of the first
record whose pattern does. -/
theorem resolve?_first_accepting (table : RouteTable)
    (rooted : ∀ record ∈ table.records, Rooted record.pattern) (path : String) :
    (table.resolve? path = none ↔
      ∀ record ∈ table.records, ¬ Accepts record.pattern (barePath path)) ∧
    ∀ route, table.resolve? path = some route →
      ∃ before record after, table.records = before ++ record :: after ∧
        (∀ earlier ∈ before, ¬ Accepts earlier.pattern (barePath path)) ∧
        Accepts record.pattern (barePath path) ∧ record.Yields (barePath path) route := by
  constructor
  · rw [RouteTable.resolve?, List.findSome?_eq_none_iff]
    exact forall₂_congr fun record inside =>
      RouteRecord.resolve?_eq_none_iff (rooted record inside)
  · intro route found
    obtain ⟨before, record, after, listed, resolved, missed⟩ :=
      List.findSome?_eq_some_iff.mp found
    refine ⟨before, record, after, listed, fun earlier inside => ?_, ?_, record.yields resolved⟩
    · have member : earlier ∈ table.records := listed ▸ List.mem_append_left _ inside
      exact (RouteRecord.resolve?_eq_none_iff (rooted earlier member)).mp (missed earlier inside)
    · have member : record ∈ table.records := by simp [listed]
      by_contra refused
      rw [(RouteRecord.resolve?_eq_none_iff (rooted record member)).mpr refused] at resolved
      contradiction

/-- Every pattern of the application is rooted. -/
theorem Application.rooted : ∀ record ∈ Application.table.records, Rooted record.pattern := by
  decide

/-- The application finds a thread of messages behind capitals, a slash at the end and a query. -/
theorem resolve?_first_accepting_thread :
    (∀ record ∈ Application.table.records, Rooted record.pattern) ∧
    ∃ route, Application.table.resolve? "/Dashboard/messages/A.1/?tab#top" = some route ∧
      ∃ before record after, Application.table.records = before ++ record :: after ∧
        (∀ earlier ∈ before,
          ¬ Accepts earlier.pattern (barePath "/Dashboard/messages/A.1/?tab#top")) ∧
        Accepts record.pattern (barePath "/Dashboard/messages/A.1/?tab#top") ∧
        record.Yields (barePath "/Dashboard/messages/A.1/?tab#top") route := by
  obtain ⟨route, found⟩ := Option.isSome_iff_exists.mp (show
    (Application.table.resolve? "/Dashboard/messages/A.1/?tab#top").isSome = true by decide)
  exact ⟨Application.rooted, route, found,
    (resolve?_first_accepting _ Application.rooted _).2 route found⟩

end GeoMarket.Navigation
