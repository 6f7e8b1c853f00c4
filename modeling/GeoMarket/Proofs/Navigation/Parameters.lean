import GeoMarket.Proofs.Navigation.Arrival
import Mathlib.Data.Bool.AllAny

/-!
# Pages with a parameter

A path that consists of known pieces and one more has a route of a pattern only if the segments of
the pattern agree with the known pieces and leave one segment for the last. So whatever the last
piece is, the earlier routes of the application that disagree are passed over, and the page with a
parameter in this place is found with the piece as its value. One page with a name of its own in the
same place is tried earlier: the one for a new message.
-/
namespace GeoMarket.Navigation

open Text

/-! ## Letters up to their case -/

/-- What is no capital of ASCII is its own small form. -/
theorem toLower_eq_self {character : Char}
    (plain : ¬(65 ≤ character.toNat ∧ character.toNat ≤ 90)) : character.toLower = character :=
  dif_neg plain

/-- The folding of an ASCII character is its small form. -/
theorem foldCase_eq_toLower {character : Char} (ascii : character.toNat < 128) :
    foldCase character = character.toLower := by
  by_cases capital : 65 ≤ character.toNat ∧ character.toNat ≤ 90
  · have table : ∀ code ≤ 90, 65 ≤ code →
        foldCase (Char.ofNat code) = (Char.ofNat code).toLower := by
      decide +kernel
    have folded := table character.toNat capital.2 capital.1
    rwa [Char.ofNat_toNat] at folded
  · have small : isSmall character = true := by
      simp only [isSmall, Bool.or_eq_true, Bool.and_eq_true, decide_eq_true_eq]
      omega
    rw [foldCase_of_isSmall small, toLower_eq_self capital]

/-- The codes of the small letters of ASCII. -/
theorem toNat_of_isLower {letter : Char} (small : letter.isLower = true) :
    97 ≤ letter.toNat ∧ letter.toNat ≤ 122 := by
  obtain ⟨above, below⟩ := Bool.and_eq_true_iff.mp small
  exact ⟨of_decide_eq_true above, of_decide_eq_true below⟩

/-- The signs for the kelvin and for the long s fold to small letters of ASCII; nothing else beyond
ASCII does. -/
theorem foldCase_ne_of_beyond {letter character : Char} (small : letter.isLower = true)
    (single : letter ∉ ['k', 's']) (beyond : 128 ≤ character.toNat) :
    foldCase character ≠ letter := by
  have images : ∀ run ∈ foldingRuns, run.last < 128 ∨ 128 ≤ run.image ∨
      run.first = run.last ∧ run.image ∈ ['k'.toNat, 's'.toNat] := by
    decide +kernel
  obtain ⟨-, bound⟩ := toNat_of_isLower small
  intro same
  unfold foldCase at same
  split at same
  next run found =>
    have covered := List.find?_some found
    simp only [FoldingRun.covers, Bool.and_eq_true, decide_eq_true_eq] at covered
    rcases images run (List.mem_of_find?_eq_some found) with ascii | large | ⟨alone, image⟩
    · omega
    · have code := toNat_ofNat_eq (character.toNat - run.first + run.image)
      obtain ⟨positive, -⟩ := toNat_of_isLower small
      rw [same] at code
      omega
    · have start : character.toNat - run.first + run.image = run.image := by omega
      rw [start] at same
      apply single
      rw [← same]
      simp only [List.mem_cons, List.not_mem_nil, or_false] at image ⊢
      rcases image with kelvin | long
      · exact .inl (by rw [kelvin]; rfl)
      · exact .inr (by rw [long]; rfl)
  next =>
    rw [same] at beyond
    omega

/-- A small letter is the folding of a character if it is its small form. -/
theorem foldCase_eq_iff {letter character : Char} (small : letter.isLower = true)
    (single : letter ∉ ['k', 's']) :
    foldCase letter = foldCase character ↔ character.toLower = letter := by
  obtain ⟨above, below⟩ := toNat_of_isLower small
  have own : foldCase letter = letter := foldCase_of_isSmall (by simp [isSmall]; omega)
  rw [own, eq_comm]
  by_cases ascii : character.toNat < 128
  · rw [foldCase_eq_toLower ascii]
  · rw [toLower_eq_self (by omega)]
    refine iff_of_false (foldCase_ne_of_beyond small single (by omega)) ?_
    rintro rfl
    omega

/-- A text folds to small letters if these are its small form. -/
theorem forall₂_foldCase_iff {letters piece : List Char}
    (plain : ∀ letter ∈ letters, letter.isLower = true ∧ letter ∉ ['k', 's']) :
    List.Forall₂ (fun letter character => foldCase letter = foldCase character) letters piece ↔
      piece.map Char.toLower = letters := by
  induction letters generalizing piece with
  | nil => rw [List.forall₂_nil_left_iff, List.map_eq_nil_iff]
  | cons letter letters ih =>
    obtain ⟨small, single⟩ := plain letter List.mem_cons_self
    rw [List.forall₂_cons_left_iff, List.map_eq_cons_iff]
    simp only [foldCase_eq_iff small single, ih fun other inside => plain other (.tail _ inside)]
    constructor
    · rintro ⟨character, piece, same, rest, rfl⟩
      exact ⟨character, piece, rfl, same, rest⟩
    · rintro ⟨character, piece, rfl, same, rest⟩
      exact ⟨character, piece, same, rest, rfl⟩

/-! ## Paths with known pieces -/

/-- The segments of the text of a pattern. -/
def segmentsOf (text : String) : List (List Char) :=
  (splitAt '/' (dropTrailing '/' text.toList)).drop 1

/-- A pattern that begins with a slash declares its segments. -/
theorem declares_segmentsOf {text : String} (slashed : text.toList.head? = some '/') :
    Declares text (segmentsOf text) := by
  obtain ⟨segments, declared⟩ := exists_declares slashed
  have same : segmentsOf text = segments := by
    rw [segmentsOf, splitAt_of_declares declared, List.drop_succ_cons, List.drop_zero]
  exact same ▸ declared

/-- A path consists of pieces without slashes, the last of which is not empty. -/
structure Consists (pieces : List (List Char)) (path : List Char) : Prop where
  /-- No piece has a slash, and the last one is not empty. -/
  ended : (∀ piece ∈ pieces, '/' ∉ piece) ∧ pieces.getLast? ≠ some []
  /-- Each piece stands behind a slash, and there may be one more slash at the end. -/
  written : path = behindMarks '/' pieces ∨ path = behindMarks '/' pieces ++ ['/']

/-- The route of a record for a path, with values for the parameters. -/
def RouteRecord.shown (record : RouteRecord) (path : String) (params : Captures) :
    ResolvedRoute where
  path := path
  pattern := record.pattern
  name := record.name
  params := params
  details := record.details
  redirect := record.redirect

variable {record : RouteRecord} {segments pieces : List (List Char)} {path : List Char}

/-- A record without wildcards resolves a path whose pieces fit its segments; the parameters have
the pieces as their values. -/
theorem RouteRecord.resolve?_of_fits (declared : Declares record.pattern segments)
    (single : ['*'] ∉ segments) (consists : Consists pieces path)
    (fits : List.Forall₂ Fits segments pieces) :
    record.resolve? path = some (record.shown (String.ofList path)
      (Captures.settled ((segments.zip pieces).filterMap binding?))) := by
  have captured := captureSegments?_eq_bindings single ⟨fits, consists.written⟩
  rw [resolve?, ofText_of_declares declared, Pattern.captures?, captured, Option.map_some, shown]

/-- A record without wildcards passes over a path whose pieces do not fit its segments. -/
theorem RouteRecord.resolve?_of_not_fits (declared : Declares record.pattern segments)
    (single : ['*'] ∉ segments) (consists : Consists pieces path)
    (unfit : ¬List.Forall₂ Fits segments pieces) : record.resolve? path = none := by
  rw [resolve?, ofText_of_declares declared, Option.map_eq_none_iff,
    Option.eq_none_iff_forall_ne_some]
  intro captures found
  obtain ⟨others, splits⟩ := exists_splits found
  have same := pieces_unique consists.ended (pieces_ended declared single splits.fits)
    consists.written splits.written
  exact unfit (same ▸ splits.fits)

/-- A segment may stand for a piece, unless it is a literal with other letters. -/
def mayFit (segment piece : List Char) : Bool :=
  segment.head? == some ':' || segment == ['*'] ||
    Pattern.afterLiteral? segment piece == some []

/-- The segments may stand for the known pieces and one more. -/
def agree : List (List Char) → List (List Char) → Bool
  | [_], [] => true
  | segment :: segments, piece :: known => mayFit segment piece && agree segments known
  | _, _ => false

/-- What a segment stands for, it may stand for. -/
theorem mayFit_of_fits {segment piece : List Char} (fit : Fits segment piece) :
    mayFit segment piece = true := by
  cases fit with
  | parameter => simp [mayFit]
  | wildcard => simp [mayFit]
  | literal named single same =>
    have taken : Pattern.afterLiteral? segment piece = some [] :=
      afterLiteral?_eq_some_iff.mpr ⟨piece, (List.append_nil piece).symm, same⟩
    simp [mayFit, taken]

/-- Segments that stand for known pieces and one more agree with the known ones. -/
theorem agree_of_fits {known : List (List Char)} {last : List Char}
    (fits : List.Forall₂ Fits segments (known ++ [last])) : agree segments known = true := by
  induction known generalizing segments with
  | nil =>
    obtain ⟨segment, others, -, rest, rfl⟩ := List.forall₂_cons_right_iff.mp fits
    obtain rfl := List.forall₂_nil_right_iff.mp rest
    rfl
  | cons piece known ih =>
    obtain ⟨segment, others, fit, rest, rfl⟩ := List.forall₂_cons_right_iff.mp fits
    rw [agree, mayFit_of_fits fit, ih rest, Bool.and_self]

/-- A pattern begins with a slash, has no wildcard and disagrees with pieces before one more. -/
def Excludes (known : List (List Char)) (pattern : String) : Prop :=
  pattern.toList.head? = some '/' ∧ ['*'] ∉ segmentsOf pattern ∧
    agree (segmentsOf pattern) known = false

instance (known : List (List Char)) : DecidablePred (Excludes known) := fun _ =>
  inferInstanceAs (Decidable (_ ∧ _ ∧ _))

/-- Records that disagree with the known pieces are passed over. -/
theorem findSome?_of_excludes {known : List (List Char)} {last : List Char}
    {before rest : List RouteRecord} (excluded : ∀ earlier ∈ before, Excludes known earlier.pattern)
    (consists : Consists (known ++ [last]) path) :
    (before ++ rest).findSome? (·.resolve? path) = rest.findSome? (·.resolve? path) := by
  have missed : before.findSome? (·.resolve? path) = none := by
    rw [List.findSome?_eq_none_iff]
    intro earlier inside
    obtain ⟨slashed, single, disagree⟩ := excluded earlier inside
    refine RouteRecord.resolve?_of_not_fits (declares_segmentsOf slashed) single consists ?_
    intro fits
    rw [agree_of_fits fits] at disagree
    contradiction
  rw [List.findSome?_append, missed, Option.none_or]

/-- The text of known pieces, with a slash behind the last one. -/
structure Heads (known : List (List Char)) (text : String) : Prop where
  /-- The text is that of the pieces, with a slash at the end. -/
  written : text.toList = behindMarks '/' known ++ ['/']
  /-- The pieces have no slash. -/
  slashFree : ∀ piece ∈ known, '/' ∉ piece
  /-- As segments, the pieces are no parameters. -/
  unnamed : ∀ piece ∈ known, piece.head? ≠ some ':'
  /-- As segments, the pieces are no wildcards. -/
  single : ['*'] ∉ known
  /-- There is no query. -/
  queryless : '?' ∉ text.toList
  /-- There is no fragment. -/
  fragmentless : '#' ∉ text.toList

/-- A text that can be the value of a parameter of a path. -/
structure IsValue (value : String) : Prop where
  /-- It is not empty. -/
  inhabited : value ≠ ""
  /-- It has no slash. -/
  slashFree : '/' ∉ value.toList
  /-- It has no query. -/
  queryless : '?' ∉ value.toList
  /-- It has no fragment. -/
  fragmentless : '#' ∉ value.toList

section Values

variable {known : List (List Char)} {text value slash : String}

/-- A value behind known pieces is the last piece of the path, slash at the end or not. -/
theorem consists_of_value (heads : Heads known text) (isValue : IsValue value)
    (optional : slash ∈ ["", "/"]) :
    Consists (known ++ [value.toList]) (text ++ value ++ slash).toList := by
  refine ⟨⟨fun piece inside => ?_, ?_⟩, ?_⟩
  · rcases List.mem_append.mp inside with inside | inside
    · exact heads.slashFree piece inside
    · exact List.mem_singleton.mp inside ▸ isValue.slashFree
  · simpa using isValue.inhabited
  · have written : (text ++ value ++ slash).toList =
        behindMarks '/' (known ++ [value.toList]) ++ slash.toList := by
      simp [heads.written]
    rw [written]
    simp only [List.mem_cons, List.not_mem_nil, or_false] at optional
    rcases optional with rfl | rfl
    · exact .inl (by simp)
    · exact .inr rfl

/-- Nothing of such a path is lost as a query or a fragment. -/
theorem barePath_of_value (heads : Heads known text) (isValue : IsValue value)
    (optional : slash ∈ ["", "/"]) :
    barePath (text ++ value ++ slash) = (text ++ value ++ slash).toList := by
  have absent {mark : Char} (other : mark ≠ '/') (front : mark ∉ text.toList)
      (back : mark ∉ value.toList) : mark ∉ (text ++ value ++ slash).toList := by
    rw [String.toList_append, String.toList_append, List.mem_append, List.mem_append]
    rintro ((inside | inside) | inside)
    · exact front inside
    · exact back inside
    · simp only [List.mem_cons, List.not_mem_nil, or_false] at optional
      rcases optional with rfl | rfl
      · simp at inside
      · exact other (List.mem_singleton.mp inside)
  exact barePath_eq_toList (absent (by decide) heads.queryless isValue.queryless)
    (absent (by decide) heads.fragmentless isValue.fragmentless)

/-- Only the last segment behind known pieces can bind a parameter. -/
theorem bindings_of_known (unnamed : ∀ piece ∈ known, piece.head? ≠ some ':')
    (segment piece : List Char) :
    ((known ++ [segment]).zip (known ++ [piece])).filterMap binding? =
      (binding? (segment, piece)).toList := by
  have unbound : (known.zip known).filterMap binding? = [] := by
    refine List.filterMap_eq_nil_iff.mpr fun pair inside => ?_
    exact binding?_of_unnamed (unnamed pair.1 (List.of_mem_zip inside).1)
  rw [List.zip_append rfl, List.filterMap_append, unbound, List.nil_append]
  cases bound : binding? (segment, piece) <;> simp [bound]

/-- The pattern of a record continues known pieces with a segment that is no wildcard. -/
structure RouteRecord.Continues (record : RouteRecord) (known : List (List Char))
    (segment : List Char) : Prop where
  /-- The pattern declares the known pieces and the segment. -/
  declared : Declares record.pattern (known ++ [segment])
  /-- The segment is no wildcard. -/
  single : segment ≠ ['*']

variable {segment : List Char}

/-- There is no wildcard in such a pattern. -/
theorem RouteRecord.Continues.notMem (continues : record.Continues known segment)
    (heads : Heads known text) : ['*'] ∉ known ++ [segment] := by
  rw [List.mem_append, List.mem_singleton]
  rintro (inside | same)
  · exact heads.single inside
  · exact continues.single same.symm

/-- The path of a value that fits the segment has the route of the record. -/
theorem RouteRecord.Continues.resolve?_of_fits (continues : record.Continues known segment)
    (heads : Heads known text) (isValue : IsValue value) (optional : slash ∈ ["", "/"])
    (fit : Fits segment value.toList) :
    record.resolve? (text ++ value ++ slash).toList =
      some (record.shown (text ++ value ++ slash)
        (Captures.settled (binding? (segment, value.toList)).toList)) := by
  have own : List.Forall₂ Fits known known :=
    List.forall₂_same.mpr fun piece inside => fits_self (heads.slashFree piece inside)
  have fits : List.Forall₂ Fits (known ++ [segment]) (known ++ [value.toList]) :=
    List.rel_append own (.cons fit .nil)
  rw [RouteRecord.resolve?_of_fits continues.declared (continues.notMem heads)
    (consists_of_value heads isValue optional) fits, bindings_of_known heads.unnamed,
    String.ofList_toList]

/-- The path of a value that does not fit the segment is passed over. -/
theorem RouteRecord.Continues.resolve?_of_unfit (continues : record.Continues known segment)
    (heads : Heads known text) (isValue : IsValue value) (optional : slash ∈ ["", "/"])
    (unfit : ¬Fits segment value.toList) :
    record.resolve? (text ++ value ++ slash).toList = none := by
  refine RouteRecord.resolve?_of_not_fits continues.declared (continues.notMem heads)
    (consists_of_value heads isValue optional) fun fits => ?_
  have last : (segment, value.toList) ∈ (known ++ [segment]).zip (known ++ [value.toList]) := by
    rw [List.zip_append rfl]
    exact List.mem_append_right _ List.mem_cons_self
  exact unfit ((List.forall₂_iff_zip.mp fits).2 last)

/-- If the segment is a parameter, the path of every value has the route of the record. -/
theorem RouteRecord.Continues.resolve?_parameter {name : String}
    (continues : record.Continues known (':' :: name.toList)) (heads : Heads known text)
    (isValue : IsValue value) (optional : slash ∈ ["", "/"]) :
    record.resolve? (text ++ value ++ slash).toList =
      some (record.shown (text ++ value ++ slash) [(name, value)]) := by
  have fit : Fits (':' :: name.toList) value.toList :=
    .parameter (by simpa using isValue.inhabited) isValue.slashFree
  have bound : Captures.settled (binding? (':' :: name.toList, value.toList)).toList =
      [(name, value)] := by
    simp [binding?, Captures.settled, Captures.insert]
  rw [continues.resolve?_of_fits heads isValue optional fit, bound]

/-- A word of small letters stands for the texts that are the word up to the case of letters. -/
theorem fits_word_iff {word piece : List Char} (named : word.head? ≠ some ':')
    (single : word ≠ ['*']) (plain : ∀ letter ∈ word, letter.isLower = true ∧ letter ∉ ['k', 's']) :
    Fits word piece ↔ piece.map Char.toLower = word := by
  rw [← forall₂_foldCase_iff plain]
  constructor
  · intro fit
    cases fit with
    | parameter => exact absurd rfl named
    | wildcard => exact absurd rfl single
    | literal _ _ same => exact same
  · exact .literal named single

end Values

namespace Application

/-! ## The pages of the application with a parameter -/

/-- The page of an item of the catalogue. -/
def itemPage : RouteRecord where
  pattern := "/catalogue/:id"
  name := some "CatalogueSingle"
  details := {}
  redirect := none

/-- The page for errors. -/
def failurePage : RouteRecord where
  pattern := "/error/:error"
  name := some "Error"
  details := {}
  redirect := none

/-- The page for a new message. -/
def newMessagePage : RouteRecord where
  pattern := "/dashboard/messages/create"
  name := some "MessageNew"
  details := { requiresRole := some .user, layout := some "dashboard" }
  redirect := none

/-- The page of a thread of messages. -/
def threadPage : RouteRecord where
  pattern := "/dashboard/messages/:id"
  name := some "MessagesThread"
  details := { requiresRole := some .user, layout := some "dashboard" }
  redirect := none

variable {value slash : String}

/-- The routes that disagree with known pieces are passed over for every value behind them. -/
theorem resolve?_behind {known : List (List Char)} {text : String} {before rest : List RouteRecord}
    (heads : Heads known text) (listed : table.records = before ++ rest)
    (excluded : ∀ earlier ∈ before, Excludes known earlier.pattern) (isValue : IsValue value)
    (optional : slash ∈ ["", "/"]) :
    table.resolve? (text ++ value ++ slash) =
      rest.findSome? (·.resolve? (text ++ value ++ slash).toList) := by
  rw [RouteTable.resolve?, listed, barePath_of_value heads isValue optional]
  exact findSome?_of_excludes excluded (consists_of_value heads isValue optional)

/-- Behind known pieces with which the earlier routes disagree, every value is a parameter. -/
theorem resolve?_parameter_behind {known : List (List Char)} {text name : String}
    {before rest : List RouteRecord} {record : RouteRecord} (heads : Heads known text)
    (listed : table.records = before ++ record :: rest)
    (excluded : ∀ earlier ∈ before, Excludes known earlier.pattern)
    (continues : record.Continues known (':' :: name.toList)) (isValue : IsValue value)
    (optional : slash ∈ ["", "/"]) :
    table.resolve? (text ++ value ++ slash) =
      some (record.shown (text ++ value ++ slash) [(name, value)]) := by
  rw [resolve?_behind heads listed excluded isValue optional, List.findSome?_cons,
    continues.resolve?_parameter heads isValue optional]

/-- Every value behind the catalogue is that of an item. -/
theorem resolve?_item (isValue : IsValue value) (optional : slash ∈ ["", "/"]) :
    table.resolve? ("/catalogue/" ++ value ++ slash) =
      some (itemPage.shown ("/catalogue/" ++ value ++ slash) [("id", value)]) := by
  have heads : Heads ["catalogue".toList] "/catalogue/" := by
    constructor <;> decide
  have listed : table.records = table.records.take 2 ++ itemPage :: table.records.drop 3 := by
    decide
  have continues : itemPage.Continues ["catalogue".toList] (':' :: "id".toList) :=
    ⟨declares_segmentsOf (by decide), by decide⟩
  exact resolve?_parameter_behind heads listed (by decide +kernel) continues isValue optional

/-- Every value behind the page for errors is that of an error. -/
theorem resolve?_failure (isValue : IsValue value) (optional : slash ∈ ["", "/"]) :
    table.resolve? ("/error/" ++ value ++ slash) =
      some (failurePage.shown ("/error/" ++ value ++ slash) [("error", value)]) := by
  have heads : Heads ["error".toList] "/error/" := by
    constructor <;> decide
  have listed : table.records = table.records.take 18 ++ failurePage :: table.records.drop 19 := by
    decide
  have continues : failurePage.Continues ["error".toList] (':' :: "error".toList) :=
    ⟨declares_segmentsOf (by decide), by decide⟩
  exact resolve?_parameter_behind heads listed (by decide +kernel) continues isValue optional

/-- Every value behind the messages is that of a thread, except for the word for a new message. -/
theorem resolve?_message (isValue : IsValue value) (optional : slash ∈ ["", "/"]) :
    table.resolve? ("/dashboard/messages/" ++ value ++ slash) =
      if sameIgnoringCase value "create" then
        some (newMessagePage.shown ("/dashboard/messages/" ++ value ++ slash) [])
      else some (threadPage.shown ("/dashboard/messages/" ++ value ++ slash) [("id", value)]) := by
  have heads : Heads ["dashboard".toList, "messages".toList] "/dashboard/messages/" := by
    constructor <;> decide
  have listed : table.records =
      table.records.take 13 ++ newMessagePage :: threadPage :: table.records.drop 15 := by
    decide
  have word : newMessagePage.Continues ["dashboard".toList, "messages".toList] "create".toList :=
    ⟨declares_segmentsOf (by decide), by decide⟩
  have continues :
      threadPage.Continues ["dashboard".toList, "messages".toList] (':' :: "id".toList) :=
    ⟨declares_segmentsOf (by decide), by decide⟩
  have same : Fits "create".toList value.toList ↔ sameIgnoringCase value "create" = true := by
    have small : lower "create" = "create".toList := by decide
    have plain : ∀ letter ∈ "create".toList, letter.isLower = true ∧ letter ∉ ['k', 's'] :=
      List.all_iff_forall_prop.mp (by decide)
    rw [sameIgnoringCase_iff, small]
    exact fits_word_iff (by decide) (by decide) plain
  rw [resolve?_behind heads listed (by decide +kernel) isValue optional, List.findSome?_cons]
  split_ifs with created
  · rw [word.resolve?_of_fits heads isValue optional (same.mpr created)]
    rfl
  · rw [word.resolve?_of_unfit heads isValue optional (mt same.mp created), List.findSome?_cons,
      continues.resolve?_parameter heads isValue optional]

/-- **Pages with a parameter.** Whatever a value is, as long as it is not empty and has no slash,
query or fragment, the page of the item, of the error or of the thread with this value is found
behind the catalogue, behind the errors and behind the messages, with the value as its parameter.
Behind the messages the word for a new message has a page of its own, in letters of either case. A
slash at the end shows in the path of the route alone. -/
theorem resolve?_every_value (isValue : IsValue value) (optional : slash ∈ ["", "/"]) :
    (let path := "/catalogue/" ++ value ++ slash;
      table.resolve? path = some (itemPage.shown path [("id", value)])) ∧
    (let path := "/error/" ++ value ++ slash;
      table.resolve? path = some (failurePage.shown path [("error", value)])) ∧
    (let path := "/dashboard/messages/" ++ value ++ slash;
      table.resolve? path =
        if sameIgnoringCase value "create" then some (newMessagePage.shown path [])
        else some (threadPage.shown path [("id", value)])) :=
  ⟨resolve?_item isValue optional, resolve?_failure isValue optional,
    resolve?_message isValue optional⟩

/-- A line feed, a percent sign and a letter beyond ASCII are as good as any other value, and the
page for a new message is found in capitals. -/
theorem resolve?_every_value_lineFeed :
    IsValue "é\n%2F.." ∧ IsValue "CREATE" ∧ "/" ∈ ["", "/"] ∧
      table.resolve? "/catalogue/é\n%2F../" =
        some (itemPage.shown "/catalogue/é\n%2F../" [("id", "é\n%2F..")]) ∧
      table.resolve? "/dashboard/messages/CREATE/" =
        some (newMessagePage.shown "/dashboard/messages/CREATE/" []) := by
  have strange : IsValue "é\n%2F.." := by constructor <;> decide
  have capitals : IsValue "CREATE" := by constructor <;> decide
  have optional : "/" ∈ ["", "/"] := by decide
  obtain ⟨item, -, -⟩ := resolve?_every_value strange optional
  obtain ⟨-, -, message⟩ := resolve?_every_value capitals optional
  exact ⟨strange, capitals, optional, item, message⟩

end Application
end GeoMarket.Navigation
