import GeoMarket.Model.Page
import Mathlib.Order.Bounds.Basic

/-!
# Pages cover the items

The number of pages is the least one that has room for all items, and another page follows exactly
if there are items behind the end of this one. The numbers are whole and exact; a computation in
words of sixty-four bits comes to the same results, since none of its sums overflows.

From this follows how far a reader gets who starts on the first page and goes on while another page
follows. The index of a page is a word of thirty-two bits. If the indices suffice for all pages, the
reader sees each page once, in order, and stops; if there are more pages than indices, another page
follows every one that can be asked for, and the reader never comes to the end.
-/
namespace GeoMarket.ResultPage

variable {α : Type}

/-- A number of pages with room on them reaches the number of pages if it has room for all items. -/
theorem pageCount_le_iff (page : ResultPage α) (room : 0 < page.pageRequest.size.toNat)
    (pages : Nat) :
    page.pageCount ≤ pages ↔ page.count.toNat ≤ pages * page.pageRequest.size.toNat := by
  have parts := Nat.div_add_mod page.count.toNat page.pageRequest.size.toNat
  unfold pageCount
  rw [if_neg (Nat.ne_of_gt room)]
  by_cases full : page.count.toNat % page.pageRequest.size.toNat = 0
  · rw [if_pos full, Nat.add_zero]
    rw [full, Nat.add_zero] at parts
    conv_rhs => rw [← parts, Nat.mul_comm]
    exact (Nat.mul_le_mul_right_iff room).symm
  · rw [if_neg full, Nat.add_one_le_iff, Nat.div_lt_iff_lt_mul room]
    refine ⟨Nat.le_of_lt, fun held => Nat.lt_of_le_of_ne held fun exact => full ?_⟩
    rw [exact, Nat.mul_mod_left]

/-- Without room on a page there are no pages. -/
theorem pageCount_eq_zero (page : ResultPage α) (full : page.pageRequest.size.toNat = 0) :
    page.pageCount = 0 := by
  rw [pageCount, if_pos full]

/-- Another page follows if the number of pages goes beyond the index of the next one. -/
theorem hasNext_iff_lt_pageCount (page : ResultPage α) :
    page.hasNext = true ↔ page.pageRequest.page.toNat + 1 < page.pageCount := by
  rw [hasNext, decide_eq_true_iff]

/-- If there is room on a page, another one follows if there are items behind the end of this
one. -/
theorem hasNext_iff (page : ResultPage α) (room : 0 < page.pageRequest.size.toNat) :
    page.hasNext = true ↔
      (page.pageRequest.page.toNat + 1) * page.pageRequest.size.toNat < page.count.toNat := by
  rw [hasNext_iff_lt_pageCount, ← Nat.not_le, pageCount_le_iff page room, Nat.not_le]

/-- The number of pages is the least one with room for all items. -/
theorem isLeast_pageCount (page : ResultPage α) (room : 0 < page.pageRequest.size.toNat) :
    IsLeast {pages | page.count.toNat ≤ pages * page.pageRequest.size.toNat} page.pageCount :=
  ⟨(pageCount_le_iff page room _).mp (Nat.le_refl _),
    fun pages held => (pageCount_le_iff page room pages).mpr held⟩

/-- Every item stands on exactly one page. -/
theorem existsUnique_page (page : ResultPage α) (room : 0 < page.pageRequest.size.toNat)
    {item : Nat}
    (inside : item < page.count.toNat) :
    ∃! index, index < page.pageCount ∧ index * page.pageRequest.size.toNat ≤ item ∧
      item < (index + 1) * page.pageRequest.size.toNat := by
  have starts := Nat.div_mul_le_self item page.pageRequest.size.toNat
  refine ⟨item / page.pageRequest.size.toNat, ⟨?_, starts, ?_⟩, ?_⟩
  · rw [← Nat.not_le, pageCount_le_iff page room, Nat.not_le]
    exact Nat.lt_of_le_of_lt starts inside
  · exact (Nat.div_lt_iff_lt_mul room).mp (Nat.lt_succ_self _)
  · rintro index ⟨-, from_, before⟩
    exact (Nat.div_eq_of_lt_le from_ before).symm

/-! ### In words -/

/-- The sum of two words, unless it overflows. -/
def wordSum? (left right : UInt64) : Option UInt64 :=
  if left.toNat + right.toNat < UInt64.size then some (left + right) else none

/-- A sum that is small enough does not overflow. -/
theorem wordSum?_eq_some {left right : UInt64} (small : left.toNat + right.toNat < UInt64.size) :
    ∃ sum, wordSum? left right = some sum ∧ sum.toNat = left.toNat + right.toNat := by
  refine ⟨left + right, if_pos small, ?_⟩
  rw [UInt64.toNat_add, Nat.mod_eq_of_lt small]

/-- The number of pages in words, unless a sum overflows. -/
def wordPageCount? (page : ResultPage α) : Option UInt64 :=
  let size := page.pageRequest.size.toUInt64
  if size = 0 then some 0
  else if page.count % size = 0 then some (page.count / size) else wordSum? (page.count / size) 1

/-- Whether another page follows, computed in words, unless a sum overflows. -/
def wordHasNext? (page : ResultPage α) : Option Bool :=
  (wordSum? page.pageRequest.page.toUInt64 1).bind fun following =>
    page.wordPageCount?.map fun pages => decide (following < pages)

/-- The number of pages is the same in words, and no sum overflows. -/
theorem wordPageCount?_eq_some (page : ResultPage α) :
    ∃ pages, page.wordPageCount? = some pages ∧ pages.toNat = page.pageCount := by
  have zero_iff (word : UInt64) : word = 0 ↔ word.toNat = 0 := UInt64.toNat_inj.symm
  unfold wordPageCount? pageCount
  simp only [zero_iff, UInt64.toNat_mod, UInt32.toNat_toUInt64]
  by_cases none : page.pageRequest.size.toNat = 0
  · rw [if_pos none, if_pos none]
    exact ⟨0, rfl, rfl⟩
  rw [if_neg none, if_neg none]
  have quotient : (page.count / page.pageRequest.size.toUInt64).toNat =
      page.count.toNat / page.pageRequest.size.toNat := by
    rw [UInt64.toNat_div, UInt32.toNat_toUInt64]
  by_cases full : page.count.toNat % page.pageRequest.size.toNat = 0
  · rw [if_pos full, if_pos full]
    exact ⟨_, rfl, quotient⟩
  · rw [if_neg full, if_neg full, ← quotient]
    -- The quotient is smaller than the count, which leaves a rest, so one more is no overflow.
    have bounded := page.count.toNat_lt_size
    have parts := Nat.div_add_mod page.count.toNat page.pageRequest.size.toNat
    have smaller : page.count.toNat / page.pageRequest.size.toNat ≤
        page.pageRequest.size.toNat * (page.count.toNat / page.pageRequest.size.toNat) :=
      Nat.le_mul_of_pos_left _ (Nat.pos_of_ne_zero none)
    refine wordSum?_eq_some ?_
    change _ + 1 < UInt64.size
    omega

/-- Whether another page follows is the same in words, and no sum overflows. -/
theorem wordHasNext?_eq_some (page : ResultPage α) : page.wordHasNext? = some page.hasNext := by
  have bounded := page.pageRequest.page.toNat_lt_size
  have wider : UInt32.size < UInt64.size := by decide
  have index : page.pageRequest.page.toUInt64.toNat = page.pageRequest.page.toNat :=
    UInt32.toNat_toUInt64 _
  have small : page.pageRequest.page.toUInt64.toNat + (1 : UInt64).toNat < UInt64.size := by
    rw [index]
    change _ + 1 < UInt64.size
    omega
  obtain ⟨following, added, sum⟩ := wordSum?_eq_some small
  obtain ⟨pages, counted, same⟩ := page.wordPageCount?_eq_some
  have one : (1 : UInt64).toNat = 1 := rfl
  rw [wordHasNext?, added, counted, hasNext]
  simp only [Option.bind_some, Option.map_some, UInt64.lt_iff_toNat_lt, sum, same, index, one]

/-! ### From page to page -/

/-- The pages of one result: the count and the room on a page are the same on all of them. -/
def pages (count : UInt64) (size : UInt32) (items : UInt32 → List α) (index : UInt32) :
    ResultPage α :=
  ⟨⟨index, size⟩, count, items index⟩

/-- A reader on a page goes on to the next one while another page follows, and stops on the page
that none follows; the list holds the indices of the pages that the reader sees. -/
inductive Reads (pageAt : UInt32 → ResultPage α) : UInt32 → List UInt32 → Prop
  /-- No page follows. -/
  | last {index : UInt32} (ends : (pageAt index).hasNext = false) : Reads pageAt index [index]
  /-- Another page follows, and its index is greater by one. -/
  | next {index following : UInt32} {rest : List UInt32} (more : (pageAt index).hasNext = true)
      (advances : following.toNat = index.toNat + 1) (onward : Reads pageAt following rest) :
      Reads pageAt index (index :: rest)

section Reads

variable {count : UInt64} {size : UInt32} {items : UInt32 → List α} {index : UInt32}

/-- Another page follows if the number of pages, which is the same on all of them, goes beyond the
index of the next one. -/
theorem hasNext_pages_iff :
    (pages count size items index).hasNext = true ↔
      index.toNat + 1 < (pages count size items 0).pageCount :=
  hasNext_iff_lt_pageCount _

/-- A reader who comes to the end has seen all pages from the first one on, and there are no more of
them than indices. -/
theorem Reads.map_toNat {visited : List UInt32} {total : Nat}
    (reads : Reads (pages count size items) index visited)
    (counted : (pages count size items 0).pageCount = total) :
    total ≤ UInt32.size ∧
      visited.map UInt32.toNat = List.range' index.toNat (max 1 (total - index.toNat)) := by
  induction reads with
  | @last index ends =>
    have behind : ¬ index.toNat + 1 < total := by
      rw [← counted, ← hasNext_pages_iff, ends]
      exact Bool.false_ne_true
    have bounded := index.toNat_lt_size
    have one : max 1 (total - index.toNat) = 1 := by omega
    refine ⟨by omega, ?_⟩
    rw [one]
    rfl
  | @next index following rest more advances onward ih =>
    have follows : index.toNat + 1 < total := counted ▸ hasNext_pages_iff.mp more
    obtain ⟨enough, listed⟩ := ih
    have split : max 1 (total - index.toNat) = max 1 (total - following.toNat) + 1 := by omega
    refine ⟨enough, ?_⟩
    rw [List.map_cons, listed, split, List.range'_succ, advances]

/-- If there are no more pages than indices, a reader on any page comes to the end. -/
theorem exists_reads (enough : (pages count size items 0).pageCount ≤ UInt32.size)
    (index : UInt32) :
    ∃ visited, Reads (pages count size items) index visited := by
  -- By induction on the number of pages from this one on.
  induction left : (pages count size items 0).pageCount - index.toNat generalizing index with
  | zero =>
    refine ⟨[index], .last (Bool.eq_false_iff.mpr fun more => ?_)⟩
    have follows := hasNext_pages_iff.mp more
    omega
  | succ left ih =>
    cases more : (pages count size items index).hasNext with
    | false => exact ⟨[index], .last more⟩
    | true =>
      have follows := hasNext_pages_iff.mp more
      have small : index.toNat + 1 < UInt32.size := Nat.lt_of_lt_of_le follows enough
      have advances : (UInt32.ofNat (index.toNat + 1)).toNat = index.toNat + 1 :=
        UInt32.toNat_ofNat_of_lt' small
      obtain ⟨rest, onward⟩ := ih (UInt32.ofNat (index.toNat + 1)) (by omega)
      exact ⟨index :: rest, .next more advances onward⟩

/-- If there are more pages than indices, another page follows every one. -/
theorem hasNext_of_lt (more : UInt32.size < (pages count size items 0).pageCount) (index : UInt32) :
    (pages count size items index).hasNext = true := by
  have bounded := index.toNat_lt_size
  rw [hasNext_pages_iff]
  omega

end Reads

/-- **Pages cover the items.** The number of pages is the least one with room for all items, every
item stands on exactly one page, and another page follows exactly if there are items behind the end
of this one; without room there are no pages. Words of sixty-four bits suffice for all of this. If
there are no more pages than indices, a reader who starts on the first page and goes on while
another one follows comes to the end and sees every page once, in order, and the first one in any
case; if there are more pages than indices, another page follows every index, and the reader does
not come to the end. -/
theorem paging (count : UInt64) (size : UInt32) (items : UInt32 → List α) :
    let pageAt := pages count size items
    let total := (pageAt 0).pageCount
    (∀ index, (pageAt index).pageCount = total ∧
      (pageAt index).wordPageCount?.map UInt64.toNat = some total ∧
      (pageAt index).wordHasNext? = some (pageAt index).hasNext) ∧
    (size = 0 → total = 0 ∧ ∀ index, (pageAt index).hasNext = false) ∧
    (0 < size →
      IsLeast {pages | count.toNat ≤ pages * size.toNat} total ∧
      (∀ item < count.toNat, ∃! index,
        index < total ∧ index * size.toNat ≤ item ∧ item < (index + 1) * size.toNat) ∧
      ∀ index, (pageAt index).hasNext = true ↔ (index.toNat + 1) * size.toNat < count.toNat) ∧
    (total ≤ UInt32.size → ∃ visited,
      visited.map UInt32.toNat = List.range (max 1 total) ∧
        ∀ others, Reads pageAt 0 others ↔ others = visited) ∧
    (UInt32.size < total →
      (∀ index, (pageAt index).hasNext = true) ∧ ∀ visited, ¬ Reads pageAt 0 visited) := by
  intro pageAt total
  refine ⟨fun index => ⟨rfl, ?_, wordHasNext?_eq_some _⟩, fun none => ?_, fun room => ?_,
    fun enough => ?_, fun more => ⟨hasNext_of_lt more, fun visited reads => ?_⟩⟩
  · obtain ⟨pages, counted, same⟩ := (pageAt index).wordPageCount?_eq_some
    rw [counted, Option.map_some, same]
    rfl
  · have nothing : total = 0 := pageCount_eq_zero (pageAt 0) (congrArg UInt32.toNat none)
    refine ⟨nothing, fun index => Bool.eq_false_iff.mpr fun more => ?_⟩
    have follows : index.toNat + 1 < total := hasNext_pages_iff.mp more
    omega
  · have room : 0 < size.toNat := room
    exact ⟨isLeast_pageCount (pageAt 0) room, fun _ => existsUnique_page (pageAt 0) room,
      fun index => hasNext_iff (pageAt index) room⟩
  · obtain ⟨visited, reads⟩ := exists_reads enough 0
    have listed {others : List UInt32} (reads : Reads pageAt 0 others) :
        others.map UInt32.toNat = List.range (max 1 total) :=
      (reads.map_toNat rfl).2.trans List.range_eq_range'.symm
    refine ⟨visited, listed reads, fun others => ⟨fun also => ?_, fun same => same ▸ reads⟩⟩
    have injective (left right : UInt32) (same : left.toNat = right.toNat) : left = right :=
      UInt32.toNat_inj.mp same
    exact (List.map_inj_right injective).mp ((listed also).trans (listed reads).symm)
  · have enough : total ≤ UInt32.size := (reads.map_toNat rfl).1
    omega

/-- Twenty-five items at ten a page: the last page has the index two, and a reader sees three pages.
No reader comes to the end of the largest count at one item a page, and where there is no room, no
page follows. -/
theorem paging_strings :
    let ten := pages 25 10 fun _ => ["item"]
    let one := pages 18446744073709551615 1 fun _ => ["item"]
    let none := pages 5 0 fun _ => ([] : List String)
    (∃! index, index < 3 ∧ index * 10 ≤ 20 ∧ 20 < (index + 1) * 10) ∧
      (∃ visited, visited.map UInt32.toNat = [0, 1, 2] ∧
        ∀ others, Reads ten 0 others ↔ others = visited) ∧
      (one 4294967295).hasNext = true ∧ (∀ visited, ¬ Reads one 0 visited) ∧
      (none 3).hasNext = false := by
  intro ten one none
  obtain ⟨-, -, covered, reads, -⟩ := paging 25 10 fun _ => ["item"]
  obtain ⟨-, -, -, -, endless⟩ := paging 18446744073709551615 1 fun _ => ["item"]
  obtain ⟨-, empty, -, -, -⟩ := paging 5 0 fun _ => ([] : List String)
  have further := endless (by decide)
  exact ⟨(covered (by decide)).2.1 20 (by decide), reads (by decide), further.1 4294967295, further.2,
    (empty rfl).2 3⟩

/-- There may be one page more than there are indices. Then there is no way to see all pages and to
stop: the last of them has no index. -/
theorem no_reads_beyond_indices :
    let pageAt := pages 4294967297 1 fun _ => ([] : List String)
    (pageAt 0).pageCount = 4294967297 ∧
      ¬ ∃ visited, Reads pageAt 0 visited ∧
        visited.map UInt32.toNat = List.range (max 1 (pageAt 0).pageCount) := by
  intro pageAt
  have counted : (pageAt 0).pageCount = 4294967297 := by decide
  refine ⟨counted, ?_⟩
  rintro ⟨visited, -, listed⟩
  rw [counted] at listed
  have last : 4294967296 ∈ visited.map UInt32.toNat := by
    rw [listed, List.mem_range]
    decide
  obtain ⟨index, -, beyond⟩ := List.mem_map.mp last
  have bounded := index.toNat_lt
  omega

end GeoMarket.ResultPage
