import GeoMarket.Record.Fields

/-!
# Pages of results

A query asks for one page; the answer repeats the question and tells how many items there are in
all pages together.
-/
namespace GeoMarket

/-- Which page is asked for. -/
structure PageRequest where
  /-- The index of the page, from 0. -/
  page : UInt32
  /-- How many items a page holds. -/
  size : UInt32
  deriving DecidableEq

namespace PageRequest

/-- The first page of ten items. -/
def first : PageRequest := ⟨0, 10⟩

/-- The members of a page request. -/
def record : Record PageRequest :=
  (Record.field (.required "page" .word32) <|
    Record.field (.required "size" .word32) <|
    Record.empty).isomorphic
    (fun (page, size, ()) => ⟨page, size⟩)
    (fun request => (request.page, request.size, ()))

end PageRequest

/-- One page of the items that a query found. -/
structure ResultPage (α : Type) where
  /-- The page that was asked for. -/
  pageRequest : PageRequest
  /-- The number of items on all pages. -/
  count : UInt64
  /-- The items of this page. -/
  items : List α
  deriving BEq

namespace ResultPage

variable {α : Type}

/-- The number of pages needed for all items; a page without room needs none. -/
def pageCount (page : ResultPage α) : Nat :=
  let size := page.pageRequest.size.toNat
  if size = 0 then 0
  else page.count.toNat / size + if page.count.toNat % size = 0 then 0 else 1

/-- Another page follows this one. -/
def hasNext (page : ResultPage α) : Bool :=
  decide (page.pageRequest.page.toNat + 1 < page.pageCount)

/-- The members of a page of items. -/
def record (items : Codec α) : Record (ResultPage α) :=
  (Record.field (.required "pageRequest" PageRequest.record.codec) <|
    Record.field (.required "count" .word64) <|
    Record.field (.required "items" items.listOf) <|
    Record.empty).isomorphic
    (fun (pageRequest, count, items, ()) => ⟨pageRequest, count, items⟩)
    (fun page => (page.pageRequest, page.count, page.items, ()))

end ResultPage
end GeoMarket
