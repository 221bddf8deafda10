import DataAccess.Error

/-!
# `DataAccess.Paging`: one page of many rows

The window of a paged query. Pages are numbered from 1 and hold the
same number of rows each. The total of the rows is 0 as long as it is
not known.

A page can be moved to only if the number of its first row is at most
`2 ^ 63 - 1`, the greatest offset a statement can have.

* `Paging.start`, `Paging.withPage`, `Paging.setPage`: the moves.
* `Paging.startIndex`, `Paging.pageCount`: the arithmetic, in 64 bits.
* `Page`: the rows of one page, with the numbers of its window.
-/

set_option autoImplicit false

namespace DataAccess

/-- The window of a paged query. -/
structure Paging where
  /-- Rows on a page. -/
  pageSize : UInt64
  /-- The page, from 1. -/
  page : UInt64
  /-- Rows on all pages, or 0 when they were not counted. -/
  totalRows : UInt64
  /-- Whether statements keep to the window. -/
  enabled : Bool
  deriving DecidableEq, Repr

namespace Paging

/-- The greatest number a first row can have. -/
def greatestOffset : Nat := 0x7fffffffffffffff

/-- The window moved to `page`. -/
def setPage (p : Paging) (page : UInt64) : Result Paging :=
  if page = 0 then .error (.invalidInput .pageZero)
  else if (page.toNat - 1) * p.pageSize.toNat ≤ greatestOffset then
    .ok { p with page := page }
  else .error (.invalidInput (.pageOutOfRange page p.pageSize))

/-- A window at `page`, with `pageSize` rows on a page. -/
def withPage (pageSize page : UInt64) : Result Paging :=
  if pageSize = 0 then .error (.invalidInput .emptyPage)
  else setPage ⟨pageSize, 1, 0, true⟩ page

/-- A window at the first page. -/
def start (pageSize : UInt64) : Result Paging :=
  withPage pageSize 1

/-- The window with a counted total. -/
def setTotal (p : Paging) (rows : UInt64) : Paging :=
  { p with totalRows := rows }

/-- The window with its total forgotten. -/
def resetTotal (p : Paging) : Paging :=
  { p with totalRows := 0 }

/-- The window switched on or off. -/
def setEnabled (p : Paging) (enabled : Bool) : Paging :=
  { p with enabled := enabled }

/-- The total is known. -/
def isTotalKnown (p : Paging) : Bool :=
  0 < p.totalRows

/-- The number of the first row of the page, or the greatest number of
64 bits if it is greater. -/
def startIndex (p : Paging) : UInt64 :=
  UInt64.ofNat (min ((p.page.toNat - 1) * p.pageSize.toNat) (UInt64.size - 1))

/-- How many pages the rows fill, the last one perhaps in part. -/
def pageCount (p : Paging) : UInt64 :=
  UInt64.ofNat ((p.totalRows.toNat + p.pageSize.toNat - 1) / p.pageSize.toNat)

/-- There is a page after this one. -/
def hasNext (p : Paging) : Bool :=
  p.page < p.pageCount

/-- There is a page before this one. -/
def hasPrevious (p : Paging) : Bool :=
  1 < p.page

/-- The window as a document. -/
def toJson (p : Paging) : Json :=
  .ofMembers [
    ("page_size", .integer (.ofUInt64 p.pageSize)),
    ("page", .integer (.ofUInt64 p.page)),
    ("total_rows", .integer (.ofUInt64 p.totalRows)),
    ("enabled", .bool p.enabled)]

end Paging

/-- The rows of one page. -/
structure Page (α : Type) where
  /-- The rows. -/
  items : List α
  /-- The number of the page. -/
  page : UInt64
  /-- Rows on a page. -/
  pageSize : UInt64
  /-- Rows on all pages, or 0 when they were not counted. -/
  totalRows : UInt64
  /-- How many pages there are. -/
  pageCount : UInt64
  deriving Repr

namespace Page

/-- The rows `items` in the window `p`. -/
def of {α : Type} (items : List α) (p : Paging) : Page α :=
  ⟨items, p.page, p.pageSize, p.totalRows, p.pageCount⟩

/-- The page has no rows. -/
def isEmpty {α : Type} (p : Page α) : Bool :=
  p.items.isEmpty

/-- There is a page after this one. -/
def hasNext {α : Type} (p : Page α) : Bool :=
  p.page < p.pageCount

/-- The page with every row replaced by its image. -/
def map {α β : Type} (f : α → β) (p : Page α) : Page β :=
  ⟨p.items.map f, p.page, p.pageSize, p.totalRows, p.pageCount⟩

/-- The page as a document. -/
def toJson (p : Page Json) : Json :=
  .ofMembers [
    ("items", .array p.items),
    ("page", .integer (.ofUInt64 p.page)),
    ("page_size", .integer (.ofUInt64 p.pageSize)),
    ("total_rows", .integer (.ofUInt64 p.totalRows)),
    ("page_count", .integer (.ofUInt64 p.pageCount))]

end Page

end DataAccess
