/-
Pages of a list.

A request for a page, the position of its first element, and the totals that go
with an answer.  All numbers are unsigned words of 64 bits, and the position
stops at the largest word instead of wrapping around.
-/

namespace Roster.Page

/-- The page size taken when none is asked for. -/
def defaultSize : UInt64 := 20

/-- The largest page size that may be asked for. -/
def maxSize : UInt64 := 100

/-- A page that may be asked for: pages count from one, and hold one to `maxSize` elements. -/
structure Request where
  page : UInt64
  perPage : UInt64
  page_pos : 1 ≤ page
  perPage_pos : 1 ≤ perPage
  perPage_le : perPage ≤ maxSize
deriving DecidableEq

instance : Inhabited Request := ⟨⟨1, defaultSize, by decide, by decide, by decide⟩⟩

/-- What can be wrong with the numbers of a request. -/
inductive Defect where
  | page
  | perPage
deriving DecidableEq, Repr

/-- The wording of a defect. -/
def Defect.message : Defect → String
  | .page => "page: must be greater than or equal to 1"
  | .perPage => s!"per_page: must be between 1 and {maxSize.toNat}"

namespace Request

/-- A request for the given page, or the first of its numbers that is out of range. -/
def of (page perPage : UInt64) : Except Defect Request :=
  if hp : 1 ≤ page then
    if hs : 1 ≤ perPage ∧ perPage ≤ maxSize then .ok ⟨page, perPage, hp, hs.1, hs.2⟩
    else .error .perPage
  else .error .page

/-- A request whose numbers may be left out. -/
def ofOptional (page perPage : Option UInt64) : Except Defect Request :=
  of (page.getD 1) (perPage.getD defaultSize)

end Request

/-- The product of two words, or the largest word if the product is larger. -/
def saturatingMul (a b : UInt64) : UInt64 :=
  UInt64.ofNat (min (a.toNat * b.toNat) (UInt64.size - 1))

/-- The number of elements before the first one of the page. -/
def Request.offset (r : Request) : UInt64 := saturatingMul (r.page - 1) r.perPage

/-- The number of pages that hold `total` elements; a page size of zero counts as one. -/
def totalPages (total perPage : UInt64) : UInt64 :=
  let size := max perPage 1
  if total % size = 0 then total / size else total / size + 1

/-- The totals that go with a page. -/
structure Summary where
  page : UInt64
  perPage : UInt64
  total : UInt64
  totalPages : UInt64
deriving DecidableEq, Repr

/-- The totals of a list of `total` elements seen through a request. -/
def Request.summary (r : Request) (total : UInt64) : Summary :=
  ⟨r.page, r.perPage, total, Page.totalPages total r.perPage⟩

/-- The header fields that carry the totals. -/
def Summary.headers (s : Summary) : List (String × String) :=
  [("page", toString s.page.toNat), ("per-page", toString s.perPage.toNat),
   ("total", toString s.total.toNat), ("total-pages", toString s.totalPages.toNat)]

end Roster.Page
