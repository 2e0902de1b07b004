import QueryKit.Fault.Basic
import QueryKit.Json.Basic

/-!
# Page windows

Which rows a page of a listing shows, computed in 64-bit machine integers: every sum and product
wraps around as the machine's would, so huge page numbers and totals give the same (odd) numbers
a machine computation gives.

* `wrap` reduces an integer into the signed 64-bit range; sums and products are wrapped once,
  after the exact operation, which is the same as wrapping at every step;
* `Window.calculate` checks its inputs and gives the window of a page of a total;
* `Window.merge` combines two windows field by field;
* `Window.toJson` writes a window; a current page beyond the last one names the last page as the
  previous one;
* `offsetOf` is the number of rows before a page.
-/

namespace QueryKit.Paging

/-- **Machine integers.** `n` reduced into `[-2^63, 2^63)`. -/
def wrap (n : Int) : Int := (n + Int.pow 2 63) % Int.pow 2 64 - Int.pow 2 63

/-- Truncating division, as machine division rounds toward zero. -/
def quot (a b : Int) : Int := Int.tdiv a b

/-- **Page windows.** -/
structure Window where
  total : Int := 0
  perPage : Int := 0
  /-- The number (from one) of the first row shown. -/
  first : Int := 0
  /-- The number of the last row shown. -/
  last : Int := 0
  /-- The rows before the page. -/
  offset : Int := 0
  pages : Int := 0
  currentPage : Int := 0
  previousPage : Option Int := none
  nextPage : Option Int := none
  deriving Repr, Inhabited, BEq

/-- The page size and page number checks shared by every paged call. -/
def checkPage (page perPage : Int) : Except Fault Unit :=
  if perPage < 1 then
    .error (Fault.invalid "paginate" ("per page must be at least 1, got " ++ toString perPage))
  else if page < 1 then
    .error (Fault.invalid "paginate" ("page must be at least 1, got " ++ toString page))
  else .ok ()

/-- **Rows before a page.** -/
def offsetOf (page perPage : Int) : Except Fault Int := do
  checkPage page perPage
  return wrap ((page - 1) * perPage)

namespace Window

/-- The window of an empty listing: one empty page. -/
def empty (perPage : Int) : Window := { perPage, pages := 1, currentPage := 1 }

/-- **The window of a page.** -/
def calculate (total perPage page : Int) : Except Fault Window := do
  checkPage page perPage
  if total < 0 then
    throw (Fault.invalid "paginate" ("total cannot be negative, got " ++ toString total))
  if total == 0 then return empty perPage
  let pages := quot (wrap (total + perPage - 1)) perPage
  let offset := wrap ((page - 1) * perPage)
  let first := wrap (offset + 1)
  let last := min (wrap (offset + perPage)) total
  return {
    total, perPage, offset, pages, currentPage := page
    first := if first > last then last else first
    last
    previousPage := if page > 1 then some (page - 1) else none
    nextPage := if page < pages then some (page + 1) else none }

/-- Whether pages follow the current one. -/
def hasMorePages (w : Window) : Bool := w.currentPage < w.pages

/-- The smaller of two numbers, a zero standing for a missing one. -/
def lowerKnown (a b : Int) : Int :=
  if a == 0 then b else if b == 0 then a else min a b

/-- The smaller of two page numbers that may be missing. -/
def lowerPage : Option Int → Option Int → Option Int
  | none, b => b
  | a, none => a
  | some a, some b => some (min a b)

/-- The larger of two page numbers that may be missing. -/
def upperPage : Option Int → Option Int → Option Int
  | none, b => b
  | a, none => a
  | some a, some b => some (max a b)

/-- **Merging windows.** Totals and page sizes add up; the rest is the widest of the two. -/
def merge (a b : Window) : Window :=
  let first := lowerKnown a.first b.first
  let last := max a.last b.last
  { total := wrap (a.total + b.total)
    perPage := wrap (a.perPage + b.perPage)
    first := if first > last then last else first
    last
    pages := max a.pages b.pages
    currentPage := max a.currentPage b.currentPage
    previousPage := lowerPage a.previousPage b.previousPage
    nextPage := upperPage a.nextPage b.nextPage }

/-- A page number or nothing as JSON. -/
def pageJson : Option Int → Json
  | some n => Json.int n
  | none => .null

/-- **A window as JSON.** A current page past the page after the last names the last page as the
previous one. -/
def toJson (w : Window) : Json :=
  let previous := if w.currentPage > wrap (w.pages + 1) then some w.pages else w.previousPage
  .obj [("total", Json.int w.total), ("perPage", Json.int w.perPage), ("from", Json.int w.first),
    ("to", Json.int w.last), ("pages", Json.int w.pages), ("currentPage", Json.int w.currentPage),
    ("previousPage", pageJson previous), ("nextPage", pageJson w.nextPage)]

end Window

/-- **A page that knows the total**: its items and its window. -/
structure Counted (α : Type) where
  items : List α
  window : Window

/-- A counted page of items. -/
def Counted.make {α : Type} (items : List α) (total perPage page : Int) : Except Fault (Counted α) := do
  let w ← Window.calculate total perPage page
  return ⟨items, w⟩

/-- A counted page as JSON. -/
def Counted.toJson {α : Type} (item : α → Json) (p : Counted α) : Json :=
  .obj [("data", .arr (p.items.map item)), ("pagination", p.window.toJson)]

/-- **A page that does not know the total**: a full page is taken to have a successor. -/
structure Sampled (α : Type) where
  items : List α
  perPage : Int
  currentPage : Int
  hasMore : Bool

/-- A sampled page of items. -/
def Sampled.make {α : Type} (items : List α) (perPage page : Int) : Except Fault (Sampled α) := do
  checkPage page perPage
  return ⟨items, perPage, page, decide ((items.length : Int) ≥ perPage)⟩

/-- A sampled page as JSON. -/
def Sampled.toJson {α : Type} (item : α → Json) (p : Sampled α) : Json :=
  .obj [("data", .arr (p.items.map item)),
    ("pagination", .obj [("perPage", Json.int p.perPage), ("currentPage", Json.int p.currentPage),
      ("previousPage", Window.pageJson (if p.currentPage > 1 then some (p.currentPage - 1) else none)),
      ("nextPage", Window.pageJson (if p.hasMore then some (wrap (p.currentPage + 1)) else none))])]

end QueryKit.Paging
