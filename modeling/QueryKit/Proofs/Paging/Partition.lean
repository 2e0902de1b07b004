import QueryKit.Proofs.Paging.Machine
import QueryKit.Json.Parse

/-!
# Pages partition a listing

The windows of a listing of `total` rows in pages of `perPage` rows, taken for pages `1` to the
last, cover the rows `1` to `total` one after the other: each page starts on the row after the
one the page before ends on, every page but the last holds `perPage` rows and the last between
one and `perPage`. A page past the last starts and ends on the last row. This holds while the
machine arithmetic is exact, that is while `total + perPage - 1` fits in 64 bits, and past the
last page while the rows up to the page do.

* `Window.exact`: the window of a page in exact arithmetic; `calculate_eq_exact` says the
  computed window is that one while the rows up to the page fit;
* `exact_first`, `exact_last_of_lt`, `exact_last_of_eq`, `exact_past`: where a page starts and
  ends, before, at and after the last page;
* `toJson_previousPage`: the previous page a window is written with;
* `pages_partition_rows`: the main statement.
-/

namespace QueryKit.Paging

namespace Window

/-- **The window of a page in exact arithmetic**: the rows before the page, its first and last
row, and its neighbours, with the fewest pages that hold the rows. -/
def exact (total perPage page : Int) : Window :=
  let pages := (total + perPage - 1) / perPage
  let offset := (page - 1) * perPage
  let last := min (offset + perPage) total
  { total, perPage, offset, pages, currentPage := page
    first := if offset + 1 > last then last else offset + 1
    last
    previousPage := if page > 1 then some (page - 1) else none
    nextPage := if page < pages then some (page + 1) else none }

/-- **The computed window of a page is the exact one** while the rows up to it fit: the rows
before the page and up to its end lie between zero and the rows up to it, so nothing wraps. -/
theorem calculate_eq_exact {total perPage page : Int} (hone : 1 ≤ total) (hpos : 1 ≤ perPage)
    (hpage : 1 ≤ page) (hsum : total + perPage - 1 < 9223372036854775808)
    (hfit : page * perPage < 9223372036854775808) :
    calculate total perPage page = .ok (exact total perPage page) := by
  have hneg : ¬ total < 0 := by omega
  have hzero : (total == 0) = false := by simp; omega
  have hstep : (page - 1) * perPage + perPage = page * perPage := by rw [Int.sub_mul, Int.one_mul]; omega
  have hnonneg : 0 ≤ (page - 1) * perPage := Int.mul_nonneg (by omega) (by omega)
  have hoff : wrap ((page - 1) * perPage) = (page - 1) * perPage := wrap_of_fits ⟨by omega, by omega⟩
  have hfirst : wrap ((page - 1) * perPage + 1) = (page - 1) * perPage + 1 :=
    wrap_of_fits ⟨by omega, by omega⟩
  have hend : wrap ((page - 1) * perPage + perPage) = (page - 1) * perPage + perPage :=
    wrap_of_fits ⟨by omega, by omega⟩
  simp only [calculate, checkPage_valid hpage hpos, hneg, hzero, pages_of_fits hone hpos hsum, hoff,
    hfirst, hend]
  rfl

/-! ## Where a page starts and ends -/

section

variable {total perPage page : Int}

/-- The page count of the exact window, the fewest pages that hold the rows. -/
theorem exact_pages : (exact total perPage page).pages = (total + perPage - 1) / perPage := rfl

theorem exact_offset : (exact total perPage page).offset = (page - 1) * perPage := rfl

theorem exact_last : (exact total perPage page).last = min ((page - 1) * perPage + perPage) total := rfl

theorem exact_first_eq : (exact total perPage page).first =
    if (page - 1) * perPage + 1 > (exact total perPage page).last then (exact total perPage page).last
    else (page - 1) * perPage + 1 := rfl

/-- A page up to the last starts on the row after the rows before it. -/
theorem exact_first (hpos : 1 ≤ perPage) (hcover : (page - 1) * perPage < total) :
    (exact total perPage page).first = (page - 1) * perPage + 1 := by
  have hle : (page - 1) * perPage + 1 ≤ (exact total perPage page).last := by
    rw [exact_last]
    omega
  rw [exact_first_eq, if_neg (by omega)]

/-- A page before the last ends on its own last row. -/
theorem exact_last_of_lt (hstep : (page - 1) * perPage + perPage < total) :
    (exact total perPage page).last = (page - 1) * perPage + perPage := by
  rw [exact_last]
  omega

/-- The last page ends on the last row. -/
theorem exact_last_of_eq (hstep : total ≤ (page - 1) * perPage + perPage) :
    (exact total perPage page).last = total := by
  rw [exact_last]
  omega

/-- A page past the last starts and ends on the last row. -/
theorem exact_past (hpos : 1 ≤ perPage) (hpast : total ≤ (page - 1) * perPage) :
    (exact total perPage page).first = total ∧ (exact total perPage page).last = total := by
  have hlast : (exact total perPage page).last = total := exact_last_of_eq (by omega)
  refine ⟨?_, hlast⟩
  rw [exact_first_eq, hlast, if_pos (by omega)]

end

/-! ## The previous page as written -/

/-- A window is written with the last page as its previous one when it lies beyond the page
after the last. -/
theorem toJson_previousPage (w : Window) :
    w.toJson.get? "previousPage" =
      some (pageJson (if w.currentPage > wrap (w.pages + 1) then some w.pages else w.previousPage)) := by
  simp [toJson, Json.get?]

/-- **The page count and the previous page of any page**, however far past the last. -/
theorem calculate_links {total perPage page : Int} (hone : 1 ≤ total) (hpos : 1 ≤ perPage)
    (hpage : 1 ≤ page) (hsum : total + perPage - 1 < 9223372036854775808) :
    ∃ w, calculate total perPage page = .ok w ∧ w.pages = (total + perPage - 1) / perPage ∧
      w.currentPage = page ∧ w.previousPage = if page > 1 then some (page - 1) else none := by
  have hneg : ¬ total < 0 := by omega
  have hzero : (total == 0) = false := by simp; omega
  simp only [calculate, checkPage_valid hpage hpos, hneg, hzero, pages_of_fits hone hpos hsum]
  exact ⟨_, rfl, rfl, rfl, rfl⟩

/-- **The previous page a window is written with** is, if any, a page from the first to the
last: a current page no further than the one after the last has its previous page at most the
last. -/
theorem previousPage_json_range {w : Window} (hpages : 1 ≤ w.pages)
    (hprev : w.previousPage = if w.currentPage > 1 then some (w.currentPage - 1) else none) :
    w.toJson.get? "previousPage" = some .null ∨
      ∃ k, 1 ≤ k ∧ k ≤ w.pages ∧ w.toJson.get? "previousPage" = some (Json.int k) := by
  rw [toJson_previousPage]
  by_cases hbeyond : w.currentPage > wrap (w.pages + 1)
  · exact .inr ⟨w.pages, hpages, le_refl _, by rw [if_pos hbeyond]; rfl⟩
  · have hwrap : wrap (w.pages + 1) ≤ w.pages + 1 := by rw [wrap_eq]; omega
    rw [if_neg hbeyond, hprev]
    split
    · exact .inr ⟨w.currentPage - 1, by omega, by omega, rfl⟩
    · exact .inl rfl

end Window

/-- Up to the last page, the rows before a page are fewer than the rows. -/
theorem rows_before_lt {total perPage pages p : Int} (hper : 1 ≤ perPage)
    (hcover : Covers total perPage pages) (hp : p ≤ pages) : (p - 1) * perPage < total := by
  have hle : (p - 1) * perPage ≤ (pages - 1) * perPage :=
    Int.mul_le_mul_of_nonneg_right (by omega) (by omega)
  exact Int.lt_of_le_of_lt hle hcover.1

/-- Up to the last page, the rows up to a page fit whenever `total + perPage - 1` does. -/
theorem rows_upto_fit {total perPage p : Int} (hper : 1 ≤ perPage)
    (hsum : total + perPage - 1 < 9223372036854775808) (hp : p ≤ (total + perPage - 1) / perPage) :
    p * perPage < 9223372036854775808 := by
  have hle : p * perPage ≤ (total + perPage - 1) / perPage * perPage :=
    Int.mul_le_mul_of_nonneg_right hp (by omega)
  have hceil : (total + perPage - 1) / perPage * perPage ≤ total + perPage - 1 :=
    Int.ediv_mul_le _ (by omega)
  omega

/-- **Pages partition a listing.** For a listing of `total ≥ 1` rows in pages of `perPage ≥ 1`
rows, while `total + perPage - 1` fits in 64 bits, take the windows of pages `1` to the last:
the first starts on row `1` and the last ends on row `total`; each page after the first starts
on the row after the one the page before ends on; every page but the last holds `perPage` rows
and the last between one and `perPage`; the rows before a page are its first row less one, as
`offsetOf` computes them; a page has a previous page exactly when it is not the first and a
next page exactly when it is not the last. A page past the last, while the rows up to it fit,
starts and ends on the last row and has no next page; and every window is written with a
previous page, if any, between the first page and the last. Up to the last page the computed
windows are the exact ones, and past it the rows before a page are all the rows. -/
theorem pages_partition_rows {total perPage : Int} (htotal : 1 ≤ total) (hper : 1 ≤ perPage)
    (hsum : total + perPage - 1 < 9223372036854775808) :
    ∃ (pages : Int) (window : Int → Window), 1 ≤ pages ∧
      (∀ p, 1 ≤ p → Window.calculate total perPage p = .ok (window p) ∧ (window p).pages = pages) ∧
      (window 1).first = 1 ∧ (window pages).last = total ∧
      (∀ p, 1 ≤ p → p < pages → (window (p + 1)).first = (window p).last + 1 ∧
        (window p).last - (window p).first + 1 = perPage) ∧
      1 ≤ (window pages).last - (window pages).first + 1 ∧
      (window pages).last - (window pages).first + 1 ≤ perPage ∧
      (∀ p, 1 ≤ p → p ≤ pages → (window p).offset = (window p).first - 1 ∧
        offsetOf p perPage = .ok (window p).offset ∧
        ((window p).previousPage.isSome ↔ 1 < p) ∧ ((window p).nextPage.isSome ↔ p < pages)) ∧
      (∀ p, pages < p → p * perPage < 9223372036854775808 →
        (window p).first = total ∧ (window p).last = total ∧ (window p).nextPage = none) ∧
      (∀ p, 1 ≤ p → (window p).toJson.get? "previousPage" = some .null ∨
        ∃ k, 1 ≤ k ∧ k ≤ pages ∧ (window p).toJson.get? "previousPage" = some (Json.int k)) := by
  have hcover : Covers total perPage ((total + perPage - 1) / perPage) := covers_ceil hper
  generalize hpages : (total + perPage - 1) / perPage = pages at hcover
  have hone : 1 ≤ pages := one_le_of_covers htotal hper hcover
  let window : Int → Window := fun p => ((Window.calculate total perPage p).toOption).getD default
  have hwin : ∀ p w, Window.calculate total perPage p = .ok w → window p = w := by
    intro p w h
    simp [window, h, Except.toOption]
  have hexact : ∀ p, 1 ≤ p → p * perPage < 9223372036854775808 →
      window p = Window.exact total perPage p := fun p hp hfit =>
    hwin p _ (Window.calculate_eq_exact htotal hper hp hsum hfit)
  have hupto : ∀ p, 1 ≤ p → p ≤ pages → window p = Window.exact total perPage p ∧
      (window p).first = (p - 1) * perPage + 1 := by
    intro p hp hle
    have hw := hexact p hp (rows_upto_fit hper hsum (hpages ▸ hle))
    exact ⟨hw, hw ▸ Window.exact_first hper (rows_before_lt hper hcover hle)⟩
  have hstep : ∀ p : Int, (p - 1) * perPage + perPage = p * perPage := by
    intro p
    rw [Int.sub_mul, Int.one_mul]
    omega
  have hlastPage : (window pages).last = total := by
    rw [(hupto pages hone (le_refl pages)).1]
    exact Window.exact_last_of_eq (by rw [hstep]; exact hcover.2)
  have hfirstPage := (hupto pages hone (le_refl pages)).2
  refine ⟨pages, window, hone, ?_, ?_, hlastPage, ?_, ?_, ?_, ?_, ?_, ?_⟩
  · intro p hp
    obtain ⟨w, hcalc, hw, -, -⟩ := Window.calculate_links htotal hper hp hsum
    rw [hwin p w hcalc]
    exact ⟨hcalc, hw.trans hpages⟩
  · simpa using (hupto 1 (le_refl 1) hone).2
  · intro p hp hlt
    have hbefore : p * perPage < total := by
      have h := rows_before_lt hper hcover (show p + 1 ≤ pages by omega)
      rwa [Int.add_sub_cancel] at h
    have hlast : (window p).last = (p - 1) * perPage + perPage := by
      rw [(hupto p hp hlt.le).1]
      exact Window.exact_last_of_lt (by rw [hstep]; exact hbefore)
    have hnext := (hupto (p + 1) (by omega) (by omega)).2
    rw [hnext, hlast, (hupto p hp hlt.le).2, Int.add_sub_cancel, ← hstep p]
    constructor <;> omega
  · rw [hlastPage, hfirstPage]
    have h := hcover.1
    omega
  · rw [hlastPage, hfirstPage]
    have h := hcover.2
    have h' := hstep pages
    omega
  · intro p hp hle
    obtain ⟨hw, hfirst⟩ := hupto p hp hle
    have hoff : (window p).offset = (p - 1) * perPage := by rw [hw]; rfl
    have hnonneg : 0 ≤ (p - 1) * perPage := Int.mul_nonneg (by omega) (by omega)
    have hbelow := rows_before_lt hper hcover hle
    refine ⟨by rw [hoff, hfirst]; omega, ?_, ?_, ?_⟩
    · rw [hoff, offsetOf_valid hp hper, wrap_of_fits ⟨by omega, by omega⟩]
    · rw [hw]
      by_cases h : 1 < p <;> simp [Window.exact, h]
    · rw [hw]
      by_cases h : p < pages <;> simp [Window.exact, hpages, h]
  · intro p hlt hfit
    have hp : 1 ≤ p := by omega
    have hpast : total ≤ (p - 1) * perPage := by
      have hle : pages * perPage ≤ (p - 1) * perPage :=
        Int.mul_le_mul_of_nonneg_right (by omega) (by omega)
      have h := hcover.2
      omega
    obtain ⟨hfirst, hlast⟩ := Window.exact_past hper hpast
    rw [hexact p hp hfit]
    refine ⟨hfirst, hlast, ?_⟩
    simp [Window.exact, hpages]
    omega
  · intro p hp
    obtain ⟨w, hcalc, hw, hcur, hprev⟩ := Window.calculate_links htotal hper hp hsum
    rw [hwin p w hcalc, ← hpages, ← hw]
    exact Window.previousPage_json_range (by rw [hw, hpages]; exact hone) (by rw [hcur]; exact hprev)

/-- Forty-five rows in pages of ten: the first page starts on the first row and the last page
ends on the forty-fifth. -/
theorem forty_five_rows_in_pages_of_ten :
    (1 : Int) ≤ 45 ∧ (1 : Int) ≤ 10 ∧ (45 : Int) + 10 - 1 < 9223372036854775808 ∧
      ∃ (pages : Int) (window : Int → Window), 1 ≤ pages ∧ (window 1).first = 1 ∧
        (window pages).last = 45 := by
  obtain ⟨pages, window, hone, -, hfirst, hlast, -⟩ :=
    pages_partition_rows (show (1 : Int) ≤ 45 by decide) (show (1 : Int) ≤ 10 by decide) (by decide)
  exact ⟨by decide, by decide, by decide, pages, window, hone, hfirst, hlast⟩

end QueryKit.Paging
