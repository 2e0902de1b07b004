import QueryKit.Paging.Window
import Mathlib.Tactic.Linarith

/-!
# Page arithmetic in machine integers

Page numbers, page sizes and totals are signed 64-bit integers, and the page arithmetic wraps
around as the machine's does. Each result is therefore its exact value exactly when that value
(and the sum it is computed from) fits in 64 bits, and no check reports the other case.

* `Fits n`: `n` is a signed 64-bit integer; `wrap_eq_self_iff` says `wrap` changes exactly the
  values that do not fit;
* `offsetOf_valid`: the rows before a page are `(page - 1) * perPage`, wrapped, and only a page
  or a page size below one is refused;
* `Covers total perPage n`: `n` pages of `perPage` rows are the fewest that hold `total` rows;
  `pages_covers_iff` says the computed page count is that number exactly when `total + perPage
  - 1` fits, and `one_le_pages_iff` that otherwise it is not even one;
* `calculate_fields`: the offset, the page count and the last row of a computed window.
-/

namespace QueryKit.Paging

/-- **Machine integers**: from `-2^63` up to `2^63 - 1`. -/
def Fits (n : Int) : Prop := -9223372036854775808 ≤ n ∧ n < 9223372036854775808

instance : DecidablePred Fits := fun n =>
  inferInstanceAs (Decidable (-9223372036854775808 ≤ n ∧ n < 9223372036854775808))

theorem wrap_eq (n : Int) :
    wrap n = (n + 9223372036854775808) % 18446744073709551616 - 9223372036854775808 := rfl

theorem fits_wrap (n : Int) : Fits (wrap n) := by
  rw [wrap_eq]
  unfold Fits
  omega

theorem wrap_of_fits {n : Int} (h : Fits n) : wrap n = n := by
  unfold Fits at h
  rw [wrap_eq]
  omega

/-- **Wrapping changes exactly the values that do not fit.** -/
theorem wrap_eq_self_iff {n : Int} : wrap n = n ↔ Fits n :=
  ⟨fun h => h ▸ fits_wrap n, wrap_of_fits⟩

/-- A sum of two machine integers that overflows wraps to a negative value. -/
theorem wrap_neg_of_overflow {n : Int} (hlow : 9223372036854775808 ≤ n)
    (hhigh : n < 18446744073709551616) : wrap n < 0 := by
  rw [wrap_eq]
  omega

/-! ## Checks -/

theorem checkPage_valid {page perPage : Int} (hpage : 1 ≤ page) (hper : 1 ≤ perPage) :
    checkPage page perPage = .ok () := by
  simp [checkPage, Int.not_lt.mpr hpage, Int.not_lt.mpr hper]

/-- **A page or a page size below one is refused**, as invalid input. -/
theorem checkPage_refuses {page perPage : Int} (h : perPage < 1 ∨ page < 1) :
    ∃ f, checkPage page perPage = .error f ∧ f.kind = .invalidInput := by
  unfold checkPage
  by_cases hper : perPage < 1
  · simp only [hper, ↓reduceIte]
    exact ⟨_, rfl, rfl⟩
  · simp only [hper, h.resolve_left hper, ↓reduceIte]
    exact ⟨_, rfl, rfl⟩

/-! ## Rows before a page -/

/-- **The rows before a page** are `(page - 1) * perPage` in machine arithmetic. -/
theorem offsetOf_valid {page perPage : Int} (hpage : 1 ≤ page) (hper : 1 ≤ perPage) :
    offsetOf page perPage = .ok (wrap ((page - 1) * perPage)) := by
  simp only [offsetOf, checkPage_valid hpage hper]
  rfl

theorem offsetOf_refuses {page perPage : Int} (h : perPage < 1 ∨ page < 1) :
    ∃ f, offsetOf page perPage = .error f ∧ f.kind = .invalidInput := by
  obtain ⟨f, hf, hkind⟩ := checkPage_refuses h
  refine ⟨f, ?_, hkind⟩
  simp only [offsetOf, hf]
  rfl

/-- The rows before a valid page are never negative in exact arithmetic, so wrapping leaves
them alone exactly when they are below `2^63`. -/
theorem wrap_offset_eq_iff {page perPage : Int} (hpage : 1 ≤ page) (hper : 1 ≤ perPage) :
    wrap ((page - 1) * perPage) = (page - 1) * perPage ↔
      (page - 1) * perPage < 9223372036854775808 := by
  have hnonneg : 0 ≤ (page - 1) * perPage := Int.mul_nonneg (by omega) (by omega)
  rw [wrap_eq_self_iff]
  unfold Fits
  omega

/-! ## Pages of a total -/

/-- **`n` pages of `perPage` rows are the fewest that hold `total` rows.** -/
def Covers (total perPage n : Int) : Prop := (n - 1) * perPage < total ∧ total ≤ n * perPage

/-- The rounded-up quotient is the fewest pages that hold the rows. -/
theorem covers_ceil {total perPage : Int} (hper : 1 ≤ perPage) :
    Covers total perPage ((total + perPage - 1) / perPage) := by
  have hsplit := Int.mul_ediv_add_emod (total + perPage - 1) perPage
  have hlow := Int.emod_nonneg (total + perPage - 1) (b := perPage) (by omega)
  have hhigh := Int.emod_lt_of_pos (total + perPage - 1) (b := perPage) (by omega)
  constructor <;> nlinarith

/-- Fewer than one page holds no row. -/
theorem one_le_of_covers {total perPage n : Int} (htotal : 1 ≤ total) (hper : 1 ≤ perPage)
    (h : Covers total perPage n) : 1 ≤ n := by
  by_contra hn
  have : n * perPage ≤ 0 := Int.mul_nonpos_of_nonpos_of_nonneg (by omega) (by omega)
  exact absurd h.2 (by omega)

/-- The page count of a window: the rounded-up quotient in machine arithmetic. -/
theorem pages_of_fits {total perPage : Int} (htotal : 1 ≤ total) (hper : 1 ≤ perPage)
    (hsum : total + perPage - 1 < 9223372036854775808) :
    quot (wrap (total + perPage - 1)) perPage = (total + perPage - 1) / perPage := by
  rw [wrap_of_fits ⟨by omega, hsum⟩]
  exact Int.tdiv_eq_ediv_of_nonneg (by omega)

/-- An overflowing sum gives no page at all: it wraps negative, and truncating division of a
negative value by a positive one is not positive. -/
theorem pages_nonpos_of_overflow {total perPage : Int} (htotal : Fits total) (hper : Fits perPage)
    (hpos : 1 ≤ perPage) (hsum : 9223372036854775808 ≤ total + perPage - 1) :
    quot (wrap (total + perPage - 1)) perPage ≤ 0 := by
  obtain ⟨-, htotal⟩ := htotal
  obtain ⟨-, hper⟩ := hper
  have hneg : wrap (total + perPage - 1) < 0 := wrap_neg_of_overflow hsum (by omega)
  have hflip : quot (wrap (total + perPage - 1)) perPage =
      -Int.tdiv (-wrap (total + perPage - 1)) perPage := by
    rw [quot, ← Int.neg_tdiv, Int.neg_neg]
  have hpos' : 0 ≤ Int.tdiv (-wrap (total + perPage - 1)) perPage :=
    Int.tdiv_nonneg (by omega) (by omega)
  omega

/-- **The page count is the fewest pages that hold the rows exactly when `total + perPage - 1`
fits.** -/
theorem pages_covers_iff {total perPage : Int} (htotal : Fits total) (hper : Fits perPage)
    (hone : 1 ≤ total) (hpos : 1 ≤ perPage) :
    Covers total perPage (quot (wrap (total + perPage - 1)) perPage) ↔
      total + perPage - 1 < 9223372036854775808 := by
  constructor
  · intro hcovers
    by_contra hsum
    have hnonpos := pages_nonpos_of_overflow htotal hper hpos (Int.not_lt.mp hsum)
    have hone' := one_le_of_covers hone hpos hcovers
    omega
  · intro hsum
    rw [pages_of_fits hone hpos hsum]
    exact covers_ceil hpos

/-- **A window has at least one page exactly when `total + perPage - 1` fits.** -/
theorem one_le_pages_iff {total perPage : Int} (htotal : Fits total) (hper : Fits perPage)
    (hone : 1 ≤ total) (hpos : 1 ≤ perPage) :
    1 ≤ quot (wrap (total + perPage - 1)) perPage ↔ total + perPage - 1 < 9223372036854775808 := by
  constructor
  · intro hpages
    by_contra hsum
    have := pages_nonpos_of_overflow htotal hper hpos (Int.not_lt.mp hsum)
    omega
  · intro hsum
    exact one_le_of_covers hone hpos ((pages_covers_iff htotal hper hone hpos).mpr hsum)

/-! ## Windows -/

namespace Window

/-- **The window of a page of a non-empty listing**: its offset, page count and last row, in
machine arithmetic. -/
theorem calculate_fields {total perPage page : Int} (hone : 1 ≤ total) (hpos : 1 ≤ perPage)
    (hpage : 1 ≤ page) :
    ∃ w, calculate total perPage page = .ok w ∧ w.total = total ∧
      w.offset = wrap ((page - 1) * perPage) ∧
      w.pages = quot (wrap (total + perPage - 1)) perPage ∧
      w.last = min (wrap (wrap ((page - 1) * perPage) + perPage)) total := by
  have hneg : ¬ total < 0 := by omega
  have hzero : (total == 0) = false := by simp; omega
  simp only [calculate, checkPage_valid hpage hpos, hneg, hzero]
  exact ⟨_, rfl, rfl, rfl, rfl, rfl⟩

/-- **An empty listing has one empty page**, whatever page is asked for. -/
theorem calculate_empty {perPage page : Int} (hpos : 1 ≤ perPage) (hpage : 1 ≤ page) :
    calculate 0 perPage page = .ok (empty perPage) := by
  simp only [calculate, checkPage_valid hpage hpos]
  rfl

end Window

end QueryKit.Paging
