import QueryKit.Proofs.Where.Guard
import QueryKit.Proofs.Paging.Machine

/-!
# Paged selects

A paged call writes its page with `Builder.pageQuery`: the rows before the page become the
select's offset and, unless a limit was set before, one page of rows its limit. That offset is
meant to be the number of rows skipped, never negative, and a negative offset set on a builder
directly is refused. The rows before a page are computed in machine arithmetic
(`QueryKit.Paging.Machine`), though, and nothing checks them on the way into the statement: past
`2^63` rows they wrap, and the page is written with a negative `OFFSET`.

* `Builder.selectStatement_ok_iff`: the select a builder writes is `Builder.asSelect`, its parts;
* `Dialect.select_ends_offset`: a select with an offset is written ending with `OFFSET` and it;
* `Builder.pageQuery_valid` and `Builder.pageQuery_ends_offset`: a written page ends with
  `OFFSET` and the rows before it, as computed;
* `page_arithmetic_exact_when_fits`: page numbers, page counts, offsets and last rows are their
  exact values exactly when these fit in 64 bits, an empty listing has one empty page, and a
  written page carries the computed rows before it as its `OFFSET`: exact while they fit, negative
  from `2^63` up to `2^64`;
* `huge_page_offset_wraps_negative`: page `2^62 + 1` of two rows, written with `OFFSET -2^63`.
-/

namespace QueryKit.Sql

namespace Segments

theorem appendIf_parts_ne_nil {w : Segments} (hw : w.parts ≠ []) (cond : Bool) (segs : List String) :
    (w.appendIf cond segs).parts ≠ [] := by
  unfold appendIf
  split
  · exact parts_append_ne_nil hw segs
  · exact hw

theorem appendList_parts_ne_nil {w : Segments} (hw : w.parts ≠ []) (lead : String)
    (items : List String) (sep : String) : (w.appendList lead items sep).parts ≠ [] := by
  unfold appendList appendPrefixed
  split
  · exact hw
  · split
    · exact hw
    · exact parts_append_ne_nil hw _

end Segments

namespace Dialect

/-- **A select with an offset** is written ending with `OFFSET` and the offset: after the table
the writer only grows, and its last segment is the offset. -/
theorem select_ends_offset (d : Dialect) {s : Select} {n : Int} {q : String}
    (hoff : s.offset = some n) (h : d.select s = .ok q) : ∃ pre, q = pre ++ " OFFSET " ++ toString n := by
  unfold Dialect.select at h
  extract_lets w₀ w₁ tail at h
  have h₁ : w₁.parts ≠ [] :=
    Segments.parts_append_ne_nil (Segments.appendIf_parts_ne_nil (by simp [Segments.ofList,
      Segments.append]) _ _) _
  have key : ∀ w : Segments, w.parts ≠ [] → tail w = .ok q → ∃ pre, q = pre ++ " OFFSET " ++ toString n := by
    intro w hw htail
    dsimp -zeta only [tail] at htail
    extract_lets w₂ w₃ w₄ w₅ w₆ at htail
    have h₄ : w₄.parts ≠ [] :=
      Segments.appendList_parts_ne_nil (Segments.parts_append_ne_nil (Segments.parts_append_ne_nil hw _) _)
        _ _ _
    have h₅ : w₅.parts ≠ [] := by
      simp only [w₅]
      split
      · exact Segments.parts_append_ne_nil h₄ _
      · split
        · exact h₄
        · exact Segments.parts_append_ne_nil h₄ _
      · exact h₄
    have h₆ : w₆ = w₅.append ["OFFSET " ++ toString n] := by
      simp only [w₆, hoff]
    cases htail
    refine ⟨w₅.text, ?_⟩
    rw [h₆, Segments.append_single_text h₅ (by simp [String.append_eq_empty_iff])]
    simp only [String.append_assoc]
    rfl
  split at h
  · exact key w₁ h₁ h
  · split at h
    · cases h
    · exact key _ (Segments.parts_append_ne_nil h₁ _) h

end Dialect
end QueryKit.Sql

namespace QueryKit.Query

open Sql Paging

namespace Builder

/-- **The select of a builder's parts.** -/
def asSelect (b : Builder) : Select :=
  { distinct := b.distinct, columns := b.columns, table := some b.table, joins := b.joins,
    conditions := b.scope.clause, orderBy := b.orderBy, limit := b.limit, offset := b.offset }

/-- **A builder writes the select of its parts**, once it holds no fault and names a table. -/
theorem selectStatement_ok_iff {b : Builder} {op : String} {s : Select} :
    b.selectStatement op = .ok s ↔ b.fault? = none ∧ b.table.isEmpty = false ∧ s = b.asSelect := by
  unfold selectStatement
  split
  · simp_all
  · rename_i hfault
    by_cases ht : b.table.isEmpty = true
    · simp [ht]
    · simp only [ht, Bool.false_eq_true, ↓reduceIte, Except.ok.injEq, true_and]
      exact ⟨fun h => ⟨hfault, h.symm⟩, fun h => h.2.symm⟩

/-- Writing the select itself, not its count. -/
theorem compileSelect_rows (b : Builder) (op : String) :
    b.compileSelect op = (b.selectStatement op >>= fun s => (b.dialect.select s).map terminate) := by
  unfold compileSelect
  cases b.selectStatement op with
  | error e => rfl
  | ok s =>
    show (b.dialect.select s >>= fun q => pure (terminate q)) = (b.dialect.select s).map terminate
    cases b.dialect.select s <;> rfl

/-- **A valid page** sets the rows before it as the offset, and one page as the limit unless a
limit was set, then writes the select. -/
theorem pageQuery_valid (b : Builder) (op : String) {page perPage : Int} (hpage : 1 ≤ page)
    (hper : 1 ≤ perPage) :
    b.pageQuery op page perPage =
      let paged := { b with offset := some (wrap ((page - 1) * perPage)), limit := b.limit.or (some perPage) }
      (paged.compileSelect op, paged) := by
  simp only [pageQuery, offsetOf_valid hpage hper]

/-- **A written page ends with `OFFSET` and the rows before it**, as computed. -/
theorem pageQuery_ends_offset (b : Builder) (op : String) {page perPage : Int} (hpage : 1 ≤ page)
    (hper : 1 ≤ perPage) {q : String} (h : (b.pageQuery op page perPage).1 = .ok q) :
    ∃ pre, q = pre ++ " OFFSET " ++ toString (wrap ((page - 1) * perPage)) ++ ";" := by
  rw [pageQuery_valid b op hpage hper] at h
  dsimp only at h
  rw [compileSelect_rows] at h
  obtain ⟨s, hs, hwritten⟩ := exists_of_bind_eq_ok h
  obtain ⟨-, -, rfl⟩ := selectStatement_ok_iff.mp hs
  obtain ⟨q', hq', rfl⟩ := exists_of_map_eq_ok hwritten
  obtain ⟨pre, rfl⟩ := Dialect.select_ends_offset _ rfl hq'
  exact ⟨pre, rfl⟩

end Builder

/-- **Page arithmetic is exact exactly when it fits.** A page or a page size below one is
refused as invalid input. Otherwise the rows before the page are never refused: they are
`(page - 1) * perPage`, and not negative, exactly when that fits in 64 bits. The page count of a
non-empty listing is the fewest pages that hold its rows, and at least one, exactly when
`total + perPage - 1` fits; its offset and last row are exact when `page * perPage` fits; an
empty listing has one empty page. A paged call writes the rows before the page, as computed, as
its `OFFSET`, with no check of its own: while they fit that `OFFSET` is exact and not negative, and
from `2^63` rows up to `2^64` it is negative. -/
theorem page_arithmetic_exact_when_fits (page perPage : Int) :
    (perPage < 1 ∨ page < 1 → ∃ f, offsetOf page perPage = .error f ∧ f.kind = .invalidInput) ∧
    (1 ≤ page → 1 ≤ perPage →
      offsetOf page perPage = .ok (wrap ((page - 1) * perPage)) ∧
      (wrap ((page - 1) * perPage) = (page - 1) * perPage ∧ 0 ≤ wrap ((page - 1) * perPage) ↔
        (page - 1) * perPage < 9223372036854775808)) ∧
    (∀ total : Int, Fits total → Fits perPage → 1 ≤ total → 1 ≤ perPage → 1 ≤ page →
      ∃ w, Window.calculate total perPage page = .ok w ∧ w.total = total ∧
        (Covers total perPage w.pages ↔ total + perPage - 1 < 9223372036854775808) ∧
        (1 ≤ w.pages ↔ total + perPage - 1 < 9223372036854775808) ∧
        (page * perPage < 9223372036854775808 →
          w.offset = (page - 1) * perPage ∧ w.last = min (page * perPage) total)) ∧
    (1 ≤ perPage → 1 ≤ page → Window.calculate 0 perPage page = .ok (Window.empty perPage)) ∧
    (∀ (b : Builder) (op q : String), 1 ≤ page → 1 ≤ perPage → (b.pageQuery op page perPage).1 = .ok q →
      (∃ pre, q = pre ++ " OFFSET " ++ toString (wrap ((page - 1) * perPage)) ++ ";") ∧
      ((page - 1) * perPage < 9223372036854775808 →
        0 ≤ (page - 1) * perPage ∧ ∃ pre, q = pre ++ " OFFSET " ++ toString ((page - 1) * perPage) ++ ";") ∧
      (9223372036854775808 ≤ (page - 1) * perPage → (page - 1) * perPage < 18446744073709551616 →
        wrap ((page - 1) * perPage) < 0)) := by
  refine ⟨offsetOf_refuses, fun hpage hper => ?_, fun total htotal hper' hone hpos hpage => ?_,
    Window.calculate_empty, fun b op q hpage hper h => ?_⟩
  · have hnonneg : 0 ≤ (page - 1) * perPage := Int.mul_nonneg (by omega) (by omega)
    refine ⟨offsetOf_valid hpage hper, ?_⟩
    rw [← wrap_offset_eq_iff hpage hper]
    constructor
    · exact fun h => h.1
    · intro h
      refine ⟨h, ?_⟩
      rw [h]
      exact hnonneg
  · obtain ⟨w, hw, htotal', hoffset, hpages, hlast⟩ := Window.calculate_fields hone hpos hpage
    refine ⟨w, hw, htotal', hpages ▸ pages_covers_iff htotal hper' hone hpos,
      hpages ▸ one_le_pages_iff htotal hper' hone hpos, fun hfits => ?_⟩
    have hnonneg : 0 ≤ (page - 1) * perPage := Int.mul_nonneg (by omega) (by omega)
    have hoff : wrap ((page - 1) * perPage) = (page - 1) * perPage :=
      wrap_of_fits ⟨by omega, by linarith⟩
    have hend : wrap ((page - 1) * perPage + perPage) = page * perPage := by
      rw [Int.sub_mul, Int.one_mul, Int.sub_add_cancel]
      exact wrap_of_fits ⟨by nlinarith, hfits⟩
    rw [hoffset, hlast, hoff, hend]
    exact ⟨rfl, rfl⟩
  · have hwritten := Builder.pageQuery_ends_offset b op hpage hper h
    refine ⟨hwritten, fun hfits => ?_, wrap_neg_of_overflow⟩
    have hnonneg : 0 ≤ (page - 1) * perPage := Int.mul_nonneg (by omega) (by omega)
    obtain ⟨pre, hq⟩ := hwritten
    rw [wrap_of_fits ⟨by omega, hfits⟩] at hq
    exact ⟨hnonneg, pre, hq⟩

/-- The second page of ten rows starts after ten rows, and a page that names a table is written
ending with `OFFSET 10`. -/
theorem second_page_of_ten_offset :
    (offsetOf 2 10 = .ok (wrap ((2 - 1) * 10)) ∧
      (wrap ((2 - 1) * 10) = (2 - 1) * 10 ∧ 0 ≤ wrap ((2 - 1) * 10) ↔ ((2 : Int) - 1) * 10 < 9223372036854775808)) ∧
      ((0 : Int) ≤ (2 - 1) * 10 ∧ ∃ pre, "SELECT * FROM `users` LIMIT 10 OFFSET 10;" =
        pre ++ " OFFSET " ++ toString (((2 : Int) - 1) * 10) ++ ";") :=
  ⟨(page_arithmetic_exact_when_fits 2 10).2.1 (by decide) (by decide),
    ((page_arithmetic_exact_when_fits 2 10).2.2.2.2 ((Builder.new Dialect.mysql).setTable (.text "users"))
      "paginate" _ (by decide) (by decide) rfl).2.1 (by decide)⟩

/-- **Past `2^63` rows, a page is written with a negative `OFFSET`**: page `2^62 + 1` of two
rows starts after `2^63` rows, which the machine reads as `-2^63`, and that is the offset the
select is written with. -/
theorem huge_page_offset_wraps_negative :
    offsetOf 4611686018427387905 2 = .ok (-9223372036854775808) ∧
    (((Builder.new Dialect.mysql).setTable (.text "users")).pageQuery "paginate"
        4611686018427387905 2).1 =
      .ok "SELECT * FROM `users` LIMIT 2 OFFSET -9223372036854775808;" :=
  ⟨rfl, rfl⟩

end QueryKit.Query
