import QueryKit.Proofs.Paging.Statement
import Mathlib.Data.List.Perm.Subperm
import Mathlib.Data.List.Dedup

/-!
# Counting a select's rows

`Count`, and `Paginate` for its total, write a count of the select a builder holds: `COUNT(*)`
over its table, its joins and its conditions, and nothing else of it. Its ordering and window go,
and so does `DISTINCT`. A database answers a select as SQL says (`Database.answer`): the table,
the joins and the conditions find rows under the bindings, and the rest of the select only
arranges what was found. So:

* `Builder.compileSelect_count_ok`: the count is the writing of `Select.counted`, and a paged
  builder writes the same count (`Builder.pageQuery_count_ok`);
* `Database.answer_counted`: a count answers the number of rows found, which is the number of
  rows the select gives without `DISTINCT` and window (`Database.length_answer_plain`);
* `Database.length_answer_unique_lt`: with `DISTINCT`, a select that lists a row twice gives
  fewer rows than that count;
* `Builder.pageRows_eq_take`: without a limit of the builder's own, pages one after another give
  the select's rows in order.
-/

namespace QueryKit.Sql

/-- The selection of a count. -/
def countAll : Term := Term.sql "COUNT(*)"

namespace Select

/-- **A select counted**: `COUNT(*)` over its table, joins and conditions, and nothing else of
it. -/
def counted (s : Select) : Select :=
  { columns := [countAll], table := s.table, joins := s.joins, conditions := s.conditions }

/-- A select without its window. -/
def unwindowed (s : Select) : Select := { s with limit := none, offset := none }

end Select

/-- **The rows a window keeps**: those after `offset`, at most `limit` of them. -/
def window {α : Type} (limit offset : Option Int) (rows : List α) : List α :=
  match limit with
  | some n => (rows.drop (offset.getD 0).toNat).take n.toNat
  | none => rows.drop (offset.getD 0).toNat

@[simp] theorem window_none {α : Type} (rows : List α) : window none none rows = rows := by
  simp [window]

theorem window_some {α : Type} (rows : List α) (limit offset : Nat) :
    window (some limit) (some offset) rows = (rows.drop offset).take limit := by
  simp [window]

/-- **A database, as the selects it answers see it**: the rows a table, its joins and the
conditions find under the bindings, in the database's order; an ordering of rows, which keeps
them all; the values of a row for the selected terms (every column for none); and what `DISTINCT`
makes of rows of values. -/
structure Database (ρ : Type) where
  found : Option Term → List Join → Clause → Bindings → List ρ
  sort : List Order → List ρ → List ρ
  sort_perm : ∀ os rs, (sort os rs).Perm rs
  cells : List Term → ρ → List Value
  unique : List (List Value) → List (List Value)

namespace Database

variable {ρ : Type} (db : Database ρ)

/-- The rows a select's table, joins and conditions find. -/
def source (bs : Bindings) (s : Select) : List ρ := db.found s.table s.joins s.conditions bs

/-- **The rows of values a select lists**, before `DISTINCT` and its window: `COUNT(*)` alone
lists one row holding the number of rows found; other terms list the values of each row found,
in the select's order. -/
def listed (bs : Bindings) (s : Select) : List (List Value) :=
  if s.columns = [countAll] then [[.int (db.source bs s).length]]
  else (db.sort s.orderBy (db.source bs s)).map (db.cells s.columns)

/-- **What a database answers to a select**: the rows listed, each once with `DISTINCT`, in its
window. -/
def answer (bs : Bindings) (s : Select) : List (List Value) :=
  window s.limit s.offset (if s.distinct then db.unique (db.listed bs s) else db.listed bs s)

/-- A database whose `DISTINCT` keeps every listed row of values, once. -/
def Dedups : Prop := ∀ rows, (db.unique rows).Nodup ∧ ∀ r, r ∈ db.unique rows ↔ r ∈ rows

theorem length_listed (bs : Bindings) {s : Select} (hcols : s.columns ≠ [countAll]) :
    (db.listed bs s).length = (db.source bs s).length := by
  simp [listed, hcols, (db.sort_perm _ _).length_eq]

/-- **A count answers the number of rows found.** -/
theorem answer_counted (bs : Bindings) (s : Select) :
    db.answer bs s.counted = [[.int (db.source bs s).length]] := by
  simp [answer, listed, source, Select.counted]

theorem answer_unwindowed (bs : Bindings) (s : Select) :
    db.answer bs s.unwindowed =
      if s.distinct then db.unique (db.listed bs s) else db.listed bs s := rfl

/-- **Without `DISTINCT` and window a select gives a row for each row found.** -/
theorem length_answer_plain (bs : Bindings) {s : Select} (hcols : s.columns ≠ [countAll]) :
    (db.answer bs { s.unwindowed with distinct := false }).length = (db.source bs s).length := by
  have hplain : db.answer bs { s.unwindowed with distinct := false } = db.listed bs s := rfl
  rw [hplain, db.length_listed bs hcols]

/-- A `DISTINCT` that keeps each row once drops one of a repeated row. -/
theorem length_unique_lt {db : Database ρ} (hd : db.Dedups) {rows : List (List Value)}
    (hrep : ¬ rows.Nodup) : (db.unique rows).length < rows.length := by
  obtain ⟨hnodup, hmem⟩ := hd rows
  have hsub : List.Subperm (db.unique rows) rows := hnodup.subperm fun r hr => (hmem r).mp hr
  refine Nat.lt_of_le_of_ne (List.Subperm.length_le hsub) fun hlen => hrep ?_
  exact (List.Subperm.perm_of_length_le hsub (Nat.le_of_eq hlen.symm)).nodup_iff.mp hnodup

/-- **With `DISTINCT`, a select that lists a row twice gives fewer rows than it finds.** -/
theorem length_answer_unique_lt {db : Database ρ} (hd : db.Dedups) (bs : Bindings) {s : Select}
    (hcols : s.columns ≠ [countAll]) (hdistinct : s.distinct = true)
    (hrep : ¬ (db.listed bs s).Nodup) :
    (db.answer bs s.unwindowed).length < (db.source bs s).length := by
  rw [answer_unwindowed, if_pos hdistinct, ← db.length_listed bs hcols]
  exact length_unique_lt hd hrep

/-- **A page of a select** is its rows without window, from the offset on, at most a page of
them. -/
theorem answer_page (bs : Bindings) (s : Select) (perPage offset : Nat) :
    db.answer bs { s with limit := some perPage, offset := some offset } =
      ((db.answer bs s.unwindowed).drop offset).take perPage := by
  rw [answer_unwindowed]
  simp only [answer, window_some]
  rfl

end Database

/-- **Pages one after another**: the first `n` pages of `perPage` rows are the first
`n * perPage` rows. -/
theorem flatMap_pages {α : Type} (rows : List α) (perPage n : Nat) :
    (List.range n).flatMap (fun i => (rows.drop (i * perPage)).take perPage) =
      rows.take (n * perPage) := by
  induction n with
  | zero => simp
  | succ n ih =>
    rw [List.range_succ, List.flatMap_append, ih, List.flatMap_singleton, Nat.succ_mul,
      List.take_add]

end QueryKit.Sql

namespace QueryKit.Query

open Sql Paging

namespace Builder

/-- **The count a builder writes** is the writing of the select it holds, counted. -/
theorem compileSelect_count (b : Builder) (op : String) :
    b.compileSelect op true =
      (b.selectStatement op >>= fun s => (b.dialect.select s.counted).map terminate) := by
  unfold compileSelect
  cases b.selectStatement op with
  | error e => rfl
  | ok s =>
    show (b.dialect.select s.counted >>= fun q => pure (terminate q)) =
      (b.dialect.select s.counted).map terminate
    cases b.dialect.select s.counted <;> rfl

theorem compileSelect_count_ok {b : Builder} (hfault : b.fault? = none)
    (htable : b.table.isEmpty = false) (op : String) :
    b.compileSelect op true = (b.dialect.select b.asSelect.counted).map terminate := by
  rw [compileSelect_count, selectStatement_ok_iff.mpr ⟨hfault, htable, rfl⟩]
  rfl

/-- **A page is counted as the whole select**: the paged builder writes the builder's count, as it
holds the builder's faults and table, and a count drops the window. -/
theorem pageQuery_count_ok {b : Builder} (hfault : b.fault? = none)
    (htable : b.table.isEmpty = false) (op op' : String) {page perPage : Int} (hpage : 1 ≤ page)
    (hper : 1 ≤ perPage) :
    (b.pageQuery op page perPage).2.compileSelect op' true =
      (b.dialect.select b.asSelect.counted).map terminate := by
  rw [pageQuery_valid b op hpage hper]
  dsimp only
  refine Eq.trans (compileSelect_count_ok ?_ ?_ op') ?_
  · exact hfault
  · exact htable
  · rfl

/-- The select of a page, without a limit of the builder's own. -/
theorem pageQuery_asSelect {b : Builder} (hlimit : b.limit = none) (op : String)
    {page perPage : Int} (hpage : 1 ≤ page) (hper : 1 ≤ perPage) :
    (b.pageQuery op page perPage).2.asSelect =
      { b.asSelect with limit := some perPage, offset := some (wrap ((page - 1) * perPage)) } := by
  rw [pageQuery_valid b op hpage hper]
  simp [asSelect, hlimit]

/-- **The rows of the first `n` pages** of `perPage` rows of a builder's select, one page after
another. -/
def pageRows {ρ : Type} (db : Database ρ) (b : Builder) (perPage n : Nat) : List (List Value) :=
  (List.range n).flatMap fun (i : Nat) =>
    db.answer b.bindings (b.pageQuery "paginate" ((i : Int) + 1) perPage).2.asSelect

/-- **Pages give the select's rows in order**, while the rows before the last page fit. -/
theorem pageRows_eq_take {ρ : Type} (db : Database ρ) {b : Builder} (hlimit : b.limit = none)
    {perPage n : Nat} (hper : 1 ≤ perPage) (hfits : Fits ((n * perPage : Nat) : Int)) :
    pageRows db b perPage n = (db.answer b.bindings b.asSelect.unwindowed).take (n * perPage) := by
  rw [pageRows, ← flatMap_pages]
  refine List.flatMap_congr fun i hi => ?_
  have hbelow : i * perPage ≤ n * perPage :=
    Nat.mul_le_mul_right perPage (Nat.le_of_lt (List.mem_range.mp hi))
  have hoffset : wrap (((i : Int) + 1 - 1) * perPage) = ((i * perPage : Nat) : Int) := by
    have hcast : ((i : Int) + 1 - 1) * perPage = ((i * perPage : Nat) : Int) := by
      rw [Int.add_sub_cancel, Int.natCast_mul]
    unfold Fits at hfits
    rw [hcast, wrap_of_fits ⟨by omega, by omega⟩]
  rw [pageQuery_asSelect hlimit "paginate" (by omega) (by omega), hoffset]
  exact db.answer_page b.bindings b.asSelect perPage (i * perPage)

end Builder

end QueryKit.Query

namespace QueryKit.Query

open Sql Paging

/-- **Count and Paginate count the rows found, repeats included.** A builder that holds no fault
and names a table is counted by `Count`, and on every valid page by `Paginate`, with one
statement: its select counted, which keeps its table, joins and conditions, with their bindings,
and drops its columns, ordering, window and `DISTINCT`. In any database that count is the number
of rows found, as many as the select gives without `DISTINCT` and window; with `DISTINCT` and a
row listed twice, the select gives fewer. Without a limit of the builder's own, pages one after
another give the select's rows in order, and without `DISTINCT` the pages that cover the count
give exactly that many rows. -/
theorem count_counts_rows_found_ignoring_distinct (b : Builder) (hfault : b.fault? = none)
    (htable : b.table.isEmpty = false) (hcols : b.columns ≠ [countAll]) {ρ : Type}
    (db : Database ρ) :
    (b.compileSelect "count" true = (b.dialect.select b.asSelect.counted).map terminate ∧
      ∀ page perPage : Int, 1 ≤ page → 1 ≤ perPage →
        (b.pageQuery "paginate" page perPage).2.compileSelect "paginate" true =
          (b.dialect.select b.asSelect.counted).map terminate) ∧
    db.answer b.bindings b.asSelect.counted = [[.int (db.source b.bindings b.asSelect).length]] ∧
    (db.answer b.bindings { b.asSelect.unwindowed with distinct := false }).length =
      (db.source b.bindings b.asSelect).length ∧
    (db.Dedups → b.distinct = true → ¬ (db.listed b.bindings b.asSelect).Nodup →
      (db.answer b.bindings b.asSelect.unwindowed).length <
        (db.source b.bindings b.asSelect).length) ∧
    (b.limit = none → ∀ perPage n : Nat, 1 ≤ perPage → Fits ((n * perPage : Nat) : Int) →
      Builder.pageRows db b perPage n =
          (db.answer b.bindings b.asSelect.unwindowed).take (n * perPage) ∧
        (b.distinct = false → (db.source b.bindings b.asSelect).length ≤ n * perPage →
          (Builder.pageRows db b perPage n).length = (db.source b.bindings b.asSelect).length)) := by
  refine ⟨⟨Builder.compileSelect_count_ok hfault htable "count",
    fun page perPage hpage hper => Builder.pageQuery_count_ok hfault htable _ _ hpage hper⟩,
    db.answer_counted _ _, db.length_answer_plain _ hcols,
    fun hd hdistinct hrep => Database.length_answer_unique_lt hd _ hcols hdistinct hrep, ?_⟩
  intro hlimit perPage n hper hfits
  have hpages := Builder.pageRows_eq_take db hlimit hper hfits
  refine ⟨hpages, fun hplain hcover => ?_⟩
  have hrows : b.asSelect.unwindowed = { b.asSelect.unwindowed with distinct := false } := by
    simp [Select.unwindowed, Builder.asSelect, hplain]
  rw [hpages, List.length_take, hrows, db.length_answer_plain _ hcols]
  exact Nat.min_eq_right hcover

/-- Three users, counted and paged two at a time. -/
theorem three_users_counted_and_paged :
    ({ dialect := .mysql, table := .name "users" } : Builder).fault? = none ∧
    ({ dialect := .mysql, table := .name "users" } : Builder).table.isEmpty = false ∧
    ({ dialect := .mysql, table := .name "users" } : Builder).columns ≠ [countAll] ∧
    ({ found := fun _ _ _ _ => [1, 2, 3], sort := fun _ rs => rs,
       sort_perm := fun _ rs => List.Perm.refl rs, cells := fun _ r => [.int r],
       unique := id } : Database Nat).answer {}
      ({ dialect := .mysql, table := .name "users" } : Builder).asSelect.counted = [[.int 3]] ∧
    Builder.pageRows
      ({ found := fun _ _ _ _ => [1, 2, 3], sort := fun _ rs => rs,
         sort_perm := fun _ rs => List.Perm.refl rs, cells := fun _ r => [.int r],
         unique := id } : Database Nat)
      ({ dialect := .mysql, table := .name "users" } : Builder) 2 2 =
      [[.int 1], [.int 2], [.int 3]] := by
  have h := count_counts_rows_found_ignoring_distinct
    ({ dialect := .mysql, table := .name "users" } : Builder) rfl rfl (by decide)
    ({ found := fun _ _ _ _ => [1, 2, 3], sort := fun _ rs => rs,
       sort_perm := fun _ rs => List.Perm.refl rs, cells := fun _ r => [.int r],
       unique := id } : Database Nat)
  refine ⟨rfl, rfl, by decide, h.2.1.trans rfl, ?_⟩
  rw [(h.2.2.2.2 rfl 2 2 (by decide) (by decide)).1]
  rfl

/-- **A `DISTINCT` select is counted without `DISTINCT`**: the users' emails are selected each
once, but the count is of the users, so two users with one email are counted as two while the
select gives one row. -/
theorem distinct_emails_counted_as_users :
    (Call.applyAll (Builder.new .mysql)
        [.table (.text "users"), .select [.text "email"], .distinct]).compileSelect "get" =
      .ok "SELECT DISTINCT `email` FROM `users`;" ∧
    (Call.applyAll (Builder.new .mysql)
        [.table (.text "users"), .select [.text "email"], .distinct]).compileSelect "count" true =
      .ok "SELECT COUNT(*) FROM `users`;" ∧
    ({ found := fun _ _ _ _ => [(), ()], sort := fun _ rs => rs,
       sort_perm := fun _ rs => List.Perm.refl rs, cells := fun _ _ => [.text "ann@example.com"],
       unique := fun rows => @List.dedup _ (Classical.decEq _) rows } : Database Unit).answer {}
      (Call.applyAll (Builder.new .mysql)
        [.table (.text "users"), .select [.text "email"], .distinct]).asSelect.counted =
      [[.int 2]] ∧
    ({ found := fun _ _ _ _ => [(), ()], sort := fun _ rs => rs,
       sort_perm := fun _ rs => List.Perm.refl rs, cells := fun _ _ => [.text "ann@example.com"],
       unique := fun rows => @List.dedup _ (Classical.decEq _) rows } : Database Unit).answer {}
      (Call.applyAll (Builder.new .mysql)
        [.table (.text "users"), .select [.text "email"], .distinct]).asSelect =
      [[.text "ann@example.com"]] := by
  refine ⟨rfl, rfl, rfl, ?_⟩
  show @List.dedup _ (Classical.decEq _)
    [[Value.text "ann@example.com"], [Value.text "ann@example.com"]] = _
  rw [@List.dedup_cons_of_mem _ (Classical.decEq _) _ _ (List.mem_singleton_self _)]
  exact (@List.dedup_eq_self _ (Classical.decEq _) _).mpr (List.nodup_singleton _)

end QueryKit.Query
