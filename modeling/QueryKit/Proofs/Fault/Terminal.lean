import QueryKit.Proofs.Fault.Calls
import QueryKit.Proofs.Run.Reset

/-!
# Terminal calls on a builder that has a fault

A terminal call made on a builder that holds a fault writes no statement: it records an empty
one, clears the builder, and neither reaches the connection nor logs. The fault it gives is not
always the builder's, though:

* the paging calls check their page first, and a page or page size below one wins over any
  fault the builder holds;
* `first`, `pluck`, `insertConverted`, `upsert` and `insertReturning` record a fault of their
  own before writing (`Terminal.ownRefusal`), into the builder's own store: it is kept behind a
  fault of that store, and wins over a fault of the `WHERE` scope.

`Terminal.run_of_fault` says so for every terminal call but the two that run a hand-written
statement, and `Terminal.stopsAt` is the fault it gives.
-/

namespace QueryKit.Query

open Sql

namespace Terminal

variable {α : Type}

/-- Whether a terminal call runs a hand-written statement, which ignores what the builder
collected, its faults included. -/
def raw : Terminal α → Bool
  | .rawSelect _ _ | .rawExec _ _ => true
  | _ => false

/-- **The page check** of the paging calls, made before anything else. -/
def pageRefusal : Terminal α → Option Fault
  | .paginate page perPage | .simplePaginate page perPage => faultOf (Paging.offsetOf page perPage)
  | _ => none

/-- **The fault a terminal call records itself** before writing its statement, into the builder's
own store: a selection of `first` or `pluck` that is no name, a record that could not be
converted, an upsert without unique columns, a dialect without `RETURNING`. -/
def ownRefusal (b : Builder) : Terminal α → Option Fault
  | .first columns =>
    if b.columns.isEmpty && !columns.isEmpty then faultOf (Term.allOfValues columns) else none
  | .pluck column => faultOf (Term.allOfValues [column])
  | .insertConverted records => (Run.insertConverted.take records).2
  | .upsert _ unique _ =>
    if unique.isEmpty then some (Fault.invalid "upsert" "upsert requires at least one unique column")
    else none
  | .insertReturning _ _ =>
    if b.dialect.returning then none
    else some (Fault.unsupported "insertReturning" (b.dialect.name ++ " does not support RETURNING"))
  | _ => none

/-- **The fault a terminal call stops at**: the page check first, then the builder's own fault,
then the one the call records itself, then the `WHERE` scope's. -/
def stopsAt (b : Builder) (t : Terminal α) : Option Fault :=
  t.pageRefusal.or ((b.fault.or (t.ownRefusal b)).or b.scope.fault)

end Terminal

namespace Run

variable {σ α : Type}

/-- **The run after a terminal call refused before writing**: the builder cleared after recording
an empty statement with the bindings it held; the connection and the log as they were. -/
def refused (r : Run σ) : Run σ :=
  { r with
    builder := Builder.reset
      { r.builder with lastSql := "", lastBindings := r.builder.bindings.entries } }

@[simp] theorem refused_lastSql (r : Run σ) : r.refused.builder.lastSql = "" := rfl

@[simp] theorem refused_lastBindings (r : Run σ) :
    r.refused.builder.lastBindings = r.builder.bindings.entries := rfl

@[simp] theorem refused_conn (r : Run σ) : r.refused.conn = r.conn := rfl

@[simp] theorem refused_logs (r : Run σ) : r.refused.logs = r.logs := rfl

theorem refuse_run (empty : α) (f : Fault) (r : Run σ) :
    (refuse empty f).run r = (⟨empty, some f⟩, r.refused) := rfl

theorem run_change (g : Builder → Builder) (k : Unit → RunM σ α) (r : Run σ) :
    (change g >>= k).run r = (k ()).run { r with builder := g r.builder } := rfl

/-- An edit that keeps the dialect, the logging and the scope leaves the refused run alike. -/
theorem refused_change {r : Run σ} {b : Builder}
    (hsetup : Builder.Setup r.builder.dialect r.builder.logging b) (hs : b.scope = r.builder.scope) :
    { r with builder := b }.refused = r.refused := by
  obtain ⟨hd, hl⟩ := hsetup
  simp only [refused, Builder.reset, Builder.bindings, hd, hl, hs]

end Run

/-! ## Writing a statement from a builder that has a fault -/

namespace Builder

variable {b : Builder} {f : Fault}

theorem compileSelect_of_fault (h : b.fault? = some f) (op : String) (count : Bool) :
    b.compileSelect op count = .error f := by
  simp only [compileSelect, selectStatement, h]
  rfl

theorem compileInsert_of_fault (h : b.fault? = some f) (op : String) (rows : List Row)
    (returning : List Term) : b.compileInsert op rows returning = (.error f, b) := by
  simp only [compileInsert, h]

theorem compileUpdate_of_fault (h : b.fault? = some f) (values : Row) :
    b.compileUpdate values = (.error f, b) := by
  simp only [compileUpdate, h]

theorem compileDelete_of_fault (h : b.fault? = some f) : b.compileDelete = .error f := by
  simp only [compileDelete, h]

/-- **The paging calls check the page first**; a page that passes sets the offset and the limit
and keeps the faults, so the builder's fault stops the select. -/
theorem pageQuery_of_fault (h : b.fault? = some f) (op : String) (page perPage : Int) :
    ∃ b', b.pageQuery op page perPage =
        (.error ((faultOf (Paging.offsetOf page perPage)).getD f), b') ∧
      b'.dialect = b.dialect ∧ b'.logging = b.logging ∧ b'.scope = b.scope := by
  unfold pageQuery
  split
  · rename_i e he
    rw [he]
    exact ⟨b, rfl, rfl, rfl, rfl⟩
  · rename_i offset he
    rw [he]
    have h' : ({ b with offset := some offset, limit := b.limit.or (some perPage) } : Builder).fault? =
        some f := h
    refine ⟨{ b with offset := some offset, limit := b.limit.or (some perPage) }, ?_, rfl, rfl, rfl⟩
    dsimp only
    rw [compileSelect_of_fault h']
    rfl

theorem select_scope (cols : List Value) : (b.select cols).scope = b.scope := by
  unfold select
  split
  · rfl
  · exact fail_scope _ _

theorem setLimit_scope (n : Int) : (b.setLimit n).scope = b.scope := by
  unfold setLimit
  split
  · exact fail_scope _ _
  · rfl

end Builder

/-! ## Terminal calls, one by one -/

namespace Run

variable {σ : Type} {r : Run σ} {f : Fault} (ex : Option (Executor σ))

/-- Refusing after an edit that keeps the dialect, the logging and the scope. -/
theorem refuse_change {α : Type} (empty : α) (g : Fault) {b : Builder}
    (hsetup : Builder.Setup r.builder.dialect r.builder.logging b) (hs : b.scope = r.builder.scope) :
    (refuse empty g).run { r with builder := b } = (⟨empty, some g⟩, r.refused) := by
  rw [refuse_run, refused_change hsetup hs]

theorem get_of_fault (op : String) (h : r.builder.fault? = some f) :
    (get ex op).run r = (⟨[], some f⟩, r.refused) := by
  unfold get
  rw [run_read, Builder.compileSelect_of_fault h]
  rfl

theorem count_of_fault (h : r.builder.fault? = some f) :
    (count ex).run r = (⟨0, some f⟩, r.refused) := by
  unfold count
  rw [run_read, Builder.compileSelect_of_fault h]
  rfl

theorem scan_of_fault (d : Destination) (h : r.builder.fault? = some f) :
    (scan ex d).run r = (⟨none, some f⟩, r.refused) := by
  unfold scan
  rw [run_read, Builder.compileSelect_of_fault h]
  rfl

theorem mapInto_of_fault (shape : Shape) (h : r.builder.fault? = some f) :
    (mapInto ex shape).run r = (⟨none, some f⟩, r.refused) := by
  unfold mapInto
  rw [run_bind, get_of_fault ex "get" h]
  rfl

theorem delete_of_fault (h : r.builder.fault? = some f) :
    (delete ex).run r = (⟨0, some f⟩, r.refused) := by
  unfold delete
  rw [run_read, Builder.compileDelete_of_fault h]
  rfl

theorem update_of_fault (values : Row) (h : r.builder.fault? = some f) :
    (update ex values).run r = (⟨0, some f⟩, r.refused) := by
  unfold update
  rw [run_read, Builder.compileUpdate_of_fault h]
  rfl

theorem compileInsert_of_fault (op : String) (rows : List Row) (returning : List Term)
    (h : r.builder.fault? = some f) : (compileInsert op rows returning).run r = (.error f, r) := by
  unfold compileInsert
  rw [run_read, Builder.compileInsert_of_fault h]
  rfl

theorem insert_of_fault (rows : List Row) (h : r.builder.fault? = some f) :
    (insert ex rows).run r = (⟨0, some f⟩, r.refused) := by
  unfold insert
  rw [run_bind, compileInsert_of_fault "insert" rows [] h]
  rfl

variable {g : Fault}

theorem pluck_of_fault (column : Value) (h : (r.builder.select [column]).fault? = some g) :
    (pluck ex column).run r = (⟨[], some g⟩, r.refused) := by
  unfold pluck
  rw [run_change, run_read]
  dsimp only
  rw [Builder.compileSelect_of_fault h]
  exact refuse_change [] g ((Builder.edit_select [column]).setup _) (Builder.select_scope _)

theorem first_of_fault (columns : List Value)
    (h : ((if r.builder.columns.isEmpty && !columns.isEmpty then r.builder.select columns
      else r.builder).setLimit 1).fault? = some g) :
    (first ex columns).run r = (⟨none, some g⟩, r.refused) := by
  unfold first
  rw [run_read]
  by_cases hc : (r.builder.columns.isEmpty && !columns.isEmpty) = true
  · simp only [hc, ↓reduceIte] at h ⊢
    rw [run_change, run_change, run_bind]
    dsimp only
    rw [get_of_fault ex "get" h]
    exact congrArg (Prod.mk _)
      (refused_change (((Builder.edit_select columns).comp (Builder.edit_setLimit 1)).setup _)
        ((Builder.setLimit_scope 1).trans (Builder.select_scope columns)))
  · simp only [hc, Bool.false_eq_true, ↓reduceIte] at h ⊢
    have hget := get_of_fault ex "get"
      (show ({ r with builder := r.builder.setLimit 1 } : Run σ).builder.fault? = some g from h)
    rw [run_change, run_bind, hget]
    exact congrArg (Prod.mk _)
      (refused_change ((Builder.edit_setLimit 1).setup _) (Builder.setLimit_scope 1))

/-- Inserting after an edit that keeps the dialect, the logging and the scope. -/
theorem insert_change_of_fault (rows : List Row) {b : Builder}
    (hsetup : Builder.Setup r.builder.dialect r.builder.logging b) (hs : b.scope = r.builder.scope)
    (h : b.fault? = some g) :
    (insert ex rows).run { r with builder := b } = (⟨0, some g⟩, r.refused) := by
  rw [insert_of_fault ex rows h, refused_change hsetup hs]

theorem insertConverted_of_fault (records : List (Except Fault Row))
    (h : ((insertConverted.take records).2.elim r.builder r.builder.fail).fault? = some g) :
    (insertConverted ex records).run r = (⟨0, some g⟩, r.refused) := by
  unfold insertConverted
  rcases htake : insertConverted.take records with ⟨rows, _ | e⟩
  · rw [htake, Option.elim_none] at h
    dsimp only
    exact insert_of_fault ex rows h
  · rw [htake, Option.elim_some] at h
    dsimp only
    rw [run_change]
    exact insert_change_of_fault ex rows ((Builder.edit_fail e).setup _) (Builder.fail_scope _ _) h

/-- An upsert refuses with the fault of the builder it readies: the conflict handling on the given
targets is set without a fault of its own. -/
theorem upsert_of_fault (rows : List Row) (unique : List String)
    (assignments : List (String × ConflictValue))
    (h : (if unique.isEmpty then
        r.builder.fail (Fault.invalid "upsert" "upsert requires at least one unique column")
      else if r.builder.conflict.isNone then r.builder.onConflictDoUpdate unique assignments
      else r.builder).fault? = some g) :
    (upsert ex rows unique assignments).run r = (⟨0, some g⟩, r.refused) := by
  unfold upsert
  by_cases hu : unique.isEmpty = true
  · simp only [hu, ↓reduceIte] at h ⊢
    rw [run_change]
    exact insert_change_of_fault ex rows ((Builder.edit_fail _).setup _) (Builder.fail_scope _ _) h
  · simp only [hu, Bool.false_eq_true, ↓reduceIte] at h ⊢
    rw [run_read]
    by_cases hc : r.builder.conflict.isNone = true
    · simp only [hc, ↓reduceIte] at h ⊢
      rw [run_change]
      have hs : (r.builder.onConflictDoUpdate unique assignments).scope = r.builder.scope := by
        simp [Builder.onConflictDoUpdate, hu]
      exact insert_change_of_fault ex rows ((Builder.edit_onConflictDoUpdate _ _).setup _) hs h
    · simp only [hc, Bool.false_eq_true, ↓reduceIte] at h ⊢
      exact insert_of_fault ex rows h

theorem insertReturning_of_fault (rows : List Row) (returning : List String)
    (h : (if r.builder.dialect.returning then r.builder
      else r.builder.fail (Fault.unsupported "insertReturning"
        (r.builder.dialect.name ++ " does not support RETURNING"))).fault? = some g) :
    (insertReturning ex rows returning).run r = (⟨[], some g⟩, r.refused) := by
  unfold insertReturning
  rw [run_read]
  by_cases hr : r.builder.dialect.returning = true
  · simp only [hr, ↓reduceIte, Bool.not_true, Bool.false_eq_true] at h ⊢
    rw [run_bind, compileInsert_of_fault _ _ _ h]
    rfl
  · simp only [hr, Bool.false_eq_true, ↓reduceIte, Bool.not_false] at h ⊢
    rw [run_change, run_bind]
    have hins := compileInsert_of_fault "insertReturning" rows
      ((if returning.isEmpty then ["*"] else returning).map Term.name)
      (show ({ r with builder := r.builder.fail _ } : Run σ).builder.fault? = some g from h)
    rw [hins]
    exact refuse_change [] g ((Builder.edit_fail _).setup _) (Builder.fail_scope _ _)

theorem paginate_of_fault (page perPage : Int) (h : r.builder.fault? = some f) :
    (paginate ex page perPage).run r =
      (⟨none, some ((faultOf (Paging.offsetOf page perPage)).getD f)⟩, r.refused) := by
  unfold paginate
  rw [run_read]
  obtain ⟨b', hq, hd, hl, hs⟩ := Builder.pageQuery_of_fault h "paginate" page perPage
  rw [hq]
  exact refuse_change none _ ⟨hd, hl⟩ hs

theorem simplePaginate_of_fault (page perPage : Int) (h : r.builder.fault? = some f) :
    (simplePaginate ex page perPage).run r =
      (⟨none, some ((faultOf (Paging.offsetOf page perPage)).getD f)⟩, r.refused) := by
  unfold simplePaginate
  rw [run_read]
  obtain ⟨b', hq, hd, hl, hs⟩ := Builder.pageQuery_of_fault h "simplePaginate" page perPage
  rw [hq]
  exact refuse_change none _ ⟨hd, hl⟩ hs

end Run

/-! ## Every terminal call -/

namespace Builder

theorem select_fault? (b : Builder) (cols : List Value) :
    (b.select cols).fault? = (b.fault.or (faultOf (Term.allOfValues cols))).or b.scope.fault := by
  obtain ⟨hown, hwhere⟩ := Call.apply_faults b (.select cols)
  rw [fault?, show b.select cols = Call.apply b (.select cols) from rfl, hown, hwhere]
  simp only [Call.refusal, Call.whereRefusal, Option.or_none]

theorem fail_fault? (b : Builder) (e : Fault) :
    (b.fail e).fault? = (b.fault.or (some e)).or b.scope.fault := by
  rw [fault?, fail_fault, fail_scope]

theorem setLimit_one_fault? (b : Builder) : (b.setLimit 1).fault? = b.fault? := by
  simp [setLimit, fault?]

end Builder

namespace Terminal

variable {σ α : Type}

/-- A builder that has a fault stops every terminal call at one. -/
theorem stopsAt_ne_none (t : Terminal α) {b : Builder} (h : b.fault? ≠ none) :
    t.stopsAt b ≠ none := by
  intro hnone
  simp only [stopsAt, Option.or_eq_none_iff] at hnone
  exact h (by rw [Builder.fault?, hnone.2.1.1, hnone.2.2]; rfl)

/-- The page check comes first; without a refusal of it the builder's fault is given. -/
theorem getD_of_stopsAt {x : Option Fault} {b : Builder} {f g : Fault} (hfault : b.fault? = some f)
    (hg : x.or ((b.fault.or none).or b.scope.fault) = some g) : x.getD f = g := by
  cases x with
  | none =>
    rw [Option.none_or, Option.or_none] at hg
    exact Option.some.inj (hfault.symm.trans hg)
  | some e => exact Option.some.inj hg

/-- **A terminal call on a builder that has a fault refuses**, all but the two that run a
hand-written statement: it gives the fault `stopsAt` names, records an empty statement, clears
the builder, and leaves the connection and the log as they were, whatever the connection. A call
that checks nothing itself stops at the builder's fault. -/
theorem run_of_fault (t : Terminal α) (ht : t.raw = false) (ex : Option (Executor σ))
    {r : Run σ} (hf : r.builder.fault? ≠ none) :
    ∃ empty, (t.run ex).run r = (⟨empty, t.stopsAt r.builder⟩, r.refused) := by
  obtain ⟨f, hfault⟩ := Option.ne_none_iff_exists'.mp hf
  obtain ⟨g, hg⟩ := Option.ne_none_iff_exists'.mp (t.stopsAt_ne_none hf)
  rw [hg]
  have hplain : t.pageRefusal = none → t.ownRefusal r.builder = none → r.builder.fault? = some g := by
    intro hp ho
    rw [stopsAt, hp, ho, Option.none_or, Option.or_none] at hg
    exact hg
  cases t with
  | get op => exact ⟨[], Run.get_of_fault ex op (hplain rfl rfl)⟩
  | first columns =>
    refine ⟨none, Run.first_of_fault ex columns ?_⟩
    rw [← hg]
    dsimp only [stopsAt, pageRefusal, ownRefusal]
    rw [Option.none_or]
    by_cases hc : (r.builder.columns.isEmpty && !columns.isEmpty) = true
    · simp only [hc, ↓reduceIte, Builder.setLimit_one_fault?, Builder.select_fault?]
    · simp only [hc, Bool.false_eq_true, ↓reduceIte, Builder.setLimit_one_fault?, Option.or_none]
      rfl
  | pluck column =>
    refine ⟨[], Run.pluck_of_fault ex column ?_⟩
    rw [← hg]
    dsimp only [stopsAt, pageRefusal, ownRefusal]
    rw [Option.none_or, Builder.select_fault?]
  | scan d => exact ⟨none, Run.scan_of_fault ex d (hplain rfl rfl)⟩
  | count => exact ⟨0, Run.count_of_fault ex (hplain rfl rfl)⟩
  | mapInto shape => exact ⟨none, Run.mapInto_of_fault ex shape (hplain rfl rfl)⟩
  | insert rows => exact ⟨0, Run.insert_of_fault ex rows (hplain rfl rfl)⟩
  | insertConverted records =>
    refine ⟨0, Run.insertConverted_of_fault ex records ?_⟩
    rw [← hg]
    dsimp only [stopsAt, pageRefusal, ownRefusal]
    rw [Option.none_or]
    cases (Run.insertConverted.take records).2 with
    | none => simp only [Option.elim_none, Option.or_none]; rfl
    | some e => rw [Option.elim_some, Builder.fail_fault?]
  | upsert rows unique assignments =>
    refine ⟨0, Run.upsert_of_fault ex rows unique assignments ?_⟩
    rw [← hg]
    dsimp only [stopsAt, pageRefusal, ownRefusal]
    rw [Option.none_or]
    by_cases hu : unique.isEmpty = true
    · simp only [hu, ↓reduceIte, Builder.fail_fault?]
    · simp only [hu, Bool.false_eq_true, ↓reduceIte, Option.or_none]
      split
      · simp [Builder.onConflictDoUpdate, hu, Builder.fault?]
      · rfl
  | insertReturning rows returning =>
    refine ⟨[], Run.insertReturning_of_fault ex rows returning ?_⟩
    rw [← hg]
    dsimp only [stopsAt, pageRefusal, ownRefusal]
    rw [Option.none_or]
    by_cases hr : r.builder.dialect.returning = true
    · simp only [hr, ↓reduceIte, Option.or_none]
      rfl
    · simp only [hr, Bool.false_eq_true, ↓reduceIte, Builder.fail_fault?]
  | update values => exact ⟨0, Run.update_of_fault ex values (hplain rfl rfl)⟩
  | delete => exact ⟨0, Run.delete_of_fault ex (hplain rfl rfl)⟩
  | paginate page perPage =>
    dsimp only [stopsAt, pageRefusal, ownRefusal] at hg
    refine ⟨none, ?_⟩
    rw [Terminal.run, Run.paginate_of_fault ex page perPage hfault, getD_of_stopsAt hfault hg]
  | simplePaginate page perPage =>
    dsimp only [stopsAt, pageRefusal, ownRefusal] at hg
    refine ⟨none, ?_⟩
    rw [Terminal.run, Run.simplePaginate_of_fault ex page perPage hfault, getD_of_stopsAt hfault hg]
  | rawSelect query params => cases ht
  | rawExec query params => cases ht

end Terminal

/-! ## Chains and the terminal call after them -/

/-- **Which fault a chain keeps and a terminal call gives.** From a builder without a fault (a
new one, or one a terminal call cleared), a chain of calls ends with the first refusal among its
calls that feed the builder's own store, and only when there is none, the first among its
condition calls. A terminal call made then, other than a hand-written statement, gives its page
check's refusal first, then that first refusal of the builder's own store, then the refusal the
call records itself, then the first of the condition calls; it records an empty statement, clears
the builder, and neither reaches the connection nor logs, whatever the connection. -/
theorem chain_fault_own_store_first (b : Builder) (hown : b.fault = none)
    (hwhere : b.scope.fault = none) (calls : List Call) {σ α : Type} (t : Terminal α)
    (ht : t.raw = false) (ex : Option (Executor σ)) (r : Run σ)
    (hr : r.builder = Call.applyAll b calls) :
    r.builder.fault? = (calls.findSome? Call.refusal).or (calls.findSome? Call.whereRefusal) ∧
      (r.builder.fault? ≠ none →
        ((t.run ex).run r).1.fault = t.pageRefusal.or
          (((calls.findSome? Call.refusal).or (t.ownRefusal r.builder)).or
            (calls.findSome? Call.whereRefusal)) ∧
        ((t.run ex).run r).2 = r.refused) := by
  obtain ⟨hstore, hscope⟩ := Call.applyAll_faults b calls
  rw [hown, Option.none_or] at hstore
  rw [hwhere, Option.none_or] at hscope
  refine ⟨hr ▸ Call.applyAll_fault? hown hwhere calls, fun hf => ?_⟩
  obtain ⟨empty, hrun⟩ := t.run_of_fault ht ex hf
  rw [hrun]
  refine ⟨?_, rfl⟩
  show t.stopsAt r.builder = _
  rw [Terminal.stopsAt, hr, hstore, hscope]

/-- A bad operator, then a negative limit: the limit's fault is kept, and a select stops at it. -/
theorem limit_fault_wins_over_earlier_where :
    (Builder.new .mysql).fault = none ∧ (Builder.new .mysql).scope.fault = none ∧
      (Terminal.get "get").raw = false ∧
      (Call.applyAll (Builder.new .mysql)
        [.cond (.compare .and (.text "a") "bogus" (.int 1)), .limit (-1)]).fault? =
        some (Fault.invalid "limit" "limit cannot be negative, got -1") ∧
      (((Terminal.get "get").run (none : Option (Executor Unit))).run
        ⟨Call.applyAll (Builder.new .mysql)
          [.cond (.compare .and (.text "a") "bogus" (.int 1)), .limit (-1)], (), []⟩).1.fault =
        some (Fault.invalid "limit" "limit cannot be negative, got -1") := by
  have h := chain_fault_own_store_first (Builder.new .mysql) rfl rfl
    [.cond (.compare .and (.text "a") "bogus" (.int 1)), .limit (-1)] (Terminal.get "get") rfl
    (none : Option (Executor Unit))
    ⟨Call.applyAll (Builder.new .mysql)
      [.cond (.compare .and (.text "a") "bogus" (.int 1)), .limit (-1)], (), []⟩ rfl
  refine ⟨rfl, rfl, rfl, h.1.trans rfl, ?_⟩
  rw [(h.2 (by rw [h.1]; exact Option.some_ne_none _)).1]
  rfl

/-- **A later fault of the builder's own store wins over an earlier one of the `WHERE`**: a bad
operator and then a table that is no name end with the table's fault; and a page below one wins
over any fault the builder holds. -/
theorem later_table_fault_masks_where_fault :
    (Call.applyAll (Builder.new .mysql)
        [.table (.text "users"), .cond (.compare .and (.text "a") "bogus" (.int 1)),
          .table (.int 42)]).fault? =
      some (Fault.invalid "identifier" "expected string or Expression, got int64") ∧
    [Call.table (.text "users"), .cond (.compare .and (.text "a") "bogus" (.int 1)),
        .table (.int 42)].findSome? (fun c => c.refusal.or c.whereRefusal) =
      some (Fault.invalid "where" ("invalid operator " ++ Text.quote "bogus")) ∧
    (((Terminal.paginate 0 10).run (none : Option (Executor Unit))).run
        ⟨Call.applyAll (Builder.new .mysql) [.table (.text "users"), .limit (-1)], (), []⟩).1.fault =
      some (Fault.invalid "paginate" "page must be at least 1, got 0") := by
  refine ⟨rfl, rfl, rfl⟩

end QueryKit.Query
