import QueryKit.Query.Into
import QueryKit.Query.Call

/-!
# Terminal calls clear the builder

Every terminal call ends by clearing the builder, whether it succeeds or fails and at whichever
step: what the builder collected is gone, and a fresh builder of the same dialect and logging
remains, holding only the statement just recorded. No call reads that statement back, so a reused
builder runs every later chain of calls and terminal call exactly as a fresh one does.

The proof is a small program logic for runs:

* `Run.Triple P m Q`: from a builder satisfying `P`, the step ends with one satisfying `Q`;
* `Run.Agrees E m₁ m₂ E'`: from runs related by `E`, the two steps give the same value and runs
  related by `E'`; here `E` is `Run.Near`, runs that differ at most in the last statement;
* `Builder.Edit`: builder functions that keep the dialect and the logging and neither read nor
  write the last statement; every builder call is one (`Call.edit_applyAll`);
* `Run.Prepares` and `Run.Ends`: the steps before a statement is recorded, and whole terminal
  steps, with one lemma for each shape the terminal calls take.

`terminal_clears_builder` is the main statement, over `Terminal`, the terminal calls as data.
-/

namespace QueryKit.Query

open Sql

/-- **Terminal calls**, indexed by what they give. -/
inductive Terminal : Type → Type where
  | get (op : String) : Terminal (List Row)
  | first (columns : List Value) : Terminal (Option Row)
  | pluck (column : Value) : Terminal (List Value)
  | scan (d : Destination) : Terminal (Option (List Value))
  | count : Terminal Int
  | mapInto (shape : Shape) : Terminal (Option (List Value))
  | insert (rows : List Row) : Terminal Int
  | insertConverted (records : List (Except Fault Row)) : Terminal Int
  | upsert (rows : List Row) (unique : List String) (assignments : List (String × ConflictValue)) :
      Terminal Int
  | insertReturning (rows : List Row) (returning : List String) : Terminal (List Row)
  | update (values : Row) : Terminal Int
  | delete : Terminal Int
  | paginate (page perPage : Int) : Terminal (Option (Paging.Counted Row))
  | simplePaginate (page perPage : Int) : Terminal (Option (Paging.Sampled Row))
  | rawSelect (query : String) (params : List (String × Value)) : Terminal (List Row)
  | rawExec (query : String) (params : List (String × Value)) : Terminal Int

/-- Running a terminal call on a connection, or pretending without one. -/
def Terminal.run {σ α : Type} (ex : Option (Executor σ)) : Terminal α → RunM σ (Outcome α)
  | .get op => Run.get ex op
  | .first columns => Run.first ex columns
  | .pluck column => Run.pluck ex column
  | .scan d => Run.scan ex d
  | .count => Run.count ex
  | .mapInto shape => Run.mapInto ex shape
  | .insert rows => Run.insert ex rows
  | .insertConverted records => Run.insertConverted ex records
  | .upsert rows unique assignments => Run.upsert ex rows unique assignments
  | .insertReturning rows returning => Run.insertReturning ex rows returning
  | .update values => Run.update ex values
  | .delete => Run.delete ex
  | .paginate page perPage => Run.paginate ex page perPage
  | .simplePaginate page perPage => Run.simplePaginate ex page perPage
  | .rawSelect query params => Run.rawSelect ex query params
  | .rawExec query params => Run.rawExec ex query params

/-! ## Builders and their last statement -/

namespace Builder

/-- The builder with another last statement and its bindings. -/
def withLast (b : Builder) (sql : String) (bs : List Binding) : Builder :=
  { b with lastSql := sql, lastBindings := bs }

/-- The builder writes in a dialect and logs or not. -/
def Setup (d : Dialect) (logging : Bool) (b : Builder) : Prop :=
  b.dialect = d ∧ b.logging = logging

@[simp] theorem withLast_scope (b : Builder) (sql : String) (bs : List Binding) :
    (b.withLast sql bs).scope = b.scope := rfl

@[simp] theorem withLast_bindings (b : Builder) (sql : String) (bs : List Binding) :
    (b.withLast sql bs).bindings = b.bindings := rfl

@[simp] theorem withLast_table (b : Builder) (sql : String) (bs : List Binding) :
    (b.withLast sql bs).table = b.table := rfl

@[simp] theorem withLast_conflict (b : Builder) (sql : String) (bs : List Binding) :
    (b.withLast sql bs).conflict = b.conflict := rfl

@[simp] theorem withLast_fault? (b : Builder) (sql : String) (bs : List Binding) :
    (b.withLast sql bs).fault? = b.fault? := rfl

/-- Replacing the scope and then the last statement, or the other way round, is the same. -/
theorem withLast_with_scope (b : Builder) (sql : String) (bs : List Binding) (s : Scope) :
    ({ b.withLast sql bs with scope := s } : Builder) = { b with scope := s }.withLast sql bs := rfl

/-- **A cleared builder**: a fresh builder of a dialect and logging choice, but for the last
statement it recorded. -/
def Cleared (d : Dialect) (logging : Bool) (b : Builder) : Prop :=
  ∃ sql bs, b = (Builder.new d logging).withLast sql bs

/-- A builder with the dialect and the logging of one that writes in `d` and logs by `logging`
does too. -/
theorem Setup.of_same {d : Dialect} {logging : Bool} {b b' : Builder} (hb : Setup d logging b)
    (h : b'.dialect = b.dialect ∧ b'.logging = b.logging) : Setup d logging b' :=
  ⟨h.1.trans hb.1, h.2.trans hb.2⟩

theorem reset_cleared {d : Dialect} {logging : Bool} {b : Builder} (h : Setup d logging b) :
    Cleared d logging b.reset := by
  obtain ⟨rfl, rfl⟩ := h
  exact ⟨b.lastSql, b.lastBindings, rfl⟩

/-- **Clause edits**: builder functions that keep the dialect and the logging, and neither read
nor write the last statement. -/
structure Edit (f : Builder → Builder) : Prop where
  setup : ∀ b, (f b).dialect = b.dialect ∧ (f b).logging = b.logging
  withLast : ∀ b sql bs, f (b.withLast sql bs) = (f b).withLast sql bs

theorem Edit.comp {f g : Builder → Builder} (hf : Edit f) (hg : Edit g) : Edit (fun b => g (f b)) where
  setup b := by
    rw [(hg.setup (f b)).1, (hg.setup (f b)).2]
    exact hf.setup b
  withLast b sql bs := by
    rw [hf.withLast, hg.withLast]

theorem Edit.id : Edit (fun b => b) := ⟨fun _ => ⟨rfl, rfl⟩, fun _ _ _ => rfl⟩

theorem edit_fail (e : Fault) : Edit (·.fail e) where
  setup b := by
    unfold fail
    split <;> exact ⟨rfl, rfl⟩
  withLast b sql bs := by
    by_cases h : b.fault.isSome <;> simp [fail, withLast, h]

/-- **A guarded edit**: refused with a fault when a test on its arguments fails, made otherwise. -/
theorem Edit.guard (p : Prop) [Decidable p] (e : Fault) {g : Builder → Builder} (hg : Edit g) :
    Edit (fun b => if p then b.fail e else g b) where
  setup b := by
    split
    · exact (edit_fail e).setup b
    · exact hg.setup b
  withLast b sql bs := by
    split
    · exact (edit_fail e).withLast b sql bs
    · exact hg.withLast b sql bs

theorem edit_setTable (t : Value) : Edit (·.setTable t) where
  setup b := by
    unfold setTable
    split
    · exact ⟨rfl, rfl⟩
    · exact (edit_fail _).setup b
  withLast b sql bs := by
    unfold setTable
    split
    · rfl
    · exact (edit_fail _).withLast b sql bs

theorem edit_select (cols : List Value) : Edit (·.select cols) where
  setup b := by
    unfold select
    split
    · exact ⟨rfl, rfl⟩
    · exact (edit_fail _).setup b
  withLast b sql bs := by
    unfold select
    split
    · rfl
    · exact (edit_fail _).withLast b sql bs

theorem edit_order (column : Value) (direction : String) : Edit (·.order column direction) where
  setup b := by
    unfold order
    split
    · exact (edit_fail _).setup b
    · split
      · exact (edit_fail _).setup b
      · exact ⟨rfl, rfl⟩
  withLast b sql bs := by
    unfold order
    split
    · exact (edit_fail _).withLast b sql bs
    · split
      · exact (edit_fail _).withLast b sql bs
      · rfl

theorem edit_setLimit (n : Int) : Edit (·.setLimit n) :=
  Edit.guard _ _ ⟨fun _ => ⟨rfl, rfl⟩, fun _ _ _ => rfl⟩

theorem edit_setOffset (n : Int) : Edit (·.setOffset n) :=
  Edit.guard _ _ ⟨fun _ => ⟨rfl, rfl⟩, fun _ _ _ => rfl⟩

theorem edit_onConflictDoNothing (cols : List String) : Edit (·.onConflictDoNothing cols) :=
  Edit.guard _ _ ⟨fun _ => ⟨rfl, rfl⟩, fun _ _ _ => rfl⟩

theorem edit_onConflictDoUpdate (cols : List String) (assignments : List (String × ConflictValue)) :
    Edit (·.onConflictDoUpdate cols assignments) :=
  Edit.guard _ _ ⟨fun _ => ⟨rfl, rfl⟩, fun _ _ _ => rfl⟩

/-- A join reads the statement's bindings and writes its scope, joins and faults only. The scope is
read off the builder on both sides of a new last statement, so each of the join's checks splits
both at once. -/
theorem edit_joinWith (kind : String) (table : Value) (build : Option (Scope → Scope)) :
    Edit (·.joinWith kind table build) where
  setup b := by
    unfold joinWith
    split
    · exact (edit_fail _).setup b
    · dsimp only
      split
      · exact (edit_fail _).setup _
      · split
        · exact (edit_fail _).setup _
        · split
          · exact (edit_fail _).setup _
          · exact ⟨rfl, rfl⟩
  withLast b sql bs := by
    cases build with
    | none => exact (edit_fail _).withLast b sql bs
    | some f =>
      simp only [joinWith, bindings, withLast_scope]
      split
      · rw [← (edit_fail _).withLast]
        rfl
      · split
        · rw [← (edit_fail _).withLast]
          rfl
        · by_cases hempty : (f { bindings := b.scope.bindings }).clause.isEmpty = true
          · simp only [hempty, ↓reduceIte]
            rw [← (edit_fail _).withLast]
            rfl
          · simp only [hempty, Bool.false_eq_true, ↓reduceIte]
            rfl

theorem edit_joinOfType (kind : String) (table : Value) (build : Option (Scope → Scope)) :
    Edit (·.joinOfType kind table build) where
  setup b := by
    unfold joinOfType
    split
    · exact (edit_fail _).setup b
    · exact (edit_joinWith _ _ _).setup b
  withLast b sql bs := by
    unfold joinOfType
    split
    · exact (edit_fail _).withLast b sql bs
    · exact (edit_joinWith _ _ _).withLast b sql bs

/-- **Builder steps with a value**: edits that also give a value, neither depending on the last
statement. -/
structure Step {β : Type} (g : Builder → β × Builder) : Prop where
  setup : ∀ b, (g b).2.dialect = b.dialect ∧ (g b).2.logging = b.logging
  withLast : ∀ b sql bs, g (b.withLast sql bs) = Prod.map id (·.withLast sql bs) (g b)

theorem onConflict_withLast (b : Builder) (plan : ConflictPlan) (columns : List String)
    (sql : String) (bs : List Binding) :
    (b.withLast sql bs).onConflict plan columns =
      Prod.map id (·.withLast sql bs) (b.onConflict plan columns) := by
  cases b
  dsimp only [onConflict, withLast, bindings]
  repeat' split
  all_goals rfl

/-- The conflict clause writes the builder's bindings only. -/
theorem onConflict_setup (b : Builder) (plan : ConflictPlan) (columns : List String) :
    (b.onConflict plan columns).2.dialect = b.dialect ∧ (b.onConflict plan columns).2.logging = b.logging := by
  dsimp only [onConflict]
  repeat' split
  all_goals exact ⟨rfl, rfl⟩

/-- **Writing an insert** binds the rows' values and the conflict clause's, and keeps the rest of
the builder, whichever branch of the writer is taken. -/
theorem step_compileInsert (op : String) (rows : List Row) (returning : List Term) :
    Step (·.compileInsert op rows returning) where
  setup b := by
    unfold compileInsert
    split
    · exact ⟨rfl, rfl⟩
    split
    · exact ⟨rfl, rfl⟩
    split
    · exact ⟨rfl, rfl⟩
    rename_i columns _
    dsimp only
    cases b.conflict with
    | none => exact ⟨rfl, rfl⟩
    | some plan =>
      dsimp only
      have hsetup := onConflict_setup
        { b with
          scope := { b.scope with bindings := (bindRows columns b.bindings rows).2 }
          conflict := some plan } plan columns
      generalize Builder.onConflict _ plan columns = w at hsetup ⊢
      obtain ⟨_ | oc, b'⟩ := w
      · exact hsetup
      · exact hsetup
  withLast b sql bs := by
    unfold compileInsert
    simp only [withLast_with_scope]
    simp only [withLast_fault?, withLast_table, withLast_bindings, withLast_conflict, withLast_scope,
      onConflict_withLast]
    cases b.fault? with
    | some f => rfl
    | none =>
      dsimp only
      by_cases ht : b.table.isEmpty = true
      · simp only [ht, ↓reduceIte]
        rfl
      · simp only [ht, Bool.false_eq_true, ↓reduceIte]
        cases rowColumns op rows with
        | error e => rfl
        | ok columns =>
          dsimp only
          cases b.conflict with
          | none => rfl
          | some plan =>
            dsimp only
            generalize Builder.onConflict _ plan columns = w
            obtain ⟨_ | oc, b'⟩ := w
            · rfl
            · rfl

/-- **Writing an update** binds the values set, and keeps the rest of the builder. -/
theorem step_compileUpdate (values : Row) : Step (·.compileUpdate values) where
  setup b := by
    unfold compileUpdate
    split
    · exact ⟨rfl, rfl⟩
    split
    · exact ⟨rfl, rfl⟩
    dsimp only
    split
    · exact ⟨rfl, rfl⟩
    · exact ⟨rfl, rfl⟩
  withLast b sql bs := by
    unfold compileUpdate
    simp only [withLast_with_scope]
    simp only [withLast_fault?, withLast_table, withLast_bindings]
    cases b.fault? with
    | some f => rfl
    | none =>
      dsimp only
      by_cases ht : b.table.isEmpty = true
      · simp only [ht, ↓reduceIte]
        rfl
      · simp only [ht, Bool.false_eq_true, ↓reduceIte]
        split <;> rfl

/-- **Paging** sets the offset and the limit, and writes the select. -/
theorem step_pageQuery (op : String) (page perPage : Int) : Step (·.pageQuery op page perPage) where
  setup b := by
    unfold pageQuery
    split <;> exact ⟨rfl, rfl⟩
  withLast b sql bs := by
    unfold pageQuery
    cases Paging.offsetOf page perPage with
    | error e => rfl
    | ok offset => rfl

end Builder

namespace Call

/-- **Every builder call is a clause edit.** -/
theorem edit_apply (c : Call) : Builder.Edit (Call.apply · c) := by
  cases c with
  | table t => exact Builder.edit_setTable t
  | select cols => exact Builder.edit_select cols
  | distinct => exact ⟨fun _ => ⟨rfl, rfl⟩, fun _ _ _ => rfl⟩
  | orderBy column direction => exact Builder.edit_order column direction
  | limit n => exact Builder.edit_setLimit n
  | offset n => exact Builder.edit_setOffset n
  | force => exact ⟨fun _ => ⟨rfl, rfl⟩, fun _ _ _ => rfl⟩
  | join kind table first op second =>
    exact Builder.edit_joinWith kind table (some fun s => s.columns .and first op second)
  | joinWith kind table calls => exact Builder.edit_joinWith kind table _
  | joinOfType kind table calls => exact Builder.edit_joinOfType kind table _
  | onConflictDoNothing cols => exact Builder.edit_onConflictDoNothing cols
  | onConflictDoUpdate cols assignments => exact Builder.edit_onConflictDoUpdate cols assignments
  | cond w => exact ⟨fun _ => ⟨rfl, rfl⟩, fun _ _ _ => rfl⟩

theorem edit_applyAll : ∀ calls : List Call, Builder.Edit (applyAll · calls)
  | [] => Builder.Edit.id
  | c :: rest => (edit_apply c).comp (edit_applyAll rest)

end Call

/-! ## A program logic for runs -/

namespace Run

variable {σ α β : Type}

/-- The run with another last statement in its builder. -/
def withLast (r : Run σ) (sql : String) (bs : List Binding) : Run σ :=
  { r with builder := r.builder.withLast sql bs }

@[simp] theorem withLast_builder (r : Run σ) (sql : String) (bs : List Binding) :
    (r.withLast sql bs).builder = r.builder.withLast sql bs := rfl

/-- **Runs that differ at most in the builder's last statement.** -/
def Near (r₁ r₂ : Run σ) : Prop := ∃ sql bs, r₁ = r₂.withLast sql bs

/-- **Triples on the builder**: from a run whose builder satisfies `P`, the step ends with a
builder satisfying `Q`. -/
def Triple (P : Builder → Prop) (m : RunM σ α) (Q : Builder → Prop) : Prop :=
  ∀ r, P r.builder → Q (m.run r).2.builder

/-- **Relational triples**: from runs related by `E`, the steps `m₁` and `m₂` give the same
value, and runs related by `E'` of that value. -/
def Agrees (E : Run σ → Run σ → Prop) (m₁ m₂ : RunM σ α) (E' : α → Run σ → Run σ → Prop) : Prop :=
  ∀ r₁ r₂, E r₁ r₂ → (m₁.run r₁).1 = (m₂.run r₂).1 ∧ E' (m₁.run r₁).1 (m₁.run r₁).2 (m₂.run r₂).2

theorem run_bind (m : RunM σ α) (f : α → RunM σ β) (r : Run σ) :
    (m >>= f).run r = (f (m.run r).1).run (m.run r).2 := rfl

theorem Triple.bind {P Q R : Builder → Prop} {m : RunM σ α} {f : α → RunM σ β}
    (hm : Triple P m Q) (hf : ∀ a, Triple Q (f a) R) : Triple P (m >>= f) R :=
  fun r hr => hf _ _ (hm r hr)

theorem Agrees.bind {E : Run σ → Run σ → Prop} {E' : α → Run σ → Run σ → Prop}
    {E'' : β → Run σ → Run σ → Prop} {m₁ m₂ : RunM σ α} {f₁ f₂ : α → RunM σ β}
    (hm : Agrees E m₁ m₂ E') (hf : ∀ a, Agrees (E' a) (f₁ a) (f₂ a) E'') :
    Agrees E (m₁ >>= f₁) (m₂ >>= f₂) E'' := by
  intro r₁ r₂ hr
  obtain ⟨hval, hnext⟩ := hm r₁ r₂ hr
  rw [run_bind, run_bind, ← hval]
  exact hf _ _ _ hnext

/-- Equal runs go on equally. -/
theorem agrees_eq (m : RunM σ α) : Agrees (· = ·) m m (fun _ => (· = ·)) := by
  rintro r _ rfl
  exact ⟨rfl, rfl⟩

/-! ### Steps that keep the builder -/

/-- **Steps that leave the builder as it is**: they read it, log, or use the connection. -/
def Keeps (m : RunM σ α) : Prop := ∀ r, (m.run r).2.builder = r.builder

theorem Keeps.triple {m : RunM σ α} (h : Keeps m) (P : Builder → Prop) : Triple P m P := by
  intro r hr
  rw [h r]
  exact hr

theorem Keeps.bind {m : RunM σ α} {f : α → RunM σ β} (hm : Keeps m) (hf : ∀ a, Keeps (f a)) :
    Keeps (m >>= f) := by
  intro r
  rw [run_bind, hf, hm]

theorem keeps_pure (a : α) : Keeps (pure a : RunM σ α) := fun _ => rfl

theorem keeps_builder? : Keeps (builder? : RunM σ Builder) := fun _ => rfl

theorem keeps_onConn (f : σ → α × σ) : Keeps (onConn f) := fun _ => rfl

theorem keeps_log (e : Journal.Entry) : Keeps (log e : RunM σ Unit) := by
  intro r
  show (if r.builder.logging then { r with logs := r.logs ++ [e] } else r).builder = r.builder
  split <;> rfl

theorem keeps_failed (query : String) (err : Fault) : Keeps (failed query err : RunM σ Fault) :=
  keeps_builder?.bind fun _ => (keeps_log _).bind fun _ => keeps_pure _

/-- **Running a statement leaves the builder as it is**, on every path through the connection. -/
theorem keeps_runQuery (ex : Option (Executor σ)) (query : String)
    (read : List String → List (List Value) → Reading α) (empty : α) :
    Keeps (runQuery ex query read empty) := by
  unfold runQuery
  split
  · exact (keeps_builder?.bind fun _ => keeps_log _).bind fun _ => keeps_pure _
  · refine keeps_builder?.bind fun b => ?_
    split
    · exact keeps_pure _
    · refine (keeps_onConn _).bind fun res => ?_
      split
      · exact (keeps_failed _ _).bind fun _ => keeps_pure _
      · dsimp only
        split
        · split
          · exact keeps_pure _
          · exact (keeps_failed _ _).bind fun _ => keeps_pure _
        · split
          · exact (keeps_failed _ _).bind fun _ => keeps_pure _
          · exact (keeps_builder?.bind fun _ => keeps_log _).bind fun _ => keeps_pure _

theorem keeps_runExec (ex : Option (Executor σ)) (query : String) : Keeps (runExec ex query) := by
  unfold runExec
  split
  · exact (keeps_builder?.bind fun _ => keeps_log _).bind fun _ => keeps_pure _
  · refine keeps_builder?.bind fun b => ?_
    split
    · exact keeps_pure _
    · refine (keeps_onConn _).bind fun res => ?_
      split
      · exact (keeps_failed _ _).bind fun _ => keeps_pure _
      · refine (keeps_builder?.bind fun _ => keeps_log _).bind fun _ => ?_
        split
        · exact keeps_pure _
        · exact (keeps_failed _ _).bind fun _ => keeps_pure _

/-! ### Reading the builder -/

theorem run_read (k : Builder → RunM σ α) (r : Run σ) : (builder? >>= k).run r = (k r.builder).run r :=
  rfl

/-- Reading the builder for a step that does not look at its last statement. -/
theorem Agrees.read {k : Builder → RunM σ α} {E' : α → Run σ → Run σ → Prop}
    (hk : ∀ b, Agrees Near (k b) (k b) E') (hblind : ∀ b sql bs, k (b.withLast sql bs) = k b) :
    Agrees Near (builder? >>= k) (builder? >>= k) E' := by
  rintro _ r ⟨sql, bs, rfl⟩
  rw [run_read, run_read]
  rw [withLast_builder, hblind]
  exact hk r.builder _ r ⟨sql, bs, rfl⟩

theorem Triple.read {P Q : Builder → Prop} {k : Builder → RunM σ α}
    (hk : ∀ b, P b → Triple (· = b) (k b) Q) : Triple P (builder? >>= k) Q := by
  intro r hr
  rw [run_read]
  exact hk r.builder hr r rfl

/-- Reading the builder, replacing it by an edit of it, and going on with the edit's value: the
edit keeps the dialect and the logging. -/
theorem Triple.modify {P Q : Builder → Prop} {g : Builder → β × Builder}
    (hg : ∀ b, P b → P (g b).2) {k : β → Builder → RunM σ α} (hk : ∀ x b', Triple P (k x b') Q) :
    Triple P (builder? >>= fun b => match g b with
      | (x, b') => change (fun _ => b') >>= fun _ => k x b') Q := by
  refine Triple.read fun b hb r hr => ?_
  subst hr
  rcases hgb : g r.builder with ⟨x, b'⟩
  have hb' : P b' := by simpa [hgb] using hg r.builder hb
  exact hk x b' { r with builder := b' } hb'

/-- Reading the builder and replacing it by an edit of it: from runs that differ at most in the
last statement, the edit gives the same value, and builders that differ at most there. -/
theorem Agrees.modify {g : Builder → β × Builder} (hg : Builder.Step g) {k : β → Builder → RunM σ α}
    {E' : α → Run σ → Run σ → Prop} (hk : ∀ x b', Agrees Near (k x b') (k x b') E')
    (hblind : ∀ x b' sql bs, k x (b'.withLast sql bs) = k x b') :
    Agrees Near (builder? >>= fun b => match g b with
        | (x, b') => change (fun _ => b') >>= fun _ => k x b')
      (builder? >>= fun b => match g b with
        | (x, b') => change (fun _ => b') >>= fun _ => k x b') E' := by
  rintro _ r ⟨sql, bs, rfl⟩
  rw [run_read, run_read]
  rw [withLast_builder, hg.withLast]
  rcases g r.builder with ⟨x, b'⟩
  simp only [Prod.map_fst, Prod.map_snd, id_eq]
  rw [run_bind, run_bind, hblind]
  exact hk x b' ({ r with builder := b' }.withLast sql bs) { r with builder := b' } ⟨sql, bs, rfl⟩

/-! ### Steps before the statement is recorded, and terminal steps -/

/-- **Steps before a statement is recorded**: they keep the dialect and the logging, and from
runs that differ at most in the last statement they give the same value and such runs again. -/
structure Prepares (m : RunM σ α) : Prop where
  setup : ∀ d logging, Triple (Builder.Setup d logging) m (Builder.Setup d logging)
  near : Agrees Near m m (fun _ => Near)

/-- **Terminal steps**: they end with a cleared builder of the dialect and the logging they
started with, and from runs that differ at most in the last statement they give the same value
and the same run. -/
structure Ends (m : RunM σ α) : Prop where
  clears : ∀ d logging, Triple (Builder.Setup d logging) m (Builder.Cleared d logging)
  exact : Agrees Near m m (fun _ => (· = ·))

theorem prepares_pure (a : α) : Prepares (pure a : RunM σ α) where
  setup _ _ := (keeps_pure a).triple _
  near _ _ h := ⟨rfl, h⟩

theorem prepares_change {f : Builder → Builder} (hf : Builder.Edit f) :
    Prepares (change f : RunM σ Unit) where
  setup _ _ r hr := hr.of_same (hf.setup r.builder)
  near := by
    rintro _ r ⟨sql, bs, rfl⟩
    refine ⟨rfl, sql, bs, ?_⟩
    show { r with builder := f (r.builder.withLast sql bs) } = { r with builder := (f r.builder).withLast sql bs }
    rw [hf.withLast]

theorem Prepares.bind {m : RunM σ α} {f : α → RunM σ β} (hm : Prepares m) (hf : ∀ a, Prepares (f a)) :
    Prepares (m >>= f) where
  setup d logging := (hm.setup d logging).bind fun a => (hf a).setup d logging
  near := hm.near.bind fun a => (hf a).near

theorem Prepares.modify {g : Builder → β × Builder} (hg : Builder.Step g) :
    Prepares (builder? >>= fun b => match g b with
      | (x, b') => change (fun _ => b') >>= fun _ => (pure x : RunM σ β)) where
  setup d logging := Triple.modify (fun b hb => hb.of_same (hg.setup b))
    fun x _ => (prepares_pure x).setup d logging
  near := Agrees.modify hg (fun x _ => (prepares_pure x).near) fun _ _ _ _ => rfl

theorem Ends.bind {m : RunM σ α} {f : α → RunM σ β} (hm : Prepares m) (hf : ∀ a, Ends (f a)) :
    Ends (m >>= f) where
  clears d logging := (hm.setup d logging).bind fun a => (hf a).clears d logging
  exact := hm.near.bind fun a => (hf a).exact

/-- A terminal step followed by steps that keep the builder is terminal. -/
theorem Ends.then {m : RunM σ α} {f : α → RunM σ β} (hm : Ends m) (hf : ∀ a, Keeps (f a)) :
    Ends (m >>= f) where
  clears d logging := (hm.clears d logging).bind fun a => (hf a).triple _
  exact := hm.exact.bind fun a => agrees_eq (f a)

theorem Ends.read {k : Builder → RunM σ α} (hk : ∀ b, Ends (k b))
    (hblind : ∀ b sql bs, k (b.withLast sql bs) = k b) : Ends (builder? >>= k) where
  clears d logging := (keeps_builder?.triple _).bind fun b => (hk b).clears d logging
  exact := Agrees.read (fun b => (hk b).exact) hblind

/-- Reading the builder, replacing it by a step of it, and going on with the step's value and
the new builder. The step is given as an equation, so that the rest `K` is found from the
program. -/
theorem Ends.modify {g : Builder → β × Builder} (hg : Builder.Step g) {k : Builder → RunM σ α}
    {K : β → Builder → RunM σ α}
    (hkg : ∀ b, k b = change (fun _ => (g b).2) >>= fun _ => K (g b).1 (g b).2)
    (hK : ∀ x b', Ends (K x b')) (hblind : ∀ x b' sql bs, K x (b'.withLast sql bs) = K x b') :
    Ends (builder? >>= k) where
  clears d logging := by
    intro r hr
    rw [run_read, hkg, run_bind]
    exact (hK _ _).clears d logging _ (hr.of_same (hg.setup r.builder))
  exact := by
    rintro _ r ⟨sql, bs, rfl⟩
    rw [run_read, run_read, hkg, hkg, run_bind, run_bind]
    rw [withLast_builder, hg.withLast]
    simp only [Prod.map_fst, Prod.map_snd, id_eq]
    rw [hblind]
    exact (hK _ _).exact _ _ ⟨sql, bs, rfl⟩

/-! ### Recording, refusing and clearing -/

theorem clears_finish (o : Outcome α) (d : Dialect) (logging : Bool) :
    Triple (Builder.Setup d logging) (finish o : RunM σ (Outcome α)) (Builder.Cleared d logging) :=
  fun _ hr => Builder.reset_cleared hr

/-- **A refused call** records an empty statement, which overwrites the last one, and clears the
builder. -/
theorem ends_refuse (empty : α) (f : Fault) : Ends (refuse empty f : RunM σ (Outcome α)) where
  clears _ _ _ hr := Builder.reset_cleared hr
  exact := by
    rintro _ r ⟨sql, bs, rfl⟩
    exact ⟨rfl, rfl⟩

/-- **A recorded statement** overwrites the last one, so what follows runs alike. -/
theorem Ends.record (query : String) {m : RunM σ α}
    (hm : ∀ d logging, Triple (Builder.Setup d logging) m (Builder.Cleared d logging)) :
    Ends (record query >>= fun _ => m) where
  clears d logging := Triple.bind (fun _ hr => hr) fun _ => hm d logging
  exact := by
    rintro _ r ⟨sql, bs, rfl⟩
    exact ⟨rfl, rfl⟩

/-- **The end of most terminal calls**: a fault before the statement is refused; a statement is
recorded, run, and the builder cleared. -/
theorem ends_written (empty : α) {run : String → RunM σ (Outcome α)} (hrun : ∀ q, Keeps (run q))
    (w : Except Fault String) :
    Ends (match w with
      | .error e => refuse empty e
      | .ok q => record q >>= fun _ => run q >>= fun o => finish o) := by
  cases w with
  | error e => exact ends_refuse empty e
  | ok q => exact Ends.record q fun d logging => ((hrun q).triple _).bind fun o => clears_finish o d logging

/-- Readying a hand-written statement keeps the dialect and the logging. -/
theorem prepareRaw_setup (op query : String) (params : List (String × Value)) (d : Dialect)
    (logging : Bool) :
    Triple (Builder.Setup d logging) (prepareRaw op query params : RunM σ (Except Fault String))
      (Builder.Setup d logging) := by
  unfold prepareRaw
  refine @Triple.modify σ _ _ _ _ (fun b => b.prepareRaw op query params) (fun b hb => ?_)
    (fun w _ => pure w) fun w _ => (prepares_pure w).setup d logging
  unfold Builder.prepareRaw
  dsimp only
  split <;> exact hb

/-- **A hand-written statement** is recorded as it is readied, with its bindings, whatever the
last statement was; refused, the builder is kept and records an empty one. -/
theorem ends_raw (op query : String) (params : List (String × Value)) (empty : α)
    {run : String → RunM σ (Outcome α)} (hrun : ∀ q, Keeps (run q)) :
    Ends (prepareRaw op query params >>= fun w => match w with
      | .error e => refuse empty e
      | .ok q => run q >>= fun o => finish o) where
  clears d logging := by
    refine (prepareRaw_setup op query params d logging).bind fun w => ?_
    cases w with
    | error e => exact (ends_refuse empty e).clears d logging
    | ok q => exact ((hrun q).triple _).bind fun o => clears_finish o d logging
  exact := by
    rintro _ r ⟨sql, bs, rfl⟩
    rw [run_bind, run_bind]
    by_cases hq : (Text.trim query).isEmpty = true
    · have hrefused : ∀ r : Run σ, (prepareRaw op query params).run r =
          (.error (Fault.invalid op "statement is empty"), r) := by
        intro r
        simp only [prepareRaw, Builder.prepareRaw, hq, ↓reduceIte]
        rfl
      rw [hrefused, hrefused]
      exact (ends_refuse empty _).exact _ _ ⟨sql, bs, rfl⟩
    · have hreadied : (prepareRaw op query params).run (r.withLast sql bs) =
          (prepareRaw op query params).run r := by
        simp only [prepareRaw, Builder.prepareRaw, hq, Bool.false_eq_true, ↓reduceIte]
        rfl
      rw [hreadied]
      exact ⟨rfl, rfl⟩

/-! ## Every terminal call -/

theorem prepares_compileInsert (op : String) (rows : List Row) (returning : List Term) :
    Prepares (compileInsert op rows returning : RunM σ (Except Fault String)) :=
  Prepares.modify (Builder.step_compileInsert op rows returning)

theorem ends_get (ex : Option (Executor σ)) (op : String) : Ends (get ex op) :=
  Ends.read (fun b => ends_written [] (fun q => keeps_runQuery ex q readRows []) (b.compileSelect op))
    fun _ _ _ => rfl

/-- `first` sets the limit and takes the rows as `get` gives them; what follows reads only those. -/
theorem ends_first (ex : Option (Executor σ)) (columns : List Value) : Ends (first ex columns) := by
  unfold first
  refine Ends.read (fun b => ?_) fun _ _ _ => rfl
  extract_lets rest
  have hrest : ∀ u, Ends (rest u) := fun _ =>
    Ends.bind (prepares_change (Builder.edit_setLimit 1)) fun _ =>
      Ends.then (ends_get ex "get") fun o => by
        split
        · exact keeps_pure _
        · split
          · exact keeps_pure _
          · split <;> exact keeps_pure _
  split
  · exact Ends.bind (prepares_change (Builder.edit_select columns)) hrest
  · exact hrest ()

theorem ends_pluck (ex : Option (Executor σ)) (column : Value) : Ends (pluck ex column) :=
  Ends.bind (prepares_change (Builder.edit_select [column])) fun _ =>
    Ends.read (fun b => ends_written [] (fun q => keeps_runQuery ex q readColumn []) (b.compileSelect "pluck"))
      fun _ _ _ => rfl

theorem ends_scan (ex : Option (Executor σ)) (d : Destination) : Ends (scan ex d) :=
  Ends.read (fun b => ends_written none (fun q => keeps_runQuery ex q (readInto d) none) (b.compileSelect "scan"))
    fun _ _ _ => rfl

theorem ends_count (ex : Option (Executor σ)) : Ends (count ex) :=
  Ends.read (fun b => ends_written 0 (fun q => keeps_runQuery ex q readCount 0) (b.compileSelect "count" true))
    fun _ _ _ => rfl

theorem ends_mapInto (ex : Option (Executor σ)) (shape : Shape) : Ends (mapInto ex shape) :=
  Ends.then (ends_get ex "get") fun o => by
    split
    · exact keeps_pure _
    · split <;> exact keeps_pure _

theorem ends_insert (ex : Option (Executor σ)) (rows : List Row) : Ends (insert ex rows) :=
  Ends.bind (prepares_compileInsert "insert" rows []) fun w =>
    ends_written 0 (fun q => keeps_runExec ex q) w

/-- A record that cannot be converted is a fault; the rows go to `insert` either way. -/
theorem ends_insertConverted (ex : Option (Executor σ)) (records : List (Except Fault Row)) :
    Ends (insertConverted ex records) := by
  unfold insertConverted
  split
  extract_lets rest
  split
  · exact Ends.bind (prepares_change (Builder.edit_fail _)) fun _ => ends_insert ex _
  · exact ends_insert ex _

theorem ends_upsert (ex : Option (Executor σ)) (rows : List Row) (unique : List String)
    (assignments : List (String × ConflictValue)) : Ends (upsert ex rows unique assignments) := by
  unfold upsert
  extract_lets rest
  split
  · exact Ends.bind (prepares_change (Builder.edit_fail _)) fun _ => ends_insert ex rows
  · refine Ends.read (fun b => ?_) fun _ _ _ => rfl
    split
    · exact Ends.bind (prepares_change (Builder.edit_onConflictDoUpdate unique assignments)) fun _ =>
        ends_insert ex rows
    · exact ends_insert ex rows

/-- A dialect without `RETURNING` records a fault before the insert is written. -/
theorem ends_insertReturning (ex : Option (Executor σ)) (rows : List Row) (returning : List String) :
    Ends (insertReturning ex rows returning) := by
  unfold insertReturning
  refine Ends.read (fun b => ?_) fun _ _ _ => rfl
  extract_lets names rest
  have hrest : ∀ u, Ends (rest u) := fun _ =>
    Ends.bind (prepares_compileInsert "insertReturning" rows _) fun w =>
      ends_written [] (fun q => keeps_runQuery ex q readRows []) w
  split
  · exact Ends.bind (prepares_change (Builder.edit_fail _)) hrest
  · exact hrest ()

theorem ends_update (ex : Option (Executor σ)) (values : Row) : Ends (update ex values) := by
  refine Ends.modify (Builder.step_compileUpdate values) (fun b => ?_)
    (fun w _ => ends_written 0 (fun q => keeps_runExec ex q) w) fun _ _ _ _ => rfl
  rcases b.compileUpdate values with ⟨w, b'⟩
  rfl

theorem ends_delete (ex : Option (Executor σ)) : Ends (delete ex) :=
  Ends.read (fun b => ends_written 0 (fun q => keeps_runExec ex q) b.compileDelete) fun _ _ _ => rfl

/-- The page is recorded; the count runs after it, and every way out clears the builder. -/
theorem ends_paginate (ex : Option (Executor σ)) (page perPage : Int) :
    Ends (paginate ex page perPage) := by
  unfold paginate
  refine @Ends.modify _ _ _ _ (Builder.step_pageQuery "paginate" page perPage) _ ?K (fun b => ?hkg)
    (fun w b' => ?hK) ?hblind
  case hkg =>
    rcases b.pageQuery "paginate" page perPage with ⟨w, b'⟩
    dsimp only
    rfl
  case hblind =>
    intro w b' sql bs
    rfl
  split
  · exact ends_refuse none _
  split
  · exact ends_refuse none _
  refine Ends.record _ fun d logging => ((keeps_runQuery ex _ readRows []).triple _).bind fun items => ?_
  split
  · exact clears_finish _ d logging
  refine ((keeps_runQuery ex _ readCount 0).triple _).bind fun total => ?_
  split
  · exact clears_finish _ d logging
  · split <;> exact clears_finish _ d logging

theorem ends_simplePaginate (ex : Option (Executor σ)) (page perPage : Int) :
    Ends (simplePaginate ex page perPage) := by
  unfold simplePaginate
  refine @Ends.modify _ _ _ _ (Builder.step_pageQuery "simplePaginate" page perPage) _ ?K (fun b => ?hkg)
    (fun w b' => ?hK) ?hblind
  case hkg =>
    rcases b.pageQuery "simplePaginate" page perPage with ⟨w, b'⟩
    dsimp only
    rfl
  case hblind =>
    intro w b' sql bs
    rfl
  split
  · exact ends_refuse none _
  refine Ends.record _ fun d logging => ((keeps_runQuery ex _ readRows []).triple _).bind fun items => ?_
  split
  · exact clears_finish _ d logging
  · split <;> exact clears_finish _ d logging

theorem ends_rawSelect (ex : Option (Executor σ)) (query : String) (params : List (String × Value)) :
    Ends (rawSelect ex query params) :=
  ends_raw "select" query params [] fun q => keeps_runQuery ex q readRows []

theorem ends_rawExec (ex : Option (Executor σ)) (query : String) (params : List (String × Value)) :
    Ends (rawExec ex query params) :=
  ends_raw "exec" query params 0 fun q => keeps_runExec ex q

end Run

/-- **Every terminal call is a terminal step.** -/
theorem Terminal.ends {σ α : Type} (ex : Option (Executor σ)) : ∀ t : Terminal α, Run.Ends (t.run ex)
  | .get op => Run.ends_get ex op
  | .first columns => Run.ends_first ex columns
  | .pluck column => Run.ends_pluck ex column
  | .scan d => Run.ends_scan ex d
  | .count => Run.ends_count ex
  | .mapInto shape => Run.ends_mapInto ex shape
  | .insert rows => Run.ends_insert ex rows
  | .insertConverted records => Run.ends_insertConverted ex records
  | .upsert rows unique assignments => Run.ends_upsert ex rows unique assignments
  | .insertReturning rows returning => Run.ends_insertReturning ex rows returning
  | .update values => Run.ends_update ex values
  | .delete => Run.ends_delete ex
  | .paginate page perPage => Run.ends_paginate ex page perPage
  | .simplePaginate page perPage => Run.ends_simplePaginate ex page perPage
  | .rawSelect query params => Run.ends_rawSelect ex query params
  | .rawExec query params => Run.ends_rawExec ex query params

/-- **Every terminal call clears the builder.** Whatever the builder held, and however the call
ends, afterwards the builder is a fresh one of the same dialect and logging, holding only the
statement the call recorded; so a later chain of calls and terminal call runs on it exactly as on
a fresh builder, with the same result, statement, bindings, logs and connection state: the reused
builder differs from a fresh one only in its last statement, which no call reads. -/
theorem terminal_clears_builder {σ α β : Type} (ex : Option (Executor σ)) (t : Terminal α)
    (r : Run σ) :
    let r' := ((t.run ex).run r).2
    r'.builder = { Builder.new r.builder.dialect r.builder.logging with
      lastSql := r'.builder.lastSql, lastBindings := r'.builder.lastBindings } ∧
    ∀ (calls : List Call) (t' : Terminal β),
      (t'.run ex).run { r' with builder := Call.applyAll r'.builder calls } =
        (t'.run ex).run
          { r' with builder := Call.applyAll (Builder.new r.builder.dialect r.builder.logging) calls } := by
  intro r'
  obtain ⟨sql, bs, hcleared⟩ := (Terminal.ends ex t).clears r.builder.dialect r.builder.logging r ⟨rfl, rfl⟩
  refine ⟨by rw [hcleared]; rfl, fun calls t' => ?_⟩
  have hnear : Run.Near { r' with builder := Call.applyAll r'.builder calls }
      { r' with builder := Call.applyAll (Builder.new r.builder.dialect r.builder.logging) calls } := by
    refine ⟨sql, bs, ?_⟩
    show _ = { r' with builder := (Call.applyAll _ calls).withLast sql bs }
    rw [← (Call.edit_applyAll calls).withLast, ← hcleared]
  obtain ⟨hval, hrun⟩ := (Terminal.ends ex t').exact _ _ hnear
  exact Prod.ext hval hrun

end QueryKit.Query
