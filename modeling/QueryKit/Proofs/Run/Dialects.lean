import Mathlib
import QueryKit.Proofs.Binding.Dialect
import QueryKit.Proofs.Fault.Terminal

/-!
# Pretended runs in two dialects

A builder without a connection pretends: every terminal call writes its statement, records it with
its bindings, logs it and gives an empty result. Run in two dialects, the same chain of calls and
the same terminal call write different statements, yet take the same course and record the same
bindings, except where the dialects differ in what they can write:

* `Outcome.Alike`: the same result, and faults of one kind or none in both;
* `Run.Coupled B W m₁ m₂ R`: a relational program logic on two runs, from builders related by `B`
  to builders related by `W`, with a rule per primitive step (`Coupled.bind`, `Coupled.read`,
  `Coupled.modify`, `coupled_record`, `coupled_refuse`, `coupled_finish`, `coupled_written`);
* `Builder.Coupling B W`: what the steps of a terminal call ask of two relations, `B` between
  builders of one statement under construction and a wider `W` between builders that have
  written it; for every coupling, every terminal call, pretended, is coupled with itself
  (`Terminal.coupled`);
* `Run.Paired d₁ d₂`: the logic on twins (`Builder.Twin`), which form a coupling
  (`Builder.twin_coupling`); every terminal call is paired with itself when the dialects bind its
  conflict values alike and, for `insertReturning`, both write `RETURNING` (`Terminal.paired`);
* `bindings_independent_of_dialect`: the same outcome class and the same bindings for every chain
  of calls and terminal call, but for the two ways dialects differ: `insertReturning` is refused
  by a dialect without `RETURNING`, and a conflict value that takes a slot in an `ON CONFLICT`
  clause takes none in an `ON DUPLICATE KEY` clause.
-/

namespace QueryKit.Query

open Sql

/-- **Alike outcomes**: the same result, and faults of one kind or none in both. -/
def Outcome.Alike {α : Type} (o₁ o₂ : Outcome α) : Prop :=
  o₁.result = o₂.result ∧ o₁.fault.map Fault.kind = o₂.fault.map Fault.kind

theorem Outcome.alike_refl {α : Type} (o : Outcome α) : o.Alike o := ⟨rfl, rfl⟩

/-- Outcomes with one result and faults of one kind are alike. -/
theorem Outcome.alike_fault {α : Type} (a : α) {f₁ f₂ : Fault} (h : f₁.kind = f₂.kind) :
    Outcome.Alike ⟨a, some f₁⟩ ⟨a, some f₂⟩ :=
  ⟨rfl, by simp [h]⟩

namespace Builder

/-- **A coupling of builders** for two pretended runs: a relation `B` between builders of one
statement under construction, and a wider one `W` between builders that have written it. Clause
edits keep `B`; from `B`-related builders a statement is refused alike or written by both, leaving
builders related by `B` again, or by `W` after an insert, which may bind more values in one of
them; recording a statement keeps `W`, and clearing the builders narrows it to `B`. -/
structure Coupling (B W : Builder → Builder → Prop) : Prop where
  wider : ∀ {b₁ b₂}, B b₁ b₂ → W b₁ b₂
  record : ∀ {b₁ b₂}, W b₁ b₂ → ∀ q₁ q₂,
    W { b₁ with lastSql := q₁, lastBindings := b₁.bindings.entries }
      { b₂ with lastSql := q₂, lastBindings := b₂.bindings.entries }
  reset : ∀ {b₁ b₂}, W b₁ b₂ → B b₁.reset b₂.reset
  columns : ∀ {b₁ b₂}, B b₁ b₂ → b₂.columns = b₁.columns
  conflict : ∀ {b₁ b₂}, B b₁ b₂ → b₂.conflict = b₁.conflict
  fail : ∀ {b₁ b₂}, B b₁ b₂ → ∀ e, B (b₁.fail e) (b₂.fail e)
  setLimit : ∀ {b₁ b₂}, B b₁ b₂ → ∀ n, B (b₁.setLimit n) (b₂.setLimit n)
  select : ∀ {b₁ b₂}, B b₁ b₂ → ∀ cols, B (b₁.select cols) (b₂.select cols)
  compileSelect : ∀ {b₁ b₂}, B b₁ b₂ → ∀ op count,
    SameCourse (b₁.compileSelect op count) (b₂.compileSelect op count)
  compileDelete : ∀ {b₁ b₂}, B b₁ b₂ → SameCourse b₁.compileDelete b₂.compileDelete
  compileUpdate : ∀ {b₁ b₂}, B b₁ b₂ → ∀ values,
    SameCourse (b₁.compileUpdate values).1 (b₂.compileUpdate values).1 ∧
      B (b₁.compileUpdate values).2 (b₂.compileUpdate values).2
  pageQuery : ∀ {b₁ b₂}, B b₁ b₂ → ∀ op page perPage,
    SameCourse (b₁.pageQuery op page perPage).1 (b₂.pageQuery op page perPage).1 ∧
      B (b₁.pageQuery op page perPage).2 (b₂.pageQuery op page perPage).2
  compileInsert : ∀ {b₁ b₂}, B b₁ b₂ → ∀ op rows returning,
    (!returning.isEmpty && !b₁.dialect.returning) = (!returning.isEmpty && !b₂.dialect.returning) →
    SameCourse (b₁.compileInsert op rows returning).1 (b₂.compileInsert op rows returning).1 ∧
      W (b₁.compileInsert op rows returning).2 (b₂.compileInsert op rows returning).2
  prepareRaw : ∀ {b₁ b₂}, B b₁ b₂ → ∀ op query params,
    (b₁.prepareRaw op query params).1 = (b₂.prepareRaw op query params).1 ∧
      B (b₁.prepareRaw op query params).2 (b₂.prepareRaw op query params).2

/-- **Twins form a coupling**, standing for both of its relations. -/
theorem twin_coupling (d₁ d₂ : Dialect) : Coupling (Twin d₁ d₂) (Twin d₁ d₂) where
  wider h := h
  record h := h.record
  reset h := h.reset
  columns h := h.columns
  conflict h := h.conflict
  fail h := h.fail
  setLimit h := h.setLimit
  select h := h.select
  compileSelect h := h.compileSelect
  compileDelete h := h.compileDelete
  compileUpdate h values := (writes_compileUpdate values).twin h
  pageQuery h op page perPage := (writes_pageQuery op page perPage).twin h
  compileInsert h op rows returning hret := by
    rw [h.left, h.right_dialect] at hret
    exact h.compileInsert op rows returning hret
  prepareRaw h := h.prepareRaw

end Builder

namespace Run

variable {σ α β γ δ : Type}

/-! ## A program logic for two runs -/

/-- **Coupled steps**: from runs whose builders are related by `P`, the steps give values related
by `R`, and runs whose builders are related by `Q`. -/
def Coupled (P Q : Builder → Builder → Prop) (m₁ : RunM σ α) (m₂ : RunM σ β) (R : α → β → Prop) :
    Prop :=
  ∀ r₁ r₂, P r₁.builder r₂.builder →
    R (m₁.run r₁).1 (m₂.run r₂).1 ∧ Q (m₁.run r₁).2.builder (m₂.run r₂).2.builder

/-- **Paired steps** in the dialects `d₁` and `d₂`: from runs whose builders are twins, the
steps give values related by `R`, and runs whose builders are twins again. -/
def Paired (d₁ d₂ : Dialect) (m₁ : RunM σ α) (m₂ : RunM σ β) (R : α → β → Prop) : Prop :=
  ∀ r₁ r₂, Builder.Twin d₁ d₂ r₁.builder r₂.builder →
    R (m₁.run r₁).1 (m₂.run r₂).1 ∧ Builder.Twin d₁ d₂ (m₁.run r₁).2.builder (m₂.run r₂).2.builder

section Logic

variable {P Q S : Builder → Builder → Prop}

theorem Coupled.bind {m₁ : RunM σ α} {m₂ : RunM σ β} {f₁ : α → RunM σ γ} {f₂ : β → RunM σ δ}
    {R : α → β → Prop} {T : γ → δ → Prop} (hm : Coupled P Q m₁ m₂ R)
    (hf : ∀ a b, R a b → Coupled Q S (f₁ a) (f₂ b) T) : Coupled P S (m₁ >>= f₁) (m₂ >>= f₂) T := by
  intro r₁ r₂ h
  obtain ⟨hR, hQ⟩ := hm r₁ r₂ h
  rw [run_bind, run_bind]
  exact hf _ _ hR _ _ hQ

/-- Steps coupled from builders related one way are coupled from builders related more narrowly. -/
theorem Coupled.of_narrower {P' : Builder → Builder → Prop} {m₁ : RunM σ α} {m₂ : RunM σ β}
    {R : α → β → Prop} (h : Coupled P Q m₁ m₂ R) (hP : ∀ {b₁ b₂}, P' b₁ b₂ → P b₁ b₂) :
    Coupled P' Q m₁ m₂ R :=
  fun r₁ r₂ h' => h r₁ r₂ (hP h')

theorem coupled_pure {a : α} {b : β} {R : α → β → Prop} (h : R a b) :
    Coupled P P (pure a : RunM σ α) (pure b) R :=
  fun _ _ hP => ⟨h, hP⟩

/-- Reading the builder: the two steps read related builders. -/
theorem Coupled.read {k₁ : Builder → RunM σ α} {k₂ : Builder → RunM σ β} {R : α → β → Prop}
    (hk : ∀ b₁ b₂, P b₁ b₂ → Coupled P Q (k₁ b₁) (k₂ b₂) R) :
    Coupled P Q (builder? >>= k₁) (builder? >>= k₂) R := by
  intro r₁ r₂ h
  rw [run_read, run_read]
  exact hk _ _ h r₁ r₂ h

theorem coupled_change {f₁ f₂ : Builder → Builder} (hf : ∀ b₁ b₂, P b₁ b₂ → Q (f₁ b₁) (f₂ b₂)) :
    Coupled P Q (change f₁ : RunM σ Unit) (change f₂) fun _ _ => True :=
  fun _ _ h => ⟨trivial, hf _ _ h⟩

/-- Steps that keep the builder and give values related whatever the runs. -/
theorem coupled_keeps {m₁ : RunM σ α} {m₂ : RunM σ β} {R : α → β → Prop} (h₁ : Keeps m₁)
    (h₂ : Keeps m₂) (hR : ∀ r₁ r₂, R (m₁.run r₁).1 (m₂.run r₂).1) : Coupled P P m₁ m₂ R := by
  intro r₁ r₂ h
  refine ⟨hR r₁ r₂, ?_⟩
  rw [h₁ r₁, h₂ r₂]
  exact h

/-- Reading the builder, replacing it by a step of it, and going on with the step's value and
the new builder. The step is given as an equation, so that the rest `K` is found from the
program. -/
theorem Coupled.modify {g : Builder → β × Builder} {k : Builder → RunM σ α}
    {K : β → Builder → RunM σ α} {R : β → β → Prop} {T : α → α → Prop}
    (hkg : ∀ b, k b = change (fun _ => (g b).2) >>= fun _ => K (g b).1 (g b).2)
    (hg : ∀ b₁ b₂, P b₁ b₂ → R (g b₁).1 (g b₂).1 ∧ Q (g b₁).2 (g b₂).2)
    (hK : ∀ x₁ x₂ b₁ b₂, R x₁ x₂ → Q b₁ b₂ → Coupled Q S (K x₁ b₁) (K x₂ b₂) T) :
    Coupled P S (builder? >>= k) (builder? >>= k) T := by
  refine Coupled.read fun b₁ b₂ h => ?_
  rw [hkg, hkg]
  obtain ⟨hR, hQ⟩ := hg b₁ b₂ h
  exact (coupled_change fun _ _ _ => hQ).bind fun _ _ _ => hK _ _ _ _ hR hQ

/-- **A pretended statement** gives the empty result, whatever it is. -/
theorem coupled_runQuery (q₁ q₂ : String) (read : List String → List (List Value) → Reading α)
    (empty : α) :
    Coupled P P (runQuery (none : Option (Executor σ)) q₁ read empty) (runQuery none q₂ read empty)
      Outcome.Alike :=
  coupled_keeps (keeps_runQuery none q₁ read empty) (keeps_runQuery none q₂ read empty)
    fun _ _ => Outcome.alike_refl _

theorem coupled_runExec (q₁ q₂ : String) :
    Coupled P P (runExec (none : Option (Executor σ)) q₁) (runExec none q₂) Outcome.Alike :=
  coupled_keeps (keeps_runExec none q₁) (keeps_runExec none q₂) fun _ _ => Outcome.alike_refl _

/-- **Going on from alike outcomes**: the rest is coupled where it passes a fault on, and where
there is none it reads only the result. -/
theorem Coupled.bind_alike {m₁ m₂ : RunM σ (Outcome α)} {k₁ k₂ : Outcome α → RunM σ β}
    {T : β → β → Prop} (hm : Coupled P Q m₁ m₂ Outcome.Alike)
    (hfault : ∀ a f₁ f₂, f₁.kind = f₂.kind → Coupled Q S (k₁ ⟨a, some f₁⟩) (k₂ ⟨a, some f₂⟩) T)
    (hnone : ∀ a, Coupled Q S (k₁ ⟨a, none⟩) (k₂ ⟨a, none⟩) T) :
    Coupled P S (m₁ >>= k₁) (m₂ >>= k₂) T := by
  refine hm.bind fun o₁ o₂ ho => ?_
  rcases o₁ with ⟨res₁, _ | f₁⟩ <;> rcases o₂ with ⟨res₂, _ | f₂⟩
  · obtain ⟨rfl, -⟩ := ho
    exact hnone res₁
  · simp [Outcome.Alike] at ho
  · simp [Outcome.Alike] at ho
  · obtain ⟨rfl, hkind⟩ := ho
    exact hfault res₁ f₁ f₂ (by simpa using hkind)

end Logic

/-! ## Recording, refusing and clearing -/

section Steps

variable {B W : Builder → Builder → Prop} (hc : Builder.Coupling B W)
include hc

/-- **Recorded statements**: builders that wrote their statements stay related. -/
theorem coupled_record (q₁ q₂ : String) :
    Coupled W W (record q₁ : RunM σ Unit) (record q₂) fun _ _ => True :=
  fun _ _ h => ⟨trivial, hc.record h q₁ q₂⟩

theorem coupled_finish {o₁ o₂ : Outcome α} (h : o₁.Alike o₂) :
    Coupled W B (finish o₁ : RunM σ (Outcome α)) (finish o₂) Outcome.Alike :=
  fun _ _ hw => ⟨h, hc.reset hw⟩

/-- **Refusals with faults of one kind** are alike; both record an empty statement with their
bindings, and clear the builders. -/
theorem coupled_refuse (empty : α) {f₁ f₂ : Fault} (h : f₁.kind = f₂.kind) :
    Coupled W B (refuse empty f₁ : RunM σ (Outcome α)) (refuse empty f₂) Outcome.Alike :=
  fun _ _ hw => ⟨Outcome.alike_fault empty h, hc.reset (hc.record hw "" "")⟩

/-- **The end of most terminal calls**, from two writings that take the same course: refused
alike, or recorded, run alike and cleared. -/
theorem coupled_written (empty : α) {run₁ run₂ : String → RunM σ (Outcome α)}
    (hrun : ∀ q₁ q₂, Coupled W W (run₁ q₁) (run₂ q₂) Outcome.Alike) {w₁ w₂ : Except Fault String}
    (hw : SameCourse w₁ w₂) :
    Coupled W B
      (match w₁ with
        | .error e => refuse empty e
        | .ok q => record q >>= fun _ => run₁ q >>= fun o => finish o)
      (match w₂ with
        | .error e => refuse empty e
        | .ok q => record q >>= fun _ => run₂ q >>= fun o => finish o) Outcome.Alike := by
  cases w₁ <;> cases w₂
  · exact coupled_refuse hc empty hw
  · exact hw.elim
  · exact hw.elim
  · exact (coupled_record hc _ _).bind fun _ _ _ => (hrun _ _).bind fun _ _ ho => coupled_finish hc ho

end Steps

/-! ## Every terminal call, pretended -/

section Terminals

variable {B W : Builder → Builder → Prop} (hc : Builder.Coupling B W)
include hc

theorem coupled_get (op : String) :
    Coupled B B (get (none : Option (Executor σ)) op) (get none op) Outcome.Alike :=
  Coupled.read fun _ _ h =>
    (coupled_written hc [] (fun q₁ q₂ => coupled_runQuery q₁ q₂ readRows [])
      (hc.compileSelect h op false)).of_narrower hc.wider

/-- The first row: the limit is set and the rows are taken as `get` gives them, a fault passed
on. -/
theorem coupled_first (columns : List Value) :
    Coupled B B (first (none : Option (Executor σ)) columns) (first none columns) Outcome.Alike := by
  unfold first
  refine Coupled.read fun b₁ b₂ h => ?_
  rw [hc.columns h]
  extract_lets rest
  have hrest : ∀ u₁ u₂, Coupled B B (rest u₁) (rest u₂) Outcome.Alike := by
    intro u₁ u₂
    refine (coupled_change (P := B) fun _ _ h => hc.setLimit h 1).bind fun _ _ _ => ?_
    refine (coupled_get hc "get").bind_alike ?_ ?_
    · intro _ _ _ hkind
      exact coupled_pure (Outcome.alike_fault none hkind)
    · intro rows
      dsimp only
      split
      · exact coupled_pure (Outcome.alike_refl _)
      · exact coupled_pure (Outcome.alike_refl _)
  split
  · exact (coupled_change (P := B) fun _ _ h => hc.select h columns).bind fun u₁ u₂ _ => hrest u₁ u₂
  · exact hrest () ()

theorem coupled_pluck (column : Value) :
    Coupled B B (pluck (none : Option (Executor σ)) column) (pluck none column) Outcome.Alike :=
  (coupled_change (P := B) fun _ _ h => hc.select h [column]).bind fun _ _ _ => Coupled.read fun _ _ h =>
    (coupled_written hc [] (fun q₁ q₂ => coupled_runQuery q₁ q₂ readColumn [])
      (hc.compileSelect h "pluck" false)).of_narrower hc.wider

theorem coupled_scan (d : Destination) :
    Coupled B B (scan (none : Option (Executor σ)) d) (scan none d) Outcome.Alike :=
  Coupled.read fun _ _ h =>
    (coupled_written hc none (fun q₁ q₂ => coupled_runQuery q₁ q₂ (readInto d) none)
      (hc.compileSelect h "scan" false)).of_narrower hc.wider

theorem coupled_count : Coupled B B (count (none : Option (Executor σ))) (count none) Outcome.Alike :=
  Coupled.read fun _ _ h =>
    (coupled_written hc 0 (fun q₁ q₂ => coupled_runQuery q₁ q₂ readCount 0)
      (hc.compileSelect h "count" true)).of_narrower hc.wider

/-- The records are made of the rows, which are alike; a fault is passed on. -/
theorem coupled_mapInto (shape : Shape) :
    Coupled B B (mapInto (none : Option (Executor σ)) shape) (mapInto none shape) Outcome.Alike := by
  refine (coupled_get hc "get").bind_alike ?_ ?_
  · intro _ _ _ hkind
    exact coupled_pure (Outcome.alike_fault none hkind)
  · intro rows
    dsimp only
    split
    · exact coupled_pure (Outcome.alike_refl _)
    · exact coupled_pure (Outcome.alike_refl _)

theorem coupled_compileInsert (op : String) (rows : List Row) (returning : List Term)
    (hret : ∀ {b₁ b₂}, B b₁ b₂ →
      (!returning.isEmpty && !b₁.dialect.returning) = (!returning.isEmpty && !b₂.dialect.returning)) :
    Coupled B W (compileInsert op rows returning : RunM σ (Except Fault String))
      (compileInsert op rows returning) SameCourse := by
  unfold compileInsert
  refine Coupled.modify (g := (·.compileInsert op rows returning)) (K := fun w _ => pure w) (fun b => ?_)
    (fun _ _ h => hc.compileInsert h op rows returning (hret h)) fun _ _ _ _ hw _ => coupled_pure hw
  rcases b.compileInsert op rows returning with ⟨w, b'⟩
  rfl

theorem coupled_insert (rows : List Row) :
    Coupled B B (insert (none : Option (Executor σ)) rows) (insert none rows) Outcome.Alike :=
  (coupled_compileInsert hc "insert" rows [] fun _ => rfl).bind fun _ _ hw =>
    coupled_written hc 0 (fun q₁ q₂ => coupled_runExec q₁ q₂) hw

/-- A record that cannot be converted is a fault; the rows go to `insert` either way. -/
theorem coupled_insertConverted (records : List (Except Fault Row)) :
    Coupled B B (insertConverted (none : Option (Executor σ)) records) (insertConverted none records)
      Outcome.Alike := by
  unfold insertConverted
  split
  extract_lets rest
  split
  · exact (coupled_change (P := B) fun _ _ h => hc.fail h _).bind fun _ _ _ => coupled_insert hc _
  · exact coupled_insert hc _

/-- An upsert: a conflict handling set earlier wins; else the one of the call is set, with its
values, which keeps the builders related by `happly`. -/
theorem coupled_upsert (rows : List Row) (unique : List String) (assignments : List (String × ConflictValue))
    (happly : ∀ {b₁ b₂}, B b₁ b₂ →
      B (b₁.onConflictDoUpdate unique assignments) (b₂.onConflictDoUpdate unique assignments)) :
    Coupled B B (upsert (none : Option (Executor σ)) rows unique assignments)
      (upsert none rows unique assignments) Outcome.Alike := by
  unfold upsert
  extract_lets rest
  split
  · exact (coupled_change (P := B) fun _ _ h => hc.fail h _).bind fun _ _ _ => coupled_insert hc rows
  · refine Coupled.read fun b₁ b₂ h => ?_
    rw [hc.conflict h]
    split
    · exact (coupled_change (P := B) fun _ _ h => happly h).bind fun _ _ _ => coupled_insert hc rows
    · exact coupled_insert hc rows

theorem coupled_insertReturning (rows : List Row) (returning : List String)
    (hr : ∀ {b₁ b₂}, B b₁ b₂ → b₁.dialect.returning = true ∧ b₂.dialect.returning = true) :
    Coupled B B (insertReturning (none : Option (Executor σ)) rows returning)
      (insertReturning none rows returning) Outcome.Alike := by
  unfold insertReturning
  refine Coupled.read fun b₁ b₂ h => ?_
  rw [(hr h).1, (hr h).2]
  simp only [Bool.not_true, Bool.false_eq_true, ↓reduceIte]
  refine (coupled_compileInsert hc "insertReturning" rows _ fun h' => by rw [(hr h').1, (hr h').2]).bind
    fun _ _ hw => coupled_written hc [] (fun q₁ q₂ => coupled_runQuery q₁ q₂ readRows []) hw

theorem coupled_update (values : Row) :
    Coupled B B (update (none : Option (Executor σ)) values) (update none values) Outcome.Alike := by
  refine Coupled.modify (g := (·.compileUpdate values)) (fun b => ?_) (fun _ _ h => hc.compileUpdate h values)
    fun _ _ _ _ hw _ => (coupled_written hc 0 (fun q₁ q₂ => coupled_runExec q₁ q₂) hw).of_narrower hc.wider
  rcases b.compileUpdate values with ⟨w, b'⟩
  rfl

theorem coupled_delete : Coupled B B (delete (none : Option (Executor σ))) (delete none) Outcome.Alike :=
  Coupled.read fun _ _ h =>
    (coupled_written hc 0 (fun q₁ q₂ => coupled_runExec q₁ q₂) (hc.compileDelete h)).of_narrower hc.wider

/-- A page with the total: the count is written from the paged builders, alike. -/
theorem coupled_paginate (page perPage : Int) :
    Coupled B B (paginate (none : Option (Executor σ)) page perPage) (paginate none page perPage)
      Outcome.Alike := by
  unfold paginate
  refine Coupled.modify (g := (·.pageQuery "paginate" page perPage)) (K := ?K) (fun b => ?hkg)
    (fun _ _ h => hc.pageQuery h "paginate" page perPage) (fun w₁ w₂ b₁ b₂ hw h => ?hK)
  case hkg =>
    rcases b.pageQuery "paginate" page perPage with ⟨w, b'⟩
    dsimp only
    rfl
  cases w₁ <;> cases w₂
  · exact (coupled_refuse hc none hw).of_narrower hc.wider
  · exact hw.elim
  · exact hw.elim
  have hcount := hc.compileSelect h "paginate" true
  revert hcount
  cases b₁.compileSelect "paginate" true <;> cases b₂.compileSelect "paginate" true
  · exact fun hkind => (coupled_refuse hc none hkind).of_narrower hc.wider
  · exact False.elim
  · exact False.elim
  intro _
  refine ((coupled_record hc _ _).bind fun _ _ _ =>
    (coupled_runQuery _ _ readRows []).bind_alike ?_ ?_).of_narrower hc.wider
  · intro _ _ _ hkind
    exact coupled_finish hc (Outcome.alike_fault none hkind)
  intro items
  dsimp only
  refine (coupled_runQuery _ _ readCount 0).bind_alike ?_ ?_
  · intro _ _ _ hkind
    exact coupled_finish hc (Outcome.alike_fault none hkind)
  intro total
  dsimp only
  split
  · exact coupled_finish hc (Outcome.alike_refl _)
  · exact coupled_finish hc (Outcome.alike_refl _)

theorem coupled_simplePaginate (page perPage : Int) :
    Coupled B B (simplePaginate (none : Option (Executor σ)) page perPage)
      (simplePaginate none page perPage) Outcome.Alike := by
  unfold simplePaginate
  refine Coupled.modify (g := (·.pageQuery "simplePaginate" page perPage)) (K := ?K) (fun b => ?hkg)
    (fun _ _ h => hc.pageQuery h "simplePaginate" page perPage) (fun w₁ w₂ _ _ hw _ => ?hK)
  case hkg =>
    rcases b.pageQuery "simplePaginate" page perPage with ⟨w, b'⟩
    dsimp only
    rfl
  cases w₁ <;> cases w₂
  · exact (coupled_refuse hc none hw).of_narrower hc.wider
  · exact hw.elim
  · exact hw.elim
  refine ((coupled_record hc _ _).bind fun _ _ _ =>
    (coupled_runQuery _ _ readRows []).bind_alike ?_ ?_).of_narrower hc.wider
  · intro _ _ _ hkind
    exact coupled_finish hc (Outcome.alike_fault none hkind)
  intro items
  dsimp only
  split
  · exact coupled_finish hc (Outcome.alike_refl _)
  · exact coupled_finish hc (Outcome.alike_refl _)

/-- Readying a hand-written statement does not depend on how the builders are related. -/
theorem coupled_prepareRaw (op query : String) (params : List (String × Value)) :
    Coupled B B (prepareRaw op query params : RunM σ (Except Fault String)) (prepareRaw op query params)
      (· = ·) := by
  unfold prepareRaw
  refine Coupled.modify (g := (·.prepareRaw op query params)) (K := fun w _ => pure w) (fun b => ?_)
    (fun _ _ h => hc.prepareRaw h op query params) fun _ _ _ _ hw _ => coupled_pure hw
  rcases b.prepareRaw op query params with ⟨w, b'⟩
  rfl

/-- **A hand-written statement** runs alike from the statement readied alike. -/
theorem coupled_raw (op query : String) (params : List (String × Value)) (empty : α)
    {run : String → RunM σ (Outcome α)} (hrun : ∀ q, Coupled W W (run q) (run q) Outcome.Alike) :
    Coupled B B
      (prepareRaw op query params >>= fun w => match w with
        | .error e => refuse empty e
        | .ok q => run q >>= fun o => finish o)
      (prepareRaw op query params >>= fun w => match w with
        | .error e => refuse empty e
        | .ok q => run q >>= fun o => finish o) Outcome.Alike := by
  refine (coupled_prepareRaw hc op query params).bind fun w _ hw => ?_
  subst hw
  cases w with
  | error e => exact (coupled_refuse hc empty rfl).of_narrower hc.wider
  | ok q => exact ((hrun q).bind fun _ _ ho => coupled_finish hc ho).of_narrower hc.wider

theorem coupled_rawSelect (query : String) (params : List (String × Value)) :
    Coupled B B (rawSelect (none : Option (Executor σ)) query params) (rawSelect none query params)
      Outcome.Alike :=
  coupled_raw hc "select" query params [] fun q => coupled_runQuery q q readRows []

theorem coupled_rawExec (query : String) (params : List (String × Value)) :
    Coupled B B (rawExec (none : Option (Executor σ)) query params) (rawExec none query params)
      Outcome.Alike :=
  coupled_raw hc "exec" query params 0 fun q => coupled_runExec q q

end Terminals

/-- **A dialect without `RETURNING` refuses `insertReturning`** before writing, unless an earlier
call failed: the refusal is the builder's first fault, so the insert is not written, and the call
records an empty statement with the bindings collected before, without the rows'. -/
theorem insertReturning_unsupported (ex : Option (Executor σ)) (rows : List Row) (returning : List String)
    {r : Run σ} (hd : r.builder.dialect.returning = false) (hf : r.builder.fault = none) :
    ((insertReturning ex rows returning).run r).1 =
        ⟨[], some (Fault.unsupported "insertReturning" (r.builder.dialect.name ++ " does not support RETURNING"))⟩ ∧
      ((insertReturning ex rows returning).run r).2.builder.lastBindings = r.builder.bindings.entries := by
  unfold insertReturning
  rw [run_read]
  simp only [hd, Bool.not_false, ↓reduceIte]
  generalize Fault.unsupported "insertReturning" (r.builder.dialect.name ++ " does not support RETURNING") = e
  have hfail : r.builder.fail e = { r.builder with fault := some e } := by
    simp [Builder.fail, hf]
  have hfault : (r.builder.fail e).fault? = some e := by
    rw [hfail]
    rfl
  rw [run_change, run_bind, compileInsert_of_fault _ _ _ hfault]
  exact ⟨rfl, by rw [hfail]; rfl⟩


end Run

namespace Terminal

/-- The conflict values a terminal call gives explicitly. -/
def conflictValues {α : Type} : Terminal α → List ConflictValue
  | .upsert _ _ assignments => assignments.map (·.2)
  | _ => []

/-- Whether a terminal call reads the inserted rows back with `RETURNING`. -/
def returns {α : Type} : Terminal α → Bool
  | .insertReturning _ _ => true
  | _ => false

/-- **Every terminal call, pretended twice, is coupled with itself**, when a call giving the
terminal call's conflict values keeps the builders related and, if it reads rows back, both
builders write `RETURNING`. -/
theorem coupled {σ α : Type} {B W : Builder → Builder → Prop} (hc : Builder.Coupling B W) (t : Terminal α)
    (hcall : ∀ c : Call, c.conflictValues = t.conflictValues → ∀ {b₁ b₂}, B b₁ b₂ → B (c.apply b₁) (c.apply b₂))
    (hret : t.returns = true → ∀ {b₁ b₂}, B b₁ b₂ → b₁.dialect.returning = true ∧ b₂.dialect.returning = true) :
    Run.Coupled B B (t.run (none : Option (Executor σ))) (t.run none) Outcome.Alike := by
  cases t with
  | get op => exact Run.coupled_get hc op
  | first columns => exact Run.coupled_first hc columns
  | pluck column => exact Run.coupled_pluck hc column
  | scan d => exact Run.coupled_scan hc d
  | count => exact Run.coupled_count hc
  | mapInto shape => exact Run.coupled_mapInto hc shape
  | insert rows => exact Run.coupled_insert hc rows
  | insertConverted records => exact Run.coupled_insertConverted hc records
  | upsert rows unique assignments =>
    exact Run.coupled_upsert hc rows unique assignments (hcall (.onConflictDoUpdate unique assignments) rfl)
  | insertReturning rows returning => exact Run.coupled_insertReturning hc rows returning (hret rfl)
  | update values => exact Run.coupled_update hc values
  | delete => exact Run.coupled_delete hc
  | paginate page perPage => exact Run.coupled_paginate hc page perPage
  | simplePaginate page perPage => exact Run.coupled_simplePaginate hc page perPage
  | rawSelect query params => exact Run.coupled_rawSelect hc query params
  | rawExec query params => exact Run.coupled_rawExec hc query params

/-- **Every terminal call, pretended in two dialects, is paired with itself**, when both bind its
conflict values alike and, if it reads rows back, both write `RETURNING`. -/
theorem paired {σ α : Type} {d₁ d₂ : Dialect} (t : Terminal α)
    (hv : ∀ v ∈ t.conflictValues, d₁.BindsAlike d₂ v)
    (hret : t.returns = true → d₁.returning = true ∧ d₂.returning = true) :
    Run.Paired d₁ d₂ (t.run (none : Option (Executor σ))) (t.run none) Outcome.Alike :=
  t.coupled (Builder.twin_coupling d₁ d₂) (fun c hc _ _ h => c.twin_apply (hc ▸ hv) h)
    fun ht _ _ h => ⟨by rw [h.left]; exact (hret ht).1, by rw [h.right_dialect]; exact (hret ht).2⟩

/-- **A pretended run** of a terminal call after a chain of calls on a fresh builder of a dialect:
the outcome, and the builder after it. -/
def pretend {α : Type} (t : Terminal α) (d : Dialect) (logging : Bool) (calls : List Call) :
    Outcome α × Builder :=
  let r := (t.run (none : Option (Executor Unit))).run ⟨Call.applyAll (Builder.new d logging) calls, (), []⟩
  (r.1, r.2.builder)

end Terminal

/-- **Bindings do not depend on the dialect.** A chain of calls and a terminal call, pretended on
fresh builders of two dialects, take the same course (a success, or a fault of one kind) and record
the same bindings in the same order, but where the dialects differ in what they can write:

* a dialect without `RETURNING` (MySQL) refuses `insertReturning` with an unsupported-feature fault,
  and records only the bindings collected before the rows;
* a conflict value that takes a slot is bound as the next slot by the `ON CONFLICT` dialects
  (PostgreSQL, SQLite) and not at all by MySQL's `ON DUPLICATE KEY`.

The chains of calls leave twin builders, and every terminal call is paired with itself. For whole
runs, `lastBindings_apart_by_conflict_slots` states the second exception: the bindings recorded
in the `ON CONFLICT` dialect are MySQL's with the conflict slots after them. -/
theorem bindings_independent_of_dialect :
    (∀ {α : Type} (t : Terminal α) (calls : List Call) (logging : Bool) (d₁ d₂ : Dialect),
        (∀ c ∈ calls, ∀ v ∈ c.conflictValues, d₁.BindsAlike d₂ v) →
        (∀ v ∈ t.conflictValues, d₁.BindsAlike d₂ v) →
        (t.returns = true → d₁.returning = true ∧ d₂.returning = true) →
        (t.pretend d₁ logging calls).1.Alike (t.pretend d₂ logging calls).1 ∧
          (t.pretend d₁ logging calls).2.lastBindings = (t.pretend d₂ logging calls).2.lastBindings) ∧
    (∀ (calls : List Call) (logging : Bool) (rows : List Row) (returning : List String),
        (Call.applyAll (Builder.new .mysql logging) calls).fault = none →
        ((Terminal.insertReturning rows returning).pretend .mysql logging calls).1.fault.map Fault.kind =
            some .unsupportedFeature ∧
          ((Terminal.insertReturning rows returning).pretend .mysql logging calls).2.lastBindings =
            (Call.applyAll (Builder.new .mysql logging) calls).bindings.entries) ∧
    (∀ (column : String) (v : ConflictValue) (bs : Bindings), (Dialect.mysql.conflictValue column v bs).2 = bs) ∧
    (∀ d ∈ [Dialect.postgres, Dialect.sqlite], ∀ (column : String) (x : Value) (bs : Bindings),
        (ConflictValue.given x).takesSlot = true →
        ∃ name, (d.conflictValue column (.given x) bs).2.entries = bs.entries ++ [⟨name, x⟩]) := by
  refine ⟨fun t calls logging d₁ d₂ hcalls hv hret => ?_, fun calls logging rows returning hf => ?_,
    fun column v bs => Dialect.conflictValue_of_duplicateKey rfl, fun d hd column x bs hx => ?_⟩
  · have hstart := Call.twin_applyAll calls hcalls (Builder.twin_new d₁ d₂ logging)
    obtain ⟨halike, htwin⟩ := t.paired (σ := Unit) hv hret ⟨_, (), []⟩ ⟨_, (), []⟩ hstart
    exact ⟨halike, htwin.lastBindings⟩
  · have hd : (Call.applyAll (Builder.new .mysql logging) calls).dialect.returning = false := by
      rw [((Call.edit_applyAll calls).setup _).1]
      rfl
    obtain ⟨hres, hbind⟩ := Run.insertReturning_unsupported (σ := Unit) none rows returning
      (r := ⟨Call.applyAll (Builder.new .mysql logging) calls, (), []⟩) hd hf
    simp only [Terminal.pretend, Terminal.run, hres, hbind]
    exact ⟨rfl, trivial⟩
  · have hu : d.upsert = .onConflict := by
      simp only [List.mem_cons, List.not_mem_nil, or_false] at hd
      rcases hd with rfl | rfl <;> rfl
    exact Dialect.conflictValue_slot hu hx

/-- MySQL and PostgreSQL upsert a user alike when the assignment takes the inserted row's value,
though not when it gives a value of its own, which PostgreSQL binds in one more slot; and MySQL
refuses to read the user back. -/
theorem users_upsert_alike_returning_refused :
    let upsertName (v : ConflictValue) : Terminal Int :=
      .upsert [[("id", .int 1), ("name", .text "ann")]] ["id"] [("name", v)]
    let users : List Call := [.table (.text "users")]
    let excluded : ConflictValue := .given (.text "EXCLUDED.name")
    ((∀ c ∈ users, ∀ v ∈ c.conflictValues, Dialect.mysql.BindsAlike .postgres v) ∧
      (∀ v ∈ (upsertName excluded).conflictValues, Dialect.mysql.BindsAlike .postgres v) ∧
      ((upsertName excluded).returns = true → Dialect.mysql.returning = true ∧ Dialect.postgres.returning = true)) ∧
    (((upsertName excluded).pretend .mysql true users).1.Alike ((upsertName excluded).pretend .postgres true users).1 ∧
      ((upsertName excluded).pretend .mysql true users).2.lastBindings =
        ((upsertName excluded).pretend .postgres true users).2.lastBindings) ∧
    ((upsertName (.given (.text "bob"))).pretend .mysql true users).2.lastBindings.length = 2 ∧
    ((upsertName (.given (.text "bob"))).pretend .postgres true users).2.lastBindings.length = 3 ∧
    (Call.applyAll (Builder.new .mysql true) users).fault = none ∧
    (((Terminal.insertReturning [[("id", .int 1)]] []).pretend .mysql true users).1.fault.map Fault.kind =
        some .unsupportedFeature ∧
      ((Terminal.insertReturning [[("id", .int 1)]] []).pretend .mysql true users).2.lastBindings =
        (Call.applyAll (Builder.new .mysql true) users).bindings.entries) := by
  intro upsertName users excluded
  have hcalls : ∀ c ∈ users, ∀ v ∈ c.conflictValues, Dialect.mysql.BindsAlike .postgres v := by
    simp [users, Call.conflictValues]
  have hv : ∀ v ∈ (upsertName excluded).conflictValues, Dialect.mysql.BindsAlike .postgres v := by
    simp only [upsertName, Terminal.conflictValues, List.map_cons, List.map_nil, List.mem_singleton, forall_eq]
    exact .inr (by decide +kernel)
  have hret : (upsertName excluded).returns = true →
      Dialect.mysql.returning = true ∧ Dialect.postgres.returning = true := nofun
  have hf : (Call.applyAll (Builder.new .mysql true) users).fault = none := by decide
  exact ⟨⟨hcalls, hv, hret⟩, bindings_independent_of_dialect.1 _ _ true .mysql .postgres hcalls hv hret,
    by decide +kernel, by decide +kernel, hf, bindings_independent_of_dialect.2.1 _ true _ _ hf⟩

end QueryKit.Query
