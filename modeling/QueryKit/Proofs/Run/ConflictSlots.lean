import Mathlib
import QueryKit.Proofs.Run.Dialects
import QueryKit.Proofs.Insert.Upsert

/-!
# Conflict slots across dialects

A dialect that writes its conflict clauses `ON DUPLICATE KEY` binds none of the values given to
the clause's assignments; one that writes them `ON CONFLICT` binds those that take a slot, after
the inserted rows' values. Pretended on fresh builders of two such dialects, the same chain of
calls and terminal call take the same course, and the second records the bindings of the first and
then those slots: the values of the run's conflict assignments that the second dialect binds, in
the order given.

* `SlotsAfter V es₁ es₂`: `es₂` is `es₁` and then bindings holding values among `V`, in order;
* `Builder.onConflict_slots`: a conflict clause, written or refused, binds after the builder's
  bindings the values its assignments bind, in order;
* `Builder.Apart` and `Builder.Wider`: builders of one statement in two dialects whose last
  statements' bindings (and, once written, whose own bindings) are apart by such slots; every
  builder call keeps them apart (`Call.apart_applyAll`), and together they form a coupling
  (`Builder.apart_coupling`), the insert binding the slots (`Builder.Apart.compileInsert`);
* `lastBindings_apart_by_conflict_slots`: the bindings recorded by the whole run in the second
  dialect are those recorded in the first and then the conflict slots.
-/

namespace QueryKit.Sql

/-- A clause written `ON DUPLICATE KEY` binds no assignment's value. -/
theorem ConflictValue.boundIn_of_duplicateKey {d : Dialect} (hd : d.upsert = .duplicateKey)
    (v : ConflictValue) : v.boundIn d = none := by
  cases v with
  | inferred => rfl
  | given x => simp [boundIn, hd]

/-- The slots an upsert's assignments take hold the values the assignments bind, in order. -/
theorem Dialect.map_value_upsertBound (d : Dialect) (n : Nat) (sets : List (String × ConflictValue)) :
    (d.upsertBound n sets).map (·.value) = sets.filterMap fun a => a.2.boundIn d := by
  simp only [Dialect.upsertBound, List.map_map, Function.comp_def]
  exact List.zipIdx_map_fst n _

/-- **Bindings and then conflict slots**: `es₂` is `es₁` and then bindings holding values among
`V`, in their order there. -/
def SlotsAfter (V : List Value) (es₁ es₂ : List Binding) : Prop :=
  ∃ extra, es₂ = es₁ ++ extra ∧ (extra.map (·.value)).Sublist V

theorem SlotsAfter.refl (V : List Value) (es : List Binding) : SlotsAfter V es es :=
  ⟨[], (List.append_nil es).symm, List.nil_sublist V⟩

end QueryKit.Sql

namespace QueryKit.Query

open Sql

/-- The values an upsert's assignments bind are those its own assignments bind; inferred values
bind none. -/
theorem filterMap_upsertAssignments (d : Dialect) (columns targets : List String)
    (assignments : List (String × ConflictValue)) :
    (upsertAssignments columns targets assignments).filterMap (fun a => a.2.boundIn d) =
      assignments.filterMap fun a => a.2.boundIn d := by
  unfold upsertAssignments
  split
  · rename_i hnil
    rw [List.isEmpty_iff.mp hnil]
    simp [List.filterMap_map, ConflictValue.boundIn]
  · rfl

namespace Builder

/-- **The bindings after a conflict clause**, written or refused: those before, then slots
holding values its assignments bind, in order. -/
theorem onConflict_slots (b : Builder) (plan : ConflictPlan) (columns : List String) :
    SlotsAfter (plan.assignments.filterMap fun a => a.2.boundIn b.dialect) b.bindings.entries
      (b.onConflict plan columns).2.bindings.entries := by
  obtain ⟨targets, action, assignments⟩ := plan
  cases action with
  | doNothing => exact SlotsAfter.refl _ _
  | doUpdate =>
    refine ⟨_, onConflict_upsert_bindings b targets assignments columns, ?_⟩
    rw [Dialect.map_value_upsertBound]
    refine ((List.takeWhile_sublist _).filterMap _).trans ?_
    rw [filterMap_upsertAssignments]

/-! ## Builders apart by conflict slots -/

variable {d₁ d₂ : Dialect} {V : List Value} {b₁ b₂ : Builder}

/-- **Builders apart by conflict slots**: `b₂` is `b₁` in the dialect `d₂` with another last
statement, whose bindings are `b₁`'s and then slots holding values among `V`. The conflict plan
names targets, and the values `d₂` binds for its assignments are among `V`, in order. -/
structure Apart (d₁ d₂ : Dialect) (V : List Value) (b₁ b₂ : Builder) : Prop where
  left : b₁.dialect = d₁
  right : ∃ sql lb, b₂ = { b₁ with dialect := d₂ }.withLast sql lb
  last : SlotsAfter V b₁.lastBindings b₂.lastBindings
  plan : ∀ p ∈ b₁.conflict, p.targets ≠ [] ∧ (p.assignments.filterMap fun a => a.2.boundIn d₂).Sublist V

/-- **Builders apart by conflict slots once a statement is written**: as `Apart`, but that the
statement's own bindings may hold such slots too. -/
structure Wider (d₁ d₂ : Dialect) (V : List Value) (b₁ b₂ : Builder) : Prop where
  left : b₁.dialect = d₁
  right : ∃ sql lb bs, b₂ = { b₁ with dialect := d₂, scope := { b₁.scope with bindings := bs } }.withLast sql lb
  bound : SlotsAfter V b₁.bindings.entries b₂.bindings.entries
  last : SlotsAfter V b₁.lastBindings b₂.lastBindings

section Fields

variable (h : Apart d₁ d₂ V b₁ b₂)
include h

theorem Apart.right_dialect : b₂.dialect = d₂ := by
  obtain ⟨sql, lb, rfl⟩ := h.right
  rfl

theorem Apart.fault? : b₂.fault? = b₁.fault? := by
  obtain ⟨sql, lb, rfl⟩ := h.right
  rfl

theorem Apart.table : b₂.table = b₁.table := by
  obtain ⟨sql, lb, rfl⟩ := h.right
  rfl

theorem Apart.bindings : b₂.bindings = b₁.bindings := by
  obtain ⟨sql, lb, rfl⟩ := h.right
  rfl

theorem Apart.conflict : b₂.conflict = b₁.conflict := by
  obtain ⟨sql, lb, rfl⟩ := h.right
  rfl

theorem Apart.columns : b₂.columns = b₁.columns := by
  obtain ⟨sql, lb, rfl⟩ := h.right
  rfl

theorem Apart.wider : Wider d₁ d₂ V b₁ b₂ := by
  obtain ⟨sql, lb, rfl⟩ := h.right
  exact ⟨h.left, ⟨sql, lb, b₁.bindings, rfl⟩, SlotsAfter.refl V _, h.last⟩

/-- Builders apart given the same bindings stay apart. -/
theorem Apart.setBindings (bs : Bindings) :
    Apart d₁ d₂ V { b₁ with scope := { b₁.scope with bindings := bs } }
      { b₂ with scope := { b₂.scope with bindings := bs } } := by
  obtain ⟨sql, lb, rfl⟩ := h.right
  exact ⟨h.left, ⟨sql, lb, rfl⟩, h.last, h.plan⟩

theorem Apart.compileSelect (op : String) (count : Bool) :
    SameCourse (b₁.compileSelect op count) (b₂.compileSelect op count) := by
  obtain ⟨sql, lb, rfl⟩ := h.right
  exact compileSelect_redialect b₁ d₂ sql lb op count

theorem Apart.compileDelete : SameCourse b₁.compileDelete b₂.compileDelete := by
  obtain ⟨sql, lb, rfl⟩ := h.right
  exact compileDelete_redialect b₁ d₂ sql lb

end Fields

theorem Wider.right_dialect (h : Wider d₁ d₂ V b₁ b₂) : b₂.dialect = d₂ := by
  obtain ⟨sql, lb, bs, rfl⟩ := h.right
  rfl

/-- Builders that record a statement each stay apart: each records its own bindings. -/
theorem Wider.record (h : Wider d₁ d₂ V b₁ b₂) (q₁ q₂ : String) :
    Wider d₁ d₂ V { b₁ with lastSql := q₁, lastBindings := b₁.bindings.entries }
      { b₂ with lastSql := q₂, lastBindings := b₂.bindings.entries } := by
  obtain ⟨sql, lb, bs, rfl⟩ := h.right
  exact ⟨h.left, ⟨q₂, _, bs, rfl⟩, h.bound, h.bound⟩

/-- Cleared builders are apart only in the bindings of their last statements. -/
theorem Wider.reset (h : Wider d₁ d₂ V b₁ b₂) : Apart d₁ d₂ V b₁.reset b₂.reset := by
  obtain ⟨sql, lb, bs, rfl⟩ := h.right
  exact ⟨h.left, ⟨sql, lb, rfl⟩, h.last, fun _ hp => nomatch hp⟩

/-- **A dialect-blind clause edit keeps builders apart**, once the plan it leaves names targets
and binds values among `V` in the second dialect. -/
theorem Apart.map {f : Builder → Builder} (hb : Blind f) (he : Edit f) (h : Apart d₁ d₂ V b₁ b₂)
    (hplan : ∀ p ∈ (f b₁).conflict,
      p.targets ≠ [] ∧ (p.assignments.filterMap fun a => a.2.boundIn d₂).Sublist V) :
    Apart d₁ d₂ V (f b₁) (f b₂) := by
  obtain ⟨sql, lb, rfl⟩ := h.right
  refine ⟨(he.setup b₁).1.trans h.left, ⟨sql, lb, ?_⟩, ?_, hplan⟩
  · rw [he.withLast, hb b₁ d₂]
  · rw [he.withLast, he.lastBindings b₁]
    exact h.last

theorem Apart.fail (h : Apart d₁ d₂ V b₁ b₂) (e : Fault) : Apart d₁ d₂ V (b₁.fail e) (b₂.fail e) :=
  h.map (blind_fail e) (edit_fail e) fun p hp => h.plan p (keepsPlan_fail e b₁ ▸ hp)

/-- **Builders apart take a writing step alike**, and stay apart. -/
theorem Writes.apart {g : Builder → Except Fault String × Builder} (hg : Writes g)
    (h : Apart d₁ d₂ V b₁ b₂) : SameCourse (g b₁).1 (g b₂).1 ∧ Apart d₁ d₂ V (g b₁).2 (g b₂).2 := by
  obtain ⟨sql, lb, rfl⟩ := h.right
  obtain ⟨hcourse, hafter⟩ := hg.redialect b₁ d₂ sql lb
  refine ⟨hcourse, (hg.step.setup b₁).1.trans h.left, ⟨sql, lb, hafter⟩, ?_,
    fun p hp => h.plan p (hg.plan b₁ ▸ hp)⟩
  rw [hafter, hg.step.lastBindings b₁]
  exact h.last

/-- Builders apart ready a hand-written statement alike: it binds only its parameters. -/
theorem Apart.prepareRaw (h : Apart d₁ d₂ V b₁ b₂) (op query : String) (params : List (String × Value)) :
    (b₁.prepareRaw op query params).1 = (b₂.prepareRaw op query params).1 ∧
      Apart d₁ d₂ V (b₁.prepareRaw op query params).2 (b₂.prepareRaw op query params).2 := by
  obtain ⟨sql, lb, rfl⟩ := h.right
  unfold Builder.prepareRaw
  by_cases hq : (Text.trim query).isEmpty = true
  · simp only [hq, ↓reduceIte, true_and]
    exact h
  · simp only [hq, Bool.false_eq_true, ↓reduceIte, true_and]
    exact ⟨h.left, ⟨_, _, rfl⟩, SlotsAfter.refl V _, h.plan⟩

/-- **Builders apart write a conflict clause alike**, where the first dialect binds no conflict
value: refused by both with faults of one kind, or written by both on the plan's targets; the
second binds the values the plan's assignments bind in it, after the bindings of both. -/
theorem Apart.onConflict (hd₁ : d₁.upsert = .duplicateKey) (h : Apart d₁ d₂ V b₁ b₂)
    {plan : ConflictPlan} (hp : plan ∈ b₁.conflict) (columns : List String) :
    Course (fun oc₁ oc₂ => oc₁.targets = plan.targets.map Term.name ∧ oc₂.targets = plan.targets.map Term.name)
        (b₁.onConflict plan columns).1 (b₂.onConflict plan columns).1 ∧
      Wider d₁ d₂ V (b₁.onConflict plan columns).2 (b₂.onConflict plan columns).2 := by
  obtain ⟨sql, lb, rfl⟩ := h.right
  rw [onConflict_withLast, Prod.map_fst, Prod.map_snd, id_eq]
  obtain ⟨extra₁, hbound₁, hnone⟩ := onConflict_slots b₁ plan columns
  obtain ⟨extra₂, hbound₂, hslots⟩ := onConflict_slots { b₁ with dialect := d₂ } plan columns
  have hfree : (plan.assignments.filterMap fun a => a.2.boundIn b₁.dialect) = [] := by
    rw [List.filterMap_eq_nil_iff]
    intro a _
    rw [h.left]
    exact ConflictValue.boundIn_of_duplicateKey hd₁ a.2
  rw [hfree, List.sublist_nil, List.map_eq_nil_iff] at hnone
  subst hnone
  obtain ⟨hpost₁, -⟩ := onConflict_snd b₁ plan columns
  obtain ⟨hpost₂, -⟩ := onConflict_snd { b₁ with dialect := d₂ } plan columns
  refine ⟨?_, (onConflict_setup b₁ plan columns).1.trans h.left, ?_, ?_, ?_⟩
  · rcases onConflict_cases b₁ plan columns with ⟨hb₁, e₁, he₁, hk₁⟩ | ⟨hn₁, oc₁, hoc₁, ht₁⟩ <;>
      rcases onConflict_cases { b₁ with dialect := d₂ } plan columns with
        ⟨hb₂, e₂, he₂, hk₂⟩ | ⟨hn₂, oc₂, hoc₂, ht₂⟩
    · rw [he₁, he₂]
      exact hk₁.trans hk₂.symm
    · exact absurd hb₁ hn₂
    · exact absurd hb₂ hn₁
    · rw [hoc₁, hoc₂]
      exact ⟨ht₁, ht₂⟩
  · refine ⟨sql, lb, ({ b₁ with dialect := d₂ }.onConflict plan columns).2.bindings, ?_⟩
    rw [hpost₂]
    conv_rhs => rw [hpost₁]
    rfl
  · refine ⟨extra₂, ?_, hslots.trans (h.plan plan hp).2⟩
    rw [withLast_bindings, hbound₂, hbound₁, List.append_nil]
    rfl
  · rw [hpost₁]
    exact h.last

/-- **Builders apart write an insert alike** when their dialects agree on `RETURNING` for it and
the first binds no conflict value: refused by both with faults of one kind, or written by both,
the second binding the values of its conflict assignments after the bindings of both. -/
theorem Apart.compileInsert (hd₁ : d₁.upsert = .duplicateKey) (h : Apart d₁ d₂ V b₁ b₂) (op : String)
    (rows : List Row) (returning : List Term)
    (hret : (!returning.isEmpty && !d₁.returning) = (!returning.isEmpty && !d₂.returning)) :
    SameCourse (b₁.compileInsert op rows returning).1 (b₂.compileInsert op rows returning).1 ∧
      Wider d₁ d₂ V (b₁.compileInsert op rows returning).2 (b₂.compileInsert op rows returning).2 :=
  compileInsert_alike (fun h => ⟨h.fault?, h.table, h.bindings, h.conflict⟩)
    (fun bs h => h.setBindings bs) Apart.wider (fun h => ⟨h.left, h.right_dialect⟩)
    (fun plan columns h hp => ⟨(h.plan plan hp).1, h.onConflict hd₁ hp columns⟩)
    h op rows returning hret

end Builder

/-- **Every builder call keeps builders apart**, when the values the second dialect binds for the
call's conflict values are among `V`, in order. -/
theorem Call.apart_apply {d₁ d₂ : Dialect} {V : List Value} {b₁ b₂ : Builder} (c : Call)
    (hc : (c.conflictValues.filterMap (·.boundIn d₂)).Sublist V) (h : Builder.Apart d₁ d₂ V b₁ b₂) :
    Builder.Apart d₁ d₂ V (c.apply b₁) (c.apply b₂) := by
  refine h.map (blind_apply c) (edit_apply c) fun p hp => ?_
  rcases conflict_apply b₁ c p hp with hold | ⟨htargets, hnew⟩
  · exact h.plan p hold
  · refine ⟨htargets, ?_⟩
    have hvalues : (p.assignments.filterMap fun a => a.2.boundIn d₂) =
        (p.assignments.map (·.2)).filterMap (·.boundIn d₂) := by
      rw [List.filterMap_map]
      rfl
    rw [hvalues]
    exact (hnew.filterMap _).trans hc

theorem Call.apart_applyAll {d₁ d₂ : Dialect} {V : List Value} :
    ∀ (calls : List Call) {b₁ b₂ : Builder}, (∀ c ∈ calls, (c.conflictValues.filterMap (·.boundIn d₂)).Sublist V) →
      Builder.Apart d₁ d₂ V b₁ b₂ → Builder.Apart d₁ d₂ V (applyAll b₁ calls) (applyAll b₂ calls)
  | [], _, _, _, h => h
  | c :: rest, _, _, hc, h =>
    apart_applyAll rest (fun c' hc' => hc c' (List.mem_cons_of_mem c hc'))
      (c.apart_apply (hc c List.mem_cons_self) h)

namespace Builder

variable {d₁ d₂ : Dialect} {V : List Value} {b₁ b₂ : Builder}

/-- A call without conflict values keeps builders apart. -/
theorem Apart.apply (h : Apart d₁ d₂ V b₁ b₂) {c : Call} (hc : c.conflictValues = []) :
    Apart d₁ d₂ V (c.apply b₁) (c.apply b₂) :=
  c.apart_apply (by rw [hc]; exact List.nil_sublist V) h

/-- **Builders apart by conflict slots form a coupling**, when the first dialect binds no
conflict value: `Apart` while a statement is built, `Wider` once it is written. -/
theorem apart_coupling (hd₁ : d₁.upsert = .duplicateKey) (V : List Value) :
    Coupling (Apart d₁ d₂ V) (Wider d₁ d₂ V) where
  wider h := h.wider
  record h := h.record
  reset h := h.reset
  columns h := h.columns
  conflict h := h.conflict
  fail h := h.fail
  setLimit h n := h.apply (c := .limit n) rfl
  select h cols := h.apply (c := .select cols) rfl
  compileSelect h := h.compileSelect
  compileDelete h := h.compileDelete
  compileUpdate h values := (writes_compileUpdate values).apart h
  pageQuery h op page perPage := (writes_pageQuery op page perPage).apart h
  compileInsert h op rows returning hret := by
    rw [h.left, h.right_dialect] at hret
    exact h.compileInsert hd₁ op rows returning hret
  prepareRaw h := h.prepareRaw

end Builder

/-- **Conflict slots across dialects.** A chain of calls and a terminal call, pretended on a fresh
builder of a dialect that writes its conflict clauses `ON DUPLICATE KEY` and on one of another
dialect, take the same course, and the second records the bindings the first records and then
more: values the second dialect binds for conflict assignments of the chain or of the terminal
call, in the order they are given. -/
theorem lastBindings_apart_by_conflict_slots {α : Type} (t : Terminal α) (calls : List Call)
    (logging : Bool) {d₁ d₂ : Dialect} (hd₁ : d₁.upsert = .duplicateKey)
    (hret : t.returns = true → d₁.returning = true ∧ d₂.returning = true) :
    (t.pretend d₁ logging calls).1.Alike (t.pretend d₂ logging calls).1 ∧
      ∃ extra, (t.pretend d₂ logging calls).2.lastBindings =
          (t.pretend d₁ logging calls).2.lastBindings ++ extra ∧
        (extra.map (·.value)).Sublist
          ((calls.flatMap Call.conflictValues ++ t.conflictValues).filterMap (·.boundIn d₂)) := by
  have hcalls : ∀ c ∈ calls, (c.conflictValues.filterMap (·.boundIn d₂)).Sublist
      ((calls.flatMap Call.conflictValues ++ t.conflictValues).filterMap (·.boundIn d₂)) := fun c hc =>
    ((List.sublist_flatten_of_mem (List.mem_map_of_mem hc)).trans (List.sublist_append_left _ _)).filterMap _
  have hterm : (t.conflictValues.filterMap (·.boundIn d₂)).Sublist
      ((calls.flatMap Call.conflictValues ++ t.conflictValues).filterMap (·.boundIn d₂)) :=
    (List.sublist_append_right _ _).filterMap _
  have hstart : Builder.Apart d₁ d₂ ((calls.flatMap Call.conflictValues ++ t.conflictValues).filterMap (·.boundIn d₂))
      (Builder.new d₁ logging) (Builder.new d₂ logging) :=
    ⟨rfl, ⟨"", [], rfl⟩, SlotsAfter.refl _ [], fun _ h => nomatch h⟩
  obtain ⟨halike, hapart⟩ := t.coupled (σ := Unit) (Builder.apart_coupling hd₁ _)
    (fun c hc _ _ h => c.apart_apply (by rw [hc]; exact hterm) h)
    (fun ht _ _ h => ⟨by rw [h.left]; exact (hret ht).1, by rw [h.right_dialect]; exact (hret ht).2⟩)
    ⟨_, (), []⟩ ⟨_, (), []⟩ (Call.apart_applyAll calls hcalls hstart)
  exact ⟨halike, hapart.last⟩

/-- MySQL and PostgreSQL insert a user under a planned upsert alike, PostgreSQL binding the value
the upsert assigns in one more slot. -/
theorem users_upsert_planned_slot :
    let calls : List Call := [.table (.text "users"), .onConflictDoUpdate ["id"] [("name", .given (.text "B"))]]
    let ins : Terminal Int := .insert [[("id", .int 1), ("name", .text "A")]]
    Dialect.mysql.upsert = .duplicateKey ∧
      (ins.returns = true → Dialect.mysql.returning = true ∧ Dialect.postgres.returning = true) ∧
      (ins.pretend .mysql true calls).1.Alike (ins.pretend .postgres true calls).1 ∧
      ∃ extra, (ins.pretend .postgres true calls).2.lastBindings =
          (ins.pretend .mysql true calls).2.lastBindings ++ extra ∧
        (extra.map (·.value)).Sublist
          ((calls.flatMap Call.conflictValues ++ ins.conflictValues).filterMap (·.boundIn .postgres)) := by
  intro calls ins
  have hd : Dialect.mysql.upsert = .duplicateKey := rfl
  have hret : ins.returns = true → Dialect.mysql.returning = true ∧ Dialect.postgres.returning = true := nofun
  exact ⟨hd, hret, lastBindings_apart_by_conflict_slots ins calls true hd hret⟩

example :
    let calls : List Call := [.table (.text "users"), .onConflictDoUpdate ["id"] [("name", .given (.text "B"))]]
    let ins : Terminal Int := .insert [[("id", .int 1), ("name", .text "A")]]
    (ins.pretend .mysql true calls).2.lastBindings.map (·.name) = ["v1", "v2"] ∧
      (ins.pretend .postgres true calls).2.lastBindings.map (·.name) = ["v1", "v2", "v3"] := by
  decide +kernel

end QueryKit.Query
