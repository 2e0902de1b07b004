import Mathlib
import QueryKit.Proofs.Run.Reset
import QueryKit.Proofs.Binding.Slots

/-!
# What a dialect changes in a statement's bindings

A dialect decides how names are quoted, how placeholders are written, whether `RETURNING`
exists and how a conflict clause is written. Only the last two can change whether a statement is
written and which values it binds: every builder call ignores the dialect, and every writer
refuses the same statements in every dialect, but for `RETURNING` and the conflict clause.

* `ConflictValue.takesSlot`: the conflict values an `ON CONFLICT` dialect binds; an
  `ON DUPLICATE KEY` dialect binds none (`conflictValue_given_onConflict`,
  `conflictValue_of_duplicateKey`);
* `Course R w₁ w₂`: two writings refused with faults of one kind, or both done with results
  related by `R`; the writers of select, update and delete take the same course in every
  dialect, and so does insert when both dialects agree on `RETURNING` (`Dialect.insert_course`);
* `Builder.Blind`: every builder call ignores the dialect (`Call.blind_apply`), and keeps the
  conflict plan or sets one of its own (`Call.conflict_apply`);
* `Builder.Twin`: builders the same but for the dialect and the last statement, with a conflict
  plan both dialects write alike; every builder call keeps twins twins (`Call.twin_apply`), and
  twins write their statements alike (`Builder.Twin.compileInsert` and its siblings).
-/

namespace QueryKit.Sql

/-- **The conflict values a conflict clause written `ON CONFLICT` binds**: a given value, unless it
is raw SQL (an expression, or a reference to one) or a text naming the inserted row's column
(`EXCLUDED.` and the column). -/
def ConflictValue.takesSlot : ConflictValue → Bool
  | .inferred => false
  | .given (.text s) => !s.startsWith "EXCLUDED."
  | .given v => v.rawSql?.isNone

/-- **Courses of two writings**: both refused, with faults of one kind, or both done, with results
related by `R`. -/
def Course {α β : Type} (R : α → β → Prop) : Except Fault α → Except Fault β → Prop
  | .error e₁, .error e₂ => e₁.kind = e₂.kind
  | .ok a, .ok b => R a b
  | _, _ => False

/-- Two writings refused alike, or both done. -/
abbrev SameCourse {α β : Type} (w₁ : Except Fault α) (w₂ : Except Fault β) : Prop :=
  Course (fun _ _ => True) w₁ w₂

section

variable {α β γ δ : Type} {R : α → β → Prop} {S : γ → δ → Prop}

theorem Course.bind {w₁ : Except Fault α} {w₂ : Except Fault β} {f₁ : α → Except Fault γ}
    {f₂ : β → Except Fault δ} (hw : Course R w₁ w₂) (hf : ∀ a b, R a b → Course S (f₁ a) (f₂ b)) :
    Course S (w₁ >>= f₁) (w₂ >>= f₂) := by
  cases w₁ <;> cases w₂
  · exact hw
  · exact hw.elim
  · exact hw.elim
  · exact hf _ _ hw

theorem Course.map {w₁ : Except Fault α} {w₂ : Except Fault β} {f₁ : α → γ} {f₂ : β → δ}
    (hw : Course R w₁ w₂) (hf : ∀ a b, R a b → S (f₁ a) (f₂ b)) : Course S (w₁.map f₁) (w₂.map f₂) := by
  cases w₁ <;> cases w₂
  · exact hw
  · exact hw.elim
  · exact hw.elim
  · exact hf _ _ hw

theorem SameCourse.map {w₁ : Except Fault α} {w₂ : Except Fault β} {f₁ : α → γ} {f₂ : β → δ}
    (hw : SameCourse w₁ w₂) : SameCourse (w₁.map f₁) (w₂.map f₂) :=
  Course.map hw fun _ _ _ => trivial

/-- A writing takes its own course. -/
theorem course_self (w : Except Fault α) : Course (· = ·) w w := by
  cases w
  · rfl
  · rfl

end

namespace Dialect

variable {d : Dialect} {column : String} {v : ConflictValue} {b : Bindings}

/-- **Dialects that bind a conflict value alike**: they write conflict clauses the same way, or
the value takes no slot. -/
def BindsAlike (d₁ d₂ : Dialect) (v : ConflictValue) : Prop := d₁.upsert = d₂.upsert ∨ v.takesSlot = false

/-! ## Conflict values -/

/-- A conflict clause written `ON DUPLICATE KEY` binds no value. -/
theorem conflictValue_of_duplicateKey (h : d.upsert = .duplicateKey) :
    (d.conflictValue column v b).2 = b := by
  simp only [conflictValue, h]
  split
  · rfl
  · split <;> rfl
  · rfl

/-- **A conflict clause written `ON CONFLICT`** binds a given value exactly when it takes a slot. -/
theorem conflictValue_given_onConflict (h : d.upsert = .onConflict) (x : Value) :
    (d.conflictValue column (.given x) b).2 = if (ConflictValue.given x).takesSlot then (b.add x).2 else b := by
  simp only [conflictValue, h]
  cases x with
  | text s =>
    by_cases hs : s.startsWith "EXCLUDED." = true <;> simp [hs, ConflictValue.takesSlot, Bindings.addTerm]
  | raw s => simp [ConflictValue.takesSlot, Value.rawSql?]
  | rawRef s => cases s <;> simp [ConflictValue.takesSlot, Value.rawSql?, Bindings.addTerm, Bindings.add]
  | _ => simp [ConflictValue.takesSlot, Value.rawSql?, Bindings.addTerm]

theorem conflictValue_of_slotless (h : v.takesSlot = false) : (d.conflictValue column v b).2 = b := by
  cases hu : d.upsert
  · exact conflictValue_of_duplicateKey hu
  · cases v with
    | inferred => simp [conflictValue, hu]
    | given x => rw [conflictValue_given_onConflict hu, if_neg (by simp [h])]

theorem rawSql_none_of_takesSlot {x : Value} (h : (ConflictValue.given x).takesSlot = true) :
    x.rawSql? = none := by
  cases x with
  | text s => rfl
  | rawRef s => cases s <;> simp_all [ConflictValue.takesSlot, Value.rawSql?]
  | _ => simp_all [ConflictValue.takesSlot, Value.rawSql?]

/-- **A value that takes a slot** gets the next one, holding the value itself. -/
theorem conflictValue_slot (h : d.upsert = .onConflict) {x : Value}
    (hx : (ConflictValue.given x).takesSlot = true) :
    ∃ name, (d.conflictValue column (.given x) b).2.entries = b.entries ++ [⟨name, x⟩] := by
  rw [conflictValue_given_onConflict h, if_pos hx, Bindings.add_numbered (rawSql_none_of_takesSlot hx)]
  exact ⟨_, rfl⟩

/-- Two dialects that bind a value alike leave the same bindings after it: either they write the
conflict clause one way, and bind every value the same way, or the value takes no slot. -/
theorem BindsAlike.conflictValue {d₁ d₂ : Dialect} (h : d₁.BindsAlike d₂ v) :
    (d₁.conflictValue column v b).2 = (d₂.conflictValue column v b).2 := by
  rcases h with hu | hv
  · cases hd : d₁.upsert
    · rw [conflictValue_of_duplicateKey hd, conflictValue_of_duplicateKey (hu ▸ hd)]
    · cases v with
      | inferred => rw [conflictValue_of_slotless rfl, conflictValue_of_slotless rfl]
      | given x => rw [conflictValue_given_onConflict hd, conflictValue_given_onConflict (hu ▸ hd)]
  · rw [conflictValue_of_slotless hv, conflictValue_of_slotless hv]

/-! ## Writers -/

theorem select_course (d₁ d₂ : Dialect) (s : Select) : SameCourse (d₁.select s) (d₂.select s) := by
  unfold Dialect.select
  cases s.table with
  | none => trivial
  | some t =>
    by_cases ht : t.isEmpty = true
    · simp only [ht, ↓reduceIte]
      rfl
    · simp only [ht, Bool.false_eq_true, ↓reduceIte]
      trivial

theorem update_course (d₁ d₂ : Dialect) (u : Update) : SameCourse (d₁.update u) (d₂.update u) := by
  unfold Dialect.update
  cases u.guard with
  | error e => rfl
  | ok _ =>
    by_cases ht : u.table.isEmpty = true
    · simp only [ht, ↓reduceIte]
      rfl
    · by_cases hs : u.sets.isEmpty = true
      · simp only [ht, hs, Bool.false_eq_true, ↓reduceIte]
        rfl
      · simp only [ht, hs, Bool.false_eq_true, ↓reduceIte]
        trivial

theorem delete_course (d₁ d₂ : Dialect) (x : Delete) : SameCourse (d₁.delete x) (d₂.delete x) := by
  unfold Dialect.delete
  cases x.guard with
  | error e => rfl
  | ok _ =>
    by_cases ht : x.table.isEmpty = true
    · simp only [ht, ↓reduceIte]
      rfl
    · simp only [ht, Bool.false_eq_true, ↓reduceIte]
      trivial

/-- **A conflict clause with targets** is written in every dialect. -/
theorem conflictClause_ok (d : Dialect) {c : OnConflict} (h : c.targets ≠ []) (columns : List Term) :
    ∃ s, d.conflictClause c columns = .ok s := by
  unfold conflictClause
  split
  · split
    · exact ⟨_, rfl⟩
    · exact ⟨_, rfl⟩
  · have hne : c.targets.isEmpty = false := by simpa using h
    simp only [hne, Bool.false_eq_true, ↓reduceIte]
    split
    · exact ⟨_, rfl⟩
    · exact ⟨_, rfl⟩

theorem insert_eq_ok {i : Insert} (hv : i.validate = .ok ())
    (hret : (!i.returning.isEmpty && !d.returning) = false) (hc : ∀ c ∈ i.conflict, c.targets ≠ []) :
    ∃ s, d.insert i = .ok s := by
  unfold Dialect.insert
  rw [hv]
  simp only [hret]
  cases hcf : i.conflict with
  | none => exact ⟨_, rfl⟩
  | some c =>
    obtain ⟨s, hs⟩ := d.conflictClause_ok (hc c hcf) i.columns
    simp only [hs]
    exact ⟨_, rfl⟩

/-- **An insert returning columns** is refused by a dialect without `RETURNING`. -/
theorem insert_eq_unsupported {i : Insert} (hv : i.validate = .ok ())
    (hret : (!i.returning.isEmpty && !d.returning) = true) :
    d.insert i = .error (Fault.unsupported "insert" (d.name ++ " does not support RETURNING")) := by
  unfold Dialect.insert
  rw [hv]
  simp only [hret]
  rfl

/-- **Inserts take the same course** in two dialects that agree on `RETURNING` for them, once
their conflict clauses name targets: the checks before writing are the same. -/
theorem insert_course {d₁ d₂ : Dialect} {i₁ i₂ : Insert} (hv : i₁.validate = i₂.validate)
    (hret : (!i₁.returning.isEmpty && !d₁.returning) = (!i₂.returning.isEmpty && !d₂.returning))
    (hc₁ : ∀ c ∈ i₁.conflict, c.targets ≠ []) (hc₂ : ∀ c ∈ i₂.conflict, c.targets ≠ []) :
    SameCourse (d₁.insert i₁) (d₂.insert i₂) := by
  cases hv₂ : i₂.validate with
  | error e =>
    have hv₁ : i₁.validate = .error e := hv.trans hv₂
    unfold Dialect.insert
    rw [hv₁, hv₂]
    rfl
  | ok u =>
    have hv₁ : i₁.validate = .ok () := hv.trans hv₂
    cases hr : (!i₂.returning.isEmpty && !d₂.returning)
    · obtain ⟨s₁, hs₁⟩ := insert_eq_ok hv₁ (hret.trans hr) hc₁
      obtain ⟨s₂, hs₂⟩ := insert_eq_ok hv₂ hr hc₂
      rw [hs₁, hs₂]
      trivial
    · rw [insert_eq_unsupported hv₁ (hret.trans hr), insert_eq_unsupported hv₂ hr]
      rfl

end Dialect
end QueryKit.Sql

namespace QueryKit.Query

open Sql

/-- **A conflict plan two dialects write alike**: it names its targets, and both dialects bind each
of its values alike. -/
def ConflictPlan.Fits (d₁ d₂ : Dialect) (p : ConflictPlan) : Prop :=
  p.targets ≠ [] ∧ ∀ a ∈ p.assignments, d₁.BindsAlike d₂ a.2

/-- The conflict values a call gives explicitly. -/
def Call.conflictValues : Call → List ConflictValue
  | .onConflictDoUpdate _ assignments => assignments.map (·.2)
  | _ => []

namespace Builder

/-! ## Builder calls ignore the dialect -/

/-- **Dialect-blind builder functions**: changing the dialect before or after is the same. -/
def Blind (f : Builder → Builder) : Prop := ∀ b d, f { b with dialect := d } = { f b with dialect := d }

/-- **Builder functions that keep the conflict plan.** -/
def KeepsPlan (f : Builder → Builder) : Prop := ∀ b, (f b).conflict = b.conflict

theorem blind_fail (e : Fault) : Blind (·.fail e) := by
  intro b d
  by_cases h : b.fault.isSome <;> simp [fail, h]

theorem keepsPlan_fail (e : Fault) : KeepsPlan (·.fail e) := by
  intro b
  by_cases h : b.fault.isSome <;> simp [fail, h]

theorem Blind.guard (p : Prop) [Decidable p] (e : Fault) {g : Builder → Builder} (hg : Blind g) :
    Blind (fun b => if p then b.fail e else g b) := by
  intro b d
  split
  · exact blind_fail e b d
  · exact hg b d

theorem KeepsPlan.guard (p : Prop) [Decidable p] (e : Fault) {g : Builder → Builder} (hg : KeepsPlan g) :
    KeepsPlan (fun b => if p then b.fail e else g b) := by
  intro b
  split
  · exact keepsPlan_fail e b
  · exact hg b

theorem blind_setTable (t : Value) : Blind (·.setTable t) := by
  intro b d
  unfold setTable
  split
  · rfl
  · exact blind_fail _ b d

theorem keepsPlan_setTable (t : Value) : KeepsPlan (·.setTable t) := by
  intro b
  unfold setTable
  split
  · rfl
  · exact keepsPlan_fail _ b

theorem blind_select (cols : List Value) : Blind (·.select cols) := by
  intro b d
  unfold select
  split
  · rfl
  · exact blind_fail _ b d

theorem keepsPlan_select (cols : List Value) : KeepsPlan (·.select cols) := by
  intro b
  unfold select
  split
  · rfl
  · exact keepsPlan_fail _ b

theorem blind_order (column : Value) (direction : String) : Blind (·.order column direction) := by
  intro b d
  unfold order
  split
  · exact blind_fail _ b d
  · split
    · exact blind_fail _ b d
    · rfl

theorem keepsPlan_order (column : Value) (direction : String) : KeepsPlan (·.order column direction) := by
  intro b
  unfold order
  split
  · exact keepsPlan_fail _ b
  · split
    · exact keepsPlan_fail _ b
    · rfl

/-- A join reads the statement's bindings, not the dialect. -/
theorem blind_joinWith (kind : String) (table : Value) (build : Option (Scope → Scope)) :
    Blind (·.joinWith kind table build) := by
  intro b d
  cases build with
  | none => exact blind_fail _ b d
  | some f =>
    simp only [joinWith, bindings]
    split
    · exact blind_fail _ { b with scope := _ } d
    · split
      · exact blind_fail _ { b with scope := _ } d
      · by_cases hempty : (f { bindings := b.scope.bindings }).clause.isEmpty = true
        · simp only [hempty, ↓reduceIte]
          exact blind_fail _ { b with scope := _ } d
        · simp only [hempty, Bool.false_eq_true, ↓reduceIte]

theorem keepsPlan_joinWith (kind : String) (table : Value) (build : Option (Scope → Scope)) :
    KeepsPlan (·.joinWith kind table build) := by
  intro b
  unfold joinWith
  split
  · exact keepsPlan_fail _ b
  · dsimp only
    split
    · exact keepsPlan_fail _ _
    · split
      · exact keepsPlan_fail _ _
      · split
        · exact keepsPlan_fail _ _
        · rfl

theorem blind_joinOfType (kind : String) (table : Value) (build : Option (Scope → Scope)) :
    Blind (·.joinOfType kind table build) := by
  intro b d
  unfold joinOfType
  split
  · exact blind_fail _ b d
  · exact blind_joinWith _ _ _ b d

theorem keepsPlan_joinOfType (kind : String) (table : Value) (build : Option (Scope → Scope)) :
    KeepsPlan (·.joinOfType kind table build) := by
  intro b
  unfold joinOfType
  split
  · exact keepsPlan_fail _ b
  · exact keepsPlan_joinWith _ _ _ b

end Builder

namespace Call

/-- **Every builder call ignores the dialect.** -/
theorem blind_apply (c : Call) : Builder.Blind (Call.apply · c) := by
  cases c with
  | table t => exact Builder.blind_setTable t
  | select cols => exact Builder.blind_select cols
  | distinct => exact fun _ _ => rfl
  | orderBy column direction => exact Builder.blind_order column direction
  | limit n => exact Builder.Blind.guard _ _ fun _ _ => rfl
  | offset n => exact Builder.Blind.guard _ _ fun _ _ => rfl
  | force => exact fun _ _ => rfl
  | join kind table first op second =>
    exact Builder.blind_joinWith kind table (some fun s => s.columns .and first op second)
  | joinWith kind table calls => exact Builder.blind_joinWith kind table _
  | joinOfType kind table calls => exact Builder.blind_joinOfType kind table _
  | onConflictDoNothing cols => exact Builder.Blind.guard _ _ fun _ _ => rfl
  | onConflictDoUpdate cols assignments => exact Builder.Blind.guard _ _ fun _ _ => rfl
  | cond w => exact fun _ _ => rfl

/-- **The conflict plan after a call**: the one before, or one the call sets, with targets and the
call's own values in order. -/
theorem conflict_apply (b : Builder) (c : Call) :
    ∀ p ∈ (c.apply b).conflict, p ∈ b.conflict ∨ (p.targets ≠ [] ∧ (p.assignments.map (·.2)).Sublist c.conflictValues) := by
  have hkeep : ∀ {f : Builder → Builder}, Builder.KeepsPlan f → ∀ p ∈ (f b).conflict,
      p ∈ b.conflict ∨ (p.targets ≠ [] ∧ (p.assignments.map (·.2)).Sublist c.conflictValues) :=
    fun hf p hp => .inl (hf b ▸ hp)
  cases c with
  | table t => exact hkeep (Builder.keepsPlan_setTable t)
  | select cols => exact hkeep (Builder.keepsPlan_select cols)
  | distinct => exact hkeep fun _ => rfl
  | orderBy column direction => exact hkeep (Builder.keepsPlan_order column direction)
  | limit n => exact hkeep (f := (·.setLimit n)) (Builder.KeepsPlan.guard (n < 0) _ fun _ => rfl)
  | offset n => exact hkeep (f := (·.setOffset n)) (Builder.KeepsPlan.guard (n < 0) _ fun _ => rfl)
  | force => exact hkeep fun _ => rfl
  | join kind table first op second =>
    exact hkeep (Builder.keepsPlan_joinWith kind table (some fun s => s.columns .and first op second))
  | joinWith kind table calls => exact hkeep (Builder.keepsPlan_joinWith kind table _)
  | joinOfType kind table calls => exact hkeep (Builder.keepsPlan_joinOfType kind table _)
  | cond w => exact hkeep fun _ => rfl
  | onConflictDoNothing cols =>
    intro p hp
    simp only [apply, Builder.onConflictDoNothing] at hp
    split at hp
    · exact .inl ((Builder.keepsPlan_fail _ b) ▸ hp)
    · rename_i hcols
      cases Option.mem_some_iff.mp hp
      exact .inr ⟨by simpa using hcols, List.nil_sublist _⟩
  | onConflictDoUpdate cols assignments =>
    intro p hp
    simp only [apply, Builder.onConflictDoUpdate] at hp
    split at hp
    · exact .inl ((Builder.keepsPlan_fail _ b) ▸ hp)
    · rename_i hcols
      cases Option.mem_some_iff.mp hp
      exact .inr ⟨by simpa using hcols, List.Sublist.refl _⟩

end Call

/-! ## Writing in another dialect -/

namespace Builder

/-- A step with a value keeps the bindings of the last statement. -/
theorem Step.lastBindings {β : Type} {g : Builder → β × Builder} (hg : Step g) (b : Builder) :
    (g b).2.lastBindings = b.lastBindings :=
  congrArg (fun x => x.2.lastBindings) (hg.withLast b b.lastSql b.lastBindings)

/-- **A select is written alike in every dialect**: it is refused alike or written in both,
whatever the last statement. -/
theorem compileSelect_redialect (b : Builder) (d : Dialect) (sql : String) (lb : List Binding)
    (op : String) (count : Bool) :
    SameCourse (b.compileSelect op count) (({ b with dialect := d }.withLast sql lb).compileSelect op count) := by
  have hstmt : ({ b with dialect := d }.withLast sql lb).selectStatement op = b.selectStatement op := rfl
  unfold Builder.compileSelect
  rw [hstmt]
  refine (course_self (b.selectStatement op)).bind fun s _ hs => ?_
  subst hs
  exact (Dialect.select_course _ _ _).bind fun _ _ _ => trivial

/-- A delete is written alike in every dialect, whatever the last statement. -/
theorem compileDelete_redialect (b : Builder) (d : Dialect) (sql : String) (lb : List Binding) :
    SameCourse b.compileDelete ({ b with dialect := d }.withLast sql lb).compileDelete := by
  have hfault : ({ b with dialect := d }.withLast sql lb).fault? = b.fault? := rfl
  have htable : ({ b with dialect := d }.withLast sql lb).table = b.table := rfl
  unfold Builder.compileDelete
  rw [hfault, htable]
  cases b.fault? with
  | some f => rfl
  | none =>
    by_cases ht : b.table.isEmpty = true
    · rw [if_pos ht, if_pos ht]
      rfl
    · rw [if_neg ht, if_neg ht]
      exact (Dialect.delete_course _ _ _).map

/-- **Writing steps**: steps that write a statement and keep the conflict plan, refusing it or
writing it alike in another dialect and leaving the same builder there. -/
structure Writes (g : Builder → Except Fault String × Builder) : Prop where
  step : Step g
  plan : KeepsPlan fun b => (g b).2
  blind : ∀ b d, SameCourse (g b).1 (g { b with dialect := d }).1 ∧
    (g { b with dialect := d }).2 = { (g b).2 with dialect := d }

/-- **A writing step in another dialect, after another last statement**, takes the same course and
leaves the same builder in that dialect, after that statement. -/
theorem Writes.redialect {g : Builder → Except Fault String × Builder} (hg : Writes g) (b : Builder)
    (d : Dialect) (sql : String) (lb : List Binding) :
    SameCourse (g b).1 (g ({ b with dialect := d }.withLast sql lb)).1 ∧
      (g ({ b with dialect := d }.withLast sql lb)).2 = { (g b).2 with dialect := d }.withLast sql lb := by
  rw [hg.step.withLast, Prod.map_fst, Prod.map_snd, id_eq, (hg.blind b d).2]
  exact ⟨(hg.blind b d).1, rfl⟩

theorem writes_compileUpdate (values : Row) : Writes (·.compileUpdate values) where
  step := step_compileUpdate values
  plan b := by
    dsimp only [compileUpdate]
    repeat' split
    all_goals rfl
  blind b d := by
    have hfault : ({ b with dialect := d } : Builder).fault? = b.fault? := rfl
    have htable : ({ b with dialect := d } : Builder).table = b.table := rfl
    have hbind : ({ b with dialect := d } : Builder).bindings = b.bindings := rfl
    unfold compileUpdate
    rw [hfault, htable, hbind]
    cases b.fault? with
    | some f => exact ⟨rfl, rfl⟩
    | none =>
      by_cases ht : b.table.isEmpty = true
      · rw [if_pos ht, if_pos ht]
        exact ⟨rfl, rfl⟩
      · rw [if_neg ht, if_neg ht]
        dsimp only
        split
        · exact ⟨rfl, rfl⟩
        · exact ⟨(Dialect.update_course _ _ _).map, rfl⟩

theorem writes_pageQuery (op : String) (page perPage : Int) : Writes (·.pageQuery op page perPage) where
  step := step_pageQuery op page perPage
  plan b := by
    dsimp only
    unfold pageQuery
    split
    · rfl
    · rfl
  blind b d := by
    unfold pageQuery
    cases Paging.offsetOf page perPage with
    | error e => exact ⟨rfl, rfl⟩
    | ok offset =>
      exact ⟨compileSelect_redialect { b with offset := some offset, limit := b.limit.or (some perPage) } d
        b.lastSql b.lastBindings op false, rfl⟩

end Builder

/-! ## Twin builders -/

namespace Builder

variable {d₁ d₂ : Dialect} {b₁ b₂ : Builder}

/-- **Twin builders**: one statement under construction, in the dialects `d₁` and `d₂`. They
differ at most in the dialect and the last statement written, and both dialects write their
conflict plan alike. -/
structure Twin (d₁ d₂ : Dialect) (b₁ b₂ : Builder) : Prop where
  left : b₁.dialect = d₁
  right : ∃ sql, b₂ = { b₁ with dialect := d₂, lastSql := sql }
  plan : ∀ p ∈ b₁.conflict, p.Fits d₁ d₂

theorem twin_new (d₁ d₂ : Dialect) (logging : Bool) : Twin d₁ d₂ (new d₁ logging) (new d₂ logging) :=
  ⟨rfl, ⟨"", rfl⟩, fun _ h => nomatch h⟩

theorem Twin.right_dialect (h : Twin d₁ d₂ b₁ b₂) : b₂.dialect = d₂ := by
  obtain ⟨sql, rfl⟩ := h.right
  rfl

theorem Twin.lastBindings (h : Twin d₁ d₂ b₁ b₂) : b₁.lastBindings = b₂.lastBindings := by
  obtain ⟨sql, rfl⟩ := h.right
  rfl

/-- A clause edit keeps the bindings of the last statement. -/
theorem Edit.lastBindings {f : Builder → Builder} (hf : Edit f) (b : Builder) :
    (f b).lastBindings = b.lastBindings := by
  have h := congrArg Builder.lastBindings (hf.withLast b b.lastSql b.lastBindings)
  exact h

/-- **A dialect-blind clause edit keeps twins twins**, once the plan it leaves fits: the last
statement is put back after the edit, and the dialect after that. -/
theorem Twin.map {f : Builder → Builder} (hb : Blind f) (he : Edit f) (h : Twin d₁ d₂ b₁ b₂)
    (hplan : ∀ p ∈ (f b₁).conflict, p.Fits d₁ d₂) : Twin d₁ d₂ (f b₁) (f b₂) := by
  obtain ⟨sql, rfl⟩ := h.right
  refine ⟨(he.setup b₁).1.trans h.left, ⟨sql, ?_⟩, hplan⟩
  calc f { b₁ with dialect := d₂, lastSql := sql }
      = f ({ b₁ with dialect := d₂ }.withLast sql b₁.lastBindings) := rfl
    _ = (f { b₁ with dialect := d₂ }).withLast sql b₁.lastBindings := he.withLast _ _ _
    _ = { f b₁ with dialect := d₂ }.withLast sql (f b₁).lastBindings := by
      rw [hb b₁ d₂, he.lastBindings b₁]
    _ = { f b₁ with dialect := d₂, lastSql := sql } := rfl

/-- Twins that record a statement each stay twins: they record the same bindings. -/
theorem Twin.record (h : Twin d₁ d₂ b₁ b₂) (q₁ q₂ : String) :
    Twin d₁ d₂ { b₁ with lastSql := q₁, lastBindings := b₁.bindings.entries }
      { b₂ with lastSql := q₂, lastBindings := b₂.bindings.entries } := by
  obtain ⟨sql, rfl⟩ := h.right
  exact ⟨h.left, ⟨q₂, rfl⟩, h.plan⟩

theorem Twin.reset (h : Twin d₁ d₂ b₁ b₂) : Twin d₁ d₂ b₁.reset b₂.reset := by
  obtain ⟨sql, rfl⟩ := h.right
  exact ⟨h.left, ⟨sql, rfl⟩, fun _ hp => nomatch hp⟩

theorem Twin.fail (h : Twin d₁ d₂ b₁ b₂) (e : Fault) : Twin d₁ d₂ (b₁.fail e) (b₂.fail e) :=
  h.map (blind_fail e) (edit_fail e) fun p hp => h.plan p (keepsPlan_fail e b₁ ▸ hp)

end Builder

/-- **Every builder call keeps twins twins**, when the dialects bind the call's conflict values
alike. -/
theorem Call.twin_apply {d₁ d₂ : Dialect} {b₁ b₂ : Builder} (c : Call)
    (hc : ∀ v ∈ c.conflictValues, d₁.BindsAlike d₂ v) (h : Builder.Twin d₁ d₂ b₁ b₂) :
    Builder.Twin d₁ d₂ (c.apply b₁) (c.apply b₂) := by
  refine h.map (blind_apply c) (edit_apply c) fun p hp => ?_
  rcases conflict_apply b₁ c p hp with hold | ⟨htargets, hnew⟩
  · exact h.plan p hold
  · exact ⟨htargets, fun a ha => hc _ (hnew.subset (List.mem_map_of_mem ha))⟩

theorem Call.twin_applyAll {d₁ d₂ : Dialect} :
    ∀ (calls : List Call) {b₁ b₂ : Builder}, (∀ c ∈ calls, ∀ v ∈ c.conflictValues, d₁.BindsAlike d₂ v) →
      Builder.Twin d₁ d₂ b₁ b₂ → Builder.Twin d₁ d₂ (applyAll b₁ calls) (applyAll b₂ calls)
  | [], _, _, _, h => h
  | c :: rest, _, _, hc, h =>
    twin_applyAll rest (fun c' hc' => hc c' (List.mem_cons_of_mem c hc'))
      (c.twin_apply (hc c List.mem_cons_self) h)

/-! ## Twins write alike -/

namespace Builder

variable {d₁ d₂ : Dialect} {b₁ b₂ : Builder}

/-- A call without conflict values keeps twins twins. -/
theorem Twin.apply (h : Twin d₁ d₂ b₁ b₂) {c : Call} (hc : c.conflictValues = []) :
    Twin d₁ d₂ (c.apply b₁) (c.apply b₂) :=
  c.twin_apply (fun v hv => by simp [hc] at hv) h

theorem Twin.setLimit (h : Twin d₁ d₂ b₁ b₂) (n : Int) : Twin d₁ d₂ (b₁.setLimit n) (b₂.setLimit n) :=
  h.apply (c := .limit n) rfl

theorem Twin.select (h : Twin d₁ d₂ b₁ b₂) (cols : List Value) : Twin d₁ d₂ (b₁.select cols) (b₂.select cols) :=
  h.apply (c := .select cols) rfl

section Fields

variable (h : Twin d₁ d₂ b₁ b₂)
include h

theorem Twin.fault? : b₂.fault? = b₁.fault? := by
  obtain ⟨sql, rfl⟩ := h.right
  rfl

theorem Twin.table : b₂.table = b₁.table := by
  obtain ⟨sql, rfl⟩ := h.right
  rfl

theorem Twin.bindings : b₂.bindings = b₁.bindings := by
  obtain ⟨sql, rfl⟩ := h.right
  rfl

theorem Twin.conflict : b₂.conflict = b₁.conflict := by
  obtain ⟨sql, rfl⟩ := h.right
  rfl

theorem Twin.columns : b₂.columns = b₁.columns := by
  obtain ⟨sql, rfl⟩ := h.right
  rfl

/-- Twins given the same bindings stay twins. -/
theorem Twin.setBindings (bs : Bindings) :
    Twin d₁ d₂ { b₁ with scope := { b₁.scope with bindings := bs } }
      { b₂ with scope := { b₂.scope with bindings := bs } } := by
  obtain ⟨sql, rfl⟩ := h.right
  exact ⟨h.left, ⟨sql, rfl⟩, h.plan⟩

end Fields

theorem Twin.compileSelect (h : Twin d₁ d₂ b₁ b₂) (op : String) (count : Bool) :
    SameCourse (b₁.compileSelect op count) (b₂.compileSelect op count) := by
  obtain ⟨sql, rfl⟩ := h.right
  exact compileSelect_redialect b₁ d₂ sql b₁.lastBindings op count

theorem Twin.compileDelete (h : Twin d₁ d₂ b₁ b₂) : SameCourse b₁.compileDelete b₂.compileDelete := by
  obtain ⟨sql, rfl⟩ := h.right
  exact compileDelete_redialect b₁ d₂ sql b₁.lastBindings

/-- **Twins take a writing step alike**, and stay twins. -/
theorem Writes.twin {g : Builder → Except Fault String × Builder} (hg : Writes g) (h : Twin d₁ d₂ b₁ b₂) :
    SameCourse (g b₁).1 (g b₂).1 ∧ Twin d₁ d₂ (g b₁).2 (g b₂).2 := by
  obtain ⟨sql, rfl⟩ := h.right
  obtain ⟨hcourse, hafter⟩ := hg.redialect b₁ d₂ sql b₁.lastBindings
  refine ⟨hcourse, (hg.step.setup b₁).1.trans h.left, ⟨sql, hafter.trans ?_⟩,
    fun p hp => h.plan p (hg.plan b₁ ▸ hp)⟩
  rw [← hg.step.lastBindings b₁]
  rfl

/-- **Conflict assignments** that two dialects bind alike are refused alike by both, or written by
both, and leave the same bindings either way: a refused assignment keeps the values bound before
it, which both dialects bound alike. -/
theorem conflictSets_course {d₁ d₂ : Dialect} :
    ∀ (bs : Bindings) {as : List (String × ConflictValue)}, (∀ a ∈ as, d₁.BindsAlike d₂ a.2) →
      SameCourse (conflictSets d₁ bs as).1 (conflictSets d₂ bs as).1 ∧
        (conflictSets d₁ bs as).2 = (conflictSets d₂ bs as).2
  | bs, [], _ => ⟨trivial, rfl⟩
  | bs, (col, v) :: rest, h => by
    cases hc : col.isEmpty
    · rw [conflictSets_named hc, conflictSets_named hc, (h (col, v) List.mem_cons_self).conflictValue]
      obtain ⟨hcourse, hbs⟩ :=
        conflictSets_course (d₂.conflictValue col v bs).2 fun a ha => h a (List.mem_cons_of_mem _ ha)
      exact ⟨hcourse.map, hbs⟩
    · rw [conflictSets_blank hc, conflictSets_blank hc]
      exact ⟨rfl, rfl⟩

/-- **Twins write a conflict clause alike** for a plan both dialects write alike: refused by both
with faults of one kind, or written by both on the plan's targets, and leaving twins either way.
The assignments written are the plan's own, or else every column that is not a target taking the
inserted value, which takes no slot. -/
theorem Twin.onConflict (h : Twin d₁ d₂ b₁ b₂) {plan : ConflictPlan} (hp : plan.Fits d₁ d₂)
    (columns : List String) :
    Course (fun oc₁ oc₂ => oc₁.targets = plan.targets.map Term.name ∧ oc₂.targets = plan.targets.map Term.name)
        (b₁.onConflict plan columns).1 (b₂.onConflict plan columns).1 ∧
      Twin d₁ d₂ (b₁.onConflict plan columns).2 (b₂.onConflict plan columns).2 := by
  unfold Builder.onConflict
  rw [h.bindings]
  split
  · exact ⟨⟨rfl, rfl⟩, h⟩
  · have hfits : ∀ a ∈ (if plan.assignments.isEmpty = true then
        (columns.filter fun c => !plan.targets.contains c).map fun c => (c, ConflictValue.inferred)
      else plan.assignments), d₁.BindsAlike d₂ a.2 := by
      split
      · intro a ha
        obtain ⟨c, -, rfl⟩ := List.mem_map.mp ha
        exact .inr rfl
      · exact hp.2
    dsimp only
    generalize (if plan.assignments.isEmpty = true then
        (columns.filter fun c => !plan.targets.contains c).map fun c => (c, ConflictValue.inferred)
      else plan.assignments) = assignments at hfits ⊢
    split
    · exact ⟨⟨rfl, rfl⟩, h⟩
    · obtain ⟨hcourse, hbs⟩ := conflictSets_course b₁.bindings hfits
      rw [← h.left, ← h.right_dialect] at hcourse hbs
      revert hcourse hbs
      rcases conflictSets b₁.dialect b₁.bindings assignments with ⟨w₁, bs₁⟩
      rcases conflictSets b₂.dialect b₁.bindings assignments with ⟨w₂, bs₂⟩
      rintro hcourse (rfl : bs₁ = bs₂)
      exact ⟨Course.map hcourse fun _ _ _ => ⟨rfl, rfl⟩, h.setBindings bs₁⟩

/-- **Builders alike write an insert alike.** For a relation `P` on builders that share their
faults, table, bindings and conflict plan, holds across new bindings and implies a relation `R`
that fixes the two dialects: when the dialects agree on `RETURNING` for the insert, and `P`
builders write each conflict clause of their plan alike on the plan's targets, leaving `R`
builders, the insert is refused by both with faults of one kind or written by both, leaving `R`
builders. The rows are bound alike, and with the conflict clauses on the same targets the two
inserts are written alike. -/
theorem compileInsert_alike {P R : Builder → Builder → Prop}
    (hshare : ∀ {b₁ b₂}, P b₁ b₂ → b₂.fault? = b₁.fault? ∧ b₂.table = b₁.table ∧
      b₂.bindings = b₁.bindings ∧ b₂.conflict = b₁.conflict)
    (hbind : ∀ {b₁ b₂} (bs : Bindings), P b₁ b₂ →
      P { b₁ with scope := { b₁.scope with bindings := bs } } { b₂ with scope := { b₂.scope with bindings := bs } })
    (hwider : ∀ {b₁ b₂}, P b₁ b₂ → R b₁ b₂)
    (hdialect : ∀ {b₁ b₂}, R b₁ b₂ → b₁.dialect = d₁ ∧ b₂.dialect = d₂)
    (hconflict : ∀ {b₁ b₂} (plan : ConflictPlan) (columns : List String), P b₁ b₂ → plan ∈ b₁.conflict →
      plan.targets ≠ [] ∧
        Course (fun oc₁ oc₂ => oc₁.targets = plan.targets.map Term.name ∧ oc₂.targets = plan.targets.map Term.name)
          (b₁.onConflict plan columns).1 (b₂.onConflict plan columns).1 ∧
        R (b₁.onConflict plan columns).2 (b₂.onConflict plan columns).2)
    (h : P b₁ b₂) (op : String) (rows : List Row) (returning : List Term)
    (hret : (!returning.isEmpty && !d₁.returning) = (!returning.isEmpty && !d₂.returning)) :
    SameCourse (b₁.compileInsert op rows returning).1 (b₂.compileInsert op rows returning).1 ∧
      R (b₁.compileInsert op rows returning).2 (b₂.compileInsert op rows returning).2 := by
  obtain ⟨hfault, htable, hbindings, hconf⟩ := hshare h
  have hbound := fun bs => hbind bs h
  have hplans := fun bs plan columns (hp : plan ∈ b₁.conflict) => hconflict plan columns (hbind bs h) hp
  unfold Builder.compileInsert
  revert hbound hplans
  rw [hfault, htable, hbindings, hconf]
  intro hbound hplans
  cases b₁.fault? with
  | some f => exact ⟨rfl, hwider h⟩
  | none =>
    by_cases ht : b₁.table.isEmpty = true
    · simp only [ht, ↓reduceIte]
      exact ⟨rfl, hwider h⟩
    · simp only [ht, Bool.false_eq_true, ↓reduceIte]
      split
      · exact ⟨rfl, hwider h⟩
      · rename_i columns _
        rcases bindRows columns b₁.bindings rows with ⟨values, bs⟩
        dsimp only
        revert hbound hplans
        cases hc : b₁.conflict with
        | none =>
          intro hbound _
          have hret' : (!returning.isEmpty && !b₁.dialect.returning) =
              (!returning.isEmpty && !b₂.dialect.returning) := by
            rw [(hdialect (hwider h)).1, (hdialect (hwider h)).2, hret]
          exact ⟨(Dialect.insert_course rfl hret' (by simp) (by simp)).map, hwider (hbound bs)⟩
        | some plan =>
          intro _ hplans
          dsimp only
          obtain ⟨htargets, hcourse, hrel⟩ := hplans bs plan columns rfl
          revert hcourse hrel
          generalize Builder.onConflict _ plan columns = w₁
          generalize Builder.onConflict _ plan columns = w₂
          obtain ⟨_ | oc₁, b₁'⟩ := w₁ <;> obtain ⟨_ | oc₂, b₂'⟩ := w₂
          · exact fun hkind hrel => ⟨hkind, hrel⟩
          · exact False.elim
          · exact False.elim
          · rintro ⟨htargets₁, htargets₂⟩ hrel
            have hplan : plan.targets.map Term.name ≠ [] := by simpa using htargets
            refine ⟨?_, hrel⟩
            show SameCourse (Except.map terminate (b₁'.dialect.insert _))
              (Except.map terminate (b₂'.dialect.insert _))
            rw [(hdialect hrel).1, (hdialect hrel).2]
            refine SameCourse.map (Dialect.insert_course rfl hret ?_ ?_)
            · rintro c ⟨⟩
              exact htargets₁ ▸ hplan
            · rintro c ⟨⟩
              exact htargets₂ ▸ hplan

/-- **Twins write an insert alike** when their dialects agree on `RETURNING` for it: refused by
both with faults of one kind, or written by both, leaving twins. -/
theorem Twin.compileInsert (h : Twin d₁ d₂ b₁ b₂) (op : String) (rows : List Row) (returning : List Term)
    (hret : (!returning.isEmpty && !d₁.returning) = (!returning.isEmpty && !d₂.returning)) :
    SameCourse (b₁.compileInsert op rows returning).1 (b₂.compileInsert op rows returning).1 ∧
      Twin d₁ d₂ (b₁.compileInsert op rows returning).2 (b₂.compileInsert op rows returning).2 :=
  compileInsert_alike (fun h => ⟨h.fault?, h.table, h.bindings, h.conflict⟩)
    (fun bs h => h.setBindings bs) id (fun h => ⟨h.left, h.right_dialect⟩)
    (fun plan columns h hp => ⟨(h.plan plan hp).1, h.onConflict (h.plan plan hp) columns⟩)
    h op rows returning hret

/-- **Twins ready a hand-written statement alike**: it does not depend on the dialect. -/
theorem Twin.prepareRaw (h : Twin d₁ d₂ b₁ b₂) (op query : String) (params : List (String × Value)) :
    (b₁.prepareRaw op query params).1 = (b₂.prepareRaw op query params).1 ∧
      Twin d₁ d₂ (b₁.prepareRaw op query params).2 (b₂.prepareRaw op query params).2 := by
  obtain ⟨sql, rfl⟩ := h.right
  unfold Builder.prepareRaw
  by_cases hq : (Text.trim query).isEmpty = true
  · simp only [hq, ↓reduceIte, true_and]
    exact h
  · simp only [hq, Bool.false_eq_true, ↓reduceIte, true_and]
    exact ⟨h.left, ⟨_, rfl⟩, h.plan⟩

end Builder

end QueryKit.Query
