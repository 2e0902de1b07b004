import Mathlib
import QueryKit.Proofs.Insert.Layout
import QueryKit.Proofs.Fault.Terminal

/-!
# The conflict clause of an upsert

An upsert inserts rows and, where one conflicts with a row already there on the unique columns,
updates that row instead. Without assignments of its own it updates every column that is not a
unique one to the value the insert tried to write, and with no such column it skips the conflict.
Its clause follows the rows, so the values it binds take the slots after theirs; an assignment
that names no column stops it, and the values bound before that one stay bound.

Raw SQL in an assignment is meant to be written as it is in every dialect. A clause written
`ON DUPLICATE KEY` writes raw SQL given directly that way, but a reference to raw SQL as the
inserted value of the column (`mysql_reference_assignment_writes_inserted_value`).

* `Dialect.upsertValue`: the text of an assignment's value, in either way of writing a conflict
  clause (`ON DUPLICATE KEY UPDATE`, or `ON CONFLICT … DO UPDATE SET`);
* `Builder.conflictSets_eq`: the assignments written from any bindings, the values that bind
  taking the next slots in order;
* `Builder.compileInsert_upsert` and `Builder.compileInsert_upsert_bindings`: the insert of a
  builder with an upsert plan, in closed form, and the bindings after it, written or refused;
* `Run.upsert_writes_conflict_tail`: what an upsert records, its statement and its bindings, or
  its refusal of an assignment that names no column with the bindings made before it.
-/

namespace QueryKit.Sql

/-- **The value an upsert assignment binds** in a dialect: a given value that takes a slot, where
conflict clauses are written `ON CONFLICT`. A clause written `ON DUPLICATE KEY` binds nothing. -/
def ConflictValue.boundIn (d : Dialect) : ConflictValue → Option Value
  | .inferred => none
  | .given x => if d.upsert = .onConflict ∧ (ConflictValue.given x).takesSlot = true then some x else none

theorem ConflictValue.rawSql_of_boundIn {d : Dialect} {v : ConflictValue} {x : Value}
    (h : v.boundIn d = some x) : x.rawSql? = none := by
  cases v with
  | inferred => cases h
  | given y =>
    simp only [boundIn, Option.ite_none_right_eq_some, Option.some.injEq] at h
    obtain ⟨⟨-, hslot⟩, rfl⟩ := h
    exact Dialect.rawSql_none_of_takesSlot hslot

/-- The text a value is written as: its raw SQL, or else the marker of the next free slot. -/
theorem Bindings.add_fst (b : Bindings) (v : Value) :
    (b.add v).1 = v.rawSql?.getD (":" ++ slotName (max b.next 1)) := by
  cases hv : v.rawSql? with
  | some s =>
    rw [Bindings.add_raw hv]
    rfl
  | none =>
    rw [Bindings.add_numbered hv]
    rfl

namespace Dialect

section Texts

variable (d : Dialect)

/-- **The inserted value of a column**, as a conflict clause names it: `VALUES(column)` in a clause
written `ON DUPLICATE KEY`, `EXCLUDED.column` in one written `ON CONFLICT`. -/
def insertedValue (column : String) : String :=
  if d.upsert = .duplicateKey then "VALUES(" ++ d.quoteName column ++ ")"
  else "EXCLUDED." ++ d.quoteName column

/-- **The text of an upsert assignment's value** for `column`, the next free slot being `n`. An
inferred value is the inserted one, and raw SQL stands as it is, in every dialect. A text in the
dialect's own idiom is kept: `VALUES(…)` as it is, `EXCLUDED.rest` with `rest` quoted. Anything
else is the inserted value in a clause written `ON DUPLICATE KEY`; in one written `ON CONFLICT` it
is the raw SQL a reference holds, or the marker of slot `n`. -/
def upsertValue (n : Nat) (column : String) : ConflictValue → String
  | .inferred => d.insertedValue column
  | .given (.raw s) => s
  | .given (.text s) =>
    if d.upsert = .duplicateKey then (if s.startsWith "VALUES(" then s else d.insertedValue column)
    else if s.startsWith "EXCLUDED." then "EXCLUDED." ++ d.quoteName (s.drop 9).toString
    else ":" ++ slotName n
  | .given x =>
    if d.upsert = .duplicateKey then d.insertedValue column else x.rawSql?.getD (":" ++ slotName n)

/-- **The assignments of an upsert**, `column = value`, written from slot `n` on: each value that
binds takes the next slot. -/
def upsertSets (n : Nat) (sets : List (String × ConflictValue)) : List String :=
  sets.mapIdx fun k a =>
    d.quoteName a.1 ++ " = " ++
      d.upsertValue (n + (sets.take k).countP fun a => (a.2.boundIn d).isSome) a.1 a.2

/-- **The slots an upsert's assignments take** from slot `n` on: the values that bind, the `k`-th
of them in slot `n + k`. -/
def upsertBound (n : Nat) (sets : List (String × ConflictValue)) : List Binding :=
  ((sets.filterMap fun a => a.2.boundIn d).zipIdx n).map fun p => ⟨slotName p.2, p.1⟩

/-- **The conflict clause of an upsert** on the targets, writing the assignment texts `sets`. With
none it skips the conflict: `DO NOTHING`, or, in a clause written `ON DUPLICATE KEY`, the first
target assigned itself. -/
def upsertTail (targets sets : List String) : String :=
  if d.upsert = .duplicateKey then
    "ON DUPLICATE KEY UPDATE " ++
      (if sets = [] then d.quoteName (targets.headD "") ++ " = " ++ d.quoteName (targets.headD "")
      else ", ".intercalate sets)
  else
    "ON CONFLICT (" ++ ", ".intercalate (targets.map d.quoteName) ++ ")" ++
      (if sets = [] then " DO NOTHING" else " DO UPDATE SET " ++ ", ".intercalate sets)

@[simp] theorem upsertSets_nil (n : Nat) : d.upsertSets n [] = [] := rfl

@[simp] theorem upsertBound_nil (n : Nat) : d.upsertBound n [] = [] := rfl

theorem upsertSets_cons (n : Nat) (a : String × ConflictValue) (sets : List (String × ConflictValue)) :
    d.upsertSets n (a :: sets) = (d.quoteName a.1 ++ " = " ++ d.upsertValue n a.1 a.2) ::
      d.upsertSets (n + if (a.2.boundIn d).isSome then 1 else 0) sets := by
  simp only [upsertSets, List.mapIdx_cons, List.take_zero, List.countP_nil, Nat.add_zero,
    List.take_succ_cons, List.countP_cons, Nat.add_assoc,
    Nat.add_comm (if (a.2.boundIn d).isSome = true then 1 else 0)]

theorem upsertBound_cons (n : Nat) (a : String × ConflictValue) (sets : List (String × ConflictValue)) :
    d.upsertBound n (a :: sets) = ((a.2.boundIn d).map fun x => (⟨slotName n, x⟩ : Binding)).toList ++
      d.upsertBound (n + if (a.2.boundIn d).isSome then 1 else 0) sets := by
  unfold upsertBound
  cases hv : a.2.boundIn d with
  | none => simp [hv]
  | some x => simp [hv, List.zipIdx_cons]

theorem length_upsertSets (n : Nat) (sets : List (String × ConflictValue)) :
    (d.upsertSets n sets).length = sets.length := List.length_mapIdx

end Texts

/-! ## One value -/

variable {d : Dialect}

/-- **The text of an assignment's value** is the one `upsertValue` gives from the next free slot,
however the dialect writes the clause and whatever the value. -/
theorem conflictValue_fst (column : String) (v : ConflictValue) (bs : Bindings) :
    (d.conflictValue column v bs).1 = Term.sql (d.upsertValue (max bs.next 1) column v) := by
  cases v with
  | inferred =>
    cases hu : d.upsert <;>
      simp only [conflictValue, upsertValue, insertedValue, hu, reduceCtorEq, ↓reduceIte]
  | given x =>
    cases hu : d.upsert <;> cases x <;>
      simp only [conflictValue, upsertValue, insertedValue, hu, Bindings.addTerm, Bindings.add_fst,
        Value.rawSql?, reduceCtorEq, ↓reduceIte, Option.getD_none, apply_ite Prod.fst,
        apply_ite Term.sql]

/-- **The bindings after an assignment's value**: one more slot, holding it, if it binds. -/
theorem conflictValue_snd (column : String) (v : ConflictValue) (bs : Bindings) :
    (d.conflictValue column v bs).2.entries =
        bs.entries ++ ((v.boundIn d).map fun x => (⟨slotName (max bs.next 1), x⟩ : Binding)).toList ∧
      max (d.conflictValue column v bs).2.next 1 = max bs.next 1 + if (v.boundIn d).isSome then 1 else 0 := by
  have hadded : (d.conflictValue column v bs).2 = (v.boundIn d).elim bs fun x => (bs.add x).2 := by
    cases hu : d.upsert with
    | duplicateKey =>
      have hnone : v.boundIn d = none := by
        cases v <;> simp [ConflictValue.boundIn, hu]
      rw [conflictValue_of_duplicateKey hu, hnone]
      rfl
    | onConflict =>
      cases v with
      | inferred => exact conflictValue_of_slotless rfl
      | given x =>
        rw [conflictValue_given_onConflict hu]
        by_cases hx : (ConflictValue.given x).takesSlot = true
        · simp [ConflictValue.boundIn, hu, hx]
        · simp [ConflictValue.boundIn, hu, hx]
  rw [hadded]
  cases hv : v.boundIn d with
  | none => simp
  | some x =>
    rw [Option.elim_some, Bindings.add_numbered (ConflictValue.rawSql_of_boundIn hv)]
    simp only [Option.map_some, Option.toList_some, Option.isSome_some, ↓reduceIte, true_and]
    omega

/-! ## The clause -/

/-- A column name is written quoted. -/
theorem term_name (d : Dialect) (s : String) : d.term (Term.name s) = d.quoteName s := rfl

/-- **The conflict clause of an upsert plan written**, on its targets and with the assignments
written, when it updates or assigns nothing; with nothing to assign, the conflict is skipped. -/
theorem conflictClause_upsert (d : Dialect) {targets : List String} (htargets : targets ≠ [])
    (action : ConflictAction) (sets : List Assignment) (columns : List Term)
    (hskip : action = .doNothing → sets = []) :
    d.conflictClause ⟨targets.map Term.name, action, sets⟩ columns =
      .ok (d.upsertTail targets (sets.map fun a => d.term a.column ++ " = " ++ d.term a.value)) := by
  obtain ⟨t, ts, rfl⟩ := List.exists_cons_of_ne_nil htargets
  have hhead : ∀ x, "ON CONFLICT" ++ (" (" ++ x) = "ON CONFLICT (" ++ x := fun x => by
    rw [← String.append_assoc]
    rfl
  cases sets with
  | nil =>
    cases hu : d.upsert <;>
      simp [conflictClause, upsertTail, hu, terms, term_name, Function.comp_def, hhead,
        String.append_assoc]
  | cons a rest =>
    have haction : action = .doUpdate := by
      cases action with
      | doNothing => exact absurd (hskip rfl) (by simp)
      | doUpdate => rfl
    subst haction
    have hupdate : (ConflictAction.doUpdate == ConflictAction.doNothing) = false := rfl
    have hclose : ∀ x, ")" ++ (" DO UPDATE SET " ++ x) = ") DO UPDATE SET " ++ x := fun x => by
      rw [← String.append_assoc]
      rfl
    cases hu : d.upsert <;>
      simp [conflictClause, upsertTail, hu, hupdate, terms, term_name, Function.comp_def, hhead,
        hclose, String.append_assoc, assignments]

end Dialect
end QueryKit.Sql

namespace QueryKit.Query

open Sql

/-- **The assignments an upsert writes**: the given ones, or else, for each column that is not a
target, the inserted value. -/
def upsertAssignments (columns targets : List String) (assignments : List (String × ConflictValue)) :
    List (String × ConflictValue) :=
  if assignments.isEmpty then (columns.filter fun c => c ∉ targets).map fun c => (c, .inferred)
  else assignments

/-- An upsert plan assigns no column exactly when one of the assignments it writes names none. -/
theorem assignsBlank_upsert_iff (targets : List String) (assignments : List (String × ConflictValue))
    (columns : List String) :
    ConflictPlan.AssignsBlank ⟨targets, .doUpdate, assignments⟩ columns ↔
      ∃ v, ("", v) ∈ upsertAssignments columns targets assignments := by
  unfold ConflictPlan.AssignsBlank upsertAssignments
  by_cases hgiven : assignments = []
  · simp [hgiven]
  · simp [hgiven]

/-- The assignments a conflict plan that updates writes are the upsert's. -/
theorem upsertAssignments_eq (columns targets : List String) (assignments : List (String × ConflictValue)) :
    (if assignments.isEmpty = true then
        (columns.filter fun c => !targets.contains c).map fun c => (c, ConflictValue.inferred)
      else assignments) = upsertAssignments columns targets assignments := by
  simp [upsertAssignments]

/-- **An upsert written**: the statement `sql` and the bindings `entries` of an upsert of `rows`
under `columns` from the builder `b`, on `targets` with the assignments `sets`. The statement is
the insert of the rows, their cells written from the builder's next free slot on in row-major
order, then a blank and the conflict clause, whose values take the slots after the cells'. -/
structure UpsertWritten (b : Builder) (rows : List Row) (columns targets : List String)
    (sets : List (String × ConflictValue)) (sql : String) (entries : List Binding) : Prop where
  written : ∃ texts, sql = b.dialect.insertHead b.table columns texts ++ " " ++
      b.dialect.upsertTail targets
        (b.dialect.upsertSets (max b.bindings.next 1 + (cellsOf columns rows).countP Value.takesSlot) sets) ++
      ";" ∧
    texts.length = rows.length ∧ (∀ t ∈ texts, t.length = columns.length) ∧
    texts.flatten = writtenFrom (max b.bindings.next 1) (cellsOf columns rows)
  slots : entries = b.bindings.entries ++ boundFrom (max b.bindings.next 1) (cellsOf columns rows) ++
    b.dialect.upsertBound (max b.bindings.next 1 + (cellsOf columns rows).countP Value.takesSlot) sets

namespace Builder

/-- **The assignments of a conflict clause written** from any bindings, when each names a column:
their texts, and the bindings after them, the values that bind in the next slots in order. -/
theorem conflictSets_eq (d : Dialect) : ∀ (sets : List (String × ConflictValue)) (bs : Bindings),
    (∀ a ∈ sets, a.1 ≠ "") →
    ∃ written bs', conflictSets d bs sets = (.ok written, bs') ∧
      written.map (fun a => d.term a.column ++ " = " ++ d.term a.value) = d.upsertSets (max bs.next 1) sets ∧
      bs'.entries = bs.entries ++ d.upsertBound (max bs.next 1) sets ∧
      max bs'.next 1 = max bs.next 1 + sets.countP fun a => (a.2.boundIn d).isSome
  | [], bs, _ => ⟨[], bs, rfl, rfl, by simp, by simp⟩
  | (col, v) :: rest, bs, hnamed => by
    have hcol : col.isEmpty = false := by
      simpa using hnamed (col, v) List.mem_cons_self
    obtain ⟨hentries, hnext⟩ := Dialect.conflictValue_snd (d := d) col v bs
    obtain ⟨written, bs', hsets, htexts, hbound, hnext'⟩ :=
      conflictSets_eq d rest (d.conflictValue col v bs).2 fun a ha => hnamed a (List.mem_cons_of_mem _ ha)
    refine ⟨⟨Term.name col, (d.conflictValue col v bs).1⟩ :: written, bs', ?_, ?_, ?_, ?_⟩
    · rw [conflictSets_named hcol, hsets]
      rfl
    · rw [List.map_cons, htexts, hnext, Dialect.upsertSets_cons, Dialect.conflictValue_fst]
      rfl
    · rw [hbound, hentries, hnext, Dialect.upsertBound_cons, List.append_assoc]
    · rw [hnext', hnext]
      simp only [List.countP_cons]
      omega

/-- **The bindings after conflict assignments** are those of the assignments before the first
that names no column. -/
theorem conflictSets_snd_takeWhile (d : Dialect) : ∀ (sets : List (String × ConflictValue)) (bs : Bindings),
    (conflictSets d bs sets).2 = (conflictSets d bs (sets.takeWhile fun a => !a.1.isEmpty)).2
  | [], _ => rfl
  | (col, v) :: rest, bs => by
    cases hcol : col.isEmpty
    · rw [List.takeWhile_cons_of_pos (by simp [hcol]), conflictSets_named hcol, conflictSets_named hcol]
      exact conflictSets_snd_takeWhile d rest _
    · rw [List.takeWhile_cons_of_neg (by simp [hcol]), conflictSets_blank hcol]
      rfl

/-- **The bindings after an upsert plan's conflict clause**, written or refused: those before,
then the values that bind among the assignments before the first that names no column, in the
next slots in order. -/
theorem onConflict_upsert_bindings (b : Builder) (targets : List String)
    (assignments : List (String × ConflictValue)) (columns : List String) :
    (b.onConflict ⟨targets, .doUpdate, assignments⟩ columns).2.bindings.entries =
      b.bindings.entries ++ b.dialect.upsertBound (max b.bindings.next 1)
        ((upsertAssignments columns targets assignments).takeWhile fun a => !a.1.isEmpty) := by
  have hnamed : ∀ a ∈ (upsertAssignments columns targets assignments).takeWhile
      (fun a => !a.1.isEmpty), a.1 ≠ "" := by
    intro a ha
    simpa using List.mem_takeWhile_imp ha
  obtain ⟨written, bs, hsets, -, hbound, -⟩ := conflictSets_eq b.dialect _ b.bindings hnamed
  have hprefix := conflictSets_snd_takeWhile b.dialect (upsertAssignments columns targets assignments)
    b.bindings
  rw [hsets] at hprefix
  simp only [onConflict, upsertAssignments_eq]
  by_cases hnone : (upsertAssignments columns targets assignments).isEmpty = true
  · have hnil : upsertAssignments columns targets assignments = [] := List.isEmpty_iff.mp hnone
    simp [hnil]
  · simp only [hnone, Bool.false_eq_true, ↓reduceIte]
    revert hprefix
    rcases conflictSets b.dialect b.bindings (upsertAssignments columns targets assignments) with ⟨w, bs'⟩
    rintro (rfl : bs' = bs)
    exact hbound

/-- **The conflict clause of an upsert plan** whose assignments each name a column: the clause
`upsertTail` writes, its values taking the next free slots on. With nothing left to update, the
conflict is skipped. -/
theorem onConflict_upsert (b : Builder) {targets : List String} (htargets : targets ≠ [])
    (assignments : List (String × ConflictValue)) (columns : List String)
    (hnamed : ∀ a ∈ upsertAssignments columns targets assignments, a.1 ≠ "") :
    ∃ oc bs, b.onConflict ⟨targets, .doUpdate, assignments⟩ columns =
        (.ok oc, { b with scope := { b.scope with bindings := bs } }) ∧
      b.dialect.conflictClause oc (columns.map Term.name) =
        .ok (b.dialect.upsertTail targets
          (b.dialect.upsertSets (max b.bindings.next 1) (upsertAssignments columns targets assignments))) ∧
      bs.entries = b.bindings.entries ++
        b.dialect.upsertBound (max b.bindings.next 1) (upsertAssignments columns targets assignments) := by
  simp only [onConflict, upsertAssignments_eq]
  obtain ⟨written, bs, hsets, htexts, hbound, -⟩ :=
    conflictSets_eq b.dialect (upsertAssignments columns targets assignments) b.bindings hnamed
  by_cases hnone : (upsertAssignments columns targets assignments).isEmpty = true
  · have hnil : upsertAssignments columns targets assignments = [] := List.isEmpty_iff.mp hnone
    refine ⟨_, b.bindings, by simp only [hnone, ↓reduceIte]; rfl, ?_, by simp [hnil]⟩
    simpa [hnil] using Dialect.conflictClause_upsert b.dialect htargets .doNothing [] (columns.map Term.name)
      fun _ => rfl
  · refine ⟨_, bs, by simp only [hnone, Bool.false_eq_true, ↓reduceIte, hsets]; rfl, ?_, hbound⟩
    rw [← htexts]
    exact Dialect.conflictClause_upsert b.dialect htargets .doUpdate written (columns.map Term.name)
      fun h => nomatch h

/-- **The insert of a builder with an upsert plan**, once its rows are accepted and each of the
plan's assignments names a column: the rows' insert, then the conflict clause, whose values take
the slots after the cells'. The plan is read once the rows are bound, from the builder holding
their bindings. -/
theorem compileInsert_upsert (op : String) {b : Builder} (hfault : b.fault? = none)
    (htable : b.table.isEmpty = false) {first : Row} {rest : List Row}
    (hacc : ¬ RowsRefused (first :: rest)) {targets : List String} (htargets : targets ≠ [])
    {assignments : List (String × ConflictValue)}
    (hnamed : ∀ a ∈ upsertAssignments first.columns targets assignments, a.1 ≠ "") :
    ∃ sql b', ({ b with conflict := some ⟨targets, .doUpdate, assignments⟩ } : Builder).compileInsert op
        (first :: rest) [] = (.ok sql, b') ∧
      UpsertWritten b (first :: rest) first.columns targets
        (upsertAssignments first.columns targets assignments) sql b'.bindings.entries := by
  have hfirst : first ≠ [] := fun h => hacc (.inl h)
  have hcols : first.columns ≠ [] := fun h => hfirst ((Row.columns_eq_nil first).mp h)
  obtain ⟨values, bs, hbind, hvalues, hlen, hwidth, htextsWidth, hwritten, hentries, hnext⟩ :=
    bindRows_from b first.columns first rest
  obtain ⟨oc, bs', hoc, htail, hbound⟩ := onConflict_upsert
    { b with scope := { b.scope with bindings := bs }, conflict := some ⟨targets, .doUpdate, assignments⟩ }
    htargets assignments first.columns hnamed
  have hfault' : ({ b with conflict := some ⟨targets, .doUpdate, assignments⟩ } : Builder).fault? = none :=
    hfault
  have hbind' : bindRows first.columns
      ({ b with conflict := some ⟨targets, .doUpdate, assignments⟩ } : Builder).bindings (first :: rest) =
        (values, bs) := hbind
  rw [compileInsert_of_plan hfault' htable (rowColumns_of_accepted op hacc) rfl, hbind']
  dsimp only
  rw [hoc]
  dsimp only [Except.bind, Except.map]
  rw [Dialect.insert_text _ htable hcols hvalues hwidth (.inl rfl)]
  simp only [Option.elim, htail, Except.map, Builder.bindings] at hbound ⊢
  refine ⟨_, _, rfl, ⟨⟨values.map (·.map Term.text), ?_, by simp [hlen], htextsWidth, hwritten⟩, ?_⟩⟩
  · simp [terminate, Dialect.returningTail, hnext, String.append_assoc]
  · simp [Builder.bindings, hbound, hentries, hnext]

/-- **The bindings after the insert of a builder with an upsert plan**, once its rows are
accepted, whether the insert is written or refused at an assignment that names no column: the
builder's, then the cells', then the values that bind among the assignments before the first that
names no column, in the slots that follow. -/
theorem compileInsert_upsert_bindings (op : String) {b : Builder} (hfault : b.fault? = none)
    (htable : b.table.isEmpty = false) {first : Row} {rest : List Row}
    (hacc : ¬ RowsRefused (first :: rest)) (targets : List String)
    (assignments : List (String × ConflictValue)) :
    (({ b with conflict := some ⟨targets, .doUpdate, assignments⟩ } : Builder).compileInsert op
        (first :: rest) []).2.bindings.entries =
      b.bindings.entries ++ boundFrom (max b.bindings.next 1) (cellsOf first.columns (first :: rest)) ++
        b.dialect.upsertBound
          (max b.bindings.next 1 + (cellsOf first.columns (first :: rest)).countP Value.takesSlot)
          ((upsertAssignments first.columns targets assignments).takeWhile fun a => !a.1.isEmpty) := by
  obtain ⟨values, bs, hbind, -, -, -, -, -, hentries, hnext⟩ := bindRows_from b first.columns first rest
  have hfault' : ({ b with conflict := some ⟨targets, .doUpdate, assignments⟩ } : Builder).fault? = none :=
    hfault
  have hbind' : bindRows first.columns
      ({ b with conflict := some ⟨targets, .doUpdate, assignments⟩ } : Builder).bindings (first :: rest) =
        (values, bs) := hbind
  rw [compileInsert_of_plan hfault' htable (rowColumns_of_accepted op hacc) rfl, hbind']
  dsimp only
  rw [onConflict_upsert_bindings]
  simp only [Builder.bindings] at hentries hnext ⊢
  rw [hentries, hnext]

/-- **An upsert plan with an assignment that names no column stops the insert**, as invalid input. -/
theorem compileInsert_upsert_blank (op : String) {b : Builder} (hfault : b.fault? = none)
    (htable : b.table.isEmpty = false) {first : Row} {rest : List Row}
    (hacc : ¬ RowsRefused (first :: rest)) {targets : List String}
    {assignments : List (String × ConflictValue)}
    (hblank : ∃ v, ("", v) ∈ upsertAssignments first.columns targets assignments) :
    ∃ f, (({ b with conflict := some ⟨targets, .doUpdate, assignments⟩ } : Builder).compileInsert op
        (first :: rest) []).1 = .error f ∧ f.kind = .invalidInput :=
  compileInsert_of_blank (b := { b with conflict := some ⟨targets, .doUpdate, assignments⟩ }) hfault
    htable hacc rfl ((assignsBlank_upsert_iff targets assignments first.columns).mpr hblank)

end Builder
end QueryKit.Query

namespace QueryKit.Query.Run

open Sql

variable {σ : Type} (ex : Option (Executor σ))

theorem compileInsert_run {op : String} {rows : List Row} {returning : List Term} {r : Run σ}
    {w : Except Fault String} {b' : Builder} (h : r.builder.compileInsert op rows returning = (w, b')) :
    (compileInsert op rows returning).run r = (w, { r with builder := b' }) := by
  unfold compileInsert
  rw [run_read, h]
  rfl

theorem finish_builder {α : Type} (o : Outcome α) (r : Run σ) :
    ((finish o).run r).2.builder = r.builder.reset := rfl

/-- **An insert written is recorded**: its statement, with the bindings of the builder after it.
The statement is recorded and run, which leaves the builder alone, and then the builder is
cleared. -/
theorem insert_run_written {rows : List Row} {r : Run σ} {sql : String} {b' : Builder}
    (h : r.builder.compileInsert "insert" rows [] = (.ok sql, b')) :
    ((insert ex rows).run r).2.builder.lastSql = sql ∧
      ((insert ex rows).run r).2.builder.lastBindings = b'.bindings.entries := by
  unfold insert
  rw [run_bind, compileInsert_run h]
  dsimp only
  rw [run_bind, run_bind, finish_builder, keeps_runExec ex sql]
  exact ⟨rfl, rfl⟩

/-- **An insert refused records no statement**, with the bindings made before it was refused. -/
theorem insert_run_refused {rows : List Row} {r : Run σ} {f : Fault}
    (h : (r.builder.compileInsert "insert" rows []).1 = .error f) :
    ((insert ex rows).run r).1 = ⟨0, some f⟩ ∧ ((insert ex rows).run r).2.builder.lastSql = "" ∧
      ((insert ex rows).run r).2.builder.lastBindings =
        (r.builder.compileInsert "insert" rows []).2.bindings.entries := by
  rcases hc : r.builder.compileInsert "insert" rows [] with ⟨w, b'⟩
  rw [hc] at h
  simp only at h
  subst h
  unfold insert
  rw [run_bind, compileInsert_run hc]
  dsimp only
  rw [refuse_run]
  exact ⟨rfl, refused_lastSql _, refused_lastBindings _⟩

/-- **An upsert on unique columns** sets its own conflict handling, updating on a conflict over
those columns, unless some was set before, and inserts. -/
theorem upsert_run (rows : List Row) {targets : List String}
    (assignments : List (String × ConflictValue)) (r : Run σ) (htargets : targets ≠ []) :
    (upsert ex rows targets assignments).run r =
      (insert ex rows).run (if r.builder.conflict.isNone then
        { r with builder := { r.builder with conflict := some ⟨targets, .doUpdate, assignments⟩ } }
      else r) := by
  have hne : targets.isEmpty = false := by simpa using htargets
  unfold upsert
  simp only [hne, Bool.false_eq_true, ↓reduceIte]
  rw [run_read]
  by_cases hc : r.builder.conflict.isNone = true
  · simp only [hc, ↓reduceIte]
    rw [run_change]
    simp only [Builder.onConflictDoUpdate, hne, Bool.false_eq_true, ↓reduceIte]
  · simp only [hc, Bool.false_eq_true, ↓reduceIte]

theorem upsert_run_fresh (rows : List Row) {targets : List String}
    (assignments : List (String × ConflictValue)) {r : Run σ} (htargets : targets ≠ [])
    (hfresh : r.builder.conflict = none) :
    (upsert ex rows targets assignments).run r =
      (insert ex rows).run
        { r with builder := { r.builder with conflict := some ⟨targets, .doUpdate, assignments⟩ } } := by
  rw [upsert_run ex rows assignments r htargets, hfresh, Option.isNone_none, if_pos rfl]

/-- **Conflict handling set before an upsert wins**: the upsert is then the plain insert. -/
theorem upsert_run_planned (rows : List Row) {targets : List String}
    (assignments : List (String × ConflictValue)) {r : Run σ} (htargets : targets ≠ [])
    {plan : ConflictPlan} (hplan : r.builder.conflict = some plan) :
    (upsert ex rows targets assignments).run r = (insert ex rows).run r := by
  rw [upsert_run ex rows assignments r htargets, hplan, Option.isNone_some, if_neg Bool.false_ne_true]

/-- **An upsert writes the conflict clause its inputs call for.** For a run whose builder has no
fault, a table and no conflict handling yet, unique columns, and rows the insert accepts: when one
of the assignments written (the given ones, or else the inserted value of each column of the first
row that is not a unique one) names no column, the upsert is refused as invalid input and records
no statement, with the bindings of the cells and of the values bound before that assignment.
Otherwise it records the insert of the rows, then the conflict clause on the unique columns with
those assignments, each value written as `upsertValue` says, and the bindings of the cells
followed by those of the values that bind. Where a clause is written `ON DUPLICATE KEY`,
`upsertValue` writes a reference to raw SQL as the inserted value, not as that SQL, though raw SQL
is meant to be written as it is in every dialect, and is everywhere else. -/
theorem upsert_writes_conflict_tail (r : Run σ) (first : Row) (rest : List Row)
    (targets : List String) (assignments : List (String × ConflictValue))
    (hfault : r.builder.fault? = none) (htable : r.builder.table.isEmpty = false)
    (hfresh : r.builder.conflict = none) (htargets : targets ≠ [])
    (hrows : ¬ RowsRefused (first :: rest)) :
    ((∃ v, ("", v) ∈ upsertAssignments first.columns targets assignments) →
      ∃ f, ((upsert ex (first :: rest) targets assignments).run r).1 = ⟨0, some f⟩ ∧
        f.kind = .invalidInput ∧
        ((upsert ex (first :: rest) targets assignments).run r).2.builder.lastSql = "" ∧
        ((upsert ex (first :: rest) targets assignments).run r).2.builder.lastBindings =
          r.builder.bindings.entries ++
            boundFrom (max r.builder.bindings.next 1) (cellsOf first.columns (first :: rest)) ++
            r.builder.dialect.upsertBound
              (max r.builder.bindings.next 1 + (cellsOf first.columns (first :: rest)).countP Value.takesSlot)
              ((upsertAssignments first.columns targets assignments).takeWhile fun a => !a.1.isEmpty)) ∧
    ((∀ a ∈ upsertAssignments first.columns targets assignments, a.1 ≠ "") →
      UpsertWritten r.builder (first :: rest) first.columns targets
        (upsertAssignments first.columns targets assignments)
        ((upsert ex (first :: rest) targets assignments).run r).2.builder.lastSql
        ((upsert ex (first :: rest) targets assignments).run r).2.builder.lastBindings) := by
  rw [upsert_run_fresh ex (first :: rest) assignments htargets hfresh]
  refine ⟨fun hblank => ?_, fun hnamed => ?_⟩
  · obtain ⟨f, hf, hkind⟩ := Builder.compileInsert_upsert_blank "insert" hfault htable hrows hblank
    obtain ⟨hout, hsql, hbindings⟩ := insert_run_refused ex
      (r := { r with builder := { r.builder with conflict := some ⟨targets, .doUpdate, assignments⟩ } }) hf
    refine ⟨f, hout, hkind, hsql, ?_⟩
    rw [hbindings]
    exact Builder.compileInsert_upsert_bindings "insert" hfault htable hrows targets assignments
  · obtain ⟨sql, b', hok, hwritten⟩ :=
      Builder.compileInsert_upsert "insert" hfault htable hrows htargets hnamed
    obtain ⟨hsql, hbindings⟩ := insert_run_written ex
      (r := { r with builder := { r.builder with conflict := some ⟨targets, .doUpdate, assignments⟩ } }) hok
    rw [hsql, hbindings]
    exact hwritten

/-- An upsert of one row on its id whose second assignment names no column: refused, with the
cells' slots and the slot of the first assignment's value recorded. -/
theorem users_upsert_refused_after_one_slot :
    ((Builder.new .postgres).setTable (.text "users")).fault? = none ∧
    ((Builder.new .postgres).setTable (.text "users")).table.isEmpty = false ∧
    ((Builder.new .postgres).setTable (.text "users")).conflict = none ∧ ["id"] ≠ [] ∧
    ¬ RowsRefused [[("id", .int 1), ("name", .text "A")]] ∧
    ((∃ v, ("", v) ∈ upsertAssignments (Row.columns [("id", .int 1), ("name", .text "A")]) ["id"]
        [("name", .given (.text "B")), ("", .given (.text "C"))]) →
      ∃ f, ((upsert (none : Option (Executor Unit)) [[("id", .int 1), ("name", .text "A")]] ["id"]
          [("name", .given (.text "B")), ("", .given (.text "C"))]).run
            ⟨(Builder.new .postgres).setTable (.text "users"), (), []⟩).1 = ⟨0, some f⟩ ∧
        f.kind = .invalidInput ∧
        ((upsert (none : Option (Executor Unit)) [[("id", .int 1), ("name", .text "A")]] ["id"]
          [("name", .given (.text "B")), ("", .given (.text "C"))]).run
            ⟨(Builder.new .postgres).setTable (.text "users"), (), []⟩).2.builder.lastSql = "" ∧
        ((upsert (none : Option (Executor Unit)) [[("id", .int 1), ("name", .text "A")]] ["id"]
          [("name", .given (.text "B")), ("", .given (.text "C"))]).run
            ⟨(Builder.new .postgres).setTable (.text "users"), (), []⟩).2.builder.lastBindings =
          ((Builder.new .postgres).setTable (.text "users")).bindings.entries ++
            boundFrom (max ((Builder.new .postgres).setTable (.text "users")).bindings.next 1)
              (cellsOf (Row.columns [("id", .int 1), ("name", .text "A")]) [[("id", .int 1), ("name", .text "A")]]) ++
            ((Builder.new .postgres).setTable (.text "users")).dialect.upsertBound
              (max ((Builder.new .postgres).setTable (.text "users")).bindings.next 1 +
                (cellsOf (Row.columns [("id", .int 1), ("name", .text "A")])
                  [[("id", .int 1), ("name", .text "A")]]).countP Value.takesSlot)
              ((upsertAssignments (Row.columns [("id", .int 1), ("name", .text "A")]) ["id"]
                [("name", .given (.text "B")), ("", .given (.text "C"))]).takeWhile fun a => !a.1.isEmpty)) ∧
    ((∀ a ∈ upsertAssignments (Row.columns [("id", .int 1), ("name", .text "A")]) ["id"]
        [("name", .given (.text "B")), ("", .given (.text "C"))], a.1 ≠ "") →
      UpsertWritten ((Builder.new .postgres).setTable (.text "users")) [[("id", .int 1), ("name", .text "A")]]
        (Row.columns [("id", .int 1), ("name", .text "A")]) ["id"]
        (upsertAssignments (Row.columns [("id", .int 1), ("name", .text "A")]) ["id"]
          [("name", .given (.text "B")), ("", .given (.text "C"))])
        ((upsert (none : Option (Executor Unit)) [[("id", .int 1), ("name", .text "A")]] ["id"]
          [("name", .given (.text "B")), ("", .given (.text "C"))]).run
            ⟨(Builder.new .postgres).setTable (.text "users"), (), []⟩).2.builder.lastSql
        ((upsert (none : Option (Executor Unit)) [[("id", .int 1), ("name", .text "A")]] ["id"]
          [("name", .given (.text "B")), ("", .given (.text "C"))]).run
            ⟨(Builder.new .postgres).setTable (.text "users"), (), []⟩).2.builder.lastBindings) := by
  have hfault : ((Builder.new .postgres).setTable (.text "users")).fault? = none := rfl
  have htable : ((Builder.new .postgres).setTable (.text "users")).table.isEmpty = false := by decide
  have hfresh : ((Builder.new .postgres).setTable (.text "users")).conflict = none := rfl
  have hrows : ¬ RowsRefused [[("id", .int 1), ("name", .text "A")]] := by
    simp [RowsRefused]
  exact ⟨hfault, htable, hfresh, List.cons_ne_nil _ _, hrows,
    upsert_writes_conflict_tail none ⟨(Builder.new .postgres).setTable (.text "users"), (), []⟩
      [("id", .int 1), ("name", .text "A")] [] ["id"] [("name", .given (.text "B")), ("", .given (.text "C"))]
      hfault htable hfresh (List.cons_ne_nil _ _) hrows⟩

example :
    ((upsert (none : Option (Executor Unit)) [[("id", .int 1), ("name", .text "A")]] ["id"]
        [("name", .given (.text "B")), ("", .given (.text "C"))]).run
      ⟨(Builder.new .postgres).setTable (.text "users"), (), []⟩).2.builder.lastBindings.map (·.name) =
      ["v1", "v2", "v3"] := by
  rfl

/-- On MySQL an assignment of a reference to raw SQL writes the inserted value, not that SQL. -/
theorem mysql_reference_assignment_writes_inserted_value :
    ((upsert (none : Option (Executor Unit)) [[("id", .int 1), ("name", .text "A")]] ["id"]
        [("name", .given (.rawRef (some "NOW()")))]).run
      ⟨(Builder.new .mysql).setTable (.text "users"), (), []⟩).2.builder.lastSql =
      "INSERT INTO \x60users\x60 (\x60id\x60, \x60name\x60) VALUES (:v1, :v2) ON DUPLICATE KEY UPDATE \x60name\x60 = VALUES(\x60name\x60);" := by
  rfl

end QueryKit.Query.Run
