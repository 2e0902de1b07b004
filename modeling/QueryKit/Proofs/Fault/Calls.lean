import QueryKit.Proofs.Where.Guard

/-!
# The fault a chain of calls keeps

A builder keeps faults in two stores: its own, fed by the table, selection, ordering, paging,
join and conflict calls, and its `WHERE` scope's, fed by the condition calls at every depth of
groups. Each store keeps the first fault it is given, and `Builder.fault?` reads the builder's
own store first. So a chain ends with the first refusal among its calls of the first kind, or
failing that the first among its condition calls, which need not be the chain's earliest.

* `Cond.refusal`, `Call.refusal` and `Call.whereRefusal`: the fault a call records, read off the
  call alone, since no check of a call looks at the builder it is made on;
* `Cond.apply_fault`: a run of condition calls adds the first refusal among them to its scope's
  store, and `Cond.apply_clause_isEmpty` says when it adds no condition (which a join refuses);
* `Call.applyAll_fault?`: the fault of a chain from a builder without one.
-/

namespace QueryKit.Query

open Sql

/-- The fault of a refused step, none for one that went through. -/
def faultOf {α : Type} : Except Fault α → Option Fault
  | .error f => some f
  | .ok _ => none

@[simp] theorem faultOf_error {α : Type} (f : Fault) : faultOf (.error f : Except Fault α) = some f :=
  rfl

@[simp] theorem faultOf_ok {α : Type} (a : α) : faultOf (.ok a : Except Fault α) = none := rfl

theorem Scope.fail_fault (s : Scope) (f : Fault) : (s.fail f).fault = s.fault.or (some f) := by
  cases h : s.fault <;> simp [Scope.fail, h]

theorem Builder.fail_fault (b : Builder) (f : Fault) : (b.fail f).fault = b.fault.or (some f) := by
  cases h : b.fault <;> simp [Builder.fail, h]

theorem Clause.isEmpty_addCondition (c : Clause) (left : Term) (op : String) (right : Term)
    (conj : Conjunction) : (c.addCondition left op right conj).isEmpty = false := by
  simp [Clause.addCondition, Clause.isEmpty]

theorem Clause.isEmpty_addGroup (c : Clause) (entries : List Entry) (conj : Conjunction) :
    (c.addGroup entries conj).isEmpty = (c.isEmpty && entries.isEmpty) := by
  unfold Clause.addGroup
  split
  · rename_i hempty
    simp [hempty]
  · rename_i hentries
    simp [Clause.isEmpty, hentries]

/-! ## Condition calls -/

namespace Scope

/-- A comparison records the fault of its column. -/
theorem condition_fault (s : Scope) (conj : Conjunction) (column : Value) (op : String)
    (right : Bindings → Term × Bindings) :
    (s.condition conj column op right).fault = s.fault.or (faultOf (Term.ofValue column)) := by
  unfold condition
  split
  · rename_i f hcol
    rw [hcol, faultOf_error, fail_fault]
  · rename_i left hcol
    rw [hcol, faultOf_ok, Option.or_none]

/-- A comparison that is not refused adds a condition. -/
theorem condition_clause_isEmpty {s : Scope} {conj : Conjunction} {column : Value} {op : String}
    {right : Bindings → Term × Bindings} (h : (s.condition conj column op right).fault = none) :
    (s.condition conj column op right).clause.isEmpty = false := by
  unfold condition at h ⊢
  split
  · rename_i f hcol
    rw [hcol, fail_fault] at h
    simp at h
  · exact Clause.isEmpty_addCondition _ _ _ _ _

end Scope

namespace Cond

mutual

/-- **The fault a condition call records** in a scope without one: the operator is checked
before the terms, the second term of a comparison of two terms before the first, an empty list
needs no term, and a group records the first refusal among its calls. -/
def refusal (op : String) : Cond → Option Fault
  | .compare _ c o _ => (faultOf (checkOperator o)).or (faultOf (Term.ofValue c))
  | .columns _ a o b =>
    (faultOf (checkOperator o)).or ((faultOf (Term.ofValue b)).or (faultOf (Term.ofValue a)))
  | .like _ c _ _ | .isNull _ c _ | .between _ c _ _ _ => faultOf (Term.ofValue c)
  | .isIn _ c _ vs => if vs.elements.isEmpty then none else faultOf (Term.ofValue c)
  | .group _ none => some (Fault.invalid op "nil group function")
  | .group _ (some calls) => firstRefusal op calls

/-- The first refusal among condition calls. -/
def firstRefusal (op : String) : List Cond → Option Fault
  | [] => none
  | c :: rest => (refusal op c).or (firstRefusal op rest)

end

mutual

/-- **Whether a condition call adds a condition** when it is not refused: an empty `NOT IN`
adds none, and a group adds one when one of its calls does. -/
def adds : Cond → Bool
  | .isIn _ _ neg vs => !vs.elements.isEmpty || !neg
  | .group _ none => false
  | .group _ (some calls) => anyAdds calls
  | _ => true

/-- Whether one of the condition calls adds a condition. -/
def anyAdds : List Cond → Bool
  | [] => false
  | c :: rest => adds c || anyAdds rest

end

/-- **A condition call adds its refusal to the scope's store**, which keeps the first fault; so
does a run of them, with the first refusal among its calls. An empty list is written without its
column, and a group's calls run in a scope of their own, without a fault. -/
theorem apply_fault (op : String) :
    (∀ (s : Scope) (c : Cond), (c.apply op s).fault = s.fault.or (c.refusal op)) ∧
    (∀ (s : Scope) (calls : List Cond),
      (applyAll op s calls).fault = s.fault.or (firstRefusal op calls)) := by
  refine Cond.apply.mutual_induct op
    (fun s c => (c.apply op s).fault = s.fault.or (c.refusal op))
    (fun s calls => (applyAll op s calls).fault = s.fault.or (firstRefusal op calls))
    ?compare ?columns ?like ?isIn ?isNull ?between ?groupNone ?group ?nil ?cons
  case compare =>
    intro s conj c o v
    simp only [apply, Scope.compare, refusal]
    split
    · rename_i f hop
      rw [hop, faultOf_error, Option.some_or, Scope.fail_fault]
    · rename_i hop
      rw [hop, faultOf_ok, Option.none_or, Scope.condition_fault]
  case columns =>
    intro s conj a o b
    simp only [apply, Scope.columns, refusal]
    split
    · rename_i f hop
      rw [hop, faultOf_error, Option.some_or, Scope.fail_fault]
    · rename_i hop
      rw [hop, faultOf_ok, Option.none_or]
      split
      · rename_i f hsecond
        rw [hsecond, faultOf_error, Option.some_or, Scope.fail_fault]
      · rename_i right hsecond
        rw [hsecond, faultOf_ok, Option.none_or, Scope.condition_fault]
  case like =>
    intro s conj c neg p
    exact Scope.condition_fault _ _ _ _ _
  case isIn =>
    intro s conj c neg vs
    simp only [apply, Scope.isIn, refusal]
    by_cases hempty : vs.elements.isEmpty = true
    · simp only [hempty, ↓reduceIte, Option.or_none]
      split <;> rfl
    · simp only [hempty, Bool.false_eq_true, ↓reduceIte]
      exact Scope.condition_fault _ _ _ _ _
  case isNull =>
    intro s conj c neg
    exact Scope.condition_fault _ _ _ _ _
  case between =>
    intro s conj c neg l h
    exact Scope.condition_fault _ _ _ _ _
  case groupNone =>
    intro s conj
    exact Scope.fail_fault _ _
  case group =>
    intro s conj calls ih
    simp only [apply, Scope.group, refusal]
    have hsub := ih { bindings := s.bindings }
    rw [Option.none_or] at hsub
    split
    · rename_i e he
      rw [Scope.fail_fault, ← hsub, he]
    · rename_i he
      rw [← hsub, he, Option.or_none]
  case nil =>
    intro s
    exact Option.or_none.symm
  case cons =>
    intro s c rest ih₁ ih₂
    rw [applyAll, ih₂, ih₁, firstRefusal, Option.or_assoc]

/-- **Whether a run of condition calls adds a condition**: when it is not refused, the scope's
list is empty after it exactly when it was before and no call adds one. An empty `IN` is written
as `1 = 0` and an empty `NOT IN` as nothing; a refusal of a group's calls, or of a run's first
call, would have been kept. -/
theorem apply_clause_isEmpty (op : String) :
    (∀ (s : Scope) (c : Cond), (c.apply op s).fault = none →
      (c.apply op s).clause.isEmpty = (s.clause.isEmpty && !c.adds)) ∧
    (∀ (s : Scope) (calls : List Cond), (applyAll op s calls).fault = none →
      (applyAll op s calls).clause.isEmpty = (s.clause.isEmpty && !anyAdds calls)) := by
  refine Cond.apply.mutual_induct op
    (fun s c => (c.apply op s).fault = none →
      (c.apply op s).clause.isEmpty = (s.clause.isEmpty && !c.adds))
    (fun s calls => (applyAll op s calls).fault = none →
      (applyAll op s calls).clause.isEmpty = (s.clause.isEmpty && !anyAdds calls))
    ?compare ?columns ?like ?isIn ?isNull ?between ?groupNone ?group ?nil ?cons
  case compare =>
    intro s conj c o v h
    simp only [apply, Scope.compare] at h ⊢
    split at h
    · exact absurd h (Scope.fail_fault_ne _ _)
    · simp only [adds, Bool.not_true, Bool.and_false]
      exact Scope.condition_clause_isEmpty h
  case columns =>
    intro s conj a o b h
    simp only [apply, Scope.columns] at h ⊢
    split at h
    · exact absurd h (Scope.fail_fault_ne _ _)
    · split at h
      · exact absurd h (Scope.fail_fault_ne _ _)
      · simp only [adds, Bool.not_true, Bool.and_false]
        exact Scope.condition_clause_isEmpty h
  case like =>
    intro s conj c neg p h
    simp only [adds, Bool.not_true, Bool.and_false]
    exact Scope.condition_clause_isEmpty h
  case isIn =>
    intro s conj c neg vs h
    simp only [apply, Scope.isIn] at h ⊢
    by_cases hempty : vs.elements.isEmpty = true
    · cases neg
      · simp [hempty, adds, Clause.isEmpty_addCondition]
      · have hne : ("NOT IN" == "IN") = false := by decide
        simp [hempty, hne, adds]
    · simp only [hempty, Bool.false_eq_true, ↓reduceIte] at h ⊢
      simpa [adds, hempty] using Scope.condition_clause_isEmpty h
  case isNull =>
    intro s conj c neg h
    simp only [adds, Bool.not_true, Bool.and_false]
    exact Scope.condition_clause_isEmpty h
  case between =>
    intro s conj c neg l hi h
    simp only [adds, Bool.not_true, Bool.and_false]
    exact Scope.condition_clause_isEmpty h
  case groupNone =>
    intro s conj h
    exact absurd h (Scope.fail_fault_ne _ _)
  case group =>
    intro s conj calls ih h
    simp only [apply, Scope.group] at h ⊢
    have hsub : (applyAll op { bindings := s.bindings } calls).fault = none := by
      cases hf : (applyAll op { bindings := s.bindings } calls).fault with
      | none => rfl
      | some e =>
        simp only [hf] at h
        exact absurd h (Scope.fail_fault_ne _ _)
    have hinner := ih { bindings := s.bindings } hsub
    simp only [hsub, Clause.isEmpty_addGroup, adds]
    simp only [Clause.isEmpty] at hinner ⊢
    simp [hinner]
  case nil =>
    intro s _
    simp [applyAll, anyAdds]
  case cons =>
    intro s c rest ih₁ ih₂ h
    have hfirst : (c.apply op s).fault = none := by
      rw [applyAll, (apply_fault op).2] at h
      exact Option.or_eq_none_iff.mp h |>.1
    rw [applyAll] at h ⊢
    rw [ih₂ h, ih₁ hfirst, anyAdds, Bool.not_or, Bool.and_assoc]

end Cond

/-! ## Builder calls -/

theorem findSome?_cons_or {α β : Type} (f : α → Option β) (a : α) (l : List α) :
    (a :: l).findSome? f = (f a).or (l.findSome? f) := by
  cases h : f a <;> simp [h]

namespace Call

/-- **A join's fault**: a missing function, then the first refusal among its calls, then the
table, then calls that add no condition. -/
def joinRefusal (table : Value) : Option (List Cond) → Option Fault
  | none => some (Fault.invalid "join" "nil join function")
  | some calls =>
    (Cond.firstRefusal "join" calls).or
      (match Term.ofValue table with
        | .error e => some e
        | .ok t =>
          if Cond.anyAdds calls then none
          else some (Fault.invalid "join" ("join on " ++ Text.quote t.text ++ " has no conditions")))

/-- **The fault a builder call records in the builder's own store**: a table, selection or
ordering term that is no name, a negative limit or offset, a refused join, conflict handling
without a target. Condition calls record theirs in the `WHERE` scope's store. -/
def refusal : Call → Option Fault
  | .table t => faultOf (Term.ofValue t)
  | .select cols => faultOf (Term.allOfValues cols)
  | .orderBy c d => (faultOf (parseDirection d)).or (faultOf (Term.ofValue c))
  | .limit n =>
    if n < 0 then some (Fault.invalid "limit" ("limit cannot be negative, got " ++ toString n))
    else none
  | .offset n =>
    if n < 0 then some (Fault.invalid "offset" ("offset cannot be negative, got " ++ toString n))
    else none
  | .join _ t a o c => joinRefusal t (some [.columns .and a o c])
  | .joinWith _ t calls => joinRefusal t calls
  | .joinOfType k t calls => (faultOf (parseJoinKind k)).or (joinRefusal t calls)
  | .onConflictDoNothing cols | .onConflictDoUpdate cols _ =>
    if cols.isEmpty then
      some (Fault.invalid "onConflict" "on conflict requires at least one target column")
    else none
  | .distinct | .force | .cond _ => none

/-- **The fault a builder call records in the `WHERE` scope's store.** -/
def whereRefusal : Call → Option Fault
  | .cond c => c.refusal "where"
  | _ => none

end Call

/-- **A join records its refusal** in the builder's own store and leaves the `WHERE` scope's. The
join's calls run in a scope of their own, from the statement's bindings, and the join is refused
exactly when they added no condition. -/
theorem Builder.joinWith_faults (b : Builder) (kind : String) (table : Value)
    (calls : Option (List Cond)) :
    (b.joinWith kind table (Call.joinScope calls)).fault = b.fault.or (Call.joinRefusal table calls) ∧
      (b.joinWith kind table (Call.joinScope calls)).scope.fault = b.scope.fault := by
  cases calls with
  | none => exact ⟨fail_fault _ _, by rw [Call.joinScope, joinWith, fail_scope]⟩
  | some calls =>
    have hsub := (Cond.apply_fault "join").2 { bindings := b.bindings } calls
    rw [Option.none_or] at hsub
    simp only [Call.joinScope, joinWith, Call.joinRefusal]
    split
    · rename_i e he
      rw [hsub] at he
      rw [he, Option.some_or, fail_fault, fail_scope]
      exact ⟨rfl, rfl⟩
    · rename_i he
      rw [hsub] at he
      rw [he, Option.none_or]
      have hempty : (Cond.applyAll "join" { bindings := b.bindings } calls).clause.isEmpty =
          !Cond.anyAdds calls := by
        rw [(Cond.apply_clause_isEmpty "join").2 { bindings := b.bindings } calls (hsub.trans he)]
        rfl
      cases ht : Term.ofValue table with
      | error e =>
        dsimp only
        rw [fail_fault, fail_scope]
        exact ⟨rfl, rfl⟩
      | ok t =>
        dsimp only
        cases hadds : Cond.anyAdds calls with
        | false =>
          rw [hadds] at hempty
          simp [hempty, fail_fault, fail_scope]
        | true =>
          rw [hadds] at hempty
          simp [hempty]

namespace Call

/-- **A builder call adds its refusal to the store it feeds.** -/
theorem apply_faults (b : Builder) (c : Call) :
    (c.apply b).fault = b.fault.or c.refusal ∧
      (c.apply b).scope.fault = b.scope.fault.or c.whereRefusal := by
  cases c with
  | table t =>
    simp only [apply, Builder.setTable, refusal, whereRefusal, Option.or_none]
    split
    · rename_i t' h
      rw [h, faultOf_ok, Option.or_none]
      exact ⟨rfl, rfl⟩
    · rename_i f h
      rw [h, faultOf_error, Builder.fail_fault, Builder.fail_scope]
      exact ⟨rfl, rfl⟩
  | select cols =>
    simp only [apply, Builder.select, refusal, whereRefusal, Option.or_none]
    split
    · rename_i ts h
      rw [h, faultOf_ok, Option.or_none]
      exact ⟨rfl, rfl⟩
    · rename_i f h
      rw [h, faultOf_error, Builder.fail_fault, Builder.fail_scope]
      exact ⟨rfl, rfl⟩
  | distinct => exact ⟨Option.or_none.symm, Option.or_none.symm⟩
  | orderBy column direction =>
    simp only [apply, Builder.order, refusal, whereRefusal, Option.or_none]
    split
    · rename_i f h
      rw [h, faultOf_error, Option.some_or, Builder.fail_fault, Builder.fail_scope]
      exact ⟨rfl, rfl⟩
    · rename_i dir h
      rw [h, faultOf_ok, Option.none_or]
      split
      · rename_i f hc
        rw [hc, faultOf_error, Builder.fail_fault, Builder.fail_scope]
        exact ⟨rfl, rfl⟩
      · rename_i t hc
        rw [hc, faultOf_ok, Option.or_none]
        exact ⟨rfl, rfl⟩
  | limit n =>
    by_cases hn : n < 0
    · simp [apply, Builder.setLimit, refusal, whereRefusal, hn, Builder.fail_fault]
    · simp [apply, Builder.setLimit, refusal, whereRefusal, hn]
  | offset n =>
    by_cases hn : n < 0
    · simp [apply, Builder.setOffset, refusal, whereRefusal, hn, Builder.fail_fault]
    · simp [apply, Builder.setOffset, refusal, whereRefusal, hn]
  | force => exact ⟨Option.or_none.symm, Option.or_none.symm⟩
  | join kind table first op second =>
    obtain ⟨hown, hwhere⟩ := b.joinWith_faults kind table (some [.columns .and first op second])
    exact ⟨hown, hwhere.trans Option.or_none.symm⟩
  | joinWith kind table calls =>
    obtain ⟨hown, hwhere⟩ := b.joinWith_faults kind table calls
    exact ⟨hown, hwhere.trans Option.or_none.symm⟩
  | joinOfType kind table calls =>
    simp only [apply, Builder.joinOfType, refusal, whereRefusal, Option.or_none]
    split
    · rename_i f h
      rw [h, faultOf_error, Option.some_or, Builder.fail_fault, Builder.fail_scope]
      exact ⟨rfl, rfl⟩
    · rename_i k h
      rw [h, faultOf_ok, Option.none_or]
      exact b.joinWith_faults k table calls
  | onConflictDoNothing cols =>
    by_cases hc : cols.isEmpty = true
    · simp [apply, Builder.onConflictDoNothing, refusal, whereRefusal, hc, Builder.fail_fault]
    · simp [apply, Builder.onConflictDoNothing, refusal, whereRefusal, hc]
  | onConflictDoUpdate cols assignments =>
    by_cases hc : cols.isEmpty = true
    · simp [apply, Builder.onConflictDoUpdate, refusal, whereRefusal, hc, Builder.fail_fault]
    · simp [apply, Builder.onConflictDoUpdate, refusal, whereRefusal, hc]
  | cond c => exact ⟨Option.or_none.symm, (Cond.apply_fault "where").1 b.scope c⟩

/-- **The faults a chain keeps**: each store keeps the first refusal it was given. -/
theorem applyAll_faults (b : Builder) : ∀ calls : List Call,
    (applyAll b calls).fault = b.fault.or (calls.findSome? refusal) ∧
      (applyAll b calls).scope.fault = b.scope.fault.or (calls.findSome? whereRefusal)
  | [] => ⟨Option.or_none.symm, Option.or_none.symm⟩
  | c :: rest => by
    obtain ⟨hown, hwhere⟩ := applyAll_faults (c.apply b) rest
    obtain ⟨hown₁, hwhere₁⟩ := apply_faults b c
    have happly : applyAll b (c :: rest) = applyAll (c.apply b) rest := rfl
    rw [happly, hown, hwhere, hown₁, hwhere₁, findSome?_cons_or, findSome?_cons_or, Option.or_assoc,
      Option.or_assoc]
    exact ⟨rfl, rfl⟩

/-- **The fault of a chain** from a builder without one: the first refusal among the calls that
feed the builder's own store, and only when there is none, the first among the condition calls. -/
theorem applyAll_fault? {b : Builder} (hown : b.fault = none) (hwhere : b.scope.fault = none)
    (calls : List Call) :
    (applyAll b calls).fault? = (calls.findSome? refusal).or (calls.findSome? whereRefusal) := by
  obtain ⟨hown', hwhere'⟩ := applyAll_faults b calls
  rw [Builder.fault?, hown', hwhere', hown, hwhere, Option.none_or, Option.none_or]

end Call

end QueryKit.Query
