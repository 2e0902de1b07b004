import QueryKit.Sql.Keyword
import QueryKit.Sql.Binding
import QueryKit.Sql.Condition

/-!
# Condition scopes

A scope collects one condition list — a `WHERE`, an `ON`, or a group inside either — while
binding its values into the bindings of the whole statement. The first fault is kept and later
calls still run, so a chain of calls stays a chain.

* `compare` checks the operator and binds the value; `columns` checks the operator and compares
  with another term; `like`, `isIn`, `isNull` and `between` write their own operators;
* the left term is resolved before any value is bound, so a refused column binds nothing;
* an empty `IN` list compares `1 = 0` (nothing is in it) and an empty `NOT IN` list adds nothing;
* `group` runs a nested scope on the same bindings and adds its list in parentheses, unless it
  is empty; its fault becomes this scope's fault.
-/

namespace QueryKit.Query

open Sql

/-- **Condition scopes.** -/
structure Scope where
  /-- The bindings of the whole statement. -/
  bindings : Bindings := {}
  /-- The conditions collected. -/
  clause : Clause := {}
  /-- The first fault. -/
  fault : Option Fault := none
  deriving Inhabited

namespace Scope

/-- Keeps the first fault. -/
def fail (s : Scope) (f : Fault) : Scope :=
  if s.fault.isSome then s else { s with fault := some f }

/-- Adds `column op right`, where `right` is built from the bindings after the column is
resolved. -/
def condition (s : Scope) (conj : Conjunction) (column : Value) (op : String)
    (right : Bindings → Term × Bindings) : Scope :=
  match Term.ofValue column with
  | .error f => s.fail f
  | .ok left =>
    let (r, b) := right s.bindings
    { s with bindings := b, clause := s.clause.addCondition left op r conj }

/-- **`column op value`**, the value bound. -/
def compare (s : Scope) (conj : Conjunction) (column : Value) (op : String) (value : Value) :
    Scope :=
  match checkOperator op with
  | .error f => s.fail f
  | .ok () => s.condition conj column op (fun b => b.addTerm value)

/-- **`first op second`**, both terms. -/
def columns (s : Scope) (conj : Conjunction) (first : Value) (op : String) (second : Value) :
    Scope :=
  match checkOperator op with
  | .error f => s.fail f
  | .ok () =>
    match Term.ofValue second with
    | .error f => s.fail f
    | .ok right => s.condition conj first op (fun b => (right, b))

/-- **`column LIKE pattern`** (or `NOT LIKE`), the pattern bound. -/
def like (s : Scope) (conj : Conjunction) (column : Value) (op : String) (pattern : Value) : Scope :=
  s.condition conj column op (fun b => b.addTerm pattern)

/-- Binds each value, giving the markers. -/
def addAll (b : Bindings) : List Value → List String × Bindings
  | [] => ([], b)
  | v :: rest =>
    let (m, b) := b.add v
    let (ms, b) := addAll b rest
    (m :: ms, b)

/-- **`column IN (…)`** (or `NOT IN`) over the list view of the values. -/
def isIn (s : Scope) (conj : Conjunction) (column : Value) (op : String) (values : Value) : Scope :=
  let items := values.elements
  if items.isEmpty then
    if op == "IN" then { s with clause := s.clause.addCondition (Term.sql "1") "=" (Term.sql "0") conj }
    else s
  else
    s.condition conj column op (fun b =>
      let (markers, b) := addAll b items
      (Term.sql ("(" ++ ", ".intercalate markers ++ ")"), b))

/-- **`column IS NULL`** or `IS NOT NULL`. -/
def isNull (s : Scope) (conj : Conjunction) (column : Value) (negated : Bool) : Scope :=
  s.condition conj column "IS" (fun b => (Term.sql (if negated then "NOT NULL" else "NULL"), b))

/-- **`column BETWEEN low AND high`** (or `NOT BETWEEN`), both bounds bound. -/
def between (s : Scope) (conj : Conjunction) (column : Value) (op : String) (low high : Value) :
    Scope :=
  s.condition conj column op (fun b =>
    let (l, b) := b.add low
    let (h, b) := b.add high
    (Term.sql (l ++ " AND " ++ h), b))

/-- **Groups.** `op` names the caller in the fault for a missing group. -/
def group (s : Scope) (op : String) (conj : Conjunction) (build : Option (Scope → Scope)) : Scope :=
  match build with
  | none => s.fail (Fault.invalid op "nil group function")
  | some f =>
    let sub := f { bindings := s.bindings }
    let s := { s with bindings := sub.bindings }
    let s := match sub.fault with
      | some e => s.fail e
      | none => s
    { s with clause := s.clause.addGroup sub.clause.entries conj }

end Scope
end QueryKit.Query
