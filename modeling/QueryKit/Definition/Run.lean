import QueryKit.Definition.Basic
import QueryKit.Query.Call
import QueryKit.Text.Blank
import QueryKit.Text.Case

/-!
# Running query definitions

A definition becomes a chain of builder calls, then one terminal call: an insert (with returning
columns, if any are given), an upsert, an update or a delete when one is given, else a count, a
first row, a page or all rows, in that order of preference.

* a condition's operator is read with its blanks normalized and in lower case: `like`,
  `not like`, `in`, `not in`, `null`, `not null`, `between` and `not between` choose their
  conditions, any other operator compares; a condition with another column compares the two
  columns with the operator as given;
* `in` and `between` take a list as it is, a single value as a list of one, and null as no
  values;
* in a join, a condition with a value compares the column with it; one without compares two
  columns;
* `Definition.render` runs a definition for named dialects on builders without a connection and
  gives each statement with its bindings.
-/

namespace QueryKit

open Query Sql

namespace Predicate

/-- The values a condition's value stands for in `IN` and `BETWEEN`. -/
def listOf : Value → List Value
  | .null => []
  | .list items => items
  | v => [v]

/-- An operator with its blanks normalized, in lower case. -/
def normalOp (op : String) : String := Text.lower (" ".intercalate (Text.words op))

/-- **A condition call** for a condition without a group. -/
def leaf (conj : Conjunction) (column op : String) (value : Value) (other : String) : Cond :=
  let col := Value.text column
  let norm := normalOp op
  if !other.isEmpty then .columns conj col op (.text other)
  else if norm == "like" then .like conj col false value
  else if norm == "not like" then .like conj col true value
  else if norm == "in" then .isIn conj col false (.list (listOf value))
  else if norm == "not in" then .isIn conj col true (.list (listOf value))
  else if norm == "null" then .isNull conj col false
  else if norm == "not null" then .isNull conj col true
  else if norm == "between" || norm == "not between" then
    let bounds := listOf value
    .between conj col (norm == "not between") (bounds.getD 0 .null) (bounds.getD 1 .null)
  else .compare conj col op value

mutual

/-- **The condition call of a condition**; a group becomes a group of its conditions' calls. -/
def cond : Predicate → Cond
  | ⟨disjunct, column, op, value, other, group⟩ =>
    let conj := if disjunct then Conjunction.or else .and
    match group with
    | [] => leaf conj column op value other
    | g :: gs => .group conj (some (conds (g :: gs)))

/-- The condition calls of conditions. -/
def conds : List Predicate → List Cond
  | [] => []
  | p :: rest => cond p :: conds rest

end

/-- **The condition call of a join condition**: a comparison with the value if there is one,
else of two columns. -/
def joinCond (p : Predicate) : Cond :=
  let conj := if p.disjunct then Conjunction.or else .and
  match p.value with
  | .null => .columns conj (.text p.column) p.op (.text p.other)
  | v => .compare conj (.text p.column) p.op v

end Predicate

/-- **What running a definition gives.** -/
inductive Result where
  | rows (rows : List Row)
  | row (row : Option Row)
  | count (n : Int)
  | counted (page : Option (Paging.Counted Row))
  | sampled (page : Option (Paging.Sampled Row))

/-- **A statement compiled for a dialect**, with its bindings. -/
structure Rendering where
  dialect : String
  sql : String
  bindings : List Binding

/-- The bindings as `name=value` in source spelling, separated by commas. -/
def Rendering.bindingText (r : Rendering) : String :=
  ", ".intercalate (r.bindings.map fun b => b.name ++ "=" ++ b.value.source)

/-- Gives an outcome the result it stands for. -/
def Query.Outcome.as {α : Type} (o : Outcome α) (f : α → Result) : Outcome Result := ⟨f o.result, o.fault⟩

namespace Definition

/-- **The builder calls of a definition**, before its terminal call. -/
def calls (d : Definition) : List Call :=
  [.table (.text d.table)] ++
  (if d.select.isEmpty then [] else [.select (d.select.map .text)]) ++
  (if d.distinct then [.distinct] else []) ++
  d.joins.map (fun j =>
    .joinOfType (if j.kind.isEmpty then "inner" else j.kind) (.text j.table) (some (j.on.map Predicate.joinCond))) ++
  (Predicate.conds d.conditions).map .cond ++
  d.order.map (fun o => .orderBy (.text o.column) (if o.direction.isEmpty then "asc" else o.direction)) ++
  (match d.limit with | some n => [.limit n] | none => []) ++
  (match d.offset with | some n => [.offset n] | none => []) ++
  (if d.force then [.force] else [])

/-- **Running a definition** on the run's builder. -/
def run {σ : Type} (d : Definition) (ex : Option (Executor σ)) : RunM σ (Outcome Result) := do
  Run.change (fun b => Call.applyAll b d.calls)
  if !d.insert.isEmpty && !d.returning.isEmpty then
    return (← Run.insertReturning ex d.insert d.returning).as .rows
  if !d.insert.isEmpty then return (← Run.insert ex d.insert).as .count
  match d.upsert with
  | some u => return (← Run.upsert ex u.rows u.uniqueBy (u.update.map (·, .inferred))).as .count
  | none =>
    if !d.update.isEmpty then return (← Run.update ex d.update).as .count
    if d.delete then return (← Run.delete ex).as .count
    if d.count then return (← Run.count ex).as .count
    if d.first then return (← Run.first ex []).as .row
    match d.paginate with
    | some p =>
      if p.simple then return (← Run.simplePaginate ex p.page p.perPage).as .sampled
      else return (← Run.paginate ex p.page p.perPage).as .counted
    | none => return (← Run.get ex).as .rows

/-- **Compiling a definition for one dialect**: the statement its run records, with the bindings. -/
def renderFor (d : Definition) (dialect : Dialect) : Except Fault Rendering :=
  let (o, r) := (d.run none : RunM Unit (Outcome Result)).run { builder := Builder.new dialect, conn := () }
  match o.fault with
  | some f => .error f
  | none => .ok ⟨dialect.name, r.builder.lastSql, r.builder.lastBindings⟩

end Definition

/-- **The dialects a name stands for**: all of them for `all` in any case, else the one named. -/
def Dialect.named (name : String) : Except Fault (List Dialect) :=
  if Text.lower name == "all" then Dialect.names.mapM Dialect.byName
  else do return [← Dialect.byName name]

/-- **Compiling a definition for the named dialects.** -/
def Definition.render (d : Definition) (name : String) : Except Fault (List Rendering) := do
  let dialects ← Dialect.named name
  dialects.mapM d.renderFor

end QueryKit
