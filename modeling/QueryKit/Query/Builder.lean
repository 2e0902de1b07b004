import QueryKit.Query.Scope
import QueryKit.Sql.Dialect

/-!
# Query builders

A builder collects the parts of one statement — table, selection, joins, conditions, ordering,
paging, conflict handling — one call at a time, and a terminal call (in `Query.Run`) writes and
runs the statement and starts over. A refused call records a fault and leaves the builder as it
was; the first fault is kept, and the terminal call reports it.

* `table`, `select`, `distinct`, `orderBy`, `limit`, `offset`, `force` set parts;
* `joinWith` runs a join scope on the statement's bindings and adds the join when it has
  conditions; `joinOn` is the one-comparison join;
* `onConflictDoNothing` and `onConflictDoUpdate` set the conflict handling of the next insert;
* `onWhere` applies a condition call to the top-level `WHERE`;
* `fault?` is the builder's first fault, or else its `WHERE` scope's.
-/

namespace QueryKit.Query

open Sql

/-- **Requested conflict handling**: targets, action and the assignments, each with its column
and either a value or `inferred`. -/
structure ConflictPlan where
  targets : List String
  action : ConflictAction
  assignments : List (String × ConflictValue) := []
  deriving Inhabited

/-- **Query builders.** -/
structure Builder where
  /-- The dialect statements are written in. -/
  dialect : Dialect
  /-- The top-level `WHERE` scope, holding the statement's bindings. -/
  scope : Scope := {}
  table : Term := Term.name ""
  columns : List Term := []
  distinct : Bool := false
  joins : List Join := []
  orderBy : List Order := []
  limit : Option Int := none
  offset : Option Int := none
  conflict : Option ConflictPlan := none
  force : Bool := false
  /-- The first fault of a refused call. -/
  fault : Option Fault := none
  /-- The statement of the last terminal call, empty when it failed before writing one. -/
  lastSql : String := ""
  /-- The bindings of the last terminal call. -/
  lastBindings : List Binding := []
  /-- Whether compiled and executed statements are logged. -/
  logging : Bool := true
  deriving Inhabited

namespace Builder

/-- A fresh builder for a dialect. -/
def new (d : Dialect) (logging : Bool := true) : Builder := { dialect := d, logging }

/-- The statement's bindings. -/
def bindings (b : Builder) : Bindings := b.scope.bindings

/-- The builder after a terminal call: every part cleared, the last statement kept. -/
def reset (b : Builder) : Builder :=
  { dialect := b.dialect, lastSql := b.lastSql, lastBindings := b.lastBindings, logging := b.logging }

/-- Keeps the first fault. -/
def fail (b : Builder) (f : Fault) : Builder :=
  if b.fault.isSome then b else { b with fault := some f }

/-- **The first fault**, the builder's own before its `WHERE` scope's. -/
def fault? (b : Builder) : Option Fault := b.fault.or b.scope.fault

/-- The table. -/
def setTable (b : Builder) (t : Value) : Builder :=
  match Term.ofValue t with
  | .ok t => { b with table := t }
  | .error f => b.fail f

/-- The selected terms. -/
def select (b : Builder) (cols : List Value) : Builder :=
  match Term.allOfValues cols with
  | .ok ts => { b with columns := ts }
  | .error f => b.fail f

/-- Distinct rows only. -/
def setDistinct (b : Builder) : Builder := { b with distinct := true }

/-- Ordering by a term; the direction is checked first. -/
def order (b : Builder) (column : Value) (direction : String) : Builder :=
  match parseDirection direction with
  | .error f => b.fail f
  | .ok dir =>
    match Term.ofValue column with
    | .error f => b.fail f
    | .ok t => { b with orderBy := b.orderBy ++ [⟨t, dir⟩] }

/-- A limit; negative limits are refused. -/
def setLimit (b : Builder) (n : Int) : Builder :=
  if n < 0 then b.fail (Fault.invalid "limit" ("limit cannot be negative, got " ++ toString n))
  else { b with limit := some n }

/-- An offset; negative offsets are refused. -/
def setOffset (b : Builder) (n : Int) : Builder :=
  if n < 0 then b.fail (Fault.invalid "offset" ("offset cannot be negative, got " ++ toString n))
  else { b with offset := some n }

/-- Allows the next update or delete without conditions. -/
def setForce (b : Builder) : Builder := { b with force := true }

/-- **Joins** whose `ON` list a join scope builds. -/
def joinWith (b : Builder) (kind : String) (table : Value) (build : Option (Scope → Scope)) : Builder :=
  match build with
  | none => b.fail (Fault.invalid "join" "nil join function")
  | some f =>
    let sub := f { bindings := b.bindings }
    let b := { b with scope := { b.scope with bindings := sub.bindings } }
    match sub.fault with
    | some e => b.fail e
    | none =>
      match Term.ofValue table with
      | .error e => b.fail e
      | .ok t =>
        if sub.clause.isEmpty then
          b.fail (Fault.invalid "join" ("join on " ++ Text.quote t.text ++ " has no conditions"))
        else { b with joins := b.joins ++ [⟨kind, t, sub.clause⟩] }

/-- A join of a named type, the name checked first. -/
def joinOfType (b : Builder) (kind : String) (table : Value) (build : Option (Scope → Scope)) : Builder :=
  match parseJoinKind kind with
  | .error f => b.fail f
  | .ok k => b.joinWith k table build

/-- A join on one comparison of two terms. -/
def joinOn (b : Builder) (kind : String) (table first : Value) (op : String) (second : Value) : Builder :=
  b.joinWith kind table (some (fun s => s.columns .and first op second))

/-- Skip rows that conflict on the columns. -/
def onConflictDoNothing (b : Builder) (cols : List String) : Builder :=
  if cols.isEmpty then
    b.fail (Fault.invalid "onConflict" "on conflict requires at least one target column")
  else { b with conflict := some ⟨cols, .doNothing, []⟩ }

/-- Update rows that conflict on the columns. -/
def onConflictDoUpdate (b : Builder) (cols : List String) (assignments : List (String × ConflictValue)) :
    Builder :=
  if cols.isEmpty then
    b.fail (Fault.invalid "onConflict" "on conflict requires at least one target column")
  else { b with conflict := some ⟨cols, .doUpdate, assignments⟩ }

/-- Applies a condition call to the top-level `WHERE`. -/
def onWhere (b : Builder) (f : Scope → Scope) : Builder := { b with scope := f b.scope }

/-- The written `WHERE` clause so far. -/
def whereSql (b : Builder) : String := b.dialect.whereClause b.scope.clause

end Builder
end QueryKit.Query
