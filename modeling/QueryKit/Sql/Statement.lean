import QueryKit.Sql.Condition

/-!
# Statements

The four statements as data, before any dialect writes them.

* `Select`: distinct or not, the selected terms (all columns when none), an optional table,
  joins, conditions, ordering, and optional limit and offset;
* `Insert`: table, columns, rows of terms, optional conflict handling and returned columns;
* `Update` and `Delete`: table, joins, conditions, and whether to touch every row when there is no
  condition.

`Update.guard`, `Delete.guard` and `Insert.validate` are the checks that come before writing.
-/

namespace QueryKit.Sql

/-- **Joins.** The join type as written (`INNER` when empty), the table and the `ON` list. -/
structure Join where
  /-- `INNER`, `LEFT`, `RIGHT`, `FULL`, or empty for `INNER`. -/
  kind : String := ""
  /-- The joined table. -/
  table : Term
  /-- The `ON` conditions. -/
  on : Clause := {}
  deriving Repr, Inhabited

/-- **Ordering** by a term, `ASC` when the direction is empty. -/
structure Order where
  /-- The sorted term. -/
  column : Term
  /-- `ASC`, `DESC` or empty. -/
  direction : String := ""
  deriving Repr, Inhabited

/-- **Conflict handling** of an insert. -/
inductive ConflictAction where
  /-- Keep the existing row. -/
  | doNothing
  /-- Update the existing row. -/
  | doUpdate
  deriving Repr, BEq, DecidableEq, Inhabited

/-- **An assignment** `column = value` of an update or an upsert. -/
structure Assignment where
  /-- The assigned column. -/
  column : Term
  /-- The assigned value. -/
  value : Term
  deriving Repr, Inhabited

/-- **Conflict clauses.** -/
structure OnConflict where
  /-- The conflicting columns. -/
  targets : List Term := []
  /-- What to do. -/
  action : ConflictAction := .doNothing
  /-- The assignments of `doUpdate`. -/
  sets : List Assignment := []
  deriving Repr, Inhabited

/-- **Select statements.** -/
structure Select where
  distinct : Bool := false
  columns : List Term := []
  table : Option Term := none
  joins : List Join := []
  conditions : Clause := {}
  orderBy : List Order := []
  limit : Option Int := none
  offset : Option Int := none
  deriving Repr, Inhabited

/-- **Insert statements.** -/
structure Insert where
  table : Term
  columns : List Term := []
  rows : List (List Term) := []
  conflict : Option OnConflict := none
  returning : List Term := []
  deriving Repr, Inhabited

/-- **Update statements.** -/
structure Update where
  table : Term
  sets : List Assignment := []
  joins : List Join := []
  conditions : Clause := {}
  force : Bool := false
  deriving Repr, Inhabited

/-- **Delete statements.** -/
structure Delete where
  table : Term
  joins : List Join := []
  conditions : Clause := {}
  force : Bool := false
  deriving Repr, Inhabited

/-- An update without conditions needs `force`. -/
def Update.guard (u : Update) : Except Fault Unit :=
  if u.conditions.isEmpty && !u.force then
    .error (.build .unsafeMutation "update"
      "update statement requires a where clause, call Force to update every row" "" none)
  else .ok ()

/-- A delete without conditions needs `force`. -/
def Delete.guard (d : Delete) : Except Fault Unit :=
  if d.conditions.isEmpty && !d.force then
    .error (.build .unsafeMutation "delete"
      "delete statement requires a where clause, call Force to delete every row" "" none)
  else .ok ()

/-- The first row whose length differs from the number of columns. -/
def firstRaggedRow (width : Nat) : Nat → List (List Term) → Option (Nat × Nat)
  | _, [] => none
  | i, row :: rest => if row.length != width then some (i, row.length) else firstRaggedRow width (i + 1) rest

/-- An insert needs a table, columns, rows, and rows as wide as the columns. -/
def Insert.validate (i : Insert) : Except Fault Unit :=
  if i.table.isEmpty then .error (Fault.missingTable "insert" "no table specified")
  else if i.columns.isEmpty then .error (Fault.invalid "insert" "insert requires at least one column")
  else if i.rows.isEmpty then .error (Fault.invalid "insert" "insert requires at least one row")
  else match firstRaggedRow i.columns.length 0 i.rows with
    | some (n, len) => .error (Fault.invalid "insert"
        ("row " ++ toString n ++ " has " ++ toString len ++ " values, expected " ++
          toString i.columns.length))
    | none => .ok ()

end QueryKit.Sql
