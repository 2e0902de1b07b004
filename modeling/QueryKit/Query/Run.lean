import QueryKit.Query.Builder
import QueryKit.Sql.Placeholder
import QueryKit.Journal.Level
import QueryKit.Paging.Window
import QueryKit.Scan.Convert

/-!
# Running statements

The terminal calls of a builder. Each writes its statement, records it as the builder's last
statement with the bindings it used, hands it to the connection, and clears the builder. A
builder without a connection only *pretends*: it logs the statement it would run and gives an
empty result.

* `Executor` is what a connection does with a statement, with a state of its own;
* `runQuery` and `runExec` bind the markers for the dialect, run the statement and log how it
  went; a refusal of the connection becomes a statement fault carrying the engine's code;
* a call that fails before its statement is written records an empty statement;
* `get`, `first`, `pluck`, `count`, `insert`, `upsert`, `insertReturning`, `update`, `delete`,
  `paginate`, `simplePaginate`, `rawSelect` and `rawExec` are the terminal calls; `toSql` only
  writes the select and neither records nor clears.
-/

namespace QueryKit.Query

open Sql Journal

/-- **Rows**: columns with their values. -/
abbrev Row := List (String × Value)

/-- **Result sets** as a connection returns them. -/
structure RowSet where
  columns : List String := []
  rows : List (List Value) := []
  /-- The fault that ends the rows instead of their end, if any. -/
  trailing : Option Fault := none
  deriving Inhabited

/-- **Connections**: what running a statement with its arguments gives, and the state after. -/
structure Executor (σ : Type) where
  /-- Runs a statement that returns rows. -/
  query : String → List Argument → σ → Except Fault RowSet × σ
  /-- Runs a statement that returns none, giving the number of rows it touched, or the fault of
  asking for that number. -/
  exec : String → List Argument → σ → Except Fault (Except Fault Int) × σ

/-- **Runs**: a builder, its connection's state, and what was logged. -/
structure Run (σ : Type) where
  builder : Builder
  conn : σ
  logs : List Journal.Entry := []

/-- Computations over a run. -/
abbrev RunM (σ : Type) := StateM (Run σ)

/-- **What a terminal call gives**: a result, and the fault that stopped it. Some calls keep the
part of the result they had when they failed. -/
structure Outcome (α : Type) where
  result : α
  fault : Option Fault := none

/-- **Reading a result set**: the value made of the rows, the fault met, and whether the rows
were read to their end (only then does a fault that ends the rows concern the reader). -/
structure Reading (α : Type) where
  value : α
  fault : Option Fault := none
  atEnd : Bool := true

namespace Run

variable {σ : Type}

/-- The builder of the run. -/
def builder? : RunM σ Builder := return (← get).builder

/-- Changes the builder. -/
def change (f : Builder → Builder) : RunM σ Unit := modify fun r => { r with builder := f r.builder }

/-- Logs an entry, unless the builder does not log. -/
def log (e : Journal.Entry) : RunM σ Unit :=
  modify fun r => if r.builder.logging then { r with logs := r.logs ++ [e] } else r

/-- Records a statement and the bindings it uses. -/
def record (query : String) : RunM σ Unit :=
  change fun b => { b with lastSql := query, lastBindings := b.bindings.entries }

/-- Records that a call failed before its statement was written. -/
def abort (f : Fault) : RunM σ Fault := do
  change fun b => { b with lastSql := "", lastBindings := b.bindings.entries }
  return f

/-- The measured time of a statement; runs are timed as taking none. -/
def elapsed : Value := .duration ⟨0⟩

/-- Logs a statement that was written but not run. -/
def pretended (query : String) : RunM σ Unit := do
  let b ← builder?
  log ⟨Level.debug, "query compiled",
    [("sql", .text query), ("bindings", .list b.bindings.values), ("dialect", .text b.dialect.name)]⟩

/-- Logs a statement that ran. -/
def executed (query : String) : RunM σ Unit := do
  let b ← builder?
  log ⟨Level.debug, "query executed",
    [("sql", .text query), ("bindings", .list b.bindings.values), ("dialect", .text b.dialect.name),
      ("elapsed", elapsed)]⟩

/-- Logs a statement the connection refused, giving the statement fault. -/
def failed (query : String) (err : Fault) : RunM σ Fault := do
  let b ← builder?
  log ⟨Level.error, "query failed",
    [("sql", .text query), ("dialect", .text b.dialect.name), ("elapsed", elapsed),
      ("error", .failure err.message)]⟩
  return .query query "execution failed" err.engineCode b.bindings.size (some err)

/-- Hands a statement to the connection state. -/
def onConn {α : Type} (f : σ → α × σ) : RunM σ α := do
  let r ← get
  let (a, conn) := f r.conn
  set { r with conn }
  return a

/-- **Running a statement that returns rows**, read by `read`; `empty` is the result of a
pretended run or of a refused one. -/
def runQuery {α : Type} (ex : Option (Executor σ)) (query : String)
    (read : List String → List (List Value) → Reading α) (empty : α) : RunM σ (Outcome α) := do
  match ex with
  | none =>
    pretended query
    return ⟨empty, none⟩
  | some ex =>
    let b ← builder?
    match bindFor b.dialect query b.bindings.lookup with
    | .error f => return ⟨empty, some f⟩
    | .ok (text, args) =>
      match ← onConn (ex.query text args) with
      | .error e => return ⟨empty, some (← failed query e)⟩
      | .ok rs =>
        let rd := read rs.columns rs.rows
        match rd.fault with
        | some e =>
          if e.kind != .unknown then return ⟨rd.value, some e⟩
          else return ⟨rd.value, some (← failed query e)⟩
        | none =>
          match rs.trailing, rd.atEnd with
          | some e, true => return ⟨rd.value, some (← failed query e)⟩
          | _, _ =>
            executed query
            return ⟨rd.value, none⟩

/-- **Running a statement that returns no rows**: the number of rows touched, zero when
pretended. -/
def runExec (ex : Option (Executor σ)) (query : String) : RunM σ (Outcome Int) := do
  match ex with
  | none =>
    pretended query
    return ⟨0, none⟩
  | some ex =>
    let b ← builder?
    match bindFor b.dialect query b.bindings.lookup with
    | .error f => return ⟨0, some f⟩
    | .ok (text, args) =>
      match ← onConn (ex.exec text args) with
      | .error e => return ⟨0, some (← failed query e)⟩
      | .ok affected =>
        executed query
        match affected with
        | .ok n => return ⟨n, none⟩
        | .error e => return ⟨0, some (← failed query e)⟩

end Run

/-! ## Reading rows -/

/-- A row of cells under the columns, a missing cell read as no value. -/
def rowOf (columns : List String) (cells : List Value) : Row :=
  (columns.zip (cells ++ List.replicate (columns.length - cells.length) .null)).map
    (fun (c, v) => (c, Scan.normalize v))

/-- Reads every row. -/
def readRows (columns : List String) (rows : List (List Value)) : Reading (List Row) :=
  ⟨rows.map (rowOf columns), none, true⟩

/-- The fault of reading a row into a number of places other than its width. -/
def widthFault (width places : Nat) : Fault :=
  .plain ("sql: expected " ++ toString width ++ " destination arguments in Scan, not " ++ toString places)

/-- Reads the one column of every row. -/
def readColumn (columns : List String) (rows : List (List Value)) : Reading (List Value) :=
  match rows with
  | [] => ⟨[], none, true⟩
  | _ =>
    if columns.length != 1 then ⟨[], some (widthFault columns.length 1), true⟩
    else ⟨rows.map (fun cells => Scan.normalize (cells.headD .null)), none, true⟩

/-- Reads a count from the first row, if there is one. -/
def readCount (columns : List String) (rows : List (List Value)) : Reading Int :=
  match rows with
  | [] => ⟨0, none, true⟩
  | cells :: _ =>
    if columns.length != 1 then ⟨0, some (widthFault columns.length 1), false⟩
    else
      match Scan.toInt64 (cells.headD .null) with
      | .ok n => ⟨n, none, false⟩
      | .error e => ⟨0, some (.plain ("sql: Scan error on column index 0, name " ++
          Text.quote (columns.headD "") ++ ": " ++ e)), false⟩

/-! ## Writing statements -/

/-- Sorts texts. -/
def sortTexts (xs : List String) : List String := (sortByKey (xs.map (fun x => (x, ())))).map (·.1)

/-- The value of a column in a row; no value when it is missing. -/
def Row.get (r : Row) (col : String) : Value := ((mapMembers r).lookup col).getD .null

/-- The columns of a row, sorted. -/
def Row.columns (r : Row) : List String := (mapMembers r).map (·.1)

/-- The fault of a statement written without a table. -/
def noTable (op : String) : Fault := .build .missingTable op "no table specified, call Table first" "" none

/-- `;` after a statement. -/
def terminate (query : String) : String := query ++ ";"

namespace Builder

/-- **The select** the builder collected, or its first fault, or the fault of a missing table. -/
def selectStatement (b : Builder) (op : String) : Except Fault Select :=
  match b.fault? with
  | some f => .error f
  | none =>
    if b.table.isEmpty then .error (noTable op)
    else .ok {
      distinct := b.distinct, columns := b.columns, table := some b.table, joins := b.joins,
      conditions := b.scope.clause, orderBy := b.orderBy, limit := b.limit, offset := b.offset }

/-- **Writing the select.** With `count`, the selection becomes `COUNT(*)`, without ordering or
paging. -/
def compileSelect (b : Builder) (op : String) (count : Bool := false) : Except Fault String := do
  let s ← b.selectStatement op
  let counted : Select := {
    columns := [Term.sql "COUNT(*)"], table := s.table, joins := s.joins, conditions := s.conditions }
  let s := if count then counted else s
  let q ← b.dialect.select s
  return terminate q

/-- **The statement without running it.** -/
def toSql (b : Builder) : Except Fault String := b.compileSelect "select"

/-- The columns of the first row, sorted, once every row has exactly those columns. -/
def rowColumns (op : String) (rows : List Row) : Except Fault (List String) :=
  match rows with
  | [] => .error (Fault.invalid op "at least one row is required")
  | first :: rest =>
    let columns := first.columns
    if columns.isEmpty then .error (Fault.invalid op "row 0 has no columns")
    else
      let rec check (i : Nat) : List Row → Except Fault Unit
        | [] => .ok ()
        | r :: more =>
          let present := r.columns
          if present.length != columns.length then
            .error (Fault.invalid op ("row " ++ toString i ++ " has " ++ toString present.length ++
              " columns, the first row has " ++ toString columns.length))
          else match columns.find? (fun c => !present.contains c) with
            | some c => .error (Fault.invalid op ("row " ++ toString i ++ " is missing column " ++
                Text.quote c))
            | none => check (i + 1) more
      (check 1 rest).map (fun _ => columns)

/-- Binds the values of each row in column order. -/
def bindRows (columns : List String) (bs : Bindings) : List Row → List (List Term) × Bindings
  | [] => ([], bs)
  | r :: rest =>
    let (terms, bs) := columns.foldl (fun (acc, bs) c =>
      let (t, bs) := bs.addTerm (r.get c)
      (acc ++ [t], bs)) ([], bs)
    let (more, bs) := bindRows columns bs rest
    (terms :: more, bs)

/-- Writes the assignments of a conflict clause, binding their values. An assignment without a
column is refused; the values bound before it stay bound. -/
def conflictSets (d : Dialect) (bs : Bindings) :
    List (String × ConflictValue) → Except Fault (List Assignment) × Bindings
  | [] => (.ok [], bs)
  | (col, v) :: rest =>
    if col.isEmpty then (.error (Fault.invalid "onConflict" "assignment without a column"), bs)
    else
      let (t, bs) := d.conflictValue col v bs
      let (more, bs) := conflictSets d bs rest
      (more.map fun more => ⟨Term.name col, t⟩ :: more, bs)

/-- **The conflict clause** for an insert of the columns. Without assignments, every column that
is not a target takes the inserted value; with none left the conflict is skipped. Values are
bound after the rows'. -/
def onConflict (b : Builder) (plan : ConflictPlan) (columns : List String) :
    Except Fault OnConflict × Builder :=
  let oc : OnConflict := { targets := plan.targets.map Term.name, action := plan.action }
  match plan.action with
  | .doNothing => (.ok oc, b)
  | .doUpdate =>
    let assignments := if plan.assignments.isEmpty then
        (columns.filter (fun c => !plan.targets.contains c)).map (fun c => (c, ConflictValue.inferred))
      else plan.assignments
    if assignments.isEmpty then (.ok { oc with action := .doNothing }, b)
    else
      let (sets, bs) := conflictSets b.dialect b.bindings assignments
      (sets.map fun sets => { oc with sets }, { b with scope := { b.scope with bindings := bs } })

/-- **Writing an insert** of rows, with the bindings after it. -/
def compileInsert (b : Builder) (op : String) (rows : List Row) (returning : List Term) :
    Except Fault String × Builder :=
  match b.fault? with
  | some f => (.error f, b)
  | none =>
    if b.table.isEmpty then (.error (noTable op), b)
    else match rowColumns op rows with
      | .error e => (.error e, b)
      | .ok columns =>
        let (values, bs) := bindRows columns b.bindings rows
        let b := { b with scope := { b.scope with bindings := bs } }
        let stmt : Insert := { table := b.table, columns := columns.map Term.name, rows := values, returning }
        let (withConflict, b) : Except Fault Insert × Builder := match b.conflict with
          | none => (.ok stmt, b)
          | some plan =>
            let (oc, b) := b.onConflict plan columns
            (oc.map fun oc => { stmt with conflict := some oc }, b)
        match withConflict with
        | .error e => (.error e, b)
        | .ok stmt => ((b.dialect.insert stmt).map terminate, b)

/-- Binds the values of the sets in column order. -/
def bindSets (bs : Bindings) : List (String × Value) → List Assignment × Bindings
  | [] => ([], bs)
  | (c, v) :: rest =>
    let (t, bs) := bs.addTerm v
    let (more, bs) := bindSets bs rest
    (⟨Term.name c, t⟩ :: more, bs)

/-- **Writing an update** setting columns to values, bound after the conditions' values. -/
def compileUpdate (b : Builder) (values : Row) : Except Fault String × Builder :=
  match b.fault? with
  | some f => (.error f, b)
  | none =>
    if b.table.isEmpty then (.error (noTable "update"), b)
    else
      let sets := mapMembers values
      match sets.find? (fun (_, v) => v.isList) with
      | some (c, _) => (.error (Fault.invalid "update" ("value for " ++ Text.quote c ++
          " cannot be a list")), b)
      | none =>
        let (assignments, bs) := bindSets b.bindings sets
        let b := { b with scope := { b.scope with bindings := bs } }
        let stmt : Update := {
          table := b.table, sets := assignments, joins := b.joins, conditions := b.scope.clause,
          force := b.force }
        ((b.dialect.update stmt).map terminate, b)

/-- **Writing a delete.** -/
def compileDelete (b : Builder) : Except Fault String :=
  match b.fault? with
  | some f => .error f
  | none =>
    if b.table.isEmpty then .error (noTable "delete")
    else
      let stmt : Delete := {
        table := b.table, joins := b.joins, conditions := b.scope.clause, force := b.force }
      (b.dialect.delete stmt).map terminate

/-- Sets the page's offset, and its size as the limit unless a limit is set, then writes the
select. -/
def pageQuery (b : Builder) (op : String) (page perPage : Int) : Except Fault String × Builder :=
  match Paging.offsetOf page perPage with
  | .error e => (.error e, b)
  | .ok offset =>
    let b := { b with offset := some offset, limit := b.limit.or (some perPage) }
    (b.compileSelect op, b)

/-- **A hand-written statement**: trimmed, refused when empty, its parameters bound under their
names (sorted, a leading colon dropped) in place of every binding, and ended with `;`. -/
def prepareRaw (b : Builder) (op query : String) (params : List (String × Value)) :
    Except Fault String × Builder :=
  let q := Text.trim query
  if q.isEmpty then (.error (Fault.invalid op "statement is empty"), b)
  else
    let bs := (mapMembers params).foldl (fun bs (n, v) =>
      (bs.bind (if n.startsWith ":" then (n.drop 1).toString else n) v).2) ({} : Bindings)
    let b := { b with scope := { b.scope with bindings := bs } }
    let q := if q.endsWith ";" then q else terminate q
    (.ok q, { b with lastSql := q, lastBindings := bs.entries })

end Builder

namespace Run

variable {σ : Type}

/-- Clears the builder after a terminal call. -/
def finish {α : Type} (o : Outcome α) : RunM σ (Outcome α) := do
  change Builder.reset
  return o

/-- A terminal call that failed before its statement was written. -/
def refuse {α : Type} (empty : α) (f : Fault) : RunM σ (Outcome α) := do
  let f ← abort f
  finish ⟨empty, some f⟩

/-- **All rows** of the select; `op` names the call in faults. -/
def get (ex : Option (Executor σ)) (op : String := "get") : RunM σ (Outcome (List Row)) := do
  match (← builder?).compileSelect op with
  | .error e => refuse [] e
  | .ok q =>
    record q
    finish (← runQuery ex q readRows [])

/-- **The first row** of the select, selecting `columns` when nothing is selected yet. Missing
rows are a not-found fault, except in a pretended run. -/
def first (ex : Option (Executor σ)) (columns : List Value) : RunM σ (Outcome (Option Row)) := do
  let b ← builder?
  if b.columns.isEmpty && !columns.isEmpty then change (·.select columns)
  change (·.setLimit 1)
  let o ← get ex
  match o.fault with
  | some f => return ⟨none, some f⟩
  | none =>
    match o.result with
    | r :: _ => return ⟨some r, none⟩
    | [] =>
      if ex.isNone then return ⟨none, none⟩
      else return ⟨none, some (.wrap "first" (.sentinel .notFound))⟩

/-- **One column** of every row. -/
def pluck (ex : Option (Executor σ)) (column : Value) : RunM σ (Outcome (List Value)) := do
  change (·.select [column])
  match (← builder?).compileSelect "pluck" with
  | .error e => refuse [] e
  | .ok q =>
    record q
    finish (← runQuery ex q readColumn [])

/-- **The number of rows** of the select. -/
def count (ex : Option (Executor σ)) : RunM σ (Outcome Int) := do
  match (← builder?).compileSelect "count" true with
  | .error e => refuse 0 e
  | .ok q =>
    record q
    finish (← runQuery ex q readCount 0)

/-- Writes an insert with the builder, keeping its bindings. -/
def compileInsert (op : String) (rows : List Row) (returning : List Term) :
    RunM σ (Except Fault String) := do
  let (r, b) := (← builder?).compileInsert op rows returning
  change (fun _ => b)
  return r

/-- **Inserting rows**: the number of rows inserted. -/
def insert (ex : Option (Executor σ)) (rows : List Row) : RunM σ (Outcome Int) := do
  match ← compileInsert "insert" rows [] with
  | .error e => refuse 0 e
  | .ok q =>
    record q
    finish (← runExec ex q)

/-- **Inserting converted records**: the first record that cannot be converted fails the call. -/
def insertConverted (ex : Option (Executor σ)) (records : List (Except Fault Row)) :
    RunM σ (Outcome Int) := do
  let rec take : List (Except Fault Row) → List Row × Option Fault
    | [] => ([], none)
    | .error e :: _ => ([], some e)
    | .ok r :: rest => let (rs, f) := take rest; (r :: rs, f)
  let (rows, f) := take records
  match f with
  | some e => change (·.fail e)
  | none => pure ()
  insert ex rows

/-- **Upserting rows** on the unique columns; a conflict handling set earlier wins. -/
def upsert (ex : Option (Executor σ)) (rows : List Row) (unique : List String)
    (assignments : List (String × ConflictValue)) : RunM σ (Outcome Int) := do
  if unique.isEmpty then
    change (·.fail (Fault.invalid "upsert" "upsert requires at least one unique column"))
  else if (← builder?).conflict.isNone then
    change (·.onConflictDoUpdate unique assignments)
  insert ex rows

/-- **Inserting rows and reading columns of them back.** -/
def insertReturning (ex : Option (Executor σ)) (rows : List Row) (returning : List String) :
    RunM σ (Outcome (List Row)) := do
  let b ← builder?
  if !b.dialect.returning then
    change (·.fail (Fault.unsupported "insertReturning" (b.dialect.name ++ " does not support RETURNING")))
  let returning := if returning.isEmpty then ["*"] else returning
  match ← compileInsert "insertReturning" rows (returning.map Term.name) with
  | .error e => refuse [] e
  | .ok q =>
    record q
    finish (← runQuery ex q readRows [])

/-- **Updating rows**: the number of rows updated. -/
def update (ex : Option (Executor σ)) (values : Row) : RunM σ (Outcome Int) := do
  let (r, b) := (← builder?).compileUpdate values
  change (fun _ => b)
  match r with
  | .error e => refuse 0 e
  | .ok q =>
    record q
    finish (← runExec ex q)

/-- **Deleting rows**: the number of rows deleted. -/
def delete (ex : Option (Executor σ)) : RunM σ (Outcome Int) := do
  match (← builder?).compileDelete with
  | .error e => refuse 0 e
  | .ok q =>
    record q
    finish (← runExec ex q)

/-- **A page of rows with the total.** -/
def paginate (ex : Option (Executor σ)) (page perPage : Int) :
    RunM σ (Outcome (Option (Paging.Counted Row))) := do
  let (r, b) := (← builder?).pageQuery "paginate" page perPage
  change (fun _ => b)
  match r with
  | .error e => refuse none e
  | .ok pageSql =>
    match b.compileSelect "paginate" true with
    | .error e => refuse none e
    | .ok countSql =>
      record pageSql
      let items ← runQuery ex pageSql readRows []
      match items.fault with
      | some f => finish ⟨none, some f⟩
      | none =>
        let total ← runQuery ex countSql readCount 0
        match total.fault with
        | some f => finish ⟨none, some f⟩
        | none =>
          match Paging.Counted.make items.result (Paging.wrap total.result) perPage page with
          | .ok p => finish ⟨some p, none⟩
          | .error f => finish ⟨none, some f⟩

/-- **A page of rows without the total.** -/
def simplePaginate (ex : Option (Executor σ)) (page perPage : Int) :
    RunM σ (Outcome (Option (Paging.Sampled Row))) := do
  let (r, b) := (← builder?).pageQuery "simplePaginate" page perPage
  change (fun _ => b)
  match r with
  | .error e => refuse none e
  | .ok pageSql =>
    record pageSql
    let items ← runQuery ex pageSql readRows []
    match items.fault with
    | some f => finish ⟨none, some f⟩
    | none =>
      match Paging.Sampled.make items.result perPage page with
      | .ok p => finish ⟨some p, none⟩
      | .error f => finish ⟨none, some f⟩

/-- Readies a hand-written statement with the builder. -/
def prepareRaw (op query : String) (params : List (String × Value)) :
    RunM σ (Except Fault String) := do
  let (r, b) := (← builder?).prepareRaw op query params
  change (fun _ => b)
  return r

/-- **A hand-written select**; the collected clauses are ignored and cleared. -/
def rawSelect (ex : Option (Executor σ)) (query : String) (params : List (String × Value)) :
    RunM σ (Outcome (List Row)) := do
  match ← prepareRaw "select" query params with
  | .error e => refuse [] e
  | .ok q => finish (← runQuery ex q readRows [])

/-- **A hand-written statement without rows.** -/
def rawExec (ex : Option (Executor σ)) (query : String) (params : List (String × Value)) :
    RunM σ (Outcome Int) := do
  match ← prepareRaw "exec" query params with
  | .error e => refuse 0 e
  | .ok q => finish (← runExec ex q)

end Run
end QueryKit.Query
