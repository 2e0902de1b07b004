import QueryKit.Sql.Identifier
import QueryKit.Sql.Binding
import QueryKit.Sql.Statement
import QueryKit.Sql.Segment
import QueryKit.Text.Case

/-!
# Dialects

A dialect is a record of the decisions that differ between database families: the quote
character of names, how placeholders are written and passed, whether `RETURNING` exists, what
`LIMIT` stands in when only an offset is given, and how a conflict clause and its assignments are
written. Writing a statement is one function for all dialects, reading the record.

* `Dialect.mysql`, `Dialect.postgres`, `Dialect.sqlite` are the three families;
* `Dialect.select`, `insert`, `update`, `delete` write statements or refuse them;
* `Dialect.conditions` writes a condition list: entries joined by single spaces, every entry but
  the first after its joiner, groups in parentheses, and groups that write as nothing left out;
* `Dialect.forDriver` picks a family from a driver name (MySQL by default) and `Dialect.byName`
  from a dialect name (refusing unknown names).
-/

namespace QueryKit.Sql

/-- **How placeholders are passed** to the database. -/
inductive BindStyle where
  /-- `:name` stays, values passed by name. -/
  | named
  /-- `$1, $2, …`, one position per name. -/
  | numbered
  /-- `?` for every marker, in order. -/
  | positional
  deriving Repr, BEq, DecidableEq, Inhabited

/-- The number of a bind style. -/
def BindStyle.number : BindStyle → Nat
  | .named => 0
  | .numbered => 1
  | .positional => 2

/-- **How a conflict clause is written.** -/
inductive UpsertStyle where
  /-- `ON DUPLICATE KEY UPDATE …` -/
  | duplicateKey
  /-- `ON CONFLICT (…) DO NOTHING | DO UPDATE SET …` -/
  | onConflict
  deriving Repr, BEq, DecidableEq, Inhabited

/-- **Dialects.** -/
structure Dialect where
  /-- The family's name. -/
  name : String
  /-- The quote character of names. -/
  quote : Char
  /-- How placeholders are passed. -/
  bindStyle : BindStyle
  /-- Whether placeholders are numbered `$n` (else `?`). -/
  dollarMarkers : Bool
  /-- Whether `RETURNING` exists. -/
  returning : Bool
  /-- The `LIMIT` written when only an offset is set; empty for none. -/
  offsetLimit : String
  /-- How conflict clauses are written. -/
  upsert : UpsertStyle
  deriving Repr, Inhabited

/-- The inferred value of an upsert assignment: the value that the insert tried to write. -/
inductive ConflictValue where
  /-- The inserted value of the same column. -/
  | inferred
  /-- A given value. -/
  | given (v : Value)
  deriving Repr, Inhabited

namespace Dialect

/-- **MySQL.** Backtick names, `?` markers, no `RETURNING`, and the largest unsigned number as
the limit of an offset alone. -/
def mysql : Dialect :=
  ⟨"mysql", '\x60', .positional, false, false, "18446744073709551615", .duplicateKey⟩

/-- **PostgreSQL.** Double-quoted names, numbered `$n` markers, `RETURNING`, no limit needed. -/
def postgres : Dialect := ⟨"postgres", '"', .numbered, true, true, "", .onConflict⟩

/-- **SQLite.** Double-quoted names, named markers, `RETURNING`, and `-1` as the limit of an
offset alone. -/
def sqlite : Dialect := ⟨"sqlite", '"', .named, false, true, "-1", .onConflict⟩

/-- The dialect names in a stable order. -/
def names : List String := ["mysql", "postgres", "sqlite"]

/-- **Dialect of a driver name**: PostgreSQL for `pgsql`, `postgres`, `postgresql`, `pgx`; SQLite
for `sqlite`, `sqlite3`; MySQL for everything else. -/
def forDriver (driver : String) : Dialect :=
  match Text.lower (Text.trim driver) with
  | "pgsql" | "postgres" | "postgresql" | "pgx" => postgres
  | "sqlite" | "sqlite3" => sqlite
  | _ => mysql

/-- **Dialect of a name**, accepting the aliases of `forDriver` and `mariadb`. -/
def byName (name : String) : Except Fault Dialect :=
  match Text.lower (Text.trim name) with
  | "mysql" | "mariadb" => .ok mysql
  | "pgsql" | "postgres" | "postgresql" => .ok postgres
  | "sqlite" | "sqlite3" => .ok sqlite
  | _ => .error (Fault.invalid "dialect" ("unknown dialect " ++ Text.quote name))

/-- The placeholder of argument `pos` (from one). -/
def placeholder (d : Dialect) (pos : Int) : String :=
  if d.dollarMarkers then "$" ++ toString pos else "?"

/-- A name quoted for the dialect. -/
def quoteName (d : Dialect) (name : String) : String := Sql.quoteName d.quote name

/-- A term as written: raw SQL as it is, a name quoted. -/
def term (d : Dialect) (t : Term) : String := if t.raw then t.text else d.quoteName t.text

/-- Terms as written, separated by commas. -/
def terms (d : Dialect) (ts : List Term) : String := ", ".intercalate (ts.map d.term)

/-- Assignments `column = value`, separated by commas. -/
def assignments (d : Dialect) (sets : List Assignment) : String :=
  ", ".intercalate (sets.map (fun a => d.term a.column ++ " = " ++ d.term a.value))

mutual

/-- **Writing a condition list.** -/
def conditions (d : Dialect) (entries : List Entry) : String :=
  " ".intercalate (parts d true entries)

/-- The written entries; `first` marks that no entry has been written yet. -/
def parts (d : Dialect) (first : Bool) : List Entry → List String
  | [] => []
  | .compare l op r conj :: rest =>
    let s := d.term l ++ " " ++ op ++ " " ++ d.term r
    (if first then s else conj.keyword ++ " " ++ s) :: parts d false rest
  | .group inner conj :: rest =>
    let text := " ".intercalate (parts d true inner)
    if text.isEmpty then parts d first rest
    else
      let s := parenthesize text
      (if first then s else conj.keyword ++ " " ++ s) :: parts d false rest

end

/-- `WHERE` and the conditions, or nothing for no conditions. -/
def whereClause (d : Dialect) (c : Clause) : String :=
  if c.isEmpty then "" else "WHERE " ++ d.conditions c.entries

/-- **Writing a join.** -/
def join (d : Dialect) (j : Join) : String :=
  let kind := if j.kind.isEmpty then "INNER" else j.kind
  ((Segments.ofList [kind ++ " JOIN", d.term j.table]).appendPrefixed "ON " (d.conditions j.on.entries)).text

/-- **Writing a select.** -/
def select (d : Dialect) (s : Select) : Except Fault String := do
  let w := (Segments.ofList ["SELECT"]).appendIf s.distinct ["DISTINCT"]
  let w := w.append [if s.columns.isEmpty then "*" else d.terms s.columns]
  let w ← match s.table with
    | none => pure w
    | some t =>
      if t.isEmpty then throw (Fault.missingTable "select" "no table specified")
      else pure (w.append ["FROM " ++ d.term t])
  let w := w.append (s.joins.map d.join)
  let w := w.append [d.whereClause s.conditions]
  let w := w.appendList "ORDER BY " (s.orderBy.map (fun o =>
    d.term o.column ++ " " ++ (if o.direction.isEmpty then "ASC" else o.direction))) ", "
  let w := match s.limit, s.offset with
    | some n, _ => w.append ["LIMIT " ++ toString n]
    | none, some _ => if d.offsetLimit.isEmpty then w else w.append ["LIMIT " ++ d.offsetLimit]
    | none, none => w
  let w := match s.offset with
    | some n => w.append ["OFFSET " ++ toString n]
    | none => w
  return w.text

/-- The conflict clause of an insert with the given columns. -/
def conflictClause (d : Dialect) (c : OnConflict) (columns : List Term) : Except Fault String :=
  match d.upsert with
  | .duplicateKey =>
    if c.action == .doNothing || c.sets.isEmpty then
      let col := match c.targets.head?, columns.head? with
        | some t, _ => t
        | none, some t => t
        | none, none => Term.name ""
      let q := d.term col
      .ok ("ON DUPLICATE KEY UPDATE " ++ q ++ " = " ++ q)
    else .ok ("ON DUPLICATE KEY UPDATE " ++ d.assignments c.sets)
  | .onConflict =>
    let head := "ON CONFLICT" ++ (if c.targets.isEmpty then "" else " (" ++ d.terms c.targets ++ ")")
    if c.action == .doNothing || c.sets.isEmpty then .ok (head ++ " DO NOTHING")
    else if c.targets.isEmpty then
      .error (Fault.invalid "upsert" (d.name ++ " requires conflict target columns for DO UPDATE"))
    else .ok (head ++ " DO UPDATE SET " ++ d.assignments c.sets)

/-- **Writing an insert.** -/
def insert (d : Dialect) (i : Insert) : Except Fault String := do
  i.validate
  if !i.returning.isEmpty && !d.returning then
    throw (Fault.unsupported "insert" (d.name ++ " does not support RETURNING"))
  let rows := ", ".intercalate (i.rows.map (fun r => parenthesize (d.terms r)))
  let w := Segments.ofList ["INSERT INTO", d.term i.table, parenthesize (d.terms i.columns), "VALUES", rows]
  let w ← match i.conflict with
    | none => pure w
    | some c => do
      let tail ← d.conflictClause c i.columns
      pure (w.append [tail])
  let w := if i.returning.isEmpty then w else w.append ["RETURNING " ++ d.terms i.returning]
  return w.text

/-- **Writing an update.** -/
def update (d : Dialect) (u : Update) : Except Fault String := do
  u.guard
  if u.table.isEmpty then throw (Fault.missingTable "update" "no table specified")
  if u.sets.isEmpty then
    throw (Fault.invalid "update" "update statement must specify at least one column to update")
  let w := Segments.ofList ["UPDATE", d.term u.table, "SET " ++ d.assignments u.sets]
  let w := w.append (u.joins.map d.join)
  return (w.append [d.whereClause u.conditions]).text

/-- **Writing a delete.** -/
def delete (d : Dialect) (x : Delete) : Except Fault String := do
  x.guard
  if x.table.isEmpty then throw (Fault.missingTable "delete" "no table specified")
  let w := Segments.ofList ["DELETE FROM", d.term x.table]
  let w := w.append (x.joins.map d.join)
  return (w.append [d.whereClause x.conditions]).text

/-- **The value side of an upsert assignment.** MySQL writes `VALUES(column)` unless given raw
SQL or a text starting with `VALUES(`; the others write `EXCLUDED.column` for an inferred value or
a text starting with `EXCLUDED.`, raw SQL as it is, and bind anything else. -/
def conflictValue (d : Dialect) (column : String) (v : ConflictValue) (b : Bindings) : Term × Bindings :=
  match d.upsert with
  | .duplicateKey =>
    match v with
    | .given (.raw s) => (Term.sql s, b)
    | .given (.text s) =>
      if s.startsWith "VALUES(" then (Term.sql s, b)
      else (Term.sql ("VALUES(" ++ d.quoteName column ++ ")"), b)
    | _ => (Term.sql ("VALUES(" ++ d.quoteName column ++ ")"), b)
  | .onConflict =>
    match v with
    | .inferred => (Term.sql ("EXCLUDED." ++ d.quoteName column), b)
    | .given (.raw s) => (Term.sql s, b)
    | .given (.text s) =>
      if s.startsWith "EXCLUDED." then
        (Term.sql ("EXCLUDED." ++ d.quoteName (s.drop 9).toString), b)
      else b.addTerm (.text s)
    | .given other => b.addTerm other

end Dialect
end QueryKit.Sql
