import QueryKit.Yaml.Decode
import QueryKit.Query.Run

/-!
# Query definitions

A query definition describes one query in YAML: the table, the selected columns, joins,
conditions, order, limit and offset, and at most one statement that changes rows (an insert, an
upsert, an update or a delete), or else a count, a first row, a page or all rows.

```
table: users
select: [id, name]
where:
  - {column: id, op: "=", value: 1}
  - or: true
    group:
      - {column: name, op: like, value: "S%"}
order:
  - {column: id, direction: desc}
limit: 10
```

* `Definition.parse` reads a definition: the text must hold a document, every key must name a
  field, every value must fit its field, a table must be given, and no two statements that change
  rows may be;
* a problem of the YAML text or of its fields is an invalid-input fault of loading, listing the
  problems.
-/

namespace QueryKit

open Yaml Query

/-- **Conditions**: a comparison of a column with a value or with another column, or a group of
conditions in parentheses. -/
structure Predicate where
  /-- Joined to the conditions before by `OR` rather than `AND`. -/
  disjunct : Bool := false
  column : String := ""
  /-- A comparison operator, or one of `like`, `not like`, `in`, `not in`, `null`, `not null`,
  `between`, `not between`. -/
  op : String := ""
  value : Value := .null
  /-- The column compared with, instead of a value. -/
  other : String := ""
  /-- Conditions grouped in parentheses. -/
  group : List Predicate := []
  deriving Inhabited

/-- **Joins** of a table on conditions. -/
structure JoinSpec where
  /-- The kind of join, `inner` when not given. -/
  kind : String := ""
  table : String := ""
  on : List Predicate := []
  deriving Inhabited

/-- **Orderings** by a column, ascending when no direction is given. -/
structure OrderSpec where
  column : String := ""
  direction : String := ""
  deriving Inhabited

/-- **Upserts**: rows to insert, the columns that make a row unique, and the columns to overwrite
on a conflict (every other column when none are given). -/
structure UpsertSpec where
  rows : List Row := []
  uniqueBy : List String := []
  update : List String := []
  deriving Inhabited

/-- **Pages** of a select. -/
structure PageSpec where
  page : Int := 0
  perPage : Int := 0
  /-- Without counting the rows. -/
  simple : Bool := false
  deriving Inhabited

/-- **Query definitions.** -/
structure Definition where
  table : String := ""
  select : List String := []
  distinct : Bool := false
  joins : List JoinSpec := []
  conditions : List Predicate := []
  order : List OrderSpec := []
  limit : Option Int := none
  offset : Option Int := none
  insert : List Row := []
  returning : List String := []
  upsert : Option UpsertSpec := none
  update : Row := []
  delete : Bool := false
  force : Bool := false
  count : Bool := false
  first : Bool := false
  paginate : Option PageSpec := none
  deriving Inhabited

namespace Definition

/-- The type names of a definition's parts, as problems name them. -/
def typeName (part : String) : String := "main." ++ part

/-- Sets a field from a decoded value; nothing decoded leaves it as it was. -/
def setWith {α β : Type} (read : Node → Decode (Option β)) (set : α → β → α) : α → Node → Decode α :=
  fun a n => do
    match ← read n with
    | some b => return set a b
    | none => return a

/-- A row of values: a mapping, or nothing for null. -/
def row? (n : Node) : Decode (Option Row) := do
  if ← n.null? then pure (some []) else n.record?

/-- A list of rows. -/
def rows? (n : Node) : Decode (Option (List Row)) :=
  n.items? "[]map[string]interface \x7b\x7d" row?

/-- **A condition**, its groups read to a depth of `fuel`. -/
def predicate? : Nat → Node → Decode (Option Predicate)
  | 0, _ => pure none
  | fuel + 1, n =>
    n.fields? (typeName "Predicate") {} fun
      | "or" => some (setWith Node.flag? fun p b => { p with disjunct := b })
      | "column" => some (setWith Node.text? fun p s => { p with column := s })
      | "op" => some (setWith Node.text? fun p s => { p with op := s })
      | "value" => some (setWith Node.value? fun p v => { p with value := v })
      | "other" => some (setWith Node.text? fun p s => { p with other := s })
      | "group" => some (setWith (fun g => g.items? ("[]" ++ typeName "Predicate") (predicate? fuel))
          fun p g => { p with group := g })
      | _ => none

/-- A list of conditions. -/
def predicates? (fuel : Nat) (n : Node) : Decode (Option (List Predicate)) :=
  n.items? ("[]" ++ typeName "Predicate") (predicate? fuel)

/-- **A join.** -/
def join? (fuel : Nat) (n : Node) : Decode (Option JoinSpec) :=
  n.fields? (typeName "JoinDef") {} fun
    | "type" => some (setWith Node.text? fun j s => { j with kind := s })
    | "table" => some (setWith Node.text? fun j s => { j with table := s })
    | "on" => some (setWith (predicates? fuel) fun j ps => { j with on := ps })
    | _ => none

/-- **An ordering.** -/
def order? (n : Node) : Decode (Option OrderSpec) :=
  n.fields? (typeName "OrderDef") {} fun
    | "column" => some (setWith Node.text? fun o s => { o with column := s })
    | "direction" => some (setWith Node.text? fun o s => { o with direction := s })
    | _ => none

/-- **An upsert.** -/
def upsert? (n : Node) : Decode (Option UpsertSpec) :=
  n.fields? (typeName "UpsertDef") {} fun
    | "rows" => some (setWith rows? fun u rs => { u with rows := rs })
    | "unique_by" => some (setWith Node.texts? fun u cs => { u with uniqueBy := cs })
    | "update" => some (setWith Node.texts? fun u cs => { u with update := cs })
    | _ => none

/-- **A page.** -/
def page? (n : Node) : Decode (Option PageSpec) :=
  n.fields? (typeName "PaginateDef") {} fun
    | "page" => some (setWith Node.word? fun p k => { p with page := k })
    | "per_page" => some (setWith Node.word? fun p k => { p with perPage := k })
    | "simple" => some (setWith Node.flag? fun p b => { p with simple := b })
    | _ => none

/-- A field that points to a value: null leaves it unset, anything else sets it, to the value
read or, when that fails, to the default. -/
def pointing {α β : Type} [Inhabited β] (read : Node → Decode (Option β)) (set : α → Option β → α) :
    α → Node → Decode α :=
  fun a n => do
    if ← n.null? then return a
    let b ← read n
    return set a (some (b.getD default))

/-- **Decoding a definition** from the root node of its document. -/
def decode? (fuel : Nat) (n : Node) : Decode (Option Definition) :=
  n.fields? (typeName "Definition") {} fun
    | "table" => some (setWith Node.text? fun d s => { d with table := s })
    | "select" => some (setWith Node.texts? fun d cs => { d with select := cs })
    | "distinct" => some (setWith Node.flag? fun d b => { d with distinct := b })
    | "joins" => some (setWith (fun j => j.items? ("[]" ++ typeName "JoinDef") (join? fuel))
        fun d js => { d with joins := js })
    | "where" => some (setWith (predicates? fuel) fun d ps => { d with conditions := ps })
    | "order" => some (setWith (fun o => o.items? ("[]" ++ typeName "OrderDef") order?)
        fun d os => { d with order := os })
    | "limit" => some (pointing Node.word? fun d k => { d with limit := k })
    | "offset" => some (pointing Node.word? fun d k => { d with offset := k })
    | "insert" => some (setWith rows? fun d rs => { d with insert := rs })
    | "returning" => some (setWith Node.texts? fun d cs => { d with returning := cs })
    | "upsert" => some (pointing upsert? fun d u => { d with upsert := u })
    | "update" => some (setWith (fun u => u.record?) fun d r => { d with update := r })
    | "delete" => some (setWith Node.flag? fun d b => { d with delete := b })
    | "force" => some (setWith Node.flag? fun d b => { d with force := b })
    | "count" => some (setWith Node.flag? fun d b => { d with count := b })
    | "first" => some (setWith Node.flag? fun d b => { d with first := b })
    | "paginate" => some (pointing page? fun d p => { d with paginate := p })
    | _ => none

/-- The number of statements that change rows a definition gives. -/
def statements (d : Definition) : Nat :=
  [!d.insert.isEmpty, d.upsert.isSome, !d.update.isEmpty, d.delete].count true

/-- **Reading a definition** from YAML text. -/
def parse (text : String) : Except Fault Definition :=
  let invalid (m : String) : Fault := Fault.invalid "load" ("invalid query definition: " ++ m)
  match Yaml.parse text with
  | .error p => .error (invalid p.text)
  | .ok none => .error (invalid "EOF")
  | .ok (some doc) =>
    match doc.decode (decode? doc.fuel) with
    | .error m => .error (invalid m)
    | .ok d =>
      let d := d.getD {}
      if d.table.isEmpty then .error (Fault.missingTable "load" "query definition has no table")
      else if d.statements > 1 then
        .error (Fault.invalid "load" "only one of insert, upsert, update and delete may be given")
      else .ok d

end Definition
end QueryKit
