import QueryKit.Sql.Term

/-!
# Bindings

The values a statement binds, each under a slot name. Values added without a name get the next
numbered slot: `v1`, `v2`, … in order; a raw fragment is not bound at all and gives its SQL
instead. A value bound under an explicit name replaces the value of a slot of that name, or is
added at the end, and does not advance the numbering.

* `Bindings.add` returns the marker (`:v3`) to write into the SQL, or a raw fragment's SQL;
* `Bindings.bind` binds under a name and returns `:name`;
* `Bindings.values`, `Bindings.entries` and `Bindings.asMap` are the views: values in slot order,
  name–value pairs in slot order, and the pairs by name (a later slot of the same name wins).
-/

namespace QueryKit.Sql

/-- **A bound value** and its slot name. -/
structure Binding where
  /-- The slot name, without the colon. -/
  name : String
  /-- The bound value. -/
  value : Value
  deriving Repr, Inhabited

/-- **Bindings.** -/
structure Bindings where
  /-- The number of the next numbered slot; zero counts as one. -/
  next : Nat := 1
  /-- The bound values in slot order. -/
  entries : List Binding := []
  deriving Repr, Inhabited

namespace Bindings

/-- Bindings before any value, numbering from one. -/
def empty : Bindings := {}

/-- **Adding a value.** The SQL to write for it, and the bindings after it. -/
def add (b : Bindings) (v : Value) : String × Bindings :=
  match v.rawSql? with
  | some sql => (sql, b)
  | none =>
    let n := if b.next == 0 then 1 else b.next
    let name := "v" ++ toString n
    (":" ++ name, { next := n + 1, entries := b.entries ++ [⟨name, v⟩] })

/-- Adding a value, as a raw term. -/
def addTerm (b : Bindings) (v : Value) : Term × Bindings :=
  let (sql, b') := b.add v
  (Term.sql sql, b')

/-- Replaces the value of the first slot called `name`, if there is one. -/
def replace (name : String) (v : Value) : List Binding → Option (List Binding)
  | [] => none
  | e :: rest =>
    if e.name == name then some (⟨name, v⟩ :: rest)
    else (replace name v rest).map (e :: ·)

/-- **Binding under a name.** -/
def bind (b : Bindings) (name : String) (v : Value) : String × Bindings :=
  match replace name v b.entries with
  | some entries => (":" ++ name, { b with entries })
  | none => (":" ++ name, { b with entries := b.entries ++ [⟨name, v⟩] })

/-- The bound values in slot order. -/
def values (b : Bindings) : List Value := b.entries.map (·.value)

/-- The number of bound values. -/
def size (b : Bindings) : Nat := b.entries.length

/-- The value bound under a name, the last slot of that name winning. -/
def lookup (b : Bindings) (name : String) : Option Value :=
  (b.entries.reverse.find? (·.name == name)).map (·.value)

/-- The bindings by name, sorted by name, a later slot of the same name winning. -/
def asMap (b : Bindings) : List (String × Value) := mapMembers (b.entries.map (fun e => (e.name, e.value)))

end Bindings
end QueryKit.Sql
