import QueryKit.Fault.Basic

/-!
# Terms

A term is what stands in a name position of a statement: a table, a column, a selected
expression. It is either a *name*, quoted when written, or *raw* SQL, written as it is. A text
value gives a name and a raw fragment (or a present reference to one) gives raw SQL; any other
value is refused, naming its kind.

* `Term.ofValue` turns a value into a term or an invalid-input fault;
* `Term.allOfValues` turns every value, stopping at the first refusal.
-/

namespace QueryKit.Sql

/-- **Terms.** -/
structure Term where
  /-- The text of the name or of the SQL. -/
  text : String
  /-- Whether the text is raw SQL. -/
  raw : Bool := false
  deriving Repr, BEq, DecidableEq, Inhabited

namespace Term

/-- A name. -/
def name (s : String) : Term := ⟨s, false⟩

/-- Raw SQL. -/
def sql (s : String) : Term := ⟨s, true⟩

/-- Whether the term is empty. -/
def isEmpty (t : Term) : Bool := t.text.isEmpty

/-- **Terms of values.** -/
def ofValue : Value → Except Fault Term
  | .text s => .ok (name s)
  | .raw s => .ok (sql s)
  | .rawRef (some s) => .ok (sql s)
  | v => .error (Fault.invalid "identifier" ("expected string or Expression, got " ++ v.typeName))

/-- Terms of all values, or the first refusal. -/
def allOfValues : List Value → Except Fault (List Term)
  | [] => .ok []
  | v :: rest => do
    let t ← ofValue v
    let ts ← allOfValues rest
    return t :: ts

end Term
end QueryKit.Sql
