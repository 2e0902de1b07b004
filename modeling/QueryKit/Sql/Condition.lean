import QueryKit.Sql.Term

/-!
# Conditions

A `WHERE` or `ON` list: a sequence of entries, each a comparison or a parenthesized group of
entries, each joined to the one before it by `AND` or `OR`. The joiner of the first entry of a
list is never written.

* `Clause.addCondition` appends a comparison; `Clause.addGroup` appends a group, and drops a
  group with no entries;
* a group kept inside another group may still hold only empty groups: it is written as nothing.
-/

namespace QueryKit.Sql

/-- **Joiners** between conditions. -/
inductive Conjunction where
  /-- `AND` -/
  | and
  /-- `OR` -/
  | or
  deriving Repr, BEq, DecidableEq, Inhabited

/-- The keyword of a joiner. -/
def Conjunction.keyword : Conjunction → String
  | .and => "AND"
  | .or => "OR"

/-- **Entries** of a condition list. -/
inductive Entry where
  /-- `left op right` -/
  | compare (left : Term) (op : String) (right : Term) (conj : Conjunction)
  /-- A parenthesized group. -/
  | group (entries : List Entry) (conj : Conjunction)
  deriving Repr, Inhabited

/-- The joiner of an entry. -/
def Entry.conj : Entry → Conjunction
  | .compare _ _ _ c => c
  | .group _ c => c

/-- **Condition lists.** -/
structure Clause where
  /-- The entries in order. -/
  entries : List Entry := []
  deriving Repr, Inhabited

namespace Clause

/-- Appends a comparison. -/
def addCondition (c : Clause) (left : Term) (op : String) (right : Term) (conj : Conjunction) :
    Clause :=
  ⟨c.entries ++ [.compare left op right conj]⟩

/-- Appends a group, unless it has no entries. -/
def addGroup (c : Clause) (entries : List Entry) (conj : Conjunction) : Clause :=
  if entries.isEmpty then c else ⟨c.entries ++ [.group entries conj]⟩

/-- Whether the list has no entries. -/
def isEmpty (c : Clause) : Bool := c.entries.isEmpty

end Clause
end QueryKit.Sql
