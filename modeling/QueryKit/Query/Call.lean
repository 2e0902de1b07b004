import QueryKit.Query.Builder

/-!
# Builder calls as data

A chain of builder calls, written down as values, and what each does. Condition calls act on a
condition scope (a `WHERE`, a join's `ON`, or a group in either); builder calls act on a
builder. A call whose function argument is missing (a group or a join without one) is kept as
such, since the builder answers it with a fault of its own.

* `Cond` is a condition call, `Cond.apply` runs it on a scope;
* `Call` is a builder call, `Call.apply` runs it on a builder, and `Call.applyAll` runs a chain.
-/

namespace QueryKit.Query

open Sql

/-- **Condition calls.** -/
inductive Cond where
  /-- `column op value`, the value bound (`where`, `orWhere`). -/
  | compare (conj : Conjunction) (column : Value) (op : String) (value : Value)
  /-- `first op second`, two terms (`whereColumn`, `on`). -/
  | columns (conj : Conjunction) (first : Value) (op : String) (second : Value)
  /-- `column LIKE pattern` or `NOT LIKE`. -/
  | like (conj : Conjunction) (column : Value) (negated : Bool) (pattern : Value)
  /-- `column IN (…)` or `NOT IN`. -/
  | isIn (conj : Conjunction) (column : Value) (negated : Bool) (values : Value)
  /-- `column IS NULL` or `IS NOT NULL`. -/
  | isNull (conj : Conjunction) (column : Value) (negated : Bool)
  /-- `column BETWEEN low AND high` or `NOT BETWEEN`. -/
  | between (conj : Conjunction) (column : Value) (negated : Bool) (low high : Value)
  /-- A parenthesized group built by the calls, or a group call without a function. -/
  | group (conj : Conjunction) (calls : Option (List Cond))
  deriving Inhabited

namespace Cond

mutual

/-- **Running a condition call.** `op` names the scope in the fault of a group without a
function. -/
def apply (op : String) (s : Scope) : Cond → Scope
  | .compare conj c o v => s.compare conj c o v
  | .columns conj a o b => s.columns conj a o b
  | .like conj c neg p => s.like conj c (if neg then "NOT LIKE" else "LIKE") p
  | .isIn conj c neg vs => s.isIn conj c (if neg then "NOT IN" else "IN") vs
  | .isNull conj c neg => s.isNull conj c neg
  | .between conj c neg l h => s.between conj c (if neg then "NOT BETWEEN" else "BETWEEN") l h
  | .group conj none => s.group op conj none
  | .group conj (some calls) => s.group op conj (some (fun sub => applyAll op sub calls))

/-- Runs condition calls in order. -/
def applyAll (op : String) (s : Scope) : List Cond → Scope
  | [] => s
  | c :: rest => applyAll op (apply op s c) rest

end

end Cond

/-- **Builder calls.** -/
inductive Call where
  | table (t : Value)
  | select (columns : List Value)
  | distinct
  /-- Ordering by a column in a named direction. -/
  | orderBy (column : Value) (direction : String)
  | limit (n : Int)
  | offset (n : Int)
  | force
  /-- A join of a kind on one comparison of two terms. -/
  | join (kind : String) (table first : Value) (op : String) (second : Value)
  /-- A join of a kind whose conditions the calls build. -/
  | joinWith (kind : String) (table : Value) (calls : Option (List Cond))
  /-- A join of a named kind, the name checked. -/
  | joinOfType (kind : String) (table : Value) (calls : Option (List Cond))
  | onConflictDoNothing (columns : List String)
  | onConflictDoUpdate (columns : List String) (assignments : List (String × ConflictValue))
  /-- A condition call on the `WHERE`. -/
  | cond (c : Cond)
  deriving Inhabited

namespace Call

/-- The function of a join scope built by calls. -/
def joinScope : Option (List Cond) → Option (Scope → Scope)
  | none => none
  | some calls => some (fun s => Cond.applyAll "join" s calls)

/-- **Running a builder call.** -/
def apply (b : Builder) : Call → Builder
  | .table t => b.setTable t
  | .select cols => b.select cols
  | .distinct => b.setDistinct
  | .orderBy c d => b.order c d
  | .limit n => b.setLimit n
  | .offset n => b.setOffset n
  | .force => b.setForce
  | .join k t a o c => b.joinOn k t a o c
  | .joinWith k t calls => b.joinWith k t (joinScope calls)
  | .joinOfType k t calls => b.joinOfType k t (joinScope calls)
  | .onConflictDoNothing cols => b.onConflictDoNothing cols
  | .onConflictDoUpdate cols assignments => b.onConflictDoUpdate cols assignments
  | .cond c => b.onWhere (fun s => c.apply "where" s)

/-- Runs builder calls in order. -/
def applyAll (b : Builder) (calls : List Call) : Builder := calls.foldl apply b

end Call
end QueryKit.Query
