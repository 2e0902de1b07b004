/-!
# Segment writers

A statement is written as a sequence of segments joined by single spaces. Empty segments are
dropped as they come, so optional clauses can be appended without checks.

* `Segments.append` keeps the non-empty segments; `appendIf`, `appendPrefixed` and `appendList`
  add a segment under a condition, with a prefix when the body is not empty, or as a joined list
  when it is not empty;
* `Segments.text` joins them with spaces; `parenthesize` wraps a text in parentheses.
-/

namespace QueryKit.Sql

/-- **Segment writers.** -/
structure Segments where
  /-- The segments so far, none empty. -/
  parts : List String := []
  deriving Repr, Inhabited

namespace Segments

/-- Appends the non-empty segments. -/
def append (w : Segments) (segs : List String) : Segments :=
  ⟨w.parts ++ segs.filter (fun s => !s.isEmpty)⟩

/-- A writer holding the non-empty segments. -/
def ofList (segs : List String) : Segments := append {} segs

/-- Appends the segments when the condition holds. -/
def appendIf (w : Segments) (cond : Bool) (segs : List String) : Segments :=
  if cond then w.append segs else w

/-- Appends `prefix ++ body` unless the body is empty. -/
def appendPrefixed (w : Segments) (lead body : String) : Segments :=
  if body.isEmpty then w else w.append [lead ++ body]

/-- Appends the items joined by `sep`, with a prefix, unless there are no items. -/
def appendList (w : Segments) (lead : String) (items : List String) (sep : String) : Segments :=
  if items.isEmpty then w else w.appendPrefixed lead (sep.intercalate items)

/-- The number of segments. -/
def size (w : Segments) : Nat := w.parts.length

/-- **The written text.** -/
def text (w : Segments) : String := " ".intercalate w.parts

end Segments

/-- A text in parentheses. -/
def parenthesize (s : String) : String := "(" ++ s ++ ")"

end QueryKit.Sql
