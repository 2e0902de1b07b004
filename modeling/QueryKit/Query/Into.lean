import QueryKit.Query.Run
import QueryKit.Model.Record

/-!
# Reading rows into models

Two terminal calls give models instead of rows:

* `scan` reads each row straight into a new record of a list's element shape, column by
  column, through the storing rules of `Scan.assign`; the destination must be a reference to a
  list of records or of references to records, and the records read before a row that does not
  convert are kept;
* `mapInto` takes all rows as `get` does, and sets a new record's fields from each through
  `Model.setFields`; a row that cannot be set fails the whole with its position, and no records
  are kept.

A destination that is refused is only found out once the statement has run.
-/

namespace QueryKit.Query

/-- **Destinations of a scan**, by kind: a reference to a list (possibly missing), a list given
by value, or anything else by its shape. -/
inductive Destination where
  | listRef (elem : Shape) (missing : Bool)
  | list (elem : Shape)
  | other (shape : Shape)
  deriving Inhabited

namespace Destination

/-- The name of a destination's kind. -/
def name : Destination → String
  | .listRef elem _ => "*[]" ++ elem.name
  | .list elem => "[]" ++ elem.name
  | .other s => s.name

/-- **What a destination takes**: the record shape of its elements, and whether the elements are
references to records. -/
def plan (d : Destination) : Except Fault (Shape × Bool) :=
  match d with
  | .listRef elem false =>
    if elem.indirect.isRecord then .ok (elem.indirect, elem matches .ref _)
    else .error (.modelOf elem.name "scan destination must hold structs")
  | _ => .error (.modelOf d.name "scan destination must be a pointer to a slice")

end Destination

/-- Nothing for no records, as a list that was never added to. -/
def recordsOrNone (xs : List Value) : Option (List Value) := if xs.isEmpty then none else some xs

/-- **Reading rows into records** of a shape, after the records `acc` read so far. -/
def scanRecords (base : Shape) (byRef : Bool) (columns : List String) :
    List (List Value) → List Value → Reading (Option (List Value))
  | [], acc => ⟨recordsOrNone acc, none, true⟩
  | cells :: rest, acc =>
    let cells := cells ++ List.replicate (columns.length - cells.length) .null
    match Model.scanRow (Model.zero base) columns cells with
    | .error f => ⟨recordsOrNone acc, some f, false⟩
    | .ok v => scanRecords base byRef columns rest (acc ++ [if byRef then .pointer base (some v) else v])

/-- **Reading a result set into a destination.** -/
def readInto (d : Destination) (columns : List String) (rows : List (List Value)) :
    Reading (Option (List Value)) :=
  match d.plan with
  | .error f => ⟨none, some f, true⟩
  | .ok (base, byRef) => scanRecords base byRef columns rows []

/-- **Setting a new record** of a shape from each row. -/
def convertRows (shape : Shape) (rows : List Row) : Except Fault (List Value) :=
  rows.zipIdx.mapM fun (row, i) =>
    match Model.setFields (.pointer shape (some (Model.zero shape))) row with
    | .ok v => .ok (Model.indirect v)
    | .error e => .error (.model "" "" (.word i) "row conversion failed" (some e))

namespace Run

variable {σ : Type}

/-- **The rows of the select read into a destination**: the records read, nothing when none
were. -/
def scan (ex : Option (Executor σ)) (d : Destination) : RunM σ (Outcome (Option (List Value))) := do
  match (← builder?).compileSelect "scan" with
  | .error e => refuse none e
  | .ok q =>
    record q
    finish (← runQuery ex q (readInto d) none)

/-- **The rows of the select as records** of a shape. -/
def mapInto (ex : Option (Executor σ)) (shape : Shape) : RunM σ (Outcome (Option (List Value))) := do
  let o ← get ex
  match o.fault with
  | some f => return ⟨none, some f⟩
  | none =>
    match convertRows shape o.result with
    | .ok vs => return ⟨some vs, none⟩
    | .error e => return ⟨none, some e⟩

end Run
end QueryKit.Query
