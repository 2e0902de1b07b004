import QueryKit.Model.Layout
import QueryKit.Scan.Assign
import QueryKit.Yaml.Scalar

/-!
# Model values

The values of models: records whose fields hold values of the fields' shapes. A model is written
to a row column by column, and a row's values are set into a model column by column.

* `Shape.zero` is the value every field starts with: empty texts, zeros, false, missing
  references, empty lists and maps, and nullable values that are not present;
* `Shape.load` builds a value of a shape from loose data: a map of field names to values for a
  record, nothing for a missing reference, numbers brought to the field's width;
* `toRow` gives the columns a model writes: not those never written, not those left out when
  empty and empty, not those behind a missing embedded reference;
* `setFields` sets the fields of the model a reference points to from a row: a value of the
  field's own type is stored as it is; a number converts to another number kind, a text to bytes,
  bytes to a text; nothing stores the field's zero value; anything else is refused;
* `scanTargets` names the places a row's columns are read into, and `scanRow` reads them.
-/

namespace QueryKit.Model

mutual

/-- **The zero value** of a shape. -/
def zero : Shape → Value
  | .text => .text ""
  | .int => .word 0
  | .int64 => .int 0
  | .int32 => .small .int32 0
  | .uint8 => .small .uint8 0
  | .float64 => .float 0
  | .bool => .bool false
  | .bytes => .bytes []
  | .any => .null
  | .texts => .texts []
  | .dict => .map []
  | .list => .list []
  | .other _ => .null
  | .nullText => .record .nullText [.text "", .bool false]
  | .nullInt => .record .nullInt [.int 0, .bool false]
  | .ref t => .pointer t none
  | .record n ss => .record (.record n ss) (zeros ss)

/-- The zero values of fields. -/
def zeros : List Slot → List Value
  | [] => []
  | .mk _ s _ _ :: rest => zero s :: zeros rest

end

/-- The integer of a loose number, doubles truncated. -/
def looseInt : Value → Option Int
  | .int n | .word n | .small _ n => some n
  | .uint n => some n
  | .float x => some (Yaml.truncateWord x)
  | _ => none

/-- The member of a loose map under a name. -/
def memberOf (v : Value) (name : String) : Value :=
  match v with
  | .map ms => (ms.lookup name).getD .null
  | _ => .null

mutual

/-- **A value of a shape from loose data**; what does not fit leaves the zero value. -/
def load : Shape → Value → Value
  | s, .null => zero s
  | .text, .text t => .text t
  | .int, v => match looseInt v with | some n => .word n | none => .word 0
  | .int64, v => match looseInt v with | some n => .int n | none => .int 0
  | .int32, v => match looseInt v with | some n => .small .int32 (Width.int32.wrap n) | none => .small .int32 0
  | .uint8, v => match looseInt v with | some n => .small .uint8 (Width.uint8.wrap n) | none => .small .uint8 0
  | .float64, .float x => .float x
  | .float64, v => match looseInt v with | some n => .float (Float.ofInt n) | none => .float 0
  | .bool, .bool b => .bool b
  | .bytes, .bytes b => .bytes b
  | .any, v => v
  | .texts, .texts xs => .texts xs
  | .texts, .list items => .texts (items.map Value.plain)
  | .dict, .map ms => .map ms
  | .list, .list items => .list items
  | .nullText, v =>
    .record .nullText [(match memberOf v "String" with | .text t => .text t | _ => .text ""),
      .bool (memberOf v "Valid" matches .bool true)]
  | .nullInt, v =>
    .record .nullInt [.int ((looseInt (memberOf v "Int64")).getD 0),
      .bool (memberOf v "Valid" matches .bool true)]
  | .ref t, v => .pointer t (some (load t v))
  | .record n ss, v => .record (.record n ss) (loadFields ss v)
  | s, _ => zero s

/-- The fields of a record from a loose map. -/
def loadFields : List Slot → Value → List Value
  | [], _ => []
  | .mk name s _ _ :: rest, v => load s (memberOf v name) :: loadFields rest v

end

/-- Whether a double is positive zero, the zero value of doubles. -/
def isPositiveZero (x : Float) : Bool := x.toBits == 0

mutual

/-- **Whether a value is the zero value of its kind.** -/
def isZero : Value → Bool
  | .null => true
  | .bool b => !b
  | .int n | .word n | .small _ n => n == 0
  | .uint n => n == 0
  | .float x => isPositiveZero x
  | .text s => s.isEmpty
  | .bytes b => b.isEmpty
  | .list items => items.isEmpty
  | .words items => items.isEmpty
  | .texts items => items.isEmpty
  | .map ms => ms.isEmpty
  | .duration d => d.nanos == 0
  | .pointer _ v => v.isNone
  | .record _ fields => allZero fields
  | .rawRef r => r.isNone
  | _ => false

/-- Whether all values are zero. -/
def allZero : List Value → Bool
  | [] => true
  | v :: rest => isZero v && allZero rest

end

/-- **Whether a field holds its zero value**: a field of any kind is empty only when it holds
nothing. -/
def fieldIsZero (s : Shape) (v : Value) : Bool :=
  match s with
  | .any => (v matches .null)
  | _ => isZero v

/-- **The field at positions** through embedded records, without making missing references. -/
def fieldAt : List Nat → Value → Option Value
  | [], v => some v
  | [x], .record _ fs => fs[x]?
  | x :: rest, .record _ fs =>
    match fs[x]? with
    | some (.pointer _ (some inner)) => fieldAt rest inner
    | some (.pointer _ none) => none
    | some inner => fieldAt rest inner
    | none => none
  | _, _ => none

/-- **Changing the field at positions** through embedded records, making missing references to
records on the way. -/
def updateAt {ε : Type} (f : Value → Except ε Value) : List Nat → Value → Except ε Value
  | [], v => f v
  | x :: rest, .record s fs =>
    match fs[x]? with
    | none => .ok (.record s fs)
    | some fv =>
      if rest.isEmpty then do
        let nv ← f fv
        return .record s (fs.set x nv)
      else
        match fv with
        | .pointer t target => do
          let inner ← updateAt f rest (target.getD (zero t))
          return .record s (fs.set x (.pointer t (some inner)))
        | other => do
          let inner ← updateAt f rest other
          return .record s (fs.set x inner)
  | _ :: _, v => .ok v

/-- A value with the references in front of it followed. -/
def indirect : Value → Value
  | .pointer _ (some v) => indirect v
  | v => v

/-- **The columns a model writes**, with their values. -/
def toRow (model : Value) : Except Fault (List (String × Value)) := do
  if model matches .null then throw (.model "" "" .null "nil model" none)
  match indirect model with
  | .record s fs =>
    let cols ← columns s
    let row := cols.foldl (fun acc c =>
      if c.readonly then acc
      else
        match fieldAt c.index (.record s fs) with
        | none => acc
        | some v => if c.omitempty && fieldIsZero c.shape v then acc else acc ++ [(c.column, v)]) []
    if row.isEmpty then throw (.model s.shortName "" .null "model has no writable columns" none)
    return row
  | _ => throw (.model model.typeName "" .null "model must be a struct" none)

/-- Whether a number kind: a value of it converts to any other number kind. -/
def numericShape : Shape → Bool
  | .int | .int64 | .int32 | .uint8 | .float64 => true
  | _ => false

/-- **A number converted to a number shape**: integers wrapped to the width, doubles truncated
toward zero for integer shapes. -/
def convertNumber (s : Shape) (v : Value) : Option Value :=
  let whole : Option Int := match v with
    | .int n | .word n | .small _ n => some n
    | .uint n => some (Config.Store.wrap64 n)
    | .duration d => some d.nanos
    | .float x => some (Yaml.truncateWord x)
    | _ => none
  match s, v with
  | .float64, .float x => some (.float x)
  | .float64, .uint n => some (.float (Float.ofNat n))
  | .float64, _ => whole.map (fun n => .float (Float.ofInt n))
  | .int, _ => whole.map .word
  | .int64, _ => whole.map .int
  | .int32, _ => whole.map (fun n => .small .int32 (Width.int32.wrap n))
  | .uint8, _ => whole.map (fun n => .small .uint8 (Width.uint8.wrap n))
  | _, _ => none

/-- **Setting a field** of a shape to a value: the value the field then holds. -/
def setField : Shape → Value → Except String Value
  | s, .null => .ok (zero s)
  | .nullText, v => Scan.assign .nullText v
  | .nullInt, v => Scan.assign .nullInt v
  | .ref t, v => (setField t v).map (fun inner => .pointer t (some inner))
  | .text, .bytes b => .ok (.text (Text.decodeLenient b))
  | .any, v => .ok v
  | s, v =>
    if v.typeName == s.name then .ok v
    else
      let converted : Option Value :=
        if numericShape s then convertNumber s v
        else match s, v with
          | .bytes, .text t => some (.bytes t.toUTF8.toList)
          | _, _ => none
      match converted with
      | some c => .ok c
      | none => .error ("incompatible types " ++ v.typeName ++ " and " ++ s.name)

/-- Follows references to the record, changes it, and puts it back behind the same references. -/
def throughRefs {ε : Type} (f : Value → Except ε Value) : Value → Except ε Value
  | .pointer t (some v) => do return .pointer t (some (← throughRefs f v))
  | v => f v

/-- **Setting the fields of a model** from a row: the model must be a reference to a record;
each column the row has sets its field, the first that cannot be set failing the whole. -/
def setFields (model : Value) (row : List (String × Value)) : Except Fault Value :=
  match model with
  | .pointer _ (some _) =>
    match indirect model with
    | .record s _ => do
      let cols ← columns s
      throughRefs (fun target => cols.foldlM (fun acc c =>
        match row.lookup c.column with
        | none => .ok acc
        | some v =>
          updateAt (fun _ =>
            match setField c.shape v with
            | .ok nv => .ok nv
            | .error why =>
              .error (Fault.model s.shortName c.name v "cannot set field value" (some (.plain why)))) c.index acc)
        target) model
    | _ => .error (.model model.typeName "" .null "model must point to a struct" none)
  | _ => .error (.model model.typeName "" .null "model must be a non-nil pointer" none)

/-- **The places a row's columns are read into**, by the names of their kinds: a column that
matches a field is read into that field, any other into a discarded place of any kind. -/
def scanTargets (model : Value) (addressable : Bool) (columnNames : List String) :
    Except Fault (List String) :=
  match indirect model with
  | .record s _ =>
    if !addressable then .error (.model s.name "" .null "scan destination must be an addressable struct" none)
    else do
      let cols ← columns s
      return columnNames.map (fun name =>
        match cols.find? (·.column == name) with
        | some c => "*" ++ c.shape.name
        | none => "*interface \x7b\x7d")
  | v => .error (.model v.typeName "" .null "scan destination must be an addressable struct" none)

/-- **Reading a row into a record**: each column into its field, the first that does not convert
failing with its position and name. -/
def scanRow (record : Value) (columnNames : List String) (cells : List Value) : Except Fault Value :=
  match record with
  | .record s _ => do
    let cols ← columns s
    (columnNames.zip cells).zipIdx.foldlM (fun acc ((name, cell), i) =>
      match cols.find? (·.column == name) with
      | none => .ok acc
      | some c =>
        updateAt (fun _ =>
          match Scan.assign c.shape cell with
          | .ok v => .ok v
          | .error why => .error (Fault.plain ("sql: Scan error on column index " ++ toString i ++
              ", name " ++ Text.quote name ++ ": " ++ why))) c.index acc) record
  | v => .error (.model v.typeName "" .null "scan destination must be an addressable struct" none)

end QueryKit.Model
