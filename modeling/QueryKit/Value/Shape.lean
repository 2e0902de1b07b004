import QueryKit.Text.Quoted
import QueryKit.Unicode.Upper

/-!
# Shapes of model values

A *model* is a record whose fields map to the columns of a table. Its shape says, field by field,
what kind of value the field holds: a text, an integer of some width, a double, a boolean, bytes,
any value at all, a list of texts, a map, a nullable text or integer, a reference to another
shape, or a nested record. A field may carry a tag (`id;readonly`, `column:note_text`) and may be
embedded, lending its own fields to the record around it.

* `Shape.name` is the name of a shape as messages spell it: `int64`, `*string`,
  `sql.NullString`, `main.Base`, or for a record without a name the whole declaration
  (`struct { ID int64 "db:\"id\""; Name string }`);
* `Shape.slots` are the fields of a record, and of the two nullable kinds, which are records of a
  value and a validity flag;
* `Shape.indirect` looks through references.
-/

namespace QueryKit

mutual

/-- **Shapes** of model values. -/
inductive Shape where
  | text
  /-- A machine-word integer. -/
  | int
  | int64
  | int32
  | uint8
  | float64
  | bool
  | bytes
  /-- Any value at all. -/
  | any
  /-- A list of texts. -/
  | texts
  /-- A map from texts to any values. -/
  | dict
  /-- A list of any values. -/
  | list
  /-- A shape known only by its name. -/
  | other (name : String)
  /-- A text that may be missing. -/
  | nullText
  /-- A 64-bit integer that may be missing. -/
  | nullInt
  /-- A reference to a value of a shape, possibly missing. -/
  | ref (target : Shape)
  /-- A record: its qualified name (empty for a record declared in place) and its fields. -/
  | record (name : String) (slots : List Slot)

/-- **Fields of a record**: a name, a shape, the column tag if one is given, and whether the
field is embedded. -/
inductive Slot where
  | mk (name : String) (shape : Shape) (tag : Option String) (embedded : Bool)

end

deriving instance Repr, Inhabited for Shape, Slot

namespace Slot

/-- The name of a field. -/
def name : Slot → String
  | .mk n _ _ _ => n

/-- The shape of a field. -/
def shape : Slot → Shape
  | .mk _ s _ _ => s

/-- The column tag of a field, if it has one. -/
def tag : Slot → Option String
  | .mk _ _ t _ => t

/-- Whether a field is embedded. -/
def embedded : Slot → Bool
  | .mk _ _ _ e => e

/-- Whether a field is exported: its name starts with an upper-case letter of any script. -/
def exported (s : Slot) : Bool :=
  match s.name.toList with
  | c :: _ => Unicode.isUpper c.toNat
  | [] => false

end Slot

namespace Shape

/-- A shape without references. -/
def indirect : Shape → Shape
  | .ref t => indirect t
  | s => s

/-- Whether a shape is a record, the two nullable kinds included. -/
def isRecord : Shape → Bool
  | .record _ _ | .nullText | .nullInt => true
  | _ => false

/-- Whether values of a shape read themselves from a column value (the two nullable kinds). -/
def readsItself : Shape → Bool
  | .nullText | .nullInt => true
  | _ => false

/-- The fields of a record shape; none for other shapes. -/
def slots : Shape → List Slot
  | .record _ ss => ss
  | .nullText => [.mk "String" .text none false, .mk "Valid" .bool none false]
  | .nullInt => [.mk "Int64" .int64 none false, .mk "Valid" .bool none false]
  | _ => []

mutual

/-- **The name of a shape.** -/
def name : Shape → String
  | .text => "string"
  | .int => "int"
  | .int64 => "int64"
  | .int32 => "int32"
  | .uint8 => "uint8"
  | .float64 => "float64"
  | .bool => "bool"
  | .bytes => "[]uint8"
  | .any => "interface \x7b\x7d"
  | .texts => "[]string"
  | .dict => "map[string]interface \x7b\x7d"
  | .list => "[]interface \x7b\x7d"
  | .other n => n
  | .nullText => "sql.NullString"
  | .nullInt => "sql.NullInt64"
  | .ref t => "*" ++ name t
  | .record n ss => if n.isEmpty then declaration ss else n

/-- The declaration of a record without a name, field by field. -/
def declaration (ss : List Slot) : String :=
  match declarationFields ss with
  | [] => "struct \x7b\x7d"
  | fs => "struct \x7b " ++ "; ".intercalate fs ++ " \x7d"

/-- The declarations of fields: an embedded field by its shape alone, a tag quoted. -/
def declarationFields : List Slot → List String
  | [] => []
  | .mk n s t e :: rest =>
    ((if e then "" else n ++ " ") ++ name s ++
      (match t with
        | some tag => " " ++ Text.quote ("db:" ++ Text.quote tag)
        | none => "")) :: declarationFields rest

end

/-- The short name of a shape: the last part of a record's name, nothing for other shapes. -/
def shortName : Shape → String
  | .record n _ => (n.splitOn ".").getLastD ""
  | .nullText => "NullString"
  | .nullInt => "NullInt64"
  | _ => ""

end Shape
end QueryKit
