import QueryKit.Json.Basic
import QueryKit.Value.Render
import QueryKit.Decimal.Parse

/-!
# Values in tagged JSON

A JSON notation for values in which every kind of value stays apart from the others, so that a
value read back is the value written.

* `null`, booleans and texts are themselves, and an array is a list of any values;
* an integer literal is a 64-bit integer when it fits, an unsigned one up to `2^64 - 1`, and a
  double otherwise, as is any other number;
* every other kind is an object of one member named for the kind: `raw` and `rawptr` for
  written-out SQL and a reference to it, `bytes` in hex, `float` for a double by its text,
  `int` for a machine-word integer, `ints` and `strings` for lists of those, `map` for a map,
  `duration` in nanoseconds, `error` for a fault by its message, `time` for an instant;
* a reference or a record is written with its kind's name (`go`) and its contents (`value`);
  inside, a record is an object of its exported fields and a reference `ptr` of its target, or
  `null` when missing.
-/

namespace QueryKit

namespace Tagged

/-- The value of a hex digit, zero for any other character. -/
def hexValue (c : Char) : Nat :=
  if c.isDigit then c.toNat - 48 else if 'a' ≤ c ∧ c ≤ 'f' then c.toNat - 87
  else if 'A' ≤ c ∧ c ≤ 'F' then c.toNat - 55 else 0

/-- **Bytes from hex**, two digits a byte. -/
def unhex : List Char → List UInt8
  | a :: b :: rest => (hexValue a * 16 + hexValue b).toUInt8 :: unhex rest
  | _ => []

/-- A byte in two hex digits. -/
def hexByte (b : UInt8) : String :=
  String.ofList [Text.hexDigit (b.toNat / 16), Text.hexDigit (b.toNat % 16)]

/-- An integer from a number: an integer literal as it is, any other number truncated. -/
def integerOf (j : Json) : Int :=
  match j with
  | .num s =>
    match s.toInt? with
    | some n => n
    | none =>
      match Decimal.parseFloat s with
      | some f => if f < 0 then -((-f).toUInt64.toNat : Int) else (f.toUInt64.toNat : Int)
      | none => 0
  | _ => 0

/-- The texts of an array, anything but a text read as empty. -/
def textsOf (j : Json) : List String :=
  match j with
  | .arr xs => xs.map (fun x => match x with | .str s => s | _ => "")
  | _ => []

/-- A number literal as a value: a 64-bit integer, an unsigned one, or a double. -/
def number (s : String) : Value :=
  if Decimal.isIntegerLiteral s then
    let n := (s.toInt?).getD 0
    if -Int.pow 2 63 ≤ n ∧ n < Int.pow 2 63 then .int n
    else if 0 ≤ n ∧ n < Int.pow 2 64 then .uint n.toNat
    else .float ((Decimal.parseFloat s).getD 0)
  else .float ((Decimal.parseFloat s).getD 0)

end Tagged

namespace Value

open Tagged

mutual

/-- **Reading a value** from tagged JSON; what is no value reads as none. -/
def ofTagged : Json → Value
  | .null => .null
  | .bool b => .bool b
  | .str s => .text s
  | .num s => number s
  | .arr xs => .list (ofTaggedList xs)
  | .obj [("raw", .str s)] => .raw s
  | .obj [("rawptr", .str s)] => .rawRef (some s)
  | .obj [("rawptr", _)] => .rawRef none
  | .obj [("bytes", .str s)] => .bytes (unhex s.toList)
  | .obj [("float", .str s)] => .float ((Decimal.parseFloat s).getD 0)
  | .obj [("int", n)] => .word (integerOf n)
  | .obj [("ints", .arr xs)] => .words (xs.map integerOf)
  | .obj [("strings", x)] => .texts (textsOf x)
  | .obj [("map", .obj ms)] => .map (ofTaggedMembers ms)
  | .obj [("duration", n)] => .duration ⟨integerOf n⟩
  | .obj [("error", .str s)] => .failure s
  | _ => .null

/-- Values of array items. -/
def ofTaggedList : List Json → List Value
  | [] => []
  | j :: rest => ofTagged j :: ofTaggedList rest

/-- Values of object members. -/
def ofTaggedMembers : List (String × Json) → List (String × Value)
  | [] => []
  | (k, j) :: rest => (k, ofTagged j) :: ofTaggedMembers rest

end

/-- The fields of a zoneless date. -/
def dateTagged (d : FloatingDate) : Json :=
  .obj [("Year", Json.int d.year), ("Month", Json.int d.month), ("Day", Json.int d.day)]

/-- The fields of a zoneless time of day. -/
def clockTagged (t : FloatingClock) : Json :=
  .obj [("Hour", Json.int t.hour), ("Minute", Json.int t.minute), ("Second", Json.int t.second),
    ("Nanosecond", Json.int t.nanos), ("Precision", Json.int t.precision)]

/-- **A zoneless date or time** in tagged JSON, as the record it is made of. -/
def floatingTagged (f : Floating) : Json :=
  .obj [("go", .str f.kind), ("value", match f with
    | .date d => dateTagged d
    | .clock t => clockTagged t
    | .dateClock d t => .obj [("LocalDate", dateTagged d), ("LocalTime", clockTagged t)])]

mutual

/-- **Writing a value** in tagged JSON. -/
def toTagged : Value → Json
  | .null => .null
  | .bool b => .bool b
  | .int n | .word n | .small _ n => Json.int n
  | .uint n => .num (toString n)
  | .float x => .obj [("float", .str (Decimal.general x))]
  | .text s => .str s
  | .bytes b => .obj [("bytes", .str (String.join (b.map hexByte)))]
  | .raw s => .obj [("raw", .str s)]
  | .rawRef r => .obj [("rawptr", match r with | some s => .str s | none => .null)]
  | .list xs => .arr (toTaggedList xs)
  | .words xs => .obj [("ints", .arr (xs.map Json.int))]
  | .texts xs => .obj [("strings", .arr (xs.map Json.str))]
  | .map ms => .obj [("map", .obj (mapMembers (toTaggedMembers ms)))]
  | .duration d => .obj [("duration", Json.int d.nanos)]
  | .failure m => .obj [("error", .str m)]
  | .time t _ => .obj [("time", .str t.rfc3339Nano)]
  | .pointer s v => .obj [("go", .str ("*" ++ s.name)), ("value", innerPointer v)]
  | .record s fs => .obj [("go", .str s.name), ("value", .obj (innerFields s.slots fs))]
  | .floating f => floatingTagged f

/-- The contents of a reference: its target, or `null` when missing. -/
def innerPointer : Option Value → Json
  | none => .null
  | some v => .obj [("ptr", toTaggedInner v)]

/-- **The contents of a value** inside a record or a reference. -/
def toTaggedInner : Value → Json
  | .pointer _ v => innerPointer v
  | .record s fs => .obj (innerFields s.slots fs)
  | v => toTagged v

/-- The exported fields of a record with their contents. -/
def innerFields : List Slot → List Value → List (String × Json)
  | slot :: slots, v :: vs =>
    if slot.exported then (slot.name, toTaggedInner v) :: innerFields slots vs else innerFields slots vs
  | _, _ => []

/-- Tagged array items. -/
def toTaggedList : List Value → List Json
  | [] => []
  | v :: rest => toTagged v :: toTaggedList rest

/-- Tagged object members. -/
def toTaggedMembers : List (String × Value) → List (String × Json)
  | [] => []
  | (k, v) :: rest => (k, toTagged v) :: toTaggedMembers rest

end

end Value
end QueryKit
