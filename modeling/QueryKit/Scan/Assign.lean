import QueryKit.Scan.Convert
import QueryKit.Config.Coerce

/-!
# Storing column values into typed places

Reading a row into a model stores each column value into a place of a known shape. A value of
the place's own kind is stored as it is; otherwise it goes through its text, the way the
database layer converts:

* a text place takes texts and bytes as text, and numbers and booleans in their spelling;
* a bytes place takes texts and bytes;
* a boolean place takes booleans, the texts `1`, `t`, `true`, ... and `0`, `f`, `false`, ...,
  and the integers 1 and 0;
* a place of any kind takes the value as it is;
* an integer or double place reads the value's text as a decimal of its width, and refuses
  nothing (`NULL`);
* a reference place is left missing for nothing, and otherwise refers to a new place that takes
  the value;
* the nullable kinds are missing for nothing, and otherwise take the value into their text or
  integer and count as present.
-/

namespace QueryKit.Scan

/-- **The text a value converts through**: texts and bytes as they are, numbers and booleans in
their spelling, anything else in its plain spelling. -/
def asText : Value → String
  | .text s => s
  | .bytes b => Text.decodeLenient b
  | .float x => Decimal.general x
  | v => v.plain

/-- Whether a value is an integer or a double of any width. -/
def isNumber : Value → Bool
  | .int _ | .uint _ | .word _ | .small _ _ | .float _ | .duration _ => true
  | _ => false

/-- The quoted text of a value: the octets of bytes as they are, even when they are no UTF-8. -/
def quotedSource (src : Value) : String :=
  match src with
  | .bytes b => Text.quoteBytes b
  | v => Text.quote (asText v)

/-- The message of a value that does not read as a number of a kind. -/
def conversionFault (src : Value) (kind : String) (why : String) : String :=
  "converting driver.Value type " ++ src.typeName ++ " (" ++ quotedSource src ++ ") to a " ++ kind ++ ": " ++ why

/-- A signed decimal within `bits` bits, or why not. -/
def decimalWithin (bits : Nat) (s : String) : Except String Int :=
  match parseInt64 s with
  | .error why => .error why
  | .ok n => if -(Int.pow 2 (bits - 1) : Int) ≤ n && n < Int.pow 2 (bits - 1) then .ok n else .error "value out of range"

/-- An unsigned decimal within `bits` bits, or why not. -/
def unsignedWithin (bits : Nat) (s : String) : Except String Int :=
  let cs := s.toList
  if cs.isEmpty || !cs.all Char.isDigit then .error "invalid syntax"
  else
    let n := Decimal.digitsValue cs
    if n < Nat.pow 2 bits then .ok n else .error "value out of range"

/-- **A boolean column value**: booleans, boolean texts, and the integers 1 and 0. -/
def asBool (src : Value) : Except String Bool :=
  let refuse := fun (shown : String) => Except.error ("sql/driver: couldn't convert " ++ shown ++ " into type bool")
  match src with
  | .bool b => .ok b
  | .text s => match Config.parseBool s with
    | .ok b => .ok b
    | .error _ => refuse (Text.quote s)
  | .bytes b => match Config.parseBool (Text.decodeLenient b) with
    | .ok b => .ok b
    | .error _ => refuse (Text.quoteBytes b)
  | .int n | .word n | .small _ n | .duration ⟨n⟩ =>
    if n == 1 || n == 0 then .ok (n == 1) else refuse (toString n)
  | .uint n => if n == 1 || n == 0 then .ok (n == 1) else refuse (toString n)
  | v => refuse (v.plain ++ " (" ++ v.typeName ++ ")")

/-- A text place. -/
def textPlace (src : Value) : Except String Value :=
  match src with
  | .text s => .ok (.text s)
  | .bytes b => .ok (.text (Text.decodeLenient b))
  | .time t zone => .ok (.text (t.format Instant.rfc3339NanoLayout zone))
  | .bool _ => .ok (.text (asText src))
  | .null => .error "converting NULL to string is unsupported"
  | v => if isNumber v then .ok (.text (asText v))
    else .error ("unsupported Scan, storing driver.Value type " ++ v.typeName ++ " into type *string")

/-- An integer place of a kind and width. -/
def integerPlace (kind : String) (bits : Nat) (make : Int → Value) (src : Value) : Except String Value :=
  match src with
  | .null => .error ("converting NULL to " ++ kind ++ " is unsupported")
  | v =>
    if v.typeName == kind then
      match v with
      | .int n | .word n | .small _ n => .ok (make n)
      | _ => .ok v
    else
      let s := asText v
      match decimalWithin bits s with
      | .ok n => .ok (make n)
      | .error why => .error (conversionFault v kind why)

/-- **Storing a column value** into a place of a shape: the value the place then holds. -/
def assign : Shape → Value → Except String Value
  | .any, src => .ok src
  | .text, src => textPlace src
  | .bytes, src =>
    match src with
    | .text s => .ok (.bytes s.toUTF8.toList)
    | .bytes b => .ok (.bytes b)
    | .null => .ok (.bytes [])
    | .time t zone => .ok (.bytes (t.format Instant.rfc3339NanoLayout zone).toUTF8.toList)
    | v => if isNumber v || v matches .bool _ then .ok (.bytes (asText v).toUTF8.toList)
      else .error ("unsupported Scan, storing driver.Value type " ++ v.typeName ++ " into type *[]uint8")
  | .bool, src => (asBool src).map .bool
  | .int64, src => integerPlace "int64" 64 .int src
  | .int, src => integerPlace "int" 64 .word src
  | .int32, src => integerPlace "int32" 32 (.small .int32) src
  | .uint8, src =>
    match src with
    | .small .uint8 n => .ok (.small .uint8 n)
    | .null => .error "converting NULL to uint8 is unsupported"
    | v =>
      let s := asText v
      match unsignedWithin 8 s with
      | .ok n => .ok (.small .uint8 n)
      | .error why => .error (conversionFault v "uint8" why)
  | .float64, src =>
    match src with
    | .float x => .ok (.float x)
    | .null => .error "converting NULL to float64 is unsupported"
    | v =>
      match Decimal.readFloat (asText v) with
      | .ok x => .ok (.float x)
      | .error why => .error (conversionFault v "float64" why.message)
  | .nullText, src =>
    match src with
    | .null => .ok (.record .nullText [.text "", .bool false])
    | v => (textPlace v).map (fun t => .record .nullText [t, .bool true])
  | .nullInt, src =>
    match src with
    | .null => .ok (.record .nullInt [.int 0, .bool false])
    | v => (integerPlace "int64" 64 .int v).map (fun n => .record .nullInt [n, .bool true])
  | .ref t, src =>
    match src with
    | .null => .ok (.pointer t none)
    | v => (assign t v).map (fun inner => .pointer t (some inner))
  | s, src =>
    if src.typeName == s.name then .ok src
    else .error ("unsupported Scan, storing driver.Value type " ++ src.typeName ++ " into type *" ++ s.name)

end QueryKit.Scan
