import QueryKit.Value.Render
import QueryKit.Decimal.Parse
import QueryKit.Text.Utf8

/-!
# Converting column values

What a connection hands back for a column is one of a few plain kinds; reading it into a typed
place converts it, through its text when the kinds differ, the way the database layer does.

* `parseInt64` reads a signed decimal that fits 64 bits;
* `cellText` is the text a value converts through;
* `toInt64` reads a value into a 64-bit integer, with the layer's message when it cannot;
* `normalize` turns byte strings into texts, as read rows hold them.
-/

namespace QueryKit.Scan

/-- **Signed decimals.** An optional sign and at least one digit, within 64 bits. -/
def parseInt64 (s : String) : Except String Int :=
  let (neg, ds) := match s.toList with
    | '+' :: ds => (false, ds)
    | '-' :: ds => (true, ds)
    | ds => (false, ds)
  if ds.isEmpty || !ds.all Char.isDigit then .error "invalid syntax"
  else
    let n : Int := Decimal.digitsValue ds
    let v := if neg then -n else n
    if v < -Int.pow 2 63 || v ≥ Int.pow 2 63 then .error "value out of range" else .ok v

/-- **Conversion text.** The text a value is converted through. -/
def cellText : Value → String
  | .text s => s
  | .bytes b => Text.decodeLenient b
  | v => v.plain

/-- **Reading a 64-bit integer.** Integers are taken as they are; anything else goes through its
text. -/
def toInt64 : Value → Except String Int
  | .int n => .ok n
  | .null => .error "converting NULL to int64 is unsupported"
  | v =>
    let s := cellText v
    match parseInt64 s with
    | .ok n => .ok n
    | .error e => .error ("converting driver.Value type " ++ v.typeName ++ " (" ++ Text.quote s ++
        ") to a int64: " ++ e)

/-- Byte strings become texts; other values stay. -/
def normalize : Value → Value
  | .bytes b => .text (Text.decodeLenient b)
  | v => v

end QueryKit.Scan
