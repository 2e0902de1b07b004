import QueryKit.Value.Render
import QueryKit.Json.Basic
import QueryKit.Time.Civil

/-!
# Values as JSON documents

How a value is written into a JSON document: numbers as numbers, byte strings in base64, maps as
objects with sorted keys, durations as their nanoseconds, and fragments and error values (which
have no public parts) as empty objects. A double that is not a number or is infinite has no JSON
spelling, and writing it fails.

* `base64` is the padded standard encoding;
* `Value.marshal` writes a value, or names the double it cannot write.
-/

namespace QueryKit

/-- The base64 alphabet. -/
def base64Alphabet : List Char :=
  "ABCDEFGHIJKLMNOPQRSTUVWXYZabcdefghijklmnopqrstuvwxyz0123456789+/".toList

/-- The base64 character of a six-bit number. -/
def base64Char (n : Nat) : Char := base64Alphabet.getD n '='

/-- Encodes bytes in groups of three. -/
def base64Chars : List UInt8 → List Char
  | [] => []
  | [a] =>
    let n := a.toNat * 65536
    [base64Char (n / 262144), base64Char (n / 4096 % 64), '=', '=']
  | [a, b] =>
    let n := a.toNat * 65536 + b.toNat * 256
    [base64Char (n / 262144), base64Char (n / 4096 % 64), base64Char (n / 64 % 64), '=']
  | a :: b :: c :: rest =>
    let n := a.toNat * 65536 + b.toNat * 256 + c.toNat
    [base64Char (n / 262144), base64Char (n / 4096 % 64), base64Char (n / 64 % 64),
      base64Char (n % 64)] ++ base64Chars rest

/-- **Base64**, padded, standard alphabet. -/
def base64 (bytes : List UInt8) : String := String.ofList (base64Chars bytes)

namespace Value

/-- The JSON number of a double, or the message of the double JSON cannot hold. -/
def floatJson (x : Float) : Except String Json :=
  match Decimal.json x with
  | some s => .ok (.num s)
  | none => .error ("json: unsupported value: " ++ Decimal.general x)

mutual

/-- **Writing a value as JSON.** -/
def marshal : Value → Except String Json
  | .null => .ok .null
  | .bool b => .ok (.bool b)
  | .int n => .ok (Json.int n)
  | .uint n => .ok (.num (toString n))
  | .word n => .ok (Json.int n)
  | .float x => floatJson x
  | .text s => .ok (.str s)
  | .bytes b => .ok (.str (base64 b))
  | .raw _ => .ok (.obj [])
  | .rawRef none => .ok .null
  | .rawRef (some _) => .ok (.obj [])
  | .list items => (marshalItems items).map .arr
  | .words items => .ok (.arr (items.map Json.int))
  | .texts items => .ok (.arr (items.map .str))
  | .map members => (marshalMembers members).map (fun ms => .obj (sortByKey ms))
  | .duration d => .ok (Json.int d.nanos)
  | .failure _ => .ok (.obj [])
  | .time t zone => .ok (.str (t.format Instant.rfc3339NanoLayout zone))
  | .small _ n => .ok (Json.int n)
  | .pointer _ none => .ok .null
  | .pointer _ (some v) => marshal v
  | .record s fields => (marshalFields s.slots fields).map .obj
  | .floating f => .ok (.str f.text)

/-- Writes values in order. -/
def marshalItems : List Value → Except String (List Json)
  | [] => .ok []
  | v :: rest => do
    let j ← marshal v
    let more ← marshalItems rest
    return j :: more

/-- Writes members, a later member of the same key replacing an earlier one. -/
def marshalMembers : List (String × Value) → Except String (List (String × Json))
  | [] => .ok []
  | (k, v) :: rest => do
    let j ← marshal v
    let more ← marshalMembers rest
    return if more.any (fun p => p.1 == k) then more else (k, j) :: more

/-- Writes the exported fields of a record, in order. -/
def marshalFields : List Slot → List Value → Except String (List (String × Json))
  | k :: slots, v :: rest => do
    let more ← marshalFields slots rest
    if k.exported then return (k.name, ← marshal v) :: more else return more
  | _, _ => .ok []

end

end Value
end QueryKit
