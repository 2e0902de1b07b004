import QueryKit.Value.Basic
import QueryKit.Decimal.Parse
import QueryKit.Decimal.Shortest

/-!
# The types of plain scalars

A plain scalar is read as null, a boolean, an integer, a double, a timestamp or a text, by the
first rule that fits; quoted and block scalars are always texts.

* `null`, `Null`, `NULL`, `~` and the empty text are null; `true` and `false` in the same three
  spellings are booleans; `.nan`, `.inf`, `+.inf` and `-.inf` in the same three spellings are
  doubles;
* a text that starts with a digit or a sign is a timestamp (`2001-12-14`,
  `2001-12-14T21:59:43.10-05:00`, `2001-12-14 21:59:43`) if it reads as one; otherwise,
  underscores dropped, it is an integer with an optional base prefix (`0x`, `0o`, `0b`, or a
  leading `0` for octal) that fits 64 signed bits, a machine word, or failing that 64 unsigned
  bits; otherwise a decimal double that does not overflow;
* a text that starts with a point is a double if it is a decimal;
* everything else is a text.
-/

namespace QueryKit.Yaml

/-- **Tags**: the types a scalar resolves to. -/
inductive Tag where
  | null
  | bool
  | int
  | float
  | timestamp
  | str
  | merge
  deriving Repr, BEq, Inhabited

/-- The short name of a tag. -/
def Tag.name : Tag → String
  | .null => "!!null"
  | .bool => "!!bool"
  | .int => "!!int"
  | .float => "!!float"
  | .timestamp => "!!timestamp"
  | .str => "!!str"
  | .merge => "!!merge"

/-- The value of a digit in bases up to 36. -/
def digitValue (c : Char) : Option Nat :=
  if c.isDigit then some (c.toNat - 48)
  else if 'a' ≤ c && c ≤ 'z' then some (c.toNat - 87)
  else if 'A' ≤ c && c ≤ 'Z' then some (c.toNat - 55)
  else none

/-- The value of digits in a base, if all are digits of it. -/
def digitsIn (base : Nat) (cs : List Char) : Option Nat :=
  cs.foldl (fun acc c => acc.bind fun n => (digitValue c).bind fun d =>
    if d < base then some (n * base + d) else none) (some 0)

/-- **Unsigned literals**: decimal digits, or a base prefix (`0b`, `0o`, `0x`, in either case,
with at least one digit after it, or a bare leading `0` for octal) and digits of that base, up to
`2^64 - 1`. -/
def unsignedLiteral (cs : List Char) : Option Nat :=
  if cs.isEmpty then none
  else
    let (base, ds) : Nat × List Char := match cs with
      | '0' :: b :: d :: rest =>
        let l := b.toLower
        if l == 'b' then (2, d :: rest) else if l == 'o' then (8, d :: rest)
        else if l == 'x' then (16, d :: rest) else (8, b :: d :: rest)
      | '0' :: rest => (8, rest)
      | _ => (10, cs)
    (digitsIn base ds).bind fun n => if n < Nat.pow 2 64 then some n else none

/-- **Signed literals**: an optional sign and an unsigned literal, within 64 signed bits. -/
def signedLiteral : List Char → Option Int
  | '-' :: cs => (unsignedLiteral cs).bind fun n => if n ≤ Nat.pow 2 63 then some (-(n : Int)) else none
  | '+' :: cs => (unsignedLiteral cs).bind fun n => if n < Nat.pow 2 63 then some (n : Int) else none
  | cs => (unsignedLiteral cs).bind fun n => if n < Nat.pow 2 63 then some (n : Int) else none

/-- **Decimal doubles**: an optional sign, digits with an optional point and fraction or a point
and digits, and an optional exponent. -/
def isDecimal (cs : List Char) : Bool :=
  let unsigned := match cs with
    | '+' :: r | '-' :: r => r
    | r => r
  let (ok, rest) : Bool × List Char := match unsigned with
    | '.' :: r =>
      let ds := r.takeWhile Char.isDigit
      (!ds.isEmpty, r.drop ds.length)
    | _ =>
      let ds := unsigned.takeWhile Char.isDigit
      if ds.isEmpty then (false, unsigned)
      else
        match unsigned.drop ds.length with
        | '.' :: r => (true, r.dropWhile Char.isDigit)
        | r => (true, r)
  ok && (match rest with
    | [] => true
    | e :: r =>
      let ds := match r with
        | '+' :: x | '-' :: x => x
        | x => x
      (e == 'e' || e == 'E') && !ds.isEmpty && ds.all Char.isDigit)

/-- The double of a decimal, unless it overflows. -/
def finiteDouble (cs : List Char) : Option Float :=
  (Decimal.parseFloat (String.ofList cs)).bind fun x => if x.isInf then none else some x

/-- Reads one digit, or two. -/
def oneOrTwoDigits : List Char → Option (Nat × List Char)
  | a :: b :: rest =>
    if !a.isDigit then none
    else if b.isDigit then some ((a.toNat - 48) * 10 + (b.toNat - 48), b :: rest |>.drop 1)
    else some (a.toNat - 48, b :: rest)
  | [a] => if a.isDigit then some (a.toNat - 48, []) else none
  | [] => none

/-- Reads the character `c`. -/
def expectChar (c : Char) : List Char → Option (List Char)
  | d :: rest => if c == d then some rest else none
  | [] => none

/-- Reads a clock `h:m:s` (each of one or two digits) and an optional fraction of a second: the
second of the day, the nanoseconds, and what follows. -/
def clockOf (cs : List Char) : Option (Nat × Nat × List Char) := do
  let (h, cs) ← oneOrTwoDigits cs
  let cs ← expectChar ':' cs
  let (m, cs) ← oneOrTwoDigits cs
  let cs ← expectChar ':' cs
  let (s, cs) ← oneOrTwoDigits cs
  if h ≥ 24 || m ≥ 60 || s ≥ 60 then none
  else
    let (nanos, cs) : Nat × List Char := match cs with
      | sep :: d :: rest =>
        if (sep == '.' || sep == ',') && d.isDigit then
          let ds := (d :: rest).takeWhile Char.isDigit
          let nine := (ds.take 9) ++ List.replicate (9 - (ds.take 9).length) '0'
          (Decimal.digitsValue nine, (d :: rest).drop ds.length)
        else (0, cs)
      | _ => (0, cs)
    some (h * 3600 + m * 60 + s, nanos, cs)

/-- Reads a zone: `Z`, or a sign and `hh:mm`. -/
def zoneOf : List Char → Option (Zone × List Char)
  | 'Z' :: rest => some (.utc, rest)
  | sign :: h1 :: h2 :: ':' :: m1 :: m2 :: rest =>
    if !(sign == '+' || sign == '-') || !([h1, h2, m1, m2].all Char.isDigit) then none
    else
      let hours := Decimal.digitsValue [h1, h2]
      let minutes := Decimal.digitsValue [m1, m2]
      if hours > 24 || minutes > 60 then none
      else
        let offset : Int := (hours * 3600 + minutes * 60 : Nat)
        let offset := if sign == '-' then -offset else offset
        some (if offset == 0 then .local else .fixed offset, rest)
  | _ => none

/-- **Timestamps**: a date `yyyy-m-d`, alone, or with a clock after blanks, or with a clock and
a zone after `T` or `t`. A zone-less time is in UTC; a zero offset reads in the machine's zone. -/
def timestamp? (cs : List Char) : Option (Instant × Zone) := do
  let yearDigits := cs.take 4
  if yearDigits.length != 4 || !yearDigits.all Char.isDigit then none
  let cs ← expectChar '-' (cs.drop 4)
  let (month, cs) ← oneOrTwoDigits cs
  let cs ← expectChar '-' cs
  let (day, cs) ← oneOrTwoDigits cs
  let year : Int := Decimal.digitsValue yearDigits
  if month < 1 || month > 12 then none
  let (clock, nanos, zone) ← match cs with
    | [] => some (0, 0, Zone.utc)
    | ' ' :: rest => do
      let (clock, nanos, rest) ← clockOf (rest.dropWhile (· == ' '))
      if rest.isEmpty then some (clock, nanos, Zone.utc) else none
    | t :: rest =>
      if t == 'T' || t == 't' then do
        let (clock, nanos, rest) ← clockOf rest
        let (zone, rest) ← zoneOf rest
        if rest.isEmpty then some (clock, nanos, zone) else none
      else none
  if day < 1 || day > daysInMonth month year then none
  let seconds := daysOfCivil ⟨year, month, day⟩ * 86400 + clock - zone.offset
  some (⟨seconds, nanos⟩, zone)

/-- **Resolving a scalar**: its tag and its value, timestamps tried only when `stamps` says so.
Integers are machine words, or unsigned when they pass the signed range. -/
def resolveWith (stamps : Bool) (text : String) : Tag × Value :=
  let cs := text.toList
  if ["", "~", "null", "Null", "NULL"].contains text then (.null, .null)
  else if ["true", "True", "TRUE"].contains text then (.bool, .bool true)
  else if ["false", "False", "FALSE"].contains text then (.bool, .bool false)
  else if [".nan", ".NaN", ".NAN"].contains text then (.float, .float (0.0 / 0.0))
  else if [".inf", ".Inf", ".INF", "+.inf", "+.Inf", "+.INF"].contains text then (.float, .float (1.0 / 0.0))
  else if ["-.inf", "-.Inf", "-.INF"].contains text then (.float, .float (-1.0 / 0.0))
  else if text == "<<" then (.merge, .text text)
  else
    match cs with
    | '.' :: _ =>
      match (if isDecimal cs then finiteDouble cs else none) with
      | some x => (.float, .float x)
      | none => (.str, .text text)
    | c :: _ =>
      if c.isDigit || c == '+' || c == '-' then
        match (if stamps then timestamp? cs else none) with
        | some (t, zone) => (.timestamp, .time t zone)
        | none =>
          let plain := cs.filter (· != '_')
          match signedLiteral plain with
          | some n => (.int, .word n)
          | none =>
            match unsignedLiteral plain with
            | some n => (.int, .uint n)
            | none =>
              match (if isDecimal plain then finiteDouble plain else none) with
              | some x => (.float, .float x)
              | none => (.str, .text text)
      else (.str, .text text)
    | [] => (.null, .null)

/-- **Resolving a plain scalar** without a tag: its tag and its value. -/
def resolve (text : String) : Tag × Value := resolveWith true text

/-- Whether a tag is one whose scalars resolve, and must resolve to it. -/
def checkedTag (tag : String) : Bool :=
  ["!!str", "!!bool", "!!int", "!!float", "!!timestamp", "!!null"].contains tag

/-- **Resolving a tagged scalar**: the tag it resolves to and its value. A scalar whose tag is
not one of the standard scalar tags is its text under that tag; `!!str` is the text; under
another standard tag the text resolves as a plain scalar, timestamps only under `!!timestamp`,
and must come out with that tag, an integer also reading as a double. Anything else is the
complaint that the text cannot be read under the tag. -/
def resolveTagged (tag text : String) : Except String (String × Value) :=
  if !checkedTag tag then .ok (tag, .text text)
  else if tag == "!!str" then .ok (tag, .text text)
  else
    let (t, v) := resolveWith (tag == "!!timestamp") text
    if t.name == tag then .ok (tag, v)
    else
      match tag, v with
      | "!!float", .word n => .ok (tag, .float (Float.ofInt n))
      | _, _ => .error ("yaml: cannot decode " ++ t.name ++ " \x60" ++ text ++ "\x60 as a " ++ tag)

/-- The value of a base64 character. -/
def base64Value (c : Char) : Option Nat :=
  if 'A' ≤ c && c ≤ 'Z' then some (c.toNat - 65)
  else if 'a' ≤ c && c ≤ 'z' then some (c.toNat - 71)
  else if c.isDigit then some (c.toNat + 4)
  else if c == '+' then some 62
  else if c == '/' then some 63
  else none

/-- **The octets of base64 text** in groups of four characters, the last group padded with `=`;
nothing when the text is not such. -/
def base64Octets : List Char → Option (List UInt8)
  | [] => some []
  | [a, b, '=', '='] => do
    let n := (← base64Value a) * 64 + (← base64Value b)
    some [(n / 16).toUInt8]
  | [a, b, c, '='] => do
    let n := ((← base64Value a) * 64 + (← base64Value b)) * 64 + (← base64Value c)
    some [(n / 1024).toUInt8, (n / 4 % 256).toUInt8]
  | a :: b :: c :: d :: rest => do
    let n := (((← base64Value a) * 64 + (← base64Value b)) * 64 + (← base64Value c)) * 64 +
      (← base64Value d)
    let more ← base64Octets rest
    some ((n / 65536).toUInt8 :: (n / 256 % 256).toUInt8 :: (n % 256).toUInt8 :: more)
  | _ => none

/-- **The data of a `!!binary` scalar**: its text read as base64, line breaks skipped. -/
def binaryData (text : String) : Option (List UInt8) :=
  base64Octets (text.toList.filter (fun c => c != '\n' && c != '\r'))

/-- **A double as a machine word**, truncated toward zero; a value outside the signed range, an
infinity or NaN gives the least word. -/
def truncateWord (x : Float) : Int :=
  match Decimal.Binary.ofFloat x with
  | .finite negative m e _ =>
    let mag : Nat := if 0 ≤ e then m * Nat.pow 2 e.toNat else m / Nat.pow 2 (-e).toNat
    let v : Int := if negative then -(mag : Int) else mag
    if v < -(Int.pow 2 63) || v ≥ Int.pow 2 63 then -(Int.pow 2 63) else v
  | _ => -(Int.pow 2 63)

end QueryKit.Yaml
