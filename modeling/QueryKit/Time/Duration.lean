import QueryKit.Text.Quoted

/-!
# Durations

A duration is a signed count of nanoseconds that fits in 64 bits. This module writes one as
text (`1h30m0s`, `1.5s`, `250ms`, `0s`) and reads one back from text (`1h30m`, `-2m`, `1.5s`,
`300000000000ns`).

* `Duration.render`: below one second the largest of `ns`, `µs`, `ms` that keeps an integer
  part, with the fraction's trailing zeros dropped; from one second on hours, minutes and
  seconds, the leading zero parts left out;
* `Duration.parse`: an optional sign, then one or more numbers, each with an optional fraction
  and a unit among `ns us µs μs ms s m h`; a lone `0` is zero. The errors name the text.
-/

namespace QueryKit

/-- **Durations**, in nanoseconds. -/
structure Duration where
  /-- Nanoseconds; between `-2^63` and `2^63 - 1`. -/
  nanos : Int
  deriving Repr, BEq, DecidableEq

namespace Duration

/-- The decimal digits of a natural number. -/
private def digitsOf (n : Nat) : String := String.ofList (Nat.toDigits 10 n)

/-- The fraction `v mod 10^places` as `.ddd` without trailing zeros (nothing when it is zero), and
the integer part. -/
def splitFraction (v : Nat) (places : Nat) : String × Nat :=
  let unit := Nat.pow 10 places
  let frac := v % unit
  if frac == 0 then ("", v / unit)
  else
    let ds := (Nat.toDigits 10 frac)
    let padded := List.replicate (places - ds.length) '0' ++ ds
    let trimmed := (padded.reverse.dropWhile (· == '0')).reverse
    ("." ++ String.ofList trimmed, v / unit)

/-- The text of a non-negative count of nanoseconds. -/
def renderMagnitude (u : Nat) : String :=
  if u == 0 then "0s"
  else if u < 1000 then digitsOf u ++ "ns"
  else if u < 1000000 then
    let (f, i) := splitFraction u 3
    digitsOf i ++ f ++ "µs"
  else if u < 1000000000 then
    let (f, i) := splitFraction u 6
    digitsOf i ++ f ++ "ms"
  else
    let (f, secs) := splitFraction u 9
    let minutes := secs / 60
    let hours := minutes / 60
    if minutes == 0 then digitsOf secs ++ f ++ "s"
    else if hours == 0 then digitsOf minutes ++ "m" ++ digitsOf (secs % 60) ++ f ++ "s"
    else digitsOf hours ++ "h" ++ digitsOf (minutes % 60) ++ "m" ++ digitsOf (secs % 60) ++ f ++ "s"

/-- **Duration text.** -/
def render (d : Duration) : String :=
  if d.nanos < 0 then "-" ++ renderMagnitude d.nanos.natAbs else renderMagnitude d.nanos.toNat

/-- A duration text inside an error message: between double quotes, with `"` and `\`
escaped and every byte of a non-ASCII or control character written `\xNN`. -/
def quoteInMessage (s : String) : String :=
  let escape (c : Char) : List Char :=
    if c.toNat < 0x20 || c.toNat ≥ 0x80 then
      (String.singleton c).toUTF8.toList.flatMap
        (fun b => ['\\', 'x', Text.hexDigit (b.toNat / 16), Text.hexDigit (b.toNat % 16)])
    else if c == '"' || c == '\\' then ['\\', c]
    else [c]
  String.ofList ('"' :: (s.toList.flatMap escape ++ ['"']))

/-- The nanoseconds of a unit name. -/
def unitNanos : String → Option Nat
  | "ns" => some 1
  | "us" => some 1000
  | "µs" => some 1000
  | "μs" => some 1000
  | "ms" => some 1000000
  | "s" => some 1000000000
  | "m" => some 60000000000
  | "h" => some 3600000000000
  | _ => none

/-- Reads leading digits; `none` when the number passes `2^63`. -/
def leadingInt : List Char → Nat → Option (Nat × List Char)
  | c :: rest, acc =>
    if c.isDigit then
      if acc > Nat.pow 2 63 / 10 then none
      else
        let next := acc * 10 + (c.toNat - 48)
        if next > Nat.pow 2 63 then none else leadingInt rest next
    else some (acc, c :: rest)
  | [], acc => some (acc, [])

/-- Reads the digits of a fraction: their value as far as it stays below `2^63`, the power of ten
of that value, and the rest. -/
def leadingFraction : List Char → Nat → Float → Bool → Nat × Float × List Char
  | c :: rest, x, scale, overflow =>
    if c.isDigit then
      if overflow then leadingFraction rest x scale true
      else if x > (Nat.pow 2 63 - 1) / 10 then leadingFraction rest x scale true
      else
        let y := x * 10 + (c.toNat - 48)
        if y > Nat.pow 2 63 then leadingFraction rest x scale true
        else leadingFraction rest y (scale * 10) false
    else (x, scale, c :: rest)
  | [], x, scale, _ => (x, scale, [])

/-- The error messages of reading. -/
inductive ParseError where
  /-- The text is no duration. -/
  | invalid (text : String)
  /-- A number has no unit. -/
  | missingUnit (text : String)
  /-- A unit is not known. -/
  | unknownUnit (unit text : String)
  deriving Repr, BEq

/-- The message of a reading error. -/
def ParseError.message : ParseError → String
  | .invalid s => "time: invalid duration " ++ quoteInMessage s
  | .missingUnit s => "time: missing unit in duration " ++ quoteInMessage s
  | .unknownUnit u s => "time: unknown unit " ++ quoteInMessage u ++ " in duration " ++ quoteInMessage s

/-- Reads the numbers-with-units of a duration, adding them to `total`. Each round eats at
least one character, so `fuel` at the length of the text suffices. -/
def parseParts (orig : String) : Nat → List Char → Nat → Except ParseError Nat
  | _, [], total => .ok total
  | 0, _ :: _, _ => .error (.invalid orig)
  | fuel + 1, c :: rest, total =>
    let s := c :: rest
    if !(c == '.' || c.isDigit) then .error (.invalid orig) else
    match leadingInt s 0 with
    | none => .error (.invalid orig)
    | some (v, afterInt) =>
      let pre := afterInt.length != s.length
      let (f, scale, afterFrac, post) :=
        match afterInt with
        | '.' :: more =>
          let (f, scale, r) := leadingFraction more 0 1 false
          (f, scale, r, r.length != more.length)
        | _ => (0, 1, afterInt, false)
      if !pre && !post then .error (.invalid orig) else
      let unitChars := afterFrac.takeWhile (fun c => !(c == '.' || c.isDigit))
      let after := afterFrac.dropWhile (fun c => !(c == '.' || c.isDigit))
      if unitChars.isEmpty then .error (.missingUnit orig) else
      let u := String.ofList unitChars
      match unitNanos u with
      | none => .error (.unknownUnit u orig)
      | some unit =>
        if v > Nat.pow 2 63 / unit then .error (.invalid orig) else
        let v := v * unit
        let v := if f > 0 then v + (Float.ofNat f * (Float.ofNat unit / scale)).toUInt64.toNat else v
        if v > Nat.pow 2 63 then .error (.invalid orig) else
        let total := total + v
        if total > Nat.pow 2 63 then .error (.invalid orig) else
        parseParts orig fuel after total

/-- **Reading a duration.** -/
def parse (text : String) : Except ParseError Duration :=
  let (negative, body) := match text.toList with
    | '-' :: rest => (true, rest)
    | '+' :: rest => (false, rest)
    | cs => (false, cs)
  if body == ['0'] then .ok ⟨0⟩
  else if body.isEmpty then .error (.invalid text)
  else match parseParts text body.length body 0 with
    | .error e => .error e
    | .ok total =>
      if negative then .ok ⟨-(total : Int)⟩
      else if total > Nat.pow 2 63 - 1 then .error (.invalid text)
      else .ok ⟨total⟩

end Duration
end QueryKit
