import QueryKit.Text.Case

/-!
# Reading doubles

Reads a double from text the way the standard number syntax has it:

* an optional sign, decimal digits with an optional fraction and an optional exponent `e±N`;
* or `0x` and hex digits with an optional fraction and a binary exponent `p±N`, which is then
  required;
* underscores may stand between digits, and between the `0x` and a digit;
* the words `inf` and `infinity`, in any case and with an optional sign, and `nan` with no sign.

The value is the double nearest to the number, ties to even. A number too large for a double is
refused as out of range, and one too small for the least double is zero.

* `nearestBinary` and `nearestDecimal` round `m · 2^e` and `m · 10^e` to the nearest double;
* `readFloat` reads a double or says why it cannot: no number at all, or out of range;
* `parseFloat` gives the double when there is one;
* `isIntegerLiteral` tells a plain integer (`-12`) from a number with a point or an exponent.
-/

namespace QueryKit.Decimal

/-- The value of a run of decimal digits. -/
def digitsValue (ds : List Char) : Nat := ds.foldl (fun n c => n * 10 + (c.toNat - 48)) 0

/-- **Why a text is no double**: it is no number, or the number is too large. -/
inductive FloatFault where
  | malformed
  | range
  deriving Repr, BEq, DecidableEq, Inhabited

/-- The message of a fault. -/
def FloatFault.message : FloatFault → String
  | .malformed => "invalid syntax"
  | .range => "value out of range"

/-- **The double nearest to `m · 2^e`**, ties to even; nothing when it is too large for a double.
A double has 53 significant bits, fewer below `2^-1022`, and the least one is `2^-1074`. -/
def nearestBinary (m : Nat) (e : Int) : Option Float :=
  let top : Int := (Nat.log2 m : Int) + e
  if m == 0 || top < -1076 then some 0
  else if top > 1023 then none
  else
    let keep : Int := if top ≥ -1022 then 53 else 53 - (-1022 - top)
    let drop : Int := (Nat.log2 m + 1 : Int) - keep
    let (q, e') :=
      if drop ≤ 0 then (m, e)
      else
        let d := drop.toNat
        let q := m / Nat.pow 2 d
        let r := m % Nat.pow 2 d
        let half := Nat.pow 2 (d - 1)
        ((if r > half || (r == half && q % 2 == 1) then q + 1 else q), e + drop)
    if q == 0 then some 0
    else if (Nat.log2 q : Int) + e' > 1023 then none
    else some (Float.scaleB q.toUInt64.toFloat e')

/-- **The double nearest to `m · 10^e`**, ties to even; nothing when it is too large for a double.
A quotient is rounded through its integer part with one more bit that tells whether anything was
left over. -/
def nearestDecimal (m : Nat) (e : Int) : Option Float :=
  if m == 0 then some 0
  else
    let digits : Int := (toString m).length
    if digits + e > 310 then none
    else if digits + e < -330 then some 0
    else if e ≥ 0 then nearestBinary (m * Nat.pow 10 e.toNat) 0
    else
      let k := (-e).toNat
      let den := Nat.pow 10 k
      let s := 4 * k + 64
      let scaled := m * Nat.pow 2 s
      let q := scaled / den
      let sticky := if scaled % den == 0 then 0 else 1
      nearestBinary (2 * q + sticky) (-(s : Int) - 1)

/-- ASCII lower case of a character. -/
def lowerAscii (c : Char) : Char :=
  if 'A' ≤ c && c ≤ 'Z' then Char.ofNat (c.toNat + 32) else c

/-- The value of a hex digit, if it is one. -/
def hexValue (c : Char) : Option Nat :=
  if c.isDigit then some (c.toNat - 48)
  else
    let l := lowerAscii c
    if 'a' ≤ l && l ≤ 'f' then some (l.toNat - 87) else none

/-- **The special words**: `inf` and `infinity` with an optional sign, `nan` without one. -/
def special (cs : List Char) : Option Float :=
  let (negative, signed, body) := match cs with
    | '-' :: r => (true, true, r)
    | '+' :: r => (false, true, r)
    | r => (false, false, r)
  let word := String.ofList (body.map lowerAscii)
  if word == "inf" || word == "infinity" then some (if negative then -(1.0 / 0.0) else 1.0 / 0.0)
  else if !signed && word == "nan" then some (0.0 / 0.0)
  else none

/-- Where underscores stand, as `underscoresFit` walks a number: at its start, after a digit or
a base prefix, after an underscore, or after anything else. -/
inductive Seen where
  | start
  | digit
  | underscore
  | other
  deriving BEq

/-- Whether the underscores of the rest of a number stand only between digits. -/
def underscoresFit (hex : Bool) : Seen → List Char → Bool
  | seen, [] => seen != .underscore
  | seen, c :: rest =>
    if c.isDigit || (hex && (hexValue c).isSome) then underscoresFit hex .digit rest
    else if c == '_' then seen == .digit && underscoresFit hex .underscore rest
    else seen != .underscore && underscoresFit hex .other rest

/-- **Whether the underscores of a number fit**: each between two digits, or between a base prefix
and a digit. -/
def underscoresOk (cs : List Char) : Bool :=
  let body := match cs with
    | '-' :: r | '+' :: r => r
    | r => r
  match body with
  | '0' :: b :: rest =>
    let l := lowerAscii b
    if l == 'b' || l == 'o' || l == 'x' then underscoresFit (l == 'x') .digit rest
    else underscoresFit false .start body
  | _ => underscoresFit false .start body

/-- The digits of a mantissa in base 10 or 16, underscores skipped: the digit values, how many
stand before the point (all when there is none), and the rest of the text. -/
def mantissaDigits (hex : Bool) : List Char → List Nat → Option Nat → List Nat × Option Nat × List Char
  | [], ds, dot => (ds.reverse, dot, [])
  | c :: rest, ds, dot =>
    if c == '_' then mantissaDigits hex rest ds dot
    else if c == '.' then
      match dot with
      | none => mantissaDigits hex rest ds (some ds.length)
      | some _ => (ds.reverse, dot, c :: rest)
    else
      match (if hex then hexValue c else if c.isDigit then some (c.toNat - 48) else none) with
      | some v => mantissaDigits hex rest (v :: ds) dot
      | none => (ds.reverse, dot, c :: rest)

/-- An exponent: an optional sign and decimal digits, underscores skipped, filling the whole
rest. -/
def exponentOf (cs : List Char) : Option Int :=
  let (negative, ds) := match cs with
    | '+' :: r => (false, r)
    | '-' :: r => (true, r)
    | r => (false, r)
  match ds with
  | d :: _ =>
    if !d.isDigit || !ds.all (fun c => c.isDigit || c == '_') then none
    else
      let v : Int := digitsValue (ds.filter Char.isDigit)
      some (if negative then -v else v)
  | [] => none

/-- **Reading a double**, or why the text is none. -/
def readFloat (text : String) : Except FloatFault Float :=
  let cs := text.toList
  match special cs with
  | some x => .ok x
  | none =>
    let (negative, body) := match cs with
      | '-' :: r => (true, r)
      | '+' :: r => (false, r)
      | r => (false, r)
    let (hex, digitsText) := match body with
      | '0' :: x :: c :: more => if x == 'x' || x == 'X' then (true, c :: more) else (false, body)
      | _ => (false, body)
    let (ds, dot, rest) := mantissaDigits hex digitsText [] none
    if ds.isEmpty then .error .malformed
    else
      let after : Nat := ds.length - dot.getD ds.length
      let exp? : Option Int := match rest with
        | [] => if hex then none else some 0
        | e :: more =>
          if (if hex then lowerAscii e == 'p' else lowerAscii e == 'e') then exponentOf more else none
      match exp? with
      | none => .error .malformed
      | some exp =>
        if !underscoresOk cs then .error .malformed
        else
          let base := if hex then 16 else 10
          let m := ds.foldl (fun n d => n * base + d) 0
          let magnitude :=
            if hex then nearestBinary m (exp - 4 * (after : Int)) else nearestDecimal m (exp - after)
          match magnitude with
          | some x => .ok (if negative then -x else x)
          | none => .error .range

/-- **A double**, when the text is one that fits. -/
def parseFloat (text : String) : Option Float :=
  match readFloat text with
  | .ok x => some x
  | .error _ => none

/-- **Integer literals**: an optional minus and digits only. -/
def isIntegerLiteral (lit : String) : Bool :=
  let body := match lit.toList with
    | '-' :: r => r
    | r => r
  !body.isEmpty && body.all Char.isDigit

end QueryKit.Decimal
