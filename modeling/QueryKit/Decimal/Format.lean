import QueryKit.Decimal.Fixed

/-!
# Doubles in every notation

A double written in one of the notations of the standard formatting: `e` (`-d.ddde±dd`), `f`
(`-ddd.ddd`), `g` (`e` for large and small exponents, `f` otherwise, trailing zeros removed),
their upper-case forms `E` and `G`, `b` (`-ddddp±ddd`, the significand and the binary
exponent), and `x`/`X` (`-0x1.hhhp±dd`, hexadecimal).

A precision counts the digits after the point for `e`, `f` and `x`, and the significant digits
for `g`. A negative precision asks for the fewest digits that read back as the same double. The
digits of a finite double are its exact value rounded on the decimal grid, a tie going to the
even digit.

* `Slice` is a run of decimal digits with the position of the point;
* `formatFloat x fmt prec` is the double `x` in notation `fmt` with precision `prec`.
-/

namespace QueryKit.Decimal

/-- **Decimal digits with a point**: digit characters without trailing zeros, and how many of
them stand before the point (negative when zeros come first). Zero has no digits. -/
structure Slice where
  digits : List Char
  point : Int
  deriving Repr, BEq

/-- The slice of `n · 10 ^ e`. -/
def Slice.ofNat (n : Nat) (e : Int) : Slice :=
  if n == 0 then ⟨[], 0⟩
  else
    let d := Digits.normalize n e
    let s := digitChars d.digits
    ⟨s, (s.length : Int) + d.exponent⟩

/-- The number of digits. -/
def Slice.count (s : Slice) : Nat := s.digits.length

/-- `%e`: the first digit, `prec` more after the point, and the exponent with at least two
digits. -/
def fmtE (negative : Bool) (d : Slice) (prec : Int) (e : Char) : String :=
  let first := d.digits.headD '0'
  let more : List Char :=
    if prec > 0 then '.' :: ((d.digits.drop 1) ++ zeros prec.toNat).take prec.toNat else []
  let exp : Int := if d.count == 0 then 0 else d.point - 1
  String.ofList ((if negative then ['-'] else []) ++ first :: more ++ e :: exponentChars exp 2)

/-- `%f`: the digits before the point (at least a zero), and `prec` after it. -/
def fmtF (negative : Bool) (d : Slice) (prec : Nat) : String :=
  let whole : List Char :=
    if d.point > 0 then
      let p := d.point.toNat
      d.digits.take p ++ zeros (p - min d.count p)
    else ['0']
  let frac : List Char :=
    if prec > 0 then
      '.' :: (List.range prec).map (fun (i : Nat) =>
        let j : Int := d.point + (i : Int)
        if 0 ≤ j && j < d.count then d.digits.getD j.toNat '0' else '0')
    else []
  String.ofList ((if negative then ['-'] else []) ++ whole ++ frac)

/-- **Digits in a notation**: `e`/`E`, `f`, or `g`/`G` choosing between the two. `shortest`
tells that the digits are the fewest that read back. -/
def formatDigits (negative shortest : Bool) (d : Slice) (prec : Int) (fmt : Char) : String :=
  if fmt == 'e' || fmt == 'E' then fmtE negative d prec fmt
  else if fmt == 'f' then fmtF negative d prec.toNat
  else if fmt == 'g' || fmt == 'G' then
    let nd : Int := d.count
    let eprec : Int := if shortest then 6 else if prec > nd && nd ≥ d.point then nd else prec
    let exp := d.point - 1
    if exp < -4 || exp ≥ eprec then
      let p := if prec > nd then nd else prec
      fmtE negative d (p - 1) (if fmt == 'g' then 'e' else 'E')
    else
      let p := if prec > d.point then nd else prec
      fmtF negative d (max (p - d.point) 0).toNat
  else "%" ++ String.singleton fmt

/-- `%b`: the significand in decimal, `p`, and the binary exponent. -/
def fmtB (negative : Bool) (m : Nat) (e : Int) : String :=
  (if negative then "-" else "") ++ toString m ++ "p" ++ (if e ≥ 0 then "+" else "") ++ toString e

/-- Hex digits in lower or upper case. -/
def hexChar (upper : Bool) (n : Nat) : Char :=
  if n < 10 then Char.ofNat (48 + n) else Char.ofNat ((if upper then 55 else 87) + n)

/-- Shifts a significand left until its leading bit stands at bit 60, lowering the exponent. -/
def alignHex : Nat → Nat → Int → Nat × Int
  | 0, m, e => (m, e)
  | fuel + 1, m, e =>
    if m == 0 || m ≥ Nat.pow 2 60 then (m, e) else alignHex fuel (2 * m) (e - 1)

/-- `%x`: `0x`, the leading bit, the hex digits of the fraction (`prec` of them, rounded to even,
or all that are not zero), `p` and the binary exponent with at least two digits. The value is
`m · 2 ^ e`. -/
def fmtX (negative : Bool) (m : Nat) (e : Int) (prec : Int) (fmt : Char) : String :=
  let upper := fmt == 'X'
  let exp0 : Int := if m == 0 then 0 else e + 52
  let (mant, exp) := alignHex 64 (m * Nat.pow 2 8) exp0
  let (mant, exp) :=
    if 0 ≤ prec && prec < 15 then
      let shift := prec.toNat * 4
      let extra := (mant * Nat.pow 2 shift) % Nat.pow 2 60
      let kept := mant / Nat.pow 2 (60 - shift)
      let kept := if (extra ||| (kept % 2)) > Nat.pow 2 59 then kept + 1 else kept
      let mant := kept * Nat.pow 2 (60 - shift)
      if mant ≥ Nat.pow 2 61 then (mant / 2, exp + 1) else (mant, exp)
    else (mant, exp)
  let lead := if mant / Nat.pow 2 60 % 2 == 1 then '1' else '0'
  let fracBits := mant % Nat.pow 2 60
  let fracDigits := (List.range 15).map (fun i => hexChar upper (fracBits / Nat.pow 16 (14 - i) % 16))
  let frac : List Char :=
    if prec < 0 then
      let kept := (fracDigits.reverse.dropWhile (· == '0')).reverse
      if kept.isEmpty then [] else '.' :: kept
    else if prec > 0 then '.' :: (fracDigits ++ zeros prec.toNat).take prec.toNat
    else []
  let ds := digitChars exp.natAbs
  let expDigits := zeros (2 - min ds.length 2) ++ ds
  String.ofList ((if negative then ['-'] else []) ++ '0' :: fmt :: lead :: frac ++
    (if upper then 'P' else 'p') :: (if exp < 0 then '-' else '+') :: expDigits)

/-- **A double in a notation** with a precision, a negative precision asking for the shortest
digits. NaN and the infinities are `NaN`, `+Inf` and `-Inf` in every notation. -/
def formatFloat (x : Float) (fmt : Char) (prec : Int) : String :=
  match Binary.ofFloat x with
  | .nan => "NaN"
  | .infinite negative => if negative then "-Inf" else "+Inf"
  | b@(.finite negative m e _) =>
    if fmt == 'b' then fmtB negative m e
    else if fmt == 'x' || fmt == 'X' then fmtX negative m e prec fmt
    else if prec < 0 then
      let d := b.shortest
      let s := Slice.ofNat d.digits d.exponent
      let nd : Int := s.count
      let p : Int :=
        if fmt == 'e' || fmt == 'E' then max (nd - 1) 0
        else if fmt == 'f' then max (nd - s.point) 0
        else if fmt == 'g' || fmt == 'G' then nd
        else prec
      formatDigits negative true s p fmt
    else
      let v := magnitude m e
      if fmt == 'f' then
        formatDigits negative false (Slice.ofNat (roundHalfEven (v.num * Nat.pow 10 prec.toNat) v.den) (-prec)) prec fmt
      else
        let p : Int := if (fmt == 'g' || fmt == 'G') && prec == 0 then 1 else prec
        let count : Nat := if fmt == 'e' || fmt == 'E' then p.toNat + 1 else if fmt == 'g' || fmt == 'G' then p.toNat else 1
        let (n, k) := roundSignificant v count
        formatDigits negative false (Slice.ofNat n (k - (count : Int) + 1)) p fmt

end QueryKit.Decimal
