import QueryKit.Decimal.Shortest

/-!
# Doubles as text

Two spellings of a double, both from its shortest digits (`Binary.shortest`):

* `general` writes positional notation for decimal exponents from -4 to 5 and scientific
  notation (`1e+06`, `1.5e-07`) outside, with at least two exponent digits; `NaN`, `+Inf`,
  `-Inf` and `-0` are spelled so. Values in messages, logs and answers use it.
* `json` writes positional notation from `1e-6` up to `1e21` and scientific notation outside,
  with the exponent as short as it goes (`1e-7`, `1e+21`); it has no spelling for NaN and the
  infinities.
-/

namespace QueryKit.Decimal

/-- The digit characters of a number. -/
def digitChars (n : Nat) : List Char := (Nat.toDigits 10 n)

/-- `count` zero characters. -/
def zeros (count : Nat) : List Char := List.replicate count '0'

/-- The digits with the decimal point `point` places from their left end (a negative or large
`point` adds zeros). -/
def positional (d : Digits) : List Char :=
  let s := digitChars d.digits
  let point : Int := (s.length : Int) + d.exponent
  if point ≤ 0 then '0' :: '.' :: (zeros (-point).toNat ++ s)
  else if point.toNat ≥ s.length then s ++ zeros (point.toNat - s.length)
  else s.take point.toNat ++ '.' :: s.drop point.toNat

/-- The exponent of scientific notation, with its sign and at least `width` digits. -/
def exponentChars (e : Int) (width : Nat) : List Char :=
  let ds := digitChars e.natAbs
  (if e < 0 then '-' else '+') :: (zeros (width - ds.length) ++ ds)

/-- The digits as `d.ddd` times a power of ten, the exponent written with at least `width`
digits. -/
def scientific (d : Digits) (width : Nat) : List Char :=
  let s := digitChars d.digits
  let e : Int := (s.length : Int) + d.exponent - 1
  let mantissa := match s with
    | [] => ['0']
    | [c] => [c]
    | c :: rest => c :: '.' :: rest
  mantissa ++ 'e' :: exponentChars e width

/-- The power of ten of the leading digit. -/
def Digits.leading (d : Digits) : Int := ((digitChars d.digits).length : Int) + d.exponent - 1

/-- **General notation** of a double. -/
def general (f : Float) : String :=
  match Binary.ofFloat f with
  | .nan => "NaN"
  | .infinite negative => if negative then "-Inf" else "+Inf"
  | b@(.finite negative _ _ _) =>
    let d := b.shortest
    let body := if d.leading < -4 || d.leading ≥ 6 then scientific d 2 else positional d
    String.ofList ((if negative then ['-'] else []) ++ body)

/-- **JSON notation** of a double, or nothing for NaN and the infinities. -/
def json (f : Float) : Option String :=
  match Binary.ofFloat f with
  | .finite negative m _ _ =>
    let d := (Binary.ofFloat f).shortest
    let body := if m != 0 && (d.leading < -6 || d.leading ≥ 21) then scientific d 1
      else positional d
    some (String.ofList ((if negative then ['-'] else []) ++ body))
  | _ => none

end QueryKit.Decimal
