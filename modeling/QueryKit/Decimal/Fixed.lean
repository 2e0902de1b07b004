import QueryKit.Decimal.Text

/-!
# Doubles to a given precision

A double written with a fixed number of digits is the exact value rounded on the decimal grid,
a tie going to the even digit.

* `roundHalfEven` rounds a ratio to a whole number;
* `fixed` writes a number of digits after the point (`%f`);
* `exponential` writes one digit, the point, a number of digits and the exponent (`%e`);
* `significant` writes a number of significant digits in general notation (`%g`), trailing
  zeros removed.
-/

namespace QueryKit.Decimal

/-- **Rounding a ratio** to the nearest whole number, a tie to the even one. -/
def roundHalfEven (num den : Nat) : Nat :=
  let q := num / den
  let r := num % den
  if 2 * r > den then q + 1
  else if 2 * r < den then q
  else if q % 2 == 1 then q + 1 else q

/-- The exact magnitude `m · 2 ^ e` as a ratio. -/
def magnitude (m : Nat) (e : Int) : Ratio :=
  if 0 ≤ e then ⟨m * Nat.pow 2 e.toNat, 1⟩ else ⟨m, Nat.pow 2 (-e).toNat⟩

/-- The sign text of a double's sign bit. -/
def signText (negative : Bool) : String := if negative then "-" else ""

/-- The text of NaN and the infinities. -/
def specialText : Binary → Option String
  | .nan => some "NaN"
  | .infinite negative => some (if negative then "-Inf" else "+Inf")
  | _ => none

/-- A whole number written with at least `width` digits. -/
def digitsPadded (n width : Nat) : List Char :=
  let ds := digitChars n
  zeros (width - ds.length) ++ ds

/-- **Digits after the point.** -/
def fixed (x : Float) (prec : Nat) : String :=
  match Binary.ofFloat x with
  | .finite negative m e _ =>
    let v := magnitude m e
    let n := roundHalfEven (v.num * Nat.pow 10 prec) v.den
    let ds := digitsPadded n (prec + 1)
    let whole := ds.take (ds.length - prec)
    let frac := ds.drop (ds.length - prec)
    signText negative ++ String.ofList whole ++ (if prec == 0 then "" else "." ++ String.ofList frac)
  | b => (specialText b).getD ""

/-- The value rounded to `count` significant digits: the digits, and the power of ten of the
first one. -/
def roundSignificant (v : Ratio) (count : Nat) : Nat × Int :=
  if v.num == 0 then (0, 0) else
  let k := leadingPower v
  let shift : Int := (count : Int) - 1 - k
  let scaled : Ratio := if 0 ≤ shift then ⟨v.num * Nat.pow 10 shift.toNat, v.den⟩
    else ⟨v.num, v.den * Nat.pow 10 (-shift).toNat⟩
  let n := roundHalfEven scaled.num scaled.den
  if n ≥ Nat.pow 10 count then (n / 10, k + 1) else (n, k)

/-- Digits `d.ddd` and an exponent with at least two digits. -/
def expText (ds : List Char) (k : Int) : String :=
  let mantissa := match ds with
    | [] => ['0']
    | [c] => [c]
    | c :: rest => c :: '.' :: rest
  String.ofList (mantissa ++ 'e' :: exponentChars k 2)

/-- **Exponential notation** with `prec` digits after the point. -/
def exponential (x : Float) (prec : Nat) : String :=
  match Binary.ofFloat x with
  | .finite negative m e _ =>
    let (n, k) := roundSignificant (magnitude m e) (prec + 1)
    signText negative ++ expText (digitsPadded n (prec + 1)) k
  | b => (specialText b).getD ""

/-- **General notation** with `count` significant digits (at least one). -/
def significant (x : Float) (count : Nat) : String :=
  let count := if count == 0 then 1 else count
  match Binary.ofFloat x with
  | .finite negative m e _ =>
    let (n, k) := roundSignificant (magnitude m e) count
    let d := Digits.normalize n (k - (count : Int) + 1)
    let body := if k < -4 || k ≥ (count : Int) then scientific d 2 else positional d
    signText negative ++ String.ofList body
  | b => (specialText b).getD ""

end QueryKit.Decimal
