/-!
# Shortest decimal digits of a double

A finite double is `m · 2^e`. The reals that round to it form an interval around it whose ends
lie half way to its two neighbours, ends included exactly when `m` is even (a tie rounds to the
even significand). The *shortest* decimal of the double is the decimal with the fewest
significant digits inside that interval, and of two such the one nearer the double.

* `Binary.ofFloat` decodes the bits of a double;
* `Binary.shortest` tries 1, 2, …, 17 significant digits and, for each count, the two decimals
  next to the double on that grid: the first count with a decimal inside the interval wins;
* the result carries no trailing zero digit.

All arithmetic is exact, on natural numbers.
-/

namespace QueryKit.Decimal

/-- **A double, decoded.** The sign, and for a finite value its significand and binary exponent:
the value is `significand · 2 ^ exponent`. `narrowBelow` marks a significand that is a power of two
above the smallest normal exponent, whose lower neighbour is twice as close as its upper one. -/
inductive Binary where
  /-- Not a number. -/
  | nan
  /-- An infinity of the given sign. -/
  | infinite (negative : Bool)
  /-- A finite value. -/
  | finite (negative : Bool) (significand : Nat) (exponent : Int) (narrowBelow : Bool)
  deriving Repr, BEq

/-- Decodes the 64 bits of a double. -/
def Binary.ofFloat (f : Float) : Binary :=
  let bits := f.toBits.toNat
  let negative := bits / Nat.pow 2 63 == 1
  let biased : Nat := (bits / Nat.pow 2 52) % Nat.pow 2 11
  let fraction : Nat := bits % Nat.pow 2 52
  if biased == 2047 then
    if fraction == 0 then .infinite negative else .nan
  else if biased == 0 then .finite negative fraction (-1074) false
  else .finite negative (fraction + Nat.pow 2 52) ((biased : Int) - 1075) (fraction == 0 && biased > 1)

/-- **Decimal digits.** A value `digits · 10 ^ exponent`, digits without trailing zeros (zero is
`0 · 10^0`). -/
structure Digits where
  /-- The significant digits as one number. -/
  digits : Nat
  /-- The power of ten of the last digit. -/
  exponent : Int
  deriving Repr, BEq

/-- The number of decimal digits of `n` (one for zero). -/
def digitCount (n : Nat) : Nat :=
  if n < 10 then 1 else digitCount (n / 10) + 1

/-- Strips trailing zero digits, moving them to the exponent. -/
def Digits.normalize (digits : Nat) (exponent : Int) (fuel : Nat := 400) : Digits :=
  match fuel with
  | 0 => ⟨digits, exponent⟩
  | fuel + 1 =>
    if digits != 0 && digits % 10 == 0 then normalize (digits / 10) (exponent + 1) fuel
    else ⟨digits, exponent⟩

/-- A rational `num / den` with natural numbers. -/
structure Ratio where
  num : Nat
  den : Nat

/-- `a ≤ b` on ratios with positive denominators. -/
def Ratio.le (a b : Ratio) : Bool := a.num * b.den ≤ b.num * a.den

/-- `a < b` on ratios with positive denominators. -/
def Ratio.lt (a b : Ratio) : Bool := a.num * b.den < b.num * a.den

/-- The ratio `c · 10 ^ k`. -/
def Ratio.ofDecimal (c : Nat) (k : Int) : Ratio :=
  if 0 ≤ k then ⟨c * Nat.pow 10 k.toNat, 1⟩ else ⟨c, Nat.pow 10 (-k).toNat⟩

/-- The distance between two ratios, as a ratio. -/
def Ratio.dist (a b : Ratio) : Ratio :=
  let x := a.num * b.den
  let y := b.num * a.den
  ⟨if x ≤ y then y - x else x - y, a.den * b.den⟩

/-- The power of ten of the leading digit of a positive ratio `v`: the `d` with
`10 ^ d ≤ v < 10 ^ (d + 1)`. -/
def leadingPower (v : Ratio) : Int :=
  let q := v.num / v.den
  if q ≥ 1 then (digitCount q : Int) - 1
  else
    -- the least `j` with `v · 10 ^ j ≥ 1`
    let rec find (j : Nat) : Nat → Int
      | 0 => -(j : Int)
      | fuel + 1 => if v.num * Nat.pow 10 j ≥ v.den then -(j : Int) else find (j + 1) fuel
    find 1 400

/-- `floor (v / 10 ^ k)`. -/
def floorScaled (v : Ratio) (k : Int) : Nat :=
  if 0 ≤ k then v.num / (v.den * Nat.pow 10 k.toNat) else v.num * Nat.pow 10 (-k).toNat / v.den

/-- **Shortest digits of a positive finite double** `m · 2 ^ e`. -/
def shortestOf (m : Nat) (e : Int) (narrowBelow : Bool) : Digits :=
  if m == 0 then ⟨0, 0⟩ else
  -- all three points scaled by 4 so that the half gaps are whole: v = 4m, up = 4m + 2,
  -- low = 4m - 2 (or 4m - 1 below a power of two), over the common factor 2 ^ (e - 2)
  let scale : Ratio := if 2 ≤ e then ⟨Nat.pow 2 (e - 2).toNat, 1⟩ else ⟨1, Nat.pow 2 (2 - e).toNat⟩
  let at_ (k : Nat) : Ratio := ⟨k * scale.num, scale.den⟩
  let v := at_ (4 * m)
  let up := at_ (4 * m + 2)
  let low := at_ (4 * m - (if narrowBelow then 1 else 2))
  let inside (r : Ratio) : Bool :=
    if m % 2 == 0 then low.le r && r.le up else low.lt r && r.lt up
  let lead := leadingPower v
  let rec tryDigits (p : Nat) : Nat → Digits
    | 0 => ⟨0, 0⟩
    | fuel + 1 =>
      let k : Int := lead - (p : Int) + 1
      let below := floorScaled v k
      let above := below + 1
      let rb := Ratio.ofDecimal below k
      let ra := Ratio.ofDecimal above k
      match inside rb, inside ra with
      | true, true =>
        let db := Ratio.dist rb v
        let da := Ratio.dist ra v
        if db.lt da || (db.le da && below % 2 == 0) then Digits.normalize below k
        else Digits.normalize above k
      | true, false => Digits.normalize below k
      | false, true => Digits.normalize above k
      | false, false => if p ≥ 17 then Digits.normalize below k else tryDigits (p + 1) fuel
  tryDigits 1 17

/-- The shortest digits of a finite binary value. -/
def Binary.shortest : Binary → Digits
  | .finite _ m e narrow => shortestOf m e narrow
  | _ => ⟨0, 0⟩

end QueryKit.Decimal
