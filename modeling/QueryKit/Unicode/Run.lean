/-!
# Runs of code points

Unicode properties are tables of code points, sorted and without overlaps. A table lists *runs*:
`lo`, `lo + step`, `lo + 2 * step`, ... up to `hi`. A run of step 1 is a plain range. A run of
step 2 is every other code point, the way upper- and lower-case letters alternate in many blocks.
A *shift* moves every code point of a run by the same amount. Case mappings are tables of shifts.

* `Run.contains` tells whether a code point is one of a run's;
* `seek` finds, by halving, the first run of a sorted table that ends at or after a code point.
  That run is the only one that can hold it;
* `member` and `shifted` look a code point up in a table of runs or of shifts.
-/

namespace QueryKit.Unicode

/-- **A run of code points**: `lo`, `lo + step`, ... up to `hi`. -/
structure Run where
  lo : Nat
  hi : Nat
  step : Nat := 1
  deriving Repr, Inhabited

/-- **A shift**: every code point of a run moves by `delta`. -/
structure Shift where
  run : Run
  delta : Int
  deriving Repr, Inhabited

namespace Run

/-- Whether a code point is one of the run's. -/
def contains (r : Run) (n : Nat) : Bool :=
  r.lo ≤ n && n ≤ r.hi && (n - r.lo) % r.step == 0

end Run

/-- **The first entry that ends at or after `n`** in a table sorted by where entries end, found by
halving the part of the table between `lo` and `hi` that can hold it. -/
def seek {α : Type} (xs : Array α) (ends : α → Nat) (n : Nat) : Option α :=
  let rec loop (lo hi : Nat) (hhi : hi ≤ xs.size) : Nat :=
    if h : lo < hi then
      let mid := lo + (hi - lo) / 2
      have hmid : mid < xs.size := by omega
      if ends xs[mid] < n then loop (mid + 1) hi hhi
      else loop lo mid (by omega)
    else lo
  termination_by hi - lo
  decreasing_by all_goals omega
  xs[loop 0 xs.size (Nat.le_refl _)]?

/-- **Membership in a table of runs** sorted by where they end. -/
def member (runs : Array Run) (n : Nat) : Bool :=
  match seek runs Run.hi n with
  | some r => r.contains n
  | none => false

/-- **A code point moved by a table of shifts**; a code point of no run stays as it is. -/
def shifted (shifts : Array Shift) (n : Nat) : Nat :=
  match seek shifts (·.run.hi) n with
  | some s => if s.run.contains n then ((n : Int) + s.delta).toNat else n
  | none => n

end QueryKit.Unicode
