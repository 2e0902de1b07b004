/-!
# Dates and times of day without a zone

TOML writes dates (`1979-05-27`), times of day (`07:32:00.999`) and both together
(`1979-05-27T07:32:00`) without an offset. Such a value names no instant: it stands for that date
or that time wherever it is read. A time of day keeps how many digits of fraction were written
(at most nine), so that it is written back the same way.

* `FloatingDate` and `FloatingClock` are the parts, `Floating` one of them or both;
* `Floating.text` writes a value back: the date as `yyyy-mm-dd`, the time as `hh:mm:ss` with the
  fraction digits written, both joined by `T`;
* `Floating.kind` is the name of its kind.
-/

namespace QueryKit

/-- **A date** without a zone. -/
structure FloatingDate where
  year : Nat
  month : Nat
  day : Nat
  deriving Repr, BEq, Inhabited

/-- **A time of day** without a zone: the fraction in nanoseconds, and how many of its digits were
written (no more than nine). -/
structure FloatingClock where
  hour : Nat
  minute : Nat
  second : Nat
  nanos : Nat
  precision : Nat
  deriving Repr, BEq, Inhabited

/-- **Dates, times of day, or both**, without a zone. -/
inductive Floating where
  | date (d : FloatingDate)
  | clock (t : FloatingClock)
  | dateClock (d : FloatingDate) (t : FloatingClock)
  deriving Repr, BEq, Inhabited

/-- The decimal digits of a number, with zeros in front up to a width. -/
def zeroPadded (width n : Nat) : String :=
  let ds := Nat.toDigits 10 n
  String.ofList (List.replicate (width - ds.length) '0' ++ ds)

/-- A date as `yyyy-mm-dd`. -/
def FloatingDate.text (d : FloatingDate) : String :=
  zeroPadded 4 d.year ++ "-" ++ zeroPadded 2 d.month ++ "-" ++ zeroPadded 2 d.day

/-- **A time of day as text**: `hh:mm:ss`, then the fraction with as many digits as were written;
a fraction with no digits counted shows its digits up to the last one that is not zero. -/
def FloatingClock.text (t : FloatingClock) : String :=
  let base := zeroPadded 2 t.hour ++ ":" ++ zeroPadded 2 t.minute ++ ":" ++ zeroPadded 2 t.second
  let nine := (zeroPadded 9 t.nanos).toList
  if t.precision > 0 then base ++ "." ++ String.ofList (nine.take t.precision)
  else if t.nanos > 0 then base ++ "." ++ String.ofList ((nine.reverse.dropWhile (· == '0')).reverse)
  else base

/-- **The text of a value**: the date, the time of day, or both joined by `T`. -/
def Floating.text : Floating → String
  | .date d => d.text
  | .clock t => t.text
  | .dateClock d t => d.text ++ "T" ++ t.text

/-- The name of a value's kind. -/
def Floating.kind : Floating → String
  | .date _ => "toml.LocalDate"
  | .clock _ => "toml.LocalTime"
  | .dateClock _ _ => "toml.LocalDateTime"

end QueryKit
