/-!
# Instants and calendar text

An instant is a count of seconds since 1970-01-01T00:00:00Z with a nanosecond part. Written
out, it is always read in UTC, on the proleptic Gregorian calendar.

* `civilOfDays` turns a day number into year, month and day (the era-based method: 400-year
  eras of 146097 days, with years starting in March so the leap day comes last);
* a *layout* is a sample text of the reference instant `Mon Jan 2 15:04:05 MST 2006`: each piece
  of the sample that names a part of that instant (`2006`, `01`, `Jan`, `15`, `05`, `.000`, `Z07:00`,
  …) stands for the same part of the instant written, and the rest is copied;
* a *zone* shifts the clock reading of an instant by a fixed offset and names it;
* `Instant.format` writes an instant after a layout in a zone; `Instant.rfc3339Nano` is the
  layout with trimmed nanoseconds.
-/

namespace QueryKit

/-- **Instants** in UTC. -/
structure Instant where
  /-- Seconds since the start of 1970. -/
  seconds : Int
  /-- Nanoseconds past the second, below `10^9`. -/
  nanos : Nat := 0
  deriving Repr, Inhabited, BEq

/-- **Zones**: the offset of a clock reading from UTC, in seconds east, and its name. -/
inductive Zone where
  | utc
  /-- The machine's own zone, which reads as UTC. -/
  | local
  /-- A fixed offset without a name. -/
  | fixed (offset : Int)
  deriving Repr, Inhabited, BEq

/-- The offset of a zone in seconds east of UTC. -/
def Zone.offset : Zone → Int
  | .fixed o => o
  | _ => 0

/-- The name of a zone; a fixed offset has none. -/
def Zone.name : Zone → String
  | .fixed _ => ""
  | _ => "UTC"

/-- **Calendar days**: year, month (from one) and day (from one). -/
structure Civil where
  year : Int
  month : Nat
  day : Nat
  deriving Repr, BEq

/-- **The date of a day number** (days since 1970-01-01). -/
def civilOfDays (z : Int) : Civil :=
  let z := z + 719468
  let era := z / 146097
  let doe := (z - era * 146097).toNat
  let yoe := (doe - doe / 1460 + doe / 36524 - doe / 146096) / 365
  let doy := doe - (365 * yoe + yoe / 4 - yoe / 100)
  let mp := (5 * doy + 2) / 153
  let d := doy - (153 * mp + 2) / 5 + 1
  let m := if mp < 10 then mp + 3 else mp - 9
  let y := (yoe : Int) + era * 400
  ⟨if m ≤ 2 then y + 1 else y, m, d⟩

/-- Whether a year has a leap day. -/
def isLeapYear (y : Int) : Bool := y % 4 == 0 && (y % 100 != 0 || y % 400 == 0)

/-- **The day number of a date** (days since 1970-01-01): the inverse of `civilOfDays`. -/
def daysOfCivil (c : Civil) : Int :=
  let y := if c.month ≤ 2 then c.year - 1 else c.year
  let era := y / 400
  let yoe := (y - era * 400).toNat
  let mp := if c.month > 2 then c.month - 3 else c.month + 9
  let doy := (153 * mp + 2) / 5 + c.day - 1
  let doe := yoe * 365 + yoe / 4 - yoe / 100 + doy
  era * 146097 + doe - 719468

/-- The number of days of a month (from one) in a year. -/
def daysInMonth (month : Nat) (year : Int) : Nat :=
  if month == 2 then (if isLeapYear year then 29 else 28)
  else if month == 4 || month == 6 || month == 9 || month == 11 then 30 else 31

/-- The number of days before each month in a common year. -/
def daysBeforeMonth : List Nat := [0, 31, 59, 90, 120, 151, 181, 212, 243, 273, 304, 334]

/-- The day of the year, from one. -/
def Civil.yearDay (c : Civil) : Nat :=
  daysBeforeMonth.getD (c.month - 1) 0 + c.day + (if c.month > 2 && isLeapYear c.year then 1 else 0)

/-- Month names from January. -/
def monthNames : List String :=
  ["January", "February", "March", "April", "May", "June", "July", "August", "September",
    "October", "November", "December"]

/-- Day names from Sunday. -/
def dayNames : List String :=
  ["Sunday", "Monday", "Tuesday", "Wednesday", "Thursday", "Friday", "Saturday"]

/-- **Layout pieces.** -/
inductive Piece where
  | text (s : String)
  | longMonth | month | numMonth | zeroMonth
  | longWeekDay | weekDay
  | day | underDay | zeroDay
  | underYearDay | zeroYearDay
  | hour | hour12 | zeroHour12
  | minute | zeroMinute
  | second | zeroSecond
  | longYear | year
  | pmUpper | pmLower
  | zoneName
  /-- A numeric offset; `iso` writes `Z` for UTC; `colon` separates; `width` counts the
  hour, minute and second fields written (1 to 3). -/
  | offset (iso colon : Bool) (width : Nat)
  /-- A fraction of a second: separator, number of digits, and whether trailing zeros go. -/
  | fraction (sep : Char) (digits : Nat) (trim : Bool)
  deriving Repr, BEq

/-- Whether a text starts with a lower-case ASCII letter. -/
def startsLower : List Char → Bool
  | c :: _ => 'a' ≤ c && c ≤ 'z'
  | [] => false

/-- The run of `c` at the front, and what follows it. -/
def spanChar (c : Char) : List Char → Nat × List Char
  | d :: rest => if d == c then let (n, r) := spanChar c rest; (n + 1, r) else (0, d :: rest)
  | [] => (0, [])

/-- The layout piece at the front of a layout, if one starts there, with what follows it. -/
def pieceAt : List Char → Option (Piece × List Char)
  | 'J' :: 'a' :: 'n' :: 'u' :: 'a' :: 'r' :: 'y' :: r => some (.longMonth, r)
  | 'J' :: 'a' :: 'n' :: r => if startsLower r then none else some (.month, r)
  | 'M' :: 'o' :: 'n' :: 'd' :: 'a' :: 'y' :: r => some (.longWeekDay, r)
  | 'M' :: 'o' :: 'n' :: r => if startsLower r then none else some (.weekDay, r)
  | 'M' :: 'S' :: 'T' :: r => some (.zoneName, r)
  | '0' :: '1' :: r => some (.zeroMonth, r)
  | '0' :: '2' :: r => some (.zeroDay, r)
  | '0' :: '3' :: r => some (.zeroHour12, r)
  | '0' :: '4' :: r => some (.zeroMinute, r)
  | '0' :: '5' :: r => some (.zeroSecond, r)
  | '0' :: '6' :: r => some (.year, r)
  | '0' :: '0' :: '2' :: r => some (.zeroYearDay, r)
  | '1' :: '5' :: r => some (.hour, r)
  | '1' :: r => some (.numMonth, r)
  | '2' :: '0' :: '0' :: '6' :: r => some (.longYear, r)
  | '2' :: r => some (.day, r)
  | '_' :: '2' :: '0' :: '0' :: '6' :: r => some (.text "_", '2' :: '0' :: '0' :: '6' :: r)
  | '_' :: '2' :: r => some (.underDay, r)
  | '_' :: '_' :: '2' :: r => some (.underYearDay, r)
  | '3' :: r => some (.hour12, r)
  | '4' :: r => some (.minute, r)
  | '5' :: r => some (.second, r)
  | 'P' :: 'M' :: r => some (.pmUpper, r)
  | 'p' :: 'm' :: r => some (.pmLower, r)
  | '-' :: '0' :: '7' :: '0' :: '0' :: '0' :: '0' :: r => some (.offset false false 3, r)
  | '-' :: '0' :: '7' :: ':' :: '0' :: '0' :: ':' :: '0' :: '0' :: r => some (.offset false true 3, r)
  | '-' :: '0' :: '7' :: '0' :: '0' :: r => some (.offset false false 2, r)
  | '-' :: '0' :: '7' :: ':' :: '0' :: '0' :: r => some (.offset false true 2, r)
  | '-' :: '0' :: '7' :: r => some (.offset false false 1, r)
  | 'Z' :: '0' :: '7' :: '0' :: '0' :: '0' :: '0' :: r => some (.offset true false 3, r)
  | 'Z' :: '0' :: '7' :: ':' :: '0' :: '0' :: ':' :: '0' :: '0' :: r => some (.offset true true 3, r)
  | 'Z' :: '0' :: '7' :: '0' :: '0' :: r => some (.offset true false 2, r)
  | 'Z' :: '0' :: '7' :: ':' :: '0' :: '0' :: r => some (.offset true true 2, r)
  | 'Z' :: '0' :: '7' :: r => some (.offset true false 1, r)
  | sep :: d :: r =>
    if (sep == '.' || sep == ',') && (d == '0' || d == '9') then
      let (n, rest) := spanChar d (d :: r)
      match rest with
      | c :: _ => if c.isDigit then none else some (.fraction sep n (d == '9'), rest)
      | [] => some (.fraction sep n (d == '9'), rest)
    else none
  | _ => none

/-- Splits a layout into pieces, with at most `fuel` steps. -/
def piecesFuel : Nat → List Char → List Piece
  | 0, _ => []
  | _, [] => []
  | fuel + 1, c :: rest =>
    match pieceAt (c :: rest) with
    | some (p, more) => p :: piecesFuel fuel more
    | none => .text (String.singleton c) :: piecesFuel fuel rest

/-- **The pieces of a layout.** -/
def layoutPieces (layout : String) : List Piece :=
  piecesFuel (layout.length + 1) layout.toList

/-- A number in decimal, padded with zeros to a width. -/
def padded (n : Nat) (width : Nat) : String :=
  let s := toString n
  String.ofList (List.replicate (width - s.length) '0') ++ s

/-- A number in decimal, padded with spaces to a width. -/
def spaced (n : Nat) (width : Nat) : String :=
  let s := toString n
  String.ofList (List.replicate (width - s.length) ' ') ++ s

/-- A year with at least four digits, its sign in front. -/
def yearText (y : Int) : String :=
  if y < 0 then "-" ++ padded y.natAbs 4 else padded y.toNat 4

/-- The fraction digits of the nanoseconds. -/
def fractionText (nanos : Nat) (sep : Char) (digits : Nat) (trim : Bool) : String :=
  let all := (padded nanos 9).toList.take digits
  if trim then
    let kept := (all.reverse.dropWhile (· == '0')).reverse
    if kept.isEmpty then "" else String.ofList (sep :: kept)
  else String.ofList (sep :: all)

namespace Instant

/-- Days since 1970-01-01 and the second of the day. -/
def split (t : Instant) : Int × Nat := (t.seconds / 86400, (t.seconds % 86400).toNat)

/-- The calendar date of an instant. -/
def civil (t : Instant) : Civil := civilOfDays t.split.1

/-- A zone offset as `±hh`, then `mm` and `ss` as `width` asks, separated by colons if `colon`. -/
def offsetText (offset : Int) (colon : Bool) (width : Nat) : String :=
  let sign := if offset < 0 then "-" else "+"
  let a := offset.natAbs
  let minutes := a / 60
  let sep := if colon then ":" else ""
  sign ++ padded (minutes / 60) 2 ++
    (if width ≥ 2 then sep ++ padded (minutes % 60) 2 else "") ++
    (if width ≥ 3 then sep ++ padded (a % 60) 2 else "")

/-- Writes one piece for an instant read in a zone. -/
def piece (zone : Zone) (u : Instant) : Piece → String
  | .text s => s
  | p =>
    let t : Instant := ⟨u.seconds + zone.offset, u.nanos⟩
    let c := t.civil
    let sod := t.split.2
    let h := sod / 3600
    let mi := sod % 3600 / 60
    let s := sod % 60
    let wd := ((t.split.1 % 7 + 11) % 7).toNat
    let h12 := if h % 12 == 0 then 12 else h % 12
    match p with
    | .longMonth => monthNames.getD (c.month - 1) ""
    | .month => (monthNames.getD (c.month - 1) "").take 3 |>.toString
    | .numMonth => toString c.month
    | .zeroMonth => padded c.month 2
    | .longWeekDay => dayNames.getD wd ""
    | .weekDay => (dayNames.getD wd "").take 3 |>.toString
    | .day => toString c.day
    | .underDay => spaced c.day 2
    | .zeroDay => padded c.day 2
    | .underYearDay => spaced c.yearDay 3
    | .zeroYearDay => padded c.yearDay 3
    | .hour => padded h 2
    | .hour12 => toString h12
    | .zeroHour12 => padded h12 2
    | .minute => toString mi
    | .zeroMinute => padded mi 2
    | .second => toString s
    | .zeroSecond => padded s 2
    | .longYear => yearText c.year
    | .year => padded (c.year.natAbs % 100) 2
    | .pmUpper => if h ≥ 12 then "PM" else "AM"
    | .pmLower => if h ≥ 12 then "pm" else "am"
    | .zoneName => if zone.name.isEmpty then offsetText zone.offset false 2 else zone.name
    | .offset iso colon width =>
      if iso && zone.offset == 0 then "Z" else offsetText zone.offset colon width
    | .fraction sep digits trim => fractionText t.nanos sep digits trim
    | .text s => s

/-- **Writing an instant after a layout**, read in a zone (UTC unless given). -/
def format (t : Instant) (layout : String) (zone : Zone := .utc) : String :=
  String.join ((layoutPieces layout).map (piece zone t))

/-- The layout of RFC 3339 with nanoseconds, trailing zeros trimmed. -/
def rfc3339NanoLayout : String := "2006-01-02T15:04:05.999999999Z07:00"

/-- The layout of RFC 3339. -/
def rfc3339Layout : String := "2006-01-02T15:04:05Z07:00"

/-- An instant in RFC 3339 with trimmed nanoseconds. -/
def rfc3339Nano (t : Instant) : String := t.format rfc3339NanoLayout

end Instant
end QueryKit
