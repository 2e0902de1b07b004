import QueryKit.Time.Duration
import QueryKit.Time.Civil
import QueryKit.Time.Floating
import QueryKit.Value.Shape

/-!
# Values

The values a statement binds, a row holds and a log entry carries. The library accepts any of
them where a value is expected, and decides by its kind: a raw fragment is written into the SQL,
everything else is bound to a placeholder.

* `Value` lists the kinds: nothing, booleans, the integer kinds, doubles, texts, bytes, raw SQL
  fragments (held directly or through a possibly missing reference), lists, maps, durations,
  error values, moments, narrow integers, and the records and references a model holds;
* `Value.typeName` is the name of a value's kind as messages spell it (`int64`, `float64`,
  `[]interface {}`, `<nil>`);
* `Value.elements` is the list view that `IN` lists and bulk arguments use: a list's elements,
  or the value alone.
-/

namespace QueryKit

/-- **Widths** of narrow integers. -/
inductive Width where
  /-- 32-bit signed. -/
  | int32
  /-- 8-bit unsigned. -/
  | uint8
  deriving Repr, BEq, Inhabited, DecidableEq

/-- The name of a width's integer kind. -/
def Width.name : Width → String
  | .int32 => "int32"
  | .uint8 => "uint8"

/-- An integer brought into a width, wrapping around. -/
def Width.wrap : Width → Int → Int
  | .int32, n => (n + Int.pow 2 31) % Int.pow 2 32 - Int.pow 2 31
  | .uint8, n => n % 256

/-- **Values.** -/
inductive Value where
  /-- No value. -/
  | null
  /-- A boolean. -/
  | bool (b : Bool)
  /-- A 64-bit signed integer. -/
  | int (n : Int)
  /-- A 64-bit unsigned integer. -/
  | uint (n : Nat)
  /-- A machine-word integer. -/
  | word (n : Int)
  /-- A double. -/
  | float (x : Float)
  /-- A text. -/
  | text (s : String)
  /-- A byte string. -/
  | bytes (b : List UInt8)
  /-- A raw SQL fragment: written as it is, never quoted, never bound. -/
  | raw (sql : String)
  /-- A reference to a raw SQL fragment, possibly missing. -/
  | rawRef (sql : Option String)
  /-- A list of values. -/
  | list (items : List Value)
  /-- A list of machine-word integers. -/
  | words (items : List Int)
  /-- A list of texts. -/
  | texts (items : List String)
  /-- A map from texts to values, members in the order given. -/
  | map (members : List (String × Value))
  /-- A duration. -/
  | duration (d : Duration)
  /-- An error value with its message. -/
  | failure (message : String)
  /-- A moment: an instant read in a zone. -/
  | time (t : Instant) (zone : Zone)
  /-- An integer of a narrow width. -/
  | small (width : Width) (n : Int)
  /-- A reference to a value of a shape, or a missing one. -/
  | pointer (target : Shape) (value : Option Value)
  /-- A record of a shape: the value of every field, in the order of the shape's fields. -/
  | record (shape : Shape) (fields : List Value)
  /-- A date, a time of day, or both, without a zone. -/
  | floating (f : Floating)
  deriving Repr, Inhabited

namespace Value

/-- **Kind names.** The name of a value's kind as error messages write it. -/
def typeName : Value → String
  | .null => "<nil>"
  | .bool _ => "bool"
  | .int _ => "int64"
  | .uint _ => "uint64"
  | .word _ => "int"
  | .float _ => "float64"
  | .text _ => "string"
  | .bytes _ => "[]uint8"
  | .raw _ => "grammar.Expression"
  | .rawRef _ => "*grammar.Expression"
  | .list _ => "[]interface {}"
  | .words _ => "[]int"
  | .texts _ => "[]string"
  | .map _ => "map[string]interface {}"
  | .duration _ => "time.Duration"
  | .failure _ => "*errors.errorString"
  | .time _ _ => "time.Time"
  | .small w _ => w.name
  | .pointer t _ => "*" ++ t.name
  | .record s _ => s.name
  | .floating f => f.kind

/-- The fields of a zoneless time of day, as a record. -/
def clockRecord (t : FloatingClock) : Value :=
  .record (.record "toml.LocalTime" (["Hour", "Minute", "Second", "Nanosecond", "Precision"].map
    (fun n => .mk n .int none false)))
    [.word t.hour, .word t.minute, .word t.second, .word t.nanos, .word t.precision]

/-- The fields of a zoneless date, as a record. -/
def dateRecord (d : FloatingDate) : Value :=
  .record (.record "toml.LocalDate" (["Year", "Month", "Day"].map (fun n => .mk n .int none false)))
    [.word d.year, .word d.month, .word d.day]

/-- **A zoneless date or time as the record it is made of**: the date's year, month and day, the
time's hour, minute, second, nanoseconds and precision, or a date and a time side by side. -/
def floatingRecord : Floating → Value
  | .date d => dateRecord d
  | .clock t => clockRecord t
  | .dateClock d t =>
    match dateRecord d, clockRecord t with
    | .record ds dfs, .record ts tfs =>
      .record (.record "toml.LocalDateTime" [.mk "LocalDate" ds none true, .mk "LocalTime" ts none true])
        [.record ds dfs, .record ts tfs]
    | _, _ => .null

/-- **Lists.** Lists, integer and text lists and maps count as lists; a byte string does not. -/
def isList : Value → Bool
  | .list _ | .words _ | .texts _ | .map _ => true
  | _ => false

/-- **The list view.** A list's elements; nothing for no value; any other value alone. -/
def elements : Value → List Value
  | .null => []
  | .list items => items
  | .words items => items.map .word
  | .texts items => items.map .text
  | v => [v]

/-- The raw SQL of a raw fragment or of a present reference to one. -/
def rawSql? : Value → Option String
  | .raw s => some s
  | .rawRef (some s) => some s
  | _ => none

end Value
end QueryKit
