import QueryKit.Value.Basic
import QueryKit.Decimal.Text
import QueryKit.Text.Quoted

/-!
# Values as text

Two spellings of a value. The *plain* spelling is the one messages and text logs show: numbers
in decimal, doubles in general notation, texts as they are, lists in brackets with spaces
between elements, maps as `map[key:value ...]` with sorted keys, durations as duration text, no
value as `<nil>`. The *source* spelling is the one binding listings show: texts quoted, unsigned
integers in hex, containers with their kind in front (`[]interface {}{1, "a"}`).

* `Value.plain` and `Value.source` are the two spellings;
* both sort map members by key and leave the given value alone.
-/

namespace QueryKit

/-- Inserts a member into members sorted by key. -/
def insertByKey {α : Type} (k : String) (v : α) : List (String × α) → List (String × α)
  | [] => [(k, v)]
  | (k', v') :: rest => if k ≤ k' then (k, v) :: (k', v') :: rest else (k', v') :: insertByKey k v rest

/-- Members sorted by key (stable). -/
def sortByKey {α : Type} (members : List (String × α)) : List (String × α) :=
  members.foldr (fun (k, v) acc => insertByKey k v acc) []

/-- Members sorted by key with a later member of the same key replacing an earlier one, as a map
keeps them. -/
def mapMembers {α : Type} (members : List (String × α)) : List (String × α) :=
  let last := members.foldl (fun acc (k, v) => (k, v) :: acc.filter (fun p => p.1 != k)) []
  sortByKey last.reverse

namespace Value

/-- Decimal text of an integer. -/
def intText (n : Int) : String := toString n

/-- The bytes in brackets, in decimal, separated by spaces. -/
def bytesText (b : List UInt8) : String := "[" ++ " ".intercalate (b.map (fun x => toString x.toNat)) ++ "]"

/-- The spelling of where a referenced value lives, which no output depends on. -/
def address : String := "0xc000010000"

mutual

/-- **Plain spelling.** -/
def plain : Value → String
  | .null => "<nil>"
  | .bool b => if b then "true" else "false"
  | .int n => intText n
  | .uint n => toString n
  | .word n => intText n
  | .float x => Decimal.general x
  | .text s => s
  | .bytes b => bytesText b
  | .raw s => s
  | .rawRef (some s) => s
  | .rawRef none => "<nil>"
  | .list items => "[" ++ plainItems items ++ "]"
  | .words items => "[" ++ " ".intercalate (items.map intText) ++ "]"
  | .texts items => "[" ++ " ".intercalate items ++ "]"
  | .map members =>
    "map[" ++ " ".intercalate ((mapMembers (plainMembers members)).map (fun (k, t) => k ++ ":" ++ t)) ++ "]"
  | .duration d => d.render
  | .failure message => message
  | .time t zone => t.format "2006-01-02 15:04:05.999999999 -0700 MST" zone
  | .small _ n => intText n
  | .pointer _ none => "<nil>"
  | .pointer _ (some (.record s fields)) => "&" ++ plain (.record s fields)
  | .pointer _ (some _) => Value.address
  | .record _ fields => "\x7b" ++ plainItems fields ++ "\x7d"
  | .floating f => f.text

/-- Plain spellings of list elements, separated by spaces. -/
def plainItems : List Value → String
  | [] => ""
  | [v] => plain v
  | v :: rest => plain v ++ " " ++ plainItems rest

/-- Plain spellings of map members' values, keys kept. -/
def plainMembers : List (String × Value) → List (String × String)
  | [] => []
  | (k, v) :: rest => (k, plain v) :: plainMembers rest

end

/-- Lower-case hex digits of a natural number, without leading zeros. -/
def hexText (n : Nat) : String := String.ofList (Nat.toDigits 16 n)

/-- A moment as the call that makes it: the date and clock in the zone, and the zone. -/
def momentSource (u : Instant) (zone : Zone) : String :=
  let t : Instant := ⟨u.seconds + zone.offset, u.nanos⟩
  let c := t.civil
  let sod := t.split.2
  let loc := match zone with
    | .utc => "time.UTC"
    | .local => "time.Local"
    | .fixed _ => "time.Location(" ++ Text.quote zone.name ++ ")"
  "time.Date(" ++ toString c.year ++ ", time." ++ monthNames.getD (c.month - 1) "" ++ ", " ++
    toString c.day ++ ", " ++ toString (sod / 3600) ++ ", " ++ toString (sod % 3600 / 60) ++ ", " ++
    toString (sod % 60) ++ ", " ++ toString t.nanos ++ ", " ++ loc ++ ")"

/-- The source spelling of a record's fields given as names and numbers. -/
def fieldsSource (name : String) (fields : List (String × Nat)) : String :=
  name ++ "\x7b" ++ ", ".intercalate (fields.map (fun (n, v) => n ++ ":" ++ toString v)) ++ "\x7d"

/-- The source spelling of a zoneless date. -/
def dateSource (d : FloatingDate) : String :=
  fieldsSource "toml.LocalDate" [("Year", d.year), ("Month", d.month), ("Day", d.day)]

/-- The source spelling of a zoneless time of day. -/
def clockSource (t : FloatingClock) : String :=
  fieldsSource "toml.LocalTime"
    [("Hour", t.hour), ("Minute", t.minute), ("Second", t.second), ("Nanosecond", t.nanos), ("Precision", t.precision)]

/-- **The source spelling of a zoneless date or time**: the record it is made of. -/
def floatingSource : Floating → String
  | .date d => dateSource d
  | .clock t => clockSource t
  | .dateClock d t =>
    "toml.LocalDateTime\x7bLocalDate:" ++ dateSource d ++ ", LocalTime:" ++ clockSource t ++ "\x7d"

mutual

/-- **Source spelling.** -/
def source : Value → String
  | .null => "<nil>"
  | .bool b => if b then "true" else "false"
  | .int n => intText n
  | .uint n => "0x" ++ hexText n
  | .word n => intText n
  | .float x => Decimal.general x
  | .text s => Text.quote s
  | .bytes b => "[]byte\x7b" ++ ", ".intercalate (b.map (fun x => "0x" ++ hexText x.toNat)) ++ "\x7d"
  | .raw s => "grammar.Expression\x7bvalue:" ++ Text.quote s ++ "\x7d"
  | .rawRef (some s) => "&grammar.Expression\x7bvalue:" ++ Text.quote s ++ "\x7d"
  | .rawRef none => "(*grammar.Expression)(nil)"
  | .list items => "[]interface \x7b\x7d\x7b" ++ sourceItems items ++ "\x7d"
  | .words items => "[]int\x7b" ++ ", ".intercalate (items.map intText) ++ "\x7d"
  | .texts items => "[]string\x7b" ++ ", ".intercalate (items.map Text.quote) ++ "\x7d"
  | .map members =>
    "map[string]interface \x7b\x7d\x7b" ++
      ", ".intercalate ((mapMembers (sourceMembers members)).map (fun (k, t) => Text.quote k ++ ":" ++ t)) ++
      "\x7d"
  | .duration d => intText d.nanos
  | .failure message => "&errors.errorString\x7bs:" ++ Text.quote message ++ "\x7d"
  | .time t zone => momentSource t zone
  | .small .int32 n => intText n
  | .small .uint8 n => "0x" ++ hexText n.toNat
  | .pointer t none => "(*" ++ t.name ++ ")(nil)"
  | .pointer _ (some (.record s fields)) => "&" ++ source (.record s fields)
  | .pointer t (some _) => "(*" ++ t.name ++ ")(" ++ address ++ ")"
  | .record s fields =>
    s.name ++ "\x7b" ++ ", ".intercalate (sourceFields (s.slots.map Slot.name) fields) ++ "\x7d"
  | .floating f => floatingSource f

/-- The source spelling of an element of a container, where no value names its kind. -/
def sourceElement : Value → String
  | .null => "interface \x7b\x7d(nil)"
  | v => source v

/-- Source spellings of list elements, separated by commas. -/
def sourceItems : List Value → String
  | [] => ""
  | [v] => sourceElement v
  | v :: rest => sourceElement v ++ ", " ++ sourceItems rest

/-- Source spellings of map members' values, keys kept. -/
def sourceMembers : List (String × Value) → List (String × String)
  | [] => []
  | (k, v) :: rest => (k, sourceElement v) :: sourceMembers rest

/-- Source spellings of a record's fields as `name:value`, names given in order. -/
def sourceFields : List String → List Value → List String
  | n :: names, v :: rest => (n ++ ":" ++ sourceElement v) :: sourceFields names rest
  | _, _ => []

end

end Value
end QueryKit
