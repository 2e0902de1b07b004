import QueryKit.Journal.Level
import QueryKit.Value.Marshal
import QueryKit.Time.Civil

/-!
# Writing log entries

A log entry becomes one line of text or one JSON document.

* the *text* layout writes `[time] [LEVEL] [site] message {key=value, …}`: the level padded to
  five characters, fields sorted by key (stably), texts quoted when empty or when they hold a
  blank, a quote, `=`, `:`, a brace, a bracket or a comma, errors always quoted, other values in
  their plain spelling; a coloured entry is wrapped in its level's colour;
* the *JSON* layout writes one object of the time, the level, the message, the site and the
  fields (a field replaces a member of the same key), errors and durations as text; an entry
  holding a double JSON cannot write is not written at all;
* an entry's time is either a known instant or the wall clock, which a pure computation cannot
  read and which is written `<time>`.
-/

namespace QueryKit.Journal

/-- **Where the time of an entry comes from.** -/
inductive Clock where
  /-- A fixed instant. -/
  | fixed (t : Instant)
  /-- The wall clock, unknown here; written `<time>`. -/
  | wall
  deriving Inhabited

/-- **Call sites**: where an entry was logged from, as the caller describes it. -/
structure Site where
  /-- The file and line. -/
  location : String
  /-- The function. -/
  function : String
  deriving Inhabited

/-- **Text layouts.** -/
structure TextLayout where
  timestamp : Bool := true
  timeLayout : String := "2006-01-02 15:04:05.000"
  site : Bool := true
  quote : Bool := true
  sort : Bool := true
  pad : Bool := true
  deriving Inhabited

/-- **JSON layouts.** -/
structure JsonLayout where
  timestamp : Bool := true
  timeLayout : String := Instant.rfc3339NanoLayout
  site : Bool := true
  pretty : Bool := false
  deriving Inhabited

/-- **Layouts.** -/
inductive Layout where
  | text (l : TextLayout)
  | json (l : JsonLayout)
  deriving Inhabited

/-- **Entries to write**: an entry with its time, call site and colouring. -/
structure Record where
  entry : Entry
  clock : Clock
  site : Option Site := none
  colored : Bool := false

/-- The time of a record after a layout. -/
def Clock.text (c : Clock) (layout : String) : String :=
  match c with
  | .fixed t => t.format layout
  | .wall => "<time>"

/-- Whether a text must be quoted in a text entry. -/
def needsQuoting (s : String) : Bool :=
  s.isEmpty || s.toList.any (fun c => " \t\r\n\"=:{},[]".toList.contains c)

/-- A field value in a text entry. -/
def textValue (l : TextLayout) : Value → String
  | .text s => if l.quote && needsQuoting s then Text.quote s else s
  | .failure m => Text.quote m
  | v => v.plain

/-- Sorts fields by key, keeping the order of equal keys. -/
def sortFields (fields : List (String × Value)) : List (String × Value) := sortByKey fields

/-- **A text entry.** -/
def TextLayout.write (l : TextLayout) (r : Record) : String :=
  let e := r.entry
  let level := e.level.name
  let level := if l.pad && level.length < 5 then level ++ String.ofList (List.replicate (5 - level.length) ' ')
    else level
  let fields := if l.sort then sortFields e.fields else e.fields
  let body :=
    (if l.timestamp then "[" ++ r.clock.text (if l.timeLayout.isEmpty then "2006-01-02 15:04:05.000" else l.timeLayout) ++ "] " else "") ++
    "[" ++ level ++ "] " ++
    (match r.site with
      | some s => if l.site then "[" ++ s.location ++ "] " else ""
      | none => "") ++
    e.message ++
    (if fields.isEmpty then "" else
      " \x7b" ++ ", ".intercalate (fields.map (fun (k, v) => k ++ "=" ++ textValue l v)) ++ "\x7d")
  (if r.colored then e.level.color else "") ++ body ++ (if r.colored then Level.reset else "") ++ "\n"

/-- A field value in a JSON entry. -/
def jsonValue : Value → Except String Json
  | .failure m => .ok (.str m)
  | .duration d => .ok (.str d.render)
  | v => v.marshal

/-- Sets a member, replacing one of the same key. -/
def setMember (k : String) (v : Json) (ms : List (String × Json)) : List (String × Json) :=
  if ms.any (·.1 == k) then ms.map (fun p => if p.1 == k then (k, v) else p) else ms ++ [(k, v)]

/-- **A JSON entry**, or the reason it cannot be written. -/
def JsonLayout.write (l : JsonLayout) (r : Record) : Except String String := do
  let e := r.entry
  let base : List (String × Json) :=
    (if l.timestamp then
      [("time", .str (r.clock.text (if l.timeLayout.isEmpty then Instant.rfc3339NanoLayout else l.timeLayout)))]
    else []) ++ [("level", .str e.level.name), ("msg", .str e.message)] ++
    (match r.site with
      | some s => if l.site then [("caller", .str s.location), ("function", .str s.function)] else []
      | none => [])
  let members ← e.fields.foldlM (fun ms (k, v) => do
    let j ← jsonValue v
    return setMember k j ms) base
  let doc := Json.sortedObj members
  return (if l.pretty then doc.writeIndented true 0 else doc.write true) ++ "\n"

/-- **Writing a record**, or the reason it cannot be written. -/
def Layout.write : Layout → Record → Except String String
  | .text l, r => .ok (l.write r)
  | .json l, r => l.write r

end QueryKit.Journal
