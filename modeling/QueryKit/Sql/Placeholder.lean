import QueryKit.Sql.Dialect

/-!
# Named placeholders

Statements carry their values as `:name` markers. A marker is a colon followed by a letter or
underscore and then letters, digits and underscores. Colons inside quoted text (single quotes,
double quotes or backticks, a doubled quote standing for itself) are not markers, and a double
colon (a cast) is skipped as a whole.

* `markers` lists the markers with the byte offsets where each starts and ends;
* `markerNames` lists the distinct names in order of first appearance;
* `substitute` replaces every marker by a dialect's placeholder: one position per distinct name
  (`reuse`) or one per marker, and returns the order of names the positions stand for;
* `bindFor` readies a statement for a dialect: the text with placeholders and the arguments in order,
  or the first name with no value.
-/

namespace QueryKit.Sql

/-- **A marker** in a statement: its name and the byte offsets of its colon and of its end. -/
structure Marker where
  name : String
  start : Nat
  stop : Nat
  deriving Repr, Inhabited

/-- Whether a character may stand in a marker name; digits not first. -/
def nameChar (first : Bool) (c : Char) : Bool :=
  (c.toNat < 128 && c.isAlpha) || c == '_' || (!first && c.toNat < 128 && c.isDigit)

/-- Skips a quoted text opened by `q` (already passed): the rest after the closing quote and
the bytes passed, a doubled quote standing for itself; nothing when the quote is never closed. -/
def skipQuoted (q : Char) : List Char → Nat → Option (List Char × Nat)
  | [], _ => none
  | [c], n => if c == q then some ([], n + 1) else none
  | c :: c' :: rest, n =>
    if c == q then
      if c' == q then skipQuoted q rest (n + 2) else some (c' :: rest, n + 1)
    else skipQuoted q (c' :: rest) (n + c.utf8Size)

/-- Scans a statement from byte offset `pos`, collecting markers; an unclosed quote ends the
scan. `fuel` is the number of characters left. -/
def scan : Nat → List Char → Nat → List Marker
  | 0, _, _ => []
  | _, [], _ => []
  | fuel + 1, c :: rest, pos =>
    if c == '\'' || c == '"' || c == '\x60' then
      match skipQuoted c rest 0 with
      | none => []
      | some (after, used) => scan fuel after (pos + 1 + used)
    else if c == ':' then
      match rest with
      | ':' :: more => scan fuel more (pos + 2)
      | _ =>
        let nameChars := match rest with
          | d :: more => if nameChar true d then d :: more.takeWhile (nameChar false) else []
          | [] => []
        if nameChars.isEmpty then scan fuel rest (pos + 1)
        else
          let stop := pos + 1 + nameChars.length
          ⟨String.ofList nameChars, pos, stop⟩ :: scan fuel (rest.drop nameChars.length) stop
    else scan fuel rest (pos + c.utf8Size)

/-- **Markers** of a statement, in order. -/
def markers (query : String) : List Marker := scan (query.length + 1) query.toList 0

/-- Distinct names in order of first appearance. -/
def distinctNames (names : List String) : List String :=
  names.foldl (fun acc n => if acc.contains n then acc else acc ++ [n]) []

/-- **Marker names**, each once, in order of first appearance. -/
def markerNames (query : String) : List String := distinctNames ((markers query).map (·.name))

/-- The bytes of a text between two byte offsets. -/
def byteSlice (query : String) (start stop : Nat) : String :=
  String.fromUTF8! (query.toUTF8.extract start stop)

/-- **Substituting placeholders** for markers, with the order of names behind the positions. -/
def substitute (query : String) (placeholder : Nat → String) (reuse : Bool) : String × List String :=
  let ms := markers query
  if ms.isEmpty then (query, []) else
  let step := fun (acc : String × List String × Nat) (m : Marker) =>
    let (out, order, last) := acc
    let out := out ++ byteSlice query last m.start
    if reuse then
      match order.findIdx? (· == m.name) with
      | some i => (out ++ placeholder (i + 1), order, m.stop)
      | none => (out ++ placeholder (order.length + 1), order ++ [m.name], m.stop)
    else (out ++ placeholder (order.length + 1), order ++ [m.name], m.stop)
  let (out, order, last) := ms.foldl step ("", [], 0)
  (out ++ byteSlice query last query.utf8ByteSize, order)

/-- **An argument** passed with a statement: a value, named or by position. -/
structure Argument where
  /-- The name, for named placeholders. -/
  name : Option String
  /-- The value. -/
  value : Value
  deriving Repr, Inhabited

/-- **Readying a statement** for a dialect: the statement as sent and its arguments. -/
def bindFor (d : Dialect) (query : String) (lookup : String → Option Value) :
    Except Fault (String × List Argument) :=
  let (text, names) := match d.bindStyle with
    | .named => (query, markerNames query)
    | .numbered => substitute query (fun n => d.placeholder n) true
    | .positional => substitute query (fun n => d.placeholder n) false
  let rec args : List String → Except Fault (List Argument)
    | [] => .ok []
    | n :: rest =>
      match lookup n with
      | none => .error (Fault.invalid "bind" ("no value bound for parameter :" ++ n))
      | some v => do
        let more ← args rest
        return ⟨if d.bindStyle == .named then some n else none, v⟩ :: more
  (args names).map (fun a => (text, a))

end QueryKit.Sql
