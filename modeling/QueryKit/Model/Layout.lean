import QueryKit.Value.Basic
import QueryKit.Fault.Basic
import QueryKit.Text.Blank
import QueryKit.Text.Case

/-!
# Column layouts of models

The columns a model maps to, field by field, in the order of its fields, the fields of embedded
records after the record's own.

* a field's column is its name in snake case (`CreatedAt` is `created_at`, `HTTPCode` is
  `http_code`), unless its tag names another: the tag's first part, or its `column:` setting;
* a tag is a list of parts separated by `;`, each a setting `key` or `key:value`; the parts
  `readonly` (or `readOnly`) and `omitempty` mark a field as never written, or as not written
  when it holds its zero value;
* the tag `-` leaves a field out, and so does a field that is not exported;
* an embedded record without a tag lends its fields, after the fields of the record around it;
  the nullable kinds read themselves from a column, so an embedded one is a field like any other;
* the first field of a column wins: a later field of the same column is left out.
-/

namespace QueryKit.Model

/-- Whether a character is an upper-case ASCII letter. -/
def isUpperAscii (c : Char) : Bool := 'A' ≤ c && c ≤ 'Z'

/-- Whether a character is a lower-case ASCII letter. -/
def isLowerAscii (c : Char) : Bool := 'a' ≤ c && c ≤ 'z'

/-- Puts an underscore before each capitalized word that follows a character. -/
def splitWords : Nat → List Char → List Char
  | 0, cs => cs
  | fuel + 1, c :: u :: rest =>
    let lows := rest.takeWhile isLowerAscii
    if c != '\n' && isUpperAscii u && !lows.isEmpty then
      c :: '_' :: u :: lows ++ splitWords fuel (rest.drop lows.length)
    else c :: splitWords fuel (u :: rest)
  | _, cs => cs

/-- Puts an underscore between a lower-case letter or digit and a following capital. -/
def splitCaps : Nat → List Char → List Char
  | 0, cs => cs
  | fuel + 1, c :: u :: rest =>
    if (isLowerAscii c || c.isDigit) && isUpperAscii u then c :: '_' :: u :: splitCaps fuel rest
    else c :: splitCaps fuel (u :: rest)
  | _, cs => cs

/-- **Snake case** of a field name: words split by underscores, in lower case. -/
def snake (name : String) : String :=
  let cs := name.toList
  let words := splitWords cs.length cs
  Text.lower (String.ofList (splitCaps words.length words))

/-- Sets a key, replacing an earlier setting of it. -/
def setKey (k v : String) (ms : List (String × String)) : List (String × String) :=
  if ms.any (·.1 == k) then ms.map (fun p => if p.1 == k then (k, v) else p) else ms ++ [(k, v)]

/-- **The settings of a tag**: each non-empty part as a key and a value (empty when the part has
no `:`), blanks around both trimmed; a later part of the same key wins. -/
def tagSettings (tag : String) : List (String × String) :=
  (tag.splitOn ";").foldl (fun acc part =>
    let part := Text.trim part
    if part.isEmpty then acc
    else
      let (k, v) := match part.splitOn ":" with
        | [k] => (k, "")
        | k :: rest => (k, ":".intercalate rest)
        | [] => ("", "")
      let k := Text.trim k
      if k.isEmpty then acc else setKey k (Text.trim v) acc) []

/-- **Whether a tag has an option**: a part that is the option, blanks around it trimmed. -/
def hasOption (tag option : String) : Bool :=
  (tag.splitOn ";").any (fun part => Text.trim part == option)

/-- The column a tag names: its `column:` setting, or else its first part when that is no
setting and no known option. -/
def columnOfTag (tag : String) (settings : List (String × String)) : String :=
  match settings.lookup "column" with
  | some c => if !c.isEmpty then c else fallback
  | none => fallback
where
  fallback : String :=
    let first := Text.trim ((tag.splitOn ";").headD "")
    if first.isEmpty || first.contains ':' || ["readonly", "readOnly", "omitempty"].contains first then ""
    else first

/-- **Columns of a model**: the field's name, its column, its shape, the positions leading to it
through embedded records, its tag settings, and whether it is never written or left out when
empty. -/
structure Column where
  name : String
  column : String
  shape : Shape
  index : List Nat
  settings : List (String × String) := []
  readonly : Bool := false
  omitempty : Bool := false
  deriving Inhabited

mutual

/-- How deeply shapes nest. -/
def depth : Shape → Nat
  | .ref t => depth t + 1
  | .record _ ss => slotsDepth ss + 1
  | _ => 1

/-- How deeply the shapes of fields nest. -/
def slotsDepth : List Slot → Nat
  | [] => 0
  | .mk _ s _ _ :: rest => max (depth s) (slotsDepth rest)

end

/-- The column of one field at position `i` of a record reached by `pfx`, unless the field is
left out. -/
def columnOf (slot : Slot) (pfx : List Nat) (i : Nat) : Option Column :=
  if !slot.exported then none
  else
    let base : Column := { name := slot.name, column := snake slot.name, shape := slot.shape, index := pfx ++ [i] }
    match slot.tag with
    | none => some base
    | some tag =>
      if tag == "-" then none
      else
        let settings := tagSettings tag
        let named := columnOfTag tag settings
        some { base with
          column := if named.isEmpty then base.column else named
          settings := settings
          readonly := hasOption tag "readonly" || hasOption tag "readOnly"
          omitempty := hasOption tag "omitempty" }

/-- Whether a field lends its fields to the record around it. -/
def lends (slot : Slot) : Bool :=
  slot.embedded && slot.tag.isNone && match slot.shape.indirect with
    | .record _ _ => true
    | _ => false

/-- **The columns of fields** at positions after `pfx`, the columns in `seen` taken already:
the fields' own columns, then those of the embedded records, and the columns taken after. -/
def layout : Nat → List Slot → List Nat → List String → List Column × List String
  | 0, _, _, seen => ([], seen)
  | fuel + 1, slots, pfx, seen =>
    let (own, embedded, seen) := slots.zipIdx.foldl (fun (acc : List Column × List (Slot × Nat) × List String) (slot, i) =>
      let (own, embedded, seen) := acc
      if lends slot then (own, embedded ++ [(slot, i)], seen)
      else
        match columnOf slot pfx i with
        | none => acc
        | some c => if seen.contains c.column then acc else (own ++ [c], embedded, seen ++ [c.column]))
      ([], [], seen)
    embedded.foldl (fun (acc : List Column × List String) (slot, i) =>
      let (more, seen) := layout fuel slot.shape.indirect.slots (pfx ++ [i]) acc.2
      (acc.1 ++ more, seen)) (own, seen)

/-- **The columns of a record shape**, references looked through; any other shape is refused. -/
def columns (s : Shape) : Except Fault (List Column) :=
  let t := s.indirect
  if t.isRecord then .ok (layout (depth t) t.slots [] []).1
  else .error (.model t.name "" .null "model must be a struct" none)

end QueryKit.Model
