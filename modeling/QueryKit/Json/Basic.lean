import QueryKit.Text.Quoted

/-!
# JSON documents

A JSON document as the library writes it: numbers keep the exact text they were written with,
objects keep the order of their members (a map's members are sorted before they get here), and
strings are escaped the way the library's JSON output escapes them.

* `Json.write` writes a document compactly, `Json.writeIndented` with one member or element per
  line, indented by two spaces per level, and `[]`/`{}` for empty containers;
* in strings `"` and `\` are escaped by a backslash; backspace, form feed, line feed, carriage
  return and tab have their one-letter escapes; other controls are `\u00NN`; U+2028 and U+2029
  are always escaped, and `<`, `>`, `&` when `escapeHtml` is set.
-/

namespace QueryKit

/-- **JSON documents.** -/
inductive Json where
  /-- `null` -/
  | null
  /-- `true` or `false` -/
  | bool (b : Bool)
  /-- A number, as written. -/
  | num (literal : String)
  /-- A string. -/
  | str (s : String)
  /-- An array. -/
  | arr (items : List Json)
  /-- An object, members in order. -/
  | obj (members : List (String × Json))
  deriving Repr, Inhabited, BEq

namespace Json

/-- A number member from an integer. -/
def int (n : Int) : Json := .num (toString n)

/-- The escape of one character inside a JSON string. -/
def escapeChar (escapeHtml : Bool) (c : Char) : List Char :=
  let n := c.toNat
  let unicode := fun (n : Nat) => '\\' :: 'u' :: Text.hexDigits n 4
  if c == '"' then ['\\', '"']
  else if c == '\\' then ['\\', '\\']
  else if n == 8 then ['\\', 'b']
  else if n == 12 then ['\\', 'f']
  else if n == 10 then ['\\', 'n']
  else if n == 13 then ['\\', 'r']
  else if n == 9 then ['\\', 't']
  else if n < 0x20 then unicode n
  else if escapeHtml && (c == '<' || c == '>' || c == '&') then unicode n
  else if n == 0x2028 || n == 0x2029 then unicode n
  else [c]

/-- **String literal.** A text as a JSON string. -/
def quote (escapeHtml : Bool) (s : String) : String :=
  String.ofList ('"' :: (s.toList.flatMap (escapeChar escapeHtml) ++ ['"']))

mutual

/-- Compact text of a document. -/
def write (escapeHtml : Bool) : Json → String
  | .null => "null"
  | .bool b => if b then "true" else "false"
  | .num s => s
  | .str s => quote escapeHtml s
  | .arr items => "[" ++ writeItems escapeHtml items ++ "]"
  | .obj members => "\x7b" ++ writeMembers escapeHtml members ++ "\x7d"

/-- Compact text of array items, comma separated. -/
def writeItems (escapeHtml : Bool) : List Json → String
  | [] => ""
  | [j] => write escapeHtml j
  | j :: rest => write escapeHtml j ++ "," ++ writeItems escapeHtml rest

/-- Compact text of object members, comma separated. -/
def writeMembers (escapeHtml : Bool) : List (String × Json) → String
  | [] => ""
  | [(k, v)] => quote escapeHtml k ++ ":" ++ write escapeHtml v
  | (k, v) :: rest =>
    quote escapeHtml k ++ ":" ++ write escapeHtml v ++ "," ++ writeMembers escapeHtml rest

end

/-- `depth` levels of two-space indentation after a line break. -/
def newline (depth : Nat) : String := "\n" ++ String.ofList (List.replicate (2 * depth) ' ')

mutual

/-- Indented text of a document at the given depth. -/
def writeIndented (escapeHtml : Bool) (depth : Nat) : Json → String
  | .arr [] => "[]"
  | .obj [] => "\x7b\x7d"
  | .arr items => "[" ++ indentItems escapeHtml (depth + 1) items ++ newline depth ++ "]"
  | .obj members =>
    "\x7b" ++ indentMembers escapeHtml (depth + 1) members ++ newline depth ++ "\x7d"
  | j => write escapeHtml j

/-- Indented array items, one per line. -/
def indentItems (escapeHtml : Bool) (depth : Nat) : List Json → String
  | [] => ""
  | [j] => newline depth ++ writeIndented escapeHtml depth j
  | j :: rest =>
    newline depth ++ writeIndented escapeHtml depth j ++ "," ++ indentItems escapeHtml depth rest

/-- Indented object members, one per line. -/
def indentMembers (escapeHtml : Bool) (depth : Nat) : List (String × Json) → String
  | [] => ""
  | [(k, v)] => newline depth ++ quote escapeHtml k ++ ": " ++ writeIndented escapeHtml depth v
  | (k, v) :: rest =>
    newline depth ++ quote escapeHtml k ++ ": " ++ writeIndented escapeHtml depth v ++ "," ++
      indentMembers escapeHtml depth rest

end

/-- Inserts a member into members sorted by key, replacing one of the same key. -/
def insertSorted (k : String) (v : Json) : List (String × Json) → List (String × Json)
  | [] => [(k, v)]
  | (k', v') :: rest =>
    if k == k' then (k, v) :: rest
    else if k < k' then (k, v) :: (k', v') :: rest
    else (k', v') :: insertSorted k v rest

/-- An object whose members are sorted by key, a later member replacing an earlier one of the
same key. -/
def sortedObj (members : List (String × Json)) : Json :=
  .obj (members.foldl (fun acc (k, v) => insertSorted k v acc) [])

end Json
end QueryKit
