import QueryKit.Config.Store
import QueryKit.Decimal.Parse
import QueryKit.Yaml.Scalar

/-!
# TOML documents

A TOML document read into a tree of maps: tables become maps, arrays of tables become lists of
maps, and every key/value line lands in the table above it.

* keys are bare (`a-b_c1`), quoted (`"a b"`, `'a\b'`) or dotted (`a.b.c`, blanks around the
  dots allowed);
* strings are basic (with escapes), literal, or either over several lines; integers are
  decimal (underscores between digits, no leading zeros), or hexadecimal, octal or binary after
  `0x`, `0o`, `0b`, within 64 signed bits; doubles have a fraction or an exponent, or are
  `inf` and `nan` with an optional sign; booleans are `true` and `false`;
* a date and time with an offset is a moment; a date, a time of day, or both without an offset
  are kept as such, with no zone;
* arrays may span lines and end with a comma; inline tables stay on their line;
* control characters other than the tab may not stand in strings or comments;
* a key defined twice is an error; so is a table defined twice, a table header for a key that
  holds a value, an array of tables over a plain table or the other way round, and adding keys to
  an inline table or to a table a header has closed; anything else that does not read is an
  error too.
-/

namespace QueryKit.Toml

open Config

/-- A complaint about a document. -/
def complaint (message : String) : String := "toml: " ++ message

/-- Drops blanks inside a line. -/
def skipBlanks (cs : List Char) : List Char := cs.dropWhile (fun c => c == ' ' || c == '\t')

/-- **Characters a string or a comment may hold**: the tab, and everything from the space on
but the delete character. -/
def textChar (c : Char) : Bool := c == '\t' || (c.toNat ≥ 0x20 && c.toNat != 0x7F)

/-- Drops a comment up to the end of its line; a carriage return may only end it before a line
feed. -/
def skipComment : List Char → Except String (List Char)
  | '#' :: rest =>
    let body := rest.takeWhile (· != '\n')
    let after := rest.drop body.length
    let text := if body.getLast? == some '\r' && !after.isEmpty then body.dropLast else body
    if text.all textChar then .ok (rest.drop text.length) else .error (complaint "invalid character in comment")
  | cs => .ok cs

/-- Drops blanks, comments and line breaks. -/
def skipLayout : Nat → List Char → Except String (List Char)
  | 0, cs => .ok cs
  | fuel + 1, cs => do
    match ← skipComment (skipBlanks cs) with
    | '\n' :: rest => skipLayout fuel rest
    | '\r' :: '\n' :: rest => skipLayout fuel rest
    | rest => .ok rest

/-- Characters of bare keys. -/
def bareKeyChar (c : Char) : Bool :=
  ('a' ≤ c && c ≤ 'z') || ('A' ≤ c && c ≤ 'Z') || c.isDigit || c == '_' || c == '-'

/-- The value of hexadecimal digits. -/
def hexDigits (cs : List Char) : Option Nat :=
  cs.foldl (fun acc c => acc.bind fun n => (Yaml.digitValue c).bind fun d =>
    if d < 16 then some (n * 16 + d) else none) (some 0)

/-- A code point named by an escape, if it is one that stands for a character. -/
def escaped (n : Nat) : Except String Char :=
  if n > 0x10FFFF || (0xD800 ≤ n && n < 0xE000) then .error (complaint "escape sequence is invalid Unicode code point")
  else .ok (Char.ofNat n)

/-- Reads an escape after a backslash in a basic string. -/
def escape : List Char → Except String (Char × List Char)
  | 'b' :: rest => .ok ('\x08', rest)
  | 't' :: rest => .ok ('\t', rest)
  | 'n' :: rest => .ok ('\n', rest)
  | 'f' :: rest => .ok ('\x0c', rest)
  | 'r' :: rest => .ok ('\r', rest)
  | 'e' :: rest => .ok ('\x1b', rest)
  | '"' :: rest => .ok ('"', rest)
  | '\\' :: rest => .ok ('\\', rest)
  | 'u' :: rest =>
    match hexDigits (rest.take 4) with
    | some n =>
      if (rest.take 4).length == 4 then (escaped n).map (·, rest.drop 4) else .error (complaint "invalid escape in string")
    | none => .error (complaint "invalid escape in string")
  | 'U' :: rest =>
    match hexDigits (rest.take 8) with
    | some n =>
      if (rest.take 8).length == 8 then (escaped n).map (·, rest.drop 8) else .error (complaint "invalid escape in string")
    | none => .error (complaint "invalid escape in string")
  | _ => .error (complaint "invalid escape in string")

/-- Reads a basic string after its opening quote, up to the closing one. -/
def basicString : Nat → List Char → List Char → Except String (String × List Char)
  | 0, _, _ => .error (complaint "unterminated basic string")
  | fuel + 1, cs, acc =>
    match cs with
    | [] | '\n' :: _ | '\r' :: _ => .error (complaint "unterminated basic string")
    | '"' :: rest => .ok (String.ofList acc.reverse, rest)
    | '\\' :: rest => do
      let (c, after) ← escape rest
      basicString fuel after (c :: acc)
    | c :: rest => if textChar c then basicString fuel rest (c :: acc) else .error (complaint "invalid character")

/-- Reads a literal string after its opening quote, up to the closing one. -/
def literalString (cs : List Char) : Except String (String × List Char) :=
  let body := cs.takeWhile (fun c => c != '\'' && c != '\n')
  match cs.drop body.length with
  | '\'' :: rest =>
    if body.all textChar then .ok (String.ofList body, rest) else .error (complaint "invalid character")
  | _ => .error (complaint "unterminated literal string")

/-- Drops a line break right after the opening quotes of a string over several lines. -/
def dropFirstBreak : List Char → List Char
  | '\n' :: rest => rest
  | '\r' :: '\n' :: rest => rest
  | cs => cs

/-- Reads a basic string over several lines after its opening quotes: a backslash at the end of
a line drops the line break and the blanks after it. -/
def multiBasic : Nat → List Char → List Char → Except String (String × List Char)
  | 0, _, _ => .error (complaint "unterminated multiline basic string")
  | fuel + 1, cs, acc =>
    match cs with
    | [] => .error (complaint "unterminated multiline basic string")
    | '"' :: '"' :: '"' :: '"' :: '"' :: rest => .ok (String.ofList ('"' :: '"' :: acc).reverse, rest)
    | '"' :: '"' :: '"' :: '"' :: rest => .ok (String.ofList ('"' :: acc).reverse, rest)
    | '"' :: '"' :: '"' :: rest => .ok (String.ofList acc.reverse, rest)
    | '\\' :: rest =>
      let blanks := skipBlanks rest
      match blanks with
      | '\n' :: _ | '\r' :: '\n' :: _ =>
        multiBasic fuel (blanks.dropWhile (fun c => c == ' ' || c == '\t' || c == '\n' || c == '\r')) acc
      | _ => do
        let (c, after) ← escape rest
        multiBasic fuel after (c :: acc)
    | '\r' :: '\n' :: rest => multiBasic fuel rest ('\n' :: '\r' :: acc)
    | c :: rest =>
      if c == '\n' || textChar c then multiBasic fuel rest (c :: acc) else .error (complaint "invalid character")

/-- Reads a literal string over several lines after its opening quotes. -/
def multiLiteral : Nat → List Char → List Char → Except String (String × List Char)
  | 0, _, _ => .error (complaint "unterminated multiline literal string")
  | fuel + 1, cs, acc =>
    match cs with
    | [] => .error (complaint "unterminated multiline literal string")
    | '\'' :: '\'' :: '\'' :: '\'' :: '\'' :: rest => .ok (String.ofList ('\'' :: '\'' :: acc).reverse, rest)
    | '\'' :: '\'' :: '\'' :: '\'' :: rest => .ok (String.ofList ('\'' :: acc).reverse, rest)
    | '\'' :: '\'' :: '\'' :: rest => .ok (String.ofList acc.reverse, rest)
    | '\r' :: '\n' :: rest => multiLiteral fuel rest ('\n' :: '\r' :: acc)
    | c :: rest =>
      if c == '\n' || textChar c then multiLiteral fuel rest (c :: acc) else .error (complaint "invalid character")

/-- Reads one part of a key. -/
def keyPart (fuel : Nat) (cs : List Char) : Except String (String × List Char) :=
  match cs with
  | '"' :: rest => basicString fuel rest []
  | '\'' :: rest => literalString rest
  | _ =>
    let body := cs.takeWhile bareKeyChar
    if body.isEmpty then .error (complaint "invalid character at start of key: " ++
      (match cs with | c :: _ => String.singleton c | [] => "end of input"))
    else .ok (String.ofList body, cs.drop body.length)

/-- Reads a dotted key: its parts in order. -/
def dottedKey : Nat → List Char → Except String (List String × List Char)
  | 0, _ => .error (complaint "key too long")
  | fuel + 1, cs => do
    let (part, rest) ← keyPart (cs.length + 1) (skipBlanks cs)
    match skipBlanks rest with
    | '.' :: more => do
      let (parts, after) ← dottedKey fuel more
      return (part :: parts, after)
    | after => return ([part], after)

/-- Whether a character ends a number or a date. -/
def endsToken (c : Char) : Bool :=
  c == ' ' || c == '\t' || c == '\n' || c == '\r' || c == ',' || c == ']' || c == '\x7d' || c == '#'

/-- Whether digits with underscores have every underscore between two digits. -/
def underscoresBetween (cs : List Char) : Bool :=
  !cs.isEmpty && cs.head? != some '_' && cs.getLast? != some '_' &&
    !(cs.zip (cs.drop 1)).any (fun (a, b) => a == '_' && b == '_')

/-- Reads an integer token, within 64 signed bits. -/
def integer (token : List Char) : Option Int :=
  let prefixed (base : Nat) (ds : List Char) : Option Int :=
    if !underscoresBetween ds then none
    else (Yaml.digitsIn base (ds.filter (· != '_'))).bind fun n =>
      if n < Nat.pow 2 63 then some (n : Int) else none
  match token with
  | '0' :: 'x' :: ds => prefixed 16 ds
  | '0' :: 'o' :: ds => prefixed 8 ds
  | '0' :: 'b' :: ds => prefixed 2 ds
  | _ =>
    let (negative, ds) := match token with
      | '-' :: r => (true, r)
      | '+' :: r => (false, r)
      | r => (false, r)
    if !underscoresBetween ds || !ds.all (fun c => c.isDigit || c == '_') then none
    else if ds.head? == some '0' && ds.length > 1 then none
    else
      let n : Nat := Decimal.digitsValue (ds.filter (· != '_'))
      if negative then (if n ≤ Nat.pow 2 63 then some (-(n : Int)) else none)
      else if n < Nat.pow 2 63 then some (n : Int) else none

/-- Reads a double token: a decimal with a fraction or an exponent, or `inf` or `nan`. -/
def double (token : List Char) : Option Float :=
  let (negative, body) := match token with
    | '-' :: r => (true, r)
    | '+' :: r => (false, r)
    | r => (false, r)
  let signed (x : Float) : Float := if negative then -x else x
  if body == ['i', 'n', 'f'] then some (signed (1.0 / 0.0))
  else if body == ['n', 'a', 'n'] then some (signed (0.0 / 0.0))
  else
    let intPart := body.takeWhile (fun c => c.isDigit || c == '_')
    let rest := body.drop intPart.length
    let intOk := underscoresBetween intPart && !(intPart.head? == some '0' && intPart.length > 1)
    let (fracOk, rest) : Bool × List Char := match rest with
      | '.' :: r =>
        let f := r.takeWhile (fun c => c.isDigit || c == '_')
        (underscoresBetween f, r.drop f.length)
      | r => (true, r)
    let expOk := match rest with
      | [] => true
      | e :: r =>
        let ds := match r with
          | '+' :: x | '-' :: x => x
          | x => x
        (e == 'e' || e == 'E') && underscoresBetween ds && ds.all (fun c => c.isDigit || c == '_')
    if intOk && fracOk && expOk && (body.contains '.' || body.contains 'e' || body.contains 'E') then
      (Decimal.parseFloat (String.ofList (token.filter (· != '_'))))
    else none

/-- Reads a date `yyyy-mm-dd` at the start of a token: the date and what follows. -/
def date? (cs : List Char) : Option (Civil × List Char) :=
  match cs with
  | y1 :: y2 :: y3 :: y4 :: '-' :: m1 :: m2 :: '-' :: d1 :: d2 :: rest =>
    if [y1, y2, y3, y4, m1, m2, d1, d2].all Char.isDigit then
      let month := Decimal.digitsValue [m1, m2]
      let year : Int := Decimal.digitsValue [y1, y2, y3, y4]
      let day := Decimal.digitsValue [d1, d2]
      if month < 1 || month > 12 || day < 1 || day > daysInMonth month year then none
      else some (⟨year, month, day⟩, rest)
    else none
  | _ => none

/-- **Reads a time of day** `hh:mm:ss` with an optional fraction of at least one digit, of which
nine are kept: the time and what follows. -/
def clock? (cs : List Char) : Option (FloatingClock × List Char) :=
  match cs with
  | h1 :: h2 :: ':' :: m1 :: m2 :: ':' :: s1 :: s2 :: rest =>
    if [h1, h2, m1, m2, s1, s2].all Char.isDigit then
      let h := Decimal.digitsValue [h1, h2]
      let m := Decimal.digitsValue [m1, m2]
      let s := Decimal.digitsValue [s1, s2]
      if h ≥ 24 || m ≥ 60 || s ≥ 61 then none
      else
        match rest with
        | '.' :: r =>
          let ds := r.takeWhile Char.isDigit
          if ds.isEmpty then none
          else
            let kept := ds.take 9
            let nanos := Decimal.digitsValue kept * Nat.pow 10 (9 - kept.length)
            some (⟨h, m, s, nanos, kept.length⟩, r.drop ds.length)
        | r => some (⟨h, m, s, 0, 0⟩, r)
    else none
  | _ => none

/-- Reads an offset: `Z` or a sign and `hh:mm` (hours up to 23, minutes up to 59), in seconds
east. -/
def offset? : List Char → Option (Int × List Char)
  | 'Z' :: rest | 'z' :: rest => some (0, rest)
  | sign :: h1 :: h2 :: ':' :: m1 :: m2 :: rest =>
    let hours := Decimal.digitsValue [h1, h2]
    let minutes := Decimal.digitsValue [m1, m2]
    if (sign == '+' || sign == '-') && [h1, h2, m1, m2].all Char.isDigit && hours ≤ 23 && minutes ≤ 59 then
      let secs : Int := (hours * 3600 + minutes * 60 : Nat)
      some (if sign == '-' then -secs else secs, rest)
    else none
  | _ => none

/-- Whether the text right after a date or time leaves it whole: the end of the value. -/
def endsValue : List Char → Bool
  | [] => true
  | c :: _ => endsToken c

/-- **Reads a date or time value** at the start of the text: the value and what follows. A date and
time with an offset is a moment; a date, a time of day, or both without an offset are kept
without a zone. -/
def moment? (cs : List Char) : Option (Value × List Char) :=
  match date? cs with
  | some (civil, rest) =>
    let day : FloatingDate := ⟨civil.year.toNat, civil.month, civil.day⟩
    let joined : Option (List Char) := match rest with
      | 'T' :: r | 't' :: r => some r
      | ' ' :: r => if (clock? r).isSome then some r else none
      | _ => none
    match joined with
    | none => some (.floating (.date day), rest)
    | some r =>
      match clock? r with
      | none => none
      | some (time, after) =>
        match offset? after with
        | some (off, after2) =>
          let zone : Zone := if off == 0 then .utc else .fixed off
          let secs : Int := time.hour * 3600 + time.minute * 60 + time.second
          some (.time ⟨daysOfCivil civil * 86400 + secs - off, time.nanos⟩ zone, after2)
        | none => if endsValue after then some (.floating (.dateClock day time), after) else none
  | none =>
    match clock? cs with
    | some (time, after) => if endsValue after then some (.floating (.clock time), after) else none
    | none => none

/-- Puts a value at a dotted key inside a table, making tables on the way; a key given twice is
an error. -/
def insertValue : List String → Value → Layer → Except String Layer
  | [], _, t => .ok t
  | [k], v, t =>
    if (t.lookup k).isSome then .error (complaint ("key " ++ k ++ " is already defined"))
    else .ok (t ++ [(k, v)])
  | k :: rest, v, t =>
    match t.lookup k with
    | none => do
      let inner ← insertValue rest v []
      return t ++ [(k, .map inner)]
    | some (.map m) => do
      let inner ← insertValue rest v m
      return setMember k (.map inner) t
    | some _ => .error (complaint ("key " ++ k ++ " is already defined"))

/-! ## Keys seen

Which keys a document has defined, and as what, so that no key is defined twice and no table is
reopened. -/

/-- **What a key was made for**: a value (an inline table or an array written out counts as
one), a table, or an array of tables. -/
inductive KeyKind where
  | value
  | table
  | arrayTable
  deriving BEq, Inhabited

/-- The name of a kind. -/
def KeyKind.name : KeyKind → String
  | .value => "value"
  | .table => "table"
  | .arrayTable => "array table"

/-- **A key seen**: its path from the top, what it was made for, and whether its table is
defined, by a header or by a later header that closed it. -/
structure SeenKey where
  path : List String
  kind : KeyKind
  explicit : Bool
  deriving Inhabited

/-- **The keys seen**, in the order they were first seen. -/
abbrev Seen := List SeenKey

/-- Whether a path lies strictly below another. -/
def isBelow (top path : List String) : Bool :=
  path.length > top.length && path.take top.length == top

namespace Seen

/-- The key of a path, if it was seen. -/
def lookup (s : Seen) (path : List String) : Option SeenKey := s.find? (·.path == path)

/-- **Closing a table**: every key below it counts as defined. -/
def close (s : Seen) (table : List String) : Seen :=
  s.map (fun e => if isBelow table e.path then { e with explicit := true } else e)

/-- **Forgetting what lies below an array of tables**, when it gets a new element. -/
def clear (s : Seen) (table : List String) : Seen := s.filter (fun e => !isBelow table e.path)

/-- Marks a seen table as defined. -/
def define (s : Seen) (path : List String) : Seen :=
  s.map (fun e => if e.path == path then { e with explicit := true } else e)

/-- **The tables on the way to a header's table**: new ones are made tables, and none may be a
value. -/
def parents (s : Seen) (parent : List String) : List String → Except String Seen
  | [] => .ok s
  | k :: rest =>
    let path := parent ++ [k]
    match s.lookup path with
    | none => parents (s ++ [⟨path, .table, false⟩]) path rest
    | some e =>
      if e.kind == .value then .error (complaint ("expected " ++ k ++ " to be a table, not a value"))
      else parents s path rest

/-- **A key of a key/value line**: the keys on the way must be tables that no header defined, and
the last one must be new. -/
def keys (s : Seen) (parent : List String) : List String → Except String Seen
  | [] => .ok s
  | [k] =>
    let path := parent ++ [k]
    match s.lookup path with
    | none => .ok (s ++ [⟨path, .value, false⟩])
    | some _ => .error (complaint ("key " ++ k ++ " is already defined"))
  | k :: rest =>
    let path := parent ++ [k]
    match s.lookup path with
    | none => keys (s ++ [⟨path, .table, false⟩]) path rest
    | some e =>
      if e.kind != .table then .error (complaint ("expected " ++ k ++ " to be a table, not a " ++ e.kind.name))
      else if e.explicit then .error (complaint ("cannot redefine table " ++ k ++ " that has already been defined"))
      else keys s path rest

/-- **A table header** `[path]`, after the current table: the table must be new, or made on the
way to another and not defined yet. -/
def table (s : Seen) (current path : List String) : Except String Seen := do
  let s ← (s.close current).parents [] path.dropLast
  let last := path.getLastD ""
  match s.lookup path with
  | some e =>
    if e.kind != .table then .error (complaint ("key " ++ last ++ " should be a table, not a " ++ e.kind.name))
    else if e.explicit then .error (complaint ("table " ++ last ++ " already exists"))
    else .ok (s.define path)
  | none => .ok (s ++ [⟨path, .table, true⟩])

/-- **An array table header** `[[path]]`, after the current table: the key must be new or an
array of tables, whose new element starts with nothing seen below it. -/
def arrayTable (s : Seen) (current path : List String) : Except String Seen := do
  let s ← (s.close current).parents [] path.dropLast
  match s.lookup path with
  | some e =>
    if e.kind != .arrayTable then
      .error (complaint ("key " ++ path.getLastD "" ++ " already exists as a " ++ e.kind.name ++ ", but should be an array table"))
    else .ok (s.clear path)
  | none => .ok (s ++ [⟨path, .arrayTable, true⟩])

end Seen

mutual

/-- **Reads a value**: the value and what follows it. -/
def value : Nat → List Char → Except String (Value × List Char)
  | 0, _ => .error (complaint "nesting too deep")
  | fuel + 1, cs =>
    match cs with
    | '"' :: '"' :: '"' :: rest => do
      let (s, after) ← multiBasic (rest.length + 1) (dropFirstBreak rest) []
      return (.text s, after)
    | '"' :: rest => do
      let (s, after) ← basicString (rest.length + 1) rest []
      return (.text s, after)
    | '\'' :: '\'' :: '\'' :: rest => do
      let (s, after) ← multiLiteral (rest.length + 1) (dropFirstBreak rest) []
      return (.text s, after)
    | '\'' :: rest => do
      let (s, after) ← literalString rest
      return (.text s, after)
    | '[' :: rest => do array fuel (← skipLayout (rest.length + 1) rest) []
    | '\x7b' :: rest => inlineTable fuel (skipBlanks rest) [] [] true
    | 't' :: 'r' :: 'u' :: 'e' :: rest => .ok (.bool true, rest)
    | 'f' :: 'a' :: 'l' :: 's' :: 'e' :: rest => .ok (.bool false, rest)
    | [] | '\n' :: _ => .error (complaint "expected value, not eof")
    | _ =>
      match moment? cs with
      | some r => .ok r
      | none =>
        let token := cs.takeWhile (fun c => !endsToken c)
        let rest := cs.drop token.length
        match integer token with
        | some n => .ok (.int n, rest)
        | none =>
          match double token with
          | some x => .ok (.float x, rest)
          | none => .error (complaint ("invalid value: " ++ String.ofList token))

/-- Reads array items up to the closing bracket; `acc` holds the items read, backwards. -/
def array : Nat → List Char → List Value → Except String (Value × List Char)
  | 0, _, _ => .error (complaint "nesting too deep")
  | fuel + 1, cs, acc =>
    match cs with
    | ']' :: rest => .ok (.list acc.reverse, rest)
    | _ => do
      let (v, after) ← value fuel cs
      match ← skipLayout (after.length + 1) after with
      | ',' :: more => array fuel (← skipLayout (more.length + 1) more) (v :: acc)
      | ']' :: more => .ok (.list (v :: acc).reverse, more)
      | _ => .error (complaint "array elements must be separated by commas")

/-- Reads the members of an inline table up to the closing brace; `acc` holds the table so far and
`seen` the keys it has defined. -/
def inlineTable : Nat → List Char → Layer → Seen → Bool → Except String (Value × List Char)
  | 0, _, _, _, _ => .error (complaint "nesting too deep")
  | fuel + 1, cs, acc, seen, first =>
    match cs with
    | '\x7d' :: rest => if first then .ok (.map acc, rest) else .error (complaint "expected key after comma in inline table")
    | _ => do
      let (path, after) ← dottedKey (cs.length + 1) cs
      match skipBlanks after with
      | '=' :: more => do
        let (v, after2) ← value fuel (skipBlanks more)
        let seen ← seen.keys [] path
        let acc ← insertValue path v acc
        match skipBlanks after2 with
        | ',' :: more2 => inlineTable fuel (skipBlanks more2) acc seen false
        | '\x7d' :: more2 => .ok (.map acc, more2)
        | _ => .error (complaint "expected , or \x7d in inline table")
      | _ => .error (complaint "expected character =")

end

/-- Changes the table at a path (into the last table of an array of tables), making tables on
the way. -/
def updateAt (f : Layer → Except String Layer) : List String → Layer → Except String Layer
  | [], t => f t
  | k :: rest, t =>
    match t.lookup k with
    | none => do
      let inner ← updateAt f rest []
      return t ++ [(k, .map inner)]
    | some (.map m) => do
      let inner ← updateAt f rest m
      return setMember k (.map inner) t
    | some (.list items) =>
      match items.getLast? with
      | some (.map m) => do
        let inner ← updateAt f rest m
        return setMember k (.list (items.dropLast ++ [.map inner])) t
      | _ => .error (complaint ("key " ++ k ++ " is already defined"))
    | some _ => .error (complaint ("key " ++ k ++ " is already defined"))

/-- **Where reading stands**: the tree so far, the table key/value lines go into, and the keys
seen. -/
structure Reading where
  tree : Layer := []
  /-- The path of the table key/value lines go into. -/
  current : List String := []
  seen : Seen := []

/-- Reads the rest of a line after a header or a key/value: only blanks and a comment may
follow. -/
def lineEnd (cs : List Char) : Except String (List Char) := do
  match ← skipComment (skipBlanks cs) with
  | [] => .ok []
  | '\n' :: rest => .ok rest
  | '\r' :: '\n' :: rest => .ok rest
  | c :: _ => .error (complaint ("expected newline but got " ++ Text.quote (String.singleton c)))

/-- Reads the lines of a document. -/
def lines : Nat → List Char → Reading → Except String Reading
  | 0, _, r => .ok r
  | fuel + 1, cs, r => do
    match ← skipLayout (cs.length + 1) cs with
    | [] => .ok r
    | '[' :: '[' :: rest => do
      let (path, after) ← dottedKey (rest.length + 1) rest
      match skipBlanks after with
      | ']' :: ']' :: more => do
        let rest2 ← lineEnd more
        let seen ← r.seen.arrayTable r.current path
        let parent := path.dropLast
        let last := path.getLast?.getD ""
        let tree ← updateAt (fun t =>
          match t.lookup last with
          | none => .ok (t ++ [(last, .list [.map []])])
          | some (.list items) => .ok (setMember last (.list (items ++ [.map []])) t)
          | some _ => .error (complaint ("key " ++ last ++ " is already defined"))) parent r.tree
        lines fuel rest2 { tree := tree, current := path, seen := seen }
      | _ => .error (complaint "expected ]] at the end of an array table")
    | '[' :: rest => do
      let (path, after) ← dottedKey (rest.length + 1) rest
      match skipBlanks after with
      | ']' :: more => do
        let rest2 ← lineEnd more
        let seen ← r.seen.table r.current path
        let tree ← updateAt (fun t => .ok t) path r.tree
        lines fuel rest2 { tree := tree, current := path, seen := seen }
      | _ => .error (complaint "expected ] at the end of a table")
    | body => do
      let (path, after) ← dottedKey (body.length + 1) body
      match skipBlanks after with
      | '=' :: more => do
        let (v, after2) ← value (more.length + 2) (skipBlanks more)
        let rest2 ← lineEnd after2
        let seen ← r.seen.keys r.current path
        let tree ← updateAt (insertValue path v) r.current r.tree
        lines fuel rest2 { r with tree := tree, seen := seen }
      | _ => .error (complaint "expected character =")

/-- **Reading a TOML document** into a tree of maps. -/
def parse (text : String) : Except String Layer := do
  let cs := text.toList
  let r ← lines (cs.length + 1) cs {}
  return r.tree

end QueryKit.Toml
