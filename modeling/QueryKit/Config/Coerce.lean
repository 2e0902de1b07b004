import QueryKit.Value.Render
import QueryKit.Decimal.Text
import QueryKit.Text.Quoted
import QueryKit.Text.Utf8
import QueryKit.Yaml.Scalar
import QueryKit.Config.Store

/-!
# Loose conversions into typed fields

Reading a whole configuration into typed settings converts each value into the type of its field
as far as it sensibly can, and names the field in a problem when it cannot.

* an integer field takes integers and doubles (truncated), booleans as `1` and `0`, durations as
  nanoseconds, and texts in any base with a prefix (`0x1F`, `0o17`, `0b11`, `017`), the empty
  text as zero;
* a text field takes texts, booleans as `1` and `0`, integers in decimal and doubles in their
  shortest positional spelling;
* a boolean field takes booleans, numbers (non-zero is true) and the texts `1`, `t`, `T`,
  `TRUE`, `true`, `True` and their false counterparts, the empty text as false;
* a duration field reads a text as duration text, and otherwise takes what an integer field
  takes;
* problems are gathered, not stopped at: `Convert.report` lists them sorted, after their number.
-/

namespace QueryKit.Config

/-- **Conversions**: the problems met so far. -/
abbrev Convert := StateM (List String)

/-- Records a problem. -/
def Convert.problem (message : String) : Convert Unit := modify (· ++ [message])

/-- Inserts a text into a sorted list of texts. -/
def insertText (s : String) : List String → List String
  | [] => [s]
  | t :: rest => if s < t then s :: t :: rest else t :: insertText s rest

/-- **The report of problems**: their number, then each on a line of its own, sorted. -/
def Convert.report (problems : List String) : String :=
  let points := problems.foldr (fun p acc => insertText ("* " ++ p) acc) []
  toString problems.length ++ " error(s) decoding:\n\n" ++ "\n".intercalate points

/-- The problem of a value no conversion fits. -/
def unconvertible (name target : String) (v : Value) : String :=
  "'" ++ name ++ "' expected type '" ++ target ++ "', got unconvertible type '" ++ v.typeName ++
    "', value: '" ++ v.plain ++ "'"

/-- Whether underscores in an integer text only ever stand between digits (a base prefix counts
as a digit). -/
def underscoresFit (cs : List Char) : Bool :=
  let body := match cs with
    | '+' :: r | '-' :: r => r
    | r => r
  let (start, hex, rest) : Char × Bool × List Char := match body with
    | '0' :: b :: r =>
      let l := b.toLower
      if l == 'b' || l == 'o' || l == 'x' then ('0', l == 'x', r) else ('^', false, body)
    | _ => ('^', false, body)
  let step (saw : Option Char) (c : Char) : Option Char := saw.bind fun s =>
    if c.isDigit || (hex && 'a' ≤ c.toLower && c.toLower ≤ 'f') then some '0'
    else if c == '_' then (if s == '0' then some '_' else none)
    else if s == '_' then none
    else some '!'
  match rest.foldl step (some start) with
  | some s => s != '_'
  | none => false

/-- Reads digits of a base, underscores skipped, stopping at the first value past `limit`:
`none` for a character that is no digit of the base, `some none` for a value past the limit. -/
def digitsUpTo (base limit : Nat) : List Char → Nat → Option (Option Nat)
  | [], n => some (some n)
  | c :: rest, n =>
    if c == '_' then digitsUpTo base limit rest n
    else
      match Yaml.digitValue c with
      | none => none
      | some d =>
        if d ≥ base then none
        else
          let m := n * base + d
          if m > limit then some none else digitsUpTo base limit rest m

/-- **Integer texts in any base**, within 64 signed bits: an optional sign, an optional base
prefix (`0b`, `0o`, `0x`, or a bare leading `0` for octal), digits with underscores between
them. The complaint names the text. -/
def parseIntAnyBase (t : String) : Except String Int :=
  let fail (why : String) : Except String Int :=
    .error ("strconv.ParseInt: parsing " ++ Text.quote t ++ ": " ++ why)
  let cs := t.toList
  let (negative, body) := match cs with
    | '-' :: r => (true, r)
    | '+' :: r => (false, r)
    | r => (false, r)
  if body.isEmpty then fail "invalid syntax"
  else
    let (base, ds) : Nat × List Char := match body with
      | '0' :: b :: d :: rest =>
        let l := b.toLower
        if l == 'b' then (2, d :: rest) else if l == 'o' then (8, d :: rest)
        else if l == 'x' then (16, d :: rest) else (8, b :: d :: rest)
      | '0' :: rest => (8, rest)
      | _ => (10, body)
    match digitsUpTo base (Nat.pow 2 64 - 1) ds 0 with
    | none => fail "invalid syntax"
    | some none => fail "value out of range"
    | some (some n) =>
      if ds.contains '_' && !underscoresFit cs then fail "invalid syntax"
      else if negative then (if n ≤ Nat.pow 2 63 then .ok (-(n : Int)) else fail "value out of range")
      else if n < Nat.pow 2 63 then .ok n else fail "value out of range"

/-- **Boolean texts**: `1`, `t`, `T`, `TRUE`, `true`, `True` and `0`, `f`, `F`, `FALSE`,
`false`, `False`. -/
def parseBool (t : String) : Except String Bool :=
  if ["1", "t", "T", "TRUE", "true", "True"].contains t then .ok true
  else if ["0", "f", "F", "FALSE", "false", "False"].contains t then .ok false
  else .error ("strconv.ParseBool: parsing " ++ Text.quote t ++ ": invalid syntax")

/-- **Doubles in positional notation** with the shortest digits that read back to them. -/
def fixedText (x : Float) : String :=
  match Decimal.Binary.ofFloat x with
  | .nan => "NaN"
  | .infinite negative => if negative then "-Inf" else "+Inf"
  | b@(.finite negative _ _ _) =>
    String.ofList ((if negative then ['-'] else []) ++ Decimal.positional b.shortest)

/-- **An integer field** named `name`, read from a value. -/
def intField (name : String) (target : String := "int") : Value → Except String Int
  | .int n | .word n | .small _ n => .ok n
  | .uint n => .ok (Store.wrap64 n)
  | .float x => .ok (Yaml.truncateWord x)
  | .duration d => .ok d.nanos
  | .bool b => .ok (if b then 1 else 0)
  | .text t =>
    match parseIntAnyBase (if t.isEmpty then "0" else t) with
    | .ok n => .ok n
    | .error why => .error ("cannot parse '" ++ name ++ "' as int: " ++ why)
  | v => .error (unconvertible name target v)

/-- **A text field** named `name`, read from a value. -/
def textField (name : String) : Value → Except String String
  | .text t => .ok t
  | .bool b => .ok (if b then "1" else "0")
  | .int n | .word n | .small _ n => .ok (toString n)
  | .duration d => .ok (toString d.nanos)
  | .uint n => .ok (toString n)
  | .float x => .ok (fixedText x)
  | .bytes b => .ok (Text.decodeLenient b)
  | v => .error (unconvertible name "string" v)

/-- **A boolean field** named `name`, read from a value. -/
def boolField (name : String) : Value → Except String Bool
  | .bool b => .ok b
  | .int n | .word n | .small _ n => .ok (n != 0)
  | .duration d => .ok (d.nanos != 0)
  | .uint n => .ok (n != 0)
  | .float x => .ok (x != 0)
  | .text t =>
    match parseBool t with
    | .ok b => .ok b
    | .error why => if t.isEmpty then .ok false else .error ("cannot parse '" ++ name ++ "' as bool: " ++ why)
  | v => .error (unconvertible name "bool" v)

/-- **A duration field** named `name`, read from a value. -/
def durationField (name : String) : Value → Except String Duration
  | .text t =>
    match Duration.parse t with
    | .ok d => .ok d
    | .error e => .error ("error decoding '" ++ name ++ "': " ++ e.message)
  | v => (intField name "time.Duration" v).map (fun n => ⟨n⟩)

/-- Runs a field's conversion on a value if there is one: a problem is recorded and the field
keeps its value. -/
def convertField {α : Type} (read : Value → Except String α) (current : α) : Option Value → Convert α
  | none | some .null => pure current
  | some v =>
    match read v with
    | .ok a => pure a
    | .error problem => do Convert.problem problem; pure current

/-- **A list of integers** read from a value: a list element by element (elements named by
their position), a single value as a list of one, an empty map as no elements. -/
def intList (v : Value) : Convert (List Int) :=
  let items : List Value := match v with
    | .list items => items
    | .words ns => ns.map .word
    | .texts ts => ts.map .text
    | .map [] => []
    | v => [v]
  items.zipIdx.foldlM (fun acc (item, i) => do
    let n ← convertField (intField ("[" ++ toString i ++ "]")) 0 (some item)
    pure (acc ++ [n])) []

end QueryKit.Config
