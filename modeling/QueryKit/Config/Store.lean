import QueryKit.Value.Render
import QueryKit.Fault.Basic
import QueryKit.Text.Case
import QueryKit.Text.Blank
import QueryKit.Yaml.Scalar

/-!
# Configuration stores

A configuration store holds values under dotted keys (`database.max_open_conns`) in three
layers: values set by hand, values read from a file, and defaults. A key is read from the first
layer that has a value for it.

* keys are case-insensitive: every key and every key of a map value is kept in lower case;
* a layer is a tree of maps: `a.b` names the member `b` of the map under `a`, and reading `a`
  gives that map as it stands in the first layer that has it;
* a layer hides the lower layers' values below any of its own values that is no map;
* a value read from a file may also be found under a key that holds dots, or by the position of
  an element of a list;
* the typed readers (`text`, `int`, `flag`, `duration`, `texts`) convert what they can and give a
  configuration fault naming the key, and the value, otherwise;
* `Store.settingsTree` gathers every key that has a value into one tree, as a whole-configuration
  reading sees it.
-/

namespace QueryKit.Config

/-- **Layers**: maps from lower-case names to values, maps nested. -/
abbrev Layer := List (String × Value)

/-- Replaces the member of a name, or adds one at the end. -/
def setMember (k : String) (v : Value) (ms : Layer) : Layer :=
  if ms.any (·.1 == k) then ms.map (fun p => if p.1 == k then (k, v) else p) else ms ++ [(k, v)]

mutual

/-- A value with every map key in lower case, maps nested in maps included. -/
def insensitive : Value → Value
  | .map ms => .map (insensitiveMembers ms)
  | v => v

/-- Members with lower-case names, their map values likewise. -/
def insensitiveMembers : List (String × Value) → List (String × Value)
  | [] => []
  | (k, v) :: rest => (Text.lower k, insensitive v) :: insensitiveMembers rest

end

/-- **Putting a value at a path**: maps are made on the way, replacing values that are no maps. -/
def putAt : List String → Value → Layer → Layer
  | [], _, ms => ms
  | [k], v, ms => setMember k v ms
  | k :: rest, v, ms =>
    let inner := match ms.lookup k with
      | some (.map m) => m
      | _ => []
    setMember k (.map (putAt rest v inner)) ms

/-- The value at a path of maps, if there is one; null counts as none. -/
def searchPath : List String → Value → Option Value
  | [], .null => none
  | [], v => some v
  | k :: rest, .map ms => (ms.lookup k).bind (searchPath rest)
  | _ :: _, _ => none

/-- Whether a value that is no map stands on the way to a path, hiding it. -/
def shadowed (path : List String) (layer : Layer) : Bool :=
  let rec go : Nat → Bool
    | 0 => false
    | n + 1 =>
      let i := path.length - 1 - n
      if i == 0 then go n
      else
        match searchPath (path.take i) (.map layer) with
        | none => false
        | some (.map _) => go n
        | some _ => true
  go (path.length - 1)

/-- **Searching a file's tree**: the longest prefix of the path that is a key (dots allowed in
keys) or, in a list, a position, and the rest of the path below it. -/
def searchIndexed : Nat → List String → Value → Option Value
  | _, [], .null => none
  | _, [], v => some v
  | 0, _, _ => none
  | fuel + 1, path, source =>
    let rec tryPrefix : Nat → Option Value
      | 0 => none
      | i + 1 =>
        let n := i + 1
        let key := ".".intercalate (path.take n)
        let next : Option Value := match source with
          | .map ms => ms.lookup key
          | .list items => (key.toNat?).bind (fun i => items[i]?)
          | _ => none
        let found : Option Value := match next with
          | none => none
          | some v =>
            if n == path.length then (match v with | .null => none | v => some v)
            else match v with
              | .map _ | .list _ => searchIndexed fuel (path.drop n) v
              | _ => none
        match found with
        | some v => some v
        | none => tryPrefix i
    tryPrefix path.length

/-- **Checks** a store runs when validated. -/
inductive Check where
  /-- Every key listed has a value that is neither null nor the empty text. -/
  | required (keys : List String)
  /-- Always fails with a configuration fault about `custom`. -/
  | failing (message : String)

/-- **Configuration stores.** -/
structure Store where
  overrides : Layer := []
  file : Layer := []
  defaults : Layer := []
  /-- The file read, once one has been chosen. -/
  fileUsed : Option String := none
  checks : List Check := []

namespace Store

/-- The path of a key: its lower-case parts between dots. -/
def pathOf (key : String) : List String := (Text.lower key).splitOn "."

/-- **Setting a value** by hand. -/
def set (s : Store) (key : String) (v : Value) : Store :=
  { s with overrides := putAt (pathOf key) (insensitive v) s.overrides }

/-- **Setting a default.** -/
def setDefault (s : Store) (key : String) (v : Value) : Store :=
  { s with defaults := putAt (pathOf key) (insensitive v) s.defaults }

/-- **Reading a key**: from the values set by hand, then the file, then the defaults. -/
def get? (s : Store) (key : String) : Option Value :=
  let path := pathOf key
  let nested := path.length > 1
  match searchPath path (.map s.overrides) with
  | some v => some v
  | none =>
    if nested && shadowed path s.overrides then none
    else
      match searchIndexed (path.length + 1) path (.map s.file) with
      | some v => some v
      | none =>
        if nested && shadowed path s.file then none
        else searchPath path (.map s.defaults)

/-- The fault of a key that has no value. -/
def notFound (key : String) : Fault := .config key .null "key not found" none

/-- A fault about a key and its value. -/
def invalidValue (key : String) (what : String) (v : Value) (cause : Option Fault := none) : Fault :=
  .config key v what cause

/-- **Reading a text**: a text as it is, anything else in its plain spelling. -/
def text (s : Store) (key : String) : Except Fault String :=
  match s.get? key with
  | none => .error (notFound key)
  | some (.text t) => .ok t
  | some v => .ok v.plain

/-- **Reading a decimal integer** within 64 signed bits: an optional sign and digits. -/
def atoi (t : String) : Except String Int :=
  let fail (why : String) : Except String Int :=
    .error ("strconv.Atoi: parsing " ++ Text.quote t ++ ": " ++ why)
  let (negative, body) := match t.toList with
    | '-' :: r => (true, r)
    | '+' :: r => (false, r)
    | r => (false, r)
  if body.isEmpty || !body.all Char.isDigit then fail "invalid syntax"
  else
    let n : Nat := body.foldl (fun acc c => acc * 10 + (c.toNat - 48)) 0
    if negative then (if n ≤ Nat.pow 2 63 then .ok (-(n : Int)) else fail "value out of range")
    else if n < Nat.pow 2 63 then .ok n else fail "value out of range"

/-- **Reading an integer**: machine words and 64-bit integers as they are, doubles truncated,
texts read as decimals after trimming. -/
def int (s : Store) (key : String) : Except Fault Int :=
  match s.get? key with
  | none => .error (notFound key)
  | some (.word n) | some (.int n) => .ok n
  | some (.float x) => .ok (Yaml.truncateWord x)
  | some (.text t) =>
    match atoi (Text.trim t) with
    | .ok n => .ok n
    | .error why => .error (invalidValue key "invalid integer value" (.text t) (some (.plain why)))
  | some v => .error (invalidValue key "invalid integer value" v)

/-- **Reading a boolean**: booleans, machine words (non-zero is true), and the words `true`, `yes`,
`1`, `on`, `t`, `y` and `false`, `no`, `0`, `off`, `f`, `n` in any case, blanks around them
ignored. -/
def flag (s : Store) (key : String) : Except Fault Bool :=
  match s.get? key with
  | none => .error (notFound key)
  | some (.bool b) => .ok b
  | some (.word n) => .ok (n != 0)
  | some (.text t) =>
    let w := Text.lower (Text.trim t)
    if ["true", "yes", "1", "on", "t", "y"].contains w then .ok true
    else if ["false", "no", "0", "off", "f", "n"].contains w then .ok false
    else .error (invalidValue key "invalid boolean value" (.text t))
  | some v => .error (invalidValue key "invalid boolean value" v)

/-- A count of nanoseconds kept to 64 signed bits, wrapping around. -/
def wrap64 (n : Int) : Int := (n + Int.pow 2 63) % Int.pow 2 64 - Int.pow 2 63

/-- **Reading a duration**: durations as they are, integers as seconds, doubles as seconds
(truncated to nanoseconds), texts read as duration text after trimming. -/
def duration (s : Store) (key : String) : Except Fault Duration :=
  match s.get? key with
  | none => .error (notFound key)
  | some (.duration d) => .ok d
  | some (.word n) | some (.int n) => .ok ⟨wrap64 (n * 1000000000)⟩
  | some (.float x) => .ok ⟨Yaml.truncateWord (x * 1000000000.0)⟩
  | some (.text t) =>
    match Duration.parse (Text.trim t) with
    | .ok d => .ok d
    | .error e => .error (invalidValue key "invalid duration value" (.text t) (some (.plain e.message)))
  | some v => .error (invalidValue key "invalid duration value" v)

/-- **Reading a list of texts**: text lists as they are, lists in their elements' plain spellings,
a text split at commas with each part trimmed (the empty text giving no parts). -/
def texts (s : Store) (key : String) : Except Fault (List String) :=
  match s.get? key with
  | none => .error (notFound key)
  | some (.texts xs) => .ok xs
  | some (.list items) => .ok (items.map Value.plain)
  | some (.text t) => if t.isEmpty then .ok [] else .ok ((t.splitOn ",").map Text.trim)
  | some v => .error (invalidValue key "invalid string slice value" v)

/-- Runs one check. -/
def runCheck (s : Store) : Check → Except Fault Unit
  | .required keys =>
    match keys.find? (fun k => match s.get? k with
      | none | some .null | some (.text "") => true
      | _ => false) with
    | some k => .error (.config k .null "required key missing" none)
    | none => .ok ()
  | .failing message => .error (.config "custom" .null message none)

/-- **Validating**: the checks in order, up to the first that fails. -/
def validate (s : Store) : Except Fault Unit := s.checks.forM s.runCheck

/-- The dotted paths of a layer's values that are no maps, except below a path in `hidden`. -/
def leafKeys (hidden : List String) (pfx : String) : Layer → List String
  | [] => []
  | (k, v) :: rest =>
    let full := if pfx.isEmpty then k else pfx ++ "." ++ k
    let here := match v with
      | .map ms => if hidden.contains full then [] else leafKeys hidden full ms
      | _ => [Text.lower full]
    here ++ leafKeys hidden pfx rest

/-- **Every key that has a value**: the leaves of the layers, a layer's leaves hiding what lies
below them in lower layers. -/
def allKeys (s : Store) : List String :=
  let add (acc : List String) (layer : Layer) : List String :=
    acc ++ (leafKeys acc "" layer).filter (fun k => !acc.contains k)
  add (add (add [] s.overrides) s.file) s.defaults

/-- **The whole configuration as one tree**: every key with the value it reads as. -/
def settingsTree (s : Store) : Layer :=
  s.allKeys.foldl (fun acc k =>
    match s.get? k with
    | some v => putAt (pathOf k) v acc
    | none => acc) []

end Store
end QueryKit.Config
