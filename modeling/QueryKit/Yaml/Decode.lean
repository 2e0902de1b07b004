import QueryKit.Yaml.Document
import QueryKit.Yaml.Scalar
import QueryKit.Text.Quoted
import QueryKit.Text.Utf8
import QueryKit.Decimal.Format
import QueryKit.Value.Render

/-!
# Decoding nodes into typed values

A node is decoded into a target of a known type: a text, a boolean, a machine word, a value of
any type, a list, a map of texts to values, or a structure with named fields. Decoding goes on
past a node that does not fit its target and collects one problem for each, in document order;
the target of such a node stays unset, and so does the target of a null node. Some problems stop
decoding at once: an alias met again inside the node it stands for, a scalar that does not read
under its tag, bad base64 data, a merge of something that is no mapping, a collection used as
the key of a map of any values, and aliases that multiply the nodes decoded (more than a
thousand nodes decoded, more than a hundred inside aliases, and a share of those above 99%,
falling to 10% as the count grows from 400000 to 4000000).

* an alias decodes as the node its anchor names; properties decode as the node they mark, the
  tag deciding how a scalar reads: `!!str` and quoted or block scalars without a tag are texts,
  other standard tags must be what the scalar resolves to, `!!binary` is base64 data, and any
  other tag leaves the text as it is;
* a text takes any scalar's text; a boolean also takes the words `y`, `yes`, `on`, `n`, `no`,
  `off` in their usual spellings; a machine word also takes an unsigned integer within the
  signed range and a double (truncated) not above it;
* a value of any type takes scalars as they resolve, sequences as lists and mappings as maps;
  a map whose keys are not all texts has its keys written as text (null as the empty text,
  doubles in the shortest fixed notation);
* a list keeps the items that decode and drops the others;
* a mapping whose keys repeat decodes to nothing, with one problem for each later key;
* the merge key `<<` brings in the entries of a mapping, or of each mapping of a sequence in
  order, whose keys the mapping has not already set;
* a structure names the type in its problems; an entry whose key is no field of it is a problem.
-/

namespace QueryKit.Yaml

/-- **What decoding reads**: the nodes the document's anchors name, the anchors whose nodes are
being decoded (an alias to one of them would never end), and how deep decoding may go. -/
structure Reading where
  anchors : Array Node := #[]
  expanding : List Nat := []
  fuel : Nat := 0

/-- **The tally of a decoding**: the problems met so far, in document order, how many nodes were
decoded, and how many of those inside an alias. -/
structure Tally where
  problems : List String := []
  decodes : Nat := 0
  aliased : Nat := 0

/-- **Decoding**: reads the document, keeps a tally, and may stop at once with a fatal problem. -/
abbrev Decode := ReaderT Reading (StateT Tally (Except String))

/-- Records problems. -/
def Decode.problems (messages : List String) : Decode Unit :=
  modify fun t => { t with problems := t.problems ++ messages }

/-- Records a problem. -/
def Decode.problem (message : String) : Decode Unit := Decode.problems [message]

/-- Stops decoding with a fatal problem. -/
def Decode.fail {α : Type} (message : String) : Decode α := throw ("yaml: " ++ message)

/-- The share of decoded nodes that may come from aliases: 99% up to 400000 nodes, 10% from
4000000, and in between falling in proportion. -/
def aliasShare (decodes : Nat) : Float :=
  if decodes ≤ 400000 then 0.99
  else if decodes ≥ 4000000 then 0.10
  else 0.99 - 0.89 * ((decodes - 400000).toFloat / 3600000.0)

/-- **Counts a decoded node**, inside an alias or not; too large a share of aliased nodes stops
decoding, so that aliases of aliases cannot multiply the work without end. -/
def Decode.count : Decode Unit := do
  let inside := !(← read).expanding.isEmpty
  modify fun t => { t with decodes := t.decodes + 1, aliased := if inside then t.aliased + 1 else t.aliased }
  let t ← get
  if t.aliased > 100 && t.decodes > 1000 &&
      t.aliased.toFloat / t.decodes.toFloat > aliasShare t.decodes then
    Decode.fail "document contains excessive aliasing"

namespace Node

/-- **A node under its properties**: its tag, if it has one, and the node they mark, moved to
the line where the properties start. -/
def bare : Node → Option String × Node
  | .props _ tag n line =>
    let (inner, m) := n.bare
    ((tag.orElse fun _ => inner), m.withLine line)
  | n => (none, n)

/-- **Decodes a node by `k`**, counting it: an alias is followed to the node its anchor names,
which is counted too, inside the alias; an alias met again inside the node it stands for is
fatal. -/
def through {α : Type} (n : Node) (k : Node → Decode α) : Decode α := do
  Decode.count
  match n with
  | .alias name anchor _ => do
    let r ← read
    if r.expanding.contains anchor then Decode.fail ("anchor '" ++ name ++ "' value contains itself")
    else
      match r.anchors[anchor]? with
      | some target =>
        withReader (fun r => { r with expanding := anchor :: r.expanding }) do
          Decode.count
          k target
      | none => Decode.fail ("unknown anchor '" ++ name ++ "' referenced")
  | _ => k n

/-- **A node opened for decoding**: an alias followed, then the tag and the node under its
properties handed to `k`. -/
def view {α : Type} (n : Node) (k : Option String → Node → Decode α) : Decode α :=
  n.through fun m => let (tag, inner) := m.bare; k tag inner

/-- **The tag of a node** with its explicit tag: that tag, or `!!str` for a quoted or block
scalar, the resolved tag of a plain scalar, `!!seq` or `!!map`. -/
def tagWith (explicit : Option String) : Node → String
  | .scalar v .plain _ => explicit.getD (resolve v).1.name
  | .scalar _ _ _ => explicit.getD "!!str"
  | .seq _ _ => explicit.getD "!!seq"
  | .map _ _ => explicit.getD "!!map"
  | _ => explicit.getD ""

/-- The tag of a node, an alias standing for the node its anchor names. -/
def shortTag (n : Node) : Decode String := do
  match n with
  | .alias _ anchor _ =>
    match (← read).anchors[anchor]? with
    | some t => let (tag, inner) := t.bare; pure (tagWith tag inner)
    | none => pure ""
  | _ => let (tag, inner) := n.bare; pure (tagWith tag inner)

/-- **What a scalar decodes from**: its tag and value. Quoted and block scalars without a tag, and
scalars tagged `!!str`, are their text; plain ones resolve; tagged ones resolve under their tag,
fatally when they do not fit it; `!!binary` data is decoded. -/
def scalarValue (explicit : Option String) (v : String) (style : Style) : Decode (String × Value) :=
  if explicit == some "!!str" || (explicit.isNone && style != .plain) then pure ("!!str", .text v)
  else
    match explicit with
    | none => let (t, x) := resolve v; pure (t.name, x)
    | some tag =>
      match resolveTagged tag v with
      | .error m => throw m
      | .ok (t, x) =>
        if t == "!!binary" then
          match binaryData v with
          | some octets => pure (t, .text (Text.decodeLenient octets))
          | none => Decode.fail "!!binary value contains invalid base64 data"
        else pure (t, x)

/-- **A node that does not fit** a target of type `into`: its line, tag, and but for a plain
sequence or mapping a scalar's text, shortened to seven bytes and `...` when longer than ten. -/
def mismatch (tag : String) (n : Node) (into : String) : Decode Unit :=
  let shown :=
    if tag == "!!seq" || tag == "!!map" then ""
    else
      let v := match n with
        | .scalar v _ _ => v
        | _ => ""
      let bytes := v.toUTF8.toList
      " \x60" ++ (if bytes.length > 10 then Text.decodeLenient (bytes.take 7) ++ "..." else v) ++ "\x60"
  Decode.problem ("line " ++ toString n.line ++ ": cannot unmarshal " ++ tag ++ shown ++ " into " ++ into)

/-- The kind and text of a key, which two keys must share to repeat. -/
def keyFace : Node → Nat × String
  | .scalar v _ _ => (0, v)
  | .seq _ _ => (1, "")
  | .map _ _ => (2, "")
  | .alias name _ _ => (3, name)
  | .props _ _ n _ => n.keyFace

/-- The problems of keys given twice: one for each later key equal to an earlier one. -/
def repeatedKeys : List (Node × Node) → List String
  | [] => []
  | (k, _) :: rest =>
    (rest.filter (fun e => e.1.keyFace == k.keyFace)).map (fun e =>
      "line " ++ toString e.1.line ++ ": mapping key " ++ Text.quote k.keyFace.2 ++
        " already defined at line " ++ toString k.line) ++ repeatedKeys rest

/-- Checks that no key repeats, recording the problems; whether none did. -/
def uniqueKeys (entries : List (Node × Node)) : Decode Bool := do
  let problems := repeatedKeys entries
  Decode.problems problems
  return problems.isEmpty

/-- A mapping where something else was wanted: the problems of its repeated keys when it has
any, the mismatch otherwise. -/
def wrongMapping (tag : String) (n : Node) (entries : List (Node × Node)) (into : String) :
    Decode Unit := do
  if ← uniqueKeys entries then mismatch tag n into

/-- A node that is not what a target of type `into` takes: nothing when it is null, a problem
otherwise. -/
def refuse {α : Type} (tag : Option String) (n : Node) (into : String) : Decode (Option α) := do
  match n with
  | .scalar v style _ =>
    let (_, x) ← scalarValue tag v style
    match x with
    | .null => pure none
    | _ => do mismatch (tagWith tag n) n into; pure none
  | .map entries _ => do wrongMapping (tagWith tag n) n entries into; pure none
  | _ => do mismatch (tagWith tag n) n into; pure none

/-- Whether a node decodes to null, an alias standing for the node its anchor names; a look
ahead of decoding it, not counted. -/
def null? (n : Node) : Decode Bool := do
  let target ← match n with
    | .alias _ anchor _ => pure (((← read).anchors[anchor]?).getD n)
    | _ => pure n
  match target.bare with
  | (tag, .scalar v style _) =>
    let (_, x) ← scalarValue tag v style
    match x with
    | .null => pure true
    | _ => pure false
  | _ => pure false

/-- **A text**: any scalar's text, the data of `!!binary`. -/
def text? (n : Node) : Decode (Option String) :=
  n.view fun tag m => do
    match m with
    | .scalar v style _ =>
      let (t, x) ← scalarValue tag v style
      match x with
      | .null => pure none
      | .text s => pure (some (if t == "!!binary" then s else v))
      | _ => pure (some v)
    | _ => refuse tag m "string"

/-- The words a boolean target also takes. -/
def flagWord (s : String) : Option Bool :=
  if ["y", "Y", "yes", "Yes", "YES", "on", "On", "ON"].contains s then some true
  else if ["n", "N", "no", "No", "NO", "off", "Off", "OFF"].contains s then some false
  else none

/-- **A boolean.** -/
def flag? (n : Node) : Decode (Option Bool) :=
  n.view fun tag m => do
    match m with
    | .scalar v style _ =>
      let (_, x) ← scalarValue tag v style
      match x with
      | .null => pure none
      | .bool b => pure (some b)
      | .text s =>
        match flagWord s with
        | some b => pure (some b)
        | none => do mismatch (tagWith tag m) m "bool"; pure none
      | _ => do mismatch (tagWith tag m) m "bool"; pure none
    | _ => refuse tag m "bool"

/-- **A machine word.** -/
def word? (n : Node) : Decode (Option Int) :=
  n.view fun tag m => do
    match m with
    | .scalar v style _ =>
      let (_, x) ← scalarValue tag v style
      let wrong : Decode (Option Int) := do mismatch (tagWith tag m) m "int"; pure none
      match x with
      | .null => pure none
      | .word k => pure (some k)
      | .uint k => if k < Nat.pow 2 63 then pure (some k) else wrong
      | .float x => if x ≤ 9223372036854775807.0 then pure (some (truncateWord x)) else wrong
      | _ => wrong
    | _ => refuse tag m "int"

/-- **A list**: the items that decode, in order; `into` is the list's type. -/
def items? {α : Type} (n : Node) (into : String) (item : Node → Decode (Option α)) :
    Decode (Option (List α)) :=
  n.view fun tag m => do
    match m with
    | .seq items _ => do
      let kept ← items.foldlM (fun acc i => do
        match ← item i with
        | some a => pure (acc ++ [a])
        | none => pure acc) []
      return some kept
    | _ => refuse tag m into

/-- **A list of texts.** -/
def texts? (n : Node) : Decode (Option (List String)) := n.items? "[]string" text?

/-- Whether a key is the merge key: `<<` plain without a tag, or tagged `!!merge`. -/
def isMergeKey (k : Node) : Bool :=
  match k.bare with
  | (tag, .scalar "<<" style _) => tag == some "!!merge" || (tag.isNone && style == .plain)
  | _ => false

end Node

/-- **Where a mapping's entries go**: how a key reads as the target's key (nothing skips the
entry), how it reads as a value of any type (for the keys a merge must not set again), and how an
entry is set, given the key's node, the key and the value's node. -/
structure Sink (σ : Type) where
  key : Node → Decode (Option String)
  anyKey : Node → Decode (Option String)
  set : σ → Node → String → Node → Decode σ

/-- **The entries of a mapping** in order: the merge key's value is put aside; any other key
that reads and is not among `seen` (when the mapping is being merged) goes in, and joins it. -/
def ownEntries {σ : Type} (sink : Sink σ) : Option (List String) → Option Node →
    List (Node × Node) → σ → Decode (σ × Option (List String) × Option Node)
  | seen, merge, [], acc => pure (acc, seen, merge)
  | seen, merge, (k, v) :: rest, acc => do
    if k.isMergeKey then ownEntries sink seen (some v) rest acc
    else
      match ← sink.key k with
      | none => ownEntries sink seen merge rest acc
      | some name =>
        match seen with
        | some s =>
          if s.contains name then ownEntries sink seen merge rest acc
          else ownEntries sink (some (s ++ [name])) merge rest (← sink.set acc k name v)
        | none => ownEntries sink none merge rest (← sink.set acc k name v)

/-- A merge of something that is no mapping. -/
def failWantMap {α : Type} : Decode α :=
  Decode.fail "map merge requires map or sequence of maps as the value"

mutual

/-- **A mapping into a target**: nothing when its keys repeat; otherwise its own entries, then
those its merge key brings in. `seen` holds the keys already set when the mapping is itself
being merged; gives the target and those keys after it. -/
def mapInto {σ : Type} (sink : Sink σ) : Nat → Option (List String) → List (Node × Node) → σ →
    Decode (Option (σ × Option (List String)))
  | 0, seen, _, acc => pure (some (acc, seen))
  | fuel + 1, seen, entries, acc => do
    if !(← Node.uniqueKeys entries) then return none
    let (acc, seen, merge) ← ownEntries sink seen none entries acc
    match merge with
    | none => return some (acc, seen)
    | some m =>
      let start ← match seen with
        | some s => pure s
        | none => entries.foldlM (fun s (k, _) => do
            match ← sink.anyKey k with
            | some x => pure (s ++ [x])
            | none => pure s) []
      let (acc, after) ← mergeIn sink fuel start m acc
      return some (acc, seen.map fun _ => after)

/-- **A merge**: a mapping, an alias to one, or a sequence of them merged in order. -/
def mergeIn {σ : Type} (sink : Sink σ) : Nat → List String → Node → σ → Decode (σ × List String)
  | 0, seen, _, acc => pure (acc, seen)
  | fuel + 1, seen, m, acc =>
    match m.bare.2 with
    | .seq items _ =>
      items.foldlM (fun (acc, seen) i => mergeOne sink fuel seen i acc) (acc, seen)
    | _ => mergeOne sink fuel seen m acc

/-- One mapping of a merge, or an alias to one. -/
def mergeOne {σ : Type} (sink : Sink σ) : Nat → List String → Node → σ → Decode (σ × List String)
  | 0, seen, _, acc => pure (acc, seen)
  | fuel + 1, seen, m, acc =>
    m.through fun t => do
      match t.bare.2 with
      | .map entries _ =>
        match ← mapInto sink fuel (some seen) entries acc with
        | some (acc, some after) => pure (acc, after)
        | _ => pure (acc, seen)
      | _ => failWantMap

end

/-- Sets a member of a map, replacing one of the same key. -/
def setMember (members : List (String × Value)) (key : String) (v : Value) : List (String × Value) :=
  if members.any (·.1 == key) then members.map fun (k, x) => if k == key then (k, v) else (k, x)
  else members ++ [(key, v)]

/-- **A key of a map of any values** as text: null is the empty text, a double is written in the
shortest fixed notation, anything else as it is shown. -/
def keyText : Value → String
  | .null => ""
  | .text s => s
  | .float x => Decimal.formatFloat x 'f' (-1)
  | v => v.plain

/-- **A map of texts to values** as a sink: keys read as texts, values by `value`. -/
def textMap (value : Node → Decode (Option Value)) (anyKey : Node → Decode (Option String)) :
    Sink (List (String × Value)) where
  key := Node.text?
  anyKey := anyKey
  set := fun acc _ key v => do
    match ← value v with
    | some x => pure (setMember acc key x)
    | none => pure acc

/-- **A map of any values to values** as a sink: keys read as values and written as text; a
collection as a key is fatal. -/
def anyMap (value : Node → Decode (Option Value)) : Sink (List (String × Value)) where
  key := fun k => do
    match ← value k with
    | some x =>
      match x with
      | .list _ | .map _ => Decode.fail ("invalid map key: " ++ x.source)
      | _ => pure (some (keyText x))
    | none => pure none
  anyKey := fun k => do return (← value k).map keyText
  set := fun acc _ key v => do
    match ← value v with
    | some x => pure (setMember acc key x)
    | none => pure acc

namespace Node

/-- **A value of any type** to a depth of `fuel`: scalars as they resolve, sequences as lists,
mappings as maps; nothing only for a mapping whose keys repeat. -/
def valueWith : Nat → Node → Decode (Option Value)
  | 0, _ => pure none
  | fuel + 1, n =>
    n.view fun tag m => do
      match m with
      | .scalar v style _ => do
        let (_, x) ← scalarValue tag v style
        pure (some x)
      | .seq items _ => do
        let kept ← items.foldlM (fun acc i => do
          match ← valueWith fuel i with
          | some x => pure (acc ++ [x])
          | none => pure acc) []
        return some (.list kept)
      | .map entries _ => do
        let textKeys ← entries.allM fun (k, _) => do
          let t ← k.shortTag
          pure (t == "!!str" || t == "!!merge")
        let anyKey : Node → Decode (Option String) := fun k => do
          return (← valueWith fuel k).map keyText
        let sink := if textKeys then textMap (valueWith fuel) anyKey else anyMap (valueWith fuel)
        match ← mapInto sink fuel none entries [] with
        | some (members, _) => return some (.map members)
        | none => return none
      | _ => pure (some .null)

/-- **A value of any type.** -/
def value? (n : Node) : Decode (Option Value) := do
  n.valueWith (← read).fuel

/-- **A map of texts to values**; `into` is its type. -/
def record? (n : Node) (into : String := "map[string]interface \x7b\x7d") :
    Decode (Option (List (String × Value))) :=
  n.view fun tag m => do
    match m with
    | .map entries _ =>
      let fuel := (← read).fuel
      let anyKey : Node → Decode (Option String) := fun k => do
        return (← k.valueWith fuel).map keyText
      match ← mapInto (textMap value? anyKey) fuel none entries [] with
      | some (members, _) => return some members
      | none => return none
    | _ => refuse tag m into

/-- **A structure** of type `into`, starting from `init`: each entry of a mapping sets the field
its key names, by `field`, in order, then the entries a merge brings in; a key that names no
field is a problem. -/
def fields? {α : Type} (n : Node) (into : String) (init : α)
    (field : String → Option (α → Node → Decode α)) : Decode (Option α) :=
  n.view fun tag m => do
    match m with
    | .map entries _ =>
      let fuel := (← read).fuel
      let sink : Sink α := {
        key := text?
        anyKey := fun k => do return (← k.valueWith fuel).map keyText
        set := fun acc k name v =>
          match field name with
          | some set => set acc v
          | none => do
            Decode.problem ("line " ++ toString k.line ++ ": field " ++ name ++ " not found in type " ++ into)
            pure acc }
      match ← mapInto sink fuel none entries init with
      | some (a, _) => return some a
      | none => return none
    | _ => refuse tag m into

end Node

/-- **Decoding a document** by `d` from its root, the document itself counted as the first node
decoded: the value, the fatal problem that stopped it, or the problems listed after
`yaml: unmarshal errors:`. -/
def Document.decode {α : Type} (doc : Document) (d : Node → Decode α) : Except String α :=
  match ((d doc.root).run { anchors := doc.anchors, fuel := doc.fuel }).run { decodes := 1 } with
  | .error m => .error m
  | .ok (a, t) =>
    if t.problems.isEmpty then .ok a
    else .error ("yaml: unmarshal errors:\n  " ++ "\n  ".intercalate t.problems)

end QueryKit.Yaml
