import QueryKit.Yaml.Node

/-!
# YAML documents

A YAML text read into a document: the root node of its first document, with its anchors linked.

* a byte order mark at the start is skipped; a control character anywhere stops the reading;
  carriage returns, with or without a line feed, and the next-line, line and paragraph
  separators all break lines; the first two read as line feeds, the separators stay themselves
  inside the scalars that keep breaks;
* `%YAML` and `%TAG` directives may come before the document, which must then start with `---`;
  the version must be 1.1, and a handle must be named before a tag uses it;
* linking gives each anchor a number, in document order, and each alias the number of the last
  anchor of its name before it; an anchor is known inside its own node, so a node can hold an
  alias to itself. An alias to no anchor stops the reading;
* tags come out in short form: the handle replaced by its prefix, and the prefix of the standard
  tags written `!!`.
-/

namespace QueryKit.Yaml

/-- Whether a character may stand in a text: tabs, line breaks and printable characters. -/
def allowedChar (c : Char) : Bool :=
  let n := c.toNat
  n == 0x9 || n == 0xA || n == 0xD || (0x20 ≤ n && n ≤ 0x7E) || n == 0x85 ||
    (0xA0 ≤ n && n ≤ 0xD7FF) || (0xE000 ≤ n && n ≤ 0xFFFD) || 0x10000 ≤ n

/-- **Line breaks as the scanner reads them**: a carriage return with or without a line feed
after it, and the next-line character, read as a line feed; the line and paragraph separators
stay as they are. -/
def normalizeBreaks : List Char → List Char → List Char
  | [], acc => acc.reverse
  | '\r' :: '\n' :: rest, acc => normalizeBreaks rest ('\n' :: acc)
  | c :: rest, acc =>
    normalizeBreaks rest ((if c == '\r' || c.toNat == 0x85 then '\n' else c) :: acc)

/-- The prefixes of the handles every document knows. -/
def standardHandles : List (String × String) := [("!", "!"), ("!!", "tag:yaml.org,2002:")]

/-- The short form of a tag: the standard prefix written `!!`. -/
def shortTag (tag : String) : String :=
  if tag.startsWith "tag:yaml.org,2002:" then "!!" ++ (tag.drop 18).toString else tag

/-- **A tag as written in short form**, the handles known: a verbatim tag as it is, a handle
replaced by its prefix. Nothing when the handle is unknown. A lone `!` is no tag at all. -/
def resolveTag (handles : List (String × String)) (raw : String) : Option (Option String) :=
  match raw.toList with
  | ['!'] => some none
  | '!' :: '<' :: rest => some (some (shortTag (String.ofList rest.dropLast)))
  | cs =>
    let (handle, suffix) := splitTag cs
    (handles.lookup handle).map fun pre => some (shortTag (pre ++ suffix))

/-- **A parser problem** on a line (from one), reported on the line before it. -/
def lineProblem (line : Nat) (message : String) : Problem := { message, mark := line - 1 }

/-- A version `major.minor` and what follows it. -/
def versionOf (cs : List Char) : Option (Nat × Nat × List Char) :=
  let major := cs.takeWhile Char.isDigit
  match cs.drop major.length with
  | '.' :: more =>
    let minor := more.takeWhile Char.isDigit
    if major.isEmpty || minor.isEmpty then none
    else some (digitsOf major, digitsOf minor, more.drop minor.length)
  | _ => none
where
  /-- The value of decimal digits. -/
  digitsOf (ds : List Char) : Nat := ds.foldl (fun n c => n * 10 + (c.toNat - 48)) 0

/-- **One directive line**, after its `%`: the handles it adds to those named so far, and whether
it was `%YAML`. -/
def directive (line : Nat) (seenVersion : Bool) (handles : List (String × String))
    (cs : List Char) : Except Problem (List (String × String) × Bool) :=
  let name := cs.takeWhile anchorChar
  let args := (cs.drop name.length).dropWhile isSpace
  if name.isEmpty then .error (tokenProblem line "could not find expected directive name")
  else if !blankAt (cs.drop name.length) then
    .error (tokenProblem line "found unexpected non-alphabetical character")
  else if name == "YAML".toList then
    match versionOf args with
    | none => .error (tokenProblem line "did not find expected digit or '.' character")
    | some (major, minor, rest) =>
      if !restIsBlank rest then .error (tokenProblem line "did not find expected comment or line break")
      else if seenVersion then .error (lineProblem line "found duplicate %YAML directive")
      else if major != 1 || minor != 1 then .error (lineProblem line "found incompatible YAML document")
      else .ok (handles, true)
  else if name == "TAG".toList then
    let handle := args.takeWhile (!isSpace ·)
    let pre := ((args.drop handle.length).dropWhile isSpace).takeWhile (!isSpace ·)
    let (h, suffix) := splitTag handle
    if handle.isEmpty || !suffix.isEmpty || h.isEmpty || !(h.endsWith "!") then
      .error (tokenProblem line "did not find expected '!'")
    else if pre.isEmpty then .error (tokenProblem line "did not find expected tag URI")
    else if handles.any (·.1 == h) then .error (lineProblem line "found duplicate %TAG directive")
    else .ok (handles ++ [(h, String.ofList pre)], seenVersion)
  else .error (tokenProblem line "found unknown directive name")

/-- **The directives before the first document**: the handles they name, and the lines from the
first that is neither blank nor a directive. After a directive, that line must be `---`, and
the text must not end before it; `last` is the last line's number. -/
def directives (last : Nat) : List Line → Bool → Bool → List (String × String) →
    Except Problem (List (String × String) × List Line)
  | [], any, _, handles =>
    if any then .error (lineProblem last "did not find expected <document start>") else .ok (handles, [])
  | l :: rest, any, seenVersion, handles =>
    if l.isBlank then directives last rest any seenVersion handles
    else if l.indent == 0 && l.body.head? == some '%' then do
      let (handles, isVersion) ← directive l.number seenVersion handles (l.body.drop 1)
      directives last rest true (seenVersion || isVersion) handles
    else if any && !(l.isMarker && l.body.take 3 == ['-', '-', '-']) then
      .error (lineProblem l.number "did not find expected <document start>")
    else .ok (handles, l :: rest)

/-- **A document**: its root node, and the nodes its anchors name, by number. -/
structure Document where
  root : Node
  anchors : Array Node := #[]
  deriving Inhabited

/-- **Linking so far**: the number of the last anchor of each name, the latest first, and the
nodes of the anchors. -/
structure Linking where
  names : List (String × Nat) := []
  anchors : Array Node := #[]

/-- Linking a document, which stops at an unknown alias or tag handle. -/
abbrev Link := StateT Linking (Except Problem)

mutual

/-- **Links a node**: numbers its anchors, points its aliases at them, and puts its tags in
short form. -/
def linkNode (handles : List (String × String)) : Node → Link Node
  | .alias name _ line => do
    match (← get).names.lookup name with
    | some k => return .alias name k line
    | none => throw { message := "unknown anchor '" ++ name ++ "' referenced", mark := 0 }
  | .props anchor raw inner line => do
    let tag ← match raw with
      | none => pure none
      | some t =>
        match resolveTag handles t with
        | some tag => pure tag
        | none => throw (lineProblem line "found undefined tag handle")
    match anchor with
    | some name => do
      let k := (← get).anchors.size
      modify fun s => { s with names := (name, k) :: s.names, anchors := s.anchors.push (Node.empty line) }
      let node := Node.props anchor tag (← linkNode handles inner) line
      modify fun s => { s with anchors := s.anchors.modify k (fun _ => node) }
      return node
    | none => return .props none tag (← linkNode handles inner) line
  | .seq items line => return .seq (← linkItems handles items) line
  | .map entries line => return .map (← linkEntries handles entries) line
  | .scalar v style line => return .scalar v style line

/-- Links items in order. -/
def linkItems (handles : List (String × String)) : List Node → Link (List Node)
  | [] => pure []
  | i :: rest => do
    let i ← linkNode handles i
    return i :: (← linkItems handles rest)

/-- Links entries in order, each key before its value. -/
def linkEntries (handles : List (String × String)) : List (Node × Node) → Link (List (Node × Node))
  | [] => pure []
  | (k, v) :: rest => do
    let k ← linkNode handles k
    let v ← linkNode handles v
    return (k, v) :: (← linkEntries handles rest)

end

/-- **Reading a text**: the first document, nothing when it has none, or the problem that stops
the reading. -/
def parse (text : String) : Except Problem (Option Document) := do
  let cs := text.toList
  let cs := if cs.head? == some '\uFEFF' then cs.drop 1 else cs
  if !cs.all allowedChar then throw { message := "control characters are not allowed", mark := 0 }
  let lines := numbered 1 (splitLines (normalizeBreaks cs []))
  let (handles, lines) ← directives lines.length lines false false []
  match firstDocument lines with
  | none => return none
  | some doc =>
    let fuel := 2 * (cs.length + lines.length) + 8
    let (node, rest) ← blockNode fuel (-1) 1 doc
    match skipBlank rest with
    | [] =>
      let (root, linking) ← (linkNode (handles ++ standardHandles) node).run {}
      return some { root, anchors := linking.anchors }
    | l :: _ => throw (lineProblem l.number "did not find expected <document start>")

/-- A bound on how deep decoding a document goes: each anchor can be followed once on any path,
and no path in a node is longer than its depth. -/
def Document.fuel (d : Document) : Nat := (d.anchors.size + 1) * (d.root.depth + 2)

end QueryKit.Yaml
