/-!
# YAML documents as node trees

A YAML text read into a tree of nodes: scalars with their style, sequences and mappings, each
node with the line where it starts. Block collections are read by indentation, one line at a
time; flow collections (`[a, b]`, `{k: v}`) and quoted scalars are read character by character
and may run over several lines.

* only the first document of a text is read; a text with no document at all has no root;
* a node may carry properties: an anchor `&name` that names it and a tag `!…` that says how to
  read it; `*name` is an alias, a node that stands for the node the anchor names;
* in a block mapping, `? ` starts an explicit key and `: ` on a line of its own its value;
* a plain scalar runs until a comment, a `: ` or the end of its indentation, and its lines are
  folded: a line feed becomes a blank, or gives way to the breaks of the empty lines after it,
  while a line or paragraph separator stays; blanks around the breaks are dropped;
* a quoted scalar folds its lines the same way; `''` is a quote in single quotes and `\` starts
  an escape in double quotes, where an escaped line break joins the lines with nothing between;
* `|` and `>` start literal and folded block scalars, with `-` and `+` to strip or keep the
  final line breaks;
* a `Problem` says what stopped the reading and where; `Problem.text` reports it on the line of
  the construct being read, counted from zero, or on the line of the problem when that construct
  starts the text (one more when the problem was met while splitting the text into tokens).
-/

namespace QueryKit.Yaml

/-- **Scalar styles.** -/
inductive Style where
  | plain
  | single
  | double
  | literal
  | folded
  deriving Repr, BEq, Inhabited

/-- **Nodes**, each with the line (from one) where it starts. -/
inductive Node where
  | scalar (value : String) (style : Style) (line : Nat)
  | seq (items : List Node) (line : Nat)
  | map (entries : List (Node × Node)) (line : Nat)
  /-- A node standing for the one an anchor names: the anchor's name and, once the document is
  linked, the anchor's number in it. -/
  | alias (name : String) (anchor : Nat) (line : Nat)
  /-- A node with properties, starting on `line`: the anchor that names it and its tag, as
  written until the document is linked and in short form after. -/
  | props (anchor : Option String) (tag : Option String) (node : Node) (line : Nat)
  deriving Repr, Inhabited

namespace Node

/-- The line where a node starts. -/
def line : Node → Nat
  | .scalar _ _ l | .seq _ l | .map _ l | .alias _ _ l | .props _ _ _ l => l

/-- A node moved to start on another line. -/
def withLine (l : Nat) : Node → Node
  | .scalar v s _ => .scalar v s l
  | .seq items _ => .seq items l
  | .map entries _ => .map entries l
  | .alias name k _ => .alias name k l
  | .props a t n _ => .props a t n l

/-- An empty plain scalar: what an absent value reads as. -/
def empty (line : Nat) : Node := .scalar "" .plain line

mutual

/-- The depth of a node: one for a scalar or an alias, one more than its deepest child for a
collection or a node with properties. -/
def depth : Node → Nat
  | .scalar _ _ _ => 1
  | .seq items _ => 1 + depthItems items
  | .map entries _ => 1 + depthEntries entries
  | .alias _ _ _ => 1
  | .props _ _ n _ => 1 + n.depth

/-- The greatest depth of items. -/
def depthItems : List Node → Nat
  | [] => 0
  | i :: rest => max i.depth (depthItems rest)

/-- The greatest depth of the keys and values of entries. -/
def depthEntries : List (Node × Node) → Nat
  | [] => 0
  | (k, v) :: rest => max (max k.depth v.depth) (depthEntries rest)

end

end Node

/-- **Problems** that stop the reading. -/
structure Problem where
  message : String
  /-- The line (from zero) of the construct being read, zero when none. -/
  context : Nat := 0
  /-- The line (from zero) where the problem was met. -/
  mark : Nat
  /-- Whether the problem was met while splitting the text into tokens. -/
  scanning : Bool := false
  deriving Repr, Inhabited

/-- **A problem as text**, with the line it is reported at. -/
def Problem.text (p : Problem) : String :=
  let reported := if p.context != 0 then some p.context else if p.mark != 0 then some p.mark else none
  match reported with
  | some l => "yaml: line " ++ toString (if p.scanning then l + 1 else l) ++ ": " ++ p.message
  | none => "yaml: " ++ p.message

/-- A blank inside a line. -/
def isSpace (c : Char) : Bool := c == ' ' || c == '\t'

/-- A line break: a line feed, a carriage return, or the line or paragraph separator. -/
def isBreak (c : Char) : Bool := c == '\n' || c == '\r' || c.toNat == 0x2028 || c.toNat == 0x2029

/-- Whether the text ends here or goes on with a blank or a line break. -/
def blankAt : List Char → Bool
  | [] => true
  | c :: _ => isSpace c || isBreak c

/-- Whether what is left of a line is blank, or blank and then a comment. -/
def restIsBlank (cs : List Char) : Bool :=
  match cs.dropWhile isSpace with
  | [] => true
  | c :: _ => c == '#' || isBreak c

/-- **Lines** of a document: the number (from one), the indentation, the text after it, and the
line break before it. -/
structure Line where
  number : Nat
  indent : Nat
  body : List Char
  lead : Char := '\n'
  deriving Repr, Inhabited

namespace Line

/-- A line of the text after the break `lead`. -/
def ofChars (number : Nat) (lead : Char) (cs : List Char) : Line :=
  let indent := (cs.takeWhile (· == ' ')).length
  ⟨number, indent, cs.drop indent, lead⟩

/-- Whether a line holds nothing but blanks and a comment. -/
def isBlank (l : Line) : Bool := restIsBlank l.body

/-- The text of a line, its indentation restored. -/
def text (l : Line) : List Char := List.replicate l.indent ' ' ++ l.body

/-- Whether a line starts an entry of a block sequence (`-` and a blank). -/
def isEntry (l : Line) : Bool :=
  match l.body with
  | '-' :: rest => blankAt rest
  | _ => false

/-- Whether a line starts an explicit key of a block mapping (`?` and a blank). -/
def isExplicitKey (l : Line) : Bool :=
  match l.body with
  | '?' :: rest => blankAt rest
  | _ => false

/-- Whether a line starts the value of an explicit key (`:` and a blank). -/
def isExplicitValue (l : Line) : Bool :=
  match l.body with
  | ':' :: rest => blankAt rest
  | _ => false

/-- What follows the indicator at the front of a line, and the blanks before it. -/
def afterIndicator (l : Line) : List Char × Nat :=
  let after := l.body.drop 1
  let gap := (after.takeWhile isSpace).length
  (after.drop gap, gap)

/-- Whether a line is the marker `---` or `...` at the left margin. -/
def isMarker (l : Line) : Bool :=
  l.indent == 0 && (l.body.take 3 == ['-', '-', '-'] || l.body.take 3 == ['.', '.', '.']) &&
    blankAt (l.body.drop 3)

end Line

/-- The lines from the first one that is not blank. -/
def skipBlank : List Line → List Line
  | [] => []
  | l :: rest => if l.isBlank then skipBlank rest else l :: rest

/-- The text of lines, each after its line break. -/
def restText (lines : List Line) : List Char :=
  lines.foldr (fun l acc => l.lead :: l.text ++ acc) []

/-- **Reading positions** in a text: what is left, and its line (from one). -/
structure Cursor where
  chars : List Char
  line : Nat
  deriving Inhabited

namespace Cursor

/-- The position after the next character. -/
def next (c : Cursor) : Cursor :=
  match c.chars with
  | ch :: rest => ⟨rest, if isBreak ch then c.line + 1 else c.line⟩
  | [] => c

/-- Drops a comment up to the end of its line. -/
def skipComment (c : Cursor) : Cursor := ⟨c.chars.dropWhile (!isBreak ·), c.line⟩

/-- Drops blanks inside the line. -/
def skipSpaces (c : Cursor) : Cursor := ⟨c.chars.dropWhile isSpace, c.line⟩

end Cursor

/-- Skips blanks, line breaks and comments between the tokens of a flow collection. -/
def skipFlow : Nat → Cursor → Cursor
  | 0, c => c
  | fuel + 1, c =>
    match c.chars with
    | '#' :: _ => skipFlow fuel c.skipComment
    | ch :: _ => if isSpace ch || isBreak ch then skipFlow fuel c.next else c
    | [] => c

/-- **What a run of line breaks folds to**, given the first break and the breaks after it: a
first line feed becomes a blank when no break follows and gives way to the breaks that follow
otherwise; any other first break stays, with the breaks after it. -/
def joinBreaks (first : Option Char) (trailing : List Char) : List Char :=
  match first with
  | some '\n' => if trailing.isEmpty then [' '] else trailing
  | some b => b :: trailing
  | none => trailing

/-- Whether a line starts with a document marker, `---` or `...`, and a blank. -/
def documentIndicator (cs : List Char) : Bool :=
  (cs.take 3 == ['-', '-', '-'] || cs.take 3 == ['.', '.', '.']) && blankAt (cs.drop 3)

/-- **The blanks and line breaks inside a quoted scalar** from the cursor: what they come to in
the text, where the text goes on, and whether a break came last. Blanks are kept until a line
break comes; then the breaks join as `joinBreaks` says, the blanks around them dropped.
`leading` tells that a break has come (an escaped one has no break of its own in `first`). -/
def quotedGap : Nat → Bool → List Char → Option Char → List Char → Bool → Cursor →
    List Char × Cursor × Bool
  | 0, leading, spaces, first, trailing, atStart, c =>
    ((if leading then joinBreaks first trailing else spaces), c, atStart)
  | fuel + 1, leading, spaces, first, trailing, atStart, c =>
    let finish := ((if leading then joinBreaks first trailing else spaces), c, atStart)
    match c.chars with
    | ch :: _ =>
      if isSpace ch then
        quotedGap fuel leading (if leading then spaces else spaces ++ [ch]) first trailing false c.next
      else if isBreak ch then
        if leading then quotedGap fuel true spaces first (trailing ++ [ch]) true c.next
        else quotedGap fuel true [] (some ch) trailing true c.next
      else finish
    | [] => finish

/-- The character of a one-letter escape in double quotes. -/
def escapeChar : Char → Option Char
  | '0' => some (Char.ofNat 0)
  | 'a' => some (Char.ofNat 7)
  | 'b' => some (Char.ofNat 8)
  | 't' => some '\t'
  | '\t' => some '\t'
  | 'n' => some '\n'
  | 'v' => some (Char.ofNat 11)
  | 'f' => some (Char.ofNat 12)
  | 'r' => some '\r'
  | 'e' => some (Char.ofNat 27)
  | ' ' => some ' '
  | '"' => some '"'
  | '/' => some '/'
  | '\'' => some '\''
  | '\\' => some '\\'
  | 'N' => some (Char.ofNat 0x85)
  | '_' => some (Char.ofNat 0xA0)
  | 'L' => some (Char.ofNat 0x2028)
  | 'P' => some (Char.ofNat 0x2029)
  | _ => none

/-- The value of a hexadecimal digit. -/
def hexDigit (c : Char) : Option Nat :=
  if c.isDigit then some (c.toNat - 48)
  else if 'a' ≤ c && c ≤ 'f' then some (c.toNat - 87)
  else if 'A' ≤ c && c ≤ 'F' then some (c.toNat - 55)
  else none

/-- The value of `count` hexadecimal digits at the front. -/
def hexValue (count : Nat) (cs : List Char) : Option Nat :=
  if cs.length < count then none
  else (cs.take count).foldl (fun acc c => acc.bind fun n => (hexDigit c).map (n * 16 + ·)) (some 0)

/-- **The body of a quoted scalar**, after its opening quote, up to and past the closing one.
`start` is the line of the opening quote. -/
def quotedBody (double : Bool) (start : Nat) : Nat → List Char → Cursor →
    Except Problem (List Char × Cursor)
  | 0, acc, c => .ok (acc, c)
  | fuel + 1, acc, c =>
    let stop : Problem := {
      message := "found unexpected end of stream", context := start - 1, mark := c.line - 1,
      scanning := true }
    match c.chars with
    | [] => .error stop
    | ch :: rest =>
      if !double && ch == '\'' then
        match rest with
        | '\'' :: _ => quotedBody double start fuel (acc ++ ['\'']) c.next.next
        | _ => .ok (acc, c.next)
      else if double && ch == '"' then .ok (acc, c.next)
      else if double && ch == '\\' && (rest.head?.map isBreak).getD false then
        let (gap, c1, atStart) := quotedGap (c.chars.length + 1) true [] none [] true c.next.next
        if atStart && documentIndicator c1.chars then
          .error { stop with message := "found unexpected document indicator", mark := c1.line - 1 }
        else quotedBody double start fuel (acc ++ gap) c1
      else if double && ch == '\\' then
        match rest with
        | e :: more =>
          match escapeChar e with
          | some x => quotedBody double start fuel (acc ++ [x]) c.next.next
          | none =>
            let width := if e == 'x' then 2 else if e == 'u' then 4 else if e == 'U' then 8 else 0
            if width == 0 then
              .error { stop with message := "found unknown escape character" }
            else
              match hexValue width more with
              | none => .error { stop with message := "did not find expected hexdecimal number" }
              | some v =>
                if (0xD800 ≤ v && v ≤ 0xDFFF) || v > 0x10FFFF then
                  .error { stop with message := "found invalid Unicode character escape code" }
                else
                  quotedBody double start fuel (acc ++ [Char.ofNat v])
                    ⟨more.drop width, c.line⟩
        | [] => .error stop
      else if isSpace ch || isBreak ch then
        let (gap, c1, atStart) := quotedGap (c.chars.length + 1) false [] none [] false c
        if atStart && documentIndicator c1.chars then
          .error { stop with message := "found unexpected document indicator", mark := c1.line - 1 }
        else quotedBody double start fuel (acc ++ gap) c1
      else quotedBody double start fuel (acc ++ [ch]) c.next

/-- Whether a character ends a plain scalar inside a flow collection. -/
def flowIndicator (c : Char) : Bool := c == ',' || c == '[' || c == ']' || c == '{' || c == '}'

/-- **A plain scalar in a flow collection**: up to `: `, a comma, a bracket, a brace, or a comment
after a blank, its lines folded. Blanks wait in `spaces`; once a line break has come (`leading`)
the breaks wait in `first` and `trailing`, to be joined by `joinBreaks` before the next
character. -/
def plainFlow : Nat → List Char → Bool → List Char → Option Char → List Char → Cursor →
    List Char × Cursor
  | 0, acc, _, _, _, _, c => (acc, c)
  | fuel + 1, acc, leading, spaces, first, trailing, c =>
    match c.chars with
    | [] => (acc, c)
    | ch :: rest =>
      if ch == ':' && (blankAt rest || (match rest with | d :: _ => flowIndicator d | [] => true)) then
        (acc, c)
      else if flowIndicator ch then (acc, c)
      else if ch == '#' && (leading || !spaces.isEmpty) then (acc, c)
      else if isSpace ch then
        plainFlow fuel acc leading (if leading then spaces else spaces ++ [ch]) first trailing c.next
      else if isBreak ch then
        if leading then plainFlow fuel acc true spaces first (trailing ++ [ch]) c.next
        else plainFlow fuel acc true [] (some ch) trailing c.next
      else
        let joint := if leading then joinBreaks first trailing else spaces
        plainFlow fuel (acc ++ joint ++ [ch]) false [] none [] c.next

/-- The problem of a character that no token starts with. -/
def strayCharacter (line : Nat) : Problem :=
  { message := "found character that cannot start any token", context := line - 1,
    mark := line - 1, scanning := true }

/-- A problem met on a line while splitting it into tokens. -/
def tokenProblem (line : Nat) (message : String) : Problem :=
  { message, context := line - 1, mark := line - 1, scanning := true }

/-- Whether a character may stand in the name of an anchor: a letter, a digit, `_` or `-`. -/
def anchorChar (c : Char) : Bool := c.isAlphanum || c == '_' || c == '-'

/-- Whether a character may stand in a tag. -/
def tagChar (c : Char) : Bool := anchorChar c || ";/?:@&=+$.%!~*\x27()".contains c

/-- **The name after `&` or `*`**: letters, digits, `_` and `-`, ended by a blank, a line break,
or one of `?:,]}%@` and the backtick. Gives the name and what follows it. -/
def anchorName (line : Nat) (cs : List Char) : Except Problem (String × List Char) :=
  let name := cs.takeWhile anchorChar
  let rest := cs.drop name.length
  let ended := match rest with
    | [] => true
    | c :: _ => blankAt rest || "?:,]\x7d%@\x60".contains c
  if name.isEmpty || !ended then
    .error (tokenProblem line "did not find expected alphabetic or numeric character")
  else .ok (String.ofList name, rest)

/-- **A tag split into its handle and suffix**: `!h!` (letters, digits, `_` and `-` between two
`!`) and what follows, or `!` and the rest. -/
def splitTag (tag : List Char) : String × String :=
  match tag with
  | '!' :: more =>
    let name := more.takeWhile anchorChar
    match more.drop name.length with
    | '!' :: suffix => (String.ofList ('!' :: name ++ ['!']), String.ofList suffix)
    | _ => ("!", String.ofList more)
  | cs => ("", String.ofList cs)

/-- **A tag after its `!`**: `<uri>` verbatim, or the characters of a tag, ended by a blank, a line
break, or in a flow collection a comma. Gives the tag as written, `!` included, and what follows
it. A handle needs a suffix. -/
def tagText (line : Nat) (flow : Bool) (cs : List Char) : Except Problem (String × List Char) :=
  let ended (rest : List Char) : Bool := blankAt rest || (flow && rest.head? == some ',')
  match cs with
  | '<' :: more =>
    let uri := more.takeWhile (fun c => tagChar c || c == ',' || c == '[' || c == ']')
    match more.drop uri.length with
    | '>' :: rest =>
      if uri.isEmpty then .error (tokenProblem line "did not find expected tag URI")
      else if ended rest then .ok (String.ofList ('!' :: '<' :: uri ++ ['>']), rest)
      else .error (tokenProblem line "did not find expected whitespace or line break")
    | _ => .error (tokenProblem line "did not find the expected '>'")
  | _ =>
    let body := cs.takeWhile tagChar
    let rest := cs.drop body.length
    let (handle, suffix) := splitTag ('!' :: body)
    if handle.length > 1 && suffix.isEmpty then .error (tokenProblem line "did not find expected tag URI")
    else if ended rest then .ok (String.ofList ('!' :: body), rest)
    else .error (tokenProblem line "did not find expected whitespace or line break")

/-- **The properties before a node**: an anchor `&name`, a tag, or both in either order, with
blanks between and after them. Gives the anchor, the tag as written and what follows. -/
def readProps (line : Nat) (flow : Bool) (cs : List Char) :
    Except Problem (Option String × Option String × List Char) :=
  go 2 none none cs
where
  /-- Reads up to `fuel` more properties. -/
  go : Nat → Option String → Option String → List Char →
      Except Problem (Option String × Option String × List Char)
    | 0, anchor, tag, cs => .ok (anchor, tag, cs)
    | fuel + 1, anchor, tag, cs =>
      match cs with
      | '&' :: more =>
        if anchor.isSome then .ok (anchor, tag, cs)
        else do
          let (name, rest) ← anchorName line more
          go fuel (some name) tag (rest.dropWhile isSpace)
      | '!' :: more =>
        if tag.isSome then .ok (anchor, tag, cs)
        else do
          let (t, rest) ← tagText line flow more
          go fuel anchor (some t) (rest.dropWhile isSpace)
      | _ => .ok (anchor, tag, cs)

/-- Whether text starts with properties. -/
def startsProps (cs : List Char) : Bool := cs.head? == some '&' || cs.head? == some '!'

mutual

/-- **A flow node**: a flow collection or a scalar, at the cursor. -/
def flowNode : Nat → Cursor → Except Problem (Node × Cursor)
  | 0, c => .error { message := "did not find expected node content", mark := c.line - 1 }
  | fuel + 1, c =>
    match c.chars with
    | '[' :: _ => flowSeq fuel c.line [] (skipFlow (c.chars.length + 1) c.next)
    | '{' :: _ => flowMap fuel c.line [] (skipFlow (c.chars.length + 1) c.next)
    | '"' :: _ => do
      let (body, c1) ← quotedBody true c.line (c.chars.length + 1) [] c.next
      return (.scalar (String.ofList body) .double c.line, c1)
    | '\'' :: _ => do
      let (body, c1) ← quotedBody false c.line (c.chars.length + 1) [] c.next
      return (.scalar (String.ofList body) .single c.line, c1)
    | '*' :: more => do
      let (name, rest) ← anchorName c.line more
      return (.alias name 0 c.line, ⟨rest, c.line⟩)
    | '&' :: _ | '!' :: _ => do
      let (anchor, tag, rest) ← readProps c.line true c.chars
      let c1 := skipFlow (rest.length + 1) ⟨rest, c.line⟩
      let absent : Bool := match c1.chars with
        | ',' :: _ | ']' :: _ | '}' :: _ | [] => true
        | ':' :: after => blankAt after || (after.head?.map flowIndicator).getD true
        | _ => false
      if absent then return (.props anchor tag (Node.empty c.line) c.line, c1)
      else do
        let (node, c2) ← flowNode fuel c1
        return (.props anchor tag node c.line, c2)
    | ch :: _ =>
      if flowIndicator ch || ch == ':' || ch == '#' then
        .error { message := "did not find expected node content", mark := c.line - 1 }
      else if ch == '@' || ch == '\x60' || ch == '%' || ch == '|' || ch == '>' then
        .error (strayCharacter c.line)
      else
        let (body, c1) := plainFlow (c.chars.length + 1) [] false [] none [] c
        .ok (.scalar (String.ofList body) .plain c.line, c1)
    | [] => .error { message := "did not find expected node content", mark := c.line - 1 }

/-- The entries of a flow sequence after its `[`, or after a comma. -/
def flowSeq : Nat → Nat → List Node → Cursor → Except Problem (Node × Cursor)
  | 0, start, _, c => .error { message := "did not find expected ',' or ']'", context := start - 1, mark := c.line - 1 }
  | fuel + 1, start, items, c =>
    let stop : Problem := {
      message := "did not find expected ',' or ']'", context := start - 1, mark := c.line - 1 }
    match c.chars with
    | ']' :: _ => .ok (.seq items start, c.next)
    | [] => .error stop
    | _ => do
      let (node, c1) ← flowNode fuel c
      let c1 := skipFlow (c1.chars.length + 1) c1
      let (entry, c2) ← match c1.chars with
        | ':' :: _ =>
          let c3 := skipFlow (c1.chars.length + 1) c1.next
          match c3.chars with
          | ',' :: _ | ']' :: _ => pure (Node.map [(node, Node.empty c3.line)] node.line, c3)
          | _ => do
            let (value, c4) ← flowNode fuel c3
            pure (Node.map [(node, value)] node.line, c4)
        | _ => pure (node, c1)
      let c2 := skipFlow (c2.chars.length + 1) c2
      match c2.chars with
      | ',' :: _ => flowSeq fuel start (items ++ [entry]) (skipFlow (c2.chars.length + 1) c2.next)
      | ']' :: _ => .ok (.seq (items ++ [entry]) start, c2.next)
      | _ => .error { stop with mark := c2.line - 1 }

/-- The entries of a flow mapping after its `{`, or after a comma. -/
def flowMap : Nat → Nat → List (Node × Node) → Cursor → Except Problem (Node × Cursor)
  | 0, start, _, c => .error { message := "did not find expected ',' or '\x7d'", context := start - 1, mark := c.line - 1 }
  | fuel + 1, start, entries, c =>
    let stop : Problem := {
      message := "did not find expected ',' or '\x7d'", context := start - 1, mark := c.line - 1 }
    match c.chars with
    | '}' :: _ => .ok (.map entries start, c.next)
    | [] => .error stop
    | _ => do
      let c := match c.chars with
        | '?' :: after => if blankAt after then skipFlow (after.length + 1) c.next else c
        | _ => c
      let (key, c1) ← flowNode fuel c
      let c1 := skipFlow (c1.chars.length + 1) c1
      let (value, c2) ← match c1.chars with
        | ':' :: _ =>
          let c3 := skipFlow (c1.chars.length + 1) c1.next
          match c3.chars with
          | ',' :: _ | '}' :: _ => pure (Node.empty c3.line, c3)
          | _ => flowNode fuel c3
        | _ => pure (Node.empty c1.line, c1)
      let c2 := skipFlow (c2.chars.length + 1) c2
      match c2.chars with
      | ',' :: _ => flowMap fuel start (entries ++ [(key, value)]) (skipFlow (c2.chars.length + 1) c2.next)
      | '}' :: _ => .ok (.map (entries ++ [(key, value)]) start, c2.next)
      | _ => .error { stop with mark := c2.line - 1 }

end

/-- The text of a line of a plain scalar in a block: up to a comment, trailing blanks dropped;
and whether a comment ended it. -/
def plainLine (cs : List Char) : List Char × Bool :=
  let rec go : List Char → List Char → List Char × Bool
    | [], acc => (acc, false)
    | c :: rest, acc =>
      if c == '#' && (match acc.getLast? with | some p => isSpace p | none => true) then (acc, true)
      else go rest (acc ++ [c])
  let (text, commented) := go cs []
  ((text.reverse.dropWhile isSpace).reverse, commented)

/-- Whether a line of a plain scalar holds a mapping value indicator (`:` and a blank). -/
def hasValueIndicator : List Char → Bool
  | [] => false
  | ':' :: rest => blankAt rest || hasValueIndicator rest
  | _ :: rest => hasValueIndicator rest

/-- The problem of a mapping value where none may stand. -/
def valueNotAllowed (line : Nat) : Problem :=
  { message := "mapping values are not allowed in this context", context := line - 1,
    mark := line - 1, scanning := true }

/-- **The further lines of a plain scalar in a block** that starts on line `start`: lines indented
past `parent`, folded onto the text so far; `breaks` holds the line breaks since the last text,
joined by `joinBreaks`. A tab where the indentation is still short of the scalar's is a
problem. -/
def plainLines (start : Nat) (parent : Int) : List Char → List Char → List Line →
    Except Problem (List Char × List Line)
  | acc, _, [] => .ok (acc, [])
  | acc, breaks, l :: more =>
    if (l.indent : Int) ≤ parent && l.body.head? == some '\t' then
      .error { message := "found a tab character that violates indentation", context := start - 1,
               mark := l.number - 1, scanning := true }
    else if l.body.all isSpace then plainLines start parent acc (breaks ++ [l.lead]) more
    else if l.isBlank || (l.indent : Int) ≤ parent || l.isMarker then .ok (acc, l :: more)
    else
      let (text, commented) := plainLine l.body
      if hasValueIndicator text then .error (valueNotAllowed l.number)
      else
        let acc := acc ++ joinBreaks (breaks ++ [l.lead]).head? (breaks ++ [l.lead]).tail ++ text
        if commented then .ok (acc, more) else plainLines start parent acc [] more

/-- Reads the indicators of a block scalar's header: chomping (`-` strip, `+` keep) and an
explicit indentation. -/
def blockHeader : List Char → Option Int × Option Nat × List Char
  | c :: rest =>
    if c == '-' || c == '+' then
      let chomp : Int := if c == '-' then -1 else 1
      match rest with
      | d :: more => if d.isDigit && d != '0' then (some chomp, some (d.toNat - 48), more) else (some chomp, none, rest)
      | [] => (some chomp, none, [])
    else if c.isDigit && c != '0' then
      match rest with
      | d :: more => if d == '-' || d == '+' then (some (if d == '-' then -1 else 1), some (c.toNat - 48), more)
        else (none, some (c.toNat - 48), rest)
      | [] => (none, some (c.toNat - 48), [])
    else (none, none, c :: rest)
  | [] => (none, none, [])

/-- **The lines of a block scalar's content**: lines indented at least `indent` and lines of
blanks, each with its text past the indentation and the line break that ends it (none for the
last line of the text). -/
def blockLines (indent : Nat) : List Line → List (List Char × Option Char) × List Line
  | [] => ([], [])
  | l :: more =>
    if l.body.all isSpace || l.indent ≥ indent then
      let (ls, rest) := blockLines indent more
      ((l.text.drop indent, more.head?.map (·.lead)) :: ls, rest)
    else ([], l :: more)

/-- **The text of a block scalar** from its lines. Each line of text comes after the line break
before it and the breaks of the empty lines between; in a folded scalar a line feed between two
lines of text that start with no blank becomes a blank, or is dropped when empty lines come
between. At the end the last break is kept unless `chomp` strips it, and the breaks of the empty
lines after it only when `chomp` keeps them. -/
def blockText (literal : Bool) (chomp : Option Int) : List (List Char × Option Char) →
    List Char → List Char → List Char → Bool → List Char
  | [], acc, leading, trailing, _ =>
    let strip := match chomp with
      | some c => decide (c < 0)
      | none => false
    let keep := match chomp with
      | some c => decide (c > 0)
      | none => false
    acc ++ (if strip then [] else leading) ++ (if keep then trailing else [])
  | (text, brk) :: rest, acc, leading, trailing, leadingBlank =>
    if text.isEmpty then blockText literal chomp rest acc leading (trailing ++ brk.toList) leadingBlank
    else
      let blank := (text.head?.map isSpace).getD false
      let joint :=
        if !literal && !leadingBlank && !blank && leading == ['\n'] then
          (if trailing.isEmpty then [' '] else [])
        else leading
      blockText literal chomp rest (acc ++ joint ++ trailing ++ text) brk.toList [] blank

/-- **A block scalar** (`|` or `>`) whose header is `header`, content in the lines after it. -/
def blockScalar (parent : Int) (line : Line) (literal : Bool) (rest : List Line) :
    Except Problem (Node × List Line) :=
  let (chomp, explicit, after) := blockHeader (line.body.drop 1)
  let zero := match line.body.drop 1 with
    | '0' :: _ => true
    | c :: '0' :: _ => c == '-' || c == '+'
    | _ => false
  if zero then .error (tokenProblem line.number "found an indentation indicator equal to 0")
  else if !restIsBlank after then
    .error ⟨"did not find expected comment or line break", line.number - 1, line.number - 1, true⟩
  else
    let least : Nat := (parent + 1).toNat
    let indent := match explicit with
      | some n => (parent.toNat.max 0) + n
      | none =>
        let leading := rest.takeWhile (fun l => l.body.all isSpace)
        let first := (rest.dropWhile (fun l => l.body.all isSpace)).head?
        let deepest := leading.foldl (fun m l => m.max (l.indent + l.body.length)) 0
        let firstIndent := match first with
          | some l => if (l.indent : Int) > parent then l.indent else 0
          | none => 0
        (deepest.max firstIndent).max (least.max 1)
    let (lines, remaining) := blockLines indent rest
    let value := String.ofList (blockText literal chomp lines [] [] [] false)
    .ok (.scalar value (if literal then .literal else .folded) line.number, remaining)

/-- A quoted or plain key at the front of a line of a block mapping, if the line has one: the
key, what follows the `:`, and its column. -/
def scalarKeyOf (l : Line) : Option (Node × List Char × Nat) :=
  let value (after : List Char) (used : Nat) : List Char × Nat :=
    let gap := (after.takeWhile isSpace).length
    (after.drop gap, l.indent + used + gap)
  match l.body with
  | '"' :: _ | '\'' :: _ =>
    let double := l.body.head? == some '"'
    match quotedBody double l.number (l.body.length + 1) [] ⟨l.body.drop 1, l.number⟩ with
    | .ok (body, c) =>
      if c.line != l.number then none
      else
        let used := l.body.length - c.chars.length
        let gap := (c.chars.takeWhile isSpace).length
        match c.chars.drop gap with
        | ':' :: after =>
          if blankAt after then
            let (v, col) := value after (used + gap + 1)
            some (.scalar (String.ofList body) (if double then .double else .single) l.number, v, col)
          else none
        | _ => none
    | .error _ => none
  | '[' :: _ | '{' :: _ | '#' :: _ => none
  | _ =>
    let rec find : List Char → Nat → Bool → Option Nat
      | [], _, _ => none
      | c :: rest, i, spaced =>
        if c == '#' && spaced then none
        else if c == ':' && blankAt rest then some i
        else find rest (i + 1) (isSpace c)
    match find l.body 0 false with
    | some i =>
      let key := ((l.body.take i).reverse.dropWhile isSpace).reverse
      let (v, col) := value (l.body.drop (i + 1)) (i + 1)
      some (.scalar (String.ofList key) .plain l.number, v, col)
    | none => none

/-- **The key at the front of a line of a block mapping**, if the line has one: a quoted or plain
key with or without properties, or an alias; with what follows the `:`, and its column. -/
def keyOf (l : Line) : Option (Node × List Char × Nat) :=
  match l.body with
  | '&' :: _ | '!' :: _ =>
    match readProps l.number false l.body with
    | .ok (anchor, tag, rest) =>
      let used := l.body.length - rest.length
      (scalarKeyOf { l with indent := l.indent + used, body := rest }).map fun (key, v, col) =>
        (.props anchor tag key l.number, v, col)
    | .error _ => none
  | '*' :: more =>
    match anchorName l.number more with
    | .ok (name, rest) =>
      match rest.dropWhile isSpace with
      | ':' :: after =>
        if blankAt after then
          let gap := (after.takeWhile isSpace).length
          some (.alias name 0 l.number, after.drop gap, l.indent + (l.body.length - after.length) + gap)
        else none
      | _ => none
    | .error _ => none
  | _ => scalarKeyOf l

/-- Finishes a node read character by character: what is left of its last line must be blank or
a comment, and reading goes on with the lines after it. -/
def afterInline (context : Nat) (rest : List Line) (node : Node) (c : Cursor) :
    Except Problem (Node × List Line) :=
  if restIsBlank (c.chars.takeWhile (!isBreak ·)) then .ok (node, rest.dropWhile (·.number ≤ c.line))
  else .error { message := "did not find expected key", context, mark := c.line - 1 }

/-- **A plain scalar in a block** starting on a line, its further lines indented past `parent`. -/
def plainBlock (parent : Int) (l : Line) (rest : List Line) : Except Problem (Node × List Line) :=
  let (text, commented) := plainLine l.body
  if hasValueIndicator text then .error (valueNotAllowed l.number)
  else if commented then .ok (.scalar (String.ofList text) .plain l.number, rest)
  else do
    let (body, remaining) ← plainLines l.number parent text [] rest
    return (.scalar (String.ofList body) .plain l.number, remaining)

/-- **A node that starts inside a line**: a flow collection, a quoted or block scalar, an alias,
or a plain scalar whose further lines are indented past `parent`. -/
def inlineNode (parent : Int) (context : Nat) (l : Line) (rest : List Line) :
    Except Problem (Node × List Line) :=
    let cursor : Cursor := ⟨l.body ++ restText rest, l.number⟩
    let fuel := 4 * cursor.chars.length + 8
    match l.body with
    | '[' :: _ | '{' :: _ | '"' :: _ | '\'' :: _ => do
      let (node, c) ← flowNode fuel cursor
      afterInline context rest node c
    | '|' :: _ => blockScalar parent l true rest
    | '>' :: _ => blockScalar parent l false rest
    | '-' :: more =>
      if blankAt more then
        .error ⟨"block sequence entries are not allowed in this context", l.number - 1, l.number - 1, true⟩
      else plainBlock parent l rest
    | '*' :: more => do
      let (name, after) ← anchorName l.number more
      if restIsBlank after then .ok (.alias name 0 l.number, rest)
      else .error { message := "did not find expected key", context, mark := l.number - 1 }
    | '@' :: _ | '\x60' :: _ | '\t' :: _ | '%' :: _ => .error (strayCharacter l.number)
    | _ => plainBlock parent l rest

mutual

/-- **A block node** indented past `parent`, or an empty scalar (on line `absent`) when the next
line is not indented past it. Properties alone on a line belong to the node on the lines after
it. -/
def blockNode : Nat → Int → Nat → List Line → Except Problem (Node × List Line)
  | 0, _, absent, lines => .ok (Node.empty absent, lines)
  | fuel + 1, parent, absent, lines =>
    match skipBlank lines with
    | [] => .ok (Node.empty absent, [])
    | l :: rest =>
      if (l.indent : Int) ≤ parent then .ok (Node.empty absent, l :: rest)
      else if l.body.head? == some '\t' then .error (strayCharacter l.number)
      else if l.isEntry then blockSeq fuel false l.indent l.number [] (l :: rest)
      else if l.isExplicitKey then blockMap fuel l.indent l.number [] (l :: rest)
      else match keyOf l with
        | some _ => blockMap fuel l.indent l.number [] (l :: rest)
        | none =>
          if startsProps l.body then do
            let (anchor, tag, after) ← readProps l.number false l.body
            let (node, remaining) ←
              if restIsBlank after then blockNode fuel parent l.number rest
              else
                inlineNode parent (l.number - 1)
                  { l with indent := l.indent + (l.body.length - after.length), body := after } rest
            return (.props anchor tag node l.number, remaining)
          else inlineNode parent (l.number - 1) l rest

/-- **The value below a line** of a block mapping at indentation `indent` whose value is not on
the line itself: a sequence at the mapping's own indentation, a block node indented past it, or
an empty scalar. -/
def valueBelow : Nat → Nat → Line → List Line → Except Problem (Node × List Line)
  | 0, _, l, rest => .ok (Node.empty l.number, rest)
  | fuel + 1, indent, l, rest =>
    match skipBlank rest with
    | l2 :: _ =>
      if l2.indent == indent && l2.isEntry then blockSeq fuel true indent l2.number [] rest
      else blockNode fuel indent l.number rest
    | [] => .ok (Node.empty l.number, [])

/-- **The entries of a block sequence** at indentation `indent`; an indentless one (the value of a
mapping entry at the entry's own indentation) ends quietly at a line of the same indentation. -/
def blockSeq : Nat → Bool → Nat → Nat → List Node → List Line → Except Problem (Node × List Line)
  | 0, _, _, start, items, lines => .ok (.seq items start, lines)
  | fuel + 1, indentless, indent, start, items, lines =>
    match skipBlank lines with
    | [] => .ok (.seq items start, [])
    | l :: rest =>
      if l.indent == indent && l.isEntry then do
        let (content, gap) := l.afterIndicator
        let (item, remaining) ←
          if restIsBlank content then blockNode fuel indent l.number rest
          else blockNode fuel indent l.number ({ number := l.number, indent := indent + 1 + gap, body := content } :: rest)
        blockSeq fuel indentless indent start (items ++ [item]) remaining
      else if l.indent > indent || (l.indent == indent && !indentless) then
        .error { message := "did not find expected '-' indicator", context := start - 1, mark := l.number - 1 }
      else .ok (.seq items start, l :: rest)

/-- **The entries of a block mapping** at indentation `indent`: a key and its value on one line
(the value may also start below), or an explicit key after `? ` with its value after `: ` on a
later line of the same indentation. -/
def blockMap : Nat → Nat → Nat → List (Node × Node) → List Line → Except Problem (Node × List Line)
  | 0, _, start, entries, lines => .ok (.map entries start, lines)
  | fuel + 1, indent, start, entries, lines =>
    match skipBlank lines with
    | [] => .ok (.map entries start, [])
    | l :: rest =>
      if l.indent == indent then
        if l.isEntry then
          .error { message := "did not find expected key", context := start - 1, mark := l.number - 1 }
        else if l.isExplicitKey then do
          let (content, gap) := l.afterIndicator
          let (key, remaining) ←
            if restIsBlank content then blockNode fuel indent l.number rest
            else blockNode fuel indent l.number ({ number := l.number, indent := indent + 1 + gap, body := content } :: rest)
          match skipBlank remaining with
          | l2 :: rest2 =>
            if l2.indent == indent && l2.isExplicitValue then do
              let (content2, gap2) := l2.afterIndicator
              let (value, remaining2) ←
                if restIsBlank content2 then valueBelow fuel indent l2 rest2
                else blockNode fuel indent l2.number ({ number := l2.number, indent := indent + 1 + gap2, body := content2 } :: rest2)
              blockMap fuel indent start (entries ++ [(key, value)]) remaining2
            else blockMap fuel indent start (entries ++ [(key, Node.empty l.number)]) remaining
          | [] => .ok (.map (entries ++ [(key, Node.empty l.number)]) start, [])
        else
          match keyOf l with
          | none =>
            .error ⟨"could not find expected ':'", l.number - 1, l.number, true⟩
          | some (key, after, col) => do
            let (value, remaining) ←
              if restIsBlank after then valueBelow fuel indent l rest
              else if startsProps after then do
                let (anchor, tag, content) ← readProps l.number false after
                let (v, remaining) ←
                  if restIsBlank content then valueBelow fuel indent l rest
                  else
                    inlineNode indent (start - 1)
                      { number := l.number, indent := col + (after.length - content.length), body := content } rest
                pure (Node.props anchor tag v l.number, remaining)
              else inlineNode indent (start - 1) { number := l.number, indent := col, body := after } rest
            blockMap fuel indent start (entries ++ [(key, value)]) remaining
      else if l.indent > indent then
        .error { message := "did not find expected key", context := start - 1, mark := l.number - 1 }
      else .ok (.map entries start, l :: rest)

end

/-- The lines of the first document: after directives and a `---` marker (text after the marker
is the document's first line), up to the next marker. Nothing when no document starts. -/
def firstDocument : List Line → Option (List Line)
  | [] => none
  | l :: rest =>
    if l.isBlank then firstDocument rest
    else if l.indent == 0 && l.body.head? == some '%' then firstDocument rest
    else if l.isMarker && l.body.take 3 == ['-', '-', '-'] then
      let after := l.body.drop 3
      let gap := (after.takeWhile isSpace).length
      let content := after.drop gap
      let first : List Line := if restIsBlank content then [] else [{ l with indent := 3 + gap, body := content }]
      some (first ++ rest.takeWhile (fun m => !m.isMarker))
    else if l.isMarker then firstDocument rest
    else some ((l :: rest).takeWhile (fun m => !m.isMarker))

/-- **The lines of a text**, split at every line break, each with the break before it (a line
feed before the first). -/
def splitLines (cs : List Char) : List (Char × List Char) :=
  go cs '\n' [] []
where
  /-- Splits the rest of the text, the current line so far held in reverse. -/
  go : List Char → Char → List Char → List (Char × List Char) → List (Char × List Char)
    | [], lead, line, acc => ((lead, line.reverse) :: acc).reverse
    | c :: rest, lead, line, acc =>
      if isBreak c then go rest c [] ((lead, line.reverse) :: acc)
      else go rest lead (c :: line) acc

/-- Numbers lines from `n`. -/
def numbered : Nat → List (Char × List Char) → List Line
  | _, [] => []
  | n, (lead, cs) :: rest => Line.ofChars n lead cs :: numbered (n + 1) rest

end QueryKit.Yaml
