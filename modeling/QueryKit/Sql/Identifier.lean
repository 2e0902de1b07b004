import QueryKit.Text.Blank

/-!
# Quoted identifiers

How a name is written into SQL. A name is split at dots into parts, and each part is put between
the dialect's quote characters, a quote character inside it written twice:
`users.id` becomes `"users"."id"`. A part that is `*` stays bare, and a part that is already
correctly quoted stays as it is. Before that, a name made only of ASCII letters, digits, `_`, `.`,
quotes, `*` and blanks may carry an alias, and each side is quoted on its own:
`users AS u` becomes `"users" AS "u"` (the `AS` found outside quotes, in any case), and
`users u` becomes `"users" "u"` (the alias is the last word, or the last quoted part, and the
name before it must be longer than one character).

* `quoteName q name` writes a name with quote character `q`;
* `isQuotedPart q part` tells whether a part is already written correctly.
-/

namespace QueryKit.Sql

/-- The ASCII blanks that separate an alias: space, tab, line feed, carriage return, form feed,
vertical tab. -/
def isGap (c : Char) : Bool :=
  c == ' ' || c == '\t' || c == '\n' || c == '\r' || c == '\x0c' || c == '\x0b'

/-- Whether a character may stand in a name that can carry an alias. -/
def aliasChar (c : Char) : Bool :=
  (c.isAlphanum && c.toNat < 128) || c == '_' || c == '.' || c == '"' || c == '\x60' ||
    c == '*' || isGap c

/-- The text with blanks trimmed at both ends. -/
def trimmed (cs : List Char) : List Char := (Text.trim (String.ofList cs)).toList

/-- Finds the first ` AS ` outside quoted parts: the trimmed text before and after it, both
non-empty. `before` holds the characters already passed, backwards. -/
def splitAs (before : List Char) (quote : Option Char) : List Char → Option (List Char × List Char)
  | [] => none
  | c :: rest =>
    match quote with
    | some q => splitAs (c :: before) (if c == q then none else quote) rest
    | none =>
      if c == '"' || c == '\x60' then splitAs (c :: before) (some c) rest
      else if !isGap c then splitAs (c :: before) none rest
      else match rest with
        | a :: s :: d :: tail =>
          if (a == 'a' || a == 'A') && (s == 's' || s == 'S') && isGap d then
            let left := trimmed before.reverse
            let right := trimmed (d :: tail)
            if !left.isEmpty && !right.isEmpty then some (left, right)
            else splitAs (c :: before) none rest
          else splitAs (c :: before) none rest
        | _ => splitAs (c :: before) none rest

/-- The index of the last character before position `i` (exclusive) equal to `q`. -/
def lastIndexBefore (cs : List Char) (q : Char) : Nat → Option Nat
  | 0 => none
  | i + 1 => if cs.getD i ' ' == q then some i else lastIndexBefore cs q i

/-- The index of the last blank before position `i` (exclusive). -/
def lastGapBefore (cs : List Char) : Nat → Option Nat
  | 0 => none
  | i + 1 => if isGap (cs.getD i 'x') then some i else lastGapBefore cs i

/-- Splits `name alias` at the last word, which may be a quoted part; the name before it must be
longer than one character. -/
def splitSpaceAlias (cs : List Char) : Option (List Char × List Char) :=
  let stop := cs.length - (cs.reverse.takeWhile isGap).length
  if stop == 0 then none else
  let last := cs.getD (stop - 1) ' '
  let start? : Option Nat :=
    if last == '"' || last == '\x60' then lastIndexBefore cs last (stop - 1)
    else some (match lastGapBefore cs stop with
      | some i => i + 1
      | none => 0)
  match start? with
  | none => none
  | some start =>
    if start == 0 || !isGap (cs.getD (start - 1) 'x') then none else
    let left := trimmed (cs.take start)
    if left.length ≤ 1 then none else some (left, (cs.take stop).drop start)

/-- Splits at `sep` outside parts quoted with `q`. -/
def splitOutside (sep q : Char) : List Char → List (List Char)
  | [] => [[]]
  | cs => go cs false []
where
  go : List Char → Bool → List Char → List (List Char)
    | [], _, cur => [cur.reverse]
    | c :: rest, inQuote, cur =>
      if c == q then go rest (!inQuote) (c :: cur)
      else if c == sep && !inQuote then cur.reverse :: go rest inQuote []
      else go rest inQuote (c :: cur)

/-- Whether the inside of a quoted part has every quote character doubled. -/
def doubledOnly (q : Char) : List Char → Bool
  | [] => true
  | c :: rest =>
    if c == q then
      match rest with
      | c' :: more => c' == q && doubledOnly q more
      | [] => false
    else doubledOnly q rest

/-- **Already quoted.** A part of at least two characters between `q`s, every `q` inside doubled. -/
def isQuotedPart (q : Char) (part : List Char) : Bool :=
  part.length ≥ 2 && part.head? == some q && part.getLast? == some q &&
    doubledOnly q ((part.drop 1).take (part.length - 2))

/-- One part between quotes, its quote characters doubled. -/
def quotePart (q : Char) (part : List Char) : List Char :=
  if part == ['*'] || isQuotedPart q part then part
  else q :: (part.flatMap (fun c => if c == q then [q, q] else [c]) ++ [q])

/-- Writes a name, quoting each dotted part; `fuel` bounds the alias splits. -/
def quoteChars (q : Char) : Nat → List Char → List Char
  | 0, cs => ".".toList.intercalate ((splitOutside '.' q cs).map (quotePart q))
  | fuel + 1, raw =>
    let cs := trimmed raw
    let dotted := ".".toList.intercalate ((splitOutside '.' q cs).map (quotePart q))
    if cs.all aliasChar then
      match splitAs [] none cs with
      | some (left, right) => quoteChars q fuel left ++ " AS ".toList ++ quoteChars q fuel right
      | none =>
        match splitSpaceAlias cs with
        | some (left, right) => quoteChars q fuel left ++ ' ' :: quoteChars q fuel right
        | none => dotted
    else dotted

/-- **Quoting a name** with quote character `q`. -/
def quoteName (q : Char) (name : String) : String :=
  String.ofList (quoteChars q (name.length + 1) name.toList)

end QueryKit.Sql
