import QueryKit.Value.Render
import QueryKit.Decimal.Format
import QueryKit.Decimal.Parse
import QueryKit.Text.Utf8
import QueryKit.Unicode.Printable

/-!
# Formatting values into a template

A template is text with *directives*. A directive is `%`, then in order:

* flags among `# 0 + - ` (space);
* an optional argument index `[n]`;
* an optional width, in digits or `*` to take it from the next argument;
* an optional precision after a point, in digits or `*`;
* a verb.

Each directive but `%%` takes an argument. A value is formatted by its kind:

* booleans take `%t`;
* integers take `%d %b %o %O %x %X %c %q %U`;
* doubles take `%e %E %f %F %g %G %b %x %X`;
* texts and bytes take `%s %q %x %X`;
* `%v` suits every kind and `%T` writes the kind's name. `%#v` writes the source spelling and
  `%+v` names the fields of records;
* errors, raw SQL and durations write their text for `%v %s %x %X %q`;
* lists, maps and records apply the verb to each element, in brackets.

The rest is written as it is. Mistakes stay visible in the output:

* a verb that does not suit its value writes `%!verb(kind=value)`;
* a directive with no argument left writes `%!verb(MISSING)`;
* a bad index writes `%!verb(BADINDEX)`;
* a template that ends inside a directive writes `%!(NOVERB)`;
* `*` that finds no integer writes `%!(BADWIDTH)` or `%!(BADPREC)`;
* arguments left over are listed at the end as `%!(EXTRA kind=value, …)`, unless an index was
  used.

The result is a byte string, because `%s` writes the octets of a byte string as they are.

* `printf template values` formats and decodes the octets, each octet that starts no
  well-formed character becoming U+FFFD.
-/

namespace QueryKit.Value

/-- The UTF-8 octets of a text. -/
def octets (s : String) : List UInt8 := s.toUTF8.toList

/-- The characters of a byte string, at most `fuel`: a well-formed character counts once, and so
does each octet that starts none. -/
def runeCountFuel : Nat → List UInt8 → Nat
  | 0, _ => 0
  | _, [] => 0
  | fuel + 1, b :: rest =>
    match Text.decodeChar (b :: rest) with
    | some (_, more) => runeCountFuel fuel more + 1
    | none => runeCountFuel fuel rest + 1

/-- **The number of characters** of a byte string. -/
def runeCount (bs : List UInt8) : Nat := runeCountFuel bs.length bs

/-- The first `n` characters of a byte string, at most `fuel` steps. -/
def takeRunesFuel : Nat → Nat → List UInt8 → List UInt8
  | 0, _, _ => []
  | _, 0, _ => []
  | _, _, [] => []
  | fuel + 1, n + 1, b :: rest =>
    match Text.decodeChar (b :: rest) with
    | some (_, more) => (b :: rest).take (rest.length + 1 - more.length) ++ takeRunesFuel fuel n more
    | none => b :: takeRunesFuel fuel n rest

/-- **The first `n` characters** of a byte string. -/
def takeRunes (n : Nat) (bs : List UInt8) : List UInt8 := takeRunesFuel bs.length n bs

/-- **The state of a directive**: its flags, width and precision. `plusV` and `sharpV` are the
`+` and `#` flags of `%v`, which ask for field names and for the source spelling. -/
structure Spec where
  minus : Bool := false
  plus : Bool := false
  sharp : Bool := false
  space : Bool := false
  zero : Bool := false
  plusV : Bool := false
  sharpV : Bool := false
  width : Option Nat := none
  precision : Option Nat := none
  deriving Repr, Inhabited

namespace Spec

/-- `n` octets of padding: zeros with the `0` flag, spaces otherwise. -/
def padding (sp : Spec) (n : Nat) : List UInt8 := List.replicate n (if sp.zero then 48 else 32)

/-- **Padding to the width**, counted in characters: on the left, or on the right with `-`. -/
def pad (sp : Spec) (b : List UInt8) : List UInt8 :=
  match sp.width with
  | none => b
  | some w =>
    let n := w - runeCount b
    if sp.minus then b ++ sp.padding n else sp.padding n ++ b

/-- A text padded to the width. -/
def padText (sp : Spec) (s : String) : List UInt8 := sp.pad (octets s)

/-- The same directive without the `0` flag. -/
def noZero (sp : Spec) : Spec := { sp with zero := false }

/-- A byte string cut to the precision, counted in characters. -/
def truncate (sp : Spec) (b : List UInt8) : List UInt8 :=
  match sp.precision with
  | some p => takeRunes p b
  | none => b

end Spec

/-- The digits of a natural number in a base, upper-case hex digits when asked. -/
def digitsIn (base : Nat) (upper : Bool) (n : Nat) : List Char :=
  (Nat.toDigits base n).map (fun c => if upper then c.toUpper else c)

/-- **An integer** in a base: the precision (or, with the `0` flag, the width) in zeros, the
prefix that `#` asks for (`0b`, `0`, `0x`), `0o` for `%O`, and the sign. A zero precision writes
no digits for zero. -/
def fmtInteger (sp : Spec) (negative : Bool) (mag : Nat) (base : Nat) (verb : Char) (upper : Bool) :
    List UInt8 :=
  if sp.precision == some 0 && mag == 0 then sp.noZero.padding (sp.width.getD 0)
  else
    let prec := match sp.precision with
      | some p => p
      | none =>
        if sp.zero && sp.width.isSome then
          sp.width.getD 0 - (if negative || sp.plus || sp.space then 1 else 0)
        else 0
    let ds := digitsIn base upper mag
    let ds := List.replicate (prec - ds.length) '0' ++ ds
    let ds :=
      if !sp.sharp then ds
      else if base == 2 then '0' :: 'b' :: ds
      else if base == 8 then (if ds.head? == some '0' then ds else '0' :: ds)
      else if base == 16 then '0' :: (if upper then 'X' else 'x') :: ds
      else ds
    let ds := if verb == 'O' then '0' :: 'o' :: ds else ds
    let ds := if negative then '-' :: ds else if sp.plus then '+' :: ds else if sp.space then ' ' :: ds else ds
    sp.noZero.pad (octets (String.ofList ds))

/-- Hexadecimal with `0x` when asked, as addresses and unsigned source spellings are written. -/
def fmt0x64 (sp : Spec) (n : Nat) (leading0x : Bool) : List UInt8 :=
  fmtInteger { sp with sharp := leading0x } false n 16 'v' false

/-- The code point an integer stands for as a character: U+FFFD beyond the last code point and
for surrogates. -/
def runeOf (u : Nat) : Char :=
  if u ≤ 0x10FFFF && u.isValidChar then Char.ofNat u else '�'

/-- `%U`: `U+` and at least four upper-case hex digits, with `#` the character itself quoted when
it is printable. -/
def fmtUnicode (sp : Spec) (u : Nat) : List UInt8 :=
  let prec := match sp.precision with
    | some p => if p > 4 then p else 4
    | none => 4
  let hex := digitsIn 16 true u
  let body := 'U' :: '+' :: (List.replicate (prec - hex.length) '0' ++ hex)
  let tail : List Char :=
    if sp.sharp && u ≤ 0x10FFFF && Unicode.isPrint u then [' ', '\'', Char.ofNat u, '\''] else []
  sp.noZero.pad (octets (String.ofList (body ++ tail)))

/-- `%c`: the character of an integer. -/
def fmtC (sp : Spec) (u : Nat) : List UInt8 := sp.pad (octets (String.singleton (runeOf u)))

/-- `%q` of an integer: the character in single quotes, escaped; with `+` in ASCII. -/
def fmtQc (sp : Spec) (u : Nat) : List UInt8 :=
  let c := runeOf u
  sp.pad (octets (String.ofList ('\'' :: (Text.escapeWith '\'' sp.plus c ++ ['\'']))))

/-- The integer as the 64 bits of an unsigned one: a negative one wraps around. -/
def asUnsigned (negative : Bool) (mag : Nat) : Nat :=
  if negative then Nat.pow 2 64 - mag else mag

/-- **An integer under a verb**, or nothing when the verb does not suit integers. Unsigned
integers are hex with `%#v`. -/
def intVerb (sp : Spec) (negative : Bool) (mag : Nat) (signed : Bool) (verb : Char) :
    Option (List UInt8) :=
  match verb with
  | 'v' => some (if sp.sharpV && !signed then fmt0x64 sp mag true else fmtInteger sp negative mag 10 verb false)
  | 'd' => some (fmtInteger sp negative mag 10 verb false)
  | 'b' => some (fmtInteger sp negative mag 2 verb false)
  | 'o' | 'O' => some (fmtInteger sp negative mag 8 verb false)
  | 'x' => some (fmtInteger sp negative mag 16 verb false)
  | 'X' => some (fmtInteger sp negative mag 16 verb true)
  | 'c' => some (fmtC sp (asUnsigned negative mag))
  | 'q' => some (fmtQc sp (asUnsigned negative mag))
  | 'U' => some (fmtUnicode sp (asUnsigned negative mag))
  | _ => none

/-- The digits the `#` flag keeps in a double: a point always, and for `%g` the trailing zeros up
to the precision, before the exponent. -/
def sharpen (verb : Char) (prec : Int) (num : List Char) : List Char :=
  let wanted : Int :=
    if verb == 'v' || verb == 'g' || verb == 'G' || verb == 'x' then (if prec == -1 then 6 else prec) else 0
  let sign := num.take 1
  let body := num.drop 1
  let isTail (c : Char) : Bool := c == 'p' || c == 'P' || ((c == 'e' || c == 'E') && verb != 'x' && verb != 'X')
  let mantissa := body.takeWhile (fun c => !isTail c)
  let tail := body.drop mantissa.length
  let hasPoint := mantissa.contains '.'
  let counted := (mantissa.filter (· != '.')).dropWhile (· == '0')
  let wanted := wanted - counted.length
  let (mantissa, wanted) :=
    if hasPoint then (mantissa, wanted)
    else (mantissa ++ ['.'], if mantissa == ['0'] then wanted - 1 else wanted)
  sign ++ mantissa ++ List.replicate wanted.toNat '0' ++ tail

/-- **A double** in the notation of a verb: a sign only when negative or asked for, zeros after
the sign with the `0` flag, and NaN and the infinities never padded with zeros. -/
def fmtFloat (sp : Spec) (x : Float) (verb : Char) (prec : Int) : List UInt8 :=
  let prec : Int := match sp.precision with
    | some p => p
    | none => prec
  let text := (Decimal.formatFloat x verb prec).toList
  let num : List Char := match text with
    | '-' :: r => '-' :: r
    | '+' :: r => '+' :: r
    | r => '+' :: r
  let num := if sp.space && num.head? == some '+' && !sp.plus then ' ' :: num.drop 1 else num
  let second := num.getD 1 ' '
  if second == 'I' || second == 'N' then
    let num := if second == 'N' && !sp.space && !sp.plus then num.drop 1 else num
    sp.noZero.pad (octets (String.ofList num))
  else
    let num := if sp.sharp && verb != 'b' then sharpen verb prec num else num
    if sp.plus || num.head? != some '+' then
      match sp.width with
      | some w =>
        if sp.zero && w > num.length then
          octets (String.ofList (num.take 1)) ++ sp.padding (w - num.length) ++ octets (String.ofList (num.drop 1))
        else sp.pad (octets (String.ofList num))
      | none => sp.pad (octets (String.ofList num))
    else sp.pad (octets (String.ofList (num.drop 1)))

/-- **A double under a verb**, or nothing when the verb does not suit doubles. -/
def floatVerb (sp : Spec) (x : Float) (verb : Char) : Option (List UInt8) :=
  match verb with
  | 'v' => some (fmtFloat sp x 'g' (-1))
  | 'b' | 'g' | 'G' | 'x' | 'X' => some (fmtFloat sp x verb (-1))
  | 'f' | 'e' | 'E' => some (fmtFloat sp x verb 6)
  | 'F' => some (fmtFloat sp x 'f' 6)
  | _ => none

/-- **A boolean under a verb**: `%t` and `%v`. -/
def boolVerb (sp : Spec) (b : Bool) (verb : Char) : Option (List UInt8) :=
  if verb == 't' || verb == 'v' then some (sp.padText (if b then "true" else "false")) else none

/-- `%s`: the octets cut to the precision and padded. -/
def fmtS (sp : Spec) (b : List UInt8) : List UInt8 := sp.pad (sp.truncate b)

/-- The two hex digits of an octet. -/
def hexPair (upper : Bool) (b : UInt8) : List UInt8 :=
  octets (String.ofList [Decimal.hexChar upper (b.toNat / 16), Decimal.hexChar upper (b.toNat % 16)])

/-- `%x` of a text or bytes: two hex digits an octet, as many octets as the precision allows. With
a space the octets are apart, and with `#` each (or, without the space, the whole) has `0x`. -/
def fmtSbx (sp : Spec) (b : List UInt8) (upper : Bool) : List UInt8 :=
  let b := match sp.precision with
    | some p => b.take p
    | none => b
  let length := b.length
  if length == 0 then
    match sp.width with
    | some w => sp.padding w
    | none => []
  else
    let width :=
      if sp.space then (if sp.sharp then 4 * length else 2 * length) + (length - 1)
      else if sp.sharp then 2 * length + 2 else 2 * length
    let prefix0x := octets (if upper then "0X" else "0x")
    let body := (b.zipIdx.map (fun (c, i) =>
      (if sp.space && i > 0 then [32] ++ (if sp.sharp then prefix0x else []) else []) ++ hexPair upper c)).flatten
    let body := (if sp.sharp then prefix0x else []) ++ body
    let fill := match sp.width with
      | some w => if w > width then w - width else 0
      | none => 0
    if sp.minus then body ++ sp.padding fill else sp.padding fill ++ body

/-- Whether octets can stand between backquotes: well-formed, no byte order mark, and no control
character but tab, no backquote and no DEL. -/
def canBackquoteFuel : Nat → List UInt8 → Bool
  | 0, _ => true
  | _, [] => true
  | fuel + 1, b :: rest =>
    match Text.decodeChar (b :: rest) with
    | none => false
    | some (n, more) =>
      if n ≥ 0x80 then n != 0xFEFF && canBackquoteFuel fuel more
      else if (n < 0x20 && n != 9) || n == 0x60 || n == 0x7F then false
      else canBackquoteFuel fuel more

/-- `%q` of a text or bytes: between backquotes with `#` when it can, otherwise double-quoted and
escaped, in ASCII with `+`. -/
def fmtQ (sp : Spec) (b : List UInt8) : List UInt8 :=
  let b := sp.truncate b
  if sp.sharp && canBackquoteFuel b.length b then sp.pad ([0x60] ++ b ++ [0x60])
  else sp.pad (octets (String.ofList ('"' :: (Text.escapeBytes '"' sp.plus b.length b ++ ['"']))))

/-- **A text under a verb**, or nothing when the verb does not suit texts. -/
def stringVerb (sp : Spec) (b : List UInt8) (verb : Char) : Option (List UInt8) :=
  match verb with
  | 'v' => some (if sp.sharpV then fmtQ sp b else fmtS sp b)
  | 's' => some (fmtS sp b)
  | 'x' => some (fmtSbx sp b false)
  | 'X' => some (fmtSbx sp b true)
  | 'q' => some (fmtQ sp b)
  | _ => none

/-- Joins pieces with a separator. -/
def joinWith (sep : List UInt8) : List (List UInt8) → List UInt8
  | [] => []
  | [x] => x
  | x :: rest => x ++ sep ++ joinWith sep rest

/-- **Bytes under `%v %d %s %x %X %q`**: each octet in decimal (in hex in the source spelling),
the octets as they are, in hex, or quoted; nothing for the other verbs, which apply to each
octet. -/
def bytesVerb (sp : Spec) (b : List UInt8) (verb : Char) (typeName : String) : Option (List UInt8) :=
  match verb with
  | 'v' | 'd' =>
    if sp.sharpV then
      some (octets typeName ++ [0x7B] ++ joinWith (octets ", ") (b.map (fun c => fmt0x64 sp c.toNat true)) ++ [0x7D])
    else
      some ([0x5B] ++ joinWith [32] (b.map (fun c => fmtInteger sp false c.toNat 10 verb false)) ++ [0x5D])
  | 's' => some (fmtS sp b)
  | 'x' => some (fmtSbx sp b false)
  | 'X' => some (fmtSbx sp b true)
  | 'q' => some (fmtQ sp b)
  | _ => none

/-- **A reference under a verb**: missing ones are `<nil>`, others their address; nothing when
the verb does not suit references. -/
def pointerVerb (sp : Spec) (present : Bool) (typeName : String) (verb : Char) : Option (List UInt8) :=
  let addr : Nat := if present then 0xc000010000 else 0
  match verb with
  | 'v' =>
    if sp.sharpV then
      some (octets ("(" ++ typeName ++ ")(") ++ (if present then fmt0x64 sp addr true else octets "nil") ++ octets ")")
    else if present then some (fmt0x64 sp addr !sp.sharp)
    else some (sp.padText "<nil>")
  | 'p' => some (fmt0x64 sp addr !sp.sharp)
  | 'b' | 'o' | 'd' | 'x' | 'X' => intVerb sp false addr false verb
  | _ => none

/-- The text of a value's error or text method: errors, raw SQL, references to raw SQL (none
for a missing one, whose method fails), durations and moments. -/
def methodText : Value → Option (Option String)
  | .failure m => some (some m)
  | .raw s => some (some s)
  | .rawRef (some s) => some (some s)
  | .rawRef none => some none
  | .duration d => some (some d.render)
  | .time t zone => some (some (t.format "2006-01-02 15:04:05.999999999 -0700 MST" zone))
  | .floating f => some (some f.text)
  | _ => none

/-- **The methods of a value**: under `%v %s %x %X %q` an error or a value with a text method
writes that text, and a missing reference whose method fails writes `<nil>`. Not while a bad
verb is being reported, and not for the source spelling. -/
def handleMethods (sp : Spec) (erroring : Bool) (v : Value) (verb : Char) : Option (List UInt8) :=
  if erroring || sp.sharpV then none
  else if verb == 'v' || verb == 's' || verb == 'x' || verb == 'X' || verb == 'q' then
    match methodText v with
    | some (some s) => stringVerb sp (octets s) verb
    | some none => some (sp.padText "<nil>")
    | none => none
  else none

mutual

/-- The size of a value, bounding how deeply printing it recurses. -/
def weight : Value → Nat
  | .list items => weights items + 1
  | .map members => memberWeights members + 1
  | .pointer _ (some v) => weight v + 1
  | .record _ fields => weights fields + 1
  | _ => 1

/-- The sizes of values, added. -/
def weights : List Value → Nat
  | [] => 0
  | v :: rest => weight v + weights rest

/-- The sizes of members' values, added. -/
def memberWeights : List (String × Value) → Nat
  | [] => 0
  | (_, v) :: rest => weight v + memberWeights rest

end

/-- The signed integer inside a value of an integer kind: its sign and magnitude, and whether the
kind is signed. -/
def integerOf : Value → Option (Bool × Nat × Bool)
  | .int n | .word n | .small .int32 n => some (n < 0, n.natAbs, true)
  | .small .uint8 n => some (false, n.natAbs, false)
  | .uint n => some (false, n, false)
  | .duration d => some (d.nanos < 0, d.nanos.natAbs, true)
  | _ => none

/-- The name and fields of a record printed field by field: raw SQL holds its text, an error its
message. -/
def structView : Value → Option (String × List (String × Value × Bool))
  | .raw s => some ("grammar.Expression", [("value", .text s, false)])
  | .failure m => some ("errors.errorString", [("s", .text m, false)])
  | .record s fields => some (s.name, ((s.slots.map Slot.name).zip fields).map (fun (n, f) => (n, f, true)))
  | .floating f =>
    match floatingRecord f with
    | .record s fields => some (s.name, ((s.slots.map Slot.name).zip fields).map (fun (n, f) => (n, f, true)))
    | _ => none
  | _ => none

/-- What a reference at the top refers to, when it is printed behind `&`: a record, a list or a
map. -/
def referent : Value → Option Value
  | .rawRef (some s) => some (.raw s)
  | .failure m => some (.failure m)
  | .pointer _ (some v) =>
    match v with
    | .record _ _ | .list _ | .map _ | .words _ | .texts _ | .bytes _ => some v
    | _ => none
  | _ => none

/-- Whether a value is a reference, and whether it is present. -/
def referenceOf : Value → Option Bool
  | .rawRef r => some r.isSome
  | .failure _ => some true
  | .pointer _ r => some r.isSome
  | _ => none

/-- The kind name of the elements of a list kind. -/
def elementKind : Value → String
  | .bytes _ => "uint8"
  | .words _ => "int"
  | .texts _ => "string"
  | _ => "interface \x7b\x7d"

mutual

/-- **A value inside another** (or at the top after its methods were tried), at a depth. `fuel`
bounds the recursion. -/
def printValue : Nat → Spec → Bool → Value → Char → Nat → List UInt8
  | 0, _, _, _, _, _ => []
  | fuel + 1, sp, erroring, v, verb, depth =>
    let bad := fun (u : Value) => badValue fuel sp u verb
    let methods := if depth > 0 then handleMethods sp erroring v verb else none
    match methods with
    | some out => out
    | none =>
      match v with
      | .null => if sp.sharpV then octets "interface \x7b\x7d(nil)" else octets "<nil>"
      | .bool b => (boolVerb sp b verb).getD (bad v)
      | .float x => (floatVerb sp x verb).getD (bad v)
      | .text s => (stringVerb sp (octets s) verb).getD (bad v)
      | .bytes b =>
        if verb == 's' || verb == 'q' || verb == 'x' || verb == 'X' then (bytesVerb sp b verb "[]uint8").getD []
        else printList fuel sp erroring "[]uint8" (b.map (fun c => Value.small .uint8 c.toNat)) verb depth false
      | .list items => printList fuel sp erroring "[]interface \x7b\x7d" items verb depth true
      | .words items => printList fuel sp erroring "[]int" (items.map Value.word) verb depth false
      | .texts items => printList fuel sp erroring "[]string" (items.map Value.text) verb depth false
      | .map members =>
        let sorted := mapMembers members
        let pieces := sorted.map (fun (k, x) =>
          printValue fuel sp erroring (.text k) verb (depth + 1) ++ [0x3A] ++ printElement fuel sp erroring x verb (depth + 1))
        if sp.sharpV then
          octets "map[string]interface \x7b\x7d\x7b" ++ joinWith (octets ", ") pieces ++ octets "\x7d"
        else octets "map[" ++ joinWith [32] pieces ++ octets "]"
      | _ =>
        match integerOf v with
        | some (negative, mag, signed) => (intVerb sp negative mag signed verb).getD (bad v)
        | none =>
          match referenceOf v with
          | some present =>
            match (if depth == 0 then referent v else none) with
            | some target =>
              match structView target with
              | some view => [0x26] ++ printStruct fuel sp erroring view verb (depth + 1)
              | none => [0x26] ++ printValue fuel sp erroring target verb (depth + 1)
            | none => (pointerVerb sp present v.typeName verb).getD (bad v)
          | none =>
            match structView v with
            | some view => printStruct fuel sp erroring view verb depth
            | none => octets v.plain

/-- An element of a list or a value of a map, whose kind is any: nothing prints as `<nil>`. -/
def printElement : Nat → Spec → Bool → Value → Char → Nat → List UInt8
  | 0, _, _, _, _, _ => []
  | fuel + 1, sp, erroring, v, verb, depth =>
    match v with
    | .null => if sp.sharpV then octets "interface \x7b\x7d(nil)" else octets "<nil>"
    | _ =>
      match (if erroring || sp.sharpV then none else handleMethods sp erroring v verb) with
      | some out => out
      | none => printValue fuel sp erroring v verb (depth + 1)

/-- The elements of a list in brackets, apart by spaces, or in the source spelling after the
list's kind, apart by commas. -/
def printList : Nat → Spec → Bool → String → List Value → Char → Nat → Bool → List UInt8
  | 0, _, _, _, _, _, _, _ => []
  | fuel + 1, sp, erroring, kind, items, verb, depth, anyKind =>
    let pieces := items.map (fun x =>
      if anyKind then printElement fuel sp erroring x verb (depth + 1)
      else printValue fuel sp erroring x verb (depth + 1))
    if sp.sharpV then octets kind ++ [0x7B] ++ joinWith (octets ", ") pieces ++ [0x7D]
    else [0x5B] ++ joinWith [32] pieces ++ [0x5D]

/-- A record: its fields in braces apart by spaces, named with `%+v`, and in the source spelling
after the record's name, named and apart by commas. Fields that are not exported have no
methods. -/
def printStruct : Nat → Spec → Bool → String × List (String × Value × Bool) → Char → Nat → List UInt8
  | 0, _, _, _, _, _ => []
  | fuel + 1, sp, erroring, (name, fields), verb, depth =>
    let pieces := fields.map (fun (fieldName, x, exported) =>
      (if sp.plusV || sp.sharpV then octets (fieldName ++ ":") else []) ++
        (if exported then printElement fuel sp erroring x verb depth
         else printValue fuel sp erroring x verb 0))
    (if sp.sharpV then octets name else []) ++ [0x7B] ++
      joinWith (if sp.sharpV then octets ", " else [32]) pieces ++ [0x7D]

/-- **A bad verb for a value inside another**: `%!verb(kind=value)`, the value in its plain
spelling with the directive's width and precision. -/
def badValue : Nat → Spec → Value → Char → List UInt8
  | 0, _, _, _ => []
  | fuel + 1, sp, v, verb =>
    octets ("%!" ++ String.singleton verb ++ "(" ++ v.typeName ++ "=") ++
      printValue fuel sp true v 'v' 0 ++ octets ")"

end

/-- **An argument under a verb**: nothing prints as `<nil>` (a bad verb otherwise), `%T` writes
the kind, values of simple kinds are formatted directly, and the rest try their methods and
then print part by part. -/
def printArg (fuel : Nat) (sp : Spec) (erroring : Bool) (v : Value) (verb : Char) : List UInt8 :=
  let bad := fun (u : Value) => badArg fuel sp u verb
  match v with
  | .null =>
    if verb == 'T' || verb == 'v' then sp.padText "<nil>"
    else octets ("%!" ++ String.singleton verb ++ "(<nil>)")
  | _ =>
    if verb == 'T' then fmtS sp (octets v.typeName)
    else if verb == 'p' then
      match referenceOf v with
      | some present => fmt0x64 sp (if present then 0xc000010000 else 0) !sp.sharp
      | none => if v.isList || (v matches .bytes _) then fmt0x64 sp 0xc000010000 !sp.sharp else bad v
    else
      match v with
      | .bool b => (boolVerb sp b verb).getD (bad v)
      | .float x => (floatVerb sp x verb).getD (bad v)
      | .text s => (stringVerb sp (octets s) verb).getD (bad v)
      | .int n | .word n | .small .int32 n => (intVerb sp (n < 0) n.natAbs true verb).getD (bad v)
      | .small .uint8 n => (intVerb sp false n.natAbs false verb).getD (bad v)
      | .uint n => (intVerb sp false n false verb).getD (bad v)
      | .bytes b =>
        match bytesVerb sp b verb "[]byte" with
        | some out => out
        | none => printValue fuel sp erroring v verb 0
      | _ =>
        match (if erroring then none else handleMethods sp erroring v verb) with
        | some out => out
        | none => printValue fuel sp erroring v verb 0
where
  /-- A bad verb for an argument: `%!verb(kind=value)`, the value printed under `%v` without its
  methods. -/
  badArg (fuel : Nat) (sp : Spec) (v : Value) (verb : Char) : List UInt8 :=
    octets ("%!" ++ String.singleton verb ++ "(" ++ v.typeName ++ "=") ++
      printPlain fuel sp v ++ octets ")"
  /-- An argument under `%v` while a bad verb is reported. -/
  printPlain (fuel : Nat) (sp : Spec) (v : Value) : List UInt8 :=
    match v with
    | .bool b => (boolVerb sp b 'v').getD []
    | .float x => (floatVerb sp x 'v').getD []
    | .text s => (stringVerb sp (octets s) 'v').getD []
    | .int n | .word n | .small .int32 n => (intVerb sp (n < 0) n.natAbs true 'v').getD []
    | .small .uint8 n => (intVerb sp false n.natAbs false 'v').getD []
    | .uint n => (intVerb sp false n false 'v').getD []
    | .bytes b => (bytesVerb sp b 'v' "[]byte").getD []
    | _ => printValue fuel sp true v 'v' 0

/-- Reads flags: `#`, `0` (not after `-`), `+`, `-` (which drops `0`) and space. -/
def readFlags (sp : Spec) : List Char → Spec × List Char
  | '#' :: rest => readFlags { sp with sharp := true } rest
  | '0' :: rest => readFlags { sp with zero := !sp.minus } rest
  | '+' :: rest => readFlags { sp with plus := true } rest
  | '-' :: rest => readFlags { sp with minus := true, zero := false } rest
  | ' ' :: rest => readFlags { sp with space := true } rest
  | cs => (sp, cs)

/-- Reads digits at most `fuel` of them: the number, if there was one, and the rest. A number that
grows beyond a million before its last digit takes the rest of the template with it. -/
def readNumber : Nat → Nat → Bool → List Char → Option (Nat × Bool × List Char)
  | 0, n, seen, cs => some (n, seen, cs)
  | fuel + 1, n, seen, c :: rest =>
    if c.isDigit then
      if n > 1000000 then none else readNumber fuel (n * 10 + (c.toNat - 48)) true rest
    else some (n, seen, c :: rest)
  | _, n, seen, [] => some (n, seen, [])

/-- A width or precision in digits: the number if there was one, and the rest (none of it after
an overflow). -/
def parseNum (cs : List Char) : Option Nat × List Char :=
  match readNumber cs.length 0 false cs with
  | some (n, true, rest) => (some n, rest)
  | some (_, false, rest) => (none, rest)
  | none => (none, [])

/-- An argument index `[n]`: whether it is well formed, the index from zero, and the rest. A
malformed one skips its `[`, or up to its `]` when it has one. -/
def parseIndex (cs : List Char) : Bool × Int × List Char :=
  match cs with
  | '[' :: rest =>
    if cs.length < 3 then (false, 0, rest)
    else
      let inside := rest.takeWhile (· != ']')
      match rest.drop inside.length with
      | ']' :: after =>
        match readNumber inside.length 0 false inside with
        | some (n, true, []) => (true, (n : Int) - 1, after)
        | _ => (false, 0, after)
      | _ => (false, 0, rest)
  | _ => (false, 0, cs)

/-- An integer argument for `*`: the integer when the argument is one small enough to be a width
or precision. -/
def intArg (v : Value) : Option Int :=
  let n? : Option Int := match v with
    | .int n | .word n | .small _ n => some n
    | .duration d => some d.nanos
    | .uint n => if n < Nat.pow 2 63 then some (n : Int) else none
    | _ => none
  n?.bind (fun n => if n > 1000000 || n < -1000000 then none else some n)

/-- **Where a directive stands**: the output so far, the next argument, whether an index moved
it, and whether the current directive's index is good. -/
structure Cursor where
  out : List UInt8 := []
  argNum : Nat := 0
  reordered : Bool := false

/-- Reads an argument index at the front: moves to it when it is good, marks the directive's
index bad otherwise. Gives the cursor, the rest, whether an index was read, and whether it is
still good. -/
def argIndex (args : Array Value) (cur : Cursor) (good : Bool) (cs : List Char) :
    Cursor × List Char × Bool × Bool :=
  match cs with
  | '[' :: _ =>
    let cur := { cur with reordered := true }
    let (ok, i, rest) := parseIndex cs
    if ok && 0 ≤ i && i < args.size then ({ cur with argNum := i.toNat }, rest, true, good)
    else (cur, rest, ok, false)
  | _ => (cur, cs, false, good)

/-- Writes one argument under a verb, `%v` and `%w` taking `#` and `+` as the source spelling and
field names. -/
def emit (args : Array Value) (sp : Spec) (cur : Cursor) (verb : Char) : Cursor :=
  let sp := if verb == 'v' || verb == 'w' then
      { sp with sharpV := sp.sharp, sharp := false, plusV := sp.plus, plus := false }
    else sp
  let v := args.getD cur.argNum .null
  let piece :=
    if verb == 'w' then
      match v with
      | .null => octets "%!w(<nil>)"
      | _ => printArg.badArg (weight v * 4 + 8) sp v verb
    else printArg (weight v * 4 + 8) sp false v verb
  { cur with out := cur.out ++ piece, argNum := cur.argNum + 1 }

/-- **One directive** after its `%`: the cursor after it, the rest of the template, and whether
the template ended inside it. -/
def directive (args : Array Value) (cur : Cursor) (cs : List Char) : Cursor × List Char × Bool :=
  let (sp, cs) := readFlags {} cs
  match cs with
  | c :: rest =>
    if 'a' ≤ c && c ≤ 'z' && cur.argNum < args.size then (emit args sp cur c, rest, false)
    else slow sp cs
  | [] => slow sp cs
where
  /-- Directives with an index, a width or a precision. -/
  slow (sp : Spec) (cs : List Char) : Cursor × List Char × Bool :=
    let (cur, cs, afterIndex, good) := argIndex args cur true cs
    -- width
    let (sp, cur, cs, afterIndex, good) : Spec × Cursor × List Char × Bool × Bool :=
      match cs with
      | '*' :: rest =>
        let (w, cur) : Option Int × Cursor :=
          if cur.argNum < args.size then (intArg (args.getD cur.argNum .null), { cur with argNum := cur.argNum + 1 })
          else (none, cur)
        match w with
        | some w =>
          if w < 0 then ({ sp with width := some w.natAbs, minus := true, zero := false }, cur, rest, false, good)
          else ({ sp with width := some w.toNat }, cur, rest, false, good)
        | none => (sp, { cur with out := cur.out ++ octets "%!(BADWIDTH)" }, rest, false, good)
      | _ =>
        let (w, rest) := parseNum cs
        ({ sp with width := w }, cur, rest, afterIndex, if afterIndex && w.isSome then false else good)
    -- precision
    let (sp, cur, cs, afterIndex, good) : Spec × Cursor × List Char × Bool × Bool :=
      match cs with
      | '.' :: rest@(_ :: _) =>
        let good := if afterIndex then false else good
        let (cur, rest, afterIndex, good) := argIndex args cur good rest
        match rest with
        | '*' :: more =>
          let (p, cur) : Option Int × Cursor :=
            if cur.argNum < args.size then (intArg (args.getD cur.argNum .null), { cur with argNum := cur.argNum + 1 })
            else (none, cur)
          match p with
          | some p =>
            if p < 0 then ({ sp with precision := none }, { cur with out := cur.out ++ octets "%!(BADPREC)" }, more, false, good)
            else ({ sp with precision := some p.toNat }, cur, more, false, good)
          | none => ({ sp with precision := none }, { cur with out := cur.out ++ octets "%!(BADPREC)" }, more, false, good)
        | _ =>
          let (p, more) := parseNum rest
          ({ sp with precision := some (p.getD 0) }, cur, more, afterIndex, good)
      | _ => (sp, cur, cs, afterIndex, good)
    let (cur, cs, _, good) := if afterIndex then (cur, cs, afterIndex, good) else argIndex args cur good cs
    match cs with
    | [] => ({ cur with out := cur.out ++ octets "%!(NOVERB)" }, [], true)
    | verb :: rest =>
      if verb == '%' then ({ cur with out := cur.out ++ [0x25] }, rest, false)
      else if !good then ({ cur with out := cur.out ++ octets ("%!" ++ String.singleton verb ++ "(BADINDEX)") }, rest, false)
      else if cur.argNum ≥ args.size then
        ({ cur with out := cur.out ++ octets ("%!" ++ String.singleton verb ++ "(MISSING)") }, rest, false)
      else (emit args sp cur verb, rest, false)

/-- Formats the template with at most `fuel` directives. -/
def printLoop (args : Array Value) : Nat → Cursor → List Char → Cursor
  | 0, cur, _ => cur
  | fuel + 1, cur, cs =>
    let text := cs.takeWhile (· != '%')
    let cur := { cur with out := cur.out ++ octets (String.ofList text) }
    match cs.drop text.length with
    | [] => cur
    | _ :: rest =>
      let (cur, rest, stop) := directive args cur rest
      if stop then cur else printLoop args fuel cur rest

/-- **Formatting a template** into octets. -/
def printfOctets (template : String) (values : List Value) : List UInt8 :=
  let args := values.toArray
  let cur := printLoop args (template.length + 1) {} template.toList
  if cur.reordered || cur.argNum ≥ args.size then cur.out
  else
    let extra := (values.drop cur.argNum).map (fun v => match v with
      | .null => octets "<nil>"
      | v => octets (v.typeName ++ "=") ++ printArg (weight v * 4 + 8) {} false v 'v')
    cur.out ++ octets "%!(EXTRA " ++ joinWith (octets ", ") extra ++ octets ")"

/-- **Formatting a template**: the octets decoded, each octet that starts no well-formed
character becoming U+FFFD. -/
def printf (template : String) (values : List Value) : String :=
  Text.decodeLenient (printfOctets template values)

end QueryKit.Value
