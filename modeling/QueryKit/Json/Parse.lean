import QueryKit.Json.Basic

/-!
# Reading JSON

A reader for JSON text (RFC 8259) into `Json` documents. Numbers keep their literal text, so a
reader of the document can tell `10` from `10.0` and `1e1`. Members keep their order, duplicates
included.

* `Json.parse` reads one document with blanks around it, or says why it cannot;
* `\u` escapes are decoded, surrogate pairs joined, and a lone surrogate read as U+FFFD.
-/

namespace QueryKit.Json

/-- JSON blanks: space, tab, line feed, carriage return. -/
def isSpace (c : Char) : Bool := c == ' ' || c == '\t' || c == '\n' || c == '\r'

/-- Drops leading JSON blanks. -/
def skipSpace : List Char → List Char
  | c :: rest => if isSpace c then skipSpace rest else c :: rest
  | [] => []

/-- The value of a hex digit. -/
def hexValue (c : Char) : Option Nat :=
  if '0' ≤ c && c ≤ '9' then some (c.toNat - 48)
  else if 'a' ≤ c && c ≤ 'f' then some (c.toNat - 87)
  else if 'A' ≤ c && c ≤ 'F' then some (c.toNat - 55)
  else none

/-- Four hex digits. -/
def hex4 : List Char → Option (Nat × List Char)
  | a :: b :: c :: d :: rest => do
    let a ← hexValue a
    let b ← hexValue b
    let c ← hexValue c
    let d ← hexValue d
    return (((a * 16 + b) * 16 + c) * 16 + d, rest)
  | _ => none

/-- Reads the rest of a string literal after its opening quote; `acc` holds the characters read,
backwards. Every step eats a character, so `fuel` at the length of the text suffices. -/
def readStringFuel : Nat → List Char → List Char → Except String (String × List Char)
  | 0, _, _ => .error "unexpected end of JSON input"
  | _, [], _ => .error "unexpected end of JSON input"
  | _, '"' :: rest, acc => .ok (String.ofList acc.reverse, rest)
  | fuel + 1, '\\' :: rest, acc =>
    let readString := readStringFuel fuel
    match rest with
    | '"' :: more => readString more ('"' :: acc)
    | '\\' :: more => readString more ('\\' :: acc)
    | '/' :: more => readString more ('/' :: acc)
    | 'b' :: more => readString more ('\x08' :: acc)
    | 'f' :: more => readString more ('\x0c' :: acc)
    | 'n' :: more => readString more ('\n' :: acc)
    | 'r' :: more => readString more ('\r' :: acc)
    | 't' :: more => readString more ('\t' :: acc)
    | 'u' :: more =>
      match hex4 more with
      | none => .error "invalid character in string escape code"
      | some (n, after) =>
        if 0xD800 ≤ n && n < 0xDC00 then
          match after with
          | '\\' :: 'u' :: more2 =>
            match hex4 more2 with
            | some (m, after2) =>
              if 0xDC00 ≤ m && m < 0xE000 then
                readString after2 (Char.ofNat (0x10000 + (n - 0xD800) * 0x400 + (m - 0xDC00)) :: acc)
              else readString after ('�' :: acc)
            | none => readString after ('�' :: acc)
          | _ => readString after ('�' :: acc)
        else if 0xDC00 ≤ n && n < 0xE000 then readString after ('�' :: acc)
        else readString after (Char.ofNat n :: acc)
    | _ => .error "invalid character in string escape code"
  | fuel + 1, c :: rest, acc =>
    if c.toNat < 0x20 then .error "invalid character in string literal"
    else readStringFuel fuel rest (c :: acc)

/-- Reads the rest of a string literal after its opening quote. -/
def readString (cs : List Char) (acc : List Char) : Except String (String × List Char) :=
  readStringFuel (cs.length + 1) cs acc

/-- Reads the characters of a number literal. -/
def readNumber (cs : List Char) : Except String (String × List Char) :=
  let numChar := fun (c : Char) => c.isDigit || c == '-' || c == '+' || c == '.' || c == 'e' || c == 'E'
  let lit := cs.takeWhile numChar
  let rest := cs.dropWhile numChar
  if validNumber lit then .ok (String.ofList lit, rest)
  else .error ("invalid number literal " ++ String.ofList lit)
where
  /-- `-? (0 | [1-9][0-9]*) (. [0-9]+)? ([eE] [+-]? [0-9]+)?` -/
  validNumber (lit : List Char) : Bool :=
    let body := match lit with
      | '-' :: r => r
      | r => r
    let intPart := body.takeWhile Char.isDigit
    let afterInt := body.dropWhile Char.isDigit
    let intOk := intPart == ['0'] || (!intPart.isEmpty && intPart.head? != some '0')
    let (fracOk, afterFrac) := match afterInt with
      | '.' :: r =>
        let ds := r.takeWhile Char.isDigit
        (!ds.isEmpty, r.dropWhile Char.isDigit)
      | r => (true, r)
    let expOk := match afterFrac with
      | [] => true
      | e :: r =>
        (e == 'e' || e == 'E') &&
          (let r := match r with
            | '+' :: x => x
            | '-' :: x => x
            | x => x
           !r.isEmpty && r.all Char.isDigit)
    intOk && fracOk && expOk

mutual

/-- Reads one value after blanks. `fuel` bounds the nesting. -/
def readValue : Nat → List Char → Except String (Json × List Char)
  | 0, _ => .error "nesting too deep"
  | fuel + 1, cs =>
    match skipSpace cs with
    | [] => .error "unexpected end of JSON input"
    | 'n' :: 'u' :: 'l' :: 'l' :: rest => .ok (.null, rest)
    | 't' :: 'r' :: 'u' :: 'e' :: rest => .ok (.bool true, rest)
    | 'f' :: 'a' :: 'l' :: 's' :: 'e' :: rest => .ok (.bool false, rest)
    | '"' :: rest => do
      let (s, after) ← readString rest []
      return (.str s, after)
    | '[' :: rest =>
      match skipSpace rest with
      | ']' :: after => .ok (.arr [], after)
      | _ => readItems fuel rest []
    | '\x7b' :: rest =>
      match skipSpace rest with
      | '\x7d' :: after => .ok (.obj [], after)
      | _ => readMembers fuel rest []
    | c :: rest =>
      if c == '-' || c.isDigit then do
        let (lit, after) ← readNumber (c :: rest)
        return (.num lit, after)
      else .error ("invalid character " ++ Text.quote (String.singleton c) ++ " looking for beginning of value")

/-- Reads array items up to the closing bracket; `acc` holds the items read, backwards. -/
def readItems : Nat → List Char → List Json → Except String (Json × List Char)
  | 0, _, _ => .error "nesting too deep"
  | fuel + 1, cs, acc => do
    let (v, after) ← readValue fuel cs
    match skipSpace after with
    | ',' :: more => readItems fuel more (v :: acc)
    | ']' :: more => .ok (.arr (v :: acc).reverse, more)
    | [] => .error "unexpected end of JSON input"
    | c :: _ => .error ("invalid character " ++ Text.quote (String.singleton c) ++ " after array element")

/-- Reads object members up to the closing brace; `acc` holds the members read, backwards. -/
def readMembers : Nat → List Char → List (String × Json) → Except String (Json × List Char)
  | 0, _, _ => .error "nesting too deep"
  | fuel + 1, cs, acc =>
    match skipSpace cs with
    | '"' :: rest => do
      let (k, after) ← readString rest []
      match skipSpace after with
      | ':' :: more => do
        let (v, after2) ← readValue fuel more
        match skipSpace after2 with
        | ',' :: more2 => readMembers fuel more2 ((k, v) :: acc)
        | '\x7d' :: more2 => .ok (.obj ((k, v) :: acc).reverse, more2)
        | [] => .error "unexpected end of JSON input"
        | c :: _ => .error ("invalid character " ++ Text.quote (String.singleton c) ++ " after object key:value pair")
      | [] => .error "unexpected end of JSON input"
      | c :: _ => .error ("invalid character " ++ Text.quote (String.singleton c) ++ " after object key")
    | [] => .error "unexpected end of JSON input"
    | c :: _ => .error ("invalid character " ++ Text.quote (String.singleton c) ++ " looking for beginning of object key string")

end

/-- **Reading a document.** -/
def parse (text : String) : Except String Json := do
  let cs := text.toList
  let (v, rest) ← readValue (cs.length + 2) cs
  match skipSpace rest with
  | [] => return v
  | c :: _ => throw ("invalid character " ++ Text.quote (String.singleton c) ++ " after top-level value")

/-- The member of an object under a key. -/
def get? (j : Json) (key : String) : Option Json :=
  match j with
  | .obj members => (members.find? (·.1 == key)).map (·.2)
  | _ => none

end QueryKit.Json
