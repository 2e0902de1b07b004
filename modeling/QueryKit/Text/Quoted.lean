import QueryKit.Unicode.Printable
import QueryKit.Text.Utf8

/-!
# Quoted text

The double-quoted spelling of a text that error messages and log lines use. The text stands
between two `"`. Inside:

* `"` and `\` are escaped by a backslash;
* bell, backspace, form feed, line feed, carriage return, tab and vertical tab take the usual
  one-letter escapes, and the other ASCII controls take `\xNN`;
* characters that are not printable take `\uNNNN`, or `\UNNNNNNNN` beyond the first plane;
* every printable character stands as it is.

Hex digits are lower case.

* `isPrintable` holds of letters, marks, numbers, punctuation, symbols and the ASCII space;
* `quote s` is the quoted spelling, and `quoteAscii s` also escapes every character beyond ASCII;
* `quoteBytes` quotes a byte string that need not be well-formed UTF-8: an octet that starts no
  well-formed character is written `\xNN`;
* `quoteChar` is the single-quoted spelling of one character.
-/

namespace QueryKit.Text

/-- **Printable characters**: letters, marks, numbers, punctuation, symbols and the ASCII
space. -/
def isPrintable (c : Char) : Bool := Unicode.isPrint c.toNat

/-- The lower-case hex digit of `n < 16`. -/
def hexDigit (n : Nat) : Char :=
  if n < 10 then Char.ofNat (48 + n) else Char.ofNat (87 + n)

/-- The `width` lowest hex digits of `n`, most significant first. -/
def hexDigits (n : Nat) : Nat → List Char
  | 0 => []
  | width + 1 => hexDigits (n / 16) width ++ [hexDigit (n % 16)]

/-- **The escape of one character** inside a text quoted by `q`; with `asciiOnly` every
character beyond ASCII is escaped too. -/
def escapeWith (q : Char) (asciiOnly : Bool) (c : Char) : List Char :=
  let n := c.toNat
  if c == q || c == '\\' then ['\\', c]
  else if (if asciiOnly then n < 0x80 && isPrintable c else isPrintable c) then [c]
  else if n == 7 then ['\\', 'a']
  else if n == 8 then ['\\', 'b']
  else if n == 12 then ['\\', 'f']
  else if n == 10 then ['\\', 'n']
  else if n == 13 then ['\\', 'r']
  else if n == 9 then ['\\', 't']
  else if n == 11 then ['\\', 'v']
  else if n < 0x20 || n == 0x7F then '\\' :: 'x' :: hexDigits n 2
  else if n < 0x10000 then '\\' :: 'u' :: hexDigits n 4
  else '\\' :: 'U' :: hexDigits n 8

/-- The escape of one character inside a double-quoted text. -/
def escapeChar (c : Char) : List Char := escapeWith '"' false c

/-- **Quoting.** The text between double quotes, escaped character by character. -/
def quote (s : String) : String :=
  String.ofList ('"' :: (s.toList.flatMap escapeChar ++ ['"']))

/-- **Quoting in ASCII.** The text between double quotes, every character beyond ASCII escaped. -/
def quoteAscii (s : String) : String :=
  String.ofList ('"' :: (s.toList.flatMap (escapeWith '"' true) ++ ['"']))

/-- The escapes of a byte string, at most `fuel` characters of it. -/
def escapeBytes (q : Char) (asciiOnly : Bool) : Nat → List UInt8 → List Char
  | 0, _ => []
  | _, [] => []
  | fuel + 1, b :: rest =>
    match decodeChar (b :: rest) with
    | some (n, more) => escapeWith q asciiOnly (Char.ofNat n) ++ escapeBytes q asciiOnly fuel more
    | none => '\\' :: 'x' :: hexDigits b.toNat 2 ++ escapeBytes q asciiOnly fuel rest

/-- **Quoting bytes.** The characters of a byte string between double quotes, each octet that
starts no well-formed character written as `\xNN`. -/
def quoteBytes (bs : List UInt8) : String :=
  String.ofList ('"' :: (escapeBytes '"' false bs.length bs ++ ['"']))

/-- **Quoting a character** between single quotes. -/
def quoteChar (c : Char) : String :=
  String.ofList ('\'' :: (escapeWith '\'' false c ++ ['\'']))

end QueryKit.Text
