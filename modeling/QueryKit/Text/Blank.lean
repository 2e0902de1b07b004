/-!
# Blank characters

The characters of Unicode's `White_Space` property, as the library trims them from names,
directions, join types, dialect names and configuration values, and as it splits text into
words.

* `isBlank` holds of the six ASCII blanks, of U+0085 and U+00A0, and of the wider blanks
  U+1680, U+2000–U+200A, U+2028, U+2029, U+202F, U+205F and U+3000;
* `trim` drops blanks at both ends, `words` splits on runs of blanks;
* `trim_of_ascii`: core's `Char.isWhitespace` is a part of `isBlank`.
-/

namespace QueryKit.Text

/-- **Blank characters.** The `White_Space` characters of Unicode: tab, line feed, vertical tab,
form feed, carriage return, space, next line, no-break space and the wide spaces and separators. -/
def isBlank (c : Char) : Bool :=
  let n := c.toNat
  n == 0x20 || (0x09 ≤ n && n ≤ 0x0D) || n == 0x85 || n == 0xA0 || n == 0x1680 ||
    (0x2000 ≤ n && n ≤ 0x200A) || n == 0x2028 || n == 0x2029 || n == 0x202F ||
    n == 0x205F || n == 0x3000

/-- **ASCII blanks are blanks.** Core's whitespace test knows only ASCII; every character it
accepts is blank here too. -/
theorem isBlank_of_isWhitespace (c : Char) (h : c.isWhitespace = true) : isBlank c = true := by
  simp only [Char.isWhitespace, Bool.or_eq_true, decide_eq_true_eq] at h
  simp only [isBlank, Bool.or_eq_true, beq_iff_eq, Bool.and_eq_true, decide_eq_true_eq]
  rcases h with ((h | h) | h) | h <;> subst h <;> decide

/-- Drops the blanks in front of a list of characters. -/
def dropBlanks : List Char → List Char
  | [] => []
  | c :: cs => if isBlank c then dropBlanks cs else c :: cs

/-- **Trimming.** The text without the blanks at either end. -/
def trim (s : String) : String :=
  String.ofList (dropBlanks (dropBlanks s.toList).reverse).reverse

/-- Whether a text is made of blanks only (the empty text included). -/
def allBlank (s : String) : Bool := s.toList.all isBlank

/-- Splits a list of characters at runs of blanks; `word` holds the current word backwards.
The words are never empty. -/
def wordsOf : List Char → List Char → List String
  | [], word => if word.isEmpty then [] else [String.ofList word.reverse]
  | c :: cs, word =>
    if isBlank c then
      if word.isEmpty then wordsOf cs [] else String.ofList word.reverse :: wordsOf cs []
    else wordsOf cs (c :: word)

/-- **Words.** The text split at runs of blanks, with no empty word. -/
def words (s : String) : List String := wordsOf s.toList []

end QueryKit.Text
