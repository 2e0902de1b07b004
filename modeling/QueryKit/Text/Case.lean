import QueryKit.Unicode.CaseMap

/-!
# Letter case

Case mappings of texts, character by character, by the simple (one character to one character)
mappings of Unicode. Upper-casing decides join types and sort directions. Lower-casing decides
dialect names, log levels, switches, configuration keys and the snake-case spelling of field names.

* `lowerChar` and `upperChar` map each character to its partner and leave every other character;
* the dotless `ı` upper-cases to `I` and the long `ſ` to `S`. `İ` lower-cases to `i` and the
  Kelvin sign to `k`. `ß` has no one-character upper case and stays;
* `equalFold` compares texts character by character up to case folding, so `ſ` matches `s` and
  the Kelvin sign matches `k`.
-/

namespace QueryKit.Text

/-- A code point as a character; code points that are no character leave the given one. -/
private def withCode (c : Char) (n : Nat) : Char :=
  if n.isValidChar then Char.ofNat n else c

/-- **Lower case of a character.** -/
def lowerChar (c : Char) : Char := withCode c (Unicode.toLower c.toNat)

/-- **Upper case of a character.** -/
def upperChar (c : Char) : Char := withCode c (Unicode.toUpper c.toNat)

/-- **Lower-cased text.** -/
def lower (s : String) : String := s.map lowerChar

/-- **Upper-cased text.** -/
def upper (s : String) : String := s.map upperChar

/-- Whether two lists of characters are equal up to case folding, character by character. -/
def foldEqual : List Char → List Char → Bool
  | [], [] => true
  | a :: as, b :: bs => Unicode.fold a.toNat == Unicode.fold b.toNat && foldEqual as bs
  | _, _ => false

/-- **Case-blind equality**: the same number of characters, each equal to the other's up to case
folding. -/
def equalFold (a b : String) : Bool := foldEqual a.toList b.toList

end QueryKit.Text
