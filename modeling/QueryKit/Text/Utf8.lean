/-!
# Decoding UTF-8 leniently

Byte strings become texts octet by octet: a well-formed character (RFC 3629 §4) is taken whole,
and an octet that does not start one becomes U+FFFD on its own, so the next octet starts afresh.

* `charWidth` is the number of octets a leading octet announces, with the bounds of the octet
  after it;
* `decodeLenient` decodes a whole byte string this way.
-/

namespace QueryKit.Text

/-- The number of octets of a character that starts with `a`, and the least and greatest second
octet; nothing for an octet that starts no character. -/
def charWidth (a : Nat) : Option (Nat × Nat × Nat) :=
  if a ≤ 0x7F then some (1, 0, 0)
  else if 0xC2 ≤ a ∧ a ≤ 0xDF then some (2, 0x80, 0xBF)
  else if a == 0xE0 then some (3, 0xA0, 0xBF)
  else if a == 0xED then some (3, 0x80, 0x9F)
  else if 0xE1 ≤ a ∧ a ≤ 0xEF then some (3, 0x80, 0xBF)
  else if a == 0xF0 then some (4, 0x90, 0xBF)
  else if 0xF1 ≤ a ∧ a ≤ 0xF3 then some (4, 0x80, 0xBF)
  else if a == 0xF4 then some (4, 0x80, 0x8F)
  else none

/-- Whether an octet continues a character. -/
def isTail (b : Nat) : Bool := 0x80 ≤ b && b ≤ 0xBF

/-- The code point of a well-formed character at the front, and the octets after it. -/
def decodeChar : List UInt8 → Option (Nat × List UInt8)
  | [] => none
  | a :: rest =>
    match charWidth a.toNat with
    | some (1, _, _) => some (a.toNat, rest)
    | some (2, lo, hi) =>
      match rest with
      | b :: rest => if lo ≤ b.toNat ∧ b.toNat ≤ hi then
          some ((a.toNat % 0x20) * 0x40 + b.toNat % 0x40, rest) else none
      | _ => none
    | some (3, lo, hi) =>
      match rest with
      | b :: c :: rest => if lo ≤ b.toNat ∧ b.toNat ≤ hi ∧ isTail c.toNat then
          some (((a.toNat % 0x10) * 0x40 + b.toNat % 0x40) * 0x40 + c.toNat % 0x40, rest) else none
      | _ => none
    | some (4, lo, hi) =>
      match rest with
      | b :: c :: d :: rest => if lo ≤ b.toNat ∧ b.toNat ≤ hi ∧ isTail c.toNat ∧ isTail d.toNat then
          some ((((a.toNat % 0x08) * 0x40 + b.toNat % 0x40) * 0x40 + c.toNat % 0x40) * 0x40 +
            d.toNat % 0x40, rest) else none
      | _ => none
    | _ => none

/-- Decodes with at most `fuel` characters. -/
def decodeFuel : Nat → List UInt8 → List Char
  | 0, _ => []
  | _, [] => []
  | fuel + 1, a :: rest =>
    match decodeChar (a :: rest) with
    | some (n, more) => Char.ofNat n :: decodeFuel fuel more
    | none => '�' :: decodeFuel fuel rest

/-- **Lenient decoding.** Each octet that starts no well-formed character becomes U+FFFD. -/
def decodeLenient (bytes : List UInt8) : String := String.ofList (decodeFuel bytes.length bytes)

end QueryKit.Text
