import QueryGate.Text.Utf8

/-!
# The encoding of a text

A text that comes as bytes without a word about its encoding is in UTF-8, UTF-16 or UTF-32.  Which
of them it is shows from the mark that some writers put in front, and otherwise from the zero bytes
among the first four, given that the text begins with two ASCII characters.
-/

namespace QueryGate.Text

/-- An encoding of texts. -/
inductive Encoding where
  | utf8
  | utf16 (bigEndian : Bool)
  | utf32 (bigEndian : Bool)
  deriving DecidableEq, Repr

namespace Encoding

/-- The marks that writers put in front of a text. -/
def marks : List (List UInt8 × Encoding) := [
  ([0x00, 0x00, 0xFE, 0xFF], utf32 true),
  ([0xFF, 0xFE, 0x00, 0x00], utf32 false),
  ([0xFE, 0xFF], utf16 true),
  ([0xFF, 0xFE], utf16 false),
  ([0xEF, 0xBB, 0xBF], utf8)]

/-- The encoding of a text without a mark, by the zero bytes in it. -/
def ofZeros : List UInt8 → Encoding
  | a :: b :: c :: d :: _ =>
    if a = 0 then if b = 0 then utf32 true else utf16 true
    else if b = 0 then if c = 0 ∧ d = 0 then utf32 false else utf16 false
    else utf8
  | [a, b] => if a = 0 then utf16 true else if b = 0 then utf16 false else utf8
  | _ => utf8

/-- The encoding of a text, and its bytes without the mark. -/
def detect (bytes : List UInt8) : Encoding × List UInt8 :=
  match marks.find? fun m => m.1.isPrefixOf bytes with
  | some m => (m.2, bytes.drop m.1.length)
  | none => (ofZeros bytes, bytes)

/-- The number that two bytes stand for. -/
def pair (bigEndian : Bool) (a b : UInt8) : Nat :=
  if bigEndian then a.toNat * 256 + b.toNat else b.toNat * 256 + a.toNat

/-- The numbers that pairs of bytes stand for. -/
def pairs? (bigEndian : Bool) : List UInt8 → Option (List Nat)
  | [] => some []
  | [_] => none
  | a :: b :: rest => (pairs? bigEndian rest).map (pair bigEndian a b :: ·)

/-- The text that UTF-16 units stand for. -/
def ofUnits? : List Nat → Option Text
  | [] => some []
  | [n] => (codePoint? 0 n).map ([·])
  | m :: n :: rest =>
    if 0xD800 ≤ m ∧ m < 0xDC00 ∧ 0xDC00 ≤ n ∧ n < 0xE000 then
      (ofUnits? rest).map (Char.ofNat (0x10000 + (m - 0xD800) * 0x400 + (n - 0xDC00)) :: ·)
    else
      match codePoint? 0 m, ofUnits? (n :: rest) with
      | some c, some s => some (c :: s)
      | _, _ => none

/-- The text that pairs of units stand for, each pair a code point. -/
def ofUnitPairs? (bigEndian : Bool) : List Nat → Option Text
  | [] => some []
  | [_] => none
  | m :: n :: rest =>
    let code := if bigEndian then m * 65536 + n else n * 65536 + m
    match codePoint? 0 code, ofUnitPairs? bigEndian rest with
    | some c, some s => some (c :: s)
    | _, _ => none

/-- The text that bytes stand for, if they are well formed. -/
def decode? : Encoding → List UInt8 → Option Text
  | utf8, bytes => ofUtf8? bytes
  | utf16 bigEndian, bytes => (pairs? bigEndian bytes).bind ofUnits?
  | utf32 bigEndian, bytes => (pairs? bigEndian bytes).bind (ofUnitPairs? bigEndian)

end Encoding

/-- The text that bytes in a detected encoding stand for, if they are well formed. -/
def ofBytes? (bytes : List UInt8) : Option Text :=
  let (encoding, content) := Encoding.detect bytes
  encoding.decode? content

end QueryGate.Text
