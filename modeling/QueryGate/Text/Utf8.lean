import QueryGate.Text.Basic

/-!
# UTF-8

Texts as bytes and back.  Strict decoding refuses stray continuation bytes, truncated and overlong
sequences, surrogates, and values beyond the last code point.  Lenient decoding replaces them: the
longest run of bytes that could begin a character, or else a single byte, counts as one.
-/

namespace QueryGate.Text

/-- A byte whose upper bits say that it continues a character. -/
def continuation (n : Nat) : UInt8 := UInt8.ofNat (0x80 + n % 64)

/-- The bytes of one character. -/
def utf8Char (c : Char) : List UInt8 :=
  let n := c.toNat
  if n < 0x80 then [UInt8.ofNat n]
  else if n < 0x800 then [UInt8.ofNat (0xC0 + n / 64), continuation n]
  else if n < 0x10000 then
    [UInt8.ofNat (0xE0 + n / 4096), continuation (n / 64), continuation n]
  else
    [UInt8.ofNat (0xF0 + n / 262144), continuation (n / 4096), continuation (n / 64),
      continuation n]

/-- The bytes of a text. -/
def toUtf8 (s : Text) : List UInt8 := s.flatMap utf8Char

/-- The low six bits of a continuation byte. -/
def low? (b : UInt8) : Option Nat :=
  if 0x80 ≤ b.toNat ∧ b.toNat < 0xC0 then some (b.toNat - 0x80) else none

/-- The character of a code point not below `least`, which must not be a surrogate. -/
def codePoint? (least n : Nat) : Option Char :=
  if least ≤ n ∧ n < 0x110000 ∧ ¬(0xD800 ≤ n ∧ n < 0xE000) then some (Char.ofNat n) else none

/-- The text that bytes stand for, if they are well formed. -/
def ofUtf8? : List UInt8 → Option Text
  | [] => some []
  | a :: rest =>
    if a.toNat < 0x80 then (ofUtf8? rest).map (Char.ofNat a.toNat :: ·)
    else if a.toNat < 0xC0 then none
    else if a.toNat < 0xE0 then
      match rest with
      | b :: rest =>
        match low? b with
        | some b =>
          match codePoint? 0x80 ((a.toNat - 0xC0) * 64 + b) with
          | some c => (ofUtf8? rest).map (c :: ·)
          | none => none
        | none => none
      | _ => none
    else if a.toNat < 0xF0 then
      match rest with
      | b :: c :: rest =>
        match low? b, low? c with
        | some b, some c =>
          match codePoint? 0x800 (((a.toNat - 0xE0) * 64 + b) * 64 + c) with
          | some d => (ofUtf8? rest).map (d :: ·)
          | none => none
        | _, _ => none
      | _ => none
    else if a.toNat < 0xF8 then
      match rest with
      | b :: c :: d :: rest =>
        match low? b, low? c, low? d with
        | some b, some c, some d =>
          match codePoint? 0x10000 ((((a.toNat - 0xF0) * 64 + b) * 64 + c) * 64 + d) with
          | some e => (ofUtf8? rest).map (e :: ·)
          | none => none
        | _, _, _ => none
      | _ => none
    else none

/-- The character that stands for bytes without meaning. -/
def replacement : Char := Char.ofNat 0xFFFD

/-- How many bytes follow the first byte of a character, and the least and greatest first of
them. -/
def follow? (a : UInt8) : Option (Nat × Nat × Nat) :=
  let n := a.toNat
  if n < 0xC2 then none
  else if n < 0xE0 then some (1, 0x80, 0xBF)
  else if n = 0xE0 then some (2, 0xA0, 0xBF)
  else if n = 0xED then some (2, 0x80, 0x9F)
  else if n < 0xF0 then some (2, 0x80, 0xBF)
  else if n = 0xF0 then some (3, 0x90, 0xBF)
  else if n < 0xF4 then some (3, 0x80, 0xBF)
  else if n = 0xF4 then some (3, 0x80, 0x8F)
  else none

/-- The bytes that continue a character, at most `count` of them, the first of them between `low`
and `high`. -/
def tailOf : Nat → Nat → Nat → List UInt8 → List UInt8
  | 0, _, _, _ => []
  | _ + 1, _, _, [] => []
  | count + 1, low, high, b :: rest =>
    if low ≤ b.toNat ∧ b.toNat ≤ high then b :: tailOf count 0x80 0xBF rest else []

/-- The number of bytes behind a first byte that belong to its character. -/
def tailLength (a : UInt8) (rest : List UInt8) : Nat :=
  match follow? a with
  | some (count, low, high) => (tailOf count low high rest).length
  | none => 0

/-- The character that a run of bytes stands for. -/
def readChar (bytes : List UInt8) : Char :=
  match ofUtf8? bytes with
  | some [c] => c
  | _ => replacement

/-- The text that bytes stand for; `fuel` bounds the number of characters. -/
def readUtf8From : Nat → List UInt8 → Text
  | 0, _ => []
  | _ + 1, [] => []
  | fuel + 1, a :: rest =>
    let n := tailLength a rest
    readChar (a :: rest.take n) :: readUtf8From fuel (rest.drop n)

/-- The text that bytes stand for, in which bytes without meaning are replaced. -/
def readUtf8 (bytes : List UInt8) : Text := readUtf8From bytes.length bytes

end QueryGate.Text
