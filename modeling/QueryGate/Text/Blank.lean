import QueryGate.Text.Basic

/-!
# Blanks and line breaks

A *blank* is a character of white space in the sense of the Unicode standard, together with the
four ASCII separators U+001C to U+001F.  Trimming removes blanks from the ends of a text, and the
words of a text are its maximal runs of other characters.

Text is cut into lines after a line feed, vertical tab, form feed, carriage return, one of the
separators U+001C to U+001E, the next-line character, or the Unicode line and paragraph
separators; a carriage return followed by a line feed is one break.  A text that ends in a break
has no empty line after it.
-/

namespace QueryGate.Text

/-- The blanks from U+0080 on. -/
def blankRanges : List (Nat × Nat) := [
  (0x85, 0x85), (0xA0, 0xA0), (0x1680, 0x1680), (0x2000, 0x200A), (0x2028, 0x2029),
  (0x202F, 0x202F), (0x205F, 0x205F), (0x3000, 0x3000)]

/-- A character of white space. -/
def isBlank (c : Char) : Bool :=
  if isAscii c then
    (decide (0x09 ≤ c.toNat) && decide (c.toNat ≤ 0x0D)) ||
      (decide (0x1C ≤ c.toNat) && decide (c.toNat ≤ 0x20))
  else inRanges blankRanges c

/-- A text without the blanks at its start. -/
def trimLeft (s : Text) : Text := s.dropWhile isBlank

/-- A text without the characters at its end that satisfy `p`. -/
def dropEndWhile (p : Char → Bool) (s : Text) : Text := (s.reverse.dropWhile p).reverse

/-- A text without the blanks at its end. -/
def trimRight (s : Text) : Text := dropEndWhile isBlank s

/-- A text without the blanks at its ends. -/
def trim (s : Text) : Text := trimRight (trimLeft s)

/-- What follows a non-empty run of blanks, if the text begins with one. -/
def dropBlanks? : Text → Option Text
  | c :: s => if isBlank c then some (trimLeft s) else none
  | [] => none

/-- The word under construction, read backwards, followed by the words of the text. -/
def wordsFrom (word : Text) : Text → List Text
  | [] => if word.isEmpty then [] else [word.reverse]
  | c :: s =>
    if isBlank c then
      if word.isEmpty then wordsFrom [] s else word.reverse :: wordsFrom [] s
    else wordsFrom (c :: word) s

/-- The maximal runs of characters other than blanks. -/
def words (s : Text) : List Text := wordsFrom [] s

/-! ## Lines -/

/-- A character that ends a line. -/
def isLineBreak (c : Char) : Bool :=
  (decide (0x0A ≤ c.toNat) && decide (c.toNat ≤ 0x0D)) ||
    (decide (0x1C ≤ c.toNat) && decide (c.toNat ≤ 0x1E)) ||
    c.toNat == 0x85 || c.toNat == 0x2028 || c.toNat == 0x2029

/-- The lines of a text after `line`, the part of the current line already read, backwards.
`afterReturn` says that the last character read was a carriage return, so that a line feed here
belongs to the same break. -/
def linesFrom (afterReturn : Bool) (line : Text) : Text → List Text
  | [] => if line.isEmpty then [] else [line.reverse]
  | c :: s =>
    if afterReturn && c == '\n' then linesFrom false line s
    else if isLineBreak c then line.reverse :: linesFrom (c == '\r') [] s
    else linesFrom false (c :: line) s

/-- The lines of a text, without their breaks. -/
def lines (s : Text) : List Text := linesFrom false [] s

end QueryGate.Text
