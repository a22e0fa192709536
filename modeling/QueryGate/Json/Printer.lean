import QueryGate.Json.Basic
import QueryGate.Number.Decimal

/-!
# Writing JSON

Values are written on one line in ASCII: every character outside the printable ASCII range is
escaped, by a short form where there is one and by its UTF-16 units otherwise.  A string that is no
text is written unit by unit.  Numbers that are not finite are written as `NaN`, `Infinity` and
`-Infinity`.
-/

namespace QueryGate.Json

open Text

/-- The lower-case hexadecimal digit of a number below 16. -/
def hexDigit (n : Nat) : Char := Nat.digitChar n

/-- A UTF-16 unit as an escape. -/
def escapeUnit (n : Nat) : Text :=
  ['\\', 'u', hexDigit (n / 4096 % 16), hexDigit (n / 256 % 16), hexDigit (n / 16 % 16),
    hexDigit (n % 16)]

/-- A character inside a quoted string. -/
def escapeChar (c : Char) : Text :=
  match c with
  | '"' => "\\\"".toList
  | '\\' => "\\\\".toList
  | '\n' => "\\n".toList
  | '\r' => "\\r".toList
  | '\t' => "\\t".toList
  | _ =>
    let n := c.toNat
    if n = 0x08 then "\\b".toList
    else if n = 0x0C then "\\f".toList
    else if 0x20 ≤ n ∧ n < 0x7F then [c]
    else if n < 0x10000 then escapeUnit n
    else escapeUnit (0xD800 + (n - 0x10000) / 0x400) ++ escapeUnit (0xDC00 + (n - 0x10000) % 0x400)

/-- A text in quotes. -/
def quote (s : Text) : Text := '"' :: s.flatMap escapeChar ++ ['"']

/-- A UTF-16 unit inside a quoted string: a character of its own, or else an escape. -/
def unitText (unit : UInt16) : Text :=
  let n := unit.toNat
  if n < 0x80 then escapeChar (Char.ofNat n) else escapeUnit n

/-- A string in quotes. -/
def quoteString : JsonString → Text
  | .text s => quote s
  | .broken units => '"' :: units.flatMap unitText ++ ['"']

mutual

/-- The line that stands for a value. -/
def render : Json → Text
  | null => "null".toList
  | bool true => "true".toList
  | bool false => "false".toList
  | int i => Text.ofInt i
  | float x => x.toText
  | string s => quoteString s
  | arr items => '[' :: renderItems items ++ [']']
  | members l => '\x7b' :: renderMembers l ++ ['\x7d']

/-- The items of a list with commas between them. -/
def renderItems : List Json → Text
  | [] => []
  | [v] => render v
  | v :: rest => render v ++ ", ".toList ++ renderItems rest

/-- The members of an object with commas between them. -/
def renderMembers : List (JsonString × Json) → Text
  | [] => []
  | [(k, v)] => quoteString k ++ ": ".toList ++ render v
  | (k, v) :: rest => quoteString k ++ ": ".toList ++ render v ++ ", ".toList ++ renderMembers rest

end

end QueryGate.Json
