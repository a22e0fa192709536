import QueryGate.Json.Limits

/-!
# Reading JSON

A text is read as one value with white space around it.  White space is a space, tab, line feed
or carriage return.  Control characters may not stand in strings.  `NaN`, `Infinity` and
`-Infinity` are numbers, and numbers too large for the floating point format are infinite.

How strictly a text is read is told by a `Reading`.  The first fault on the way through the text
decides how reading fails.
-/

namespace QueryGate.Json

open Text

/-- White space between tokens. -/
def isSpace (c : Char) : Bool := c == ' ' || c == '\t' || c == '\n' || c == '\r'

/-- A text without white space at its start. -/
def skipSpace (s : Text) : Text := s.dropWhile isSpace

/-- The value of a hexadecimal digit. -/
def hexValue? (c : Char) : Option Nat :=
  if '0' ≤ c ∧ c ≤ '9' then some (c.toNat - '0'.toNat)
  else if 'a' ≤ c ∧ c ≤ 'f' then some (c.toNat - 'a'.toNat + 10)
  else if 'A' ≤ c ∧ c ≤ 'F' then some (c.toNat - 'A'.toNat + 10)
  else none

/-- The UTF-16 unit given by four hexadecimal digits, and what follows them. -/
def unit? : Text → Option (Nat × Text)
  | a :: b :: c :: d :: s =>
    match hexValue? a, hexValue? b, hexValue? c, hexValue? d with
    | some a, some b, some c, some d => some (((a * 16 + b) * 16 + c) * 16 + d, s)
    | _, _, _, _ => none
  | _ => none

/-- The first unit of a pair. -/
def isHighUnit (n : Nat) : Bool := decide (0xD800 ≤ n) && decide (n < 0xDC00)

/-- The second unit of a pair. -/
def isLowUnit (n : Nat) : Bool := decide (0xDC00 ≤ n) && decide (n < 0xE000)

/-- The second unit of a pair that follows at once as an escape, and the text behind it. -/
def lowUnit? (s : Text) : Option (Nat × Text) :=
  match (dropLead? "\\u".toList s).bind unit? with
  | some (n, rest) => if isLowUnit n then some (n, rest) else none
  | none => none

/-- How strictly a text is read. -/
structure Reading where
  /-- Whether an escaped unit without its partner is accepted. -/
  unpairedUnits : Bool
  /-- Whether all members of one name are kept; if not, the last gives the value. -/
  keepsRepeated : Bool
  /-- Whether the limit on digits holds for every number, with its sign; if not, it holds for the
  digits of whole numbers. -/
  limitsAllNumbers : Bool
  /-- Whether lists and objects with nothing in them count as standing inside others. -/
  countsEmpty : Bool
  /-- How many lists and objects may stand inside one another. -/
  maxDepth : Nat

/-- Reading that accepts an escaped unit without its partner, and one value for each name, with room
for `depth` lists and objects inside one another. -/
def Reading.lenient (depth : Nat) : Reading := ⟨true, false, false, true, depth⟩

/-- Reading that refuses an escaped unit without its partner, and keeps every member. -/
def Reading.strict : Reading := ⟨false, true, true, false, 200⟩

/-- A part of a quoted string. -/
inductive StringPart where
  | char (c : Char)
  /-- A unit without its partner. -/
  | unit (n : UInt16)

/-- The UTF-16 units of a part. -/
def StringPart.units : StringPart → List UInt16
  | char c =>
    let n := c.toNat
    if n < 0x10000 then [UInt16.ofNat n]
    else [UInt16.ofNat (0xD800 + (n - 0x10000) / 0x400),
      UInt16.ofNat (0xDC00 + (n - 0x10000) % 0x400)]
  | unit n => [n]

/-- The text that some parts make up, if no unit stands alone. -/
def textOfParts? : List StringPart → Option Text
  | [] => some []
  | .char c :: rest => (textOfParts? rest).map (c :: ·)
  | .unit _ :: _ => none

/-- The string that some parts make up. -/
def stringOfParts (l : List StringPart) : JsonString :=
  match textOfParts? l with
  | some s => .text s
  | none => .broken (l.flatMap (·.units))

/-- The part that a `\u` escape stands for, given the text behind the `u`. -/
def unicodeEscape? (r : Reading) (s : Text) : Option (StringPart × Text) :=
  match unit? s with
  | none => none
  | some (n, rest) =>
    -- half of a pair without its other half
    let lone := if r.unpairedUnits then some (.unit (UInt16.ofNat n), rest) else none
    if isHighUnit n then
      match lowUnit? rest with
      | some (m, rest') =>
        some (.char (Char.ofNat (0x10000 + (n - 0xD800) * 0x400 + (m - 0xDC00))), rest')
      | none => lone
    else if isLowUnit n then lone
    else some (.char (Char.ofNat n), rest)

/-- The part that an escape stands for, given the text behind the backslash. -/
def escape? (r : Reading) : Text → Option (StringPart × Text)
  | '"' :: s => some (.char '"', s)
  | '\\' :: s => some (.char '\\', s)
  | '/' :: s => some (.char '/', s)
  | 'b' :: s => some (.char (Char.ofNat 0x08), s)
  | 'f' :: s => some (.char (Char.ofNat 0x0C), s)
  | 'n' :: s => some (.char '\n', s)
  | 'r' :: s => some (.char '\r', s)
  | 't' :: s => some (.char '\t', s)
  | 'u' :: s => unicodeEscape? r s
  | _ => none

/-- The rest of a quoted string, given what has been read of it, backwards, and the text behind.
Each step shortens the text, so its length bounds the number of steps. -/
def stringFrom? (r : Reading) : Nat → List StringPart → Text → Option (JsonString × Text)
  | 0, _, _ => none
  | _ + 1, _, [] => none
  | fuel + 1, read, c :: s =>
    if c = '"' then some (stringOfParts read.reverse, s)
    else if c = '\\' then
      match escape? r s with
      | some (part, rest) => stringFrom? r fuel (part :: read) rest
      | none => none
    else if c.toNat < 0x20 then none
    else stringFrom? r fuel (.char c :: read) s

/-- The string behind an opening quote. -/
def string? (r : Reading) (s : Text) : Option (JsonString × Text) :=
  stringFrom? r (s.length + 1) [] s

/-- An ASCII digit. -/
def isDecimal (c : Char) : Bool := decide ('0' ≤ c) && decide (c ≤ '9')

/-- A non-empty run of digits and what follows it. -/
def digits? (s : Text) : Option (Text × Text) :=
  match s.takeWhile isDecimal with
  | [] => none
  | ds => some (ds, s.dropWhile isDecimal)

/-- The digits before the point: a single zero, or no zero in front. -/
def whole? : Text → Option (Text × Text)
  | '0' :: s => some (['0'], s)
  | s => digits? s

/-- The digits of a fraction; none are there if no digit follows the point. -/
def fractionOf (s : Text) : Text × Text :=
  match s with
  | '.' :: rest => (digits? rest).getD ([], s)
  | _ => ([], s)

/-- The sign in front of an exponent's digits. -/
def exponentSign : Text → Bool × Text
  | '-' :: s => (true, s)
  | '+' :: s => (false, s)
  | s => (false, s)

/-- An exponent; none is there if no digit follows its letter. -/
def exponentOf? : Text → Option (Int × Text)
  | c :: s =>
    if c = 'e' ∨ c = 'E' then
      let signed := exponentSign s
      (digits? signed.2).map fun p =>
        let n : Int := Text.toNat p.1
        (if signed.1 then -n else n, p.2)
    else none
  | [] => none

/-- A number without its sign: whole if it has neither a fraction nor an exponent. -/
def readNumber (r : Reading) (negative : Bool) (s : Text) : Except TextFault (Json × Text) :=
  match whole? s with
  | none => .error .malformed
  | some (whole, rest) =>
    -- where all numbers are limited, the sign counts too
    let length := whole.length + if r.limitsAllNumbers && negative then 1 else 0
    let (frac, rest') := fractionOf rest
    let exponent := exponentOf? rest'
    let isWhole := frac.isEmpty && exponent.isNone
    if maxDigits < length && (isWhole || r.limitsAllNumbers) then .error .tooManyDigits
    else if isWhole then
      let n : Int := Text.toNat whole
      .ok (int (if negative then -n else n), rest')
    else
      let (e, rest'') := exponent.getD (0, rest')
      .ok (float (.ofDecimal negative (Text.toNat (whole ++ frac)) (e - frac.length)), rest'')

/-- A value that is one word. -/
def word? (s : Text) : Option (Json × Text) :=
  [("null", null), ("true", bool true), ("false", bool false), ("NaN", float .nan),
    ("Infinity", float (.infinite false)), ("-Infinity", float (.infinite true))].findSome?
    fun w => (dropLead? w.1.toList s).map fun rest => (w.2, rest)

/-- What is read, or a fault. -/
def orMalformed {α : Type} : Option α → Except TextFault α
  | some a => .ok a
  | none => .error .malformed

/-- A value that is no list and no object. -/
def readScalar (r : Reading) (s : Text) : Except TextFault (Json × Text) :=
  match s with
  | '"' :: rest => (orMalformed (string? r rest)).map fun p => (string p.1, p.2)
  | _ =>
    match word? s with
    | some found => .ok found
    | none =>
      match s with
      | '-' :: rest => readNumber r true rest
      | _ => readNumber r false s

/-- The members read so far with one more. -/
def addMember (r : Reading) (name : JsonString) (value : Json) (l : List (JsonString × Json)) :
    List (JsonString × Json) :=
  if r.keepsRepeated then l ++ [(name, value)] else OrderedMap.insertInto name value l

mutual

/-- The value at the start of a text without leading white space, and what follows it; `depth`
more lists and objects may stand inside one another. -/
def readValue (r : Reading) : Nat → Nat → Text → Except TextFault (Json × Text)
  | 0, _, _ => .error .malformed
  | fuel + 1, depth, s =>
    match s with
    | '[' :: rest =>
      if r.countsEmpty && depth == 0 then .error .tooDeep
      else match skipSpace rest, depth with
        | ']' :: rest', _ => .ok (arr [], rest')
        | _, 0 => .error .tooDeep
        | rest', depth + 1 => (readItems r fuel depth rest').map fun p => (arr p.1, p.2)
    | '\x7b' :: rest =>
      if r.countsEmpty && depth == 0 then .error .tooDeep
      else match skipSpace rest, depth with
        | '\x7d' :: rest', _ => .ok (members [], rest')
        | _, 0 => .error .tooDeep
        | rest', depth + 1 => (readMembers r fuel depth [] rest').map fun p => (members p.1, p.2)
    | _ => readScalar r s

/-- The items of a list up to its end. -/
def readItems (r : Reading) : Nat → Nat → Text → Except TextFault (List Json × Text)
  | 0, _, _ => .error .malformed
  | fuel + 1, depth, s =>
    match readValue r fuel depth s with
    | .error fault => .error fault
    | .ok (v, rest) =>
      match skipSpace rest with
      | ',' :: rest' => (readItems r fuel depth (skipSpace rest')).map fun p => (v :: p.1, p.2)
      | ']' :: rest' => .ok ([v], rest')
      | _ => .error .malformed

/-- The members of an object up to its end, added to those already read. -/
def readMembers (r : Reading) :
    Nat → Nat → List (JsonString × Json) → Text → Except TextFault (List (JsonString × Json) × Text)
  | 0, _, _, _ => .error .malformed
  | fuel + 1, depth, read, s =>
    match s with
    | '"' :: rest =>
      match string? r rest with
      | none => .error .malformed
      | some (k, rest) =>
        match skipSpace rest with
        | ':' :: rest =>
          match readValue r fuel depth (skipSpace rest) with
          | .error fault => .error fault
          | .ok (v, rest) =>
            match skipSpace rest with
            | ',' :: rest => readMembers r fuel depth (addMember r k v read) (skipSpace rest)
            | '\x7d' :: rest => .ok (addMember r k v read, rest)
            | _ => .error .malformed
        | _ => .error .malformed
    | _ => .error .malformed

end

/-- The value that a text stands for.  A list or object takes two steps, one for its first character
and one for what stands behind it, and every other step takes a character of its own; so twice the
length of the text bounds the depth of the recursion. -/
def parse (r : Reading) (s : Text) : Except TextFault Json :=
  match readValue r (2 * s.length + 1) r.maxDepth (skipSpace s) with
  | .error fault => .error fault
  | .ok (v, rest) => if (skipSpace rest).isEmpty then .ok v else .error .malformed

end QueryGate.Json
