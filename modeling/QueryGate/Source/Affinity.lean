import QueryGate.Json.Basic
import QueryGate.Source.Numeral
import QueryGate.Text.LetterCase

/-!
# Affinities

The type of a column is any text.  What it mentions gives the column an affinity, the kind of value
that it prefers: a value of another kind is converted when it is stored, if nothing is lost.

The type also gives an estimate of how wide the values of the column are.
-/

namespace QueryGate.Source

open Text

/-- A name for comparison. -/
def foldName (s : Text) : Text := s.map asciiLower

/-- Whether two names are the same but for letter case. -/
def sameName (a b : Text) : Bool := foldName a == foldName b

/-- The kinds of value that a column may prefer. -/
inductive Affinity where
  /-- Values are kept as they are. -/
  | none
  | text
  | integer
  | real
  | numeric
  deriving DecidableEq, Repr

namespace Affinity

/-- Whether a declared type mentions one of some words. -/
def mentions (type : Text) (l : List String) : Bool :=
  l.any fun w => contains w.toList (foldName type)

/-- The affinity of a column of the declared type. -/
def ofType (type : Text) : Affinity :=
  if mentions type ["int"] then integer
  else if mentions type ["char", "clob", "text"] then text
  else if type.isEmpty || mentions type ["blob"] then none
  else if mentions type ["real", "floa", "doub"] then real
  else numeric

/-- A floating point number as a whole number, if it is one and its magnitude is below the greatest
whole number. -/
def wholeIfExact (x : Binary64) : Json :=
  match x with
  | .finite negative m e =>
    let r := Binary64.ratio m e
    if r.1 % r.2 = 0 ∧ r.1 / r.2 < maxWhole then
      let n : Int := (r.1 / r.2 : Nat)
      .int (if negative then -n else n)
    else .float x
  | _ => .float x

/-- A value as a number, if it stands for one: whole if it can be. -/
def toNumber : Json → Json
  | .float x => wholeIfExact x
  | .str s =>
    match Numeral.ofText? s with
    | some x =>
      match x.toInt? with
      | some i => .int i
      | .none => wholeIfExact x.toBinary64
    | .none => .str s
  | v => v

/-- A number as text. -/
def toText : Json → Json
  | .int i => .str (ofInt i)
  | .float x => .ofText? x.toStoredText?
  | v => v

/-- A whole number as a floating point number. -/
def toReal : Json → Json
  | .int i => .float (.ofInt i)
  | v => v

/-- A value as it comes to be stored: truth values are numbers, and what is no number is null. -/
def plain : Json → Json
  | .bool b => .int (if b then 1 else 0)
  | .float .nan => .null
  | v => v

/-- A value as a column of an affinity keeps it. -/
def keep (a : Affinity) (v : Json) : Json :=
  match a with
  | none => plain v
  | text => toText (plain v)
  | real => toReal (toNumber (plain v))
  | integer => toNumber (plain v)
  | numeric => toNumber (plain v)

/-! ## Widths -/

/-- What follows the last place where a word stands in a text. -/
def behindLast? (word : Text) : Text → Option Text
  | [] => .none
  | c :: s => (behindLast? word s).or (dropLead? word (c :: s))

/-- The number at the first digit of a text, unless it is too large; zero for no digit. -/
def firstNumber (s : Text) : Nat :=
  let n := toNat ((s.dropWhile fun c => !isAsciiDigit c).takeWhile isAsciiDigit)
  if n < Nat.pow 2 31 then n else 0

/-- The length of the values that a type states: that behind the word for characters, or at once
behind the word for bytes. -/
def statedLength? (type : Text) : Option Nat :=
  match ofType type with
  | text => (behindLast? "char".toList (foldName type)).map firstNumber
  | none =>
    match splitAtFirst? "blob".toList (foldName type) with
    | some (_, '(' :: s) => some (firstNumber s)
    | _ => .none
  | _ => some 0

/-- The estimated width of a value of the declared type, where that of a number is one. -/
def width (type : Text) : Nat :=
  if type.isEmpty then 1 else min 255 ((statedLength? type).getD 16 / 4 + 1)

end Affinity

end QueryGate.Source
