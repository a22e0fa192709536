import QueryGate.Number.Binary64
import QueryGate.Text.Basic

/-!
# Decimal text of binary numbers

A binary number is written with the fewest digits that read back as the same number; of the
decimals with that many digits, the nearest one.  A fixed number of digits is available too.
Either way the digits are laid out by a `Layout`: positional for moderate exponents, with an
exponent otherwise.
-/

namespace QueryGate

open Text

namespace Decimal

/-- The number of decimal digits of a positive natural number. -/
def digitCount (n : Nat) : Nat := (Nat.toDigits 10 n).length

/-- The exponent of the first digit of a positive ratio: `10 ^ p ≤ num / den < 10 ^ (p + 1)`. -/
def leadingExponent (num den : Nat) : Int :=
  if den ≤ num then (digitCount (num / den) : Int) - 1
  else -(digitCount ((den - 1) / num) : Int)

/-- The ratio times `10 ^ s`, as a ratio. -/
def scaleUp (num den : Nat) (s : Int) : Nat × Nat :=
  if s < 0 then (num, den * Nat.pow 10 s.natAbs) else (num * Nat.pow 10 s.natAbs, den)

/-- Digits of a decimal number `d.ddd * 10 ^ exponent`. -/
structure Digits where
  /-- At least one digit, the first not zero unless it is the only one. -/
  digits : Text
  exponent : Int
  deriving DecidableEq, Repr

/-- The digits of `n * 10 ^ s` without zeros at the end. -/
def Digits.ofScaled (n : Nat) (s : Int) : Digits :=
  let all := Text.ofNat n
  let kept := (all.reverse.dropWhile (· = '0')).reverse
  ⟨if kept.isEmpty then ['0'] else kept, s + all.length - 1⟩

/-- The two neighbours of a ratio among the multiples of `10 ^ s`, the nearer first; of two that
are equally near, the even one. -/
def neighbours (num den : Nat) (s : Int) : List Nat :=
  let scaled := scaleUp num den (-s)
  let q := scaled.1 / scaled.2
  if Binary64.roundDiv scaled.1 scaled.2 = q then [q, q + 1] else [q + 1, q]

/-- The neighbour with `count` digits that satisfies `fits`, or else one with more digits, up to
`fuel` more. -/
def firstFit (fits : Nat → Int → Bool) (num den : Nat) (p : Int) : Nat → Nat → Digits
  | 0, count => .ofScaled ((neighbours num den (p - count)).headD 0) (p - count)
  | fuel + 1, count =>
    let s := p - count
    match (neighbours num den s).find? (fits · s) with
    | some n => .ofScaled n s
    | none => firstFit fits num den p fuel (count + 1)

/-- The fewest digits that read back as the given finite number; every finite number has an exact
decimal expansion of at most 767 digits. -/
def shortest (significand : Nat) (exponent : Int) : Digits :=
  if significand = 0 then ⟨['0'], 0⟩
  else
    let r := Binary64.ratio significand exponent
    let fits n s := Binary64.ofDecimal false n s == .finite false significand exponent
    firstFit fits r.1 r.2 (leadingExponent r.1 r.2) 767 0

/-- The digits of a finite number rounded to `count` digits, ties to even. -/
def rounded (count significand : Nat) (exponent : Int) : Digits :=
  if significand = 0 then ⟨['0'], 0⟩
  else
    let r := Binary64.ratio significand exponent
    let s := leadingExponent r.1 r.2 + 1 - count
    let scaled := scaleUp r.1 r.2 (-s)
    .ofScaled (Binary64.roundDiv scaled.1 scaled.2) s

/-- How digits are laid out. -/
structure Layout where
  /-- The least exponent that is written positionally. -/
  minPositional : Int
  /-- The least exponent above that is not. -/
  endPositional : Int
  /-- Whether a whole number is marked by `.0`. -/
  markWhole : Bool
  /-- Whether a single digit in front of an exponent is marked by `.0`. -/
  markDigit : Bool

/-- A fraction part with its point; none for no digits, unless whole numbers are marked. -/
def fraction (markWhole : Bool) (digits : Text) : Text :=
  if digits.isEmpty then (if markWhole then ".0".toList else []) else '.' :: digits

/-- An exponent with its sign and at least two digits. -/
def exponentText (p : Int) : Text :=
  'e' :: (if p < 0 then '-' else '+') :: padZeros 2 (Text.ofNat p.natAbs)

/-- The text of digits in a layout. -/
def Digits.toText (l : Layout) (d : Digits) : Text :=
  if l.minPositional ≤ d.exponent ∧ d.exponent < l.endPositional then
    if d.exponent < 0 then
      "0.".toList ++ List.replicate (d.exponent.natAbs - 1) '0' ++ d.digits
    else
      let whole := d.exponent.toNat + 1
      d.digits.take whole ++ List.replicate (whole - d.digits.length) '0'
        ++ fraction l.markWhole (d.digits.drop whole)
  else
    d.digits.take 1 ++ fraction l.markDigit (d.digits.drop 1) ++ exponentText d.exponent

/-- Numbers of records and samples: positional from `0.0001` up to below `10 ^ 16`, whole numbers
marked. -/
def recordLayout : Layout := ⟨-4, 16, true, false⟩

/-- Numbers of messages, which have six digits: positional while no digit is invented. -/
def messageLayout : Layout := ⟨-4, 6, false, false⟩

/-- Numbers that a database keeps as text, which have fifteen digits and always a point. -/
def storedLayout : Layout := ⟨-4, 15, true, true⟩

end Decimal

namespace Binary64

/-- The minus sign of a negative number. -/
def signText (negative : Bool) : Text := if negative then ['-'] else []

/-- The shortest text of a number that reads back as the same number. -/
def toText : Binary64 → Text
  | finite negative m e =>
    signText negative ++ (Decimal.shortest m e).toText Decimal.recordLayout
  | infinite negative => signText negative ++ "Infinity".toList
  | nan => "NaN".toList

/-- The text of a number rounded to six digits. -/
def toMessageText : Binary64 → Text
  | finite negative m e =>
    signText negative ++ (Decimal.rounded 6 m e).toText Decimal.messageLayout
  | infinite negative => signText negative ++ "inf".toList
  | nan => "nan".toList

end Binary64

end QueryGate
