import QueryGate.Number.Extended
import QueryGate.Text.Blank
import QueryGate.Text.WordClass

/-!
# Numbers in a database's texts

A text stands for a number if it is one as a whole: blanks, a sign, digits with perhaps a point
among them, and perhaps an exponent.  A number without point and exponent that is not too large is
a whole number.  Every other is a floating point number, computed from the first digits in extended
precision.
-/

namespace QueryGate.Source

open Text

/-- A blank of ASCII. -/
def isAsciiBlank (c : Char) : Bool :=
  c == ' ' || (decide (0x09 ≤ c.toNat) && decide (c.toNat ≤ 0x0D))

/-- The greatest whole number that is stored as one. -/
def maxWhole : Nat := Nat.pow 2 63 - 1

/-- The parts of a number. -/
structure Numeral where
  negative : Bool
  whole : Text
  /-- The digits behind the point, if there is a point. -/
  fraction : Option Text
  /-- The sign and the digits of the exponent, if there is one. -/
  exponent : Option (Bool × Text)
  deriving DecidableEq, Repr

namespace Numeral

/-- The sign in front of a number: whether it is negative, and the rest. -/
def takeSign : Text → Bool × Text
  | '-' :: s => (true, s)
  | '+' :: s => (false, s)
  | s => (false, s)

/-- The digits behind a point, if there is one, and the rest. -/
def takeFraction : Text → Option Text × Text
  | '.' :: s => (some (s.takeWhile isAsciiDigit), s.dropWhile isAsciiDigit)
  | s => (none, s)

/-- The exponent at the start of a text, if there is one, and the rest. -/
def takeExponent : Text → Option (Bool × Text) × Text
  | [] => (none, [])
  | c :: s =>
    if c = 'e' ∨ c = 'E' then
      let signed := takeSign s
      (some (signed.1, signed.2.takeWhile isAsciiDigit), signed.2.dropWhile isAsciiDigit)
    else (none, c :: s)

/-- The parts of the number that a text stands for. -/
def ofText? (s : Text) : Option Numeral :=
  let (negative, s) := takeSign (s.dropWhile isAsciiBlank)
  let whole := s.takeWhile isAsciiDigit
  let (fraction, s) := takeFraction (s.dropWhile isAsciiDigit)
  let (exponent, s) := takeExponent s
  if whole.isEmpty && (fraction.getD []).isEmpty then none
  else if exponent.any fun e => e.2.isEmpty then none
  else if s.all isAsciiBlank then some ⟨negative, whole, fraction, exponent⟩
  else none

/-- The value of a digit. -/
def digit (c : Char) : Nat := c.toNat - '0'.toNat

/-- Significands below this take up one more digit. -/
def fullSignificand : Nat := (maxWhole - 9) / 10

/-- The significand after more digits in front of the point, and how many of them were left out. -/
def addWhole (n : Nat) : Text → Nat × Nat
  | [] => (n, 0)
  | c :: rest =>
    let n := 10 * n + digit c
    if fullSignificand ≤ n then (n, rest.length) else addWhole n rest

/-- The significand after digits behind the point, and how many of them were taken up. -/
def addFraction (n taken : Nat) : Text → Nat × Nat
  | [] => (n, taken)
  | c :: rest =>
    if n < fullSignificand then addFraction (10 * n + digit c) (taken + 1) rest else (n, taken)

/-- The value of an exponent's digits, which stops growing when it is too large to matter. -/
def exponentValue (digits : Text) : Nat :=
  digits.foldl (fun n c => if n < 10000 then 10 * n + digit c else 10000) 0

/-- A significand as large as it can be for its exponent, which is positive. -/
def raise (n : Nat) : Nat → Nat × Nat
  | 0 => (n, 0)
  | e + 1 => if maxWhole / 10 ≤ n then (n, e + 1) else raise (10 * n) e

/-- A significand as small as it can be for its exponent, which is negative. -/
def lower (n : Nat) : Nat → Nat × Nat
  | 0 => (n, 0)
  | e + 1 => if n % 10 = 0 then lower (n / 10) e else (n, e + 1)

/-- The product or quotient of two numbers that are not negative, rounded once. -/
def combine (multiply negative : Bool) : Binary64 → Binary64 → Binary64
  | .finite _ m e, .finite _ m' e' =>
    let a := Binary64.ratio m e
    let b := Binary64.ratio m' e'
    if multiply then .ofRatio negative (a.1 * b.1) (a.2 * b.2)
    else .ofRatio negative (a.1 * b.2) (a.2 * b.1)
  | _, _ => .infinite negative

/-- The number `n * 10 ^ e` or `n / 10 ^ e`, or its negation.  Exponents beyond those of the format
are dealt with in two steps. -/
def scaled (negative multiply : Bool) (n e : Nat) : Binary64 :=
  let apply (power : Nat) : Extended :=
    if multiply then .mul (.ofNat n) (.powerOfTen power) else .div (.ofNat n) (.powerOfTen power)
  if e = 0 then .ofRatio negative n 1
  else if e ≤ 307 then (apply e).toBinary64 negative
  else if e < 342 then
    combine multiply negative ((apply (e - 308)).toBinary64 false) (.ofDecimal false 1 308)
  else if multiply then .infinite negative
  else .finite negative 0 Binary64.minExponent

/-- The floating point number that the parts stand for. -/
def toBinary64 (x : Numeral) : Binary64 :=
  let (n, left) := addWhole 0 x.whole
  let (n, taken) := addFraction n 0 (x.fraction.getD [])
  let given : Int := match x.exponent with
    | some (negative, digits) =>
      let e : Int := exponentValue digits
      if negative then -e else e
    | none => 0
  let e : Int := given + left - taken
  if n = 0 then .finite x.negative 0 Binary64.minExponent
  else if e < 0 then
    let (n, e) := lower n e.natAbs
    scaled x.negative false n e
  else
    let (n, e) := raise n e.natAbs
    scaled x.negative true n e

/-- The whole number that the parts stand for, if they have neither point nor exponent and it is not
too large. -/
def toInt? (x : Numeral) : Option Int :=
  if x.fraction.isSome || x.exponent.isSome then none
  else
    let n := Text.toNat x.whole
    if x.negative then if n ≤ maxWhole + 1 then some (-(n : Int)) else none
    else if n ≤ maxWhole then some n else none

end Numeral

end QueryGate.Source
